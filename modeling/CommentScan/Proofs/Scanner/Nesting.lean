import CommentScan.Proofs.Scanner.Granularity

/-!
# The nesting follows from the tokens

How many comments are open, and of which sort the outermost one is, can be told
from the tokens alone: a token of a block or doc comment that is `/*` or `/**`
opens a comment, one that is `*/` closes a comment, and no other token has an
effect.  It takes that no other piece ever has the characters of a marker, and
that each role is read in one mode only.

`TracksNesting` is what one token says, and `Piece.tracksNesting` proves it for
every piece.  Counting over a scan gives the depth behind it, and following a
scan from an opener to its closer gives the kind of all tokens in between.
-/

namespace CommentScan

namespace Reading

/-- Whether a token opens a comment. -/
def isOpener (reading : Reading) : Bool :=
  reading.isNested &&
    (reading.text = ['/', '*'] || reading.text = ['/', '*', '*'])

/-- Whether a token closes a comment. -/
def isCloser (reading : Reading) : Bool :=
  reading.isNested && reading.text = ['*', '/']

/--
What a token says of the nesting in front of it and behind it.  The depth
changes at openers and closers only, and a closer has something to close.  The
sort of comment changes only where an outermost comment is opened.  Inside a
comment every token has the kind of the outermost one, and outside a token is
plain content, a line comment, an empty comment or the opener of a comment.
-/
structure TracksNesting (before : Nesting) (reading : Reading) : Prop where
  opener :
    reading.isOpener → reading.state.nesting.depth = before.depth + 1
  closer :
    reading.isCloser →
      1 ≤ before.depth ∧ reading.state.nesting.depth = before.depth - 1
  other :
    ¬ reading.isOpener → ¬ reading.isCloser →
      reading.state.nesting.depth = before.depth
  sortKept :
    reading.state.nesting.kind ≠ before.kind →
      before.depth = 0 ∧ reading.state.nesting.depth = 1
  sortSet :
    before.depth = 0 → reading.state.nesting.depth = 1 →
      reading.text = ['/', '*', '*'] ∧ reading.state.nesting.kind = .doc ∨
        reading.text = ['/', '*'] ∧ reading.state.nesting.kind = .block
  inside :
    1 ≤ before.depth → reading.token.kind = before.kind.tokenKind
  outside :
    before.depth = 0 →
      reading.token.kind = .plainContent ∨
        reading.token.kind = .lineComment ∨
        (reading.token.kind = .blockComment ∧
          reading.text = ['/', '*', '*', '/']) ∨
        (reading.isOpener ∧
          reading.token.kind = reading.state.nesting.kind.tokenKind)

/-- A token that neither opens nor closes a comment keeps the nesting. -/
theorem TracksNesting.keeps {before : Nesting} {reading : Reading}
    (tracks : TracksNesting before reading) (noOpener : ¬ reading.isOpener)
    (noCloser : ¬ reading.isCloser) : reading.state.nesting = before := by
  have depth := tracks.other noOpener noCloser
  have kind : reading.state.nesting.kind = before.kind := by
    by_contra differs
    rcases tracks.sortKept differs with ⟨closed, opened⟩
    omega
  rcases before with ⟨beforeDepth, beforeKind⟩
  rcases reading with ⟨token, text, position, behind, behindKind⟩
  cases depth
  cases kind
  rfl

/-- A token that opens or closes a comment does not keep the nesting. -/
theorem TracksNesting.changes {before : Nesting} {reading : Reading}
    (tracks : TracksNesting before reading)
    (marks : reading.isOpener ∨ reading.isCloser) :
    reading.state.nesting ≠ before := by
  intro same
  have depth := congrArg Nesting.depth same
  rcases marks with isOpener | isCloser
  · have deeper := tracks.opener isOpener
    omega
  · have shallower := tracks.closer isCloser
    omega

/-- The kind and the characters of a token tell whether it is a marker. -/
theorem isMarker_congr {left right : Reading}
    (kind : left.token.kind = right.token.kind)
    (text : left.text = right.text) :
    (left.isOpener ∨ left.isCloser) ↔ (right.isOpener ∨ right.isCloser) := by
  simp only [isOpener, isCloser, isNested, kind, text]

/-- An opener or a closer is a marker, and not that of an empty comment. -/
theorem text_of_isMarker {reading : Reading}
    (marks : reading.isOpener ∨ reading.isCloser) :
    reading.isNested ∧ reading.text ∈ Text.markers ∧
      reading.text ≠ ['/', '*', '*', '/'] := by
  simp only [isOpener, isCloser, Bool.and_eq_true, Bool.or_eq_true,
    decide_eq_true_eq, ← and_or_left] at marks
  rcases marks with ⟨nested, (text | text) | text⟩ <;>
    · rw [text]
      exact ⟨nested, by decide, by decide⟩

theorem not_isMarker {reading : Reading}
    (sort :
      reading.isPlain ∨ reading.isBody ∨
        reading.token.kind = .lineComment ∨
        reading.text = ['/', '*', '*', '/']) :
    ¬ (reading.isOpener ∨ reading.isCloser) := by
  intro marks
  rcases text_of_isMarker marks with ⟨nested, listed, notEmpty⟩
  rcases sort with plain | body | line | empty
  · rw [isPlain, decide_eq_true_eq] at plain
    simp [isNested, plain] at nested
  · simp [isBody, listed] at body
  · simp [isNested, line] at nested
  · exact notEmpty empty

end Reading

namespace Piece

open Reading

variable {granularity : Granularity} {before : Nesting} {text : Text}
  {piece : Piece}

theorem exists_role (found : first? granularity before text = some piece) :
    piece.role.mode = before.mode ∧
      piece.nesting = piece.role.apply before := by
  rcases Option.map_eq_some_iff.mp found with ⟨lexeme, longest, rfl⟩
  exact ⟨Lexeme.mode_eq_of_longest? longest, rfl⟩

/-- In a comment only the pieces that are a marker look like one. -/
theorem isNested_and_text_eq_iff (shaped : piece.IsShaped) (marker : Text)
    (listed : marker ∈ Text.markers) (position : Nat) :
    (piece.readingAt position).isNested = true ∧ piece.text = marker ↔
      piece.role.marker? = some marker := by
  rw [isNested_readingAt]
  constructor
  · rintro ⟨⟨notPlain, notLine⟩, rfl⟩
    rcases Role.eq_commentBody_or_marker notPlain notLine with
      body | ⟨marker, marked⟩
    · exact absurd listed (shaped.body body)
    · rw [shaped.marker marker marked]
      exact marked
  · intro marked
    refine ⟨⟨?_, ?_⟩, shaped.marker marker marked⟩ <;>
      · intro role
        rw [role] at marked
        cases marked

theorem isOpener_readingAt (shaped : piece.IsShaped) (position : Nat) :
    (piece.readingAt position).isOpener = true ↔
      piece.role = .nestedOpener ∨ ∃ kind, piece.role = .opener kind := by
  have short :=
    isNested_and_text_eq_iff shaped ['/', '*'] (by decide) position
  have long :=
    isNested_and_text_eq_iff shaped ['/', '*', '*'] (by decide) position
  rw [Reading.isOpener, Bool.and_eq_true, Bool.or_eq_true,
    decide_eq_true_eq, decide_eq_true_eq, and_or_left]
  refine (or_congr short long).trans ?_
  cases piece.role with
  | opener kind => cases kind <;> simp [Role.marker?]
  | _ => simp [Role.marker?]

theorem isCloser_readingAt (shaped : piece.IsShaped) (position : Nat) :
    (piece.readingAt position).isCloser = true ↔
      piece.role = .closer := by
  rw [Reading.isCloser, Bool.and_eq_true, decide_eq_true_eq]
  refine (isNested_and_text_eq_iff shaped _ (by decide) position).trans ?_
  cases piece.role with
  | opener kind => cases kind <;> simp [Role.marker?]
  | _ => simp [Role.marker?]

/-- A role that is read outside comments is read where none is open. -/
theorem depth_eq_zero (found : first? granularity before text = some piece)
    (outside : piece.role.mode = .outside) : before.depth = 0 := by
  rw [← Nesting.mode_eq_outside_iff, ← (exists_role found).1, outside]

/-- A role that is read inside comments is read where one is open. -/
theorem one_le_depth (found : first? granularity before text = some piece)
    (inside : piece.role.mode = .inside) : 1 ≤ before.depth := by
  rw [Nat.one_le_iff_ne_zero, Ne, ← Nesting.mode_eq_outside_iff,
    ← (exists_role found).1, inside]
  decide

/-- Every piece says of the nesting what it does to it. -/
theorem tracksNesting
    (found : first? granularity before text = some piece)
    (position : Nat) :
    TracksNesting before (piece.readingAt position) := by
  have shaped := isShaped_of_first? found
  have behind := (exists_role found).2
  have closed := depth_eq_zero found
  have opened := one_le_depth found
  rcases piece with ⟨role, characters, nesting⟩
  simp only at behind closed opened
  subst behind
  constructor
  case opener =>
    intro isOpener
    rcases (isOpener_readingAt shaped position).mp isOpener with
      rfl | ⟨kind, rfl⟩
    · rfl
    · rw [closed rfl]
      rfl
  case closer =>
    intro isCloser
    rcases (isCloser_readingAt shaped position).mp isCloser with rfl
    exact ⟨opened rfl, rfl⟩
  case other =>
    intro noOpener noCloser
    rw [isOpener_readingAt shaped] at noOpener
    rw [isCloser_readingAt shaped] at noCloser
    cases role with
    | opener kind => exact absurd (Or.inr ⟨kind, rfl⟩) noOpener
    | nestedOpener => exact absurd (Or.inl rfl) noOpener
    | closer => exact absurd rfl noCloser
    | plain | lineComment | emptyComment | commentBody => rfl
  case sortKept =>
    intro differs
    cases role with
    | opener kind => exact ⟨closed rfl, rfl⟩
    | _ => exact absurd rfl differs
  case sortSet =>
    intro isClosed isOpened
    cases role with
    | opener kind =>
        cases kind with
        | block => exact Or.inr ⟨shaped.marker _ rfl, rfl⟩
        | doc => exact Or.inl ⟨shaped.marker _ rfl, rfl⟩
    | plain | lineComment | emptyComment =>
        have same : before.depth = 1 := isOpened
        rw [isClosed] at same
        cases same
    | nestedOpener | closer | commentBody =>
        have positive := opened rfl
        rw [isClosed] at positive
        cases positive
  case inside =>
    intro isOpen
    cases role with
    | nestedOpener | closer | commentBody => rfl
    | plain | lineComment | emptyComment | opener =>
        rw [closed rfl] at isOpen
        cases isOpen
  case outside =>
    intro isClosed
    cases role with
    | plain => exact Or.inl rfl
    | lineComment => exact Or.inr (Or.inl rfl)
    | emptyComment =>
        exact Or.inr (Or.inr (Or.inl ⟨rfl, shaped.marker _ rfl⟩))
    | opener kind =>
        refine Or.inr (Or.inr (Or.inr ⟨?_, rfl⟩))
        rw [isOpener_readingAt shaped]
        exact Or.inr ⟨kind, rfl⟩
    | nestedOpener | closer | commentBody =>
        have positive := opened rfl
        rw [isClosed] at positive
        cases positive

end Piece

/-! ## The nesting along a scan -/

open Reading

/-- Each of some tokens, one after another, says what the nesting does. -/
def AllTrack : Nesting → List Reading → Prop
  | _, [] => True
  | before, reading :: rest =>
      TracksNesting before reading ∧ AllTrack reading.state.nesting rest

theorem allTrack_scan (granularity : Granularity) (state : ScanState)
    (text : Text) :
    AllTrack state.nesting (scan granularity state text) := by
  induction state, text using scan_induction granularity with
  | nil state =>
      rw [scan_nil]
      trivial
  | step state piece rest found nonempty inductionHypothesis =>
      rw [scan_of_first? found]
      exact ⟨Piece.tracksNesting found state.position, inductionHypothesis⟩

/-- No token is an opener and a closer. -/
theorem Reading.not_isCloser_of_isOpener {reading : Reading}
    (isOpener : reading.isOpener) : ¬ reading.isCloser := by
  intro isCloser
  rw [Reading.isOpener, Bool.and_eq_true, Bool.or_eq_true,
    decide_eq_true_eq, decide_eq_true_eq] at isOpener
  rw [Reading.isCloser, Bool.and_eq_true, decide_eq_true_eq] at isCloser
  rw [isCloser.2] at isOpener
  exact absurd isOpener.2 (by decide)

/-- The depth behind some tokens counts their openers and closers. -/
theorem AllTrack.depth {state : ScanState} {list : List Reading}
    (track : AllTrack state.nesting list) :
    (stateBehind state list).nesting.depth + list.countP isCloser =
      state.nesting.depth + list.countP isOpener := by
  induction list generalizing state with
  | nil => rfl
  | cons reading rest inductionHypothesis =>
      rcases track with ⟨first, later⟩
      have behind := inductionHypothesis later
      rw [stateBehind, List.countP_cons, List.countP_cons]
      by_cases isOpener : reading.isOpener
      · have noCloser := not_isCloser_of_isOpener isOpener
        have deeper := first.opener isOpener
        rw [if_pos isOpener, if_neg noCloser]
        omega
      · rw [if_neg isOpener]
        by_cases isCloser : reading.isCloser
        · have shallower := first.closer isCloser
          rw [if_pos isCloser]
          omega
        · have same := first.other isOpener isCloser
          rw [if_neg isCloser]
          omega

/-- The tokens up to the first one behind which no comment is open. -/
def throughClose : List Reading → List Reading
  | [] => []
  | reading :: rest =>
      if reading.state.nesting.depth = 0 then
        [reading]
      else
        reading :: throughClose rest

theorem throughClose_of_closed {reading : Reading}
    (closed : reading.state.nesting.depth = 0) (rest : List Reading) :
    throughClose (reading :: rest) = [reading] :=
  if_pos closed

theorem throughClose_of_open {reading : Reading}
    (isOpen : reading.state.nesting.depth ≠ 0) (rest : List Reading) :
    throughClose (reading :: rest) = reading :: throughClose rest :=
  if_neg isOpen

theorem mem_throughClose_cons {reading first : Reading}
    {rest : List Reading}
    (member : reading ∈ throughClose (first :: rest)) :
    reading = first ∨
      first.state.nesting.depth ≠ 0 ∧ reading ∈ throughClose rest := by
  rw [throughClose] at member
  split at member
  · exact Or.inl (List.mem_singleton.mp member)
  · rename_i isOpen
    exact (List.mem_cons.mp member).imp_right (⟨isOpen, ·⟩)

/-- Tokens behind which a comment is open stand in front of its end. -/
theorem throughClose_append {front : List Reading}
    (isOpen : ∀ reading ∈ front, reading.state.nesting.depth ≠ 0)
    (back : List Reading) :
    throughClose (front ++ back) = front ++ throughClose back := by
  induction front with
  | nil => rfl
  | cons reading rest inductionHypothesis =>
      rcases List.forall_mem_cons.mp isOpen with ⟨first, later⟩
      rw [List.cons_append, throughClose_of_open first,
        inductionHypothesis later, List.cons_append]

theorem head?_throughClose (list : List Reading) :
    (throughClose list).head? = list.head? := by
  cases list with
  | nil => rfl
  | cons reading rest =>
      rw [throughClose]
      split <;> rfl

/-- Tokens that do not close a comment all stand in front of its end. -/
theorem throughClose_eq_self {list : List Reading}
    (isOpen :
      ∀ reading ∈ throughClose list, reading.state.nesting.depth ≠ 0) :
    throughClose list = list := by
  induction list with
  | nil => rfl
  | cons reading rest inductionHypothesis =>
      by_cases closed : reading.state.nesting.depth = 0
      · rw [throughClose_of_closed closed] at isOpen
        exact absurd closed (isOpen reading List.mem_cons_self)
      · rw [throughClose_of_open closed] at isOpen ⊢
        rw [inductionHypothesis (List.forall_mem_cons.mp isOpen).2]

/-- Up to its closer all tokens of a comment are of one kind. -/
theorem AllTrack.kind_throughClose {before : Nesting}
    {list : List Reading} (track : AllTrack before list)
    (isOpen : 1 ≤ before.depth) :
    ∀ reading ∈ throughClose list,
      reading.token.kind = before.kind.tokenKind := by
  induction list generalizing before with
  | nil => simp [throughClose]
  | cons first rest inductionHypothesis =>
      rcases track with ⟨firstTracks, later⟩
      have firstKind := firstTracks.inside isOpen
      intro reading member
      rcases mem_throughClose_cons member with rfl | ⟨stillOpen, inRest⟩
      · exact firstKind
      · have sort : first.state.nesting.kind = before.kind := by
          by_contra differs
          have closed := (firstTracks.sortKept differs).1
          omega
        rw [← sort]
        exact
          inductionHypothesis later (Nat.one_le_iff_ne_zero.mpr stillOpen)
            reading inRest

namespace Scanner

end Scanner

end CommentScan
