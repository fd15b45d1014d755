import CommentScan.Proofs.Comment.Body
import CommentScan.Proofs.Scanner.Nesting

/-!
# Walking through nested comments

The plainest way to find the end of a comment is to walk through its text one
place at a time and to count: `/*` opens a comment, `*/` closes one, and any
other character is passed over.  `walk` does that, with no automaton, no
literals and no lines.

A scanner placed inside a comment reads what the walk finds.  Lexeme by lexeme
its tokens are the marks of the walk, up to the one behind which no comment is
open, and merged they are the marks with the characters between two markers
joined.  `Scanner.resume_matchesWalk` states it for every window and depth.
-/

namespace CommentScan

/-- What a walk finds at a place, and how many comments are open behind it. -/
structure Mark where
  text : Text
  depth : Nat
  deriving DecidableEq, Repr

/--
Walk through a text in which some comments are open, up to its end or to the
place where none is open any more.
-/
def walk : Nat → Text → List Mark
  | 0, _ => []
  | _ + 1, [] => []
  | depth + 1, '/' :: '*' :: rest =>
      ⟨['/', '*'], depth + 2⟩ :: walk (depth + 2) rest
  | depth + 1, '*' :: '/' :: rest => ⟨['*', '/'], depth⟩ :: walk depth rest
  | depth + 1, character :: rest =>
      ⟨[character], depth + 1⟩ :: walk (depth + 1) rest

@[simp]
theorem walk_zero (text : Text) : walk 0 text = [] := by
  rw [walk]

@[simp]
theorem walk_nil (depth : Nat) : walk depth [] = [] := by
  cases depth <;> rfl

theorem walk_opener (depth : Nat) (rest : Text) :
    walk (depth + 1) ('/' :: '*' :: rest) =
      ⟨['/', '*'], depth + 2⟩ :: walk (depth + 2) rest := by
  rw [walk]

theorem walk_closer (depth : Nat) (rest : Text) :
    walk (depth + 1) ('*' :: '/' :: rest) =
      ⟨['*', '/'], depth⟩ :: walk depth rest := by
  rw [walk]

theorem walk_character (depth : Nat) {character : Char} {rest : Text}
    (unmarked : ¬ Text.StartsMarker (character :: rest)) :
    walk (depth + 1) (character :: rest) =
      ⟨[character], depth + 1⟩ :: walk (depth + 1) rest := by
  rw [walk]
  · rintro more rfl rfl
    exact unmarked (Or.inl ⟨more, rfl⟩)
  · rintro more rfl rfl
    exact unmarked (Or.inr ⟨more, rfl⟩)

/-- Induction along a walk, with a single step for all other characters. -/
theorem walk_induction {motive : Nat → Text → Prop}
    (closed : ∀ text, motive 0 text) (finished : ∀ depth, motive depth [])
    (opener : ∀ depth rest,
      motive (depth + 2) rest → motive (depth + 1) ('/' :: '*' :: rest))
    (closer : ∀ depth rest,
      motive depth rest → motive (depth + 1) ('*' :: '/' :: rest))
    (character : ∀ depth character rest,
      ¬ Text.StartsMarker (character :: rest) →
        motive (depth + 1) rest → motive (depth + 1) (character :: rest))
    (depth : Nat) (text : Text) : motive depth text := by
  fun_induction walk depth text with
  | case1 text => exact closed text
  | case2 depth => exact finished (depth + 1)
  | case3 depth rest inductionHypothesis =>
      exact opener depth rest inductionHypothesis
  | case4 depth rest inductionHypothesis =>
      exact closer depth rest inductionHypothesis
  | case5 depth first rest noOpener noCloser inductionHypothesis =>
      refine character depth first rest ?_ inductionHypothesis
      rintro (⟨more, whole⟩ | ⟨more, whole⟩)
      · cases whole
        exact noOpener more rfl rfl
      · cases whole
        exact noCloser more rfl rfl

namespace Mark

/-- How many comments are open behind some marks. -/
def depthBehind : Nat → List Mark → Nat
  | depth, [] => depth
  | _, mark :: rest => depthBehind mark.depth rest

/-- A mark with its characters replaced. -/
def map (rename : Char → Char) (mark : Mark) : Mark :=
  ⟨mark.text.map rename, mark.depth⟩

/-- A mark as a token of a comment. -/
def readingAt (kind : CommentKind) (position : Nat) (mark : Mark) :
    Reading :=
  let stop := position + Text.byteLength mark.text
  ⟨⟨kind.tokenKind, ⟨position, stop⟩⟩, mark.text,
    ⟨stop, ⟨mark.depth, kind⟩⟩⟩

/-- Some marks as tokens, one behind the other from a position on. -/
def readingsAt (kind : CommentKind) : Nat → List Mark → List Reading
  | _, [] => []
  | position, mark :: rest =>
      mark.readingAt kind position ::
        readingsAt kind (position + Text.byteLength mark.text) rest

theorem nesting_stateBehind_readingsAt (kind : CommentKind)
    (position depth : Nat) (marks : List Mark) :
    (stateBehind ⟨position, ⟨depth, kind⟩⟩
        (readingsAt kind position marks)).nesting =
      ⟨depthBehind depth marks, kind⟩ := by
  induction marks generalizing position depth with
  | nil => rfl
  | cons mark rest inductionHypothesis =>
      exact inductionHypothesis _ mark.depth

theorem depthBehind_ne_zero {depth : Nat} {marks : List Mark}
    (isOpen : 1 ≤ depth) (stillOpen : ∀ mark ∈ marks, mark.depth ≠ 0) :
    depthBehind depth marks ≠ 0 := by
  induction marks generalizing depth with
  | nil => exact Nat.one_le_iff_ne_zero.mp isOpen
  | cons mark rest inductionHypothesis =>
      rcases List.forall_mem_cons.mp stillOpen with ⟨first, later⟩
      exact inductionHypothesis (Nat.one_le_iff_ne_zero.mpr first) later

theorem depth_of_mem_readingsAt {kind : CommentKind} {position : Nat}
    {marks : List Mark} {reading : Reading}
    (member : reading ∈ readingsAt kind position marks) :
    ∃ mark ∈ marks, reading.state.nesting.depth = mark.depth := by
  induction marks generalizing position with
  | nil => cases member
  | cons mark rest inductionHypothesis =>
      rcases List.mem_cons.mp member with rfl | later
      · exact ⟨mark, List.mem_cons_self, rfl⟩
      · rcases inductionHypothesis later with ⟨other, listed, depth⟩
        exact ⟨other, List.mem_cons_of_mem mark listed, depth⟩

end Mark

/-- Only slashes and stars lead a walk, whatever the other characters are. -/
theorem walk_map {rename : Char → Char}
    (slash : ∀ character, rename character = '/' ↔ character = '/')
    (star : ∀ character, rename character = '*' ↔ character = '*')
    (depth : Nat) (text : Text) :
    walk depth (text.map rename) =
      (walk depth text).map (Mark.map rename) := by
  have slashKept : rename '/' = '/' := (slash '/').mpr rfl
  have starKept : rename '*' = '*' := (star '*').mpr rfl
  induction depth, text using walk_induction with
  | closed text => simp
  | finished depth => simp
  | opener depth rest inductionHypothesis =>
      simp [slashKept, starKept, walk_opener, inductionHypothesis, Mark.map]
  | closer depth rest inductionHypothesis =>
      simp [slashKept, starKept, walk_closer, inductionHypothesis, Mark.map]
  | character depth first rest unmarked inductionHypothesis =>
      have stillUnmarked :
          ¬ Text.StartsMarker (rename first :: rest.map rename) := by
        rw [Text.startsMarker_cons_iff] at unmarked ⊢
        cases rest <;> simp_all
      rw [List.map_cons, walk_character depth stillUnmarked,
        walk_character depth unmarked, inductionHypothesis]
      rfl

/-! ## Up to the end of a comment -/

open Reading

/-- Up to the end of a comment every token is read where one is open. -/
theorem exists_piece_of_mem_throughClose {granularity : Granularity}
    {state : ScanState} {text : Text}
    (isOpen : state.nesting.mode = .inside) {reading : Reading}
    (member : reading ∈ throughClose (scan granularity state text)) :
    ∃ before piece rest position,
      before.mode = .inside ∧
        Piece.first? granularity before (piece.text ++ rest) =
          some piece ∧
        reading = piece.readingAt position := by
  induction state, text using scan_induction granularity with
  | nil state =>
      rw [scan_nil] at member
      cases member
  | step state piece rest found nonempty inductionHypothesis =>
      rw [scan_of_first? found] at member
      rcases mem_throughClose_cons member with same | ⟨stillOpen, later⟩
      · exact ⟨_, piece, rest, _, isOpen, found, same⟩
      · exact inductionHypothesis (if_neg stillOpen) later

/-- Inside a comment a token is a marker or text without markers. -/
theorem marker_or_isUnmarked {granularity : Granularity} {state : ScanState}
    {text : Text} (isOpen : state.nesting.mode = .inside) :
    ∀ reading ∈ throughClose (scan granularity state text),
      reading.text = ['/', '*'] ∨ reading.text = ['*', '/'] ∨
        (reading.isBody ∧ reading.text.IsUnmarked) := by
  intro reading member
  rcases exists_piece_of_mem_throughClose isOpen member with
    ⟨before, piece, rest, position, inside, found, rfl⟩
  have shaped := Piece.isShaped_of_first? found
  have mode := (Piece.exists_role found).1.trans inside
  cases role : piece.role with
  | nestedOpener =>
      exact Or.inl (shaped.marker _ (congrArg Role.marker? role))
  | closer =>
      exact Or.inr (Or.inl (shaped.marker _ (congrArg Role.marker? role)))
  | commentBody =>
      refine Or.inr (Or.inr ⟨?_, Piece.isUnmarked_of_first? found role⟩)
      exact (Piece.isBody_readingAt shaped position).mpr role
  | plain | lineComment | emptyComment | opener =>
      rw [role] at mode
      cases mode

/-- One step of the scan is one step of the walk. -/
theorem throughClose_scan_of_first? {kind : CommentKind} {depth : Nat}
    (role : Role) (mark : Mark) {rest : Text}
    (inside : role.mode = .inside)
    (found :
      Piece.first? .lexemes ⟨depth, kind⟩ (mark.text ++ rest) =
        some ⟨role, mark.text, ⟨mark.depth, kind⟩⟩)
    (later :
      1 ≤ mark.depth →
        ∀ position,
          throughClose (scan .lexemes ⟨position, ⟨mark.depth, kind⟩⟩ rest) =
            Mark.readingsAt kind position (walk mark.depth rest))
    (position : Nat) :
    throughClose
        (scan .lexemes ⟨position, ⟨depth, kind⟩⟩ (mark.text ++ rest)) =
      Mark.readingsAt kind position (mark :: walk mark.depth rest) := by
  let piece : Piece := ⟨role, mark.text, ⟨mark.depth, kind⟩⟩
  have first :
      piece.readingAt position = mark.readingAt kind position := by
    cases role with
    | nestedOpener | closer | commentBody => rfl
    | plain | lineComment | emptyComment | opener => cases inside
  have scanned :=
    @scan_of_first? .lexemes ⟨position, ⟨depth, kind⟩⟩ piece rest found
  refine (congrArg throughClose scanned).trans ?_
  rw [Mark.readingsAt, ← first]
  by_cases closed : mark.depth = 0
  · rw [throughClose_of_closed closed, closed, walk_zero]
    rfl
  · rw [throughClose_of_open closed]
    exact
      congrArg (_ :: ·) (later (Nat.one_le_iff_ne_zero.mpr closed) _)

/-- Lexeme by lexeme a comment is read as the walk goes through it. -/
theorem throughClose_scan_lexemes (kind : CommentKind) {depth : Nat}
    (isOpen : 1 ≤ depth) (position : Nat) (text : Text) :
    throughClose (scan .lexemes ⟨position, ⟨depth, kind⟩⟩ text) =
      Mark.readingsAt kind position (walk depth text) := by
  induction depth, text using walk_induction generalizing position with
  | closed text => cases isOpen
  | finished depth =>
      rw [scan_nil, walk_nil]
      rfl
  | opener depth rest inductionHypothesis =>
      rw [walk_opener]
      exact
        throughClose_scan_of_first? .nestedOpener ⟨['/', '*'], depth + 2⟩ rfl
          (Piece.first?_nestedOpener rfl .lexemes rest) inductionHypothesis
          position
  | closer depth rest inductionHypothesis =>
      rw [walk_closer]
      exact
        throughClose_scan_of_first? .closer ⟨['*', '/'], depth⟩ rfl
          (Piece.first?_closer rfl .lexemes rest) inductionHypothesis
          position
  | character depth first rest unmarked inductionHypothesis =>
      rw [walk_character depth unmarked]
      exact
        throughClose_scan_of_first? .commentBody ⟨[first], depth + 1⟩ rfl
          (Piece.first?_character rfl unmarked) inductionHypothesis position

/-- Merged, the tokens of a comment are its lexemes with runs joined. -/
theorem throughClose_scan_merged {state : ScanState} {text : Text}
    (isOpen : state.nesting.mode = .inside) :
    (throughClose (scan .merged state text)).map some =
      ((throughClose (scan .lexemes state text)).splitBy
          Reading.joins).map Reading.joined? := by
  induction state, text using scan_induction .merged with
  | nil state => simp [throughClose]
  | step state piece rest found nonempty inductionHypothesis =>
      rcases Piece.exists_merges found with ⟨first, more, merges⟩
      have shaped := Piece.isShaped_of_first? found
      rw [scan_of_first? found, merges.scan_lexemes]
      by_cases closed : piece.nesting.depth = 0
      · -- Only a closer ends the comment, and no run of lexemes is one.
        have alone : piece.role.isMergeable = false := by
          by_contra mergeable
          have behind := (Piece.exists_role found).2
          rw [Role.apply_of_isMergeable (by simpa using mergeable)] at behind
          rw [behind, ← Nesting.mode_eq_outside_iff, isOpen] at closed
          cases closed
        have single := merges.single alone
        subst single
        have same := (merges.isRun first List.mem_cons_self).2.1
        have firstClosed : first.nesting.depth = 0 := by rw [same, closed]
        rw [throughClose_of_closed closed, readingsAt, List.cons_append,
          throughClose_of_closed firstClosed]
        exact congrArg ([·]) (merges.joined? state.position).symm
      · have stillOpen :
            ∀ reading ∈ readingsAt state.position (first :: more),
              reading.state.nesting.depth ≠ 0 := by
          intro reading member
          rcases mem_readingsAt member with ⟨lexeme, listed, start, rfl⟩
          have same := (merges.isRun lexeme listed).2.1
          show lexeme.nesting.depth ≠ 0
          rw [same]
          exact closed
        rw [throughClose_of_open closed, throughClose_append stillOpen,
          merges.map_joined?_splitBy_append shaped (head?_throughClose _),
          List.map_cons, inductionHypothesis (if_neg closed)]

/-- A walk that leaves a comment open tells the nesting behind the scan. -/
theorem nesting_stateBehind_scan (kind : CommentKind) {depth : Nat}
    {text : Text} (isOpen : 1 ≤ depth)
    (stillOpen : ∀ mark ∈ walk depth text, mark.depth ≠ 0)
    (granularity : Granularity) (position : Nat) :
    (stateBehind ⟨position, ⟨depth, kind⟩⟩
        (scan granularity ⟨position, ⟨depth, kind⟩⟩ text)).nesting =
      ⟨Mark.depthBehind depth (walk depth text), kind⟩ := by
  have lexemes := throughClose_scan_lexemes kind isOpen position text
  have whole :
      throughClose (scan .lexemes ⟨position, ⟨depth, kind⟩⟩ text) =
        scan .lexemes ⟨position, ⟨depth, kind⟩⟩ text := by
    apply throughClose_eq_self
    intro reading member
    rw [lexemes] at member
    rcases Mark.depth_of_mem_readingsAt member with ⟨mark, listed, same⟩
    rw [same]
    exact stillOpen mark listed
  have behind :
      (stateBehind ⟨position, ⟨depth, kind⟩⟩
          (scan .lexemes ⟨position, ⟨depth, kind⟩⟩ text)).nesting =
        ⟨Mark.depthBehind depth (walk depth text), kind⟩ := by
    rw [← whole, lexemes, Mark.nesting_stateBehind_readingsAt]
  cases granularity with
  | lexemes => exact behind
  | merged =>
      rw [stateBehind_scan_merged]
      exact behind

namespace Scanner

/--
A scanner reads a comment as a walk goes through it, from a position at which
comments of a kind are open up to the end of the window or of the outermost
comment.  Its lexemes are the marks of the walk, and its merged tokens are
these with runs of comment characters joined.  They all have the kind of the
outermost comment, and no token but a marker holds a marker.  If the walk
reaches the end of the window with a comment open, so does the scanner, at the
same depth.
-/
structure MatchesWalk (scanner : Scanner) (kind : CommentKind)
    (position stop depth : Nat) (marks : List Mark) : Prop where
  lexemes :
    scanner.granularity = .lexemes →
      throughClose (scanner.drain.1.map Step.reading) =
        Mark.readingsAt kind position marks
  merged :
    scanner.granularity = .merged →
      (throughClose (scanner.drain.1.map Step.reading)).map some =
        ((Mark.readingsAt kind position marks).splitBy Reading.joins).map
          Reading.joined?
  kinds :
    ∀ reading ∈ throughClose (scanner.drain.1.map Step.reading),
      reading.token.kind = kind.tokenKind
  markers :
    ∀ reading ∈ throughClose (scanner.drain.1.map Step.reading),
      reading.text = ['/', '*'] ∨ reading.text = ['*', '/'] ∨
        (reading.isBody ∧ reading.text.IsUnmarked)
  unclosed :
    (∀ mark ∈ marks, mark.depth ≠ 0) →
      scanner.drain.2.state = ⟨stop, ⟨Mark.depthBehind depth marks, kind⟩⟩ ∧
        scanner.drain.2.mode = .inside

/-- Where comments are open a scanner reads as a walk goes. -/
theorem matchesWalk_of_state {scanner : Scanner} {kind : CommentKind}
    {position depth : Nat} (isOpen : 1 ≤ depth)
    (placed : scanner.state = ⟨position, ⟨depth, kind⟩⟩) :
    scanner.MatchesWalk kind position
      (position + Text.byteLength scanner.unread) depth
      (walk depth scanner.unread) := by
  have inside : (⟨depth, kind⟩ : Nesting).mode = .inside :=
    if_neg (Nat.one_le_iff_ne_zero.mp isOpen)
  have lexemes :=
    throughClose_scan_lexemes kind isOpen position scanner.unread
  have read :
      scanner.drain.1.map Step.reading =
        scan scanner.granularity ⟨position, ⟨depth, kind⟩⟩
          scanner.unread := by
    rw [drain_readings, readings, placed]
  constructor
  case lexemes =>
    intro granularity
    rw [read, granularity]
    exact lexemes
  case merged =>
    intro granularity
    rw [read, granularity, ← lexemes]
    exact throughClose_scan_merged inside
  case kinds =>
    rw [read]
    exact (allTrack_scan _ _ scanner.unread).kind_throughClose isOpen
  case markers =>
    rw [read]
    exact marker_or_isUnmarked inside
  case unclosed =>
    intro stillOpen
    have behind := (drain_finished scanner).2.2
    rw [readings, placed] at behind
    have nesting :=
      nesting_stateBehind_scan kind isOpen stillOpen scanner.granularity
        position
    have atEnd :=
      position_stateBehind_scan scanner.granularity
        ⟨position, ⟨depth, kind⟩⟩ scanner.unread
    rw [← behind] at nesting atEnd
    constructor
    · exact congrArg₂ ScanState.mk atEnd nesting
    · show scanner.drain.2.state.nesting.mode = .inside
      rw [nesting]
      exact if_neg (Mark.depthBehind_ne_zero isOpen stillOpen)

/-- A scanner resumes inside a comment wherever there is a window. -/
theorem exists_resume_matchesWalk (scanner : Scanner) (kind : CommentKind)
    {buffer text : Text} {position stop depth : Nat}
    (window : Text.slice? buffer position stop = some text)
    (isOpen : 1 ≤ depth) :
    ∃ resumed,
      scanner.resume buffer stop (.insideComment position depth kind) =
          .ok resumed ∧
        resumed.granularity = scanner.granularity ∧
        resumed.MatchesWalk kind position stop depth (walk depth text) := by
  have start :
      ScanState.insideComment position depth kind =
        ⟨position, ⟨depth, kind⟩⟩ :=
    congrArg (ScanState.mk position ⟨·, kind⟩) (Nat.max_eq_left isOpen)
  have far := (Text.bounds_of_slice? window).2.2.1
  have placedWindow :
      Text.slice? buffer (ScanState.mk position ⟨depth, kind⟩).position
          stop =
        some text :=
    window
  rcases scanner.exists_resume placedWindow with
    ⟨resumed, placed, granularity, state, unread⟩
  rw [start]
  refine ⟨resumed, placed, granularity, ?_⟩
  rw [far, ← unread]
  exact matchesWalk_of_state isOpen state

/--
A scanner that resumes inside a comment, at any depth and over any window,
reads as a walk through the text of the window goes.  No character but slashes
and stars has an influence: a window in which others stand in their place, be
they quotes, backquotes, hashes or line terminators, is read as the same marks
with the characters replaced.
-/
theorem resume_matchesWalk (scanner : Scanner) (kind : CommentKind)
    {buffer text : Text} {position stop depth : Nat}
    (window : Text.slice? buffer position stop = some text)
    (isOpen : 1 ≤ depth) :
    (∃ resumed,
        scanner.resume buffer stop (.insideComment position depth kind) =
            .ok resumed ∧
          resumed.granularity = scanner.granularity ∧
          resumed.MatchesWalk kind position stop depth
            (walk depth text)) ∧
      ∀ (rename : Char → Char) (other : Text) (start finish : Nat),
        (∀ character, rename character = '/' ↔ character = '/') →
          (∀ character, rename character = '*' ↔ character = '*') →
            Text.slice? other start finish = some (text.map rename) →
              ∃ resumed,
                scanner.resume other finish
                      (.insideComment start depth kind) =
                    .ok resumed ∧
                  resumed.granularity = scanner.granularity ∧
                  resumed.MatchesWalk kind start finish depth
                    ((walk depth text).map (Mark.map rename)) := by
  refine ⟨scanner.exists_resume_matchesWalk kind window isOpen, ?_⟩
  intro rename other start finish slash star otherWindow
  rw [← walk_map slash star]
  exact scanner.exists_resume_matchesWalk kind otherWindow isOpen

/--
A slash in front of a nested comment is passed over, and so is what follows
the comment, a quote or a line terminator.
-/
theorem resume_matchesWalk_nested :
    (∃ resumed,
        (ofText [] .lexemes).resume ['é', '/', '/', '*', '*', '/', '"'] 8
              (.insideComment 2 1 .doc) =
            .ok resumed ∧
          throughClose (resumed.drain.1.map Step.reading) =
            Mark.readingsAt .doc 2
              [⟨['/'], 1⟩, ⟨['/', '*'], 2⟩, ⟨['*', '/'], 1⟩, ⟨['"'], 1⟩] ∧
          resumed.drain.2.state = ⟨8, ⟨1, .doc⟩⟩) ∧
      ∃ resumed,
        (ofText [] .lexemes).resume ['/', '/', '*', '*', '/', '\n'] 6
              (.insideComment 0 1 .doc) =
            .ok resumed ∧
          throughClose (resumed.drain.1.map Step.reading) =
            Mark.readingsAt .doc 0
              [⟨['/'], 1⟩, ⟨['/', '*'], 2⟩, ⟨['*', '/'], 1⟩,
                ⟨['\n'], 1⟩] := by
  have window :
      Text.slice? ['é', '/', '/', '*', '*', '/', '"'] 2 8 =
        some ['/', '/', '*', '*', '/', '"'] := by
    decide
  let rename : Char → Char := fun character =>
    if character = '"' then '\n' else character
  have keeps :
      ∀ kept : Char, kept ≠ '"' → kept ≠ '\n' →
        ∀ character, rename character = kept ↔ character = kept := by
    grind
  rcases
      (ofText [] .lexemes).resume_matchesWalk .doc window (Nat.le_refl 1)
    with
    ⟨⟨resumed, placed, granularity, walks⟩, others⟩
  rcases
      others rename ['/', '/', '*', '*', '/', '\n'] 0 6
        (keeps '/' (by decide) (by decide))
        (keeps '*' (by decide) (by decide)) (by decide) with
    ⟨other, otherPlaced, otherGranularity, otherWalks⟩
  exact
    ⟨⟨resumed, placed, walks.lexemes granularity,
        (walks.unclosed (by decide)).1⟩,
      other, otherPlaced, otherWalks.lexemes otherGranularity⟩

end Scanner

end CommentScan
