import CommentScan.Proofs.Comment.Body
import CommentScan.Proofs.Scanner.Nesting

/-!
# Cutting a comment

Inside a comment a lexeme looks at no more than two characters.  So a window
can be cut anywhere in a comment and be scanned in two parts, except between
the two characters of a marker.  Where that happens can be told at the cut
alone: the last token in front of it is a slash or a star on its own, and the
character behind it completes a marker.  A slash or a star that ends a marker
does no harm.

`CutsMarker` is this test, and `scan_append_of_inside` and
`map_token_scan_append_ne` are its two directions, each by following the scan of
the first part.  `Scanner.resume_in_two` states both for a scanner that stops
at the cut and resumes there.
-/

namespace CommentScan

/-- Some comment is open behind every token but the last. -/
def OpenUntilLast (readings : List Reading) : Prop :=
  ∀ reading ∈ readings.dropLast, 0 < reading.state.nesting.depth

/--
The last token is a character of a comment that makes up a marker with the
character behind it.
-/
def CutsMarker (readings : List Reading) (next : Option Char) : Prop :=
  ∃ last ∈ readings.getLast?, last.isBody ∧
    (last.text = ['/'] ∧ '*' ∈ next ∨ last.text = ['*'] ∧ '/' ∈ next)

theorem openUntilLast_cons_cons_iff {first second : Reading}
    {more : List Reading} :
    OpenUntilLast (first :: second :: more) ↔
      0 < first.state.nesting.depth ∧ OpenUntilLast (second :: more) := by
  rw [OpenUntilLast, List.dropLast_cons_cons, List.forall_mem_cons]
  rfl

theorem cutsMarker_cons_cons_iff {first second : Reading}
    {more : List Reading} {next : Option Char} :
    CutsMarker (first :: second :: more) next ↔
      CutsMarker (second :: more) next := by
  rw [CutsMarker, List.getLast?_cons_cons]
  rfl

/-- Behind a single token a marker is cut if the token begins one. -/
theorem cutsMarker_singleton_iff {reading : Reading} {next : Option Char} :
    CutsMarker [reading] next ↔
      reading.isBody ∧
        (reading.text = ['/'] ∧ '*' ∈ next ∨
          reading.text = ['*'] ∧ '/' ∈ next) := by
  simp [CutsMarker]

namespace Piece

variable {nesting : Nesting} {piece : Piece} {rest back : Text}

/-- Inside a comment a character is read alone, and begins no marker. -/
theorem exists_text_of_commentBody
    (found : first? .lexemes nesting (piece.text ++ rest) = some piece)
    (body : piece.role = .commentBody) :
    ∃ character, piece = ⟨.commentBody, [character], nesting⟩ ∧
      ¬ Text.StartsMarker (character :: rest) := by
  rcases not_startsMarker_of_first? found body with ⟨inside, unmarked⟩
  rcases List.exists_cons_of_ne_nil (first?_spec found).1 with
    ⟨character, others, text⟩
  have alone := found
  rw [text, List.cons_append] at alone unmarked
  rw [first?_character inside unmarked, Option.some.injEq] at alone
  have single := congrArg Piece.text alone
  rw [text] at single
  rw [← List.cons.inj single |>.2] at unmarked
  exact ⟨character, alone.symm, unmarked⟩

/--
A lexeme of a comment stays as it is with more text behind it, unless it is a
character that becomes part of a marker.
-/
theorem first?_append_of_inside (inside : nesting.mode = .inside)
    (found : first? .lexemes nesting (piece.text ++ rest) = some piece)
    {position : Nat}
    (clear :
      rest = [] → ¬ CutsMarker [piece.readingAt position] back.head?) :
    first? .lexemes nesting (piece.text ++ (rest ++ back)) = some piece := by
  have shaped := isShaped_of_first? found
  have mode := (exists_role found).1.trans inside
  cases role : piece.role with
  | nestedOpener =>
      have text := shaped.marker _ (congrArg Role.marker? role)
      rw [text] at found ⊢
      rw [← found]
      exact
        (first?_nestedOpener inside .lexemes (rest ++ back)).trans
          (first?_nestedOpener inside .lexemes rest).symm
  | closer =>
      have text := shaped.marker _ (congrArg Role.marker? role)
      rw [text] at found ⊢
      rw [← found]
      exact
        (first?_closer inside .lexemes (rest ++ back)).trans
          (first?_closer inside .lexemes rest).symm
  | commentBody =>
      rcases exists_text_of_commentBody found role with
        ⟨character, rfl, unmarked⟩
      apply first?_character inside
      rw [Text.startsMarker_cons_iff] at unmarked ⊢
      cases rest with
      | cons next more => exact unmarked
      | nil =>
          -- The character behind the lexeme is the first one behind the cut.
          intro starts
          refine clear rfl (cutsMarker_singleton_iff.mpr ⟨?_, ?_⟩)
          · exact (isBody_readingAt shaped position).mpr rfl
          · simpa [readingAt] using starts
  | plain | lineComment | emptyComment | opener =>
      rw [role] at mode
      cases mode

/-- A lexeme with more tokens behind it does not reach the cut. -/
theorem first?_append_of_scan_cons (inside : nesting.mode = .inside)
    (found : first? .lexemes nesting (piece.text ++ rest) = some piece)
    {state : ScanState} {second : Reading} {more : List Reading}
    (behind : scan .lexemes state rest = second :: more) (back : Text) :
    first? .lexemes nesting (piece.text ++ (rest ++ back)) = some piece := by
  refine @first?_append_of_inside _ _ _ back inside found 0 ?_
  intro finished
  rw [finished, scan_nil] at behind
  cases behind

/-- A character that becomes part of a marker is not read alone any more. -/
theorem exists_first?_of_cutsMarker (inside : nesting.mode = .inside)
    {position : Nat}
    (cuts : CutsMarker [piece.readingAt position] back.head?) :
    Text.byteLength piece.text = 1 ∧
      ∃ marker, Text.byteLength marker.text = 2 ∧
        first? .lexemes nesting (piece.text ++ back) = some marker := by
  replace cuts := (cutsMarker_singleton_iff.mp cuts).2
  replace cuts :
      piece.text = ['/'] ∧ '*' ∈ back.head? ∨
        piece.text = ['*'] ∧ '/' ∈ back.head? := cuts
  rcases cuts with ⟨text, next⟩ | ⟨text, next⟩
  · rcases List.head?_eq_some_iff.mp next with ⟨more, rfl⟩
    rw [text]
    exact ⟨rfl, _, rfl, first?_nestedOpener inside .lexemes more⟩
  · rcases List.head?_eq_some_iff.mp next with ⟨more, rfl⟩
    rw [text]
    exact ⟨rfl, _, rfl, first?_closer inside .lexemes more⟩

end Piece

/-! ## Scanning on behind a cut -/

section Scan

variable {state : ScanState} {front back : Text}

/--
Cut anywhere but in a marker, a comment is read in two parts as it is in one.
-/
theorem scan_append_of_inside (isOpen : 0 < state.nesting.depth)
    (stays : OpenUntilLast (scan .lexemes state front))
    (clear : ¬ CutsMarker (scan .lexemes state front) back.head?) :
    scan .lexemes state (front ++ back) =
      scan .lexemes state front ++
        scan .lexemes (stateBehind state (scan .lexemes state front))
          back := by
  induction state, front using scan_induction .lexemes with
  | nil state =>
      rw [scan_nil]
      rfl
  | step state piece rest found nonempty inductionHypothesis =>
      have inside : state.nesting.mode = .inside :=
        if_neg (Nat.ne_of_gt isOpen)
      rw [scan_of_first? found] at stays clear ⊢
      rw [List.append_assoc, List.cons_append, stateBehind]
      cases behind :
          scan .lexemes (piece.readingAt state.position).state rest with
      | nil =>
          rw [behind] at clear
          have finished := scan_eq_nil_iff.mp behind
          subst finished
          have kept :=
            Piece.first?_append_of_inside inside found fun _ => clear
          rw [scan_of_first? kept]
          rfl
      | cons second more =>
          rw [behind] at stays clear
          rcases openUntilLast_cons_cons_iff.mp stays with
            ⟨stillOpen, laterStays⟩
          rw [cutsMarker_cons_cons_iff] at clear
          have kept :=
            Piece.first?_append_of_scan_cons inside found behind back
          have later := inductionHypothesis stillOpen
          rw [behind] at later
          rw [scan_of_first? kept, later laterStays clear]

/-- Cut in a marker, a comment is not read in two parts as it is in one. -/
theorem map_token_scan_append_ne (isOpen : 0 < state.nesting.depth)
    (stays : OpenUntilLast (scan .lexemes state front))
    (cuts : CutsMarker (scan .lexemes state front) back.head?)
    (others : List Token) :
    (scan .lexemes state (front ++ back)).map Reading.token ≠
      (scan .lexemes state front).map Reading.token ++ others := by
  induction state, front using scan_induction .lexemes with
  | nil state =>
      rw [scan_nil] at cuts
      rcases cuts with ⟨last, none, -⟩
      cases none
  | step state piece rest found nonempty inductionHypothesis =>
      have inside : state.nesting.mode = .inside :=
        if_neg (Nat.ne_of_gt isOpen)
      rw [scan_of_first? found] at stays cuts ⊢
      rw [List.append_assoc, List.map_cons, List.cons_append]
      cases behind :
          scan .lexemes (piece.readingAt state.position).state rest with
      | nil =>
          rw [behind] at cuts
          have finished := scan_eq_nil_iff.mp behind
          subst finished
          rcases Piece.exists_first?_of_cutsMarker inside cuts with
            ⟨single, marker, double, read⟩
          have first := head?_scan .lexemes state (piece.text ++ back)
          rw [read] at first
          intro same
          have tokens := congrArg List.head? same
          rw [List.nil_append, List.head?_map, first] at tokens
          have stops :=
            congrArg (fun token => token.span.stop)
              (Option.some.inj tokens)
          replace stops :
              state.position + Text.byteLength marker.text =
                state.position + Text.byteLength piece.text := stops
          omega
      | cons second more =>
          rw [behind] at stays cuts
          rcases openUntilLast_cons_cons_iff.mp stays with
            ⟨stillOpen, laterStays⟩
          rw [cutsMarker_cons_cons_iff] at cuts
          have kept :=
            Piece.first?_append_of_scan_cons inside found behind back
          have later := inductionHypothesis stillOpen
          rw [behind] at later
          rw [scan_of_first? kept, List.map_cons, Ne, List.cons.injEq,
            not_and]
          exact fun _ => later laterStays cuts

end Scan

namespace Scanner

/-- A window that is cut in two is read up to the cut, from there, and whole. -/
structure ReadsInTwo (scanner : Scanner) (state : ScanState)
    (front back : Text) (first later whole : Scanner) : Prop where
  firstRead :
    first.drain.1.map Step.reading = scan scanner.granularity state front
  laterRead :
    later.drain.1.map Step.reading =
      scan scanner.granularity
        (stateBehind state (scan scanner.granularity state front)) back
  wholeRead :
    whole.drain.1.map Step.reading =
      scan scanner.granularity state (front ++ back)
  laterState :
    later.drain.2.state =
      stateBehind state
        (first.drain.1.map Step.reading ++ later.drain.1.map Step.reading)
  wholeState :
    whole.drain.2.state =
      stateBehind state (whole.drain.1.map Step.reading)

theorem exists_readsInTwo (scanner : Scanner) {buffer front back : Text}
    {state : ScanState} {cut stop : Nat}
    (frontWindow : Text.slice? buffer state.position cut = some front)
    (backWindow : Text.slice? buffer cut stop = some back) :
    ∃ first later whole,
      scanner.resume buffer cut state = .ok first ∧
        first.drain.2.resume buffer stop first.drain.2.state = .ok later ∧
        scanner.resume buffer stop state = .ok whole ∧
        first.drain.2.position = cut ∧ later.unread = back ∧
        scanner.ReadsInTwo state front back first later whole := by
  have far := (Text.bounds_of_slice? frontWindow).2.2.1
  subst far
  have window := Text.slice?_append_iff.mpr ⟨frontWindow, backWindow⟩
  rcases scanner.exists_resume_drain frontWindow with
    ⟨first, firstPlaced, -, kept, firstRead, firstState⟩
  have position :=
    position_stateBehind_scan scanner.granularity state front
  rw [← firstState] at position
  rw [← position] at backWindow
  rcases first.drain.2.exists_resume_drain backWindow with
    ⟨later, laterPlaced, unread, -, laterRead, laterState⟩
  rcases scanner.exists_resume_drain window with
    ⟨whole, wholePlaced, -, -, wholeRead, wholeState⟩
  refine
    ⟨first, later, whole, firstPlaced, laterPlaced, wholePlaced, position,
      unread, ?_⟩
  rw [kept, firstState] at laterRead laterState
  constructor
  case firstRead => exact firstRead
  case laterRead => exact laterRead
  case wholeRead => exact wholeRead
  case laterState =>
    rw [firstRead, laterRead, stateBehind_append]
    exact laterState
  case wholeState =>
    rw [wholeRead]
    exact wholeState

/--
A scanner that resumes inside a comment, at any depth, over a window that is
cut in two.  It stops at the cut, with a comment open behind every token but
the last, and resumes there up to the end of the window.  The tokens of both
parts are those of a single scan of the window, with the same texts and states
and the same state at the end, unless the last token in front of the cut is a
slash or a star of the comment that makes up a marker with the character behind
the cut.  In that case the tokens differ.
-/
theorem resume_in_two {scanner : Scanner}
    (granularity : scanner.granularity = .lexemes) {buffer : Text}
    {start cut stop : Nat}
    (boundaries :
      ∀ offset ∈ [start, cut, stop], Text.IsBoundary buffer offset)
    (ordered : start ≤ cut ∧ cut ≤ stop) (depth : Nat)
    (kind : CommentKind) :
    ∃ first later whole,
      scanner.resume buffer cut (.insideComment start depth kind) =
          .ok first ∧
        first.drain.2.resume buffer stop first.drain.2.state = .ok later ∧
        scanner.resume buffer stop (.insideComment start depth kind) =
          .ok whole ∧
        first.drain.2.position = cut ∧
        Text.slice? buffer cut stop = some later.unread ∧
        (OpenUntilLast (first.drain.1.map Step.reading) →
          (¬ CutsMarker (first.drain.1.map Step.reading)
              later.unread.head? →
            (first.drain.1 ++ later.drain.1).map Step.reading =
                whole.drain.1.map Step.reading ∧
              later.drain.2.state = whole.drain.2.state) ∧
          (CutsMarker (first.drain.1.map Step.reading)
              later.unread.head? →
            (first.drain.1 ++ later.drain.1).map Step.token ≠
              whole.drain.1.map Step.token)) := by
  have isOpen :
      0 < (ScanState.insideComment start depth kind).nesting.depth :=
    Nat.le_max_right depth 1
  have startBoundary := boundaries start (by simp)
  have cutBoundary := boundaries cut (by simp)
  have stopBoundary := boundaries stop (by simp)
  rcases Text.exists_slice? startBoundary cutBoundary ordered.1 with
    ⟨front, frontWindow⟩
  rcases Text.exists_slice? cutBoundary stopBoundary ordered.2 with
    ⟨back, backWindow⟩
  rcases
    @exists_readsInTwo scanner buffer front back
      (.insideComment start depth kind) cut stop frontWindow backWindow with
    ⟨first, later, whole, firstPlaced, laterPlaced, wholePlaced, position,
      unread, reads⟩
  rw [← unread] at backWindow
  refine
    ⟨first, later, whole, firstPlaced, laterPlaced, wholePlaced, position,
      backWindow, ?_⟩
  have firstRead := reads.firstRead
  have laterRead := reads.laterRead
  have wholeRead := reads.wholeRead
  rw [granularity] at firstRead laterRead wholeRead
  rw [firstRead, unread]
  intro stays
  constructor
  · intro clear
    have together :
        first.drain.1.map Step.reading ++ later.drain.1.map Step.reading =
          whole.drain.1.map Step.reading := by
      rw [firstRead, laterRead, wholeRead]
      exact (scan_append_of_inside isOpen stays clear).symm
    rw [reads.laterState, reads.wholeState, List.map_append, together]
    exact ⟨rfl, rfl⟩
  · intro cuts
    have differ :=
      map_token_scan_append_ne isOpen stays cuts
        (later.drain.1.map Step.token)
    rw [← firstRead, ← wholeRead, List.map_map, List.map_map] at differ
    rw [List.map_append]
    exact differ.symm

/--
The window `x/*/x` is cut behind its first slash, which cuts the opener, and
behind its star, which does not cut the closer that the star seems to begin.
-/
theorem resume_in_two_marker :
    let buffer : Text := ['é', 'x', '/', '*', '/', 'x']
    let scanner := ofText [] .lexemes
    let state := ScanState.insideComment 2 0 .doc
    (∃ first later whole,
      scanner.resume buffer 4 state = .ok first ∧
        first.drain.2.resume buffer 7 first.drain.2.state = .ok later ∧
        scanner.resume buffer 7 state = .ok whole ∧
        (first.drain.1 ++ later.drain.1).map Step.token ≠
          whole.drain.1.map Step.token) ∧
      ∃ first later whole,
        scanner.resume buffer 5 state = .ok first ∧
          first.drain.2.resume buffer 7 first.drain.2.state = .ok later ∧
          scanner.resume buffer 7 state = .ok whole ∧
          later.unread = ['/', 'x'] ∧
          (first.drain.1 ++ later.drain.1).map Step.reading =
            whole.drain.1.map Step.reading := by
  intro buffer scanner state
  constructor
  · rcases
      @resume_in_two scanner rfl buffer 2 4 7 (by decide) (by decide) 0 .doc
      with
      ⟨first, later, whole, firstPlaced, laterPlaced, wholePlaced, -, next,
        parts⟩
    have read :
        first.drain.1.map Step.reading =
          [⟨⟨.docComment, ⟨2, 3⟩⟩, ['x'], ⟨3, ⟨1, .doc⟩⟩⟩,
            ⟨⟨.docComment, ⟨3, 4⟩⟩, ['/'], ⟨4, ⟨1, .doc⟩⟩⟩] := by
      cases firstPlaced
      decide +kernel
    have unread : later.unread = ['*', '/', 'x'] :=
      (Option.some.inj next).symm
    rw [read, unread] at parts
    refine
      ⟨first, later, whole, firstPlaced, laterPlaced, wholePlaced,
        (parts ?_).2 ?_⟩
    · simp [OpenUntilLast]
    · rw [cutsMarker_cons_cons_iff, cutsMarker_singleton_iff]
      exact ⟨rfl, Or.inl ⟨rfl, rfl⟩⟩
  · rcases
      @resume_in_two scanner rfl buffer 2 5 7 (by decide) (by decide) 0 .doc
      with
      ⟨first, later, whole, firstPlaced, laterPlaced, wholePlaced, -, next,
        parts⟩
    have read :
        first.drain.1.map Step.reading =
          [⟨⟨.docComment, ⟨2, 3⟩⟩, ['x'], ⟨3, ⟨1, .doc⟩⟩⟩,
            ⟨⟨.docComment, ⟨3, 5⟩⟩, ['/', '*'], ⟨5, ⟨2, .doc⟩⟩⟩] := by
      cases firstPlaced
      decide +kernel
    have unread : later.unread = ['/', 'x'] :=
      (Option.some.inj next).symm
    rw [read, unread] at parts
    refine
      ⟨first, later, whole, firstPlaced, laterPlaced, wholePlaced, unread,
        ((parts ?_).1 ?_).1⟩
    · simp [OpenUntilLast]
    · rw [cutsMarker_cons_cons_iff, cutsMarker_singleton_iff]
      decide

end Scanner

end CommentScan
