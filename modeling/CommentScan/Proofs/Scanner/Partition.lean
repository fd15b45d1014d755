import CommentScan.Proofs.Scanner.Pieces

/-!
# A scan partitions its window

Reading a window to its end cuts it into tokens, without a gap and without an
overlap.  Each token is read by a call that cannot fail; the end of the window
is met exactly where no character is left, and from then on every further call
finds the same end.

`Reads` is what one call does where something is unread, and `PartitionsInto`
is what all calls together make of the unread text.  `Reachable.partitions`
proves both for every scanner that any calls lead to.
-/

namespace CommentScan

/-- Some tokens that are not empty lie side by side between two offsets. -/
def Tiles : Nat → List Token → Nat → Prop
  | start, [], stop => start = stop
  | start, token :: rest, stop =>
      token.span.start = start ∧ start < token.span.stop ∧
        Tiles token.span.stop rest stop

/-- What is read of a text lies side by side from the first character on. -/
theorem tiles_scan (granularity : Granularity) (state : ScanState)
    (text : Text) :
    Tiles state.position
      ((scan granularity state text).map Reading.token)
      (state.position + Text.byteLength text) := by
  induction state, text using scan_induction granularity with
  | nil state =>
      rw [scan_nil]
      rfl
  | step state piece rest found nonempty inductionHypothesis =>
      rw [scan_of_first? found, Text.byteLength_append, ← Nat.add_assoc]
      refine ⟨rfl, ?_, inductionHypothesis⟩
      exact Nat.lt_add_of_pos_right (Text.byteLength_pos nonempty)

/-- Tokens that lie side by side end in one place only. -/
theorem Tiles.stop_unique {start left right : Nat} {tokens : List Token}
    (toLeft : Tiles start tokens left) (toRight : Tiles start tokens right) :
    left = right := by
  induction tokens generalizing start with
  | nil => exact toLeft.symm.trans toRight
  | cons token rest inductionHypothesis =>
      exact inductionHypothesis toLeft.2.2 toRight.2.2

theorem length_scan_le (granularity : Granularity) (state : ScanState)
    (text : Text) : (scan granularity state text).length ≤ text.length := by
  rw [scan, length_readingsAt]
  exact length_pieces_le granularity state.nesting text

namespace Scanner

/-- The second scanner is what reading on and giving nothing back leads to. -/
inductive Idles : Scanner → Scanner → Prop where
  | here (scanner : Scanner) : Idles scanner scanner
  | advance {scanner later after : Scanner} {result : Option Token}
      (idles : Idles scanner later)
      (advanced : later.tryAdvance = .ok (result, after)) :
      Idles scanner after
  | pushBack {scanner later after : Scanner}
      (idles : Idles scanner later)
      (pushed : later.pushBack 0 = .ok after) :
      Idles scanner after

/--
A token has been read: it reaches from the old position to the new one, has
at least one character, ends in the window and on boundaries, and its text is
what its span covers in the buffer.
-/
structure Reads (scanner : Scanner) (token : Token) (after : Scanner) :
    Prop where
  start_eq : token.span.start = scanner.position
  stop_eq : token.span.stop = after.position
  nonempty : token.span.start < token.span.stop
  within : after.position ≤ scanner.windowEnd
  sameWindow :
    after.buffer = scanner.buffer ∧ after.windowEnd = scanner.windowEnd
  boundaries :
    Text.IsBoundary scanner.buffer token.span.start ∧
      Text.IsBoundary scanner.buffer token.span.stop
  current :
    after.tokenSpan = token.span ∧
      token.span.slice? scanner.buffer = some after.tokenText

/--
Reading to the end of the window makes tokens of the characters that are left,
`remaining`: no more tokens than characters, so that one call more than there
are characters meets the end, side by side from the position to the end of the
window, with texts that make up `remaining` one after another.
-/
structure PartitionsInto (scanner : Scanner) (remaining : Text) : Prop where
  left :
    Text.slice? scanner.buffer scanner.position scanner.windowEnd =
      some remaining
  count : scanner.drain.1.length ≤ remaining.length
  stops : scanner.take (remaining.length + 1) = scanner.drain
  tiles :
    Tiles scanner.position (scanner.drain.1.map Step.token)
      scanner.windowEnd
  texts :
    scanner.drain.1.flatMap (fun step => step.after.tokenText) = remaining
  slices :
    ∀ step ∈ scanner.drain.1,
      step.token.span.slice? scanner.buffer = some step.after.tokenText
  finished :
    scanner.drain.2.position = scanner.windowEnd ∧
      scanner.drain.2.advance.1 = none

theorem tryAdvance_eq_none_iff {scanner : Scanner} :
    (∃ after, scanner.tryAdvance = .ok (none, after)) ↔
      scanner.position = scanner.windowEnd := by
  rw [position_eq_windowEnd_iff, ← advance_eq_none_iff]
  constructor
  · rintro ⟨after, advanced⟩
    rw [tryAdvance_eq, Except.ok.injEq] at advanced
    rw [advanced]
  · intro nothing
    refine ⟨scanner.advance.2, ?_⟩
    rw [tryAdvance_eq, ← nothing]

/-- At the end of the window nothing moves any more. -/
theorem Idles.rests {scanner later : Scanner} (idles : scanner.Idles later)
    (finished : scanner.unread = []) :
    later.unread = [] ∧ later.state = scanner.state ∧
      later.tokenSpan = scanner.tokenSpan := by
  induction idles with
  | here => exact ⟨finished, rfl, rfl⟩
  | advance _ advanced inductionHypothesis =>
      rcases inductionHypothesis with ⟨laterFinished, state, span⟩
      rw [tryAdvance_eq, advance_of_nil laterFinished] at advanced
      cases advanced
      exact ⟨laterFinished, state, span⟩
  | pushBack _ pushed inductionHypothesis =>
      rcases inductionHypothesis with ⟨laterFinished, state, span⟩
      rcases pushBack_eq_ok_iff.mp pushed with
        ⟨kept, returned, whole, nothing, rfl⟩
      have empty : returned = [] := List.eq_nil_of_length_eq_zero nothing
      subst empty
      rw [List.append_nil] at whole
      subst whole
      exact ⟨laterFinished, state, span⟩

theorem Reachable.reads {scanner : Scanner}
    (reachable : scanner.Reachable) {piece : Piece}
    (found :
      Piece.first? scanner.granularity scanner.nesting scanner.unread =
        some piece) :
    scanner.tryAdvance =
        .ok (some (piece.readingAt scanner.position).token,
          scanner.behind piece) ∧
      scanner.Reads (piece.readingAt scanner.position).token
        (scanner.behind piece) := by
  have advanced := scanner.tryAdvance_eq
  rw [advance_of_first? found] at advanced
  have placed := (Reachable.advance reachable advanced).isPlaced
  have slice := placed.tokenText
  have bounds := Text.bounds_of_slice? slice
  have sameEnd := windowEnd_behind found
  refine ⟨advanced, rfl, rfl, ?_, ?_, ⟨rfl, sameEnd⟩,
    ⟨bounds.1, bounds.2.1⟩, rfl, slice⟩
  · exact
      Nat.lt_add_of_pos_right
        (Text.byteLength_pos (Piece.first?_spec found).1)
  · rw [← sameEnd]
    exact Nat.le_add_right _ _

/-- One call for each character and one more meet the end of the window. -/
theorem take_eq_drain {scanner : Scanner} {count : Nat}
    (enough : scanner.unread.length < count) :
    scanner.take count = scanner.drain := by
  induction scanner using window_induction generalizing count with
  | finished scanner finished =>
      cases count with
      | zero => exact absurd enough (Nat.not_lt_zero _)
      | succ count =>
          rw [take_succ_of_none (advance_of_nil finished),
            drain_of_none (advance_of_nil finished)]
  | step scanner piece found inductionHypothesis =>
      cases count with
      | zero => exact absurd enough (Nat.not_lt_zero _)
      | succ count =>
          have advanced := advance_of_first? found
          have shorter := Piece.length_drop_lt found
          have fewer :
              (scanner.behind piece).take count =
                (scanner.behind piece).drain :=
            inductionHypothesis
              (Nat.lt_of_lt_of_le shorter (Nat.le_of_lt_succ enough))
          rw [take_succ_of_some advanced, drain_of_some advanced, fewer]

theorem Reachable.slices {scanner : Scanner}
    (reachable : scanner.Reachable) :
    ∀ step ∈ scanner.drain.1,
      step.token.span.slice? scanner.buffer =
        some step.after.tokenText := by
  induction scanner using window_induction with
  | finished scanner finished =>
      rw [drain_of_none (advance_of_nil finished)]
      simp
  | step scanner piece found inductionHypothesis =>
      rcases reachable.reads found with ⟨advanced, reads⟩
      intro step member
      rw [drain_of_some (advance_of_first? found)] at member
      rcases List.mem_cons.mp member with rfl | later
      · exact reads.current.2
      · exact inductionHypothesis (.advance reachable advanced) step later

theorem flatMap_tokenText_drain (scanner : Scanner) :
    scanner.drain.1.flatMap (fun step => step.after.tokenText) =
      scanner.unread := by
  have texts :=
    congrArg (List.flatMap Reading.text) scanner.drain_readings
  rw [List.flatMap_map, readings, flatMap_text_scan] at texts
  exact texts

/-- The tokens of a window lie side by side up to its end. -/
theorem tiles_drain (scanner : Scanner) :
    Tiles scanner.position (scanner.drain.1.map Step.token)
      scanner.windowEnd := by
  have tiling :=
    tiles_scan scanner.granularity scanner.state scanner.unread
  change
    Tiles scanner.position (scanner.readings.map Reading.token) _ at tiling
  rw [← drain_readings, List.map_map] at tiling
  exact tiling

theorem Reachable.partitionsInto {scanner : Scanner}
    (reachable : scanner.Reachable) :
    scanner.PartitionsInto scanner.unread where
  left := reachable.isPlaced.unread
  count := by
    rw [← List.length_map Step.reading, drain_readings]
    exact length_scan_le _ _ _
  stops := take_eq_drain (Nat.lt_succ_self _)
  tiles := scanner.tiles_drain
  texts := scanner.flatMap_tokenText_drain
  slices := reachable.slices
  finished := by
    rcases scanner.drain_finished with ⟨finished, -, state⟩
    constructor
    · have position := congrArg ScanState.position state
      rw [readings, position_stateBehind_scan] at position
      exact position
    · exact advance_eq_none_iff.mpr finished

/-- The pieces of a split text are the slices of its tokens. -/
theorem split_eq_slices (text : Text) :
    (split text).map (fun piece => (piece.1, some piece.2)) =
      (tokenize text).map fun token =>
        (token.kind, token.span.slice? text) := by
  have slices := (Reachable.ofText text .merged).slices
  rw [split, tokenize, List.map_map, List.map_map]
  apply List.map_congr_left
  intro step member
  exact Prod.ext rfl (slices step member).symm

/-- The pieces of a split text make up what offsets reach of it. -/
theorem flatMap_snd_split (text : Text) :
    (split text).flatMap Prod.snd = text.reachable?.getD [] := by
  rw [split, List.flatMap_map]
  exact flatMap_tokenText_drain (.ofText text .merged)

/--
Whatever calls lead to a scanner, reading on never fails.  It finds nothing
exactly at the end of the window, where every further call finds nothing
either and leaves the place, the token and the nesting alone.  Anywhere else
it yields a token in its place, and all tokens up to the end partition the
unread part of the window.  In particular the pieces of a split text make up
what offsets reach of it, which is all of a text that is not too long, and
are the slices of its tokens.
-/
theorem Reachable.partitions {scanner : Scanner}
    (reachable : scanner.Reachable) (text : Text) :
    (∀ error, scanner.tryAdvance ≠ .error error) ∧
      ((∃ after, scanner.tryAdvance = .ok (none, after)) ↔
        scanner.position = scanner.windowEnd) ∧
      (scanner.position = scanner.windowEnd →
        ∀ later, scanner.Idles later →
          (∃ after, later.tryAdvance = .ok (none, after)) ∧
            later.state = scanner.state ∧
            later.tokenSpan = scanner.tokenSpan) ∧
      (scanner.position ≠ scanner.windowEnd →
        ∃ token after,
          scanner.tryAdvance = .ok (some token, after) ∧
            scanner.Reads token after) ∧
      (∃ remaining, scanner.PartitionsInto remaining) ∧
      (split text).flatMap Prod.snd = text.reachable?.getD [] ∧
      (Text.byteLength text ≤ wordLimit →
        (split text).flatMap Prod.snd = text) ∧
      (split text).map (fun piece => (piece.1, some piece.2)) =
        (tokenize text).map fun token =>
          (token.kind, token.span.slice? text) := by
  refine ⟨scanner.tryAdvance_ne_error, tryAdvance_eq_none_iff, ?_, ?_,
    ⟨_, reachable.partitionsInto⟩, flatMap_snd_split text, ?_,
    split_eq_slices text⟩
  · intro finished later idles
    rcases idles.rests (position_eq_windowEnd_iff.mp finished) with
      ⟨laterFinished, state, span⟩
    refine ⟨?_, state, span⟩
    rw [tryAdvance_eq_none_iff, position_eq_windowEnd_iff]
    exact laterFinished
  · intro unfinished
    rw [Ne, position_eq_windowEnd_iff,
      ← @Piece.first?_eq_none_iff scanner.granularity
        scanner.nesting] at unfinished
    rcases Option.ne_none_iff_exists'.mp unfinished with ⟨piece, found⟩
    exact ⟨_, _, reachable.reads found⟩
  · intro small
    rw [flatMap_snd_split, Text.reachable?_of_le small]
    rfl

/-- The second character of a text is read again after it was given back. -/
theorem partitions_after_pushBack :
    ∃ scanner : Scanner, scanner.Reachable ∧ scanner.unread = ['é'] ∧
      (∃ token after,
        scanner.tryAdvance = .ok (some token, after) ∧
          scanner.Reads token after) ∧
      ∃ remaining, scanner.PartitionsInto remaining := by
  let start := Scanner.ofText ['a', 'é'] .lexemes
  have first :
      start.tryAdvance =
        .ok (some ⟨.plainContent, ⟨0, 1⟩⟩,
          { start with tokenText := ['a'], unread := ['é'] }) := rfl
  have second :
      ({ start with tokenText := ['a'], unread := ['é'] } :
          Scanner).tryAdvance =
        .ok (some ⟨.plainContent, ⟨1, 3⟩⟩,
          { start with tokenStart := 1, tokenText := ['é'], unread := [] }) :=
    rfl
  have pushed :
      ({ start with tokenStart := 1, tokenText := ['é'], unread := [] } :
          Scanner).pushBack 1 =
        .ok { start with tokenStart := 1, tokenText := [], unread := ['é'] } :=
    rfl
  have reachable :=
    Reachable.pushBack
      (.advance (.advance (.ofText ['a', 'é'] .lexemes) first) second) pushed
  rcases reachable.partitions [] with ⟨-, -, -, reads, partitions, -⟩
  exact ⟨_, reachable, rfl, reads (by decide), partitions⟩

end Scanner

end CommentScan
