import CommentScan.Proofs.Scanner.Nesting
import CommentScan.Proofs.Session.Rebinding

/-!
# How deep a scan can get

Every opener of a comment has two bytes at least, so a scan that only reads on
cannot open more comments than half the bytes that it reads.  The bound is
`DeepensSlowly`, between the scanner at the start of a scan and one that it
leads to.  `deepensSlowly_advance` is about one token, and a run of calls is
put together from its tokens.

From the bound follows that a scan in registers never adds beyond a machine
word: the depth stays below half the buffer, and the cursor adds up to the end
of its window and no further.  `performAll_depth` says so for every scan that
begins with a call that brings its buffer along.
-/

namespace CommentScan

namespace Call

/-- Whether a call begins a scan in which no more than one comment is open. -/
def startsShallow : Call → Bool
  | reset .. | restart .. => true
  | _ => false

theorem not_replacesScanner_of_advances {call : Call}
    (advances : call.advances) : ¬ call.replacesScanner := by
  cases call with
  | advance | tryAdvance => exact Bool.false_ne_true
  | _ => cases advances

theorem fits_of_advances {call : Call} (advances : call.advances) :
    call.Fits := by
  cases call with
  | advance | tryAdvance => exact ⟨rfl, by simp [buffer?]⟩
  | _ => cases advances

end Call

/-! ## Adding with a cursor -/

namespace Cursor

/--
Where a cursor adds to its position, the sum is no further than the end of the
window, and it fits in a machine word.
-/
structure StaysInWord (cursor : Cursor) : Prop where
  character :
    ∀ character, cursor.current = .ok (some character) →
      cursor.position + character.utf8Size ≤ cursor.windowEnd
  line :
    ∀ text, cursor.remaining = .ok text →
      cursor.position + Text.lineBytes text ≤ cursor.windowEnd
  bump : ∀ character, cursor.bump character ≠ .error .wordOverflow
  eatUntilLineEnd : cursor.eatUntilLineEnd ≠ .error .wordOverflow

variable {cursor : Cursor}

/-- Finding out what remains of the window does not add at all. -/
theorem remaining_ne_wordOverflow :
    cursor.remaining ≠ .error .wordOverflow := by
  intro overflow
  simp only [remaining, slice, require] at overflow
  split at overflow
  · simp only [bind, Except.bind] at overflow
    split at overflow <;> cases overflow
  · cases overflow

theorem bump_ne_wordOverflow (fits : cursor.windowEnd ≤ wordLimit)
    (character : Char) : cursor.bump character ≠ .error .wordOverflow := by
  intro overflow
  cases left : cursor.remaining with
  | error breach =>
      rw [bump, current, left] at overflow
      cases overflow
      exact remaining_ne_wordOverflow left
  | ok text =>
      have reads : cursor.Reads text := ⟨slice?_of_remaining left, fits⟩
      by_cases same : text.head? = some character
      · rcases List.head?_eq_some_iff.mp same with ⟨rest, rfl⟩
        rw [reads.bump] at overflow
        cases overflow
      · rw [bump, reads.current] at overflow
        simp only [bind, Except.bind, require, if_neg same] at overflow
        cases overflow

theorem eatUntilLineEnd_ne_wordOverflow
    (fits : cursor.windowEnd ≤ wordLimit) :
    cursor.eatUntilLineEnd ≠ .error .wordOverflow := by
  intro overflow
  cases left : cursor.remaining with
  | error breach =>
      rw [eatUntilLineEnd, left] at overflow
      cases overflow
      exact remaining_ne_wordOverflow left
  | ok text =>
      have reads : cursor.Reads text := ⟨slice?_of_remaining left, fits⟩
      rw [reads.eatUntilLineEnd] at overflow
      cases overflow

/-- No cursor adds beyond the end of its window. -/
theorem staysInWord (fits : cursor.windowEnd ≤ wordLimit) :
    cursor.StaysInWord := by
  constructor
  case character =>
    intro character found
    rcases exists_of_current found with ⟨rest, window⟩
    have far := (Text.bounds_of_slice? window).2.2.1
    rw [Text.byteLength_cons] at far
    omega
  case line =>
    intro text left
    have far := (Text.bounds_of_slice? (slice?_of_remaining left)).2.2.1
    have within := Text.lineBytes_le text
    omega
  case bump => exact bump_ne_wordOverflow fits
  case eatUntilLineEnd => exact eatUntilLineEnd_ne_wordOverflow fits

end Cursor

/-! ## Depth and position -/

/-- A token deepens the nesting by no more than half its bytes. -/
theorem Reading.TracksNesting.depth_le {before : Nesting} {reading : Reading}
    (tracks : TracksNesting before reading) :
    2 * reading.state.nesting.depth ≤
      2 * before.depth + Text.byteLength reading.text := by
  by_cases isOpener : reading.isOpener
  · have deeper := tracks.opener isOpener
    have long : 2 ≤ Text.byteLength reading.text := by
      rw [Reading.isOpener, Bool.and_eq_true, Bool.or_eq_true,
        decide_eq_true_eq, decide_eq_true_eq] at isOpener
      rcases isOpener with ⟨-, short | long⟩
      · rw [short]
        decide
      · rw [long]
        decide
    omega
  · by_cases isCloser : reading.isCloser
    · have shallower := (tracks.closer isCloser).2
      omega
    · have same := tracks.other isOpener isCloser
      omega

namespace Scanner

/--
The second scanner has read on from the first, and every comment that it has
opened on the way has taken two bytes.
-/
structure DeepensSlowly (first later : Scanner) : Prop where
  position_le : first.position ≤ later.position
  depth_le :
    2 * later.nesting.depth ≤
      2 * first.nesting.depth + (later.position - first.position)

namespace DeepensSlowly

theorem trans {first later last : Scanner}
    (start : first.DeepensSlowly later) (rest : later.DeepensSlowly last) :
    first.DeepensSlowly last := by
  rcases start with ⟨startPosition, startDepth⟩
  rcases rest with ⟨restPosition, restDepth⟩
  constructor <;> omega

/-- The depth is bounded by half the rest of the window at the start. -/
theorem depth_le_half {first later : Scanner}
    (slowly : first.DeepensSlowly later)
    (within : later.position ≤ first.windowEnd) :
    later.nesting.depth ≤
      first.nesting.depth + (first.windowEnd - first.position) / 2 := by
  rcases slowly with ⟨position, depth⟩
  omega

end DeepensSlowly

theorem deepensSlowly_advance (scanner : Scanner) :
    scanner.DeepensSlowly scanner.advance.2 := by
  cases found :
      Piece.first? scanner.granularity scanner.nesting scanner.unread with
  | none =>
      rw [advance_of_nil (Piece.first?_eq_none_iff.mp found)]
      exact ⟨Nat.le_refl _, Nat.le_add_right _ _⟩
  | some piece =>
      have deepens := (Piece.tracksNesting found scanner.position).depth_le
      have moved :
          (scanner.behind piece).position =
            scanner.position + Text.byteLength piece.text := rfl
      rw [advance_of_first? found]
      refine ⟨?_, ?_⟩
      · rw [moved]
        exact Nat.le_add_right _ _
      · rw [moved, Nat.add_sub_cancel_left]
        exact deepens

end Scanner

namespace Session

variable {session : Session} {call : Call} {calls : List Call}

/-- Calls that read on deepen the nesting by half the bytes that they read. -/
theorem deepensSlowly_of_mem (advance : ∀ next ∈ calls, next.advances) :
    ∀ outcome ∈ session.performAll calls,
      session.scanner.DeepensSlowly outcome.after.scanner := by
  induction calls generalizing session with
  | nil => simp [performAll]
  | cons first rest inductionHypothesis =>
      rcases List.forall_mem_cons.mp advance with ⟨advances, restAdvance⟩
      have read :
          session.scanner.DeepensSlowly
            (session.perform first).after.scanner := by
        rw [perform_of_advances session advances]
        exact session.scanner.deepensSlowly_advance
      intro outcome member
      rcases List.mem_cons.mp member with rfl | later
      · exact read
      · exact read.trans (inductionHypothesis restAdvance outcome later)

/-- Calls that read on stay in the window at hand. -/
theorem sameWindow_of_mem (advance : ∀ next ∈ calls, next.advances) :
    ∀ outcome ∈ session.performAll calls,
      session.scanner.SameWindow outcome.after.scanner := by
  intro outcome member
  have keep : ∀ next ∈ calls, ¬ next.replacesScanner := fun next inCalls =>
    Call.not_replacesScanner_of_advances (advance next inCalls)
  exact (moves_of_mem keep outcome member).sameWindow.1

/-- A scan begins in place on the target of its call. -/
theorem begins_of_target? {target : Target}
    (asked : session.target? call = some target)
    (done : (session.perform call).reply = .done) :
    (session.perform call).after.scanner.IsPlaced ∧
      (session.perform call).after.scanner.buffer = target.buffer ∧
      (session.perform call).after.scanner.nesting = target.nesting := by
  by_cases whole : target.IsWhole
  · rcases perform_of_isWhole asked whole with
      ⟨scanner, -, after, placed, registers⟩
    rw [after]
    exact
      ⟨placed,
        congrArg (fun registers => registers.cursor.buffer) registers,
        congrArg (fun registers => registers.state.nesting) registers⟩
  · rw [perform_of_not_isWhole asked whole] at done
    cases done

/-- A scan begins in place, in the buffer that its call brings along. -/
theorem begins_of_done {buffer : Text} (brought : call.buffer? = some buffer)
    (done : (session.perform call).reply = .done) :
    (session.perform call).after.scanner.IsPlaced ∧
      (session.perform call).after.scanner.buffer = buffer ∧
      (call.startsShallow →
        (session.perform call).after.scanner.nesting.depth ≤ 1) := by
  cases call with
  | restart other granularity =>
      cases brought
      exact ⟨Scanner.isPlaced_ofText buffer granularity, rfl,
        fun _ => Nat.zero_le 1⟩
  | reset other start stop mode =>
      cases brought
      cases mode with
      | outside =>
          rcases begins_of_target? rfl done with ⟨placed, same, nesting⟩
          rw [nesting]
          exact ⟨placed, same, fun _ => Nat.zero_le 1⟩
      | inside =>
          rcases begins_of_target? rfl done with ⟨placed, same, nesting⟩
          rw [nesting]
          exact ⟨placed, same, fun _ => Nat.le_refl 1⟩
  | resume other stop point =>
      cases brought
      cases found : session.stateAt? point with
      | none =>
          rw [perform, found] at done
          cases done
      | some state =>
          have asked :
              session.target? (.resume buffer stop point) =
                some (.clamp buffer state.position stop state.nesting) := by
            rw [target?, found]
            rfl
          rcases begins_of_target? asked done with ⟨placed, same, -⟩
          refine ⟨placed, same, ?_⟩
          intro impossible
          cases impossible
  | _ => cases brought

/--
A scan that begins with a call for a buffer that fits in machine words, and
then only reads on, goes no deeper than half the bytes that it has read, and so
never beyond a machine word.  From one open comment at most the depth takes no
more than half of the words, and from any other depth that leaves room for half
the window the registers go through all calls as well.  The end of the window
stays as it is, and no cursor with this end adds beyond it.
-/
theorem performAll_depth {buffer : Text}
    (brought : call.buffer? = some buffer)
    (small : Text.byteLength buffer ≤ wordLimit)
    (done : (session.perform call).reply = .done)
    (advance : ∀ next ∈ calls, next.advances) :
    let begun := (session.perform call).after
    (∀ outcome ∈ begun.performAll calls,
        begun.scanner.DeepensSlowly outcome.after.scanner ∧
          outcome.after.scanner.windowEnd = begun.scanner.windowEnd) ∧
      (call.startsShallow →
        begun.scanner.nesting.depth ≤ 1 ∧
          ∀ outcome ∈ begun.performAll calls,
            outcome.after.scanner.nesting.depth ≤ 2147483648) ∧
      (call.startsShallow ∨
          begun.scanner.nesting.depth +
              (begun.scanner.windowEnd - begun.scanner.position) / 2 ≤
            wordLimit →
        begun.scanner.registers.performAll calls =
          .ok ((begun.performAll calls).map fun outcome =>
            (outcome.reply, outcome.after.scanner.registers))) ∧
      begun.scanner.windowEnd ≤ wordLimit ∧
      ∀ cursor : Cursor, cursor.windowEnd = begun.scanner.windowEnd →
        cursor.StaysInWord := by
  intro begun
  rcases begins_of_done brought done with ⟨placed, sameBuffer, shallow⟩
  have fits : begun.scanner.Fits := placed.fits (by rw [sameBuffer]; exact small)
  have inWord : begun.scanner.windowEnd ≤ wordLimit := fits.words
  have slowly : ∀ outcome ∈ begun.performAll calls,
      begun.scanner.DeepensSlowly outcome.after.scanner :=
    deepensSlowly_of_mem advance
  have sameEnd : ∀ outcome ∈ begun.performAll calls,
      outcome.after.scanner.windowEnd = begun.scanner.windowEnd :=
    fun outcome member =>
      (sameWindow_of_mem advance outcome member).windowEnd
  have half : ∀ outcome ∈ begun.performAll calls,
      outcome.after.scanner.nesting.depth ≤
        begun.scanner.nesting.depth +
          (begun.scanner.windowEnd - begun.scanner.position) / 2 := by
    intro outcome member
    apply (slowly outcome member).depth_le_half
    rw [← sameEnd outcome member]
    exact Nat.le_add_right _ _
  have limit : wordLimit = 4294967295 := rfl
  refine ⟨fun outcome member =>
    ⟨slowly outcome member, sameEnd outcome member⟩, ?_, ?_, inWord, ?_⟩
  · intro starts
    have first : begun.scanner.nesting.depth ≤ 1 := shallow starts
    refine ⟨first, ?_⟩
    intro outcome member
    have bound := half outcome member
    omega
  · intro room
    apply registers_performAll fits
    · intro next inCalls
      exact Call.fits_of_advances (advance next inCalls)
    · intro outcome member
      have bound := half outcome member
      rcases room with starts | room
      · have first : begun.scanner.nesting.depth ≤ 1 := shallow starts
        omega
      · exact Nat.le_trans bound room
  · intro cursor same
    apply Cursor.staysInWord
    rw [same]
    exact inWord

/--
Two openers in four bytes take the depth of a comment that is resumed up to
the largest machine word, and the registers go along.
-/
theorem performAll_depth_largestWord :
    ∃ session begun : Session, ∃ trail,
      session.perform
          (.resume ['/', '*', '/', '*'] 4
            (.state ⟨0, ⟨4294967293, .doc⟩⟩)) =
          ⟨.done, [.resume ⟨0, 4⟩ ⟨4294967293, .doc⟩], begun⟩ ∧
        begun.scanner.registers.performAll
            [.advance, .tryAdvance, .advance] =
          .ok trail ∧
        trail.map (fun entry => entry.2.state.nesting.depth) =
          [4294967294, wordLimit, wordLimit] := by
  let session := ofText ['x'] .lexemes
  let call : Call :=
    .resume ['/', '*', '/', '*'] 4 (.state ⟨0, ⟨4294967293, .doc⟩⟩)
  let calls : List Call := [.advance, .tryAdvance, .advance]
  have brought : call.buffer? = some ['/', '*', '/', '*'] := rfl
  have small : Text.byteLength ['/', '*', '/', '*'] ≤ wordLimit := by decide
  have done : (session.perform call).reply = .done := rfl
  have advance : ∀ next ∈ calls, next.advances := by decide
  rcases performAll_depth brought small done advance with
    ⟨-, -, goesThrough, -, -⟩
  refine ⟨session, _, _, rfl, goesThrough (Or.inr (by decide)), ?_⟩
  rw [List.map_map]
  rfl

end Session

end CommentScan
