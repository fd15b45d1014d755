import CommentScan.Proofs.Text.Boundary
import CommentScan.Scanner.Stream

/-!
# Reachable scanners

A scanner is reachable if some calls lead to it: it is made for a text, placed
on windows, read on and given characters back, in any order and over any
buffers.

The invariant of these calls is `IsPlaced`: the current token and what is
unread lie in the buffer one behind the other, from the start of the token to
the end of the window.  `Reachable.isPlaced` says that every reachable scanner
keeps it.
-/

namespace CommentScan.Scanner

/-- The scanners that some calls lead to. -/
inductive Reachable : Scanner → Prop where
  | ofText (buffer : Text) (granularity : Granularity) :
      Reachable (.ofText buffer granularity)
  | reset {scanner after : Scanner} {buffer : Text} {start stop : Nat}
      {mode : Mode} (reachable : Reachable scanner)
      (placed : scanner.reset buffer start stop mode = .ok after) :
      Reachable after
  | resume {scanner after : Scanner} {buffer : Text} {stop : Nat}
      {state : ScanState} (reachable : Reachable scanner)
      (placed : scanner.resume buffer stop state = .ok after) :
      Reachable after
  | advance {scanner after : Scanner} {result : Option Token}
      (reachable : Reachable scanner)
      (advanced : scanner.tryAdvance = .ok (result, after)) :
      Reachable after
  | pushBack {scanner after : Scanner} {count : Nat}
      (reachable : Reachable scanner)
      (pushed : scanner.pushBack count = .ok after) :
      Reachable after

/--
The current token and what is unread stand in the buffer, one behind the
other, from the start of the token to the end of the window.
-/
def IsPlaced (scanner : Scanner) : Prop :=
  Text.slice? scanner.buffer scanner.tokenStart scanner.windowEnd =
    some (scanner.tokenText ++ scanner.unread)

/-- A scanner of a text that is not too long has all of it to read. -/
theorem unread_ofText {buffer : Text}
    (small : Text.byteLength buffer ≤ wordLimit)
    (granularity : Granularity) :
    (ofText buffer granularity).unread = buffer := by
  rw [ofText, Text.reachable?_of_le small]
  rfl

theorem windowEnd_ofText {buffer : Text}
    (small : Text.byteLength buffer ≤ wordLimit)
    (granularity : Granularity) :
    (ofText buffer granularity).windowEnd = Text.byteLength buffer := by
  rw [windowEnd, position_ofText, unread_ofText small, Nat.zero_add]

/-- The window of a whole text starts with it and ends where offsets do. -/
theorem window_ofText (buffer : Text) (granularity : Granularity) :
    Text.slice? buffer 0 (ofText buffer granularity).windowEnd =
        some (ofText buffer granularity).unread ∧
      (ofText buffer granularity).windowEnd ≤ wordLimit := by
  rw [windowEnd, position_ofText, Nat.zero_add, ofText]
  cases reached : buffer.reachable? with
  | none => exact ⟨Text.slice?_middle [] [] buffer, Nat.zero_le _⟩
  | some unread =>
      have far := (Text.bounds_of_slice? reached).2.2.1
      rw [Nat.zero_add] at far
      rw [Option.getD_some, ← far]
      exact ⟨reached, Nat.min_le_right _ _⟩

theorem isPlaced_ofText (buffer : Text) (granularity : Granularity) :
    (ofText buffer granularity).IsPlaced :=
  (window_ofText buffer granularity).1

/-- A window is placed with an empty token at its start. -/
theorem ofWindow_eq_ok_iff {buffer : Text} {granularity : Granularity}
    {start stop : Nat} {nesting : Nesting} {scanner : Scanner} :
    ofWindow buffer granularity start stop nesting = .ok scanner ↔
      ∃ unread,
        Text.slice? buffer
            (min start (min stop (Text.byteLength buffer)))
            (min stop (Text.byteLength buffer)) =
          some unread ∧
        scanner =
          { buffer := buffer
            granularity := granularity
            nesting := nesting
            tokenStart := min start (min stop (Text.byteLength buffer))
            tokenText := []
            unread := unread
            endReported := false } := by
  unfold ofWindow
  simp only
  cases sliced :
      Text.slice? buffer (min start (min stop (Text.byteLength buffer)))
        (min stop (Text.byteLength buffer)) with
  | none => simp
  | some unread => simp [eq_comm]

/-- Where there is a slice to read, resuming makes it the window. -/
theorem resume_of_slice? (scanner : Scanner) {buffer unread : Text}
    {start stop : Nat}
    (window : Text.slice? buffer start stop = some unread)
    (nesting : Nesting) :
    scanner.resume buffer stop ⟨start, nesting⟩ =
      .ok
        { buffer := buffer
          granularity := scanner.granularity
          nesting := nesting
          tokenStart := start
          tokenText := []
          unread := unread
          endReported := false } := by
  rcases Text.bounds_of_slice? window with ⟨-, -, far, within⟩
  have ordered : start ≤ stop := by
    rw [far]
    exact Nat.le_add_right _ _
  have stopEq := Nat.min_eq_left within
  have startEq := Nat.min_eq_left ordered
  refine ofWindow_eq_ok_iff.mpr ⟨unread, ?_, ?_⟩
  · rw [stopEq, startEq]
    exact window
  · rw [stopEq, startEq]

/-- A scanner resumes wherever there is a slice to read. -/
theorem exists_resume (scanner : Scanner) {buffer unread : Text}
    {state : ScanState} {stop : Nat}
    (window : Text.slice? buffer state.position stop = some unread) :
    ∃ resumed,
      scanner.resume buffer stop state = .ok resumed ∧
        resumed.granularity = scanner.granularity ∧
        resumed.state = state ∧ resumed.unread = unread :=
  ⟨_, scanner.resume_of_slice? window state.nesting, rfl, rfl, rfl⟩

/-- The current token of a scanner that has just been placed is empty. -/
theorem tokenSpan_ofWindow {buffer : Text} {granularity : Granularity}
    {start stop : Nat} {nesting : Nesting} {scanner : Scanner}
    (placed : ofWindow buffer granularity start stop nesting = .ok scanner) :
    scanner.tokenSpan = ⟨scanner.position, scanner.position⟩ := by
  rcases ofWindow_eq_ok_iff.mp placed with ⟨unread, -, rfl⟩
  rfl

theorem isPlaced_ofWindow {buffer : Text} {granularity : Granularity}
    {start stop : Nat} {nesting : Nesting} {scanner : Scanner}
    (placed : ofWindow buffer granularity start stop nesting = .ok scanner) :
    scanner.IsPlaced := by
  rcases ofWindow_eq_ok_iff.mp placed with ⟨unread, sliced, rfl⟩
  rcases Text.bounds_of_slice? sliced with ⟨-, -, far, -⟩
  simp only [IsPlaced, windowEnd, position, Text.byteLength_nil,
    Nat.add_zero, List.nil_append]
  rw [← far]
  exact sliced

theorem IsPlaced.read {scanner : Scanner} (placed : scanner.IsPlaced)
    (lexeme : Lexeme) : (scanner.read lexeme).IsPlaced := by
  rcases Text.slice?_append_iff.mp placed with ⟨-, unreadPlaced⟩
  rw [IsPlaced, windowEnd_read, tokenText_append_unread_read]
  exact unreadPlaced

theorem IsPlaced.tryAdvance {scanner after : Scanner}
    {result : Option Token} (placed : scanner.IsPlaced)
    (advanced : scanner.tryAdvance = .ok (result, after)) :
    after.IsPlaced := by
  rw [tryAdvance_eq, Except.ok.injEq] at advanced
  cases found : Lexeme.longest? scanner.mode scanner.unread with
  | none =>
      rw [advance_of_nil (Lexeme.longest?_eq_none_iff.mp found)] at advanced
      cases advanced
      exact placed
  | some lexeme =>
      rw [advance_of_longest found] at advanced
      cases advanced
      exact placed.read lexeme

theorem IsPlaced.pushBack {scanner after : Scanner} {count : Nat}
    (placed : scanner.IsPlaced)
    (pushed : scanner.pushBack count = .ok after) : after.IsPlaced := by
  have sameEnd := windowEnd_pushBack pushed
  rcases pushBack_eq_ok_iff.mp pushed with ⟨kept, returned, whole, -, rfl⟩
  rw [IsPlaced, sameEnd]
  simp only
  rw [← List.append_assoc, ← whole]
  exact placed

/-- Whatever calls lead to a scanner, its token and window are in place. -/
theorem Reachable.isPlaced {scanner : Scanner}
    (reachable : Reachable scanner) : scanner.IsPlaced := by
  induction reachable with
  | ofText buffer granularity => exact isPlaced_ofText buffer granularity
  | reset _ placed => exact isPlaced_ofWindow placed
  | resume _ placed => exact isPlaced_ofWindow placed
  | advance _ advanced inductionHypothesis =>
      exact inductionHypothesis.tryAdvance advanced
  | pushBack _ pushed inductionHypothesis =>
      exact inductionHypothesis.pushBack pushed

/-- The text of the current token is what its span covers. -/
theorem IsPlaced.tokenText {scanner : Scanner} (placed : scanner.IsPlaced) :
    scanner.tokenSpan.slice? scanner.buffer = some scanner.tokenText :=
  (Text.slice?_append_iff.mp placed).1

/-- What is unread reaches from the position to the end of the window. -/
theorem IsPlaced.unread {scanner : Scanner} (placed : scanner.IsPlaced) :
    Text.slice? scanner.buffer scanner.position scanner.windowEnd =
      some scanner.unread :=
  (Text.slice?_append_iff.mp placed).2

/-- The position is the end of the window where nothing is unread. -/
theorem position_eq_windowEnd_iff {scanner : Scanner} :
    scanner.position = scanner.windowEnd ↔ scanner.unread = [] := by
  unfold windowEnd
  constructor
  · intro same
    apply Text.eq_nil_of_byteLength_eq_zero
    omega
  · intro finished
    rw [finished]
    rfl

end CommentScan.Scanner
