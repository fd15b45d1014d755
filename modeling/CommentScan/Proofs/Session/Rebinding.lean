import CommentScan.Proofs.Session.Invariant
import CommentScan.Proofs.Session.Trace

/-!
# Placing a scanner anew

A scanner in use can be placed on another window.  The offsets of the window
are moved into the buffer first, and a window of which one end splits a
character is refused.  Any other one replaces all that the scanner holds but
its options: nothing is left of the current token, of the comments that were
open, or of an end that has been met.

`Target` is where a call leads, as its arguments tell, and
`Target.registers` are the registers there.  Since the registers determine a
scanner that is in place, two scanners that are placed on one target cannot be
told apart.  `perform_rebinds` says so for every call that has a target.
-/

namespace CommentScan

/-- The end of the window that a call asks for. -/
def Call.stop? : Call → Option Nat
  | reset _ _ stop _ | resume _ stop _ => some stop
  | _ => none

/-- A window of a buffer, with the comments that are open at its start. -/
structure Target where
  buffer : Text
  window : Span
  nesting : Nesting
  deriving DecidableEq, Repr

namespace Target

/-- The end is moved into the buffer, and the start in front of the end. -/
def clamp (buffer : Text) (start stop : Nat) (nesting : Nesting) : Target :=
  let stop := min stop (Text.byteLength buffer)
  ⟨buffer, ⟨min start stop, stop⟩, nesting⟩

/-- Neither end of the window splits a character. -/
def IsWhole (target : Target) : Prop :=
  Text.IsBoundary target.buffer target.window.start ∧
    Text.IsBoundary target.buffer target.window.stop

instance (target : Target) : Decidable target.IsWhole :=
  inferInstanceAs (Decidable (_ ∧ _))

/-- The refusal of a window that splits a character. -/
def refusal (target : Target) : WindowError :=
  ⟨target.window.start, target.window.stop⟩

/-- Registers at the start of the window, in front of the first token. -/
def registers (target : Target) (granularity : Granularity) : Registers where
  cursor := ⟨target.buffer, target.window.start, target.window.stop⟩
  state := ⟨target.window.start, target.nesting⟩
  granularity := granularity
  token := ⟨target.window.start, target.window.start⟩
  endReported := false

/-- A window is whole exactly if there is something to read in it. -/
theorem isWhole_clamp_iff {buffer : Text} {start stop : Nat}
    {nesting : Nesting} :
    (clamp buffer start stop nesting).IsWhole ↔
      ∃ unread,
        Text.slice? buffer
            (min start (min stop (Text.byteLength buffer)))
            (min stop (Text.byteLength buffer)) =
          some unread := by
  constructor
  · rintro ⟨left, right⟩
    exact Text.exists_slice? left right (Nat.min_le_right _ _)
  · rintro ⟨unread, sliced⟩
    rcases Text.bounds_of_slice? sliced with ⟨left, right, -, -⟩
    exact ⟨left, right⟩

end Target

namespace Scanner

/-- Where a window is whole, a scanner is placed at its start. -/
theorem exists_ofWindow {buffer : Text} {start stop : Nat}
    {nesting : Nesting}
    (whole : (Target.clamp buffer start stop nesting).IsWhole)
    (granularity : Granularity) :
    ∃ scanner,
      ofWindow buffer granularity start stop nesting = .ok scanner ∧
        scanner.registers =
          (Target.clamp buffer start stop nesting).registers granularity := by
  rcases Target.isWhole_clamp_iff.mp whole with ⟨unread, sliced⟩
  have far := (Text.bounds_of_slice? sliced).2.2.1
  refine ⟨_, ofWindow_eq_ok_iff.mpr ⟨unread, sliced, rfl⟩, ?_⟩
  simp only [registers, windowEnd, position, Text.byteLength_nil,
    Nat.add_zero, ← far]
  rfl

theorem ofWindow_of_not_isWhole {buffer : Text} {start stop : Nat}
    {nesting : Nesting}
    (splits : ¬ (Target.clamp buffer start stop nesting).IsWhole)
    (granularity : Granularity) :
    ofWindow buffer granularity start stop nesting =
      .error (Target.clamp buffer start stop nesting).refusal := by
  cases placed : ofWindow buffer granularity start stop nesting with
  | ok scanner =>
      rcases ofWindow_eq_ok_iff.mp placed with ⟨unread, sliced, -⟩
      exact absurd (Target.isWhole_clamp_iff.mpr ⟨unread, sliced⟩) splits
  | error error =>
      unfold ofWindow at placed
      simp only at placed
      split at placed
      · cases placed
      · cases placed
        rfl

/-- The registers of a scanner in place tell everything about it. -/
theorem eq_of_registers_eq {left right : Scanner}
    (leftPlaced : left.IsPlaced) (rightPlaced : right.IsPlaced)
    (same : left.registers = right.registers) : left = right := by
  have buffer : left.buffer = right.buffer :=
    congrArg (fun registers => registers.cursor.buffer) same
  have windowEnd : left.windowEnd = right.windowEnd :=
    congrArg (fun registers => registers.cursor.windowEnd) same
  have position : left.position = right.position :=
    congrArg (fun registers => registers.cursor.position) same
  have token : left.tokenSpan = right.tokenSpan :=
    congrArg Registers.token same
  -- The characters are those that the buffer has between the offsets.
  have tokenText : left.tokenText = right.tokenText := by
    have leftText := leftPlaced.tokenText
    rw [buffer, token, rightPlaced.tokenText] at leftText
    exact (Option.some.inj leftText).symm
  have unread : left.unread = right.unread := by
    have leftUnread := leftPlaced.unread
    rw [buffer, position, windowEnd, rightPlaced.unread] at leftUnread
    exact (Option.some.inj leftUnread).symm
  have granularity : left.granularity = right.granularity :=
    congrArg Registers.granularity same
  have nesting : left.nesting = right.nesting :=
    congrArg (fun registers => registers.state.nesting) same
  have tokenStart : left.tokenStart = right.tokenStart :=
    congrArg Span.start token
  have endReported : left.endReported = right.endReported :=
    congrArg Registers.endReported same
  cases left
  cases right
  cases buffer
  cases tokenText
  cases unread
  cases granularity
  cases nesting
  cases tokenStart
  cases endReported
  rfl

end Scanner

/-- Registers resume at any state in a window whose end is a machine word. -/
theorem Registers.resume_eq (registers : Registers) {buffer : Text}
    {stop : Nat} (word : stop ≤ wordLimit) (state : ScanState) :
    registers.resume buffer stop state =
      let target := Target.clamp buffer state.position stop state.nesting
      .ok
        (if target.IsWhole then
          (.done, target.registers registers.granularity)
        else
          (.misplaced target.refusal, registers)) := by
  have reaches :
      min stop (Text.reachableLength buffer) =
        min stop (Text.byteLength buffer) := by
    rw [Text.reachableLength]
    omega
  by_cases whole :
      (Target.clamp buffer state.position stop state.nesting).IsWhole
  · rcases Target.isWhole_clamp_iff.mp whole with ⟨unread, sliced⟩
    simp only [if_pos whole]
    exact registers.resume_of_slice? reaches sliced
  · simp only [if_neg whole]
    rw [Target.isWhole_clamp_iff, ← Option.isSome_iff_exists,
      Option.not_isSome_iff_eq_none] at whole
    exact registers.resume_of_slice?_eq_none reaches whole

namespace Session

/-- Where a call places the scanner, if it does. -/
def target? (session : Session) : Call → Option Target
  | .reset buffer start stop .outside =>
      some (.clamp buffer start stop ⟨0, .block⟩)
  | .reset buffer start stop .inside =>
      some (.clamp buffer start stop ⟨1, .block⟩)
  | .resume buffer stop point =>
      (session.stateAt? point).map fun state =>
        .clamp buffer state.position stop state.nesting
  | _ => none

variable {session : Session} {call : Call} {target : Target}

/-- A call that has a target places the scanner there. -/
theorem exists_place (asked : session.target? call = some target) :
    ∃ start stop event,
      target = .clamp target.buffer start stop target.nesting ∧
        session.perform call =
          session.place event
            (Scanner.ofWindow target.buffer session.scanner.granularity start
              stop target.nesting) := by
  cases call with
  | reset buffer start stop mode =>
      cases mode <;>
        · cases asked
          exact ⟨start, stop, Log.ofReset, rfl, rfl⟩
  | resume buffer stop point =>
      rcases Option.map_eq_some_iff.mp asked with ⟨state, found, rfl⟩
      refine ⟨state.position, stop, Log.ofResume, rfl, ?_⟩
      simp only [perform, found]
      rfl
  | _ => cases asked

theorem perform_of_not_isWhole (asked : session.target? call = some target)
    (splits : ¬ target.IsWhole) :
    session.perform call = session.answer (.misplaced target.refusal) := by
  rcases exists_place asked with ⟨start, stop, event, clamped, performed⟩
  rw [clamped] at splits ⊢
  rw [performed, Scanner.ofWindow_of_not_isWhole splits]
  rfl

theorem perform_of_isWhole (asked : session.target? call = some target)
    (whole : target.IsWhole) :
    ∃ scanner,
      (session.perform call).reply = .done ∧
        (session.perform call).after = session.withScanner scanner ∧
        scanner.IsPlaced ∧
        scanner.registers =
          target.registers session.scanner.granularity := by
  rcases exists_place asked with ⟨start, stop, event, clamped, performed⟩
  rw [clamped] at whole
  rcases Scanner.exists_ofWindow whole session.scanner.granularity with
    ⟨scanner, placed, registers⟩
  rw [← clamped] at registers
  rw [performed, placed]
  exact ⟨scanner, rfl, rfl, Scanner.isPlaced_ofWindow placed, registers⟩

/-- Placing registers goes through whatever they hold. -/
theorem registers_perform_of_target?
    (asked : session.target? call = some target) (basic : call.isBasic)
    (words : ∀ stop ∈ call.stop?, stop ≤ wordLimit)
    (registers : Registers) :
    registers.perform call =
      .ok
        (if target.IsWhole then
          (.done, target.registers registers.granularity)
        else
          (.misplaced target.refusal, registers)) := by
  cases call with
  | reset buffer start stop mode =>
      have word := words stop rfl
      cases mode with
      | outside =>
          cases asked
          exact registers.resume_eq word (.ofMode start .outside)
      | inside =>
          cases asked
          exact registers.resume_eq word (.ofMode start .inside)
  | resume buffer stop point =>
      have word := words stop rfl
      cases point with
      | snapshot => cases basic
      | state state =>
          cases asked
          exact registers.resume_eq word state
  | _ => cases asked

/--
What a call does that places the scanner.  A window that splits a character is
refused, which changes nothing and causes no event.  Any other one is reported
as the only event, and the registers behind the call are those at its start,
with the options that the scanner had.  The states saved and the copies are
left alone.  Registers are placed whatever they hold: nothing that placing
them relies on is ever missing.
-/
structure Rebinds (session : Session) (call : Call) (target : Target) :
    Prop where
  refused :
    ¬ target.IsWhole →
      session.perform call = session.answer (.misplaced target.refusal)
  placed :
    target.IsWhole →
      (session.perform call).reply = .done ∧
        (session.perform call).events = session.placement call ∧
        (session.perform call).after.scanner.registers =
          target.registers session.scanner.granularity ∧
        (session.perform call).after.scanner.tokenText = [] ∧
        (session.perform call).after.snapshots = session.snapshots ∧
        (session.perform call).after.copies = session.copies
  registers :
    call.isBasic → (∀ stop ∈ call.stop?, stop ≤ wordLimit) →
      ∀ registers : Registers,
        registers.perform call =
          .ok
            (if target.IsWhole then
              (.done, target.registers registers.granularity)
            else
              (.misplaced target.refusal, registers))

/-- Two outcomes that neither the reply nor any later call tells apart. -/
structure Outcome.Alike (left right : Outcome) : Prop where
  reply : left.reply = right.reply
  scanner : left.after.scanner = right.after.scanner
  later :
    left.after.snapshots = right.after.snapshots →
      left.after.copies = right.after.copies →
        ∀ calls, left.after.performAll calls = right.after.performAll calls

theorem Outcome.alike_of_scanner_eq {left right : Outcome}
    (reply : left.reply = right.reply)
    (scanner : left.after.scanner = right.after.scanner) :
    left.Alike right := by
  refine ⟨reply, scanner, ?_⟩
  intro snapshots copies calls
  have same : left.after = right.after := by
    rcases left with ⟨leftReply, leftEvents, leftAfter⟩
    rcases right with ⟨rightReply, rightEvents, rightAfter⟩
    cases leftAfter
    cases rightAfter
    cases scanner
    cases snapshots
    cases copies
    rfl
  rw [same]

/-- What a call with a target does is told by the target. -/
theorem rebinds_of_target? (asked : session.target? call = some target) :
    session.Rebinds call target := by
  refine ⟨perform_of_not_isWhole asked, ?_,
    registers_perform_of_target? asked⟩
  intro whole
  rcases perform_of_isWhole asked whole with
    ⟨scanner, done, after, placed, registers⟩
  have text := placed.tokenText
  have span :
      scanner.tokenSpan = ⟨target.window.start, target.window.start⟩ :=
    congrArg Registers.token registers
  have bytes := (Text.bounds_of_slice? text).2.2.1
  rw [span] at bytes
  have empty : scanner.tokenText = [] := by
    apply Text.eq_nil_of_byteLength_eq_zero
    simp only at bytes
    omega
  rw [after]
  exact ⟨done, events_of_done done, registers, empty, rfl, rfl⟩

/-- Scanners that are placed on one target are the same behind the call. -/
theorem alike_of_target? {other : Session} {twin : Call}
    (asked : session.target? call = some target)
    (twinAsked : other.target? twin = some target)
    (sameOptions :
      other.scanner.granularity = session.scanner.granularity)
    (whole : target.IsWhole) :
    (other.perform twin).Alike (session.perform call) := by
  rcases perform_of_isWhole asked whole with
    ⟨scanner, done, after, placed, registers⟩
  rcases perform_of_isWhole twinAsked whole with
    ⟨twinScanner, twinDone, twinAfter, twinPlaced, twinRegisters⟩
  rw [sameOptions, ← registers] at twinRegisters
  apply Outcome.alike_of_scanner_eq
  · rw [twinDone, done]
  · rw [twinAfter, after]
    exact Scanner.eq_of_registers_eq twinPlaced placed twinRegisters

/-- A reset and resuming in the state of its mode only differ in the event. -/
theorem alike_reset_resume (session : Session) (buffer : Text)
    (start stop : Nat) (mode : Mode) :
    (session.perform (.reset buffer start stop mode)).Alike
      (session.perform
        (.resume buffer stop (.state (.ofMode start mode)))) := by
  apply Outcome.alike_of_scanner_eq <;>
    · simp only [perform, stateAt?, Scanner.reset_eq_resume]
      cases session.scanner.resume buffer stop (.ofMode start mode) <;> rfl

/--
Placing a scanner moves the offsets into the buffer, looks whether the window
splits a character and then replaces everything but the options.  So whatever
two scanners with the same options have gone through before, and by whichever
call each of them is placed, behind a call with the same target they are the
same scanner: no further call has another reply, another event or another
scanner behind it.  A reset is resuming in the state of its mode, also where
both are refused.
-/
theorem perform_rebinds (asked : session.target? call = some target) :
    session.Rebinds call target ∧
      (∀ (other : Session) (twin : Call),
        other.target? twin = some target →
          other.scanner.granularity = session.scanner.granularity →
            target.IsWhole →
              (other.perform twin).Alike (session.perform call)) ∧
      ∀ buffer start stop mode,
        (session.perform (.reset buffer start stop mode)).Alike
          (session.perform
            (.resume buffer stop (.state (.ofMode start mode)))) := by
  refine ⟨rebinds_of_target? asked, ?_, session.alike_reset_resume⟩
  intro other twin twinAsked sameOptions whole
  exact alike_of_target? asked twinAsked sameOptions whole

/--
A state of a longer text is resumed in one of three bytes, at the end of which
the comments stay open.  A scanner that has met the end of another text goes on
from there like a fresh one, and a window that splits a character is refused.
-/
theorem perform_rebinds_staleState :
    ∃ session other : Session,
      session.scanner ≠ other.scanner ∧
        (session.perform
            (.resume ['x', 'é'] 9 (.state ⟨7, ⟨2, .doc⟩⟩))).reply =
          .done ∧
        (session.perform
            (.resume ['x', 'é'] 9
              (.state ⟨7, ⟨2, .doc⟩⟩))).after.scanner.registers =
          ⟨⟨['x', 'é'], 3, 3⟩, ⟨3, ⟨2, .doc⟩⟩, .merged, ⟨3, 3⟩, false⟩ ∧
        (other.perform (.resume ['x', 'é'] 9 (.state ⟨7, ⟨2, .doc⟩⟩))).Alike
          (session.perform
            (.resume ['x', 'é'] 9 (.state ⟨7, ⟨2, .doc⟩⟩))) ∧
        session.perform (.reset ['x', 'é'] 2 9 .inside) =
          session.answer (.misplaced ⟨2, 3⟩) := by
  let session : Session :=
    ⟨{ buffer := ['/', '*', '*', 'é']
       granularity := .merged
       nesting := ⟨1, .doc⟩
       tokenStart := 3
       tokenText := ['é']
       unread := []
       endReported := true }, [], []⟩
  let other := ofText ['y'] .merged
  let target : Target := ⟨['x', 'é'], ⟨3, 3⟩, ⟨2, .doc⟩⟩
  have asked :
      session.target? (.resume ['x', 'é'] 9 (.state ⟨7, ⟨2, .doc⟩⟩)) =
        some target := rfl
  have whole : target.IsWhole := by decide
  rcases perform_rebinds asked with ⟨rebinds, alike, -⟩
  rcases rebinds.placed whole with ⟨done, -, registers, -, -, -⟩
  have splits :
      session.target? (.reset ['x', 'é'] 2 9 .inside) =
        some ⟨['x', 'é'], ⟨2, 3⟩, ⟨1, .block⟩⟩ := rfl
  refine ⟨session, other, by decide, done, registers,
    alike other _ rfl rfl whole, ?_⟩
  exact (perform_rebinds splits).1.refused (by decide)

end Session

end CommentScan
