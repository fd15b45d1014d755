import CommentScan.Proofs.Registers.Machine
import CommentScan.Proofs.Session.Moves

/-!
# What a session keeps

Whatever calls a session makes, also refused ones, its scanner keeps its
offsets in order and on boundaries.  The same calls can be made of a scanner
that is held in registers, where the position is kept three times and every
operation checks what it relies on.  `Registers.IsConsistent` says what holds
of the registers behind every call.

`registers_perform` leads through one call: the registers reply as the session
does and are those of its scanner again, so nothing that they rely on is ever
missing.  `performAll_consistent` is about all calls from a fresh scanner on.
-/

namespace CommentScan

namespace Call

/-- Whether a call uses nothing but the scanner and its own arguments. -/
def isBasic : Call → Bool
  | advance | tryAdvance | pushBack _ | charAt _ => true
  | reset .. | resume _ _ (.state _) | restart .. => true
  | _ => false

/-- Whether a call goes on with the options of the scanner in use. -/
def keepsOptions : Call → Bool
  | restore | restart .. => false
  | _ => true

/-- The buffer that a call brings along. -/
def buffer? : Call → Option Text
  | reset buffer .. | resume buffer .. | restart buffer _ => some buffer
  | _ => none

/-- A call on a scanner alone, with a buffer that fits in machine words. -/
structure Fits (call : Call) : Prop where
  basic : call.isBasic
  buffer : ∀ buffer ∈ call.buffer?, Text.byteLength buffer ≤ wordLimit

instance (call : Call) : Decidable call.Fits :=
  decidable_of_iff
    (call.isBasic ∧
      ∀ buffer ∈ call.buffer?, Text.byteLength buffer ≤ wordLimit)
    ⟨fun ⟨basic, buffer⟩ => ⟨basic, buffer⟩,
      fun ⟨basic, buffer⟩ => ⟨basic, buffer⟩⟩

end Call

namespace Registers

/--
The reply to a call and the registers behind it.  A call that cannot report an
error relies on there being none.
-/
def perform (registers : Registers) :
    Call → Except Breach (Reply × Registers)
  | .advance => do
      let (result, after) ← registers.tryAdvance .checked
      match result with
      | .ok token => return (.token token, after)
      | .error _ => .error .unmatched
  | .tryAdvance => do
      let (result, after) ← registers.tryAdvance .checked
      match result with
      | .ok token => return (.token token, after)
      | .error error => return (.refused error, after)
  | .pushBack count => do
      let (result, after) ← registers.pushBack count
      match result with
      | .ok () => return (.done, after)
      | .error error => return (.refused error, after)
  | .charAt index => do
      let character ← registers.charAt index
      return (.character character, registers)
  | .reset buffer start stop mode => registers.reset buffer start stop mode
  | .resume buffer stop (.state state) => registers.resume buffer stop state
  | .restart buffer granularity => do
      let after ← ofText buffer granularity
      return (.done, after)
  | _ => return (.unknown, registers)

/-- The replies to some calls and the registers behind each of them. -/
def performAll (registers : Registers) :
    List Call → Except Breach (List (Reply × Registers))
  | [] => return []
  | call :: calls => do
      let outcome ← registers.perform call
      let outcomes ← outcome.2.performAll calls
      return outcome :: outcomes

/--
The three copies of the position agree.  The token, the position and the end
of the window follow each other in the buffer, all of them on boundaries, so
that the token has a text and characters.  The mode is that of the depth.
-/
structure IsConsistent (registers : Registers) : Prop where
  token_le : registers.token.start ≤ registers.token.stop
  token_eq : registers.token.stop = registers.cursor.position
  state_eq : registers.state.position = registers.cursor.position
  position_le : registers.cursor.position ≤ registers.cursor.windowEnd
  windowEnd_le :
    registers.cursor.windowEnd ≤ Text.byteLength registers.cursor.buffer
  startBoundary :
    Text.IsBoundary registers.cursor.buffer registers.token.start
  stopBoundary :
    Text.IsBoundary registers.cursor.buffer registers.token.stop
  endBoundary :
    Text.IsBoundary registers.cursor.buffer registers.cursor.windowEnd
  tokenText : ∃ text, registers.tokenText = .ok text
  charAt : ∀ index, ∃ character, registers.charAt index = .ok character
  mode :
    registers.state.nesting.mode = .outside ↔
      registers.state.nesting.depth = 0

/-- What a call leaves alone in the registers. -/
structure Keeps (before : Registers) (call : Call) (after : Registers) :
    Prop where
  window :
    ¬ call.replacesScanner →
      after.cursor.buffer = before.cursor.buffer ∧
        after.cursor.windowEnd = before.cursor.windowEnd
  options : call.keepsOptions → after.granularity = before.granularity

end Registers

namespace Scanner

/-- A scanner in place has consistent registers. -/
theorem IsPlaced.isConsistent {scanner : Scanner}
    (placed : scanner.IsPlaced) : scanner.registers.IsConsistent := by
  rcases Text.bounds_of_slice? placed.tokenText with ⟨left, right, -, -⟩
  rcases Text.bounds_of_slice? placed.unread with ⟨-, last, far, within⟩
  have text :
      scanner.registers.tokenText = .ok scanner.tokenText :=
    Cursor.slice_of_slice? placed.tokenText
  constructor
  case token_le => exact Nat.le_add_right _ _
  case token_eq | state_eq => rfl
  case position_le =>
    show scanner.position ≤ scanner.windowEnd
    rw [far]
    exact Nat.le_add_right _ _
  case windowEnd_le => exact within
  case startBoundary => exact left
  case stopBoundary => exact right
  case endBoundary => exact last
  case tokenText => exact ⟨_, text⟩
  case charAt =>
    intro index
    refine ⟨scanner.tokenText[index]?, ?_⟩
    rw [Registers.charAt, text]
    rfl
  case mode => exact Nesting.mode_eq_outside_iff

theorem fits_ofText {buffer : Text}
    (small : Text.byteLength buffer ≤ wordLimit)
    (granularity : Granularity) : (ofText buffer granularity).Fits :=
  (isPlaced_ofText buffer granularity).fits small

theorem granularity_ofWindow {buffer : Text} {granularity : Granularity}
    {start stop : Nat} {nesting : Nesting} {scanner : Scanner}
    (placed : ofWindow buffer granularity start stop nesting = .ok scanner) :
    scanner.granularity = granularity := by
  rcases ofWindow_eq_ok_iff.mp placed with ⟨unread, -, rfl⟩
  rfl

theorem fits_ofWindow {buffer : Text} {granularity : Granularity}
    {start stop : Nat} {nesting : Nesting} {scanner : Scanner}
    (small : Text.byteLength buffer ≤ wordLimit)
    (placed : ofWindow buffer granularity start stop nesting = .ok scanner) :
    scanner.Fits := by
  refine (isPlaced_ofWindow placed).fits ?_
  rcases ofWindow_eq_ok_iff.mp placed with ⟨unread, -, rfl⟩
  exact small

end Scanner

namespace Session

variable {session : Session} {call : Call}

/-- A call that fits leads from a scanner that fits to another one. -/
theorem fits_perform (scanner : session.scanner.Fits) (fits : call.Fits) :
    (session.perform call).after.scanner.Fits := by
  by_cases replaces : call.replacesScanner
  · have basic := fits.basic
    have small := fits.buffer
    cases call with
    | reset buffer start stop mode =>
        simp only [perform, place]
        split
        · rename_i placed
          exact Scanner.fits_ofWindow (small buffer rfl) placed
        · exact scanner
    | resume buffer stop point =>
        cases point with
        | snapshot => cases basic
        | state state =>
            simp only [perform, stateAt?, place]
            split
            · rename_i placed
              exact Scanner.fits_ofWindow (small buffer rfl) placed
            · exact scanner
    | restart buffer granularity =>
        exact Scanner.fits_ofText (small buffer rfl) granularity
    | restore => cases basic
    | _ => cases replaces
  · have moves := session.perform_moves replaces
    refine ⟨moves.isPlaced scanner.placed, ?_⟩
    rw [moves.sameWindow.1.windowEnd]
    exact scanner.words

/-- A call takes the registers along and replies the same. -/
theorem registers_perform (scanner : session.scanner.Fits)
    (fits : call.Fits)
    (shallow :
      (session.perform call).after.scanner.nesting.depth ≤ wordLimit) :
    session.scanner.registers.perform call =
      .ok
        ((session.perform call).reply,
          (session.perform call).after.scanner.registers) := by
  have basic := fits.basic
  have small := fits.buffer
  cases call with
  | advance =>
      rw [Registers.perform, scanner.tryAdvance .checked shallow]
      rfl
  | tryAdvance =>
      simp only [perform, Scanner.tryAdvance_eq] at shallow ⊢
      rw [Registers.perform, scanner.tryAdvance .checked shallow]
      rfl
  | pushBack count =>
      rw [Registers.perform, scanner.pushBack, perform]
      cases session.scanner.pushBack count <;> rfl
  | charAt index =>
      rw [Registers.perform, scanner.charAt]
      rfl
  | reset buffer start stop mode =>
      rw [Registers.perform, Scanner.registers_reset _ (small buffer rfl),
        perform]
      cases session.scanner.reset buffer start stop mode <;> rfl
  | resume buffer stop point =>
      cases point with
      | snapshot => cases basic
      | state state =>
          rw [Registers.perform,
            Scanner.registers_resume _ (small buffer rfl)]
          simp only [perform, stateAt?]
          cases session.scanner.resume buffer stop state <;> rfl
  | restart buffer granularity =>
      rw [Registers.perform,
        Scanner.registers_ofText granularity (small buffer rfl)]
      rfl
  | take | collect | snapshot | clone | restore => cases basic

/-- All calls take the registers along. -/
theorem registers_performAll {calls : List Call}
    (scanner : session.scanner.Fits) (fit : ∀ call ∈ calls, call.Fits)
    (shallow : ∀ outcome ∈ session.performAll calls,
      outcome.after.scanner.nesting.depth ≤ wordLimit) :
    session.scanner.registers.performAll calls =
      .ok ((session.performAll calls).map fun outcome =>
        (outcome.reply, outcome.after.scanner.registers)) := by
  induction calls generalizing session with
  | nil => rfl
  | cons call calls inductionHypothesis =>
      rcases List.forall_mem_cons.mp fit with ⟨fits, laterFit⟩
      rcases List.forall_mem_cons.mp shallow with ⟨first, laterShallow⟩
      have later :=
        inductionHypothesis (fits_perform scanner fits) laterFit laterShallow
      rw [Registers.performAll, registers_perform scanner fits first]
      simp only [bind, Except.bind, later]
      rfl

theorem granularity_place {placed : Except WindowError Scanner}
    {event : Scanner → Log.Event}
    (same : ∀ scanner, placed = .ok scanner →
      scanner.granularity = session.scanner.granularity) :
    (session.place event placed).after.scanner.granularity =
      session.scanner.granularity := by
  cases placed with
  | error error => rfl
  | ok scanner => exact same scanner rfl

/-- Placing the scanner on a window goes on with its options. -/
theorem granularity_perform (session : Session) {call : Call}
    (keeps : call.keepsOptions) :
    (session.perform call).after.scanner.granularity =
      session.scanner.granularity := by
  by_cases replaces : call.replacesScanner
  · cases call with
    | reset buffer start stop mode =>
        exact granularity_place fun _ => Scanner.granularity_ofWindow
    | resume buffer stop point =>
        simp only [perform]
        split
        · exact granularity_place fun _ => Scanner.granularity_ofWindow
        · rfl
    | restore | restart => cases keeps
    | _ => cases replaces
  · exact (session.perform_moves replaces).sameWindow.1.granularity

/-- The registers of a session's scanner are consistent behind any calls. -/
theorem IsReachable.isConsistent (reachable : session.IsReachable) :
    session.scanner.registers.IsConsistent :=
  reachable.scanner.isPlaced.isConsistent

/-- Only a call for another scanner may change the window or the options. -/
theorem registers_keeps (session : Session) (call : Call) :
    session.scanner.registers.Keeps call
      (session.perform call).after.scanner.registers := by
  constructor
  case window =>
    intro stays
    have same := (session.perform_moves stays).sameWindow.1
    exact ⟨same.buffer, same.windowEnd⟩
  case options => exact session.granularity_perform

/--
From a fresh scanner on, over buffers that fit in machine words, any calls
leave consistent registers, whether they succeed or are refused.  The end of
the window changes only where the scanner is placed anew, and the options do
not even then.  As long as the depth fits in a machine word as well, none of
the calls relies on anything that does not hold: the registers, which bring
three copies of the position along, are consistent behind every call, reply as
the session does and are those of its scanner.
-/
theorem performAll_consistent {buffer : Text}
    (small : Text.byteLength buffer ≤ wordLimit) (granularity : Granularity)
    {calls : List Call} (fit : ∀ call ∈ calls, call.Fits) :
    (∀ earlier later, calls = earlier ++ later →
      ((ofText buffer granularity).behind
        earlier).scanner.registers.IsConsistent) ∧
    (∀ earlier call later, calls = earlier ++ call :: later →
      ((ofText buffer granularity).behind earlier).scanner.registers.Keeps call
        (((ofText buffer granularity).behind earlier).perform
          call).after.scanner.registers) ∧
    ((∀ outcome ∈ (ofText buffer granularity).performAll calls,
        outcome.after.scanner.nesting.depth ≤ wordLimit) →
      ∃ trail,
        (Registers.ofText buffer granularity >>= fun registers =>
            registers.performAll calls) =
          .ok trail ∧
        (∀ entry ∈ trail, entry.2.IsConsistent) ∧
        trail =
          ((ofText buffer granularity).performAll calls).map fun outcome =>
            (outcome.reply, outcome.after.scanner.registers)) := by
  have fitsFirst := Scanner.fits_ofText small granularity
  refine ⟨?_, ?_, ?_⟩
  · intro earlier later whole
    exact ((isReachable_ofText buffer granularity).behind earlier).isConsistent
  · intro earlier call later whole
    exact registers_keeps _ call
  · intro shallow
    refine ⟨_, ?_, ?_, rfl⟩
    · rw [Scanner.registers_ofText granularity small]
      exact
        @registers_performAll (ofText buffer granularity) calls fitsFirst fit
          shallow
    · intro entry member
      rcases List.mem_map.mp member with ⟨outcome, performed, rfl⟩
      rcases exists_behind_of_mem performed with
        ⟨earlier, call, later, -, rfl⟩
      have reachable :=
        (isReachable_ofText buffer granularity).behind earlier
      exact (reachable.perform call).isConsistent

/--
A doc comment is opened and given back in part, a window that splits a
character is refused, and another one is resumed beyond its end: the calls of
the registers all go through.
-/
theorem performAll_consistent_nested :
    ∃ trail,
      (Registers.ofText ['/', '*', '*', 'é'] .lexemes >>= fun registers =>
          registers.performAll
            [.advance, .pushBack 2, .reset ['é'] 1 2 .inside,
              .resume ['ü', '/', '*', '*', '/'] 9 (.state ⟨2, ⟨1, .doc⟩⟩),
              .advance, .tryAdvance, .pushBack 9, .charAt 1]) =
        .ok trail ∧ (∀ entry ∈ trail, entry.2.IsConsistent) ∧
        trail.length = 8 := by
  have small : Text.byteLength ['/', '*', '*', 'é'] ≤ wordLimit := by decide
  have fit :
      ∀ call ∈
          ([.advance, .pushBack 2, .reset ['é'] 1 2 .inside,
            .resume ['ü', '/', '*', '*', '/'] 9 (.state ⟨2, ⟨1, .doc⟩⟩),
            .advance, .tryAdvance, .pushBack 9, .charAt 1] : List Call),
        call.Fits := by
    decide
  rcases performAll_consistent small .lexemes fit with ⟨-, -, agrees⟩
  rcases agrees (by decide) with ⟨trail, done, consistent, replies⟩
  refine ⟨trail, done, consistent, ?_⟩
  rw [replies]
  rfl

end Session

end CommentScan
