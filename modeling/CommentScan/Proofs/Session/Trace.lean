import CommentScan.Proofs.Session.Past

/-!
# The log as a trace

The events of a session say what its calls have done.  Tokens are reported as
they are returned, and a window that is placed is reported with its offsets.
The end of a window inside a comment is reported once: by the first call that
meets it, until the scanner is placed anew or has given characters back.

`Traces` is what the events of a call say, told by its reply and by what the
scanner has gone through before.  `performAll_traces` is about all calls of a
session, and about the events of its whole log.
-/

namespace CommentScan

/-- Whether an event reports a token. -/
def Log.Event.isToken : Log.Event → Bool
  | token .. => true
  | _ => false

/-- Whether an event reports that the scanner has been placed. -/
def Log.Event.isPlacement : Log.Event → Bool
  | reset .. | resume .. => true
  | _ => false

namespace Session

/-- The events of a call that places the scanner, as its arguments say. -/
def placement (session : Session) : Call → List Log.Event
  | .reset buffer start stop mode =>
      let stop := min stop (Text.byteLength buffer)
      [.reset ⟨min start stop, stop⟩ mode]
  | .resume buffer stop point =>
      (session.stateAt? point).toList.map fun state =>
        let stop := min stop (Text.byteLength buffer)
        .resume ⟨min state.position stop, stop⟩ state.nesting
  | _ => []

/-- The events of the tokens that a call has returned. -/
def Outcome.tokenEvents (outcome : Outcome) : List Log.Event :=
  match outcome.reply with
  | .token (some item) =>
      [.token item outcome.after.scanner.nesting.depth]
  | _ => []

/--
The events of a call say what it has done.  A token that is returned is
reported with the depth behind it.  An end of the window is reported inside a
comment, unless it has been met before and the scanner has not been
replenished since, with the open comments and the end of the window.  A window
that is placed is reported with its offsets moved into the buffer.  A call that
is refused causes no event and changes nothing, and no other call causes one.
-/
structure Traces (session : Session) (past : Past) (call : Call) :
    Prop where
  token : ∀ item, (session.perform call).reply = .token (some item) →
    (session.perform call).events =
      [.token item (session.perform call).after.scanner.nesting.depth]
  ended : (session.perform call).reply = .token none →
    (session.perform call).events =
      if 0 < session.scanner.nesting.depth ∧ ¬ MetEnd past.current then
        [.unterminated session.scanner.nesting session.scanner.windowEnd]
      else
        []
  placed : (session.perform call).reply = .done →
    (session.perform call).events = session.placement call
  refused : (session.perform call).reply.isRefusal →
    (session.perform call).events = [] ∧
      (session.perform call).after = session
  other : ¬ call.advances → ¬ call.replenishes →
    (session.perform call).events = []

theorem perform_of_advances (session : Session) {call : Call}
    (advances : call.advances) :
    session.perform call = session.perform .advance := by
  cases call with
  | advance => rfl
  | tryAdvance => exact session.perform_tryAdvance
  | _ => cases advances

/-- Only reading on replies with a token or with the end of the window. -/
theorem advances_of_token {session : Session} {call : Call}
    {result : Option Token}
    (replied : (session.perform call).reply = .token result) :
    call.advances := by
  by_cases replenishes : call.replenishes
  · rcases session.perform_replenishes replenishes with
      ⟨done, -⟩ | ⟨reply, refusal, answered⟩
    · rw [replied] at done
      cases done
    · rw [answered] at replied
      have same : reply = .token result := replied
      rw [same] at refusal
      cases refusal
  · cases call with
    | advance | tryAdvance => rfl
    | restore =>
        simp only [perform] at replied
        split at replied <;> cases replied
    | pushBack | reset | resume => exact absurd rfl replenishes
    | take | collect | charAt | snapshot | clone | restart => cases replied

/-- A token that is read is the only event of reading it. -/
theorem events_of_token {session : Session} {item : Token}
    (read : session.scanner.advance.1 = some item) :
    (session.perform .advance).events =
      [.token item
        (session.perform .advance).after.scanner.nesting.depth] := by
  have flag := endReported_advance session.scanner
  rw [read] at flag
  have silent :
      Log.ofEnd session.scanner session.scanner.advance.2 = [] := by
    simp [Log.ofEnd, flag]
  simp only [perform, Log.ofAdvance, read, silent]
  rfl

/-- The end is an event in a comment, where it has not been met before. -/
theorem events_of_end {session : Session}
    (ended : session.scanner.advance.1 = none) :
    (session.perform .advance).events =
      if 0 < session.scanner.nesting.depth ∧
          ¬ session.scanner.endReported then
        [.unterminated session.scanner.nesting session.scanner.windowEnd]
      else
        [] := by
  have finished := Scanner.advance_eq_none_iff.mp ended
  have same :
      (!session.scanner.endReported && true &&
          session.scanner.nesting.depth != 0) = true ↔
        0 < session.scanner.nesting.depth ∧
          ¬ session.scanner.endReported := by
    simp [Nat.pos_iff_ne_zero, and_comm]
  simp only [perform, Scanner.advance_of_nil finished, Log.ofAdvance,
    Log.ofEnd, same]
  rfl

theorem placement_of_ofWindow {buffer : Text} {granularity : Granularity}
    {start stop : Nat} {nesting : Nesting} {scanner : Scanner}
    (placed :
      Scanner.ofWindow buffer granularity start stop nesting = .ok scanner) :
    Log.placedWindow scanner =
        ⟨min start (min stop (Text.byteLength buffer)),
          min stop (Text.byteLength buffer)⟩ ∧
      scanner.nesting = nesting := by
  rcases Scanner.ofWindow_eq_ok_iff.mp placed with ⟨unread, sliced, rfl⟩
  have far := (Text.bounds_of_slice? sliced).2.2.1
  exact ⟨congrArg (Span.mk _) far.symm, rfl⟩

/-- A window that has been placed is the only event of placing it. -/
theorem events_of_done {session : Session} {call : Call}
    (done : (session.perform call).reply = .done) :
    (session.perform call).events = session.placement call := by
  cases call with
  | pushBack count =>
      simp only [perform] at done ⊢
      split <;> rfl
  | reset buffer start stop mode =>
      simp only [perform, placement] at done ⊢
      cases placed : session.scanner.reset buffer start stop mode with
      | error error =>
          rw [placed] at done
          cases done
      | ok scanner =>
          rcases placement_of_ofWindow placed with ⟨window, nesting⟩
          simp only [place, Log.ofReset, window, Scanner.mode, nesting,
            Nesting.mode_ofMode]
  | resume buffer stop point =>
      simp only [perform, placement] at done ⊢
      cases found : session.stateAt? point with
      | none => rfl
      | some state =>
          rw [found] at done
          simp only at done ⊢
          cases placed : session.scanner.resume buffer stop state with
          | error error =>
              rw [placed] at done
              cases done
          | ok scanner =>
              rcases placement_of_ofWindow placed with ⟨window, nesting⟩
              simp only [place, Log.ofResume, window, nesting]
              rfl
  | restore =>
      simp only [perform] at done ⊢
      split <;> rfl
  | restart => rfl
  | tryAdvance =>
      rw [perform_tryAdvance] at done
      cases done
  | advance | take | collect | charAt | snapshot | clone => cases done

/-- A call that is refused is only answered. -/
theorem perform_of_refusal {session : Session} {call : Call}
    (refusal : (session.perform call).reply.isRefusal) :
    session.perform call =
      session.answer (session.perform call).reply := by
  by_cases replenishes : call.replenishes
  · rcases session.perform_replenishes replenishes with
      ⟨done, -⟩ | ⟨reply, -, answered⟩
    · rw [done] at refusal
      cases refusal
    · rw [answered]
      rfl
  · cases call with
    | tryAdvance =>
        rw [perform_tryAdvance] at refusal
        cases refusal
    | restore =>
        simp only [perform] at refusal ⊢
        split at refusal
        · cases refusal
        · rfl
    | pushBack | reset | resume => exact absurd rfl replenishes
    | advance | take | collect | charAt | snapshot | clone | restart =>
        cases refusal

/-- Every call behind a past that is remembered is traced. -/
theorem Remembers.traces {session : Session} {past : Past}
    (remembers : session.Remembers past) {call : Call}
    (single : call.isSingle) : session.Traces past call := by
  constructor
  case token =>
    intro item replied
    have same := session.perform_of_advances (advances_of_token replied)
    rw [same] at replied ⊢
    exact events_of_token (Reply.token.inj replied)
  case ended =>
    intro replied
    have same := session.perform_of_advances (advances_of_token replied)
    rw [same] at replied ⊢
    rw [events_of_end (Reply.token.inj replied)]
    simp only [remembers.scanner]
  case placed => exact events_of_done
  case refused =>
    intro refusal
    rw [perform_of_refusal refusal]
    exact ⟨rfl, rfl⟩
  case other =>
    intro still keeps
    cases call with
    | advance | tryAdvance => exact absurd rfl still
    | pushBack | reset | resume => exact absurd rfl keeps
    | take | collect => cases single
    | restore =>
        simp only [Session.perform]
        split <;> rfl
    | charAt | snapshot | clone | restart => rfl

/-- What the events of a call can be. -/
theorem Traces.events_cases {session : Session} {past : Past} {call : Call}
    (traces : session.Traces past call) :
    (∃ item, (session.perform call).reply = .token (some item) ∧
      (session.perform call).events =
        [.token item
          (session.perform call).after.scanner.nesting.depth]) ∨
    ((session.perform call).reply = .token none ∧
      (session.perform call).events =
        if 0 < session.scanner.nesting.depth ∧ ¬ MetEnd past.current then
          [.unterminated session.scanner.nesting session.scanner.windowEnd]
        else
          []) ∨
    ((∀ result, (session.perform call).reply ≠ .token result) ∧
      ∀ event ∈ (session.perform call).events,
        event ∈ session.placement call) := by
  by_cases advances : call.advances
  · have replied :
        (session.perform call).reply = .token session.scanner.advance.1 := by
      rw [session.perform_of_advances advances]
      rfl
    cases result : session.scanner.advance.1 with
    | some item =>
        rw [result] at replied
        exact Or.inl ⟨item, replied, traces.token item replied⟩
    | none =>
        rw [result] at replied
        exact Or.inr (Or.inl ⟨replied, traces.ended replied⟩)
  · refine Or.inr (Or.inr ⟨?_, ?_⟩)
    · intro result replied
      exact advances (advances_of_token replied)
    · intro event member
      by_cases replenishes : call.replenishes
      · rcases session.perform_replenishes replenishes with
          ⟨done, -⟩ | ⟨reply, -, answered⟩
        · rw [← traces.placed done]
          exact member
        · rw [answered] at member
          cases member
      · rw [traces.other advances replenishes] at member
        cases member

/-- The events of placing the scanner report that, and nothing else. -/
theorem isPlacement_of_mem_placement {session : Session} {call : Call} :
    ∀ event ∈ session.placement call, event.isPlacement := by
  cases call with
  | reset => simp [placement, Log.Event.isPlacement]
  | resume buffer stop point =>
      simp only [placement]
      cases session.stateAt? point <;> simp [Log.Event.isPlacement]
  | _ => exact nofun

/-- The events of a call that report tokens are those of its tokens. -/
theorem Traces.filter_isToken {session : Session} {past : Past} {call : Call}
    (traces : session.Traces past call) :
    (session.perform call).events.filter Log.Event.isToken =
      (session.perform call).tokenEvents := by
  rcases traces.events_cases with
    ⟨item, replied, events⟩ | ⟨replied, events⟩ | ⟨noToken, placed⟩
  · rw [events, Outcome.tokenEvents, replied]
    rfl
  · rw [events, Outcome.tokenEvents, replied]
    split <;> rfl
  · have silent : (session.perform call).tokenEvents = [] := by
      unfold Outcome.tokenEvents
      split
      · rename_i item replied
        exact absurd replied (noToken _)
      · rfl
    rw [silent, List.filter_eq_nil_iff]
    intro event member
    have placement := isPlacement_of_mem_placement event (placed event member)
    cases event with
    | reset | resume => exact Bool.false_ne_true
    | sourceRead | token | unterminated => cases placement

/-- The end is reported by a call that meets it first inside a comment. -/
theorem Traces.unterminated_mem_iff {session : Session} {past : Past}
    {call : Call} (traces : session.Traces past call) (nesting : Nesting)
    (stop : Nat) :
    .unterminated nesting stop ∈ (session.perform call).events ↔
      (session.perform call).reply = .token none ∧
        0 < session.scanner.nesting.depth ∧ ¬ MetEnd past.current ∧
        nesting = session.scanner.nesting ∧
        stop = session.scanner.windowEnd := by
  rcases traces.events_cases with
    ⟨item, replied, events⟩ | ⟨replied, events⟩ | ⟨noToken, placed⟩
  · simp [events, replied]
  · rw [events]
    split
    · rename_i first
      simp [replied, first]
    · rename_i known
      simp only [List.not_mem_nil, false_iff]
      rintro ⟨-, inside, notMet, -⟩
      exact known ⟨inside, notMet⟩
  · constructor
    · intro member
      cases isPlacement_of_mem_placement _ (placed _ member)
    · rintro ⟨replied, -⟩
      exact absurd replied (noToken none)

/--
The log of a session is a trace of its calls.  The events that report tokens
are, in order, those of the tokens that have been returned, with their kinds
and places and the depth behind each.  The end of a window is reported by
exactly the calls that meet it inside a comment, and do so for the first time
since the scanner, or the one that it is a copy of, was made, placed or given
characters back.  And every call has no other events than `Traces` says.
-/
theorem performAll_traces (buffer : Text) (granularity : Granularity)
    {calls : List Call} (single : ∀ call ∈ calls, call.isSingle) :
    ((((ofText buffer granularity).performAll calls).flatMap
          Outcome.events).filter Log.Event.isToken =
        ((ofText buffer granularity).performAll calls).flatMap
          Outcome.tokenEvents) ∧
      ∀ earlier call later, calls = earlier ++ call :: later →
        let session := (ofText buffer granularity).behind earlier
        let past := (ofText buffer granularity).pastBehind .fresh earlier
        session.Traces past call ∧
          ∀ nesting stop,
            .unterminated nesting stop ∈ (session.perform call).events ↔
              (session.perform call).reply = .token none ∧
                0 < session.scanner.nesting.depth ∧
                ¬ MetEnd past.current ∧
                nesting = session.scanner.nesting ∧
                stop = session.scanner.windowEnd := by
  have traced : ∀ earlier call later, calls = earlier ++ call :: later →
      ((ofText buffer granularity).behind earlier).Traces
        ((ofText buffer granularity).pastBehind .fresh earlier) call := by
    rintro earlier call later rfl
    rcases List.forall_mem_append.mp single with ⟨before, behind⟩
    have remembers :=
      (Remembers.fresh buffer granularity).behind before
    exact remembers.traces (behind call List.mem_cons_self)
  constructor
  · rw [List.filter_flatMap]
    apply List.flatMap_congr
    intro outcome member
    rcases exists_behind_of_mem member with ⟨earlier, call, later, whole, rfl⟩
    exact (traced earlier call later whole).filter_isToken
  · intro earlier call later whole
    have here := traced earlier call later whole
    exact ⟨here, here.unterminated_mem_iff⟩

/--
An opener is left without a closer.  The end is met twice, a copy is taken, and
the star is given back and read again up to the end.  The copy has met the end
before it was taken, so it does not report it when it is put back.
-/
theorem performAll_traces_openComment :
    let session := ofText ['/', '*'] .lexemes
    let calls : List Call :=
      [.advance, .advance, .advance, .clone, .pushBack 1, .tryAdvance,
        .advance, .restore]
    ((session.performAll (calls ++ [.advance])).flatMap
          Outcome.events).filter Log.Event.isToken =
        [.token ⟨.blockComment, ⟨0, 2⟩⟩ 1,
          .token ⟨.blockComment, ⟨1, 2⟩⟩ 1] ∧
      .unterminated ⟨1, .block⟩ 2 ∉
        ((session.behind calls).perform .advance).events := by
  intro session calls
  have single : ∀ call ∈ calls ++ [.advance], call.isSingle := by decide
  rcases performAll_traces ['/', '*'] .lexemes single with ⟨tokens, steps⟩
  constructor
  · rw [tokens]
    rfl
  · have metBefore : MetEnd (session.pastBehind .fresh calls).current := by
      decide
    rw [(steps calls .advance [] rfl).2]
    rintro ⟨-, -, notMet, -⟩
    exact notMet metBefore

end Session

end CommentScan
