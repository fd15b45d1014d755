import CommentScan.Proofs.Session.Moves
import CommentScan.Proofs.Session.Resumption
import Mathlib.Data.List.Forall2
import Mathlib.Data.List.Induction

/-!
# What a scanner has gone through

A scanner remembers by a flag whether it has met the end of its window.  The
flag is set by meeting the end, with comments open or not.  It is cleared by
placing the scanner on a window and by giving characters back, and a copy takes
it over.

`MetEnd` says the same of the calls that have been made of the scanner, those
of the scanner that it is a copy of included.  `Past` keeps these calls for
the scanner of a session and for its copies, and `Remembers` says that every
flag agrees with them.  `Remembers.perform` leads through one call, and
`Remembers.behind` through any number.
-/

namespace CommentScan

namespace Call

/-- Whether a call reads no more than one token. -/
def isSingle : Call → Bool
  | take _ | collect => false
  | _ => true

/-- Whether a call goes on with the scanner in use, and with no other. -/
def goesOn : Call → Bool
  | clone | restore | restart .. => false
  | _ => true

/-- Whether a call reads on. -/
def advances : Call → Bool
  | advance | tryAdvance => true
  | _ => false

/-- Whether a call places the scanner or gives characters back. -/
def replenishes : Call → Bool
  | pushBack _ | reset .. | resume .. => true
  | _ => false

end Call

/-- Whether a reply refuses the call. -/
def Reply.isRefusal : Reply → Bool
  | refused _ | misplaced _ | unknown => true
  | _ => false

namespace Session

/-! ## Meeting the end -/

/-- A call that has been made, and the reply to it. -/
structure Deed where
  call : Call
  reply : Reply
  deriving DecidableEq, Repr

namespace Deed

/-- Whether a call has met the end of the window. -/
def meetsEnd (deed : Deed) : Bool :=
  deed.reply = .token none

/-- Whether a call has placed the scanner or given characters back. -/
def rearms (deed : Deed) : Bool :=
  deed.call.replenishes && deed.reply = .done

end Deed

/--
The end has been met, and since then the scanner has neither been placed nor
been given characters back.
-/
def MetEnd (deeds : List Deed) : Prop :=
  ∃ earlier deed later, deeds = earlier ++ deed :: later ∧ deed.meetsEnd ∧
    ∀ other ∈ later, ¬ other.rearms

theorem not_metEnd_nil : ¬ MetEnd [] := by
  rintro ⟨earlier, deed, later, whole, -⟩
  simp at whole

/-- The last deed decides, or else those in front of it do. -/
theorem metEnd_append_iff {deeds : List Deed} {deed : Deed} :
    MetEnd (deeds ++ [deed]) ↔
      deed.meetsEnd ∨ (MetEnd deeds ∧ ¬ deed.rearms) := by
  constructor
  · rintro ⟨earlier, met, later, whole, meets, quiet⟩
    rcases List.eq_nil_or_concat later with rfl | ⟨front, last, rfl⟩
    · rcases List.append_inj' whole rfl with ⟨-, same⟩
      cases same
      exact Or.inl meets
    · rw [List.concat_eq_append] at whole quiet
      rw [← List.cons_append, ← List.append_assoc] at whole
      rcases List.append_inj' whole rfl with ⟨rfl, same⟩
      cases same
      rw [List.forall_mem_append, List.forall_mem_singleton] at quiet
      exact Or.inr ⟨⟨earlier, met, front, rfl, meets, quiet.1⟩, quiet.2⟩
  · rintro (meets | ⟨⟨earlier, met, later, rfl, meets, quiet⟩, idle⟩)
    · exact ⟨deeds, deed, [], rfl, meets, by simp⟩
    · refine ⟨earlier, met, later ++ [deed], by simp, meets, ?_⟩
      intro other member
      rcases List.mem_append.mp member with inLater | isLast
      · exact quiet other inLater
      · rw [List.mem_singleton.mp isLast]
        exact idle

/-- Going through the deeds one by one tells whether the end has been met. -/
theorem metEnd_iff {deeds : List Deed} :
    deeds.foldl
        (fun met deed => deed.meetsEnd || (met && !deed.rearms)) false =
          true ↔
      MetEnd deeds := by
  induction deeds using List.reverseRecOn with
  | nil => exact iff_of_false Bool.false_ne_true not_metEnd_nil
  | append_singleton front last inductionHypothesis =>
      rw [metEnd_append_iff, ← inductionHypothesis, List.foldl_append]
      simp

instance (deeds : List Deed) : Decidable (MetEnd deeds) :=
  decidable_of_iff _ metEnd_iff

/--
The deeds of the scanner in use and of its copies, those of the scanner that
each was copied from included.  They begin where a scanner was made.
-/
structure Past where
  current : List Deed
  copies : List (List Deed)
  deriving DecidableEq, Repr

namespace Past

/-- A scanner has just been made, and no copy of it. -/
def fresh : Past := ⟨[], []⟩

/-- The past behind one more call. -/
def extend (past : Past) (deed : Deed) : Past :=
  match deed.call, past.copies with
  | .clone, copies => ⟨past.current, past.current :: copies⟩
  | .restore, copy :: copies => ⟨copy, copies⟩
  | .restart .., copies => ⟨[], copies⟩
  | _, copies => ⟨past.current ++ [deed], copies⟩

end Past

/-- The past behind some calls. -/
def pastBehind (session : Session) (past : Past) : List Call → Past
  | [] => past
  | call :: calls =>
      let outcome := session.perform call
      outcome.after.pastBehind (past.extend ⟨call, outcome.reply⟩) calls

/-- The flags of the scanners say whether they have met the end. -/
structure Remembers (session : Session) (past : Past) : Prop where
  scanner : session.scanner.endReported ↔ MetEnd past.current
  copies :
    List.Forall₂ (fun copy deeds => copy.endReported ↔ MetEnd deeds)
      session.copies past.copies

/-! ## The flag -/

/-- Reading on sets the flag at the end of the window and leaves it else. -/
theorem endReported_advance (scanner : Scanner) :
    scanner.advance.2.endReported =
      (scanner.advance.1.isNone || scanner.endReported) := by
  cases found :
      Piece.first? scanner.granularity scanner.nesting scanner.unread with
  | none =>
      rw [Scanner.advance_of_nil (Piece.first?_eq_none_iff.mp found)]
      rfl
  | some piece =>
      rw [Scanner.advance_of_first? found]
      rfl

/-- Placing the scanner or giving characters back clears the flag. -/
theorem endReported_ofWindow {buffer : Text} {granularity : Granularity}
    {start stop : Nat} {nesting : Nesting} {scanner : Scanner}
    (placed :
      Scanner.ofWindow buffer granularity start stop nesting = .ok scanner) :
    scanner.endReported = false := by
  rcases Scanner.ofWindow_eq_ok_iff.mp placed with ⟨unread, -, rfl⟩
  rfl

theorem place_cases (session : Session) (event : Scanner → Log.Event)
    {placed : Except WindowError Scanner}
    (cleared : ∀ scanner, placed = .ok scanner →
      scanner.endReported = false) :
    ((session.place event placed).reply = .done ∧
        (session.place event placed).after.scanner.endReported = false) ∨
      ∃ reply, reply.isRefusal ∧
        session.place event placed = session.answer reply := by
  cases placed with
  | error error => exact Or.inr ⟨.misplaced error, rfl, rfl⟩
  | ok scanner => exact Or.inl ⟨rfl, cleared scanner rfl⟩

/-- A call that replenishes the window does so, or it is refused. -/
theorem perform_replenishes (session : Session) {call : Call}
    (replenishes : call.replenishes) :
    ((session.perform call).reply = .done ∧
        (session.perform call).after.scanner.endReported = false) ∨
      ∃ reply, reply.isRefusal ∧
        session.perform call = session.answer reply := by
  cases call with
  | pushBack count =>
      simp only [perform]
      cases pushed : session.scanner.pushBack count with
      | error error => exact Or.inr ⟨.refused error, rfl, rfl⟩
      | ok after =>
          rcases Scanner.pushBack_eq_ok_iff.mp pushed with
            ⟨kept, returned, -, -, rfl⟩
          exact Or.inl ⟨rfl, rfl⟩
  | reset buffer start stop mode =>
      exact session.place_cases _ fun _ => endReported_ofWindow
  | resume buffer stop point =>
      simp only [perform]
      cases session.stateAt? point with
      | none => exact Or.inr ⟨.unknown, rfl, rfl⟩
      | some state =>
          exact session.place_cases _ fun _ => endReported_ofWindow
  | _ => cases replenishes

/-- What a call does to the flag is what its deed says. -/
theorem endReported_perform (session : Session) {call : Call}
    (single : call.isSingle) (goesOn : call.goesOn) :
    (session.perform call).after.scanner.endReported ↔
      Deed.meetsEnd ⟨call, (session.perform call).reply⟩ ∨
        (session.scanner.endReported ∧
          ¬ Deed.rearms ⟨call, (session.perform call).reply⟩) := by
  by_cases replenishes : call.replenishes
  · rcases session.perform_replenishes replenishes with
      ⟨done, cleared⟩ | ⟨reply, refusal, answered⟩
    · simp [done, cleared, replenishes, Deed.meetsEnd, Deed.rearms]
    · rw [answered]
      have notDone : reply ≠ .done := by
        rintro rfl
        cases refusal
      have notEnd : reply ≠ .token none := by
        rintro rfl
        cases refusal
      simp [answer, notDone, notEnd, Deed.meetsEnd, Deed.rearms]
  · have advanced :
        (session.perform .advance).after.scanner.endReported ↔
          (session.perform .advance).reply = .token none ∨
            session.scanner.endReported := by
      simp only [perform, withScanner, endReported_advance, Bool.or_eq_true,
        Option.isNone_iff_eq_none, Reply.token.injEq]
    cases call with
    | advance => simpa [Deed.meetsEnd, Deed.rearms, Call.replenishes]
    | tryAdvance =>
        rw [perform_tryAdvance]
        simpa [Deed.meetsEnd, Deed.rearms, Call.replenishes]
    | charAt | snapshot =>
        simp [perform, answer, Deed.meetsEnd, Deed.rearms, Call.replenishes]
    | pushBack | reset | resume => exact absurd rfl replenishes
    | take | collect => cases single
    | clone | restore | restart => cases goesOn

/-- A call that goes on leaves the copies alone. -/
theorem copies_perform (session : Session) {call : Call}
    (goesOn : call.goesOn) :
    (session.perform call).after.copies = session.copies := by
  cases call with
  | tryAdvance => rw [perform_tryAdvance]; rfl
  | pushBack count =>
      simp only [perform]
      split <;> rfl
  | reset buffer start stop mode =>
      simp only [perform, place]
      split <;> rfl
  | resume buffer stop point =>
      simp only [perform, place]
      split
      · split <;> rfl
      · rfl
  | advance | take | collect | charAt | snapshot => rfl
  | clone | restore | restart => cases goesOn

namespace Remembers

theorem fresh (buffer : Text) (granularity : Granularity) :
    (ofText buffer granularity).Remembers .fresh :=
  ⟨iff_of_false Bool.false_ne_true not_metEnd_nil, .nil⟩

/-- Every call of one token or none is remembered. -/
theorem perform {session : Session} {past : Past}
    (remembers : session.Remembers past) {call : Call}
    (single : call.isSingle) :
    (session.perform call).after.Remembers
      (past.extend ⟨call, (session.perform call).reply⟩) := by
  by_cases goesOn : call.goesOn
  · have extended :
        past.extend ⟨call, (session.perform call).reply⟩ =
          ⟨past.current ++ [⟨call, (session.perform call).reply⟩],
            past.copies⟩ := by
      cases call with
      | clone | restore | restart => cases goesOn
      | _ => rfl
    rw [extended]
    constructor
    · show _ ↔ MetEnd (past.current ++ [_])
      rw [metEnd_append_iff, endReported_perform session single goesOn,
        remembers.scanner]
    · rw [copies_perform session goesOn]
      exact remembers.copies
  · rcases session with ⟨scanner, snapshots, copies⟩
    rcases past with ⟨current, pastCopies⟩
    rcases remembers with ⟨inUse, inCopies⟩
    cases call with
    | clone => exact ⟨inUse, .cons inUse inCopies⟩
    | restore =>
        cases inCopies with
        | nil =>
            refine ⟨?_, .nil⟩
            show _ ↔ MetEnd (current ++ [_])
            rw [metEnd_append_iff, ← inUse]
            simp [Session.perform, answer, Deed.meetsEnd, Deed.rearms,
              Call.replenishes]
        | cons first rest => exact ⟨first, rest⟩
    | restart buffer granularity =>
        exact ⟨iff_of_false Bool.false_ne_true not_metEnd_nil, inCopies⟩
    | _ => exact absurd rfl goesOn

theorem behind {session : Session} {past : Past}
    (remembers : session.Remembers past) {calls : List Call}
    (single : ∀ call ∈ calls, call.isSingle) :
    (session.behind calls).Remembers (session.pastBehind past calls) := by
  induction calls generalizing session past with
  | nil => exact remembers
  | cons call calls inductionHypothesis =>
      rcases List.forall_mem_cons.mp single with ⟨first, later⟩
      exact inductionHypothesis (remembers.perform first) later

end Remembers

end Session

end CommentScan
