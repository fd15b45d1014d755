import CommentScan.Proofs.Scanner.Partition
import CommentScan.Session

/-!
# The calls of a session

A call either moves the scanner of a session inside its window, by reading on
and giving characters back, or replaces it: it places the scanner on a window,
makes a fresh one or takes a copy back.

`Scanner.Moves` is reading on and giving back in any order, and keeps the
window.  `perform_moves` says that the other calls do nothing else, so that
only the calls that replace the scanner change its buffer, the end of its
window or its granularity.  `isReachable_behind` says that a session never
holds a scanner, in use or as a copy, that is not reachable.
-/

namespace CommentScan

/-- Whether a call puts another scanner in the place of the one in use. -/
def Call.replacesScanner : Call → Bool
  | reset .. | resume .. | restore | restart .. => true
  | _ => false

namespace Scanner

/-- The second scanner is what reading on and giving back leads to. -/
inductive Moves : Scanner → Scanner → Prop where
  | here (scanner : Scanner) : Moves scanner scanner
  | advance {scanner later after : Scanner} {result : Option Token}
      (moves : Moves scanner later)
      (advanced : later.tryAdvance = .ok (result, after)) :
      Moves scanner after
  | pushBack {scanner later after : Scanner} {count : Nat}
      (moves : Moves scanner later)
      (pushed : later.pushBack count = .ok after) :
      Moves scanner after

/-- Two scanners have the same window of the same buffer to read. -/
structure SameWindow (scanner later : Scanner) : Prop where
  buffer : later.buffer = scanner.buffer
  granularity : later.granularity = scanner.granularity
  windowEnd : later.windowEnd = scanner.windowEnd

variable {scanner later last : Scanner}

theorem SameWindow.trans (first : SameWindow scanner later)
    (second : SameWindow later last) : SameWindow scanner last :=
  ⟨second.buffer.trans first.buffer,
    second.granularity.trans first.granularity,
    second.windowEnd.trans first.windowEnd⟩

/-- A token is read in the window, behind the start of the last one. -/
theorem sameWindow_advance {result : Option Token}
    (advanced : scanner.tryAdvance = .ok (result, later)) :
    scanner.SameWindow later ∧ scanner.tokenStart ≤ later.tokenStart := by
  rw [tryAdvance_eq, Except.ok.injEq] at advanced
  cases found :
      Piece.first? scanner.granularity scanner.nesting scanner.unread with
  | none =>
      rw [advance_of_nil (Piece.first?_eq_none_iff.mp found)] at advanced
      cases advanced
      exact ⟨⟨rfl, rfl, rfl⟩, Nat.le_refl _⟩
  | some piece =>
      rw [advance_of_first? found] at advanced
      cases advanced
      exact ⟨⟨rfl, rfl, windowEnd_behind found⟩, Nat.le_add_right _ _⟩

/-- Characters are given back to the window, and the token keeps its start. -/
theorem sameWindow_pushBack {count : Nat}
    (pushed : scanner.pushBack count = .ok later) :
    scanner.SameWindow later ∧ later.tokenStart = scanner.tokenStart := by
  have sameEnd := windowEnd_pushBack pushed
  rcases pushBack_eq_ok_iff.mp pushed with ⟨kept, returned, -, -, rfl⟩
  exact ⟨⟨rfl, rfl, sameEnd⟩, rfl⟩

namespace Moves

theorem trans (first : Moves scanner later) (second : Moves later last) :
    Moves scanner last := by
  induction second with
  | here => exact first
  | advance _ advanced inductionHypothesis =>
      exact .advance inductionHypothesis advanced
  | pushBack _ pushed inductionHypothesis =>
      exact .pushBack inductionHypothesis pushed

/-- A scanner never moves out of its window or in front of its token. -/
theorem sameWindow (moves : Moves scanner later) :
    scanner.SameWindow later ∧ scanner.tokenStart ≤ later.tokenStart := by
  induction moves with
  | here => exact ⟨⟨rfl, rfl, rfl⟩, Nat.le_refl _⟩
  | advance _ advanced inductionHypothesis =>
      rcases inductionHypothesis with ⟨window, start⟩
      rcases sameWindow_advance advanced with ⟨step, later⟩
      exact ⟨window.trans step, Nat.le_trans start later⟩
  | pushBack _ pushed inductionHypothesis =>
      rcases inductionHypothesis with ⟨window, start⟩
      rcases sameWindow_pushBack pushed with ⟨step, same⟩
      exact ⟨window.trans step, Nat.le_trans start (Nat.le_of_eq same.symm)⟩

/-- What is in place stays in place. -/
theorem isPlaced (moves : Moves scanner later)
    (placed : scanner.IsPlaced) : later.IsPlaced := by
  induction moves with
  | here => exact placed
  | advance _ advanced inductionHypothesis =>
      exact inductionHypothesis.tryAdvance advanced
  | pushBack _ pushed inductionHypothesis =>
      exact inductionHypothesis.pushBack pushed

theorem reachable (moves : Moves scanner later)
    (reachable : scanner.Reachable) : later.Reachable := by
  induction moves with
  | here => exact reachable
  | advance _ advanced inductionHypothesis =>
      exact .advance inductionHypothesis advanced
  | pushBack _ pushed inductionHypothesis =>
      exact .pushBack inductionHypothesis pushed

end Moves

theorem moves_advance (scanner : Scanner) :
    scanner.Moves scanner.advance.2 :=
  .advance (.here scanner) scanner.tryAdvance_eq

theorem moves_take (scanner : Scanner) (count : Nat) :
    scanner.Moves (scanner.take count).2 := by
  induction count generalizing scanner with
  | zero => exact .here scanner
  | succ count inductionHypothesis =>
      have first := scanner.moves_advance
      rcases advanced : scanner.advance with ⟨result, after⟩
      rw [advanced] at first
      cases result with
      | none =>
          rw [take_succ_of_none advanced]
          exact first
      | some token =>
          rw [take_succ_of_some advanced]
          exact first.trans (inductionHypothesis after)

theorem moves_drain (scanner : Scanner) :
    scanner.Moves scanner.drain.2 := by
  rw [← take_eq_drain (Nat.lt_succ_self _)]
  exact scanner.moves_take _

end Scanner

namespace Session

/-- A call that does not replace the scanner moves it in its window. -/
theorem perform_moves (session : Session) {call : Call}
    (keeps : ¬ call.replacesScanner) :
    session.scanner.Moves (session.perform call).after.scanner := by
  cases call with
  | advance => exact session.scanner.moves_advance
  | tryAdvance =>
      simp only [perform, Scanner.tryAdvance_eq]
      exact session.scanner.moves_advance
  | take count => exact session.scanner.moves_take count
  | collect => exact session.scanner.moves_drain
  | pushBack count =>
      simp only [perform]
      split
      · rename_i after pushed
        exact .pushBack (.here _) pushed
      · exact .here _
  | charAt | snapshot | clone => exact .here _
  | reset | resume | restore | restart => exact absurd rfl keeps

/-! ## Some calls, one after another -/

/-- The session behind some calls. -/
def behind (session : Session) : List Call → Session
  | [] => session
  | call :: calls => (session.perform call).after.behind calls

theorem behind_append_singleton (session : Session) (calls : List Call)
    (call : Call) :
    session.behind (calls ++ [call]) =
      ((session.behind calls).perform call).after := by
  induction calls generalizing session with
  | nil => rfl
  | cons first rest inductionHypothesis =>
      exact inductionHypothesis (session.perform first).after

theorem moves_behind {session : Session} {calls : List Call}
    (keep : ∀ call ∈ calls, ¬ call.replacesScanner) :
    session.scanner.Moves (session.behind calls).scanner := by
  induction calls generalizing session with
  | nil => exact .here _
  | cons call calls inductionHypothesis =>
      rcases List.forall_mem_cons.mp keep with ⟨first, later⟩
      exact (session.perform_moves first).trans (inductionHypothesis later)

/-- Every outcome of some calls is that of one of them. -/
theorem exists_behind_of_mem {session : Session} {calls : List Call}
    {outcome : Outcome} (member : outcome ∈ session.performAll calls) :
    ∃ earlier call later, calls = earlier ++ call :: later ∧
      outcome = (session.behind earlier).perform call := by
  induction calls generalizing session with
  | nil => cases member
  | cons call calls inductionHypothesis =>
      rcases List.mem_cons.mp member with rfl | inRest
      · exact ⟨[], call, calls, rfl, rfl⟩
      · rcases inductionHypothesis inRest with
          ⟨earlier, other, later, rfl, outcome⟩
        exact ⟨call :: earlier, other, later, rfl, outcome⟩

/-- Every scanner in the outcomes of some calls has been moved to. -/
theorem moves_of_mem {session : Session} {calls : List Call}
    (keep : ∀ call ∈ calls, ¬ call.replacesScanner) :
    ∀ outcome ∈ session.performAll calls,
      session.scanner.Moves outcome.after.scanner := by
  intro outcome member
  rcases exists_behind_of_mem member with ⟨earlier, call, later, rfl, rfl⟩
  rcases List.forall_mem_append.mp keep with ⟨earlierKeep, laterKeep⟩
  exact
    (moves_behind earlierKeep).trans
      (perform_moves _ (laterKeep call List.mem_cons_self))

/-- The scanner in use and all copies are reachable. -/
structure IsReachable (session : Session) : Prop where
  scanner : session.scanner.Reachable
  copies : ∀ copy ∈ session.copies, copy.Reachable

theorem isReachable_ofText (buffer : Text) (granularity : Granularity) :
    (ofText buffer granularity).IsReachable :=
  ⟨.ofText buffer granularity, by simp [ofText]⟩

theorem IsReachable.perform {session : Session}
    (reachable : session.IsReachable) (call : Call) :
    (session.perform call).after.IsReachable := by
  by_cases replaces : call.replacesScanner
  · cases call with
    | reset buffer start stop mode =>
        simp only [Session.perform, place]
        split
        · rename_i placed
          exact ⟨.reset reachable.scanner placed, reachable.copies⟩
        · exact reachable
    | resume buffer stop point =>
        simp only [Session.perform, place]
        split
        · split
          · rename_i placed
            exact ⟨.resume reachable.scanner placed, reachable.copies⟩
          · exact reachable
        · exact reachable
    | restore =>
        simp only [Session.perform]
        split
        · rename_i scanner copies held
          have copiesReachable := reachable.copies
          rw [held, List.forall_mem_cons] at copiesReachable
          exact ⟨copiesReachable.1, copiesReachable.2⟩
        · exact reachable
    | restart buffer granularity =>
        exact ⟨.ofText buffer granularity, reachable.copies⟩
    | _ => cases replaces
  · -- The scanner moves in its window, and only a clone adds to the copies.
    have moved :=
      (session.perform_moves replaces).reachable reachable.scanner
    refine ⟨moved, ?_⟩
    cases call with
    | clone =>
        exact
          List.forall_mem_cons.mpr ⟨reachable.scanner, reachable.copies⟩
    | pushBack count =>
        simp only [Session.perform]
        split <;> exact reachable.copies
    | tryAdvance =>
        simp only [Session.perform, Scanner.tryAdvance_eq]
        exact reachable.copies
    | advance | take | collect | charAt | snapshot =>
        exact reachable.copies
    | reset | resume | restore | restart => exact absurd rfl replaces

/-- Behind any calls of a session all its scanners are reachable. -/
theorem IsReachable.behind {session : Session}
    (reachable : session.IsReachable) (calls : List Call) :
    (session.behind calls).IsReachable := by
  induction calls generalizing session with
  | nil => exact reachable
  | cons call calls inductionHypothesis =>
      exact inductionHypothesis (reachable.perform call)

end Session

end CommentScan
