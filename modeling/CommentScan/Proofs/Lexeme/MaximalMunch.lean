import CommentScan.Lexeme.Longest
import CommentScan.Proofs.Automaton.Run
import CommentScan.Proofs.Text.Bytes

/-!
# The longest lexeme is the longest

What the automaton completes at the front of a text is said here without any
driver: `Completes` runs it over a first part of the text, and `IsLongest`
compares all first parts that it completes.  `longest?_eq_some_iff` proves
that the lexeme which is read is the longest one in this sense.

On the way stands `stepped?`, which reads like `longest?` but takes neither of
its shortcuts: it asks for a next state behind every state, and it goes
through a line comment character by character.
-/

namespace CommentScan.Lexeme

open CommentScan.Automaton

/--
Read from a state, the first characters of a text lead to a state with a
role.  The number of characters and the role are those of the lexeme.
-/
def Completes (state : State) (text : Text) (lexeme : Lexeme) : Prop :=
  0 < lexeme.length ∧ lexeme.length ≤ text.length ∧
    ∃ last, state.run (text.take lexeme.length) = some last ∧
      last.role = some lexeme.role

/-- A completed lexeme that no other one is longer than. -/
def IsFurthest (state : State) (text : Text) (lexeme : Lexeme) : Prop :=
  Completes state text lexeme ∧
    ∀ other, Completes state text other → other.length ≤ lexeme.length

/-- The longest lexeme that a mode completes at the front of a text. -/
def IsLongest (mode : Mode) (text : Text) (lexeme : Lexeme) : Prop :=
  IsFurthest (.start mode) text lexeme

theorem not_completes_nil (state : State) (lexeme : Lexeme) :
    ¬ Completes state [] lexeme := by
  rintro ⟨positive, bound, -⟩
  exact absurd (Nat.lt_of_lt_of_le positive bound) (Nat.lt_irrefl 0)

theorem not_completes_of_stuck {state : State} {character : Char}
    (stuck : state.next (.ofChar character) = none) (rest : Text)
    (lexeme : Lexeme) : ¬ Completes state (character :: rest) lexeme := by
  rintro ⟨positive, -, last, reached, -⟩
  rw [← Nat.succ_pred_eq_of_pos positive, List.take_succ_cons,
    State.run_cons_of_none stuck] at reached
  cases reached

/-- A lexeme is completed by its first character or somewhere behind it. -/
theorem completes_cons_iff {state after : State} {character : Char}
    (step : state.next (.ofChar character) = some after) {rest : Text}
    {lexeme : Lexeme} :
    Completes state (character :: rest) lexeme ↔
      (after.role = some lexeme.role ∧ lexeme.length = 1) ∨
        ∃ shorter, Completes after rest shorter ∧
          lexeme = ⟨shorter.role, shorter.length + 1⟩ := by
  rcases lexeme with ⟨role, length⟩
  constructor
  · rintro ⟨positive, bound, last, reached, complete⟩
    cases length with
    | zero => exact absurd positive (Nat.lt_irrefl 0)
    | succ length =>
        rw [List.take_succ_cons, State.run_cons_of_some step] at reached
        cases length with
        | zero =>
            cases reached
            exact Or.inl ⟨complete, rfl⟩
        | succ length =>
            refine Or.inr ⟨⟨role, length + 1⟩, ?_, rfl⟩
            exact ⟨Nat.succ_pos _, Nat.le_of_succ_le_succ bound, last,
              reached, complete⟩
  · rintro (⟨complete, single⟩ | ⟨shorter, completes, same⟩)
    · cases single
      refine ⟨Nat.one_pos, Nat.succ_le_succ (Nat.zero_le _), after, ?_,
        complete⟩
      exact State.run_cons_of_some step []
    · cases same
      rcases completes with ⟨-, bound, last, reached, complete⟩
      refine ⟨Nat.succ_pos _, Nat.succ_le_succ bound, last, ?_, complete⟩
      rw [List.take_succ_cons, State.run_cons_of_some step, reached]

/-- A lexeme is completed by its own characters, whatever follows them. -/
theorem completes_append_iff {state : State} {front : Text}
    {lexeme : Lexeme} (bound : lexeme.length ≤ front.length) (back : Text) :
    Completes state (front ++ back) lexeme ↔
      Completes state front lexeme := by
  have longer : lexeme.length ≤ (front ++ back).length := by
    rw [List.length_append]
    exact Nat.le_trans bound (Nat.le_add_right _ _)
  rw [Completes, Completes, List.take_append_of_le_length bound]
  constructor
  · rintro ⟨positive, -, reached⟩
    exact ⟨positive, bound, reached⟩
  · rintro ⟨positive, -, reached⟩
    exact ⟨positive, longer, reached⟩

/-- The role of a completed lexeme follows from its length. -/
theorem Completes.role_unique {state : State} {text : Text}
    {left right : Lexeme} (leftCompletes : Completes state text left)
    (rightCompletes : Completes state text right)
    (lengths : left.length = right.length) : left = right := by
  rcases leftCompletes with ⟨-, -, leftLast, leftReached, leftRole⟩
  rcases rightCompletes with ⟨-, -, rightLast, rightReached, rightRole⟩
  rw [lengths, rightReached, Option.some.injEq] at leftReached
  rw [← leftReached, rightRole, Option.some.injEq] at leftRole
  cases left
  cases right
  simp_all

/-- There is only one longest lexeme. -/
theorem IsFurthest.unique {state : State} {text : Text}
    {left right : Lexeme} (leftFurthest : IsFurthest state text left)
    (rightFurthest : IsFurthest state text right) : left = right :=
  leftFurthest.1.role_unique rightFurthest.1
    (Nat.le_antisymm (rightFurthest.2 left leftFurthest.1)
      (leftFurthest.2 right rightFurthest.1))

theorem IsFurthest.cons {state after : State} {character : Char}
    (step : state.next (.ofChar character) = some after) {rest : Text}
    {shorter : Lexeme} (furthest : IsFurthest after rest shorter) :
    IsFurthest state (character :: rest)
      ⟨shorter.role, shorter.length + 1⟩ := by
  constructor
  · exact (completes_cons_iff step).mpr (Or.inr ⟨shorter, furthest.1, rfl⟩)
  · intro other completes
    rcases (completes_cons_iff step).mp completes with
      ⟨-, single⟩ | ⟨tail, inRest, rfl⟩
    · rw [single]
      exact Nat.succ_le_succ (Nat.zero_le _)
    · exact Nat.succ_le_succ (furthest.2 tail inRest)

/-- Where the rest completes nothing, the first character is all there is. -/
theorem isFurthest_single {state after : State} {character : Char}
    (step : state.next (.ofChar character) = some after) {rest : Text}
    {role : Role} (complete : after.role = some role)
    (nowhere : ∀ lexeme, ¬ Completes after rest lexeme) :
    IsFurthest state (character :: rest) ⟨role, 1⟩ := by
  constructor
  · exact (completes_cons_iff step).mpr (Or.inl ⟨complete, rfl⟩)
  · intro other completes
    rcases (completes_cons_iff step).mp completes with
      ⟨-, single⟩ | ⟨tail, inRest, -⟩
    · exact Nat.le_of_eq single
    · exact absurd inRest (nowhere tail)

/-! ## Reading without shortcuts -/

/--
Read on from a state that lies behind `length` characters, where `best` is
the longest lexeme completed so far, one character at a time.
-/
def steppedFrom : State → Text → Nat → Option Lexeme → Option Lexeme
  | _, [], _, best => best
  | state, character :: rest, length, best =>
      match state.next (.ofChar character) with
      | none => best
      | some after =>
          steppedFrom after rest (length + 1)
            (endingAt after (length + 1) best)

/-- The last lexeme completed on the way through a text. -/
def stepped? (mode : Mode) (text : Text) : Option Lexeme :=
  steppedFrom (.start mode) text 0 none

theorem steppedFrom_cons_of_none {state : State} {character : Char}
    (stuck : state.next (.ofChar character) = none) (rest : Text)
    (length : Nat) (best : Option Lexeme) :
    steppedFrom state (character :: rest) length best = best := by
  rw [steppedFrom, stuck]

theorem steppedFrom_cons_of_some {state after : State} {character : Char}
    (step : state.next (.ofChar character) = some after) (rest : Text)
    (length : Nat) (best : Option Lexeme) :
    steppedFrom state (character :: rest) length best =
      steppedFrom after rest (length + 1)
        (endingAt after (length + 1) best) := by
  rw [steppedFrom, step]

theorem endingAt_of_none {state : State} (incomplete : state.role = none)
    (length : Nat) (best : Option Lexeme) :
    endingAt state length best = best := by
  rw [endingAt, incomplete]

theorem endingAt_of_some {state : State} {role : Role}
    (complete : state.role = some role) (length : Nat)
    (best : Option Lexeme) :
    endingAt state length best = some ⟨role, length⟩ := by
  rw [endingAt, complete]

/--
Reading on finds the furthest lexeme that the rest of the text completes, and
keeps the best one so far where the rest completes none.
-/
theorem steppedFrom_cases (state : State) (text : Text) (length : Nat)
    (best : Option Lexeme) :
    (∃ lexeme, IsFurthest state text lexeme ∧
        steppedFrom state text length best =
          some ⟨lexeme.role, length + lexeme.length⟩) ∨
      ((∀ lexeme, ¬ Completes state text lexeme) ∧
        steppedFrom state text length best = best) := by
  induction text generalizing state length best with
  | nil => exact Or.inr ⟨not_completes_nil state, rfl⟩
  | cons character rest inductionHypothesis =>
      cases step : state.next (.ofChar character) with
      | none =>
          exact Or.inr ⟨not_completes_of_stuck step rest,
            steppedFrom_cons_of_none step rest length best⟩
      | some after =>
          rw [steppedFrom_cons_of_some step]
          rcases inductionHypothesis after (length + 1)
              (endingAt after (length + 1) best) with
            ⟨shorter, furthest, found⟩ | ⟨nowhere, found⟩
          · refine Or.inl ⟨_, furthest.cons step, ?_⟩
            rw [found, Nat.add_right_comm, Nat.add_assoc]
          · cases complete : after.role with
            | none =>
                right
                rw [found, endingAt_of_none complete]
                refine ⟨?_, rfl⟩
                intro lexeme completes
                rcases (completes_cons_iff step).mp completes with
                  ⟨ends, -⟩ | ⟨tail, inRest, -⟩
                · rw [complete] at ends
                  cases ends
                · exact nowhere tail inRest
            | some role =>
                left
                rw [found, endingAt_of_some complete]
                exact ⟨_, isFurthest_single step complete nowhere, rfl⟩

/-! ## The shortcuts change nothing -/

/-- Behind a final state nothing more is found. -/
theorem steppedFrom_of_isFinal {state : State} (final : state.isFinal)
    (text : Text) (length : Nat) (best : Option Lexeme) :
    steppedFrom state text length best = best := by
  cases text with
  | nil => rfl
  | cons character rest =>
      exact steppedFrom_cons_of_none (State.next_of_isFinal final _) rest
        length best

/-- Stepping through a line comment ends where the line does. -/
theorem steppedFrom_lineComment (text : Text) (length : Nat) :
    steppedFrom .lineComment text length (some ⟨.lineComment, length⟩) =
      some ⟨.lineComment, length + lineLength text⟩ := by
  induction text generalizing length with
  | nil => rfl
  | cons character rest inductionHypothesis =>
      by_cases terminator : CharClass.ofChar character = .lineTerminator
      · have stuck :
            State.lineComment.next (.ofChar character) = none := by
          rw [State.lineComment_next, if_pos terminator]
        rw [steppedFrom_cons_of_none stuck]
        simp [lineLength, terminator]
      · have step :
            State.lineComment.next (.ofChar character) =
              some .lineComment := by
          rw [State.lineComment_next, if_neg terminator]
        rw [steppedFrom_cons_of_some step, endingAt_of_some rfl,
          inductionHypothesis]
        simp [lineLength, terminator, Nat.add_assoc, Nat.add_comm 1]

/-- Stopping early and taking a line at once lead to the same lexeme. -/
theorem longestFrom_eq_steppedFrom (state : State) (text : Text)
    (length : Nat) (best : Option Lexeme) :
    longestFrom state text length best =
      steppedFrom state text length best := by
  induction text generalizing state length best with
  | nil => rfl
  | cons character rest inductionHypothesis =>
      cases step : state.next (.ofChar character) with
      | none => rw [steppedFrom_cons_of_none step, longestFrom, step]
      | some after =>
          rw [steppedFrom_cons_of_some step, longestFrom, step]
          by_cases line : after = .lineComment
          · subst line
            rw [endingAt_of_some rfl, steppedFrom_lineComment]
          · by_cases final : after.isFinal
            · rw [steppedFrom_of_isFinal final]
              simp [final]
            · simp [final, inductionHypothesis]

theorem longest?_eq_stepped? (mode : Mode) (text : Text) :
    longest? mode text = stepped? mode text :=
  longestFrom_eq_steppedFrom (.start mode) text 0 none

/-- The longest lexeme is read wherever there is one, and nothing else is. -/
theorem longest?_eq_some_iff {mode : Mode} {text : Text} {lexeme : Lexeme} :
    longest? mode text = some lexeme ↔ IsLongest mode text lexeme := by
  rw [longest?_eq_stepped?, stepped?]
  rcases steppedFrom_cases (.start mode) text 0 none with
    ⟨furthest, isFurthest, found⟩ | ⟨nowhere, found⟩
  · rw [found, Option.some.injEq, Nat.zero_add]
    constructor
    · rintro rfl
      exact isFurthest
    · exact fun isLongest => isFurthest.unique isLongest
  · rw [found]
    constructor
    · intro impossible
      cases impossible
    · exact fun isLongest => absurd isLongest.1 (nowhere lexeme)

/--
Cutting a text off behind its longest lexeme leaves that lexeme the longest:
there are only fewer first parts left to complete anything.
-/
theorem longest?_of_append {mode : Mode} {front back : Text}
    {lexeme : Lexeme} (found : longest? mode (front ++ back) = some lexeme)
    (bound : lexeme.length ≤ front.length) :
    longest? mode front = some lexeme := by
  rw [longest?_eq_some_iff] at found ⊢
  rcases found with ⟨completes, furthest⟩
  constructor
  · exact (completes_append_iff bound back).mp completes
  · intro other otherCompletes
    apply furthest other
    exact (completes_append_iff otherCompletes.2.1 back).mpr otherCompletes

/-- Among the bytes the line ends behind `lineLength` characters as well. -/
theorem indexAt?_lineBytes (text : Text) :
    Text.indexAt? text (Text.lineBytes text) = some (lineLength text) := by
  rw [Text.indexAt?_eq_some_iff, Text.lineBytes_eq]
  refine ⟨lineLength_le text, ?_⟩
  rw [lineLength, ← List.prefix_iff_eq_take.mp (List.takeWhile_prefix _)]

end CommentScan.Lexeme
