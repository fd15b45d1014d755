import CommentScan.Proofs.Automaton.Search
import CommentScan.Proofs.Lexeme.MaximalMunch

/-!
# How far a lexeme extends

The longest lexeme of a text ends where a run of the automaton is complete and
nothing behind it is.  `Begins` states its extent: a role and the characters
at the front of the text.

Two sorts of states have laws of their own.  From the first characters of an
opening word only the next one leads on, which is `LeadsOnly`, and a search is
complete behind each occurrence of its word or behind the first one only.
-/

namespace CommentScan.Lexeme

open CommentScan.Automaton

/--
Outside all comments a text begins with a lexeme of a role, and the lexeme is
made up of some characters at the front of the text.
-/
structure Begins (text : Text) (role : Role) (part : Text) : Prop where
  longest : longest? .outside text = some ⟨role, part.length⟩
  isPrefix : part <+: text

variable {text part front back rest : Text} {role : Role} {state : State}
  {lexeme : Lexeme}

theorem begins_of_isLongest {length : Nat}
    (isLongest : IsLongest .outside text ⟨role, length⟩) :
    Begins text role (text.take length) where
  longest := by
    rw [List.length_take_of_le isLongest.1.2.1]
    exact longest?_eq_some_iff.mpr isLongest
  isPrefix := List.take_prefix _ _

/-- A text begins with one lexeme only. -/
theorem Begins.part_unique {other : Text} {otherRole : Role}
    (begins : Begins text role part)
    (otherBegins : Begins text otherRole other) : part = other := by
  have same := begins.longest.symm.trans otherBegins.longest
  rw [Option.some.injEq, Lexeme.mk.injEq] at same
  rw [List.prefix_iff_eq_take.mp begins.isPrefix, same.2,
    ← List.prefix_iff_eq_take.mp otherBegins.isPrefix]

theorem not_completes_of_isFinal (final : state.isFinal) (text : Text)
    (lexeme : Lexeme) : ¬ Completes state text lexeme := by
  cases text with
  | nil => exact not_completes_nil state lexeme
  | cons character rest =>
      exact
        not_completes_of_stuck (State.next_of_isFinal final _) rest lexeme

/-- A state completes what another one does that takes the same steps. -/
theorem completes_congr {other : State}
    (same : ∀ charClass, state.next charClass = other.next charClass) :
    Completes state text lexeme ↔ Completes other text lexeme := by
  cases text with
  | nil => simp [not_completes_nil]
  | cons character rest =>
      cases step : other.next (.ofChar character) with
      | none =>
          have stuck := not_completes_of_stuck step rest lexeme
          rw [← same] at step
          have alsoStuck := not_completes_of_stuck step rest lexeme
          exact iff_of_false alsoStuck stuck
      | some after =>
          rw [completes_cons_iff step]
          rw [← same] at step
          exact completes_cons_iff step

/-! ## Where a run stops -/

/--
A run over the front of a text ends in a state of a role, and no lexeme is
completed behind it.
-/
def Stops (state : State) (role : Role) (front back : Text) : Prop :=
  ∃ last, state.run front = some last ∧ last.role = some role ∧
    ∀ lexeme, ¬ Completes last back lexeme

theorem stops_nil (complete : state.role = some role)
    (stuck : ∀ character ∈ back.head?,
      state.next (.ofChar character) = none) :
    Stops state role [] back := by
  refine ⟨state, rfl, complete, ?_⟩
  cases back with
  | nil => exact not_completes_nil state
  | cons character rest =>
      exact not_completes_of_stuck (stuck character rfl) rest

theorem Stops.cons {after : State} {character : Char}
    (step : state.next (.ofChar character) = some after)
    (stops : Stops after role front back) :
    Stops state role (character :: front) back := by
  rcases stops with ⟨last, reached, complete, nowhere⟩
  exact ⟨last, (State.run_cons_of_some step front).trans reached, complete,
    nowhere⟩

theorem Stops.append {middle : State} {more : Text}
    (reached : state.run front = some middle)
    (stops : Stops middle role more back) :
    Stops state role (front ++ more) back := by
  rcases stops with ⟨last, further, complete, nowhere⟩
  exact ⟨last, State.run_append_eq_some_iff.mpr ⟨middle, reached, further⟩,
    complete, nowhere⟩

/-- A state that some characters lead back to takes all of them. -/
theorem stops_takeWhile {accepts : Char → Bool}
    (complete : state.role = some role)
    (step : ∀ character,
      state.next (.ofChar character) =
        if accepts character then some state else none)
    (text : Text) :
    Stops state role (text.takeWhile accepts) (text.dropWhile accepts) := by
  induction text with
  | nil => exact stops_nil complete nofun
  | cons character rest inductionHypothesis =>
      have first := step character
      by_cases accepted : accepts character
      · rw [if_pos accepted] at first
        rw [List.takeWhile_cons_of_pos accepted,
          List.dropWhile_cons_of_pos accepted]
        exact inductionHypothesis.cons first
      · rw [if_neg accepted] at first
        rw [List.takeWhile_cons_of_neg accepted,
          List.dropWhile_cons_of_neg accepted]
        exact stops_nil complete (by simpa using first)

/-- Where a run stops the longest lexeme ends. -/
theorem Stops.isFurthest (stops : Stops state role front back)
    (nonempty : front ≠ []) :
    IsFurthest state (front ++ back) ⟨role, front.length⟩ := by
  rcases stops with ⟨middle, reached, complete, nowhere⟩
  constructor
  · rw [completes_append_iff (Nat.le_refl _)]
    refine ⟨List.length_pos_iff.mpr nonempty, Nat.le_refl _, middle, ?_,
      complete⟩
    rw [List.take_length]
    exact reached
  · rintro ⟨otherRole, length⟩ ⟨-, bound, last, run, otherComplete⟩
    by_contra longer
    rw [Nat.not_le] at longer
    rcases Nat.exists_eq_add_of_lt longer with ⟨more, rfl⟩
    simp only [List.length_append] at bound
    rw [Nat.add_assoc, List.take_length_add_append,
      State.run_append_eq_some_iff] at run
    rcases run with ⟨between, runFront, runBack⟩
    rw [reached, Option.some.injEq] at runFront
    subst runFront
    have inside : more + 1 ≤ back.length := by omega
    exact
      nowhere ⟨otherRole, more + 1⟩
        ⟨Nat.succ_pos _, inside, last, runBack, otherComplete⟩

theorem Stops.begins (stops : Stops (.start .outside) role front back)
    (nonempty : front ≠ []) : Begins (front ++ back) role front where
  longest := longest?_eq_some_iff.mpr (stops.isFurthest nonempty)
  isPrefix := List.prefix_append _ _

theorem Stops.begins_cons {character : Char}
    (stops : Stops (State.first (.ofChar character)) role front back) :
    Begins (character :: (front ++ back)) role (character :: front) := by
  have first : Stops (.start .outside) role (character :: front) back :=
    stops.cons rfl
  exact first.begins (List.cons_ne_nil character front)

/-- The first character of a text is a lexeme if nothing behind it is. -/
theorem begins_single {character : Char}
    (complete :
      (State.first (.ofChar character)).role = some role)
    (nowhere : ∀ lexeme,
      ¬ Completes (State.first (.ofChar character)) rest lexeme) :
    Begins (character :: rest) role [character] :=
  begins_of_isLongest (isFurthest_single rfl complete nowhere)

/-! ## Opening words -/

/--
From a state only the characters of a word lead on.  They lead to the steps of
a target, and no lexeme is complete on the way.
-/
def LeadsOnly : State → Text → State → Prop
  | state, [], target =>
      ∀ charClass, state.next charClass = target.next charClass
  | state, expected :: word, target =>
      CharClass.IsAlone expected ∧
        ∃ after, after.role = none ∧ LeadsOnly after word target ∧
          ∀ charClass, state.next charClass =
            if charClass = .ofChar expected then some after else none

theorem LeadsOnly.run_append {word : Text} {target : State}
    (leads : LeadsOnly state word target) (nonempty : rest ≠ []) :
    state.run (word ++ rest) = target.run rest := by
  induction word generalizing state with
  | nil =>
      rcases List.exists_cons_of_ne_nil nonempty with
        ⟨character, more, rfl⟩
      rw [List.nil_append, State.run, State.run, leads]
  | cons expected word inductionHypothesis =>
      rcases leads with ⟨-, after, -, later, step⟩
      rw [List.cons_append,
        State.run_cons_of_some ((step _).trans (if_pos rfl)),
        inductionHypothesis later]

/-- What is completed from a state is completed behind the only word. -/
theorem completes_of_leadsOnly_iff {word : Text} {target : State}
    (leads : LeadsOnly state word target) :
    Completes state text lexeme ↔
      ∃ rest shorter, text = word ++ rest ∧ Completes target rest shorter ∧
        lexeme = ⟨shorter.role, word.length + shorter.length⟩ := by
  induction word generalizing state text lexeme with
  | nil => simp [completes_congr leads]
  | cons expected word inductionHypothesis =>
      rcases leads with ⟨alone, after, incomplete, later, step⟩
      cases text with
      | nil => simp [not_completes_nil]
      | cons character more =>
          by_cases same : character = expected
          · subst same
            rw [completes_cons_iff ((step _).trans (if_pos rfl)), incomplete]
            simp only [reduceCtorEq, false_and, false_or,
              inductionHypothesis later]
            constructor
            · rintro ⟨_, ⟨rest, shorter, rfl, completes, rfl⟩, rfl⟩
              refine ⟨rest, shorter, rfl, completes, ?_⟩
              rw [List.length_cons, Nat.add_right_comm]
            · rintro ⟨rest, shorter, whole, completes, rfl⟩
              refine ⟨_, ⟨rest, shorter, List.tail_eq_of_cons_eq whole,
                completes, rfl⟩, ?_⟩
              rw [List.length_cons, Nat.add_right_comm]
          · have differs :
                CharClass.ofChar character ≠ .ofChar expected :=
              fun classes =>
                same ((CharClass.ofChar_eq_iff alone).mp classes)
            have stuck := (step _).trans (if_neg differs)
            have nothing := not_completes_of_stuck stuck more lexeme
            simp [nothing, same]

/-- So is the longest lexeme. -/
theorem LeadsOnly.isFurthest {word : Text} {target : State}
    (leads : LeadsOnly state word target)
    (furthest : IsFurthest target rest lexeme) :
    IsFurthest state (word ++ rest)
      ⟨lexeme.role, word.length + lexeme.length⟩ := by
  constructor
  · rw [completes_of_leadsOnly_iff leads]
    exact ⟨rest, lexeme, rfl, furthest.1, rfl⟩
  · intro other completes
    rcases (completes_of_leadsOnly_iff leads).mp completes with
      ⟨more, shorter, same, later, rfl⟩
    rw [List.append_cancel_left_eq] at same
    subst same
    exact Nat.add_le_add_left (furthest.2 shorter later) word.length

end CommentScan.Lexeme

namespace CommentScan.Automaton.State.Seeks

open CommentScan.Lexeme

variable {word text : Text} {states : Nat → State} {lexeme : Lexeme}

/-! ## Closing words -/

/-- A search that goes on completes a lexeme behind each occurrence. -/
theorem completes_iff (seeks : Seeks word states)
    (goesOn : GoesOn word states) :
    Completes (states 0) text lexeme ↔
      ∃ index ∈ text.occurrences word 0,
        lexeme = ⟨.plain, index + word.length⟩ := by
  constructor
  · rintro ⟨-, bound, last, reached, complete⟩
    rw [seeks.run_of_goesOn goesOn, Option.some.injEq] at reached
    subst reached
    rcases seeks.role_eq_some_iff.mp complete with ⟨plain, ends⟩
    have stands :=
      Text.mem_occurrences_of_suffix seeks.nonempty
        (List.take_prefix lexeme.length text) ends
    have fits := ends.length_le
    rw [List.length_take_of_le bound] at stands fits
    refine ⟨_, stands, ?_⟩
    rw [Nat.sub_add_cancel fits, ← plain]
  · rintro ⟨index, stands, rfl⟩
    rcases (Text.isPrefix_drop_iff seeks.nonempty).mp stands.2 with
      ⟨bound, ends⟩
    refine ⟨Nat.add_pos_right _ (List.length_pos_iff.mpr seeks.nonempty),
      bound, _, seeks.run_of_goesOn goesOn _, ?_⟩
    exact seeks.role_eq_some_iff.mpr ⟨rfl, ends⟩

/-- A search that goes on reads up to the last occurrence of its word. -/
theorem isFurthest (seeks : Seeks word states)
    (goesOn : GoesOn word states) {last : Nat}
    (isGreatest : IsGreatest (text.occurrences word 0) last) :
    IsFurthest (states 0) text ⟨.plain, last + word.length⟩ := by
  constructor
  · exact (seeks.completes_iff goesOn).mpr ⟨last, isGreatest.1, rfl⟩
  · intro other completes
    rcases (seeks.completes_iff goesOn).mp completes with
      ⟨index, stands, rfl⟩
    exact Nat.add_le_add_right (isGreatest.2 stands) word.length

/-- Where its word does not occur, a search completes nothing. -/
theorem not_completes (seeks : Seeks word states)
    (nowhere : text.occurrences word 0 = ∅) (lexeme : Lexeme) :
    ¬ Completes (states 0) text lexeme := by
  have unfound : ∀ front, front <+: text → ¬ word <:+ front := by
    intro front isPrefix found
    have stands :=
      Text.mem_occurrences_of_suffix seeks.nonempty isPrefix found
    rw [nowhere] at stands
    exact stands
  rintro ⟨-, bound, last, reached, complete⟩
  have isPrefix := List.take_prefix lexeme.length text
  rw [seeks.run_of_unfound fun front shorter _ =>
    unfound front (shorter.trans isPrefix), Option.some.injEq] at reached
  subst reached
  exact unfound _ isPrefix (seeks.role_eq_some_iff.mp complete).2

end CommentScan.Automaton.State.Seeks
