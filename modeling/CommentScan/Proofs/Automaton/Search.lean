import CommentScan.Proofs.Automaton.Alphabet
import CommentScan.Proofs.Automaton.Run
import CommentScan.Proofs.Text.Occurrence

/-!
# Searching for a word

Script headers, raw strings and backquoted names go on until a closing word
has been read.  The states inside of them remember how much of that word the
text behind them ends with, and nothing else.

`Seeks` says so of a row of states, one step at a time, as long as the word
has not been found; `GoesOn` says the same of the state in which it has.  Then
`run_of_goesOn` and `run_of_unfound` tell the state behind any text: it is
given by the overlap of the word with that text.
-/

namespace CommentScan.Automaton.State

open CharClass

/-- How many characters of a word a text ends with, as its classes tell. -/
def progress (word text : Text) : Nat :=
  overlap (word.map ofChar) (text.map ofChar)

/-- The step of a search from the state in which some characters are found. -/
def StepsOn (word : Text) (states : Nat → State) (count : Nat) : Prop :=
  ∀ charClass,
    (states count).next charClass =
      some (states (overlap (word.map ofChar)
        ((word.map ofChar).take count ++ [charClass])))

/--
A row of states that looks for a word.  In `states count` the last `count`
characters were the first ones of the word, and only the whole word completes
a lexeme.
-/
structure Seeks (word : Text) (states : Nat → State) : Prop where
  nonempty : word ≠ []
  alone : ∀ character ∈ word, IsAlone character
  step : ∀ count < word.length, StepsOn word states count
  incomplete : ∀ count < word.length, (states count).role = none
  complete : (states word.length).role = some .plain

/-- Whether a search for a word goes on where it has found it. -/
def GoesOn (word : Text) (states : Nat → State) : Prop :=
  StepsOn word states word.length

variable {word text : Text} {states : Nat → State}

theorem progress_le (word text : Text) : progress word text ≤ word.length := by
  have bound := overlap_le (word.map ofChar) (text.map ofChar)
  rwa [List.length_map] at bound

/-- The step of a search leads from one overlap to the next. -/
theorem StepsOn.next_progress
    (steps : StepsOn word states (progress word text)) (character : Char) :
    (states (progress word text)).next (.ofChar character) =
      some (states (progress word (text ++ [character]))) := by
  rw [steps, progress, progress, List.map_append, List.map_singleton,
    ← overlap_append_singleton]

/--
Where every step is one of the search, the state behind a text is given by the
overlap of the word with it.
-/
theorem run_of_stepsOn
    (steps : ∀ front, front <+: text → front ≠ text →
      StepsOn word states (progress word front)) :
    (states 0).run text = some (states (progress word text)) := by
  induction text using List.reverseRecOn with
  | nil => rw [progress, List.map_nil, overlap_nil, run_nil]
  | append_singleton front character inductionHypothesis =>
      have reached :=
        inductionHypothesis fun earlier isPrefix different =>
          steps earlier (isPrefix.trans (List.prefix_append _ _)) (by
            rintro rfl
            have lengths := isPrefix.length_le
            rw [List.length_append, List.length_singleton] at lengths
            omega)
      have last :=
        (steps front (List.prefix_append _ _) (by simp)).next_progress
          character
      exact
        run_append_eq_some_iff.mpr
          ⟨_, reached, run_cons_of_some last []⟩

namespace Seeks

theorem progress_eq_length_iff (seeks : Seeks word states) :
    progress word text = word.length ↔ word <:+ text := by
  rw [progress, ← Text.map_ofChar_suffix_iff seeks.alone,
    ← overlap_eq_length_iff, List.length_map]

theorem stepsOn_of_not_suffix (seeks : Seeks word states)
    (unfound : ¬ word <:+ text) :
    StepsOn word states (progress word text) :=
  seeks.step _
    (Nat.lt_of_le_of_ne (progress_le word text)
      fun found => unfound (seeks.progress_eq_length_iff.mp found))

/-- A search that goes on is in the state of the overlap behind any text. -/
theorem run_of_goesOn (seeks : Seeks word states)
    (goesOn : GoesOn word states) (text : Text) :
    (states 0).run text = some (states (progress word text)) := by
  apply run_of_stepsOn
  intro front _ _
  by_cases found : word <:+ front
  · rw [seeks.progress_eq_length_iff.mpr found]
    exact goesOn
  · exact seeks.stepsOn_of_not_suffix found

/-- Any search is in the state of the overlap until it finds the word. -/
theorem run_of_unfound (seeks : Seeks word states)
    (unfound : ∀ front, front <+: text → front ≠ text → ¬ word <:+ front) :
    (states 0).run text = some (states (progress word text)) :=
  run_of_stepsOn fun front isPrefix different =>
    seeks.stepsOn_of_not_suffix (unfound front isPrefix different)

/-- The state of an overlap is complete exactly if the word is found. -/
theorem role_eq_some_iff (seeks : Seeks word states) {role : Role} :
    (states (progress word text)).role = some role ↔
      role = .plain ∧ word <:+ text := by
  by_cases found : word <:+ text
  · rw [seeks.progress_eq_length_iff.mpr found, seeks.complete,
      Option.some.injEq, eq_comm, and_iff_left found]
  · have partly := seeks.incomplete (progress word text)
      (Nat.lt_of_le_of_ne (progress_le word text)
        fun whole => found (seeks.progress_eq_length_iff.mp whole))
    simp [partly, found]

/-- At the first occurrence of the word it is found. -/
theorem run_of_isLeast (seeks : Seeks word states) {first : Nat}
    (isLeast : IsLeast (text.occurrences word 0) first) :
    (states 0).run (text.take (first + word.length)) =
      some (states word.length) := by
  have stands := (Text.isPrefix_drop_iff seeks.nonempty).mp isLeast.1.2
  rw [seeks.run_of_unfound, seeks.progress_eq_length_iff.mpr stands.2]
  intro front isPrefix different found
  -- An earlier end of the word would be an earlier occurrence.
  have shorter : front.length < first + word.length := by
    rw [← List.length_take_of_le stands.1]
    exact Nat.lt_of_le_of_ne isPrefix.length_le fun same =>
      different (isPrefix.eq_of_length same)
  have fits := found.length_le
  have inText := isPrefix.trans (List.take_prefix _ text)
  have least :=
    isLeast.2 (Text.mem_occurrences_of_suffix seeks.nonempty inText found)
  omega

end Seeks

end CommentScan.Automaton.State
