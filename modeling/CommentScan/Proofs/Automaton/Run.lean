import CommentScan.Automaton
import Mathlib.Data.List.Induction

/-!
# Runs of the automaton

A run reads a text one character at a time and says which state lies behind
it.  Nothing is cut short here: a run goes on as long as there are characters,
and is undefined as soon as one step is.

The states of the two modes are kept apart by `run_isInside`.  The states of
comment markers are told apart by `run_spelling`: a single word leads to each
of them.
-/

namespace CommentScan.Automaton.State

/-- The state behind a text, if every step on the way is defined. -/
def run : State → Text → Option State
  | state, [] => some state
  | state, character :: rest =>
      match state.next (.ofChar character) with
      | none => none
      | some after => after.run rest

@[simp]
theorem run_nil (state : State) : state.run [] = some state := rfl

theorem run_cons_of_none {state : State} {character : Char}
    (stuck : state.next (.ofChar character) = none) (rest : Text) :
    state.run (character :: rest) = none := by
  rw [run, stuck]

theorem run_cons_of_some {state after : State} {character : Char}
    (step : state.next (.ofChar character) = some after) (rest : Text) :
    state.run (character :: rest) = after.run rest := by
  rw [run, step]

/-- A step that leads somewhere makes a run of one character more. -/
theorem run_cons_eq_some_iff {state last : State} {character : Char}
    {rest : Text} :
    state.run (character :: rest) = some last ↔
      ∃ after, state.next (.ofChar character) = some after ∧
        after.run rest = some last := by
  cases step : state.next (.ofChar character) with
  | none => simp [run_cons_of_none step]
  | some after => simp [run_cons_of_some step]

/-- A run over two texts goes through the state between them. -/
theorem run_append_eq_some_iff {state last : State} {front back : Text} :
    state.run (front ++ back) = some last ↔
      ∃ middle, state.run front = some middle ∧
        middle.run back = some last := by
  induction front generalizing state with
  | nil => simp
  | cons character rest inductionHypothesis =>
      rw [List.cons_append, run_cons_eq_some_iff]
      constructor
      · rintro ⟨after, step, more⟩
        rcases inductionHypothesis.mp more with ⟨middle, first, second⟩
        exact ⟨middle, run_cons_eq_some_iff.mpr ⟨after, step, first⟩, second⟩
      · rintro ⟨middle, first, second⟩
        rcases run_cons_eq_some_iff.mp first with ⟨after, step, more⟩
        exact ⟨after, step, inductionHypothesis.mpr ⟨middle, more, second⟩⟩

/-! ## Modes -/

/-- Whether a state belongs to the lexemes inside a comment. -/
def isInside : State → Bool
  | start .inside => true
  | commentCharacter | commentSlash | commentStar => true
  | nestedOpener | closer => true
  | _ => false

theorem next_isInside {state after : State} {charClass : CharClass}
    (step : state.next charClass = some after) :
    after.isInside = state.isInside := by
  cases state with
  | start mode =>
      cases mode <;> cases charClass <;> cases step <;> rfl
  | charLiteral progress | stringLiteral progress | header progress
  | colonHeader progress =>
      cases progress <;> cases charClass <;> cases step <;> rfl
  | _ => cases charClass <;> cases step <;> rfl

/-- A run never crosses from one mode to the other. -/
theorem run_isInside {state last : State} {text : Text}
    (reached : state.run text = some last) :
    last.isInside = state.isInside := by
  induction text generalizing state with
  | nil =>
      cases reached
      rfl
  | cons character rest inductionHypothesis =>
      rcases run_cons_eq_some_iff.mp reached with ⟨after, step, more⟩
      exact (inductionHypothesis more).trans (next_isInside step)

/-! ## Spellings -/

/-- The only word of classes that leads to a state, where there is only one. -/
def spelling? : State → Option (List CharClass)
  | start _ => some []
  | slash => some [.slash]
  | blockOpener => some [.slash, .star]
  | docOpener => some [.slash, .star, .star]
  | emptyComment => some [.slash, .star, .star, .slash]
  | commentSlash => some [.slash]
  | commentStar => some [.star]
  | nestedOpener => some [.slash, .star]
  | closer => some [.star, .slash]
  | _ => none

theorem next_spelling {state after : State} {charClass : CharClass}
    {word : List CharClass} (step : state.next charClass = some after)
    (spelled : after.spelling? = some word) :
    ∃ front, state.spelling? = some front ∧ word = front ++ [charClass] := by
  cases state with
  | start mode =>
      cases mode <;> cases charClass <;> cases step <;> cases spelled <;>
        exact ⟨_, rfl, rfl⟩
  | charLiteral progress | stringLiteral progress | header progress
  | colonHeader progress =>
      cases progress <;> cases charClass <;> cases step <;> cases spelled
  | _ =>
      cases charClass <;> cases step <;> cases spelled <;>
        exact ⟨_, rfl, rfl⟩

/-- The word that leads to a state from the start of a lexeme. -/
theorem run_spelling {mode : Mode} {last : State} {text : Text}
    {word : List CharClass} (reached : (start mode).run text = some last)
    (spelled : last.spelling? = some word) :
    text.map CharClass.ofChar = word := by
  induction text using List.reverseRecOn generalizing last word with
  | nil =>
      cases reached
      cases spelled
      rfl
  | append_singleton front character inductionHypothesis =>
      rcases run_append_eq_some_iff.mp reached with ⟨middle, first, second⟩
      rcases run_cons_eq_some_iff.mp second with ⟨after, step, done⟩
      cases done
      rcases next_spelling step spelled with ⟨frontWord, frontSpelled, rfl⟩
      rw [List.map_append, inductionHypothesis first frontSpelled]
      rfl

end CommentScan.Automaton.State
