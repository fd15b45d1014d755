import CommentScan.Automaton

/-!
# The longest lexeme

The lexeme at the front of a text is the longest one that the automaton
completes there.  Reading goes on past complete lexemes, remembers the last of
them, and falls back on it when no longer one turns up.  Two shortcuts save
steps: reading stops at a state that nothing extends, and a line comment is
taken up to its line terminator at once.

`longest?_eq_none_iff` says that only an empty text has no lexeme, and
`longest?_length` that a lexeme is not empty and lies within the text.
-/

namespace CommentScan.Lexeme

open CommentScan.Automaton

/-- The number of characters in front of the first line terminator. -/
def lineLength (text : Text) : Nat :=
  (text.takeWhile fun character =>
    CharClass.ofChar character != .lineTerminator).length

/-- The lexeme that ends in a state after `length` characters, or else `best`. -/
def endingAt (state : State) (length : Nat) (best : Option Lexeme) :
    Option Lexeme :=
  match state.role with
  | some role => some ⟨role, length⟩
  | none => best

/--
Read on from a state that lies behind `length` characters, where `best` is
the longest lexeme completed so far.
-/
def longestFrom : State → Text → Nat → Option Lexeme → Option Lexeme
  | _, [], _, best => best
  | state, character :: rest, length, best =>
      match state.next (.ofChar character) with
      | none => best
      | some .lineComment =>
          some ⟨.lineComment, length + 1 + lineLength rest⟩
      | some after =>
          if after.isFinal then
            endingAt after (length + 1) best
          else
            longestFrom after rest (length + 1)
              (endingAt after (length + 1) best)

/-- The longest lexeme at the front of a text. -/
def longest? (mode : Mode) (text : Text) : Option Lexeme :=
  longestFrom (.start mode) text 0 none

theorem lineLength_le (text : Text) : lineLength text ≤ text.length :=
  (List.takeWhile_prefix _).length_le

/-- A lexeme that is not empty and not longer than `bound` characters. -/
def FitsIn (bound : Nat) (lexeme : Lexeme) : Prop :=
  0 < lexeme.length ∧ lexeme.length ≤ bound

theorem endingAt_fitsIn {state : State} {length bound : Nat}
    {best : Option Lexeme} {lexeme : Lexeme}
    (bounded : length < bound)
    (bestFits : ∀ lexeme, best = some lexeme → lexeme.FitsIn bound)
    (found : endingAt state (length + 1) best = some lexeme) :
    lexeme.FitsIn bound := by
  unfold endingAt at found
  split at found
  · cases found
    exact ⟨Nat.succ_pos length, bounded⟩
  · exact bestFits lexeme found

theorem longestFrom_fitsIn {state : State} {text : Text} {length bound : Nat}
    {best : Option Lexeme} {lexeme : Lexeme}
    (bounded : length + text.length ≤ bound)
    (bestFits : ∀ lexeme, best = some lexeme → lexeme.FitsIn bound)
    (found : longestFrom state text length best = some lexeme) :
    lexeme.FitsIn bound := by
  induction text generalizing state length best with
  | nil => exact bestFits lexeme found
  | cons character rest inductionHypothesis =>
      rw [List.length_cons] at bounded
      have oneMore : length < bound := by omega
      simp only [longestFrom] at found
      split at found
      · exact bestFits lexeme found
      · cases found
        have inside := lineLength_le rest
        constructor <;> simp only <;> omega
      · split at found
        · exact endingAt_fitsIn oneMore bestFits found
        · refine inductionHypothesis (by omega) ?_ found
          intro lexeme ending
          exact endingAt_fitsIn oneMore bestFits ending

/-- A lexeme is not empty and lies within the text. -/
theorem longest?_length {mode : Mode} {text : Text} {lexeme : Lexeme}
    (found : longest? mode text = some lexeme) :
    0 < lexeme.length ∧ lexeme.length ≤ text.length := by
  refine longestFrom_fitsIn (Nat.le_of_eq (Nat.zero_add _)) ?_ found
  intro lexeme impossible
  cases impossible

theorem endingAt_some_isSome (state : State) (length : Nat) (best : Lexeme) :
    (endingAt state length (some best)).isSome := by
  unfold endingAt
  split <;> rfl

/-- Reading on never loses a lexeme. -/
theorem longestFrom_some_isSome (state : State) (text : Text) (length : Nat)
    (best : Lexeme) : (longestFrom state text length (some best)).isSome := by
  induction text generalizing state length best with
  | nil => rfl
  | cons character rest inductionHypothesis =>
      simp only [longestFrom]
      split
      · rfl
      · rfl
      · split
        · exact endingAt_some_isSome _ _ _
        · obtain ⟨better, found⟩ :=
            Option.isSome_iff_exists.mp
              (endingAt_some_isSome _ (length + 1) best)
          rw [found]
          exact inductionHypothesis _ _ better

theorem longest?_cons_isSome (mode : Mode) (character : Char) (rest : Text) :
    (longest? mode (character :: rest)).isSome := by
  obtain ⟨state, role, step, complete⟩ :=
    State.start_next_role mode (.ofChar character)
  simp only [longest?, longestFrom, step]
  split
  · contradiction
  · rfl
  · rename_i after _ same
    cases same
    simp only [endingAt, complete]
    split
    · rfl
    · exact longestFrom_some_isSome _ _ _ _

/-- Only an empty text has no lexeme at its front. -/
theorem longest?_eq_none_iff {mode : Mode} {text : Text} :
    longest? mode text = none ↔ text = [] := by
  cases text with
  | nil => simp [longest?, longestFrom]
  | cons character rest =>
      have some := longest?_cons_isSome mode character rest
      rw [Option.isSome_iff_ne_none] at some
      simp [some]

end CommentScan.Lexeme
