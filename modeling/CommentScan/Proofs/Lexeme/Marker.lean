import CommentScan.Proofs.Lexeme.MaximalMunch

/-!
# Markers and comment characters

A lexeme that opens or closes a comment is always the same marker, and every
other lexeme inside a comment is a single character.  So the role of a lexeme
in a comment can be read off its characters: `take_eq_marker` and
`length_of_commentBody` give them, and `not_startsMarker_of_commentBody` says
that no marker begins where a single character is read.

The other way round, the characters in front tell what is read.  Inside a
comment that is a marker where one begins and a single character elsewhere.
Outside, the two openers are told apart by the character behind the first
star, and the one of a doc comment from the empty comment by the character
behind the second.
-/

namespace CommentScan

/-- The characters of a lexeme of a role, where the role fixes them. -/
def Role.marker? : Role → Option Text
  | .opener .block => some ['/', '*']
  | .opener .doc => some ['/', '*', '*']
  | .emptyComment => some ['/', '*', '*', '/']
  | .nestedOpener => some ['/', '*']
  | .closer => some ['*', '/']
  | _ => none

/-- The mode in which lexemes of a role are read. -/
def Role.mode : Role → Mode
  | .nestedOpener | .closer | .commentBody => .inside
  | _ => .outside

/-- All markers of comments. -/
def Text.markers : List Text :=
  [['/', '*'], ['/', '*', '*'], ['/', '*', '*', '/'], ['*', '/']]

namespace Text

/-- Whether a text begins with the opener or the closer of a comment. -/
def StartsMarker (text : Text) : Prop :=
  ['/', '*'] <+: text ∨ ['*', '/'] <+: text

instance (text : Text) : Decidable text.StartsMarker :=
  inferInstanceAs (Decidable (_ ∨ _))

theorem startsMarker_cons_iff {character : Char} {rest : Text} :
    StartsMarker (character :: rest) ↔
      character = '/' ∧ '*' ∈ rest.head? ∨
        character = '*' ∧ '/' ∈ rest.head? := by
  rw [StartsMarker, List.cons_prefix_cons, List.cons_prefix_cons]
  cases rest <;> simp [eq_comm]

theorem startsMarker_of_mem {text marker : Text}
    (listed : marker ∈ markers) (begins : marker <+: text) :
    text.StartsMarker := by
  rcases begins with ⟨rest, rfl⟩
  simp only [markers, List.mem_cons, List.not_mem_nil, or_false] at listed
  rcases listed with rfl | rfl | rfl | rfl
  · exact Or.inl ⟨_, rfl⟩
  · exact Or.inl ⟨_, rfl⟩
  · exact Or.inl ⟨_, rfl⟩
  · exact Or.inr ⟨_, rfl⟩

end Text

theorem Role.mem_markers {role : Role} {marker : Text}
    (marked : role.marker? = some marker) : marker ∈ Text.markers := by
  cases role with
  | opener kind =>
      cases kind <;> cases marked <;> decide
  | emptyComment | nestedOpener | closer =>
      cases marked
      decide
  | plain | lineComment | commentBody => cases marked

/-- In a comment that nests there are markers and single characters only. -/
theorem Role.eq_commentBody_or_marker {role : Role}
    (notPlain : role ≠ .plain) (notLine : role ≠ .lineComment) :
    role = .commentBody ∨ ∃ marker, role.marker? = some marker := by
  cases role with
  | plain => exact absurd rfl notPlain
  | lineComment => exact absurd rfl notLine
  | commentBody => exact Or.inl rfl
  | opener kind => cases kind <;> exact Or.inr ⟨_, rfl⟩
  | emptyComment | nestedOpener | closer => exact Or.inr ⟨_, rfl⟩

/-- No marker is merged with what follows it. -/
theorem Role.isMergeable_of_marker {role : Role} {marker : Text}
    (marked : role.marker? = some marker) : role.isMergeable = false := by
  cases role with
  | plain | commentBody => cases marked
  | _ => rfl

namespace Automaton.State

theorem spelling_of_marker {state : State} {role : Role} {marker : Text}
    (complete : state.role = some role)
    (marked : role.marker? = some marker) :
    state.spelling? = some (marker.map CharClass.ofChar) := by
  cases state with
  | charLiteral progress | stringLiteral progress | header progress
  | colonHeader progress =>
      cases progress <;> cases complete <;> cases marked
  | _ => cases complete <;> cases marked <;> rfl

/-- A state belongs to the mode in which lexemes of its role are read. -/
theorem isInside_eq_of_role {state : State} {role : Role}
    (complete : state.role = some role) :
    state.isInside = decide (role.mode = .inside) := by
  cases state with
  | charLiteral progress | stringLiteral progress | header progress
  | colonHeader progress =>
      cases progress <;> cases complete <;> rfl
  | _ => cases complete <;> rfl

/-- A step to a comment character is the first step of its lexeme. -/
theorem eq_start_of_commentBody {state after : State}
    {charClass : CharClass} (step : state.next charClass = some after)
    (complete : after.role = some .commentBody) :
    state = start .inside := by
  cases state with
  | start mode =>
      cases mode with
      | outside => cases charClass <;> cases step <;> cases complete
      | inside => rfl
  | charLiteral progress | stringLiteral progress | header progress
  | colonHeader progress =>
      cases progress <;> cases charClass <;> cases step <;> cases complete
  | _ => cases charClass <;> cases step <;> cases complete

end Automaton.State

namespace Lexeme

open CommentScan.Automaton

theorem exists_state {mode : Mode} {text : Text} {lexeme : Lexeme}
    (found : longest? mode text = some lexeme) :
    ∃ last,
      (State.start mode).run (text.take lexeme.length) = some last ∧
        last.role = some lexeme.role :=
  (longest?_eq_some_iff.mp found).1.2.2

/-- A lexeme that opens or closes a comment is its marker. -/
theorem take_eq_marker {mode : Mode} {text marker : Text} {lexeme : Lexeme}
    (found : longest? mode text = some lexeme)
    (marked : lexeme.role.marker? = some marker) :
    text.take lexeme.length = marker := by
  rcases exists_state found with ⟨last, reached, complete⟩
  have allAlone :
      ∀ marker ∈ Text.markers, marker.all (CharClass.IsAlone ·) := by
    decide
  have alone :=
    List.all_iff_forall_prop.mp (allAlone marker (Role.mem_markers marked))
  have classes :=
    State.run_spelling reached (State.spelling_of_marker complete marked)
  exact (Text.map_ofChar_eq_iff alone).mp classes

/-- Lexemes of a role are read in one mode only. -/
theorem mode_eq_of_longest? {mode : Mode} {text : Text} {lexeme : Lexeme}
    (found : longest? mode text = some lexeme) : lexeme.role.mode = mode := by
  rcases exists_state found with ⟨last, reached, complete⟩
  have inside := State.run_isInside reached
  rw [State.isInside_eq_of_role complete] at inside
  cases mode with
  | outside =>
      cases mode : lexeme.role.mode with
      | outside => rfl
      | inside =>
          rw [mode] at inside
          cases inside
  | inside => exact of_decide_eq_true inside

/-- Comment characters are read one at a time. -/
theorem length_of_commentBody {mode : Mode} {text : Text} {lexeme : Lexeme}
    (found : longest? mode text = some lexeme)
    (body : lexeme.role = .commentBody) : lexeme.length = 1 := by
  rcases exists_state found with ⟨last, reached, complete⟩
  have bounds := longest?_length found
  rw [body] at complete
  rcases List.eq_nil_or_concat (text.take lexeme.length) with
    empty | ⟨front, character, whole⟩
  · rw [empty] at reached
    cases reached
    cases complete
  · rw [whole, List.concat_eq_append] at reached
    rcases State.run_append_eq_some_iff.mp reached with
      ⟨middle, first, second⟩
    rcases State.run_cons_eq_some_iff.mp second with ⟨after, step, done⟩
    cases done
    -- The step is a first step, and only the empty word leads in front of it.
    have atStart := State.eq_start_of_commentBody step complete
    subst atStart
    have nothing := State.run_spelling first rfl
    rw [List.map_eq_nil_iff] at nothing
    have lengths := congrArg List.length whole
    rw [List.length_take, Nat.min_eq_left bounds.2, nothing] at lengths
    exact lengths

/-! ## What is read where a marker may begin -/

theorem longest?_nestedOpener (rest : Text) :
    longest? .inside ('/' :: '*' :: rest) = some ⟨.nestedOpener, 2⟩ := rfl

theorem longest?_closer (rest : Text) :
    longest? .inside ('*' :: '/' :: rest) = some ⟨.closer, 2⟩ := rfl

/-- Where only a star leads on and none comes, reading stops. -/
theorem longestFrom_of_no_star {state : State}
    (atStar : state = .blockOpener ∨ state = .commentSlash) {text : Text}
    (other : '*' ∉ text.head?) (length : Nat) (best : Option Lexeme) :
    longestFrom state text length best = best := by
  cases text with
  | nil => rfl
  | cons character rest =>
      cases charClass : CharClass.ofChar character with
      | star =>
          rw [(CharClass.ofChar_eq_iff rfl).mp charClass] at other
          exact absurd rfl other
      | _ =>
          rcases atStar with rfl | rfl <;>
            · rw [longestFrom, charClass]
              rfl

/-- Where only a slash leads on and none comes, reading stops. -/
theorem longestFrom_of_no_slash {state : State}
    (atSlash : state = .docOpener ∨ state = .commentStar) {text : Text}
    (other : '/' ∉ text.head?) (length : Nat) (best : Option Lexeme) :
    longestFrom state text length best = best := by
  cases text with
  | nil => rfl
  | cons character rest =>
      cases charClass : CharClass.ofChar character with
      | slash =>
          rw [(CharClass.ofChar_eq_iff rfl).mp charClass] at other
          exact absurd rfl other
      | _ =>
          rcases atSlash with rfl | rfl <;>
            · rw [longestFrom, charClass]
              rfl

theorem longest?_blockOpener {rest : Text} (other : '*' ∉ rest.head?) :
    longest? .outside ('/' :: '*' :: rest) = some ⟨.opener .block, 2⟩ :=
  longestFrom_of_no_star (Or.inl rfl) other 2 _

theorem longest?_docOpener {rest : Text} (other : '/' ∉ rest.head?) :
    longest? .outside ('/' :: '*' :: '*' :: rest) =
      some ⟨.opener .doc, 3⟩ :=
  longestFrom_of_no_slash (Or.inl rfl) other 3 _

/-- Where no marker begins, a single character is read. -/
theorem longest?_commentBody {character : Char} {rest : Text}
    (unmarked : ¬ Text.StartsMarker (character :: rest)) :
    longest? .inside (character :: rest) = some ⟨.commentBody, 1⟩ := by
  rw [Text.startsMarker_cons_iff, not_or] at unmarked
  cases charClass : CharClass.ofChar character with
  | slash =>
      cases (CharClass.ofChar_eq_iff rfl).mp charClass
      have other : '*' ∉ rest.head? := fun star => unmarked.1 ⟨rfl, star⟩
      exact longestFrom_of_no_star (Or.inr rfl) other 1 _
  | star =>
      cases (CharClass.ofChar_eq_iff rfl).mp charClass
      have other : '/' ∉ rest.head? := fun slash => unmarked.2 ⟨rfl, slash⟩
      exact longestFrom_of_no_slash (Or.inr rfl) other 1 _
  | _ =>
      rw [longest?, longestFrom, charClass]
      rfl

/-- Where a single character is read, no marker begins. -/
theorem not_startsMarker_of_commentBody {mode : Mode} {text : Text}
    {lexeme : Lexeme} (found : longest? mode text = some lexeme)
    (body : lexeme.role = .commentBody) : ¬ text.StartsMarker := by
  have inside : mode = .inside := by
    rw [← mode_eq_of_longest? found, body]
    rfl
  subst inside
  rintro (⟨rest, rfl⟩ | ⟨rest, rfl⟩)
  · rw [List.cons_append, List.cons_append, longest?_nestedOpener,
      Option.some.injEq] at found
    subst found
    cases body
  · rw [List.cons_append, List.cons_append, longest?_closer,
      Option.some.injEq] at found
    subst found
    cases body

end Lexeme

end CommentScan
