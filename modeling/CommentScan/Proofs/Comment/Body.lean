import CommentScan.Proofs.Scanner.Runs
import Mathlib.Data.List.Basic

/-!
# Pieces inside a comment

Inside a comment a lexeme is a marker where one begins and a single character
elsewhere.  Merged, the characters up to the next marker are one piece.

`Text.untilMarker` is that run of characters.  No marker is in it, and a text
without markers is such a run where a marker begins behind it, provided its
last character cannot become part of one.
-/

namespace CommentScan

namespace Text

/-- Whether neither the opener nor the closer of a comment is in a text. -/
def IsUnmarked (text : Text) : Prop :=
  ¬ ['/', '*'] <:+: text ∧ ¬ ['*', '/'] <:+: text

instance (text : Text) : Decidable text.IsUnmarked :=
  inferInstanceAs (Decidable (_ ∧ _))

/-- No marker is in a text if none begins at its front or behind it. -/
theorem isUnmarked_cons_iff {character : Char} {rest : Text} :
    IsUnmarked (character :: rest) ↔
      ¬ StartsMarker (character :: rest) ∧ IsUnmarked rest := by
  simp only [IsUnmarked, StartsMarker, List.infix_cons_iff]
  tauto

/-- The characters of a text in front of its first marker. -/
def untilMarker : Text → Text
  | [] => []
  | character :: rest =>
      if StartsMarker (character :: rest) then
        []
      else
        character :: untilMarker rest

theorem untilMarker_of_startsMarker {text : Text}
    (starts : text.StartsMarker) : text.untilMarker = [] := by
  cases text with
  | nil => rfl
  | cons character rest => rw [untilMarker, if_pos starts]

theorem prefix_untilMarker (text : Text) : text.untilMarker <+: text := by
  induction text with
  | nil => exact List.prefix_rfl
  | cons character rest inductionHypothesis =>
      rw [untilMarker]
      split
      · exact List.nil_prefix
      · exact (List.prefix_cons_inj character).mpr inductionHypothesis

/-- Behind some of the characters in front of a marker are the others. -/
theorem untilMarker_of_append {front back returned : Text}
    (reached : untilMarker (front ++ back) = front ++ returned) :
    untilMarker back = returned := by
  induction front with
  | nil => exact reached
  | cons character rest inductionHypothesis =>
      rw [List.cons_append, List.cons_append, untilMarker] at reached
      split at reached
      · cases reached
      · exact inductionHypothesis (List.cons.inj reached).2

theorem isUnmarked_untilMarker (text : Text) :
    text.untilMarker.IsUnmarked := by
  induction text with
  | nil => decide
  | cons character rest inductionHypothesis =>
      rw [untilMarker]
      split
      · decide
      · rename_i unmarked
        have front :=
          (List.prefix_cons_inj character).mpr (prefix_untilMarker rest)
        refine isUnmarked_cons_iff.mpr ⟨?_, inductionHypothesis⟩
        exact fun starts =>
          unmarked (starts.imp (·.trans front) (·.trans front))

/-- Whether a character can be part of a marker. -/
def IsMarkerCharacter (character : Char) : Prop :=
  character = '/' ∨ character = '*'

instance : DecidablePred IsMarkerCharacter :=
  fun _ => inferInstanceAs (Decidable (_ ∨ _))

/-- A text without markers reaches up to a marker behind it. -/
theorem untilMarker_append {front back : Text} (unmarked : front.IsUnmarked)
    (ends : ∀ last ∈ front.getLast?, ¬ IsMarkerCharacter last)
    (starts : back.StartsMarker) : untilMarker (front ++ back) = front := by
  induction front with
  | nil => exact untilMarker_of_startsMarker starts
  | cons character rest inductionHypothesis =>
      rcases isUnmarked_cons_iff.mp unmarked with ⟨here, later⟩
      have restEnds : ∀ last ∈ rest.getLast?, ¬ IsMarkerCharacter last := by
        intro last isLast
        exact ends last (List.mem_getLast?_cons isLast)
      have notHere : ¬ StartsMarker (character :: (rest ++ back)) := by
        rw [startsMarker_cons_iff] at here ⊢
        cases rest with
        | nil =>
            -- The marker would begin with the last character of the text.
            have plain := ends character rfl
            rintro (⟨rfl, -⟩ | ⟨rfl, -⟩)
            · exact plain (Or.inl rfl)
            · exact plain (Or.inr rfl)
        | cons next more => exact here
      rw [List.cons_append, untilMarker, if_neg notHere,
        inductionHypothesis later restEnds]

end Text

namespace Lexeme

theorem runLength_commentBody (text : Text) (length : Nat) :
    runLength .inside .commentBody text length =
      length + text.untilMarker.length := by
  induction text generalizing length with
  | nil =>
      rw [runLength]
      rfl
  | cons character rest inductionHypothesis =>
      rw [runLength, Text.untilMarker]
      split
      · rename_i missing
        cases longest?_eq_none_iff.mp missing
      · rename_i lexeme found
        by_cases body : lexeme.role = .commentBody
        · have unmarked := not_startsMarker_of_commentBody found body
          have single := length_of_commentBody found body
          rw [if_pos body, if_neg unmarked, single, List.drop_one,
            List.tail_cons, inductionHypothesis, List.length_cons]
          omega
        · have starts : Text.StartsMarker (character :: rest) := by
            by_contra unmarked
            rw [longest?_commentBody unmarked] at found
            cases found
            exact body rfl
          rw [if_neg body, if_pos starts, List.length_nil, Nat.add_zero]

end Lexeme

namespace Piece

variable {nesting : Nesting}

theorem first?_nestedOpener (inside : nesting.mode = .inside)
    (granularity : Granularity) (rest : Text) :
    first? granularity nesting ('/' :: '*' :: rest) =
      some ⟨.nestedOpener, ['/', '*'], nesting.nest⟩ := by
  have found := Lexeme.longest?_nestedOpener rest
  rw [← inside] at found
  exact first?_of_not_mergeable found rfl granularity

theorem first?_closer (inside : nesting.mode = .inside)
    (granularity : Granularity) (rest : Text) :
    first? granularity nesting ('*' :: '/' :: rest) =
      some ⟨.closer, ['*', '/'], nesting.close⟩ := by
  have found := Lexeme.longest?_closer rest
  rw [← inside] at found
  exact first?_of_not_mergeable found rfl granularity

theorem first?_character (inside : nesting.mode = .inside)
    {character : Char} {rest : Text}
    (unmarked : ¬ Text.StartsMarker (character :: rest)) :
    first? .lexemes nesting (character :: rest) =
      some ⟨.commentBody, [character], nesting⟩ := by
  have found := Lexeme.longest?_commentBody unmarked
  rw [← inside] at found
  exact first?_lexemes found

/-- Merged, the characters up to the next marker are one piece. -/
theorem first?_untilMarker (inside : nesting.mode = .inside) {text : Text}
    (nonempty : text ≠ []) (unmarked : ¬ text.StartsMarker) :
    first? .merged nesting text =
      some ⟨.commentBody, text.untilMarker, nesting⟩ := by
  rcases List.exists_cons_of_ne_nil nonempty with ⟨character, rest, rfl⟩
  have found := Lexeme.longest?_commentBody unmarked
  rw [← inside] at found
  have front := Text.prefix_untilMarker (character :: rest)
  have length := Lexeme.runLength_commentBody rest 1
  rw [first?_of_mergeable found rfl, inside, List.drop_one, List.tail_cons,
    length]
  rw [Text.untilMarker, if_neg unmarked, List.prefix_cons_inj,
    List.prefix_iff_eq_take] at front
  rw [Text.untilMarker, if_neg unmarked, Nat.add_comm, List.take_succ_cons,
    ← front]

/-- Where characters of a comment are read no marker begins. -/
theorem not_startsMarker_of_first? {granularity : Granularity} {text : Text}
    {piece : Piece} (found : first? granularity nesting text = some piece)
    (body : piece.role = .commentBody) :
    nesting.mode = .inside ∧ ¬ text.StartsMarker := by
  rcases Option.map_eq_some_iff.mp found with ⟨lexeme, longest, rfl⟩
  have inside := Lexeme.mode_eq_of_longest? longest
  replace body : lexeme.role = .commentBody := body
  rw [body] at inside
  exact
    ⟨inside.symm, Lexeme.not_startsMarker_of_commentBody longest body⟩

/-- A merged piece of a comment is all characters up to the next marker. -/
theorem text_eq_untilMarker {text : Text} {piece : Piece}
    (found : first? .merged nesting text = some piece)
    (body : piece.role = .commentBody) :
    piece.text = text.untilMarker := by
  rcases not_startsMarker_of_first? found body with ⟨inside, unmarked⟩
  have nonempty : text ≠ [] := by
    rintro rfl
    rw [first?_eq_none_iff.mpr rfl] at found
    cases found
  rw [first?_untilMarker inside nonempty unmarked, Option.some.injEq] at found
  rw [← found]

/-- No marker is in the characters of a comment that make up one piece. -/
theorem isUnmarked_of_first? {granularity : Granularity} {text : Text}
    {piece : Piece} (found : first? granularity nesting text = some piece)
    (body : piece.role = .commentBody) : piece.text.IsUnmarked := by
  cases granularity with
  | merged =>
      rw [text_eq_untilMarker found body]
      exact Text.isUnmarked_untilMarker text
  | lexemes =>
      rcases not_startsMarker_of_first? found body with ⟨inside, unmarked⟩
      cases text with
      | nil =>
          rw [first?_eq_none_iff.mpr rfl] at found
          cases found
      | cons character rest =>
          rw [first?_character inside unmarked, Option.some.injEq] at found
          rw [← found, Text.isUnmarked_cons_iff, Text.startsMarker_cons_iff]
          simp [Text.IsUnmarked]

end Piece

end CommentScan
