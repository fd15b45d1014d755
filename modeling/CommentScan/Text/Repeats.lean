import CommentScan.CharClass
import CommentScan.Text

/-!
# Texts of repeated pieces

A text of billions of characters is too long for a list in memory.  Where it is
made of pieces that are repeated, it can be written down by these, and its first
character, its size, the end of its first line and its first part are found
without writing it out.

`expand` is the text that is meant.  The lemmas say what the operations come to
on it.
-/

namespace CommentScan

/-- A piece of text, and how often it stands there one after another. -/
structure Repeat where
  text : Text
  count : Nat
  deriving DecidableEq, Repr

/-- A text that is written as repeated pieces. -/
abbrev Repeats := List Repeat

namespace Repeat

/-- All characters of a repeated piece. -/
def expand (piece : Repeat) : Text :=
  (List.replicate piece.count piece.text).flatten

/-- The number of bytes of a repeated piece. -/
def byteLength (piece : Repeat) : Nat :=
  piece.count * Text.byteLength piece.text

@[simp]
theorem expand_zero (text : Text) : expand ⟨text, 0⟩ = [] := rfl

@[simp]
theorem expand_succ (text : Text) (count : Nat) :
    expand ⟨text, count + 1⟩ = text ++ expand ⟨text, count⟩ := rfl

@[simp]
theorem expand_empty (count : Nat) : expand ⟨[], count⟩ = [] := by
  induction count with
  | zero => rfl
  | succ count inductionHypothesis => rw [expand_succ, inductionHypothesis]; rfl

theorem expand_add (text : Text) (first second : Nat) :
    expand ⟨text, first + second⟩ =
      expand ⟨text, first⟩ ++ expand ⟨text, second⟩ := by
  rw [expand, ← List.replicate_append_replicate, List.flatten_append]
  rfl

theorem byteLength_expand (piece : Repeat) :
    Text.byteLength piece.expand = piece.byteLength := by
  rcases piece with ⟨text, count⟩
  rw [byteLength]
  induction count with
  | zero => rw [expand_zero, Text.byteLength_nil, Nat.zero_mul]
  | succ count inductionHypothesis =>
      rw [expand_succ, Text.byteLength_append, inductionHypothesis,
        Nat.succ_mul, Nat.add_comm]

end Repeat

namespace Repeats

/-- The text that is written. -/
def expand (source : Repeats) : Text :=
  source.flatMap Repeat.expand

@[simp]
theorem expand_nil : expand [] = [] := rfl

@[simp]
theorem expand_cons (piece : Repeat) (rest : Repeats) :
    expand (piece :: rest) = piece.expand ++ expand rest := rfl

/-- The number of bytes of the text. -/
def byteLength : Repeats → Nat
  | [] => 0
  | piece :: rest => piece.byteLength + byteLength rest

theorem byteLength_expand (source : Repeats) :
    Text.byteLength source.expand = source.byteLength := by
  induction source with
  | nil => rfl
  | cons piece rest inductionHypothesis =>
      rw [expand_cons, Text.byteLength_append, piece.byteLength_expand,
        inductionHypothesis]
      rfl

/-- The first character and what stands behind it, if there is any. -/
def next? : Repeats → Option (Char × Repeats)
  | [] => none
  | ⟨_, 0⟩ :: rest => next? rest
  | ⟨[], _ + 1⟩ :: rest => next? rest
  | ⟨character :: text, count + 1⟩ :: rest =>
      some (character, ⟨text, 1⟩ :: ⟨character :: text, count⟩ :: rest)

theorem expand_of_next?_eq_none {source : Repeats}
    (finished : source.next? = none) : source.expand = [] := by
  fun_induction next? source with
  | case1 => rfl
  | case2 text rest inductionHypothesis =>
      rw [expand_cons, Repeat.expand_zero, inductionHypothesis finished]
      rfl
  | case3 count rest inductionHypothesis =>
      rw [expand_cons, Repeat.expand_empty, inductionHypothesis finished]
      rfl
  | case4 => cases finished

theorem expand_of_next? {source rest : Repeats} {character : Char}
    (found : source.next? = some (character, rest)) :
    source.expand = character :: rest.expand := by
  fun_induction next? source with
  | case1 => cases found
  | case2 text others inductionHypothesis =>
      rw [expand_cons, Repeat.expand_zero, inductionHypothesis found]
      rfl
  | case3 count others inductionHypothesis =>
      rw [expand_cons, Repeat.expand_empty, inductionHypothesis found]
      rfl
  | case4 first text count others =>
      cases found
      simp

/-- What stands at and behind the first line terminator. -/
def dropLine : Repeats → Repeats
  | [] => []
  | ⟨_, 0⟩ :: rest => dropLine rest
  | ⟨text, count + 1⟩ :: rest =>
      match text.dropWhile fun character =>
          CharClass.ofChar character != .lineTerminator with
      | [] => dropLine rest
      | first :: more => ⟨first :: more, 1⟩ :: ⟨text, count⟩ :: rest

/-- The first `size` bytes, or all of them if there are no more. -/
def take? : Nat → Repeats → Option Repeats
  | _, [] => some []
  | size, piece :: rest =>
      if piece.byteLength ≤ size then
        (take? (size - piece.byteLength) rest).map (piece :: ·)
      else
        let single := Text.byteLength piece.text
        (Text.slice? piece.text 0 (size % single)).map fun part =>
          [⟨piece.text, size / single⟩, ⟨part, 1⟩]

/-- The part of the text that offsets can reach. -/
def reachable? (source : Repeats) : Option Repeats :=
  take? wordLimit source

end Repeats

end CommentScan
