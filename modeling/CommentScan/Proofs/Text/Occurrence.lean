import CommentScan.Text
import Mathlib.Data.Nat.Find
import Mathlib.Order.Bounds.Basic
import Mathlib.Data.Set.Image

/-!
# Words in a text

A word stands in a text at some indices, of which there is a first and a last
one.  Whoever looks for it one character at a time need not remember the text:
it is enough to know how much of the word the text ends with.

`overlap` is that number, and `overlap_append_singleton` says how it goes on:
the next overlap follows from the last one and the next character alone.
-/

namespace CommentScan

/-! ## Overlaps -/

section Overlap

variable {α : Type} {word text : List α}

/-- A text ends with one more element of a word if it goes on with it. -/
theorem take_succ_suffix_append_iff {count : Nat}
    (inside : count < word.length) (next : α) :
    word.take (count + 1) <:+ text ++ [next] ↔
      word.take count <:+ text ∧ word[count] = next := by
  rw [← List.take_append_getElem inside]
  constructor
  · rintro ⟨front, whole⟩
    rw [← List.append_assoc] at whole
    rcases List.append_inj' whole rfl with ⟨same, last⟩
    exact ⟨⟨front, same⟩, List.singleton_inj.mp last⟩
  · rintro ⟨⟨front, rfl⟩, rfl⟩
    exact ⟨front, (List.append_assoc _ _ _).symm⟩

variable [DecidableEq α]

/-- The most elements at the front of a word that a text ends with. -/
def overlap (word text : List α) : Nat :=
  Nat.findGreatest (fun count => word.take count <:+ text) word.length

theorem overlap_le (word text : List α) :
    overlap word text ≤ word.length :=
  Nat.findGreatest_le _

theorem take_overlap_suffix (word text : List α) :
    word.take (overlap word text) <:+ text :=
  @Nat.findGreatest_spec 0 (fun count => word.take count <:+ text) _ _
    (Nat.zero_le _) (by simp)

theorem le_overlap {count : Nat} (bound : count ≤ word.length)
    (ends : word.take count <:+ text) : count ≤ overlap word text :=
  Nat.le_findGreatest bound ends

@[simp]
theorem overlap_nil (word : List α) : overlap word [] = 0 := by
  have nothing := List.suffix_nil.mp (take_overlap_suffix word [])
  have lengths := congrArg List.length nothing
  rw [List.length_take_of_le (overlap_le word [])] at lengths
  exact lengths

/-- The whole word is the overlap exactly if the text ends with it. -/
theorem overlap_eq_length_iff :
    overlap word text = word.length ↔ word <:+ text := by
  constructor
  · intro whole
    have ends := take_overlap_suffix word text
    rwa [whole, List.take_length] at ends
  · intro ends
    apply Nat.le_antisymm (overlap_le word text)
    apply le_overlap (Nat.le_refl _)
    rwa [List.take_length]

/-- The next overlap depends on the text only through the last one. -/
theorem overlap_append_singleton (word text : List α) (next : α) :
    overlap word (text ++ [next]) =
      overlap word (word.take (overlap word text) ++ [next]) := by
  have ends := take_overlap_suffix word text
  apply Nat.le_antisymm
  · have bound := overlap_le word (text ++ [next])
    have suffix := take_overlap_suffix word (text ++ [next])
    generalize overlap word (text ++ [next]) = count at bound suffix ⊢
    cases count with
    | zero => exact Nat.zero_le _
    | succ count =>
        rw [take_succ_suffix_append_iff bound] at suffix
        have shorter :=
          le_overlap (Nat.le_of_succ_le bound) suffix.1
        apply le_overlap bound
        rw [take_succ_suffix_append_iff bound]
        refine ⟨?_, suffix.2⟩
        -- Of two suffixes of one text the shorter is a suffix of the longer.
        apply List.suffix_of_suffix_length_le suffix.1 ends
        rw [List.length_take_of_le (Nat.le_of_succ_le bound),
          List.length_take_of_le (overlap_le word text)]
        exact shorter
  · apply le_overlap (overlap_le word _)
    refine (take_overlap_suffix word _).trans ?_
    rcases ends with ⟨front, whole⟩
    refine ⟨front, ?_⟩
    rw [← List.append_assoc, whole]

end Overlap

/-! ## Occurrences -/

namespace Text

/-- The indices from `start` on at which a word stands in a text. -/
def occurrences (text word : Text) (start : Nat) : Set Nat :=
  {index | start ≤ index ∧ word <+: text.drop index}

variable {text word : Text} {start index : Nat}

/-- A word stands at an index if the text up to the end of it ends with it. -/
theorem isPrefix_drop_iff (nonempty : word ≠ []) :
    word <+: text.drop index ↔
      index + word.length ≤ text.length ∧
        word <:+ text.take (index + word.length) := by
  have positive := List.length_pos_iff.mpr nonempty
  constructor
  · intro stands
    have fits := stands.length_le
    rw [List.length_drop] at fits
    refine ⟨by omega, ?_⟩
    rw [List.take_add, ← List.prefix_iff_eq_take.mp stands]
    exact List.suffix_append _ _
  · rintro ⟨fits, front, whole⟩
    have lengths := congrArg List.length whole
    rw [List.length_append, List.length_take_of_le fits] at lengths
    have same : front.length = index := by omega
    rw [← List.take_append_drop (index + word.length) text, ← whole,
      ← same, List.append_assoc, List.drop_left]
    exact List.prefix_append _ _

theorem le_of_mem_occurrences (nonempty : word ≠ [])
    (stands : index ∈ text.occurrences word start) :
    index + word.length ≤ text.length :=
  ((isPrefix_drop_iff nonempty).mp stands.2).1

/-- Where a first part of a text ends with a word, the word stands. -/
theorem mem_occurrences_of_suffix (nonempty : word ≠ []) {front : Text}
    (isPrefix : front <+: text) (found : word <:+ front) :
    front.length - word.length ∈ text.occurrences word 0 := by
  refine ⟨Nat.zero_le _, ?_⟩
  rw [isPrefix_drop_iff nonempty, Nat.sub_add_cancel found.length_le,
    ← List.prefix_iff_eq_take.mp isPrefix]
  exact ⟨isPrefix.length_le, found⟩

theorem bddAbove_occurrences (nonempty : word ≠ []) :
    BddAbove (text.occurrences word start) :=
  ⟨text.length, fun _ stands =>
    Nat.le_of_add_right_le (le_of_mem_occurrences nonempty stands)⟩

/-- Behind a first part of a text a word stands as in the rest. -/
theorem occurrences_append (front rest word : Text) :
    (front ++ rest).occurrences word front.length =
      (front.length + ·) '' rest.occurrences word 0 := by
  have later : ∀ index,
      (front ++ rest).drop (front.length + index) = rest.drop index :=
    fun index => by rw [← List.drop_drop, List.drop_left]
  ext index
  constructor
  · rintro ⟨behind, stands⟩
    rcases Nat.exists_eq_add_of_le behind with ⟨distance, rfl⟩
    rw [later] at stands
    exact ⟨distance, ⟨Nat.zero_le _, stands⟩, rfl⟩
  · rintro ⟨distance, ⟨-, stands⟩, rfl⟩
    rw [← later] at stands
    exact ⟨Nat.le_add_right _ _, stands⟩

end Text

end CommentScan
