import CommentScan.Text

/-!
# Boundaries and windows of a text

A byte offset is a boundary if it falls between two characters or at an end
of the text.  Between two boundaries lies a slice.  This module says how
slices are taken apart and put together: a slice splits wherever its
characters do, and two slices that meet in an offset make up one.

`slice?_append_iff` is the law for both directions, and `exists_slice?` says
that boundaries in order always have a slice between them.
-/

namespace CommentScan.Text

/-- Whether an offset falls between two characters or at an end of a text. -/
def IsBoundary (text : Text) (offset : Nat) : Prop :=
  ∃ index, indexAt? text offset = some index

instance (text : Text) (offset : Nat) : Decidable (IsBoundary text offset) :=
  decidable_of_iff _ Option.isSome_iff_exists

/-- A boundary is the size of some first part. -/
theorem isBoundary_iff {text : Text} {offset : Nat} :
    IsBoundary text offset ↔
      ∃ front back, text = front ++ back ∧ byteLength front = offset := by
  constructor
  · rintro ⟨index, found⟩
    rcases indexAt?_eq_some_iff.mp found with ⟨-, bytes⟩
    exact ⟨_, _, (List.take_append_drop index text).symm, bytes⟩
  · rintro ⟨front, back, rfl, rfl⟩
    refine ⟨front.length, indexAt?_eq_some_iff.mpr ⟨?_, ?_⟩⟩
    · simp
    · rw [List.take_left]

theorem isBoundary_byteLength (front back : Text) :
    IsBoundary (front ++ back) (byteLength front) :=
  isBoundary_iff.mpr ⟨front, back, rfl, rfl⟩

/-- Two first parts of one text that have the same size are the same. -/
theorem eq_of_byteLength_eq {left right leftRest rightRest : Text}
    (whole : left ++ leftRest = right ++ rightRest)
    (bytes : byteLength left = byteLength right) : left = right := by
  have index : ∀ front back : Text,
      indexAt? (front ++ back) (byteLength front) = some front.length := by
    intro front back
    rw [indexAt?_eq_some_iff, List.take_left]
    simp
  have leftIndex := index left leftRest
  rw [whole, bytes, index right rightRest, Option.some.injEq] at leftIndex
  exact (List.append_inj whole leftIndex.symm).1

theorem eq_nil_of_byteLength_eq_zero {text : Text}
    (bytes : byteLength text = 0) : text = [] := by
  have bound := length_le_byteLength text
  rw [bytes] at bound
  exact List.eq_nil_of_length_eq_zero (Nat.le_zero.mp bound)

theorem byteLength_pos {text : Text} (nonempty : text ≠ []) :
    0 < byteLength text :=
  Nat.pos_of_ne_zero fun bytes =>
    nonempty (eq_nil_of_byteLength_eq_zero bytes)

/-! ## Slices -/

theorem slice?_middle (front part back : Text) :
    slice? (front ++ part ++ back) (byteLength front)
        (byteLength front + byteLength part) =
      some part := by
  rw [slice?_eq_some_iff]
  exact ⟨front, back, rfl, rfl, byteLength_append front part⟩

/-- The slice of a whole text is the text. -/
theorem slice?_whole (text : Text) :
    slice? text 0 (byteLength text) = some text := by
  have middle := slice?_middle [] text []
  simpa using middle

/-- Offsets reach all of a text that is not too long for them. -/
theorem reachable?_of_le {text : Text}
    (small : byteLength text ≤ wordLimit) : text.reachable? = some text := by
  rw [reachable?, reachableLength, Nat.min_eq_left small, slice?_whole]

/-- What stands behind the last offset is not reached. -/
theorem reachable?_append {front : Text}
    (full : byteLength front = wordLimit) (back : Text) :
    (front ++ back).reachable? = some front := by
  have far : wordLimit ≤ byteLength (front ++ back) := by
    rw [byteLength_append, full]
    exact Nat.le_add_right _ _
  have middle := slice?_middle [] front back
  rw [byteLength_nil, Nat.zero_add, full] at middle
  rw [reachable?, reachableLength, Nat.min_eq_right far]
  exact middle

/-- A slice lies between boundaries, as far apart as it is long. -/
theorem bounds_of_slice? {text part : Text} {start stop : Nat}
    (sliced : slice? text start stop = some part) :
    IsBoundary text start ∧ IsBoundary text stop ∧
      stop = start + byteLength part ∧ stop ≤ byteLength text := by
  rcases slice?_eq_some_iff.mp sliced with ⟨front, back, rfl, rfl, rfl⟩
  refine ⟨?_, isBoundary_byteLength _ back, byteLength_append front part, ?_⟩
  · rw [List.append_assoc]
    exact isBoundary_byteLength _ _
  · rw [byteLength_append (front ++ part) back]
    exact Nat.le_add_right _ _

/-- A slice splits wherever its characters do, and slices that meet join. -/
theorem slice?_append_iff {text left right : Text} {start stop : Nat} :
    slice? text start stop = some (left ++ right) ↔
      slice? text start (start + byteLength left) = some left ∧
        slice? text (start + byteLength left) stop = some right := by
  constructor
  · intro sliced
    rcases slice?_eq_some_iff.mp sliced with ⟨front, back, rfl, rfl, rfl⟩
    constructor
    · rw [slice?_eq_some_iff]
      exact ⟨front, right ++ back, by simp, rfl, byteLength_append _ _⟩
    · rw [slice?_eq_some_iff]
      exact ⟨front ++ left, back, by simp, byteLength_append _ _, by simp⟩
  · rintro ⟨leftSliced, rightSliced⟩
    rcases slice?_eq_some_iff.mp leftSliced with ⟨front, rest, rfl, rfl, -⟩
    rcases slice?_eq_some_iff.mp rightSliced with
      ⟨longer, back, whole, bytes, rfl⟩
    rw [List.append_assoc longer] at whole
    have same : front ++ left = longer :=
      eq_of_byteLength_eq whole (by rw [byteLength_append, bytes])
    subst same
    rw [slice?_eq_some_iff]
    exact ⟨front, back, by rw [whole]; simp, rfl, by simp⟩

/-- Boundaries in order have a slice between them. -/
theorem exists_slice? {text : Text} {start stop : Nat}
    (startBoundary : IsBoundary text start)
    (stopBoundary : IsBoundary text stop) (ordered : start ≤ stop) :
    ∃ part, slice? text start stop = some part := by
  rcases isBoundary_iff.mp startBoundary with ⟨front, rest, whole, rfl⟩
  rcases isBoundary_iff.mp stopBoundary with ⟨longer, back, same, rfl⟩
  rcases List.append_eq_append_iff.mp (whole.symm.trans same) with
    ⟨part, rfl, -⟩ | ⟨part, rfl, -⟩
  · refine ⟨part, ?_⟩
    rw [same, slice?_eq_some_iff]
    exact ⟨front, back, rfl, rfl, rfl⟩
  · -- The later boundary is not behind the earlier one, so they are the same.
    have empty : part = [] := by
      apply eq_nil_of_byteLength_eq_zero
      rw [byteLength_append] at ordered
      omega
    subst empty
    refine ⟨[], ?_⟩
    rw [same, slice?_eq_some_iff]
    exact ⟨longer, back, by simp, by simp, by simp⟩

/-- A slice from the start is a first part of the size. -/
theorem slice?_zero_eq_some_iff {text part : Text} {size : Nat} :
    slice? text 0 size = some part ↔
      part <+: text ∧ byteLength part = size := by
  rw [slice?_eq_some_iff]
  constructor
  · rintro ⟨front, back, rfl, empty, rfl⟩
    cases eq_nil_of_byteLength_eq_zero empty
    exact ⟨⟨back, rfl⟩, rfl⟩
  · rintro ⟨⟨back, rfl⟩, rfl⟩
    exact ⟨[], back, rfl, rfl, rfl⟩

/-- A first part that ends within the first of two texts is a part of that. -/
theorem slice?_zero_append_left {front : Text} {size : Nat}
    (within : size ≤ byteLength front) (back : Text) :
    slice? (front ++ back) 0 size = slice? front 0 size := by
  ext part
  rw [slice?_zero_eq_some_iff, slice?_zero_eq_some_iff]
  constructor
  · rintro ⟨⟨rest, whole⟩, rfl⟩
    rcases List.append_eq_append_iff.mp whole with
      ⟨more, rfl, -⟩ | ⟨more, rfl, -⟩
    · exact ⟨⟨more, rfl⟩, rfl⟩
    · have empty : more = [] := by
        apply eq_nil_of_byteLength_eq_zero
        rw [byteLength_append] at within
        omega
      rw [empty, List.append_nil]
      exact ⟨List.prefix_rfl, rfl⟩
  · rintro ⟨⟨rest, rfl⟩, rfl⟩
    exact ⟨⟨rest ++ back, by rw [List.append_assoc]⟩, rfl⟩

/-- A first part that ends behind the first of two texts begins with it. -/
theorem slice?_zero_append_right (front back : Text) (size : Nat) :
    slice? (front ++ back) 0 (byteLength front + size) =
      (slice? back 0 size).map (front ++ ·) := by
  ext part
  rw [Option.map_eq_some_iff, slice?_zero_eq_some_iff]
  constructor
  · rintro ⟨⟨rest, whole⟩, bytes⟩
    rcases List.append_eq_append_iff.mp whole with
      ⟨more, rfl, rfl⟩ | ⟨more, rfl, same⟩
    · have empty : more = [] := by
        apply eq_nil_of_byteLength_eq_zero
        rw [byteLength_append] at bytes
        omega
      subst empty
      rw [List.append_nil] at bytes ⊢
      refine ⟨[], ?_, List.append_nil part⟩
      rw [slice?_zero_eq_some_iff, byteLength_nil]
      exact ⟨List.nil_prefix, by omega⟩
    · rw [byteLength_append] at bytes
      refine ⟨more, ?_, rfl⟩
      rw [slice?_zero_eq_some_iff]
      exact ⟨⟨rest, same.symm⟩, Nat.add_left_cancel bytes⟩
  · rintro ⟨part, sliced, rfl⟩
    rcases slice?_zero_eq_some_iff.mp sliced with ⟨⟨rest, rfl⟩, rfl⟩
    exact ⟨⟨rest, by rw [List.append_assoc]⟩, byteLength_append _ _⟩

/-- A boundary in a slice splits it. -/
theorem exists_append_of_slice? {text part : Text}
    {start cut stop : Nat} (sliced : slice? text start stop = some part)
    (boundary : IsBoundary text cut) (behind : start ≤ cut)
    (before : cut ≤ stop) :
    ∃ front back, part = front ++ back ∧ cut = start + byteLength front := by
  rcases bounds_of_slice? sliced with
    ⟨startBoundary, stopBoundary, -, -⟩
  rcases exists_slice? startBoundary boundary behind with
    ⟨front, frontSliced⟩
  rcases exists_slice? boundary stopBoundary before with ⟨back, backSliced⟩
  have far := (bounds_of_slice? frontSliced).2.2.1
  subst far
  have whole := slice?_append_iff.mpr ⟨frontSliced, backSliced⟩
  rw [sliced, Option.some.injEq] at whole
  exact ⟨front, back, whole, rfl⟩

end CommentScan.Text
