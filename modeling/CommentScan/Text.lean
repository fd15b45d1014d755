/-!
# Text and byte offsets

A text is a list of characters.  Places in it are named by the number of
UTF-8 bytes in front of them, so only some offsets fall between two
characters.  This module measures a text in bytes, finds the character index
that belongs to a byte offset, and cuts a text between two offsets.

`indexAt?_eq_some_iff` says which offsets have an index: those that are the
byte length of some first part of the text.  `slice?_eq_some_iff` says what a
slice is: the middle of a text whose first part ends at the one offset and
whose last part begins at the other.

An offset is a machine word, so that of a very long text only a first part can
be reached.
-/

namespace CommentScan

/-- The characters of a source, in order. -/
abbrev Text := List Char

/-- The largest offset, and the largest depth, that a machine word holds. -/
def wordLimit : Nat := 4294967295

namespace Text

/-- The number of bytes of a text in UTF-8. -/
def byteLength (text : Text) : Nat :=
  text.foldl (fun total character => total + character.utf8Size) 0

@[simp]
theorem byteLength_nil : byteLength [] = 0 := rfl

theorem foldl_utf8Size (text : Text) (total : Nat) :
    text.foldl (fun total character => total + character.utf8Size) total =
      total + byteLength text := by
  induction text generalizing total with
  | nil => rfl
  | cons character rest inductionHypothesis =>
      simp only [byteLength, List.foldl_cons]
      rw [inductionHypothesis, inductionHypothesis (0 + character.utf8Size)]
      omega

@[simp]
theorem byteLength_cons (character : Char) (rest : Text) :
    byteLength (character :: rest) =
      character.utf8Size + byteLength rest := by
  rw [byteLength, List.foldl_cons, foldl_utf8Size]
  omega

@[simp]
theorem byteLength_append (front back : Text) :
    byteLength (front ++ back) = byteLength front + byteLength back := by
  induction front with
  | nil => simp
  | cons character rest inductionHypothesis =>
      simp [inductionHypothesis]
      omega

theorem byteLength_replicate (count : Nat) (character : Char) :
    byteLength (List.replicate count character) =
      count * character.utf8Size := by
  induction count with
  | zero => simp
  | succ count inductionHypothesis =>
      rw [List.replicate_succ, byteLength_cons, inductionHypothesis,
        Nat.succ_mul, Nat.add_comm]

theorem byteLength_append_replicate (front : Text) (count : Nat)
    {character : Char} (narrow : character.utf8Size = 1) :
    byteLength (front ++ List.replicate count character) =
      byteLength front + count := by
  rw [byteLength_append, byteLength_replicate, narrow, Nat.mul_one]

theorem length_le_byteLength (text : Text) :
    text.length ≤ byteLength text := by
  induction text with
  | nil => simp
  | cons character rest inductionHypothesis =>
      have positive := character.utf8Size_pos
      simp only [List.length_cons, byteLength_cons]
      omega

/--
The number of characters in the first `offset` bytes of a text, provided
these bytes end between two characters.
-/
def indexAt? (text : Text) (offset : Nat) : Option Nat :=
  go text offset 0
where
  /-- Walk on from a place that lies behind `index` characters. -/
  go : Text → Nat → Nat → Option Nat
    | _, 0, index => some index
    | [], _ + 1, _ => none
    | character :: rest, offset + 1, index =>
        if character.utf8Size ≤ offset + 1 then
          go rest (offset + 1 - character.utf8Size) (index + 1)
        else
          none

theorem indexAt?_go_eq_some_iff
    {text : Text} {offset passed index : Nat} :
    indexAt?.go text offset passed = some index ↔
      ∃ count, index = passed + count ∧ count ≤ text.length ∧
        byteLength (text.take count) = offset := by
  induction text generalizing offset passed with
  | nil =>
      cases offset <;> simp [indexAt?.go, eq_comm]
  | cons character rest inductionHypothesis =>
      have positive := character.utf8Size_pos
      cases offset with
      | zero =>
          simp only [indexAt?.go, Option.some.injEq]
          constructor
          · rintro rfl
            exact ⟨0, by simp⟩
          · rintro ⟨count, rfl, -, bytes⟩
            cases count with
            | zero => rfl
            | succ count =>
                simp only [List.take_succ_cons, byteLength_cons] at bytes
                omega
      | succ offset =>
          rw [indexAt?.go]
          split
          · rename_i fits
            rw [inductionHypothesis]
            constructor
            · rintro ⟨count, rfl, bound, bytes⟩
              refine ⟨count + 1, by omega, by simpa using bound, ?_⟩
              simp only [List.take_succ_cons, byteLength_cons]
              omega
            · rintro ⟨count, rfl, bound, bytes⟩
              cases count with
              | zero => simp at bytes
              | succ count =>
                  simp only [List.take_succ_cons, byteLength_cons] at bytes
                  refine ⟨count, by omega, by simpa using bound, by omega⟩
          · rename_i tooLong
            constructor
            · intro impossible
              cases impossible
            · rintro ⟨count, rfl, bound, bytes⟩
              cases count with
              | zero => simp at bytes
              | succ count =>
                  simp only [List.take_succ_cons, byteLength_cons] at bytes
                  omega

/-- An offset has an index exactly when it is the size of a first part. -/
theorem indexAt?_eq_some_iff {text : Text} {offset index : Nat} :
    indexAt? text offset = some index ↔
      index ≤ text.length ∧ byteLength (text.take index) = offset := by
  rw [indexAt?, indexAt?_go_eq_some_iff]
  constructor
  · rintro ⟨count, rfl, bound, bytes⟩
    simpa using And.intro bound bytes
  · rintro ⟨bound, bytes⟩
    exact ⟨index, by omega, bound, bytes⟩

/--
The characters between two byte offsets, provided both lie in the text, fall
between characters and come in this order.
-/
def slice? (text : Text) (start stop : Nat) : Option Text := do
  let first ← indexAt? text start
  let last ← indexAt? text stop
  if first ≤ last then
    some ((text.take last).drop first)
  else
    none

/-- A slice is the part of a text behind a first part and in front of a last. -/
theorem slice?_eq_some_iff {text part : Text} {start stop : Nat} :
    slice? text start stop = some part ↔
      ∃ front back, text = front ++ part ++ back ∧
        byteLength front = start ∧ byteLength (front ++ part) = stop := by
  constructor
  · intro sliced
    simp only [slice?, bind, Option.bind_eq_some_iff] at sliced
    obtain ⟨first, firstIndex, last, lastIndex, chosen⟩ := sliced
    rw [indexAt?_eq_some_iff] at firstIndex lastIndex
    split at chosen
    · rename_i ordered
      cases chosen
      have joined :
          text.take first ++ (text.take last).drop first = text.take last := by
        have shorter : (text.take last).take first = text.take first := by
          rw [List.take_take, Nat.min_eq_left ordered]
        rw [← shorter, List.take_append_drop]
      refine ⟨text.take first, text.drop last, ?_, firstIndex.2, ?_⟩
      · rw [joined, List.take_append_drop]
      · rw [joined]
        exact lastIndex.2
    · cases chosen
  · rintro ⟨front, back, rfl, rfl, rfl⟩
    have firstIndex :
        indexAt? (front ++ part ++ back) (byteLength front) =
          some front.length := by
      rw [indexAt?_eq_some_iff]
      simp [List.append_assoc]
    have lastIndex :
        indexAt? (front ++ part ++ back) (byteLength (front ++ part)) =
          some (front ++ part).length := by
      rw [indexAt?_eq_some_iff]
      constructor
      · simp only [List.length_append]
        omega
      · rw [List.take_left]
    simp only [slice?, firstIndex, lastIndex, bind, Option.bind_some]
    rw [if_pos (by simp), List.take_left, List.drop_left]

/-- The number of bytes of a text that offsets can reach. -/
def reachableLength (text : Text) : Nat :=
  min (byteLength text) wordLimit

/--
The part of a text that offsets can reach, provided that it ends between two
characters.
-/
def reachable? (text : Text) : Option Text :=
  slice? text 0 text.reachableLength

end Text

end CommentScan
