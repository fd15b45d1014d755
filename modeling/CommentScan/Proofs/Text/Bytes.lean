import CommentScan.Proofs.Automaton.Alphabet
import CommentScan.Proofs.Text.Boundary

/-!
# Texts as bytes

The encoded form of a text in UTF-8, and the search for a line terminator in
it byte by byte.  A byte below 128 occurs only as the whole code of a
character, so the search cannot stop inside a character, and it stops where a
search over the characters does: `lineBytes_eq` says so.
-/

namespace CommentScan.Text

/-- The bytes of a text in UTF-8. -/
def utf8 (text : Text) : List UInt8 :=
  text.flatMap String.utf8EncodeChar

@[simp]
theorem utf8_nil : utf8 [] = [] := rfl

@[simp]
theorem utf8_cons (character : Char) (rest : Text) :
    utf8 (character :: rest) =
      String.utf8EncodeChar character ++ utf8 rest := rfl

theorem length_utf8 (text : Text) : (utf8 text).length = byteLength text := by
  induction text with
  | nil => rfl
  | cons character rest inductionHypothesis =>
      rw [utf8_cons, List.length_append, inductionHypothesis,
        String.length_utf8EncodeChar, byteLength_cons]

/-- A byte of a character is the whole code of it, or beyond ASCII. -/
theorem toNat_of_mem_utf8EncodeChar {character : Char} {byte : UInt8}
    (member : byte ∈ String.utf8EncodeChar character) :
    byte.toNat = character.toNat ∨ 128 ≤ byte.toNat := by
  simp only [String.utf8EncodeChar, Char.toNat_val] at member
  split at member
  · rw [List.mem_singleton] at member
    rw [member, UInt8.toNat_ofNat']
    omega
  · right
    split at member
    · simp only [List.mem_cons, List.not_mem_nil, or_false] at member
      rcases member with rfl | rfl <;> rw [UInt8.toNat_ofNat'] <;> omega
    · split at member
      · simp only [List.mem_cons, List.not_mem_nil, or_false] at member
        rcases member with rfl | rfl | rfl <;> rw [UInt8.toNat_ofNat'] <;>
          omega
      · simp only [List.mem_cons, List.not_mem_nil, or_false] at member
        rcases member with rfl | rfl | rfl | rfl <;>
          rw [UInt8.toNat_ofNat'] <;> omega

/-! ## The end of a line -/

/-- Whether a byte is the code of a line terminator. -/
def isLineByte (byte : UInt8) : Bool :=
  byte == 10 || byte == 13

/-- The number of bytes in front of the first one that ends a line. -/
def lineBytes (text : Text) : Nat :=
  (utf8 text).findIdx isLineByte

/-- The line ends in the text or with it. -/
theorem lineBytes_le (text : Text) : lineBytes text ≤ byteLength text := by
  rw [← length_utf8]
  exact List.findIdx_le_length

/-- A line terminator is one byte, which ends a line. -/
theorem utf8EncodeChar_of_lineTerminator {character : Char}
    (terminator : CharClass.ofChar character = .lineTerminator) :
    ∃ byte, String.utf8EncodeChar character = [byte] ∧ isLineByte byte := by
  rcases ofChar_eq_lineTerminator_iff.mp terminator with rfl | rfl
  · exact ⟨10, rfl, rfl⟩
  · exact ⟨13, rfl, rfl⟩

/-- No byte of any other character ends a line. -/
theorem isLineByte_of_mem_utf8EncodeChar {character : Char} {byte : UInt8}
    (other : CharClass.ofChar character ≠ .lineTerminator)
    (member : byte ∈ String.utf8EncodeChar character) :
    isLineByte byte = false := by
  have differs : ∀ terminator : Char, terminator.toNat < 128 →
      character ≠ terminator → byte.toNat ≠ terminator.toNat := by
    intro terminator small differs same
    rcases toNat_of_mem_utf8EncodeChar member with code | beyond
    · exact differs (Char.toNat_inj.mp (code.symm.trans same))
    · omega
  rw [Ne, ofChar_eq_lineTerminator_iff, IsLineTerminator, not_or] at other
  have neLineFeed : byte ≠ 10 := by
    rintro rfl
    exact differs '\n' (by decide) other.1 rfl
  have neReturn : byte ≠ 13 := by
    rintro rfl
    exact differs '\r' (by decide) other.2 rfl
  simp [isLineByte, neLineFeed, neReturn]

/-- Searching the bytes finds the same line end as searching the characters. -/
theorem lineBytes_eq (text : Text) :
    lineBytes text =
      byteLength (text.takeWhile fun character =>
        CharClass.ofChar character != .lineTerminator) := by
  induction text with
  | nil => rfl
  | cons character rest inductionHypothesis =>
      rw [lineBytes, utf8_cons, List.findIdx_append]
      by_cases terminator : CharClass.ofChar character = .lineTerminator
      · rcases utf8EncodeChar_of_lineTerminator terminator with
          ⟨byte, encoded, ends⟩
        simp [encoded, ends, terminator]
      · have absent :
            (String.utf8EncodeChar character).findIdx isLineByte =
              (String.utf8EncodeChar character).length := by
          rw [List.findIdx_eq_length]
          intro byte member
          exact isLineByte_of_mem_utf8EncodeChar terminator member
        rw [absent, if_neg (Nat.lt_irrefl _), ← lineBytes,
          inductionHypothesis, String.length_utf8EncodeChar]
        simp [terminator]
        omega

end CommentScan.Text
