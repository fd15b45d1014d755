import CommentScan.CharClass
import CommentScan.Text
import Mathlib.Data.Bool.AllAny

/-!
# The characters of a class

The automaton reads classes, and what it reads is said in characters.  Every
class but `other` is a short list of characters: `mem_members_iff` is the law
of these lists, and the digits and the closing characters of a literal follow
from it.

Twelve classes hold a single character.  A word of such characters ends a text
exactly if its classes end the classes of the text.
-/

namespace CommentScan

namespace CharClass

/-- The characters of a class, unless it is the class of all others. -/
def members : CharClass → Text
  | other => []
  | slash => ['/']
  | star => ['*']
  | octalDigit => ['1', '2', '3', '4', '5', '6', '7']
  | hexDigit =>
      ['8', '9', 'B', 'C', 'D', 'E', 'F', 'a', 'b', 'c', 'd', 'e', 'f']
  | backslash => ['\\']
  | lineTerminator => ['\n', '\r']
  | lowerU => ['u']
  | zero => ['0']
  | upperA => ['A']
  | quote => ['\x27']
  | doubleQuote => ['\x22']
  | hash => ['#']
  | bang => ['!']
  | colon => [':']
  | backquote => ['\x60']

theorem mem_members_iff {charClass : CharClass} (listed : charClass ≠ other)
    {character : Char} :
    character ∈ charClass.members ↔ ofChar character = charClass := by
  constructor
  · have classes : ∀ member ∈ charClass.members,
        ofChar member = charClass := by
      cases charClass <;> exact List.all_iff_forall_prop.mp rfl
    exact classes character
  · rintro rfl
    revert listed
    unfold ofChar
    split <;> simp [members]

/-- A property of classes is one of characters if they are all listed. -/
theorem ofChar_iff_mem {property : CharClass → Bool} {list : Text}
    (notOther : property other = false)
    (complete : ∀ charClass, property charClass →
      charClass.members.all (· ∈ list))
    (sound : list.all fun character => property (ofChar character))
    (character : Char) :
    property (ofChar character) ↔ character ∈ list := by
  constructor
  · intro holds
    have listed : ofChar character ≠ other := by
      intro isOther
      rw [isOther, notOther] at holds
      cases holds
    have members := List.all_iff_forall_prop.mp (complete _ holds)
    exact members character ((mem_members_iff listed).mpr rfl)
  · exact List.all_eq_true.mp sound character

/-- The digits below eight. -/
def octalDigits : Text :=
  ['0', '1', '2', '3', '4', '5', '6', '7']

/-- The digits below sixteen, from ten on in either case. -/
def hexadecimalDigits : Text :=
  ['0', '1', '2', '3', '4', '5', '6', '7', '8', '9',
    'A', 'B', 'C', 'D', 'E', 'F', 'a', 'b', 'c', 'd', 'e', 'f']

/-- The characters that may end a character literal. -/
def closers : Text :=
  ['\x27', '\\']

theorem isOctal_ofChar_iff (character : Char) :
    (ofChar character).isOctal ↔ character ∈ octalDigits :=
  ofChar_iff_mem rfl (by intro charClass; cases charClass <;> decide)
    rfl character

theorem isHexadecimal_ofChar_iff (character : Char) :
    (ofChar character).isHexadecimal ↔ character ∈ hexadecimalDigits :=
  ofChar_iff_mem rfl (by intro charClass; cases charClass <;> decide)
    rfl character

theorem closesCharLiteral_ofChar_iff (character : Char) :
    (ofChar character).closesCharLiteral ↔ character ∈ closers :=
  ofChar_iff_mem rfl (by intro charClass; cases charClass <;> decide)
    rfl character

/-! ## Classes of a single character -/

theorem ofChar_eq_iff {charClass : CharClass} {expected character : Char}
    (single : charClass.members = [expected]) :
    ofChar character = charClass ↔ character = expected := by
  have listed : charClass ≠ other := by
    rintro rfl
    cases single
  rw [← mem_members_iff listed, single, List.mem_singleton]

/-- Whether a character is the only one of its class. -/
def IsAlone (character : Char) : Prop :=
  (ofChar character).members = [character]

instance : DecidablePred IsAlone :=
  fun _ => inferInstanceAs (Decidable (_ = _))

end CharClass

namespace Text

open CharClass

/-- Whether a character ends a line. -/
def IsLineTerminator (character : Char) : Prop :=
  character = '\n' ∨ character = '\r'

instance : DecidablePred IsLineTerminator :=
  fun _ => inferInstanceAs (Decidable (_ ∨ _))

theorem ofChar_eq_lineTerminator_iff {character : Char} :
    ofChar character = .lineTerminator ↔ IsLineTerminator character := by
  rw [← mem_members_iff (by decide)]
  simp [members, IsLineTerminator]

variable {text word : Text}

/-- A word of characters that are alone is known by its classes. -/
theorem map_ofChar_eq_iff (alone : ∀ character ∈ word, IsAlone character) :
    text.map ofChar = word.map ofChar ↔ text = word := by
  induction word generalizing text with
  | nil => simp
  | cons expected rest inductionHypothesis =>
      rw [List.forall_mem_cons] at alone
      cases text with
      | nil => simp
      | cons character more =>
          rw [List.map_cons, List.map_cons, List.cons.injEq, List.cons.injEq,
            inductionHypothesis alone.2, ofChar_eq_iff alone.1]

theorem map_ofChar_suffix_iff
    (alone : ∀ character ∈ word, IsAlone character) :
    word.map ofChar <:+ text.map ofChar ↔ word <:+ text := by
  constructor
  · rintro ⟨front, whole⟩
    rcases List.append_eq_map_iff.mp whole with ⟨left, right, rfl, -, same⟩
    rw [map_ofChar_eq_iff alone] at same
    subst same
    exact List.suffix_append _ _
  · exact fun ends => ends.map ofChar

end Text

end CommentScan
