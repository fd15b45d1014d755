/-!
# Character classes

The scanner tells characters apart only by the role that they can play in a
comment marker, a literal, a script header or a backquoted name.  Sixteen
classes are enough.  Every character outside the first 128 code points is in
the class `other`, together with most letters, blanks and brackets.
-/

namespace CommentScan

/-- What a character can mean to the scanner. -/
inductive CharClass where
  | other
  | slash
  | star
  | octalDigit
  | hexDigit
  | backslash
  | lineTerminator
  | lowerU
  | zero
  | upperA
  | quote
  | doubleQuote
  | hash
  | bang
  | colon
  | backquote
  deriving DecidableEq, Repr

namespace CharClass

/-- Every class, in the order of the class numbers. -/
def all : List CharClass :=
  [other, slash, star, octalDigit, hexDigit, backslash, lineTerminator,
    lowerU, zero, upperA, quote, doubleQuote, hash, bang, colon, backquote]

/-- The number of a class, which is its place in `all`. -/
def number (charClass : CharClass) : Nat :=
  all.idxOf charClass

theorem mem_all (charClass : CharClass) : charClass ∈ all := by
  cases charClass <;> decide

/--
The class of a character.  Zero and the capital `A` have classes of their own,
because they spell the escaped line feed `\u000A`; the other digits below
eight are octal digits, and the remaining digits and capitals up to `F` are
hexadecimal digits.
-/
def ofChar (character : Char) : CharClass :=
  match character with
  | '/' => slash
  | '*' => star
  | '1' | '2' | '3' | '4' | '5' | '6' | '7' => octalDigit
  | '8' | '9' => hexDigit
  | 'B' | 'C' | 'D' | 'E' | 'F' => hexDigit
  | 'a' | 'b' | 'c' | 'd' | 'e' | 'f' => hexDigit
  | '\\' => backslash
  | '\n' | '\r' => lineTerminator
  | 'u' => lowerU
  | '0' => zero
  | 'A' => upperA
  | '\x27' => quote
  | '\x22' => doubleQuote
  | '#' => hash
  | '!' => bang
  | ':' => colon
  | '\x60' => backquote
  | _ => other

/-- Whether a class holds only digits below eight. -/
def isOctal : CharClass → Bool
  | octalDigit | zero => true
  | _ => false

/-- Whether a class holds only hexadecimal digits. -/
def isHexadecimal : CharClass → Bool
  | octalDigit | hexDigit | zero | upperA => true
  | _ => false

/-- Whether a character literal may end with a character of this class. -/
def closesCharLiteral : CharClass → Bool
  | backslash | quote => true
  | _ => false

end CharClass

end CommentScan
