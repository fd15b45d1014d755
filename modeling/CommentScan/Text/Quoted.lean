import CommentScan.Text
import CommentScan.Text.Unprintable

/-!
# Quoted text

A quoted text stands between double quotes on a single line.  The double quote
and the backslash are written with a backslash in front, a few control
characters have a letter of their own, and every other character that cannot
be shown is written as its code point in hexadecimal digits.

Which characters are shown depends on the edition of the character database,
so the functions here take it as a parameter.  `quote` hides the unprintable
characters.
-/

namespace CommentScan.Text

/-- The written form of a character between double quotes. -/
def escape (isHidden : Char → Bool) (character : Char) : Text :=
  match character with
  | '\x00' => ['\\', '0']
  | '\t' => ['\\', 't']
  | '\r' => ['\\', 'r']
  | '\n' => ['\\', 'n']
  | '\x22' => ['\\', '\x22']
  | '\\' => ['\\', '\\']
  | _ =>
      if isHidden character then
        ['\\', 'u', '\x7b'] ++ Nat.toDigits 16 character.toNat ++ ['\x7d']
      else
        [character]

/-- A text between double quotes, where some characters are hidden. -/
def quoteHiding (isHidden : Char → Bool) (text : Text) : Text :=
  ['\x22'] ++ text.flatMap (escape isHidden) ++ ['\x22']

/-- A text between double quotes. -/
def quote (text : Text) : Text :=
  text.quoteHiding isUnprintable

end CommentScan.Text
