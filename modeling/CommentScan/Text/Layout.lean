import CommentScan.Text

/-!
# Layout of columns

Numbers in decimal digits, and texts filled up with spaces to a width.  A text
that is wider than its column is kept whole.
-/

namespace CommentScan.Text

/-- A number in decimal digits. -/
def decimal (number : Nat) : Text :=
  Nat.toDigits 10 number

/-- As many spaces as a text needs to be `width` characters wide. -/
def filling (width : Nat) (text : Text) : Text :=
  List.replicate (width - text.length) ' '

/-- A text at the left of its column. -/
def padRight (width : Nat) (text : Text) : Text :=
  text ++ filling width text

/-- A text at the right of its column. -/
def padLeft (width : Nat) (text : Text) : Text :=
  filling width text ++ text

/-- A text as a line of its own. -/
def line (text : Text) : Text :=
  text ++ ['\n']

/-- Some texts, each as a line of its own. -/
def lines (texts : List Text) : Text :=
  texts.flatMap line

end CommentScan.Text
