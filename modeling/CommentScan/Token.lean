import CommentScan.Text

/-!
# Tokens

A token is a span of the source together with the kind of text that it holds:
plain content, a line comment, or a piece of a block or doc comment.  Spans
are half open and measured in bytes.
-/

namespace CommentScan

/-- The kinds of text that a source is split into. -/
inductive TokenKind where
  | plainContent
  | lineComment
  | blockComment
  | docComment
  deriving DecidableEq, Repr

namespace TokenKind

/-- Every kind, in the order of the kind numbers. -/
def all : List TokenKind :=
  [plainContent, lineComment, blockComment, docComment]

/-- The number of a kind, which is its place in `all`. -/
def number (kind : TokenKind) : Nat :=
  all.idxOf kind

/-- The name of a kind as one word. -/
def label : TokenKind → String
  | plainContent => "PlainContent"
  | lineComment => "LineComment"
  | blockComment => "BlockComment"
  | docComment => "DocComment"

/-- The name of a kind in words. -/
def description : TokenKind → String
  | plainContent => "plain content"
  | lineComment => "line comment"
  | blockComment => "block comment"
  | docComment => "doc comment"

/-- Whether a kind is a comment of any sort. -/
def isComment : TokenKind → Bool
  | plainContent => false
  | _ => true

end TokenKind

/-- The two sorts of comment that can nest. -/
inductive CommentKind where
  | block
  | doc
  deriving DecidableEq, Repr

namespace CommentKind

/-- The kind of every token in a comment of this sort. -/
def tokenKind : CommentKind → TokenKind
  | block => .blockComment
  | doc => .docComment

/-- The name of a sort of comment as one word. -/
def label : CommentKind → String
  | block => "Block"
  | doc => "Doc"

end CommentKind

/-- A half open range of byte offsets. -/
structure Span where
  start : Nat
  stop : Nat
  deriving DecidableEq, Repr

namespace Span

/-- The number of bytes in a span. -/
def length (span : Span) : Nat :=
  span.stop - span.start

/-- Whether a span holds no byte. -/
def isEmpty (span : Span) : Bool :=
  span.start == span.stop

/-- The part of a text that a span covers, if it covers whole characters. -/
def slice? (span : Span) (text : Text) : Option Text :=
  Text.slice? text span.start span.stop

/-- A span as a range, such as `2..9`. -/
def display (span : Span) : String :=
  s!"{span.start}..{span.stop}"

/-- A span with its fields named. -/
def describe (span : Span) : String :=
  s!"Span \x7b start: {span.start}, end: {span.stop} \x7d"

end Span

/-- A piece of the source and the kind of text that it holds. -/
structure Token where
  kind : TokenKind
  span : Span
  deriving DecidableEq, Repr

namespace Token

/-- A token with its fields named. -/
def describe (token : Token) : String :=
  s!"Token \x7b kind: {token.kind.label}, span: {token.span.describe} \x7d"

end Token

end CommentScan
