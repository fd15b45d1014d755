import CommentScan.Nesting

/-!
# Lexemes

A lexeme is one longest match at the front of the remaining text.  Its role
says what it does: whether it is plain text or part of a comment, and whether
it enters or leaves a comment.  The kind of the token that a lexeme becomes
follows from its role and from the nesting behind it.
-/

namespace CommentScan

/-- What a lexeme is for. -/
inductive Role where
  | plain
  | lineComment
  | opener (kind : CommentKind)
  | emptyComment
  | nestedOpener
  | closer
  | commentBody
  deriving DecidableEq, Repr

namespace Role

/--
Whether adjacent lexemes of this role make up one token.  Only the roles that
leave the nesting alone and come in arbitrarily long runs are merged.
-/
def isMergeable : Role → Bool
  | plain | commentBody => true
  | _ => false

/-- The nesting behind a lexeme of this role. -/
def apply : Role → Nesting → Nesting
  | opener kind, _ => .opened kind
  | nestedOpener, nesting => nesting.nest
  | closer, nesting => nesting.close
  | _, nesting => nesting

/-- The kind of token that a lexeme of this role becomes. -/
def tokenKind : Role → Nesting → TokenKind
  | plain, _ => .plainContent
  | lineComment, _ => .lineComment
  | emptyComment, _ => .blockComment
  | opener kind, _ => kind.tokenKind
  | _, nesting => nesting.kind.tokenKind

/-- Merging never crosses a change of the nesting. -/
theorem apply_of_isMergeable {role : Role} (mergeable : role.isMergeable)
    (nesting : Nesting) : role.apply nesting = nesting := by
  cases role <;> simp_all [isMergeable, apply]

end Role

/-- A longest match: its role and its length in characters. -/
structure Lexeme where
  role : Role
  length : Nat
  deriving DecidableEq, Repr

end CommentScan
