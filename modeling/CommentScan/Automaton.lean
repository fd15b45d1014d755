import CommentScan.CharClass
import CommentScan.Lexeme

/-!
# The automaton of lexemes

A deterministic automaton over character classes that reads one lexeme.  Each
mode has its own start state.  A state with a role ends a lexeme of that role;
a state without one lies inside a lexeme that is not complete yet.  Where
`next` has no answer, no lexeme goes on.

The states of each sort of literal form a type of their own, with the step of
that literal beside it.

`start_next_role` says that the first character of any text, in either mode,
completes a lexeme.
-/

namespace CommentScan.Automaton

/--
How far a character literal has been read.

After the opening quote comes one character, or a backslash with an escape: a
single character, up to three octal digits, or `u` with four hexadecimal
digits.  A spelled-out line feed, `\u000A`, is kept apart by the states for
its zeros.
-/
inductive CharLiteral where
  | opened
  | body
  | escape
  | oneOctal
  | twoOctal
  | unicode
  | oneHex
  | twoHex
  | threeHex
  | oneZero
  | twoZeros
  | threeZeros
  | lineFeed
  deriving DecidableEq, Repr

/--
How far a string literal has been read.

The states from `empty` on belong to raw strings, which stand between triple
quotes, hold any character and take every quote that follows the closing ones.
-/
inductive StringLiteral where
  | opened
  | body
  | escape
  | empty
  | raw
  | rawOneQuote
  | rawTwoQuotes
  | rawClosed
  deriving DecidableEq, Repr

/-- How far a script header between `#!` and `!#` has been read. -/
inductive Header where
  | hash
  | body
  | bang
  | closed
  deriving DecidableEq, Repr

/-- How far a script header between `::#!` and `::!#` has been read. -/
inductive ColonHeader where
  | oneColon
  | twoColons
  | hash
  | body
  | bodyOneColon
  | bodyTwoColons
  | bang
  | closed
  deriving DecidableEq, Repr

/-- What has been read of the lexeme at hand. -/
inductive State where
  | start (mode : Mode)
  | plainEnd
  | slash
  | lineComment
  | blockOpener
  | docOpener
  | emptyComment
  | charLiteral (progress : CharLiteral)
  | stringLiteral (progress : StringLiteral)
  | backquote
  | backquotedName
  | header (progress : Header)
  | colonHeader (progress : ColonHeader)
  | commentCharacter
  | commentSlash
  | commentStar
  | nestedOpener
  | closer
  deriving DecidableEq, Repr

namespace CharLiteral

/-- One more character of a character literal. -/
def next : CharLiteral → CharClass → Option State
  | opened, .backslash => some (.charLiteral escape)
  | opened, .quote => none
  | opened, .lineTerminator => none
  | opened, _ => some (.charLiteral body)
  | body, charClass =>
      if charClass.closesCharLiteral then some .plainEnd else none
  | escape, .lowerU => some (.charLiteral unicode)
  | escape, .lineTerminator => none
  | escape, charClass =>
      if charClass.isOctal then
        some (.charLiteral oneOctal)
      else
        some (.charLiteral body)
  | oneOctal, charClass =>
      if charClass.isOctal then
        some (.charLiteral twoOctal)
      else if charClass.closesCharLiteral then
        some .plainEnd
      else
        none
  | twoOctal, charClass =>
      if charClass.isOctal then
        some (.charLiteral body)
      else if charClass.closesCharLiteral then
        some .plainEnd
      else
        none
  | unicode, .zero => some (.charLiteral oneZero)
  | unicode, charClass =>
      if charClass.isHexadecimal then
        some (.charLiteral oneHex)
      else if charClass.closesCharLiteral then
        some .plainEnd
      else
        none
  | oneHex, charClass =>
      if charClass.isHexadecimal then some (.charLiteral twoHex) else none
  | twoHex, charClass =>
      if charClass.isHexadecimal then some (.charLiteral threeHex) else none
  | threeHex, charClass =>
      if charClass.isHexadecimal then some (.charLiteral body) else none
  | oneZero, .zero => some (.charLiteral twoZeros)
  | oneZero, charClass =>
      if charClass.isHexadecimal then some (.charLiteral twoHex) else none
  | twoZeros, .zero => some (.charLiteral threeZeros)
  | twoZeros, charClass =>
      if charClass.isHexadecimal then some (.charLiteral threeHex) else none
  | threeZeros, .upperA => some (.charLiteral lineFeed)
  | threeZeros, charClass =>
      if charClass.isHexadecimal then some (.charLiteral body) else none
  | lineFeed, .quote => some .plainEnd
  | lineFeed, _ => none

end CharLiteral

namespace StringLiteral

/-- One more character of a string literal. -/
def next : StringLiteral → CharClass → Option State
  | opened, .backslash => some (.stringLiteral escape)
  | opened, .doubleQuote => some (.stringLiteral empty)
  | opened, .lineTerminator => none
  | opened, _ => some (.stringLiteral body)
  | body, .backslash => some (.stringLiteral escape)
  | body, .doubleQuote => some .plainEnd
  | body, .lineTerminator => none
  | body, _ => some (.stringLiteral body)
  | escape, .lineTerminator => none
  | escape, _ => some (.stringLiteral body)
  | empty, .doubleQuote => some (.stringLiteral raw)
  | empty, _ => none
  | raw, .doubleQuote => some (.stringLiteral rawOneQuote)
  | raw, _ => some (.stringLiteral raw)
  | rawOneQuote, .doubleQuote => some (.stringLiteral rawTwoQuotes)
  | rawOneQuote, _ => some (.stringLiteral raw)
  | rawTwoQuotes, .doubleQuote => some (.stringLiteral rawClosed)
  | rawTwoQuotes, _ => some (.stringLiteral raw)
  | rawClosed, .doubleQuote => some (.stringLiteral rawClosed)
  | rawClosed, _ => none

end StringLiteral

namespace Header

/-- One more character of a script header. -/
def next : Header → CharClass → Option State
  | hash, .bang => some (.header body)
  | hash, _ => none
  | body, .bang => some (.header bang)
  | body, _ => some (.header body)
  | bang, .hash => some (.header closed)
  | bang, .bang => some (.header bang)
  | bang, _ => some (.header body)
  | closed, .bang => some (.header bang)
  | closed, _ => some (.header body)

end Header

namespace ColonHeader

/-- One more character of a script header that is marked by colons. -/
def next : ColonHeader → CharClass → Option State
  | oneColon, .colon => some (.colonHeader twoColons)
  | oneColon, _ => none
  | twoColons, .hash => some (.colonHeader hash)
  | twoColons, _ => none
  | hash, .bang => some (.colonHeader body)
  | hash, _ => none
  | body, .colon => some (.colonHeader bodyOneColon)
  | body, _ => some (.colonHeader body)
  | bodyOneColon, .colon => some (.colonHeader bodyTwoColons)
  | bodyOneColon, _ => some (.colonHeader body)
  | bodyTwoColons, .bang => some (.colonHeader bang)
  | bodyTwoColons, .colon => some (.colonHeader bodyTwoColons)
  | bodyTwoColons, _ => some (.colonHeader body)
  | bang, .hash => some (.colonHeader closed)
  | bang, .colon => some (.colonHeader bodyOneColon)
  | bang, _ => some (.colonHeader body)
  | closed, .colon => some (.colonHeader bodyOneColon)
  | closed, _ => some (.colonHeader body)

end ColonHeader

namespace State

/-- The state behind the first character of a lexeme outside all comments. -/
def first : CharClass → State
  | .slash => slash
  | .quote => charLiteral .opened
  | .doubleQuote => stringLiteral .opened
  | .hash => header .hash
  | .colon => colonHeader .oneColon
  | .backquote => backquote
  | _ => plainEnd

/-- The state behind the first character of a lexeme inside a comment. -/
def firstInside : CharClass → State
  | .slash => commentSlash
  | .star => commentStar
  | _ => commentCharacter

/-- The state behind one more character, if some lexeme goes on with it. -/
def next : State → CharClass → Option State
  | start .outside, charClass => some (first charClass)
  | start .inside, charClass => some (firstInside charClass)
  | slash, .slash => some lineComment
  | slash, .star => some blockOpener
  | lineComment, .lineTerminator => none
  | lineComment, _ => some lineComment
  | blockOpener, .star => some docOpener
  | docOpener, .slash => some emptyComment
  | charLiteral progress, charClass => progress.next charClass
  | stringLiteral progress, charClass => progress.next charClass
  | backquote, .backquote => some plainEnd
  | backquote, _ => some backquotedName
  | backquotedName, .backquote => some plainEnd
  | backquotedName, _ => some backquotedName
  | header progress, charClass => progress.next charClass
  | colonHeader progress, charClass => progress.next charClass
  | commentSlash, .star => some nestedOpener
  | commentStar, .slash => some closer
  | _, _ => none

/--
The role of a lexeme that ends in a state, if one may end there.  The first
character of a literal, a header or a backquoted name is plain text by itself,
and so is a string literal without its closing quote.
-/
def role : State → Option Role
  | start _ => none
  | plainEnd => some .plain
  | slash => some .plain
  | lineComment => some .lineComment
  | blockOpener => some (.opener .block)
  | docOpener => some (.opener .doc)
  | emptyComment => some .emptyComment
  | charLiteral .opened => some .plain
  | charLiteral _ => none
  | stringLiteral .raw => none
  | stringLiteral .rawOneQuote => none
  | stringLiteral .rawTwoQuotes => none
  | stringLiteral _ => some .plain
  | backquote => some .plain
  | backquotedName => none
  | header .hash => some .plain
  | header .closed => some .plain
  | header _ => none
  | colonHeader .oneColon => some .plain
  | colonHeader .closed => some .plain
  | colonHeader _ => none
  | commentCharacter => some .commentBody
  | commentSlash => some .commentBody
  | commentStar => some .commentBody
  | nestedOpener => some .nestedOpener
  | closer => some .closer

/-- Whether no lexeme goes on behind a state, whatever character comes. -/
def isFinal : State → Bool
  | plainEnd | emptyComment | commentCharacter | nestedOpener | closer => true
  | _ => false

/-- A final state has no next state. -/
theorem next_of_isFinal {state : State} (final : state.isFinal)
    (charClass : CharClass) : state.next charClass = none := by
  cases state <;> simp_all [isFinal, next]

/-- A line comment takes every character that is not a line terminator. -/
theorem lineComment_next (charClass : CharClass) :
    lineComment.next charClass =
      if charClass = .lineTerminator then none else some lineComment := by
  cases charClass <;> rfl

/-- The first character completes a lexeme in either mode. -/
theorem start_next_role (mode : Mode) (charClass : CharClass) :
    ∃ state role, (start mode).next charClass = some state ∧
      state.role = some role := by
  cases mode <;> cases charClass <;> exact ⟨_, _, rfl, rfl⟩

end State

end CommentScan.Automaton
