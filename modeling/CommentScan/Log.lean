import CommentScan.Scanner.Stream
import CommentScan.Text.Layout
import CommentScan.Text.Quoted

/-!
# The log

A scanner reports what happens to it as events: it is placed on a window, it
reads a token, or it meets the end of its window inside a comment.  Reading a
source file is an event as well.  An event has a level, a target, a message
and named fields, and is written on one line.

The end of a window is reported once, until the scanner is placed anew or
given characters back.
-/

namespace CommentScan.Log

/-- How important an event is. -/
inductive Level where
  | error
  | warning
  | info
  | debug
  | trace
  deriving DecidableEq, Repr

namespace Level

/-- The name of a level in a line of the log. -/
def label : Level → String
  | error => "ERROR"
  | warning => "WARN"
  | info => "INFO"
  | debug => "DEBUG"
  | trace => "TRACE"

/-- The place of a level, where more detailed levels come later. -/
def rank : Level → Nat
  | error => 1
  | warning => 2
  | info => 3
  | debug => 4
  | trace => 5

end Level

/-- What can happen. -/
inductive Event where
  | sourceRead (path : Text) (bytes : Nat)
  | reset (window : Span) (mode : Mode)
  | resume (window : Span) (nesting : Nesting)
  | token (item : Token) (depth : Nat)
  | unterminated (nesting : Nesting) (stop : Nat)
  deriving DecidableEq, Repr

/-- The value of a field of an event. -/
inductive Value where
  | number (value : Nat)
  | text (value : Text)
  deriving DecidableEq, Repr

/-- The written form of a value. -/
def Value.render : Value → Text
  | .number value => Text.decimal value
  | .text value => value

namespace Event

/-- How important an event is. -/
def level : Event → Level
  | token .. => .trace
  | _ => .debug

/-- The part of the program in which an event happens. -/
def target : Event → String
  | sourceRead .. => "splitc::commands"
  | _ => "split_lexer_core::scanner"

/-- What has happened, in words. -/
def message : Event → String
  | sourceRead .. => "read source"
  | reset .. => "reset"
  | resume .. => "resume"
  | token .. => "token"
  | unterminated .. => "end of input inside an unterminated comment"

/-- The circumstances of an event, in the order in which they are written. -/
def fields : Event → List (String × Value)
  | sourceRead path bytes =>
      [("path", .text path.quote), ("bytes", .number bytes)]
  | reset window mode =>
      [("start", .number window.start), ("end", .number window.stop),
        ("mode", .text mode.label.toList)]
  | resume window nesting =>
      [("start", .number window.start), ("end", .number window.stop),
        ("depth", .number nesting.depth),
        ("kind", .text nesting.kind.label.toList)]
  | token item depth =>
      [("kind", .text item.kind.description.toList),
        ("start", .number item.span.start), ("end", .number item.span.stop),
        ("depth", .number depth)]
  | unterminated nesting stop =>
      [("depth", .number nesting.depth),
        ("kind", .text nesting.kind.label.toList), ("end", .number stop)]

/-- An event on one line. -/
def render (event : Event) : Text :=
  event.level.label.toList ++ [' '] ++ event.target.toList ++ ": ".toList ++
    event.message.toList ++
    event.fields.flatMap fun field =>
      [' '] ++ field.1.toList ++ ['='] ++ field.2.render

end Event

/-- The window of a scanner that has just been placed. -/
def placedWindow (scanner : Scanner) : Span :=
  ⟨scanner.position, scanner.windowEnd⟩

/-- The event of a scanner that has been reset. -/
def ofReset (after : Scanner) : Event :=
  .reset (placedWindow after) after.mode

/-- The event of a scanner that has been resumed. -/
def ofResume (after : Scanner) : Event :=
  .resume (placedWindow after) after.nesting

/-- The event of a token that has been read. -/
def ofStep (step : Step) : Event :=
  .token step.token step.after.nesting.depth

/-- The event of an end that is met inside a comment and not reported yet. -/
def ofEnd (before after : Scanner) : List Event :=
  if !before.endReported && after.endReported && after.nesting.depth != 0 then
    [.unterminated after.nesting after.windowEnd]
  else
    []

/-- The events of reading some tokens. -/
def ofSteps (before : Scanner) (outcome : List Step × Scanner) : List Event :=
  outcome.1.map ofStep ++ ofEnd before outcome.2

/-- The events of reading one token or meeting the end. -/
def ofAdvance (before : Scanner) (outcome : Option Token × Scanner) :
    List Event :=
  (outcome.1.toList.map fun token => ofStep ⟨token, outcome.2⟩) ++
    ofEnd before outcome.2

end CommentScan.Log
