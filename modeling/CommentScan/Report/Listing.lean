import CommentScan.Scanner.Stream
import CommentScan.Text.Layout
import CommentScan.Text.Quoted

/-!
# The token listing

A listing shows the tokens of a source in order, one on a line, with the kind,
the span and the quoted text of each.
-/

namespace CommentScan.Report

/-- The line of a token, where some characters of its text are hidden. -/
def listingLine (isHidden : Char → Bool) (step : Step) : Text :=
  "  ".toList ++ step.token.kind.label.toList ++ " @ ".toList ++
    step.token.span.display.toList ++ [' '] ++
    step.after.tokenText.quoteHiding isHidden

/-- The line above the tokens. -/
def listingHeader (path : Text) (count : Nat) : Text :=
  "Tokens for '".toList ++ path ++ "' (".toList ++ Text.decimal count ++
    " tokens):".toList

/-- The listing of some tokens. -/
def listingOf (isHidden : Char → Bool) (path : Text) (steps : List Step) :
    Text :=
  Text.lines
    (listingHeader path steps.length :: steps.map (listingLine isHidden))

/-- The listing of a source in which some characters are hidden. -/
def listingHiding (isHidden : Char → Bool) (path source : Text)
    (granularity : Granularity) : Text :=
  listingOf isHidden path (Scanner.ofText source granularity).drain.1

/-- The listing of a source, which is named by a path. -/
def listing (path source : Text) (granularity : Granularity) : Text :=
  listingHiding Text.isUnprintable path source granularity

end CommentScan.Report
