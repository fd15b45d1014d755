import CommentScan.Scanner.Stream
import CommentScan.Text.Layout

/-!
# The statistics of a source

The statistics count the tokens of each kind and their bytes, and say in which
state the scan ends.  A source that ends inside a comment gets a warning.
-/

namespace CommentScan.Report

/-- How many tokens there are of one kind, and how many bytes they hold. -/
structure Tally where
  tokens : Nat
  bytes : Nat
  deriving DecidableEq, Repr

/-- Count one more token. -/
def Tally.add (tally : Tally) (token : Token) : Tally :=
  ⟨tally.tokens + 1, tally.bytes + token.span.length⟩

/-- The tally of the tokens of one kind. -/
def Tally.ofTokens (kind : TokenKind) (tokens : List Token) : Tally :=
  (tokens.filter fun token => token.kind = kind).foldl Tally.add ⟨0, 0⟩

/-- What a scan of a whole source amounts to. -/
structure Stats where
  bytes : Nat
  tokens : List Token
  final : Nesting
  deriving DecidableEq, Repr

namespace Stats

/-- The statistics of a drained scanner. -/
def ofDrained (source : Text) (drained : List Step × Scanner) : Stats where
  bytes := Text.byteLength source
  tokens := drained.1.map Step.token
  final := drained.2.nesting

/-- The statistics of a source, with runs merged. -/
def ofSource (source : Text) : Stats :=
  ofDrained source (Scanner.ofText source .merged).drain

/-- The tally of one kind. -/
def tally (stats : Stats) (kind : TokenKind) : Tally :=
  Tally.ofTokens kind stats.tokens

/-- The line of one kind. -/
def kindLine (stats : Stats) (kind : TokenKind) : Text :=
  let tally := stats.tally kind
  "  ".toList ++ Text.padRight 14 kind.description.toList ++ [' '] ++
    Text.padLeft 6 (Text.decimal tally.tokens) ++ " tokens ".toList ++
    Text.padLeft 8 (Text.decimal tally.bytes) ++ " bytes".toList

/-- The lines on the state in which the scan ends. -/
def finalLines (stats : Stats) : List Text :=
  let mode := "Final state: ".toList ++ stats.final.mode.label.toList
  if stats.final.depth = 0 then
    [mode]
  else
    [mode ++ ", depth ".toList ++ Text.decimal stats.final.depth ++
        ", ".toList ++ stats.final.kind.label.toList ++ " comment".toList,
      "warning: end of input inside an unterminated ".toList ++
        stats.final.kind.tokenKind.description.toList]

/-- The statistics as a report on the source that a path names. -/
def render (stats : Stats) (path : Text) : Text :=
  let header :=
    "Stats for '".toList ++ path ++ "' (".toList ++ Text.decimal stats.bytes ++
      " bytes):".toList
  Text.lines (header :: (TokenKind.all.map stats.kindLine ++ stats.finalLines))

end Stats

/-- The report on a source, which is named by a path. -/
def statistics (path source : Text) : Text :=
  (Stats.ofSource source).render path

end CommentScan.Report
