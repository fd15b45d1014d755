import CommentScan.Log.Filter
import CommentScan.Report.Listing
import CommentScan.Report.Stats

/-!
# The command line

The program lists the tokens of a source file, or prints statistics on it.
Here its arguments are read as a command, and a command is carried out on a
source that has been read already, or on the reason why it could not be.  The
outcome holds everything that is printed and the exit status.

What is written of the events of a run is left to the log, a function of all
events in order.  The program takes the one that `logOf` finds.
-/

namespace CommentScan.CommandLine

/-- Why a source cannot be read. -/
inductive ReadError where
  | notFound
  | permissionDenied
  | invalidText
  | system (reason : String) (code : Nat)
  deriving DecidableEq, Repr

/-- The error in words, for the path that was to be read. -/
def ReadError.message (path : Text) : ReadError → Text
  | notFound => "cannot find file '".toList ++ path ++ "'".toList
  | permissionDenied =>
      "permission denied reading '".toList ++ path ++ "'".toList
  | invalidText =>
      "'".toList ++ path ++ "' contains invalid UTF-8 data".toList
  | system reason code =>
      "error reading '".toList ++ path ++ "': ".toList ++ reason.toList ++
        " (os error ".toList ++ Text.decimal code ++ ")".toList

/-- The text that some bytes encode, if they do. -/
def decode (content : ByteArray) : Except ReadError Text :=
  match String.fromUTF8? content with
  | some text => .ok text.toList
  | none => .error .invalidText

/-- The text of a file, where `files` tells which bytes a path leads to. -/
def readText (files : String → Except ReadError ByteArray) (path : String) :
    Except ReadError Text :=
  (files path).bind decode

/-- What the program is asked to do. -/
inductive Command where
  | lex (path : String) (granularity : Granularity)
  | stats (path : String)
  | help
  | version
  | lexWithoutPath
  | statsWithoutPath
  | unknown (name : String)
  deriving DecidableEq, Repr

namespace Command

/-- Whether an argument is an option and cannot name the file to list. -/
def isOption (argument : String) : Bool :=
  argument.toList.head? == some '-'

/-- What the arguments of a listing have chosen so far. -/
structure Choice where
  granularity : Granularity
  path? : Option String
  deriving DecidableEq, Repr

/-- What is chosen without any argument. -/
def Choice.initial : Choice :=
  ⟨.merged, none⟩

/-- What is chosen with one more argument. -/
def Choice.note (choice : Choice) (argument : String) : Choice :=
  if argument = "--lexemes" then
    { choice with granularity := .lexemes }
  else if !isOption argument && choice.path?.isNone then
    { choice with path? := some argument }
  else
    choice

/-- The command of a listing, from the arguments behind its name. -/
def lexOf (arguments : List String) : Command :=
  let choice := arguments.foldl Choice.note .initial
  match choice.path? with
  | some path => .lex path choice.granularity
  | none => .lexWithoutPath

/-- The command that some arguments spell. -/
def ofArguments : List String → Command
  | [] => .help
  | name :: rest =>
      match name with
      | "lex" => lexOf rest
      | "stats" =>
          match rest with
          | path :: _ => .stats path
          | [] => .statsWithoutPath
      | "help" | "--help" | "-h" => .help
      | "version" | "--version" | "-v" => .version
      | _ => .unknown name

/-- The path of the source that a command reads, if it reads one. -/
def path? : Command → Option String
  | lex path _ => some path
  | stats path => some path
  | _ => none

end Command

/-- What a run of the program prints, and its exit status. -/
structure Outcome where
  output : Text
  errors : Text
  exitCode : Nat
  deriving DecidableEq, Repr

/-- The explanation of the commands. -/
def usage : Text :=
  Text.lines <| List.map String.toList [
    "splitc: split source text into plain content and comments",
    "",
    "Usage: splitc <command> [options]",
    "",
    "Commands:",
    "  lex <file>           Print every token with its span and text",
    "  stats <file>         Print token counts per kind and the final scan state",
    "  help                 Show this help message",
    "  version              Show version information",
    "",
    "Lex options:",
    "  --lexemes            Emit raw automaton lexemes instead of merged runs",
    "",
    "Set RUST_LOG=split_lexer_core=trace to log every token."]

/-- The name of the program and its version. -/
def versionText : Text :=
  Text.line "splitc 0.1.0-alpha.1".toList

/-- A run that prints a text. -/
def Outcome.success (output : Text) : Outcome :=
  ⟨output, [], 0⟩

/-- A run that fails with some lines on what went wrong. -/
def Outcome.failure (lines : List Text) : Outcome :=
  ⟨[], Text.lines lines, 1⟩

/-- The events of scanning a source that has been read from a path. -/
def sourceEvents (path source : Text) (granularity : Granularity) :
    List Log.Event :=
  let scanner := Scanner.ofText source granularity
  .sourceRead path (Text.byteLength source) ::
    Log.ofSteps scanner scanner.drain

/--
A run that breaks off behind some events, of which the log is written.  What
the system says about the place in the program is not part of it.
-/
def Outcome.crash (log : Text) : Outcome :=
  ⟨[], log, 101⟩

/--
A run that prints a report on a source, or why it cannot be read.  A source of
which the last offset lies inside a character cannot be scanned.
-/
def reportOn (log : List Log.Event → Text) (path : Text)
    (granularity : Granularity) (report : Text → Text) :
    Except ReadError Text → Outcome
  | .ok source =>
      match source.reachable? with
      | some _ =>
          ⟨report source, log (sourceEvents path source granularity), 0⟩
      | none => .crash (log [.sourceRead path (Text.byteLength source)])
  | .error error => .failure [error.message path]

/-- Carry out a command, where `read` tells what a path holds. -/
def execute (log : List Log.Event → Text)
    (read : String → Except ReadError Text) : Command → Outcome
  | .lex path granularity =>
      reportOn log path.toList granularity
        (Report.listing path.toList · granularity) (read path)
  | .stats path =>
      reportOn log path.toList .merged (Report.statistics path.toList)
        (read path)
  | .help => .success usage
  | .version => .success versionText
  | .lexWithoutPath =>
      .failure ["error: missing file path".toList,
        "Usage: splitc lex <file> [--lexemes]".toList]
  | .statsWithoutPath => .failure ["Usage: splitc stats <file>".toList]
  | .unknown name =>
      ⟨usage, Text.lines ["Unknown command: ".toList ++ name.toList, []], 1⟩

/-- The log that the value of a variable asks for.  Without it there is none. -/
def logOf (value? : Option String) : List Log.Event → Text :=
  match value? with
  | some value => (Log.Filter.ofText value.toList).render
  | none => Log.Filter.silent.render

/-- Run the program on its arguments. -/
def run (log : List Log.Event → Text)
    (read : String → Except ReadError Text) (arguments : List String) :
    Outcome :=
  execute log read (Command.ofArguments arguments)

end CommentScan.CommandLine
