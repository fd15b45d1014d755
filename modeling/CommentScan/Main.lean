import CommentScan.CommandLine

/-!
# The program

Reads the source that a command names, carries the command out, prints the
outcome and exits.  The environment variable `RUST_LOG` holds the filter of
the log; without it nothing is logged.
-/

namespace CommentScan.CommandLine

/-- The cause of a failed attempt to read a file. -/
def ReadError.ofFailure : IO.Error → ReadError
  | .noFileOrDirectory .. => .notFound
  | .permissionDenied .. => .permissionDenied
  | .inappropriateType _ code reason
  | .invalidArgument _ code reason
  | .resourceExhausted _ code reason => .system reason code.toNat
  | .hardwareFault code reason
  | .otherError code reason => .system reason code.toNat
  | failure => .system failure.toString 0

/-- Read the bytes of a file. -/
def readContent (path : String) : IO (Except ReadError ByteArray) := do
  try
    let handle ← IO.FS.Handle.mk path .read
    return .ok (← handle.readBinToEnd)
  catch failure =>
    return .error (.ofFailure failure)

end CommentScan.CommandLine

open CommentScan CommentScan.CommandLine in
/-- Run the program on its arguments. -/
def main (arguments : List String) : IO UInt32 := do
  let log := logOf (← IO.getEnv "RUST_LOG")
  let command := Command.ofArguments arguments
  let content ← match command.path? with
    | some path => readContent path
    | none => pure (.ok .empty)
  let outcome := execute log (readText fun _ => content) command
  IO.eprint (String.ofList outcome.errors)
  IO.print (String.ofList outcome.output)
  return UInt32.ofNat outcome.exitCode
