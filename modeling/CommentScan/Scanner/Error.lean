/-!
# What can go wrong with a scanner

Scanning itself fails only where no lexeme matches, which never happens.
Pushing back fails when it asks for more than the current token, and a window
fails when one of its ends splits a character.
-/

namespace CommentScan

/-- Why a scanner refuses to advance or to push back. -/
inductive ScanError where
  | noMatch (offset : Nat)
  | pushbackTooLarge (requested available : Nat)
  deriving DecidableEq, Repr

namespace ScanError

/-- The error in words. -/
def message : ScanError → String
  | noMatch offset => s!"could not match input at byte {offset}"
  | pushbackTooLarge requested available =>
      s!"pushback of {requested} characters exceeds the {available} " ++
        "in the current token"

/-- The error with its fields named. -/
def describe : ScanError → String
  | noMatch offset => s!"NoMatch \x7b offset: {offset} \x7d"
  | pushbackTooLarge requested available =>
      s!"PushbackTooLarge \x7b requested: {requested}, " ++
        s!"available: {available} \x7d"

end ScanError

/-- A window of which one end splits a character. -/
structure WindowError where
  start : Nat
  stop : Nat
  deriving DecidableEq, Repr

/-- The error in words. -/
def WindowError.message (error : WindowError) : String :=
  s!"scan window {error.start}..{error.stop} " ++
    "does not fall on character boundaries"

end CommentScan
