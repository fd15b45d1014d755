import CommentScan.Nesting
import CommentScan.Scanner.Error

/-!
# Scanners

A scanner reads the tokens of one window of a text.  It holds the current
token and the rest of the window as characters, and the byte offset at which
the current token starts; every other offset follows from these.  The
operations here place a window, give characters back and look at the current
token.  Reading on is the subject of the next module.
-/

namespace CommentScan

/-- Whether runs of plain text and of comment text are merged into tokens. -/
inductive Granularity where
  | merged
  | lexemes
  deriving DecidableEq, Repr

/--
A place in a window of `buffer`, behind the current token.

The window goes on with the characters `unread`.  `endReported` records that
the end of the window has been met since the scanner was placed or given
characters back.
-/
structure Scanner where
  buffer : Text
  granularity : Granularity
  nesting : Nesting
  tokenStart : Nat
  tokenText : Text
  unread : Text
  endReported : Bool
  deriving DecidableEq, Repr

namespace Scanner

/--
A scanner at the start of a text, which reads as much of it as offsets can
reach.  Where they would end inside a character there is no window, and the
scanner has nothing to read.
-/
def ofText (buffer : Text) (granularity : Granularity) : Scanner where
  buffer := buffer
  granularity := granularity
  nesting := .initial
  tokenStart := 0
  tokenText := []
  unread := buffer.reachable?.getD []
  endReported := false

/-- The byte offset behind the current token. -/
def position (scanner : Scanner) : Nat :=
  scanner.tokenStart + Text.byteLength scanner.tokenText

/-- The byte offset at which the window ends. -/
def windowEnd (scanner : Scanner) : Nat :=
  scanner.position + Text.byteLength scanner.unread

/-- The range of the current token. -/
def tokenSpan (scanner : Scanner) : Span :=
  ⟨scanner.tokenStart, scanner.position⟩

/-- The mode in which the next lexeme is read. -/
def mode (scanner : Scanner) : Mode :=
  scanner.nesting.mode

/-- All that is needed to go on from the same place later. -/
def state (scanner : Scanner) : ScanState :=
  ⟨scanner.position, scanner.nesting⟩

/-- The character at an index of the current token. -/
def charAt? (scanner : Scanner) (index : Nat) : Option Char :=
  scanner.tokenText[index]?

/--
A scanner at the start of the window between two offsets of a text.  Offsets
behind the end of the text count as its end, and a start behind the end of the
window as the end of the window.
-/
def ofWindow (buffer : Text) (granularity : Granularity) (start stop : Nat)
    (nesting : Nesting) : Except WindowError Scanner :=
  let stop := min stop (Text.byteLength buffer)
  let start := min start stop
  match Text.slice? buffer start stop with
  | some unread =>
      .ok {
        buffer := buffer
        granularity := granularity
        nesting := nesting
        tokenStart := start
        tokenText := []
        unread := unread
        endReported := false }
  | none => .error ⟨start, stop⟩

/-- Place the scanner on a window, with the least nesting of a mode. -/
def reset (scanner : Scanner) (buffer : Text) (start stop : Nat)
    (mode : Mode) : Except WindowError Scanner :=
  ofWindow buffer scanner.granularity start stop (.ofMode mode)

/-- Place the scanner on a window that starts in a saved state. -/
def resume (scanner : Scanner) (buffer : Text) (stop : Nat)
    (state : ScanState) : Except WindowError Scanner :=
  ofWindow buffer scanner.granularity state.position stop state.nesting

/--
Give the last `count` characters of the current token back to the window.
The nesting stays as it is behind the whole token.
-/
def pushBack (scanner : Scanner) (count : Nat) : Except ScanError Scanner :=
  let available := scanner.tokenText.length
  if available < count then
    .error (.pushbackTooLarge count available)
  else
    let (kept, returned) := scanner.tokenText.splitAt (available - count)
    .ok {
      scanner with
      tokenText := kept
      unread := returned ++ scanner.unread
      endReported := false }

@[simp]
theorem position_ofText (buffer : Text) (granularity : Granularity) :
    (ofText buffer granularity).position = 0 := rfl

/-- Characters are given back exactly if the token has as many. -/
theorem pushBack_eq_ok_iff {scanner after : Scanner} {count : Nat} :
    scanner.pushBack count = .ok after ↔
      ∃ kept returned, scanner.tokenText = kept ++ returned ∧
        returned.length = count ∧
        after = {
          scanner with
          tokenText := kept
          unread := returned ++ scanner.unread
          endReported := false } := by
  unfold pushBack
  simp only [List.splitAt_eq]
  constructor
  · intro pushed
    split at pushed
    · cases pushed
    · cases pushed
      refine ⟨_, _, (List.take_append_drop _ _).symm, ?_, rfl⟩
      rw [List.length_drop]
      omega
  · rintro ⟨kept, returned, whole, rfl, rfl⟩
    have lengths := congrArg List.length whole
    rw [List.length_append] at lengths
    have keptLength :
        scanner.tokenText.length - returned.length = kept.length := by omega
    rw [if_neg (by omega), keptLength, whole, List.take_left, List.drop_left]

/-- Otherwise the refusal says how many there are. -/
theorem pushBack_eq_error_iff {scanner : Scanner} {count : Nat}
    {error : ScanError} :
    scanner.pushBack count = .error error ↔
      scanner.tokenText.length < count ∧
        error = .pushbackTooLarge count scanner.tokenText.length := by
  unfold pushBack
  simp only [List.splitAt_eq]
  split
  · rename_i tooMany
    simp [tooMany, eq_comm]
  · rename_i enough
    simp [enough]

/-- The window keeps its end when characters are given back. -/
theorem windowEnd_pushBack {scanner after : Scanner} {count : Nat}
    (pushed : scanner.pushBack count = .ok after) :
    after.windowEnd = scanner.windowEnd := by
  obtain ⟨kept, returned, whole, -, rfl⟩ := pushBack_eq_ok_iff.mp pushed
  simp only [windowEnd, position, whole, Text.byteLength_append]
  omega

/-- Placing in the least nesting of a mode is resuming in its state. -/
theorem reset_eq_resume (scanner : Scanner) (buffer : Text)
    (start stop : Nat) (mode : Mode) :
    scanner.reset buffer start stop mode =
      scanner.resume buffer stop (.ofMode start mode) := rfl

end Scanner

end CommentScan
