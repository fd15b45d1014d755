import CommentScan.Scanner.Advance

/-!
# Streams of tokens

A scanner yields its tokens one after another.  This module reads a given
number of them, or all that the window has left.

Both loops carry the tokens already read.  `take_succ_of_none` and
`take_succ_of_some`, and likewise `drain_of_none` and `drain_of_some`, say what
they compute: the tokens in order, with the scanner behind each, and the
scanner with which reading stops.
-/

namespace CommentScan

/-- A token together with the scanner behind it. -/
structure Step where
  token : Token
  after : Scanner
  deriving DecidableEq, Repr

namespace Step

/-- The kind of a token and its characters. -/
def piece (step : Step) : TokenKind × Text :=
  (step.token.kind, step.after.tokenText)

end Step

namespace Scanner

/-- Read up to `count` tokens behind those in `steps`, the newest first. -/
def takeFrom : Nat → Scanner → List Step → List Step × Scanner
  | 0, scanner, steps => (steps.reverse, scanner)
  | count + 1, scanner, steps =>
      match scanner.advance with
      | (some token, after) => takeFrom count after (⟨token, after⟩ :: steps)
      | (none, after) => (steps.reverse, after)

/--
Read up to `count` tokens.  The end of the window is met only if the window
has fewer.
-/
def take (scanner : Scanner) (count : Nat) : List Step × Scanner :=
  takeFrom count scanner []

/-- The tokens already read stay in front. -/
theorem takeFrom_eq (count : Nat) (scanner : Scanner) (steps : List Step) :
    takeFrom count scanner steps =
      (steps.reverse ++ (scanner.take count).1, (scanner.take count).2) := by
  induction count generalizing scanner steps with
  | zero => simp [take, takeFrom]
  | succ count inductionHypothesis =>
      rcases advanced : scanner.advance with ⟨result, after⟩
      cases result with
      | none => simp [take, takeFrom, advanced]
      | some token =>
          simp only [take, takeFrom, advanced]
          rw [inductionHypothesis after (⟨token, after⟩ :: steps),
            inductionHypothesis after [⟨token, after⟩]]
          simp

@[simp]
theorem take_zero (scanner : Scanner) : scanner.take 0 = ([], scanner) := rfl

theorem take_succ_of_none {scanner after : Scanner}
    (advanced : scanner.advance = (none, after)) (count : Nat) :
    scanner.take (count + 1) = ([], after) := by
  simp [take, takeFrom, advanced]

theorem take_succ_of_some {scanner after : Scanner} {token : Token}
    (advanced : scanner.advance = (some token, after)) (count : Nat) :
    scanner.take (count + 1) =
      (⟨token, after⟩ :: (after.take count).1, (after.take count).2) := by
  simp only [take, takeFrom, advanced]
  rw [takeFrom_eq]
  rfl

/-- Read all tokens up to the end behind those in `steps`, the newest first. -/
def drainFrom (scanner : Scanner) (steps : List Step) : List Step × Scanner :=
  match _advanced : scanner.advance with
  | (some token, after) => drainFrom after (⟨token, after⟩ :: steps)
  | (none, after) => (steps.reverse, after)
termination_by scanner.unread.length
decreasing_by exact unread_length_advance _advanced

/-- Read all tokens up to the end of the window and meet the end. -/
def drain (scanner : Scanner) : List Step × Scanner :=
  scanner.drainFrom []

theorem drainFrom_of_none {scanner after : Scanner}
    (advanced : scanner.advance = (none, after)) (steps : List Step) :
    scanner.drainFrom steps = (steps.reverse, after) := by
  rw [drainFrom]
  split <;> simp_all

theorem drainFrom_of_some {scanner after : Scanner} {token : Token}
    (advanced : scanner.advance = (some token, after)) (steps : List Step) :
    scanner.drainFrom steps = after.drainFrom (⟨token, after⟩ :: steps) := by
  rw [drainFrom]
  split <;> simp_all

/-- The tokens already read stay in front. -/
theorem drainFrom_eq (scanner : Scanner) (steps : List Step) :
    scanner.drainFrom steps =
      (steps.reverse ++ scanner.drain.1, scanner.drain.2) := by
  rcases advanced : scanner.advance with ⟨result, after⟩
  cases result with
  | none =>
      simp [drain, drainFrom_of_none advanced]
  | some token =>
      have shorter := unread_length_advance advanced
      rw [drain, drainFrom_of_some advanced, drainFrom_of_some advanced,
        drainFrom_eq after (⟨token, after⟩ :: steps),
        drainFrom_eq after [⟨token, after⟩]]
      simp
termination_by scanner.unread.length

theorem drain_of_none {scanner after : Scanner}
    (advanced : scanner.advance = (none, after)) :
    scanner.drain = ([], after) :=
  drainFrom_of_none advanced []

theorem drain_of_some {scanner after : Scanner} {token : Token}
    (advanced : scanner.advance = (some token, after)) :
    scanner.drain = (⟨token, after⟩ :: after.drain.1, after.drain.2) := by
  rw [drain, drainFrom_of_some advanced, drainFrom_eq]
  rfl

end Scanner

/-- The tokens of a whole text, with runs merged. -/
def tokenize (text : Text) : List Token :=
  (Scanner.ofText text .merged).drain.1.map Step.token

/-- The pieces of a whole text and their kinds, with runs merged. -/
def split (text : Text) : List (TokenKind × Text) :=
  (Scanner.ofText text .merged).drain.1.map Step.piece

end CommentScan
