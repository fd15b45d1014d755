import CommentScan.Lexeme.Longest
import CommentScan.Scanner

/-!
# Reading the next token

The next token starts with the longest lexeme at the front of what is unread.
A merged token also takes the lexemes of the same role that follow.

`tryAdvance_ne_error` says that reading never fails, so that `advance` has no
error to report, and `unread_length_advance` that every token makes what is
unread shorter.
-/

namespace CommentScan

namespace Lexeme

/--
The number of characters in the run of lexemes of one role at the front of a
text, counted on from `length`.
-/
def runLength (mode : Mode) (role : Role) (text : Text) (length : Nat) : Nat :=
  match _found : longest? mode text with
  | none => length
  | some lexeme =>
      if lexeme.role = role then
        runLength mode role (text.drop lexeme.length) (length + lexeme.length)
      else
        length
termination_by text.length
decreasing_by
  have bounds := longest?_length _found
  rw [List.length_drop]
  omega

theorem le_runLength (mode : Mode) (role : Role) (text : Text)
    (length : Nat) : length ≤ runLength mode role text length := by
  fun_induction runLength mode role text length with
  | case1 => exact Nat.le_refl _
  | case2 _ _ lexeme _ _ inductionHypothesis => omega
  | case3 => exact Nat.le_refl _

/--
The number of characters of the token that a lexeme at the front of a text
begins, where `mode` is the mode behind the lexeme.
-/
def tokenLength (lexeme : Lexeme) (granularity : Granularity) (mode : Mode)
    (text : Text) : Nat :=
  if granularity = .merged && lexeme.role.isMergeable then
    runLength mode lexeme.role (text.drop lexeme.length) lexeme.length
  else
    lexeme.length

theorem length_le_tokenLength (lexeme : Lexeme) (granularity : Granularity)
    (mode : Mode) (text : Text) :
    lexeme.length ≤ lexeme.tokenLength granularity mode text := by
  unfold tokenLength
  split
  · exact le_runLength _ _ _ _
  · exact Nat.le_refl _

end Lexeme

namespace Scanner

/-- Move behind the token that a lexeme begins. -/
def read (scanner : Scanner) (lexeme : Lexeme) : Scanner :=
  let nesting := lexeme.role.apply scanner.nesting
  let (tokenText, unread) :=
    scanner.unread.splitAt
      (lexeme.tokenLength scanner.granularity nesting.mode scanner.unread)
  { scanner with
    nesting := nesting
    tokenStart := scanner.position
    tokenText := tokenText
    unread := unread }

/--
Read the next token, or report the end of the window.  The end leaves the
current token as it is.
-/
def tryAdvance (scanner : Scanner) :
    Except ScanError (Option Token × Scanner) :=
  if scanner.unread.isEmpty then
    .ok (none, { scanner with endReported := true })
  else
    match Lexeme.longest? scanner.mode scanner.unread with
    | none => .error (.noMatch scanner.position)
    | some lexeme =>
        let after := scanner.read lexeme
        let kind := lexeme.role.tokenKind after.nesting
        .ok (some ⟨kind, after.tokenSpan⟩, after)

/-- Some lexeme matches wherever anything is unread. -/
theorem tryAdvance_ne_error (scanner : Scanner) (error : ScanError) :
    scanner.tryAdvance ≠ .error error := by
  unfold tryAdvance
  split
  · simp
  · rename_i remaining
    split
    · rename_i unmatched
      rw [Lexeme.longest?_eq_none_iff] at unmatched
      simp [unmatched] at remaining
    · simp

/-- Read the next token, which cannot fail. -/
def advance (scanner : Scanner) : Option Token × Scanner :=
  match outcome : scanner.tryAdvance with
  | .ok result => result
  | .error error => absurd outcome (scanner.tryAdvance_ne_error error)

@[simp]
theorem tryAdvance_eq (scanner : Scanner) :
    scanner.tryAdvance = .ok scanner.advance := by
  unfold advance
  split
  · assumption
  · rename_i error outcome
    exact absurd outcome (scanner.tryAdvance_ne_error error)

/-- At the end of the window nothing changes but that the end has been met. -/
theorem advance_of_nil {scanner : Scanner} (finished : scanner.unread = []) :
    scanner.advance = (none, { scanner with endReported := true }) := by
  have outcome := scanner.tryAdvance_eq
  rw [tryAdvance, if_pos (by simp [finished])] at outcome
  exact (Except.ok.inj outcome).symm

/-- Anywhere else the longest lexeme begins a token. -/
theorem advance_of_longest {scanner : Scanner} {lexeme : Lexeme}
    (found :
      Lexeme.longest? scanner.mode scanner.unread = some lexeme) :
    scanner.advance =
      (some ⟨lexeme.role.tokenKind (scanner.read lexeme).nesting,
          (scanner.read lexeme).tokenSpan⟩,
        scanner.read lexeme) := by
  have outcome := scanner.tryAdvance_eq
  have remaining : scanner.unread ≠ [] := by
    intro finished
    rw [Lexeme.longest?_eq_none_iff.mpr finished] at found
    cases found
  rw [tryAdvance, if_neg (by simp [remaining]), found] at outcome
  exact (Except.ok.inj outcome).symm

/-- No token is read exactly at the end of the window. -/
theorem advance_eq_none_iff {scanner : Scanner} :
    scanner.advance.1 = none ↔ scanner.unread = [] := by
  constructor
  · intro nothing
    cases found : Lexeme.longest? scanner.mode scanner.unread with
    | none => exact Lexeme.longest?_eq_none_iff.mp found
    | some lexeme =>
        rw [advance_of_longest found] at nothing
        cases nothing
  · intro finished
    rw [advance_of_nil finished]

/-- Reading puts the characters of the token in front of what is unread. -/
theorem tokenText_append_unread_read (scanner : Scanner) (lexeme : Lexeme) :
    (scanner.read lexeme).tokenText ++ (scanner.read lexeme).unread =
      scanner.unread := by
  simp [read, List.splitAt_eq]

@[simp]
theorem tokenStart_read (scanner : Scanner) (lexeme : Lexeme) :
    (scanner.read lexeme).tokenStart = scanner.position := rfl

/-- The window keeps its end while tokens are read. -/
theorem windowEnd_read (scanner : Scanner) (lexeme : Lexeme) :
    (scanner.read lexeme).windowEnd = scanner.windowEnd := by
  have whole :=
    congrArg Text.byteLength (scanner.tokenText_append_unread_read lexeme)
  rw [Text.byteLength_append] at whole
  rw [windowEnd, position, tokenStart_read, windowEnd]
  omega

/-- Every token makes what is unread shorter. -/
theorem unread_length_advance {scanner after : Scanner} {token : Token}
    (advanced : scanner.advance = (some token, after)) :
    after.unread.length < scanner.unread.length := by
  cases found : Lexeme.longest? scanner.mode scanner.unread with
  | none =>
      rw [advance_of_nil (Lexeme.longest?_eq_none_iff.mp found)] at advanced
      cases advanced
  | some lexeme =>
      rw [advance_of_longest found] at advanced
      cases advanced
      have bounds := Lexeme.longest?_length found
      have longer :=
        lexeme.length_le_tokenLength scanner.granularity
          (lexeme.role.apply scanner.nesting).mode scanner.unread
      simp only [read, List.splitAt_eq, List.length_drop]
      omega

end Scanner

end CommentScan
