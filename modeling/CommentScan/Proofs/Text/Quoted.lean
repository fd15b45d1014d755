import CommentScan.Text.Quoted

/-!
# Reading quoted text

What stands between double quotes is read again character by character.  A
backslash begins an escape, and how the escape goes on tells where it ends, so
no written form of a character is the beginning of another one.

`readQuoted_quoteHiding` reads a quoted text in front of anything, whichever
characters are hidden: no character of the text ends the quotes.  What a quoted
text cannot hold is a line feed, nor any other control character if those
without a shorter form are hidden.
-/

namespace CommentScan.Text

/-! ## Hexadecimal digits -/

/-- The value of a hexadecimal digit. -/
def hexValue? (digit : Char) : Option Nat :=
  if digit.isDigit then
    some (digit.toNat - '0'.toNat)
  else if 'a' ≤ digit ∧ digit ≤ 'f' then
    some (digit.toNat - 'a'.toNat + 10)
  else
    none

theorem hexValue?_digitChar :
    ∀ value < 16, hexValue? (Nat.digitChar value) = some value := by
  decide

theorem digitChar_ne_closingBrace :
    ∀ value < 16, Nat.digitChar value ≠ '\x7d' := by
  decide

/-- The digits of a number are among sixteen. -/
theorem exists_of_mem_toDigits {number : Nat} {digit : Char}
    (member : digit ∈ Nat.toDigits 16 number) :
    ∃ value < 16, digit = Nat.digitChar value := by
  induction number using Nat.base_induction 16 (by decide) with
  | single value small =>
      rw [Nat.toDigits_of_lt_base small, List.mem_singleton] at member
      exact ⟨value, small, member⟩
  | digit number value small positive inductionHypothesis =>
      rw [← Nat.toDigits_append_toDigits (by decide) positive small,
        Nat.toDigits_of_lt_base small, List.mem_append,
        List.mem_singleton] at member
      rcases member with earlier | last
      · exact inductionHypothesis earlier
      · exact ⟨value, small, last⟩

/-! ## Reading up to the closing quote -/

/-- The characters with a written form of two characters. -/
def shortForms : List (Char × Char) :=
  [('0', '\x00'), ('t', '\t'), ('r', '\r'), ('n', '\n'), ('\x22', '\x22'),
    ('\\', '\\')]

/-- The character that a letter behind a backslash stands for. -/
def ofShortForm? (letter : Char) : Option Char :=
  shortForms.lookup letter

/-- How much has been read of the written form of a character. -/
inductive Progress where
  | nothing
  | backslash
  | backslashU
  | code (value : Nat)
  deriving DecidableEq, Repr

/-- One more character in front of those that are read behind it. -/
def prepend (character : Char) (read : Text × Text) : Text × Text :=
  (character :: read.1, read.2)

/-- The characters up to the closing quote, and what stands behind it. -/
def readFrom : Progress → Text → Option (Text × Text)
  | _, [] => none
  | .nothing, character :: rest =>
      if character = '\x22' then
        some ([], rest)
      else if character = '\\' then
        readFrom .backslash rest
      else
        (readFrom .nothing rest).map (prepend character)
  | .backslash, letter :: rest =>
      match ofShortForm? letter with
      | some character => (readFrom .nothing rest).map (prepend character)
      | none => if letter = 'u' then readFrom .backslashU rest else none
  | .backslashU, brace :: rest =>
      if brace = '\x7b' then readFrom (.code 0) rest else none
  | .code value, digit :: rest =>
      if digit = '\x7d' then
        (readFrom .nothing rest).map (prepend (Char.ofNat value))
      else
        (hexValue? digit).bind fun last =>
          readFrom (.code (16 * value + last)) rest

/-- The characters of a quoted text, and what stands behind it. -/
def readQuoted : Text → Option (Text × Text)
  | '\x22' :: rest => readFrom .nothing rest
  | _ => none

theorem readFrom_digitChar {value last : Nat} (small : last < 16)
    (rest : Text) :
    readFrom (.code value) (Nat.digitChar last :: rest) =
      readFrom (.code (16 * value + last)) rest := by
  rw [readFrom, if_neg (digitChar_ne_closingBrace last small),
    hexValue?_digitChar last small, Option.bind_some]

theorem readFrom_toDigits (number : Nat) (rest : Text) :
    readFrom (.code 0) (Nat.toDigits 16 number ++ rest) =
      readFrom (.code number) rest := by
  induction number using Nat.base_induction 16 (by decide)
    generalizing rest with
  | single value small =>
      rw [Nat.toDigits_of_lt_base small, List.singleton_append,
        readFrom_digitChar small, Nat.mul_zero, Nat.zero_add]
  | digit number value small positive inductionHypothesis =>
      rw [← Nat.toDigits_append_toDigits (by decide) positive small,
        List.append_assoc, inductionHypothesis,
        Nat.toDigits_of_lt_base small, List.singleton_append,
        readFrom_digitChar small]

/-- The written form of a character is read as the character. -/
theorem readFrom_escape (isHidden : Char → Bool) (character : Char)
    (rest : Text) :
    readFrom .nothing (escape isHidden character ++ rest) =
      (readFrom .nothing rest).map (prepend character) := by
  unfold escape
  split
  case h_7 noNul noTab noReturn noFeed noQuote noBackslash =>
    split
    · have code := readFrom_toDigits character.toNat ('\x7d' :: rest)
      rw [readFrom, if_pos rfl, Char.ofNat_toNat] at code
      rw [← code, List.append_assoc, List.append_assoc]
      rfl
    · rw [List.singleton_append, readFrom, if_neg noQuote,
        if_neg noBackslash]
  all_goals rfl

theorem readFrom_flatMap_escape (isHidden : Char → Bool)
    (text rest : Text) :
    readFrom .nothing (text.flatMap (escape isHidden) ++ '\x22' :: rest) =
      some (text, rest) := by
  induction text with
  | nil => rfl
  | cons character text inductionHypothesis =>
      rw [List.flatMap_cons, List.append_assoc, readFrom_escape,
        inductionHypothesis]
      rfl

/-- A quoted text is read up to its closing quote, whatever is behind it. -/
theorem readQuoted_quoteHiding (isHidden : Char → Bool)
    (text rest : Text) :
    readQuoted (quoteHiding isHidden text ++ rest) = some (text, rest) := by
  rw [quoteHiding, List.append_assoc, List.append_assoc]
  exact readFrom_flatMap_escape isHidden text rest

/-! ## Control characters -/

/-- Whether a character is a control character. -/
def isControl (character : Char) : Bool :=
  character.toNat < 0x20 || (0x7f ≤ character.toNat && character.toNat < 0xa0)

/-- Whether a character has a written form of two characters. -/
def hasShortForm (character : Char) : Bool :=
  shortForms.any fun form => form.2 = character

/-- Every control character is unprintable. -/
theorem isUnprintable_of_isControl {character : Char}
    (control : isControl character) : isUnprintable character := by
  simp only [isControl, Bool.or_eq_true, Bool.and_eq_true,
    decide_eq_true_eq] at control
  rcases control with below | ⟨least, below⟩
  · exact isUnprintable_of_lt below
  · have shape :
        unprintableRanges =
          (0x0, 0x1f) :: (0x7f, 0xa0) :: unprintableRanges.tail.tail := rfl
    rw [isUnprintable, shape, inRanges, if_neg (by omega), inRanges,
      if_pos (by omega)]
    simpa using least

theorem isControl_digitChar :
    ∀ value < 16, isControl (Nat.digitChar value) = false := by
  decide

theorem isDigit_of_isControl {character : Char}
    (control : isControl character) : character.isDigit = false := by
  simp only [isControl, Bool.or_eq_true, Bool.and_eq_true,
    decide_eq_true_eq] at control
  rw [Bool.eq_false_iff]
  intro digit
  rw [Char.isDigit, Bool.and_eq_true, decide_eq_true_eq,
    decide_eq_true_eq] at digit
  have least : 48 ≤ character.toNat := digit.1
  have greatest : character.toNat ≤ 57 := digit.2
  omega

/--
A control character in a written form is the character that is written, which
is then neither hidden nor has a shorter form.
-/
theorem shown_of_mem_escape {isHidden : Char → Bool}
    {character written : Char} (control : isControl written)
    (member : written ∈ escape isHidden character) :
    isHidden written = false ∧ hasShortForm written = false := by
  unfold escape at member
  split at member
  case h_7 noNul noTab noReturn noFeed noQuote noBackslash =>
    split at member
    · simp only [List.mem_append, List.mem_cons, List.not_mem_nil,
        or_false] at member
      rcases member with ((rfl | rfl | rfl) | digit) | rfl
      case inl.inr =>
        obtain ⟨value, small, rfl⟩ := exists_of_mem_toDigits digit
        rw [isControl_digitChar value small] at control
        cases control
      all_goals cases control
    · rename_i shown
      rw [List.mem_singleton] at member
      subst member
      refine ⟨by simpa using shown, ?_⟩
      simp only [hasShortForm, shortForms, List.any_cons, List.any_nil,
        Bool.or_false, Bool.or_eq_false_iff, decide_eq_false_iff_not]
      exact
        ⟨Ne.symm noNul, Ne.symm noTab, Ne.symm noReturn, Ne.symm noFeed,
          Ne.symm noQuote, Ne.symm noBackslash⟩
  all_goals
    simp only [List.mem_cons, List.not_mem_nil, or_false] at member
    rcases member with rfl | rfl <;> cases control

theorem shown_of_mem_quoteHiding {isHidden : Char → Bool} {text : Text}
    {written : Char} (control : isControl written)
    (member : written ∈ quoteHiding isHidden text) :
    isHidden written = false ∧ hasShortForm written = false := by
  simp only [quoteHiding, List.mem_append, List.mem_singleton,
    List.mem_flatMap] at member
  rcases member with (rfl | ⟨character, -, member⟩) | rfl
  case inl.inr => exact shown_of_mem_escape control member
  all_goals cases control

end CommentScan.Text
