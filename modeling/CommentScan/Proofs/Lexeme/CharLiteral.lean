import CommentScan.Proofs.Lexeme.Extent
import Mathlib.Tactic.IntervalCases

/-!
# Character literals

Between its opening quote and the character that closes it, a character
literal holds a character or an escape.  A backslash closes a literal as well
as a quote does, but not behind an escape that spells the line feed.
`IsCharLiteral` lists these texts.

The automaton needs thirteen states for them.  `CharLiteral.Ends` says which
texts lead from a state to the end of a literal, and is worked out from the
last state to the first one: states that only wait for some more digits form
rows, with one law for each row.
-/

namespace CommentScan

open CommentScan.Automaton CharClass

/-- The texts of character literals. -/
inductive IsCharLiteral : Text → Prop where
  | single {character closer : Char} (notBackslash : character ≠ '\\')
      (notQuote : character ≠ '\x27')
      (inside : ¬ Text.IsLineTerminator character)
      (closes : closer ∈ closers) :
      IsCharLiteral ['\x27', character, closer]
  | escaped {character closer : Char}
      (inside : ¬ Text.IsLineTerminator character)
      (closes : closer ∈ closers) :
      IsCharLiteral ['\x27', '\\', character, closer]
  | octal {digits : Text} {closer : Char}
      (length : digits.length = 2 ∨ digits.length = 3)
      (allOctal : ∀ digit ∈ digits, digit ∈ octalDigits)
      (closes : closer ∈ closers) :
      IsCharLiteral ('\x27' :: '\\' :: (digits ++ [closer]))
  | unicode {digits : Text} {closer : Char} (length : digits.length = 4)
      (allHexadecimal : ∀ digit ∈ digits, digit ∈ hexadecimalDigits)
      (notLineFeed : digits ≠ ['0', '0', '0', 'A'])
      (closes : closer ∈ closers) :
      IsCharLiteral ('\x27' :: '\\' :: 'u' :: (digits ++ [closer]))
  | lineFeed :
      IsCharLiteral ['\x27', '\\', 'u', '0', '0', '0', 'A', '\x27']

namespace Automaton.CharLiteral

/-- A literal that has been read so far ends behind a body and a closer. -/
def Ends (progress : CharLiteral) (body : Text) (closer : Char) : Prop :=
  (State.charLiteral progress).run (body ++ [closer]) = some .plainEnd

variable {progress later target : CharLiteral} {charClass : CharClass} {body : Text}
  {character closer : Char} {count : Nat}

/-- A step leads to the end of a literal or further into it. -/
theorem next_cases {after : State}
    (step : progress.next charClass = some after) :
    after = .plainEnd ∨
      ∃ later, later ≠ opened ∧ after = .charLiteral later := by
  cases progress <;> cases charClass <;> cases step <;> simp

theorem ends_nil_iff :
    Ends progress [] closer ↔
      progress.next (.ofChar closer) = some .plainEnd := by
  show (State.charLiteral progress).run [closer] = _ ↔ _
  rw [State.run_cons_eq_some_iff]
  simp [State.next]

theorem ends_cons_iff :
    Ends progress (character :: body) closer ↔
      ∃ later, progress.next (.ofChar character) = some (.charLiteral later) ∧
        Ends later body closer := by
  rw [Ends, List.cons_append, State.run_cons_eq_some_iff]
  constructor
  · rintro ⟨after, step, more⟩
    rcases next_cases step with rfl | ⟨later, -, rfl⟩
    · cases body <;> cases more
    · exact ⟨later, step, more⟩
  · rintro ⟨later, step, ends⟩
    exact ⟨_, step, ends⟩

/-- Where there is one way on, a literal ends there as it does behind it. -/
theorem ends_cons_iff_of_goesOn {condition : Prop}
    (goesOn : ∀ later,
      progress.next (.ofChar character) = some (.charLiteral later) ↔
        condition ∧ later = target) :
    Ends progress (character :: body) closer ↔
      condition ∧ Ends target body closer := by
  rw [ends_cons_iff]
  constructor
  · rintro ⟨later, step, ends⟩
    rcases (goesOn later).mp step with ⟨holds, rfl⟩
    exact ⟨holds, ends⟩
  · rintro ⟨holds, ends⟩
    exact ⟨target, (goesOn target).mpr ⟨holds, rfl⟩, ends⟩

/-! ## Rows of digits -/

theorem ends_body_iff :
    Ends .body body closer ↔ body = [] ∧ closer ∈ closers := by
  cases body with
  | nil => simp [ends_nil_iff, next, closesCharLiteral_ofChar_iff]
  | cons character rest => simp [ends_cons_iff, next]

/-- The states that wait for some hexadecimal digits. -/
def hexadecimal : Nat → CharLiteral
  | 0 => .body
  | 1 => threeHex
  | 2 => twoHex
  | _ => oneHex

theorem next_hexadecimal_ne_plainEnd (bound : count < 3) :
    (hexadecimal (count + 1)).next charClass ≠ some .plainEnd := by
  interval_cases count <;> cases charClass <;> decide

theorem hexadecimal_goesOn_iff (bound : count < 3) :
    (hexadecimal (count + 1)).next charClass = some (.charLiteral later) ↔
      charClass.isHexadecimal ∧ later = hexadecimal count := by
  interval_cases count <;> cases charClass <;>
    simp [hexadecimal, next, isHexadecimal, eq_comm]

theorem ends_hexadecimal_iff (bound : count ≤ 3) :
    Ends (hexadecimal count) body closer ↔
      body.length = count ∧ (∀ digit ∈ body, digit ∈ hexadecimalDigits) ∧
        closer ∈ closers := by
  induction count generalizing body with
  | zero =>
      rw [List.length_eq_zero_iff]
      constructor
      · intro ends
        rcases ends_body_iff.mp ends with ⟨rfl, closes⟩
        exact ⟨rfl, nofun, closes⟩
      · rintro ⟨rfl, -, closes⟩
        exact ends_body_iff.mpr ⟨rfl, closes⟩
  | succ count inductionHypothesis =>
      cases body with
      | nil => simp [ends_nil_iff, next_hexadecimal_ne_plainEnd bound]
      | cons character rest =>
          rw [ends_cons_iff_of_goesOn fun _ => hexadecimal_goesOn_iff bound,
            isHexadecimal_ofChar_iff,
            inductionHypothesis (Nat.le_of_succ_le bound),
            List.length_cons, Nat.succ_inj, List.forall_mem_cons]
          tauto

/-- The states that wait for some octal digits at most. -/
def octal : Nat → CharLiteral
  | 0 => .body
  | 1 => twoOctal
  | _ => oneOctal

theorem octal_closes_iff (bound : count ≤ 2) :
    (octal count).next charClass = some .plainEnd ↔
      charClass.closesCharLiteral := by
  interval_cases count <;> cases charClass <;> decide

theorem octal_goesOn_iff (bound : count < 2) :
    (octal (count + 1)).next charClass = some (.charLiteral later) ↔
      charClass.isOctal ∧ later = octal count := by
  interval_cases count <;> cases charClass <;>
    simp [octal, next, isOctal, closesCharLiteral, eq_comm]

theorem ends_octal_iff (bound : count ≤ 2) :
    Ends (octal count) body closer ↔
      body.length ≤ count ∧ (∀ digit ∈ body, digit ∈ octalDigits) ∧
        closer ∈ closers := by
  induction body generalizing count with
  | nil =>
      simp [ends_nil_iff, octal_closes_iff bound,
        closesCharLiteral_ofChar_iff]
  | cons character rest inductionHypothesis =>
      cases count with
      | zero => simp [octal, ends_body_iff]
      | succ count =>
          rw [ends_cons_iff_of_goesOn fun _ => octal_goesOn_iff bound,
            isOctal_ofChar_iff,
            inductionHypothesis (Nat.le_of_succ_le bound),
            List.length_cons, Nat.succ_le_succ_iff, List.forall_mem_cons]
          tauto

/-! ## The spelled-out line feed -/

/-- The code of a line feed, which ends a line even when it is spelled out. -/
def lineFeedCode : Text :=
  ['0', '0', '0', 'A']

/--
The states that have read a line feed's code so far and wait for the rest of
it, or for other digits.
-/
def spelled : Text → CharLiteral
  | [] => lineFeed
  | [_] => threeZeros
  | [_, _] => twoZeros
  | [_, _, _] => oneZero
  | _ => unicode

/--
As many hexadecimal digits as a word has and a closer, which is a quote behind
the word itself.
-/
def Spells (word digits : Text) (closer : Char) : Prop :=
  digits.length = word.length ∧
    (∀ digit ∈ digits, digit ∈ hexadecimalDigits) ∧ closer ∈ closers ∧
    (digits = word → closer = '\x27')

variable {expected : Char} {word : Text}

theorem cons_suffix_lineFeedCode
    (suffix : expected :: word <:+ lineFeedCode) :
    expected = '0' ∧ word = ['0', '0', 'A'] ∨
      expected = '0' ∧ word = ['0', 'A'] ∨
      expected = '0' ∧ word = ['A'] ∨ expected = 'A' ∧ word = [] := by
  simpa [lineFeedCode, List.suffix_cons_iff] using suffix

theorem spelled_goesOn_iff (suffix : expected :: word <:+ lineFeedCode) :
    (spelled (expected :: word)).next charClass =
        some (.charLiteral later) ↔
      charClass.isHexadecimal ∧
        later =
          if charClass = .ofChar expected then spelled word
          else hexadecimal word.length := by
  rcases cons_suffix_lineFeedCode suffix with
    ⟨rfl, rfl⟩ | ⟨rfl, rfl⟩ | ⟨rfl, rfl⟩ | ⟨rfl, rfl⟩ <;>
    cases charClass <;>
      simp [next, isHexadecimal, closesCharLiteral, spelled, hexadecimal,
        ofChar, eq_comm]

/-- Behind a digit either the word goes on or any digits come. -/
theorem ends_spelled_cons_iff (suffix : expected :: word <:+ lineFeedCode)
    (further : Ends (spelled word) body closer ↔ Spells word body closer) :
    Ends (spelled (expected :: word)) (character :: body) closer ↔
      Spells (expected :: word) (character :: body) closer := by
  have alone : ∀ digit ∈ lineFeedCode, IsAlone digit :=
    List.all_iff_forall_prop.mp rfl
  have expectedAlone := alone expected (suffix.subset List.mem_cons_self)
  have bound : word.length ≤ 3 := Nat.le_of_succ_le_succ suffix.length_le
  rw [ends_cons_iff_of_goesOn fun _ => spelled_goesOn_iff suffix,
    isHexadecimal_ofChar_iff, Spells, List.length_cons, List.length_cons,
    Nat.succ_inj, List.forall_mem_cons, List.cons.injEq]
  -- Behind any other digit the word cannot be completed any more.
  by_cases same : character = expected
  · rw [if_pos (congrArg ofChar same), further, Spells]
    constructor
    · rintro ⟨digit, length, digits, closes, quote⟩
      exact ⟨length, ⟨digit, digits⟩, closes, fun whole => quote whole.2⟩
    · rintro ⟨length, ⟨digit, digits⟩, closes, quote⟩
      exact ⟨digit, length, digits, closes, fun rest => quote ⟨same, rest⟩⟩
  · rw [if_neg (mt (ofChar_eq_iff expectedAlone).mp same),
      ends_hexadecimal_iff bound]
    constructor
    · rintro ⟨digit, length, digits, closes⟩
      exact ⟨length, ⟨digit, digits⟩, closes,
        fun whole => absurd whole.1 same⟩
    · rintro ⟨length, ⟨digit, digits⟩, closes, -⟩
      exact ⟨digit, length, digits, closes⟩

theorem next_lineFeed_eq_plainEnd_iff :
    lineFeed.next charClass = some .plainEnd ↔ charClass = .quote := by
  cases charClass <;> decide

theorem next_lineFeed_ne_charLiteral :
    lineFeed.next charClass ≠ some (.charLiteral later) := by
  cases charClass <;> simp [next]

theorem next_spelled_ne_plainEnd (suffix : expected :: word <:+ lineFeedCode)
    (shorter : word.length < 3) :
    (spelled (expected :: word)).next charClass ≠ some .plainEnd := by
  rcases cons_suffix_lineFeedCode suffix with
    ⟨rfl, rfl⟩ | ⟨rfl, rfl⟩ | ⟨rfl, rfl⟩ | ⟨rfl, rfl⟩
  · exact absurd shorter (Nat.lt_irrefl 3)
  all_goals cases charClass <;> decide

theorem ends_spelled_iff (suffix : word <:+ lineFeedCode)
    (shorter : word.length ≤ 3) :
    Ends (spelled word) body closer ↔ Spells word body closer := by
  induction word generalizing body with
  | nil =>
      cases body with
      | nil =>
          have quote : ofChar closer = .quote ↔ closer = '\x27' :=
            ofChar_eq_iff rfl
          have closes : '\x27' ∈ closers := by decide
          simp +contextual [ends_nil_iff, spelled,
            next_lineFeed_eq_plainEnd_iff, quote, Spells, closes]
      | cons character rest =>
          simp [ends_cons_iff, spelled, next_lineFeed_ne_charLiteral, Spells]
  | cons expected word inductionHypothesis =>
      cases body with
      | nil =>
          simp [ends_nil_iff, next_spelled_ne_plainEnd suffix shorter, Spells]
      | cons character rest =>
          have further := (List.suffix_cons expected word).trans suffix
          exact
            ends_spelled_cons_iff suffix
              (inductionHypothesis further (Nat.le_of_succ_le shorter))

/-- A `u` may be all that is escaped, or the mark of a code. -/
theorem ends_unicode_iff :
    Ends unicode body closer ↔
      body = [] ∧ closer ∈ closers ∨ Spells lineFeedCode body closer := by
  cases body with
  | nil =>
      have closes : unicode.next (ofChar closer) = some .plainEnd ↔
          (ofChar closer).closesCharLiteral := by
        cases ofChar closer <;> decide
      simp [ends_nil_iff, closes, closesCharLiteral_ofChar_iff, Spells,
        lineFeedCode]
  | cons character rest =>
      have digits : Ends unicode (character :: rest) closer ↔ _ :=
        ends_spelled_cons_iff List.suffix_rfl
          (ends_spelled_iff (List.suffix_cons _ _) (Nat.le_refl 3))
      simp [digits, lineFeedCode]

/-! ## Whole literals -/

theorem escape_goesOn_iff :
    escape.next charClass = some (.charLiteral later) ↔
      charClass = .lowerU ∧ later = unicode ∨
        charClass.isOctal ∧ later = octal 2 ∨
        (charClass ≠ .lowerU ∧ ¬ charClass.isOctal ∧
          charClass ≠ .lineTerminator ∧ later = .body) := by
  cases charClass <;> simp [next, isOctal, octal, eq_comm]

theorem next_escape_ne_plainEnd : escape.next charClass ≠ some .plainEnd := by
  cases charClass <;> decide

theorem opened_goesOn_iff :
    opened.next charClass = some (.charLiteral later) ↔
      charClass = .backslash ∧ later = escape ∨
        (charClass ≠ .backslash ∧ charClass ≠ .quote ∧
          charClass ≠ .lineTerminator ∧ later = .body) := by
  cases charClass <;> simp [next, eq_comm]

theorem next_opened_ne_plainEnd : opened.next charClass ≠ some .plainEnd := by
  cases charClass <;> decide

theorem ends_escape_cons_iff :
    Ends escape (character :: body) closer ↔
      character = 'u' ∧ Ends unicode body closer ∨
        character ∈ octalDigits ∧ Ends (octal 2) body closer ∨
        (character ≠ 'u' ∧ character ∉ octalDigits ∧
          ¬ Text.IsLineTerminator character ∧ Ends .body body closer) := by
  have lowerU : ofChar character = .lowerU ↔ character = 'u' :=
    ofChar_eq_iff rfl
  simp only [ends_cons_iff, escape_goesOn_iff, isOctal_ofChar_iff, lowerU,
    Text.ofChar_eq_lineTerminator_iff, Ne, or_and_right, exists_or,
    and_assoc, exists_and_left, exists_eq_left]

theorem ends_opened_cons_iff :
    Ends opened (character :: body) closer ↔
      character = '\\' ∧ Ends escape body closer ∨
        (character ≠ '\\' ∧ character ≠ '\x27' ∧
          ¬ Text.IsLineTerminator character ∧ Ends .body body closer) := by
  have backslash : ofChar character = .backslash ↔ character = '\\' :=
    ofChar_eq_iff rfl
  have quote : ofChar character = .quote ↔ character = '\x27' :=
    ofChar_eq_iff rfl
  simp only [ends_cons_iff, opened_goesOn_iff, backslash, quote,
    Text.ofChar_eq_lineTerminator_iff, Ne, or_and_right, exists_or,
    and_assoc, exists_and_left, exists_eq_left]

/-- What ends behind a backslash is an escape. -/
theorem isCharLiteral_of_ends_escape (ends : Ends escape body closer) :
    IsCharLiteral ('\x27' :: '\\' :: (body ++ [closer])) := by
  rcases body with _ | ⟨first, rest⟩
  · exact absurd (ends_nil_iff.mp ends) next_escape_ne_plainEnd
  rcases ends_escape_cons_iff.mp ends with
    ⟨rfl, code⟩ | ⟨digit, octal⟩ | ⟨-, -, inside, single⟩
  · rcases ends_unicode_iff.mp code with
      ⟨rfl, closes⟩ | ⟨length, allHexadecimal, closes, quote⟩
    · exact .escaped (by decide) closes
    · by_cases lineFeed : rest = lineFeedCode
      · rw [lineFeed, quote lineFeed]
        exact .lineFeed
      · exact .unicode length allHexadecimal lineFeed closes
  · rcases (ends_octal_iff (Nat.le_refl 2)).mp octal with
      ⟨bound, allOctal, closes⟩
    rcases rest with _ | ⟨second, more⟩
    · have inside : ∀ digit ∈ octalDigits, ¬ Text.IsLineTerminator digit :=
        List.all_iff_forall_prop.mp rfl
      exact .escaped (inside first digit) closes
    · have length :
          (first :: second :: more).length = 2 ∨
            (first :: second :: more).length = 3 := by
        simp only [List.length_cons] at bound ⊢
        omega
      have allDigits := List.forall_mem_cons.mpr ⟨digit, allOctal⟩
      exact .octal length allDigits closes
  · rcases ends_body_iff.mp single with ⟨rfl, closes⟩
    exact .escaped inside closes

/-- What ends behind an opening quote is a character literal. -/
theorem isCharLiteral_of_ends (ends : Ends opened body closer) :
    IsCharLiteral ('\x27' :: (body ++ [closer])) := by
  rcases body with _ | ⟨first, rest⟩
  · exact absurd (ends_nil_iff.mp ends) next_opened_ne_plainEnd
  rcases ends_opened_cons_iff.mp ends with
    ⟨rfl, escapes⟩ | ⟨notBackslash, notQuote, inside, single⟩
  · exact isCharLiteral_of_ends_escape escapes
  · rcases ends_body_iff.mp single with ⟨rfl, closes⟩
    exact .single notBackslash notQuote inside closes

/-- Any character but a line terminator may be escaped. -/
theorem ends_escape_of_closes (inside : ¬ Text.IsLineTerminator character)
    (closes : closer ∈ closers) : Ends escape [character] closer := by
  rw [ends_escape_cons_iff]
  by_cases code : character = 'u'
  · exact Or.inl ⟨code, ends_unicode_iff.mpr (Or.inl ⟨rfl, closes⟩)⟩
  · by_cases digit : character ∈ octalDigits
    · have ends : Ends (octal 2) [] closer :=
        (ends_octal_iff (Nat.le_refl 2)).mpr ⟨Nat.zero_le 2, nofun, closes⟩
      exact Or.inr (Or.inl ⟨digit, ends⟩)
    · have ends : Ends .body [] closer := ends_body_iff.mpr ⟨rfl, closes⟩
      exact Or.inr (Or.inr ⟨code, digit, inside, ends⟩)

/-- A character literal ends behind its opening quote. -/
theorem exists_ends_of_isCharLiteral {literal : Text}
    (isLiteral : IsCharLiteral literal) :
    ∃ body closer, literal = '\x27' :: (body ++ [closer]) ∧
      Ends opened body closer := by
  cases isLiteral with
  | single notBackslash notQuote inside closes =>
      refine ⟨[_], _, rfl, ?_⟩
      have ends := ends_body_iff.mpr ⟨rfl, closes⟩
      exact
        ends_opened_cons_iff.mpr
          (Or.inr ⟨notBackslash, notQuote, inside, ends⟩)
  | @escaped character closer inside closes =>
      refine ⟨['\\', character], closer, rfl, ?_⟩
      have ends := ends_escape_of_closes inside closes
      exact ends_opened_cons_iff.mpr (Or.inl ⟨rfl, ends⟩)
  | @octal digits closer length allOctal closes =>
      refine ⟨'\\' :: digits, closer, rfl, ?_⟩
      refine ends_opened_cons_iff.mpr (Or.inl ⟨rfl, ?_⟩)
      rcases digits with _ | ⟨digit, more⟩
      · simp at length
      · rw [List.forall_mem_cons] at allOctal
        refine ends_escape_cons_iff.mpr (Or.inr (Or.inl ⟨allOctal.1, ?_⟩))
        refine (ends_octal_iff (Nat.le_refl 2)).mpr ⟨?_, allOctal.2, closes⟩
        rw [List.length_cons] at length
        omega
  | @unicode digits closer length allHexadecimal notLineFeed closes =>
      refine ⟨'\\' :: 'u' :: digits, closer, rfl, ?_⟩
      refine ends_opened_cons_iff.mpr (Or.inl ⟨rfl, ?_⟩)
      refine ends_escape_cons_iff.mpr (Or.inl ⟨rfl, ?_⟩)
      refine ends_unicode_iff.mpr (Or.inr ⟨length, allHexadecimal, closes, ?_⟩)
      exact fun lineFeed => absurd lineFeed notLineFeed
  | lineFeed =>
      exact ⟨['\\', 'u', '0', '0', '0', 'A'], '\x27', rfl, rfl⟩

/-! ## What else is complete -/

/-- No state between the opening quote and the closer is complete. -/
theorem eq_plainEnd_of_run {text : Text} {last : State} {role : Role}
    (nonempty : text ≠ [])
    (reached : (State.charLiteral progress).run text = some last)
    (complete : last.role = some role) : last = .plainEnd := by
  induction text generalizing progress with
  | nil => exact absurd rfl nonempty
  | cons character rest inductionHypothesis =>
      rcases State.run_cons_eq_some_iff.mp reached with ⟨after, step, more⟩
      rcases next_cases step with rfl | ⟨later, notOpened, rfl⟩
      · cases rest <;> cases more
        rfl
      · rcases rest with _ | ⟨second, rest⟩
        · cases more
          cases later with
          | opened => exact absurd rfl notOpened
          | _ => cases complete
        · exact inductionHypothesis (List.cons_ne_nil _ _) more

end Automaton.CharLiteral

namespace Lexeme

variable {text rest literal : Text}

theorem one_lt_length (isLiteral : IsCharLiteral literal) :
    1 < literal.length := by
  cases isLiteral <;> simp

/-- A text that begins with a character literal is read up to its end. -/
theorem begins_of_isCharLiteral (isLiteral : IsCharLiteral literal)
    (isPrefix : literal <+: text) : Begins text .plain literal := by
  rcases isPrefix with ⟨back, rfl⟩
  rcases CharLiteral.exists_ends_of_isCharLiteral isLiteral with
    ⟨body, closer, rfl, ends⟩
  have stops :
      Stops (State.first (.ofChar '\x27')) .plain (body ++ [closer]) back :=
    ⟨.plainEnd, ends, rfl, not_completes_of_isFinal rfl back⟩
  exact stops.begins_cons

/-- Where no character literal begins, a quote is read by itself. -/
theorem begins_quote
    (noLiteral : ∀ literal, IsCharLiteral literal →
      ¬ literal <+: '\x27' :: rest) :
    Begins ('\x27' :: rest) .plain ['\x27'] := by
  refine begins_single rfl ?_
  rintro ⟨role, length⟩ ⟨positive, bound, last, reached, complete⟩
  have lengths := List.length_take_of_le bound
  rcases List.eq_nil_or_concat (rest.take length) with
    empty | ⟨body, closer, whole⟩
  · rw [empty] at lengths
    exact absurd lengths (Nat.ne_of_lt positive)
  · rw [List.concat_eq_append] at whole
    rw [whole] at reached
    have ends := CharLiteral.eq_plainEnd_of_run (by simp) reached complete
    rw [ends] at reached
    -- What was completed is a literal, and there is none.
    refine noLiteral _ (CharLiteral.isCharLiteral_of_ends reached) ?_
    rw [← whole]
    exact List.cons_prefix_cons.mpr ⟨rfl, List.take_prefix _ _⟩

/--
Outside all comments, a text that begins with a quote begins with a plain
lexeme.  It is longer than the quote exactly if the text begins with a
character literal, and then it is that literal, of which there is only one.
-/
theorem begins_charLiteral (opens : '\x27' ∈ text.head?) :
    ∃ part, Begins text .plain part ∧
      (1 < part.length ↔
        ∃ literal, IsCharLiteral literal ∧ literal <+: text) ∧
      (∀ literal, IsCharLiteral literal → literal <+: text →
        part = literal) ∧
      ((∀ literal, IsCharLiteral literal → ¬ literal <+: text) →
        part = ['\x27']) := by
  by_cases somewhere : ∃ literal, IsCharLiteral literal ∧ literal <+: text
  · rcases somewhere with ⟨part, isLiteral, isPrefix⟩
    have begins := begins_of_isCharLiteral isLiteral isPrefix
    refine ⟨part, begins, ?_, ?_, ?_⟩
    · exact iff_of_true (one_lt_length isLiteral)
        ⟨part, isLiteral, isPrefix⟩
    · intro literal otherLiteral otherPrefix
      exact
        begins.part_unique (begins_of_isCharLiteral otherLiteral otherPrefix)
    · exact fun noLiteral => absurd isPrefix (noLiteral part isLiteral)
  · have noLiteral : ∀ literal, IsCharLiteral literal → ¬ literal <+: text :=
      fun literal isLiteral isPrefix =>
        somewhere ⟨literal, isLiteral, isPrefix⟩
    rcases List.head?_eq_some_iff.mp opens with ⟨rest, rfl⟩
    refine ⟨['\x27'], begins_quote noLiteral, ?_, ?_, fun _ => rfl⟩
    · exact iff_of_false (Nat.lt_irrefl 1) somewhere
    · intro literal isLiteral isPrefix
      exact absurd isPrefix (noLiteral literal isLiteral)

/-- A line feed's code, an octal one closed by a backslash, and no literal. -/
theorem begins_charLiteral_escaped :
    Begins ['\x27', '\\', 'u', '0', '0', '0', 'A', '\x27', '/'] .plain
        ['\x27', '\\', 'u', '0', '0', '0', 'A', '\x27'] ∧
      Begins ['\x27', '\\', '0', '7', '\\', '\x27'] .plain
        ['\x27', '\\', '0', '7', '\\'] ∧
      Begins ['\x27', '\n', '\x27'] .plain ['\x27'] := by
  refine ⟨?_, ?_, ?_⟩
  · have opens : '\x27' ∈
        ['\x27', '\\', 'u', '0', '0', '0', 'A', '\x27', '/'].head? :=
      rfl
    rcases begins_charLiteral opens with ⟨part, begins, -, only, -⟩
    have same := only _ .lineFeed ⟨['/'], rfl⟩
    rw [same] at begins
    exact begins
  · have opens : '\x27' ∈
        ['\x27', '\\', '0', '7', '\\', '\x27'].head? :=
      rfl
    have digits : ∀ digit ∈ ['0', '7'], digit ∈ octalDigits :=
      List.all_iff_forall_prop.mp rfl
    have closes : '\\' ∈ closers := by decide
    rcases begins_charLiteral opens with ⟨part, begins, -, only, -⟩
    have same := only _ (.octal (Or.inl rfl) digits closes) ⟨['\x27'], rfl⟩
    rw [same] at begins
    exact begins
  · have opens : '\x27' ∈ ['\x27', '\n', '\x27'].head? := rfl
    have noLiteral : ∀ literal, IsCharLiteral literal →
        ¬ literal <+: ['\x27', '\n', '\x27'] := by
      intro literal isLiteral isPrefix
      cases isLiteral with
      | single notBackslash notQuote inside closes =>
          simp at isPrefix
          exact inside (Or.inl isPrefix.1)
      | _ => simp at isPrefix
    rcases begins_charLiteral opens with ⟨part, begins, -, -, single⟩
    rw [single noLiteral] at begins
    exact begins

end Lexeme

end CommentScan
