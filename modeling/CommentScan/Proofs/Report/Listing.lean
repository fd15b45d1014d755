import CommentScan.Proofs.Scanner.Partition
import CommentScan.Proofs.Text.Quoted
import CommentScan.Report.Listing
import Mathlib.Data.List.DropRight

/-!
# A listing can be read again

A listing is a header with the number of tokens and one line for each of them.
Quoting leaves no line feed in a text, so the lines are what stands between the
line feeds, and each line tells its parts apart: the kind, the span and the
quoted text.  `readListing?` reads a listing without knowing the source.

Since the texts of the tokens make up the source, nothing of it is lost:
`listingHiding_recovers` says so for every choice of hidden characters.
-/

namespace CommentScan

/-! ## Lines and numbers -/

namespace Text

/-- Lines without line feeds are what stands between the line feeds. -/
theorem splitOn_lines {texts : List Text}
    (noFeed : ∀ text ∈ texts, '\n' ∉ text) :
    (lines texts).splitOn '\n' = texts ++ [[]] := by
  induction texts with
  | nil => exact List.splitOn_nil _
  | cons text texts inductionHypothesis =>
      rcases List.forall_mem_cons.mp noFeed with ⟨own, others⟩
      have shape : lines (text :: texts) = text ++ '\n' :: lines texts := by
        simp [lines, line]
      rw [shape, List.splitOn_append_cons_self_of_not_mem own,
        inductionHypothesis others, List.cons_append]

/-- The number that a text begins with, and what stands behind its digits. -/
def readNumber (text : Text) : Nat × Text :=
  (Nat.ofDigitChars 10 (text.takeWhile Char.isDigit) 0,
    text.dropWhile Char.isDigit)

theorem isDigit_of_mem_decimal {number : Nat} {digit : Char}
    (member : digit ∈ decimal number) : digit.isDigit :=
  Nat.isDigit_of_mem_toDigits (by decide) (by decide) member

theorem ofDigitChars_decimal (number : Nat) :
    Nat.ofDigitChars 10 (decimal number) 0 = number :=
  Nat.ofDigitChars_ten_toDigits

theorem readNumber_decimal (number : Nat) {character : Char} (rest : Text)
    (noDigit : character.isDigit = false) :
    readNumber (decimal number ++ character :: rest) =
      (number, character :: rest) := by
  have digits : ∀ digit ∈ decimal number, digit.isDigit :=
    fun _ => isDigit_of_mem_decimal
  rw [readNumber, List.takeWhile_append_of_pos digits,
    List.dropWhile_append_of_pos digits,
    List.takeWhile_cons_of_neg (by simp [noDigit]),
    List.dropWhile_cons_of_neg (by simp [noDigit]), List.append_nil,
    ofDigitChars_decimal]

end Text

theorem Span.toList_display (span : Span) :
    span.display.toList =
      Text.decimal span.start ++ ['.', '.'] ++ Text.decimal span.stop := by
  simp [Span.display, Text.decimal]
  rfl

namespace Report

/-! ## Reading a listing -/

/-- What a listing says of a token. -/
structure Entry where
  token : Token
  text : Text
  deriving DecidableEq, Repr

/-- What there is to say of a token that has been read. -/
def Entry.ofStep (step : Step) : Entry :=
  ⟨step.token, step.after.tokenText⟩

/-- What a listing says. -/
structure Contents where
  path : Text
  count : Nat
  entries : List Entry
  deriving DecidableEq, Repr

/-- The kind that a text begins with. -/
def readKind? (text : Text) : Option (TokenKind × Text) :=
  TokenKind.all.findSome? fun kind =>
    (text.dropPrefix? kind.label.toList).map (kind, ·)

/-- The span that a text begins with. -/
def readSpan? (text : Text) : Option (Span × Text) :=
  let (start, rest) := Text.readNumber text
  (rest.dropPrefix? ['.', '.']).map fun rest =>
    let (stop, rest) := Text.readNumber rest
    (⟨start, stop⟩, rest)

/-- What the line of a token says. -/
def readLine? (line : Text) : Option Entry := do
  let rest ← line.dropPrefix? "  ".toList
  let (kind, rest) ← readKind? rest
  let rest ← rest.dropPrefix? " @ ".toList
  let (span, rest) ← readSpan? rest
  let rest ← rest.dropPrefix? [' ']
  let (text, rest) ← Text.readQuoted rest
  if rest.isEmpty then some ⟨⟨kind, span⟩, text⟩ else none

/-- What the lines of the tokens say, where nothing follows the last one. -/
def readLines? : List Text → Option (List Entry)
  | [] => none
  | [last] => if last.isEmpty then some [] else none
  | line :: rest => do
      let entry ← readLine? line
      let entries ← readLines? rest
      return entry :: entries

/-- The path and the number of tokens in a header. -/
def readHeader? (header : Text) : Option (Text × Nat) := do
  let named ← header.dropPrefix? "Tokens for '".toList
  let counted ← named.dropSuffix? " tokens):".toList
  let path ← (counted.rdropWhile Char.isDigit).dropSuffix? "' (".toList
  return (path, Nat.ofDigitChars 10 (counted.rtakeWhile Char.isDigit) 0)

/-- What a listing says, read from nothing but its characters. -/
def readListing? (listing : Text) : Option Contents :=
  match listing.splitOn '\n' with
  | [] => none
  | header :: lines => do
      let (path, count) ← readHeader? header
      let entries ← readLines? lines
      return ⟨path, count, entries⟩

theorem dropPrefix?_append (front rest : Text) :
    (front ++ rest).dropPrefix? front = some rest :=
  List.dropPrefix?_append_of_beq rest (beq_self_eq_true front)

theorem dropSuffix?_append (rest back : Text) :
    (rest ++ back).dropSuffix? back = some rest :=
  List.dropSuffix?_eq_some_iff.mpr ⟨back, rfl, beq_self_eq_true back⟩

theorem readKind?_label (kind : TokenKind) (rest : Text) :
    readKind? (kind.label.toList ++ rest) = some (kind, rest) := by
  cases kind <;>
    simp [readKind?, TokenKind.all, TokenKind.label, List.dropPrefix?]

theorem readSpan?_display (span : Span) (rest : Text) :
    readSpan? (span.display.toList ++ ' ' :: rest) =
      some (span, ' ' :: rest) := by
  have first :=
    Text.readNumber_decimal span.start
      ('.' :: (Text.decimal span.stop ++ ' ' :: rest))
      (show Char.isDigit '.' = false from rfl)
  have second :=
    Text.readNumber_decimal span.stop rest
      (show Char.isDigit ' ' = false from rfl)
  have shape :
      span.display.toList ++ ' ' :: rest =
        Text.decimal span.start ++
          '.' :: '.' :: (Text.decimal span.stop ++ ' ' :: rest) := by
    simp [Span.toList_display]
  have dots :=
    dropPrefix?_append ['.', '.'] (Text.decimal span.stop ++ ' ' :: rest)
  simp only [List.cons_append, List.nil_append] at dots
  rw [shape, readSpan?, first]
  simp only [dots, Option.map_some, second]

/-- The line of a token says what the token is. -/
theorem readLine?_listingLine (isHidden : Char → Bool) (step : Step) :
    readLine? (listingLine isHidden step) = some (.ofStep step) := by
  have quoted :=
    Text.readQuoted_quoteHiding isHidden step.after.tokenText []
  rw [List.append_nil] at quoted
  have blank :=
    dropPrefix?_append [' ']
      (step.after.tokenText.quoteHiding isHidden)
  rw [List.singleton_append] at blank
  simp only [listingLine, List.append_assoc, List.singleton_append]
  simp only [readLine?, dropPrefix?_append, readKind?_label,
    readSpan?_display, blank, quoted, bind, Option.bind_some]
  rfl

theorem readLines?_map_listingLine (isHidden : Char → Bool)
    (steps : List Step) :
    readLines? (steps.map (listingLine isHidden) ++ [[]]) =
      some (steps.map .ofStep) := by
  induction steps with
  | nil => rfl
  | cons step steps inductionHypothesis =>
      rw [List.map_cons, List.cons_append, readLines?,
        readLine?_listingLine, inductionHypothesis]
      · rfl
      · simp

/-- The header says the path and the number of tokens. -/
theorem readHeader?_listingHeader (path : Text) (count : Nat) :
    readHeader? (listingHeader path count) = some (path, count) := by
  have digits : ∀ digit ∈ (Text.decimal count).reverse, digit.isDigit :=
    fun _ member => Text.isDigit_of_mem_decimal (List.mem_reverse.mp member)
  have split :
      (path ++ "' (".toList ++ Text.decimal count).reverse =
        (Text.decimal count).reverse ++
          '(' :: ' ' :: '\x27' :: path.reverse := by
    simp
  have kept :
      (path ++ "' (".toList ++ Text.decimal count).rdropWhile Char.isDigit =
        path ++ "' (".toList := by
    rw [List.rdropWhile, split, List.dropWhile_append_of_pos digits]
    simp
  have number :
      (path ++ "' (".toList ++ Text.decimal count).rtakeWhile Char.isDigit =
        Text.decimal count := by
    rw [List.rtakeWhile, split, List.takeWhile_append_of_pos digits]
    simp
  have shape :
      listingHeader path count =
        "Tokens for '".toList ++
          (path ++ "' (".toList ++ Text.decimal count ++
            " tokens):".toList) := by
    unfold listingHeader
    simp only [List.append_assoc]
  rw [shape, readHeader?, dropPrefix?_append]
  simp only [dropSuffix?_append, kept, number, bind, Option.bind_some,
    Text.ofDigitChars_decimal]
  rfl

/-! ## What the lines hold -/

/-- A control character in the line of a token belongs to the quoted text. -/
theorem shown_of_mem_listingLine {isHidden : Char → Bool} {step : Step}
    {character : Char} (control : Text.isControl character)
    (member : character ∈ listingLine isHidden step) :
    isHidden character = false ∧ Text.hasShortForm character = false := by
  have noDigit : character.isDigit = false :=
    Text.isDigit_of_isControl control
  have noNumber (number : Nat) : character ∉ Text.decimal number := by
    intro digit
    rw [Text.isDigit_of_mem_decimal digit] at noDigit
    cases noDigit
  have noLiteral {text : Text} (plain : text.all (!Text.isControl ·)) :
      character ∉ text := by
    intro inside
    have free := List.all_eq_true.mp plain character inside
    rw [control] at free
    cases free
  have noLabel : character ∉ step.token.kind.label.toList := by
    cases step.token.kind <;> exact noLiteral (by decide)
  simp only [listingLine, Span.toList_display, List.mem_append,
    noLiteral (show List.all "  ".toList _ from by decide),
    noLiteral (show List.all " @ ".toList _ from by decide),
    noLiteral (show List.all ['.', '.'] _ from by decide),
    noLiteral (show List.all [' '] _ from by decide), noLabel, noNumber,
    or_false, false_or] at member
  exact Text.shown_of_mem_quoteHiding control member

theorem lineFeed_not_mem_listingLine (isHidden : Char → Bool)
    (step : Step) : '\n' ∉ listingLine isHidden step := by
  intro member
  have long := (shown_of_mem_listingLine rfl member).2
  cases long

theorem lineFeed_not_mem_listingHeader {path : Text} (oneLine : '\n' ∉ path)
    (count : Nat) : '\n' ∉ listingHeader path count := by
  have noNumber : '\n' ∉ Text.decimal count :=
    fun digit => Bool.false_ne_true (Text.isDigit_of_mem_decimal digit)
  unfold listingHeader
  simp [oneLine, noNumber]

theorem splitOn_listingHiding (isHidden : Char → Bool) {path : Text}
    (oneLine : '\n' ∉ path) (source : Text) (granularity : Granularity) :
    let steps := (Scanner.ofText source granularity).drain.1
    (listingHiding isHidden path source granularity).splitOn '\n' =
      listingHeader path steps.length ::
        (steps.map (listingLine isHidden) ++ [[]]) := by
  intro steps
  have noFeed :
      ∀ line ∈
          listingHeader path steps.length ::
            steps.map (listingLine isHidden),
        '\n' ∉ line := by
    rw [List.forall_mem_cons, List.forall_mem_map]
    exact
      ⟨lineFeed_not_mem_listingHeader oneLine _,
        fun step _ => lineFeed_not_mem_listingLine isHidden step⟩
  exact Text.splitOn_lines noFeed

/-- A listing is read again as the path and the tokens of its source. -/
theorem readListing?_listingHiding (isHidden : Char → Bool) {path : Text}
    (oneLine : '\n' ∉ path) (source : Text) (granularity : Granularity) :
    let steps := (Scanner.ofText source granularity).drain.1
    readListing? (listingHiding isHidden path source granularity) =
      some ⟨path, steps.length, steps.map .ofStep⟩ := by
  intro steps
  rw [readListing?, splitOn_listingHiding isHidden oneLine]
  simp only [readHeader?_listingHeader, readLines?_map_listingLine, bind,
    Option.bind_some]
  rfl

/-- The texts in a listing make up the source. -/
theorem flatMap_text_entries {source : Text}
    (small : Text.byteLength source ≤ wordLimit)
    (granularity : Granularity) :
    ((Scanner.ofText source granularity).drain.1.map Entry.ofStep).flatMap
        Entry.text =
      source := by
  rw [List.flatMap_map]
  exact
    (Scanner.ofText source granularity).flatMap_tokenText_drain.trans
      (Scanner.unread_ofText small granularity)

/-- The line of a token shows what has been read of it, and nothing else. -/
theorem map_listingLine_congr (isHidden : Char → Bool)
    {left right : List Step}
    (same : left.map Step.reading = right.map Step.reading) :
    left.map (listingLine isHidden) = right.map (listingLine isHidden) := by
  induction left generalizing right with
  | nil => rw [List.map_eq_nil_iff.mp same.symm]
  | cons first rest inductionHypothesis =>
      rcases List.map_eq_cons_iff.mp same.symm with
        ⟨other, others, rfl, reading, behind⟩
      have token := congrArg Reading.token reading
      have text := congrArg Reading.text reading
      change other.token = first.token at token
      change other.after.tokenText = first.after.tokenText at text
      rw [List.map_cons, List.map_cons, inductionHypothesis behind.symm,
        listingLine, listingLine, token, text]

/-- A listing shows what offsets reach of its source, and nothing else. -/
theorem listingHiding_congr (isHidden : Char → Bool) (path : Text)
    {left right : Text} (same : left.reachable? = right.reachable?)
    (granularity : Granularity) :
    listingHiding isHidden path left granularity =
      listingHiding isHidden path right granularity := by
  have readings :
      (Scanner.ofText left granularity).drain.1.map Step.reading =
        (Scanner.ofText right granularity).drain.1.map Step.reading := by
    rw [Scanner.drain_readings, Scanner.drain_readings, Scanner.readings,
      Scanner.readings, Scanner.ofText, same]
    rfl
  have count := congrArg List.length readings
  rw [List.length_map, List.length_map] at count
  rw [listingHiding, listingHiding, listingOf, listingOf, count,
    map_listingLine_congr isHidden readings]

/--
Whichever characters are hidden in its quoted texts, a listing consists of the
header with the number of tokens and of one line for each token in order.  All
of it can be read again: the path, the number, and the kind, the span and the
text of each token.  A text is what its span covers, and one after another they
make up the source, so that no other source has the same listing, as long as
offsets reach the ends of both.  If every control character without a shorter
form is hidden, then no line of a token holds a control character.
-/
theorem listingHiding_recovers (isHidden : Char → Bool) {path : Text}
    (oneLine : '\n' ∉ path) {source : Text}
    (small : Text.byteLength source ≤ wordLimit)
    (granularity : Granularity) :
    let steps := (Scanner.ofText source granularity).drain.1
    let entries := steps.map Entry.ofStep
    let listing := listingHiding isHidden path source granularity
    listing.splitOn '\n' =
        listingHeader path steps.length ::
          (steps.map (listingLine isHidden) ++ [[]]) ∧
      readListing? listing = some ⟨path, steps.length, entries⟩ ∧
      (∀ entry ∈ entries,
        entry.token.span.slice? source = some entry.text) ∧
      entries.flatMap Entry.text = source ∧
      (∀ otherPath otherSource otherGranularity,
        '\n' ∉ otherPath →
          Text.byteLength otherSource ≤ wordLimit →
            listingHiding isHidden otherPath otherSource otherGranularity =
                listing →
              otherPath = path ∧ otherSource = source) ∧
      ((∀ character, Text.isControl character →
          Text.hasShortForm character ∨ isHidden character) →
        ∀ step ∈ steps, ∀ character ∈ listingLine isHidden step,
          ¬ Text.isControl character) := by
  intro steps entries listing
  have recovered :=
    readListing?_listingHiding isHidden oneLine source granularity
  refine ⟨splitOn_listingHiding isHidden oneLine source granularity,
    recovered, ?_, flatMap_text_entries small granularity, ?_, ?_⟩
  · rw [List.forall_mem_map]
    exact (Scanner.Reachable.ofText source granularity).slices
  · intro otherPath otherSource otherGranularity otherOneLine otherSmall same
    have otherRecovered :=
      readListing?_listingHiding isHidden otherOneLine otherSource
        otherGranularity
    rw [same, recovered, Option.some.injEq, Contents.mk.injEq]
      at otherRecovered
    rcases otherRecovered with ⟨samePath, -, sameEntries⟩
    refine ⟨samePath.symm, ?_⟩
    rw [← flatMap_text_entries otherSmall otherGranularity, ← sameEntries,
      flatMap_text_entries small]
  · intro hides step _ character member control
    have shown := shown_of_mem_listingLine control member
    rcases hides character control with shortForm | hidden
    · rw [shown.2] at shortForm
      cases shortForm
    · rw [shown.1] at hidden
      cases hidden

/--
A string literal holds a quote, a backslash and a control character that is
hidden, and a line feed stands behind it.
-/
theorem listingHiding_recovers_escapes :
    let path := "it's".toList
    let source :=
      ['\x22', '\\', '\x22', '\x7f', '\x22', '\n', 'é', '/', '*']
    let entries : List Entry :=
      [⟨⟨.plainContent, ⟨0, 5⟩⟩, ['\x22', '\\', '\x22', '\x7f', '\x22']⟩,
        ⟨⟨.plainContent, ⟨5, 6⟩⟩, ['\n']⟩,
        ⟨⟨.plainContent, ⟨6, 8⟩⟩, ['é']⟩,
        ⟨⟨.blockComment, ⟨8, 10⟩⟩, ['/', '*']⟩]
    '\n' ∉ path ∧
      readListing? (listing path source .lexemes) = some ⟨path, 4, entries⟩ ∧
      entries.flatMap Entry.text = source ∧
      (∀ otherSource, Text.byteLength otherSource ≤ wordLimit →
        listing path otherSource .lexemes = listing path source .lexemes →
          otherSource = source) ∧
      ∀ step ∈ (Scanner.ofText source .lexemes).drain.1,
        ∀ character ∈ listingLine Text.isUnprintable step,
          ¬ Text.isControl character := by
  intro path source entries
  have oneLine : '\n' ∉ path := by decide
  have read :
      (Scanner.ofText source .lexemes).drain.1.map Entry.ofStep = entries := by
    decide +kernel
  have number : (Scanner.ofText source .lexemes).drain.1.length = 4 := by
    decide +kernel
  have small : Text.byteLength source ≤ wordLimit := by decide
  rcases
    listingHiding_recovers Text.isUnprintable oneLine small .lexemes with
    ⟨-, recovered, -, whole, unique, plain⟩
  rw [read, number] at recovered
  rw [read] at whole
  refine ⟨oneLine, recovered, whole, ?_, ?_⟩
  · intro otherSource otherSmall same
    exact (unique path otherSource .lexemes oneLine otherSmall same).2
  · exact
      plain fun _ control => .inr (Text.isUnprintable_of_isControl control)

/-- Two line comments that differ in a byte which no offset reaches. -/
theorem listing_eq_tooLong :
    let front : Text := ['/', '/'] ++ List.replicate 4294967293 'a'
    front ++ ['x'] ≠ front ++ ['y'] ∧
      ∀ path granularity,
        listing path (front ++ ['x']) granularity =
          listing path (front ++ ['y']) granularity := by
  intro front
  have bytes (count : Nat) :
      Text.byteLength (['/', '/'] ++ List.replicate count 'a') = 2 + count :=
    Text.byteLength_append_replicate _ count rfl
  have full : Text.byteLength front = wordLimit := bytes 4294967293
  constructor
  · intro same
    cases List.append_cancel_left same
  · intro path granularity
    apply listingHiding_congr
    rw [Text.reachable?_append full, Text.reachable?_append full]

end Report

end CommentScan
