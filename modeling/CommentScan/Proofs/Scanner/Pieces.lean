import CommentScan.Proofs.Scanner.Reachable

/-!
# The pieces of a text

What a scanner reads depends only on the characters in front of it, on the
nesting and on whether runs are merged.  `pieces` says so: it cuts a text into
pieces, without a buffer, offsets or a scanner.  A piece is a token without
its place, and `scan` lays the pieces of a text out from a state on.

`drain_readings` ties the two together: what a scanner reads to the end of its
window is the scan of what is unread, from the state of the scanner on.
-/

namespace CommentScan

/-- What a token is for, its characters and the nesting behind it. -/
structure Piece where
  role : Role
  text : Text
  nesting : Nesting
  deriving DecidableEq, Repr

namespace Lexeme

@[simp]
theorem runLength_nil (mode : Mode) (role : Role) (length : Nat) :
    runLength mode role [] length = length := by
  rw [runLength]
  split
  · rfl
  · rename_i lexeme found
    rw [longest?_eq_none_iff.mpr rfl] at found
    cases found

theorem runLength_of_longest {mode : Mode} {text : Text} {lexeme : Lexeme}
    (found : longest? mode text = some lexeme) (role : Role) (length : Nat) :
    runLength mode role text length =
      if lexeme.role = role then
        runLength mode role (text.drop lexeme.length)
          (length + lexeme.length)
      else
        length := by
  rw [runLength]
  split
  · rename_i missing
    rw [found] at missing
    cases missing
  · rename_i other longest
    rw [found] at longest
    cases longest
    rfl

theorem runLength_le (mode : Mode) (role : Role) (text : Text)
    (length : Nat) :
    runLength mode role text length ≤ length + text.length := by
  fun_induction runLength mode role text length with
  | case1 text length _ => exact Nat.le_add_right _ _
  | case2 text length lexeme found _ inductionHypothesis =>
      have bound := (longest?_length found).2
      rw [List.length_drop] at inductionHypothesis
      omega
  | case3 text length _ _ _ => exact Nat.le_add_right _ _

/-- A token lies within the text that its first lexeme is taken from. -/
theorem tokenLength_le {lexeme : Lexeme} {text : Text}
    (bound : lexeme.length ≤ text.length) (granularity : Granularity)
    (mode : Mode) : lexeme.tokenLength granularity mode text ≤ text.length := by
  unfold tokenLength
  split
  · have run :=
      runLength_le mode lexeme.role (text.drop lexeme.length) lexeme.length
    rw [List.length_drop] at run
    omega
  · exact bound

end Lexeme

namespace Piece

/-- The kind of the token that a piece becomes. -/
def kind (piece : Piece) : TokenKind :=
  piece.role.tokenKind piece.nesting

/-- The piece at the front of a text, as long as a lexeme makes its token. -/
def ofLexeme (granularity : Granularity) (nesting : Nesting) (text : Text)
    (lexeme : Lexeme) : Piece :=
  let behind := lexeme.role.apply nesting
  ⟨lexeme.role,
    text.take (lexeme.tokenLength granularity behind.mode text), behind⟩

/-- The piece at the front of a text. -/
def first? (granularity : Granularity) (nesting : Nesting) (text : Text) :
    Option Piece :=
  (Lexeme.longest? nesting.mode text).map
    (ofLexeme granularity nesting text)

theorem length_text_ofLexeme {nesting : Nesting} {text : Text}
    {lexeme : Lexeme}
    (found : Lexeme.longest? nesting.mode text = some lexeme)
    (granularity : Granularity) :
    (ofLexeme granularity nesting text lexeme).text.length =
      lexeme.tokenLength granularity (lexeme.role.apply nesting).mode
        text := by
  have bound := (Lexeme.longest?_length found).2
  rw [ofLexeme, List.length_take]
  exact Nat.min_eq_left (Lexeme.tokenLength_le bound granularity _)

/-- The first piece is not empty, and the rest of the text stands behind it. -/
theorem first?_spec {granularity : Granularity} {nesting : Nesting}
    {text : Text} {piece : Piece}
    (found : first? granularity nesting text = some piece) :
    piece.text ≠ [] ∧
      text = piece.text ++ text.drop piece.text.length := by
  rcases Option.map_eq_some_iff.mp found with ⟨lexeme, longest, rfl⟩
  have length := length_text_ofLexeme longest granularity
  have positive := (Lexeme.longest?_length longest).1
  have longer :=
    lexeme.length_le_tokenLength granularity
      (lexeme.role.apply nesting).mode text
  constructor
  · intro empty
    rw [empty, List.length_nil] at length
    omega
  · rw [length, ofLexeme, List.take_append_drop]

theorem first?_eq_none_iff {granularity : Granularity} {nesting : Nesting}
    {text : Text} : first? granularity nesting text = none ↔ text = [] := by
  rw [first?, Option.map_eq_none_iff, Lexeme.longest?_eq_none_iff]

theorem length_drop_lt {granularity : Granularity} {nesting : Nesting}
    {text : Text} {piece : Piece}
    (found : first? granularity nesting text = some piece) :
    (text.drop piece.text.length).length < text.length := by
  rcases first?_spec found with ⟨nonempty, whole⟩
  have positive := List.length_pos_iff.mpr nonempty
  have lengths := congrArg List.length whole
  rw [List.length_append] at lengths
  omega

end Piece

/-- The pieces of a text, from a nesting on. -/
def pieces (granularity : Granularity) (nesting : Nesting) (text : Text) :
    List Piece :=
  match _found : Piece.first? granularity nesting text with
  | none => []
  | some piece =>
      piece ::
        pieces granularity piece.nesting (text.drop piece.text.length)
termination_by text.length
decreasing_by exact Piece.length_drop_lt _found

@[simp]
theorem pieces_nil (granularity : Granularity) (nesting : Nesting) :
    pieces granularity nesting [] = [] := by
  rw [pieces]
  split
  · rfl
  · rename_i piece found
    rw [Piece.first?_eq_none_iff.mpr rfl] at found
    cases found

theorem pieces_eq_cons {granularity : Granularity} {nesting : Nesting}
    {text : Text} {piece : Piece}
    (found : Piece.first? granularity nesting text = some piece) :
    pieces granularity nesting text =
      piece ::
        pieces granularity piece.nesting
          (text.drop piece.text.length) := by
  rw [pieces]
  split
  · rename_i missing
    rw [missing] at found
    cases found
  · rename_i other otherFound
    rw [otherFound, Option.some.injEq] at found
    rw [found]

theorem pieces_of_first? {granularity : Granularity} {nesting : Nesting}
    {piece : Piece} {rest : Text}
    (found :
      Piece.first? granularity nesting (piece.text ++ rest) = some piece) :
    pieces granularity nesting (piece.text ++ rest) =
      piece :: pieces granularity piece.nesting rest := by
  rw [pieces_eq_cons found, List.drop_left]

/-- The first of the pieces is the piece at the front. -/
theorem head?_pieces (granularity : Granularity) (nesting : Nesting)
    (text : Text) :
    (pieces granularity nesting text).head? =
      Piece.first? granularity nesting text := by
  rw [pieces]
  split <;> simp_all

/--
Induction along the pieces of a text: over no characters, and over a first
piece with a rest for which the statement holds from the nesting behind it.
-/
theorem pieces_induction (granularity : Granularity)
    {motive : Nesting → Text → Prop}
    (nil : ∀ nesting, motive nesting [])
    (step : ∀ nesting piece rest,
      Piece.first? granularity nesting (piece.text ++ rest) = some piece →
      piece.text ≠ [] → motive piece.nesting rest →
      motive nesting (piece.text ++ rest))
    (nesting : Nesting) (text : Text) : motive nesting text := by
  induction length : text.length using Nat.strongRecOn
    generalizing nesting text with
  | ind count inductionHypothesis =>
      subst length
      cases found : Piece.first? granularity nesting text with
      | none =>
          rw [Piece.first?_eq_none_iff.mp found]
          exact nil nesting
      | some piece =>
          rcases Piece.first?_spec found with ⟨nonempty, whole⟩
          have shorter := Piece.length_drop_lt found
          have smaller :=
            inductionHypothesis _ shorter piece.nesting
              (text.drop piece.text.length) rfl
          rw [whole]
          rw [whole] at found
          exact step nesting piece _ found nonempty smaller

/-- Nothing of a text is lost between its pieces. -/
theorem flatMap_text_pieces (granularity : Granularity) (nesting : Nesting)
    (text : Text) :
    (pieces granularity nesting text).flatMap Piece.text = text := by
  induction nesting, text using pieces_induction granularity with
  | nil nesting => simp
  | step nesting piece rest found nonempty inductionHypothesis =>
      rw [pieces_of_first? found, List.flatMap_cons, inductionHypothesis]

/-- There are at most as many pieces as characters. -/
theorem length_pieces_le (granularity : Granularity) (nesting : Nesting)
    (text : Text) :
    (pieces granularity nesting text).length ≤ text.length := by
  induction nesting, text using pieces_induction granularity with
  | nil nesting => simp
  | step nesting piece rest found nonempty inductionHypothesis =>
      have positive := List.length_pos_iff.mpr nonempty
      rw [pieces_of_first? found, List.length_cons, List.length_append]
      omega

/-! ## Laying out pieces -/

/-- What is seen of a token: itself, its text and the state behind it. -/
structure Reading where
  token : Token
  text : Text
  state : ScanState
  deriving DecidableEq, Repr

/-- What is seen of a step. -/
def Step.reading (step : Step) : Reading :=
  ⟨step.token, step.after.tokenText, step.after.state⟩

/-- A piece in its place. -/
def Piece.readingAt (position : Nat) (piece : Piece) : Reading :=
  let stop := position + Text.byteLength piece.text
  ⟨⟨piece.kind, ⟨position, stop⟩⟩, piece.text, ⟨stop, piece.nesting⟩⟩

/-- The last characters of a piece end where it does. -/
theorem Piece.readingAt_suffix {piece : Piece} {kept returned : Text}
    (whole : piece.text = kept ++ returned) (position : Nat) :
    readingAt (position + Text.byteLength kept)
        ⟨piece.role, returned, piece.nesting⟩ =
      ⟨⟨piece.kind,
          ⟨position + Text.byteLength kept,
            (piece.readingAt position).token.span.stop⟩⟩,
        returned, (piece.readingAt position).state⟩ := by
  simp only [readingAt, kind, whole, Text.byteLength_append, Nat.add_assoc]

/-- The state behind some readings, one after another. -/
def stateBehind : ScanState → List Reading → ScanState
  | state, [] => state
  | _, reading :: rest => stateBehind reading.state rest

theorem stateBehind_append (state : ScanState) (front back : List Reading) :
    stateBehind state (front ++ back) =
      stateBehind (stateBehind state front) back := by
  induction front generalizing state with
  | nil => rfl
  | cons reading rest inductionHypothesis =>
      exact inductionHypothesis reading.state

/-- Behind some readings is the state of one of them, or nothing is read. -/
theorem stateBehind_eq_or_mem (state : ScanState) (list : List Reading) :
    stateBehind state list = state ∨
      ∃ reading ∈ list, reading.state = stateBehind state list := by
  induction list generalizing state with
  | nil => exact Or.inl rfl
  | cons first rest inductionHypothesis =>
      rcases inductionHypothesis first.state with same | ⟨last, member, same⟩
      · exact Or.inr ⟨first, List.mem_cons_self, same.symm⟩
      · exact Or.inr ⟨last, List.mem_cons_of_mem first member, same⟩

/-- Some pieces, one behind the other from a position on. -/
def readingsAt : Nat → List Piece → List Reading
  | _, [] => []
  | position, piece :: rest =>
      piece.readingAt position ::
        readingsAt (position + Text.byteLength piece.text) rest

theorem map_text_readingsAt (position : Nat) (list : List Piece) :
    (readingsAt position list).map Reading.text = list.map Piece.text := by
  induction list generalizing position with
  | nil => rfl
  | cons piece rest inductionHypothesis =>
      rw [readingsAt, List.map_cons, List.map_cons, inductionHypothesis]
      rfl

theorem length_readingsAt (position : Nat) (list : List Piece) :
    (readingsAt position list).length = list.length := by
  rw [← List.length_map Reading.text, map_text_readingsAt, List.length_map]

theorem readingsAt_append (position : Nat) (front back : List Piece) :
    readingsAt position (front ++ back) =
      readingsAt position front ++
        readingsAt
          (position + Text.byteLength (front.flatMap Piece.text)) back := by
  induction front generalizing position with
  | nil => rfl
  | cons piece rest inductionHypothesis =>
      rw [List.cons_append, readingsAt, readingsAt, List.cons_append,
        inductionHypothesis, List.flatMap_cons, Text.byteLength_append,
        Nat.add_assoc]

theorem mem_readingsAt {position : Nat} {list : List Piece}
    {reading : Reading} (member : reading ∈ readingsAt position list) :
    ∃ piece ∈ list, ∃ start, reading = piece.readingAt start := by
  induction list generalizing position with
  | nil => cases member
  | cons piece rest inductionHypothesis =>
      rcases List.mem_cons.mp member with rfl | later
      · exact ⟨piece, List.mem_cons_self, position, rfl⟩
      · rcases inductionHypothesis later with ⟨other, listed, place⟩
        exact ⟨other, List.mem_cons_of_mem _ listed, place⟩

/-- What is read of a text from a state on. -/
def scan (granularity : Granularity) (state : ScanState) (text : Text) :
    List Reading :=
  readingsAt state.position (pieces granularity state.nesting text)

@[simp]
theorem scan_nil (granularity : Granularity) (state : ScanState) :
    scan granularity state [] = [] := by
  rw [scan, pieces_nil]
  rfl

theorem scan_of_first? {granularity : Granularity} {state : ScanState}
    {piece : Piece} {rest : Text}
    (found :
      Piece.first? granularity state.nesting (piece.text ++ rest) =
        some piece) :
    scan granularity state (piece.text ++ rest) =
      piece.readingAt state.position ::
        scan granularity (piece.readingAt state.position).state rest := by
  rw [scan, pieces_of_first? found]
  rfl

/-- A scan that reads something starts with a piece. -/
theorem exists_first?_of_scan {granularity : Granularity}
    {state : ScanState} {text : Text} {reading : Reading}
    {later : List Reading}
    (scanned : scan granularity state text = reading :: later) :
    ∃ piece rest,
      text = piece.text ++ rest ∧
        Piece.first? granularity state.nesting (piece.text ++ rest) =
          some piece ∧
        reading = piece.readingAt state.position ∧
        scan granularity reading.state rest = later := by
  cases found : Piece.first? granularity state.nesting text with
  | none =>
      rw [Piece.first?_eq_none_iff.mp found, scan_nil] at scanned
      cases scanned
  | some piece =>
      have whole := (Piece.first?_spec found).2
      rw [whole] at found scanned
      rw [scan_of_first? found, List.cons.injEq] at scanned
      rcases scanned with ⟨rfl, later⟩
      exact ⟨piece, _, whole, found, rfl, later⟩

theorem head?_scan (granularity : Granularity) (state : ScanState)
    (text : Text) :
    (scan granularity state text).head? =
      (Piece.first? granularity state.nesting text).map
        (Piece.readingAt state.position) := by
  rw [scan, ← head?_pieces]
  cases pieces granularity state.nesting text <;> rfl

theorem scan_eq_nil_iff {granularity : Granularity} {state : ScanState}
    {text : Text} : scan granularity state text = [] ↔ text = [] := by
  constructor
  · intro nothing
    have texts := flatMap_text_pieces granularity state.nesting text
    have lengths := congrArg List.length nothing
    rw [scan, length_readingsAt, List.length_nil] at lengths
    rw [List.eq_nil_of_length_eq_zero lengths] at texts
    exact texts.symm
  · rintro rfl
    exact scan_nil granularity state

/-- The texts of what is read make up the text. -/
theorem flatMap_text_scan (granularity : Granularity) (state : ScanState)
    (text : Text) :
    (scan granularity state text).flatMap Reading.text = text := by
  rw [List.flatMap_def, scan, map_text_readingsAt, ← List.flatMap_def,
    flatMap_text_pieces]

/--
Induction along a scan: over no characters, and over a first piece with a rest
for which the statement holds from the state behind it.
-/
theorem scan_induction (granularity : Granularity)
    {motive : ScanState → Text → Prop}
    (nil : ∀ state, motive state [])
    (step : ∀ state piece rest,
      Piece.first? granularity state.nesting (piece.text ++ rest) =
        some piece →
      piece.text ≠ [] →
      motive (piece.readingAt state.position).state rest →
      motive state (piece.text ++ rest))
    (state : ScanState) (text : Text) : motive state text := by
  rcases state with ⟨position, nesting⟩
  induction nesting, text using pieces_induction granularity
    generalizing position with
  | nil nesting => exact nil ⟨position, nesting⟩
  | step nesting piece rest found nonempty inductionHypothesis =>
      exact
        step ⟨position, nesting⟩ piece rest found nonempty
          (inductionHypothesis _)

theorem position_stateBehind_scan (granularity : Granularity)
    (state : ScanState) (text : Text) :
    (stateBehind state (scan granularity state text)).position =
      state.position + Text.byteLength text := by
  induction state, text using scan_induction granularity with
  | nil state =>
      rw [scan_nil]
      rfl
  | step state piece rest found nonempty inductionHypothesis =>
      rw [scan_of_first? found, stateBehind, inductionHypothesis,
        Text.byteLength_append, ← Nat.add_assoc]
      rfl

/-- Every token of a scan ends behind its start. -/
theorem position_lt_of_mem_scan {granularity : Granularity}
    {state : ScanState} {text : Text} :
    ∀ reading ∈ scan granularity state text,
      state.position < reading.state.position := by
  induction state, text using scan_induction granularity with
  | nil state => simp
  | step state piece rest found nonempty inductionHypothesis =>
      intro reading member
      have first :
          state.position <
            (piece.readingAt state.position).state.position :=
        Nat.lt_add_of_pos_right (Text.byteLength_pos nonempty)
      rw [scan_of_first? found] at member
      rcases List.mem_cons.mp member with rfl | later
      · exact first
      · exact Nat.lt_trans first (inductionHypothesis reading later)

/-- The end of a token tells it from all others of its scan. -/
theorem eq_of_position_eq {granularity : Granularity} {state : ScanState}
    {text : Text} {left right : Reading}
    (leftMember : left ∈ scan granularity state text)
    (rightMember : right ∈ scan granularity state text)
    (same : left.state.position = right.state.position) : left = right := by
  induction state, text using scan_induction granularity with
  | nil state =>
      rw [scan_nil] at leftMember
      cases leftMember
  | step state piece rest found nonempty inductionHypothesis =>
      rw [scan_of_first? found] at leftMember rightMember
      rcases List.mem_cons.mp leftMember with rfl | leftLater
      · rcases List.mem_cons.mp rightMember with rfl | rightLater
        · rfl
        · exact
            absurd same
              (Nat.ne_of_lt (position_lt_of_mem_scan right rightLater))
      · rcases List.mem_cons.mp rightMember with rfl | rightLater
        · exact
            absurd same
              (Nat.ne_of_gt (position_lt_of_mem_scan left leftLater))
        · exact inductionHypothesis leftLater rightLater

namespace Scanner

/-- The scanner behind a piece. -/
def behind (scanner : Scanner) (piece : Piece) : Scanner :=
  { scanner with
    nesting := piece.nesting
    tokenStart := scanner.position
    tokenText := piece.text
    unread := scanner.unread.drop piece.text.length }

/-- What a scanner reads up to the end of its window. -/
def readings (scanner : Scanner) : List Reading :=
  scan scanner.granularity scanner.state scanner.unread

theorem readings_ofText {buffer : Text}
    (small : Text.byteLength buffer ≤ wordLimit)
    (granularity : Granularity) :
    (ofText buffer granularity).readings = scan granularity .start buffer := by
  rw [readings, unread_ofText small]
  rfl

theorem read_eq_behind {scanner : Scanner} {lexeme : Lexeme}
    (found : Lexeme.longest? scanner.mode scanner.unread = some lexeme) :
    scanner.read lexeme =
      scanner.behind
        (Piece.ofLexeme scanner.granularity scanner.nesting scanner.unread
          lexeme) := by
  have length := Piece.length_text_ofLexeme found scanner.granularity
  rw [behind, length]
  simp only [read, List.splitAt_eq, Piece.ofLexeme]

/-- Reading on takes the first piece of what is unread. -/
theorem advance_of_first? {scanner : Scanner} {piece : Piece}
    (found :
      Piece.first? scanner.granularity scanner.nesting scanner.unread =
        some piece) :
    scanner.advance =
      (some (piece.readingAt scanner.position).token,
        scanner.behind piece) := by
  rcases Option.map_eq_some_iff.mp found with ⟨lexeme, longest, rfl⟩
  rw [advance_of_longest longest, read_eq_behind longest]
  rfl

/-- A token that is read is the first piece of what is unread. -/
theorem exists_first?_of_tryAdvance {scanner after : Scanner}
    {token : Token} (advanced : scanner.tryAdvance = .ok (some token, after)) :
    ∃ piece,
      Piece.first? scanner.granularity scanner.nesting scanner.unread =
          some piece ∧
        token = (piece.readingAt scanner.position).token ∧
        after = scanner.behind piece := by
  rw [tryAdvance_eq, Except.ok.injEq] at advanced
  cases found :
      Piece.first? scanner.granularity scanner.nesting scanner.unread with
  | none =>
      rw [advance_of_nil (Piece.first?_eq_none_iff.mp found)] at advanced
      cases advanced
  | some piece =>
      rw [advance_of_first? found] at advanced
      cases advanced
      exact ⟨piece, rfl, rfl, rfl⟩

theorem reading_behind (scanner : Scanner) (piece : Piece) :
    Step.reading
        ⟨(piece.readingAt scanner.position).token, scanner.behind piece⟩ =
      piece.readingAt scanner.position := rfl

@[simp]
theorem windowEnd_behind {scanner : Scanner} {piece : Piece}
    (found :
      Piece.first? scanner.granularity scanner.nesting scanner.unread =
        some piece) :
    (scanner.behind piece).windowEnd = scanner.windowEnd := by
  have bytes :=
    congrArg Text.byteLength (Piece.first?_spec found).2
  rw [Text.byteLength_append] at bytes
  change
    scanner.position + Text.byteLength piece.text +
        Text.byteLength (scanner.unread.drop piece.text.length) =
      scanner.position + Text.byteLength scanner.unread
  omega

theorem readings_of_finished {scanner : Scanner}
    (finished : scanner.unread = []) : scanner.readings = [] := by
  rw [readings, finished, scan_nil]

theorem readings_of_first? {scanner : Scanner} {piece : Piece}
    (found :
      Piece.first? scanner.granularity scanner.nesting scanner.unread =
        some piece) :
    scanner.readings =
      piece.readingAt scanner.position ::
        (scanner.behind piece).readings := by
  have whole := (Piece.first?_spec found).2
  rw [whole] at found
  have scanned := @scan_of_first? _ scanner.state _ _ found
  rw [← whole] at scanned
  exact scanned

/-- Reading on reads the first token that is left. -/
theorem advance_of_readings {scanner : Scanner} {reading : Reading}
    {later : List Reading} (left : scanner.readings = reading :: later) :
    ∃ after,
      scanner.tryAdvance = .ok (some reading.token, after) ∧
        after.tokenText = reading.text ∧ after.state = reading.state ∧
        after.readings = later := by
  rcases exists_first?_of_scan left with
    ⟨piece, rest, whole, found, rfl, -⟩
  rw [← whole] at found
  have advanced := scanner.tryAdvance_eq
  rw [advance_of_first? found] at advanced
  rw [readings_of_first? found] at left
  exact ⟨scanner.behind piece, advanced, rfl, rfl, (List.cons.inj left).2⟩

/--
Induction along the window of a scanner: at its end, and in front of a piece
behind which the statement holds.
-/
theorem window_induction {motive : Scanner → Prop}
    (finished : ∀ scanner, scanner.unread = [] → motive scanner)
    (step : ∀ scanner piece,
      Piece.first? scanner.granularity scanner.nesting scanner.unread =
        some piece →
      motive (scanner.behind piece) → motive scanner)
    (scanner : Scanner) : motive scanner := by
  induction length : scanner.unread.length using Nat.strongRecOn
    generalizing scanner with
  | ind count inductionHypothesis =>
      subst length
      cases found :
          Piece.first? scanner.granularity scanner.nesting
            scanner.unread with
      | none => exact finished scanner (Piece.first?_eq_none_iff.mp found)
      | some piece =>
          apply step scanner piece found
          exact
            inductionHypothesis _ (Piece.length_drop_lt found)
              (scanner.behind piece) rfl

/-- Reading to the end of the window reads the scan of what is unread. -/
theorem drain_readings (scanner : Scanner) :
    scanner.drain.1.map Step.reading = scanner.readings := by
  induction scanner using window_induction with
  | finished scanner finished =>
      rw [drain_of_none (advance_of_nil finished),
        readings_of_finished finished]
      rfl
  | step scanner piece found inductionHypothesis =>
      rw [drain_of_some (advance_of_first? found), readings_of_first? found,
        List.map_cons, inductionHypothesis, reading_behind]

/-- The scanner that is left at the end of a window. -/
theorem drain_finished (scanner : Scanner) :
    scanner.drain.2.unread = [] ∧
      scanner.drain.2.granularity = scanner.granularity ∧
      scanner.drain.2.state =
        stateBehind scanner.state scanner.readings := by
  induction scanner using window_induction with
  | finished scanner finished =>
      rw [drain_of_none (advance_of_nil finished),
        readings_of_finished finished]
      exact ⟨finished, rfl, rfl⟩
  | step scanner piece found inductionHypothesis =>
      rw [drain_of_some (advance_of_first? found), readings_of_first? found]
      exact inductionHypothesis

/-- Resuming in a window and reading it to its end is a scan of the window. -/
theorem exists_resume_drain (scanner : Scanner) {buffer text : Text}
    {state : ScanState} {stop : Nat}
    (window : Text.slice? buffer state.position stop = some text) :
    ∃ resumed,
      scanner.resume buffer stop state = .ok resumed ∧
        resumed.unread = text ∧
        resumed.drain.2.granularity = scanner.granularity ∧
        resumed.drain.1.map Step.reading =
          scan scanner.granularity state text ∧
        resumed.drain.2.state =
          stateBehind state (scan scanner.granularity state text) := by
  rcases scanner.exists_resume window with
    ⟨resumed, placed, granularity, sameState, unread⟩
  have read : resumed.readings = scan scanner.granularity state text := by
    rw [readings, granularity, sameState, unread]
  rcases resumed.drain_finished with ⟨-, kept, finished⟩
  rw [read, sameState] at finished
  refine
    ⟨resumed, placed, unread, kept.trans granularity, ?_, finished⟩
  rw [drain_readings, read]

/-- Reading some tokens reads the first ones of the window. -/
theorem take_readings (scanner : Scanner) (count : Nat) :
    (scanner.take count).1.map Step.reading =
      scanner.readings.take count := by
  induction scanner using window_induction generalizing count with
  | finished scanner finished =>
      rw [readings_of_finished finished, List.take_nil]
      cases count with
      | zero => rfl
      | succ count =>
          rw [take_succ_of_none (advance_of_nil finished)]
          rfl
  | step scanner piece found inductionHypothesis =>
      cases count with
      | zero => rfl
      | succ count =>
          rw [take_succ_of_some (advance_of_first? found),
            readings_of_first? found, List.take_succ_cons, List.map_cons,
            inductionHypothesis, reading_behind]

/-- Behind some tokens the other ones of the window are left. -/
theorem take_behind (scanner : Scanner) (count : Nat) :
    (scanner.take count).2.state =
        stateBehind scanner.state (scanner.readings.take count) ∧
      (scanner.take count).2.readings = scanner.readings.drop count := by
  induction scanner using window_induction generalizing count with
  | finished scanner finished =>
      rw [readings_of_finished finished, List.take_nil, List.drop_nil]
      cases count with
      | zero => exact ⟨rfl, readings_of_finished finished⟩
      | succ count =>
          rw [take_succ_of_none (advance_of_nil finished)]
          exact ⟨rfl, readings_of_finished finished⟩
  | step scanner piece found inductionHypothesis =>
      cases count with
      | zero => exact ⟨rfl, rfl⟩
      | succ count =>
          rw [take_succ_of_some (advance_of_first? found),
            readings_of_first? found, List.take_succ_cons,
            List.drop_succ_cons]
          exact inductionHypothesis count

theorem windowEnd_take (scanner : Scanner) (count : Nat) :
    (scanner.take count).2.windowEnd = scanner.windowEnd := by
  induction scanner using window_induction generalizing count with
  | finished scanner finished =>
      cases count with
      | zero => rfl
      | succ count =>
          rw [take_succ_of_none (advance_of_nil finished)]
          rfl
  | step scanner piece found inductionHypothesis =>
      cases count with
      | zero => rfl
      | succ count =>
          rw [take_succ_of_some (advance_of_first? found)]
          exact (inductionHypothesis count).trans (windowEnd_behind found)

/-- Taking the first part of a window leaves the state and tokens behind it. -/
theorem take_of_readings_eq_append {scanner : Scanner}
    {front back : List Reading} {count : Nat}
    (split : scanner.readings = front ++ back)
    (length : front.length = count) :
    (scanner.take count).1.map Step.reading = front ∧
      (scanner.take count).2.state = stateBehind scanner.state front ∧
      (scanner.take count).2.drain.1.map Step.reading = back := by
  have taken : scanner.readings.take count = front := by
    rw [split, ← length, List.take_left]
  have left : scanner.readings.drop count = back := by
    rw [split, ← length, List.drop_left]
  rcases scanner.take_behind count with ⟨state, later⟩
  rw [taken] at state
  rw [take_readings, drain_readings, later]
  exact ⟨taken, state, left⟩

end Scanner

end CommentScan
