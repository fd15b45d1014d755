import CommentScan.Proofs.Scanner.Runs
import Mathlib.Data.List.SplitBy

/-!
# The two granularities

Merging does not change how a text is read, only how much of it makes one
token.  Two tokens side by side belong together if both are plain content or
both are text inside a comment that is not a marker.  The merged tokens are
the lexemes grouped by this relation, each maximal group joined into one
token.

`scan_merged` proves the grouping by following the merged scan: its first
piece is a run of lexemes, the run is one group, and the lexeme behind it
starts another.  `drain_coarsens` draws the conclusions for the scanner.
-/

namespace CommentScan

namespace Reading

/-- Whether a token is plain content. -/
def isPlain (reading : Reading) : Bool :=
  reading.token.kind = .plainContent

/-- Whether a token belongs to a comment of a sort that nests. -/
def isNested (reading : Reading) : Bool :=
  reading.token.kind = .blockComment || reading.token.kind = .docComment

/-- Whether a token is text inside a comment: in one, and not a marker. -/
def isBody (reading : Reading) : Bool :=
  (reading.token.kind = .blockComment || reading.token.kind = .docComment) &&
    reading.text ∉ Text.markers

/-- Whether two tokens side by side belong to one run. -/
def joins (left right : Reading) : Bool :=
  left.isPlain && right.isPlain || left.isBody && right.isBody

/-- One token in the place of two side by side. -/
def join (left right : Reading) : Reading where
  token := ⟨left.token.kind, ⟨left.token.span.start, right.token.span.stop⟩⟩
  text := left.text ++ right.text
  state := right.state

/-- One token in the place of several side by side. -/
def joined? : List Reading → Option Reading
  | [] => none
  | first :: rest => some (rest.foldl join first)

/-- The kind of every byte of a token. -/
def byteKinds (reading : Reading) : List TokenKind :=
  List.replicate reading.token.span.length reading.token.kind

end Reading

namespace Piece

theorem isPlain_readingAt (piece : Piece) (position : Nat) :
    (piece.readingAt position).isPlain = true ↔ piece.role = .plain := by
  rw [Reading.isPlain, decide_eq_true_eq]
  change piece.role.tokenKind piece.nesting = _ ↔ _
  cases piece.role with
  | plain => simp [Role.tokenKind]
  | lineComment | emptyComment => simp [Role.tokenKind]
  | opener kind =>
      cases kind <;> simp [Role.tokenKind, CommentKind.tokenKind]
  | nestedOpener | closer | commentBody =>
      cases kind : piece.nesting.kind <;>
        simp [Role.tokenKind, CommentKind.tokenKind, kind]

theorem isNested_readingAt (piece : Piece) (position : Nat) :
    (piece.readingAt position).isNested = true ↔
      piece.role ≠ .plain ∧ piece.role ≠ .lineComment := by
  rw [Reading.isNested, Bool.or_eq_true, decide_eq_true_eq,
    decide_eq_true_eq]
  show
    piece.role.tokenKind piece.nesting = _ ∨
        piece.role.tokenKind piece.nesting = _ ↔
      _
  cases piece.role with
  | plain | lineComment | emptyComment => simp [Role.tokenKind]
  | opener kind =>
      cases kind <;> simp [Role.tokenKind, CommentKind.tokenKind]
  | nestedOpener | closer | commentBody =>
      cases kind : piece.nesting.kind <;>
        simp [Role.tokenKind, CommentKind.tokenKind, kind]

theorem isBody_readingAt {piece : Piece} (shaped : piece.IsShaped)
    (position : Nat) :
    (piece.readingAt position).isBody = true ↔
      piece.role = .commentBody := by
  have nested := isNested_readingAt piece position
  show (_ && decide (piece.text ∉ Text.markers)) = true ↔ _
  rw [Bool.and_eq_true, decide_eq_true_eq]
  constructor
  · rintro ⟨isNested, unmarked⟩
    rcases nested.mp isNested with ⟨notPlain, notLine⟩
    rcases Role.eq_commentBody_or_marker notPlain notLine with
      body | ⟨marker, marked⟩
    · exact body
    · rw [shaped.marker marker marked] at unmarked
      exact absurd (Role.mem_markers marked) unmarked
  · intro body
    refine ⟨nested.mpr ?_, shaped.body body⟩
    rw [body]
    decide

/-- Tokens belong together exactly if they share a mergeable role. -/
theorem joins_readingAt {left right : Piece} (leftShaped : left.IsShaped)
    (rightShaped : right.IsShaped) (leftStart rightStart : Nat) :
    (left.readingAt leftStart).joins (right.readingAt rightStart) = true ↔
      left.role.isMergeable ∧ right.role = left.role := by
  rw [Reading.joins, Bool.or_eq_true, Bool.and_eq_true, Bool.and_eq_true,
    isPlain_readingAt, isPlain_readingAt, isBody_readingAt leftShaped,
    isBody_readingAt rightShaped]
  constructor
  · rintro (⟨leftRole, rightRole⟩ | ⟨leftRole, rightRole⟩)
    · rw [leftRole, rightRole]
      exact ⟨rfl, rfl⟩
    · rw [leftRole, rightRole]
      exact ⟨rfl, rfl⟩
  · rintro ⟨mergeable, same⟩
    rw [same]
    cases role : left.role with
    | plain => exact Or.inl ⟨rfl, rfl⟩
    | commentBody => exact Or.inr ⟨rfl, rfl⟩
    | _ =>
        rw [role] at mergeable
        cases mergeable

/-! ## The tokens of a run -/

variable {role : Role} {nesting : Nesting} {run : List Piece}

theorem join_readingAt {piece : Piece} (same : piece.nesting = nesting)
    (text : Text) (position : Nat) :
    Reading.join (readingAt position ⟨role, text, nesting⟩)
        (piece.readingAt (position + Text.byteLength text)) =
      readingAt position ⟨role, text ++ piece.text, nesting⟩ := by
  have bytes := Text.byteLength_append text piece.text
  simp only [Reading.join, readingAt, Piece.kind, same, bytes,
    Nat.add_assoc]

theorem IsRun.foldl_join (isRun : IsRun role nesting run) (text : Text)
    (position : Nat) :
    (readingsAt (position + Text.byteLength text) run).foldl Reading.join
        (readingAt position ⟨role, text, nesting⟩) =
      readingAt position
        ⟨role, text ++ run.flatMap Piece.text, nesting⟩ := by
  induction run generalizing text with
  | nil =>
      rw [List.flatMap_nil, List.append_nil]
      rfl
  | cons piece more inductionHypothesis =>
      rcases List.forall_mem_cons.mp isRun with ⟨⟨-, same, -⟩, moreRun⟩
      have joined := inductionHypothesis moreRun (text ++ piece.text)
      rw [Text.byteLength_append, ← Nat.add_assoc] at joined
      rw [readingsAt, List.foldl_cons, join_readingAt same, joined,
        List.flatMap_cons, List.append_assoc]

/-- Joining the tokens of a run gives the token of the whole run. -/
theorem IsRun.joined? {first : Piece}
    (isRun : IsRun role nesting (first :: run)) (position : Nat) :
    Reading.joined? (readingsAt position (first :: run)) =
      some
        (readingAt position
          ⟨role, (first :: run).flatMap Piece.text, nesting⟩) := by
  rcases first with ⟨firstRole, text, firstNesting⟩
  rcases List.forall_mem_cons.mp isRun with ⟨⟨rfl, rfl, -⟩, moreRun⟩
  have tail : IsRun firstRole firstNesting run := moreRun
  rw [readingsAt, Reading.joined?, List.flatMap_cons]
  exact congrArg some (tail.foldl_join text position)

/-- The tokens of a run of a mergeable role belong together. -/
theorem IsRun.isChain_joins (isRun : IsRun role nesting run)
    (mergeable : role.isMergeable) (position : Nat) :
    (readingsAt position run).IsChain
      (fun left right => left.joins right = true) := by
  apply List.Pairwise.isChain
  apply List.pairwise_of_forall_mem_list
  intro left leftMember right rightMember
  rcases mem_readingsAt leftMember with ⟨leftPiece, leftIn, start, rfl⟩
  rcases mem_readingsAt rightMember with ⟨rightPiece, rightIn, stop, rfl⟩
  rcases isRun leftPiece leftIn with ⟨leftRole, -, leftShaped⟩
  rcases isRun rightPiece rightIn with ⟨rightRole, -, rightShaped⟩
  rw [joins_readingAt leftShaped rightShaped, leftRole, rightRole]
  exact ⟨mergeable, rfl⟩

theorem IsRun.flatMap_byteKinds (isRun : IsRun role nesting run)
    (position : Nat) :
    (readingsAt position run).flatMap Reading.byteKinds =
      List.replicate (Text.byteLength (run.flatMap Piece.text))
        (role.tokenKind nesting) := by
  induction run generalizing position with
  | nil => rfl
  | cons piece more inductionHypothesis =>
      rcases List.forall_mem_cons.mp isRun with ⟨⟨rfl, rfl, -⟩, moreRun⟩
      rw [readingsAt, List.flatMap_cons, List.flatMap_cons,
        inductionHypothesis moreRun, Text.byteLength_append,
        List.replicate_add]
      apply congrArg (· ++ _)
      exact
        congrArg (List.replicate · piece.kind)
          (Nat.add_sub_cancel_left position _)

theorem IsRun.stateBehind (isRun : IsRun role nesting run)
    (position : Nat) :
    CommentScan.stateBehind ⟨position, nesting⟩ (readingsAt position run) =
      ⟨position + Text.byteLength (run.flatMap Piece.text), nesting⟩ := by
  induction run generalizing position with
  | nil => rfl
  | cons piece more inductionHypothesis =>
      rcases List.forall_mem_cons.mp isRun with ⟨⟨-, same, -⟩, moreRun⟩
      rw [readingsAt, CommentScan.stateBehind, List.flatMap_cons,
        Text.byteLength_append, ← Nat.add_assoc,
        ← inductionHypothesis moreRun, readingAt, same]

end Piece

/-! ## The merged scan and the scan of lexemes -/

namespace Piece.Merges

variable {state : ScanState} {piece first : Piece} {rest : Text}
  {more : List Piece}

/-- The tokens of a piece read as lexemes, and the lexemes behind it. -/
theorem scan_lexemes
    (merges : piece.Merges state.nesting rest first more) :
    scan .lexemes state (piece.text ++ rest) =
      readingsAt state.position (first :: more) ++
        scan .lexemes (piece.readingAt state.position).state rest := by
  rw [scan, merges.lexemes, readingsAt_append, merges.texts]
  rfl

theorem joined? (merges : piece.Merges state.nesting rest first more)
    (position : Nat) :
    Reading.joined? (readingsAt position (first :: more)) =
      some (piece.readingAt position) := by
  rw [merges.isRun.joined?, merges.texts]

theorem isChain_joins (merges : piece.Merges state.nesting rest first more)
    (position : Nat) :
    (readingsAt position (first :: more)).IsChain
      (fun left right => left.joins right = true) := by
  cases mergeable : piece.role.isMergeable with
  | true => exact merges.isRun.isChain_joins mergeable position
  | false =>
      rw [merges.single mergeable]
      exact List.isChain_singleton _

/-- No token of the piece belongs together with the token behind it. -/
theorem not_joins (merges : piece.Merges state.nesting rest first more)
    (shaped : piece.IsShaped) (granularity : Granularity) :
    ∀ left ∈ piece :: first :: more, ∀ start,
      ∀ right ∈
        (scan granularity (piece.readingAt state.position).state
          rest).head?,
      (left.readingAt start).joins right = false := by
  intro left listed start right next
  rw [head?_scan] at next
  rcases Option.map_eq_some_iff.mp next with ⟨nextPiece, found, rfl⟩
  rcases Option.map_eq_some_iff.mp found with ⟨lexeme, longest, role⟩
  have nextRole : nextPiece.role = lexeme.role := by rw [← role]; rfl
  have leftShape : left.role = piece.role ∧ left.IsShaped := by
    rcases List.mem_cons.mp listed with rfl | member
    · exact ⟨rfl, shaped⟩
    · rcases merges.isRun left member with ⟨same, -, leftShaped⟩
      exact ⟨same, leftShaped⟩
  rw [← Bool.not_eq_true,
    Piece.joins_readingAt leftShape.2 (Piece.isShaped_of_first? found),
    leftShape.1, nextRole]
  rintro ⟨mergeable, same⟩
  exact merges.maximal mergeable lexeme longest same

/--
The tokens of the piece are a group of their own in front of any others that
begin as the scan behind the piece does.
-/
theorem map_joined?_splitBy_append
    (merges : piece.Merges state.nesting rest first more)
    (shaped : piece.IsShaped) {later : List Reading}
    (begins :
      later.head? =
        (scan .lexemes (piece.readingAt state.position).state rest).head?) :
    ((readingsAt state.position (first :: more) ++ later).splitBy
          Reading.joins).map Reading.joined? =
      some (piece.readingAt state.position) ::
        (later.splitBy Reading.joins).map Reading.joined? := by
  have apart :
      ∀ left ∈ (readingsAt state.position (first :: more)).getLast?,
        ∀ right ∈ later.head?, left.joins right = false := by
    rw [begins]
    intro left last
    rcases mem_readingsAt (List.mem_of_getLast? last) with
      ⟨leftPiece, listed, start, rfl⟩
    exact
      merges.not_joins shaped .lexemes leftPiece
        (List.mem_cons_of_mem piece listed) start
  have nonemptyRun : readingsAt state.position (first :: more) ≠ [] :=
    List.cons_ne_nil _ _
  rw [List.splitBy_append apart,
    List.splitBy_of_isChain nonemptyRun
      (merges.isChain_joins state.position),
    List.map_append, List.map_cons, merges.joined?, List.map_nil,
    List.singleton_append]

end Piece.Merges

/-- The merged tokens are the maximal runs of lexemes. -/
theorem scan_merged (state : ScanState) (text : Text) :
    (scan .merged state text).map some =
      ((scan .lexemes state text).splitBy Reading.joins).map
        Reading.joined? := by
  induction state, text using scan_induction .merged with
  | nil state => simp
  | step state piece rest found nonempty inductionHypothesis =>
      rcases Piece.exists_merges found with ⟨first, more, merges⟩
      have shaped := Piece.isShaped_of_first? found
      rw [scan_of_first? found, merges.scan_lexemes,
        merges.map_joined?_splitBy_append shaped rfl, List.map_cons,
        inductionHypothesis]

/-- A run that is not cut short is one token of the merged scan. -/
theorem Piece.Merges.scan_merged_cons {state : ScanState}
    {piece first : Piece} {rest : Text} {more : List Piece}
    (merges : piece.Merges state.nesting rest first more)
    (shaped : piece.IsShaped) :
    scan .merged state (piece.text ++ rest) =
      piece.readingAt state.position ::
        scan .merged (piece.readingAt state.position).state rest := by
  apply (List.map_inj_right fun _ _ => Option.some.inj).mp
  rw [scan_merged, merges.scan_lexemes,
    merges.map_joined?_splitBy_append shaped rfl, List.map_cons,
    scan_merged]

/-- No two merged tokens side by side belong together. -/
theorem isChain_not_joins_scan (state : ScanState) (text : Text) :
    (scan .merged state text).IsChain
      (fun left right => left.joins right = false) := by
  induction state, text using scan_induction .merged with
  | nil state =>
      rw [scan_nil]
      exact List.isChain_nil
  | step state piece rest found nonempty inductionHypothesis =>
      rcases Piece.exists_merges found with ⟨first, more, merges⟩
      have shaped := Piece.isShaped_of_first? found
      rw [scan_of_first? found, List.isChain_cons]
      constructor
      · exact
          merges.not_joins shaped .merged piece List.mem_cons_self
            state.position
      · exact inductionHypothesis

theorem flatMap_byteKinds_scan (state : ScanState) (text : Text) :
    (scan .merged state text).flatMap Reading.byteKinds =
      (scan .lexemes state text).flatMap Reading.byteKinds := by
  induction state, text using scan_induction .merged with
  | nil state => rw [scan_nil, scan_nil]
  | step state piece rest found nonempty inductionHypothesis =>
      rcases Piece.exists_merges found with ⟨first, more, merges⟩
      rw [scan_of_first? found, merges.scan_lexemes, List.flatMap_cons,
        List.flatMap_append, inductionHypothesis,
        merges.isRun.flatMap_byteKinds, merges.texts]
      apply congrArg (· ++ _)
      exact
        congrArg (List.replicate · piece.kind)
          (Nat.add_sub_cancel_left state.position _)

/-- Both scans leave the same state behind them. -/
theorem stateBehind_scan_merged (state : ScanState) (text : Text) :
    stateBehind state (scan .merged state text) =
      stateBehind state (scan .lexemes state text) := by
  induction state, text using scan_induction .merged with
  | nil state => rw [scan_nil, scan_nil]
  | step state piece rest found nonempty inductionHypothesis =>
      rcases Piece.exists_merges found with ⟨first, more, merges⟩
      rw [scan_of_first? found, merges.scan_lexemes, stateBehind_append,
        stateBehind, inductionHypothesis]
      apply congrArg (stateBehind · _)
      have behind := merges.isRun.stateBehind state.position
      rw [merges.texts] at behind
      exact behind.symm

theorem length_of_isBody (state : ScanState) (text : Text) :
    ∀ reading ∈ scan .lexemes state text,
      reading.isBody → reading.text.length = 1 := by
  induction state, text using scan_induction .lexemes with
  | nil state => simp
  | step state piece rest found nonempty inductionHypothesis =>
      intro reading member body
      rw [scan_of_first? found] at member
      rcases List.mem_cons.mp member with rfl | later
      · rw [Piece.isBody_readingAt (Piece.isShaped_of_first? found)] at body
        rcases Option.map_eq_some_iff.mp found with ⟨lexeme, longest, same⟩
        have role : lexeme.role = .commentBody := by
          rw [← body, ← same]
          rfl
        have length := Piece.length_text_ofLexeme longest .lexemes
        rw [same] at length
        exact length.trans (Lexeme.length_of_commentBody longest role)
      · exact inductionHypothesis reading later body

namespace Reading

theorem state_foldl_join (first : Reading) (rest : List Reading) :
    (rest.foldl join first).state = stateBehind first.state rest := by
  induction rest generalizing first with
  | nil => rfl
  | cons second more inductionHypothesis =>
      exact inductionHypothesis (first.join second)

theorem text_foldl_join (first : Reading) (rest : List Reading) :
    (rest.foldl join first).text =
      (first :: rest).flatMap Reading.text := by
  induction rest generalizing first with
  | nil =>
      rw [List.flatMap_cons, List.flatMap_nil, List.append_nil]
      rfl
  | cons second more inductionHypothesis =>
      rw [List.foldl_cons, inductionHypothesis, List.flatMap_cons,
        List.flatMap_cons, List.flatMap_cons, ← List.append_assoc]
      rfl

/-- Joining tokens keeps their text and the state behind them. -/
theorem joined?_spec {group : List Reading} {reading : Reading}
    (joined : joined? group = some reading) (state : ScanState) :
    stateBehind state group = reading.state ∧
      group.flatMap Reading.text = reading.text ∧ group ≠ [] := by
  cases group with
  | nil => cases joined
  | cons first rest =>
      cases joined
      exact ⟨(state_foldl_join first rest).symm,
        (text_foldl_join first rest).symm, List.cons_ne_nil _ _⟩

end Reading

/-- The state behind a merged token is one behind a lexeme. -/
theorem exists_lexeme_state {state : ScanState} {text : Text} :
    ∀ reading ∈ scan .merged state text,
      ∃ lexeme ∈ scan .lexemes state text,
        lexeme.state = reading.state := by
  intro reading member
  have listed : some reading ∈ (scan .merged state text).map some :=
    List.mem_map.mpr ⟨reading, member, rfl⟩
  rw [scan_merged] at listed
  rcases List.mem_map.mp listed with ⟨group, isGroup, joined⟩
  rcases Reading.joined?_spec joined reading.state with
    ⟨behind, -, nonempty⟩
  have inScan : ∀ lexeme ∈ group, lexeme ∈ scan .lexemes state text := by
    intro lexeme inGroup
    rw [← List.flatten_splitBy Reading.joins (scan .lexemes state text)]
    exact List.mem_flatten.mpr ⟨group, isGroup, inGroup⟩
  rcases List.exists_cons_of_ne_nil nonempty with ⟨first, rest, rfl⟩
  rcases stateBehind_eq_or_mem first.state rest with
    same | ⟨last, inRest, same⟩
  · exact ⟨first, inScan first List.mem_cons_self, same.symm.trans behind⟩
  · exact
      ⟨last, inScan last (List.mem_cons_of_mem first inRest),
        same.trans behind⟩

/-! ## Scanners of either granularity -/

/--
What merging does to the lexemes of a window.  The merged tokens are the
maximal groups of lexemes that belong together, each joined into one token,
and text inside a comment is one character a lexeme.  So every byte keeps its
kind, a merged token ends where some lexeme ends, at any end that they share
the states are equal, and no two merged tokens side by side belong together.
-/
structure Coarsens (merged lexemes : List Reading) : Prop where
  grouped :
    merged.map some =
      (lexemes.splitBy Reading.joins).map Reading.joined?
  characters :
    ∀ lexeme ∈ lexemes, lexeme.isBody → lexeme.text.length = 1
  kinds :
    merged.flatMap Reading.byteKinds = lexemes.flatMap Reading.byteKinds
  boundaries :
    ∀ token ∈ merged, ∃ lexeme ∈ lexemes, lexeme.state = token.state
  shared :
    ∀ token ∈ merged, ∀ lexeme ∈ lexemes,
      token.state.position = lexeme.state.position →
        token.state = lexeme.state
  apart :
    merged.IsChain (fun left right => left.joins right = false)

theorem scan_coarsens (state : ScanState) (text : Text) :
    Coarsens (scan .merged state text) (scan .lexemes state text) where
  grouped := scan_merged state text
  characters := length_of_isBody state text
  kinds := flatMap_byteKinds_scan state text
  boundaries := exists_lexeme_state
  shared := by
    intro token tokenIn lexeme lexemeIn same
    rcases exists_lexeme_state token tokenIn with ⟨other, otherIn, state⟩
    rw [← state] at same
    rw [← state, eq_of_position_eq otherIn lexemeIn same]
  apart := isChain_not_joins_scan state text

namespace Scanner

/-- The scanner with a granularity, in the same place. -/
def withGranularity (scanner : Scanner) (granularity : Granularity) :
    Scanner :=
  { scanner with granularity := granularity }

/--
Reading a window merged and lexeme by lexeme.  The lexemes are the pieces of
what is unread, and two of them belong together exactly if they share a
mergeable role.  The merged tokens are the lexemes with the maximal runs
joined, and both scanners end in the same state.
-/
theorem drain_coarsens (scanner : Scanner) :
    (scanner.withGranularity .lexemes).drain.1.map Step.reading =
        readingsAt scanner.position
          (pieces .lexemes scanner.nesting scanner.unread) ∧
      (∀ left ∈ pieces .lexemes scanner.nesting scanner.unread,
        ∀ right ∈ pieces .lexemes scanner.nesting scanner.unread,
        ∀ leftStart rightStart,
          (left.readingAt leftStart).joins
                (right.readingAt rightStart) = true ↔
            left.role.isMergeable ∧ right.role = left.role) ∧
      Coarsens ((scanner.withGranularity .merged).drain.1.map Step.reading)
        ((scanner.withGranularity .lexemes).drain.1.map Step.reading) ∧
      (scanner.withGranularity .merged).drain.2.state =
        (scanner.withGranularity .lexemes).drain.2.state := by
  rw [drain_readings, drain_readings]
  refine ⟨rfl, ?_, scan_coarsens scanner.state scanner.unread, ?_⟩
  · intro left leftIn right rightIn leftStart rightStart
    exact
      Piece.joins_readingAt (Piece.isShaped_of_mem_pieces left leftIn)
        (Piece.isShaped_of_mem_pieces right rightIn) leftStart rightStart
  · rw [(drain_finished _).2.2, (drain_finished _).2.2]
    exact stateBehind_scan_merged scanner.state scanner.unread

end Scanner

end CommentScan
