import CommentScan.Proofs.Comment.Tree
import CommentScan.Proofs.Session.Confinement

/-!
# Two ways into a comment

A scanner comes into a comment by reading its opener, or by being placed
there.  Both ways lead to the same place: whatever text follows, merged or
not, it is read alike, with all offsets larger by the size of the opener.

The opener is read if nothing extends it.  A block comment whose text begins
with a star, or a doc comment whose text begins with a slash, would have
another marker in front, and `CommentKind.first?_of_follower` says that it is
read instead.  `Scanner.drain_opener_append` puts both together.
-/

namespace CommentScan

/-! ## Shifted readings -/

/-- What is seen of a token further behind by some bytes. -/
def Reading.shift (offset : Nat) (reading : Reading) : Reading :=
  ⟨reading.token.shift offset, reading.text, reading.state.shift offset⟩

theorem Piece.readingAt_add (piece : Piece) (position offset : Nat) :
    piece.readingAt (position + offset) =
      (piece.readingAt position).shift offset := by
  simp only [readingAt, Reading.shift, Token.shift, ScanState.shift,
    Nat.add_right_comm]

theorem readingsAt_add (position offset : Nat) (list : List Piece) :
    readingsAt (position + offset) list =
      (readingsAt position list).map (Reading.shift offset) := by
  induction list generalizing position with
  | nil => rfl
  | cons piece rest inductionHypothesis =>
      rw [readingsAt, readingsAt, List.map_cons, Piece.readingAt_add,
        Nat.add_right_comm, inductionHypothesis]

namespace Scanner

/-- A relocated scanner has the same to read, further behind. -/
theorem readings_relocate (scanner : Scanner) (buffer : Text)
    (offset : Nat) :
    (scanner.relocate buffer offset).readings =
      scanner.readings.map (Reading.shift offset) := by
  rw [readings, scan, readings, scan, ← readingsAt_add]
  show readingsAt (scanner.relocate buffer offset).position _ = _
  rw [position_relocate]
  rfl

theorem SamePlace.readings_eq {left right : Scanner}
    (same : SamePlace left right) : left.readings = right.readings := by
  rw [readings, readings, same.granularity, same.state, same.unread]

end Scanner

/-! ## Openers -/

theorem Piece.first?_emptyComment (granularity : Granularity) (rest : Text) :
    first? granularity .initial ('/' :: '*' :: '*' :: '/' :: rest) =
      some ⟨.emptyComment, ['/', '*', '*', '/'], .initial⟩ := by
  have found :
      Lexeme.longest? Nesting.initial.mode
          ('/' :: '*' :: '*' :: '/' :: rest) =
        some ⟨.emptyComment, 4⟩ := rfl
  exact first?_of_not_mergeable found rfl granularity

namespace CommentKind

/-- The token of an opener at the start of a text. -/
def openerToken (kind : CommentKind) : Token :=
  ⟨kind.tokenKind, ⟨0, Text.byteLength kind.opener⟩⟩

/-- An opener at the start of a text, and the state behind it. -/
def openerReading (kind : CommentKind) : Reading :=
  ⟨kind.openerToken, kind.opener,
    .insideComment (Text.byteLength kind.opener) 1 kind⟩

/-- Where a longer marker begins, it is read in the place of the opener. -/
theorem first?_of_follower (kind : CommentKind) (granularity : Granularity)
    {rest : Text} (follows : kind.follower ∈ rest.head?) :
    ∃ piece,
      Piece.first? granularity .initial (kind.opener ++ rest) =
          some piece ∧
        (piece.readingAt 0).token ≠ kind.openerToken := by
  rcases List.head?_eq_some_iff.mp follows with ⟨more, rfl⟩
  cases kind with
  | doc =>
      exact ⟨_, Piece.first?_emptyComment granularity more, by decide⟩
  | block =>
      by_cases slash : '/' ∈ more.head?
      · rcases List.head?_eq_some_iff.mp slash with ⟨behind, rfl⟩
        exact ⟨_, Piece.first?_emptyComment granularity behind, by decide⟩
      · have closed : Nesting.initial.depth = 0 := rfl
        have found := doc.first?_opener_append granularity closed slash
        exact ⟨_, found, by decide⟩

end CommentKind

namespace Scanner

/-- The first token of an opener and a text is their first piece. -/
theorem advance_of_first?_opener {kind : CommentKind}
    {granularity : Granularity} {text : Text} {piece : Piece}
    (small : Text.byteLength (kind.opener ++ text) ≤ wordLimit)
    (found :
      Piece.first? granularity .initial (kind.opener ++ text) = some piece) :
    (ofText (kind.opener ++ text) granularity).advance =
      (some (piece.readingAt 0).token,
        (ofText (kind.opener ++ text) granularity).behind piece) := by
  have unread := unread_ofText small granularity
  rw [← unread] at found
  exact @advance_of_first? (ofText (kind.opener ++ text) granularity) _ found

/-- An opener that nothing extends is the first token of its text. -/
theorem advance_opener_append (kind : CommentKind)
    (granularity : Granularity) {text : Text}
    (small : Text.byteLength (kind.opener ++ text) ≤ wordLimit)
    (clear : kind.follower ∉ text.head?) :
    (ofText (kind.opener ++ text) granularity).advance =
      (some kind.openerToken,
        { ofText (kind.opener ++ text) granularity with
          nesting := .opened kind
          tokenText := kind.opener
          unread := text }) := by
  have closed : Nesting.initial.depth = 0 := rfl
  have found := kind.first?_opener_append granularity closed clear
  rw [advance_of_first?_opener small found, behind, unread_ofText small]
  cases kind <;> rfl

/-- Behind its opener a scanner is where one that is placed there is. -/
theorem samePlace_behind_opener {kind : CommentKind}
    {granularity : Granularity} {text : Text} {placed : Scanner}
    (small : Text.byteLength (kind.opener ++ text) ≤ wordLimit)
    (clear : kind.follower ∉ text.head?)
    (options : placed.granularity = granularity)
    (state : placed.state = .insideComment 0 1 kind)
    (unread : placed.unread = text) :
    (ofText (kind.opener ++ text) granularity).advance.2.SamePlace
      (placed.relocate (kind.opener ++ text)
        (Text.byteLength kind.opener)) := by
  have position : placed.position = 0 := congrArg ScanState.position state
  have nesting : placed.nesting = .opened kind :=
    congrArg ScanState.nesting state
  rw [advance_opener_append kind granularity small clear]
  constructor
  case granularity => exact options.symm
  case state =>
    show
      ScanState.mk (0 + Text.byteLength kind.opener) (.opened kind) =
        ⟨(placed.relocate _ _).position, placed.nesting⟩
    rw [position_relocate, position, nesting]
  case unread => exact unread.symm

theorem exists_advance_opener_iff (kind : CommentKind)
    (granularity : Granularity) {text : Text}
    (small : Text.byteLength (kind.opener ++ text) ≤ wordLimit) :
    (∃ after,
        (ofText (kind.opener ++ text) granularity).tryAdvance =
          .ok (some kind.openerToken, after)) ↔
      kind.follower ∉ text.head? := by
  constructor
  · rintro ⟨after, advanced⟩ follows
    rcases kind.first?_of_follower granularity follows with
      ⟨piece, found, other⟩
    rw [tryAdvance_eq, advance_of_first?_opener small found] at advanced
    injection advanced with outcome
    exact other (Option.some.inj (congrArg Prod.fst outcome))
  · intro clear
    exact
      ⟨_, by
        rw [tryAdvance_eq, advance_opener_append kind granularity small clear]⟩

/--
The opener of a comment is the first token in front of a text, and what a
scanner placed in the text reads follows, token by token with the same depth
and sort of comment behind it, all offsets larger by the size of the opener.
-/
def ReadsBehindOpener (kind : CommentKind) (granularity : Granularity)
    (text : Text) (placed : Scanner) : Prop :=
  (ofText (kind.opener ++ text) granularity).drain.1.map Step.reading =
    kind.openerReading ::
      (placed.drain.1.map Step.reading).map
        (Reading.shift (Text.byteLength kind.opener))

/--
Reading the opener of a comment is as good as being placed behind it, as long
as offsets reach the end of the text behind it.  A scanner is placed in a block
comment by the mode or by the state, and in a doc comment by the state.  If
nothing extends the opener, it is the first token, and behind it a scanner of
the whole text is where the placed one is, so that it reads the same tokens.
Otherwise the first token is another one.
-/
theorem drain_opener_append (scanner : Scanner) (text : Text) :
    scanner.reset text 0 (Text.byteLength text) .inside =
        scanner.resume text (Text.byteLength text)
          (.insideComment 0 1 .block) ∧
      ∀ kind : CommentKind,
        Text.byteLength (kind.opener ++ text) ≤ wordLimit →
          ∃ placed,
            scanner.resume text (Text.byteLength text)
                  (.insideComment 0 1 kind) =
                .ok placed ∧
              (kind.follower ∉ text.head? →
                (ofText (kind.opener ++ text)
                      scanner.granularity).advance.2.SamePlace
                    (placed.relocate (kind.opener ++ text)
                      (Text.byteLength kind.opener)) ∧
                  ReadsBehindOpener kind scanner.granularity text placed) ∧
              ((∃ after,
                  (ofText (kind.opener ++ text)
                      scanner.granularity).tryAdvance =
                    .ok (some kind.openerToken, after)) ↔
                kind.follower ∉ text.head?) := by
  refine
    ⟨scanner.reset_eq_resume text 0 (Text.byteLength text) .inside, ?_⟩
  intro kind small
  rcases @exists_resume scanner text text (.insideComment 0 1 kind) _
      (Text.slice?_whole text) with
    ⟨placed, resumed, granularity, state, unread⟩
  have iff := exists_advance_opener_iff kind scanner.granularity small
  refine ⟨placed, resumed, ?_, iff⟩
  intro clear
  have advanced :=
    advance_opener_append kind scanner.granularity small clear
  have same := samePlace_behind_opener small clear granularity state unread
  have later := same.readings_eq
  refine ⟨same, ?_⟩
  rw [advanced] at later
  rw [ReadsBehindOpener, drain_of_some advanced, List.map_cons,
    drain_readings, later, readings_relocate, drain_readings]
  cases kind <;> rfl

/-- A doc comment, and an empty comment that begins like one. -/
theorem drain_opener_append_doc :
    (∃ placed,
        (ofText [] .merged).resume ['é', '*', '/'] 4 ⟨0, ⟨1, .doc⟩⟩ =
            .ok placed ∧
          (ofText ['/', '*', '*', 'é', '*', '/'] .merged).drain.1.map
                Step.reading =
            ⟨⟨.docComment, ⟨0, 3⟩⟩, ['/', '*', '*'], ⟨3, ⟨1, .doc⟩⟩⟩ ::
              (placed.drain.1.map Step.reading).map (Reading.shift 3)) ∧
      ¬ ∃ after,
          (ofText ['/', '*', '*', '/'] .merged).tryAdvance =
            .ok (some ⟨.docComment, ⟨0, 3⟩⟩, after) := by
  constructor
  · rcases
      (drain_opener_append (ofText [] .merged) ['é', '*', '/']).2 .doc
        (by decide) with
      ⟨placed, resumed, clear, -⟩
    have notSlash : CommentKind.doc.follower ∉ some 'é' := by decide
    exact ⟨placed, resumed, (clear notSlash).2⟩
  · rcases
      (drain_opener_append (ofText [] .merged) ['/']).2 .doc (by decide) with
      ⟨-, -, -, first⟩
    intro isFirst
    exact first.mp isFirst rfl

/--
Where offsets do not reach the end behind the opener, what the placed scanner
reads does not follow: the last of its tokens would end too far.
-/
theorem ReadsBehindOpener.byteLength_le {kind : CommentKind}
    {granularity : Granularity} {text : Text} {placed : Scanner}
    (reads : ReadsBehindOpener kind granularity text placed)
    (starts : placed.position = 0)
    (ends : placed.windowEnd = Text.byteLength text) :
    Text.byteLength (kind.opener ++ text) ≤ wordLimit := by
  have tiles := (ofText (kind.opener ++ text) granularity).tiles_drain
  have shifted := placed.tiles_drain.shift (Text.byteLength kind.opener)
  have within := (window_ofText (kind.opener ++ text) granularity).2
  have tokens := congrArg (List.map Reading.token) reads
  rw [List.map_map, List.map_cons, List.map_map, List.map_map] at tokens
  change
    List.map Step.token _ =
      kind.openerToken ::
        List.map (Token.shift (Text.byteLength kind.opener) ∘ Step.token) _
    at tokens
  rw [tokens, ← List.map_map] at tiles
  rw [starts, ends, Nat.zero_add] at shifted
  rw [Text.byteLength_append, Nat.add_comm,
    ← tiles.2.2.stop_unique shifted]
  exact within

/-- A line comment behind a block comment, one byte too long with the opener. -/
theorem not_readsBehindOpener_tooLong :
    let text : Text :=
      ['a', '*', '/', '/', '/'] ++ List.replicate 4294967289 'a'
    CommentKind.block.follower ∉ text.head? ∧
      Text.byteLength text = 4294967294 ∧
        ∃ placed,
          (ofText [] .merged).reset text 0 (Text.byteLength text) .inside =
              .ok placed ∧
            ¬ ReadsBehindOpener .block .merged text placed := by
  intro text
  have bytes (count : Nat) :
      Text.byteLength
          (['a', '*', '/', '/', '/'] ++ List.replicate count 'a') =
        5 + count :=
    Text.byteLength_append_replicate _ count rfl
  have size : Text.byteLength text = 4294967294 := bytes 4294967289
  rcases @exists_resume (ofText [] .merged) text text
      (.insideComment 0 1 .block) _ (Text.slice?_whole text) with
    ⟨placed, resumed, -, state, unread⟩
  have starts : placed.position = 0 := congrArg ScanState.position state
  have ends : placed.windowEnd = Text.byteLength text := by
    rw [windowEnd, starts, unread, Nat.zero_add]
  have clear : CommentKind.block.follower ∉ some 'a' := by decide
  refine ⟨clear, size, placed, ?_, ?_⟩
  · exact (reset_eq_resume _ text 0 _ .inside).trans resumed
  · intro reads
    have whole := reads.byteLength_le starts ends
    rw [Text.byteLength_append, size] at whole
    exact absurd whole (by decide)

end Scanner

end CommentScan
