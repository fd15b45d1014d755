import CommentScan.Proofs.Comment.Body
import CommentScan.Proofs.Scanner.Relocation

/-!
# Comments as trees

A comment is a tree: between its opener and its closer stand chunks of text
and nested comments.  Rendering writes the tree down, and a scanner reads it
back, one token for each opener, chunk and closer.

The delicate places are the joins.  A chunk must not begin or end with a
character of a marker, two chunks in a row would be read as one, and the opener
of a block comment must not be followed by a star, nor the one of a doc comment
by a slash.  The type `Comment` rules all of this out, so that
`Comment.take_render` holds of every comment in front of every text.
-/

namespace CommentScan

/-- Text inside a comment that is read as one token, whatever is around it. -/
structure Chunk where
  text : Text
  nonempty : text ≠ []
  unmarked : text.IsUnmarked
  begins : ∀ first ∈ text.head?, ¬ Text.IsMarkerCharacter first
  ends : ∀ last ∈ text.getLast?, ¬ Text.IsMarkerCharacter last

/-- What stands inside a comment: chunks and nested comments in a row. -/
inductive Body where
  | empty
  | chunk (first : Chunk) (rest : Body)
  | comment (inner rest : Body)

namespace Body

/-- Whether a chunk comes first. -/
def StartsWithChunk : Body → Prop
  | chunk _ _ => True
  | _ => False

/-- Whether no two chunks stand side by side, at any depth. -/
def Separated : Body → Prop
  | empty => True
  | chunk _ rest => ¬ rest.StartsWithChunk ∧ rest.Separated
  | comment inner rest => inner.Separated ∧ rest.Separated

/-- Whether a body may stand behind the opener of an outermost comment. -/
def Fits : CommentKind → Body → Prop
  | .block, body => body ≠ empty
  | .doc, body => body = empty ∨ body.StartsWithChunk

/-- A body written down. -/
def render : Body → Text
  | empty => []
  | chunk first rest => first.text ++ rest.render
  | comment inner rest =>
      ['/', '*'] ++ (inner.render ++ (['*', '/'] ++ rest.render))

/-- The openers, chunks and closers of a body, in order. -/
def texts : Body → List Text
  | empty => []
  | chunk first rest => first.text :: rest.texts
  | comment inner rest =>
      ['/', '*'] :: (inner.texts ++ ['*', '/'] :: rest.texts)

/-- The pieces of a body that stands inside some open comments. -/
def toPieces (nesting : Nesting) : Body → List Piece
  | empty => []
  | chunk first rest =>
      ⟨.commentBody, first.text, nesting⟩ :: rest.toPieces nesting
  | comment inner rest =>
      ⟨.nestedOpener, ['/', '*'], nesting.nest⟩ ::
        (inner.toPieces nesting.nest ++
          ⟨.closer, ['*', '/'], nesting⟩ :: rest.toPieces nesting)

end Body

namespace CommentKind

/-- The opener of an outermost comment. -/
def opener : CommentKind → Text
  | block => ['/', '*']
  | doc => ['/', '*', '*']

/-- The character behind an opener that would make it another marker. -/
def follower : CommentKind → Char
  | block => '*'
  | doc => '/'

end CommentKind

/-- An outermost comment that can be told from all text behind it. -/
structure Comment where
  kind : CommentKind
  body : Body
  separated : body.Separated
  fits : body.Fits kind

namespace Comment

/-- A comment written down. -/
def render (comment : Comment) : Text :=
  comment.kind.opener ++ (comment.body.render ++ ['*', '/'])

/-- The opener, chunks and closers of a comment, in order. -/
def texts (comment : Comment) : List Text :=
  comment.kind.opener :: (comment.body.texts ++ [['*', '/']])

/-- The pieces of a comment. -/
def toPieces (comment : Comment) : List Piece :=
  ⟨.opener comment.kind, comment.kind.opener, .opened comment.kind⟩ ::
    (comment.body.toPieces (.opened comment.kind) ++
      [⟨.closer, ['*', '/'], ⟨0, comment.kind⟩⟩])

end Comment

/-! ## Reading a body -/

/-- A chunk in front of a marker is one piece. -/
theorem Chunk.first?_append (chunk : Chunk) {nesting : Nesting}
    (inside : nesting.mode = .inside) {back : Text}
    (starts : back.StartsMarker) :
    Piece.first? .merged nesting (chunk.text ++ back) =
      some ⟨.commentBody, chunk.text, nesting⟩ := by
  have reached := Text.untilMarker_append chunk.unmarked chunk.ends starts
  have unmarked : ¬ (chunk.text ++ back).StartsMarker := by
    intro marked
    rw [Text.untilMarker_of_startsMarker marked] at reached
    exact chunk.nonempty reached.symm
  have nonempty : chunk.text ++ back ≠ [] :=
    List.append_ne_nil_of_left_ne_nil chunk.nonempty back
  rw [Piece.first?_untilMarker inside nonempty unmarked, reached]

namespace Body

/-- Behind a chunk a marker begins. -/
theorem startsMarker_render_append {body : Body}
    (noChunk : ¬ body.StartsWithChunk) {back : Text}
    (starts : back.StartsMarker) : (body.render ++ back).StartsMarker := by
  cases body with
  | empty => exact starts
  | chunk first rest => exact absurd trivial noChunk
  | comment inner rest => exact Or.inl ⟨_, rfl⟩

/-- The body of a comment is read item by item up to a marker behind it. -/
theorem pieces_render_append {body : Body} (separated : body.Separated)
    {nesting : Nesting} (inside : nesting.mode = .inside) {back : Text}
    (starts : back.StartsMarker) :
    pieces .merged nesting (body.render ++ back) =
      body.toPieces nesting ++ pieces .merged nesting back := by
  -- What stands behind each item begins with a marker: the closer around an
  -- inner body, the next comment or `back` behind a chunk.
  induction body generalizing nesting back with
  | empty => rfl
  | chunk first rest inductionHypothesis =>
      rcases separated with ⟨noChunk, restSeparated⟩
      have marker := startsMarker_render_append noChunk starts
      let piece : Piece := ⟨.commentBody, first.text, nesting⟩
      calc
        pieces .merged nesting ((chunk first rest).render ++ back) =
            pieces .merged nesting (piece.text ++ (rest.render ++ back)) := by
          rw [render, List.append_assoc]
        _ = piece :: pieces .merged nesting (rest.render ++ back) :=
          pieces_of_first? (first.first?_append inside marker)
        _ = (chunk first rest).toPieces nesting ++
              pieces .merged nesting back := by
          rw [inductionHypothesis restSeparated inside starts]
          rfl
  | comment inner rest innerHypothesis restHypothesis =>
      rcases separated with ⟨innerSeparated, restSeparated⟩
      have nested : nesting.nest.mode = .inside := rfl
      let opener : Piece := ⟨.nestedOpener, ['/', '*'], nesting.nest⟩
      let closer : Piece := ⟨.closer, ['*', '/'], nesting⟩
      let behindInner : Text := ['*', '/'] ++ (rest.render ++ back)
      have marker : behindInner.StartsMarker := Or.inr ⟨_, rfl⟩
      calc
        pieces .merged nesting ((comment inner rest).render ++ back) =
            pieces .merged nesting
              (opener.text ++ (inner.render ++ behindInner)) := by
          rw [render, List.append_assoc, List.append_assoc,
            List.append_assoc]
        _ = opener ::
              pieces .merged nesting.nest (inner.render ++ behindInner) :=
          pieces_of_first? (Piece.first?_nestedOpener inside .merged _)
        _ = opener ::
              (inner.toPieces nesting.nest ++
                pieces .merged nesting.nest
                  (closer.text ++ (rest.render ++ back))) := by
          rw [innerHypothesis innerSeparated nested marker]
        _ = opener ::
              (inner.toPieces nesting.nest ++
                closer :: pieces .merged nesting (rest.render ++ back)) := by
          rw [pieces_of_first? (Piece.first?_closer nested .merged _)]
        _ = (comment inner rest).toPieces nesting ++
              pieces .merged nesting back := by
          rw [restHypothesis restSeparated inside starts, toPieces,
            List.cons_append, List.append_assoc, List.cons_append]

theorem map_label_toPieces (body : Body) (nesting : Nesting) :
    (body.toPieces nesting).map Piece.label =
      body.texts.map (nesting.kind.tokenKind, ·) := by
  induction body generalizing nesting with
  | empty => rfl
  | chunk first rest inductionHypothesis =>
      exact congrArg (_ :: ·) (inductionHypothesis nesting)
  | comment inner rest innerHypothesis restHypothesis =>
      rw [toPieces, texts, List.map_cons, List.map_append, List.map_cons,
        innerHypothesis, restHypothesis, List.map_cons, List.map_append,
        List.map_cons]
      rfl

theorem flatten_texts (body : Body) : body.texts.flatten = body.render := by
  induction body with
  | empty => rfl
  | chunk first rest inductionHypothesis =>
      exact congrArg (first.text ++ ·) inductionHypothesis
  | comment inner rest innerHypothesis restHypothesis =>
      rw [texts, render, List.flatten_cons, List.flatten_append,
        List.flatten_cons, innerHypothesis, restHypothesis]

end Body

/-! ## Reading a comment -/

/-- An opener that nothing extends is one piece. -/
theorem CommentKind.first?_opener_append (kind : CommentKind)
    (granularity : Granularity) {nesting : Nesting}
    (closed : nesting.depth = 0) {rest : Text}
    (clear : kind.follower ∉ rest.head?) :
    Piece.first? granularity nesting (kind.opener ++ rest) =
      some ⟨.opener kind, kind.opener, .opened kind⟩ := by
  have outside := Nesting.mode_eq_outside_iff.mpr closed
  cases kind with
  | block =>
      have found := Lexeme.longest?_blockOpener clear
      rw [← outside] at found
      exact Piece.first?_of_not_mergeable found rfl granularity
  | doc =>
      have found := Lexeme.longest?_docOpener clear
      rw [← outside] at found
      exact Piece.first?_of_not_mergeable found rfl granularity

/-- A body that fits behind an opener does not extend it. -/
theorem Body.Fits.clear {kind : CommentKind} {body : Body}
    (fits : body.Fits kind) (back : Text) :
    kind.follower ∉ (body.render ++ (['*', '/'] ++ back)).head? := by
  cases body with
  | empty =>
      cases kind with
      | block => exact absurd rfl fits
      | doc => nofun
  | chunk first rest =>
      rcases List.exists_cons_of_ne_nil first.nonempty with
        ⟨character, more, whole⟩
      have plain := first.begins character (by rw [whole]; rfl)
      rw [Body.render, whole]
      intro same
      have follows : character = kind.follower := Option.some.inj same
      apply plain
      cases kind with
      | block => exact Or.inr follows
      | doc => exact Or.inl follows
  | comment inner rest =>
      cases kind with
      | block => nofun
      | doc => rcases fits with impossible | impossible <;> cases impossible

namespace Comment

theorem pieces_render_append (comment : Comment) {nesting : Nesting}
    (closed : nesting.depth = 0) (back : Text) :
    pieces .merged nesting (comment.render ++ back) =
      comment.toPieces ++ pieces .merged ⟨0, comment.kind⟩ back := by
  rcases comment with ⟨kind, body, separated, fits⟩
  let opener : Piece := ⟨.opener kind, kind.opener, .opened kind⟩
  let closer : Piece := ⟨.closer, ['*', '/'], ⟨0, kind⟩⟩
  have opened : (Nesting.opened kind).mode = .inside := rfl
  have marker : Text.StartsMarker (['*', '/'] ++ back) := Or.inr ⟨_, rfl⟩
  calc
    pieces .merged nesting
          (kind.opener ++ (body.render ++ ['*', '/']) ++ back) =
        pieces .merged nesting
          (opener.text ++ (body.render ++ (['*', '/'] ++ back))) := by
      rw [List.append_assoc, List.append_assoc]
    _ = opener ::
          pieces .merged (.opened kind)
            (body.render ++ (closer.text ++ back)) :=
      pieces_of_first?
        (kind.first?_opener_append .merged closed (fits.clear back))
    _ = opener ::
          (body.toPieces (.opened kind) ++
            pieces .merged (.opened kind) (closer.text ++ back)) := by
      rw [body.pieces_render_append separated opened marker]
    _ = opener ::
          (body.toPieces (.opened kind) ++
            closer :: pieces .merged ⟨0, kind⟩ back) := by
      rw [pieces_of_first? (Piece.first?_closer opened .merged back)]
    _ = toPieces ⟨kind, body, separated, fits⟩ ++
          pieces .merged ⟨0, kind⟩ back := by
      rw [toPieces, List.cons_append, List.append_assoc]
      rfl

theorem map_label_toPieces (comment : Comment) :
    comment.toPieces.map Piece.label =
      comment.texts.map (comment.kind.tokenKind, ·) := by
  have body := comment.body.map_label_toPieces (.opened comment.kind)
  rw [toPieces, texts, List.map_cons, List.map_cons, List.map_append,
    List.map_append, body]
  rfl

theorem map_text_toPieces (comment : Comment) :
    comment.toPieces.map Piece.text = comment.texts := by
  have labels := congrArg (List.map Prod.snd) comment.map_label_toPieces
  rw [List.map_map, List.map_map] at labels
  exact labels.trans (List.map_id _)

theorem flatMap_text_toPieces (comment : Comment) :
    comment.toPieces.flatMap Piece.text = comment.render := by
  rw [List.flatMap_def, map_text_toPieces, texts, render,
    List.flatten_cons, List.flatten_append, comment.body.flatten_texts]
  rfl

/-- A comment in front of a text is read first, then the text. -/
theorem scan_render_append (comment : Comment) (back : Text) :
    scan .merged .start (comment.render ++ back) =
      readingsAt 0 comment.toPieces ++
        scan .merged
          ⟨Text.byteLength comment.render, ⟨0, comment.kind⟩⟩ back := by
  have closed : ScanState.start.nesting.depth = 0 := rfl
  rw [scan, comment.pieces_render_append closed, readingsAt_append,
    flatMap_text_toPieces, scan]
  exact congrArg (_ ++ readingsAt · _) (Nat.zero_add _)

/-- Behind a comment none is open, and its kind is remembered. -/
theorem stateBehind_toPieces (comment : Comment) :
    stateBehind .start (readingsAt 0 comment.toPieces) =
      ⟨Text.byteLength comment.render, ⟨0, comment.kind⟩⟩ := by
  have position :=
    position_stateBehind_scan .merged .start comment.render
  have scanned := comment.scan_render_append []
  rw [scan_nil, List.append_nil, List.append_nil] at scanned
  rw [scanned] at position
  have nesting :
      (stateBehind .start (readingsAt 0 comment.toPieces)).nesting =
        ⟨0, comment.kind⟩ := by
    rw [toPieces, ← List.cons_append, readingsAt_append,
      stateBehind_append]
    rfl
  exact congrArg₂ ScanState.mk (position.trans (Nat.zero_add _)) nesting

/-- What is read of a comment in front of a text, and the scanner behind it. -/
def read (comment : Comment) (back : Text) : List Step × Scanner :=
  (Scanner.ofText (comment.render ++ back) .merged).take
    comment.texts.length

/--
A scanner reads a comment in front of a text as its opener, chunks and
closers, in order and side by side, all of the kind of the comment.  Behind it
no comment is open and the kind is remembered, and what follows is read as if
it stood alone, with all spans shifted by the size of the comment.
-/
structure IsReadBack (comment : Comment) (back : Text) : Prop where
  pieces :
    (comment.read back).1.map Step.piece =
      comment.texts.map (comment.kind.tokenKind, ·)
  tokens :
    (comment.read back).1.map Step.token =
      layOut 0 (comment.texts.map (comment.kind.tokenKind, ·))
  state :
    (comment.read back).2.state =
      ⟨Text.byteLength comment.render, ⟨0, comment.kind⟩⟩
  mode : (comment.read back).2.mode = .outside
  behind :
    (comment.read back).2.drain.1.map Step.token =
      (tokenize back).map (Token.shift (Text.byteLength comment.render))

/--
A comment is read back in front of any text, as long as offsets reach the end
of both together.
-/
theorem take_render (comment : Comment) {back : Text}
    (small : Text.byteLength (comment.render ++ back) ≤ wordLimit) :
    comment.IsReadBack back := by
  let start := Scanner.ofText (comment.render ++ back) .merged
  have split :
      start.readings =
        readingsAt 0 comment.toPieces ++
          scan .merged
            ⟨Text.byteLength comment.render, ⟨0, comment.kind⟩⟩ back := by
    rw [Scanner.readings_ofText small, scan_render_append]
  have count :
      (readingsAt 0 comment.toPieces).length = comment.texts.length := by
    rw [length_readingsAt, ← map_text_toPieces, List.length_map]
  have smallBack : Text.byteLength back ≤ wordLimit := by
    rw [Text.byteLength_append] at small
    omega
  rcases Scanner.take_of_readings_eq_append split count with
    ⟨steps, state, later⟩
  replace state := state.trans comment.stateBehind_toPieces
  constructor
  case pieces =>
    have labels := Piece.map_label_readingsAt 0 comment.toPieces
    rw [← steps, List.map_map, comment.map_label_toPieces] at labels
    exact labels
  case tokens =>
    have tokens := Piece.map_token_readingsAt 0 comment.toPieces
    rw [← steps, List.map_map, comment.map_label_toPieces] at tokens
    exact tokens
  case state => exact state
  case mode => exact congrArg (·.nesting.mode) state
  case behind =>
    have closed : (⟨0, comment.kind⟩ : Nesting).depth = 0 := rfl
    have tokens :=
      @map_token_scan_of_closed .merged
        ⟨Text.byteLength comment.render, ⟨0, comment.kind⟩⟩ closed back
    rw [← later, List.map_map, map_token_scan_start smallBack] at tokens
    exact tokens

/-- A doc comment around an empty nested comment, in front of other text. -/
theorem take_render_nested :
    ∃ comment : Comment,
      comment.render =
          ['/', '*', '*', 'é', '/', '*', '*', '/', '*', '/'] ∧
        (comment.read ['*', '/']).1.map Step.piece =
          [(.docComment, ['/', '*', '*']), (.docComment, ['é']),
            (.docComment, ['/', '*']), (.docComment, ['*', '/']),
            (.docComment, ['*', '/'])] := by
  have plain :
      ∀ character ∈ some 'é', ¬ Text.IsMarkerCharacter character := by
    rintro character ⟨⟩
    decide
  let chunk : Chunk := ⟨['é'], by decide, by decide, plain, plain⟩
  let body : Body := .chunk chunk (.comment .empty .empty)
  have separated : body.Separated := ⟨nofun, trivial, trivial⟩
  let comment : Comment := ⟨.doc, body, separated, Or.inr trivial⟩
  have small :
      Text.byteLength
          (['/', '*', '*', 'é', '/', '*', '*', '/', '*', '/'] ++
            ['*', '/']) ≤
        wordLimit := by
    decide
  exact ⟨comment, rfl, (comment.take_render small).pieces⟩

/--
A text that offsets reach alone is not read as if it stood alone behind a
comment with which they do not: the last of its tokens would end too far.
-/
theorem IsReadBack.byteLength_le {comment : Comment} {back : Text}
    (isRead : comment.IsReadBack back)
    (small : Text.byteLength back ≤ wordLimit) :
    Text.byteLength (comment.render ++ back) ≤ wordLimit := by
  have tiles := (comment.read back).2.tiles_drain
  have position :
      (comment.read back).2.position = Text.byteLength comment.render :=
    congrArg ScanState.position isRead.state
  have shifted := (tiles_tokenize small).shift (Text.byteLength comment.render)
  have within := (Scanner.window_ofText (comment.render ++ back) .merged).2
  rw [isRead.behind, position, read, Scanner.windowEnd_take] at tiles
  rw [Nat.zero_add] at shifted
  rw [Text.byteLength_append, Nat.add_comm, ← tiles.stop_unique shifted]
  exact within

/-- A line comment behind a comment, together one byte too long. -/
theorem not_isReadBack_tooLong :
    ∃ comment : Comment,
      comment.render = ['/', '*', 'a', '*', '/'] ∧
        ¬ comment.IsReadBack (['/', '/'] ++ List.replicate 4294967289 'a') := by
  have plain :
      ∀ character ∈ some 'a', ¬ Text.IsMarkerCharacter character := by
    rintro character ⟨⟩
    decide
  let chunk : Chunk := ⟨['a'], by decide, by decide, plain, plain⟩
  let comment : Comment :=
    ⟨.block, .chunk chunk .empty, ⟨nofun, trivial⟩, nofun⟩
  have bytes (count : Nat) :
      Text.byteLength (['/', '/'] ++ List.replicate count 'a') = 2 + count :=
    Text.byteLength_append_replicate _ count rfl
  have rendered : Text.byteLength comment.render = 5 := rfl
  refine ⟨comment, rfl, ?_⟩
  intro isRead
  have small :
      Text.byteLength (['/', '/'] ++ List.replicate 4294967289 'a') ≤
        wordLimit := by
    rw [bytes, wordLimit]
    omega
  have whole := isRead.byteLength_le small
  rw [Text.byteLength_append, rendered, bytes, wordLimit] at whole
  omega

end Comment

end CommentScan
