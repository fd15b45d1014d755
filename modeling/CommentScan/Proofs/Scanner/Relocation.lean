import CommentScan.Proofs.Scanner.Nesting
import CommentScan.Proofs.Scanner.Partition

/-!
# Scanning in another place

A token is known by its kind and its text, which `Piece.label` keeps, and by
the offset at which it starts.  Laid out further behind, the same labels make
the same tokens with their spans shifted.

Where no comment is open it does not matter of which sort the last one was, so
a text is read in such a place as at the start of a source.
`map_token_scan_of_closed` puts the two together.
-/

namespace CommentScan

/-- A token that lies further behind by some bytes. -/
def Token.shift (offset : Nat) (token : Token) : Token :=
  ⟨token.kind,
    ⟨token.span.start + offset, token.span.stop + offset⟩⟩

theorem Tiles.shift {start stop : Nat} {tokens : List Token}
    (tiles : Tiles start tokens stop) (offset : Nat) :
    Tiles (start + offset) (tokens.map (Token.shift offset))
      (stop + offset) := by
  induction tokens generalizing start with
  | nil => exact congrArg (· + offset) tiles
  | cons token rest inductionHypothesis =>
      rcases tiles with ⟨rfl, nonempty, later⟩
      refine ⟨rfl, Nat.add_lt_add_right nonempty offset, ?_⟩
      exact inductionHypothesis later

/-- Tokens with these kinds and texts, side by side from a position on. -/
def layOut : Nat → List (TokenKind × Text) → List Token
  | _, [] => []
  | position, (kind, text) :: rest =>
      ⟨kind, ⟨position, position + Text.byteLength text⟩⟩ ::
        layOut (position + Text.byteLength text) rest

theorem layOut_add (position offset : Nat)
    (labels : List (TokenKind × Text)) :
    layOut (position + offset) labels =
      (layOut position labels).map (Token.shift offset) := by
  induction labels generalizing position with
  | nil => rfl
  | cons label rest inductionHypothesis =>
      have behind :
          position + offset + Text.byteLength label.2 =
            position + Text.byteLength label.2 + offset :=
        Nat.add_right_comm _ _ _
      rw [layOut, layOut, List.map_cons, behind, inductionHypothesis]
      rfl

namespace Piece

/-- What is seen of a piece without its place. -/
def label (piece : Piece) : TokenKind × Text :=
  (piece.kind, piece.text)

theorem map_token_readingsAt (position : Nat) (list : List Piece) :
    (readingsAt position list).map Reading.token =
      layOut position (list.map label) := by
  induction list generalizing position with
  | nil => rfl
  | cons piece rest inductionHypothesis =>
      rw [readingsAt, List.map_cons, inductionHypothesis]
      rfl

theorem map_label_readingsAt (position : Nat) (list : List Piece) :
    ((readingsAt position list).map fun reading =>
        (reading.token.kind, reading.text)) =
      list.map label := by
  induction list generalizing position with
  | nil => rfl
  | cons piece rest inductionHypothesis =>
      exact congrArg (piece.label :: ·) (inductionHypothesis _)

/-- The sort of the outermost comment does not change how a text is cut. -/
theorem first?_of_kind {granularity : Granularity} {depth : Nat}
    {kind : CommentKind} {text : Text} {piece : Piece}
    (found : first? granularity ⟨depth, kind⟩ text = some piece)
    (other : CommentKind) :
    first? granularity ⟨depth, other⟩ text =
      some
        ⟨piece.role, piece.text, piece.role.apply ⟨depth, other⟩⟩ := by
  rcases Option.map_eq_some_iff.mp found with ⟨lexeme, longest, rfl⟩
  have mode :
      (lexeme.role.apply ⟨depth, other⟩).mode =
        (lexeme.role.apply ⟨depth, kind⟩).mode := by
    cases lexeme.role <;> rfl
  refine Option.map_eq_some_iff.mpr ⟨lexeme, longest, ?_⟩
  rw [ofLexeme, mode]
  rfl

end Piece

/-- Where no comment is open, the sort of the last one is not seen. -/
theorem map_label_pieces_of_closed (granularity : Granularity)
    {nesting : Nesting} (closed : nesting.depth = 0) (text : Text)
    (other : CommentKind) :
    (pieces granularity nesting text).map Piece.label =
      (pieces granularity ⟨0, other⟩ text).map Piece.label := by
  induction nesting, text using pieces_induction granularity with
  | nil nesting => rw [pieces_nil, pieces_nil]
  | step nesting piece rest found nonempty inductionHypothesis =>
      rcases nesting with ⟨depth, kind⟩
      cases closed
      have otherFound := Piece.first?_of_kind found other
      rcases Piece.exists_role found with ⟨outside, behind⟩
      rcases piece with ⟨role, characters, nesting⟩
      replace behind : nesting = role.apply ⟨0, kind⟩ := behind
      subst behind
      let otherPiece : Piece :=
        ⟨role, characters, role.apply ⟨0, other⟩⟩
      have otherCut :
          pieces granularity ⟨0, other⟩ (characters ++ rest) =
            otherPiece ::
              pieces granularity otherPiece.nesting rest :=
        @pieces_of_first? granularity _ otherPiece rest otherFound
      rw [pieces_of_first? found, otherCut]
      cases role with
      | plain | lineComment | emptyComment =>
          -- The nesting stays as it is, on both sides.
          exact congrArg (_ :: ·) (inductionHypothesis rfl)
      | opener sort =>
          -- The opener sets the nesting, to the same on both sides.
          rfl
      | nestedOpener | closer | commentBody => cases outside

/--
Where no comment is open a text is read as at the start of a source, with all
spans shifted.
-/
theorem map_token_scan_of_closed (granularity : Granularity)
    {state : ScanState} (closed : state.nesting.depth = 0) (text : Text) :
    (scan granularity state text).map Reading.token =
      ((scan granularity .start text).map Reading.token).map
        (Token.shift state.position) := by
  have labels :=
    map_label_pieces_of_closed granularity closed text .block
  rw [scan, scan, Piece.map_token_readingsAt, Piece.map_token_readingsAt,
    ← layOut_add, labels]
  exact congrArg (layOut · _) (Nat.zero_add state.position).symm

/-- The tokens of a whole text are its merged scan from the start on. -/
theorem map_token_scan_start {text : Text}
    (small : Text.byteLength text ≤ wordLimit) :
    (scan .merged .start text).map Reading.token = tokenize text := by
  have read := (Scanner.ofText text .merged).drain_readings
  rw [Scanner.readings_ofText small] at read
  rw [← read, List.map_map]
  rfl

/-- The tokens of a whole text lie side by side up to its end. -/
theorem tiles_tokenize {text : Text}
    (small : Text.byteLength text ≤ wordLimit) :
    Tiles 0 (tokenize text) (Text.byteLength text) := by
  have tiles := (Scanner.ofText text .merged).tiles_drain
  rw [Scanner.windowEnd_ofText small] at tiles
  exact tiles

end CommentScan
