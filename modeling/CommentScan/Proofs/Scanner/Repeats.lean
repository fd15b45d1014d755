import CommentScan.Proofs.Scanner.Pieces
import CommentScan.Scanner.Repeats

/-!
# What is read of repeated pieces

The tokens that are read of repeated pieces are those of the text that the
pieces make up.  `Repeats.expand_take?` says so of the part that is reached,
`Repeats.map_token_scan` of the tokens in it, and `Repeats.tokens?_eq` puts
both together for a scanner of the whole text.
-/

namespace CommentScan

/-! ## First parts -/

/-- A repeated piece is cut in the first repetition that is not whole. -/
theorem Repeat.slice?_expand {piece : Repeat} {size : Nat}
    (less : size < piece.byteLength) :
    let single := Text.byteLength piece.text
    Text.slice? piece.expand 0 size =
      (Text.slice? piece.text 0 (size % single)).map
        (expand ⟨piece.text, size / single⟩ ++ ·) := by
  rcases piece with ⟨text, count⟩
  intro single
  have nonempty : 0 < single := by
    rw [byteLength] at less
    exact Nat.pos_of_lt_mul_left less
  have fewer : size / single < count :=
    (Nat.div_lt_iff_lt_mul nonempty).mpr less
  rcases Nat.exists_eq_add_of_lt fewer with ⟨others, whole⟩
  have front :
      Text.byteLength (expand ⟨text, size / single⟩) + size % single =
        size := by
    rw [byteLength_expand]
    exact Nat.div_add_mod' size single
  have within : size % single ≤ single :=
    Nat.le_of_lt (Nat.mod_lt size nonempty)
  conv => lhs; rw [← front]
  rw [whole, Nat.add_assoc, expand_add, Text.slice?_zero_append_right,
    expand_succ, Text.slice?_zero_append_left within]

namespace Repeats

/-- The first part of repeated pieces is the first part of their text. -/
theorem expand_take? (size : Nat) (source : Repeats) :
    (source.take? size).map expand =
      Text.slice? source.expand 0 (min source.byteLength size) := by
  fun_induction take? size source with
  | case1 => rfl
  | case2 size piece rest fits inductionHypothesis =>
      have more :
          min (byteLength (piece :: rest)) size =
            Text.byteLength piece.expand +
              min (byteLength rest) (size - piece.byteLength) := by
        rw [piece.byteLength_expand, byteLength]
        omega
      rw [more, expand_cons, Text.slice?_zero_append_right,
        ← inductionHypothesis, Option.map_map, Option.map_map]
      rfl
  | case3 size piece rest tooLong single =>
      have less : size < piece.byteLength := Nat.lt_of_not_le tooLong
      have within : size ≤ Text.byteLength piece.expand := by
        rw [piece.byteLength_expand]
        exact Nat.le_of_lt less
      have whole : min (byteLength (piece :: rest)) size = size := by
        rw [byteLength]
        omega
      rw [whole, expand_cons, Text.slice?_zero_append_left within,
        Repeat.slice?_expand less, Option.map_map]
      congr 1
      funext part
      simp [single]

/-- Offsets reach the same of repeated pieces and of their text. -/
theorem expand_reachable? (source : Repeats) :
    source.reachable?.map expand = source.expand.reachable? := by
  rw [reachable?, expand_take?, Text.reachable?, Text.reachableLength,
    byteLength_expand]

/-! ## Tokens -/

/-- Behind a run of lexemes stands what is behind its length. -/
theorem expand_behindRun {text : Text} {length : Nat} {source : Repeats}
    (here : text.drop length = source.expand) (mode : Mode) (role : Role) :
    (behindRun mode role source).expand =
      text.drop (Lexeme.runLength mode role source.expand length) := by
  fun_induction behindRun mode role source generalizing length with
  | case1 source finished =>
      rw [longest?_eq_none_iff.mp finished] at here ⊢
      rw [Lexeme.runLength_nil, here]
  | case2 source front found same inductionHypothesis =>
      rcases exists_lexeme_of_longest? found with
        ⟨lexeme, longest, role, behind⟩
      rw [Lexeme.runLength_of_longest longest, if_pos (role ▸ same), ← behind]
      apply inductionHypothesis
      rw [behind, ← here, List.drop_drop]
  | case3 source front found other =>
      rcases exists_lexeme_of_longest? found with ⟨lexeme, longest, role, -⟩
      rw [Lexeme.runLength_of_longest longest, if_neg (role ▸ other), here]

/-- Behind a token stands what is behind its length. -/
theorem Front.expand_behindToken {front : Front} {text : Text}
    {lexeme : Lexeme} (role : front.role = lexeme.role)
    (behind : front.behind.expand = text.drop lexeme.length)
    (granularity : Granularity) (mode : Mode) :
    (front.behindToken granularity mode).expand =
      text.drop (lexeme.tokenLength granularity mode text) := by
  rw [behindToken, Lexeme.tokenLength, role]
  split
  · rw [expand_behindRun behind.symm, behind]
  · exact behind

/-- The tokens of repeated pieces are those of their text. -/
theorem map_token_scan (granularity : Granularity) (state : ScanState)
    (source : Repeats) :
    (scan granularity state source.expand).map Reading.token =
      tokensFrom granularity state source := by
  fun_induction tokensFrom granularity state source with
  | case1 state source finished =>
      rw [longest?_eq_none_iff.mp finished, scan_nil]
      rfl
  | case2 state source front found nesting behind stop inductionHypothesis =>
      rcases exists_lexeme_of_longest? found with
        ⟨lexeme, longest, role, rest⟩
      let piece :=
        Piece.ofLexeme granularity state.nesting source.expand lexeme
      have first :
          Piece.first? granularity state.nesting source.expand =
            some piece := by
        rw [Piece.first?, longest]
        rfl
      have later : behind.expand = source.expand.drop piece.text.length := by
        rw [Piece.length_text_ofLexeme longest, ← role]
        exact Front.expand_behindToken role rest granularity nesting.mode
      have ends : state.position + Text.byteLength piece.text = stop := by
        have whole :=
          congrArg Text.byteLength (Piece.first?_spec first).2
        rw [Text.byteLength_append, ← later, byteLength_expand,
          byteLength_expand] at whole
        omega
      have inside : piece.nesting = nesting :=
        congrArg (Role.apply · state.nesting) role.symm
      have kind : piece.kind = front.role.tokenKind nesting := by
        rw [Piece.kind, inside, role]
        rfl
      rw [scan, pieces_eq_cons first, readingsAt, List.map_cons,
        Piece.readingAt, ends, kind, inside, ← later, ← inductionHypothesis]
      rfl

/--
A scanner of a text that is written as repeated pieces reads the tokens that
are read of the pieces, unless offsets end inside a character.
-/
theorem tokens?_eq (granularity : Granularity) (source : Repeats) :
    source.tokens? granularity =
      source.expand.reachable?.map fun _ =>
        (Scanner.ofText source.expand granularity).drain.1.map
          Step.token := by
  rw [tokens?, ← expand_reachable?, Option.map_map]
  cases reached : source.reachable? with
  | none => rfl
  | some part =>
      have unread :
          (Scanner.ofText source.expand granularity).unread =
            part.expand := by
        rw [Scanner.ofText, ← expand_reachable?, reached]
        rfl
      have readings :=
        (Scanner.ofText source.expand granularity).drain_readings
      rw [Scanner.readings, unread] at readings
      have tokens := congrArg (List.map Reading.token) readings
      rw [List.map_map] at tokens
      exact
        congrArg some
          ((map_token_scan granularity .start part).symm.trans tokens.symm)

end Repeats

end CommentScan
