import CommentScan.Proofs.Comment.Body
import CommentScan.Proofs.Scanner.Nesting
import CommentScan.Proofs.Scanner.Parts

/-!
# Giving characters back and reading them again

Characters that are given back can be read again in the same way, although
what is read now starts inside the token that is read again.  It takes that
the reading starts where a lexeme does: a lexeme is determined by the
characters in front of it and by the nesting, and a merged run ends where it
did before, because the lexeme behind it has not changed.

`Piece.Merges.suffix` says that the lexemes of a run from some place in it on
make up a run again.  Text inside a comment is read one character at a time,
so there any place will do, which `Text.untilMarker_of_append` says without
mentioning lexemes.
-/

namespace CommentScan

namespace Piece

variable {state : ScanState} {nesting : Nesting} {piece first : Piece}
  {more : List Piece} {rest kept returned : Text}

/-- A cut inside a merged piece splits the lexemes that it is made of. -/
theorem Merges.exists_split_of_isCut
    (merges : piece.Merges state.nesting rest first more)
    (whole : piece.text = kept ++ returned) (nonempty : returned ≠ [])
    (isCut :
      IsCut state.position
        ((scan .lexemes state (piece.text ++ rest)).map Reading.token)
        (state.position + Text.byteLength kept)) :
    ∃ front next later,
      first :: more = front ++ next :: later ∧
        (next :: later).flatMap Piece.text = returned := by
  have pieceTexts := merges.texts
  have lexemes := merges.scan_lexemes
  rw [whole, List.append_assoc] at isCut lexemes
  rw [whole] at pieceTexts
  rcases CommentScan.exists_split_of_isCut isCut with
    ⟨earlier, behind, split, texts⟩
  rcases List.append_eq_append_iff.mp (lexemes.symm.trans split) with
    ⟨beyond, longer, -⟩ | ⟨left, run, -⟩
  · -- All lexemes of the piece would stand in front of the cut.
    rw [longer, List.flatMap_append, List.flatMap_def, map_text_readingsAt,
      ← List.flatMap_def, pieceTexts, List.append_assoc] at texts
    have nothing := List.append_right_eq_self.mp texts
    exact absurd (List.append_eq_nil_iff.mp nothing).1 nonempty
  · have runTexts := congrArg (List.map Reading.text) run
    rw [map_text_readingsAt, List.map_append,
      List.map_eq_append_iff] at runTexts
    rcases runTexts with ⟨front, inside, runSplit, frontTexts, -⟩
    have frontText : front.flatMap Piece.text = kept := by
      rw [List.flatMap_def, frontTexts, ← List.flatMap_def, texts]
    rw [runSplit, List.flatMap_append, frontText] at pieceTexts
    have insideTexts := List.append_cancel_left pieceTexts
    cases inside with
    | nil => exact absurd insideTexts.symm nonempty
    | cons next later => exact ⟨front, next, later, runSplit, insideTexts⟩

/-- From any place in it on the text of a comment is one piece again. -/
theorem first?_of_commentBody
    (found : first? .merged nesting (piece.text ++ rest) = some piece)
    (body : piece.role = .commentBody) (whole : piece.text = kept ++ returned)
    (nonempty : returned ≠ []) :
    first? .merged nesting (returned ++ rest) =
      some ⟨.commentBody, returned, nesting⟩ := by
  rcases not_startsMarker_of_first? found body with ⟨inside, -⟩
  have texts := text_eq_untilMarker found body
  rw [whole, List.append_assoc] at texts
  have again := Text.untilMarker_of_append texts.symm
  have unmarked : ¬ (returned ++ rest).StartsMarker := by
    intro starts
    rw [Text.untilMarker_of_startsMarker starts] at again
    exact nonempty again.symm
  have filled := List.append_ne_nil_of_left_ne_nil nonempty rest
  rw [first?_untilMarker inside filled unmarked, again]

/-- What is read of a merged piece from a lexeme in it on. -/
theorem exists_scan_suffix
    (found :
      first? .merged state.nesting (piece.text ++ rest) = some piece)
    (whole : piece.text = kept ++ returned) (nonempty : returned ≠ [])
    (again :
      piece.role = .commentBody ∨
        piece.role = .plain ∧
          IsCut state.position
            ((scan .lexemes state (piece.text ++ rest)).map Reading.token)
            (state.position + Text.byteLength kept)) :
    ∃ later,
      scan .merged
          ⟨state.position + Text.byteLength kept, piece.nesting⟩
          (returned ++ rest) =
        readingAt (state.position + Text.byteLength kept)
            ⟨piece.role, returned, piece.nesting⟩ ::
          later := by
  have nesting := (exists_role found).2
  let behind : ScanState :=
    ⟨state.position + Text.byteLength kept, piece.nesting⟩
  let suffix : Piece := ⟨piece.role, returned, piece.nesting⟩
  rcases again with body | ⟨plain, isCut⟩
  · have keeps : piece.nesting = state.nesting := by
      rw [nesting, body]
      rfl
    have read := first?_of_commentBody found body whole nonempty
    rw [← body, ← keeps] at read
    exact ⟨_, @scan_of_first? _ behind suffix _ read⟩
  · have keeps : piece.nesting = state.nesting := by
      rw [nesting, plain]
      rfl
    rcases exists_merges found with ⟨first, more, merges⟩
    rcases merges.exists_split_of_isCut whole nonempty isCut with
      ⟨front, next, later, split, texts⟩
    have merged := merges.suffix (by rw [plain]; rfl) keeps split
    rw [texts, ← keeps] at merged
    exact
      ⟨_, @Merges.scan_merged_cons behind suffix _ _ _ merged
        (isShaped_of_plain plain)⟩

end Piece

namespace Scanner

/--
The characters of a token from an offset on can be given back, and reading on
then reads exactly them, as a token of the same kind, with the same state
behind it.
-/
def RereadsFrom (after : Scanner) (token : Token) (cut : Nat) : Prop :=
  ∃ returned pushed again,
    Text.slice? after.buffer cut token.span.stop = some returned ∧
      after.pushBack returned.length = .ok pushed ∧
      pushed.position = cut ∧
      pushed.tryAdvance =
        .ok (some ⟨token.kind, ⟨cut, token.span.stop⟩⟩, again) ∧
      again.tokenText = returned ∧ again.state = after.state

/-- Giving back is undone if what is given back is one piece again. -/
theorem IsPlaced.rereadsFrom {scanner : Scanner} {piece : Piece}
    (placed : (scanner.behind piece).IsPlaced) {kept returned rest : Text}
    {later : List Reading} (unread : scanner.unread = piece.text ++ rest)
    (whole : piece.text = kept ++ returned)
    (left :
      scan scanner.granularity
          ⟨scanner.position + Text.byteLength kept, piece.nesting⟩
          (returned ++ rest) =
        Piece.readingAt (scanner.position + Text.byteLength kept)
            ⟨piece.role, returned, piece.nesting⟩ ::
          later) :
    (scanner.behind piece).RereadsFrom
      (piece.readingAt scanner.position).token
      (scanner.position + Text.byteLength kept) := by
  have covered : Text.slice? _ _ _ = some piece.text := placed.tokenText
  have behind : (scanner.behind piece).unread = rest := by
    show scanner.unread.drop piece.text.length = rest
    rw [unread, List.drop_left]
  let pushed : Scanner :=
    { scanner.behind piece with
      tokenText := kept
      unread := returned ++ (scanner.behind piece).unread
      endReported := false }
  have given : (scanner.behind piece).pushBack returned.length = .ok pushed :=
    pushBack_eq_ok_iff.mpr ⟨kept, returned, whole, rfl, rfl⟩
  rw [Piece.readingAt_suffix whole, ← behind] at left
  rw [whole] at covered
  rcases @advance_of_readings pushed _ _ left with
    ⟨again, advanced, tokenText, state, -⟩
  exact
    ⟨returned, pushed, again, (Text.slice?_append_iff.mp covered).2, given,
      rfl, advanced, tokenText, state⟩

/-- A merged token is read again from any lexeme in it on. -/
theorem IsPlaced.rereadsFrom_of_merged {scanner : Scanner} {piece : Piece}
    {cut : Nat} (placed : (scanner.behind piece).IsPlaced)
    (merged : scanner.granularity = .merged)
    (found :
      Piece.first? scanner.granularity scanner.nesting scanner.unread =
        some piece)
    (boundary : Text.IsBoundary scanner.buffer cut)
    (behind : scanner.position ≤ cut)
    (before : cut < (scanner.behind piece).position)
    (again :
      piece.role = .commentBody ∨
        piece.role = .plain ∧
          IsCut scanner.position
            ((scan .lexemes scanner.state scanner.unread).map Reading.token)
            cut) :
    (scanner.behind piece).RereadsFrom
      (piece.readingAt scanner.position).token cut := by
  have unread := (Piece.first?_spec found).2
  rcases Text.exists_append_of_slice? placed.tokenText boundary behind
      (Nat.le_of_lt before) with
    ⟨kept, returned, whole, rfl⟩
  replace whole : piece.text = kept ++ returned := whole
  have nonempty : returned ≠ [] := by
    rintro rfl
    rw [List.append_nil] at whole
    rw [← whole] at before
    exact Nat.lt_irrefl _ before
  rw [unread] at again
  rw [merged, unread] at found
  rcases @Piece.exists_scan_suffix scanner.state _ _ _ _ found whole nonempty
      again with
    ⟨later, scanned⟩
  rw [← merged] at scanned
  exact placed.rereadsFrom unread whole scanned

/-- A whole token is read again unless it opens or closes a comment. -/
theorem IsPlaced.rereadsFrom_start_iff {scanner : Scanner} {piece : Piece}
    (placed : (scanner.behind piece).IsPlaced)
    (found :
      Piece.first? scanner.granularity scanner.nesting scanner.unread =
        some piece) :
    (scanner.behind piece).RereadsFrom
        (piece.readingAt scanner.position).token scanner.position ↔
      ¬ (piece.readingAt scanner.position).isOpener ∧
        ¬ (piece.readingAt scanner.position).isCloser := by
  constructor
  · rintro ⟨returned, pushed, again, sliced, given, -, advanced, text, state⟩
    rcases exists_first?_of_tryAdvance advanced with
      ⟨other, otherFound, token, rfl⟩
    have covered : Text.slice? _ _ _ = some piece.text := placed.tokenText
    have whole : returned = piece.text :=
      Option.some.inj (sliced.symm.trans covered)
    have sameNesting : pushed.nesting = piece.nesting := by
      rcases pushBack_eq_ok_iff.mp given with ⟨_, _, -, -, rfl⟩
      rfl
    have tracks := Piece.tracksNesting otherFound pushed.position
    have same : other.nesting = piece.nesting :=
      congrArg ScanState.nesting state
    -- Read once more, an opener or a closer changes the nesting once more.
    rw [← not_or]
    intro marks
    have sameMarks :=
      @Reading.isMarker_congr (piece.readingAt scanner.position)
        (other.readingAt pushed.position) (congrArg Token.kind token)
        (text.trans whole).symm
    exact tracks.changes (sameMarks.mp marks) (same.trans sameNesting.symm)
  · rintro ⟨noOpener, noCloser⟩
    have tracks := Piece.tracksNesting found scanner.position
    have keeps : piece.nesting = scanner.nesting :=
      tracks.keeps noOpener noCloser
    have unread := (Piece.first?_spec found).2
    rw [unread] at found
    have scanned := @scan_of_first? _ scanner.state piece _ found
    have state : scanner.state = ⟨scanner.position, piece.nesting⟩ := by
      rw [keeps]
      rfl
    rw [state] at scanned
    exact @IsPlaced.rereadsFrom _ _ placed [] _ _ _ unread rfl scanned

/--
Giving characters back and reading on reads them again in the same way if the
cut is right.  In a merged run of plain text it is wherever a lexeme starts
that is read of the same window from the same state, and in a merged run of
the text of a comment it is between any two characters.  The whole of a token
is read again exactly if the token neither opens nor closes a comment, so with
either granularity for plain text, the text of a comment, line comments and
empty comments.
-/
theorem Reachable.pushBack_rereads {scanner after : Scanner} {token : Token}
    (reachable : scanner.Reachable)
    (advanced : scanner.tryAdvance = .ok (some token, after)) :
    (scanner.granularity = .merged →
        ∀ cut, Text.IsBoundary scanner.buffer cut →
          token.span.start ≤ cut → cut < token.span.stop →
            (Step.reading ⟨token, after⟩).isBody ∨
                (Step.reading ⟨token, after⟩).isPlain ∧
                  IsCut scanner.position
                    ((scanner.withGranularity .lexemes).drain.1.map
                      Step.token)
                    cut →
              after.RereadsFrom token cut) ∧
      (after.RereadsFrom token token.span.start ↔
        ¬ (Step.reading ⟨token, after⟩).isOpener ∧
          ¬ (Step.reading ⟨token, after⟩).isCloser) ∧
      ((Step.reading ⟨token, after⟩).isPlain ∨
          (Step.reading ⟨token, after⟩).isBody ∨
          token.kind = .lineComment ∨
          after.tokenText = ['/', '*', '*', '/'] →
        after.RereadsFrom token token.span.start) := by
  have placed := reachable.isPlaced.tryAdvance advanced
  rcases exists_first?_of_tryAdvance advanced with
    ⟨piece, found, rfl, rfl⟩
  have whole := placed.rereadsFrom_start_iff found
  refine ⟨?_, whole, ?_⟩
  · intro merged cut boundary behind before run
    refine placed.rereadsFrom_of_merged merged found boundary behind before ?_
    have shaped := Piece.isShaped_of_first? found
    have isBody := Piece.isBody_readingAt shaped scanner.position
    have isPlain := piece.isPlain_readingAt scanner.position
    have lexemes := (scanner.withGranularity .lexemes).drain_readings
    have tokens := congrArg (List.map Reading.token) lexemes
    rw [List.map_map] at tokens
    rcases run with body | ⟨plain, isCut⟩
    · exact Or.inl (isBody.mp body)
    · refine Or.inr ⟨isPlain.mp plain, ?_⟩
      show IsCut _ ((scanner.withGranularity .lexemes).readings.map _) _
      rw [← tokens]
      exact isCut
  · intro sort
    exact whole.mpr (not_or.mp (Reading.not_isMarker sort))

/-- A string literal that holds an opener is read again from its quote on. -/
theorem pushBack_rereads_stringLiteral :
    ∃ after,
      (ofText ['x', '\x22', '/', '*', '\x22'] .merged).tryAdvance =
          .ok (some ⟨.plainContent, ⟨0, 5⟩⟩, after) ∧
        after.RereadsFrom ⟨.plainContent, ⟨0, 5⟩⟩ 1 ∧
        after.RereadsFrom ⟨.plainContent, ⟨0, 5⟩⟩ 0 := by
  let text : Text := ['x', '\x22', '/', '*', '\x22']
  let after : Scanner :=
    { ofText text .merged with tokenText := text, unread := [] }
  have advance :
      (ofText text .merged).advance =
        (some ⟨.plainContent, ⟨0, 5⟩⟩, after) := by
    decide +kernel
  have advanced := (ofText text .merged).tryAdvance_eq
  rw [advance] at advanced
  have isCut :
      IsCut 0
        (((ofText text .merged).withGranularity .lexemes).drain.1.map
          Step.token)
        1 :=
    Or.inr ⟨⟨.plainContent, ⟨0, 1⟩⟩, by decide +kernel, rfl⟩
  rcases Reachable.pushBack_rereads (.ofText text .merged) advanced with
    ⟨inside, -, whole⟩
  refine ⟨after, advanced, ?_, whole (Or.inl rfl)⟩
  exact
    inside rfl 1 (by decide) (by decide) (by decide) (Or.inr ⟨rfl, isCut⟩)

end Scanner

end CommentScan
