import CommentScan.Proofs.Scanner.Granularity

/-!
# Cutting a text off

The automaton looks ahead as far as it likes before it falls back, so cutting
a text off could change what is read in front of the cut.  It does not if the
cut is the end of a token.  A lexeme that ends in front of the cut is completed
by its own characters, and there are only fewer longer ones to beat it; and a
run of lexemes that ends in front of the cut ends there anyway.

`scan_append` says so for both granularities: where what is read splits, the
scan of the text splits.  The law for merged tokens follows from the one for
lexemes by grouping both.
-/

namespace CommentScan

/-- A lexeme stays the first one when the text is cut off behind it. -/
theorem Piece.first?_lexemes_of_append {nesting : Nesting} {piece : Piece}
    {middle back : Text}
    (found :
      first? .lexemes nesting (piece.text ++ (middle ++ back)) =
        some piece) :
    first? .lexemes nesting (piece.text ++ middle) = some piece := by
  rcases Option.map_eq_some_iff.mp found with ⟨lexeme, longest, -⟩
  have pieceEq := found
  rw [first?_lexemes longest, Option.some.injEq] at pieceEq
  have bound := (Lexeme.longest?_length longest).2
  have length : piece.text.length = lexeme.length := by
    rw [← pieceEq, List.length_take, Nat.min_eq_left bound]
  have within : lexeme.length ≤ (piece.text ++ middle).length := by
    rw [List.length_append, length]
    exact Nat.le_add_right _ _
  rw [← List.append_assoc] at longest pieceEq
  rw [first?_lexemes (Lexeme.longest?_of_append longest within),
    ← List.take_append_of_le_length within, pieceEq]

/-- Where the lexemes of a text split, the scan of the text splits. -/
theorem scan_lexemes_append {state : ScanState} {front back : Text}
    {earlier later : List Reading}
    (whole : scan .lexemes state (front ++ back) = earlier ++ later)
    (texts : earlier.flatMap Reading.text = front) :
    scan .lexemes state front = earlier ∧
      scan .lexemes (stateBehind state earlier) back = later := by
  induction earlier generalizing state front with
  | nil =>
      subst texts
      exact ⟨scan_nil .lexemes state, whole⟩
  | cons reading more inductionHypothesis =>
      rcases exists_first?_of_scan whole with
        ⟨piece, rest, same, found, rfl, later⟩
      have restEq : rest = more.flatMap Reading.text ++ back := by
        rw [← texts, List.flatMap_cons, List.append_assoc] at same
        exact (List.append_cancel_left same).symm
      subst restEq
      rcases inductionHypothesis later rfl with ⟨moreEq, laterEq⟩
      constructor
      · rw [← texts, List.flatMap_cons]
        have kept := scan_of_first? (Piece.first?_lexemes_of_append found)
        rw [moreEq] at kept
        exact kept
      · exact laterEq

/-- Joined groups have the texts and the states of what they are made of. -/
theorem flatten_of_map_joined? {groups : List (List Reading)}
    {merged : List Reading}
    (joined : groups.map Reading.joined? = merged.map some)
    (state : ScanState) :
    groups.flatten.flatMap Reading.text = merged.flatMap Reading.text ∧
      stateBehind state groups.flatten = stateBehind state merged := by
  induction groups generalizing merged state with
  | nil =>
      rw [List.map_nil, eq_comm, List.map_eq_nil_iff] at joined
      subst joined
      exact ⟨rfl, rfl⟩
  | cons group rest inductionHypothesis =>
      cases merged with
      | nil => cases joined
      | cons reading more =>
          rw [List.map_cons, List.map_cons, List.cons.injEq] at joined
          rcases Reading.joined?_spec joined.1 state with
            ⟨behind, texts, -⟩
          rcases inductionHypothesis joined.2 reading.state with
            ⟨restTexts, restBehind⟩
          constructor
          · rw [List.flatten_cons, List.flatMap_append, texts, restTexts,
              List.flatMap_cons]
          · rw [List.flatten_cons, stateBehind_append, behind, restBehind,
              stateBehind]

/-- Maximal groups are found again wherever the list is cut between them. -/
theorem splitBy_flatten_of_append {list : List Reading}
    {front back : List (List Reading)}
    (groups : list.splitBy Reading.joins = front ++ back) :
    list = front.flatten ++ back.flatten ∧
      front.flatten.splitBy Reading.joins = front ∧
      back.flatten.splitBy Reading.joins = back := by
  rcases List.splitBy_eq_iff.mp groups with ⟨whole, filled, chains, apart⟩
  rw [List.flatten_append] at whole
  refine ⟨whole, ?_, ?_⟩
  · apply List.splitBy_flatten
    · exact fun empty => filled (List.mem_append_left back empty)
    · exact fun group member =>
        chains group (List.mem_append_left back member)
    · exact apart.left_of_append
  · apply List.splitBy_flatten
    · exact fun empty => filled (List.mem_append_right front empty)
    · exact fun group member =>
        chains group (List.mem_append_right front member)
    · exact apart.right_of_append

theorem scan_merged_append {state : ScanState} {front back : Text}
    {earlier later : List Reading}
    (whole : scan .merged state (front ++ back) = earlier ++ later)
    (texts : earlier.flatMap Reading.text = front) :
    scan .merged state front = earlier ∧
      scan .merged (stateBehind state earlier) back = later := by
  have grouped := scan_merged state (front ++ back)
  rw [whole, List.map_append, eq_comm, List.map_eq_append_iff] at grouped
  rcases grouped with
    ⟨frontGroups, backGroups, groups, frontJoined, backJoined⟩
  rcases splitBy_flatten_of_append groups with
    ⟨lexemes, frontSplit, backSplit⟩
  rcases flatten_of_map_joined? frontJoined state with
    ⟨frontTexts, frontBehind⟩
  rcases scan_lexemes_append lexemes (frontTexts.trans texts) with
    ⟨frontLexemes, backLexemes⟩
  constructor
  · apply (List.map_inj_right fun _ _ => Option.some.inj).mp
    rw [scan_merged, frontLexemes, frontSplit, frontJoined]
  · apply (List.map_inj_right fun _ _ => Option.some.inj).mp
    rw [scan_merged, ← frontBehind, backLexemes, backSplit, backJoined]

/--
Where what is read of a text splits, the scan of the text splits: the first
part is read the same without the second, and the second goes on from the
state behind the first.
-/
theorem scan_append {granularity : Granularity} {state : ScanState}
    {front back : Text} {earlier later : List Reading}
    (whole : scan granularity state (front ++ back) = earlier ++ later)
    (texts : earlier.flatMap Reading.text = front) :
    scan granularity state front = earlier ∧
      scan granularity (stateBehind state earlier) back = later := by
  cases granularity with
  | merged => exact scan_merged_append whole texts
  | lexemes => exact scan_lexemes_append whole texts

end CommentScan
