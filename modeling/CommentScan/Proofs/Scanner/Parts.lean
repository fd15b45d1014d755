import CommentScan.Proofs.Scanner.Truncation

/-!
# Reading a text in parts

A text can be read in parts, each from the state behind the one in front of
it.  What is read is the same as in one go exactly if every part ends at a
cut: at the start of the text or at the end of a token that is read of the
whole text.

`isCut_of_mem_partEnds` is one direction and looks at the parts: each ends
where its last token does.  `flatMap_scanParts` is the other.  It follows the
parts in order, and behind each of them splits the scan that is left by
`scan_append`.
-/

namespace CommentScan

/-- The ends of some parts that lie side by side from an offset on. -/
def partEnds : Nat → List Text → List Nat
  | _, [] => []
  | start, part :: rest =>
      (start + Text.byteLength part) ::
        partEnds (start + Text.byteLength part) rest

/--
What is read of some parts, each from the state behind the one in front of it,
and the state behind each.
-/
def scanParts (granularity : Granularity) :
    ScanState → List Text → List (List Reading × ScanState)
  | _, [] => []
  | state, part :: rest =>
      let readings := scan granularity state part
      (readings, stateBehind state readings) ::
        scanParts granularity (stateBehind state readings) rest

/-- Whether an offset is the start or the end of one of the tokens. -/
def IsCut (start : Nat) (tokens : List Token) (offset : Nat) : Prop :=
  offset = start ∨ ∃ token ∈ tokens, token.span.stop = offset

theorem le_of_mem_partEnds {start stop : Nat} {parts : List Text}
    (member : stop ∈ partEnds start parts) : start ≤ stop := by
  induction parts generalizing start with
  | nil => cases member
  | cons part rest inductionHypothesis =>
      rcases List.mem_cons.mp member with rfl | later
      · exact Nat.le_add_right _ _
      · exact
          Nat.le_trans (Nat.le_add_right _ _) (inductionHypothesis later)

theorem stop_of_partEnds {start stop : Nat} {parts : List Text}
    {stops : List Nat} (ends : partEnds start parts = stops ++ [stop]) :
    stop = start + Text.byteLength parts.flatten := by
  induction parts generalizing start stops with
  | nil => cases stops <;> cases ends
  | cons part rest inductionHypothesis =>
      rw [List.flatten_cons, Text.byteLength_append, ← Nat.add_assoc]
      cases stops with
      | nil =>
          rw [partEnds, List.nil_append, List.cons.injEq] at ends
          cases rest with
          | nil => exact ends.1.symm
          | cons next more => cases ends.2
      | cons first others =>
          rw [partEnds, List.cons_append, List.cons.injEq] at ends
          exact inductionHypothesis ends.2

section Parts

variable {granularity : Granularity} {state : ScanState}

theorem stop_of_mem_scan {text : Text} {reading : Reading}
    (member : reading ∈ scan granularity state text) :
    reading.token.span.stop = reading.state.position := by
  rcases mem_readingsAt member with ⟨piece, -, start, rfl⟩
  rfl

theorem position_le_of_mem_scan {text : Text} :
    ∀ reading ∈ scan granularity state text,
      reading.state.position ≤
        state.position + Text.byteLength text := by
  induction state, text using scan_induction granularity with
  | nil state => simp
  | step state piece rest found nonempty inductionHypothesis =>
      intro reading member
      rw [scan_of_first? found] at member
      rw [Text.byteLength_append, ← Nat.add_assoc]
      rcases List.mem_cons.mp member with rfl | later
      · exact Nat.le_add_right _ _
      · exact inductionHypothesis reading later

/-- A scan splits behind each of its tokens. -/
theorem exists_split_of_mem {text : Text} :
    ∀ reading ∈ scan granularity state text,
      ∃ earlier later,
        scan granularity state text = earlier ++ later ∧
          reading.state.position =
            state.position +
              Text.byteLength (earlier.flatMap Reading.text) := by
  induction state, text using scan_induction granularity with
  | nil state => simp
  | step state piece rest found nonempty inductionHypothesis =>
      intro reading member
      rw [scan_of_first? found] at member ⊢
      rcases List.mem_cons.mp member with rfl | inRest
      · refine ⟨[piece.readingAt state.position], _, rfl, ?_⟩
        rw [List.flatMap_cons, List.flatMap_nil, List.append_nil]
        rfl
      · rcases inductionHypothesis reading inRest with
          ⟨earlier, later, split, position⟩
        refine
          ⟨piece.readingAt state.position :: earlier, later, ?_, ?_⟩
        · rw [split, List.cons_append]
        · rw [position, List.flatMap_cons, Text.byteLength_append,
            ← Nat.add_assoc]
          rfl

/-- At a cut the scan splits where the text does. -/
theorem exists_split_of_isCut {front back : Text}
    (isCut :
      IsCut state.position
        ((scan granularity state (front ++ back)).map Reading.token)
        (state.position + Text.byteLength front)) :
    ∃ earlier later,
      scan granularity state (front ++ back) = earlier ++ later ∧
        earlier.flatMap Reading.text = front := by
  rcases isCut with atStart | ⟨token, listed, stop⟩
  · have empty : front = [] :=
      Text.eq_nil_of_byteLength_eq_zero (Nat.add_eq_left.mp atStart)
    subst empty
    exact ⟨[], _, rfl, rfl⟩
  · rcases List.mem_map.mp listed with ⟨reading, member, rfl⟩
    rcases exists_split_of_mem reading member with
      ⟨earlier, later, split, position⟩
    rw [← stop_of_mem_scan member, stop] at position
    have texts := flatMap_text_scan granularity state (front ++ back)
    rw [split, List.flatMap_append] at texts
    refine ⟨earlier, later, split, ?_⟩
    exact
      Text.eq_of_byteLength_eq texts (Nat.add_left_cancel position).symm

/-- The end of a text is a cut. -/
theorem isCut_end (text : Text) :
    IsCut state.position ((scan granularity state text).map Reading.token)
      (state.position + Text.byteLength text) := by
  have position := position_stateBehind_scan granularity state text
  rcases stateBehind_eq_or_mem state (scan granularity state text) with
    same | ⟨last, member, same⟩
  · rw [same] at position
    exact Or.inl position.symm
  · refine Or.inr ⟨last.token, List.mem_map_of_mem member, ?_⟩
    rw [stop_of_mem_scan member, same, position]

/-! ## Parts of a text -/

theorem positions_scanParts (parts : List Text) :
    (scanParts granularity state parts).map
        (fun chunk => chunk.2.position) =
      partEnds state.position parts := by
  induction parts generalizing state with
  | nil => rfl
  | cons part rest inductionHypothesis =>
      have position := position_stateBehind_scan granularity state part
      rw [scanParts, List.map_cons, inductionHypothesis, partEnds, position]

/-- A chunk is what is read of its part. -/
theorem exists_part_of_mem_scanParts {parts : List Text}
    {chunk : List Reading × ScanState}
    (member : chunk ∈ scanParts granularity state parts) :
    ∃ before part,
      chunk.1 = scan granularity before part ∧
        chunk.2 = stateBehind before chunk.1 := by
  induction parts generalizing state with
  | nil => cases member
  | cons part rest inductionHypothesis =>
      rcases List.mem_cons.mp member with rfl | later
      · exact ⟨state, part, rfl, rfl⟩
      · exact inductionHypothesis later

/-- Behind every chunk is the first state or one behind a token. -/
theorem state_of_mem_scanParts {parts : List Text} :
    ∀ chunk ∈ scanParts granularity state parts,
      chunk.2 = state ∨
        ∃ reading ∈ (scanParts granularity state parts).flatMap Prod.fst,
          reading.state = chunk.2 := by
  induction parts generalizing state with
  | nil => simp [scanParts]
  | cons part rest inductionHypothesis =>
      intro chunk member
      have first :=
        stateBehind_eq_or_mem state (scan granularity state part)
      rw [scanParts, List.flatMap_cons]
      rcases List.mem_cons.mp member with rfl | inRest
      · rcases first with same | ⟨last, listed, same⟩
        · exact Or.inl same
        · exact Or.inr ⟨last, List.mem_append_left _ listed, same⟩
      · rcases inductionHypothesis chunk inRest with
          behind | ⟨reading, listed, same⟩
        · rw [behind]
          rcases first with same | ⟨last, listed, same⟩
          · exact Or.inl same
          · exact Or.inr ⟨last, List.mem_append_left _ listed, same⟩
        · exact Or.inr ⟨reading, List.mem_append_right _ listed, same⟩

/-- Every part ends at the start of the first or where some token does. -/
theorem isCut_of_mem_partEnds {parts : List Text} :
    ∀ stop ∈ partEnds state.position parts,
      IsCut state.position
        (((scanParts granularity state parts).flatMap Prod.fst).map
          Reading.token)
        stop := by
  intro stop member
  rw [← @positions_scanParts granularity] at member
  rcases List.mem_map.mp member with ⟨chunk, isChunk, rfl⟩
  rcases state_of_mem_scanParts chunk isChunk with
    atStart | ⟨reading, listed, same⟩
  · exact Or.inl (congrArg ScanState.position atStart)
  · rcases List.mem_flatMap.mp listed with ⟨other, isOther, inOther⟩
    rcases exists_part_of_mem_scanParts isOther with ⟨before, part, read, -⟩
    rw [read] at inOther
    refine Or.inr ⟨reading.token, List.mem_map_of_mem listed, ?_⟩
    rw [stop_of_mem_scan inOther, same]

/-- Cuts behind the first part are cuts of what is read behind it. -/
theorem IsCut.behind {front : Text} {later : List Token} {stop : Nat}
    (isCut :
      IsCut state.position
        ((scan granularity state front).map Reading.token ++ later) stop)
    (ordered : state.position + Text.byteLength front ≤ stop) :
    IsCut (state.position + Text.byteLength front) later stop := by
  rcases isCut with atStart | ⟨token, listed, rfl⟩
  · exact Or.inl (by omega)
  · rcases List.mem_append.mp listed with inFront | inLater
    · rcases List.mem_map.mp inFront with ⟨reading, member, rfl⟩
      have bound := position_le_of_mem_scan reading member
      rw [← stop_of_mem_scan member] at bound
      exact Or.inl (Nat.le_antisymm bound ordered)
    · exact Or.inr ⟨token, inLater, rfl⟩

/-- Parts that end at cuts are read as if they were one text. -/
theorem flatMap_scanParts {parts : List Text}
    (cuts :
      ∀ stop ∈ partEnds state.position parts,
        IsCut state.position
          ((scan granularity state parts.flatten).map Reading.token)
          stop) :
    (scanParts granularity state parts).flatMap Prod.fst =
      scan granularity state parts.flatten := by
  induction parts generalizing state with
  | nil =>
      rw [List.flatten_nil, scan_nil]
      rfl
  | cons part rest inductionHypothesis =>
      have position := position_stateBehind_scan granularity state part
      rw [List.flatten_cons] at cuts ⊢
      rcases exists_split_of_isCut (cuts _ List.mem_cons_self) with
        ⟨earlier, later, split, texts⟩
      rcases scan_append split texts with ⟨read, readOn⟩
      rw [read] at position
      have tail :
          (scanParts granularity (stateBehind state earlier)
              rest).flatMap Prod.fst =
            later := by
        rw [← readOn]
        apply inductionHypothesis
        intro stop member
        rw [position] at member ⊢
        have isCut := cuts stop (List.mem_cons_of_mem _ member)
        rw [split, List.map_append, ← read] at isCut
        rw [readOn]
        exact isCut.behind (le_of_mem_partEnds member)
      rw [scanParts, List.flatMap_cons, read, tail, split]

/-- The parts make up the tokens of the text exactly if they end at cuts. -/
theorem map_token_scanParts_iff {parts : List Text} :
    ((scanParts granularity state parts).flatMap Prod.fst).map
          Reading.token =
        (scan granularity state parts.flatten).map Reading.token ↔
      ∀ stop ∈ partEnds state.position parts,
        IsCut state.position
          ((scan granularity state parts.flatten).map Reading.token)
          stop := by
  constructor
  · intro same stop member
    rw [← same]
    exact isCut_of_mem_partEnds stop member
  · intro cuts
    rw [flatMap_scanParts cuts]

/-- One token is read again from its own characters. -/
theorem scan_text_of_split {text : Text} {earlier later : List Reading}
    {reading : Reading}
    (split :
      scan granularity state text = earlier ++ reading :: later) :
    scan granularity (stateBehind state earlier) reading.text =
      [reading] := by
  have texts := flatMap_text_scan granularity state text
  rw [split, List.flatMap_append, List.flatMap_cons] at texts
  rw [← texts] at split
  rcases scan_append split rfl with ⟨-, readOn⟩
  have single :
      scan granularity (stateBehind state earlier)
          (reading.text ++ later.flatMap Reading.text) =
        [reading] ++ later := readOn
  apply (scan_append single _).1
  rw [List.flatMap_cons, List.flatMap_nil, List.append_nil]

end Parts

end CommentScan
