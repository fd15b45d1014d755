import CommentScan.Proofs.Scanner.Parts
import CommentScan.Proofs.Scanner.Reachable

/-!
# Scanning in chunks

A window can be scanned in chunks: read up to a cut, resume from the state
that was reached up to the next one, and so on to the end.  `drainChunks` does
so with the operations of the scanner, and `drainChunks_of_slice?` says that
it reads the parts of the window in the sense of `scanParts`.

`drainChunks_exact` is the result: the chunks make up the single scan exactly
if they end at its token boundaries, and then every chunk ends in the state
that the single scan has there.
-/

namespace CommentScan

/-- Offsets in order that are boundaries cut a text into parts. -/
theorem exists_parts {buffer : Text} {start : Nat} {stops : List Nat}
    (startBoundary : Text.IsBoundary buffer start)
    (boundaries : ∀ stop ∈ stops, Text.IsBoundary buffer stop)
    (ordered : (start :: stops).Pairwise (· ≤ ·)) :
    ∃ parts,
      partEnds start parts = stops ∧
        Text.slice? buffer start
            (start + Text.byteLength parts.flatten) =
          some parts.flatten := by
  induction stops generalizing start with
  | nil =>
      refine ⟨[], rfl, ?_⟩
      rcases Text.exists_slice? startBoundary startBoundary
          (Nat.le_refl start) with
        ⟨part, sliced⟩
      have far := (Text.bounds_of_slice? sliced).2.2.1
      have empty : part = [] :=
        Text.eq_nil_of_byteLength_eq_zero (Nat.add_eq_left.mp far.symm)
      rw [empty] at sliced
      exact sliced
  | cons stop rest inductionHypothesis =>
      rcases List.forall_mem_cons.mp boundaries with
        ⟨stopBoundary, restBoundaries⟩
      rcases List.pairwise_cons.mp ordered with ⟨behind, restOrdered⟩
      rcases Text.exists_slice? startBoundary stopBoundary
          (behind stop List.mem_cons_self) with
        ⟨part, sliced⟩
      have far := (Text.bounds_of_slice? sliced).2.2.1
      rcases inductionHypothesis stopBoundary restBoundaries
          restOrdered with
        ⟨parts, ends, restSliced⟩
      subst far
      refine ⟨part :: parts, ?_, ?_⟩
      · rw [partEnds, ends]
      · rw [List.flatten_cons, Text.byteLength_append, ← Nat.add_assoc]
        exact Text.slice?_append_iff.mpr ⟨sliced, restSliced⟩

namespace Scanner

/--
Read the window of a buffer from a state up to the first of some offsets,
resume from the state reached up to the next one, and so on.
-/
def drainChunks :
    Scanner → Text → ScanState → List Nat →
      Except WindowError (List (List Step × Scanner))
  | _, _, _, [] => .ok []
  | scanner, buffer, state, stop :: rest => do
      let resumed ← scanner.resume buffer stop state
      let finished := resumed.drain.2
      let later ← drainChunks finished buffer finished.state rest
      return resumed.drain :: later

/-- Scanning in chunks reads the parts between the offsets. -/
theorem drainChunks_of_slice? (scanner : Scanner) {buffer : Text}
    {state : ScanState} {parts : List Text}
    (window :
      Text.slice? buffer state.position
          (state.position + Text.byteLength parts.flatten) =
        some parts.flatten) :
    ∃ chunks,
      scanner.drainChunks buffer state (partEnds state.position parts) =
          .ok chunks ∧
        chunks.map (fun chunk =>
            (chunk.1.map Step.reading, chunk.2.state)) =
          scanParts scanner.granularity state parts := by
  induction parts generalizing scanner state with
  | nil => exact ⟨[], rfl, rfl⟩
  | cons part rest inductionHypothesis =>
      rw [List.flatten_cons, Text.byteLength_append,
        ← Nat.add_assoc] at window
      rcases Text.slice?_append_iff.mp window with ⟨first, behind⟩
      rcases scanner.exists_resume_drain first with
        ⟨resumed, placed, -, granularity, readings, finished⟩
      have position :=
        position_stateBehind_scan scanner.granularity state part
      rw [← finished] at position
      rw [← position] at behind
      rcases inductionHypothesis resumed.drain.2 behind with
        ⟨chunks, drained, chunksEq⟩
      rw [granularity, finished] at chunksEq
      refine ⟨resumed.drain :: chunks, ?_, ?_⟩
      · rw [partEnds, drainChunks, placed, ← position]
        change
          (resumed.drain.2.drainChunks buffer resumed.drain.2.state _ >>=
              fun later => pure (resumed.drain :: later)) =
            _
        rw [drained]
        rfl
      · rw [List.map_cons, chunksEq, readings, finished]
        rfl

/--
Scanning the window of one token again, from the state in front of it, reads
that token and then meets the end.
-/
def Rescans (scanner : Scanner) (buffer : Text) (before : ScanState)
    (reading : Reading) : Prop :=
  ∃ again after finished,
    scanner.resume buffer reading.token.span.stop before = .ok again ∧
      again.tryAdvance = .ok (some reading.token, after) ∧
      after.tokenText = reading.text ∧ after.state = reading.state ∧
      after.tryAdvance = .ok (none, finished)

/-- The window of a token lies in the window that is scanned. -/
theorem slice?_of_split {granularity : Granularity} {buffer text : Text}
    {state : ScanState} {stop : Nat} {earlier later : List Reading}
    {reading : Reading}
    (window : Text.slice? buffer state.position stop = some text)
    (split : scan granularity state text = earlier ++ reading :: later) :
    Text.slice? buffer (stateBehind state earlier).position
        reading.token.span.stop =
      some reading.text := by
  have member : reading ∈ scan granularity state text := by
    rw [split]
    exact List.mem_append_right earlier List.mem_cons_self
  have single := scan_text_of_split split
  have texts := flatMap_text_scan granularity state text
  rw [split, List.flatMap_append, List.flatMap_cons] at texts
  rw [← texts] at window split
  have start :=
    position_stateBehind_scan granularity state
      (earlier.flatMap Reading.text)
  have tokenStop :=
    position_stateBehind_scan granularity (stateBehind state earlier)
      reading.text
  rw [(scan_append split rfl).1] at start
  rw [single] at tokenStop
  rcases Text.slice?_append_iff.mp window with ⟨-, behind⟩
  rcases Text.slice?_append_iff.mp behind with ⟨inWindow, -⟩
  rw [← start, ← tokenStop] at inWindow
  rw [stop_of_mem_scan member]
  exact inWindow

/-- Where one token is left, reading on reads it and then meets the end. -/
theorem advance_of_single {scanner : Scanner} {reading : Reading}
    (single : scanner.readings = [reading]) :
    ∃ after finished,
      scanner.tryAdvance = .ok (some reading.token, after) ∧
        after.tokenText = reading.text ∧ after.state = reading.state ∧
        after.tryAdvance = .ok (none, finished) := by
  rcases advance_of_readings single with
    ⟨after, advanced, text, state, nothing⟩
  have finished := scan_eq_nil_iff.mp nothing
  have atEnd := after.tryAdvance_eq
  rw [advance_of_nil finished] at atEnd
  exact ⟨after, _, advanced, text, state, atEnd⟩

theorem rescans_of_split (scanner : Scanner) {buffer text : Text}
    {state : ScanState} {stop : Nat} {earlier later : List Reading}
    {reading : Reading}
    (window : Text.slice? buffer state.position stop = some text)
    (split :
      scan scanner.granularity state text = earlier ++ reading :: later) :
    scanner.Rescans buffer (stateBehind state earlier) reading := by
  rcases scanner.exists_resume (slice?_of_split window split) with
    ⟨again, placed, granularity, sameState, unread⟩
  have single : again.readings = [reading] := by
    rw [readings, granularity, sameState, unread, scan_text_of_split split]
  rcases advance_of_single single with
    ⟨after, finished, advanced, text, state, atEnd⟩
  exact ⟨again, after, finished, placed, advanced, text, state, atEnd⟩

/-! ## Chunks and the single scan -/

/-- The tokens of some chunks, one after another. -/
def chunkTokens (chunks : List (List Step × Scanner)) : List Token :=
  chunks.flatMap fun chunk => chunk.1.map Step.token

/-- What is seen of the tokens of some chunks. -/
def chunkReadings (chunks : List (List Step × Scanner)) : List Reading :=
  chunks.flatMap fun chunk => chunk.1.map Step.reading

/--
Every chunk ends in the state of the single scan at that place: in the first
state if the window starts there, and else in the one behind the token.
-/
def AgreesWith (chunks : List (List Step × Scanner)) (state : ScanState)
    (whole : List Step) : Prop :=
  ∀ chunk ∈ chunks,
    (chunk.2.position = state.position → chunk.2.state = state) ∧
      ∀ step ∈ whole, step.token.span.stop = chunk.2.position →
        chunk.2.state = step.after.state

theorem map_token_chunkReadings (chunks : List (List Step × Scanner)) :
    (chunkReadings chunks).map Reading.token = chunkTokens chunks := by
  rw [chunkReadings, List.map_flatMap]
  simp only [List.map_map]
  rfl

/-- Some chunks are what is read of the parts of a window. -/
structure ReadsParts (whole : Scanner) (parts : List Text)
    (chunks : List (List Step × Scanner)) : Prop where
  window : whole.unread = parts.flatten
  read :
    chunks.map (fun chunk => (chunk.1.map Step.reading, chunk.2.state)) =
      scanParts whole.granularity whole.state parts

namespace ReadsParts

variable {whole : Scanner} {parts : List Text}
  {chunks : List (List Step × Scanner)}

theorem flatMap_fst (readsParts : whole.ReadsParts parts chunks) :
    (scanParts whole.granularity whole.state parts).flatMap Prod.fst =
      chunkReadings chunks := by
  rw [← readsParts.read, List.flatMap_map]
  rfl

theorem scan_flatten (readsParts : whole.ReadsParts parts chunks) :
    scan whole.granularity whole.state parts.flatten =
      whole.drain.1.map Step.reading := by
  rw [drain_readings, readings, readsParts.window]

/-- The chunks make up the single scan exactly if they end at cuts. -/
theorem tokens_eq_iff (readsParts : whole.ReadsParts parts chunks) :
    chunkTokens chunks = whole.drain.1.map Step.token ↔
      ∀ stop ∈ partEnds whole.position parts,
        IsCut whole.position (whole.drain.1.map Step.token) stop := by
  have tokens :
      whole.drain.1.map Step.token =
        (scan whole.granularity whole.state parts.flatten).map
          Reading.token := by
    rw [readsParts.scan_flatten, List.map_map]
    rfl
  rw [tokens, ← map_token_chunkReadings, ← readsParts.flatMap_fst]
  exact map_token_scanParts_iff

theorem readings_eq (readsParts : whole.ReadsParts parts chunks)
    (same : chunkTokens chunks = whole.drain.1.map Step.token) :
    chunkReadings chunks = whole.drain.1.map Step.reading := by
  rw [← readsParts.flatMap_fst, ← readsParts.scan_flatten]
  apply flatMap_scanParts
  intro stop member
  have isCut := readsParts.tokens_eq_iff.mp same stop member
  rw [readsParts.scan_flatten, List.map_map]
  exact isCut

theorem agreesWith (readsParts : whole.ReadsParts parts chunks)
    (same : chunkReadings chunks = whole.drain.1.map Step.reading) :
    AgreesWith chunks whole.state whole.drain.1 := by
  intro chunk member
  have inParts :
      (chunk.1.map Step.reading, chunk.2.state) ∈
        scanParts whole.granularity whole.state parts := by
    rw [← readsParts.read]
    exact List.mem_map.mpr ⟨chunk, member, rfl⟩
  have behind := state_of_mem_scanParts _ inParts
  rw [readsParts.flatMap_fst, same, drain_readings] at behind
  constructor
  · intro atStart
    rcases behind with first | ⟨reading, listed, state⟩
    · exact first
    · have later := position_lt_of_mem_scan reading listed
      rw [state] at later
      exact absurd atStart.symm (Nat.ne_of_lt later)
  · intro step isStep position
    have stepRead : step.reading ∈ whole.readings := by
      rw [← drain_readings]
      exact List.mem_map_of_mem isStep
    have stop : step.reading.state.position = chunk.2.position := by
      rw [← stop_of_mem_scan stepRead]
      exact position
    rcases behind with first | ⟨reading, listed, state⟩
    · have later := position_lt_of_mem_scan step.reading stepRead
      rw [← first] at later
      exact absurd stop.symm (Nat.ne_of_lt later)
    · have sameStop :
          reading.state.position = step.reading.state.position := by
        rw [state]
        exact stop.symm
      have equal := eq_of_position_eq listed stepRead sameStop
      rw [equal] at state
      exact state.symm

theorem positions (readsParts : whole.ReadsParts parts chunks) :
    chunks.map (fun chunk => chunk.2.position) =
      partEnds whole.position parts := by
  have ends := @positions_scanParts whole.granularity whole.state parts
  rw [← readsParts.read, List.map_map] at ends
  exact ends

/-- The end of the window is a cut in any case. -/
theorem isCut_windowEnd (readsParts : whole.ReadsParts parts chunks) :
    IsCut whole.position (whole.drain.1.map Step.token)
      (whole.position + Text.byteLength parts.flatten) := by
  have isCut :=
    @isCut_end whole.granularity whole.state parts.flatten
  rw [readsParts.scan_flatten, List.map_map] at isCut
  exact isCut

end ReadsParts

/-- Boundaries in order cut a window into parts that the chunks read. -/
theorem exists_readsParts (scanner : Scanner) {buffer : Text}
    {state : ScanState} {cuts : List Nat} {stop : Nat}
    (boundaries :
      ∀ offset ∈ state.position :: (cuts ++ [stop]),
        Text.IsBoundary buffer offset)
    (ordered : (state.position :: (cuts ++ [stop])).Pairwise (· ≤ ·)) :
    ∃ whole parts chunks,
      scanner.resume buffer stop state = .ok whole ∧
        scanner.drainChunks buffer state (cuts ++ [stop]) = .ok chunks ∧
        whole.granularity = scanner.granularity ∧
        whole.state = state ∧
        Text.slice? buffer state.position stop = some parts.flatten ∧
        partEnds state.position parts = cuts ++ [stop] ∧
        whole.ReadsParts parts chunks := by
  rcases exists_parts (boundaries _ List.mem_cons_self)
      (fun stop member => boundaries stop (List.mem_cons_of_mem _ member))
      ordered with
    ⟨parts, ends, window⟩
  rcases scanner.drainChunks_of_slice? window with ⟨chunks, drained, read⟩
  rw [← stop_of_partEnds ends] at window
  rcases scanner.exists_resume window with
    ⟨whole, placed, granularity, sameState, unread⟩
  rw [ends] at drained
  refine ⟨whole, parts, chunks, placed, drained, granularity, sameState,
    window, ends, unread, ?_⟩
  rw [granularity, sameState]
  exact read

/--
A window that is scanned in chunks.  The chunks end at the offsets given, and
they make up the tokens of the single scan exactly if every cut is a token
boundary of it or an end of the window.  Then everything seen of the tokens is
the same, and so is the state at every cut.  And a window of the single scan
that holds one token is scanned again to that token alone.
-/
theorem drainChunks_exact (scanner : Scanner) {buffer : Text}
    {state : ScanState} {cuts : List Nat} {stop : Nat}
    (boundaries :
      ∀ offset ∈ state.position :: (cuts ++ [stop]),
        Text.IsBoundary buffer offset)
    (ordered : (state.position :: (cuts ++ [stop])).Pairwise (· ≤ ·)) :
    ∃ whole chunks,
      scanner.resume buffer stop state = .ok whole ∧
        scanner.drainChunks buffer state (cuts ++ [stop]) = .ok chunks ∧
        chunks.map (fun chunk => chunk.2.position) = cuts ++ [stop] ∧
        (chunkTokens chunks = whole.drain.1.map Step.token ↔
          ∀ cut ∈ cuts,
            cut = stop ∨
              IsCut state.position (whole.drain.1.map Step.token) cut) ∧
        (chunkTokens chunks = whole.drain.1.map Step.token →
          chunkReadings chunks = whole.drain.1.map Step.reading ∧
            AgreesWith chunks state whole.drain.1) ∧
        ∀ earlier step later,
          whole.drain.1 = earlier ++ step :: later →
            scanner.Rescans buffer
              (stateBehind state (earlier.map Step.reading))
              step.reading := by
  rcases scanner.exists_readsParts boundaries ordered with
    ⟨whole, parts, chunks, placed, drained, granularity, sameState, window,
      ends, readsParts⟩
  have start : whole.position = state.position :=
    congrArg ScanState.position sameState
  have isEnd := readsParts.isCut_windowEnd
  have iff := readsParts.tokens_eq_iff
  have positions := readsParts.positions
  rw [start, ← stop_of_partEnds ends] at isEnd
  rw [start, ends] at iff positions
  refine ⟨whole, chunks, placed, drained, positions, ?_, ?_, ?_⟩
  · rw [iff]
    constructor
    · intro all cut member
      exact Or.inr (all cut (List.mem_append_left _ member))
    · intro all cut member
      rcases List.mem_append.mp member with isCut | isStop
      · rcases all cut isCut with rfl | inside
        · exact isEnd
        · exact inside
      · rw [List.mem_singleton.mp isStop]
        exact isEnd
  · intro same
    have readings := readsParts.readings_eq same
    have agrees := readsParts.agreesWith readings
    rw [sameState] at agrees
    exact ⟨readings, agrees⟩
  · intro earlier step later split
    have scanned := readsParts.scan_flatten
    rw [granularity, sameState, split, List.map_append,
      List.map_cons] at scanned
    exact scanner.rescans_of_split window scanned

/-- A line comment is scanned in a chunk of its own. -/
theorem drainChunks_exact_lineComment :
    ∃ whole chunks,
      (ofText [] .lexemes).resume ['a', '/', '/', 'x'] 4 .start = .ok whole ∧
        (ofText [] .lexemes).drainChunks ['a', '/', '/', 'x'] .start [1, 4] =
          .ok chunks ∧
        chunkReadings chunks = whole.drain.1.map Step.reading := by
  have boundaries :
      ∀ offset ∈ [0, 1, 4],
        Text.IsBoundary ['a', '/', '/', 'x'] offset := by
    intro offset member
    simp only [List.mem_cons, List.not_mem_nil, or_false] at member
    rcases member with rfl | rfl | rfl
    · exact ⟨0, rfl⟩
    · exact ⟨1, rfl⟩
    · exact ⟨4, rfl⟩
  rcases @drainChunks_exact (ofText [] .lexemes) ['a', '/', '/', 'x'] .start
      [1] 4 boundaries (by decide) with
    ⟨whole, chunks, placed, drained, -, exact, same, -⟩
  have window :
      (ofText [] .lexemes).resume ['a', '/', '/', 'x'] 4 .start =
        .ok (ofText ['a', '/', '/', 'x'] .lexemes) := rfl
  have advanced :
      (ofText ['a', '/', '/', 'x'] .lexemes).advance =
        (some ⟨.plainContent, ⟨0, 1⟩⟩,
          { ofText ['a', '/', '/', 'x'] .lexemes with
            tokenText := ['a']
            unread := ['/', '/', 'x'] }) := rfl
  rw [window, Except.ok.injEq] at placed
  subst placed
  refine ⟨_, chunks, window, drained, (same (exact.mpr ?_)).1⟩
  intro cut member
  rw [List.mem_singleton.mp member, drain_of_some advanced, List.map_cons]
  exact Or.inr (Or.inr ⟨_, List.mem_cons_self, rfl⟩)

end Scanner

end CommentScan
