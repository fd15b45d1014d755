import CommentScan.Proofs.Lexeme.Marker
import CommentScan.Proofs.Registers.Match
import CommentScan.Proofs.Scanner.Reachable
import CommentScan.Session

/-!
# A scanner in registers

A scanner can be held in registers: a cursor, a state, the span of the current
token and a flag.  The position is kept three times then, in the cursor, in
the state and as the end of the token, and every operation has to bring all
three along.  It reads the buffer through the cursor alone, and checks what it
relies on as the cursor does.

`Scanner.registers` says which registers belong to a scanner.  For every
operation there is a lemma that leads from the registers of a scanner to those
of the scanner behind the operation, with the same answer and without a
breach, if the buffer and the depth fit in machine words.
-/

namespace CommentScan

/-- A span whose ends are in order. -/
def Span.checked (start stop : Nat) : Except Breach Span := do
  require (start ≤ stop) .spanReversed
  return ⟨start, stop⟩

theorem Span.checked_of_le {start stop : Nat} (ordered : start ≤ stop) :
    Span.checked start stop = .ok ⟨start, stop⟩ := by
  rw [Span.checked, require_of ordered]
  rfl

/--
The kind of the token that a lexeme becomes and the nesting behind it.  A
comment is opened outside all comments, and nested or closed inside one.
-/
def Role.dispatch (role : Role) (arithmetic : Arithmetic)
    (nesting : Nesting) : Except Breach (TokenKind × Nesting) :=
  match role with
  | plain => return (.plainContent, nesting)
  | lineComment => return (.lineComment, nesting)
  | emptyComment => return (.blockComment, nesting)
  | opener kind => do
      require (nesting.depth = 0) .opensInside
      return (kind.tokenKind, ⟨1, kind⟩)
  | nestedOpener => do
      require (0 < nesting.depth) .nestsOutside
      let depth ← arithmetic.add nesting.depth 1
      return (nesting.kind.tokenKind, ⟨depth, nesting.kind⟩)
  | closer => do
      require (0 < nesting.depth) .closesOutside
      return (nesting.kind.tokenKind, ⟨nesting.depth - 1, nesting.kind⟩)
  | commentBody => return (nesting.kind.tokenKind, nesting)

/-- A lexeme of the mode at hand finds what its effect relies on. -/
theorem Role.dispatch_of_mode {role : Role} {nesting : Nesting}
    (sameMode : role.mode = nesting.mode) (arithmetic : Arithmetic)
    (shallow : (role.apply nesting).depth ≤ wordLimit) :
    role.dispatch arithmetic nesting =
      .ok (role.tokenKind (role.apply nesting), role.apply nesting) := by
  have outside : role.mode = .outside → nesting.depth = 0 := by
    intro isOutside
    rw [← Nesting.mode_eq_outside_iff, ← sameMode, isOutside]
  have inside : role.mode = .inside → 0 < nesting.depth := by
    intro isInside
    rw [Nat.pos_iff_ne_zero, Ne, ← Nesting.mode_eq_outside_iff, ← sameMode,
      isInside]
    decide
  cases role with
  | plain | lineComment | emptyComment | commentBody => rfl
  | opener kind =>
      rw [dispatch, require_of (outside rfl)]
      rfl
  | nestedOpener =>
      rw [dispatch, require_of (inside rfl), arithmetic.add_of_le shallow]
      rfl
  | closer =>
      rw [dispatch, require_of (inside rfl)]
      rfl

/-- The offsets at which the characters of a text begin, counted from one. -/
def Text.offsetsFrom : Nat → Text → List Nat
  | _, [] => []
  | offset, character :: rest =>
      offset :: offsetsFrom (offset + character.utf8Size) rest

/-- The offset of a character of a text, or else its length. -/
def Text.characterOffset (text : Text) (index : Nat) : Nat :=
  (offsetsFrom 0 text)[index]?.getD (byteLength text)

theorem Text.getD_offsetsFrom (text : Text) (offset index : Nat) :
    (offsetsFrom offset text)[index]?.getD (offset + byteLength text) =
      offset + byteLength (text.take index) := by
  induction text generalizing offset index with
  | nil => simp [offsetsFrom]
  | cons character rest inductionHypothesis =>
      cases index with
      | zero => rfl
      | succ index =>
          rw [offsetsFrom, List.getElem?_cons_succ, List.take_succ_cons,
            byteLength_cons, byteLength_cons, ← Nat.add_assoc,
            ← Nat.add_assoc]
          exact inductionHypothesis _ _

theorem Text.characterOffset_eq (text : Text) (index : Nat) :
    text.characterOffset index = byteLength (text.take index) := by
  have first := getD_offsetsFrom text 0 index
  rw [Nat.zero_add, Nat.zero_add] at first
  exact first

/-- Where the token that a lexeme begins ends, for a cursor behind it. -/
def Cursor.tokenEnd (cursor : Cursor) (granularity : Granularity)
    (mode : Mode) (found : Match) :
    Except Breach (Except ScanError Nat × Cursor) :=
  if granularity = .merged && found.role.isMergeable then
    cursor.extendRun mode found.role
  else
    return (.ok found.stop, cursor)

/-- A token ends behind as many characters as its length says. -/
theorem Cursor.tokenEnd_of_reads {cursor : Cursor} {text : Text}
    (reads : cursor.Reads text) {lexeme : Lexeme}
    (bound : lexeme.length ≤ text.length) (granularity : Granularity)
    (mode : Mode) (start : Nat) :
    (cursor.skip (text.take lexeme.length)).tokenEnd granularity mode
        ⟨lexeme.role, start,
          (cursor.skip (text.take lexeme.length)).position⟩ =
      let behind :=
        cursor.skip (text.take (lexeme.tokenLength granularity mode text))
      .ok (.ok behind.position, behind) := by
  rw [tokenEnd, Lexeme.tokenLength]
  split
  · rw [← List.take_append_drop lexeme.length text] at reads
    have run := extendRun_of_reads reads mode lexeme.role
    rw [List.take_append_drop, List.length_take_of_le bound] at run
    exact run
  · rfl

/-- A scanner as it is held in registers. -/
structure Registers where
  cursor : Cursor
  state : ScanState
  granularity : Granularity
  token : Span
  endReported : Bool
  deriving DecidableEq, Repr

namespace Registers

/-- The registers at the start of a whole text. -/
def ofText (buffer : Text) (granularity : Granularity) :
    Except Breach Registers := do
  let cursor ← Cursor.place buffer 0 (Text.reachableLength buffer)
  let token ← Span.checked 0 0
  return ⟨cursor, .initial 0, granularity, token, false⟩

/--
The window between two offsets, moved into the buffer.  A window of which one
end splits a character is refused.
-/
def window (buffer : Text) (start stop : Nat) :
    Except WindowError (Nat × Nat) :=
  let stop := min stop (Text.reachableLength buffer)
  let start := min start stop
  if Text.IsBoundary buffer start ∧ Text.IsBoundary buffer stop then
    .ok (start, stop)
  else
    .error ⟨start, stop⟩

/-- Place the registers at a state in a window. -/
def rebind (registers : Registers) (buffer : Text) (stop : Nat)
    (state : ScanState) : Except Breach Registers := do
  let cursor ← Cursor.place buffer state.position stop
  let token ← Span.checked state.position state.position
  return {
    registers with
    cursor := cursor
    state := state
    token := token
    endReported := false }

/-- Place the registers on a window, with the least nesting of a mode. -/
def reset (registers : Registers) (buffer : Text) (start stop : Nat)
    (mode : Mode) : Except Breach (Reply × Registers) :=
  match window buffer start stop with
  | .error error => return (.misplaced error, registers)
  | .ok (start, stop) => do
      let after ← registers.rebind buffer stop (.ofMode start mode)
      return (.done, after)

/-- Place the registers on a window that starts in a saved state. -/
def resume (registers : Registers) (buffer : Text) (stop : Nat)
    (state : ScanState) : Except Breach (Reply × Registers) :=
  match window buffer state.position stop with
  | .error error => return (.misplaced error, registers)
  | .ok (start, stop) => do
      let after ← registers.rebind buffer stop ⟨start, state.nesting⟩
      return (.done, after)

/-- Resuming in a window keeps nothing of the registers but the options. -/
theorem resume_of_slice? (registers : Registers) {buffer unread : Text}
    {stop : Nat} {state : ScanState}
    (reaches :
      min stop (Text.reachableLength buffer) =
        min stop (Text.byteLength buffer))
    (sliced :
      Text.slice? buffer
          (min state.position (min stop (Text.byteLength buffer)))
          (min stop (Text.byteLength buffer)) =
        some unread) :
    registers.resume buffer stop state =
      let stop := min stop (Text.byteLength buffer)
      let start := min state.position stop
      .ok (.done,
        ⟨⟨buffer, start, stop⟩, ⟨start, state.nesting⟩,
          registers.granularity, ⟨start, start⟩, false⟩) := by
  rcases Text.bounds_of_slice? sliced with ⟨left, right, -, -⟩
  rw [resume, window, reaches]
  simp only [if_pos (And.intro left right), rebind, bind, Except.bind,
    Cursor.place_of_slice? sliced, Span.checked_of_le (Nat.le_refl _)]
  rfl

/-- A window of which one end splits a character is only refused. -/
theorem resume_of_slice?_eq_none (registers : Registers) {buffer : Text}
    {stop : Nat} {state : ScanState}
    (reaches :
      min stop (Text.reachableLength buffer) =
        min stop (Text.byteLength buffer))
    (sliced :
      Text.slice? buffer
          (min state.position (min stop (Text.byteLength buffer)))
          (min stop (Text.byteLength buffer)) =
        none) :
    registers.resume buffer stop state =
      let stop := min stop (Text.byteLength buffer)
      .ok (.misplaced ⟨min state.position stop, stop⟩, registers) := by
  have splits :
      ¬ (Text.IsBoundary buffer
            (min state.position (min stop (Text.byteLength buffer))) ∧
          Text.IsBoundary buffer (min stop (Text.byteLength buffer))) := by
    rintro ⟨left, right⟩
    rcases Text.exists_slice? left right (Nat.min_le_right _ _) with
      ⟨text, found⟩
    rw [sliced] at found
    cases found
  rw [resume, window, reaches]
  simp only [if_neg splits]
  rfl

/-- The registers with the cursor at another place. -/
def moveTo (registers : Registers) (cursor : Cursor) : Registers :=
  { registers with cursor := cursor }

/-- The registers at the end of the window. -/
def finish (registers : Registers) : Registers :=
  { registers with
    state := ⟨registers.cursor.position, registers.state.nesting⟩
    endReported := true }

/-- Make a lexeme that the cursor has matched into the next token. -/
def readToken (registers : Registers) (arithmetic : Arithmetic)
    (found : Match) :
    Except Breach (Except ScanError (Option Token) × Registers) := do
  let (kind, nesting) ←
    found.role.dispatch arithmetic registers.state.nesting
  let (stop, cursor) ←
    registers.cursor.tokenEnd registers.granularity nesting.mode found
  match stop with
  | .error error =>
      return (.error error, {
        registers with
        cursor := cursor
        state := ⟨registers.state.position, nesting⟩ })
  | .ok stop =>
      let span ← Span.checked found.start stop
      return (.ok (some ⟨kind, span⟩), {
        registers with
        cursor := cursor
        state := ⟨stop, nesting⟩
        token := span })

theorem readToken_of_ends {registers : Registers} {arithmetic : Arithmetic}
    {found : Match} {kind : TokenKind} {nesting : Nesting} {behind : Cursor}
    (dispatched :
      found.role.dispatch arithmetic registers.state.nesting =
        .ok (kind, nesting))
    (ends :
      registers.cursor.tokenEnd registers.granularity nesting.mode found =
        .ok (.ok behind.position, behind))
    (ordered : found.start ≤ behind.position) :
    registers.readToken arithmetic found =
      .ok (.ok (some ⟨kind, ⟨found.start, behind.position⟩⟩), {
        registers with
        cursor := behind
        state := ⟨behind.position, nesting⟩
        token := ⟨found.start, behind.position⟩ }) := by
  rw [readToken, dispatched]
  simp only [bind, Except.bind, ends, Span.checked_of_le ordered]
  rfl

/-- Read the next token, or report the end of the window. -/
def tryAdvance (registers : Registers) (arithmetic : Arithmetic) :
    Except Breach (Except ScanError (Option Token) × Registers) := do
  let (found, cursor) ←
    registers.cursor.longestMatch registers.state.nesting.mode
  match found with
  | .error error => return (.error error, registers.moveTo cursor)
  | .ok none => return (.ok none, (registers.moveTo cursor).finish)
  | .ok (some found) =>
      (registers.moveTo cursor).readToken arithmetic found

/-- The characters of the current token. -/
def tokenText (registers : Registers) : Except Breach Text :=
  registers.cursor.slice registers.token.start registers.token.stop

/-- The character at an index of the current token. -/
def charAt (registers : Registers) (index : Nat) :
    Except Breach (Option Char) := do
  let text ← registers.tokenText
  return text[index]?

/-- End the current token some bytes behind its start. -/
def cutToken (registers : Registers) (cut : Nat) :
    Except Breach Registers := do
  let stop ← checkedAdd registers.token.start cut
  let token ← Span.checked registers.token.start stop
  let cursor ←
    Cursor.place registers.cursor.buffer stop registers.cursor.windowEnd
  return {
    registers with
    cursor := cursor
    state := ⟨stop, registers.state.nesting⟩
    token := token
    endReported := false }

theorem cutToken_of_slice? {registers : Registers} {cut : Nat} {text : Text}
    (fits : registers.token.start + cut ≤ wordLimit)
    (window :
      Text.slice? registers.cursor.buffer (registers.token.start + cut)
          registers.cursor.windowEnd =
        some text) :
    registers.cutToken cut =
      .ok {
        registers with
        cursor := {
          registers.cursor with
          position := registers.token.start + cut }
        state := ⟨registers.token.start + cut, registers.state.nesting⟩
        token := ⟨registers.token.start, registers.token.start + cut⟩
        endReported := false } := by
  rw [cutToken, checkedAdd_of_le fits]
  simp only [bind, Except.bind, Span.checked_of_le (Nat.le_add_right _ _),
    Cursor.place_of_slice? window]
  rfl

/-- Give the last characters of the current token back to the window. -/
def pushBack (registers : Registers) (count : Nat) :
    Except Breach (Except ScanError Unit × Registers) := do
  let text ← registers.tokenText
  let available := text.length
  if available < count then
    return (.error (.pushbackTooLarge count available), registers)
  else
    let after ← registers.cutToken (text.characterOffset (available - count))
    return (.ok (), after)

end Registers

/-! ## The registers of a scanner -/

namespace Scanner

/-- The registers that hold a scanner. -/
def registers (scanner : Scanner) : Registers where
  cursor := ⟨scanner.buffer, scanner.position, scanner.windowEnd⟩
  state := scanner.state
  granularity := scanner.granularity
  token := scanner.tokenSpan
  endReported := scanner.endReported

/-- A scanner that is in place and whose offsets fit in machine words. -/
structure Fits (scanner : Scanner) : Prop where
  placed : scanner.IsPlaced
  words : scanner.windowEnd ≤ wordLimit

variable {scanner : Scanner}

theorem windowEnd_le (placed : scanner.IsPlaced) :
    scanner.windowEnd ≤ Text.byteLength scanner.buffer :=
  (Text.bounds_of_slice? placed).2.2.2

theorem IsPlaced.fits (placed : scanner.IsPlaced)
    (small : Text.byteLength scanner.buffer ≤ wordLimit) : scanner.Fits :=
  ⟨placed, Nat.le_trans (windowEnd_le placed) small⟩

namespace Fits

/-- The cursor stands in front of what the scanner has not read. -/
theorem reads (fits : scanner.Fits) :
    scanner.registers.cursor.Reads scanner.unread :=
  ⟨fits.placed.unread, fits.words⟩

theorem tokenText (fits : scanner.Fits) :
    scanner.registers.tokenText = .ok scanner.tokenText :=
  Cursor.slice_of_slice? fits.placed.tokenText

theorem charAt (fits : scanner.Fits) (index : Nat) :
    scanner.registers.charAt index = .ok (scanner.charAt? index) := by
  rw [Registers.charAt, fits.tokenText]
  rfl

/-- The cursor of a token that has been read stands behind its characters. -/
theorem cursor_read (scanner : Scanner) (lexeme : Lexeme) :
    (scanner.read lexeme).registers.cursor =
      scanner.registers.cursor.skip
        (scanner.unread.take
          (lexeme.tokenLength scanner.granularity
            (lexeme.role.apply scanner.nesting).mode scanner.unread)) := by
  rw [registers, windowEnd_read]
  simp only [read, List.splitAt_eq]
  rfl

/-- Reading a token takes the registers to those behind it. -/
theorem readToken (fits : scanner.Fits) (arithmetic : Arithmetic)
    {lexeme : Lexeme}
    (found : Lexeme.longest? scanner.mode scanner.unread = some lexeme)
    (shallow : (scanner.read lexeme).nesting.depth ≤ wordLimit) :
    (scanner.registers.moveTo
          (scanner.registers.cursor.skip
            (scanner.unread.take lexeme.length))).readToken arithmetic
        ⟨lexeme.role, scanner.position,
          (scanner.registers.cursor.skip
            (scanner.unread.take lexeme.length)).position⟩ =
      .ok
        (.ok (some
          ⟨lexeme.role.tokenKind (scanner.read lexeme).nesting,
            (scanner.read lexeme).tokenSpan⟩),
          (scanner.read lexeme).registers) := by
  have dispatched :=
    Role.dispatch_of_mode (Lexeme.mode_eq_of_longest? found) arithmetic
      shallow
  have ends :=
    Cursor.tokenEnd_of_reads fits.reads (Lexeme.longest?_length found).2
      scanner.granularity (lexeme.role.apply scanner.nesting).mode
      scanner.position
  rw [← cursor_read] at ends
  have ordered :
      scanner.position ≤ (scanner.read lexeme).registers.cursor.position :=
    Nat.le_add_right _ _
  exact
    @Registers.readToken_of_ends (scanner.registers.moveTo _) _ _ _ _ _
      dispatched ends ordered

/-- Reading on takes the registers to those behind the token. -/
theorem tryAdvance (fits : scanner.Fits) (arithmetic : Arithmetic)
    (shallow : scanner.advance.2.nesting.depth ≤ wordLimit) :
    scanner.registers.tryAdvance arithmetic =
      .ok (.ok scanner.advance.1, scanner.advance.2.registers) := by
  have reads := fits.reads
  cases found : Lexeme.longest? scanner.mode scanner.unread with
  | none =>
      have finished := Lexeme.longest?_eq_none_iff.mp found
      rw [finished] at reads
      have matched :
          scanner.registers.cursor.longestMatch
              scanner.registers.state.nesting.mode =
            .ok (.ok none, scanner.registers.cursor) :=
        Cursor.longestMatch_of_finished reads _
      rw [Registers.tryAdvance, matched, advance_of_nil finished]
      rfl
  | some lexeme =>
      rw [advance_of_longest found] at shallow ⊢
      rw [← fits.readToken arithmetic found shallow, Registers.tryAdvance]
      have matched := Cursor.longestMatch_of_longest reads found
      show (scanner.registers.cursor.longestMatch scanner.mode >>= _) = _
      rw [matched]
      rfl

/-- Giving characters back takes the registers along, or leaves them. -/
theorem pushBack (fits : scanner.Fits) (count : Nat) :
    scanner.registers.pushBack count =
      .ok
        (match scanner.pushBack count with
        | .ok after => (.ok (), after.registers)
        | .error error => (.error error, scanner.registers)) := by
  rw [Registers.pushBack, fits.tokenText]
  cases pushed : scanner.pushBack count with
  | error error =>
      rcases pushBack_eq_error_iff.mp pushed with ⟨tooMany, rfl⟩
      simp only [bind, Except.bind, if_pos tooMany]
      rfl
  | ok after =>
      have placed := fits.placed.pushBack pushed
      have sameEnd := windowEnd_pushBack pushed
      rcases pushBack_eq_ok_iff.mp pushed with
        ⟨kept, returned, whole, rfl, rfl⟩
      have enough : ¬ scanner.tokenText.length < returned.length := by
        rw [whole, List.length_append]
        omega
      have offset :
          scanner.tokenText.characterOffset
              (scanner.tokenText.length - returned.length) =
            Text.byteLength kept := by
        rw [Text.characterOffset_eq, whole, List.length_append,
          Nat.add_sub_cancel, List.take_left]
      have within :
          scanner.tokenStart + Text.byteLength kept ≤ wordLimit := by
        have small := fits.words
        rw [← sameEnd] at small
        simp only [windowEnd, position] at small
        omega
      have window := placed.unread
      rw [sameEnd] at window
      have cut :=
        @Registers.cutToken_of_slice? scanner.registers _ _ within window
      simp only [bind, Except.bind, if_neg enough, offset, cut]
      simp only [registers, sameEnd]
      rfl

end Fits

/-- The registers of a fresh scanner. -/
theorem registers_ofText {buffer : Text} (granularity : Granularity)
    (fits : Text.byteLength buffer ≤ wordLimit) :
    Registers.ofText buffer granularity =
      .ok (ofText buffer granularity).registers := by
  have whole : Text.reachableLength buffer = Text.byteLength buffer :=
    Nat.min_eq_left fits
  have place := Cursor.place_of_slice? (Text.slice?_whole buffer)
  rw [Registers.ofText, whole, place]
  simp only [bind, Except.bind, Span.checked_of_le (Nat.le_refl 0)]
  rw [registers, windowEnd_ofText fits]
  rfl

/-- Resuming takes the registers to the window, or leaves them. -/
theorem registers_resume (scanner : Scanner) {buffer : Text}
    (fits : Text.byteLength buffer ≤ wordLimit) (stop : Nat)
    (state : ScanState) :
    scanner.registers.resume buffer stop state =
      .ok
        (match scanner.resume buffer stop state with
        | .ok after => (.done, after.registers)
        | .error error => (.misplaced error, scanner.registers)) := by
  have reaches :
      min stop (Text.reachableLength buffer) =
        min stop (Text.byteLength buffer) := by
    rw [Text.reachableLength, Nat.min_eq_left fits]
  rw [resume, ofWindow]
  cases sliced :
      Text.slice? buffer
        (min state.position (min stop (Text.byteLength buffer)))
        (min stop (Text.byteLength buffer)) with
  | none => exact Registers.resume_of_slice?_eq_none _ reaches sliced
  | some unread =>
      have far := (Text.bounds_of_slice? sliced).2.2.1
      rw [Registers.resume_of_slice? _ reaches sliced]
      simp only [registers, windowEnd, position, Text.byteLength_nil,
        Nat.add_zero, ← far]
      rfl

/-- Placing on a window takes the registers there, or leaves them. -/
theorem registers_reset (scanner : Scanner) {buffer : Text}
    (fits : Text.byteLength buffer ≤ wordLimit) (start stop : Nat)
    (mode : Mode) :
    scanner.registers.reset buffer start stop mode =
      .ok
        (match scanner.reset buffer start stop mode with
        | .ok after => (.done, after.registers)
        | .error error => (.misplaced error, scanner.registers)) :=
  scanner.registers_resume fits stop (.ofMode start mode)

end Scanner

end CommentScan
