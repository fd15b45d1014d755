import CommentScan.Proofs.Scanner.Relocation
import CommentScan.Proofs.Session.Moves
import CommentScan.Proofs.Session.Resumption

/-!
# What lies outside a window

A scanner reads nothing but the characters of its window.  So a window of a
longer buffer is read like a buffer that holds these characters alone, except
that every offset is larger by the offset at which the window starts.

`Scanner.relocate` takes a scanner to another buffer, further behind.  Every
call that stays in the window commutes with it: the replies and all that is
seen of the scanner are shifted, and the scanner behind the call is relocated.
`observeWindow_confined` draws the conclusion for any calls, and for two
buffers that agree on a window.
-/

namespace CommentScan

/-! ## Shifting what is seen -/

/-- A span that lies further behind by some bytes. -/
def Span.shift (offset : Nat) (span : Span) : Span :=
  ⟨span.start + offset, span.stop + offset⟩

/-- A state further behind by some bytes. -/
def ScanState.shift (offset : Nat) (state : ScanState) : ScanState :=
  ⟨state.position + offset, state.nesting⟩

/-- An error about a place further behind by some bytes. -/
def ScanError.shift (offset : Nat) : ScanError → ScanError
  | .noMatch position => .noMatch (position + offset)
  | .pushbackTooLarge requested available =>
      .pushbackTooLarge requested available

/-- A window error about offsets larger by some bytes. -/
def WindowError.shift (offset : Nat) (error : WindowError) : WindowError :=
  ⟨error.start + offset, error.stop + offset⟩

/-- A reply with all offsets larger by some bytes. -/
def Reply.shift (offset : Nat) : Reply → Reply
  | .token result => .token (result.map (Token.shift offset))
  | .tokens results => .tokens (results.map (Token.shift offset))
  | .saved state => .saved (state.shift offset)
  | .refused error => .refused (error.shift offset)
  | .misplaced error => .misplaced (error.shift offset)
  | .done => .done
  | .character result => .character result
  | .copies count => .copies count
  | .unknown => .unknown

/-- What is seen of a scanner further behind by some bytes. -/
def Surroundings.shift (offset : Nat) (seen : Surroundings) :
    Surroundings where
  position := seen.position + offset
  windowEnd := seen.windowEnd + offset
  depth := seen.depth
  mode := seen.mode
  kind := seen.kind
  state := seen.state.shift offset

/-- What is seen of a token further behind by some bytes. -/
def CurrentToken.shift (offset : Nat) (seen : CurrentToken) :
    CurrentToken where
  span := seen.span.shift offset
  text := seen.text
  charAt? := seen.charAt?

/-- What is seen of a call, with all offsets larger by some bytes. -/
def Session.Observation.shift (offset : Nat) (seen : Session.Observation) :
    Session.Observation where
  reply := seen.reply.shift offset
  surroundings := seen.surroundings.shift offset
  currentToken := seen.currentToken.shift offset

/-! ## Scanners of another buffer -/

namespace Scanner

/-- The scanner with the same window further behind in another buffer. -/
def relocate (buffer : Text) (offset : Nat) (scanner : Scanner) : Scanner :=
  { scanner with
    buffer := buffer
    tokenStart := scanner.tokenStart + offset }

variable (buffer : Text) (offset : Nat) (scanner : Scanner)

@[simp]
theorem position_relocate :
    (scanner.relocate buffer offset).position =
      scanner.position + offset :=
  Nat.add_right_comm _ _ _

@[simp]
theorem windowEnd_relocate :
    (scanner.relocate buffer offset).windowEnd =
      scanner.windowEnd + offset := by
  rw [windowEnd, position_relocate]
  exact Nat.add_right_comm _ _ _

theorem surroundings_relocate :
    (scanner.relocate buffer offset).surroundings =
      scanner.surroundings.shift offset := by
  simp only [surroundings, Surroundings.shift, ScanState.shift, state,
    position_relocate, windowEnd_relocate]
  rfl

theorem currentToken_relocate :
    (scanner.relocate buffer offset).currentToken =
      scanner.currentToken.shift offset := by
  simp only [currentToken, CurrentToken.shift, Span.shift, tokenSpan,
    position_relocate]
  rfl

theorem behind_relocate (piece : Piece) :
    (scanner.relocate buffer offset).behind piece =
      (scanner.behind piece).relocate buffer offset := by
  rw [behind, position_relocate]
  rfl

/-- Tokens are read alike in both buffers, further behind in the other. -/
theorem advance_relocate :
    (scanner.relocate buffer offset).advance =
      (scanner.advance.1.map (Token.shift offset),
        scanner.advance.2.relocate buffer offset) := by
  cases found :
      Piece.first? scanner.granularity scanner.nesting scanner.unread with
  | none =>
      have finished := Piece.first?_eq_none_iff.mp found
      rw [advance_of_nil finished,
        @advance_of_nil (scanner.relocate buffer offset) finished]
      rfl
  | some piece =>
      rw [advance_of_first? found,
        @advance_of_first? (scanner.relocate buffer offset) piece found,
        behind_relocate, position_relocate]
      simp only [Option.map_some, Piece.readingAt, Token.shift,
        Nat.add_right_comm]

/-- Characters are given back alike in both buffers. -/
theorem pushBack_relocate (count : Nat) :
    (scanner.relocate buffer offset).pushBack count =
      (scanner.pushBack count).map (relocate buffer offset) := by
  cases pushed : scanner.pushBack count with
  | error error =>
      rw [pushBack_eq_error_iff] at pushed
      exact pushBack_eq_error_iff.mpr pushed
  | ok after =>
      rcases pushBack_eq_ok_iff.mp pushed with
        ⟨kept, returned, whole, length, rfl⟩
      exact pushBack_eq_ok_iff.mpr ⟨kept, returned, whole, length, rfl⟩

/--
The current token and the window of a scanner lie between two offsets of a
buffer, and the text of the token is what its span covers there.
-/
structure LiesWithin (scanner : Scanner) (buffer : Text)
    (start stop : Nat) : Prop where
  start_le : start ≤ scanner.tokenStart
  windowEnd_eq : scanner.windowEnd = stop
  text : scanner.tokenSpan.slice? buffer = some scanner.tokenText

end Scanner

theorem Call.not_replacesScanner {call : Call} (stays : call.staysInWindow) :
    ¬ call.replacesScanner := by
  cases call <;> simp_all [Call.staysInWindow, Call.replacesScanner]

/-! ## Calls on both scanners -/

namespace Session

variable {left right : Session} {buffer : Text} {offset : Nat}

/-- A call in the window has the same outcome on a relocated scanner. -/
theorem perform_of_relocate
    (relocated : left.scanner = right.scanner.relocate buffer offset)
    {call : Call} (stays : call.staysInWindow) :
    (left.perform call).reply =
        (right.perform call).reply.shift offset ∧
      (left.perform call).after.scanner =
        (right.perform call).after.scanner.relocate buffer offset := by
  have advance :
      (left.perform .advance).reply =
          (right.perform .advance).reply.shift offset ∧
        (left.perform .advance).after.scanner =
          (right.perform .advance).after.scanner.relocate buffer offset := by
    simp only [perform, relocated, Scanner.advance_relocate]
    exact ⟨rfl, rfl⟩
  cases call with
  | advance => exact advance
  | tryAdvance =>
      rw [perform_tryAdvance, perform_tryAdvance]
      exact advance
  | pushBack count =>
      have pushed :=
        Scanner.pushBack_relocate buffer offset right.scanner count
      rw [← relocated] at pushed
      cases outcome : right.scanner.pushBack count with
      | error error =>
          rw [outcome] at pushed
          rcases Scanner.pushBack_eq_error_iff.mp outcome with ⟨-, rfl⟩
          simp only [perform, outcome, pushed, Except.map]
          exact ⟨rfl, relocated⟩
      | ok after =>
          rw [outcome] at pushed
          simp only [perform, outcome, pushed, Except.map]
          exact ⟨rfl, rfl⟩
  | charAt index =>
      refine ⟨?_, relocated⟩
      simp only [perform, answer, relocated]
      rfl
  | take | collect | reset | resume | snapshot | clone | restore
  | restart => cases stays

theorem observation_of_relocate {leftOutcome rightOutcome : Outcome}
    (reply : leftOutcome.reply = rightOutcome.reply.shift offset)
    (relocated :
      leftOutcome.after.scanner =
        rightOutcome.after.scanner.relocate buffer offset) :
    leftOutcome.observation = rightOutcome.observation.shift offset := by
  simp only [Outcome.observation, Observation.shift, reply, relocated,
    Scanner.surroundings_relocate, Scanner.currentToken_relocate]

/-- All calls in the window have the same outcomes on a relocated scanner. -/
theorem performAll_of_relocate {calls : List Call}
    (relocated : left.scanner = right.scanner.relocate buffer offset)
    (stay : ∀ call ∈ calls, call.staysInWindow) :
    (left.performAll calls).map Outcome.observation =
      ((right.performAll calls).map Outcome.observation).map
        (Observation.shift offset) := by
  induction calls generalizing left right with
  | nil => rfl
  | cons call rest inductionHypothesis =>
      rcases List.forall_mem_cons.mp stay with ⟨stays, restStay⟩
      rcases perform_of_relocate relocated stays with ⟨reply, behind⟩
      simp only [performAll, List.map_cons]
      rw [observation_of_relocate reply behind,
        inductionHypothesis behind restStay]

/-! ## Resuming in a window -/

/-- What is seen of resuming in a window and of some calls behind it. -/
def observeWindow (session : Session) (buffer : Text) (start stop : Nat)
    (nesting : Nesting) (calls : List Call) : List Observation :=
  (session.performAll
    (.resume buffer stop (.state ⟨start, nesting⟩) :: calls)).map
      Outcome.observation

/-- Resuming succeeds in every window, with its characters unread. -/
theorem perform_resume {text : Text} {start stop : Nat}
    (window : Text.slice? buffer start stop = some text)
    (session : Session) (nesting : Nesting) :
    (session.perform (.resume buffer stop (.state ⟨start, nesting⟩))).reply =
        .done ∧
      (session.perform
          (.resume buffer stop (.state ⟨start, nesting⟩))).after.scanner =
        { buffer := buffer
          granularity := session.scanner.granularity
          nesting := nesting
          tokenStart := start
          tokenText := []
          unread := text
          endReported := false } := by
  have placed := session.scanner.resume_of_slice? window nesting
  rw [perform, stateAt?]
  simp only
  rw [placed]
  exact ⟨rfl, rfl⟩

/-- A window is read like its characters, and further behind. -/
theorem observeWindow_eq_shift {session other : Session} {text : Text}
    {start stop : Nat}
    (window : Text.slice? buffer start stop = some text)
    (sameOptions :
      session.scanner.granularity = other.scanner.granularity)
    (nesting : Nesting) {calls : List Call}
    (stay : ∀ call ∈ calls, call.staysInWindow) :
    session.observeWindow buffer start stop nesting calls =
      (other.observeWindow text 0 (stop - start) nesting calls).map
        (Observation.shift start) := by
  have far := (Text.bounds_of_slice? window).2.2.1
  have whole : Text.slice? text 0 (stop - start) = some text := by
    rw [far, Nat.add_sub_cancel_left]
    exact Text.slice?_whole text
  rcases perform_resume window session nesting with ⟨done, placed⟩
  rcases perform_resume whole other nesting with ⟨otherDone, otherPlaced⟩
  have relocated :
      (session.perform
          (.resume buffer stop (.state ⟨start, nesting⟩))).after.scanner =
        (other.perform
            (.resume text (stop - start)
              (.state ⟨0, nesting⟩))).after.scanner.relocate buffer
          start := by
    rw [placed, otherPlaced, sameOptions, Scanner.relocate]
    simp only [Nat.zero_add]
  have reply :
      (session.perform
          (.resume buffer stop (.state ⟨start, nesting⟩))).reply =
        (other.perform
            (.resume text (stop - start)
              (.state ⟨0, nesting⟩))).reply.shift start := by
    rw [done, otherDone]
    rfl
  simp only [observeWindow, performAll, List.map_cons]
  rw [observation_of_relocate reply relocated,
    performAll_of_relocate relocated stay]

/-- A scanner that has resumed in a window stays there. -/
theorem liesWithin_of_mem {session : Session} {text : Text}
    {start stop : Nat}
    (window : Text.slice? buffer start stop = some text)
    (nesting : Nesting) {calls : List Call}
    (stay : ∀ call ∈ calls, call.staysInWindow) :
    ∀ outcome ∈
        session.performAll
          (.resume buffer stop (.state ⟨start, nesting⟩) :: calls),
      outcome.after.scanner.LiesWithin buffer start stop := by
  have far := (Text.bounds_of_slice? window).2.2.1
  rcases perform_resume window session nesting with ⟨-, placed⟩
  intro outcome member
  have moves :
      (session.perform
          (.resume buffer stop (.state ⟨start, nesting⟩))).after.scanner.Moves
        outcome.after.scanner := by
    rcases List.mem_cons.mp member with rfl | later
    · exact .here _
    · exact
        moves_of_mem
          (fun call inCalls => Call.not_replacesScanner (stay call inCalls))
          outcome later
  rw [placed] at moves
  have inPlace :=
    Scanner.isPlaced_ofWindow
      (session.scanner.resume_of_slice? window nesting)
  rcases moves.sameWindow with ⟨sameWindow, ordered⟩
  refine ⟨ordered, sameWindow.windowEnd.trans far.symm, ?_⟩
  have tokenText := (moves.isPlaced inPlace).tokenText
  rw [sameWindow.buffer] at tokenText
  exact tokenText

/--
Nothing outside a window matters.  Whatever scanner resumes at the start of a
window, with any comments open, and reads on, gives characters back and looks
at the token in any order: all that is seen is what is seen in a buffer that
holds the characters of the window alone, with the offsets shifted by the
start of the window.  So two buffers that agree on the window are not told
apart.  The scanner never leaves the window, and the texts of its tokens are
those that the buffer has there.
-/
theorem observeWindow_confined {session other : Session}
    {buffer text : Text} {start stop : Nat}
    (window : Text.slice? buffer start stop = some text)
    (sameOptions :
      session.scanner.granularity = other.scanner.granularity)
    (nesting : Nesting) {calls : List Call}
    (stay : ∀ call ∈ calls, call.staysInWindow) :
    (session.perform (.resume buffer stop (.state ⟨start, nesting⟩))).reply =
        .done ∧
      session.observeWindow buffer start stop nesting calls =
        (other.observeWindow text 0 (stop - start) nesting calls).map
          (Observation.shift start) ∧
      (∀ otherBuffer,
        Text.slice? otherBuffer start stop = some text →
          other.observeWindow otherBuffer start stop nesting calls =
            session.observeWindow buffer start stop nesting calls) ∧
      ∀ outcome ∈
          session.performAll
            (.resume buffer stop (.state ⟨start, nesting⟩) :: calls),
        outcome.after.scanner.LiesWithin buffer start stop := by
  refine ⟨(perform_resume window session nesting).1,
    observeWindow_eq_shift window sameOptions nesting stay, ?_,
    liesWithin_of_mem window nesting stay⟩
  intro otherBuffer otherWindow
  rw [observeWindow_eq_shift window sameOptions nesting stay]
  exact observeWindow_eq_shift otherWindow rfl nesting stay

/--
A window that ends in front of the slash of a closer, behind characters of two
bytes: the comment stays open, as it does where the window is the whole text.
-/
theorem observeWindow_confined_openComment :
    ∃ session other : Session,
      Text.slice? ['é', '/', '*', 'é', '*', '/'] 4 7 = some ['é', '*'] ∧
        session.observeWindow ['é', '/', '*', 'é', '*', '/'] 4 7 ⟨1, .doc⟩
            [.advance, .pushBack 1, .charAt 0, .advance, .tryAdvance] =
          (other.observeWindow ['é', '*'] 0 3 ⟨1, .doc⟩
              [.advance, .pushBack 1, .charAt 0, .advance, .tryAdvance]).map
            (Observation.shift 4) := by
  let session := ofText ['x'] .lexemes
  let other := ofText [] .lexemes
  have window :
      Text.slice? ['é', '/', '*', 'é', '*', '/'] 4 7 = some ['é', '*'] := rfl
  have stay :
      ∀ call ∈
          ([.advance, .pushBack 1, .charAt 0, .advance, .tryAdvance] :
            List Call),
        call.staysInWindow := by
    decide
  rcases
    @observeWindow_confined session other _ _ _ _ window rfl ⟨1, .doc⟩ _
      stay with
    ⟨-, shifted, -, -⟩
  exact ⟨session, other, window, shifted⟩

end Session

end CommentScan
