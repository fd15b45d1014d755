import CommentScan.Proofs.Lexeme.MaximalMunch
import CommentScan.Proofs.Registers.Cursor
import CommentScan.Scanner.Advance

/-!
# Matching with a cursor

A cursor reads a lexeme step by step: it moves behind one character after
another, keeps the last place where a lexeme was complete, and falls back on
that place in the end.  A run of lexemes is read in the same way, with the
place in front of the lexeme that ends the run.

In front of characters of its window a cursor matches without a breach.
`longestMatch_of_reads` says that it finds the longest lexeme and stops behind
it, and `extendRun_of_reads` that it stops behind the run.
-/

namespace CommentScan

open CommentScan.Automaton

/-- What reading a lexeme has come to. -/
structure Attempt where
  cursor : Cursor
  accepted : Option (Role × Cursor)
  consumed : Bool
  deriving DecidableEq, Repr

/-- The attempt behind one more step, which leads a cursor into a state. -/
def Attempt.extend (attempt : Attempt) (after : State) (next : Cursor) :
    Attempt where
  cursor := next
  accepted :=
    match after.role with
    | some role => some (role, next)
    | none => attempt.accepted
  consumed := true

/-- What has been accepted lies ahead in the window of a cursor. -/
def Attempt.LiesAhead (attempt : Attempt) (origin : Cursor) : Prop :=
  ∀ role reached, attempt.accepted = some (role, reached) →
    reached.windowEnd = origin.windowEnd ∧
      origin.position < reached.position ∧
      origin.position < origin.windowEnd

/-- A lexeme between two offsets. -/
structure Match where
  role : Role
  start : Nat
  stop : Nat
  deriving DecidableEq, Repr

namespace Cursor

/--
Move behind a character into a state of the automaton.  A line comment is
taken up to the end of its line at once.
-/
def follow (cursor : Cursor) (after : State) (character : Char) :
    Except Breach Cursor := do
  let next ← cursor.bump character
  if after = .lineComment then next.eatUntilLineEnd else return next

/-- Every step moves on in the window. -/
theorem position_lt_of_follow {cursor next : Cursor} {after : State}
    {character : Char}
    (followed : cursor.follow after character = .ok next) :
    next.windowEnd = cursor.windowEnd ∧
      cursor.position < next.position ∧
      cursor.position < cursor.windowEnd := by
  rcases bind_eq_ok followed with ⟨middle, bumped, more⟩
  rcases position_lt_of_bump bumped with ⟨sameEnd, further, within⟩
  split at more
  · rcases position_le_of_eatUntilLineEnd more with ⟨lastEnd, last⟩
    exact ⟨lastEnd.trans sameEnd, Nat.lt_of_lt_of_le further last, within⟩
  · cases more
    exact ⟨sameEnd, further, within⟩

/-- Read on from a state, as long as some lexeme goes on. -/
def readFrom (state : State) (attempt : Attempt) : Except Breach Attempt :=
  match attempt.cursor.current with
  | .error breach => .error breach
  | .ok none => .ok attempt
  | .ok (some character) =>
      match state.next (.ofChar character) with
      | none => .ok attempt
      | some after =>
          match _followed : attempt.cursor.follow after character with
          | .error breach => .error breach
          | .ok next =>
              if after.role.isSome && after.isFinal then
                .ok (attempt.extend after next)
              else
                readFrom after (attempt.extend after next)
termination_by attempt.cursor.windowEnd - attempt.cursor.position
decreasing_by
  have moved := position_lt_of_follow _followed
  simp only [Attempt.extend]
  omega

/--
Read on from a state as long as some lexeme goes on, one character at a time
and without ever stopping early.
-/
def stepFrom (state : State) (attempt : Attempt) : Except Breach Attempt :=
  match attempt.cursor.current with
  | .error breach => .error breach
  | .ok none => .ok attempt
  | .ok (some character) =>
      match state.next (.ofChar character) with
      | none => .ok attempt
      | some after =>
          match _bumped : attempt.cursor.bump character with
          | .error breach => .error breach
          | .ok next => stepFrom after (attempt.extend after next)
termination_by attempt.cursor.windowEnd - attempt.cursor.position
decreasing_by
  have moved := position_lt_of_bump _bumped
  simp only [Attempt.extend]
  omega

/--
What an attempt comes to: the last lexeme that was complete, with the cursor
behind it.  At the end of the window there is none, and where none matches the
cursor stays where it was.
-/
def conclude (cursor : Cursor) (attempt : Attempt) :
    Except ScanError (Option Match) × Cursor :=
  if !attempt.consumed && attempt.cursor.isFinished then
    (.ok none, attempt.cursor)
  else
    match attempt.accepted with
    | some (role, reached) =>
        (.ok (some ⟨role, cursor.position, reached.position⟩), reached)
    | none => (.error (.noMatch cursor.position), cursor)

/-- The attempt of a cursor that has not moved. -/
def attempt (cursor : Cursor) (mode : Mode) : Attempt :=
  ⟨cursor, (State.start mode).role.map fun role => (role, cursor), false⟩

/-- Read the longest lexeme and stop behind it. -/
def longestMatch (cursor : Cursor) (mode : Mode) :
    Except Breach (Except ScanError (Option Match) × Cursor) := do
  let attempt ← readFrom (.start mode) (cursor.attempt mode)
  return cursor.conclude attempt

/-- Read the longest lexeme, one character at a time, and stop behind it. -/
def steppedMatch (cursor : Cursor) (mode : Mode) :
    Except Breach (Except ScanError (Option Match) × Cursor) := do
  let attempt ← stepFrom (.start mode) (cursor.attempt mode)
  return cursor.conclude attempt

/-- One more step keeps what has been accepted ahead. -/
theorem liesAhead_extend {origin next : Cursor} {attempt : Attempt}
    {after : State} {character : Char}
    (sameEnd : attempt.cursor.windowEnd = origin.windowEnd)
    (behind : origin.position ≤ attempt.cursor.position)
    (ahead : attempt.LiesAhead origin)
    (followed : attempt.cursor.follow after character = .ok next) :
    next.windowEnd = origin.windowEnd ∧ origin.position ≤ next.position ∧
      (attempt.extend after next).LiesAhead origin := by
  rcases position_lt_of_follow followed with ⟨nextEnd, further, within⟩
  refine ⟨nextEnd.trans sameEnd, by omega, ?_⟩
  intro role reached accepted
  simp only [Attempt.extend] at accepted
  split at accepted
  · cases accepted
    refine ⟨nextEnd.trans sameEnd, ?_, ?_⟩ <;> omega
  · exact ahead role reached accepted

theorem liesAhead_of_readFrom {state : State} {origin : Cursor}
    {attempt result : Attempt}
    (sameEnd : attempt.cursor.windowEnd = origin.windowEnd)
    (behind : origin.position ≤ attempt.cursor.position)
    (ahead : attempt.LiesAhead origin)
    (done : readFrom state attempt = .ok result) :
    result.LiesAhead origin := by
  fun_induction readFrom state attempt with
  | case1 => cases done
  | case2 | case3 =>
      cases done
      exact ahead
  | case4 => cases done
  | case5 state attempt character found after step next followed final =>
      cases done
      exact (liesAhead_extend sameEnd behind ahead followed).2.2
  | case6 state attempt character found after step next followed more
      inductionHypothesis =>
      rcases liesAhead_extend sameEnd behind ahead followed with
        ⟨nextEnd, nextBehind, nextAhead⟩
      exact inductionHypothesis nextEnd nextBehind nextAhead done

/-- A lexeme that has been matched lies ahead in the window. -/
theorem position_lt_of_longestMatch {cursor next : Cursor} {mode : Mode}
    {found : Match}
    (matched : cursor.longestMatch mode = .ok (.ok (some found), next)) :
    next.windowEnd = cursor.windowEnd ∧
      cursor.position < next.position ∧
      cursor.position < cursor.windowEnd := by
  rcases bind_eq_ok matched with ⟨attempt, done, more⟩
  have concluded := Except.ok.inj more
  unfold conclude at concluded
  split at concluded
  · cases concluded
  · split at concluded
    · rename_i role reached accepted
      cases concluded
      refine liesAhead_of_readFrom rfl (Nat.le_refl _) ?_ done _ _ accepted
      intro role reached impossible
      cases impossible
    · cases concluded

/--
Move behind the lexemes of one role that follow, and say where the last of
them ends.
-/
def extendRun (cursor : Cursor) (mode : Mode) (role : Role) :
    Except Breach (Except ScanError Nat × Cursor) :=
  match _matched : cursor.longestMatch mode with
  | .error breach => .error breach
  | .ok (.error error, stuck) => .ok (.error error, stuck)
  | .ok (.ok none, _) => .ok (.ok cursor.position, cursor)
  | .ok (.ok (some found), next) =>
      if found.role = role then
        next.extendRun mode role
      else
        .ok (.ok cursor.position, cursor)
termination_by cursor.windowEnd - cursor.position
decreasing_by
  have moved := position_lt_of_longestMatch _matched
  omega

/-! ## What is matched -/

/-- What has been accepted of a text when a lexeme is the best one so far. -/
def reach (origin : Cursor) (whole : Text) (lexeme : Lexeme) :
    Role × Cursor :=
  (lexeme.role, origin.skip (whole.take lexeme.length))

/-- The characters that are taken together with one in front of them. -/
def alongWith (after : State) (rest : Text) : Text :=
  if after = .lineComment then rest.take (Lexeme.lineLength rest) else []

theorem alongWith_append_drop (after : State) (rest : Text) :
    alongWith after rest ++ rest.drop (alongWith after rest).length =
      rest := by
  unfold alongWith
  split
  · rw [List.length_take_of_le (Lexeme.lineLength_le rest),
      List.take_append_drop]
  · rfl

theorem follow_of_reads {cursor : Cursor} {character : Char} {rest : Text}
    (reads : cursor.Reads (character :: rest)) (after : State) :
    cursor.follow after character =
      .ok (cursor.skip (character :: alongWith after rest)) := by
  rw [follow, reads.bump]
  simp only [bind, Except.bind]
  split
  · rename_i line
    have restReads : (cursor.skip [character]).Reads rest :=
      @Reads.skip cursor [character] rest reads
    have bytes :=
      (Text.indexAt?_eq_some_iff.mp (Lexeme.indexAt?_lineBytes rest)).2
    rw [restReads.eatUntilLineEnd, alongWith, if_pos line, ← bytes]
    exact congrArg _ (cursor.skip_append [character] _).symm
  · rename_i other
    rw [alongWith, if_neg other]
    rfl

theorem readFrom_of_stuck {attempt : Attempt} {text : Text} {state : State}
    (reads : attempt.cursor.Reads text)
    (stuck : ∀ character ∈ text.head?,
      state.next (.ofChar character) = none) :
    readFrom state attempt = .ok attempt := by
  rw [readFrom, reads.current]
  cases first : text.head? with
  | none => rfl
  | some character => simp only [stuck character first]

theorem readFrom_of_step {attempt : Attempt} {character : Char} {rest : Text}
    {state after : State} (reads : attempt.cursor.Reads (character :: rest))
    (step : state.next (.ofChar character) = some after) :
    readFrom state attempt =
      let reached :=
        attempt.extend after
          (attempt.cursor.skip (character :: alongWith after rest))
      if after.role.isSome && after.isFinal then
        .ok reached
      else
        readFrom after reached := by
  have followed := follow_of_reads reads after
  rw [readFrom, reads.current]
  simp only [List.head?_cons, step]
  split
  · rename_i breach failed
    rw [followed] at failed
    cases failed
  · rename_i next moved
    rw [followed] at moved
    cases moved
    rfl

/-- The line of a line comment ends where no lexeme goes on. -/
theorem lineComment_next_of_mem {rest : Text} {character : Char}
    (first : character ∈ (rest.drop (Lexeme.lineLength rest)).head?) :
    State.lineComment.next (.ofChar character) = none := by
  have ends : rest.drop (Lexeme.lineLength rest) =
      rest.dropWhile fun character =>
        CharClass.ofChar character != .lineTerminator := by
    have whole :=
      @List.takeWhile_append_dropWhile _
        (fun character => CharClass.ofChar character != .lineTerminator) rest
    rw [Lexeme.lineLength]
    nth_rewrite 2 [← whole]
    exact List.drop_left
  have stops :=
    List.head?_dropWhile_not
      (fun character => CharClass.ofChar character != .lineTerminator) rest
  rw [ends, Option.mem_def] at first
  rw [first] at stops
  rw [State.lineComment_next, if_pos (by simpa using stops)]

theorem role_isSome_of_isFinal {state : State} (final : state.isFinal) :
    state.role.isSome := by
  cases state <;> first | rfl | cases final

/-- An attempt at a text has come to the best lexeme so far. -/
structure Notes (origin : Cursor) (whole : Text) (best : Option Lexeme)
    (attempt : Attempt) : Prop where
  accepted : attempt.accepted = best.map (origin.reach whole)
  consumed : best.isSome → attempt.consumed

theorem Notes.extend {origin : Cursor} {passed text : Text}
    {best : Option Lexeme} {attempt : Attempt}
    (notes : origin.Notes (passed ++ text) best attempt) (after : State) :
    origin.Notes (passed ++ text)
      (Lexeme.endingAt after passed.length best)
      (attempt.extend after (origin.skip passed)) := by
  refine ⟨?_, fun _ => rfl⟩
  unfold Lexeme.endingAt Attempt.extend
  cases complete : after.role with
  | none => exact notes.accepted
  | some role =>
      simp only [Option.map_some, reach, List.take_left]

/-- A state is stuck in front of a text, or one more step leads on. -/
theorem exists_step {state : State} {text : Text}
    (more : ¬ ∀ character ∈ text.head?,
      state.next (.ofChar character) = none) :
    ∃ character rest after, text = character :: rest ∧
      state.next (.ofChar character) = some after := by
  cases text with
  | nil => simp at more
  | cons character rest =>
      cases step : state.next (.ofChar character) with
      | none => simp [step] at more
      | some after => exact ⟨character, rest, after, rfl, step⟩

theorem longestFrom_of_stuck {state : State} {text : Text}
    (stuck : ∀ character ∈ text.head?,
      state.next (.ofChar character) = none)
    (length : Nat) (best : Option Lexeme) :
    Lexeme.longestFrom state text length best = best := by
  cases text with
  | nil => rfl
  | cons character rest => rw [Lexeme.longestFrom, stuck character rfl]

/-- Reading the longest lexeme takes the same steps. -/
theorem longestFrom_of_step {state after : State} {character : Char}
    (step : state.next (.ofChar character) = some after) (rest : Text)
    (length : Nat) (best : Option Lexeme) :
    Lexeme.longestFrom state (character :: rest) length best =
      let further := length + (character :: alongWith after rest).length
      let reached := Lexeme.endingAt after further best
      if after.role.isSome && after.isFinal then
        reached
      else
        Lexeme.longestFrom after (rest.drop (alongWith after rest).length)
          further reached := by
  rw [Lexeme.longestFrom, step]
  by_cases line : after = .lineComment
  · subst line
    have taken :
        (alongWith .lineComment rest).length = Lexeme.lineLength rest := by
      rw [alongWith, if_pos rfl]
      exact List.length_take_of_le (Lexeme.lineLength_le rest)
    have further :
        length + (Lexeme.lineLength rest + 1) =
          length + 1 + Lexeme.lineLength rest := by
      omega
    rw [List.length_cons, taken, further]
    exact (longestFrom_of_stuck (fun _ => lineComment_next_of_mem) _ _).symm
  · have single : alongWith after rest = [] := if_neg line
    rw [single]
    by_cases final : after.isFinal
    · simp [final, role_isSome_of_isFinal final]
    · simp [final]

/--
Reading on comes to the longest lexeme.  The induction is on the text in front
of the cursor, with the text behind it kept to say where lexemes have ended.
-/
theorem readFrom_of_reads {origin : Cursor} {passed text : Text}
    (reads : origin.Reads (passed ++ text)) (state : State)
    {best : Option Lexeme} {attempt : Attempt}
    (here : attempt.cursor = origin.skip passed)
    (notes : origin.Notes (passed ++ text) best attempt) :
    ∃ result, readFrom state attempt = .ok result ∧
      origin.Notes (passed ++ text)
        (Lexeme.longestFrom state text passed.length best) result := by
  have inFront : attempt.cursor.Reads text := by
    rw [here]
    exact reads.skip
  induction bound : text.length using Nat.strongRecOn
    generalizing passed text state best attempt with
  | ind size inductionHypothesis =>
      subst bound
      by_cases stuck : ∀ character ∈ text.head?,
          state.next (.ofChar character) = none
      · refine ⟨attempt, readFrom_of_stuck inFront stuck, ?_⟩
        rw [longestFrom_of_stuck stuck]
        exact notes
      · rcases exists_step stuck with ⟨character, rest, after, rfl, step⟩
        rw [readFrom_of_step inFront step, here, ← skip_append,
          longestFrom_of_step step, ← List.length_append]
        have regrouped :
            passed ++ character :: rest =
              (passed ++ character :: alongWith after rest) ++
                rest.drop (alongWith after rest).length := by
          rw [List.append_assoc, List.cons_append, alongWith_append_drop]
        rw [regrouped] at reads notes ⊢
        have extended := notes.extend after
        simp only
        split
        · exact ⟨_, rfl, extended⟩
        · refine inductionHypothesis _ ?_ reads after rfl extended
            reads.skip rfl
          rw [List.length_drop, List.length_cons]
          omega

theorem readFrom_attempt {cursor : Cursor} {text : Text}
    (reads : cursor.Reads text) (mode : Mode) :
    ∃ result, readFrom (.start mode) (cursor.attempt mode) = .ok result ∧
      cursor.Notes text (Lexeme.longest? mode text) result :=
  @readFrom_of_reads cursor [] text reads (.start mode) none
    (cursor.attempt mode) rfl ⟨rfl, nofun⟩

/-- At the end of the window an attempt comes to nothing. -/
theorem conclude_of_finished {cursor : Cursor} (reads : cursor.Reads [])
    (mode : Mode) :
    cursor.conclude (cursor.attempt mode) = (.ok none, cursor) :=
  if_pos (reads.isFinished_iff.mpr rfl)

/-- Anywhere else it comes to the best lexeme, with the cursor behind it. -/
theorem conclude_of_notes {cursor : Cursor} {text : Text} {lexeme : Lexeme}
    {attempt : Attempt} (notes : cursor.Notes text (some lexeme) attempt) :
    cursor.conclude attempt =
      (.ok (some
        ⟨lexeme.role, cursor.position,
          (cursor.skip (text.take lexeme.length)).position⟩),
        cursor.skip (text.take lexeme.length)) := by
  have accepted := notes.accepted
  have consumed := notes.consumed rfl
  rw [conclude, consumed, accepted]
  rfl

/-- At the end of the window no lexeme is matched. -/
theorem longestMatch_of_finished {cursor : Cursor} (reads : cursor.Reads [])
    (mode : Mode) : cursor.longestMatch mode = .ok (.ok none, cursor) := by
  have idle :
      readFrom (.start mode) (cursor.attempt mode) =
        .ok (cursor.attempt mode) :=
    readFrom_of_stuck reads (by simp)
  rw [longestMatch, idle]
  exact congrArg Except.ok (conclude_of_finished reads mode)

/-- Anywhere else the longest lexeme is, and the cursor stops behind it. -/
theorem longestMatch_of_longest {cursor : Cursor} {text : Text}
    (reads : cursor.Reads text) {mode : Mode} {lexeme : Lexeme}
    (found : Lexeme.longest? mode text = some lexeme) :
    cursor.longestMatch mode =
      .ok
        (.ok (some
          ⟨lexeme.role, cursor.position,
            (cursor.skip (text.take lexeme.length)).position⟩),
          cursor.skip (text.take lexeme.length)) := by
  rcases readFrom_attempt reads mode with ⟨result, done, notes⟩
  rw [found] at notes
  rw [longestMatch, done]
  exact congrArg Except.ok (conclude_of_notes notes)

/-! ## One character at a time -/

theorem stepFrom_of_stuck {attempt : Attempt} {text : Text} {state : State}
    (reads : attempt.cursor.Reads text)
    (stuck : ∀ character ∈ text.head?,
      state.next (.ofChar character) = none) :
    stepFrom state attempt = .ok attempt := by
  rw [stepFrom, reads.current]
  cases first : text.head? with
  | none => rfl
  | some character => simp only [stuck character first]

theorem stepFrom_of_step {attempt : Attempt} {character : Char} {rest : Text}
    {state after : State} (reads : attempt.cursor.Reads (character :: rest))
    (step : state.next (.ofChar character) = some after) :
    stepFrom state attempt =
      stepFrom after
        (attempt.extend after (attempt.cursor.skip [character])) := by
  have bumped := reads.bump
  rw [stepFrom, reads.current]
  simp only [List.head?_cons, step]
  split
  · rename_i breach failed
    rw [bumped] at failed
    cases failed
  · rename_i next moved
    rw [bumped] at moved
    cases moved
    rfl

/-- Stepping through a text comes to the last lexeme that it completes. -/
theorem stepFrom_of_reads {origin : Cursor} {passed text : Text}
    (reads : origin.Reads (passed ++ text)) (state : State)
    {best : Option Lexeme} {attempt : Attempt}
    (here : attempt.cursor = origin.skip passed)
    (notes : origin.Notes (passed ++ text) best attempt) :
    ∃ result, stepFrom state attempt = .ok result ∧
      origin.Notes (passed ++ text)
        (Lexeme.steppedFrom state text passed.length best) result := by
  have inFront : attempt.cursor.Reads text := by
    rw [here]
    exact reads.skip
  induction text generalizing passed state best attempt with
  | nil => exact ⟨attempt, stepFrom_of_stuck inFront nofun, notes⟩
  | cons character rest inductionHypothesis =>
      cases step : state.next (.ofChar character) with
      | none =>
          refine ⟨attempt, stepFrom_of_stuck inFront ?_, ?_⟩
          · rintro other ⟨⟩
            exact step
          · rw [Lexeme.steppedFrom_cons_of_none step]
            exact notes
      | some after =>
          have regrouped :
              passed ++ character :: rest = (passed ++ [character]) ++ rest :=
            List.append_cons passed character rest
          have further : passed.length + 1 = (passed ++ [character]).length :=
            (@List.length_append _ passed [character]).symm
          rw [stepFrom_of_step inFront step, here, ← skip_append,
            Lexeme.steppedFrom_cons_of_some step, further]
          rw [regrouped] at reads notes ⊢
          exact
            inductionHypothesis reads after rfl (notes.extend after)
              reads.skip

/--
A cursor matches the longest lexeme, in any window of any buffer and in either
mode.  At the end of the window there is none and the cursor stays.  Anywhere
else it finds the longest lexeme that a plain run of the automaton completes in
front of it, and ends right behind its characters.  Neither shortcut has a part
in this: a cursor that goes through every character, also of a line comment,
and asks for a next state behind every state matches the same.
-/
theorem longestMatch_maximal {cursor : Cursor} {text : Text}
    (reads : cursor.Reads text) (mode : Mode) :
    (text = [] → cursor.longestMatch mode = .ok (.ok none, cursor)) ∧
      (text ≠ [] →
        ∃ lexeme, Lexeme.IsLongest mode text lexeme ∧
          cursor.longestMatch mode =
            let stop :=
              cursor.position + Text.byteLength (text.take lexeme.length)
            .ok
              (.ok (some ⟨lexeme.role, cursor.position, stop⟩),
                { cursor with position := stop })) ∧
      cursor.longestMatch mode = cursor.steppedMatch mode := by
  refine ⟨?_, ?_, ?_⟩
  · rintro rfl
    exact longestMatch_of_finished reads mode
  · intro nonempty
    have isSome : Lexeme.longest? mode text ≠ none :=
      fun nothing => nonempty (Lexeme.longest?_eq_none_iff.mp nothing)
    rcases Option.ne_none_iff_exists'.mp isSome with ⟨lexeme, found⟩
    exact
      ⟨lexeme, Lexeme.longest?_eq_some_iff.mp found,
        longestMatch_of_longest reads found⟩
  · rcases @stepFrom_of_reads cursor [] text reads (.start mode) none
        (cursor.attempt mode) rfl ⟨rfl, nofun⟩ with
      ⟨result, done, notes⟩
    replace notes : cursor.Notes text (Lexeme.stepped? mode text) result :=
      notes
    rw [← Lexeme.longest?_eq_stepped?] at notes
    cases found : Lexeme.longest? mode text with
    | none =>
        rw [Lexeme.longest?_eq_none_iff] at found
        subst found
        have idle :
            stepFrom (.start mode) (cursor.attempt mode) =
              .ok (cursor.attempt mode) :=
          stepFrom_of_stuck reads nofun
        rw [longestMatch_of_finished reads, steppedMatch, idle]
        exact congrArg Except.ok (conclude_of_finished reads mode).symm
    | some lexeme =>
        rw [found] at notes
        rw [longestMatch_of_longest reads found, steppedMatch, done]
        exact congrArg Except.ok (conclude_of_notes notes).symm

/-- The window behind `é` in `é//ü` and a new line holds a line comment. -/
theorem longestMatch_maximal_lineComment :
    let cursor : Cursor := ⟨['é', '/', '/', 'ü', '\n'], 2, 7⟩
    Lexeme.IsLongest .outside ['/', '/', 'ü', '\n'] ⟨.lineComment, 3⟩ ∧
      cursor.longestMatch .outside =
        .ok
          (.ok (some ⟨.lineComment, 2, 6⟩), { cursor with position := 6 }) ∧
      cursor.steppedMatch .outside = cursor.longestMatch .outside := by
  intro cursor
  have reads : cursor.Reads ['/', '/', 'ü', '\n'] :=
    ⟨by decide, by decide⟩
  have computed :
      Lexeme.longest? .outside ['/', '/', 'ü', '\n'] =
        some ⟨.lineComment, 3⟩ := by
    decide
  have longest := Lexeme.longest?_eq_some_iff.mp computed
  rcases longestMatch_maximal reads .outside with ⟨-, nonempty, stepped⟩
  rcases nonempty (by decide) with ⟨lexeme, isLongest, matched⟩
  rw [isLongest.unique longest] at matched
  exact ⟨longest, matched, stepped.symm⟩

/-! ## Runs -/

theorem extendRun_of_longestMatch {cursor next : Cursor} {mode : Mode}
    {found : Option Match}
    (matched : cursor.longestMatch mode = .ok (.ok found, next))
    (role : Role) :
    cursor.extendRun mode role =
      if found.map Match.role = some role then
        next.extendRun mode role
      else
        .ok (.ok cursor.position, cursor) := by
  rw [extendRun]
  split
  · rename_i failed
    rw [matched] at failed
    cases failed
  · rename_i failed
    rw [matched] at failed
    cases failed
  · rename_i finished
    rw [matched] at finished
    cases finished
    rfl
  · rename_i here
    rw [matched] at here
    cases here
    simp only [Option.map_some, Option.some.injEq]

/-- A run is read up to the first lexeme of another role. -/
theorem extendRun_of_reads {origin : Cursor} {passed text : Text}
    (reads : origin.Reads (passed ++ text)) (mode : Mode) (role : Role) :
    (origin.skip passed).extendRun mode role =
      let behind :=
        origin.skip
          ((passed ++ text).take
            (Lexeme.runLength mode role text passed.length))
      .ok (.ok behind.position, behind) := by
  have inFront : (origin.skip passed).Reads text := reads.skip
  generalize counted : passed.length = count
  fun_induction Lexeme.runLength mode role text count generalizing passed with
  | case1 text count missing =>
      rw [Lexeme.longest?_eq_none_iff] at missing
      subst missing counted
      rw [extendRun_of_longestMatch (longestMatch_of_finished inFront mode),
        List.take_left]
      rfl
  | case2 text count lexeme found same inductionHypothesis =>
      have matched := longestMatch_of_longest inFront found
      rw [extendRun_of_longestMatch matched, Option.map_some, same,
        if_pos rfl, ← skip_append]
      have regrouped :
          passed ++ text =
            (passed ++ text.take lexeme.length) ++
              text.drop lexeme.length := by
        rw [List.append_assoc, List.take_append_drop]
      have length :
          (passed ++ text.take lexeme.length).length =
            count + lexeme.length := by
        rw [List.length_append, counted,
          List.length_take_of_le (Lexeme.longest?_length found).2]
      rw [regrouped] at reads ⊢
      exact inductionHypothesis reads reads.skip length
  | case3 text count lexeme found other =>
      subst counted
      have matched := longestMatch_of_longest inFront found
      rw [extendRun_of_longestMatch matched, Option.map_some,
        if_neg (by simpa using other), List.take_left]

end Cursor

end CommentScan
