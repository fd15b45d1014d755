import CommentScan.Proofs.Scanner.Pieces
import CommentScan.Session

/-!
# Taking up at a saved state

All that the future of a scanner depends on is its window, the state at its
place and its granularity.  So a scanner that resumes in the state of another
one goes on like it, whatever it has read before.  Only the current token is
not part of the state: until a token has been read, calls that look at the
current token or give it back see the empty token of the new window.

`SamePlace` relates two scanners that agree on what is to come, and `SameToken`
two that agree on the current token as well.  Each call keeps the relation, and
reading a token leads from the first to the second.  `resume_transparent`
draws the conclusion for any calls of a session.
-/

namespace CommentScan

namespace Call

/-- Whether a call reads on, gives characters back or looks at the token. -/
def staysInWindow : Call → Bool
  | advance | tryAdvance | pushBack _ | charAt _ => true
  | _ => false

/-- Whether a call has to do with the current token. -/
def usesToken : Call → Bool
  | pushBack _ | charAt _ => true
  | _ => false

end Call

/-- Whether a reply is a token that has been read. -/
def Reply.isToken : Reply → Bool
  | token (some _) => true
  | _ => false

/-- What is seen of a scanner apart from its current token. -/
structure Surroundings where
  position : Nat
  windowEnd : Nat
  depth : Nat
  mode : Mode
  kind : CommentKind
  state : ScanState

/-- What is seen of the current token of a scanner. -/
structure CurrentToken where
  span : Span
  text : Text
  charAt? : Nat → Option Char

namespace Scanner

/-- What is seen of a scanner apart from its current token. -/
def surroundings (scanner : Scanner) : Surroundings where
  position := scanner.position
  windowEnd := scanner.windowEnd
  depth := scanner.nesting.depth
  mode := scanner.mode
  kind := scanner.nesting.kind
  state := scanner.state

/-- What is seen of the current token of a scanner. -/
def currentToken (scanner : Scanner) : CurrentToken where
  span := scanner.tokenSpan
  text := scanner.tokenText
  charAt? := scanner.charAt?

/-! ## Scanners at the same place -/

/-- Two scanners have the same to read, from the same state on. -/
structure SamePlace (left right : Scanner) : Prop where
  granularity : left.granularity = right.granularity
  state : left.state = right.state
  unread : left.unread = right.unread

/-- Two scanners at the same place have the same current token. -/
structure SameToken (left right : Scanner) : Prop
    extends SamePlace left right where
  tokenStart : left.tokenStart = right.tokenStart
  tokenText : left.tokenText = right.tokenText

variable {left right : Scanner}

theorem SamePlace.nesting (same : SamePlace left right) :
    left.nesting = right.nesting :=
  congrArg ScanState.nesting same.state

theorem SamePlace.position (same : SamePlace left right) :
    left.position = right.position :=
  congrArg ScanState.position same.state

theorem SamePlace.surroundings_eq (same : SamePlace left right) :
    left.surroundings = right.surroundings := by
  simp only [surroundings, windowEnd, mode, same.state, same.position,
    same.nesting, same.unread]

theorem SameToken.currentToken_eq (same : SameToken left right) :
    left.currentToken = right.currentToken := by
  have text := same.tokenText
  simp only [currentToken, tokenSpan, same.tokenStart, same.position, text]
  congr 1
  funext index
  rw [charAt?, charAt?, text]

/-- Behind the same piece two scanners have the same token. -/
theorem SamePlace.behind (same : SamePlace left right) (piece : Piece) :
    SameToken (left.behind piece) (right.behind piece) := by
  have position := same.position
  refine ⟨⟨same.granularity, ?_, ?_⟩, position, rfl⟩
  · exact
      congrArg (fun start => (piece.readingAt start).state) position
  · exact congrArg (List.drop piece.text.length) same.unread

/-- The end of the window leaves two scanners at the same place. -/
theorem SamePlace.meetEnd (same : SamePlace left right) :
    SamePlace { left with endReported := true }
      { right with endReported := true } :=
  ⟨same.granularity, same.state, same.unread⟩

/-- Reading on from the same place reads the same, and leads to one place. -/
theorem SamePlace.advance (same : SamePlace left right) :
    left.advance.1 = right.advance.1 ∧
      SamePlace left.advance.2 right.advance.2 ∧
      (left.advance.1.isSome → SameToken left.advance.2 right.advance.2) := by
  cases found :
      Piece.first? left.granularity left.nesting left.unread with
  | none =>
      have finished := Piece.first?_eq_none_iff.mp found
      rw [advance_of_nil finished,
        advance_of_nil (same.unread.symm.trans finished)]
      refine ⟨rfl, same.meetEnd, ?_⟩
      intro impossible
      cases impossible
  | some piece =>
      have otherFound := found
      rw [same.granularity, same.nesting, same.unread] at otherFound
      have sameToken := same.behind piece
      rw [advance_of_first? found, advance_of_first? otherFound,
        same.position]
      exact ⟨rfl, sameToken.toSamePlace, fun _ => sameToken⟩

/-- Reading on from the same token leads to the same token. -/
theorem SameToken.advance (same : SameToken left right) :
    left.advance.1 = right.advance.1 ∧
      SameToken left.advance.2 right.advance.2 := by
  rcases same.toSamePlace.advance with ⟨result, -, sameToken⟩
  refine ⟨result, ?_⟩
  cases read : left.advance.1 with
  | some token =>
      apply sameToken
      rw [read]
      rfl
  | none =>
      have finished := advance_eq_none_iff.mp read
      rw [advance_of_nil finished,
        advance_of_nil (same.unread.symm.trans finished)]
      exact ⟨same.toSamePlace.meetEnd, same.tokenStart, same.tokenText⟩

/-- The same token gives the same characters back, or refuses to. -/
theorem SameToken.pushBack (same : SameToken left right) (count : Nat) :
    (∃ error, left.pushBack count = .error error ∧
        right.pushBack count = .error error) ∨
      ∃ leftAfter rightAfter,
        left.pushBack count = .ok leftAfter ∧
          right.pushBack count = .ok rightAfter ∧
          SameToken leftAfter rightAfter := by
  cases pushed : left.pushBack count with
  | error error =>
      left
      refine ⟨error, rfl, ?_⟩
      rw [pushBack_eq_error_iff] at pushed ⊢
      rw [← same.tokenText]
      exact pushed
  | ok leftAfter =>
      right
      rcases pushBack_eq_ok_iff.mp pushed with
        ⟨kept, returned, whole, length, rfl⟩
      refine ⟨_, _, rfl, pushBack_eq_ok_iff.mpr
        ⟨kept, returned, ?_, length, rfl⟩, ?_⟩
      · rw [← same.tokenText]
        exact whole
      · refine ⟨⟨same.granularity, ?_, ?_⟩, same.tokenStart, rfl⟩
        · simp only [state, position, same.tokenStart, same.nesting]
        · exact congrArg (returned ++ ·) same.unread

end Scanner

/-! ## Calls of two sessions -/

namespace Session

/-- Reading on with or without an error to report is the same. -/
theorem perform_tryAdvance (session : Session) :
    session.perform .tryAdvance = session.perform .advance := by
  simp only [perform, Scanner.tryAdvance_eq]

/-- What is seen of a call: the reply and the scanner behind it. -/
structure Observation where
  reply : Reply
  surroundings : Surroundings
  currentToken : CurrentToken

/-- What is seen of a call. -/
def Outcome.observation (outcome : Outcome) : Observation where
  reply := outcome.reply
  surroundings := outcome.after.scanner.surroundings
  currentToken := outcome.after.scanner.currentToken

/-- A call in the window that does not use the current token reads on. -/
theorem perform_of_not_usesToken {call : Call} (stays : call.staysInWindow)
    (unused : ¬ call.usesToken) (session : Session) :
    session.perform call = session.perform .advance := by
  cases call with
  | advance => rfl
  | tryAdvance => exact session.perform_tryAdvance
  | pushBack | charAt => exact absurd rfl unused
  | take | collect | reset | resume | snapshot | clone | restore
  | restart => cases stays

/-- A call in the window depends on nothing but the scanner. -/
theorem perform_of_scanner_eq {left right : Session} {call : Call}
    (same : left.scanner = right.scanner) (stays : call.staysInWindow) :
    (left.perform call).reply = (right.perform call).reply ∧
      (left.perform call).after.scanner =
        (right.perform call).after.scanner := by
  by_cases uses : call.usesToken
  · cases call with
    | pushBack count =>
        simp only [perform, same]
        cases right.scanner.pushBack count with
        | error error => exact ⟨rfl, same⟩
        | ok after => exact ⟨rfl, rfl⟩
    | charAt index =>
        simp only [perform, answer, same]
        exact ⟨trivial, trivial⟩
    | _ => cases uses
  · rw [perform_of_not_usesToken stays uses,
      perform_of_not_usesToken stays uses]
    simp only [perform, withScanner, same]
    exact ⟨trivial, trivial⟩

/-- Behind the same token a call has the same outcome. -/
theorem perform_of_sameToken {left right : Session} {call : Call}
    (same : left.scanner.SameToken right.scanner)
    (stays : call.staysInWindow) :
    (left.perform call).reply = (right.perform call).reply ∧
      (left.perform call).after.scanner.SameToken
        (right.perform call).after.scanner := by
  by_cases uses : call.usesToken
  · cases call with
    | pushBack count =>
        rcases same.pushBack count with
          ⟨error, leftRefused, rightRefused⟩ |
            ⟨leftAfter, rightAfter, leftPushed, rightPushed, sameToken⟩
        · simp only [perform, leftRefused, rightRefused, answer]
          exact ⟨trivial, same⟩
        · simp only [perform, leftPushed, rightPushed, withScanner]
          exact ⟨trivial, sameToken⟩
    | charAt index =>
        simp only [perform, answer, Scanner.charAt?, same.tokenText]
        exact ⟨trivial, same⟩
    | _ => cases uses
  · rw [perform_of_not_usesToken stays uses,
      perform_of_not_usesToken stays uses]
    rcases same.advance with ⟨result, sameToken⟩
    exact ⟨congrArg Reply.token result, sameToken⟩

/-- Behind the same token all calls in the window have the same outcomes. -/
theorem performAll_of_sameToken {left right : Session} {calls : List Call}
    (same : left.scanner.SameToken right.scanner)
    (stay : ∀ call ∈ calls, call.staysInWindow) :
    (left.performAll calls).map Outcome.observation =
      (right.performAll calls).map Outcome.observation := by
  induction calls generalizing left right with
  | nil => rfl
  | cons call rest inductionHypothesis =>
      rcases List.forall_mem_cons.mp stay with ⟨stays, restStay⟩
      rcases perform_of_sameToken same stays with ⟨reply, sameToken⟩
      simp only [performAll, List.map_cons, Outcome.observation, reply,
        sameToken.surroundings_eq, sameToken.currentToken_eq]
      exact congrArg _ (inductionHypothesis sameToken restStay)

/--
Calls that have to do with the current token come behind a call that has read
one.
-/
def AwaitsToken (session : Session) (calls : List Call) : Prop :=
  ∀ earlier call later, calls = earlier ++ call :: later → call.usesToken →
    ∃ outcome ∈ session.performAll earlier, outcome.reply.isToken

theorem AwaitsToken.head {session : Session} {call : Call}
    {rest : List Call} (awaits : session.AwaitsToken (call :: rest)) :
    ¬ call.usesToken := by
  intro uses
  rcases awaits [] call rest rfl uses with ⟨outcome, member, -⟩
  cases member

theorem AwaitsToken.tail {session : Session} {call : Call}
    {rest : List Call} (awaits : session.AwaitsToken (call :: rest))
    (nothing : ¬ (session.perform call).reply.isToken) :
    (session.perform call).after.AwaitsToken rest := by
  intro earlier next later whole uses
  rcases awaits (call :: earlier) next later (by rw [whole]; rfl) uses with
    ⟨outcome, member, isToken⟩
  rcases List.mem_cons.mp member with rfl | inRest
  · exact absurd isToken nothing
  · exact ⟨outcome, inRest, isToken⟩

/-- What is seen of some calls from the one on that has read a token. -/
def fromFirstToken (outcomes : List Outcome) : List Observation :=
  (outcomes.map Outcome.observation).dropWhile fun observation =>
    !observation.reply.isToken

/--
What is seen of some calls is the same on both sides: the replies, errors among
them, and the surroundings behind every call, and from the first token on the
current token as well.
-/
structure Matches (left right : List Outcome) : Prop where
  replies : left.map Outcome.reply = right.map Outcome.reply
  surroundings :
    left.map (fun outcome => outcome.after.scanner.surroundings) =
      right.map fun outcome => outcome.after.scanner.surroundings
  fromFirstToken : fromFirstToken left = fromFirstToken right

theorem matches_of_observations {left right : List Outcome}
    (same :
      left.map Outcome.observation = right.map Outcome.observation) :
    Matches left right := by
  have seen : ∀ {β : Type} (look : Observation → β),
      left.map (fun outcome => look outcome.observation) =
        right.map fun outcome => look outcome.observation := by
    intro β look
    have looked := congrArg (List.map look) same
    rwa [List.map_map, List.map_map] at looked
  exact ⟨seen Observation.reply, seen Observation.surroundings,
    congrArg (List.dropWhile _) same⟩

/-- Calls that have not read a token yet match if the rest does. -/
theorem Matches.cons {left right : Outcome} {lefts rights : List Outcome}
    (rest : Matches lefts rights) (reply : left.reply = right.reply)
    (surroundings :
      left.after.scanner.surroundings = right.after.scanner.surroundings)
    (nothing : ¬ left.reply.isToken) :
    Matches (left :: lefts) (right :: rights) := by
  refine ⟨?_, ?_, ?_⟩
  · rw [List.map_cons, List.map_cons, reply, rest.replies]
  · rw [List.map_cons, List.map_cons, surroundings, rest.surroundings]
  · have otherNothing : ¬ right.reply.isToken := reply ▸ nothing
    have later := rest.fromFirstToken
    simp only [Session.fromFirstToken] at later
    simp [Session.fromFirstToken, Outcome.observation, nothing,
      otherNothing, later]

/-- From the same place calls that await a token have matching outcomes. -/
theorem performAll_of_samePlace {left right : Session} {calls : List Call}
    (same : left.scanner.SamePlace right.scanner)
    (stay : ∀ call ∈ calls, call.staysInWindow)
    (awaits : left.AwaitsToken calls) :
    Matches (left.performAll calls) (right.performAll calls) := by
  induction calls generalizing left right with
  | nil => exact ⟨rfl, rfl, rfl⟩
  | cons call rest inductionHypothesis =>
      rcases List.forall_mem_cons.mp stay with ⟨stays, restStay⟩
      rcases same.advance with ⟨result, samePlace, sameToken⟩
      have leftCall := perform_of_not_usesToken stays awaits.head left
      have rightCall := perform_of_not_usesToken stays awaits.head right
      have reply :
          (left.perform .advance).reply = (right.perform .advance).reply :=
        congrArg Reply.token result
      have restAwaits := awaits.tail
      rw [leftCall] at restAwaits
      rw [performAll, performAll, leftCall, rightCall]
      cases read : left.scanner.advance.1 with
      | some token =>
          -- From here on both sides agree on the current token as well.
          apply matches_of_observations
          have sameBehind := sameToken (by rw [read]; rfl)
          have later :=
            @performAll_of_sameToken (left.perform .advance).after
              (right.perform .advance).after rest sameBehind restStay
          rw [List.map_cons, List.map_cons, later, Outcome.observation,
            Outcome.observation, reply]
          congr 2
          · exact samePlace.surroundings_eq
          · exact sameBehind.currentToken_eq
      | none =>
          have nothing : ¬ (left.perform .advance).reply.isToken := by
            simp [perform, read, Reply.isToken]
          exact
            (inductionHypothesis samePlace restStay
              (restAwaits nothing)).cons
              reply samePlace.surroundings_eq nothing

/-! ## Resuming -/

/-- The session behind resuming where the scanner of another session is. -/
def resumeAt (session other : Session) : Outcome :=
  session.perform
    (.resume other.scanner.buffer other.scanner.windowEnd
      (.state other.scanner.state))

/-- A reachable scanner can be joined at its place by any other. -/
theorem resumeAt_samePlace {session other : Session}
    (reachable : other.scanner.Reachable)
    (sameOptions :
      session.scanner.granularity = other.scanner.granularity) :
    (session.resumeAt other).reply = .done ∧
      (session.resumeAt other).after.scanner.tokenSpan =
        ⟨other.scanner.position, other.scanner.position⟩ ∧
      (session.resumeAt other).after.scanner.SamePlace other.scanner := by
  have window :
      Text.slice? other.scanner.buffer other.scanner.state.position
          other.scanner.windowEnd =
        some other.scanner.unread :=
    reachable.isPlaced.unread
  rcases session.scanner.exists_resume window with
    ⟨resumed, placed, granularity, state, unread⟩
  have span := Scanner.tokenSpan_ofWindow placed
  have position := congrArg ScanState.position state
  have outcome :
      session.resumeAt other =
        ⟨.done, [Log.ofResume resumed], session.withScanner resumed⟩ := by
    simp only [resumeAt, perform, stateAt?, placed, place]
  rw [outcome]
  refine ⟨rfl, ?_, ⟨granularity.trans sameOptions, state, unread⟩⟩
  have samePosition : resumed.position = other.scanner.position := position
  rw [← samePosition]
  exact span

/--
A scanner with any history that resumes in the state of a reachable one, over
the same buffer and up to the same window end, goes on like it.  Right behind
the call its current token is empty.  Whatever further calls read on, give
characters back or look at the token, as long as none of them needs the
current token before one has been read, the replies and the surroundings behind
every call are the same, and from the first token on the current token is.
-/
theorem resume_transparent {session other : Session}
    (reachable : other.scanner.Reachable)
    (sameOptions :
      session.scanner.granularity = other.scanner.granularity) :
    (session.resumeAt other).reply = .done ∧
      (session.resumeAt other).after.scanner.tokenSpan =
        ⟨other.scanner.position, other.scanner.position⟩ ∧
      (session.resumeAt other).after.scanner.surroundings =
        other.scanner.surroundings ∧
      ∀ calls, (∀ call ∈ calls, call.staysInWindow) →
        (session.resumeAt other).after.AwaitsToken calls →
          Matches ((session.resumeAt other).after.performAll calls)
            (other.performAll calls) := by
  rcases resumeAt_samePlace reachable sameOptions with
    ⟨done, span, samePlace⟩
  refine ⟨done, span, samePlace.surroundings_eq, ?_⟩
  intro calls stay awaits
  exact performAll_of_samePlace samePlace stay awaits

/--
A star that was given back to a comment is read again, by a scanner that has
been reading another text.
-/
theorem resume_transparent_after_pushBack :
    ∃ session other : Session,
      other.scanner.Reachable ∧ other.scanner.unread = ['*', 'é'] ∧
        other.scanner.nesting = ⟨1, .doc⟩ ∧
        Matches
          ((session.resumeAt other).after.performAll
            [.advance, .pushBack 1, .tryAdvance])
          (other.performAll [.advance, .pushBack 1, .tryAdvance]) := by
  let start := Scanner.ofText ['/', '*', '*', 'é'] .lexemes
  have opened :
      start.tryAdvance =
        .ok (some ⟨.docComment, ⟨0, 3⟩⟩,
          { start with
            nesting := ⟨1, .doc⟩
            tokenText := ['/', '*', '*']
            unread := ['é'] }) := rfl
  have pushed :
      ({ start with
          nesting := ⟨1, .doc⟩
          tokenText := ['/', '*', '*']
          unread := ['é'] } : Scanner).pushBack 1 =
        .ok { start with
          nesting := ⟨1, .doc⟩
          tokenText := ['/', '*']
          unread := ['*', 'é'] } := rfl
  have reachable :=
    Scanner.Reachable.pushBack
      (.advance (.ofText ['/', '*', '*', 'é'] .lexemes) opened) pushed
  let other : Session :=
    ⟨{ start with
        nesting := ⟨1, .doc⟩
        tokenText := ['/', '*']
        unread := ['*', 'é'] }, [], []⟩
  let session := ofText ['x'] .lexemes
  have awaits :
      (session.resumeAt other).after.AwaitsToken
        [.advance, .pushBack 1, .tryAdvance] := by
    intro earlier call later whole uses
    cases earlier with
    | nil =>
        cases whole
        cases uses
    | cons first rest =>
        rw [← (List.cons.inj whole).1]
        exact ⟨_, List.mem_cons_self, rfl⟩
  have stay :
      ∀ call ∈ [Call.advance, .pushBack 1, .tryAdvance],
        call.staysInWindow := by decide
  rcases @resume_transparent session other reachable rfl with
    ⟨-, -, -, transparent⟩
  exact ⟨session, other, reachable, rfl, rfl, transparent _ stay awaits⟩

end Session

end CommentScan
