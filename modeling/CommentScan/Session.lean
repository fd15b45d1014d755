import CommentScan.Log

/-!
# Sessions

In a session a scanner is driven call by call.  States can be saved and
resumed later, and the scanner can be copied and put back.  Each call has a
reply and the events that it causes.  A call that is refused changes nothing
and causes no event.
-/

namespace CommentScan

/-- Where a scanner takes up again: in a given state or in a saved one. -/
inductive ResumePoint where
  | state (state : ScanState)
  | snapshot (index : Nat)
  deriving DecidableEq, Repr

/-- What can be asked of the scanner of a session. -/
inductive Call where
  | advance
  | tryAdvance
  | take (count : Nat)
  | collect
  | pushBack (count : Nat)
  | charAt (index : Nat)
  | reset (buffer : Text) (start stop : Nat) (mode : Mode)
  | resume (buffer : Text) (stop : Nat) (point : ResumePoint)
  | snapshot
  | clone
  | restore
  | restart (buffer : Text) (granularity : Granularity)
  deriving DecidableEq, Repr

/-- What a call answers. -/
inductive Reply where
  | done
  | token (token : Option Token)
  | tokens (tokens : List Token)
  | character (character : Option Char)
  | saved (state : ScanState)
  | copies (count : Nat)
  | refused (error : ScanError)
  | misplaced (error : WindowError)
  | unknown
  deriving DecidableEq, Repr

/-- A scanner in use, the states saved so far and the copies, newest first. -/
structure Session where
  scanner : Scanner
  snapshots : List ScanState
  copies : List Scanner
  deriving DecidableEq, Repr

namespace Session

/-- A session with a fresh scanner. -/
def ofText (buffer : Text) (granularity : Granularity) : Session :=
  ⟨.ofText buffer granularity, [], []⟩

/-- The state at which a scanner takes up again, if there is one. -/
def stateAt? (session : Session) : ResumePoint → Option ScanState
  | .state state => some state
  | .snapshot index => session.snapshots[index]?

/-- The reply, the events and the session behind a call. -/
structure Outcome where
  reply : Reply
  events : List Log.Event
  after : Session
  deriving DecidableEq, Repr

/-- The session with another scanner. -/
def withScanner (session : Session) (scanner : Scanner) : Session :=
  { session with scanner := scanner }

/-- A call that answers without doing anything. -/
def answer (session : Session) (reply : Reply) : Outcome :=
  ⟨reply, [], session⟩

/-- The outcome of reading some tokens. -/
def readSteps (session : Session) (outcome : List Step × Scanner) : Outcome :=
  ⟨.tokens (outcome.1.map Step.token), Log.ofSteps session.scanner outcome,
    session.withScanner outcome.2⟩

/-- The outcome of placing the scanner on a window. -/
def place (session : Session) (event : Scanner → Log.Event) :
    Except WindowError Scanner → Outcome
  | .ok scanner => ⟨.done, [event scanner], session.withScanner scanner⟩
  | .error error => session.answer (.misplaced error)

/-- The outcome of a call. -/
def perform (session : Session) : Call → Outcome
  | .advance =>
      let outcome := session.scanner.advance
      ⟨.token outcome.1, Log.ofAdvance session.scanner outcome,
        session.withScanner outcome.2⟩
  | .tryAdvance =>
      match session.scanner.tryAdvance with
      | .ok outcome =>
          ⟨.token outcome.1, Log.ofAdvance session.scanner outcome,
            session.withScanner outcome.2⟩
      | .error error => session.answer (.refused error)
  | .take count => session.readSteps (session.scanner.take count)
  | .collect => session.readSteps session.scanner.drain
  | .pushBack count =>
      match session.scanner.pushBack count with
      | .ok scanner => ⟨.done, [], session.withScanner scanner⟩
      | .error error => session.answer (.refused error)
  | .charAt index =>
      session.answer (.character (session.scanner.charAt? index))
  | .reset buffer start stop mode =>
      session.place Log.ofReset
        (session.scanner.reset buffer start stop mode)
  | .resume buffer stop point =>
      match session.stateAt? point with
      | some state =>
          session.place Log.ofResume
            (session.scanner.resume buffer stop state)
      | none => session.answer .unknown
  | .snapshot =>
      let state := session.scanner.state
      ⟨.saved state, [],
        { session with snapshots := session.snapshots ++ [state] }⟩
  | .clone =>
      ⟨.copies (session.copies.length + 1), [],
        { session with copies := session.scanner :: session.copies }⟩
  | .restore =>
      match session.copies with
      | scanner :: copies =>
          ⟨.done, [], { session with scanner := scanner, copies := copies }⟩
      | [] => session.answer .unknown
  | .restart buffer granularity =>
      ⟨.done, [], session.withScanner (.ofText buffer granularity)⟩

/-- The outcomes of some calls, one after another. -/
def performAll (session : Session) : List Call → List Outcome
  | [] => []
  | call :: calls =>
      let outcome := session.perform call
      outcome :: outcome.after.performAll calls

end Session

end CommentScan
