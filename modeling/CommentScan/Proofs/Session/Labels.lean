import CommentScan.Proofs.Scanner.Relocation
import CommentScan.Proofs.Session.Moves
import CommentScan.Proofs.Session.Resumption

/-!
# The sort of a comment is a label

The sort of the outermost comment has no effect but on the kinds of the
tokens in it.  Two scanners that differ in the sort alone go through the same
calls in the same way.  While a comment is open from the start on, their
tokens differ in the kind; behind its end they do not; and the next comment
that is opened from outside wipes the difference out.

`Scanner.withKind` changes the sort.  Inside a comment every call commutes with
it, up to the kind of the token, and outside until a comment is opened.
`Session.Compares` carries this along any calls.
-/

namespace CommentScan

/-- The same depth, with a sort of comment. -/
def Nesting.withKind (nesting : Nesting) (kind : CommentKind) : Nesting :=
  ⟨nesting.depth, kind⟩

/-- The reply with one kind for all its tokens. -/
def Reply.relabel (kind : TokenKind) : Reply → Reply
  | token result => token (result.map fun token => ⟨kind, token.span⟩)
  | tokens list => tokens (list.map fun token => ⟨kind, token.span⟩)
  | reply => reply

theorem Reply.relabel_relabel (kind other : TokenKind) (reply : Reply) :
    (reply.relabel other).relabel kind = reply.relabel kind := by
  cases reply with
  | token result => cases result <;> rfl
  | tokens list =>
      simp only [relabel, List.map_map]
      rfl
  | _ => rfl

namespace Scanner

/-- The scanner in the same place of a comment of a sort. -/
def withKind (scanner : Scanner) (kind : CommentKind) : Scanner :=
  { scanner with nesting := scanner.nesting.withKind kind }

/-- What is seen of a scanner apart from the sort of comment. -/
structure Outline where
  position : Nat
  windowEnd : Nat
  depth : Nat
  mode : Mode
  currentToken : CurrentToken

/-- What is seen of a scanner apart from the sort of comment. -/
def outline (scanner : Scanner) : Outline where
  position := scanner.position
  windowEnd := scanner.windowEnd
  depth := scanner.nesting.depth
  mode := scanner.mode
  currentToken := scanner.currentToken

@[simp]
theorem outline_withKind (scanner : Scanner) (kind : CommentKind) :
    (scanner.withKind kind).outline = scanner.outline := rfl

theorem pushBack_withKind (scanner : Scanner) (kind : CommentKind)
    (count : Nat) :
    (scanner.withKind kind).pushBack count =
      (scanner.pushBack count).map (·.withKind kind) := by
  cases pushed : scanner.pushBack count with
  | error error =>
      have refused := pushBack_eq_error_iff.mp pushed
      exact pushBack_eq_error_iff.mpr refused
  | ok after =>
      rcases pushBack_eq_ok_iff.mp pushed with
        ⟨kept, returned, whole, length, rfl⟩
      exact
        pushBack_eq_ok_iff.mpr ⟨kept, returned, whole, length, rfl⟩

/-- Reading on in a comment of another sort takes the same characters. -/
theorem advance_withKind {scanner : Scanner} {piece : Piece}
    (found :
      Piece.first? scanner.granularity scanner.nesting scanner.unread =
        some piece)
    (kind : CommentKind) :
    (scanner.withKind kind).advance =
      let nesting := piece.role.apply (scanner.nesting.withKind kind)
      (some
        ⟨piece.role.tokenKind nesting,
          (piece.readingAt scanner.position).token.span⟩,
        { scanner.behind piece with nesting := nesting }) :=
  @advance_of_first? (scanner.withKind kind) _
    (Piece.first?_of_kind found kind)

/-- Inside a comment reading on sees its sort only in the kind of the token. -/
theorem advance_withKind_of_open {scanner : Scanner}
    (isOpen : 0 < scanner.nesting.depth) (kind : CommentKind) :
    (scanner.withKind kind).advance =
      (scanner.advance.1.map fun token => ⟨kind.tokenKind, token.span⟩,
        scanner.advance.2.withKind kind) := by
  cases found :
      Piece.first? scanner.granularity scanner.nesting scanner.unread with
  | none =>
      have finished := Piece.first?_eq_none_iff.mp found
      rw [advance_of_nil finished,
        @advance_of_nil (scanner.withKind kind) finished]
      rfl
  | some piece =>
      rw [advance_withKind found, advance_of_first? found]
      have closed := Piece.depth_eq_zero found
      rcases Piece.exists_role found with ⟨-, behind⟩
      rcases piece with ⟨role, text, nesting⟩
      replace behind : nesting = role.apply scanner.nesting := behind
      subst behind
      cases role with
      | nestedOpener | closer | commentBody => rfl
      | plain | lineComment | emptyComment | opener =>
          exact absurd (closed rfl) (Nat.ne_of_gt isOpen)

/-- Outside all comments reading on does not see the sort of the last one. -/
theorem advance_withKind_of_closed {scanner : Scanner}
    (closed : scanner.nesting.depth = 0) (kind : CommentKind) :
    (scanner.withKind kind).advance.1 = scanner.advance.1 ∧
      (scanner.advance.2.nesting.depth = 0 →
        (scanner.withKind kind).advance.2 =
          scanner.advance.2.withKind kind) ∧
      (0 < scanner.advance.2.nesting.depth →
        (scanner.withKind kind).advance.2 = scanner.advance.2) := by
  cases found :
      Piece.first? scanner.granularity scanner.nesting scanner.unread with
  | none =>
      have finished := Piece.first?_eq_none_iff.mp found
      rw [advance_of_nil finished,
        @advance_of_nil (scanner.withKind kind) finished]
      refine ⟨rfl, fun _ => rfl, ?_⟩
      intro opened
      exact absurd closed (Nat.ne_of_gt opened)
  | some piece =>
      rw [advance_withKind found, advance_of_first? found]
      have opened := Piece.one_le_depth found
      rcases Piece.exists_role found with ⟨-, behind⟩
      rcases piece with ⟨role, text, nesting⟩
      replace behind : nesting = role.apply scanner.nesting := behind
      subst behind
      cases role with
      | plain | lineComment | emptyComment =>
          -- The sort is kept, and nothing sees it.
          refine ⟨rfl, fun _ => rfl, ?_⟩
          intro opened
          exact absurd closed (Nat.ne_of_gt opened)
      | opener sort =>
          -- The sort of the opener replaces the one of the last comment.
          refine ⟨rfl, ?_, fun _ => rfl⟩
          intro stillClosed
          cases stillClosed
      | nestedOpener | closer | commentBody =>
          have isOpen := opened rfl
          rw [closed] at isOpen
          cases isOpen

end Scanner

namespace Session

variable {session base : Session} {kind : CommentKind} {call : Call}

/-- A call that does not read on does the same whatever the sort is. -/
theorem perform_withKind_of_usesToken
    (scanner : session.scanner = base.scanner.withKind kind)
    (uses : call.usesToken) :
    (session.perform call).reply = (base.perform call).reply ∧
      (∀ label,
        (base.perform call).reply.relabel label =
          (base.perform call).reply) ∧
      (session.perform call).after.scanner =
        (base.perform call).after.scanner.withKind kind ∧
      (base.perform call).after.scanner.nesting = base.scanner.nesting := by
  cases call with
  | pushBack count =>
      simp only [perform]
      rw [scanner, Scanner.pushBack_withKind]
      cases pushed : base.scanner.pushBack count with
      | error error => exact ⟨rfl, fun _ => rfl, scanner, rfl⟩
      | ok after =>
          rcases Scanner.pushBack_eq_ok_iff.mp pushed with
            ⟨kept, returned, -, -, rfl⟩
          exact ⟨rfl, fun _ => rfl, rfl, rfl⟩
  | charAt index =>
      refine ⟨?_, fun _ => rfl, scanner, rfl⟩
      simp only [perform, answer, scanner]
      rfl
  | _ => cases uses

/-- Inside a comment a call sees its sort only in the kind of the token. -/
theorem perform_withKind_of_open
    (scanner : session.scanner = base.scanner.withKind kind)
    (stays : call.staysInWindow)
    (isOpen : 0 < base.scanner.nesting.depth) :
    (session.perform call).reply =
        (base.perform call).reply.relabel kind.tokenKind ∧
      (session.perform call).after.scanner =
        (base.perform call).after.scanner.withKind kind := by
  by_cases uses : call.usesToken
  · rcases perform_withKind_of_usesToken scanner uses with
      ⟨reply, relabelled, after, -⟩
    exact ⟨reply.trans (relabelled _).symm, after⟩
  · rw [perform_of_not_usesToken stays uses,
      perform_of_not_usesToken stays uses]
    simp only [perform, withScanner, scanner,
      Scanner.advance_withKind_of_open isOpen]
    exact ⟨rfl, trivial⟩

/-- Outside all comments a call does not see the sort of the last one. -/
theorem perform_withKind_of_closed
    (scanner : session.scanner = base.scanner.withKind kind)
    (stays : call.staysInWindow)
    (closed : base.scanner.nesting.depth = 0) :
    (session.perform call).reply = (base.perform call).reply ∧
      ((base.perform call).after.scanner.nesting.depth = 0 →
        (session.perform call).after.scanner =
          (base.perform call).after.scanner.withKind kind) ∧
      (0 < (base.perform call).after.scanner.nesting.depth →
        (session.perform call).after.scanner =
          (base.perform call).after.scanner) := by
  by_cases uses : call.usesToken
  · rcases perform_withKind_of_usesToken scanner uses with
      ⟨reply, -, after, nesting⟩
    refine ⟨reply, fun _ => after, ?_⟩
    intro opened
    rw [nesting] at opened
    exact absurd closed (Nat.ne_of_gt opened)
  · rw [perform_of_not_usesToken stays uses,
      perform_of_not_usesToken stays uses]
    rcases Scanner.advance_withKind_of_closed closed kind with
      ⟨result, stillClosed, opened⟩
    simp only [perform, withScanner, scanner, result]
    exact ⟨trivial, stillClosed, opened⟩

/-! ## Some calls, one after another -/

/-- How many comments are open behind some calls. -/
def depthBehind (session : Session) (calls : List Call) : Nat :=
  (session.behind calls).scanner.nesting.depth

/-- Some comment has been open all along. -/
def StaysInside (session : Session) (calls : List Call) : Prop :=
  ∀ passed, passed <+: calls → 0 < session.depthBehind passed

/-- A comment has been opened where none was open. -/
def OpensComment (session : Session) (calls : List Call) : Prop :=
  ∃ passed call, passed ++ [call] <+: calls ∧
    session.depthBehind passed = 0 ∧
    0 < session.depthBehind (passed ++ [call])

theorem staysInside_nil_iff :
    session.StaysInside [] ↔ 0 < session.scanner.nesting.depth := by
  constructor
  · intro stays
    exact stays [] List.prefix_rfl
  · intro isOpen passed front
    rw [List.prefix_nil.mp front]
    exact isOpen

theorem not_opensComment_nil : ¬ session.OpensComment [] := by
  rintro ⟨passed, call, front, -⟩
  have nothing := List.prefix_nil.mp front
  exact
    List.append_ne_nil_of_right_ne_nil passed (List.cons_ne_nil _ _) nothing

theorem staysInside_append_singleton_iff {calls : List Call} :
    session.StaysInside (calls ++ [call]) ↔
      session.StaysInside calls ∧
        0 < session.depthBehind (calls ++ [call]) := by
  simp only [StaysInside, List.prefix_concat_iff, or_imp, forall_and,
    forall_eq]
  exact and_comm

theorem OpensComment.append {calls : List Call}
    (opens : session.OpensComment calls) (more : List Call) :
    session.OpensComment (calls ++ more) := by
  rcases opens with ⟨passed, last, front, depths⟩
  exact ⟨passed, last, front.trans (List.prefix_append calls more), depths⟩

theorem opensComment_append_singleton_iff {calls : List Call} :
    session.OpensComment (calls ++ [call]) ↔
      session.OpensComment calls ∨
        session.depthBehind calls = 0 ∧
          0 < session.depthBehind (calls ++ [call]) := by
  constructor
  · rintro ⟨passed, last, front, closed, opened⟩
    rcases List.prefix_concat_iff.mp front with whole | earlier
    · rcases List.append_inj' whole rfl with ⟨rfl, same⟩
      cases same
      exact Or.inr ⟨closed, opened⟩
    · exact Or.inl ⟨passed, last, earlier, closed, opened⟩
  · rintro (opens | ⟨closed, opened⟩)
    · exact opens.append [call]
    · exact ⟨calls, call, List.prefix_rfl, closed, opened⟩

/-- While some comment is open none is opened from outside. -/
theorem StaysInside.not_opensComment {calls : List Call}
    (inside : session.StaysInside calls) : ¬ session.OpensComment calls := by
  rintro ⟨passed, last, front, closed, -⟩
  have isOpen := inside passed ((List.prefix_append passed [last]).trans front)
  exact absurd closed (Nat.ne_of_gt isOpen)

/--
How two sessions stand behind some calls if one of them has started in a block
comment and the other in a doc comment: until a comment is opened from outside
the sort is all that their scanners differ in, and behind that nothing is.
-/
structure Compares (left right : Session) (calls : List Call) : Prop where
  differ :
    ¬ right.OpensComment calls →
      (left.behind calls).scanner =
          (right.behind calls).scanner.withKind .block ∧
        (right.behind calls).scanner =
          (right.behind calls).scanner.withKind .doc
  same :
    right.OpensComment calls →
      (left.behind calls).scanner = (right.behind calls).scanner
  closed :
    ¬ right.StaysInside calls → ¬ right.OpensComment calls →
      right.depthBehind calls = 0

theorem compares_nil {scanner : Scanner} {left right : Session}
    (leftScanner : left.scanner = scanner.withKind .block)
    (rightScanner : right.scanner = scanner.withKind .doc) :
    Compares left right [] := by
  constructor
  case differ =>
    intro _
    simp only [behind, leftScanner, rightScanner]
    exact ⟨rfl, rfl⟩
  case same => exact fun opens => absurd opens not_opensComment_nil
  case closed =>
    intro outside _
    rw [staysInside_nil_iff] at outside
    exact Nat.eq_zero_of_not_pos outside

section Step

variable {left right : Session} {calls : List Call}

/-- One more call inside a comment. -/
theorem Compares.append_of_inside (compares : Compares left right calls)
    (stays : call.staysInWindow) (inside : right.StaysInside calls) :
    Compares left right (calls ++ [call]) := by
  have isOpen : 0 < right.depthBehind calls := inside calls List.prefix_rfl
  rcases compares.differ inside.not_opensComment with
    ⟨leftKind, rightKind⟩
  have never : ¬ right.OpensComment (calls ++ [call]) := by
    rw [opensComment_append_singleton_iff]
    rintro (opened | ⟨closed, -⟩)
    · exact inside.not_opensComment opened
    · exact absurd closed (Nat.ne_of_gt isOpen)
  constructor
  case differ =>
    intro _
    rw [behind_append_singleton, behind_append_singleton]
    exact
      ⟨(perform_withKind_of_open leftKind stays isOpen).2,
        (perform_withKind_of_open rightKind stays isOpen).2⟩
  case same => exact fun opened => absurd opened never
  case closed =>
    intro outside _
    rw [staysInside_append_singleton_iff, not_and] at outside
    exact Nat.eq_zero_of_not_pos (outside inside)

/-- One more call where no comment is open and none has been opened. -/
theorem Compares.append_of_closed (compares : Compares left right calls)
    (stays : call.staysInWindow) (closed : right.depthBehind calls = 0)
    (never : ¬ right.OpensComment calls) :
    Compares left right (calls ++ [call]) := by
  rcases compares.differ never with ⟨leftKind, rightKind⟩
  rcases perform_withKind_of_closed leftKind stays closed with
    ⟨-, leftClosed, leftOpened⟩
  rcases perform_withKind_of_closed rightKind stays closed with
    ⟨-, rightClosed, -⟩
  rw [← behind_append_singleton, ← behind_append_singleton]
    at leftClosed leftOpened
  rw [← behind_append_singleton] at rightClosed
  have closedBehind :
      ¬ right.OpensComment (calls ++ [call]) →
        right.depthBehind (calls ++ [call]) = 0 := by
    intro stillNever
    rw [opensComment_append_singleton_iff, not_or, not_and] at stillNever
    exact Nat.eq_zero_of_not_pos (stillNever.2 closed)
  constructor
  case differ =>
    intro stillNever
    have stillClosed := closedBehind stillNever
    exact ⟨leftClosed stillClosed, rightClosed stillClosed⟩
  case same =>
    intro opens
    rcases opensComment_append_singleton_iff.mp opens with
      opened | ⟨-, isOpen⟩
    · exact absurd opened never
    · exact leftOpened isOpen
  case closed => exact fun _ stillNever => closedBehind stillNever

theorem Compares.append_singleton (compares : Compares left right calls)
    (stays : call.staysInWindow) :
    Compares left right (calls ++ [call]) := by
  by_cases inside : right.StaysInside calls
  · exact compares.append_of_inside stays inside
  · by_cases opens : right.OpensComment calls
    · -- From here on there is no difference.
      have same := (perform_of_scanner_eq (compares.same opens) stays).2
      have opensBehind := opens.append [call]
      constructor
      case differ => exact fun never => absurd opensBehind never
      case same =>
        intro _
        rw [behind_append_singleton, behind_append_singleton]
        exact same
      case closed => exact fun _ never => absurd opensBehind never
    · exact
        compares.append_of_closed stays (compares.closed inside opens) opens

end Step

/-- Behind any calls in the window two sessions compare as they should. -/
theorem compares_of_withKind {scanner : Scanner} {left right : Session}
    (leftScanner : left.scanner = scanner.withKind .block)
    (rightScanner : right.scanner = scanner.withKind .doc)
    {calls : List Call} (stay : ∀ call ∈ calls, call.staysInWindow) :
    Compares left right calls := by
  induction calls using List.reverseRecOn with
  | nil => exact compares_nil leftScanner rightScanner
  | append_singleton calls call inductionHypothesis =>
      rcases List.forall_mem_append.mp stay with ⟨earlierStay, lastStays⟩
      exact
        (inductionHypothesis earlierStay).append_singleton
          (lastStays call List.mem_cons_self)

/--
What two sessions show of a call if one of them has started in a block comment
and the other in a doc comment.  The place, the end of the window, the depth,
the mode and the current token are the same.  While a comment has been open
all along the replies differ in the kind of the token alone, and from then on
they are the same.  The sort of comment is the same exactly if a comment has
been opened from outside.
-/
structure OnlyLabels (left right : Session) (earlier : List Call)
    (call : Call) : Prop where
  outline :
    ((left.behind earlier).perform call).after.scanner.outline =
      ((right.behind earlier).perform call).after.scanner.outline
  inside :
    right.StaysInside earlier →
      ((left.behind earlier).perform call).reply =
          ((right.behind earlier).perform call).reply.relabel
            .blockComment ∧
        ((right.behind earlier).perform call).reply =
          ((left.behind earlier).perform call).reply.relabel .docComment
  outside :
    ¬ right.StaysInside earlier →
      ((left.behind earlier).perform call).reply =
        ((right.behind earlier).perform call).reply
  kind :
    (left.behind (earlier ++ [call])).scanner.nesting.kind =
        (right.behind (earlier ++ [call])).scanner.nesting.kind ↔
      right.OpensComment (earlier ++ [call])

/--
The sort of a comment only labels.  Two sessions whose scanners are in the same
place, one in a block comment and the other in a doc comment, are driven by the
same calls that read on, give characters back or look at the current token.
Whatever the calls are, they show the same but for the kinds of the tokens in
that comment, up to the one that closes it.
-/
theorem perform_onlyLabels {scanner : Scanner} {left right : Session}
    (leftScanner : left.scanner = scanner.withKind .block)
    (rightScanner : right.scanner = scanner.withKind .doc)
    {earlier : List Call} {call : Call}
    (stay : ∀ other ∈ earlier ++ [call], other.staysInWindow) :
    OnlyLabels left right earlier call := by
  rcases List.forall_mem_append.mp stay with ⟨earlierStay, lastStays⟩
  have stays := lastStays call List.mem_cons_self
  have before := compares_of_withKind leftScanner rightScanner earlierStay
  have behind := compares_of_withKind leftScanner rightScanner stay
  constructor
  case outline =>
    rw [← behind_append_singleton, ← behind_append_singleton]
    by_cases opens : right.OpensComment (earlier ++ [call])
    · rw [behind.same opens]
    · rw [(behind.differ opens).1, Scanner.outline_withKind]
  case inside =>
    intro inside
    have isOpen := inside earlier List.prefix_rfl
    rcases before.differ inside.not_opensComment with
      ⟨leftKind, rightKind⟩
    have leftReply := (perform_withKind_of_open leftKind stays isOpen).1
    have rightReply := (perform_withKind_of_open rightKind stays isOpen).1
    refine ⟨leftReply, ?_⟩
    rw [leftReply, Reply.relabel_relabel]
    exact rightReply
  case outside =>
    intro outside
    by_cases opens : right.OpensComment earlier
    · exact (perform_of_scanner_eq (before.same opens) stays).1
    · have closed := before.closed outside opens
      exact
        (perform_withKind_of_closed (before.differ opens).1 stays closed).1
  case kind =>
    constructor
    · intro same
      by_contra opens
      rcases behind.differ opens with ⟨leftKind, rightKind⟩
      rw [leftKind, rightKind] at same
      cases same
    · intro opens
      rw [behind.same opens]

/--
A comment is closed and another one opened: the first token is labelled, and
behind the second the sort is the same.
-/
theorem perform_onlyLabels_reopened :
    ∃ left right : Session,
      (Scanner.ofText [] .merged).resume ['*', '/', '/', '*', 'x'] 5
            ⟨0, ⟨1, .block⟩⟩ =
          .ok left.scanner ∧
        (Scanner.ofText [] .merged).resume ['*', '/', '/', '*', 'x'] 5
            ⟨0, ⟨1, .doc⟩⟩ =
          .ok right.scanner ∧
        (left.perform .advance).reply =
          .token (some ⟨.blockComment, ⟨0, 2⟩⟩) ∧
        (right.perform .advance).reply =
          .token (some ⟨.docComment, ⟨0, 2⟩⟩) ∧
        (left.behind [.advance, .advance]).scanner.nesting.kind =
          (right.behind [.advance, .advance]).scanner.nesting.kind := by
  let text : Text := ['*', '/', '/', '*', 'x']
  let scanner : Scanner :=
    { Scanner.ofText text .merged with nesting := ⟨1, .block⟩ }
  let left : Session := ⟨scanner.withKind .block, [], []⟩
  let right : Session := ⟨scanner.withKind .doc, [], []⟩
  have first : OnlyLabels left right [] .advance :=
    perform_onlyLabels rfl rfl (by decide)
  have second : OnlyLabels left right [.advance] .advance :=
    perform_onlyLabels rfl rfl (by decide)
  have isOpen : right.StaysInside [] :=
    staysInside_nil_iff.mpr (by decide)
  have opens : right.OpensComment [.advance, .advance] :=
    ⟨[.advance], .advance, List.prefix_rfl, rfl, Nat.one_pos⟩
  have rightReply :
      (right.perform .advance).reply =
        .token (some ⟨.docComment, ⟨0, 2⟩⟩) := rfl
  have leftReply := (first.inside isOpen).1
  exact
    ⟨left, right, rfl, rfl, leftReply, rightReply, second.kind.mpr opens⟩

end Session

end CommentScan
