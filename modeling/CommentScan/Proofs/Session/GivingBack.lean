import CommentScan.Proofs.Session.Invariant

/-!
# Giving characters back

A call that gives characters back either cuts the current token short by
exactly as many characters as it asks for, or is refused and changes nothing.
Characters are counted while places are byte offsets, so the cut depends on
the sizes of the characters on both sides of it.

`Scanner.GivesBack` is what a call does that is not refused.  Giving back in
two steps is giving back in one: `pushBack_trans` says that the scanner is the
same, and `length_tokenText_pushBack` how much is left for a second step.
`Session.perform_pushBack_exact` puts this together for the calls of a session
and for the registers that hold its scanner.
-/

namespace CommentScan

namespace Scanner

/--
The last characters of the current token have been given back.  The token
keeps its start and its other characters, which are those that its new span
covers in the buffer, and the window goes on with the ones given back.  The
place is the new end of the token, in all its copies, and nothing else has
changed.
-/
structure GivesBack (scanner : Scanner) (count : Nat) (after : Scanner) :
    Prop where
  tokenStart : after.tokenStart = scanner.tokenStart
  tokenText :
    after.tokenText =
      scanner.tokenText.take (scanner.tokenText.length - count)
  unread :
    after.unread =
      scanner.tokenText.drop (scanner.tokenText.length - count) ++
        scanner.unread
  covered : after.tokenSpan.slice? scanner.buffer = some after.tokenText
  state : after.state = ⟨after.tokenSpan.stop, scanner.nesting⟩
  mode : after.mode = scanner.mode
  window : scanner.SameWindow after
  consistent : after.registers.IsConsistent

variable {scanner middle after : Scanner} {count : Nat}

/-- Characters can be given back as long as the token has as many. -/
theorem exists_pushBack (enough : count ≤ scanner.tokenText.length) :
    ∃ after, scanner.pushBack count = .ok after := by
  cases pushed : scanner.pushBack count with
  | ok after => exact ⟨after, rfl⟩
  | error error =>
      have tooMany := (pushBack_eq_error_iff.mp pushed).1
      exact absurd enough (Nat.not_le_of_lt tooMany)

/-- What is given back is missing from the token. -/
theorem length_tokenText_pushBack
    (pushed : scanner.pushBack count = .ok after) :
    after.tokenText.length + count = scanner.tokenText.length := by
  rcases pushBack_eq_ok_iff.mp pushed with
    ⟨kept, returned, whole, rfl, rfl⟩
  rw [whole, List.length_append]

theorem IsPlaced.givesBack (placed : scanner.IsPlaced)
    (pushed : scanner.pushBack count = .ok after) :
    scanner.GivesBack count after := by
  have behind := placed.pushBack pushed
  have covered := behind.tokenText
  have window := (sameWindow_pushBack pushed).1
  rw [window.buffer] at covered
  rcases pushBack_eq_ok_iff.mp pushed with
    ⟨kept, returned, whole, rfl, rfl⟩
  have length :
      scanner.tokenText.length - returned.length = kept.length := by
    rw [whole, List.length_append, Nat.add_sub_cancel]
  constructor
  case tokenStart | state | mode => rfl
  case tokenText => rw [length, whole, List.take_left]
  case unread => rw [length, whole, List.drop_left]
  case covered => exact covered
  case window => exact window
  case consistent => exact behind.isConsistent

/-- Giving back in two steps is giving back in one. -/
theorem pushBack_trans {first second : Nat}
    (firstPushed : scanner.pushBack first = .ok middle)
    (secondPushed : middle.pushBack second = .ok after) :
    scanner.pushBack (first + second) = .ok after := by
  rcases pushBack_eq_ok_iff.mp firstPushed with
    ⟨kept, returned, whole, rfl, rfl⟩
  rcases pushBack_eq_ok_iff.mp secondPushed with
    ⟨still, earlier, keptWhole, rfl, rfl⟩
  -- What the second step gives back stands in front of what the first did.
  refine pushBack_eq_ok_iff.mpr ⟨still, earlier ++ returned, ?_, ?_, ?_⟩
  · rw [whole, ← List.append_assoc]
    exact congrArg (· ++ returned) keptWhole
  · rw [List.length_append, Nat.add_comm]
  · rw [List.append_assoc]

end Scanner

namespace Session

variable {session : Session} {count : Nat} {after : Scanner}

theorem perform_pushBack_of_ok
    (pushed : session.scanner.pushBack count = .ok after) :
    session.perform (.pushBack count) =
      ⟨.done, [], session.withScanner after⟩ := by
  simp only [perform, pushed]

/-- A call that asks for more than there is is refused. -/
theorem perform_pushBack_of_lt
    (tooMany : session.scanner.tokenText.length < count) :
    session.perform (.pushBack count) =
      session.answer
        (.refused
          (.pushbackTooLarge count session.scanner.tokenText.length)) := by
  have refused := Scanner.pushBack_eq_error_iff.mpr ⟨tooMany, rfl⟩
  simp only [perform, refused]

/-- Giving characters back succeeds exactly if the token has as many. -/
theorem reply_pushBack_eq_done_iff :
    (session.perform (.pushBack count)).reply = .done ↔
      count ≤ session.scanner.tokenText.length := by
  constructor
  · intro done
    by_contra tooMany
    rw [perform_pushBack_of_lt (Nat.lt_of_not_le tooMany)] at done
    cases done
  · intro enough
    rcases Scanner.exists_pushBack enough with ⟨after, pushed⟩
    rw [perform_pushBack_of_ok pushed]

/-- Two calls in a row succeed if the token has enough for both. -/
theorem replies_pushBack_eq_done_iff (first second : Nat) :
    (session.performAll [.pushBack first, .pushBack second]).map
          Outcome.reply =
        [.done, .done] ↔
      first + second ≤ session.scanner.tokenText.length := by
  simp only [performAll, List.map_cons, List.map_nil, List.cons.injEq,
    and_true]
  rw [reply_pushBack_eq_done_iff]
  by_cases enough : first ≤ session.scanner.tokenText.length
  · rcases Scanner.exists_pushBack enough with ⟨middle, pushed⟩
    have left := Scanner.length_tokenText_pushBack pushed
    rw [perform_pushBack_of_ok pushed, reply_pushBack_eq_done_iff]
    show _ ∧ second ≤ middle.tokenText.length ↔ _
    omega
  · omega

/-- Two calls in a row leave what one call leaves. -/
theorem behind_pushBack_add {first second : Nat}
    (enough : first + second ≤ session.scanner.tokenText.length) :
    session.behind [.pushBack first, .pushBack second] =
      session.behind [.pushBack (first + second)] := by
  have firstEnough : first ≤ session.scanner.tokenText.length := by omega
  rcases Scanner.exists_pushBack firstEnough with ⟨middle, firstPushed⟩
  have left := Scanner.length_tokenText_pushBack firstPushed
  have secondEnough : second ≤ middle.tokenText.length := by omega
  rcases Scanner.exists_pushBack secondEnough with ⟨last, secondPushed⟩
  have pushed := Scanner.pushBack_trans firstPushed secondPushed
  have secondStep :=
    @perform_pushBack_of_ok (session.withScanner middle) _ _ secondPushed
  simp only [behind, perform_pushBack_of_ok firstPushed,
    perform_pushBack_of_ok pushed, secondStep]
  rfl

/--
Giving characters back is exact, additive and all or nothing.  Whatever calls
have led to a scanner, a call that asks for more characters than its token has
is refused with both numbers, and the whole session stays as it is.  Any other
call leaves the token its start and exactly the characters in front of those
given back.  Two calls in a row succeed exactly if the token has enough for
both, and leave what a single call leaves.  The registers that hold the
scanner, which find the cut by its offset and bring three copies of the place
along, go through each of these calls in the same way.
-/
theorem perform_pushBack_exact (reachable : session.scanner.Reachable) :
    session.scanner.tokenSpan.slice? session.scanner.buffer =
        some session.scanner.tokenText ∧
      (∀ count, session.scanner.tokenText.length < count →
        session.perform (.pushBack count) =
          session.answer
            (.refused
              (.pushbackTooLarge count
                session.scanner.tokenText.length))) ∧
      (∀ count, count ≤ session.scanner.tokenText.length →
        ∃ after,
          session.perform (.pushBack count) =
              ⟨.done, [], session.withScanner after⟩ ∧
            session.scanner.GivesBack count after) ∧
      (∀ first second,
        (session.performAll [.pushBack first, .pushBack second]).map
              Outcome.reply =
            [.done, .done] ↔
          first + second ≤ session.scanner.tokenText.length) ∧
      (∀ first second,
        first + second ≤ session.scanner.tokenText.length →
          session.behind [.pushBack first, .pushBack second] =
            session.behind [.pushBack (first + second)]) ∧
      (Text.byteLength session.scanner.buffer ≤ wordLimit →
        ∀ count,
          session.scanner.registers.perform (.pushBack count) =
            .ok
              ((session.perform (.pushBack count)).reply,
                (session.perform
                  (.pushBack count)).after.scanner.registers)) := by
  have placed := reachable.isPlaced
  refine ⟨placed.tokenText, fun count => perform_pushBack_of_lt, ?_,
    replies_pushBack_eq_done_iff, fun first second => behind_pushBack_add,
    ?_⟩
  · intro count enough
    rcases Scanner.exists_pushBack enough with ⟨after, pushed⟩
    exact ⟨after, perform_pushBack_of_ok pushed, placed.givesBack pushed⟩
  · intro small count
    have fits : session.scanner.Fits := placed.fits small
    rw [Registers.perform, fits.pushBack, perform]
    cases session.scanner.pushBack count <;> rfl

/--
A line comment with characters of one to four bytes, of which the last two are
given back, at once and one by one, and far more than there are.
-/
theorem perform_pushBack_exact_wide :
    ∃ session : Session,
      session.scanner.Reachable ∧
        session.scanner.tokenText = ['/', '/', 'é', '€', '😀'] ∧
        session.perform (.pushBack 18446744073709551615) =
          session.answer
            (.refused (.pushbackTooLarge 18446744073709551615 5)) ∧
        (∃ after,
          session.perform (.pushBack 2) =
              ⟨.done, [], session.withScanner after⟩ ∧
            session.scanner.GivesBack 2 after ∧
            after.tokenText = ['/', '/', 'é'] ∧ after.position = 4) ∧
        session.behind [.pushBack 1, .pushBack 1] =
          session.behind [.pushBack 2] := by
  let text : Text := ['/', '/', 'é', '€', '😀']
  let read : Scanner :=
    { Scanner.ofText text .merged with tokenText := text, unread := [] }
  have advanced :
      (Scanner.ofText text .merged).tryAdvance =
        .ok (some ⟨.lineComment, ⟨0, 11⟩⟩, read) := rfl
  have reachable : read.Reachable := .advance (.ofText text .merged) advanced
  let session : Session := ⟨read, [], []⟩
  rcases @perform_pushBack_exact session reachable with
    ⟨-, refused, given, -, together, -⟩
  rcases given 2 (by decide) with ⟨after, outcome, givesBack⟩
  have start := givesBack.tokenStart
  have kept := givesBack.tokenText
  refine ⟨session, reachable, rfl, refused _ (by decide),
    ⟨after, outcome, givesBack, kept, ?_⟩, together 1 1 (by decide)⟩
  rw [Scanner.position, start, kept]
  rfl

end Session

end CommentScan
