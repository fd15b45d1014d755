import CommentScan.Proofs.Lexeme.Enclosure

/-!
# String literals

A string literal between double quotes stays on its line.  It ends behind a
closing quote that has no backslash in front, and without one it goes on to
the end of the line.  Behind three quotes stands any text, up to the next place
where three quotes come together, and the quotes that follow them belong to
the literal as well.  Where they never do, and where there are only two quotes
at the front, nothing but two quotes is read.

`begins_stringLiteral` states the extent in all these cases.
-/

namespace CommentScan

open CommentScan.Automaton

namespace Text

/--
The characters of a string literal on one line, behind its opening quote.  A
backslash takes the next character with it, unless the line ends there.
-/
def untilStringEnd : Text → Text
  | [] => []
  | ['\\'] => ['\\']
  | '\\' :: escaped :: rest =>
      if IsLineTerminator escaped then
        ['\\']
      else
        '\\' :: escaped :: untilStringEnd rest
  | character :: rest =>
      if IsLineTerminator character then
        []
      else if character = '\x22' then
        [character]
      else
        character :: untilStringEnd rest

/-- A string literal stays on its line. -/
theorem not_isLineTerminator_of_mem_untilStringEnd {text : Text} :
    ∀ character ∈ text.untilStringEnd, ¬ IsLineTerminator character := by
  fun_induction untilStringEnd text with
  | case1 => simp
  | case2 => exact List.all_iff_forall_prop.mp rfl
  | case3 => exact List.all_iff_forall_prop.mp rfl
  | case4 escaped rest inside inductionHypothesis =>
      rw [List.forall_mem_cons, List.forall_mem_cons]
      exact ⟨by decide, inside, inductionHypothesis⟩
  | case5 => simp
  | case6 => exact List.all_iff_forall_prop.mp rfl
  | case7 character rest _ _ inside _ inductionHypothesis =>
      rw [List.forall_mem_cons]
      exact ⟨inside, inductionHypothesis⟩

end Text

namespace Automaton.StringLiteral

theorem next_body (charClass : CharClass) :
    body.next charClass =
      if charClass = .backslash then some (.stringLiteral escape)
      else if charClass = .doubleQuote then some .plainEnd
      else if charClass = .lineTerminator then none
      else some (.stringLiteral body) := by
  cases charClass <;> rfl

theorem next_escape (charClass : CharClass) :
    escape.next charClass =
      if charClass = .lineTerminator then none
      else some (.stringLiteral body) := by
  cases charClass <;> rfl

theorem next_rawClosed (charClass : CharClass) :
    rawClosed.next charClass =
      if charClass = .doubleQuote then some (.stringLiteral rawClosed)
      else none := by
  cases charClass <;> rfl

/-- Behind its opening quote a literal goes on as it does later. -/
theorem next_opened {charClass : CharClass}
    (other : charClass ≠ .doubleQuote) :
    opened.next charClass = body.next charClass := by
  cases charClass <;> first | rfl | exact absurd rfl other

end Automaton.StringLiteral

namespace Lexeme

/-! ## Literals on one line -/

/--
From a state that takes the steps inside a string literal, a run over the
literal stops at its end.
-/
theorem exists_stops_untilStringEnd {text : Text} {state : State}
    (complete : state.role = some .plain)
    (steps : ∀ character ∈ text.head?,
      state.next (.ofChar character) =
        StringLiteral.body.next (.ofChar character)) :
    ∃ back, text = text.untilStringEnd ++ back ∧
      Stops state .plain text.untilStringEnd back := by
  -- The state is general because the first one stands behind the quote only.
  fun_induction Text.untilStringEnd text generalizing state with
  | case1 => exact ⟨[], rfl, stops_nil complete nofun⟩
  | case2 =>
      have escapes := steps '\\' rfl
      have ends : Stops (.stringLiteral .escape) .plain [] [] :=
        stops_nil rfl nofun
      exact ⟨[], rfl, ends.cons escapes⟩
  | case3 escaped rest ends =>
      have escapes := steps '\\' rfl
      have stuck :
          (State.stringLiteral .escape).next (.ofChar escaped) = none :=
        (StringLiteral.next_escape _).trans
          (if_pos (Text.ofChar_eq_lineTerminator_iff.mpr ends))
      refine ⟨escaped :: rest, rfl, (stops_nil rfl ?_).cons escapes⟩
      intro character isFirst
      cases isFirst
      exact stuck
  | case4 escaped rest inside inductionHypothesis =>
      have escapes := steps '\\' rfl
      have goesOn :
          (State.stringLiteral .escape).next (.ofChar escaped) =
            some (.stringLiteral .body) :=
        (StringLiteral.next_escape _).trans
          (if_neg (mt Text.ofChar_eq_lineTerminator_iff.mp inside))
      rcases @inductionHypothesis (.stringLiteral .body) rfl
          (fun _ _ => rfl) with
        ⟨back, whole, stops⟩
      refine ⟨back, ?_, (stops.cons goesOn).cons escapes⟩
      exact congrArg ('\\' :: escaped :: ·) whole
  | case5 character rest notLone notEscape ends =>
      refine ⟨character :: rest, rfl, stops_nil complete ?_⟩
      intro first isFirst
      cases isFirst
      rw [steps character rfl, StringLiteral.next_body,
        Text.ofChar_eq_lineTerminator_iff.mpr ends]
      rfl
  | case6 rest =>
      have closes := steps '\x22' rfl
      refine ⟨rest, rfl, Stops.cons closes (stops_nil rfl ?_)⟩
      exact fun _ _ => rfl
  | case7 character rest notLone notEscape inside notQuote
      inductionHypothesis =>
      have goesOn :
          state.next (.ofChar character) = some (.stringLiteral .body) := by
        have notBackslash : character ≠ '\\' := by
          rintro rfl
          cases rest with
          | nil => exact notLone rfl rfl
          | cons escaped more => exact notEscape escaped more rfl rfl
        rw [steps character rfl, StringLiteral.next_body,
          if_neg (mt (CharClass.ofChar_eq_iff rfl).mp notBackslash),
          if_neg (mt (CharClass.ofChar_eq_iff rfl).mp notQuote),
          if_neg (mt Text.ofChar_eq_lineTerminator_iff.mp inside)]
      rcases @inductionHypothesis (.stringLiteral .body) rfl
          (fun _ _ => rfl) with
        ⟨back, whole, stops⟩
      exact ⟨back, congrArg (character :: ·) whole, stops.cons goesOn⟩

end Lexeme

/-! ## Raw strings -/

namespace Enclosure

/-- A raw string between triple quotes. -/
def rawString : Enclosure :=
  ⟨'\x22', ['\x22', '\x22'], ['\x22', '\x22', '\x22']⟩

/-- The states inside a raw string. -/
def rawSearch : Nat → State
  | 0 => .stringLiteral .raw
  | 1 => .stringLiteral .rawOneQuote
  | 2 => .stringLiteral .rawTwoQuotes
  | _ => .stringLiteral .rawClosed

theorem seeks_rawString : State.Seeks rawString.closer rawSearch where
  nonempty := List.cons_ne_nil _ _
  alone := List.all_iff_forall_prop.mp rfl
  step := by
    intro count inside charClass
    change count < 3 at inside
    interval_cases count <;> cases charClass <;> rfl
  incomplete := by decide
  complete := rfl

end Enclosure

namespace Lexeme

open Enclosure

variable {text rest : Text}

/-- Behind the closing quotes of a raw string all quotes belong to it. -/
theorem stops_takeWhile_quote (text : Text) :
    Stops (.stringLiteral .rawClosed) .plain (text.takeWhile (· = '\x22'))
      (text.dropWhile (· = '\x22')) := by
  refine stops_takeWhile rfl ?_ text
  intro character
  have quote : CharClass.ofChar character = .doubleQuote ↔ _ :=
    CharClass.ofChar_eq_iff rfl
  show StringLiteral.rawClosed.next _ = _
  rw [StringLiteral.next_rawClosed]
  simp [quote]

/-- A raw string takes the quotes that follow its first closing ones. -/
theorem begins_rawString {first : Nat}
    (isLeast : IsLeast (rawString.ends text) first) :
    Begins text .plain
      (text.take (first + 3) ++
        (text.drop (first + 3)).takeWhile (· = '\x22')) := by
  have found : (State.start .outside).run (text.take (first + 3)) = _ :=
    run_of_isLeast_ends (fun _ _ => rfl) seeks_rawString isLeast
  have stops := (stops_takeWhile_quote (text.drop (first + 3))).append found
  have begins :=
    stops.begins (List.append_ne_nil_of_left_ne_nil
      (take_ends_ne_nil isLeast.1) _)
  rw [List.append_assoc, List.takeWhile_append_dropWhile,
    List.take_append_drop] at begins
  exact begins

/-- Two quotes are a lexeme unless they open a raw string that is closed. -/
theorem begins_twoQuotes (opens : ['\x22', '\x22'] <+: text)
    (unclosed : rawString.ends text = ∅) :
    Begins text .plain ['\x22', '\x22'] := by
  rcases opens with ⟨rest, rfl⟩
  have leads :
      LeadsOnly (.stringLiteral .empty) ['\x22'] (.stringLiteral .raw) := by
    refine ⟨rfl, .stringLiteral .raw, rfl, fun _ => rfl, ?_⟩
    intro charClass
    cases charClass <;> rfl
  have stops :
      Stops (.start .outside) .plain ['\x22', '\x22'] rest := by
    refine ⟨.stringLiteral .empty, rfl, rfl, ?_⟩
    intro lexeme completes
    rcases (completes_of_leadsOnly_iff leads).mp completes with
      ⟨more, shorter, rfl, later, -⟩
    refine seeks_rawString.not_completes ?_ shorter later
    have whole := rawString.ends_append more
    exact Set.image_eq_empty.mp (whole.symm.trans unclosed)
  exact stops.begins (List.cons_ne_nil _ _)

/-- A quote that no other one follows opens a literal on its line. -/
theorem begins_untilStringEnd (other : '\x22' ∉ rest.head?) :
    Begins ('\x22' :: rest) .plain ('\x22' :: rest.untilStringEnd) := by
  have steps : ∀ character ∈ rest.head?,
      (State.first (.ofChar '\x22')).next (.ofChar character) =
        StringLiteral.body.next (.ofChar character) := by
    intro character isFirst
    have notQuote : character ≠ '\x22' := by
      rintro rfl
      exact other isFirst
    exact
      StringLiteral.next_opened
        (mt (CharClass.ofChar_eq_iff rfl).mp notQuote)
  rcases exists_stops_untilStringEnd rfl steps with ⟨back, whole, inside⟩
  have begins := inside.begins_cons
  rw [← whole] at begins
  exact begins

/--
Outside all comments, a text that begins with a double quote begins with a
plain lexeme.

If it begins with three quotes that come together again behind, the lexeme
goes up to the first place where they do, and takes the quotes that follow.
It is made up of two quotes if the three never come together again, and if
there are only two at the front.  Otherwise it is a string literal on a single
line.
-/
theorem begins_stringLiteral (opens : '\x22' ∈ text.head?) :
    ((rawString.ends text).Nonempty →
        ∃ first, IsLeast (rawString.ends text) first ∧
          Begins text .plain
            (text.take (first + 3) ++
              (text.drop (first + 3)).takeWhile (· = '\x22'))) ∧
      (rawString.opener <+: text → rawString.ends text = ∅ →
        Begins text .plain ['\x22', '\x22']) ∧
      (['\x22', '\x22'] <+: text → ¬ rawString.opener <+: text →
        Begins text .plain ['\x22', '\x22']) ∧
      (¬ ['\x22', '\x22'] <+: text →
        Begins text .plain ('\x22' :: Text.untilStringEnd text.tail) ∧
          ∀ character ∈ '\x22' :: Text.untilStringEnd text.tail,
            ¬ Text.IsLineTerminator character) := by
  refine ⟨?_, ?_, ?_, ?_⟩
  · intro closed
    rcases exists_isLeast_ends closed with ⟨first, isLeast⟩
    exact ⟨first, isLeast, begins_rawString isLeast⟩
  · intro opener unclosed
    have twoQuotes : ['\x22', '\x22'] <+: rawString.opener := ⟨['\x22'], rfl⟩
    exact begins_twoQuotes (twoQuotes.trans opener) unclosed
  · intro twoQuotes notRaw
    have unclosed : rawString.ends text = ∅ :=
      Set.eq_empty_iff_forall_notMem.mpr fun _ ends => notRaw ends.1
    exact begins_twoQuotes twoQuotes unclosed
  · intro alone
    rcases text with _ | ⟨first, rest⟩
    · cases opens
    · cases opens
      have other : '\x22' ∉ rest.head? := by
        intro second
        rcases List.head?_eq_some_iff.mp second with ⟨more, rfl⟩
        exact alone ⟨more, rfl⟩
      refine ⟨begins_untilStringEnd other, ?_⟩
      rw [List.forall_mem_cons]
      exact ⟨by decide, Text.not_isLineTerminator_of_mem_untilStringEnd⟩

/-- A raw string with its further quotes, and an escaped quote on a line. -/
theorem begins_stringLiteral_closed :
    Begins ['\x22', '\x22', '\x22', '\n', '\\', '\x22', '\x22', '\x22',
          '\x22', '/'] .plain
        ['\x22', '\x22', '\x22', '\n', '\\', '\x22', '\x22', '\x22',
          '\x22'] ∧
      Begins ['\x22', '\x22', '\x22', '\x22', '\x22'] .plain
        ['\x22', '\x22'] ∧
      Begins ['\x22', '\x22', '/', '*'] .plain ['\x22', '\x22'] ∧
      Begins ['\x22', '\\', '\x22', '/', '\\', '\n', '\x22'] .plain
        ['\x22', '\\', '\x22', '/', '\\'] := by
  refine ⟨?_, ?_, ?_, ?_⟩
  · have closed :
        5 ∈ rawString.ends ['\x22', '\x22', '\x22', '\n', '\\', '\x22',
          '\x22', '\x22', '\x22', '/'] := by
      decide
    rcases (begins_stringLiteral rfl).1 ⟨5, closed⟩ with
      ⟨first, isLeast, begins⟩
    have known : first = 5 :=
      isLeast.unique (isLeast_ends_iff.mpr (by decide))
    rw [known] at begins
    exact begins
  · refine (begins_stringLiteral rfl).2.1 (by decide) ?_
    exact (ends_eq_empty_iff (by decide)).mpr (by decide)
  · exact (begins_stringLiteral rfl).2.2.1 (by decide) (by decide)
  · have alone :
        ¬ ['\x22', '\x22'] <+:
          ['\x22', '\\', '\x22', '/', '\\', '\n', '\x22'] := by
      decide
    exact ((begins_stringLiteral rfl).2.2.2 alone).1

end Lexeme

end CommentScan
