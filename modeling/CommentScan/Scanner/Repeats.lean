import CommentScan.Lexeme.Longest
import CommentScan.Scanner
import CommentScan.Text.Repeats

/-!
# Scanning texts of repeated pieces

The tokens of a text that is written as repeated pieces, read without writing
it out.  A line comment is taken up to its line terminator at once, so that its
length does not matter.

A lexeme at the front is told by its role and by what stands behind it.
`longest?_read` says that it is the longest lexeme at the front of the text.
-/

namespace CommentScan

open CommentScan.Automaton

namespace Lexeme

/-- The role of a lexeme, and the text behind it. -/
def readIn (text : Text) (lexeme : Lexeme) : Role × Text :=
  (lexeme.role, text.drop lexeme.length)

theorem drop_lineLength (text : Text) :
    text.drop (lineLength text) =
      text.dropWhile fun character =>
        CharClass.ofChar character != .lineTerminator := by
  have whole :=
    @List.takeWhile_append_dropWhile _
      (fun character => CharClass.ofChar character != .lineTerminator) text
  exact (congrArg (List.drop _) whole.symm).trans List.drop_left

/-- One step of reading that does not begin the body of a line comment. -/
theorem longestFrom_cons_of_step {state after : State} {character : Char}
    (step : state.next (.ofChar character) = some after)
    (notLine : after ≠ .lineComment) (rest : Text) (length : Nat)
    (best : Option Lexeme) :
    longestFrom state (character :: rest) length best =
      if after.isFinal then
        endingAt after (length + 1) best
      else
        longestFrom after rest (length + 1)
          (endingAt after (length + 1) best) := by
  rw [longestFrom, step]
  split
  · contradiction
  · rename_i same
    exact absurd (Option.some.inj same) notLine
  · rename_i same
    cases same
    rfl

end Lexeme

namespace Repeats

/-- Pieces without a line terminator do not end a line. -/
theorem dropWhile_expand_append {isSkipped : Char → Bool} {text : Text}
    (skipped : text.dropWhile isSkipped = []) (count : Nat) (rest : Text) :
    (Repeat.expand ⟨text, count⟩ ++ rest).dropWhile isSkipped =
      rest.dropWhile isSkipped := by
  induction count with
  | zero => rfl
  | succ count inductionHypothesis =>
      rw [Repeat.expand_succ, List.append_assoc, List.dropWhile_append,
        skipped]
      exact inductionHypothesis

/-- What stands behind a line is what stands behind its length. -/
theorem expand_dropLine (source : Repeats) :
    source.dropLine.expand =
      source.expand.drop (Lexeme.lineLength source.expand) := by
  rw [Lexeme.drop_lineLength]
  fun_induction dropLine source with
  | case1 => rfl
  | case2 text rest inductionHypothesis => exact inductionHypothesis
  | case3 text count rest skipped inductionHypothesis =>
      rw [expand_cons, dropWhile_expand_append skipped, inductionHypothesis]
  | case4 text count rest first more found =>
      simp [List.dropWhile_append, found]

/-- A lexeme at the front of a text, as its role and what stands behind it. -/
structure Front where
  role : Role
  behind : Repeats

/-- The role of the lexeme, and the text behind it. -/
def Front.read (front : Front) : Role × Text :=
  (front.role, front.behind.expand)

/-- The lexeme that ends in a state in front of `rest`, or else `best`. -/
def endingAt (state : State) (rest : Repeats) (best : Option Front) :
    Option Front :=
  match state.role with
  | some role => some ⟨role, rest⟩
  | none => best

/-- Read on from a state, where `best` is the longest lexeme so far. -/
def longestFrom (state : State) (source : Repeats) (best : Option Front) :
    Option Front :=
  match _found : source.next? with
  | none => best
  | some (character, rest) =>
      match state.next (.ofChar character) with
      | none => best
      | some .lineComment => some ⟨.lineComment, rest.dropLine⟩
      | some after =>
          if after.isFinal then
            endingAt after rest best
          else
            longestFrom after rest (endingAt after rest best)
termination_by source.expand.length
decreasing_by
  rw [expand_of_next? _found, List.length_cons]
  exact Nat.lt_succ_self _

/-- The longest lexeme at the front. -/
def longest? (mode : Mode) (source : Repeats) : Option Front :=
  longestFrom (.start mode) source none

theorem endingAt_read {text : Text} {length : Nat} {rest : Repeats}
    {best : Option Front} {bestLexeme : Option Lexeme} (state : State)
    (behind : text.drop length = rest.expand)
    (same : best.map Front.read = bestLexeme.map (Lexeme.readIn text)) :
    (endingAt state rest best).map Front.read =
      (Lexeme.endingAt state length bestLexeme).map (Lexeme.readIn text) := by
  unfold endingAt Lexeme.endingAt
  cases state.role with
  | some role => simp [Front.read, Lexeme.readIn, behind]
  | none => exact same

theorem longestFrom_read {text : Text} {length : Nat} {state : State}
    {source : Repeats} {best : Option Front} {bestLexeme : Option Lexeme}
    (here : text.drop length = source.expand)
    (same : best.map Front.read = bestLexeme.map (Lexeme.readIn text)) :
    (longestFrom state source best).map Front.read =
      (Lexeme.longestFrom state source.expand length bestLexeme).map
        (Lexeme.readIn text) := by
  have behind {character : Char} {rest : Repeats}
      (found : source.next? = some (character, rest)) :
      text.drop (length + 1) = rest.expand := by
    rw [← List.drop_drop, here, expand_of_next? found]
    rfl
  fun_induction longestFrom state source best
      generalizing length bestLexeme with
  | case1 state source best finished =>
      rw [expand_of_next?_eq_none finished]
      exact same
  | case2 state source best character rest found stuck =>
      rw [expand_of_next? found, Lexeme.longestFrom, stuck]
      exact same
  | case3 state source best character rest found line =>
      rw [expand_of_next? found, Lexeme.longestFrom, line]
      have line := rest.expand_dropLine
      rw [← behind found, List.drop_drop] at line
      simp only [Option.map_some, Front.read, Lexeme.readIn, line, behind found]
  | case4 state source best character rest found after notLine step final =>
      rw [expand_of_next? found,
        Lexeme.longestFrom_cons_of_step step notLine, if_pos final]
      exact endingAt_read after (behind found) same
  | case5 state source best character rest found after notLine step goesOn
      inductionHypothesis =>
      have ending := endingAt_read after (behind found) same
      rw [expand_of_next? found,
        Lexeme.longestFrom_cons_of_step step notLine, if_neg goesOn]
      apply inductionHypothesis (behind found) ending
      intro next others alsoFound
      rw [← List.drop_drop, behind found, expand_of_next? alsoFound]
      rfl

/-- What is read at the front is the longest lexeme of the text. -/
theorem longest?_read (mode : Mode) (source : Repeats) :
    (longest? mode source).map Front.read =
      (Lexeme.longest? mode source.expand).map
        (Lexeme.readIn source.expand) :=
  longestFrom_read rfl rfl

theorem longest?_eq_none_iff {mode : Mode} {source : Repeats} :
    longest? mode source = none ↔ source.expand = [] := by
  rw [← Lexeme.longest?_eq_none_iff, ← Option.map_eq_none_iff, longest?_read,
    Option.map_eq_none_iff]

theorem exists_lexeme_of_longest? {mode : Mode} {source : Repeats}
    {front : Front} (found : longest? mode source = some front) :
    ∃ lexeme, Lexeme.longest? mode source.expand = some lexeme ∧
      front.role = lexeme.role ∧
        front.behind.expand = source.expand.drop lexeme.length := by
  have read := longest?_read mode source
  rw [found] at read
  rcases Option.map_eq_some_iff.mp read.symm with ⟨lexeme, longest, same⟩
  cases Prod.ext_iff.mp same with
  | intro role behind => exact ⟨lexeme, longest, role.symm, behind.symm⟩

/-- Behind a lexeme there is less of the text. -/
theorem length_behind_lt {mode : Mode} {source : Repeats} {front : Front}
    (found : longest? mode source = some front) :
    front.behind.expand.length < source.expand.length := by
  rcases exists_lexeme_of_longest? found with ⟨lexeme, longest, -, behind⟩
  have bounds := Lexeme.longest?_length longest
  rw [behind, List.length_drop]
  omega

/-- What stands behind a run of lexemes of one role. -/
def behindRun (mode : Mode) (role : Role) (source : Repeats) : Repeats :=
  match _found : longest? mode source with
  | none => source
  | some front =>
      if front.role = role then
        behindRun mode role front.behind
      else
        source
termination_by source.expand.length
decreasing_by exact length_behind_lt _found

theorem length_behindRun_le (mode : Mode) (role : Role) (source : Repeats) :
    (behindRun mode role source).expand.length ≤ source.expand.length := by
  fun_induction behindRun mode role source with
  | case1 => exact Nat.le_refl _
  | case2 source front found same inductionHypothesis =>
      have less := length_behind_lt found
      omega
  | case3 => exact Nat.le_refl _

namespace Front

/--
What stands behind the token that a lexeme begins, where `mode` is the mode
behind the lexeme.
-/
def behindToken (front : Front) (granularity : Granularity) (mode : Mode) :
    Repeats :=
  if granularity = .merged && front.role.isMergeable then
    behindRun mode front.role front.behind
  else
    front.behind

theorem length_behindToken_le (front : Front) (granularity : Granularity)
    (mode : Mode) :
    (front.behindToken granularity mode).expand.length ≤
      front.behind.expand.length := by
  unfold behindToken
  split
  · exact length_behindRun_le _ _ _
  · exact Nat.le_refl _

end Front

/-- The tokens of a text, from a state on. -/
def tokensFrom (granularity : Granularity) (state : ScanState)
    (source : Repeats) : List Token :=
  match _found : longest? state.nesting.mode source with
  | none => []
  | some front =>
      let nesting := front.role.apply state.nesting
      let behind := front.behindToken granularity nesting.mode
      let stop := state.position + (source.byteLength - behind.byteLength)
      ⟨front.role.tokenKind nesting, ⟨state.position, stop⟩⟩ ::
        tokensFrom granularity ⟨stop, nesting⟩ behind
termination_by source.expand.length
decreasing_by
  exact
    Nat.lt_of_le_of_lt (front.length_behindToken_le _ _)
      (length_behind_lt _found)

/-- The tokens of a text, unless offsets end inside a character. -/
def tokens? (granularity : Granularity) (source : Repeats) :
    Option (List Token) :=
  source.reachable?.map (tokensFrom granularity .start)

end Repeats

end CommentScan
