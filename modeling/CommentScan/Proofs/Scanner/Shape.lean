import CommentScan.Proofs.Scanner.Pieces
import Mathlib.Data.List.TakeWhile

/-!
# What a scan makes of character classes

The shape of a scan is the kinds of its tokens, their lengths in characters
and the nesting in the end.  It depends on the classes of the characters alone,
however many bytes each of them takes: every step of the automaton sees a
class, and so does the search for the end of a line.

The other way round, no two classes can be taken for one another.  `probes` is
a list of contexts in which the first token tells every class from every other
one, so two characters that have the same shape in all contexts are of the same
class.  `ofChar_eq_iff_sameShape` puts the two directions together.
-/

namespace CommentScan

/-! ## Texts with the same classes -/

/-- The characters of two texts have the same classes, one by one. -/
def Text.SameClasses (left right : Text) : Prop :=
  left.map CharClass.ofChar = right.map CharClass.ofChar

namespace Text.SameClasses

variable {left right : Text}

theorem length_eq (same : left.SameClasses right) :
    left.length = right.length := by
  have lengths := congrArg List.length same
  simpa using lengths

theorem drop (same : left.SameClasses right) (count : Nat) :
    SameClasses (left.drop count) (right.drop count) := by
  have dropped := congrArg (List.drop count) same
  simpa [SameClasses] using dropped

/-- One character is put in the place of another one of its class. -/
theorem replace {first second : Char}
    (same : CharClass.ofChar first = CharClass.ofChar second)
    (front back : Text) :
    SameClasses (front ++ first :: back) (front ++ second :: back) := by
  simp [SameClasses, same]

end Text.SameClasses

namespace Lexeme

open CommentScan.Automaton

variable {left right : Text}

/-- The end of a line is found among the classes. -/
theorem lineLength_eq_of_classes (text : Text) :
    lineLength text =
      ((text.map CharClass.ofChar).takeWhile
        fun charClass => charClass != .lineTerminator).length := by
  rw [List.takeWhile_map, List.length_map]
  rfl

theorem longestFrom_congr (same : left.SameClasses right) (state : State)
    (length : Nat) (best : Option Lexeme) :
    longestFrom state left length best =
      longestFrom state right length best := by
  induction left generalizing right state length best with
  | nil =>
      rw [List.eq_nil_of_length_eq_zero same.length_eq.symm]
  | cons first rest inductionHypothesis =>
      cases right with
      | nil => cases same
      | cons second others =>
          rcases List.cons.inj same with ⟨sameFirst, sameRest⟩
          have lines : lineLength rest = lineLength others := by
            rw [lineLength_eq_of_classes, lineLength_eq_of_classes, sameRest]
          simp only [longestFrom, sameFirst, lines,
            inductionHypothesis sameRest]

theorem longest?_congr (same : left.SameClasses right) (mode : Mode) :
    longest? mode left = longest? mode right :=
  longestFrom_congr same (.start mode) 0 none

theorem runLength_congr (same : left.SameClasses right) (mode : Mode)
    (role : Role) (length : Nat) :
    runLength mode role left length = runLength mode role right length := by
  fun_induction runLength mode role left length generalizing right with
  | case1 left length missing =>
      rw [longest?_eq_none_iff] at missing
      subst missing
      rw [List.eq_nil_of_length_eq_zero same.length_eq.symm, runLength]
      rfl
  | case2 left length lexeme found sameRole inductionHypothesis =>
      rw [longest?_congr same] at found
      rw [runLength_of_longest found, if_pos sameRole]
      exact inductionHypothesis (same.drop lexeme.length)
  | case3 left length lexeme found other =>
      rw [longest?_congr same] at found
      rw [runLength_of_longest found, if_neg other]

theorem tokenLength_congr (same : left.SameClasses right) (lexeme : Lexeme)
    (granularity : Granularity) (mode : Mode) :
    lexeme.tokenLength granularity mode left =
      lexeme.tokenLength granularity mode right := by
  unfold tokenLength
  rw [runLength_congr (same.drop lexeme.length)]

end Lexeme

/-- The first pieces of two texts with the same classes are as long. -/
theorem Piece.first?_congr {left right : Text}
    (same : left.SameClasses right) {granularity : Granularity}
    {nesting : Nesting} {piece : Piece}
    (found : first? granularity nesting left = some piece) :
    ∃ other, first? granularity nesting right = some other ∧
      other.role = piece.role ∧ other.nesting = piece.nesting ∧
      other.text.length = piece.text.length := by
  rcases Option.map_eq_some_iff.mp found with ⟨lexeme, longest, rfl⟩
  have otherLongest := longest
  rw [Lexeme.longest?_congr same] at otherLongest
  refine
    ⟨_, Option.map_eq_some_iff.mpr ⟨lexeme, otherLongest, rfl⟩, rfl, rfl, ?_⟩
  rw [length_text_ofLexeme longest, length_text_ofLexeme otherLongest]
  exact (Lexeme.tokenLength_congr same lexeme _ _).symm

/-! ## Shapes -/

/-- The kinds of tokens, their lengths in characters and the last nesting. -/
structure Shape where
  tokens : List (TokenKind × Nat)
  nesting : Nesting
  deriving DecidableEq, Repr

namespace Scanner

/-- The shape of what is left of a window. -/
def shape (scanner : Scanner) : Shape where
  tokens :=
    scanner.drain.1.map fun step =>
      (step.token.kind, step.after.tokenText.length)
  nesting := scanner.drain.2.nesting

theorem shape_of_finished {scanner : Scanner}
    (finished : scanner.unread = []) :
    scanner.shape = ⟨[], scanner.nesting⟩ := by
  rw [shape, drain_of_none (advance_of_nil finished)]
  rfl

theorem shape_of_first? {scanner : Scanner} {piece : Piece}
    (found :
      Piece.first? scanner.granularity scanner.nesting scanner.unread =
        some piece) :
    scanner.shape =
      ⟨(piece.kind, piece.text.length) ::
          (scanner.behind piece).shape.tokens,
        (scanner.behind piece).shape.nesting⟩ := by
  rw [shape, drain_of_some (advance_of_first? found)]
  rfl

/-- The shape depends on the classes of what is unread, and on the state. -/
theorem shape_congr {left right : Scanner}
    (options : left.granularity = right.granularity)
    (nesting : left.nesting = right.nesting)
    (same : left.unread.SameClasses right.unread) :
    left.shape = right.shape := by
  induction left using window_induction generalizing right with
  | finished left finished =>
      rw [finished] at same
      have otherFinished : right.unread = [] :=
        List.eq_nil_of_length_eq_zero same.length_eq.symm
      rw [shape_of_finished finished, shape_of_finished otherFinished,
        nesting]
  | step left piece found inductionHypothesis =>
      rcases Piece.first?_congr same found with
        ⟨other, otherFound, role, behind, length⟩
      rw [options, nesting] at otherFound
      have kind : other.kind = piece.kind := by
        rw [Piece.kind, role, behind]
        rfl
      have later :
          (left.behind piece).shape = (right.behind other).shape := by
        refine
          @inductionHypothesis (right.behind other) options behind.symm ?_
        simp only [Scanner.behind, length]
        exact same.drop _
      rw [shape_of_first? found, shape_of_first? otherFound, kind, length,
        later]

/-- The shape begins with the first lexeme where no lexemes are merged. -/
theorem head?_tokens_shape {scanner : Scanner}
    (lexemes : scanner.granularity = .lexemes) :
    scanner.shape.tokens.head? =
      (Lexeme.longest? scanner.mode scanner.unread).map fun lexeme =>
        (lexeme.role.tokenKind (lexeme.role.apply scanner.nesting),
          lexeme.length) := by
  cases found : Lexeme.longest? scanner.mode scanner.unread with
  | none =>
      rw [shape_of_finished (Lexeme.longest?_eq_none_iff.mp found)]
      rfl
  | some lexeme =>
      have first :
          Piece.first? scanner.granularity scanner.nesting scanner.unread =
            some (Piece.ofLexeme scanner.granularity scanner.nesting
              scanner.unread lexeme) :=
        Option.map_eq_some_iff.mpr ⟨lexeme, found, rfl⟩
      rw [shape_of_first? first, Piece.length_text_ofLexeme found, lexemes]
      rfl

/-- A text is placed as far as offsets reach. -/
theorem resume_wordLimit (scanner : Scanner) {buffer unread : Text}
    (reached : buffer.reachable? = some unread) (nesting : Nesting) :
    scanner.resume buffer wordLimit ⟨0, nesting⟩ =
      .ok
        { buffer := buffer
          granularity := scanner.granularity
          nesting := nesting
          tokenStart := 0
          tokenText := []
          unread := unread
          endReported := false } := by
  refine ofWindow_eq_ok_iff.mpr ⟨unread, ?_, ?_⟩
  · rw [Nat.zero_min, Nat.min_comm]
    exact reached
  · rw [Nat.zero_min]

/-- The shape of a text begins with the lexeme at its front. -/
theorem head?_tokens_of_reset {scanner placed : Scanner} {text unread : Text}
    {mode : Mode} (lexemes : scanner.granularity = .lexemes)
    (reached : text.reachable? = some unread)
    (onText : scanner.reset text 0 wordLimit mode = .ok placed) :
    placed.shape.tokens.head? =
      (Lexeme.longest? mode unread).map fun lexeme =>
        (lexeme.role.tokenKind (lexeme.role.apply (.ofMode mode)),
          lexeme.length) := by
  have whole := scanner.resume_wordLimit reached (.ofMode mode)
  have same := Except.ok.inj (onText.symm.trans whole)
  have placedLexemes : placed.granularity = .lexemes := by
    rw [same]
    exact lexemes
  rw [head?_tokens_shape placedLexemes, same]
  simp only [Scanner.mode, Nesting.mode_ofMode]

/-- Two windows can both be placed, and scanning them gives the same shape. -/
def SameShape (left right : Except WindowError Scanner) : Prop :=
  ∃ first second, left = .ok first ∧ right = .ok second ∧
    first.shape = second.shape

/-- Texts with the same classes have the same shape if offsets reach both. -/
theorem sameShape_resume (scanner : Scanner) {left right : Text}
    (leftSmall : Text.byteLength left ≤ wordLimit)
    (rightSmall : Text.byteLength right ≤ wordLimit)
    (same : left.SameClasses right) (nesting : Nesting) :
    SameShape (scanner.resume left wordLimit ⟨0, nesting⟩)
      (scanner.resume right wordLimit ⟨0, nesting⟩) :=
  ⟨_, _,
    scanner.resume_wordLimit (Text.reachable?_of_le leftSmall) nesting,
    scanner.resume_wordLimit (Text.reachable?_of_le rightSmall) nesting,
    shape_congr rfl rfl same⟩

end Scanner

/-! ## Telling classes apart -/

namespace CharClass

/-- A character of each class. -/
def sample : CharClass → Char
  | other => 'x'
  | slash => '/'
  | star => '*'
  | octalDigit => '1'
  | hexDigit => '8'
  | backslash => '\\'
  | lineTerminator => '\n'
  | lowerU => 'u'
  | zero => '0'
  | upperA => 'A'
  | quote => '\x27'
  | doubleQuote => '\x22'
  | hash => '#'
  | bang => '!'
  | colon => ':'
  | backquote => '\x60'

theorem ofChar_sample (charClass : CharClass) :
    ofChar charClass.sample = charClass := by
  cases charClass <;> rfl

/--
Contexts for a character, in which the lexeme at the front tells its class.
The first three are for the markers of comments and the next two for the ends
of literals.  Headers and backquoted names follow, and then escapes: an octal
one, and those spelled with `u`, where zeros and the capital `A` differ from
the other digits.
-/
def probes : List (Text × Text) :=
  [([], ['*']),
    (['/'], []),
    (['\x27', 'x'], []),
    (['\x27'], ['n', '\x27']),
    (['\x22', 'x'], ['y']),
    ([], ['!', '!', '#']),
    (['#'], ['!', '#']),
    ([':'], ['#', '!', ':', ':', '!', '#']),
    (['\x60', 'x'], []),
    (['\x27', '\\', '1'], ['\x27']),
    (['\x27', '\\', 'u'], ['0', '0', 'A', '\\']),
    (['\x27', '\\', 'u', '0', '0', '0'], ['\\']),
    (['\x27', '\\'], ['0', '0', '0', '0', '\x27'])]

/-- What is read first in the contexts around a character. -/
def answers (character : Char) : List (Option (TokenKind × Nat)) :=
  probes.map fun probe =>
    (Lexeme.longest? .outside (probe.1 ++ character :: probe.2)).map
      fun lexeme =>
        (lexeme.role.tokenKind (lexeme.role.apply .initial), lexeme.length)

theorem answers_sample_injective :
    ∀ left ∈ all, ∀ right ∈ all,
      answers left.sample = answers right.sample → left = right := by
  decide +kernel

/-- Characters of one class have the same answers. -/
theorem answers_sample (character : Char) :
    answers (ofChar character).sample = answers character := by
  apply List.map_congr_left
  intro probe member
  rw [Lexeme.longest?_congr (.replace (ofChar_sample _) probe.1 probe.2)]

/-- Characters with the same answers are of one class. -/
theorem ofChar_eq_of_answers {left right : Char}
    (same : answers left = answers right) : ofChar left = ofChar right := by
  apply answers_sample_injective _ (mem_all _) _ (mem_all _)
  rw [answers_sample, answers_sample, same]

/-- A character in one of the contexts is not too long a text. -/
theorem byteLength_probe_le {probe : Text × Text} (member : probe ∈ probes)
    (character : Char) :
    Text.byteLength (probe.1 ++ character :: probe.2) ≤ wordLimit := by
  have around :
      ∀ probe ∈ probes,
        Text.byteLength probe.1 + Text.byteLength probe.2 ≤ 8 := by
    decide
  have sum := around probe member
  have own := character.utf8Size_le_four
  rw [Text.byteLength_append, Text.byteLength_cons, wordLimit]
  omega

/--
The classes are what scanning can tell apart.  Two characters are of the same
class exactly if no context shows a difference between them: put into any text
that offsets reach with either of them, read from either mode on, they leave
the kinds and lengths of all lexemes and the nesting in the end the same.  And
texts whose characters have the same classes one by one have the same shape
from every state on, merged into tokens or not, also in windows of longer
buffers.
-/
theorem ofChar_eq_iff_sameShape :
    (∀ left right : Char,
      ofChar left = ofChar right ↔
        ∀ (scanner : Scanner) (mode : Mode) (front back : Text),
          scanner.granularity = .lexemes →
            Text.byteLength (front ++ left :: back) ≤ wordLimit →
              Text.byteLength (front ++ right :: back) ≤ wordLimit →
                Scanner.SameShape
                  (scanner.reset (front ++ left :: back) 0 wordLimit mode)
                  (scanner.reset (front ++ right :: back) 0 wordLimit
                    mode)) ∧
    (∀ (scanner : Scanner) (nesting : Nesting) (left right : Text),
      Text.byteLength left ≤ wordLimit →
        Text.byteLength right ≤ wordLimit →
          left.SameClasses right →
            Scanner.SameShape (scanner.resume left wordLimit ⟨0, nesting⟩)
              (scanner.resume right wordLimit ⟨0, nesting⟩)) ∧
    (∀ left right : Scanner,
      left.granularity = right.granularity →
        left.nesting = right.nesting →
          left.unread.SameClasses right.unread →
            left.shape = right.shape) := by
  refine ⟨?_, ?_, ?_⟩
  · intro left right
    constructor
    · intro same scanner mode front back _ leftSmall rightSmall
      exact
        scanner.sameShape_resume leftSmall rightSmall
          (.replace same front back) (.ofMode mode)
    · intro alike
      apply ofChar_eq_of_answers
      apply List.map_congr_left
      intro probe member
      have leftSmall := byteLength_probe_le member left
      have rightSmall := byteLength_probe_le member right
      rcases
        alike (.ofText [] .lexemes) .outside probe.1 probe.2 rfl leftSmall
          rightSmall with
        ⟨first, second, leftPlaced, rightPlaced, shapes⟩
      have leftHead :=
        Scanner.head?_tokens_of_reset rfl (Text.reachable?_of_le leftSmall)
          leftPlaced
      have rightHead :=
        Scanner.head?_tokens_of_reset rfl (Text.reachable?_of_le rightSmall)
          rightPlaced
      rw [shapes, rightHead] at leftHead
      exact leftHead.symm
  · intro scanner nesting left right leftSmall rightSmall same
    exact scanner.sameShape_resume leftSmall rightSmall same nesting
  · intro left right options nesting same
    exact Scanner.shape_congr options nesting same

/--
A letter of two bytes and one of one byte are of one class, so a comment that
holds either of them has the same shape.  A letter and a digit are not, so some
text tells them apart.
-/
theorem ofChar_eq_iff_sameShape_letters :
    Scanner.SameShape
        ((Scanner.ofText [] .merged).resume ['/', '*', 'é'] wordLimit
          ⟨0, .initial⟩)
        ((Scanner.ofText [] .merged).resume ['/', '*', 'x'] wordLimit
          ⟨0, .initial⟩) ∧
      ¬ ∀ (scanner : Scanner) (mode : Mode) (front back : Text),
          scanner.granularity = .lexemes →
            Text.byteLength (front ++ 'x' :: back) ≤ wordLimit →
              Text.byteLength (front ++ '8' :: back) ≤ wordLimit →
                Scanner.SameShape
                  (scanner.reset (front ++ 'x' :: back) 0 wordLimit mode)
                  (scanner.reset (front ++ '8' :: back) 0 wordLimit
                    mode) := by
  rcases ofChar_eq_iff_sameShape with ⟨characters, texts, -⟩
  have same : Text.SameClasses ['/', '*', 'é'] ['/', '*', 'x'] := rfl
  refine
    ⟨texts (.ofText [] .merged) .initial _ _ (by decide) (by decide) same, ?_⟩
  rw [← characters]
  decide

/-- The lexeme at the front of a line comment without a line terminator. -/
theorem longest?_lineComment {text : Text}
    (plain : ∀ character ∈ text, ofChar character ≠ .lineTerminator) :
    Lexeme.longest? .outside ('/' :: '/' :: text) =
      some ⟨.lineComment, 2 + text.length⟩ := by
  have line : Lexeme.lineLength text = text.length := by
    rw [Lexeme.lineLength, List.takeWhile_eq_self_iff.mpr]
    simpa using plain
  rw [← line]
  rfl

/--
Of two letters near the last offset, the one that takes two bytes leaves the
character behind it out of reach, and a line comment shows it.
-/
theorem not_sameShape_of_full {line : Text}
    (plain : ∀ character ∈ line, ofChar character ≠ .lineTerminator)
    (bytes : Text.byteLength ('/' :: '/' :: line) = 4294967293) :
    ¬ Scanner.SameShape
        ((Scanner.ofText [] .lexemes).reset
          ('/' :: '/' :: line ++ ['x', 'y']) 0 wordLimit .outside)
        ((Scanner.ofText [] .lexemes).reset
          ('/' :: '/' :: line ++ ['é', 'y']) 0 wordLimit .outside) := by
  rintro ⟨first, second, shortPlaced, longPlaced, shapes⟩
  have full : Text.byteLength ('/' :: '/' :: line ++ ['é']) = wordLimit := by
    rw [Text.byteLength_append, bytes]
    decide
  have small :
      Text.byteLength ('/' :: '/' :: line ++ ['x', 'y']) ≤ wordLimit := by
    rw [Text.byteLength_append, bytes]
    decide
  have reached := Text.reachable?_append full ['y']
  rw [List.append_assoc] at reached
  have shortHead :=
    Scanner.head?_tokens_of_reset rfl (Text.reachable?_of_le small)
      shortPlaced
  have longHead := Scanner.head?_tokens_of_reset rfl reached longPlaced
  have head (back : Text)
      (backPlain : ∀ character ∈ back, ofChar character ≠ .lineTerminator) :
      Lexeme.longest? .outside ('/' :: '/' :: line ++ back) =
        some ⟨.lineComment, 2 + (line.length + back.length)⟩ := by
    rw [← List.length_append]
    exact longest?_lineComment (List.forall_mem_append.mpr ⟨plain, backPlain⟩)
  have longBack :
      ∀ character ∈ ['é'], ofChar character ≠ .lineTerminator := by
    rw [List.forall_mem_singleton]
    decide
  have shortBack :
      ∀ character ∈ ['x', 'y'], ofChar character ≠ .lineTerminator := by
    rw [List.forall_mem_cons, List.forall_mem_singleton]
    decide
  rw [shapes, longHead, head ['é'] longBack, head ['x', 'y'] shortBack]
    at shortHead
  simp at shortHead

/-- Two letters of one class that are told apart near the last offset. -/
theorem not_sameShape_tooLong :
    let front : Text := '/' :: '/' :: List.replicate 4294967291 'a'
    ofChar 'x' = ofChar 'é' ∧
      ¬ Scanner.SameShape
          ((Scanner.ofText [] .lexemes).reset (front ++ ['x', 'y']) 0
            wordLimit .outside)
          ((Scanner.ofText [] .lexemes).reset (front ++ ['é', 'y']) 0
            wordLimit .outside) := by
  have bytes (count : Nat) :
      Text.byteLength ('/' :: '/' :: List.replicate count 'a') =
        2 + count :=
    Text.byteLength_append_replicate ['/', '/'] count rfl
  have plain (count : Nat) :
      ∀ character ∈ List.replicate count 'a',
        ofChar character ≠ .lineTerminator := by
    intro character member
    rw [List.eq_of_mem_replicate member]
    decide
  exact ⟨by decide, not_sameShape_of_full (plain 4294967291) (bytes _)⟩

end CharClass

end CommentScan
