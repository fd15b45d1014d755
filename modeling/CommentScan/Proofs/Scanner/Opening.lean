import CommentScan.Proofs.Lexeme.Extent
import CommentScan.Proofs.Scanner.Runs

/-!
# Where a comment begins

Outside all comments the characters in front of a scanner decide whether a
comment begins, and of which sort.  Two slashes begin a line comment, which
goes on to the end of the line, and a slash with a star the opener of a block
comment, of a doc comment or of an empty one.  Nothing counts but the
characters of the window, so an opener that the end of the window cuts is
taken for what is left of it.

`advance_outside` says so of every scanner, together with the token that is
read and the nesting behind it.
-/

namespace CommentScan

open CommentScan.Automaton

namespace Text

/-- The characters of a text in front of its first line terminator. -/
def firstLine (text : Text) : Text :=
  text.takeWhile fun character => ¬ IsLineTerminator character

theorem append_singleton_prefix (front : Text) {rest : Text}
    {character : Char} (isFirst : character ∈ rest.head?) :
    front ++ [character] <+: front ++ rest := by
  rcases List.head?_eq_some_iff.mp isFirst with ⟨more, rfl⟩
  rw [List.prefix_append_right_inj]
  exact List.prefix_append [character] more

end Text

namespace Lexeme

variable {text rest : Text} {character : Char}

/-! ## Lexemes that are told by their first characters -/

theorem stops_firstLine (text : Text) :
    Stops .lineComment .lineComment text.firstLine
      (text.dropWhile fun character => ¬ Text.IsLineTerminator character) := by
  refine stops_takeWhile rfl ?_ text
  intro character
  rw [State.lineComment_next]
  simp [Text.ofChar_eq_lineTerminator_iff]

/-- Two slashes begin a line comment, which ends with its line. -/
theorem begins_lineComment (opens : ['/', '/'] <+: text) :
    Begins text .lineComment text.firstLine := by
  rcases opens with ⟨rest, rfl⟩
  have slashes : (State.start .outside).run ['/', '/'] = some .lineComment :=
    rfl
  have begins :=
    ((stops_firstLine rest).append slashes).begins (List.cons_ne_nil _ _)
  rw [List.append_assoc, Text.firstLine, List.takeWhile_append_dropWhile]
    at begins
  exact begins

theorem begins_emptyComment (opens : ['/', '*', '*', '/'] <+: text) :
    Begins text .emptyComment ['/', '*', '*', '/'] := by
  rcases opens with ⟨rest, rfl⟩
  have stops :
      Stops (.start .outside) .emptyComment ['/', '*', '*', '/'] rest :=
    ⟨.emptyComment, rfl, rfl, not_completes_of_isFinal rfl rest⟩
  exact stops.begins (List.cons_ne_nil _ _)

theorem begins_docOpener (opens : ['/', '*', '*'] <+: text)
    (notEmpty : ¬ ['/', '*', '*', '/'] <+: text) :
    Begins text (.opener .doc) ['/', '*', '*'] := by
  rcases opens with ⟨rest, rfl⟩
  have other : '/' ∉ rest.head? := fun slash =>
    notEmpty (Text.append_singleton_prefix ['/', '*', '*'] slash)
  exact ⟨longest?_docOpener other, List.prefix_append _ _⟩

theorem begins_blockOpener (opens : ['/', '*'] <+: text)
    (notDoc : ¬ ['/', '*', '*'] <+: text) :
    Begins text (.opener .block) ['/', '*'] := by
  rcases opens with ⟨rest, rfl⟩
  have other : '*' ∉ rest.head? := fun star =>
    notDoc (Text.append_singleton_prefix ['/', '*'] star)
  exact ⟨longest?_blockOpener other, List.prefix_append _ _⟩

/-- A slash that begins no comment is read by itself. -/
theorem begins_slash (opens : ['/'] <+: text)
    (notLine : ¬ ['/', '/'] <+: text) (notBlock : ¬ ['/', '*'] <+: text) :
    Begins text .plain ['/'] := by
  rcases opens with ⟨rest, rfl⟩
  have noSlash : '/' ∉ rest.head? := fun slash =>
    notLine (Text.append_singleton_prefix ['/'] slash)
  have noStar : '*' ∉ rest.head? := fun star =>
    notBlock (Text.append_singleton_prefix ['/'] star)
  have stops : Stops (State.first (.ofChar '/')) .plain [] rest := by
    refine stops_nil rfl ?_
    intro character isFirst
    cases charClass : CharClass.ofChar character with
    | slash =>
        rw [(CharClass.ofChar_eq_iff rfl).mp charClass] at isFirst
        exact absurd isFirst noSlash
    | star =>
        rw [(CharClass.ofChar_eq_iff rfl).mp charClass] at isFirst
        exact absurd isFirst noStar
    | _ => rfl
  exact stops.begins_cons

/-- The characters that may begin more than a single plain character. -/
def openers : Text :=
  ['/', '\x27', '\x22', '#', ':', '\x60']

/-- Every other character is read by itself. -/
theorem begins_other (other : character ∉ openers) :
    Begins (character :: rest) .plain [character] := by
  have first : State.first (.ofChar character) = .plainEnd := by
    have listed : ∀ charClass, State.first charClass ≠ .plainEnd →
        charClass.members.all (· ∈ openers) := by
      intro charClass
      cases charClass <;> decide
    by_contra differs
    refine other (List.all_iff_forall_prop.mp (listed _ differs) _ ?_)
    refine (CharClass.mem_members_iff ?_).mpr rfl
    intro isOther
    rw [isOther] at differs
    exact differs rfl
  refine begins_single ?_ ?_
  · rw [first]
    rfl
  · rw [first]
    exact not_completes_of_isFinal rfl rest

end Lexeme

namespace Scanner

/--
The token that a scanner reads next, and the scanner behind it, begin with a
lexeme of a role and with its characters.  Unless lexemes of that role are
merged, the token is no longer than the lexeme.
-/
structure ReadsLexeme (scanner : Scanner) (token : Token) (after : Scanner)
    (role : Role) (part : Text) : Prop where
  begins : Lexeme.Begins scanner.unread role part
  start : token.span.start = scanner.position
  isPrefix : part <+: after.tokenText
  whole :
    scanner.granularity = .lexemes ∨ role.isMergeable = false →
      after.tokenText = part ∧
        token.span.stop = scanner.position + Text.byteLength part

variable {scanner after : Scanner} {token : Token} {role : Role} {part : Text}

/-- A lexeme makes its token, with its kind and the nesting behind it. -/
theorem readsLexeme_of_begins (outside : scanner.mode = .outside)
    (advanced : scanner.tryAdvance = .ok (some token, after))
    (begins : Lexeme.Begins scanner.unread role part) :
    scanner.ReadsLexeme token after role part ∧
      token.kind = role.tokenKind (role.apply scanner.nesting) ∧
      after.nesting = role.apply scanner.nesting := by
  have longest := begins.longest
  rw [← outside] at longest
  have characters := List.prefix_iff_eq_take.mp begins.isPrefix
  have found :
      Piece.first? scanner.granularity scanner.nesting scanner.unread = _ :=
    congrArg (Option.map _) longest
  rw [tryAdvance_eq, Except.ok.injEq, advance_of_first? found,
    Prod.mk.injEq, Option.some.injEq] at advanced
  rcases advanced with ⟨rfl, rfl⟩
  refine ⟨⟨begins, rfl, ?_, ?_⟩, rfl, rfl⟩
  · have longer :=
      Lexeme.length_le_tokenLength ⟨role, part.length⟩ scanner.granularity
        (role.apply scanner.nesting).mode scanner.unread
    have shorter : scanner.unread.take part.length <+: _ :=
      List.take_prefix_take_left longer
    rw [← characters] at shorter
    exact shorter
  · -- The token is as long as its first lexeme.
    intro alone
    have notMerged :
        ¬ (scanner.granularity = .merged && role.isMergeable) = true := by
      rcases alone with separate | notMergeable
      · simp [separate]
      · simp [notMergeable]
    have text :
        (Piece.ofLexeme scanner.granularity scanner.nesting scanner.unread
          ⟨role, part.length⟩).text = part := by
      rw [Piece.ofLexeme, Lexeme.tokenLength, if_neg notMerged, ← characters]
    exact ⟨text, congrArg (scanner.position + Text.byteLength ·) text⟩

/--
Outside all comments a scanner takes what begins with two slashes for a line
comment up to the end of the line.  It takes `/**/` for a block comment that
leaves the nesting alone, and otherwise `/**` for the opener of a doc comment
and `/*` for the opener of a block comment.  Any other slash is plain, and so
is every character that begins neither a comment nor a literal, a script
header or a backquoted name.  Such a character has one to four bytes.
-/
theorem advance_outside (outside : scanner.mode = .outside)
    (remaining : scanner.unread ≠ []) :
    ∃ token after, scanner.tryAdvance = .ok (some token, after) ∧
      (['/', '/'] <+: scanner.unread →
        scanner.ReadsLexeme token after .lineComment scanner.unread.firstLine ∧
          token.kind = .lineComment ∧ after.nesting = scanner.nesting) ∧
      (['/', '*', '*', '/'] <+: scanner.unread →
        scanner.ReadsLexeme token after .emptyComment ['/', '*', '*', '/'] ∧
          token.kind = .blockComment ∧ after.nesting = scanner.nesting) ∧
      (['/', '*', '*'] <+: scanner.unread →
        ¬ ['/', '*', '*', '/'] <+: scanner.unread →
          scanner.ReadsLexeme token after (.opener .doc) ['/', '*', '*'] ∧
            token.kind = .docComment ∧ after.nesting = ⟨1, .doc⟩) ∧
      (['/', '*'] <+: scanner.unread →
        ¬ ['/', '*', '*'] <+: scanner.unread →
          scanner.ReadsLexeme token after (.opener .block) ['/', '*'] ∧
            token.kind = .blockComment ∧ after.nesting = ⟨1, .block⟩) ∧
      (['/'] <+: scanner.unread → ¬ ['/', '/'] <+: scanner.unread →
        ¬ ['/', '*'] <+: scanner.unread →
          scanner.ReadsLexeme token after .plain ['/'] ∧
            token.kind = .plainContent ∧ after.nesting = scanner.nesting) ∧
      ∀ character ∈ scanner.unread.head?, character ∉ Lexeme.openers →
        scanner.ReadsLexeme token after .plain [character] ∧
          token.kind = .plainContent ∧ after.nesting = scanner.nesting ∧
          1 ≤ character.utf8Size ∧ character.utf8Size ≤ 4 := by
  rcases advanced : scanner.advance with ⟨_ | token, after⟩
  · have finished := advance_eq_none_iff.mp (congrArg Prod.fst advanced)
    exact absurd finished remaining
  have reads : scanner.tryAdvance = .ok (some token, after) := by
    rw [tryAdvance_eq, advanced]
  have opened : ∀ {role part}, Lexeme.Begins scanner.unread role part → _ :=
    fun begins => readsLexeme_of_begins outside reads begins
  refine ⟨token, after, reads, ?_, ?_, ?_, ?_, ?_, ?_⟩
  · exact fun opens => opened (Lexeme.begins_lineComment opens)
  · exact fun opens => opened (Lexeme.begins_emptyComment opens)
  · exact fun opens notEmpty =>
      opened (Lexeme.begins_docOpener opens notEmpty)
  · exact fun opens notDoc =>
      opened (Lexeme.begins_blockOpener opens notDoc)
  · exact fun opens notLine notBlock =>
      opened (Lexeme.begins_slash opens notLine notBlock)
  · intro character isFirst other
    rcases List.head?_eq_some_iff.mp isFirst with ⟨rest, unread⟩
    have begins : Lexeme.Begins scanner.unread .plain [character] := by
      rw [unread]
      exact Lexeme.begins_other other
    rcases opened begins with ⟨reading, kind, nesting⟩
    exact ⟨reading, kind, nesting, character.utf8Size_pos,
      character.utf8Size_le_four⟩

/-- An empty comment is an opener in a window that cuts it. -/
theorem advance_outside_cut :
    ∃ slash block doc,
      ofWindow ['/', '*', '*', '/'] .merged 0 1 .initial = .ok slash ∧
        ofWindow ['/', '*', '*', '/'] .merged 0 2 .initial = .ok block ∧
        ofWindow ['/', '*', '*', '/'] .merged 0 3 .initial = .ok doc ∧
        (∃ token after, slash.tryAdvance = .ok (some token, after) ∧
          token.kind = .plainContent ∧ after.nesting = .initial) ∧
        (∃ token after, block.tryAdvance = .ok (some token, after) ∧
          token.kind = .blockComment ∧ after.nesting = ⟨1, .block⟩) ∧
        ∃ token after, doc.tryAdvance = .ok (some token, after) ∧
          token.kind = .docComment ∧ after.nesting = ⟨1, .doc⟩ := by
  let cut (text : Text) : Scanner :=
    { ofText ['/', '*', '*', '/'] .merged with unread := text }
  refine ⟨cut ['/'], cut ['/', '*'], cut ['/', '*', '*'], rfl, rfl, rfl,
    ?_, ?_, ?_⟩
  · rcases @advance_outside (cut ['/']) rfl (List.cons_ne_nil _ _) with
      ⟨token, after, reads, -, -, -, -, plain, -⟩
    have slash := plain (by decide) (by decide) (by decide)
    exact ⟨token, after, reads, slash.2⟩
  · rcases @advance_outside (cut ['/', '*']) rfl (List.cons_ne_nil _ _) with
      ⟨token, after, reads, -, -, -, opener, -⟩
    have block := opener (by decide) (by decide)
    exact ⟨token, after, reads, block.2⟩
  · rcases @advance_outside (cut ['/', '*', '*']) rfl
        (List.cons_ne_nil _ _) with
      ⟨token, after, reads, -, -, opener, -⟩
    have doc := opener (by decide) (by decide)
    exact ⟨token, after, reads, doc.2⟩

end Scanner

end CommentScan
