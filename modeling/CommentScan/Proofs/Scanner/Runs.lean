import CommentScan.Proofs.Lexeme.Marker
import CommentScan.Proofs.Scanner.Pieces

/-!
# Runs of lexemes

A merged piece is a run of lexemes: the longest run of one role if the role
is mergeable, and a single lexeme otherwise.  The lexemes of the text behind
the piece are the same whether the run was merged or not, because no lexeme of
a mergeable role changes the nesting.

`exists_merges` finds the run of every merged piece.  Its lexemes keep their
role recognizable: `IsShaped` says how the characters of a piece tell comment
markers and comment characters apart.
-/

namespace CommentScan

namespace Piece

/-- The characters of a piece fit its role. -/
structure IsShaped (piece : Piece) : Prop where
  marker :
    ∀ marker, piece.role.marker? = some marker → piece.text = marker
  body : piece.role = .commentBody → piece.text ∉ Text.markers

theorem first?_lexemes {nesting : Nesting} {text : Text} {lexeme : Lexeme}
    (found : Lexeme.longest? nesting.mode text = some lexeme) :
    first? .lexemes nesting text =
      some ⟨lexeme.role, text.take lexeme.length,
        lexeme.role.apply nesting⟩ := by
  rw [first?, found]
  rfl

/-- Both granularities agree on the lexemes that are not merged. -/
theorem first?_of_not_mergeable {nesting : Nesting} {text : Text}
    {lexeme : Lexeme}
    (found : Lexeme.longest? nesting.mode text = some lexeme)
    (alone : lexeme.role.isMergeable = false)
    (granularity : Granularity) :
    first? granularity nesting text =
      some ⟨lexeme.role, text.take lexeme.length,
        lexeme.role.apply nesting⟩ := by
  rw [first?, found, Option.map_some, ofLexeme, Lexeme.tokenLength, alone,
    Bool.and_false, if_neg Bool.false_ne_true]

theorem first?_of_mergeable {nesting : Nesting} {text : Text}
    {lexeme : Lexeme}
    (found : Lexeme.longest? nesting.mode text = some lexeme)
    (mergeable : lexeme.role.isMergeable) :
    first? .merged nesting text =
      some ⟨lexeme.role,
        text.take
          (Lexeme.runLength nesting.mode lexeme.role
            (text.drop lexeme.length) lexeme.length),
        nesting⟩ := by
  have same := Role.apply_of_isMergeable mergeable nesting
  rw [first?, found, Option.map_some, ofLexeme, Lexeme.tokenLength,
    mergeable, same, if_pos (by decide)]

theorem isShaped_of_first? {granularity : Granularity} {nesting : Nesting}
    {text : Text} {piece : Piece}
    (found : first? granularity nesting text = some piece) :
    piece.IsShaped := by
  have whole := (first?_spec found).2
  rcases Option.map_eq_some_iff.mp found with ⟨lexeme, longest, same⟩
  have role : piece.role = lexeme.role := by
    rw [← same]
    rfl
  constructor
  · intro marker marked
    rw [role] at marked
    have alone := Role.isMergeable_of_marker marked
    rw [first?_of_not_mergeable longest alone, Option.some.injEq] at found
    rw [← found]
    exact Lexeme.take_eq_marker longest marked
  · intro body listed
    rw [role] at body
    exact
      Lexeme.not_startsMarker_of_commentBody longest body
        (Text.startsMarker_of_mem listed ⟨_, whole.symm⟩)

theorem isShaped_of_mem_pieces {granularity : Granularity}
    {nesting : Nesting} {text : Text} :
    ∀ piece ∈ pieces granularity nesting text, piece.IsShaped := by
  induction nesting, text using pieces_induction granularity with
  | nil nesting => simp
  | step nesting first rest found nonempty inductionHypothesis =>
      intro piece member
      rw [pieces_of_first? found] at member
      rcases List.mem_cons.mp member with rfl | later
      · exact isShaped_of_first? found
      · exact inductionHypothesis piece later

/-- Any characters fit the role of plain text. -/
theorem isShaped_of_plain {piece : Piece} (plain : piece.role = .plain) :
    piece.IsShaped := by
  constructor
  · intro marker marked
    rw [plain] at marked
    cases marked
  · intro body
    rw [plain] at body
    cases body

/-- Some pieces have one role and leave one nesting behind them. -/
def IsRun (role : Role) (nesting : Nesting) (run : List Piece) : Prop :=
  ∀ piece ∈ run,
    piece.role = role ∧ piece.nesting = nesting ∧ piece.IsShaped

theorem isRun_nil (role : Role) (nesting : Nesting) :
    IsRun role nesting [] := by
  intro piece member
  cases member

/-- Behind the lexemes at the front of a run the other pieces are left. -/
theorem IsRun.pieces_of_append {granularity : Granularity} {role : Role}
    {nesting : Nesting} {rest : Text} {front back : List Piece}
    (isRun : IsRun role nesting front)
    (cut :
      pieces granularity nesting (front.flatMap Piece.text ++ rest) =
        front ++ back) :
    pieces granularity nesting rest = back := by
  induction front with
  | nil => exact cut
  | cons piece more inductionHypothesis =>
      rcases List.forall_mem_cons.mp isRun with ⟨⟨-, same, -⟩, moreRun⟩
      rw [List.flatMap_cons, List.append_assoc, List.cons_append] at cut
      have found :=
        head?_pieces granularity nesting
          (piece.text ++ (more.flatMap Piece.text ++ rest))
      rw [cut, List.head?_cons] at found
      rw [pieces_of_first? found.symm, same] at cut
      exact inductionHypothesis moreRun (List.cons.inj cut).2

/--
The lexemes at the front of a text make up a run of a role that leaves the
nesting alone, up to a lexeme of another role.
-/
theorem exists_run {role : Role} {nesting : Nesting}
    (keeps : role.apply nesting = nesting) (text : Text) (length : Nat) :
    ∃ run rest,
      text = run.flatMap Piece.text ++ rest ∧
        Lexeme.runLength nesting.mode role text length =
          length + (run.flatMap Piece.text).length ∧
        IsRun role nesting run ∧
        pieces .lexemes nesting text =
          run ++ pieces .lexemes nesting rest ∧
        ∀ next, Lexeme.longest? nesting.mode rest = some next →
          next.role ≠ role := by
  fun_induction Lexeme.runLength nesting.mode role text length with
  | case1 text length missing =>
      refine ⟨[], text, rfl, rfl, isRun_nil role nesting, rfl, ?_⟩
      intro next found
      rw [missing] at found
      cases found
  | case2 text length lexeme longest same inductionHypothesis =>
      rcases inductionHypothesis with
        ⟨run, rest, whole, runLength, isRun, lexemes, stops⟩
      have found := first?_lexemes longest
      rw [same, keeps] at found
      have cut := pieces_eq_cons found
      have bound := (Lexeme.longest?_length longest).2
      rw [List.length_take, Nat.min_eq_left bound, lexemes] at cut
      refine
        ⟨⟨role, text.take lexeme.length, nesting⟩ :: run, rest, ?_, ?_, ?_,
          cut, stops⟩
      · rw [List.flatMap_cons, List.append_assoc, ← whole,
          List.take_append_drop]
      · rw [runLength, List.flatMap_cons, List.length_append,
          List.length_take, Nat.min_eq_left bound, Nat.add_assoc]
      · intro piece member
        rcases List.mem_cons.mp member with rfl | later
        · exact ⟨rfl, rfl, isShaped_of_first? found⟩
        · exact isRun piece later
  | case3 text length lexeme longest other =>
      refine ⟨[], text, rfl, rfl, isRun_nil role nesting, rfl, ?_⟩
      intro next found
      rw [longest, Option.some.injEq] at found
      rw [← found]
      exact other

/--
A piece is made of the lexemes `first :: more`, behind which the rest of the
text is read as if nothing had been merged.  A mergeable piece takes all
lexemes of its role, and every other piece is one lexeme.
-/
structure Merges (piece : Piece) (nesting : Nesting) (rest : Text)
    (first : Piece) (more : List Piece) : Prop where
  texts : (first :: more).flatMap Piece.text = piece.text
  isRun : IsRun piece.role piece.nesting (first :: more)
  lexemes :
    pieces .lexemes nesting (piece.text ++ rest) =
      first :: more ++ pieces .lexemes piece.nesting rest
  single : piece.role.isMergeable = false → more = []
  maximal :
    piece.role.isMergeable →
      ∀ next, Lexeme.longest? piece.nesting.mode rest = some next →
        next.role ≠ piece.role

variable {nesting : Nesting} {piece : Piece} {rest : Text} {lexeme : Lexeme}

theorem merges_of_not_mergeable
    (longest :
      Lexeme.longest? nesting.mode (piece.text ++ rest) = some lexeme)
    (alone : lexeme.role.isMergeable = false)
    (found :
      first? .merged nesting (piece.text ++ rest) = some piece) :
    piece.Merges nesting rest piece [] := by
  have single := first?_of_not_mergeable longest alone
  have same := found
  rw [single .merged, Option.some.injEq] at same
  have role : piece.role = lexeme.role := by rw [← same]
  have lexemeFound := single .lexemes
  rw [same] at lexemeFound
  refine
    { texts := ?_
      isRun := ?_
      lexemes := pieces_of_first? lexemeFound
      single := fun _ => rfl
      maximal := ?_ }
  · rw [List.flatMap_cons, List.flatMap_nil, List.append_nil]
  · intro other member
    rw [List.mem_singleton.mp member]
    exact ⟨rfl, rfl, isShaped_of_first? found⟩
  · intro mergeable
    rw [role, alone] at mergeable
    cases mergeable

theorem exists_merges_of_mergeable
    (longest :
      Lexeme.longest? nesting.mode (piece.text ++ rest) = some lexeme)
    (mergeable : lexeme.role.isMergeable)
    (found :
      first? .merged nesting (piece.text ++ rest) = some piece) :
    ∃ first more, piece.Merges nesting rest first more := by
  have keeps := Role.apply_of_isMergeable mergeable nesting
  have bound := (Lexeme.longest?_length longest).2
  have lexemeFound := first?_lexemes longest
  have cut := pieces_eq_cons lexemeFound
  have pieceEq := first?_of_mergeable longest mergeable
  have front := List.take_append_drop lexeme.length (piece.text ++ rest)
  rcases exists_run keeps ((piece.text ++ rest).drop lexeme.length)
      lexeme.length with
    ⟨run, behind, whole, runLength, isRun, lexemes, stops⟩
  rw [keeps] at lexemeFound cut
  rw [List.length_take, Nat.min_eq_left bound, lexemes] at cut
  rw [found, Option.some.injEq, runLength, List.take_add, whole,
    List.take_left] at pieceEq
  have role := congrArg Piece.role pieceEq
  have texts := congrArg Piece.text pieceEq
  have behindNesting := congrArg Piece.nesting pieceEq
  change piece.role = lexeme.role at role
  change _ = _ ++ _ at texts
  change piece.nesting = nesting at behindNesting
  -- Cutting the text behind the run and behind the piece is the same.
  rw [whole, ← List.append_assoc, ← texts] at front
  have behindEq := List.append_cancel_left front
  subst behindEq
  refine
    ⟨⟨lexeme.role, (piece.text ++ behind).take lexeme.length, nesting⟩, run,
      ?_⟩
  refine
    { texts := texts.symm
      isRun := ?_
      lexemes := ?_
      single := ?_
      maximal := ?_ }
  · rw [role, behindNesting]
    intro other member
    rcases List.mem_cons.mp member with rfl | later
    · exact ⟨rfl, rfl, isShaped_of_first? lexemeFound⟩
    · exact isRun other later
  · rw [behindNesting]
    exact cut
  · intro alone
    rw [role, mergeable] at alone
    cases alone
  · rw [role, behindNesting]
    intro _
    exact stops

theorem exists_merges
    (found :
      first? .merged nesting (piece.text ++ rest) = some piece) :
    ∃ first more, piece.Merges nesting rest first more := by
  rcases Option.map_eq_some_iff.mp found with ⟨lexeme, longest, -⟩
  cases mergeable : lexeme.role.isMergeable with
  | false =>
      exact ⟨piece, [], merges_of_not_mergeable longest mergeable found⟩
  | true => exact exists_merges_of_mergeable longest mergeable found

/-- The lexemes of a run from some place in it on make up a run again. -/
theorem Merges.suffix {first next : Piece} {more front later : List Piece}
    (merges : piece.Merges nesting rest first more)
    (mergeable : piece.role.isMergeable) (keeps : piece.nesting = nesting)
    (split : first :: more = front ++ next :: later) :
    Merges ⟨piece.role, (next :: later).flatMap Piece.text, nesting⟩ nesting
      rest next later := by
  have texts := merges.texts
  have lexemes := merges.lexemes
  have isRun := merges.isRun
  have maximal := merges.maximal
  rw [split, List.flatMap_append] at texts
  rw [keeps] at maximal
  rw [keeps, split] at isRun
  rw [keeps, split, ← texts, List.append_assoc, List.append_assoc] at lexemes
  have frontRun : IsRun piece.role nesting front :=
    fun other member => isRun other (List.mem_append_left _ member)
  constructor
  case texts => rfl
  case isRun =>
    exact fun other member => isRun other (List.mem_append_right _ member)
  case lexemes => exact frontRun.pieces_of_append lexemes
  case single =>
    intro alone
    rw [mergeable] at alone
    cases alone
  case maximal => exact maximal

end Piece

end CommentScan
