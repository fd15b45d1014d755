import CommentScan.Proofs.Lexeme.Extent
import Mathlib.Data.Nat.SuccPred
import Mathlib.Order.Bounds.Image
import Mathlib.Tactic.IntervalCases

/-!
# Script headers and backquoted names

Some plain lexemes enclose a text as it stands between an opening word and a
closing one.  A script header goes on past a closing word, so it reaches to the
last one of the window; a backquoted name stops at the first.  Where a closing
word is missing, the first character of the opening one is all that is read.

`Enclosure.ends` holds the indices of the closing words, and
`begins_enclosed` states the extent of all three lexemes.
-/

namespace CommentScan

open CommentScan.Automaton

/-- An opening word, which has a first character, and a closing word. -/
structure Enclosure where
  first : Char
  behind : Text
  closer : Text
  deriving DecidableEq, Repr

namespace Enclosure

/-- The opening word. -/
def opener (enclosure : Enclosure) : Text :=
  enclosure.first :: enclosure.behind

/-- The indices of the closing words behind an opening word at the front. -/
def ends (enclosure : Enclosure) (text : Text) : Set Nat :=
  {index | enclosure.opener <+: text ∧
    index ∈ text.occurrences enclosure.closer enclosure.opener.length}

/-- A script header between `#!` and `!#`. -/
def header : Enclosure :=
  ⟨'#', ['!'], ['!', '#']⟩

/-- A script header between `::#!` and `::!#`. -/
def colonHeader : Enclosure :=
  ⟨':', [':', '#', '!'], [':', ':', '!', '#']⟩

/-- A name between two backquotes. -/
def backquoted : Enclosure :=
  ⟨'\x60', [], ['\x60']⟩

instance (enclosure : Enclosure) (text : Text) :
    DecidablePred (· ∈ enclosure.ends text) :=
  fun _ => inferInstanceAs (Decidable (_ ∧ _ ∧ _))

variable {enclosure : Enclosure} {text rest : Text}

theorem ends_append (enclosure : Enclosure) (rest : Text) :
    enclosure.ends (enclosure.opener ++ rest) =
      (enclosure.opener.length + ·) '' rest.occurrences enclosure.closer 0 := by
  rw [← Text.occurrences_append]
  ext index
  exact and_iff_right (List.prefix_append _ _)

theorem bddAbove_ends (nonempty : enclosure.closer ≠ []) :
    BddAbove (enclosure.ends text) :=
  (Text.bddAbove_occurrences nonempty).mono fun _ ends => ends.2

theorem exists_isLeast_ends (somewhere : (enclosure.ends text).Nonempty) :
    ∃ first, IsLeast (enclosure.ends text) first :=
  (OrderBot.bddBelow _).exists_isLeast_of_nonempty somewhere

theorem exists_isGreatest_ends (nonempty : enclosure.closer ≠ [])
    (somewhere : (enclosure.ends text).Nonempty) :
    ∃ last, IsGreatest (enclosure.ends text) last :=
  (bddAbove_ends nonempty).exists_isGreatest_of_nonempty somewhere

theorem lt_length_of_mem_ends (nonempty : enclosure.closer ≠ [])
    {index : Nat} (ends : index ∈ enclosure.ends text) :
    index < text.length := by
  have bound := Text.le_of_mem_occurrences nonempty ends.2
  have positive := List.length_pos_iff.mpr nonempty
  omega

/-- Only the indices within the text have to be looked at. -/
theorem ends_eq_empty_iff (nonempty : enclosure.closer ≠ []) :
    enclosure.ends text = ∅ ↔
      ∀ index < text.length, index ∉ enclosure.ends text := by
  rw [Set.eq_empty_iff_forall_notMem]
  constructor
  · exact fun nowhere index _ => nowhere index
  · intro nowhere index ends
    exact nowhere index (lt_length_of_mem_ends nonempty ends) ends

theorem isGreatest_ends_iff (nonempty : enclosure.closer ≠ []) {last : Nat} :
    IsGreatest (enclosure.ends text) last ↔
      last ∈ enclosure.ends text ∧
        ∀ index < text.length, index ∈ enclosure.ends text →
          index ≤ last := by
  constructor
  · rintro ⟨ends, greatest⟩
    exact ⟨ends, fun index _ otherEnds => greatest otherEnds⟩
  · rintro ⟨ends, greatest⟩
    refine ⟨ends, fun index otherEnds => ?_⟩
    exact greatest index (lt_length_of_mem_ends nonempty otherEnds) otherEnds

theorem isLeast_ends_iff {first : Nat} :
    IsLeast (enclosure.ends text) first ↔
      first ∈ enclosure.ends text ∧
        ∀ index < first, index ∉ enclosure.ends text := by
  constructor
  · rintro ⟨ends, least⟩
    exact ⟨ends, fun index earlier otherEnds =>
      Nat.not_lt_of_le (least otherEnds) earlier⟩
  · rintro ⟨ends, least⟩
    refine ⟨ends, fun index otherEnds => ?_⟩
    exact Nat.le_of_not_lt fun earlier => least index earlier otherEnds

theorem take_ends_ne_nil {index : Nat} (ends : index ∈ enclosure.ends text) :
    text.take (index + enclosure.closer.length) ≠ [] := by
  rcases ends with ⟨⟨rest, rfl⟩, inside, -⟩
  have positive : 0 < index + enclosure.closer.length :=
    Nat.add_pos_left (Nat.lt_of_lt_of_le (Nat.succ_pos _) inside) _
  rw [opener, List.cons_append, ← Nat.sub_add_cancel positive]
  exact List.cons_ne_nil _ _

/--
Where the opening word leads to a search, the search has found the closing
word behind its first occurrence.
-/
theorem run_of_isLeast_ends {states : Nat → State} {state : State}
    (leads : ∀ rest, rest ≠ [] →
      state.run (enclosure.opener ++ rest) = (states 0).run rest)
    (seeks : State.Seeks enclosure.closer states) {first : Nat}
    (isLeast : IsLeast (enclosure.ends text) first) :
    state.run (text.take (first + enclosure.closer.length)) =
      some (states enclosure.closer.length) := by
  rcases isLeast.1.1 with ⟨rest, rfl⟩
  rw [ends_append] at isLeast
  rcases isLeast.1 with ⟨distance, stands, rfl⟩
  rw [add_right_strictMono.map_isLeast] at isLeast
  have positive := List.length_pos_iff.mpr seeks.nonempty
  have bound := Text.le_of_mem_occurrences seeks.nonempty stands
  have nonempty : rest.take (distance + enclosure.closer.length) ≠ [] := by
    rw [← List.length_pos_iff, List.length_take_of_le bound]
    exact Nat.add_pos_right _ positive
  rw [Nat.add_assoc, List.take_length_add_append, leads _ nonempty]
  exact seeks.run_of_isLeast isLeast

/--
How the automaton reads what is enclosed: only the opening word leads to a
search for the closing one.
-/
structure ReadBy (enclosure : Enclosure) (states : Nat → State) : Prop where
  plain :
    (State.first (.ofChar enclosure.first)).role = some .plain
  leads :
    Lexeme.LeadsOnly (State.first (.ofChar enclosure.first))
      enclosure.behind (states 0)
  seeks : State.Seeks enclosure.closer states

namespace ReadBy

open CommentScan.Lexeme

variable {states : Nat → State}

/-- Without a closing word the first character is read by itself. -/
theorem begins_single (readBy : enclosure.ReadBy states)
    (unclosed : enclosure.ends (enclosure.first :: rest) = ∅) :
    Begins (enclosure.first :: rest) .plain [enclosure.first] := by
  refine Lexeme.begins_single readBy.plain ?_
  intro lexeme completes
  rcases (completes_of_leadsOnly_iff readBy.leads).mp completes with
    ⟨more, shorter, rfl, later, -⟩
  refine readBy.seeks.not_completes ?_ shorter later
  have whole := enclosure.ends_append more
  rw [opener, List.cons_append, unclosed] at whole
  exact Set.image_eq_empty.mp whole.symm

/-- A search that goes on reads up to the last closing word. -/
theorem begins_last (readBy : enclosure.ReadBy states)
    (goesOn : State.GoesOn enclosure.closer states) {last : Nat}
    (isGreatest : IsGreatest (enclosure.ends text) last) :
    Begins text .plain (text.take (last + enclosure.closer.length)) := by
  rcases isGreatest.1.1 with ⟨rest, rfl⟩
  rw [ends_append] at isGreatest
  rcases isGreatest.1 with ⟨distance, stands, rfl⟩
  rw [add_right_strictMono.map_isGreatest] at isGreatest
  have found := readBy.seeks.isFurthest goesOn isGreatest
  have inside := readBy.leads.isFurthest found
  have length :
      enclosure.behind.length + (distance + enclosure.closer.length) + 1 =
        enclosure.opener.length + distance + enclosure.closer.length := by
    rw [opener, List.length_cons]
    omega
  have longest : IsLongest .outside (enclosure.opener ++ rest) _ :=
    inside.cons rfl
  rw [length] at longest
  exact begins_of_isLongest longest

/-- A search that ends where it has found reads up to the first one. -/
theorem begins_first (readBy : enclosure.ReadBy states)
    (final : (states enclosure.closer.length).isFinal) {first : Nat}
    (isLeast : IsLeast (enclosure.ends text) first) :
    Begins text .plain (text.take (first + enclosure.closer.length)) := by
  have found : (State.start .outside).run _ = some _ :=
    run_of_isLeast_ends (fun _ nonempty => readBy.leads.run_append nonempty)
      readBy.seeks isLeast
  have nowhere :=
    not_completes_of_isFinal final
      (text.drop (first + enclosure.closer.length))
  have stops : Stops (.start .outside) .plain _ _ :=
    ⟨_, found, readBy.seeks.complete, nowhere⟩
  have begins := stops.begins (take_ends_ne_nil isLeast.1)
  rw [List.take_append_drop] at begins
  exact begins

end ReadBy

/-! ## The three enclosures -/

/-- The states inside a script header. -/
def headerSearch : Nat → State
  | 0 => .header .body
  | 1 => .header .bang
  | _ => .header .closed

theorem readBy_header : header.ReadBy headerSearch where
  plain := rfl
  leads := by
    refine ⟨rfl, .header .body, rfl, fun _ => rfl, ?_⟩
    intro charClass
    cases charClass <;> rfl
  seeks := {
    nonempty := List.cons_ne_nil _ _
    alone := List.all_iff_forall_prop.mp rfl
    step := by
      intro count inside charClass
      change count < 2 at inside
      interval_cases count <;> cases charClass <;> rfl
    incomplete := by decide
    complete := rfl }

theorem goesOn_header : State.GoesOn header.closer headerSearch := by
  intro charClass
  cases charClass <;> rfl

/-- The states inside a script header that is marked by colons. -/
def colonHeaderSearch : Nat → State
  | 0 => .colonHeader .body
  | 1 => .colonHeader .bodyOneColon
  | 2 => .colonHeader .bodyTwoColons
  | 3 => .colonHeader .bang
  | _ => .colonHeader .closed

theorem readBy_colonHeader : colonHeader.ReadBy colonHeaderSearch where
  plain := rfl
  leads := by
    refine ⟨rfl, .colonHeader .twoColons, rfl, ?_, ?_⟩
    · refine ⟨rfl, .colonHeader .hash, rfl, ?_, ?_⟩
      · refine ⟨rfl, .colonHeader .body, rfl, fun _ => rfl, ?_⟩
        intro charClass
        cases charClass <;> rfl
      · intro charClass
        cases charClass <;> rfl
    · intro charClass
      cases charClass <;> rfl
  seeks := {
    nonempty := List.cons_ne_nil _ _
    alone := List.all_iff_forall_prop.mp rfl
    step := by
      intro count inside charClass
      change count < 4 at inside
      interval_cases count <;> cases charClass <;> rfl
    incomplete := by decide
    complete := rfl }

theorem goesOn_colonHeader :
    State.GoesOn colonHeader.closer colonHeaderSearch := by
  intro charClass
  cases charClass <;> rfl

/-- The states behind an opening backquote. -/
def backquotedSearch : Nat → State
  | 0 => .backquotedName
  | _ => .plainEnd

theorem readBy_backquoted : backquoted.ReadBy backquotedSearch where
  plain := rfl
  leads := by
    intro charClass
    cases charClass <;> rfl
  seeks := {
    nonempty := List.cons_ne_nil _ _
    alone := List.all_iff_forall_prop.mp rfl
    step := by
      intro count inside charClass
      change count < 1 at inside
      interval_cases count
      cases charClass <;> rfl
    incomplete := by decide
    complete := rfl }

/--
Outside all comments, a text that opens a script header begins with a plain
lexeme up to the last closing word of the header, and one that opens a
backquoted name with a plain lexeme up to the first backquote behind.  It does
not matter what stands in between.  In all other cases a hash, a colon or a
backquote is a plain lexeme by itself.
-/
theorem begins_enclosed (text : Text) :
    ((header.ends text).Nonempty →
        ∃ last, IsGreatest (header.ends text) last ∧
          Lexeme.Begins text .plain (text.take (last + 2))) ∧
      ((colonHeader.ends text).Nonempty →
        ∃ last, IsGreatest (colonHeader.ends text) last ∧
          Lexeme.Begins text .plain (text.take (last + 4))) ∧
      ((backquoted.ends text).Nonempty →
        ∃ first, IsLeast (backquoted.ends text) first ∧
          Lexeme.Begins text .plain (text.take (first + 1))) ∧
      ∀ character ∈ text.head?, character ∈ ['#', ':', '\x60'] →
        header.ends text = ∅ → colonHeader.ends text = ∅ →
        backquoted.ends text = ∅ →
          Lexeme.Begins text .plain [character] := by
  refine ⟨?_, ?_, ?_, ?_⟩
  · intro somewhere
    rcases exists_isGreatest_ends readBy_header.seeks.nonempty somewhere with
      ⟨last, isGreatest⟩
    exact ⟨last, isGreatest,
      readBy_header.begins_last goesOn_header isGreatest⟩
  · intro somewhere
    rcases exists_isGreatest_ends readBy_colonHeader.seeks.nonempty
        somewhere with
      ⟨last, isGreatest⟩
    exact ⟨last, isGreatest,
      readBy_colonHeader.begins_last goesOn_colonHeader isGreatest⟩
  · intro somewhere
    rcases exists_isLeast_ends somewhere with ⟨first, isLeast⟩
    exact ⟨first, isLeast, readBy_backquoted.begins_first rfl isLeast⟩
  · intro character isFirst opens noHeader noColonHeader noName
    rcases text with _ | ⟨first, rest⟩
    · cases isFirst
    · cases isFirst
      simp only [List.mem_cons, List.not_mem_nil, or_false] at opens
      rcases opens with rfl | rfl | rfl
      · exact readBy_header.begins_single noHeader
      · exact readBy_colonHeader.begins_single noColonHeader
      · exact readBy_backquoted.begins_single noName

/-- Closing words that overlap, come more than once or are missing. -/
theorem begins_enclosed_overlapping :
    Lexeme.Begins ['#', '!', '!', '#', '!', '#', 'x'] .plain
        ['#', '!', '!', '#', '!', '#'] ∧
      Lexeme.Begins [':', ':', '#', '!', ':', ':', ':', '!', '#', '\n'] .plain
        [':', ':', '#', '!', ':', ':', ':', '!', '#'] ∧
      Lexeme.Begins ['\x60', '/', '*', '\x60', '\x60'] .plain
        ['\x60', '/', '*', '\x60'] ∧
      Lexeme.Begins [':', ':', '#', '!', '#'] .plain [':'] := by
  refine ⟨?_, ?_, ?_, ?_⟩
  · rcases (begins_enclosed ['#', '!', '!', '#', '!', '#', 'x']).1
        ⟨4, by decide⟩ with
      ⟨last, isGreatest, begins⟩
    have known : last = 4 :=
      isGreatest.unique ((isGreatest_ends_iff (by decide)).mpr (by decide))
    rw [known] at begins
    exact begins
  · rcases (begins_enclosed
        [':', ':', '#', '!', ':', ':', ':', '!', '#', '\n']).2.1
        ⟨5, by decide⟩ with
      ⟨last, isGreatest, begins⟩
    have known : last = 5 :=
      isGreatest.unique ((isGreatest_ends_iff (by decide)).mpr (by decide))
    rw [known] at begins
    exact begins
  · rcases (begins_enclosed ['\x60', '/', '*', '\x60', '\x60']).2.2.1
        ⟨3, by decide⟩ with
      ⟨first, isLeast, begins⟩
    have known : first = 3 :=
      isLeast.unique (isLeast_ends_iff.mpr (by decide))
    rw [known] at begins
    exact begins
  · have unclosed : ∀ enclosure ∈ [header, colonHeader, backquoted],
        enclosure.ends [':', ':', '#', '!', '#'] = ∅ := by
      intro enclosure listed
      refine (ends_eq_empty_iff ?_).mpr ?_ <;> revert enclosure <;> decide
    exact
      (begins_enclosed [':', ':', '#', '!', '#']).2.2.2 ':' rfl (by decide)
        (unclosed header (by decide)) (unclosed colonHeader (by decide))
        (unclosed backquoted (by decide))

end Enclosure

end CommentScan
