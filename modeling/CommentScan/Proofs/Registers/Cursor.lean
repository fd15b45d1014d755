import CommentScan.Proofs.Text.Bytes

/-!
# Cursors

A cursor names a place in a window by offsets into the whole buffer, which are
machine words.  Each of its operations relies on facts about these offsets,
and checks them: where one does not hold, the operation ends in a `Breach`
that says which.

`Reads` says that a cursor stands in front of some characters, up to the end
of its window.  From there every operation succeeds, and moves the cursor
behind characters that it has read: `skip` says where that is.
-/

namespace CommentScan

/-- A fact that an operation relies on and that does not hold. -/
inductive Breach where
  | windowReversed
  | windowTooLong
  | windowSplitsCharacter
  | sliceReversed
  | sliceSplitsCharacter
  | otherCharacter
  | spanReversed
  | opensInside
  | nestsOutside
  | closesOutside
  | wordOverflow
  | unmatched
  deriving DecidableEq, Repr

/-- Go on only where a condition holds. -/
def require (condition : Prop) [Decidable condition] (breach : Breach) :
    Except Breach Unit :=
  if condition then .ok () else .error breach

theorem require_of {condition : Prop} [Decidable condition]
    (holds : condition) (breach : Breach) :
    require condition breach = .ok () :=
  if_pos holds

theorem require_eq_ok {condition : Prop} [Decidable condition]
    {breach : Breach} {result : Unit}
    (passed : require condition breach = .ok result) : condition := by
  unfold require at passed
  split at passed
  · assumption
  · cases passed

/-- What comes of two steps comes of the first and then of the second. -/
theorem bind_eq_ok {first second : Type} {step : Except Breach first}
    {next : first → Except Breach second} {result : second}
    (done : (step >>= next) = .ok result) :
    ∃ middle, step = .ok middle ∧ next middle = .ok result := by
  cases step with
  | error breach => cases done
  | ok middle => exact ⟨middle, rfl, done⟩

/-- A sum that fits in a machine word. -/
def checkedAdd (left right : Nat) : Except Breach Nat := do
  require (left + right ≤ wordLimit) .wordOverflow
  return left + right

theorem checkedAdd_of_le {left right : Nat}
    (fits : left + right ≤ wordLimit) :
    checkedAdd left right = .ok (left + right) := by
  rw [checkedAdd, require_of fits]
  rfl

theorem eq_of_checkedAdd {left right sum : Nat}
    (added : checkedAdd left right = .ok sum) : sum = left + right := by
  rcases bind_eq_ok added with ⟨_, -, rest⟩
  cases rest
  rfl

/-- What a machine does where a sum does not fit in a word. -/
inductive Arithmetic where
  | checked
  | wrapping
  deriving DecidableEq, Repr

/-- A sum as a machine has it, which stops at an overflow or wraps around. -/
def Arithmetic.add : Arithmetic → Nat → Nat → Except Breach Nat
  | checked, left, right => checkedAdd left right
  | wrapping, left, right => return (left + right) % (wordLimit + 1)

/-- Sums that fit are the same on every machine. -/
theorem Arithmetic.add_of_le (arithmetic : Arithmetic) {left right : Nat}
    (fits : left + right ≤ wordLimit) :
    arithmetic.add left right = .ok (left + right) := by
  cases arithmetic with
  | checked => exact checkedAdd_of_le fits
  | wrapping =>
      exact congrArg Except.ok (Nat.mod_eq_of_lt (Nat.lt_succ_of_le fits))

/-- A place in a window of a buffer. -/
structure Cursor where
  buffer : Text
  position : Nat
  windowEnd : Nat
  deriving DecidableEq, Repr

namespace Cursor

/-- A cursor at the start of a window. -/
def place (buffer : Text) (start stop : Nat) : Except Breach Cursor := do
  require (start ≤ stop) .windowReversed
  require (stop ≤ Text.byteLength buffer) .windowTooLong
  require (Text.IsBoundary buffer start) .windowSplitsCharacter
  require (Text.IsBoundary buffer stop) .windowSplitsCharacter
  return ⟨buffer, start, stop⟩

/-- The part of the buffer between two offsets. -/
def slice (cursor : Cursor) (start stop : Nat) : Except Breach Text := do
  require (start ≤ stop) .sliceReversed
  match Text.slice? cursor.buffer start stop with
  | some text => return text
  | none => .error .sliceSplitsCharacter

/-- What is unread of the window. -/
def remaining (cursor : Cursor) : Except Breach Text :=
  cursor.slice cursor.position cursor.windowEnd

/-- The character at the cursor, if the window has not ended. -/
def current (cursor : Cursor) : Except Breach (Option Char) := do
  let text ← cursor.remaining
  return text.head?

/-- Move behind a character, which is the one at the cursor. -/
def bump (cursor : Cursor) (character : Char) : Except Breach Cursor := do
  let current ← cursor.current
  require (current = some character) .otherCharacter
  let position ← checkedAdd cursor.position character.utf8Size
  return { cursor with position := position }

/--
Move to the first byte that ends a line, or else to the end of the window.
-/
def eatUntilLineEnd (cursor : Cursor) : Except Breach Cursor := do
  let text ← cursor.remaining
  if Text.lineBytes text < (Text.utf8 text).length then
    let position ← checkedAdd cursor.position (Text.lineBytes text)
    return { cursor with position := position }
  else
    return { cursor with position := cursor.windowEnd }

/-- Whether the window has ended. -/
def isFinished (cursor : Cursor) : Bool :=
  cursor.windowEnd ≤ cursor.position

/-! ## Where the operations succeed -/

/-- The cursor stands in front of a text, which ends with the window. -/
structure Reads (cursor : Cursor) (text : Text) : Prop where
  window :
    Text.slice? cursor.buffer cursor.position cursor.windowEnd = some text
  fits : cursor.windowEnd ≤ wordLimit

/-- The cursor behind some characters. -/
def skip (cursor : Cursor) (text : Text) : Cursor :=
  { cursor with position := cursor.position + Text.byteLength text }

theorem skip_append (cursor : Cursor) (front back : Text) :
    cursor.skip (front ++ back) = (cursor.skip front).skip back := by
  simp only [skip, Text.byteLength_append, Nat.add_assoc]

variable {cursor : Cursor} {text front back : Text}

theorem place_of_slice? {buffer : Text} {start stop : Nat}
    (window : Text.slice? buffer start stop = some text) :
    place buffer start stop = .ok ⟨buffer, start, stop⟩ := by
  rcases Text.bounds_of_slice? window with ⟨left, right, far, within⟩
  have ordered : start ≤ stop := by
    rw [far]
    exact Nat.le_add_right _ _
  rw [place, require_of ordered, require_of within, require_of left,
    require_of right]
  rfl

theorem slice_of_slice? {start stop : Nat}
    (sliced : Text.slice? cursor.buffer start stop = some text) :
    cursor.slice start stop = .ok text := by
  have ordered : start ≤ stop := by
    rw [(Text.bounds_of_slice? sliced).2.2.1]
    exact Nat.le_add_right _ _
  rw [slice, require_of ordered, sliced]
  rfl

namespace Reads

theorem windowEnd_eq (reads : cursor.Reads text) :
    cursor.windowEnd = cursor.position + Text.byteLength text :=
  (Text.bounds_of_slice? reads.window).2.2.1

theorem skip (reads : cursor.Reads (front ++ back)) :
    (cursor.skip front).Reads back :=
  ⟨(Text.slice?_append_iff.mp reads.window).2, reads.fits⟩

/-- No place in the window is too far for a machine word. -/
theorem position_le (reads : cursor.Reads (front ++ back)) :
    cursor.position + Text.byteLength front ≤ wordLimit := by
  have far := reads.windowEnd_eq
  have fits := reads.fits
  rw [Text.byteLength_append] at far
  omega

theorem remaining (reads : cursor.Reads text) :
    cursor.remaining = .ok text :=
  slice_of_slice? reads.window

theorem current (reads : cursor.Reads text) :
    cursor.current = .ok text.head? := by
  rw [Cursor.current, reads.remaining]
  rfl

theorem isFinished_iff (reads : cursor.Reads text) :
    cursor.isFinished ↔ text = [] := by
  have far := reads.windowEnd_eq
  rw [isFinished, decide_eq_true_iff]
  constructor
  · intro finished
    apply Text.eq_nil_of_byteLength_eq_zero
    omega
  · rintro rfl
    exact Nat.le_of_eq far

theorem bump {character : Char} {rest : Text}
    (reads : cursor.Reads (character :: rest)) :
    cursor.bump character = .ok (cursor.skip [character]) := by
  have fits : cursor.position + character.utf8Size ≤ wordLimit := by
    have bound := @position_le cursor [character] rest reads
    simpa using bound
  rw [Cursor.bump, reads.current, List.head?_cons]
  simp only [bind, Except.bind, require_of, checkedAdd_of_le fits]
  simp [Cursor.skip, pure, Except.pure]

/-- The line ends where its first terminator is found among the bytes. -/
theorem eatUntilLineEnd (reads : cursor.Reads text) :
    cursor.eatUntilLineEnd =
      .ok { cursor with position := cursor.position + Text.lineBytes text } := by
  have far := reads.windowEnd_eq
  have fits := reads.fits
  have bytes := Text.length_utf8 text
  have within := Text.lineBytes_le text
  rw [Cursor.eatUntilLineEnd, reads.remaining]
  simp only [bind, Except.bind]
  split
  · rw [checkedAdd_of_le (by omega)]
    rfl
  · have same : cursor.windowEnd = cursor.position + Text.lineBytes text := by
      omega
    rw [same]
    rfl

end Reads

/-! ## Where the operations lead -/

variable {next : Cursor}

/-- What remains is what the buffer has up to the end of the window. -/
theorem slice?_of_remaining (left : cursor.remaining = .ok text) :
    Text.slice? cursor.buffer cursor.position cursor.windowEnd =
      some text := by
  rcases bind_eq_ok left with ⟨_, -, cut⟩
  split at cut
  · rename_i other window
    cases cut
    exact window
  · cases cut

/-- There is something to read where the window has not ended. -/
theorem exists_of_current {character : Char}
    (found : cursor.current = .ok (some character)) :
    ∃ rest, Text.slice? cursor.buffer cursor.position cursor.windowEnd =
      some (character :: rest) := by
  rcases bind_eq_ok found with ⟨text, left, first⟩
  rcases List.head?_eq_some_iff.mp (Except.ok.inj first) with ⟨rest, rfl⟩
  exact ⟨rest, slice?_of_remaining left⟩

/-- Moving behind a character moves on in the window. -/
theorem position_lt_of_bump {character : Char}
    (bumped : cursor.bump character = .ok next) :
    next.windowEnd = cursor.windowEnd ∧
      cursor.position < next.position ∧
      cursor.position < cursor.windowEnd := by
  rcases bind_eq_ok bumped with ⟨current, found, more⟩
  rcases bind_eq_ok more with ⟨_, same, rest⟩
  rcases bind_eq_ok rest with ⟨position, added, moved⟩
  cases moved
  rw [require_eq_ok same] at found
  rcases exists_of_current found with ⟨remaining, window⟩
  have far := (Text.bounds_of_slice? window).2.2.1
  have positive := character.utf8Size_pos
  have sum := eq_of_checkedAdd added
  rw [Text.byteLength_cons] at far
  refine ⟨rfl, ?_⟩
  show cursor.position < position ∧ cursor.position < cursor.windowEnd
  omega

/-- Looking for the end of the line never moves back. -/
theorem position_le_of_eatUntilLineEnd
    (eaten : cursor.eatUntilLineEnd = .ok next) :
    next.windowEnd = cursor.windowEnd ∧
      cursor.position ≤ next.position := by
  rcases bind_eq_ok eaten with ⟨text, sliced, more⟩
  split at more
  · rcases bind_eq_ok more with ⟨position, added, moved⟩
    cases moved
    refine ⟨rfl, ?_⟩
    show cursor.position ≤ position
    rw [eq_of_checkedAdd added]
    exact Nat.le_add_right _ _
  · rcases bind_eq_ok sliced with ⟨_, ordered, -⟩
    cases more
    exact ⟨rfl, require_eq_ok ordered⟩

end Cursor

end CommentScan
