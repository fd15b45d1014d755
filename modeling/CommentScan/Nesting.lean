import CommentScan.Token

/-!
# Nesting of comments

Block and doc comments nest.  While a source is scanned it is enough to know
how many comments are open and of which sort the outermost one is, since the
comments inside it are taken for the same sort.  Together with a byte offset
this is all that is needed to go on scanning later.
-/

namespace CommentScan

/-- Whether a place lies outside or inside a comment that nests. -/
inductive Mode where
  | outside
  | inside
  deriving DecidableEq, Repr

namespace Mode

/-- The name of a mode as one word. -/
def label : Mode → String
  | outside => "Initial"
  | inside => "InBlockComment"

end Mode

/--
The comments that are open at a place: their number, and the sort of the
outermost one.  When none is open, `kind` is the sort of the last comment that
was.
-/
structure Nesting where
  depth : Nat
  kind : CommentKind
  deriving DecidableEq, Repr

namespace Nesting

/-- The nesting at the start of a source. -/
def initial : Nesting :=
  ⟨0, .block⟩

/-- The nesting right behind the opener of an outermost comment. -/
def opened (kind : CommentKind) : Nesting :=
  ⟨1, kind⟩

/-- One more comment inside those already open. -/
def nest (nesting : Nesting) : Nesting :=
  ⟨nesting.depth + 1, nesting.kind⟩

/-- The innermost comment has ended. -/
def close (nesting : Nesting) : Nesting :=
  ⟨nesting.depth - 1, nesting.kind⟩

/-- The mode in which a place with this nesting is scanned. -/
def mode (nesting : Nesting) : Mode :=
  if nesting.depth = 0 then .outside else .inside

/-- The least nesting of a mode. -/
def ofMode : Mode → Nesting
  | .outside => initial
  | .inside => opened .block

@[simp]
theorem mode_ofMode (mode : Mode) : (ofMode mode).mode = mode := by
  cases mode <;> rfl

theorem mode_eq_outside_iff {nesting : Nesting} :
    nesting.mode = .outside ↔ nesting.depth = 0 := by
  unfold mode
  split <;> simp_all

end Nesting

/-- A place in a source and the comments that are open there. -/
structure ScanState where
  position : Nat
  nesting : Nesting
  deriving DecidableEq, Repr

namespace ScanState

/-- A place outside all comments. -/
def initial (position : Nat) : ScanState :=
  ⟨position, .initial⟩

/-- A place inside a comment, where at least one comment is open. -/
def insideComment (position depth : Nat) (kind : CommentKind) : ScanState :=
  ⟨position, max depth 1, kind⟩

/-- A place with the least nesting of a mode. -/
def ofMode (position : Nat) (mode : Mode) : ScanState :=
  ⟨position, .ofMode mode⟩

/-- The state at the start of a source. -/
def start : ScanState :=
  initial 0

/-- A state with its fields named. -/
def describe (state : ScanState) : String :=
  s!"ScanState \x7b position: {state.position}, depth: {state.nesting.depth}, " ++
    s!"kind: {state.nesting.kind.label} \x7d"

end ScanState

end CommentScan
