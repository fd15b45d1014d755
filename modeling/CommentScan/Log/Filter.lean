import CommentScan.Log

/-!
# Filters of the log

A filter decides which events are written.  It is a list of directives, each
of which sets the most detailed level for the targets that begin with a given
text.  For an event the directive with the longest such beginning counts, and
among equals the last one.  An event to which no directive applies is not
written.

A filter is read from a text with directives between commas.  A directive is a
level, which holds for every target, or a target with a level behind an equals
sign, or a target alone, of which everything is written.
-/

namespace CommentScan.Log

/-- The most detailed rank of level that is written for some targets. -/
structure Directive where
  target : Text
  limit : Nat
  deriving DecidableEq, Repr

/-- The directives that decide which events are written. -/
structure Filter where
  directives : List Directive
  deriving DecidableEq, Repr

namespace Directive

/-- Whether a directive says something about an event. -/
def appliesTo (directive : Directive) (event : Event) : Bool :=
  directive.target.isPrefixOf event.target.toList

/-- The rank that a word or a digit for a level stands for. -/
def rank? (text : Text) : Option Nat :=
  match String.ofList (text.map Char.toLower) with
  | "off" | "0" => some 0
  | "error" | "1" => some 1
  | "warn" | "2" => some 2
  | "info" | "3" => some 3
  | "debug" | "4" => some 4
  | "trace" | "5" => some 5
  | _ => none

/-- The directive that a text spells, if its level is one. -/
def ofText? (text : Text) : Option Directive :=
  let target := text.takeWhile fun character => character != '='
  match text.dropWhile fun character => character != '=' with
  | [] => some ((rank? text).elim ⟨target, Level.trace.rank⟩ (⟨[], ·⟩))
  | ['='] => some ⟨target, Level.trace.rank⟩
  | _ :: level => (rank? level).map (⟨target, ·⟩)

/-- The more specific of two directives, where the second wins a tie. -/
def moreSpecific (first second : Directive) : Directive :=
  if first.target.length ≤ second.target.length then second else first

end Directive

namespace Filter

/-- The filter that lets nothing through. -/
def silent : Filter :=
  ⟨[]⟩

/-- The pieces of a text between commas. -/
def pieces (text : Text) : List Text :=
  text.foldr
    (fun character pieces =>
      if character = ',' then
        [] :: pieces
      else
        match pieces with
        | piece :: rest => (character :: piece) :: rest
        | [] => [[character]])
    [[]]

/--
The filter that a text spells.  Empty pieces mean nothing, and without any
directive only errors are written.
-/
def ofText (text : Text) : Filter :=
  match (pieces text).filter fun piece => !piece.isEmpty with
  | [] => ⟨[⟨[], Level.error.rank⟩]⟩
  | pieces => ⟨pieces.filterMap Directive.ofText?⟩

/-- The directive that counts for an event. -/
def directiveFor? (filter : Filter) (event : Event) : Option Directive :=
  (filter.directives.filter fun directive => directive.appliesTo event).foldl
    (fun best directive =>
      some (best.elim directive (Directive.moreSpecific · directive)))
    none

/-- Whether an event is written. -/
def admits (filter : Filter) (event : Event) : Bool :=
  match filter.directiveFor? event with
  | some directive => event.level.rank ≤ directive.limit
  | none => false

/-- The lines of the events that are written. -/
def render (filter : Filter) (events : List Event) : Text :=
  Text.lines ((events.filter filter.admits).map Event.render)

instance : CoeFun Filter fun _ => List Event → Text :=
  ⟨render⟩

end Filter

end CommentScan.Log
