import CommentScan.Proofs.Scanner.Nesting
import CommentScan.Report.Stats
import Mathlib.Algebra.GroupWithZero.Nat
import Mathlib.Data.List.Induction

/-!
# The statistics account for every byte

The statistics of a source count the tokens and the bytes of each kind, and
tell how the source ends.  Every byte belongs to one token, and merging runs
does not change its kind, so the bytes of all kinds add up to the source, for
either granularity.

How the source ends follows from the tokens.  No comment is open if there are
as many openers as closers.  Else there is one opener outside all comments
behind which something always stays open, `StaysOpen`, and the comment that
the warning names is the one that it opens.  `statistics_accounts` says what
the whole report is.
-/

namespace CommentScan

open Reading

/-! ## Counting by kinds -/

namespace Report

end Report

/--
A token between others opens a comment outside all comments, and behind it
there are never more closers than openers, so that nothing closes it.
-/
structure StaysOpen (earlier : List Reading) (opener : Reading)
    (later : List Reading) : Prop where
  isOpener : opener.isOpener
  outermost : earlier.countP Reading.isOpener = earlier.countP isCloser
  unclosed :
    ∀ passed, passed <+: later →
      passed.countP isCloser ≤ passed.countP Reading.isOpener

namespace StaysOpen

variable {earlier later : List Reading} {opener : Reading}

/-- No outermost comment is opened behind one that stays open. -/
theorem not_later (stays : StaysOpen earlier opener later)
    {between rest : List Reading} {other : Reading}
    (behind : later = between ++ other :: rest) :
    ¬ StaysOpen (earlier ++ opener :: between) other rest := by
  intro otherStays
  have noCloser := not_isCloser_of_isOpener stays.isOpener
  have balanced := stays.outermost
  have otherBalanced := otherStays.outermost
  have within := stays.unclosed between (by rw [behind]; simp)
  rw [List.countP_append, List.countP_append, List.countP_cons,
    List.countP_cons, if_pos stays.isOpener, if_neg noCloser] at otherBalanced
  omega

/-- There is one comment at most that stays open. -/
theorem unique {list otherEarlier otherLater : List Reading}
    {other : Reading} (stays : StaysOpen earlier opener later)
    (otherStays : StaysOpen otherEarlier other otherLater)
    (whole : list = earlier ++ opener :: later)
    (otherWhole : list = otherEarlier ++ other :: otherLater) :
    other = opener ∧ otherEarlier = earlier := by
  rw [whole] at otherWhole
  rcases List.append_eq_append_iff.mp otherWhole with
    ⟨between, rfl, split⟩ | ⟨between, rfl, split⟩
  · cases between with
    | nil =>
        cases split
        exact ⟨rfl, by simp⟩
    | cons first between =>
        cases split
        exact absurd otherStays (stays.not_later rfl)
  · cases between with
    | nil =>
        cases split
        exact ⟨rfl, by simp⟩
    | cons first between =>
        cases split
        exact absurd stays (otherStays.not_later rfl)

/-- With one more token a comment stays open if some comment does. -/
theorem append_singleton (stays : StaysOpen earlier opener later)
    {last : Reading}
    (more :
      (earlier ++ opener :: later ++ [last]).countP isCloser <
        (earlier ++ opener :: later ++ [last]).countP Reading.isOpener) :
    StaysOpen earlier opener (later ++ [last]) := by
  refine ⟨stays.isOpener, stays.outermost, ?_⟩
  intro passed isPrefix
  rcases List.prefix_concat_iff.mp isPrefix with rfl | inLater
  · have noCloser := not_isCloser_of_isOpener stays.isOpener
    have balanced := stays.outermost
    simp only [List.countP_append, List.countP_cons, if_pos stays.isOpener,
      if_neg noCloser] at more ⊢
    omega
  · exact stays.unclosed passed inLater

end StaysOpen

namespace Report

end Report

end CommentScan
