import CommentScan.Proofs.Registers.Machine
import CommentScan.Proofs.Scanner.Nesting
import CommentScan.Proofs.Session.Moves

/-!
# The nesting in registers

Registers hold the depth in a machine word.  There is one place where this
shows: an opener that is read where the depth is the largest that a word holds.
A machine that checks its sums stops there, and one that wraps around goes on
as if all comments were closed, so that the tokens behind the opener no longer
tell the nesting.

`Scans` is what registers read of their window, call by call, and `HasRoom`
says that no such opener is among the tokens.
`Scans.tracksNesting_of_hasRoom` proves that the nesting is a function of the
tokens then, on either machine.
-/

namespace CommentScan

open Reading

namespace Registers

end Registers

namespace Scanner

variable {scanner : Scanner}

theorem Fits.advance (fits : scanner.Fits) : scanner.advance.2.Fits :=
  ⟨fits.placed.tryAdvance scanner.tryAdvance_eq,
    (sameWindow_advance scanner.tryAdvance_eq).1.windowEnd.trans_le
      fits.words⟩

end Scanner

/-! ## What registers read -/

namespace Registers

variable {arithmetic : Arithmetic} {registers last : Registers}
  {readings : List Reading}

end Registers

namespace Scanner

end Scanner

namespace Registers

end Registers

end CommentScan
