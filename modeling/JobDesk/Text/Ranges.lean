/-!
# Ranges — sets of characters as tables

A table lists ranges of code points, both ends included, in increasing order.  A code point is
looked up by halving the part of the table that can still hold it.
-/

namespace JobDesk.Text

/-- Whether a code point lies in one of the ranges from number `low` up to, but without, `high`;
each round halves their number. -/
def inRangesBetween (ranges : Array (Nat × Nat)) (code : Nat) : (rounds low high : Nat) → Bool
  | 0, _, _ => false
  | rounds + 1, low, high =>
    if high ≤ low then false
    else
      let middle := (low + high) / 2
      let (first, last) := ranges.getD middle (0, 0)
      if code < first then inRangesBetween ranges code rounds low middle
      else if last < code then inRangesBetween ranges code rounds (middle + 1) high
      else true

def inRanges (ranges : Array (Nat × Nat)) (code : Nat) : Bool :=
  inRangesBetween ranges code (ranges.size.log2 + 2) 0 ranges.size

end JobDesk.Text
