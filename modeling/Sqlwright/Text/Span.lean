/-!
# Character classes as boundary lists

A class of characters is a union of intervals of code points. Its boundary list
names, in increasing order, the first code point of each interval and the first
one after it. A code point lies in the class exactly when an odd number of
boundaries is at or below it.
-/

namespace Sqlwright.Text

/-- Membership in the class with the given increasing boundaries. -/
def within (boundaries : List Nat) (point : Nat) : Bool :=
  (boundaries.takeWhile (· ≤ point)).length % 2 == 1

end Sqlwright.Text
