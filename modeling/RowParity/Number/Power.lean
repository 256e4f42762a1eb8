/-!
# Powers of two and ten

The bases of the two number systems in use, binary for machine words and floating point, decimal for
texts.
-/

namespace RowParity.Number

abbrev twoTo (n : Nat) : Nat := Nat.pow 2 n

abbrev tenTo (n : Nat) : Nat := Nat.pow 10 n

end RowParity.Number
