/-!
# Powers

A power with a natural number as its exponent, of natural numbers and of integers. There are
several ways to read `b ^ n` once more of algebra is in scope; the one here goes before them, so
that it is the same in every module.
-/

namespace Proforma.Number

universe u

@[default_instance 20000]
instance (priority := 20000) natPower {α : Type u} [NatPow α] : Pow α Nat := instPowNat

end Proforma.Number
