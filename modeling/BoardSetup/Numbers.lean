/-!
# Powers and sums of numbers

The programs compute with the core library's powers of naturals and integers and with its sums of
lists of naturals. The instances here name those outright, with a priority above the default, and
the power also as a default instance, which settles the type of a literal exponent. A definition
written with `^` or `List.sum` is then the same term whether or not Mathlib, whose monoid powers
and zeros would otherwise be found first, is loaded beside it.
-/

namespace BoardSetup

/-- A power by a natural, for naturals and integers and any other type with the core library's
`NatPow`: its repeated multiplication. -/
@[default_instance high + 1]
instance (priority := 1100) natPow {α : Type} [NatPow α] : Pow α Nat := instPowNat

/-- The zero a sum of naturals starts from: the literal `0`. -/
instance (priority := 1100) natZero : Zero Nat := Zero.ofOfNat0

end BoardSetup
