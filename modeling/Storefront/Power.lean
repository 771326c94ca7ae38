/-!
# Powers of two and ten

The two bases that the number formats of this library are built on: words and coefficients are bounded
by powers of two, and decimal scales count powers of ten.
-/
namespace Storefront

abbrev pow2 (n : Nat) : Nat := Nat.pow 2 n

/-- Ten to the power `n`: the denominator of a decimal with `n` places. -/
abbrev pow10 (n : Nat) : Nat := Nat.pow 10 n

theorem pow10_pos (n : Nat) : 0 < pow10 n := Nat.pow_pos (by decide)

end Storefront
