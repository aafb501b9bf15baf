/-! Exact arithmetic behind roundings and bounds: powers of two and ten, quotients rounded to nearest,
and the integers that machine words hold. -/
namespace ScriptHost

/-- The power of two with an exponent, or one if the exponent is negative. -/
def pow2 (e : Int) : Nat := Nat.pow 2 e.toNat

/-- The power of ten with an exponent, or one if the exponent is negative. -/
def pow10 (e : Int) : Nat := Nat.pow 10 e.toNat

/-- The quotient of natural numbers, rounded to nearest with ties to even. -/
def roundDiv (num den : Nat) : Nat :=
  let quotient := num / den
  let rest := num % den
  if den < 2 * rest ∨ (den = 2 * rest ∧ quotient % 2 = 1) then quotient + 1 else quotient

/-- The quotient of an integer by a natural number, rounded to nearest with ties to even. -/
def roundDivInt (num : Int) (den : Nat) : Int :=
  let quotient := num.fdiv den
  let rest := num - quotient * den
  if den < 2 * rest ∨ (den = 2 * rest ∧ quotient % 2 = 1) then quotient + 1 else quotient

/-- Whether a signed word of 64 bits holds an integer. -/
def FitsWord (n : Int) : Prop := -0x8000000000000000 ≤ n ∧ n < 0x8000000000000000

instance (n : Int) : Decidable (FitsWord n) := inferInstanceAs (Decidable (_ ∧ _))

/-- Whether a signed word of 32 bits holds an integer. -/
def FitsHalfWord (n : Int) : Prop := -0x80000000 ≤ n ∧ n < 0x80000000

instance (n : Int) : Decidable (FitsHalfWord n) := inferInstanceAs (Decidable (_ ∧ _))

end ScriptHost
