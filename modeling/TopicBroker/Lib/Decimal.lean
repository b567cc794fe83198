import TopicBroker.Lib.Bytes

/-!
# Numerals

What `printf` writes for `%d`, `%hu` and `%.*f`. A `double` that came out of
one division of two integers below `2^53` is kept as that division: its value
is the quotient rounded to the nearest 53-bit significand, ties to even, and
`%.*f` prints the value rounded once more, at the asked decimal place.
-/

namespace TopicBroker

def decimal (n : Nat) : Bytes := (Nat.toDigits 10 n).map fun c => c.toNat.toUInt8

theorem decimal_length_le {n places : Nat} (positive : 0 < places) (small : n < 10 ^ places) :
    (decimal n).length ≤ places := by
  rw [decimal, List.length_map]
  exact (Nat.length_toDigits_le_iff (by decide) positive).mpr small

/-- A numeral has no NUL, so it can stand in a C string. -/
theorem decimal_nulFree (n : Nat) : NulFree (decimal n) := by
  intro byte member
  obtain ⟨c, digit, rfl⟩ := List.mem_map.mp member
  have decimalDigit := Nat.isDigit_of_mem_toDigits (by decide) (by decide) digit
  intro zero
  have value := congrArg UInt8.toNat zero
  simp only [Char.isDigit, Bool.and_eq_true, decide_eq_true_eq] at decimalDigit
  have low : 48 ≤ c.toNat := decimalDigit.1
  have high : c.toNat ≤ 57 := decimalDigit.2
  rw [Nat.toUInt8_eq, UInt8.toNat_ofNat', UInt8.toNat_zero] at value
  omega

def signedDecimal (z : Int) : Bytes :=
  if z < 0 then ascii "-" ++ decimal z.natAbs else decimal z.natAbs

theorem signedDecimal_nulFree (z : Int) : NulFree (signedDecimal z) := by
  unfold signedDecimal
  split
  · exact .append (by decide +kernel) (decimal_nulFree _)
  · exact decimal_nulFree _

theorem signedDecimal_length_le {z : Int} {places : Nat} (positive : 0 < places)
    (small : z.natAbs < 10 ^ places) : (signedDecimal z).length ≤ places + 1 := by
  have digits := decimal_length_le positive small
  have sign : (ascii "-").length = 1 := by decide
  unfold signedDecimal
  split
  · rw [List.length_append, sign]
    omega
  · omega

/-- The integer nearest to `n / d`, ties to even. -/
def divHalfEven (n d : Nat) : Nat :=
  let quotient := n / d
  let rest := n % d
  if 2 * rest < d ∨ (2 * rest = d ∧ quotient % 2 = 0) then quotient else quotient + 1

theorem divHalfEven_le (n d : Nat) : divHalfEven n d ≤ n / d + 1 := by
  unfold divHalfEven
  dsimp only
  split <;> omega

/-- `significand / 2 ^ scale` is the double nearest to `n / d`. -/
def nearestDouble (n d : Nat) : Nat × Nat :=
  if n = 0 then (0, 0)
  else
    let wide := 53 + d.log2 - n.log2
    let scale := if 2 ^ 53 ≤ n * 2 ^ wide / d then wide - 1 else wide
    (divHalfEven (n * 2 ^ scale) d, scale)

/-- The nearest double of a quotient is above its numerator by less than two. -/
theorem nearestDouble_lt {num bound : Nat} (den : Nat) (small : num ≤ bound) :
    (nearestDouble num den).1 < (bound + 1 + 1) * 2 ^ (nearestDouble num den).2 := by
  unfold nearestDouble
  split
  · exact Nat.mul_pos (Nat.succ_pos _) Nat.one_pos
  · dsimp only
    generalize (if 2 ^ 53 ≤ num * 2 ^ (53 + den.log2 - num.log2) / den then
      53 + den.log2 - num.log2 - 1 else 53 + den.log2 - num.log2) = scale
    have unit : 0 < 2 ^ scale := Nat.pow_pos (by decide)
    have rounded := divHalfEven_le (num * 2 ^ scale) den
    have below : num * 2 ^ scale / den ≤ bound * 2 ^ scale :=
      Nat.le_trans (Nat.div_le_self _ _) (Nat.mul_le_mul_right _ small)
    calc divHalfEven (num * 2 ^ scale) den ≤ bound * 2 ^ scale + 1 := by omega
      _ < bound * 2 ^ scale + 2 * 2 ^ scale := by omega
      _ = (bound + 1 + 1) * 2 ^ scale := by ring

/-- `n / d` with `places` digits behind the point. -/
def fixedPoint (places n d : Nat) : Bytes :=
  let scaled := divHalfEven (n * 10 ^ places) d
  let fraction := decimal (scaled % 10 ^ places)
  decimal (scaled / 10 ^ places) ++ ascii "." ++
    List.replicate (places - fraction.length) 48 ++ fraction

theorem fixedPoint_nulFree (places n d : Nat) : NulFree (fixedPoint places n d) := by
  have zeros : ∀ count, NulFree (List.replicate count (48 : UInt8)) := by
    intro count byte member
    rw [List.eq_of_mem_replicate member]
    decide
  exact .append (.append (.append (decimal_nulFree _) (by decide +kernel)) (zeros _))
    (decimal_nulFree _)

/-- A number up to a bound needs the digits of the next number; rounding adds no more. -/
theorem fixedPoint_length_le {places n d bound digits : Nat} (some_places : 0 < places)
    (some_digits : 0 < digits) (positive : 0 < d) (small : n < (bound + 1) * d)
    (room : bound + 1 < 10 ^ digits) :
    (fixedPoint places n d).length ≤ digits + 1 + places := by
  have unit : 0 < 10 ^ places := Nat.pow_pos (by decide)
  have rounded := divHalfEven_le (n * 10 ^ places) d
  have below : n * 10 ^ places / d < (bound + 1) * 10 ^ places := by
    rw [Nat.div_lt_iff_lt_mul positive]
    calc n * 10 ^ places < (bound + 1) * d * 10 ^ places := Nat.mul_lt_mul_of_pos_right small unit
      _ = (bound + 1) * 10 ^ places * d := by ring
  have whole : divHalfEven (n * 10 ^ places) d / 10 ^ places < 10 ^ digits := by
    refine Nat.lt_of_le_of_lt (Nat.div_le_of_le_mul ?_) room
    rw [Nat.mul_comm (10 ^ places)]
    omega
  have front := decimal_length_le some_digits whole
  have back := decimal_length_le some_places (Nat.mod_lt (divHalfEven (n * 10 ^ places) d) unit)
  have point : (ascii ".").length = 1 := by decide
  simp only [fixedPoint, List.length_append, List.length_replicate, point]
  omega

/-- A `double` computed as `num / den` and negated when `neg`; a zero divisor
gives an infinity or, with a zero dividend, a NaN. -/
structure Quotient where
  neg : Bool
  num : Nat
  den : Nat
  deriving DecidableEq, Repr

namespace Quotient

/-- The division `num / den` of two non-negative numbers. -/
def of (num den : Nat) : Quotient := ⟨false, num, den⟩

/-- Multiplication by `-1.0`. -/
def negate (value : Quotient) : Quotient := { value with neg := !value.neg }

/-- The sign of a number that is printed. -/
def minus (neg : Bool) : Bytes := if neg then ascii "-" else []

theorem minus_nulFree (neg : Bool) : NulFree (minus neg) := by
  cases neg <;> decide +kernel

theorem minus_length_le (neg : Bool) : (minus neg).length ≤ 1 := by
  cases neg <;> decide

/-- `%.*f` with `places` for the star. The NaN that x86-64 makes of `0.0 / 0.0`
has its sign bit set, and the negated one has not. -/
def print (places : Nat) (value : Quotient) : Bytes :=
  if value.den = 0 then
    if value.num = 0 then minus (!value.neg) ++ ascii "nan" else minus value.neg ++ ascii "inf"
  else
    let double := nearestDouble value.num value.den
    minus value.neg ++ fixedPoint places double.1 (2 ^ double.2)

theorem print_nulFree (places : Nat) (value : Quotient) : NulFree (value.print places) := by
  unfold print
  split
  · split
    · exact .append (minus_nulFree _) (by decide +kernel)
    · exact .append (minus_nulFree _) (by decide +kernel)
  · exact .append (minus_nulFree _) (fixedPoint_nulFree _ _ _)

/-- The sign, ten digits, the point and the places behind it. -/
theorem print_length_le {places : Nat} (some_places : 0 < places) {value : Quotient}
    (small : value.num < 2 ^ 32) : (value.print places).length ≤ 12 + places := by
  have sign := minus_length_le value.neg
  have nan : (ascii "nan").length = 3 := by decide
  have inf : (ascii "inf").length = 3 := by decide
  unfold print
  split
  · split
    · have other := minus_length_le (!value.neg)
      rw [List.length_append, nan]
      omega
    · rw [List.length_append, inf]
      omega
  · have double := nearestDouble_lt value.den (Nat.le_of_lt small)
    have digits : (fixedPoint places _ _).length ≤ 10 + 1 + places :=
      fixedPoint_length_le some_places (by decide) (Nat.pow_pos (by decide)) double (by decide)
    dsimp only
    rw [List.length_append]
    omega

end Quotient

example : (Quotient.of 12344321 10000).print 6 = ascii "1234.432100" := by decide
example : (Quotient.of 65505 100).print 2 = ascii "655.05" := by decide
example : (Quotient.of 0 0).print 6 = ascii "-nan" := by decide
example : (Quotient.of 0 0).negate.print 6 = ascii "nan" := by decide

end TopicBroker
