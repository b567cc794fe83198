import Mathlib

/-!
# Powers by repeated squaring

The loop that goes through the bits of the exponent, the lowest first, squares
the base in every round and multiplies it to the accumulator where the bit is
set. It needs a multiplication only, so that machine words can run it; what it
computes is said where the multiplication is associative.
-/

namespace TopicBroker

universe u v

def powLoop {α : Type u} [Mul α] : Nat → α → Nat → α → α
  | 0, _, _, total => total
  | rounds + 1, base, exp, total =>
      if exp ≠ 0 then
        powLoop rounds (base * base) (exp / 2) (if exp % 2 = 1 then total * base else total)
      else total

/-- One round for each bit of the exponent is enough. -/
theorem powLoop_eq {α : Type u} [Monoid α] {rounds exp : Nat} (enough : exp < 2 ^ rounds)
    (base total : α) : powLoop rounds base exp total = total * base ^ exp := by
  induction rounds generalizing exp base total with
  | zero =>
      have none_left : exp = 0 := by omega
      rw [none_left, pow_zero, mul_one, powLoop]
  | succ rounds ih =>
      rw [powLoop]
      split
      · have halved : exp / 2 < 2 ^ rounds := by
          rw [Nat.pow_succ] at enough
          omega
        rw [ih halved, ← pow_two, ← pow_mul]
        split
        · rename_i odd
          have parts : exp = 1 + 2 * (exp / 2) := by omega
          conv_rhs => rw [parts, pow_add, pow_one, ← mul_assoc]
        · rename_i even
          have parts : exp = 2 * (exp / 2) := by omega
          conv_rhs => rw [parts]
      · rename_i ended
        rw [not_not.mp ended, pow_zero, mul_one]

/-- A map that keeps products carries the loop from one type to the other. -/
theorem map_powLoop {α : Type u} {β : Type v} [Mul α] [Mul β] {f : α → β}
    (product : ∀ x y, f (x * y) = f x * f y) (rounds : Nat) (base : α) (exp : Nat) (total : α) :
    f (powLoop rounds base exp total) = powLoop rounds (f base) exp (f total) := by
  induction rounds generalizing base exp total with
  | zero => rfl
  | succ rounds ih =>
      rw [powLoop, powLoop]
      split
      · rw [ih, product]
        split
        · rw [product]
        · rfl
      · rfl

end TopicBroker
