import Mathlib.Data.List.Basic
import Mathlib.Order.Basic

/-!
# Loops

A loop is the condition that is tested before every round and the body that is
then executed. It passes through the states in which the condition was found to
hold and leaves in the first one in which it does not. A loop that is cut off
after a number of rounds leaves in the same state once it is given enough.
-/

namespace TopicBroker

universe u

structure Loop (σ : Type u) where
  guard : σ → Prop
  body : σ → σ

namespace Loop

variable {σ : Type u}

/-- Started in the first state the loop passes through the listed ones and
leaves in the last one. -/
inductive Exits (loop : Loop σ) : σ → List σ → σ → Prop where
  | leave (s : σ) (ended : ¬ loop.guard s) : Exits loop s [] s
  | round {passed : List σ} {last : σ} (s : σ) (goes : loop.guard s)
      (rest : Exits loop (loop.body s) passed last) : Exits loop s (s :: passed) last

variable {loop : Loop σ} {first last other : σ} {passed also : List σ}

/-- A loop leaves in one way only. -/
theorem Exits.unique (exits : loop.Exits first passed last)
    (again : loop.Exits first also other) : also = passed ∧ other = last := by
  induction exits generalizing also with
  | leave s ended =>
      cases again with
      | leave _ _ => exact ⟨rfl, rfl⟩
      | round _ goes _ => exact absurd goes ended
  | round s goes rest ih =>
      cases again with
      | leave _ ended => exact absurd goes ended
      | round _ _ more =>
          obtain ⟨same, end_same⟩ := ih more
          exact ⟨congrArg _ same, end_same⟩

theorem Exits.ended (exits : loop.Exits first passed last) : ¬ loop.guard last := by
  induction exits with
  | leave s ended => exact ended
  | round s goes rest ih => exact ih

/-- An invariant of the body holds in every state of the run. -/
theorem Exits.invariant {I : σ → Prop} (start : I first)
    (kept : ∀ s, I s → loop.guard s → I (loop.body s)) (exits : loop.Exits first passed last) :
    (∀ s ∈ passed, I s ∧ loop.guard s) ∧ I last := by
  induction exits with
  | leave s ended => exact ⟨fun s member => absurd member List.not_mem_nil, start⟩
  | round s goes rest ih =>
      obtain ⟨later, finally_holds⟩ := ih (kept s start goes)
      refine ⟨?_, finally_holds⟩
      intro t member
      rcases List.mem_cons.mp member with rfl | behind
      · exact ⟨start, goes⟩
      · exact later t behind

theorem Exits.start (exits : loop.Exits first passed last) :
    (passed ++ [last])[0]? = some first := by
  cases exits <;> rfl

/-- Between a state and the next one lies one execution of the body. -/
theorem Exits.next (exits : loop.Exits first passed last) {count : Nat} {s t : σ}
    (here : passed[count]? = some s) (behind : (passed ++ [last])[count + 1]? = some t) :
    loop.guard s ∧ t = loop.body s := by
  induction exits generalizing count with
  | leave s ended => cases here
  | round s goes rest ih =>
      rw [List.cons_append, List.getElem?_cons_succ] at behind
      cases count with
      | zero =>
          cases here
          rw [rest.start] at behind
          exact ⟨goes, (Option.some.inj behind).symm⟩
      | succ count => exact ih here behind

/-- A bound on the rounds that are left, which each round lowers, is kept. -/
theorem exits_within (bound : Nat → σ → Prop) (spent : ∀ s, bound 0 s → ¬ loop.guard s)
    (lowered : ∀ rounds s, bound (rounds + 1) s → loop.guard s → bound rounds (loop.body s))
    {rounds : Nat} (start : bound rounds first) :
    ∃ passed last, loop.Exits first passed last ∧ passed.length ≤ rounds := by
  induction rounds generalizing first with
  | zero => exact ⟨[], first, .leave first (spent first start), Nat.le_refl 0⟩
  | succ rounds ih =>
      by_cases goes : loop.guard first
      · obtain ⟨passed, last, exits, short⟩ := ih (lowered rounds first start goes)
        exact ⟨first :: passed, last, .round first goes exits, Nat.succ_le_succ short⟩
      · exact ⟨[], first, .leave first goes, Nat.zero_le _⟩

/-! ## Cut off after a number of rounds -/

def cutOff (loop : Loop σ) [DecidablePred loop.guard] : Nat → σ → σ
  | 0, s => s
  | rounds + 1, s => if loop.guard s then loop.cutOff rounds (loop.body s) else s

theorem cutOff_ended [DecidablePred loop.guard] (ended : ¬ loop.guard first) (rounds : Nat) :
    loop.cutOff rounds first = first := by
  cases rounds with
  | zero => rfl
  | succ rounds => exact if_neg ended

theorem cutOff_round (loop : Loop σ) [DecidablePred loop.guard] (goes : loop.guard first)
    (rounds : Nat) :
    loop.cutOff (rounds + 1) first = loop.cutOff rounds (loop.body first) := if_pos goes

theorem Exits.cutOff [DecidablePred loop.guard] (exits : loop.Exits first passed last)
    {rounds : Nat} (enough : passed.length ≤ rounds) : loop.cutOff rounds first = last := by
  induction exits generalizing rounds with
  | leave s ended => exact cutOff_ended ended rounds
  | round s goes rest ih =>
      cases rounds with
      | zero => exact absurd enough (Nat.not_succ_le_zero _)
      | succ rounds =>
          rw [cutOff_round loop goes]
          exact ih (Nat.le_of_succ_le_succ enough)

end Loop

end TopicBroker
