import Mathlib.Algebra.BigOperators.Group.List.Basic
import Mathlib.Algebra.Order.Group.Multiset

/-!
# Custody of resources

A program takes resources and gives them back, one deal after the other. What
it holds is a multiset, and giving back what is not held is a fault. Deals that
trade one holding for another do so whatever else is held; the rules are those
of sequence and of a frame.
-/

namespace TopicBroker

universe u v

/-- A call that obtains a resource, or one that ends its life. -/
inductive Deal (ρ : Type u) where
  | take (r : ρ)
  | give (r : ρ)
  deriving DecidableEq

@[ext] structure Custody (ρ : Type u) where
  held : Multiset ρ
  /-- What was given back without being held, in its order. -/
  faults : List ρ

variable {ρ : Type u} [DecidableEq ρ]

namespace Custody

def deal (custody : Custody ρ) : Deal ρ → Custody ρ
  | .take r => { custody with held := r ::ₘ custody.held }
  | .give r =>
      if r ∈ custody.held then { custody with held := custody.held.erase r }
      else { custody with faults := custody.faults ++ [r] }

def after (custody : Custody ρ) : List (Deal ρ) → Custody ρ
  | [] => custody
  | deal :: deals => (custody.deal deal).after deals

theorem after_append (custody : Custody ρ) (first second : List (Deal ρ)) :
    custody.after (first ++ second) = (custody.after first).after second := by
  induction first generalizing custody with
  | nil => rfl
  | cons deal deals ih => exact ih (custody.deal deal)

/-- A resource that is not held is given back once more. -/
theorem deal_absent {custody : Custody ρ} {r : ρ} (absent : r ∉ custody.held) :
    custody.deal (.give r) = ⟨custody.held, custody.faults ++ [r]⟩ := if_neg absent

end Custody

/-- The deals trade one holding for the other without a fault, whatever else is held. -/
def Trades (deals : List (Deal ρ)) (before after : Multiset ρ) : Prop :=
  ∀ frame faults, Custody.after ⟨before + frame, faults⟩ deals = ⟨after + frame, faults⟩

namespace Trades

variable {first second : List (Deal ρ)} {p q r s : Multiset ρ}

theorem nil (p : Multiset ρ) : Trades [] p p := fun _ _ => rfl

theorem take (r : ρ) : Trades [.take r] 0 {r} := by
  intro frame faults
  rw [zero_add, Multiset.singleton_add]
  rfl

theorem give (r : ρ) : Trades [.give r] {r} 0 := by
  intro frame faults
  have held : r ∈ ({r} : Multiset ρ) + frame := by simp
  rw [Custody.after, Custody.deal, if_pos held, zero_add, Multiset.singleton_add,
    Multiset.erase_cons_head]
  rfl

theorem append (leads : Trades first p q) (ends : Trades second q r) :
    Trades (first ++ second) p r := by
  intro frame faults
  rw [Custody.after_append, leads, ends]

/-- The rule of the frame. -/
theorem frame (trades : Trades first p q) (beside : Multiset ρ) :
    Trades first (p + beside) (q + beside) := by
  intro frame faults
  rw [add_assoc, add_assoc]
  exact trades (beside + frame) faults

theorem of_eq (trades : Trades first p q) (before : p = r) (after : q = s) :
    Trades first r s := before ▸ after ▸ trades

/-- Two lists of deals that have nothing to do with each other. -/
theorem beside (leads : Trades first p q) (ends : Trades second r s) :
    Trades (first ++ second) (p + r) (q + s) :=
  (leads.frame r).append ((ends.frame q).of_eq (add_comm r q) (add_comm s q))

/-- Something is taken in front. -/
theorem taking (x : ρ) (trades : Trades first (x ::ₘ p) q) : Trades (.take x :: first) p q :=
  (((take x).frame p).of_eq (zero_add p) (Multiset.singleton_add x p)).append trades

/-- Something is given back in front. -/
theorem giving (x : ρ) (trades : Trades first p q) : Trades (.give x :: first) (x ::ₘ p) q :=
  (((give x).frame p).of_eq (Multiset.singleton_add x p) (zero_add p)).append trades

/-- What came last is given back. -/
theorem back (r : ρ) (p : Multiset ρ) : Trades [.give r] (p + {r}) p :=
  ((give r).frame p).of_eq (add_comm _ p) (zero_add p)

/-- One resource after the other is taken. -/
theorem takes (rs : List ρ) (p : Multiset ρ) : Trades (rs.map .take) p (p + rs) := by
  induction rs generalizing p with
  | nil => exact (nil p).of_eq rfl (add_zero p).symm
  | cons r rs ih =>
      have held : (r ::ₘ p) + (rs : Multiset ρ) = p + ((r :: rs : List ρ) : Multiset ρ) := by
        rw [Multiset.cons_add, ← Multiset.cons_coe, Multiset.add_cons]
      exact ((ih (r ::ₘ p)).taking r).of_eq rfl held

/-- One resource after the other is given back. -/
theorem gives (rs : List ρ) : Trades (rs.map .give) (rs : Multiset ρ) 0 := by
  induction rs with
  | nil => exact nil 0
  | cons r rs ih => exact ih.giving r

/-- What is taken is given back. -/
theorem returned (rs : List ρ) (p : Multiset ρ) : Trades (rs.map .take ++ rs.map .give) p p :=
  (takes rs p).append (((gives rs).frame p).of_eq (add_comm _ p) (zero_add p))

/-- A loop in which each round gives up what belongs to its element. -/
theorem flatMap {α : Type v} {xs : List α} {deals : α → List (Deal ρ)} {holding : α → Multiset ρ}
    (round : ∀ x ∈ xs, Trades (deals x) (holding x) 0) :
    Trades (xs.flatMap deals) (xs.map holding).sum 0 := by
  induction xs with
  | nil => exact nil 0
  | cons x xs ih =>
      have here := round x List.mem_cons_self
      have rest := ih fun other member => round other (List.mem_cons_of_mem x member)
      exact (here.beside rest).of_eq List.sum_cons.symm (add_zero 0)

end Trades

/-- The deals lead from one holding to the other, with the given faults, when
nothing else is held. -/
def Leads (deals : List (Deal ρ)) (before : Multiset ρ) (faults : List ρ) (after : Multiset ρ) :
    Prop :=
  ∀ earlier, Custody.after ⟨before, earlier⟩ deals = ⟨after, earlier ++ faults⟩

theorem Trades.leads {deals : List (Deal ρ)} {p q : Multiset ρ} (trades : Trades deals p q) :
    Leads deals p [] q := by
  intro earlier
  simpa only [add_zero, List.append_nil] using trades 0 earlier

namespace Leads

variable {first second : List (Deal ρ)} {p q r : Multiset ρ} {wrong worse : List ρ}

theorem append (leads : Leads first p wrong q) (ends : Leads second q worse r) :
    Leads (first ++ second) p (wrong ++ worse) r := by
  intro earlier
  rw [Custody.after_append, leads, ends, List.append_assoc]

/-- What is given back once more changes nothing that is held. -/
theorem again {rs : List ρ} (absent : ∀ r ∈ rs, r ∉ p) : Leads (rs.map .give) p rs p := by
  induction rs with
  | nil => exact (Trades.nil p).leads
  | cons r rs ih =>
      have once : Leads [.give r] p [r] p := fun earlier =>
        Custody.deal_absent (absent r List.mem_cons_self)
      exact once.append (ih fun other member => absent other (List.mem_cons_of_mem r member))

end Leads

end TopicBroker
