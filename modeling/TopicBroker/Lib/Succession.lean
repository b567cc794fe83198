import Mathlib

/-!
# Histories that follow one another

Of several histories in a row only the last may still grow. Then what is added
to them stands behind all that was there before.
-/

namespace TopicBroker

universe u v

variable {α : Type u} {β : Type v} {xs : List α} {grows : α → Prop} {f g : α → List β}

/-- No element grows that has another one behind it. -/
def OnlyLast (grows : α → Prop) (xs : List α) : Prop := xs.Pairwise fun x _ => ¬ grows x

namespace OnlyLast

theorem tail {x : α} (last : OnlyLast grows (x :: xs)) : OnlyLast grows xs :=
  (List.pairwise_cons.mp last).2

theorem head {x y : α} (last : OnlyLast grows (x :: y :: xs)) : ¬ grows x :=
  (List.pairwise_cons.mp last).1 y List.mem_cons_self

theorem unique (last : OnlyLast grows xs) {x y : α} (first : x ∈ xs) (second : y ∈ xs)
    (growing : grows x) (also : grows y) : x = y := by
  induction xs with
  | nil => cases first
  | cons z xs ih =>
      have apart := (List.pairwise_cons.mp last).1
      rcases List.mem_cons.mp first with rfl | behind
      · rcases List.mem_cons.mp second with same | later
        · exact same.symm
        · exact absurd growing (apart y later)
      · rcases List.mem_cons.mp second with rfl | later
        · exact absurd also (apart x behind)
        · exact ih last.tail behind later

/-- What each element gets is behind what all of them had. -/
theorem flatMap_append (last : OnlyLast grows xs) (still : ∀ x ∈ xs, ¬ grows x → g x = []) :
    (xs.flatMap fun x => f x ++ g x) = xs.flatMap f ++ xs.flatMap g := by
  induction xs with
  | nil => rfl
  | cons x xs ih =>
      have later := ih last.tail fun y member => still y (List.mem_cons_of_mem _ member)
      cases xs with
      | nil => simp
      | cons y ys =>
          have nothing : g x = [] := still x List.mem_cons_self last.head
          calc
            ((x :: y :: ys).flatMap fun x => f x ++ g x)
              = (f x ++ g x) ++ ((y :: ys).flatMap f ++ (y :: ys).flatMap g) := by
                rw [List.flatMap_cons, later]
            _ = (f x ++ (y :: ys).flatMap f) ++ (g x ++ (y :: ys).flatMap g) := by
                rw [nothing, List.append_nil, List.nil_append, List.append_assoc]
            _ = _ := rfl

/-- When all that grow get the same, the last gets it or nobody. -/
theorem flatMap_eq {more : List β} (last : OnlyLast grows xs)
    (still : ∀ x ∈ xs, ¬ grows x → g x = []) (grown : ∀ x ∈ xs, grows x → g x = more)
    (found : more = [] ∨ ∃ x ∈ xs, grows x) : xs.flatMap g = more := by
  induction xs with
  | nil =>
      rcases found with nothing | ⟨_, impossible, _⟩
      · exact nothing.symm
      · cases impossible
  | cons x xs ih =>
      have later := ih last.tail (fun y member => still y (List.mem_cons_of_mem _ member))
        (fun y member => grown y (List.mem_cons_of_mem _ member))
      rw [List.flatMap_cons]
      cases xs with
      | nil =>
          rw [List.flatMap_nil, List.append_nil]
          by_cases here : grows x
          · exact grown x List.mem_cons_self here
          · rcases found with nothing | ⟨y, member, growing⟩
            · rw [nothing]
              exact still x List.mem_cons_self here
            · rw [List.mem_singleton.mp member] at growing
              exact absurd growing here
      | cons y ys =>
          rw [still x List.mem_cons_self last.head, List.nil_append]
          apply later
          rcases found with nothing | ⟨z, member, growing⟩
          · exact Or.inl nothing
          · rcases List.mem_cons.mp member with rfl | behind
            · exact absurd growing last.head
            · exact Or.inr ⟨z, behind, growing⟩

end OnlyLast

/-- An element that is replaced by one of the same kind with the same history. -/
theorem flatMap_filter_set {kind : α → Bool} {index : Nat} {x y : α} (here : xs[index]? = some x)
    (same : kind y = kind x) (unchanged : f y = f x) :
    ((xs.set index y).filter kind).flatMap f = (xs.filter kind).flatMap f := by
  induction xs generalizing index with
  | nil => rfl
  | cons z xs ih =>
      cases index with
      | zero =>
          obtain rfl : z = x := by simpa using here
          rw [List.set_cons_zero, List.filter_cons, List.filter_cons, same]
          split
          · rw [List.flatMap_cons, List.flatMap_cons, unchanged]
          · rfl
      | succ index =>
          have later := ih (by simpa using here)
          rw [List.set_cons_succ, List.filter_cons, List.filter_cons]
          split
          · rw [List.flatMap_cons, List.flatMap_cons, later]
          · exact later

end TopicBroker
