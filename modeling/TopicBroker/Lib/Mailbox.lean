import Mathlib.Data.List.Basic
import Mathlib.Order.Basic

/-!
# Mailboxes

Numbered messages come in for the owner of a mailbox. They are handed over at
once, or they wait until the owner comes back and are then handed over from the
last one to the first. This keeps the order of the numbers as long as no two
messages ever wait together when the owner comes back.
-/

namespace TopicBroker.Mailbox

universe u

variable {α : Type u} {next : α} {back : Prop} {waiting out stacked after sent : List α}

/-- One step of a mailbox in which `waiting` are pending: `out` is handed over,
`stacked` is put into the mailbox, and `after` is pending afterwards. Only
`next` comes in, and `back` tells that the owner comes back. -/
inductive Step (next : α) (back : Prop) :
    List α → List α → List α → List α → Prop where
  | quiet (waiting : List α) (idle : back → waiting = []) : Step next back waiting [] [] waiting
  | deliver (away : ¬ back) : Step next back [] [next] [] []
  | stack (waiting : List α) (away : ¬ back) :
      Step next back waiting [] [next] (waiting ++ [next])
  | flush (waiting : List α) (returned : back) : Step next back waiting waiting.reverse [] []

/-- Nothing that waited or came in is lost. -/
theorem Step.complete (step : Step next back waiting out stacked after) :
    ∀ x ∈ waiting ++ stacked, x ∈ out ++ after := by
  intro x member
  cases step with
  | quiet _ idle => simpa using member
  | deliver away => cases member
  | stack _ away => simpa using member
  | flush _ returned => simpa using member

variable [Preorder α]

theorem pairwise_concat {xs : List α} (ordered : xs.Pairwise (· < ·)) (below : ∀ x ∈ xs, x < next) :
    (xs ++ [next]).Pairwise (· < ·) := by
  refine List.pairwise_append.mpr ⟨ordered, List.pairwise_singleton _ _, ?_⟩
  intro x member y last
  rw [List.mem_singleton.mp last]
  exact below x member

/-- Two ordered messages or more are out of order from the last to the first. -/
theorem length_le_one_of_reverse (ordered : waiting.Pairwise (· < ·))
    (turned : waiting.reverse.Pairwise (· < ·)) : waiting.length ≤ 1 := by
  match waiting with
  | [] => exact Nat.zero_le _
  | [_] => exact Nat.le_refl _
  | first :: second :: rest =>
      have forward : first < second := (List.pairwise_cons.mp ordered).1 second (by simp)
      have both := List.pairwise_reverse.mp turned
      have backward : second < first := (List.pairwise_cons.mp both).1 second (by simp)
      exact absurd forward backward.asymm

namespace Step

/-- What waits is in order after every step. -/
theorem waiting_ordered (step : Step next back waiting out stacked after)
    (ordered : waiting.Pairwise (· < ·)) (below : ∀ x ∈ waiting, x < next) :
    after.Pairwise (· < ·) := by
  cases step with
  | quiet _ idle => exact ordered
  | deliver away => exact .nil
  | stack _ away => exact pairwise_concat ordered below
  | flush _ returned => exact .nil

/-- The order of everything handed over and waiting is kept. -/
theorem ordered (step : Step next back waiting out stacked after)
    (ordered : (sent ++ waiting).Pairwise (· < ·)) (below : ∀ x ∈ sent ++ waiting, x < next)
    (single : back → waiting.length ≤ 1) : (sent ++ out ++ after).Pairwise (· < ·) := by
  cases step with
  | quiet _ idle => rwa [List.append_nil]
  | deliver away =>
      rw [List.append_nil] at ordered below ⊢
      exact pairwise_concat ordered below
  | stack _ away =>
      rw [List.append_nil, ← List.append_assoc]
      exact pairwise_concat ordered below
  | flush _ returned =>
      have short := single returned
      have same : waiting.reverse = waiting := by
        match waiting, short with
        | [], _ => rfl
        | [_], _ => rfl
      rwa [List.append_nil, same]

/-- Whoever comes back to two messages or more gets them out of order. -/
theorem disordered (step : Step next back waiting out stacked after) (returned : back)
    (ordered : waiting.Pairwise (· < ·)) (several : 1 < waiting.length) :
    ¬ (sent ++ out).Pairwise (· < ·) := by
  intro kept
  cases step with
  | quiet _ idle =>
      rw [idle returned] at several
      cases several
  | deliver away => exact away returned
  | stack _ away => exact away returned
  | flush _ returned =>
      have short := length_le_one_of_reverse ordered (List.pairwise_append.mp kept).2.1
      omega

end Step

end TopicBroker.Mailbox
