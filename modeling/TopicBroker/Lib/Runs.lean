import Mathlib

/-!
# Runs of a system that writes a log

A system has initial states and steps; a step leaves entries in a log. A run
is a sequence of steps with the log of all of them. Whatever one step preserves
a run preserves, and a property of the state may speak about the log so far.
-/

namespace TopicBroker

universe u v

structure System (σ : Type u) (ω : Type v) where
  init : σ → Prop
  step : σ → List ω → σ → Prop

namespace System

variable {σ : Type u} {ω : Type v}

inductive Run (sys : System σ ω) (first : σ) : List ω → σ → Prop where
  | refl : Run sys first [] first
  | next {log more : List ω} {middle last : σ} (earlier : Run sys first log middle)
      (edge : sys.step middle more last) : Run sys first (log ++ more) last

/-- Reached from an initial state. -/
def Reachable (sys : System σ ω) (s : σ) : Prop := ∃ first log, sys.init first ∧ sys.Run first log s

namespace Run

variable {sys : System σ ω} {first middle last : σ} {log more : List ω}

theorem single (edge : sys.step first log last) : sys.Run first log last := by
  simpa using Run.next .refl edge

theorem trans (earlier : sys.Run first log middle) (later : sys.Run middle more last) :
    sys.Run first (log ++ more) last := by
  induction later with
  | refl => simpa using earlier
  | next _ edge ih =>
      rw [← List.append_assoc]
      exact .next ih edge

/-- A property of the log so far and the state holds after a run when the
first state has it with the empty log and every step extends it. -/
theorem history {I : List ω → σ → Prop} (start : I [] first)
    (kept : ∀ log more middle last, I log middle → sys.step middle more last → I (log ++ more) last)
    (run : sys.Run first log last) : I log last := by
  induction run with
  | refl => exact start
  | next _ edge ih => exact kept _ _ _ _ ih edge

/-- An invariant of the steps is one of the runs. -/
theorem invariant {I : σ → Prop} (start : I first)
    (kept : ∀ middle more last, I middle → sys.step middle more last → I last)
    (run : sys.Run first log last) : I last :=
  run.history (I := fun _ s => I s) start fun _ _ _ _ holds edge => kept _ _ _ holds edge

/-- A run of a system with fewer steps. -/
theorem mono {other : System σ ω} (run : sys.Run first log last)
    (steps : ∀ s more t, sys.step s more t → other.step s more t) : other.Run first log last := by
  induction run with
  | refl => exact .refl
  | next _ edge ih => exact .next ih (steps _ _ _ edge)

end Run

variable {sys : System σ ω}

theorem Reachable.init {s : σ} (start : sys.init s) : sys.Reachable s := ⟨s, [], start, .refl⟩

theorem Reachable.step {s t : σ} {more : List ω} (reached : sys.Reachable s)
    (edge : sys.step s more t) : sys.Reachable t := by
  obtain ⟨first, log, start, run⟩ := reached
  exact ⟨first, log ++ more, start, .next run edge⟩

theorem Reachable.run {s t : σ} {more : List ω} (reached : sys.Reachable s)
    (later : sys.Run s more t) : sys.Reachable t := by
  obtain ⟨first, log, start, run⟩ := reached
  exact ⟨first, log ++ more, start, run.trans later⟩

/-- A system with fewer steps reaches no other states. -/
theorem Reachable.mono {other : System σ ω} {s : σ} (reached : other.Reachable s)
    (starts : ∀ s, other.init s → sys.init s)
    (steps : ∀ s more t, other.step s more t → sys.step s more t) : sys.Reachable s := by
  obtain ⟨first, log, start, run⟩ := reached
  exact ⟨first, log, starts first start, run.mono steps⟩

theorem Reachable.invariant {I : σ → Prop} (start : ∀ s, sys.init s → I s)
    (kept : ∀ s more t, I s → sys.step s more t → I t) {s : σ} (reached : sys.Reachable s) :
    I s := by
  obtain ⟨first, log, begun, run⟩ := reached
  exact run.invariant (start first begun) kept

end System

end TopicBroker
