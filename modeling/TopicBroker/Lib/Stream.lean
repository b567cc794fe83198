import TopicBroker.Lib.Bytes

/-!
# A byte stream and its two ends

A stream carries bytes in order and keeps no other boundaries. One end takes a
first part of what it is offered and says how much that was; the other hands
over a first part of what is left, nothing once nothing more will come. Blocks
of one size lie in the stream back to back.
-/

namespace TopicBroker

universe u

/-- The end that takes bytes. A call takes at least one byte of an offer and
nothing that was not offered. -/
structure Outlet (σ : Type u) where
  put : σ → Bytes → Int × σ
  /-- All that was taken so far. -/
  wire : σ → Bytes
  put_takes : ∀ state offered, offered ≠ [] → ∃ count : Nat, 0 < count ∧ count ≤ offered.length ∧
    (put state offered).1 = count ∧ wire (put state offered).2 = wire state ++ offered.take count

/-- The end that hands bytes over. A call hands over at most what was asked
for, and nothing only when the stream has ended or failed. -/
structure Inlet (σ : Type u) where
  get : σ → Nat → Bytes × σ
  /-- All that will be handed over before the stream ends or fails. -/
  left : σ → Bytes
  get_splits : ∀ state asked, (get state asked).1 ++ left (get state asked).2 = left state
  get_length : ∀ state asked, (get state asked).1.length ≤ asked
  get_empty : ∀ state asked, 0 < asked → (get state asked).1 = [] → left state = []

/-- What an end that takes bytes took between two of its states. -/
def Outlet.taken {σ : Type u} (out : Outlet σ) (before after : σ) : Bytes :=
  (out.wire after).drop (out.wire before).length

/-- Call number `n` takes `cuts n + 1` bytes, or the offer when it is shorter. -/
def Outlet.sliced (cuts : Nat → Nat) : Outlet (Nat × Bytes) where
  put state offered :=
    let count := min (cuts state.1 + 1) offered.length
    (count, state.1 + 1, state.2 ++ offered.take count)
  wire := Prod.snd
  put_takes := by
    intro state offered nonempty
    have positive := List.length_pos_of_ne_nil nonempty
    exact ⟨min (cuts state.1 + 1) offered.length, by omega, by omega, rfl, rfl⟩

/-- Call number `n` hands over `cuts n + 1` bytes, or what was asked for, or
what is left, whichever is least. -/
def Inlet.sliced (cuts : Nat → Nat) : Inlet (Nat × Bytes) where
  get state asked :=
    let count := min (cuts state.1 + 1) asked
    (state.2.take count, state.1 + 1, state.2.drop count)
  left := Prod.snd
  get_splits _ _ := List.take_append_drop _ _
  get_length := by
    intro state asked
    simp only [List.length_take]
    omega
  get_empty := by
    intro state asked positive nothing
    rcases List.take_eq_nil_iff.mp nothing with impossible | ended
    · omega
    · exact ended

/-! ## Blocks -/

variable {size : Nat}

/-- Blocks back to back. -/
def joined (blocks : List (Buffer size)) : Bytes := blocks.flatMap Buffer.bytes

@[simp] theorem joined_cons (block : Buffer size) (blocks : List (Buffer size)) :
    joined (block :: blocks) = block.bytes ++ joined blocks := List.flatMap_cons

theorem joined_append (first second : List (Buffer size)) :
    joined (first ++ second) = joined first ++ joined second := List.flatMap_append

theorem joined_length (blocks : List (Buffer size)) :
    (joined blocks).length = size * blocks.length := by
  induction blocks with
  | nil => rfl
  | cons block blocks ih =>
      rw [joined_cons, List.length_append, ih, block.length_eq, List.length_cons, Nat.mul_succ,
        Nat.add_comm]

/-- The first bytes of joined blocks are whole blocks and less than one more. -/
theorem joined_take (positive : 0 < size) (blocks : List (Buffer size)) {length : Nat}
    (inside : length ≤ size * blocks.length) :
    ∃ torn, (joined blocks).take length = joined (blocks.take (length / size)) ++ torn ∧
      torn.length < size := by
  have whole : length / size ≤ blocks.length := Nat.div_le_of_le_mul inside
  have cut : (joined (blocks.take (length / size))).length + length % size = length := by
    rw [joined_length, List.length_take, Nat.min_eq_left whole, Nat.div_add_mod]
  have small : length % size < size := Nat.mod_lt _ positive
  refine ⟨(joined (blocks.drop (length / size))).take (length % size), ?_, ?_⟩
  · calc
      (joined blocks).take length
        = (joined (blocks.take (length / size)) ++ joined (blocks.drop (length / size))).take
            ((joined (blocks.take (length / size))).length + length % size) := by
          rw [← joined_append, List.take_append_drop, cut]
      _ = _ := List.take_length_add_append _
  · rw [List.length_take]
    omega

end TopicBroker
