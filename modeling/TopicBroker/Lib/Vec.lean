import TopicBroker.Lib.Bytes

/-!
# Growable arrays

The three idioms of C code over arrays that are kept in a heap block: the
linear search that stops at its first hit, the removal that moves every later
element one place down, and the append that doubles the block when the
recorded capacity is used up. A `Vec` lists the elements below its length;
that the length stays within the capacity and the capacity within the block is
part of the type.
-/

namespace TopicBroker

universe u

variable {α : Type u}

/-! ## The search loop -/

/-- First element that satisfies `hit`, with its index. -/
def locate (hit : α → Bool) : List α → Option (Nat × α)
  | [] => none
  | first :: rest =>
      if hit first then some (0, first)
      else (locate hit rest).map fun found => (found.1 + 1, found.2)

theorem locate_eq_none_iff {hit : α → Bool} {xs : List α} :
    locate hit xs = none ↔ ∀ x ∈ xs, hit x = false := by
  induction xs with
  | nil => simp [locate]
  | cons first rest ih =>
      cases here : hit first <;> simp [locate, here, ih]

theorem locate_eq_some {hit : α → Bool} {xs : List α} {index : Nat} {x : α}
    (found : locate hit xs = some (index, x)) :
    xs[index]? = some x ∧ hit x = true ∧
      ∀ earlier < index, ∀ y, xs[earlier]? = some y → hit y = false := by
  induction xs generalizing index with
  | nil => simp [locate] at found
  | cons first rest ih =>
      cases here : hit first with
      | true =>
          simp only [locate, here, if_true, Option.some.injEq, Prod.mk.injEq] at found
          obtain ⟨rfl, rfl⟩ := found
          exact ⟨rfl, here, fun earlier less => absurd less (Nat.not_lt_zero _)⟩
      | false =>
          simp only [locate, here, Bool.false_eq_true, if_false, Option.map_eq_some_iff] at found
          obtain ⟨⟨inner, y⟩, later, eq⟩ := found
          simp only [Prod.mk.injEq] at eq
          obtain ⟨rfl, rfl⟩ := eq
          obtain ⟨at_inner, holds, before⟩ := ih later
          refine ⟨by simpa using at_inner, holds, ?_⟩
          intro earlier less z there
          cases earlier with
          | zero =>
              simp only [List.getElem?_cons_zero, Option.some.injEq] at there
              rw [← there, here]
          | succ earlier =>
              exact before earlier (Nat.lt_of_succ_lt_succ less) z (by simpa using there)

theorem locate_mem {hit : α → Bool} {xs : List α} {index : Nat} {x : α}
    (found : locate hit xs = some (index, x)) : x ∈ xs :=
  List.mem_of_getElem? (locate_eq_some found).1

/-- An element that is the only hit is what the search returns. -/
theorem locate_eq_some_of_unique {hit : α → Bool} {xs : List α} {index : Nat} {x : α}
    (here : xs[index]? = some x) (holds : hit x = true)
    (unique : ∀ other y, xs[other]? = some y → hit y = true → other = index) :
    locate hit xs = some (index, x) := by
  cases found : locate hit xs with
  | none =>
      have missed := locate_eq_none_iff.mp found x (List.mem_of_getElem? here)
      rw [missed] at holds
      cases holds
  | some pair =>
      obtain ⟨at_pair, pair_holds, _⟩ := locate_eq_some found
      have same := unique pair.1 pair.2 at_pair pair_holds
      rw [same, here] at at_pair
      rw [← same, Option.some.inj at_pair]

theorem locate_append {hit : α → Bool} {xs ys : List α} (missed : ∀ x ∈ xs, hit x = false) :
    locate hit (xs ++ ys) =
      (locate hit ys).map fun found => (found.1 + xs.length, found.2) := by
  induction xs with
  | nil => simp
  | cons first rest ih =>
      have here : hit first = false := missed first (by simp)
      have later := ih fun x member => missed x (by simp [member])
      rw [List.cons_append, locate, here, later]
      cases locate hit ys with
      | none => rfl
      | some found => simp [Nat.add_assoc]

/-- A hit in the front is the first hit. -/
theorem locate_append_of_some {hit : α → Bool} {xs ys : List α} {found : Nat × α}
    (located : locate hit xs = some found) : locate hit (xs ++ ys) = some found := by
  induction xs generalizing found with
  | nil => cases located
  | cons first rest ih =>
      cases here : hit first with
      | true =>
          rw [locate, here, if_pos rfl] at located
          rw [List.cons_append, locate, here, if_pos rfl, located]
      | false =>
          rw [locate, here, if_neg Bool.false_ne_true] at located
          obtain ⟨inner, later, rfl⟩ := Option.map_eq_some_iff.mp located
          rw [List.cons_append, locate, here, if_neg Bool.false_ne_true, ih later]
          rfl

theorem locate_map {β : Type u} (f : α → β) (hit : β → Bool) (xs : List α) :
    locate hit (xs.map f) =
      (locate (fun x => hit (f x)) xs).map fun found => (found.1, f found.2) := by
  induction xs with
  | nil => rfl
  | cons x xs ih =>
      rw [List.map_cons, locate, locate, ih]
      split
      · rfl
      · rw [Option.map_map, Option.map_map]
        rfl

/-! ## The removal loop -/

/-- `count` rounds of `xs[j] = xs[j + 1]; ++j`. -/
def shiftLoop : Nat → Nat → List α → List α
  | 0, _, xs => xs
  | count + 1, j, xs =>
      shiftLoop count (j + 1)
        (match xs[j + 1]? with
          | some next => xs.set j next
          | none => xs)

/-- The elements from `index + 1` on move one place down, then the length drops by one. -/
def shiftOut (xs : List α) (index : Nat) : List α :=
  (shiftLoop (xs.length - 1 - index) index xs).take (xs.length - 1)

theorem shiftLoop_append (front : List α) (x : α) (back : List α) :
    shiftLoop back.length front.length (front ++ x :: back) =
      front ++ back ++ [(x :: back).getLast (List.cons_ne_nil x back)] := by
  induction back generalizing front x with
  | nil => simp [shiftLoop]
  | cons y back ih =>
      have next : (front ++ x :: y :: back)[front.length + 1]? = some y := by simp
      have moved : (front ++ x :: y :: back).set front.length y = (front ++ [y]) ++ y :: back := by
        simp
      have rest := ih (front ++ [y]) y
      rw [List.length_append, List.length_singleton] at rest
      rw [List.length_cons, shiftLoop, next]
      simp only [moved, rest]
      simp

theorem shiftOut_eq_eraseIdx {xs : List α} {index : Nat} (inside : index < xs.length) :
    shiftOut xs index = xs.eraseIdx index := by
  obtain ⟨front, x, back, rfl, rfl⟩ : ∃ front x back, xs = front ++ x :: back ∧
      front.length = index :=
    ⟨xs.take index, xs[index], xs.drop (index + 1), by simp, by simp; omega⟩
  have rounds : (front ++ x :: back).length - 1 - front.length = back.length := by simp
  have kept : (front ++ x :: back).length - 1 = (front ++ back).length := by simp
  rw [shiftOut, rounds, shiftLoop_append, kept, List.take_left,
    List.eraseIdx_append_of_length_le (Nat.le_refl _)]
  simp

theorem shiftLoop_length (count j : Nat) (xs : List α) :
    (shiftLoop count j xs).length = xs.length := by
  induction count generalizing j xs with
  | zero => rfl
  | succ count ih =>
      rw [shiftLoop, ih]
      cases xs[j + 1]? <;> simp

theorem shiftOut_length (xs : List α) (index : Nat) :
    (shiftOut xs index).length = xs.length - 1 := by
  simp only [shiftOut, List.length_take, shiftLoop_length]
  omega

/-! ## Concatenation over an indexed list -/

theorem mem_flatMap_zipIdx {β : Type u} {f : Nat → α → List β} {xs : List α} {first : Nat} {y : β} :
    y ∈ (xs.zipIdx first).flatMap (fun entry => f entry.2 entry.1) ↔
      ∃ index x, xs[index]? = some x ∧ y ∈ f (first + index) x := by
  rw [List.mem_flatMap]
  constructor
  · rintro ⟨⟨x, index⟩, listed, member⟩
    obtain ⟨behind, here⟩ := List.mk_mem_zipIdx_iff_le_and_getElem?_sub.mp listed
    have place : first + (index - first) = index := by omega
    exact ⟨index - first, x, here, by rw [place]; exact member⟩
  · rintro ⟨index, x, here, member⟩
    have place : first + index - first = index := by omega
    refine ⟨(x, first + index), List.mk_mem_zipIdx_iff_le_and_getElem?_sub.mpr ⟨?_, ?_⟩, member⟩
    · exact Nat.le_add_right _ _
    · rw [place, here]

/-! ## The growable array -/

/-- `elems` are the elements below the length, `capacity` is the recorded
capacity and `alloc` the number of elements the heap block has room for. -/
@[ext] structure Vec (α : Type u) where
  elems : List α
  capacity : Nat
  alloc : Nat
  length_le : elems.length ≤ capacity
  capacity_le : capacity ≤ alloc
  capacity_pos : 0 < capacity
  deriving DecidableEq

namespace Vec

def create (capacity : Nat) (positive : 0 < capacity) : Vec α where
  elems := []
  capacity := capacity
  alloc := capacity
  length_le := Nat.zero_le _
  capacity_le := Nat.le_refl _
  capacity_pos := positive

/-- The test `len == capacity`. -/
def full (vec : Vec α) : Bool := vec.elems.length == vec.capacity

/-- The block after a successful `realloc` to twice the capacity. -/
def grow (vec : Vec α) : Vec α where
  elems := vec.elems
  capacity := vec.capacity * 2
  alloc := vec.capacity * 2
  length_le := by have := vec.length_le; omega
  capacity_le := Nat.le_refl _
  capacity_pos := by have := vec.capacity_pos; omega

/-- Growth when it is needed, taken to succeed. -/
def reserve (vec : Vec α) : Vec α := if vec.full then vec.grow else vec

theorem reserve_elems (vec : Vec α) : vec.reserve.elems = vec.elems := by
  unfold reserve
  split <;> rfl

/-- After the growth there is room for one more element. -/
theorem reserve_room (vec : Vec α) : vec.elems.length < vec.reserve.capacity := by
  have within := vec.length_le
  have positive := vec.capacity_pos
  unfold reserve
  split
  · change vec.elems.length < vec.capacity * 2
    omega
  · rename_i partly
    have different : vec.elems.length ≠ vec.capacity := by simpa [full] using partly
    omega

/-- One growth is enough. -/
theorem reserve_reserve (vec : Vec α) : vec.reserve.reserve = vec.reserve := by
  have room := vec.reserve_room
  have partly : ¬ vec.reserve.full = true := by
    rw [full, reserve_elems, beq_iff_eq]
    omega
  exact if_neg partly

/-- Write `x` at the index `len` and count it. -/
def push (vec : Vec α) (x : α) : Vec α where
  elems := vec.elems ++ [x]
  capacity := vec.reserve.capacity
  alloc := vec.reserve.alloc
  length_le := by
    have room := vec.reserve_room
    simp only [List.length_append, List.length_singleton]
    omega
  capacity_le := vec.reserve.capacity_le
  capacity_pos := vec.reserve.capacity_pos

@[simp] theorem push_elems (vec : Vec α) (x : α) : (vec.push x).elems = vec.elems ++ [x] := rfl

/-- The element at `index` is overwritten. -/
def set (vec : Vec α) (index : Nat) (x : α) : Vec α where
  elems := vec.elems.set index x
  capacity := vec.capacity
  alloc := vec.alloc
  length_le := by simpa using vec.length_le
  capacity_le := vec.capacity_le
  capacity_pos := vec.capacity_pos

@[simp] theorem set_elems (vec : Vec α) (index : Nat) (x : α) :
    (vec.set index x).elems = vec.elems.set index x := rfl

/-- Writing an element over itself changes nothing. -/
theorem set_same (vec : Vec α) {index : Nat} {x : α} (here : vec.elems[index]? = some x) :
    vec.set index x = vec := by
  have same : vec.elems.set index x = vec.elems := by
    obtain ⟨inside, rfl⟩ := List.getElem?_eq_some_iff.mp here
    exact List.set_getElem_self inside
  cases vec
  simp only [set] at same ⊢
  simp [same]

/-- Every element is rewritten where it stands. -/
def mapIdx (vec : Vec α) (rewrite : Nat → α → α) : Vec α where
  elems := vec.elems.mapIdx rewrite
  capacity := vec.capacity
  alloc := vec.alloc
  length_le := by simpa using vec.length_le
  capacity_le := vec.capacity_le
  capacity_pos := vec.capacity_pos

@[simp] theorem mapIdx_elems (vec : Vec α) (rewrite : Nat → α → α) :
    (vec.mapIdx rewrite).elems = vec.elems.mapIdx rewrite := rfl

/-- The element at `index` is shifted out. -/
def remove (vec : Vec α) (index : Nat) : Vec α where
  elems := shiftOut vec.elems index
  capacity := vec.capacity
  alloc := vec.alloc
  length_le := by
    have within := vec.length_le
    rw [shiftOut_length]
    omega
  capacity_le := vec.capacity_le
  capacity_pos := vec.capacity_pos

theorem remove_elems (vec : Vec α) {index : Nat} (inside : index < vec.elems.length) :
    (vec.remove index).elems = vec.elems.eraseIdx index := shiftOut_eq_eraseIdx inside

/-- The length is set to `count`. -/
def truncate (vec : Vec α) (count : Nat) : Vec α where
  elems := vec.elems.take count
  capacity := vec.capacity
  alloc := vec.alloc
  length_le := by
    have within := vec.length_le
    simp only [List.length_take]
    omega
  capacity_le := vec.capacity_le
  capacity_pos := vec.capacity_pos

@[simp] theorem truncate_elems (vec : Vec α) (count : Nat) :
    (vec.truncate count).elems = vec.elems.take count := rfl

end Vec

/-! ## Overwriting one element -/

/-- A projection that the new element shares with the old one does not see the write. -/
theorem map_set_of_eq {β : Type u} {project : α → β} {xs : List α} {index : Nat} {x y : α}
    (here : xs[index]? = some x) (same : project y = project x) :
    (xs.set index y).map project = xs.map project := by
  apply List.ext_getElem?
  intro other
  by_cases written : index = other
  · subst written
    obtain ⟨inside, rfl⟩ := List.getElem?_eq_some_iff.mp here
    simp [inside, same]
  · simp [written]

/-- A symmetric relation between any two elements survives the write when the
new element has it with all the others. -/
theorem pairwise_set {R : α → α → Prop} (symmetric : ∀ x y, R x y → R y x)
    {xs : List α} (related : xs.Pairwise R) {index : Nat} {x : α}
    (others : ∀ other y, other ≠ index → xs[other]? = some y → R x y) :
    (xs.set index x).Pairwise R := by
  rw [List.pairwise_iff_getElem] at related ⊢
  intro i j hi hj less
  rw [List.length_set] at hi hj
  simp only [List.getElem_set]
  by_cases first : index = i
  · rw [if_pos first, if_neg (by omega)]
    exact others j _ (by omega) (List.getElem?_eq_getElem hj)
  · rw [if_neg first]
    by_cases second : index = j
    · rw [if_pos second]
      exact symmetric _ _ (others i _ (by omega) (List.getElem?_eq_getElem hi))
    · rw [if_neg second]
      exact related i j hi hj less

theorem mem_set_cases {xs : List α} {index : Nat} {x y : α} (member : y ∈ xs.set index x) :
    y = x ∨ y ∈ xs := by
  rcases List.mem_or_eq_of_mem_set member with old | new
  · exact Or.inr old
  · exact Or.inl new

/-- Every element but the overwritten one is still there. -/
theorem mem_set_of_apart {xs : List α} {index : Nat} {x y z : α} (here : xs[index]? = some x)
    (member : z ∈ xs) (apart : z ≠ x) : z ∈ xs.set index y := by
  obtain ⟨other, there⟩ := List.mem_iff_getElem?.mp member
  have different : index ≠ other := by
    rintro rfl
    rw [here] at there
    exact apart (Option.some.inj there).symm
  exact List.mem_iff_getElem?.mpr ⟨other, by rw [List.getElem?_set_ne different, there]⟩

/-- In a sum of weights the new weight takes the place of the old one. -/
theorem sum_map_set (weight : α → Nat) {xs : List α} {index : Nat} {x : α} (y : α)
    (here : xs[index]? = some x) :
    ((xs.set index y).map weight).sum + weight x = (xs.map weight).sum + weight y := by
  induction xs generalizing index with
  | nil => cases here
  | cons first rest ih =>
      cases index with
      | zero =>
          cases here
          simp only [List.set_cons_zero, List.map_cons, List.sum_cons]
          omega
      | succ index =>
          have later := ih here
          simp only [List.set_cons_succ, List.map_cons, List.sum_cons]
          omega

end TopicBroker
