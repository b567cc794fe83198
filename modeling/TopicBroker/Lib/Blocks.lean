import TopicBroker.Lib.Vec

/-!
# Arrays in heap blocks

What C code has of a growable array: a block of cells, a length and a recorded
capacity, which nothing holds together. A cell is `default` until it is
written, and an access outside the block has no result. A block that holds the
elements of a `Vec` still holds them after the same operation on both.
-/

namespace TopicBroker

variable {α β γ : Type}

namespace Block

def malloc [Inhabited α] (count : Nat) : List α := List.replicate count default

/-- A successful `realloc` to `count` cells. -/
def realloc [Inhabited α] (block : List α) (count : Nat) : List α :=
  block.take count ++ List.replicate (count - block.length) default

def store (block : List α) (index : Nat) (cell : α) : Option (List α) :=
  if index < block.length then some (block.set index cell) else none

/-- The cells are written one after the other, from `index` on. -/
def copy (block : List α) : Nat → List α → Option (List α)
  | _, [] => some block
  | index, cell :: rest => do copy (← store block index cell) (index + 1) rest

/-- The search loop over `count` cells from `iter` on. The test of a cell may
itself read what is not there. -/
def scan (hit : α → Option Bool) (block : List α) : Nat → Nat → Option (Option Nat)
  | 0, _ => some none
  | count + 1, iter => do
      let cell ← block[iter]?
      if ← hit cell then some (some iter) else scan hit block count (iter + 1)

/-- `count` rounds of `block[j] = block[j + 1]; ++j`. -/
def shift : Nat → Nat → List α → Option (List α)
  | 0, _, block => some block
  | count + 1, j, block => do
      let next ← block[j + 1]?
      shift count (j + 1) (← store block j next)

theorem malloc_length [Inhabited α] (count : Nat) :
    (malloc count : List α).length = count := List.length_replicate

theorem realloc_length [Inhabited α] (block : List α) (count : Nat) :
    (realloc block count).length = count := by
  simp only [realloc, List.length_append, List.length_take, List.length_replicate]
  omega

theorem realloc_kept [Inhabited α] (block : List α) {count index : Nat} {cell : α}
    (here : block[index]? = some cell) (kept : index < count) :
    (realloc block count)[index]? = some cell := by
  have inside := (List.getElem?_eq_some_iff.mp here).1
  have front : index < (block.take count).length := by
    rw [List.length_take]
    omega
  rw [realloc, List.getElem?_append_left front, List.getElem?_take_of_lt kept, here]

theorem store_inside {block : List α} {index : Nat} (inside : index < block.length) (cell : α) :
    store block index cell = some (block.set index cell) := if_pos inside

/-- Cells that fit replace those that were there. -/
theorem copy_inside {block : List α} {index : Nat} {cells : List α}
    (inside : index + cells.length ≤ block.length) :
    copy block index cells =
      some (block.take index ++ cells ++ block.drop (index + cells.length)) := by
  induction cells generalizing block index with
  | nil => simp [copy]
  | cons cell rest ih =>
      rw [List.length_cons] at inside
      have here : index < block.length := by omega
      have front : (block.set index cell).take (index + 1) = block.take index ++ [cell] := by
        rw [List.take_succ_eq_append_getElem (by rwa [List.length_set]), List.getElem_set_self,
          List.take_set_of_le (Nat.le_refl _)]
      have back : (block.set index cell).drop (index + 1 + rest.length) =
          block.drop (index + 1 + rest.length) := List.drop_set_of_lt (by omega)
      rw [copy, store_inside here]
      simp only [Option.bind_eq_bind, Option.bind_some]
      rw [ih (by rw [List.length_set]; omega), front, back, List.length_cons,
        Nat.add_assoc index 1, Nat.add_comm 1, List.append_assoc (block.take index),
        List.singleton_append]

/-- Cells that do not fit are not written to the end. -/
theorem copy_outside {block : List α} {index : Nat} {cells : List α} (start : index ≤ block.length)
    (outside : block.length < index + cells.length) : copy block index cells = none := by
  induction cells generalizing block index with
  | nil =>
      rw [List.length_nil] at outside
      omega
  | cons cell rest ih =>
      rw [List.length_cons] at outside
      by_cases here : index < block.length
      · rw [copy, store_inside here]
        simp only [Option.bind_eq_bind, Option.bind_some]
        exact ih (by rw [List.length_set]; omega) (by rw [List.length_set]; omega)
      · rw [copy, store, if_neg here]
        rfl

/-- Inside the block the loop is the one over the list. -/
theorem shift_eq {count j : Nat} {block : List α} (inside : j + count < block.length) :
    shift count j block = some (shiftLoop count j block) := by
  induction count generalizing j block with
  | zero => rfl
  | succ count ih =>
      have next : block[j + 1]? = some block[j + 1] := List.getElem?_eq_getElem (by omega)
      have stored := store_inside (show j < block.length by omega) block[j + 1]
      rw [shift, next, shiftLoop, next]
      simp only [Option.bind_eq_bind, Option.bind_some, stored]
      exact ih (by rw [List.length_set]; omega)

/-- Where each element is after the loop. -/
theorem shiftLoop_getElem? {count j : Nat} {xs : List α} (inside : j + count < xs.length)
    (index : Nat) :
    (shiftLoop count j xs)[index]? =
      if j ≤ index ∧ index < j + count then xs[index + 1]? else xs[index]? := by
  induction count generalizing j xs with
  | zero => rw [shiftLoop, if_neg (by omega)]
  | succ count ih =>
      have next : xs[j + 1]? = some xs[j + 1] := List.getElem?_eq_getElem (by omega)
      rw [shiftLoop, next, ih (by rw [List.length_set]; omega)]
      by_cases first : index = j
      · subst first
        rw [if_neg (by omega), if_pos (by omega), next]
        exact List.getElem?_set_self (by omega)
      · by_cases moved : j ≤ index ∧ index < j + (count + 1)
        · rw [if_pos (by omega), if_pos moved, List.getElem?_set_ne (by omega)]
        · rw [if_neg (by omega), if_neg moved, List.getElem?_set_ne (by omega)]

end Block

/-! ## What a block stands for -/

/-- The first cells of the block stand for the elements of `xs`. -/
def Backs (R : α → β → Prop) (block : List α) (xs : List β) : Prop :=
  ∀ (index : Nat) (x : β), xs[index]? = some x → ∃ cell, block[index]? = some cell ∧ R cell x

namespace Backs

variable {R : α → β → Prop} {block : List α} {xs : List β}

theorem nil : Backs R block [] := by
  intro index x here
  cases here

theorem length_le (backs : Backs R block xs) : xs.length ≤ block.length := by
  by_contra short
  have here : xs[block.length]? = some xs[block.length] := List.getElem?_eq_getElem (by omega)
  obtain ⟨cell, there, _⟩ := backs _ _ here
  exact absurd (List.getElem?_eq_some_iff.mp there).1 (Nat.lt_irrefl _)

theorem realloc [Inhabited α] (backs : Backs R block xs) {count : Nat} (room : xs.length ≤ count) :
    Backs R (Block.realloc block count) xs := by
  intro index x here
  obtain ⟨cell, there, related⟩ := backs index x here
  have inside := (List.getElem?_eq_some_iff.mp here).1
  exact ⟨cell, Block.realloc_kept block there (by omega), related⟩

/-- A write behind the elements. -/
theorem set_behind (backs : Backs R block xs) {index : Nat} (behind : xs.length ≤ index)
    (cell : α) : Backs R (block.set index cell) xs := by
  intro other x here
  have inside := (List.getElem?_eq_some_iff.mp here).1
  rw [List.getElem?_set_ne (by omega)]
  exact backs other x here

/-- A write over an element. -/
theorem set (backs : Backs R block xs) {index : Nat} {cell : α} {x : β} (related : R cell x) :
    Backs R (block.set index cell) (xs.set index x) := by
  intro other y here
  by_cases same : index = other
  · subst same
    obtain ⟨inside, rfl⟩ := List.getElem?_eq_some_iff.mp here
    rw [List.length_set] at inside
    rw [List.getElem_set_self]
    exact ⟨cell, List.getElem?_set_self (Nat.lt_of_lt_of_le inside backs.length_le), related⟩
  · rw [List.getElem?_set_ne same] at here ⊢
    exact backs other y here

/-- The cell behind the elements is counted. -/
theorem snoc (backs : Backs R block xs) {cell : α} {x : β}
    (next : block[xs.length]? = some cell) (related : R cell x) : Backs R block (xs ++ [x]) := by
  intro index y here
  by_cases inside : index < xs.length
  · rw [List.getElem?_append_left inside] at here
    exact backs index y here
  · have last := (List.getElem?_eq_some_iff.mp here).1
    rw [List.length_append, List.length_singleton] at last
    obtain rfl : index = xs.length := by omega
    rw [List.getElem?_concat_length] at here
    obtain rfl := Option.some.inj here
    exact ⟨cell, next, related⟩

/-- The removal loop. The cell that is shifted out may have been written before. -/
theorem shifted (backs : Backs R block xs) {index : Nat} (inside : index < xs.length)
    (freed : α) :
    Backs R (shiftLoop (xs.length - 1 - index) index (block.set index freed))
      (xs.eraseIdx index) := by
  have room := backs.length_le
  intro other x here
  have kept := (List.getElem?_eq_some_iff.mp here).1
  rw [List.length_eraseIdx_of_lt inside] at kept
  rw [Block.shiftLoop_getElem? (by rw [List.length_set]; omega)]
  rw [List.getElem?_eraseIdx] at here
  by_cases before : other < index
  · rw [if_pos before] at here
    rw [if_neg (by omega), List.getElem?_set_ne (by omega)]
    exact backs other x here
  · rw [if_neg before] at here
    rw [if_pos (by omega), List.getElem?_set_ne (by omega)]
    exact backs (other + 1) x here

/-- The search loop returns what `locate` finds. -/
theorem scan (backs : Backs R block xs) {hit : α → Option Bool} {test : β → Bool}
    (reads : ∀ cell x, R cell x → hit cell = some (test x)) :
    Block.scan hit block xs.length 0 = some ((locate test xs).map Prod.fst) := by
  suffices from_first : ∀ (ys : List β) (first : Nat),
      (∀ (index : Nat) x, ys[index]? = some x →
        ∃ cell, block[first + index]? = some cell ∧ R cell x) →
      Block.scan hit block ys.length first =
        some ((locate test ys).map fun found => first + found.1) by
    have whole := from_first xs 0 fun index x here => by simpa using backs index x here
    simpa [Prod.fst] using whole
  intro ys
  induction ys with
  | nil => intro first _; rfl
  | cons y rest ih =>
      intro first here
      obtain ⟨cell, there, related⟩ := here 0 y rfl
      rw [Nat.add_zero] at there
      rw [List.length_cons, Block.scan, there]
      simp only [Option.bind_eq_bind, Option.bind_some, reads cell y related]
      cases found : test y with
      | true => simp [locate, found]
      | false =>
          have later := ih (first + 1) fun index x inside => by
            have shifted := here (index + 1) x inside
            rwa [Nat.add_assoc, Nat.add_comm 1 index]
          rw [if_neg Bool.false_ne_true, later, locate, found, if_neg Bool.false_ne_true]
          cases locate test rest with
          | none => rfl
          | some place => simp [Nat.add_assoc, Nat.add_comm 1]

/-- A reading of the cells that agrees with one of the elements. -/
theorem map_take (backs : Backs R block xs) {read : α → γ} {view : β → γ}
    (agrees : ∀ cell x, R cell x → read cell = view x) :
    (block.take xs.length).map read = xs.map view := by
  apply List.ext_getElem?
  intro index
  rw [List.getElem?_map, List.getElem?_map]
  by_cases inside : index < xs.length
  · have here : xs[index]? = some xs[index] := List.getElem?_eq_getElem inside
    obtain ⟨cell, there, related⟩ := backs _ _ here
    rw [List.getElem?_take_of_lt inside, there, here]
    exact congrArg some (agrees _ _ related)
  · rw [List.getElem?_eq_none (by rw [List.length_take]; omega), List.getElem?_eq_none (by omega)]
    rfl

end Backs

/-! ## The growable array -/

/-- A block of which `len` cells are in use, and the capacity recorded for it. -/
@[ext] structure Growable (α : Type) where
  block : List α
  len : Nat
  capacity : Nat
  deriving DecidableEq

namespace Growable

def create [Inhabited α] (capacity : Nat) : Growable α := ⟨Block.malloc capacity, 0, capacity⟩

/-- The length is within the capacity, and the capacity within the block. -/
structure Sound (array : Growable α) : Prop where
  length_le : array.len ≤ array.capacity
  capacity_pos : 1 ≤ array.capacity
  capacity_le : array.capacity ≤ array.block.length

theorem Sound.room {array : Growable α} (sound : array.Sound) : array.len ≤ array.block.length :=
  Nat.le_trans sound.length_le sound.capacity_le

/-- The test `len == capacity`. -/
def full (array : Growable α) : Bool := array.len == array.capacity

/-- The array after a successful `realloc` to twice the capacity. -/
def grow [Inhabited α] (array : Growable α) : Growable α :=
  ⟨Block.realloc array.block (array.capacity * 2), array.len, array.capacity * 2⟩

/-- Growth when it is needed, taken to succeed. -/
def reserve [Inhabited α] (array : Growable α) : Growable α :=
  if array.full then array.grow else array

/-- The elements in use. -/
def used (array : Growable α) : List α := array.block.take array.len

/-- The search loop over the elements in use. -/
def scan (array : Growable α) (hit : α → Option Bool) : Option (Option Nat) :=
  Block.scan hit array.block array.len 0

def store (array : Growable α) (index : Nat) (cell : α) : Option (Growable α) := do
  some { array with block := ← Block.store array.block index cell }

/-- A write to some fields of a cell. -/
def update (array : Growable α) (index : Nat) (change : α → α) : Option (Growable α) := do
  let cell ← array.block[index]?
  array.store index (change cell)

/-- A write at the index `len`, which is then counted. -/
def append (array : Growable α) (cell : α) : Option (Growable α) := do
  let written ← array.store array.len cell
  some { written with len := written.len + 1 }

/-- The elements from `index + 1` on move one place down, then the length drops by one. -/
def remove (array : Growable α) (index : Nat) : Option (Growable α) := do
  let block ← Block.shift (array.len - 1 - index) index array.block
  some { array with block := block, len := array.len - 1 }

/-- The cell behind the elements in use. -/
def put (array : Growable α) (cell : α) : Growable α :=
  { array with block := array.block.set array.len cell }

theorem store_inside {array : Growable α} {index : Nat} (inside : index < array.block.length)
    (cell : α) :
    array.store index cell = some { array with block := array.block.set index cell } := by
  simp only [store, Block.store_inside inside, Option.bind_eq_bind, Option.bind_some]

theorem store_len {array : Growable α} (room : array.len < array.block.length) (cell : α) :
    array.store array.len cell = some (array.put cell) := store_inside room cell

theorem append_room {array : Growable α} (room : array.len < array.block.length) (cell : α) :
    array.append cell = some { array.put cell with len := array.len + 1 } := by
  simp only [append, store_len room, Option.bind_eq_bind, Option.bind_some]
  rfl

/-- Writes to the cell behind the elements come together in one. -/
theorem put_update {array : Growable α} (room : array.len < array.block.length) (cell : α)
    (change : α → α) :
    (array.put cell).update array.len change = some (array.put (change cell)) := by
  have here : (array.put cell).block[array.len]? = some cell := List.getElem?_set_self room
  have inside : array.len < (array.put cell).block.length := by
    rw [put, List.length_set]
    exact room
  rw [update, here]
  simp only [Option.bind_eq_bind, Option.bind_some, store_inside inside]
  simp [put]

theorem put_self {array : Growable α} {cell : α} (here : array.block[array.len]? = some cell) :
    array.put cell = array := by
  obtain ⟨inside, rfl⟩ := List.getElem?_eq_some_iff.mp here
  simp [put]

end Growable

/-! ## The array that a `Vec` describes -/

/-- The sizes are those of the `Vec` and the elements in use stand for its elements. -/
structure Realizes (R : α → β → Prop) (array : Growable α) (vec : Vec β) : Prop where
  len : array.len = vec.elems.length
  capacity : array.capacity = vec.capacity
  alloc : array.block.length = vec.alloc
  backs : Backs R array.block vec.elems

namespace Realizes

variable {R : α → β → Prop} {array : Growable α} {vec : Vec β}

theorem create [Inhabited α] {capacity : Nat} (positive : 0 < capacity) :
    Realizes R (Growable.create capacity) (Vec.create capacity positive) where
  len := rfl
  capacity := rfl
  alloc := Block.malloc_length capacity
  backs := Backs.nil

theorem sound (realizes : Realizes R array vec) : array.Sound where
  length_le := by
    rw [realizes.len, realizes.capacity]
    exact vec.length_le
  capacity_pos := by
    rw [realizes.capacity]
    exact vec.capacity_pos
  capacity_le := by
    rw [realizes.capacity, realizes.alloc]
    exact vec.capacity_le

theorem full (realizes : Realizes R array vec) : array.full = vec.full := by
  rw [Growable.full, Vec.full, realizes.len, realizes.capacity]

theorem grow [Inhabited α] (realizes : Realizes R array vec) :
    Realizes R array.grow vec.grow where
  len := realizes.len
  capacity := congrArg (· * 2) realizes.capacity
  alloc := (Block.realloc_length _ _).trans (congrArg (· * 2) realizes.capacity)
  backs := by
    have within := vec.length_le
    exact realizes.backs.realloc (by rw [realizes.capacity]; omega)

theorem reserve [Inhabited α] (realizes : Realizes R array vec) :
    Realizes R array.reserve vec.reserve := by
  unfold Growable.reserve Vec.reserve
  rw [realizes.full]
  split
  · exact realizes.grow
  · exact realizes

/-- After the growth there is a cell behind the elements. -/
theorem room (reserved : Realizes R array vec.reserve) : array.len < array.block.length := by
  have free := vec.reserve_room
  have within := vec.reserve.capacity_le
  rw [reserved.len, reserved.alloc, vec.reserve_elems]
  omega

theorem put (realizes : Realizes R array vec) (cell : α) : Realizes R (array.put cell) vec where
  len := realizes.len
  capacity := realizes.capacity
  alloc := by
    rw [Growable.put, List.length_set]
    exact realizes.alloc
  backs := realizes.backs.set_behind (Nat.le_of_eq realizes.len.symm) cell

theorem load (realizes : Realizes R array vec) {index : Nat} {x : β}
    (here : vec.elems[index]? = some x) :
    ∃ cell, array.block[index]? = some cell ∧ R cell x := realizes.backs index x here

theorem scan (realizes : Realizes R array vec) {hit : α → Option Bool} {test : β → Bool}
    (reads : ∀ cell x, R cell x → hit cell = some (test x)) :
    array.scan hit = some ((locate test vec.elems).map Prod.fst) := by
  rw [Growable.scan, realizes.len]
  exact realizes.backs.scan reads

theorem inside (realizes : Realizes R array vec) {index : Nat} {x : β}
    (here : vec.elems[index]? = some x) : index < array.block.length := by
  obtain ⟨_, there, _⟩ := realizes.load here
  exact (List.getElem?_eq_some_iff.mp there).1

theorem set (realizes : Realizes R array vec) {index : Nat} {x : β} {cell : α}
    (related : R cell x) :
    Realizes R { array with block := array.block.set index cell } (vec.set index x) where
  len := by
    rw [Vec.set_elems, List.length_set]
    exact realizes.len
  capacity := realizes.capacity
  alloc := (List.length_set ..).trans realizes.alloc
  backs := realizes.backs.set related

theorem store (realizes : Realizes R array vec) {index : Nat} {x y : β} {cell : α}
    (here : vec.elems[index]? = some x) (related : R cell y) :
    ∃ after, array.store index cell = some after ∧ Realizes R after (vec.set index y) :=
  ⟨_, Growable.store_inside (realizes.inside here) cell, realizes.set related⟩

/-- The cell behind the elements is counted. -/
theorem count (reserved : Realizes R array vec.reserve) {cell : α} {x : β} (related : R cell x) :
    Realizes R { array.put cell with len := array.len + 1 } (vec.push x) := by
  have written := reserved.put cell
  have elems := vec.reserve_elems
  refine ⟨?_, written.capacity, written.alloc, ?_⟩
  · rw [Vec.push_elems, List.length_append, List.length_singleton, ← elems]
    exact congrArg (· + 1) written.len
  · rw [Vec.push_elems, ← elems]
    refine written.backs.snoc ?_ related
    rw [← written.len]
    exact List.getElem?_set_self reserved.room

theorem append (reserved : Realizes R array vec.reserve) {cell : α} {x : β}
    (related : R cell x) :
    ∃ after, array.append cell = some after ∧ Realizes R after (vec.push x) :=
  ⟨_, Growable.append_room reserved.room cell, reserved.count related⟩

/-- The removal loop over the block. The cell that is shifted out may have been written before. -/
theorem shifted (realizes : Realizes R array vec) {index : Nat}
    (inside : index < vec.elems.length) (freed : α) :
    Realizes R
      ⟨shiftLoop (array.len - 1 - index) index (array.block.set index freed), array.len - 1,
        array.capacity⟩ (vec.remove index) where
  len := by
    rw [vec.remove_elems inside, List.length_eraseIdx_of_lt inside]
    exact congrArg (· - 1) realizes.len
  capacity := realizes.capacity
  alloc := by
    rw [shiftLoop_length, List.length_set]
    exact realizes.alloc
  backs := by
    rw [vec.remove_elems inside, realizes.len]
    exact realizes.backs.shifted inside freed

theorem removed (realizes : Realizes R array vec) {index : Nat}
    (inside : index < vec.elems.length) :
    Realizes R ⟨shiftLoop (array.len - 1 - index) index array.block, array.len - 1, array.capacity⟩
      (vec.remove index) := by
  obtain ⟨cell, there, _⟩ := realizes.load (List.getElem?_eq_getElem inside)
  obtain ⟨held, rfl⟩ := List.getElem?_eq_some_iff.mp there
  have kept := realizes.shifted inside array.block[index]
  rwa [List.set_getElem_self] at kept

theorem remove (realizes : Realizes R array vec) {index : Nat}
    (inside : index < vec.elems.length) :
    ∃ after, array.remove index = some after ∧ Realizes R after (vec.remove index) := by
  have room := realizes.backs.length_le
  refine ⟨_, ?_, realizes.removed inside⟩
  rw [Growable.remove, Block.shift_eq (by rw [realizes.len]; omega)]
  rfl

theorem map_used (realizes : Realizes R array vec) {read : α → γ} {view : β → γ}
    (agrees : ∀ cell x, R cell x → read cell = view x) :
    array.used.map read = vec.elems.map view := by
  rw [Growable.used, realizes.len]
  exact realizes.backs.map_take agrees

theorem of_mem_used (realizes : Realizes R array vec) {cell : α} (member : cell ∈ array.used) :
    ∃ x ∈ vec.elems, R cell x := by
  obtain ⟨index, here⟩ := List.mem_iff_getElem?.mp member
  have short := (List.getElem?_eq_some_iff.mp here).1
  rw [Growable.used, List.length_take] at short
  have inside : index < vec.elems.length := by
    rw [← realizes.len]
    omega
  obtain ⟨same, there, related⟩ := realizes.load (List.getElem?_eq_getElem inside)
  rw [Growable.used, List.getElem?_take_of_lt (by omega), there] at here
  obtain rfl := Option.some.inj here
  exact ⟨_, List.getElem_mem inside, related⟩

end Realizes

/-! ## Steps on both -/

/-- The run over blocks comes to an end, with the result of the other, and in a
state that belongs to the state of the other. -/
def Mirrors {ε σ τ : Type} (belongs : σ → τ → Prop) (run : Option (ε × σ)) (done : ε × τ) : Prop :=
  ∃ after, run = some (done.1, after) ∧ belongs after done.2

theorem Mirrors.intro {ε σ τ : Type} {belongs : σ → τ → Prop} {err : ε} {after : σ} {done : τ}
    (kept : belongs after done) : Mirrors belongs (some (err, after)) (err, done) :=
  ⟨after, rfl, kept⟩

end TopicBroker
