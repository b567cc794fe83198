import Mathlib

/-!
# Bytes in memory

A C string is what stands in front of the first NUL of a piece of memory. A
`Buffer` is an array of a fixed number of bytes: copying into it and cutting a
window out of it keep the number, so no later proof has to recount it.
-/

namespace TopicBroker

abbrev Bytes := List UInt8

/-- The bytes of an ASCII literal. -/
def ascii (text : String) : Bytes := text.toList.map fun c => c.toNat.toUInt8

/-- The C string at the start of a piece of memory. -/
def cstr (memory : Bytes) : Bytes := memory.takeWhile (· != 0)

/-- The byte at a position of a piece of memory. -/
def byteAt (memory : Bytes) (position : Nat) : UInt8 := memory.getD position 0

theorem byteAt_drop (memory : Bytes) (count position : Nat) :
    byteAt (memory.drop count) position = byteAt memory (count + position) := by
  simp only [byteAt, List.getD_eq_getElem?_getD, List.getElem?_drop]

theorem byteAt_append (front back : Bytes) (position : Nat) :
    byteAt (front ++ back) position =
      if position < front.length then byteAt front position
      else byteAt back (position - front.length) := by
  unfold byteAt
  split
  · rename_i inside
    exact List.getD_append _ _ _ _ inside
  · rename_i outside
    exact List.getD_append_right _ _ _ _ (Nat.le_of_not_lt outside)

/-- What a C string can hold. -/
def NulFree (text : Bytes) : Prop := ∀ byte ∈ text, byte ≠ 0

instance (text : Bytes) : Decidable (NulFree text) :=
  inferInstanceAs (Decidable (∀ byte ∈ text, byte ≠ 0))

theorem NulFree.append {first second : Bytes} (left : NulFree first) (right : NulFree second) :
    NulFree (first ++ second) := by
  intro byte member
  rcases List.mem_append.mp member with before | behind
  · exact left byte before
  · exact right byte behind

theorem cstr_nulFree (memory : Bytes) : NulFree (cstr memory) := by
  intro byte member
  simpa using List.mem_takeWhile_imp member

theorem cstr_append_of_nulFree {text : Bytes} (free : NulFree text) (rest : Bytes) :
    cstr (text ++ rest) = text ++ cstr rest := by
  induction text with
  | nil => rfl
  | cons byte text ih =>
      have here : byte ≠ 0 := free byte (by simp)
      have later : NulFree text := fun other member => free other (by simp [member])
      simpa [cstr, here] using ih later

theorem cstr_append_nul {text : Bytes} (free : NulFree text) (rest : Bytes) :
    cstr (text ++ 0 :: rest) = text := by
  rw [cstr_append_of_nulFree free]
  simp [cstr]

theorem cstr_of_nulFree {text : Bytes} (free : NulFree text) : cstr text = text := by
  simpa [cstr] using cstr_append_of_nulFree free []

/-- Memory with a NUL in it splits at the end of its C string. -/
theorem cstr_split {memory : Bytes} (nul : 0 ∈ memory) :
    ∃ rest, memory = cstr memory ++ 0 :: rest := by
  induction memory with
  | nil => simp at nul
  | cons byte memory ih =>
      by_cases here : byte = 0
      · exact ⟨memory, by simp [cstr, here]⟩
      · obtain ⟨rest, eq⟩ := ih (by simpa [Ne.symm here] using nul)
        refine ⟨rest, ?_⟩
        have unfolded : cstr (byte :: memory) = byte :: cstr memory := by simp [cstr, here]
        rw [unfolded, List.cons_append, ← eq]

/-- What follows the first NUL cannot be seen through the C string. -/
theorem cstr_append_of_nul {memory : Bytes} (nul : 0 ∈ memory) (rest : Bytes) :
    cstr (memory ++ rest) = cstr memory := by
  obtain ⟨tail, eq⟩ := cstr_split nul
  have shown : memory ++ rest = cstr memory ++ 0 :: (tail ++ rest) := by
    conv_lhs => rw [eq]
    simp
  rw [shown, cstr_append_nul (cstr_nulFree memory)]

theorem cstr_length_le (memory : Bytes) : (cstr memory).length ≤ memory.length :=
  (List.takeWhile_prefix _).length_le

/-- The C string ends inside the memory exactly when the memory has a NUL. -/
theorem cstr_length_lt_iff {memory : Bytes} :
    (cstr memory).length < memory.length ↔ 0 ∈ memory := by
  constructor
  · intro shorter
    by_contra absent
    have free : NulFree memory := fun byte member zero => absent (zero ▸ member)
    rw [cstr_of_nulFree free] at shorter
    exact Nat.lt_irrefl _ shorter
  · intro nul
    obtain ⟨rest, parts⟩ := cstr_split nul
    have total := congrArg List.length parts
    rw [List.length_append, List.length_cons] at total
    omega

theorem nul_mem_take_iff {memory : Bytes} {count : Nat} (inside : count ≤ memory.length) :
    0 ∈ memory.take count ↔ (cstr memory).length < count := by
  constructor
  · intro nul
    have same : cstr memory = cstr (memory.take count) := by
      conv_lhs => rw [← List.take_append_drop count memory]
      exact cstr_append_of_nul nul _
    have shorter := cstr_length_lt_iff.mpr nul
    rw [List.length_take, Nat.min_eq_left inside, ← same] at shorter
    exact shorter
  · intro shorter
    obtain ⟨rest, parts⟩ := cstr_split (cstr_length_lt_iff.mp (Nat.lt_of_lt_of_le shorter inside))
    rw [parts, List.take_append, List.mem_append]
    right
    obtain ⟨more, eq⟩ : ∃ more, count - (cstr memory).length = more + 1 :=
      Nat.exists_eq_add_one.mpr (by omega)
    rw [eq, List.take_succ_cons]
    exact List.mem_cons_self

structure Buffer (size : Nat) where
  bytes : Bytes
  length_eq : bytes.length = size
  deriving DecidableEq

namespace Buffer

variable {size : Nat}

theorem ext_bytes {first second : Buffer size} (same : first.bytes = second.bytes) :
    first = second := by
  cases first
  cases second
  cases same
  rfl

def zero (size : Nat) : Buffer size := ⟨List.replicate size 0, List.length_replicate⟩

/-- Copy `source` over the bytes from `offset` on; what would fall behind the
end of the array is not part of it. -/
def splice (buffer : Buffer size) (offset : Nat) (source : Bytes) : Buffer size where
  bytes := (buffer.bytes.take offset ++ source ++
    buffer.bytes.drop (offset + source.length)).take size
  length_eq := by
    have length := buffer.length_eq
    simp only [List.length_take, List.length_append, List.length_drop]
    omega

theorem splice_bytes (buffer : Buffer size) {offset : Nat} {source : Bytes}
    (fits : offset + source.length ≤ size) :
    (buffer.splice offset source).bytes =
      buffer.bytes.take offset ++ source ++ buffer.bytes.drop (offset + source.length) := by
  have length := buffer.length_eq
  apply List.take_of_length_le
  simp only [List.length_append, List.length_take, List.length_drop]
  omega

/-- Copying behind a known front keeps the front. -/
theorem splice_behind (buffer : Buffer size) (source : Bytes) {front rest : Bytes}
    (bytes : buffer.bytes = front ++ rest) (fits : front.length + source.length ≤ size) :
    (buffer.splice front.length source).bytes = front ++ source ++ rest.drop source.length := by
  rw [splice_bytes buffer fits, bytes, List.take_left, List.drop_append,
    List.drop_eq_nil_of_le (Nat.le_add_right _ _), List.nil_append, Nat.add_sub_cancel_left]

/-- Copying as many bytes as the array has replaces all of it. -/
theorem splice_whole (buffer : Buffer size) {source : Bytes} (length : source.length = size) :
    (buffer.splice 0 source).bytes = source := by
  rw [splice_bytes buffer (by omega), List.take_zero, List.nil_append,
    List.drop_eq_nil_of_le (by rw [buffer.length_eq]; omega), List.append_nil]

/-- `count` bytes cut out from `offset` on. -/
def window (buffer : Buffer size) (offset count : Nat) (inside : offset + count ≤ size) :
    Buffer count where
  bytes := (buffer.bytes.drop offset).take count
  length_eq := by
    have length := buffer.length_eq
    simp only [List.length_take, List.length_drop]
    omega

end Buffer

/-- A big-endian number. -/
def bigEndian (bytes : Bytes) : Nat := bytes.foldl (fun total byte => 256 * total + byte.toNat) 0

theorem bigEndian_concat (bytes : Bytes) (byte : UInt8) :
    bigEndian (bytes ++ [byte]) = 256 * bigEndian bytes + byte.toNat := by
  simp [bigEndian]

theorem bigEndian_lt (bytes : Bytes) : bigEndian bytes < 256 ^ bytes.length := by
  induction bytes using List.reverseRecOn with
  | nil => exact Nat.zero_lt_one
  | append_singleton bytes byte ih =>
      have small := byte.toNat_lt
      rw [bigEndian_concat, List.length_append, List.length_singleton, Nat.pow_succ]
      omega

/-- Numbers with equally many bytes are equal only when the bytes are. -/
theorem bigEndian_inj {first second : Bytes} (length : first.length = second.length)
    (same : bigEndian first = bigEndian second) : first = second := by
  induction first using List.reverseRecOn generalizing second with
  | nil => exact (List.length_eq_zero_iff.mp length.symm).symm
  | append_singleton front byte ih =>
      rcases List.eq_nil_or_concat second with rfl | ⟨other, last, rfl⟩
      · simp at length
      · have small := byte.toNat_lt
        have also := last.toNat_lt
        rw [List.concat_eq_append] at length same ⊢
        rw [bigEndian_concat, bigEndian_concat] at same
        rw [List.length_append, List.length_append] at length
        have fronts : front = other := ih (Nat.add_right_cancel length) (by omega)
        have bytes : byte = last := UInt8.toNat_inj.mp (by omega)
        rw [fronts, bytes]

end TopicBroker
