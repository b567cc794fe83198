import TopicBroker.Lib.Bytes

/-!
# What the string functions look at

`strlen`, `strcpy` and `printf` look at a C string up to and including its NUL,
`strcmp` only as far as the two strings agree and one byte more. None of them
knows where the memory they were given ends.
-/

namespace TopicBroker

/-- `count` positions from `start` on. -/
def scanned (start count : Nat) : List Int :=
  (List.range count).map fun index => ((start + index : Nat) : Int)

theorem mem_scanned {start count : Nat} {position : Int} :
    position ∈ scanned start count ↔
      (start : Int) ≤ position ∧ position < (start + count : Nat) := by
  simp only [scanned, List.mem_map, List.mem_range]
  constructor
  · rintro ⟨index, inside, rfl⟩
    omega
  · rintro ⟨low, high⟩
    exact ⟨(position - start).toNat, by omega, by omega⟩

/-- How many bytes of `memory` are compared with the C string `stored`. -/
def strcmpReads : Bytes → Bytes → Nat
  | [], _ => 1
  | _ :: _, [] => 1
  | first :: stored, byte :: memory =>
      if first = byte ∧ byte ≠ 0 then strcmpReads stored memory + 1 else 1

theorem strcmpReads_le (stored memory : Bytes) :
    strcmpReads stored memory ≤ (cstr memory).length + 1 := by
  induction stored generalizing memory with
  | nil => simp [strcmpReads]
  | cons first stored ih =>
      cases memory with
      | nil => simp [strcmpReads]
      | cons byte memory =>
          by_cases agree : first = byte ∧ byte ≠ 0
          · have longer : cstr (byte :: memory) = byte :: cstr memory := by
              simp [cstr, agree.2]
            rw [strcmpReads, if_pos agree, longer, List.length_cons]
            exact Nat.succ_le_succ (ih memory)
          · rw [strcmpReads, if_neg agree]
            exact Nat.le_add_left _ _

/-- A string that is found again is compared up to its NUL. -/
theorem strcmpReads_self {text : Bytes} (free : NulFree text) (rest : Bytes) :
    strcmpReads text (text ++ rest) = text.length + 1 := by
  induction text with
  | nil => rfl
  | cons byte text ih =>
      have here : byte ≠ 0 := free byte List.mem_cons_self
      have later : NulFree text := fun other member => free other (List.mem_cons_of_mem _ member)
      rw [List.cons_append, strcmpReads, if_pos ⟨rfl, here⟩, ih later, List.length_cons]

/-- How many bytes of `memory` are compared when its C string is looked up
among stored ones; the search ends at the first that is equal. -/
def searchReads : List Bytes → Bytes → Nat
  | [], _ => 0
  | stored :: rest, memory =>
      if stored = cstr memory then strcmpReads stored memory
      else max (strcmpReads stored memory) (searchReads rest memory)

theorem searchReads_le (texts : List Bytes) (memory : Bytes) :
    searchReads texts memory ≤ (cstr memory).length + 1 := by
  induction texts with
  | nil => exact Nat.zero_le _
  | cons stored rest ih =>
      rw [searchReads]
      split
      · exact strcmpReads_le stored memory
      · exact Nat.max_le.mpr ⟨strcmpReads_le stored memory, ih⟩

end TopicBroker
