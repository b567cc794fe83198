import TopicBroker.Model.ClientVec

/-!
# The subscriptions of one client

The parallel arrays of a client read as a partial map from topics to options,
and what the four operations on the arrays do to the map.
-/

namespace TopicBroker

universe u

/-- In a list without repetition the search for a value finds the place where it stands. -/
theorem locate_of_nodup {xs : List Bytes} (nodup : xs.Nodup) {index : Nat} {x : Bytes}
    (here : xs[index]? = some x) : locate (fun y => y == x) xs = some (index, x) := by
  apply locate_eq_some_of_unique here (by simp)
  intro other y there same
  have equal : y = x := by simpa using same
  subst equal
  obtain ⟨inside, _⟩ := List.getElem?_eq_some_iff.mp there
  exact (List.getElem?_inj inside nodup).mp (there.trans here.symm)

theorem mem_of_locate {xs : List Bytes} {x : Bytes} {found : Nat × Bytes}
    (located : locate (fun y => y == x) xs = some found) : xs[found.1]? = some x := by
  obtain ⟨here, same, _⟩ := locate_eq_some located
  have equal : found.2 = x := by simpa using same
  rw [here, equal]

namespace TopicTable

/-- The option under which a topic is subscribed, `none` when it is not. -/
def option? (table : TopicTable) (name : Bytes) : Option ClientOption :=
  (locate (fun topic => topic == name) table.topics).bind fun found => table.options[found.1]?

variable {table : TopicTable} {name topic : Bytes} {option : ClientOption}

theorem option?_none_iff : table.option? name = none ↔ name ∉ table.topics := by
  unfold option?
  cases located : locate (fun topic => topic == name) table.topics with
  | none =>
      have missed := locate_eq_none_iff.mp located
      simp only [Option.bind_none, true_iff]
      intro member
      simpa using missed name member
  | some found =>
      have here := mem_of_locate located
      obtain ⟨inside, _⟩ := List.getElem?_eq_some_iff.mp here
      have paired : found.1 < table.options.length := by rw [table.aligned]; exact inside
      simp only [Option.bind_some, List.getElem?_eq_none_iff]
      constructor
      · intro beyond
        omega
      · intro absent
        exact absurd (List.mem_of_getElem? here) absent

theorem option?_of_locate {found : Nat × Bytes}
    (located : locate (fun topic => topic == name) table.topics = some found) :
    table.option? name = table.options[found.1]? := by
  rw [option?, located, Option.bind_some]

/-- Without repeated topics the map is what the two arrays hold at equal indices. -/
theorem option?_eq_some_iff (nodup : table.topics.Nodup) :
    table.option? name = some option ↔
      ∃ index : Nat, table.topics[index]? = some name ∧ table.options[index]? = some option := by
  constructor
  · intro subscribed
    cases located : locate (fun topic => topic == name) table.topics with
    | none => simp [option?, located] at subscribed
    | some found =>
        rw [option?_of_locate located] at subscribed
        exact ⟨found.1, mem_of_locate located, subscribed⟩
  · rintro ⟨index, here, paired⟩
    rw [option?_of_locate (locate_of_nodup nodup here), paired]

theorem option?_create (capacity : Nat) (positive : 0 < capacity) :
    (create capacity positive).option? name = none :=
  option?_none_iff.mpr List.not_mem_nil

theorem nodup_push (nodup : table.topics.Nodup) (absent : topic ∉ table.topics) :
    (table.push topic option).topics.Nodup := by
  refine List.nodup_append.mpr ⟨nodup, List.nodup_singleton topic, ?_⟩
  intro old member new single
  rw [List.mem_singleton.mp single]
  rintro rfl
  exact absent member

theorem option?_push (nodup : table.topics.Nodup) (absent : topic ∉ table.topics) :
    (table.push topic option).option? = Function.update table.option? topic (some option) := by
  funext name
  apply Option.ext
  intro found
  rw [option?_eq_some_iff (nodup_push nodup absent)]
  change (∃ index : Nat, (table.topics ++ [topic])[index]? = some name ∧
    (table.options ++ [option])[index]? = some found) ↔ _
  by_cases same : name = topic
  · subst same
    rw [Function.update_self]
    constructor
    · rintro ⟨index, here, paired⟩
      rcases Nat.lt_or_ge index table.topics.length with old | new
      · rw [List.getElem?_append_left old] at here
        exact absurd (List.mem_of_getElem? here) absent
      · rw [List.getElem?_append_right (by rw [table.aligned]; exact new), table.aligned] at paired
        rw [List.getElem?_append_right new] at here
        have last : index - table.topics.length = 0 := by
          obtain ⟨inside, _⟩ := List.getElem?_eq_some_iff.mp here
          simpa using inside
        rw [last] at paired
        exact paired
    · rintro paired
      refine ⟨table.topics.length, by simp, ?_⟩
      rw [List.getElem?_append_right (Nat.le_of_eq table.aligned), table.aligned, Nat.sub_self]
      exact paired
  · rw [Function.update_of_ne same, option?_eq_some_iff nodup]
    constructor
    · rintro ⟨index, here, paired⟩
      rcases Nat.lt_or_ge index table.topics.length with old | new
      · rw [List.getElem?_append_left old] at here
        rw [List.getElem?_append_left (by rw [table.aligned]; exact old)] at paired
        exact ⟨index, here, paired⟩
      · rw [List.getElem?_append_right new] at here
        have member := List.mem_of_getElem? here
        exact absurd (List.mem_singleton.mp member) same
    · rintro ⟨index, here, paired⟩
      obtain ⟨inside, _⟩ := List.getElem?_eq_some_iff.mp here
      refine ⟨index, ?_, ?_⟩
      · rw [List.getElem?_append_left inside, here]
      · rw [List.getElem?_append_left (by rw [table.aligned]; exact inside), paired]

theorem option?_setOption (nodup : table.topics.Nodup) {index : Nat}
    (here : table.topics[index]? = some topic) :
    (table.setOption index option).option? =
      Function.update table.option? topic (some option) := by
  funext name
  apply Option.ext
  intro found
  have kept : (table.setOption index option).topics.Nodup := nodup
  obtain ⟨inside, _⟩ := List.getElem?_eq_some_iff.mp here
  rw [option?_eq_some_iff kept]
  change (∃ other : Nat, table.topics[other]? = some name ∧
    (table.options.set index option)[other]? = some found) ↔ _
  have paired : index < table.options.length := by rw [table.aligned]; exact inside
  by_cases same : name = topic
  · subst same
    rw [Function.update_self]
    constructor
    · rintro ⟨other, there, written⟩
      obtain ⟨within, _⟩ := List.getElem?_eq_some_iff.mp there
      have equal : other = index := (List.getElem?_inj within nodup).mp (there.trans here.symm)
      rw [equal, List.getElem?_set_self paired] at written
      exact written
    · intro written
      exact ⟨index, here, by rw [List.getElem?_set_self paired, written]⟩
  · rw [Function.update_of_ne same, option?_eq_some_iff nodup]
    constructor
    · rintro ⟨other, there, written⟩
      have apart : index ≠ other := by
        rintro rfl
        exact same (Option.some.inj (there.symm.trans here))
      rw [List.getElem?_set_ne apart] at written
      exact ⟨other, there, written⟩
    · rintro ⟨other, there, stored⟩
      have apart : index ≠ other := by
        rintro rfl
        exact same (Option.some.inj (there.symm.trans here))
      exact ⟨other, there, by rw [List.getElem?_set_ne apart, stored]⟩

theorem remove_topics {index : Nat} (inside : index < table.topics.length) :
    (table.remove index).topics = table.topics.eraseIdx index := shiftOut_eq_eraseIdx inside

theorem remove_options {index : Nat} (inside : index < table.topics.length) :
    (table.remove index).options = table.options.eraseIdx index :=
  shiftOut_eq_eraseIdx (by rw [table.aligned]; exact inside)

theorem nodup_remove (nodup : table.topics.Nodup) {index : Nat}
    (inside : index < table.topics.length) : (table.remove index).topics.Nodup := by
  rw [remove_topics inside]
  exact nodup.sublist (List.eraseIdx_sublist _ _)

/-- Every other topic keeps its own option. -/
theorem option?_remove (nodup : table.topics.Nodup) {index : Nat}
    (here : table.topics[index]? = some topic) :
    (table.remove index).option? = Function.update table.option? topic none := by
  obtain ⟨inside, _⟩ := List.getElem?_eq_some_iff.mp here
  funext name
  apply Option.ext
  intro found
  rw [option?_eq_some_iff (nodup_remove nodup inside), remove_topics inside, remove_options inside]
  simp only [List.getElem?_eraseIdx]
  by_cases same : name = topic
  · subst same
    rw [Function.update_self]
    -- no other place of the old table holds the topic
    have place : ∀ other, table.topics[other]? = some name → other = index := by
      intro other there
      obtain ⟨within, _⟩ := List.getElem?_eq_some_iff.mp there
      exact (List.getElem?_inj within nodup).mp (there.trans here.symm)
    constructor
    · rintro ⟨other, there, _⟩
      exfalso
      split at there
      · rename_i before
        have equal := place _ there
        omega
      · rename_i behind
        have equal := place _ there
        omega
    · intro impossible
      cases impossible
  · rw [Function.update_of_ne same, option?_eq_some_iff nodup]
    constructor
    · rintro ⟨other, there, paired⟩
      by_cases before : other < index
      · rw [if_pos before] at there paired
        exact ⟨other, there, paired⟩
      · rw [if_neg before] at there paired
        exact ⟨other + 1, there, paired⟩
    · rintro ⟨other, there, paired⟩
      have apart : other ≠ index := by
        rintro rfl
        exact same (Option.some.inj (there.symm.trans here))
      by_cases before : other < index
      · exact ⟨other, by rw [if_pos before, there], by rw [if_pos before, paired]⟩
      · have back : other - 1 + 1 = other := by omega
        have behind : ¬ other - 1 < index := by omega
        exact ⟨other - 1, by rw [if_neg behind, back, there], by rw [if_neg behind, back, paired]⟩

end TopicTable

/-! ## The tables of all clients -/

/-- No client is subscribed twice to one topic. -/
def DistinctTopics (clients : ClientVec) : Prop :=
  ∀ c ∈ clients.elems, c.table.topics.Nodup

namespace DistinctTopics

variable {clients : ClientVec}

theorem set (distinct : DistinctTopics clients) {index : Nat} {d : ClientType}
    (nodup : d.table.topics.Nodup) : DistinctTopics (clients.set index d) := by
  intro c member
  rcases mem_set_cases member with rfl | old
  · exact nodup
  · exact distinct c old

theorem registered (distinct : DistinctTopics clients) {id : Bytes} {fd : Int}
    {after : ClientVec} (enrolled : Registered clients id fd after) : DistinctTopics after := by
  cases enrolled with
  | again iter c here same dead => exact distinct.set (distinct c (List.mem_of_getElem? here))
  | fresh absent =>
      intro d member
      rcases List.mem_append.mp member with old | new
      · exact distinct d old
      · rw [List.mem_singleton.mp new]
        exact List.nodup_nil

end DistinctTopics

end TopicBroker
