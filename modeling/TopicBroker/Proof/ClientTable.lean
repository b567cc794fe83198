import TopicBroker.Model.ClientVec

/-!
# The table of clients

No id and no connection occurs twice, and a descriptor tells whether its client
is connected. Registration and disconnection keep this; nothing else changes an
id, a status or a descriptor.
-/

namespace TopicBroker

/-- What identifies a client and its connection. -/
def ClientType.contact (c : ClientType) : Bytes × ClientStatus × Int := (c.id, c.status, c.fd)

structure ClientTable (clients : ClientVec) : Prop where
  ids : (clients.elems.map ClientType.id).Nodup
  active_iff : ∀ c ∈ clients.elems, c.status = .active ↔ 0 < c.fd
  dead_iff : ∀ c ∈ clients.elems, c.status = .dead ↔ c.fd = -1
  apart : clients.elems.Pairwise fun c d =>
    c.status = .active → d.status = .active → c.fd ≠ d.fd

/-! ## What the invariant can see -/

section Contacts

variable {xs ys : List ClientType}

theorem map_id_of_contacts (same : ys.map ClientType.contact = xs.map ClientType.contact) :
    ys.map ClientType.id = xs.map ClientType.id := by
  have first := congrArg (List.map Prod.fst) same
  rw [List.map_map, List.map_map] at first
  exact first

theorem exists_contact (same : ys.map ClientType.contact = xs.map ClientType.contact)
    {d : ClientType} (member : d ∈ ys) : ∃ c ∈ xs, c.contact = d.contact := by
  have mapped : d.contact ∈ xs.map ClientType.contact := by
    rw [← same]
    exact List.mem_map_of_mem member
  exact List.mem_map.mp mapped

theorem mem_of_contacts (same : ys.map ClientType.contact = xs.map ClientType.contact)
    {d : ClientType} (member : d ∈ ys) : ∃ c ∈ xs, c.status = d.status ∧ c.fd = d.fd := by
  obtain ⟨c, old, eq⟩ := exists_contact same member
  simp only [ClientType.contact, Prod.mk.injEq] at eq
  exact ⟨c, old, eq.2.1, eq.2.2⟩

theorem pairwise_of_contacts (same : ys.map ClientType.contact = xs.map ClientType.contact)
    (apart : xs.Pairwise fun c d => c.status = .active → d.status = .active → c.fd ≠ d.fd) :
    ys.Pairwise fun c d => c.status = .active → d.status = .active → c.fd ≠ d.fd := by
  let differ (p q : Bytes × ClientStatus × Int) : Prop :=
    p.2.1 = .active → q.2.1 = .active → p.2.2 ≠ q.2.2
  have mapped : (xs.map ClientType.contact).Pairwise differ := List.pairwise_map.mpr apart
  rw [← same] at mapped
  exact List.pairwise_map.mp mapped

end Contacts

/-! ## Registration -/

namespace Registered

variable {clients after : ClientVec} {id : Bytes} {fd : Int}

theorem owner (enrolled : Registered clients id fd after) :
    ∃ c ∈ after.elems, c.status = .active ∧ c.fd = fd := by
  cases enrolled with
  | again iter c here same dead =>
      obtain ⟨inside, _⟩ := List.getElem?_eq_some_iff.mp here
      exact ⟨_, List.mem_set inside _, rfl, rfl⟩
  | fresh absent =>
      exact ⟨_, List.mem_append_right _ (List.mem_singleton.mpr rfl), rfl, rfl⟩

theorem found (enrolled : Registered clients id fd after) :
    ∃ index c, locate (fun c => c.fd == fd) after.elems = some (index, c) := by
  obtain ⟨owner, member, _, owns⟩ := enrolled.owner
  cases found : locate (fun c => c.fd == fd) after.elems with
  | none =>
      have missed := locate_eq_none_iff.mp found owner member
      simp [owns] at missed
  | some pair => exact ⟨pair.1, pair.2, rfl⟩

/-- An entry is an old one or the one that owns the new descriptor. -/
theorem origin (enrolled : Registered clients id fd after) :
    ∀ d ∈ after.elems, d ∈ clients.elems ∨ (d.status = .active ∧ d.fd = fd ∧ d.id = id) := by
  intro d member
  cases enrolled with
  | again iter c here same dead =>
      rcases mem_set_cases member with rfl | old
      · exact Or.inr ⟨rfl, rfl, same⟩
      · exact Or.inl old
  | fresh absent =>
      rcases List.mem_append.mp member with old | new
      · exact Or.inl old
      · rw [List.mem_singleton.mp new]
        exact Or.inr ⟨rfl, rfl, rfl⟩

/-- Connected clients keep their entries. -/
theorem kept (enrolled : Registered clients id fd after) :
    ∀ c ∈ clients.elems, c.status = .active → c ∈ after.elems := by
  intro d member active
  cases enrolled with
  | again iter c here same dead =>
      apply mem_set_of_apart here member
      rintro rfl
      rw [dead] at active
      cases active
  | fresh absent => exact List.mem_append_left _ member

theorem ids (enrolled : Registered clients id fd after)
    (distinct : (clients.elems.map ClientType.id).Nodup) :
    (after.elems.map ClientType.id).Nodup := by
  cases enrolled with
  | again iter c here same dead =>
      rw [Vec.set_elems, map_set_of_eq here (by rfl)]
      exact distinct
  | fresh absent =>
      rw [Vec.push_elems, List.map_append]
      refine List.nodup_append.mpr ⟨distinct, List.nodup_singleton _, ?_⟩
      intro old member new single
      obtain ⟨c, here, rfl⟩ := List.mem_map.mp member
      rw [List.map_singleton, List.mem_singleton] at single
      rw [single]
      exact absent c here

theorem apart (enrolled : Registered clients id fd after)
    (elsewhere : ∀ c ∈ clients.elems, c.status = .active → c.fd ≠ fd)
    (before : clients.elems.Pairwise fun c d =>
      c.status = .active → d.status = .active → c.fd ≠ d.fd) :
    after.elems.Pairwise fun c d => c.status = .active → d.status = .active → c.fd ≠ d.fd := by
  cases enrolled with
  | again iter c here same dead =>
      refine pairwise_set (fun _ _ differ first second => (differ second first).symm) before ?_
      intro other d _ there _ active owns
      exact elsewhere d (List.mem_of_getElem? there) active owns.symm
  | fresh absent =>
      refine List.pairwise_append.mpr ⟨before, List.pairwise_singleton _ _, ?_⟩
      intro c member d single active _
      rw [List.mem_singleton.mp single]
      exact elsewhere c member active

end Registered

namespace ClientTable

variable {clients : ClientVec}

theorem of_nil (empty : clients.elems = []) : ClientTable clients where
  ids := by simp [empty]
  active_iff := by simp [empty]
  dead_iff := by simp [empty]
  apart := by simp [empty]

/-- The invariant sees the contacts only. -/
theorem congr {other : ClientVec} (table : ClientTable clients)
    (same : other.elems.map ClientType.contact = clients.elems.map ClientType.contact) :
    ClientTable other where
  ids := by
    rw [map_id_of_contacts same]
    exact table.ids
  active_iff := by
    intro d member
    obtain ⟨c, old, status, fd⟩ := mem_of_contacts same member
    rw [← status, ← fd]
    exact table.active_iff c old
  dead_iff := by
    intro d member
    obtain ⟨c, old, status, fd⟩ := mem_of_contacts same member
    rw [← status, ← fd]
    exact table.dead_iff c old
  apart := pairwise_of_contacts same table.apart

theorem registered (table : ClientTable clients) {fd : Int} (positive : 0 < fd)
    (elsewhere : ∀ c ∈ clients.elems, c.status = .active → c.fd ≠ fd) {id : Bytes}
    {after : ClientVec} (enrolled : Registered clients id fd after) : ClientTable after where
  ids := enrolled.ids table.ids
  active_iff := by
    intro d member
    rcases enrolled.origin d member with old | ⟨active, owns, _⟩
    · exact table.active_iff d old
    · rw [active, owns]
      simp [positive]
  dead_iff := by
    intro d member
    rcases enrolled.origin d member with old | ⟨active, owns, _⟩
    · exact table.dead_iff d old
    · rw [active, owns]
      constructor
      · intro impossible
        cases impossible
      · intro negative
        omega
  apart := enrolled.apart elsewhere table.apart

/-! ## Disconnection -/

theorem closed (table : ClientTable clients) {index : Nat} {c : ClientType}
    (here : clients.elems[index]? = some c) :
    ClientTable (clients.set index { c with status := .dead, fd := -1 }) where
  ids := by
    rw [Vec.set_elems, map_set_of_eq here (by rfl)]
    exact table.ids
  active_iff := by
    intro d new
    rcases mem_set_cases new with rfl | old
    · simp
    · exact table.active_iff d old
  dead_iff := by
    intro d new
    rcases mem_set_cases new with rfl | old
    · simp
    · exact table.dead_iff d old
  apart := by
    refine pairwise_set (fun _ _ differ first second => (differ second first).symm) table.apart ?_
    intro _ _ _ _ impossible
    cases impossible

/-! ## Looking up -/

theorem index_of_id (table : ClientTable clients) {index other : Nat} {c d : ClientType}
    (here : clients.elems[index]? = some c) (there : clients.elems[other]? = some d)
    (same : d.id = c.id) : other = index := by
  have mappedHere : (clients.elems.map ClientType.id)[index]? = some c.id := by
    rw [List.getElem?_map, here]
    rfl
  have mappedThere : (clients.elems.map ClientType.id)[other]? = some c.id := by
    rw [List.getElem?_map, there, ← same]
    rfl
  obtain ⟨inside, _⟩ := List.getElem?_eq_some_iff.mp mappedThere
  exact (List.getElem?_inj inside table.ids).mp (mappedThere.trans mappedHere.symm)

theorem locate_id (table : ClientTable clients) {index : Nat} {c : ClientType}
    (here : clients.elems[index]? = some c) :
    locate (fun d => d.id == c.id) clients.elems = some (index, c) := by
  cases found : locate (fun d => d.id == c.id) clients.elems with
  | none =>
      have missed := locate_eq_none_iff.mp found c (List.mem_of_getElem? here)
      simp at missed
  | some pair =>
      obtain ⟨there, same, _⟩ := locate_eq_some found
      have place : pair.1 = index := table.index_of_id here there (by simpa using same)
      rw [place, here] at there
      rw [← place, Option.some.inj there]

/-- An id that was seen before is registered again unless it is connected. -/
theorem registers_again (table : ClientTable clients) {c : ClientType}
    (member : c ∈ clients.elems) (dead : c.status = .dead) (clientFd : Int)
    (alloc : RegisterAlloc) : (registerNewClient clients c.id clientFd alloc).1 = .ok := by
  obtain ⟨index, here⟩ := List.mem_iff_getElem?.mp member
  rw [registerNewClient, table.locate_id here]
  simp [dead]

/-- An id is turned away as connected exactly when one of the clients is. -/
theorem turned_away_iff (table : ClientTable clients) (id : Bytes) (clientFd : Int)
    (alloc : RegisterAlloc) :
    (registerNewClient clients id clientFd alloc).1 = .clientVecClientAlreadyConnected ↔
      ∃ c ∈ clients.elems, c.status = .active ∧ c.id = id := by
  constructor
  · intro away
    unfold registerNewClient at away
    cases found : locate (fun c => c.id == id) clients.elems with
    | some pair =>
        obtain ⟨here, same, _⟩ := locate_eq_some found
        rw [found] at away
        cases status : pair.2.status with
        | active => exact ⟨pair.2, List.mem_of_getElem? here, status, by simpa using same⟩
        | dead => simp [status] at away
    | none =>
        rw [found] at away
        dsimp only at away
        split at away
        · cases away
        · split at away
          · cases away
          · split at away
            · cases away
            · split at away
              · cases away
              · split at away <;> cases away
  · rintro ⟨c, member, active, rfl⟩
    obtain ⟨index, here⟩ := List.mem_iff_getElem?.mp member
    rw [registerNewClient, table.locate_id here]
    simp [active]

theorem index_of_fd (table : ClientTable clients) {index other : Nat} {c d : ClientType}
    (here : clients.elems[index]? = some c) (there : clients.elems[other]? = some d)
    (active : c.status = .active) (alive : d.status = .active) (same : d.fd = c.fd) :
    other = index := by
  by_contra different
  have related := List.pairwise_iff_getElem.mp table.apart
  obtain ⟨otherInside, rfl⟩ := List.getElem?_eq_some_iff.mp there
  obtain ⟨indexInside, rfl⟩ := List.getElem?_eq_some_iff.mp here
  rcases Nat.lt_or_gt_of_ne different with before | behind
  · exact related _ _ otherInside indexInside before alive active same
  · exact related _ _ indexInside otherInside behind active alive same.symm

/-- A descriptor that is not negative is only found with a connected client. -/
theorem active_of_fd (table : ClientTable clients) {c : ClientType} (member : c ∈ clients.elems)
    (valid : ¬ c.fd < 0) : c.status = .active := by
  cases status : c.status with
  | active => rfl
  | dead =>
      have negative := (table.dead_iff c member).mp status
      omega

end ClientTable

/-- When the memory is granted, an id that is not connected is registered. -/
theorem registerNewClient_free {clients : ClientVec} {id : Bytes}
    (free : ∀ c ∈ clients.elems, c.id = id → c.status = .dead) (clientFd : Int) :
    (registerNewClient clients id clientFd .succeed).1 = .ok := by
  unfold registerNewClient
  cases found : locate (fun c => c.id == id) clients.elems with
  | some pair =>
      obtain ⟨here, same, _⟩ := locate_eq_some found
      have dead := free pair.2 (List.mem_of_getElem? here) (by simpa using same)
      simp [dead]
  | none => simp [RegisterAlloc.succeed]

end TopicBroker
