import TopicBroker.Proof.References

/-!
# What one round does to one client

Seen from one entry of the table a round does one of five things. Only a
connected client is subscribed or unsubscribed, only one that was away comes
back, and whoever comes back has an empty queue unless a message could not be packed.
-/

namespace TopicBroker

/-- The entry `c` of the table before a round that leads from `s` to `t`, and
the entry in its place afterwards. -/
inductive EntryStep (kernel : Kernel) (s t : Server) (c : ClientType) : ClientType → Prop where
  | same : EntryStep kernel s t c c
  | stacked (source : Ref) (msg : UdpType) (keeps : c.keeps msg.name)
      (stored : t.stored? source = some msg) : EntryStep kernel s t c (c.stack source)
  | returned (fd : Int) (kept : Nat) (dead : c.status = .dead)
      (emptied : kept = 0 ∨ ∃ source ∈ c.readyMsgs.elems, ¬ (s.deref kernel source).Known) :
      EntryStep kernel s t c (ClientType.truncate { c with fd := fd, status := .active } kept)
  | edited (table : TopicTable) (active : c.status = .active) :
      EntryStep kernel s t c { c with table := table }
  | closed (active : c.status = .active) :
      EntryStep kernel s t c { c with status := .dead, fd := -1 }

structure EntriesStep (kernel : Kernel) (s t : Server) : Prop where
  old : ∀ (index : Nat) (c : ClientType), s.clients.elems[index]? = some c →
    ∃ d, t.clients.elems[index]? = some d ∧ EntryStep kernel s t c d
  fresh : ∀ (index : Nat) (d : ClientType), t.clients.elems[index]? = some d →
    s.clients.elems.length ≤ index → d.readyMsgs.elems = []

namespace EntriesStep

variable {kernel : Kernel} {s t : Server}

theorem of_same (same : t.clients.elems = s.clients.elems) : EntriesStep kernel s t where
  old := fun index c here => ⟨c, by rw [same, here], .same⟩
  fresh := by
    intro index d there beyond
    rw [same, List.getElem?_eq_none beyond] at there
    cases there

theorem of_set {index : Nat} {c d : ClientType} (here : s.clients.elems[index]? = some c)
    (step : EntryStep kernel s t c d) (after : t.clients.elems = s.clients.elems.set index d) :
    EntriesStep kernel s t where
  old := by
    intro other e there
    rw [after]
    by_cases same : index = other
    · subst same
      rw [here] at there
      cases there
      obtain ⟨inside, _⟩ := List.getElem?_eq_some_iff.mp here
      exact ⟨d, List.getElem?_set_self inside, step⟩
    · exact ⟨e, by rw [List.getElem?_set_ne same, there], .same⟩
  fresh := by
    intro other e there beyond
    rw [after, List.getElem?_eq_none (by rw [List.length_set]; exact beyond)] at there
    cases there

theorem of_push {d : ClientType} (empty : d.readyMsgs.elems = [])
    (after : t.clients.elems = s.clients.elems ++ [d]) : EntriesStep kernel s t where
  old := by
    intro index c here
    obtain ⟨inside, _⟩ := List.getElem?_eq_some_iff.mp here
    exact ⟨c, by rw [after, List.getElem?_append_left inside, here], .same⟩
  fresh := by
    intro index e there beyond
    rw [after, List.getElem?_append_right beyond] at there
    rw [List.mem_singleton.mp (List.mem_of_getElem? there), empty]

/-- An entry afterwards has an empty queue or comes from an entry before. -/
theorem source_cases (step : EntriesStep kernel s t) {d : ClientType}
    (member : d ∈ t.clients.elems) :
    d.readyMsgs.elems = [] ∨ ∃ c ∈ s.clients.elems, EntryStep kernel s t c d := by
  obtain ⟨index, there⟩ := List.mem_iff_getElem?.mp member
  rcases Nat.lt_or_ge index s.clients.elems.length with inside | beyond
  · have here := List.getElem?_eq_getElem inside
    obtain ⟨e, place, step⟩ := step.old index _ here
    rw [there] at place
    cases place
    exact Or.inr ⟨_, List.mem_of_getElem? here, step⟩
  · exact Or.inl (step.fresh index d there beyond)

end EntriesStep

/-! ## The datagrams -/

theorem publish_entries {kernel : Kernel} {s r : Server} (same : r.clients = s.clients)
    (ran : (publish kernel r).err = .ok) : EntriesStep kernel s (publish kernel r).server := by
  obtain ⟨_, _, clients, server, elems, _⟩ := publish_ok ran
  rw [server]
  constructor
  · intro index c here
    have there : clients.elems[index]? =
        some (c.notified (r.nextRef kernel) r.parsed.name) := by
      rw [elems, same, List.getElem?_map, here]
      rfl
    refine ⟨_, there, ?_⟩
    unfold ClientType.notified
    split
    · rename_i keeps
      exact .stacked _ r.parsed keeps (Server.stored_nextRef kernel r)
    · exact .same
  · intro index d there beyond
    change clients.elems[index]? = some d at there
    rw [elems, List.getElem?_eq_none (by rw [List.length_map, same]; exact beyond)] at there
    cases there

theorem serveUdp_entries {kernel : Kernel} {iter : Nat} {s : Server} :
    (serveUdp kernel iter s).err = .ok →
      EntriesStep kernel s (serveUdp kernel iter s).server := by
  refine serveUdp_branches (motive := fun done => done.err = .ok →
    EntriesStep kernel s done.server) kernel iter s ?_ ?_ ?_
  · exact fun _ ran => publish_entries rfl ran
  · exact fun _ _ _ _ _ => .of_same rfl
  · exact fun addr payload _ _ ran => publish_entries (r := s.receive addr payload) rfl ran

/-! ## The connections -/

/-- A topic is only added or removed for a client found at a valid descriptor. -/
theorem processServerTcpMsg_entries (kernel : Kernel) (clientFd : Int) {s u : Server}
    (inv : ClientTable s.clients) (same : s.clients = u.clients) :
    EntriesStep kernel u (processServerTcpMsg kernel clientFd s).2 := by
  have valid : ∀ {iter : Nat} {c : ClientType}, ¬ clientFd < 0 →
      locate (fun c => c.fd == clientFd) s.clients.elems = some (iter, c) →
        u.clients.elems[iter]? = some c ∧ c.status = .active := by
    intro iter c positive found
    obtain ⟨here, owner, _⟩ := locate_eq_some found
    have owns : c.fd = clientFd := by simpa using owner
    exact ⟨same ▸ here, inv.active_of_fd (List.mem_of_getElem? here) (owns ▸ positive)⟩
  unfold processServerTcpMsg subscribeClientToTopic unsubscribeClientFromTopic
  dsimp only
  split
  · split
    · exact .of_same (by rw [same])
    · rename_i positive
      cases found : locate (fun c => c.fd == clientFd) s.clients.elems with
      | none => exact .of_same (by rw [same])
      | some pair =>
          obtain ⟨here, active⟩ := valid positive found
          obtain ⟨table, eq, _⟩ := pair.2.subscribe_table _ _ kernel.subscribe
          dsimp only
          rw [eq]
          exact .of_set here (.edited table active) (by rw [same]; rfl)
  · split
    · split
      · exact .of_same (by rw [same])
      · rename_i positive
        cases found : locate (fun c => c.fd == clientFd) s.clients.elems with
        | none => exact .of_same (by rw [same])
        | some pair =>
            obtain ⟨here, active⟩ := valid positive found
            obtain ⟨table, eq, _⟩ := pair.2.unsubscribe_table _
            dsimp only
            rw [eq]
            exact .of_set here (.edited table active) (by rw [same]; rfl)
    · exact .of_same (by rw [same])

theorem serveClient_entries (kernel : Kernel) (iter : Nat) (fd : Int) {s : Server}
    (inv : ClientTable s.clients) : EntriesStep kernel s (serveClient kernel iter fd s).server := by
  unfold serveClient
  dsimp only
  split
  · split
    · exact .of_same rfl
    · rename_i closed
      obtain ⟨index, c, here, _, active, after⟩ := closeActiveClient_ok (not_not.mp closed)
      exact .of_set here (.closed active) (by rw [after]; rfl)
  · exact processServerTcpMsg_entries kernel fd inv rfl

/-! ## The listener -/

/-- The client that is found at a new descriptor is the one that was just registered. -/
theorem Registered.located {clients after : ClientVec} {id : Bytes} {fd : Int}
    (enrolled : Registered clients id fd after) (unowned : ∀ c ∈ clients.elems, c.fd ≠ fd)
    {index : Nat} {c : ClientType}
    (found : locate (fun c => c.fd == fd) after.elems = some (index, c)) :
    (∃ old, clients.elems[index]? = some old ∧ old.id = id ∧ old.status = .dead ∧
        c = { old with fd := fd, status := .active } ∧
          ∀ d, after.elems.set index d = clients.elems.set index d) ∨
      (c = .fresh id fd ∧ (∀ d ∈ clients.elems, d.id ≠ id) ∧
        ∀ d, after.elems.set index d = clients.elems ++ [d]) := by
  obtain ⟨here, owner, _⟩ := locate_eq_some found
  have owns : c.fd = fd := by simpa using owner
  cases enrolled with
  | again iter old place same dead =>
      have equal : iter = index := by
        by_contra different
        rw [Vec.set_elems, List.getElem?_set_ne different] at here
        exact unowned c (List.mem_of_getElem? here) owns
      subst equal
      obtain ⟨inside, _⟩ := List.getElem?_eq_some_iff.mp place
      rw [Vec.set_elems, List.getElem?_set_self inside] at here
      cases here
      exact Or.inl ⟨old, place, same, dead, rfl, fun d => by rw [Vec.set_elems, List.set_set]⟩
  | fresh absent =>
      rw [Vec.push_elems] at here ⊢
      have beyond : clients.elems.length ≤ index := by
        by_contra inside
        rw [List.getElem?_append_left (Nat.lt_of_not_le inside)] at here
        exact unowned c (List.mem_of_getElem? here) owns
      rw [List.getElem?_append_right beyond] at here
      obtain ⟨last, _⟩ := List.getElem?_eq_some_iff.mp here
      have place : index = clients.elems.length := by
        rw [List.length_singleton] at last
        omega
      refine Or.inr ⟨List.mem_singleton.mp (List.mem_of_getElem? here), absent, fun d => ?_⟩
      rw [place]
      simp

/-- No entry has a descriptor that is not polled. -/
theorem ConnectionTable.unowned {s : Server} (inv : ConnectionTable s) {fd : Int}
    (positive : 0 < fd) (unopened : fd ∉ s.pollVec.fds) : ∀ c ∈ s.clients.elems, c.fd ≠ fd := by
  rintro c member rfl
  have active := inv.active_of_fd member (by omega)
  exact unopened (inv.conn_polled member active)

/-- The loop keeps messages only in front of one that cannot be packed. -/
theorem retransmitLoop_kept (kernel : Kernel) (s : Server) (c : ClientType) (clientFd : Int)
    (count : Nat) (sendMsg : TcpMsg) :
    (retransmitLoop kernel s c clientFd count sendMsg).1.kept = 0 ∨
      ∃ source ∈ c.readyMsgs.elems, ¬ (s.deref kernel source).Known := by
  induction count generalizing sendMsg with
  | zero => exact Or.inl rfl
  | succ count ih =>
      rw [retransmitLoop]
      cases here : c.readyMsgs.elems[count]? with
      | none => exact Or.inl rfl
      | some source =>
          dsimp only
          split
          · rename_i unpacked
            exact Or.inr ⟨source, List.mem_of_getElem? here,
              mt (packTopicToTcpMsg_ok_iff _ _).mpr unpacked⟩
          · split
            · exact Or.inl rfl
            · exact ih _

/-- A registration in `u` that is followed by the retransmission. -/
theorem retransmitTopicsToClient_entries (kernel : Kernel) {u s : Server} {id : Bytes} {fd : Int}
    (enrolled : Registered u.clients id fd s.clients) (unowned : ∀ c ∈ u.clients.elems, c.fd ≠ fd)
    (sameMsgs : s.udpMsgs = u.udpMsgs) (sameBlock : s.udpBlock = u.udpBlock) :
    EntriesStep kernel u (retransmitTopicsToClient kernel fd s).server := by
  obtain ⟨index, c, found⟩ := enrolled.found
  rw [(retransmitTopicsToClient_found found).1]
  have deref : ∀ source, s.deref kernel source = u.deref kernel source := by
    intro source
    rw [Server.deref, Server.deref, Server.stored?, Server.stored?, sameMsgs, sameBlock]
  have emptied := retransmitLoop_kept kernel s c fd c.readyMsgs.elems.length s.sendMsg
  simp only [deref] at emptied
  rcases enrolled.located unowned found with ⟨old, here, _, dead, rfl, after⟩ | ⟨rfl, _, after⟩
  · exact .of_set here (.returned fd _ dead emptied) (after _)
  · exact .of_push List.take_nil (after _)

theorem Listened.entries {kernel : Kernel} {s t : Server} {log : List Event}
    (listened : Listened kernel s log t) (inv : ConnectionTable s) : EntriesStep kernel s t := by
  cases listened with
  | refused recvMsg pollVec clients positive samePoll sameClients refused =>
      exact .of_same sameClients
  | joined recvMsg clients index c positive unopened enrolled found =>
      exact retransmitTopicsToClient_entries kernel enrolled (inv.unowned positive unopened) rfl rfl

theorem serve_entries {kernel : Kernel} {iter : Nat} {s : Server} (inv : ConnectionTable s) :
    (serve kernel iter s).err = .ok → EntriesStep kernel s (serve kernel iter s).server := by
  refine serve_branches (motive := fun done => done.err = .ok →
    EntriesStep kernel s done.server) kernel iter s ?_ ?_ ?_ ?_
  · exact fun _ _ => .of_same rfl
  · exact fun _ ran => serveUdp_entries ran
  · exact fun _ _ ran => (serveListener_listened ran).entries inv
  · exact fun fd _ _ _ _ => serveClient_entries kernel iter fd inv.toClientTable

end TopicBroker
