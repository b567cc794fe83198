import TopicBroker.Proof.References

/-!
# The ledger of one message

Every stored message has an arrival number, the slot it is stored in. For a
client, the frames sent for the slot and the pointers to it that are still
queued add up to a number that is fixed when the message is published: one if
the message was due to the client, and zero otherwise.
-/

namespace TopicBroker

/-! ## The two columns -/

/-- A frame for the slot went out to the client. -/
def Event.carries (id : Bytes) (slot : Nat) : Event → Bool
  | .sent client _ source _ _ => client == id && source.slot == slot
  | _ => false

/-- The frame was packed from the message itself, not from a block that is gone. -/
def Event.delivers (id : Bytes) (slot : Nat) : Event → Bool
  | .sent client _ source live _ => client == id && source.slot == slot && live
  | _ => false

/-- The pointers to the slot in the queue of a client with the given id. -/
def ClientType.owed (id : Bytes) (slot : Nat) (c : ClientType) : Nat :=
  if c.id = id then c.readyMsgs.elems.countP fun source => source.slot == slot else 0

def Server.owed (s : Server) (id : Bytes) (slot : Nat) : Nat :=
  (s.clients.elems.map (ClientType.owed id slot)).sum

/-- How often the message in the slot stands in the queue of the client. -/
def Server.occurrences (s : Server) (id : Bytes) (slot : Nat) : Nat :=
  ((s.clients.elems.filter fun c => c.id == id).flatMap fun c => c.readyMsgs.elems).countP
    fun source => source.block == s.udpBlock && source.slot == slot

/-- The message is due to the client: it is subscribed to the topic, and it is
connected or asked for store-and-forward. -/
def Due (s : Server) (id name : Bytes) : Prop :=
  ∃ c ∈ s.clients.elems, c.id = id ∧ ∃ index : Nat, c.table.topics[index]? = some name ∧
    (c.status = .active ∨ c.table.options[index]? = some .sf)

/-! ## What a frame or a pointer can be about -/

/-- Frames and pointers are about slots that were filled. -/
structure Arrived (log : List Event) (s : Server) : Prop where
  sent : ∀ id fd source live frame, Event.sent id fd source live frame ∈ log →
    source.slot < s.udpMsgs.elems.length
  pending : ∀ c ∈ s.clients.elems, ∀ source ∈ c.readyMsgs.elems,
    source.slot < s.udpMsgs.elems.length

theorem Resent.mem {s : Server} {c : ClientType} {fd : Int} {sources : List Ref}
    {log : List Event} (resent : Resent s c fd sources log) {event : Event}
    (member : event ∈ log) : ∃ source ∈ sources, ∃ frame,
      event = .sent c.id fd source (s.stored? source).isSome frame := by
  induction resent with
  | nil => cases member
  | @cons source _ sources _ first _ ih =>
      rcases List.mem_cons.mp member with rfl | later
      · obtain ⟨frame, rfl⟩ := first
        exact ⟨source, by simp, frame, rfl⟩
      · obtain ⟨other, inside, frame, eq⟩ := ih later
        exact ⟨other, by simp [inside], frame, eq⟩

theorem sent_mem_notices {kernel : Kernel} {s : Server} {source : Ref} {msg : UdpType}
    {iter : Nat} {c : ClientType} {id : Bytes} {fd : Int} {other : Ref} {live : Bool}
    {frame : TcpMsg}
    (member : Event.sent id fd other live frame ∈ notices kernel s source msg iter c) :
    other = source ∧ live = (s.stored? source).isSome := by
  unfold notices at member
  split at member
  · split at member
    · rw [List.mem_singleton] at member
      cases member
      exact ⟨rfl, rfl⟩
    · cases member
  · split at member
    · simp at member
    · cases member

theorem Heard.not_sent {kernel : Kernel} {s r : Server} {log : List Event}
    (heard : Heard kernel s log r) (id : Bytes) (fd : Int) (source : Ref) (live : Bool)
    (frame : TcpMsg) : Event.sent id fd source live frame ∉ log := by
  cases heard <;> simp

/-- A round that stores nothing sends only what was pending. -/
theorem Arrived.quiet {log more : List Event} {s t : Server} (arrived : Arrived log s)
    (sameMsgs : t.udpMsgs = s.udpMsgs) (descends : Descends s.clients.elems t.clients.elems)
    (sent : ∀ id fd source live frame, Event.sent id fd source live frame ∈ more →
      source.slot < s.udpMsgs.elems.length) : Arrived (log ++ more) t where
  sent := by
    intro id fd source live frame member
    rw [sameMsgs]
    rcases List.mem_append.mp member with old | new
    · exact arrived.sent id fd source live frame old
    · exact sent id fd source live frame new
  pending := by
    intro d member source pending
    obtain ⟨c, old, _, before⟩ := descends d member source pending
    rw [sameMsgs]
    exact arrived.pending c old source before

theorem Arrived.round {log more : List Event} {s t : Server} {kernel : Kernel} {iter : Nat}
    (arrived : Arrived log s) (ran : Round kernel iter s more t) : Arrived (log ++ more) t := by
  cases ran with
  | idle recvMsg => exact arrived.quiet rfl (.refl _) (by simp)
  | emptied addr payload atUdp answer empty => exact arrived.quiet rfl (.refl _) (by simp)
  | published heard r clients atUdp received room known notified =>
      obtain ⟨sameMsgs, _, sameClients⟩ := received.same
      have longer : (r.stored kernel).udpMsgs.elems.length = s.udpMsgs.elems.length + 1 := by
        rw [Server.stored_elems, List.length_append, sameMsgs]
        rfl
      constructor
      · intro id fd source live frame member
        change source.slot < (r.stored kernel).udpMsgs.elems.length
        rw [longer]
        rcases List.mem_append.mp member with old | new
        · exact Nat.lt_succ_of_lt (arrived.sent id fd source live frame old)
        · rcases List.mem_append.mp new with impossible | noticed
          · exact absurd impossible (received.not_sent id fd source live frame)
          · obtain ⟨_, _, _, noticed⟩ := mem_allNotices.mp noticed
            rw [(sent_mem_notices noticed).1, Server.nextRef, sameMsgs]
            exact Nat.lt_succ_self _
      · intro d member source pending
        change source.slot < (r.stored kernel).udpMsgs.elems.length
        rw [longer]
        rw [notified, sameClients] at member
        obtain ⟨c, old, rfl⟩ := List.mem_map.mp member
        unfold ClientType.notified at pending
        split at pending
        · rcases List.mem_append.mp pending with before | new
          · exact Nat.lt_succ_of_lt (arrived.pending c old source before)
          · rw [List.mem_singleton.mp new, Server.nextRef, sameMsgs]
            exact Nat.lt_succ_self _
        · exact Nat.lt_succ_of_lt (arrived.pending c old source pending)
  | rejected recvMsg pollVec clients samePoll sameClients =>
      exact arrived.quiet rfl (sameClients ▸ .refl _) (by simp)
  | registered id fd recvMsg sendMsg clients index c kept left log positive unopened enrolled
      found shorter complete resent =>
      have here := (locate_eq_some found).1
      refine arrived.quiet rfl (enrolled.descends.trans ?_) ?_
      · exact .set here rfl fun _ front => List.mem_of_mem_take front
      · intro id fd source live frame member
        obtain ⟨other, inside, _, eq⟩ := resent.mem member
        cases eq
        have queued : source ∈ c.readyMsgs.elems :=
          List.mem_of_mem_drop (List.mem_reverse.mp inside)
        obtain ⟨d, old, _, before⟩ := enrolled.descends c (List.mem_of_getElem? here) source queued
        exact arrived.pending d old source before
  | disconnected fd recvMsg index c atFd notUdp notTcp here owner active =>
      exact arrived.quiet rfl (.set here rfl fun _ pending => pending) (by simp)
  | requested recvMsg clients edited => exact arrived.quiet rfl edited.descends (by simp)

/-! ## The balance after the arrival -/

theorem owed_truncate (c : ClientType) (id : Bytes) (slot kept : Nat) :
    (c.truncate kept).owed id slot +
        (if c.id = id then (c.readyMsgs.elems.drop kept).countP fun source => source.slot == slot
          else 0) =
      c.owed id slot := by
  unfold ClientType.owed ClientType.truncate
  dsimp only
  split
  · rw [Vec.truncate_elems, ← List.countP_append, List.take_append_drop]
  · rfl

theorem Resent.carries {s : Server} {c : ClientType} {fd : Int} {sources : List Ref}
    {log : List Event} (resent : Resent s c fd sources log) (id : Bytes) (slot : Nat) :
    log.countP (Event.carries id slot) =
      if c.id = id then sources.countP fun source => source.slot == slot else 0 := by
  induction resent with
  | nil => simp
  | cons first _ ih =>
      obtain ⟨frame, rfl⟩ := first
      rw [List.countP_cons, List.countP_cons, ih, Event.carries]
      by_cases same : c.id = id
      · simp [same]
      · simp [same]

theorem Registered.owed {clients after : ClientVec} {id : Bytes} {fd : Int}
    (enrolled : Registered clients id fd after) (client : Bytes) (slot : Nat) :
    (after.elems.map (ClientType.owed client slot)).sum =
      (clients.elems.map (ClientType.owed client slot)).sum := by
  cases enrolled with
  | again iter c here same dead => exact congrArg List.sum (map_set_of_eq here rfl)
  | fresh absent =>
      have nothing : ClientType.owed client slot (.fresh id fd) = 0 := by
        unfold ClientType.owed
        split <;> rfl
      rw [Vec.push_elems, List.map_append, List.sum_append, List.map_singleton, nothing]
      rfl

/-- Frames for the slot and a longer queue appear for a client exactly when the
published message is in the slot. -/
theorem notices_balance {kernel : Kernel} {s : Server} (source : Ref) (msg : UdpType) (id : Bytes)
    (slot : Nat) {c : ClientType}
    (sends : ∀ frame, c.status = .active → kernel.sendTcpMsg frame c.fd s.sendMsg = .ok)
    (iter : Nat) :
    (notices kernel s source msg iter c).countP (Event.carries id slot) +
        (c.notified source msg.name).owed id slot =
      c.owed id slot +
        if c.id = id ∧ source.slot = slot ∧ (c.takes msg.name ∨ c.keeps msg.name) then 1
        else 0 := by
  unfold notices ClientType.notified ClientType.owed
  by_cases taken : c.takes msg.name
  · rw [if_pos taken, if_neg (ClientType.takes_excludes_keeps taken), if_pos (sends iter taken.1)]
    simp only [taken, true_or, and_true, List.countP_singleton, Event.carries, Bool.and_eq_true,
      beq_iff_eq]
    rw [Nat.add_comm]
  · rw [if_neg taken]
    by_cases kept : c.keeps msg.name
    · rw [if_pos kept, if_pos kept]
      simp only [kept, or_true, and_true, List.countP_singleton, Event.carries,
        ClientType.stack, Vec.push_elems, List.countP_append, beq_iff_eq]
      by_cases same : c.id = id
      · simp [same]
      · simp [same]
    · rw [if_neg kept, if_neg kept]
      simp [taken, kept]

theorem allNotices_balance (kernel : Kernel) (s : Server) (source : Ref) (msg : UdpType)
    (id : Bytes) (slot : Nat) {clients : List ClientType}
    (sends : ∀ c ∈ clients, ∀ frame, c.status = .active →
      kernel.sendTcpMsg frame c.fd s.sendMsg = .ok) (iter : Nat) :
    (allNotices kernel s source msg iter clients).countP (Event.carries id slot) +
        ((clients.map (ClientType.notified source msg.name)).map (ClientType.owed id slot)).sum =
      (clients.map (ClientType.owed id slot)).sum +
        clients.countP fun c =>
          c.id = id ∧ source.slot = slot ∧ (c.takes msg.name ∨ c.keeps msg.name) := by
  induction clients generalizing iter with
  | nil => rfl
  | cons c rest ih =>
      have now := notices_balance source msg id slot (sends c (by simp)) iter
      have later := ih (fun d member => sends d (by simp [member])) (iter + 1)
      rw [allNotices, List.countP_append, List.countP_cons]
      simp only [List.map_cons, List.sum_cons, decide_eq_true_eq]
      omega

/-- Every frame for a connected client goes out. -/
theorem ConnectionTable.sends_all {s : Server} (inv : ConnectionTable s) {kernel : Kernel}
    (sends : kernel.Sends) (msg : TcpMsg) :
    ∀ c ∈ s.clients.elems, ∀ frame, c.status = .active →
      kernel.sendTcpMsg frame c.fd msg = .ok := by
  intro c member frame active
  exact Kernel.sendTcpMsg_ok sends frame (Int.le_of_lt ((inv.active_iff c member).mp active)) msg

/-- Once the message is stored, a frame sent is a pointer taken out of the queue. -/
theorem Round.balance {kernel : Kernel} {iter : Nat} {s t : Server} {more : List Event}
    (ran : Round kernel iter s more t) (inv : ConnectionTable s) (sends : kernel.Sends)
    (id : Bytes) {slot : Nat} (stored : slot < s.udpMsgs.elems.length) :
    more.countP (Event.carries id slot) + t.owed id slot = s.owed id slot := by
  cases ran with
  | idle recvMsg => exact Nat.zero_add _
  | emptied addr payload atUdp answer empty => exact Nat.zero_add _
  | published heard r clients atUdp received room known notified =>
      obtain ⟨sameMsgs, _, sameClients⟩ := received.same
      have quiet : heard.countP (Event.carries id slot) = 0 := by cases received <;> rfl
      have elsewhere : (r.nextRef kernel).slot ≠ slot := by
        rw [Server.nextRef, sameMsgs]
        exact Nat.ne_of_gt stored
      have balance := allNotices_balance kernel (r.stored kernel) (r.nextRef kernel) r.parsed id
        slot (inv.sends_all sends _) 0
      simp only [elsewhere, false_and, and_false, decide_false, List.countP_false] at balance
      rw [List.countP_append, quiet, Nat.zero_add, Server.owed, notified, sameClients]
      exact balance
  | rejected recvMsg pollVec clients samePoll sameClients =>
      rw [List.countP_nil, Nat.zero_add, Server.owed, sameClients]
      rfl
  | registered newcomer fd recvMsg sendMsg clients index c kept left log positive unopened enrolled
      found shorter complete resent =>
      have written := sum_map_set (ClientType.owed id slot) (c.truncate kept)
        (locate_eq_some found).1
      have counted := resent.carries id slot
      rw [← complete sends, List.countP_reverse] at counted
      have parts := owed_truncate c id slot kept
      have before := enrolled.owed id slot
      change more.countP _ + ((clients.elems.set index (c.truncate kept)).map _).sum = _
      rw [Server.owed, ← before]
      omega
  | disconnected fd recvMsg index c atFd notUdp notTcp here owner active =>
      rw [List.countP_nil, Nat.zero_add]
      exact congrArg List.sum (map_set_of_eq here rfl)
  | requested recvMsg clients edited =>
      rw [List.countP_nil, Nat.zero_add]
      cases edited with
      | same => rfl
      | table index c table here nodup => exact congrArg List.sum (map_set_of_eq here rfl)

/-! ## The balance at the arrival -/

theorem DistinctTopics.round {kernel : Kernel} {iter : Nat} {s t : Server} {more : List Event}
    (distinct : DistinctTopics s.clients) (ran : Round kernel iter s more t) :
    DistinctTopics t.clients := by
  cases ran with
  | idle recvMsg => exact distinct
  | emptied addr payload atUdp answer empty => exact distinct
  | published heard r clients atUdp received room known notified =>
      intro d member
      rw [notified, received.same.2.2] at member
      obtain ⟨c, old, rfl⟩ := List.mem_map.mp member
      have kept := distinct c old
      unfold ClientType.notified
      split
      · exact kept
      · exact kept
  | rejected recvMsg pollVec clients samePoll sameClients =>
      intro d member
      rw [sameClients] at member
      exact distinct d member
  | registered id fd recvMsg sendMsg clients index c kept left log positive unopened enrolled
      found shorter complete resent =>
      have joined := distinct.registered enrolled
      exact joined.set (joined c (locate_mem found))
  | disconnected fd recvMsg index c atFd notUdp notTcp here owner active =>
      exact distinct.set (distinct c (List.mem_of_getElem? here))
  | requested recvMsg clients edited =>
      cases edited with
      | same => exact distinct
      | table index c table here nodup =>
          exact distinct.set (nodup (distinct c (List.mem_of_getElem? here)))

theorem ClientType.due_iff {c : ClientType} (nodup : c.table.topics.Nodup) (name : Bytes) :
    (c.takes name ∨ c.keeps name) ↔ ∃ index : Nat, c.table.topics[index]? = some name ∧
      (c.status = .active ∨ c.table.options[index]? = some .sf) := by
  constructor
  · rintro (⟨active, subscribed⟩ | ⟨_, option⟩)
    · obtain ⟨option, found⟩ := Option.isSome_iff_exists.mp subscribed
      obtain ⟨index, here, _⟩ := (TopicTable.option?_eq_some_iff nodup).mp found
      exact ⟨index, here, Or.inl active⟩
    · obtain ⟨index, here, paired⟩ := (TopicTable.option?_eq_some_iff nodup).mp option
      exact ⟨index, here, Or.inr paired⟩
  · rintro ⟨index, here, reason⟩
    obtain ⟨inside, _⟩ := List.getElem?_eq_some_iff.mp here
    have within : index < c.table.options.length := by
      rw [c.table.aligned]
      exact inside
    obtain ⟨option, paired⟩ : ∃ option, c.table.options[index]? = some option :=
      ⟨_, List.getElem?_eq_getElem within⟩
    have found := (TopicTable.option?_eq_some_iff nodup).mpr ⟨index, here, paired⟩
    cases status : c.status with
    | active => exact Or.inl ⟨status, by rw [found]; rfl⟩
    | dead =>
        rcases reason with impossible | sf
        · rw [status] at impossible
          cases impossible
        · exact Or.inr ⟨status, (TopicTable.option?_eq_some_iff nodup).mpr ⟨index, here, sf⟩⟩

/-- Of clients with different ids at most one has the given id. -/
theorem countP_id_le_one {clients : List ClientType} (ids : (clients.map ClientType.id).Nodup)
    (id : Bytes) (p : ClientType → Prop) [DecidablePred p] :
    (clients.countP fun c => c.id = id ∧ p c) ≤ 1 := by
  have counted := List.nodup_iff_count_le_one.mp ids id
  rw [List.count, List.countP_map] at counted
  refine Nat.le_trans (List.countP_mono_left ?_) counted
  intro c _ both
  simp only [decide_eq_true_eq] at both
  simp [both.1]

theorem due_countP {s : Server} (inv : ConnectionTable s) (distinct : DistinctTopics s.clients)
    (id name : Bytes) :
    (Due s id name →
      (s.clients.elems.countP fun c => c.id = id ∧ (c.takes name ∨ c.keeps name)) = 1) ∧
    (¬ Due s id name →
      (s.clients.elems.countP fun c => c.id = id ∧ (c.takes name ∨ c.keeps name)) = 0) := by
  have due : Due s id name ↔
      0 < s.clients.elems.countP fun c => c.id = id ∧ (c.takes name ∨ c.keeps name) := by
    rw [List.countP_pos_iff]
    simp only [decide_eq_true_eq]
    constructor
    · rintro ⟨c, member, same, reason⟩
      exact ⟨c, member, same, (ClientType.due_iff (distinct c member) name).mpr reason⟩
    · rintro ⟨c, member, same, reason⟩
      exact ⟨c, member, same, (ClientType.due_iff (distinct c member) name).mp reason⟩
  have most := countP_id_le_one inv.ids id fun c => c.takes name ∨ c.keeps name
  rw [due]
  constructor <;> intro amount <;> omega

/-! ## The balance over runs -/

/-- No allocation and no `send` of the round fails. -/
structure Kernel.Grants (kernel : Kernel) : Prop where
  sends : kernel.Sends
  pfds : kernel.pfds = true
  udpMsgs : kernel.udpMsgs ≠ .fails
  register : kernel.register = .succeed
  subscribe : kernel.subscribe = .succeed
  readyMsgs : ∀ index, kernel.readyMsgs index = true

/-- Nothing fails, and the UDP socket is only served for a datagram. -/
def flawless (s : Server) (iter : Nat) (kernel : Kernel) : Prop :=
  kernel.Grants ∧ hearsDatagram s iter kernel

/-- Besides, the array of stored messages stays where pending pointers go. -/
def flawlessInPlace (s : Server) (iter : Nat) (kernel : Kernel) : Prop :=
  flawless s iter kernel ∧ keepsPending s iter kernel

/-- Every frame of the log was packed from a stored message. -/
def AllLive (log : List Event) : Prop :=
  ∀ id fd source live frame, Event.sent id fd source live frame ∈ log → live = true

theorem Round.live {kernel : Kernel} {iter : Nat} {s t : Server} {log more : List Event}
    (ran : Round kernel iter s more t) (history : QueueHistory log s) : AllLive more := by
  intro id fd source live frame member
  cases ran with
  | idle recvMsg => cases member
  | emptied addr payload atUdp answer empty => simp at member
  | published heard r clients atUdp received room known notified =>
      rcases List.mem_append.mp member with impossible | noticed
      · exact absurd impossible (received.not_sent id fd source live frame)
      · obtain ⟨_, _, _, noticed⟩ := mem_allNotices.mp noticed
        rw [(sent_mem_notices noticed).2, Server.stored_nextRef]
        rfl
  | rejected recvMsg pollVec clients samePoll sameClients => cases member
  | registered newcomer fd recvMsg sendMsg clients index c kept left log positive unopened enrolled
      found shorter complete resent =>
      obtain ⟨other, inside, _, eq⟩ := resent.mem member
      cases eq
      have queued : source ∈ c.readyMsgs.elems :=
        List.mem_of_mem_drop (List.mem_reverse.mp inside)
      obtain ⟨d, old, _, before⟩ := enrolled.descends c (locate_mem found) source queued
      have good := history.pendingGood d old source before
      obtain ⟨msg, logged⟩ := good.queued
      rw [good.held msg logged]
      rfl
  | disconnected fd recvMsg index c atFd notUdp notTcp here owner active => cases member
  | requested recvMsg clients edited => cases member

/-- What holds along a flawless run. -/
structure LedgerState (log : List Event) (s : Server) : Prop where
  table : ConnectionTable s
  distinct : DistinctTopics s.clients
  history : QueueHistory log s
  arrived : Arrived log s
  live : AllLive log

theorem LedgerState.step {log more : List Event} {s t : Server} (state : LedgerState log s)
    (edge : (broker flawlessInPlace).step s more t) : LedgerState (log ++ more) t := by
  cases edge with
  | awake revents cmd =>
      rw [List.append_nil]
      exact ⟨state.table.awake revents cmd, state.distinct, ⟨state.history.held,
        state.history.pending⟩, ⟨state.arrived.sent, state.arrived.pending⟩, state.live⟩
  | serve iter kernel first inside granted ran =>
      obtain ⟨⟨grants, heard⟩, kept⟩ := granted
      have round := serve_round ran
      refine ⟨state.table.round heard.noEmpty round, state.distinct.round round,
        state.history.round kept round, state.arrived.round round, ?_⟩
      intro id fd source live frame member
      rcases List.mem_append.mp member with old | new
      · exact state.live id fd source live frame old
      · exact round.live state.history id fd source live frame new

theorem LedgerState.run {first s : Server} {log more : List Event} (state : LedgerState log first)
    (ran : (broker flawlessInPlace).Run first more s) : LedgerState (log ++ more) s := by
  induction ran with
  | refl => simpa using state
  | next _ edge ih =>
      rw [← List.append_assoc]
      exact ih.step edge

theorem LedgerState.init {s : Server} (start : (broker flawlessInPlace).init s) :
    LedgerState [] s := by
  obtain ⟨kernel, hport, started⟩ := start
  have fresh := initServer_fresh started
  refine ⟨fresh.connectionTable, ?_, ⟨?_, ?_⟩, ⟨?_, ?_⟩, ?_⟩ <;>
    simp [DistinctTopics, AllLive, fresh.clients]

/-- After the arrival the balance of a client does not change. -/
theorem LedgerState.balance {first u : Server} {log more : List Event}
    (state : LedgerState log first) (ran : (broker flawlessInPlace).Run first more u)
    (id : Bytes) {slot : Nat} (stored : slot < first.udpMsgs.elems.length) :
    slot < u.udpMsgs.elems.length ∧
      more.countP (Event.carries id slot) + u.owed id slot = first.owed id slot := by
  induction ran with
  | refl => exact ⟨stored, Nat.zero_add _⟩
  | next earlier edge ih =>
      obtain ⟨inside, balance⟩ := ih
      cases edge with
      | awake revents cmd =>
          rw [List.append_nil]
          exact ⟨inside, balance⟩
      | serve iter kernel listed nfds granted served =>
          have round := serve_round served
          have later := round.balance (state.run earlier).table granted.1.1.sends id inside
          have longer := round.udpMsgs_length granted.1.2
          refine ⟨by omega, ?_⟩
          rw [List.countP_append]
          omega

theorem AllLive.delivers {log : List Event} (live : AllLive log) (id : Bytes) (slot : Nat) :
    log.countP (Event.delivers id slot) = log.countP (Event.carries id slot) := by
  apply List.countP_congr
  intro event member
  cases event with
  | received answer => rfl
  | queued client source stored => rfl
  | sent client fd source alive frame =>
      have packed := live client fd source alive frame member
      simp [Event.delivers, Event.carries, packed]

theorem QueueHistory.occurrences {log : List Event} {s : Server} (history : QueueHistory log s)
    (id : Bytes) (slot : Nat) : s.occurrences id slot = s.owed id slot := by
  have present : ∀ c ∈ s.clients.elems, ∀ source ∈ c.readyMsgs.elems,
      source.block = s.udpBlock := fun c member source pending =>
    (history.pending c member source pending).1
  unfold Server.occurrences Server.owed
  generalize s.clients.elems = clients at present ⊢
  induction clients with
  | nil => rfl
  | cons c rest ih =>
      have later := ih fun d member => present d (by simp [member])
      rw [List.map_cons, List.sum_cons, ← later, ClientType.owed]
      by_cases same : c.id = id
      · have here : (c.readyMsgs.elems.countP fun source =>
            source.block == s.udpBlock && source.slot == slot) =
            c.readyMsgs.elems.countP fun source => source.slot == slot := by
          apply List.countP_congr
          intro source pending
          simp [present c (by simp) source pending]
        rw [List.filter_cons_of_pos (by simpa using same), List.flatMap_cons, List.countP_append,
          here, if_pos same]
      · rw [List.filter_cons_of_neg (by simpa using same), if_neg same, Nat.zero_add]

/-- Before its arrival nothing is about the slot. -/
theorem Arrived.nothing {log : List Event} {s : Server} (arrived : Arrived log s) (id : Bytes) :
    log.countP (Event.carries id s.udpMsgs.elems.length) = 0 ∧
      s.owed id s.udpMsgs.elems.length = 0 := by
  constructor
  · apply List.countP_eq_zero.mpr
    intro event member
    cases event with
    | received answer => exact Bool.false_ne_true
    | queued client source stored => exact Bool.false_ne_true
    | sent client fd source alive frame =>
        have before := arrived.sent client fd source alive frame member
        have different : source.slot ≠ s.udpMsgs.elems.length := Nat.ne_of_lt before
        simp [Event.carries, different]
  · apply List.sum_eq_zero
    intro amount member
    obtain ⟨c, listed, rfl⟩ := List.mem_map.mp member
    unfold ClientType.owed
    split
    · apply List.countP_eq_zero.mpr
      intro source pending
      have before := arrived.pending c listed source pending
      simpa using Nat.ne_of_lt before
    · rfl

/-- The arrival opens the balance with one for each client the message is due to. -/
theorem LedgerState.arrival {log : List Event} {s : Server} (state : LedgerState log s)
    {kernel : Kernel} {iter : Nat} (granted : flawless s iter kernel)
    (ran : (serve kernel iter s).err = .ok)
    (atUdp : s.pollVec.fds[iter]? = some s.udpSocket) {addr : Buffer sizeofSockaddrIn}
    {payload : Bytes} (answer : kernel.recvfrom = some (addr, payload)) (id : Bytes) :
    let slot := s.udpMsgs.elems.length
    let balance := (serve kernel iter s).log.countP (Event.carries id slot) +
      (serve kernel iter s).server.owed id slot
    slot < (serve kernel iter s).server.udpMsgs.elems.length ∧
      (Due s id (s.receive addr payload).parsed.name → balance = 1) ∧
      (¬ Due s id (s.receive addr payload).parsed.name → balance = 0) := by
  obtain ⟨grants, heard⟩ := granted
  have nonempty : payload ≠ [] := by
    obtain ⟨_, _, same, some_bytes⟩ := heard atUdp
    rw [answer] at same
    cases same
    exact some_bytes
  rw [serve_datagram atUdp answer nonempty, Outcome.after_err] at ran
  obtain ⟨_, _, clients, server, elems, log_eq⟩ := publish_ok ran
  have open_balance := allNotices_balance kernel ((s.receive addr payload).stored kernel)
    ((s.receive addr payload).nextRef kernel) (s.receive addr payload).parsed id
    s.udpMsgs.elems.length (state.table.sends_all grants.sends _) 0
  have slot : ((s.receive addr payload).nextRef kernel).slot = s.udpMsgs.elems.length := rfl
  have nothing := (state.arrived.nothing id).2
  obtain ⟨one, none_due⟩ :=
    due_countP state.table state.distinct id (s.receive addr payload).parsed.name
  have balance : (serve kernel iter s).log.countP (Event.carries id s.udpMsgs.elems.length) +
      (serve kernel iter s).server.owed id s.udpMsgs.elems.length =
      s.clients.elems.countP fun c => c.id = id ∧
        (c.takes (s.receive addr payload).parsed.name ∨
          c.keeps (s.receive addr payload).parsed.name) := by
    simp only [slot, true_and] at open_balance
    rw [serve_datagram atUdp answer nonempty, Outcome.after_log, Outcome.after_server, server,
      log_eq, Server.owed, elems]
    rw [Server.owed] at nothing
    rw [nothing, Nat.zero_add] at open_balance
    exact open_balance
  refine ⟨?_, ?_, ?_⟩
  · rw [serve_datagram atUdp answer nonempty, Outcome.after_server, server]
    change _ < ((s.receive addr payload).stored kernel).udpMsgs.elems.length
    rw [Server.stored_elems, List.length_append]
    exact Nat.lt_succ_self _
  · intro due
    exact balance.trans (one due)
  · intro free
    exact balance.trans (none_due free)

/-! ## Every message sent once or queued once -/

/-- Frames sent to the client for the message in the slot, and its places in the queue. -/
def accounted (log : List Event) (s : Server) (id : Bytes) (slot : Nat) : Nat :=
  log.countP (Event.delivers id slot) + s.occurrences id slot

/-- A run in which a datagram is accepted in the state `s` and which goes on to `u`. -/
structure Arrival (allowed : Server → Nat → Kernel → Prop) (before : List Event) (s : Server)
    (kernel : Kernel) (iter : Nat) (addr : Buffer sizeofSockaddrIn) (payload : Bytes)
    (after : List Event) (u : Server) : Prop where
  earlier : ∃ first, (broker allowed).init first ∧ (broker allowed).Run first before s
  listed : 1 ≤ iter
  granted : allowed s iter kernel
  ran : (serve kernel iter s).err = .ok
  atUdp : s.pollVec.fds[iter]? = some s.udpSocket
  answer : kernel.recvfrom = some (addr, payload)
  later : (broker allowed).Run (serve kernel iter s).server after u

/-- The message of the datagram is accounted for once for a client that it is
due to, and never for another. -/
def Balanced (before : List Event) (s : Server) (kernel : Kernel) (iter : Nat)
    (addr : Buffer sizeofSockaddrIn) (payload : Bytes) (after : List Event) (u : Server)
    (id : Bytes) : Prop :=
  (Due s id (s.receive addr payload).parsed.name →
    accounted (before ++ (serve kernel iter s).log ++ after) u id s.udpMsgs.elems.length = 1) ∧
  (¬ Due s id (s.receive addr payload).parsed.name →
    accounted (before ++ (serve kernel iter s).log ++ after) u id s.udpMsgs.elems.length = 0)

/-- When nothing fails, the ledger balances as long as the array of stored
messages is not moved while a pointer into it is pending. -/
theorem ledger_balances {before after : List Event} {s u : Server} {kernel : Kernel} {iter : Nat}
    {addr : Buffer sizeofSockaddrIn} {payload : Bytes}
    (arrival : Arrival flawlessInPlace before s kernel iter addr payload after u) (id : Bytes) :
    Balanced before s kernel iter addr payload after u id := by
  obtain ⟨⟨first, start, earlier⟩, listed, granted, ran, atUdp, answer, later⟩ := arrival
  have state : LedgerState before s := (LedgerState.init start).run earlier
  obtain ⟨inside, one, none_due⟩ := state.arrival granted.1 ran atUdp answer id
  obtain ⟨entry, _⟩ := List.getElem?_eq_some_iff.mp atUdp
  have nfds : iter < s.pollVec.nfds := by simpa [PollVec.fds, PollVec.nfds] using entry
  have edge : (broker flawlessInPlace).step s (serve kernel iter s).log
      (serve kernel iter s).server := BrokerStep.serve s iter kernel listed nfds granted ran
  have stored := state.step edge
  have final := stored.run later
  have balance := (stored.balance later id inside).2
  have nothing := (state.arrived.nothing id).1
  have total : accounted (before ++ (serve kernel iter s).log ++ after) u id
      s.udpMsgs.elems.length =
      (serve kernel iter s).log.countP (Event.carries id s.udpMsgs.elems.length) +
        (serve kernel iter s).server.owed id s.udpMsgs.elems.length := by
    rw [accounted, final.live.delivers, final.history.occurrences, List.countP_append,
      List.countP_append, nothing, ← balance]
    omega
  exact ⟨fun due => total.trans (one due), fun undue => total.trans (none_due undue)⟩

/-- `C1` comes back, and where a freed block was a message of a known type is found. -/
def comeback : Nat × Kernel :=
  (2, { Kernel.accepting 5 (.holding (ascii "C1")) with
    stale := fun _ => ⟨Buffer.zero _, Buffer.zero _, .int 0⟩ })

theorem Kernel.willing_grants {kernel : Kernel} (send : kernel.send = Kernel.willing.send)
    (pfds : kernel.pfds = true) (udpMsgs : kernel.udpMsgs ≠ .fails)
    (register : kernel.register = .succeed) (subscribe : kernel.subscribe = .succeed)
    (readyMsgs : kernel.readyMsgs = Kernel.willing.readyMsgs) : kernel.Grants := by
  refine ⟨?_, pfds, udpMsgs, register, subscribe, fun index => by rw [readyMsgs]; rfl⟩
  intro frame call offered positive
  rw [send]
  exact Int.natCast_pos.mpr positive

/-- The rounds of the scripts are flawless whatever state they start in. -/
theorem script_flawless {growth : Realloc} (grows : growth ≠ .fails) (count : Nat) :
    ∀ entry ∈ absence count growth ++ [comeback], ∀ s, flawless s entry.1 entry.2 := by
  intro entry member s
  have kinds : entry = (1, .growing growth) ∨ entry ∈ departure ∨ entry = comeback := by
    simp only [absence, arrivals, List.mem_append, List.mem_replicate, List.mem_singleton]
      at member
    tauto
  have heard : entry.2.recvfrom = some (Buffer.zero _, ascii "news") := by
    rcases kinds with rfl | leaving | rfl
    · rfl
    · simp only [departure, List.mem_cons, List.not_mem_nil, or_false] at leaving
      rcases leaving with rfl | rfl | rfl <;> rfl
    · rfl
  refine ⟨?_, fun _ => ⟨_, _, heard, by decide⟩⟩
  rcases kinds with rfl | leaving | rfl
  · exact Kernel.willing_grants rfl rfl grows rfl rfl rfl
  · simp only [departure, List.mem_cons, List.not_mem_nil, or_false] at leaving
    rcases leaving with rfl | rfl | rfl <;>
      exact Kernel.willing_grants rfl rfl (by decide) rfl rfl rfl
  · exact Kernel.willing_grants rfl rfl (by decide) rfl rfl rfl

theorem script_flawlessInPlace (count : Nat) :
    ∀ entry ∈ absence count .inPlace ++ [comeback], ∀ s, flawlessInPlace s entry.1 entry.2 := by
  intro entry member s
  refine ⟨script_flawless (by decide) count entry member s, fun moves => ?_⟩
  have moved := moves.2.2.2
  rcases List.mem_append.mp member with away | returning
  · rw [absence_inPlace count entry away] at moved
    cases moved
  · rw [List.mem_singleton.mp returning] at moved
    cases moved

/-- The log and the server after `C1` left. -/
def departed : List Event × Server := (play (absence 0 .inPlace) .started).get (by decide +kernel)

theorem play_departed : play (absence 0 .inPlace) .started = some departed :=
  (Option.some_get _).symm

theorem departed_run {allowed : Server → Nat → Kernel → Prop}
    (granted : ∀ entry ∈ absence 0 .inPlace, ∀ s, allowed s entry.1 entry.2) :
    (broker allowed).Run .started departed.1 departed.2 :=
  play_run granted (play_departed.trans (congrArg some (Prod.eta departed).symm))

theorem departed_due :
    Due departed.2 (ascii "C1")
      (departed.2.receive (Buffer.zero _) (ascii "news")).parsed.name := by
  have name : (departed.2.receive (Buffer.zero _) (ascii "news")).parsed.name =
      ascii "news" := by
    decide +kernel
  have subscribed : ∃ c ∈ departed.2.clients.elems, c.id = ascii "C1" ∧
      c.table.topics[0]? = some (ascii "news") ∧ c.table.options[0]? = some .sf := by
    decide +kernel
  obtain ⟨c, member, id, topic, option⟩ := subscribed
  rw [name]
  exact ⟨c, member, id, 0, topic, Or.inr option⟩

/-- A message that waited for `C1` is sent once when it comes back. -/
theorem ledger_balances_comeback :
    ∃ after u, play [comeback] (serve (.growing .inPlace) 1 departed.2).server = some (after, u) ∧
      accounted (departed.1 ++ (serve (.growing .inPlace) 1 departed.2).log ++ after) u
        (ascii "C1") departed.2.udpMsgs.elems.length = 1 := by
  obtain ⟨⟨after, u⟩, played⟩ : ∃ done,
      play [comeback] (serve (.growing .inPlace) 1 departed.2).server = some done :=
    Option.isSome_iff_exists.mp (by decide +kernel)
  have granted := script_flawlessInPlace 1
  have script : ∀ entry ∈ [comeback], ∀ s, flawlessInPlace s entry.1 entry.2 :=
    fun entry member => granted entry (List.mem_append_right _ member)
  refine ⟨after, u, played, ?_⟩
  have arrival : Arrival flawlessInPlace departed.1 departed.2 (.growing .inPlace) 1
      (Buffer.zero _) (ascii "news") after u :=
    { earlier := ⟨_, ⟨_, _, initServer_started⟩,
        departed_run fun entry member => script_flawlessInPlace 0 entry (by simp [member])⟩
      listed := Nat.le_refl 1
      granted := granted (1, .growing .inPlace) (by simp [absence, arrivals]) _
      ran := by decide +kernel
      atUdp := by decide +kernel
      answer := rfl
      later := play_run script played }
  exact (ledger_balances arrival (ascii "C1")).1 departed_due

/-- The array moves away under the pointer, and the message that waited for
`C1` is never sent to it. -/
theorem ledger_unbalanced :
    ¬ ∀ (before after : List Event) (s u : Server) (kernel : Kernel) (iter : Nat)
      (addr : Buffer sizeofSockaddrIn) (payload id : Bytes),
      Arrival flawless before s kernel iter addr payload after u →
        Balanced before s kernel iter addr payload after u id := by
  intro always
  have lost : (play (arrivals 1 .moves ++ [comeback])
      (serve (.growing .inPlace) 1 departed.2).server).any (fun done =>
        accounted (departed.1 ++ (serve (.growing .inPlace) 1 departed.2).log ++ done.1) done.2
          (ascii "C1") departed.2.udpMsgs.elems.length == 0) = true := by
    decide +kernel
  obtain ⟨⟨after, u⟩, played, nothing⟩ := (Option.any_eq_true _ _).mp lost
  have granted := script_flawless (show Realloc.moves ≠ .fails by decide) 1
  have script : ∀ entry ∈ arrivals 1 .moves ++ [comeback], ∀ s, flawless s entry.1 entry.2 := by
    intro entry member s
    refine granted entry ?_ s
    simp only [absence, List.append_assoc] at member ⊢
    exact List.mem_append_right _ (List.mem_append_right _ member)
  have arrival : Arrival flawless departed.1 departed.2 (.growing .inPlace) 1 (Buffer.zero _)
      (ascii "news") after u :=
    { earlier := ⟨_, ⟨_, _, initServer_started⟩, departed_run fun entry member s =>
        (script_flawlessInPlace 0 entry (by simp [member]) s).1⟩
      listed := Nat.le_refl 1
      granted := (script_flawlessInPlace 1 (1, .growing .inPlace)
        (by simp [absence, arrivals]) _).1
      ran := by decide +kernel
      atUdp := by decide +kernel
      answer := rfl
      later := play_run script played }
  have lost_one := beq_iff_eq.mp nothing
  rw [(always _ _ _ _ _ _ _ _ (ascii "C1") arrival).1 departed_due] at lost_one
  cases lost_one

end TopicBroker
