import TopicBroker.Lib.Service
import TopicBroker.Proof.Lines
import TopicBroker.Proof.Queues
import TopicBroker.Proof.Refinement

/-!
# The server is a publish–subscribe service

The table of clients, with the stored messages in the place of the pointers to
them, goes through the steps of the abstract service, and each frame that goes
out shows the message that the service delivers.
-/

namespace TopicBroker

/-! ## Frames and deliveries -/

/-- What a subscriber prints for the message. -/
def UdpType.line (msg : UdpType) : Bytes := publishedLine msg ((packedTail msg.data).getD [])

/-- The frame holds the line of the message and the NUL that ends it. -/
structure TcpMsg.Shows (frame : TcpMsg) (msg : UdpType) : Prop where
  nul : 0 ∈ frame.data.bytes
  line : cstr frame.data.bytes = msg.line

theorem packTopicToTcpMsg_shows (sendMsg : TcpMsg) {msg : UdpType} (known : msg.Known) :
    (packTopicToTcpMsg sendMsg msg).2.Shows msg := by
  obtain ⟨tail, packed⟩ : ∃ tail, packedTail msg.data = some tail := by
    apply Option.ne_none_iff_exists'.mp
    exact fun refused => (packedTail_eq_none_iff _).mp refused ((UdpType.known_iff _).mp known)
  obtain ⟨rest, bytes⟩ := packTopicToTcpMsg_bytes sendMsg packed
  refine ⟨?_, ?_⟩
  · rw [bytes]
    simp
  · rw [packTopicToTcpMsg_line sendMsg packed, UdpType.line, packed, Option.getD_some]

def Event.isSent : Event → Bool
  | .sent _ _ _ _ _ => true
  | _ => false

/-- The event is a frame for the client, and it shows the message. -/
def Event.Carries (event : Event) (delivery : Bytes × UdpType) : Prop :=
  ∃ fd source frame, event = .sent delivery.1 fd source true frame ∧ frame.Shows delivery.2

/-- The frames of a log are the deliveries, one for one. -/
def Delivered (log : List Event) (deliveries : List (Bytes × UdpType)) : Prop :=
  List.Forall₂ Event.Carries (log.filter Event.isSent) deliveries

namespace Delivered

variable {log more : List Event} {first second : List (Bytes × UdpType)}

theorem nil : Delivered [] [] := List.Forall₂.nil

theorem single {event : Event} {delivery : Bytes × UdpType} (carries : event.Carries delivery) :
    Delivered [event] [delivery] := by
  obtain ⟨fd, source, frame, rfl, shows⟩ := carries
  exact .cons ⟨fd, source, frame, rfl, shows⟩ .nil

theorem append (earlier : Delivered log first) (later : Delivered more second) :
    Delivered (log ++ more) (first ++ second) := by
  rw [Delivered, List.filter_append]
  exact List.rel_append earlier later

/-- Other events do not count. -/
theorem unsent {event : Event} (other : event.isSent = false) (rest : Delivered log first) :
    Delivered (event :: log) first := by
  rw [Delivered, List.filter_cons_of_neg (by simp [other])]
  exact rest

end Delivered

/-! ## Publication -/

section Publication

variable (kernel : Kernel) (frame : TcpMsg) (msg : UdpType)

/-- What the loop over the clients delivers from the index `iter` on. -/
def deliveries : Nat → List ClientType → List (Bytes × UdpType)
  | _, [] => []
  | iter, c :: rest =>
      (if c.takes msg.name ∧ kernel.sendTcpMsg iter c.fd frame = .ok then [(c.id, msg)] else []) ++
        deliveries (iter + 1) rest

theorem deliveries_absent {id : Bytes} {clients : List ClientType}
    (absent : ∀ c ∈ clients, c.id ≠ id) (iter : Nat) :
    mine id (deliveries kernel frame msg iter clients) = [] := by
  induction clients generalizing iter with
  | nil => rfl
  | cons c rest ih =>
      have later := ih (fun d member => absent d (List.mem_cons_of_mem _ member)) (iter + 1)
      rw [deliveries, mine_append, later, List.append_nil]
      split
      · exact mine_cons_other (absent c List.mem_cons_self) msg []
      · rfl

/-- A client is delivered the message once or not at all. -/
theorem deliveries_own {clients : List ClientType}
    (distinct : (clients.map ClientType.id).Nodup) {index : Nat} {c : ClientType}
    (here : clients[index]? = some c) (iter : Nat) :
    mine c.id (deliveries kernel frame msg iter clients) =
      if c.takes msg.name ∧ kernel.sendTcpMsg (iter + index) c.fd frame = .ok then [msg]
      else [] := by
  induction clients generalizing iter index with
  | nil => cases here
  | cons d rest ih =>
      obtain ⟨apart, later⟩ := List.nodup_cons.mp distinct
      rw [deliveries, mine_append]
      cases index with
      | zero =>
          obtain rfl : d = c := by simpa using here
          have absent : ∀ e ∈ rest, e.id ≠ d.id := by
            intro e member same
            exact apart (same ▸ List.mem_map_of_mem member)
          rw [deliveries_absent kernel frame msg absent, List.append_nil, Nat.add_zero]
          split
          · exact mine_cons_own d.id msg []
          · rfl
      | succ index =>
          have there : rest[index]? = some c := by simpa using here
          have different : d.id ≠ c.id := by
            intro same
            exact apart (same ▸ List.mem_map_of_mem (List.mem_of_getElem? there))
          have foreign : mine c.id (if d.takes msg.name ∧ kernel.sendTcpMsg iter d.fd frame = .ok
              then [(d.id, msg)] else []) = [] := by
            split
            · exact mine_cons_other different msg []
            · rfl
          rw [foreign, List.nil_append, ih later there, Nat.add_right_comm, Nat.add_assoc]

/-- The loop logs the deliveries. -/
theorem allNotices_delivered {s : Server} {source : Ref} (stored : s.stored? source = some msg)
    (shows : s.sendMsg.Shows msg) (clients : List ClientType) (iter : Nat) :
    Delivered (allNotices kernel s source msg iter clients)
      (deliveries kernel s.sendMsg msg iter clients) := by
  induction clients generalizing iter with
  | nil => exact .nil
  | cons c rest ih =>
      rw [allNotices, deliveries]
      refine Delivered.append ?_ (ih (iter + 1))
      unfold notices
      by_cases taken : c.takes msg.name
      · rw [if_pos taken]
        by_cases sent : kernel.sendTcpMsg iter c.fd s.sendMsg = .ok
        · rw [if_pos sent, if_pos ⟨taken, sent⟩, stored]
          exact .single ⟨c.fd, source, s.sendMsg, rfl, shows⟩
        · rw [if_neg sent, if_neg fun both => sent both.2]
          exact .nil
      · have undelivered : ¬ (c.takes msg.name ∧ kernel.sendTcpMsg iter c.fd s.sendMsg = .ok) :=
          fun both => taken both.1
        rw [if_neg taken, if_neg undelivered]
        split
        · exact .unsent rfl .nil
        · exact .nil

end Publication

/-! ## The server as a registry -/

/-- Sessions hold the messages themselves, not pointers to them. -/
def Server.registry (s : Server) : Registry Bytes Int Bytes ClientOption UdpType :=
  (clientMap s.clients).translate s.stored?

/-- Store-and-forward, and the topic of a message. -/
def sfPolicy : Policy Bytes ClientOption UdpType where
  keeps option := option = .sf
  topic := UdpType.name

/-- A call on the table that is a request of a connected session is a step of the service. -/
theorem Simulates.managed {clients : ClientVec} {call : ClientCall}
    (simulates : Simulates clients call (call.run clients))
    (order : Management Int Bytes ClientOption) (asks : call.request clients = some order.request)
    (reliable : Prop) (read : Ref → Option UdpType) :
    Registry.Step sfPolicy reliable ((clientMap clients).translate read) []
      ((clientMap (call.run clients).2).translate read) := by
  have after := simulates.map_eq
  rw [asks, Option.bind_some] at after
  rw [after]
  cases granted : (clientMap clients).serve order.request with
  | none => exact .refused
  | some served =>
      refine .managed order _ ?_
      rw [Registry.serve_translate, granted]
      rfl

/-! ## Requests -/

/-- A subscription that is not granted its memory leaves what can be read of the table. -/
theorem ClientType.subscribe_granted_or (c : ClientType) (topic : Bytes) (option : ClientOption)
    (alloc : SubscribeAlloc) :
    c.subscribe topic option alloc = c.subscribe topic option .succeed ∨
      ∃ table : TopicTable, (c.subscribe topic option alloc).2 = { c with table := table } ∧
        table.option? = c.table.option? := by
  unfold ClientType.subscribe
  cases locate (fun other => other == topic) c.table.topics with
  | some found => exact Or.inl rfl
  | none =>
      dsimp only
      split
      · exact Or.inr ⟨c.table, rfl, rfl⟩
      · split
        · exact Or.inr ⟨c.table.growTopics, rfl, rfl⟩
        · split
          · refine Or.inr ⟨c.table.reserve, rfl, ?_⟩
            funext name
            rw [TopicTable.option?, TopicTable.option?, TopicTable.reserve_topics,
              TopicTable.reserve_options]
          · simp [SubscribeAlloc.succeed]

section Requests

variable {clients : ClientVec} (table : ClientTable clients) (distinct : DistinctTopics clients)
  (reliable : Prop) (read : Ref → Option UdpType)
include table distinct

theorem subscribeClientToTopic_step (clientFd : Int) (topic : Bytes) (option : ClientOption)
    (alloc : SubscribeAlloc) :
    Registry.Step sfPolicy reliable ((clientMap clients).translate read) []
      ((clientMap (subscribeClientToTopic clients clientFd topic option alloc).2).translate
        read) := by
  have granted : Registry.Step sfPolicy reliable ((clientMap clients).translate read) []
      ((clientMap (subscribeClientToTopic clients clientFd topic option .succeed).2).translate
        read) :=
    (subscribeClientToTopic_stepped table distinct clientFd topic option).simulates.managed
      (.subscribe clientFd topic option) rfl reliable read
  unfold subscribeClientToTopic at granted ⊢
  split
  · exact .refused
  · rename_i valid
    rw [if_neg valid] at granted
    cases located : locate (fun c => c.fd == clientFd) clients.elems with
    | none => exact .refused
    | some found =>
        rw [located] at granted
        dsimp only at granted ⊢
        have here := (locate_eq_some located).1
        rcases found.2.subscribe_granted_or topic option alloc with
          same | ⟨topics, written, read_alike⟩
        · rw [same]
          exact granted
        · rw [written, clientMap_set (d := { found.2 with table := topics }) table here rfl
            (table.edited here topics)]
          have session : ({ found.2 with table := topics } : ClientType).session =
              found.2.session := by
            simp only [ClientType.session, read_alike]
          have same : (clientMap clients).revise found.2.id found.2.session = clientMap clients :=
            Function.update_eq_self_iff.mpr (clientMap_at table here).symm
          rw [session, same]
          exact .refused

theorem processServerTcpMsg_step (kernel : Kernel) (clientFd : Int) {s : Server}
    (same : s.clients = clients) :
    Registry.Step sfPolicy reliable ((clientMap clients).translate read) []
      ((clientMap (processServerTcpMsg kernel clientFd s).2.clients).translate read) := by
  subst same
  unfold processServerTcpMsg
  dsimp only
  split
  · exact subscribeClientToTopic_step table distinct reliable read clientFd _ _ kernel.subscribe
  · split
    · exact (unsubscribeClientFromTopic_stepped table distinct clientFd _).simulates.managed
        (.unsubscribe clientFd _) rfl reliable read
    · exact .refused

end Requests

/-- Nothing is sent to a client that asks for something. -/
theorem serveClient_log (kernel : Kernel) (iter : Nat) (fd : Int) (s : Server) :
    (serveClient kernel iter fd s).log = [] := by
  unfold serveClient
  dsimp only
  split
  · split <;> rfl
  · rfl

theorem serveClient_step (kernel : Kernel) (iter : Nat) (fd : Int) {s : Server}
    (table : ClientTable s.clients) (distinct : DistinctTopics s.clients) (reliable : Prop) :
    Registry.Step sfPolicy reliable s.registry []
      (serveClient kernel iter fd s).server.registry := by
  unfold serveClient
  dsimp only
  split
  · split
    · exact .refused
    · exact (closeActiveClient_stepped table distinct fd).simulates.managed
        (.close fd) rfl reliable s.stored?
  · have step := processServerTcpMsg_step table distinct reliable s.stored? kernel fd
      (s := { s with recvMsg := (kernel.recvTcpMsg fd s.recvMsg).2 }) rfl
    obtain ⟨clients, server, _⟩ := processServerTcpMsg_edited kernel fd
      { s with recvMsg := (kernel.recvTcpMsg fd s.recvMsg).2 }
    rw [server] at step ⊢
    exact step

/-! ## The listener -/

/-- The pointers designate the messages, and each of them can be packed. -/
def Held (s : Server) : List Ref → List UdpType → Prop :=
  List.Forall₂ fun source msg => s.stored? source = some msg ∧ msg.Known

theorem Held.at {s : Server} {sources : List Ref} {msgs : List UdpType} (held : Held s sources msgs)
    {index : Nat} {source : Ref} (here : sources[index]? = some source) :
    ∃ msg, msgs[index]? = some msg ∧ s.stored? source = some msg ∧ msg.Known := by
  induction held generalizing index with
  | nil => cases here
  | cons first _ ih =>
      cases index with
      | zero =>
          obtain rfl := Option.some.inj here
          exact ⟨_, rfl, first⟩
      | succ index => exact ih (by simpa using here)

theorem Held.read {s : Server} {sources : List Ref} {msgs : List UdpType}
    (held : Held s sources msgs) : sources.filterMap s.stored? = msgs := by
  induction held with
  | nil => rfl
  | cons first _ ih => rw [List.filterMap_cons_some first.1, ih]

theorem Held.of_all {s : Server} {sources : List Ref}
    (all : ∀ source ∈ sources, ∃ msg, s.stored? source = some msg ∧ msg.Known) :
    Held s sources (sources.filterMap s.stored?) := by
  induction sources with
  | nil => exact .nil
  | cons source rest ih =>
      obtain ⟨msg, stored, known⟩ := all source List.mem_cons_self
      rw [List.filterMap_cons_some stored]
      exact .cons ⟨stored, known⟩ (ih fun other member => all other (List.mem_cons_of_mem _ member))

/-- The loop delivers the end of the queue, the last message first, and the
queue is not given back a part of it. -/
theorem retransmitLoop_delivered (kernel : Kernel) (s : Server) {c : ClientType} (clientFd : Int)
    (valid : 0 ≤ clientFd) {msgs : List UdpType} (held : Held s c.readyMsgs.elems msgs)
    {count : Nat} (within : count ≤ c.readyMsgs.elems.length) (sendMsg : TcpMsg) :
    let done := retransmitLoop kernel s c clientFd count sendMsg
    done.1.kept = 0 ∧ done.1.left ≤ count ∧ (kernel.Sends → done.1.left = 0) ∧
      Delivered done.2.2 (((msgs.take count).drop done.1.left).reverse.map (Prod.mk c.id)) := by
  induction count generalizing sendMsg with
  | zero => exact ⟨rfl, Nat.le_refl _, fun _ => rfl, .nil⟩
  | succ count ih =>
      obtain ⟨source, here⟩ : ∃ source, c.readyMsgs.elems[count]? = some source :=
        ⟨_, List.getElem?_eq_getElem within⟩
      obtain ⟨msg, there, stored, known⟩ := held.at here
      have deref : s.deref kernel source = msg := by rw [Server.deref, stored, Option.getD_some]
      have packed := (packTopicToTcpMsg_ok_iff sendMsg msg).mpr known
      rw [retransmitLoop, here]
      simp only [deref, packed, ne_eq, not_true_eq_false, if_false]
      split
      · rename_i failed
        refine ⟨rfl, Nat.le_refl _, ?_, ?_⟩
        · intro sends
          exact absurd (Kernel.sendTcpMsg_ok sends count valid _) failed
        · have untouched : (msgs.take (count + 1)).drop (count + 1) = [] :=
            List.drop_eq_nil_of_le (List.length_take_le _ _)
          rw [RetransmitEnd.left, untouched]
          exact .nil
      · obtain ⟨kept, below, whole, delivered⟩ :=
          ih (Nat.le_of_lt within) (packTopicToTcpMsg sendMsg msg).2
        refine ⟨kept, Nat.le_succ_of_le below, whole, ?_⟩
        have last : ((msgs.take (count + 1)).drop (retransmitLoop kernel s c clientFd count
              (packTopicToTcpMsg sendMsg msg).2).1.left).reverse =
            msg :: ((msgs.take count).drop (retransmitLoop kernel s c clientFd count
              (packTopicToTcpMsg sendMsg msg).2).1.left).reverse := by
          obtain ⟨inside, _⟩ := List.getElem?_eq_some_iff.mp there
          rw [List.take_add_one, there, Option.toList_some, List.drop_append_of_le_length
            (by rw [List.length_take]; omega)]
          simp
        have first : Delivered
            [.sent c.id clientFd source true (packTopicToTcpMsg sendMsg msg).2] [(c.id, msg)] :=
          .single ⟨_, _, _, rfl, packTopicToTcpMsg_shows sendMsg known⟩
        rw [last, List.map_cons, stored]
        exact first.append delivered

theorem retransmitTopicsToClient_delivered (kernel : Kernel) {s : Server} {clientFd : Int}
    (valid : 0 ≤ clientFd) {index : Nat} {c : ClientType}
    (found : locate (fun c => c.fd == clientFd) s.clients.elems = some (index, c))
    {msgs : List UdpType} (held : Held s c.readyMsgs.elems msgs) :
    ∃ (sendMsg : TcpMsg) (left : Nat), (kernel.Sends → left = 0) ∧
      (retransmitTopicsToClient kernel clientFd s).server =
        { s with sendMsg := sendMsg, clients := s.clients.set index (c.truncate 0) } ∧
      Delivered (retransmitTopicsToClient kernel clientFd s).log
        ((msgs.drop left).reverse.map (Prod.mk c.id)) := by
  obtain ⟨kept, _, whole, delivered⟩ :=
    retransmitLoop_delivered kernel s clientFd valid held (Nat.le_refl _) s.sendMsg
  obtain ⟨server, events⟩ := retransmitTopicsToClient_found found
  have all : msgs.take c.readyMsgs.elems.length = msgs :=
    List.take_of_length_le (Nat.le_of_eq held.length_eq.symm)
  rw [all, ← events] at delivered
  rw [kept] at server
  exact ⟨_, _, whole, server, delivered⟩

/-- When the memory is granted the registration ends the same way. -/
theorem Registered.succeed {clients after : ClientVec} {id : Bytes} {fd : Int}
    (table : ClientTable clients) (enrolled : Registered clients id fd after) :
    ClientCall.run clients (.registerNewClient id fd) = (.ok, after) := by
  cases enrolled with
  | again iter c here same dead =>
      subst same
      simp [ClientCall.run, registerNewClient, table.locate_id here, dead]
  | fresh absent =>
      have missed : locate (fun c => c.id == id) clients.elems = none :=
        locate_eq_none_iff.mpr fun c member => by simpa using absent c member
      simp [ClientCall.run, registerNewClient, missed, RegisterAlloc.succeed]

/-- The session that is opened, in the table and in the registry. -/
theorem Registered.opened {clients after : ClientVec} {id : Bytes} {fd : Int} {index : Nat}
    {c : ClientType} (enrolled : Registered clients id fd after)
    (unowned : ∀ c ∈ clients.elems, c.fd ≠ fd)
    (found : locate (fun c => c.fd == fd) after.elems = some (index, c)) :
    c.id = id ∧ (c.readyMsgs.elems = [] ∨
      ∃ old ∈ clients.elems, old.readyMsgs.elems = c.readyMsgs.elems) := by
  rcases enrolled.located unowned found with ⟨old, here, same, _, rfl, _⟩ | ⟨rfl, _, _⟩
  · exact ⟨same, Or.inr ⟨old, List.mem_of_getElem? here, rfl⟩⟩
  · exact ⟨rfl, Or.inl rfl⟩

theorem Listened.step {kernel : Kernel} {s t : Server} {log earlier : List Event}
    (listened : Listened kernel s log t) (queues : QueuesAsked earlier s)
    (distinct : DistinctTopics s.clients) {reliable : Prop} (sends : reliable → kernel.Sends) :
    ∃ delivered, Registry.Step sfPolicy reliable s.registry delivered t.registry ∧
      Delivered log delivered := by
  cases listened with
  | refused recvMsg pollVec clients positive samePoll sameClients refused =>
      have same : clientMap clients = clientMap s.clients := by
        unfold clientMap
        rw [sameClients]
      refine ⟨[], ?_, .nil⟩
      change Registry.Step sfPolicy reliable s.registry []
        ((clientMap clients).translate s.stored?)
      rw [same]
      exact .refused
  | joined recvMsg clients index c positive unopened enrolled found =>
      have inv := queues.table
      have unowned := inv.unowned positive unopened
      have elsewhere : ∀ d ∈ s.clients.elems, d.status = .active →
          d.fd ≠ kernel.accept s.pollVec.fds := fun d member _ => unowned d member
      have stepped := registerNewClient_stepped inv.toClientTable distinct (kernel.newcomer s)
        positive elsewhere
      have ran := enrolled.succeed inv.toClientTable
      have after : ClientTable clients := inv.toClientTable.registered positive elsewhere enrolled
      obtain ⟨own, origin⟩ := enrolled.opened unowned found
      have here := (locate_eq_some found).1
      -- what is pending can be sent
      have all : ∀ source ∈ c.readyMsgs.elems,
          ∃ msg, s.stored? source = some msg ∧ msg.Known := by
        intro source pending
        rcases origin with empty | ⟨old, member, same⟩
        · rw [empty] at pending
          cases pending
        · obtain ⟨msg, stored, listed⟩ := queues.history.stored member (same ▸ pending)
          exact ⟨msg, stored, queues.known msg listed⟩
      obtain ⟨sendMsg, left, whole, server, delivered⟩ := retransmitTopicsToClient_delivered kernel
        (Int.le_of_lt positive) (s := s.enrolling (kernel.accept s.pollVec.fds) recvMsg clients)
        found (Held.of_all all)
      have granted :
          s.registry.serve (.register (kernel.newcomer s) (kernel.accept s.pollVec.fds)) =
            some ((clientMap clients).translate s.stored?) := by
        have ok := stepped.simulates.ok_iff.mp (by rw [ran])
        have equal := stepped.simulates.map_eq
        obtain ⟨middle, served⟩ := Option.isSome_iff_exists.mp ok
        rw [ran, served, Option.getD_some] at equal
        rw [Server.registry, Registry.register_translate, equal]
        exact congrArg (Option.map _) served
      have opened : (clientMap clients).translate s.stored? (kernel.newcomer s) =
          some (c.session.translate s.stored?) := by
        rw [← own, Registry.translate, clientMap_at after here]
        rfl
      have emptied : ClientTable (clients.set index (c.truncate 0)) :=
        after.congr (map_set_of_eq here rfl)
      have lands : clientMap (clients.set index (c.truncate 0)) =
          (clientMap clients).revise (kernel.newcomer s) { c.session with pending := [] } := by
        rw [← own]
        exact clientMap_set (d := c.truncate 0) after here rfl emptied
      refine ⟨_, ?_, delivered⟩
      rw [server, own]
      change Registry.Step sfPolicy reliable s.registry _
        ((clientMap (clients.set index (c.truncate 0))).translate s.stored?)
      rw [lands, ← Registry.revise_translate (kernel.newcomer s) rfl]
      refine .connected _ _ _ _ left ?_ granted opened fun reliably => whole (sends reliably)
      intro other owns
      obtain ⟨_, d, there, _, _, owner⟩ := (owns_iff inv.toClientTable).mp
        ((Registry.owns_translate _ _ _ _).mp owns)
      exact unowned d (List.mem_of_getElem? there) owner

/-! ## The datagrams -/

/-- What is pending is read alike before and after a publication. -/
theorem Heard.reads {kernel : Kernel} {iter : Nat} {s r : Server} {heard earlier : List Event}
    (received : Heard kernel s heard r) (atUdp : s.pollVec.fds[iter]? = some s.udpSocket)
    (queues : QueuesAsked earlier s) (kept : keepsPending s iter kernel) {c : ClientType}
    (member : c ∈ s.clients.elems) {source : Ref} (pending : source ∈ c.readyMsgs.elems) :
    (r.stored kernel).stored? source = s.stored? source := by
  obtain ⟨msgs, sameBlock, _⟩ := received.same
  obtain ⟨block, msg, queued⟩ := queues.history.pending c member source pending
  have slot := queues.history.held c.id source msg queued
  have stays : ¬ (r.udpMsgs.full = true ∧ kernel.udpMsgs = .moves) := by
    rintro ⟨full, moves⟩
    have moved : Moves s iter kernel := ⟨atUdp, received.not_empty, msgs ▸ full, moves⟩
    rw [kept moved c member] at pending
    cases pending
  obtain ⟨inside, _⟩ := List.getElem?_eq_some_iff.mp slot
  rw [Server.stored?, Server.stored?, Server.stored_udpBlock, nextRef_block stays, sameBlock,
    if_pos block, if_pos block, Server.stored_elems, msgs, List.getElem?_append_left inside]

section Publish

variable {kernel : Kernel} {iter : Nat} {s r : Server} {heard earlier : List Event}
  {reliable : Prop}

/-- What becomes of the session of one client. -/
theorem Heard.offered (received : Heard kernel s heard r)
    (atUdp : s.pollVec.fds[iter]? = some s.udpSocket) (queues : QueuesAsked earlier s)
    (kept : keepsPending s iter kernel) (sends : reliable → kernel.Sends) {c : ClientType}
    (member : c ∈ s.clients.elems) (index : Nat) :
    (c.session.translate s.stored?).Offered sfPolicy reliable r.parsed
      (if c.takes r.parsed.name ∧ kernel.sendTcpMsg index c.fd (r.stored kernel).sendMsg = .ok
        then [r.parsed] else [])
      ((c.notified (r.nextRef kernel) r.parsed.name).session.translate
        (r.stored kernel).stored?) := by
  have reads : c.readyMsgs.elems.filterMap (r.stored kernel).stored? =
      c.readyMsgs.elems.filterMap s.stored? :=
    List.filterMap_congr fun source pending => received.reads atUdp queues kept member pending
  have unchanged : c.session.translate (r.stored kernel).stored? =
      c.session.translate s.stored? := by
    rw [Session.translate, Session.translate]
    exact congrArg _ reads
  by_cases taken : c.takes r.parsed.name
  · have connected : (c.session.translate s.stored?).conn.isSome := by
      simp [Session.translate, ClientType.session, taken.1]
    rw [ClientType.notified, if_neg (ClientType.takes_excludes_keeps taken), unchanged]
    by_cases sent : kernel.sendTcpMsg index c.fd (r.stored kernel).sendMsg = .ok
    · rw [if_pos ⟨taken, sent⟩]
      exact .delivered connected taken.2
    · rw [if_neg fun both => sent both.2]
      refine .lost connected taken.2 fun reliably => sent ?_
      have positive := (queues.table.active_iff c member).mp taken.1
      exact Kernel.sendTcpMsg_ok (sends reliably) index (by omega) _
  · rw [if_neg fun both => taken both.1]
    by_cases keeps : c.keeps r.parsed.name
    · have away : (c.session.translate s.stored?).conn = none := by
        simp [Session.translate, ClientType.session, keeps.1]
      have stacked : (c.notified (r.nextRef kernel) r.parsed.name).session.translate
            (r.stored kernel).stored? =
          { c.session.translate s.stored? with
            pending := (c.session.translate s.stored?).pending ++ [r.parsed] } := by
        rw [ClientType.notified, if_pos keeps]
        simp only [Session.translate, ClientType.session, ClientType.stack, Vec.push_elems,
          List.filterMap_append, reads]
        rw [List.filterMap_cons_some (Server.stored_nextRef kernel r), List.filterMap_nil]
        rfl
      rw [stacked]
      exact .kept .sf away keeps.2 rfl
    · rw [ClientType.notified, if_neg keeps, unchanged]
      cases option : c.table.option? r.parsed.name with
      | none => exact .ignored option
      | some asked =>
          have dead : c.status = .dead := by
            cases status : c.status with
            | dead => rfl
            | active => exact absurd ⟨status, by simp [option]⟩ taken
          have away : (c.session.translate s.stored?).conn = none := by
            simp [Session.translate, ClientType.session, dead]
          refine .missed asked away option ?_
          rintro rfl
          exact keeps ⟨dead, option⟩

theorem Heard.step (received : Heard kernel s heard r)
    (atUdp : s.pollVec.fds[iter]? = some s.udpSocket) (queues : QueuesAsked earlier s)
    (kept : keepsPending s iter kernel) (sends : reliable → kernel.Sends)
    (ran : (publish kernel r).err = .ok) :
    ∃ delivered,
      Registry.Step sfPolicy reliable s.registry delivered (publish kernel r).server.registry ∧
        Delivered (heard ++ (publish kernel r).log) delivered := by
  obtain ⟨_, known, clients, server, elems, log⟩ := publish_ok ran
  obtain ⟨_, _, same⟩ := received.same
  rw [same] at elems log
  have shows : (r.stored kernel).sendMsg.Shows r.parsed := by
    rw [Server.stored_sendMsg]
    exact packTopicToTcpMsg_shows _ known
  have heardOnly : Delivered heard [] := by
    cases received with
    | failed answer => exact .unsent rfl .nil
    | datagram addr payload answer nonempty => exact .unsent rfl .nil
  have after : ∀ id, clientMap clients id =
      (locate (fun c => c.id == id) s.clients.elems).map fun found =>
        (found.2.notified (r.nextRef kernel) r.parsed.name).session := by
    intro id
    rw [clientMap, elems, locate_map, Option.map_map]
    simp only [ClientType.notified_id]
    rfl
  rw [server, log]
  refine ⟨[] ++ deliveries kernel (r.stored kernel).sendMsg r.parsed 0 s.clients.elems, ?_,
    heardOnly.append (allNotices_delivered kernel _ (Server.stored_nextRef kernel r) shows _ _)⟩
  rw [List.nil_append]
  refine .published r.parsed _ _ ?_ ?_
  · intro id absent
    rw [Server.registry, Registry.translate, Option.map_eq_none_iff, clientMap,
      Option.map_eq_none_iff] at absent
    refine ⟨?_, deliveries_absent kernel _ _ ?_ 0⟩
    · rw [Server.registry, Registry.translate, after, absent]
      rfl
    · intro c member
      simpa using locate_eq_none_iff.mp absent c member
  · intro id session opened
    obtain ⟨inner, mapped, rfl⟩ := Option.map_eq_some_iff.mp opened
    obtain ⟨⟨index, c⟩, located, rfl⟩ := Option.map_eq_some_iff.mp mapped
    obtain ⟨here, own, _⟩ := locate_eq_some located
    obtain rfl : c.id = id := by simpa using own
    refine ⟨(c.notified (r.nextRef kernel) r.parsed.name).session.translate
      (r.stored kernel).stored?, ?_, ?_⟩
    · rw [Server.registry, Registry.translate, after, located]
      rfl
    · rw [deliveries_own kernel _ _ queues.table.ids here, Nat.zero_add]
      exact received.offered atUdp queues kept sends (List.mem_of_getElem? here) index

end Publish

/-! ## Rounds and runs -/

/-- A round is a step of the service, and its frames are the deliveries of the step. -/
theorem serve_step {kernel : Kernel} {iter : Nat} {s : Server} {earlier : List Event}
    {reliable : Prop} (queues : QueuesAsked earlier s) (distinct : DistinctTopics s.clients)
    (granted : keepsQueues s iter kernel) (sends : reliable → kernel.Sends) :
    (serve kernel iter s).err = .ok → ∃ delivered,
      Registry.Step sfPolicy reliable s.registry delivered (serve kernel iter s).server.registry ∧
        Delivered (serve kernel iter s).log delivered := by
  refine serve_branches (motive := fun done => done.err = .ok → ∃ delivered,
    Registry.Step sfPolicy reliable s.registry delivered done.server.registry ∧
      Delivered done.log delivered) kernel iter s ?_ ?_ ?_ ?_
  · exact fun _ _ => ⟨[], .refused, .nil⟩
  · intro atUdp
    refine serveUdp_branches (motive := fun done => done.err = .ok → ∃ delivered,
      Registry.Step sfPolicy reliable s.registry delivered done.server.registry ∧
        Delivered done.log delivered) kernel iter s ?_ ?_ ?_
    · exact fun answer ran =>
        (Heard.failed answer).step atUdp queues granted.2 sends ran
    · exact fun _ _ _ _ _ => ⟨[], .refused, .unsent rfl .nil⟩
    · exact fun addr payload answer nonempty ran =>
        (Heard.datagram addr payload answer nonempty).step atUdp queues granted.2 sends ran
  · exact fun _ _ ran => (serveListener_listened ran).step queues distinct sends
  · intro fd atFd notUdp notTcp _
    refine ⟨[], serveClient_step kernel iter fd queues.table.toClientTable distinct reliable, ?_⟩
    rw [serveClient_log]
    exact .nil

/-- Rounds without an empty datagram that keep the pending pointers good, and in
which every frame goes out when the connections are to be reliable. -/
def serviceable (reliable : Prop) (s : Server) (iter : Nat) (kernel : Kernel) : Prop :=
  keepsQueues s iter kernel ∧ (reliable → kernel.Sends)

/-- What is known of the server after a log. -/
structure Serving (reliable : Prop) (log : List Event) (s : Server) : Prop where
  queues : QueuesAsked log s
  distinct : DistinctTopics s.clients
  served : ∃ delivered, (service sfPolicy reliable).Run (fun _ => none) delivered s.registry ∧
    Delivered log delivered

namespace Serving

variable {reliable : Prop} {log : List Event} {s : Server}

theorem init (start : (broker (serviceable reliable)).init s) : Serving reliable [] s := by
  obtain ⟨kernel, hport, started⟩ := start
  have fresh := initServer_fresh started
  have begun : (broker (serviceable reliable)).init s := ⟨kernel, hport, started⟩
  refine ⟨QueuesAsked.of_run (fun _ _ _ granted => granted.1) begun .refl, ?_, [], ?_, .nil⟩
  · intro c member
    rw [fresh.clients] at member
    cases member
  · have empty : s.registry = fun _ => none := by
      funext id
      rw [Server.registry, Registry.translate, clientMap, fresh.clients]
      rfl
    rw [empty]
    exact .refl

theorem round {kernel : Kernel} {iter : Nat} (serving : Serving reliable log s)
    (granted : serviceable reliable s iter kernel) (ran : (serve kernel iter s).err = .ok) :
    Serving reliable (log ++ (serve kernel iter s).log) (serve kernel iter s).server := by
  obtain ⟨delivered, run, carried⟩ := serving.served
  obtain ⟨more, step, also⟩ :=
    serve_step serving.queues serving.distinct granted.1 granted.2 ran
  exact ⟨serving.queues.round granted.1 ran, serving.distinct.round (serve_round ran),
    delivered ++ more, .next run step, carried.append also⟩

theorem awake (serving : Serving reliable log s) (revents : Nat → BitVec 16)
    (cmd : Buffer maxCmdLen) : Serving reliable log (s.awake revents cmd) :=
  ⟨serving.queues.awake revents cmd, serving.distinct, serving.served⟩

end Serving

theorem Serving.of_run {reliable : Prop} {first s : Server} {log : List Event}
    (start : (broker (serviceable reliable)).init first)
    (run : (broker (serviceable reliable)).Run first log s) : Serving reliable log s := by
  refine run.history (I := Serving reliable) (.init start) ?_
  intro log more s t serving edge
  cases edge with
  | awake revents cmd =>
      rw [List.append_nil]
      exact serving.awake revents cmd
  | serve iter kernel first inside granted ran => exact serving.round granted ran

theorem flawlessInPlace.serviceable {s : Server} {iter : Nat} {kernel : Kernel}
    (granted : flawlessInPlace s iter kernel) (reliable : Prop) :
    serviceable reliable s iter kernel :=
  ⟨granted.keepsQueues, fun _ => granted.1.1.sends⟩

/-- The rounds of a script one after another, as long as none fails or leaves its blocks. -/
def IdBlock.play : List (Nat × Kernel) → Server → Option (List Event × Server)
  | [], s => some ([], s)
  | (iter, kernel) :: rest, s =>
      if 1 ≤ iter ∧ iter < s.pollVec.nfds then do
        let done ← IdBlock.serve kernel iter s
        if done.err = .ok then do
          let later ← play rest done.server
          some (done.log ++ later.1, later.2)
        else none
      else none

theorem IdBlock.play_run {allowed : Server → Nat → Kernel → Prop} {script : List (Nat × Kernel)}
    (granted : ∀ entry ∈ script, ∀ s, allowed s entry.1 entry.2) {s t : Server}
    {log : List Event} (played : IdBlock.play script s = some (log, t)) :
    (IdBlock.broker allowed).Run s log t := by
  induction script generalizing s log with
  | nil =>
      cases played
      exact .refl
  | cons entry rest ih =>
      rw [play] at played
      split at played
      · rename_i inside
        obtain ⟨done, ran, later⟩ := Option.bind_eq_some_iff.mp played
        split at later
        · rename_i ok
          obtain ⟨⟨more, last⟩, behind, eq⟩ := Option.bind_eq_some_iff.mp later
          cases eq
          have edge : (IdBlock.broker allowed).step s done.log done.server :=
            .serve s entry.1 entry.2 done inside.1 inside.2 (granted entry (by simp) s) ran ok
          exact (System.Run.single edge).trans
            (ih (fun other member => granted other (by simp [member])) behind)
        · cases later
      · cases played

end TopicBroker
