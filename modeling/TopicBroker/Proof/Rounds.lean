import TopicBroker.Proof.ClientTable
import TopicBroker.Proof.Transmission

/-!
# What one round can do

A round of the poll loop that ends without an error is one of seven things.
Every invariant of a run is proved by cases on them, never by unfolding the loop.
-/

namespace TopicBroker

/-! ## Publication from the receive buffer -/

namespace Server

/-- The message that the parser makes of the receive buffer. -/
def parsed (s : Server) : UdpType := parsedUdpType s.udpAddrClient s.buf.bytes

/-- The server once the datagram in `buf` is stored and packed. -/
def stored (kernel : Kernel) (s : Server) : Server :=
  { s with
    udpMsgs := (s.reserveUdpMsgs kernel).udpMsgs.push s.parsed
    udpBlock := (s.reserveUdpMsgs kernel).udpBlock
    sendMsg := (packTopicToTcpMsg s.sendMsg s.parsed).2 }

/-- The pointer to the message stored next. -/
def nextRef (kernel : Kernel) (s : Server) : Ref :=
  ⟨(s.reserveUdpMsgs kernel).udpBlock, s.udpMsgs.elems.length⟩

/-- The allocator refuses the growth that the next datagram needs. -/
def Crammed (kernel : Kernel) (s : Server) : Prop :=
  s.udpMsgs.full = true ∧ kernel.udpMsgs = .fails

theorem reserveUdpMsgs_elems (kernel : Kernel) (s : Server) :
    (s.reserveUdpMsgs kernel).udpMsgs.elems = s.udpMsgs.elems := by
  unfold reserveUdpMsgs
  split <;> rfl

theorem stored_elems (kernel : Kernel) (s : Server) :
    (s.stored kernel).udpMsgs.elems = s.udpMsgs.elems ++ [s.parsed] := by
  rw [stored, Vec.push_elems, reserveUdpMsgs_elems]

theorem stored_sendMsg (kernel : Kernel) (s : Server) :
    (s.stored kernel).sendMsg = (packTopicToTcpMsg s.sendMsg s.parsed).2 := rfl

theorem stored_udpBlock (kernel : Kernel) (s : Server) :
    (s.stored kernel).udpBlock = (s.nextRef kernel).block := rfl

/-- The message just stored is what its pointer designates. -/
theorem stored_nextRef (kernel : Kernel) (s : Server) :
    (s.stored kernel).stored? (s.nextRef kernel) = some s.parsed := by
  rw [stored?, stored_udpBlock, if_pos rfl, stored_elems, nextRef]
  simp

end Server

theorem addServerUdpMsg_ok_iff (kernel : Kernel) (s : Server) :
    (addServerUdpMsg kernel s).1 = .ok ↔ ¬ s.Crammed kernel ∧ s.parsed.Known := by
  have parsed : (parseUdpTypeFrom (s.reserveUdpMsgs kernel).udpAddrClient
      (s.reserveUdpMsgs kernel).buf.bytes).1 = .ok ↔ s.parsed.Known := by
    rw [UdpType.known_iff]
    unfold Server.reserveUdpMsgs
    split <;> rfl
  unfold addServerUdpMsg
  dsimp only
  split
  · rename_i crammed
    have refused : s.Crammed kernel := by simpa [Server.Crammed] using crammed
    simp [refused]
  · rename_i room
    have granted : ¬ s.Crammed kernel := by simpa [Server.Crammed] using room
    split
    · rename_i refused
      exact ⟨fun ok => absurd ok refused, fun both => absurd (parsed.mpr both.2) refused⟩
    · rename_i accepted
      exact ⟨fun _ => ⟨granted, parsed.mp (not_not.mp accepted)⟩, fun _ => rfl⟩

theorem addServerUdpMsg_server {kernel : Kernel} {s : Server}
    (ran : (addServerUdpMsg kernel s).1 = .ok) :
    (addServerUdpMsg kernel s).2 = { s.stored kernel with sendMsg := s.sendMsg } := by
  unfold addServerUdpMsg at ran ⊢
  dsimp only at ran ⊢
  split
  · rename_i refused
    rw [if_pos refused] at ran
    cases ran
  · rename_i room
    rw [if_neg room] at ran
    split
    · rename_i refused
      rw [if_pos refused] at ran
      exact absurd ran refused
    · unfold Server.stored Server.reserveUdpMsgs
      split <;> rfl

/-- Storing, packing and the loop over the clients, when nothing fails. -/
theorem publish_ok {kernel : Kernel} {s : Server} (ran : (publish kernel s).err = .ok) :
    ¬ s.Crammed kernel ∧ s.parsed.Known ∧ ∃ clients : ClientVec,
      (publish kernel s).server = { s.stored kernel with clients := clients } ∧
      clients.elems =
        s.clients.elems.map (ClientType.notified (s.nextRef kernel) s.parsed.name) ∧
      (publish kernel s).log =
        allNotices kernel (s.stored kernel) (s.nextRef kernel) s.parsed 0 s.clients.elems := by
  unfold publish at ran ⊢
  dsimp only at ran ⊢
  split at ran
  · rename_i refused
    exact absurd ran refused
  · rename_i accepted
    rw [if_neg accepted]
    have added := not_not.mp accepted
    obtain ⟨room, known⟩ := (addServerUdpMsg_ok_iff kernel s).mp added
    refine ⟨room, known, ?_⟩
    rw [addServerUdpMsg_server added] at ran ⊢
    have source : Server.lastRef { s.stored kernel with sendMsg := s.sendMsg } =
        s.nextRef kernel := by
      rw [Server.lastRef, Server.stored_elems, List.length_append]
      rfl
    have msg : Server.deref { s.stored kernel with sendMsg := s.sendMsg } kernel
        (s.nextRef kernel) = s.parsed := by
      have found := Server.stored_nextRef kernel s
      change Server.stored? { s.stored kernel with sendMsg := s.sendMsg } _ = _ at found
      rw [Server.deref, found, Option.getD_some]
    have packed := (packTopicToTcpMsg_ok_iff s.sendMsg s.parsed).mpr known
    unfold transmitTopicToClients at ran ⊢
    dsimp only at ran ⊢
    rw [source, msg, packed, if_neg (not_not.mpr rfl)] at ran ⊢
    obtain ⟨clients, server, elems, log⟩ := transmitLoop_ok (Nat.zero_add _) ran
    refine ⟨clients, server, elems.trans ?_, log.trans ?_⟩
    · rw [List.take_zero, List.nil_append, List.drop_zero]
      rfl
    · rw [List.drop_zero]
      rfl

/-! ## Requests -/

/-- One client has a new subscription table, in which no topic repeats when none did. -/
inductive Edited (clients : ClientVec) : ClientVec → Prop where
  | same : Edited clients clients
  | table (index : Nat) (c : ClientType) (table : TopicTable)
      (here : clients.elems[index]? = some c)
      (nodup : c.table.topics.Nodup → table.topics.Nodup) :
      Edited clients (clients.set index { c with table := table })

theorem ClientType.subscribe_table (c : ClientType) (topic : Bytes) (option : ClientOption)
    (alloc : SubscribeAlloc) :
    ∃ table : TopicTable, (c.subscribe topic option alloc).2 = { c with table := table } ∧
      (c.table.topics.Nodup → table.topics.Nodup) := by
  unfold ClientType.subscribe
  cases located : locate (fun other => other == topic) c.table.topics with
  | some found => exact ⟨_, rfl, fun nodup => nodup⟩
  | none =>
      have absent : topic ∉ c.table.topics := by
        intro member
        simpa using locate_eq_none_iff.mp located topic member
      dsimp only
      split
      · exact ⟨_, rfl, fun nodup => nodup⟩
      · split
        · exact ⟨_, rfl, fun nodup => nodup⟩
        · split
          · refine ⟨_, rfl, ?_⟩
            rw [TopicTable.reserve_topics]
            exact fun nodup => nodup
          · exact ⟨_, rfl, fun nodup => TopicTable.nodup_push nodup absent⟩

theorem ClientType.unsubscribe_table (c : ClientType) (topic : Bytes) :
    ∃ table : TopicTable, (c.unsubscribe topic).2 = { c with table := table } ∧
      (c.table.topics.Nodup → table.topics.Nodup) := by
  unfold ClientType.unsubscribe
  cases located : locate (fun other => other == topic) c.table.topics with
  | none => exact ⟨_, rfl, fun nodup => nodup⟩
  | some found =>
      obtain ⟨inside, _⟩ := List.getElem?_eq_some_iff.mp (mem_of_locate located)
      exact ⟨_, rfl, fun nodup => TopicTable.nodup_remove nodup inside⟩

theorem OnClient.edited {clients : ClientVec} {clientFd : Int}
    {run : ClientType → Err × ClientType} {done : Err × ClientVec}
    (onClient : OnClient clients clientFd run done)
    (tabled : ∀ c, ∃ table : TopicTable, (run c).2 = { c with table := table } ∧
      (c.table.topics.Nodup → table.topics.Nodup)) : Edited clients done.2 := by
  cases onClient with
  | invalid negative => exact .same
  | missed absent => exact .same
  | found index c located =>
      obtain ⟨table, eq, nodup⟩ := tabled c
      rw [eq]
      exact .table _ _ _ (locate_eq_some located).1 nodup

theorem subscribeClientToTopic_edited (clients : ClientVec) (clientFd : Int) (topic : Bytes)
    (option : ClientOption) (alloc : SubscribeAlloc) :
    Edited clients (subscribeClientToTopic clients clientFd topic option alloc).2 :=
  (subscribeClientToTopic_onClient clients clientFd topic option alloc).edited
    fun c => c.subscribe_table topic option alloc

theorem unsubscribeClientFromTopic_edited (clients : ClientVec) (clientFd : Int)
    (topic : Bytes) : Edited clients (unsubscribeClientFromTopic clients clientFd topic).2 :=
  (unsubscribeClientFromTopic_onClient clients clientFd topic).edited
    fun c => c.unsubscribe_table topic

theorem processServerTcpMsg_edited (kernel : Kernel) (clientFd : Int) (s : Server) :
    ∃ clients, (processServerTcpMsg kernel clientFd s).2 = { s with clients := clients } ∧
      Edited s.clients clients := by
  unfold processServerTcpMsg
  dsimp only
  split
  · exact ⟨_, rfl, subscribeClientToTopic_edited _ _ _ _ _⟩
  · split
    · exact ⟨_, rfl, unsubscribeClientFromTopic_edited _ _ _⟩
    · exact ⟨_, rfl, .same⟩

theorem closeActiveClient_ok {clients : ClientVec} {clientFd : Int}
    (ran : (closeActiveClient clients clientFd).1 = .ok) :
    ∃ index c, clients.elems[index]? = some c ∧ c.fd = clientFd ∧ c.status = .active ∧
      (closeActiveClient clients clientFd).2.1 =
        clients.set index { c with status := .dead, fd := -1 } := by
  unfold closeActiveClient at ran ⊢
  split at ran
  · cases ran
  · rename_i valid
    rw [if_neg valid]
    cases found : locate (fun c => c.fd == clientFd) clients.elems with
    | none => simp [found] at ran
    | some pair =>
        obtain ⟨here, owner, _⟩ := locate_eq_some found
        cases status : pair.2.status with
        | dead => simp [found, status] at ran
        | active =>
            refine ⟨pair.1, pair.2, here, by simpa using owner, status, ?_⟩
            simp [status]

/-! ## The seven rounds -/

/-- What `recvfrom` can have left behind when a datagram is published: it failed
and nothing changed, or it returned at least one byte. -/
inductive Heard (kernel : Kernel) (s : Server) : List Event → Server → Prop where
  | failed (answer : kernel.recvfrom = none) : Heard kernel s [.received none] s
  | datagram (addr : Buffer sizeofSockaddrIn) (payload : Bytes)
      (answer : kernel.recvfrom = some (addr, payload))
      (nonempty : payload.take maxServerBuflen ≠ []) :
      Heard kernel s [.received (some (payload.take maxServerBuflen))] (s.receive addr payload)

/-- The server with a new connection, registered in `clients`. -/
def Server.enrolling (s : Server) (fd : Int) (recvMsg : TcpMsg) (clients : ClientVec) : Server :=
  { s with
    pollVec := s.pollVec.push ⟨fd, pollin ||| pollout, 0⟩
    recvMsg := recvMsg
    clients := clients }

/-- How the listener is served without an error. -/
inductive Listened (kernel : Kernel) (s : Server) : List Event → Server → Prop where
  | refused (recvMsg : TcpMsg) (pollVec : PollVec) (clients : ClientVec)
      (positive : 0 < kernel.accept s.pollVec.fds)
      (samePoll : pollVec.elems = s.pollVec.elems) (sameClients : clients.elems = s.clients.elems)
      (refused : (registerNewClient s.clients (kernel.newcomer s)
        (kernel.accept s.pollVec.fds) kernel.register).1 ≠ .ok) :
      Listened kernel s [] { s with pollVec := pollVec, recvMsg := recvMsg, clients := clients }
  | joined (recvMsg : TcpMsg) (clients : ClientVec) (index : Nat) (c : ClientType)
      (positive : 0 < kernel.accept s.pollVec.fds)
      (unopened : kernel.accept s.pollVec.fds ∉ s.pollVec.fds)
      (enrolled : Registered s.clients (kernel.newcomer s) (kernel.accept s.pollVec.fds) clients)
      (found : locate (fun c => c.fd == kernel.accept s.pollVec.fds) clients.elems =
        some (index, c)) :
      Listened kernel s
        (retransmitTopicsToClient kernel (kernel.accept s.pollVec.fds)
          (s.enrolling (kernel.accept s.pollVec.fds) recvMsg clients)).log
        (retransmitTopicsToClient kernel (kernel.accept s.pollVec.fds)
          (s.enrolling (kernel.accept s.pollVec.fds) recvMsg clients)).server

inductive Round (kernel : Kernel) (iter : Nat) (s : Server) : List Event → Server → Prop where
  | idle (recvMsg : TcpMsg) : Round kernel iter s [] { s with recvMsg := recvMsg }
  | emptied (addr : Buffer sizeofSockaddrIn) (payload : Bytes)
      (atUdp : s.pollVec.fds[iter]? = some s.udpSocket)
      (answer : kernel.recvfrom = some (addr, payload))
      (empty : payload.take maxServerBuflen = []) :
      Round kernel iter s [.received (some [])]
        { s with udpAddrClient := addr, pollVec := s.pollVec.remove iter }
  | published (heard : List Event) (r : Server) (clients : ClientVec)
      (atUdp : s.pollVec.fds[iter]? = some s.udpSocket) (received : Heard kernel s heard r)
      (room : ¬ r.Crammed kernel) (known : r.parsed.Known)
      (notified : clients.elems =
        r.clients.elems.map (ClientType.notified (r.nextRef kernel) r.parsed.name)) :
      Round kernel iter s
        (heard ++
          allNotices kernel (r.stored kernel) (r.nextRef kernel) r.parsed 0 r.clients.elems)
        { r.stored kernel with clients := clients }
  | rejected (recvMsg : TcpMsg) (pollVec : PollVec) (clients : ClientVec)
      (samePoll : pollVec.fds = s.pollVec.fds) (sameClients : clients.elems = s.clients.elems) :
      Round kernel iter s [] { s with pollVec := pollVec, recvMsg := recvMsg, clients := clients }
  | registered (id : Bytes) (fd : Int) (recvMsg sendMsg : TcpMsg) (clients : ClientVec)
      (index : Nat) (c : ClientType) (kept left : Nat) (log : List Event)
      (positive : 0 < fd) (unopened : fd ∉ s.pollVec.fds)
      (enrolled : Registered s.clients id fd clients)
      (found : locate (fun c => c.fd == fd) clients.elems = some (index, c))
      (shorter : kept ≤ left) (complete : kernel.Sends → kept = left)
      (resent : Resent s c fd (c.readyMsgs.elems.drop left).reverse log) :
      Round kernel iter s log
        { s with
          pollVec := s.pollVec.push ⟨fd, pollin ||| pollout, 0⟩
          recvMsg := recvMsg
          sendMsg := sendMsg
          clients := clients.set index (c.truncate kept) }
  | disconnected (fd : Int) (recvMsg : TcpMsg) (index : Nat) (c : ClientType)
      (atFd : s.pollVec.fds[iter]? = some fd) (notUdp : fd ≠ s.udpSocket)
      (notTcp : fd ≠ s.tcpSocket) (here : s.clients.elems[index]? = some c) (owner : c.fd = fd)
      (active : c.status = .active) :
      Round kernel iter s []
        { s with
          pollVec := s.pollVec.remove iter
          recvMsg := recvMsg
          clients := s.clients.set index { c with status := .dead, fd := -1 } }
  | requested (recvMsg : TcpMsg) (clients : ClientVec) (edited : Edited s.clients clients) :
      Round kernel iter s [] { s with recvMsg := recvMsg, clients := clients }

theorem Round.sockets {kernel : Kernel} {iter : Nat} {s t : Server} {log : List Event}
    (ran : Round kernel iter s log t) :
    t.udpSocket = s.udpSocket ∧ t.tcpSocket = s.tcpSocket := by
  cases ran with
  | published heard r clients atUdp received room known notified =>
      cases received <;> exact ⟨rfl, rfl⟩
  | idle recvMsg => exact ⟨rfl, rfl⟩
  | emptied addr payload atUdp answer empty => exact ⟨rfl, rfl⟩
  | rejected recvMsg pollVec clients samePoll sameClients => exact ⟨rfl, rfl⟩
  | registered id fd recvMsg sendMsg clients index c kept left log positive unopened enrolled
      found shorter complete resent => exact ⟨rfl, rfl⟩
  | disconnected fd recvMsg index c atFd notUdp notTcp here owner active => exact ⟨rfl, rfl⟩
  | requested recvMsg clients edited => exact ⟨rfl, rfl⟩

/-- What holds for each answer of `recvfrom` holds of the branch for the UDP socket. -/
theorem serveUdp_branches {motive : Served → Prop} (kernel : Kernel) (iter : Nat) (s : Server)
    (failed : kernel.recvfrom = none →
      motive ⟨(publish kernel s).after [.received none], false⟩)
    (emptied : ∀ addr payload, kernel.recvfrom = some (addr, payload) →
      payload.take maxServerBuflen = [] →
        motive ⟨⟨(pollVecRemoveFd s.pollVec iter).1,
          { s.receive addr payload with pollVec := (pollVecRemoveFd s.pollVec iter).2 },
          [.received (some [])]⟩, true⟩)
    (datagram : ∀ addr payload, kernel.recvfrom = some (addr, payload) →
      payload.take maxServerBuflen ≠ [] →
        motive ⟨(publish kernel (s.receive addr payload)).after
          [.received (some (payload.take maxServerBuflen))], false⟩) :
    motive (serveUdp kernel iter s) := by
  unfold serveUdp
  cases answer : kernel.recvfrom with
  | none => exact failed answer
  | some pair =>
      dsimp only
      split
      · rename_i empty
        exact emptied pair.1 pair.2 answer empty
      · rename_i nonempty
        exact datagram pair.1 pair.2 answer nonempty

theorem Heard.round {kernel : Kernel} {iter : Nat} {s r : Server} {heard : List Event}
    (atUdp : s.pollVec.fds[iter]? = some s.udpSocket) (received : Heard kernel s heard r)
    (ran : (publish kernel r).err = .ok) :
    Round kernel iter s (heard ++ (publish kernel r).log) (publish kernel r).server := by
  obtain ⟨room, known, clients, server, elems, log⟩ := publish_ok ran
  rw [server, log]
  exact .published _ _ clients atUdp received room known elems

theorem serveUdp_round {kernel : Kernel} {iter : Nat} {s : Server}
    (atUdp : s.pollVec.fds[iter]? = some s.udpSocket) :
    (serveUdp kernel iter s).err = .ok →
      Round kernel iter s (serveUdp kernel iter s).log (serveUdp kernel iter s).server := by
  refine serveUdp_branches (motive := fun done => done.err = .ok →
    Round kernel iter s done.log done.server) kernel iter s ?_ ?_ ?_
  · exact fun answer ran => (Heard.failed answer).round atUdp ran
  · intro addr payload answer empty _
    obtain ⟨inside, _⟩ := List.getElem?_eq_some_iff.mp atUdp
    have entry : iter < s.pollVec.nfds := by simpa [PollVec.fds, PollVec.nfds] using inside
    have unchanged : s.buf.splice 0 [] = s.buf := by
      apply Buffer.ext_bytes
      rw [Buffer.splice_bytes _ (Nat.zero_le _)]
      simp
    rw [pollVecRemoveFd_inside entry]
    have reached : Round kernel iter s _ _ := .emptied addr payload atUdp answer empty
    simpa only [Server.receive, empty, unchanged] using reached
  · exact fun addr payload answer nonempty ran =>
      (Heard.datagram addr payload answer nonempty).round atUdp ran

theorem serveListener_listened {kernel : Kernel} {s : Server}
    (ran : (serveListener kernel s).err = .ok) :
    Listened kernel s (serveListener kernel s).log (serveListener kernel s).server := by
  unfold serveListener at ran ⊢
  dsimp only at ran ⊢
  split at ran
  · cases ran
  · rename_i positive
    rw [if_neg positive]
    have fresh := kernel.accept_fresh s.pollVec.fds (by omega)
    split at ran
    · rename_i refused
      exact absurd ran refused
    · rename_i accepted
      rw [if_neg accepted, pollVecAddFd_push (not_not.mp accepted)]
      split at ran
      · cases ran
      · rename_i heard
        rw [if_neg heard]
        split
        · rename_i refused
          refine .refused _ _ _ (by omega) ?_ (registerNewClient_refused refused) refused
          have last : PollVec.nfds (s.pollVec.push ⟨kernel.accept s.pollVec.fds,
              pollin ||| pollout, 0⟩) - 1 < PollVec.nfds (s.pollVec.push
              ⟨kernel.accept s.pollVec.fds, pollin ||| pollout, 0⟩) := by
            simp [PollVec.nfds]
          rw [pollVecRemoveFd_inside last]
          exact PollVec.elems_push_remove _ _
        · rename_i registered
          have enrolled := registerNewClient_ok (Prod.ext (not_not.mp registered) rfl)
          obtain ⟨index, c, found⟩ := enrolled.found
          exact .joined _ _ index c (by omega) fresh enrolled found

theorem Listened.positive {kernel : Kernel} {s t : Server} {log : List Event}
    (listened : Listened kernel s log t) : 0 < kernel.accept s.pollVec.fds := by
  cases listened with
  | refused recvMsg pollVec clients positive samePoll sameClients refused => exact positive
  | joined recvMsg clients index c positive unopened enrolled found => exact positive

theorem Listened.round {kernel : Kernel} {s t : Server} {log : List Event} (iter : Nat)
    (listened : Listened kernel s log t) : Round kernel iter s log t := by
  cases listened with
  | refused recvMsg pollVec clients positive samePoll sameClients refused =>
      exact .rejected _ _ _ (congrArg (List.map PollFd.fd) samePoll) sameClients
  | joined recvMsg clients index c positive unopened enrolled found =>
      obtain ⟨sendMsg, kept, left, shorter, complete, server, resent⟩ :=
        retransmitTopicsToClient_spec kernel (kernel.accept s.pollVec.fds)
          (s.enrolling (kernel.accept s.pollVec.fds) recvMsg clients) found
      rw [server]
      exact .registered _ _ _ sendMsg _ _ _ kept left _ positive unopened enrolled found
        shorter (fun sends => complete sends (by omega)) resent

theorem serveListener_round {kernel : Kernel} (iter : Nat) {s : Server}
    (ran : (serveListener kernel s).err = .ok) :
    Round kernel iter s (serveListener kernel s).log (serveListener kernel s).server :=
  (serveListener_listened ran).round iter

theorem serveClient_round {kernel : Kernel} {iter : Nat} {fd : Int} {s : Server}
    (atFd : s.pollVec.fds[iter]? = some fd) (notUdp : fd ≠ s.udpSocket)
    (notTcp : fd ≠ s.tcpSocket) :
    Round kernel iter s (serveClient kernel iter fd s).log
      (serveClient kernel iter fd s).server := by
  unfold serveClient
  dsimp only
  split
  · split
    · exact .idle _
    · rename_i closed
      obtain ⟨index, c, here, owner, active, after⟩ := closeActiveClient_ok (not_not.mp closed)
      obtain ⟨inside, _⟩ := List.getElem?_eq_some_iff.mp atFd
      have entry : iter < s.pollVec.nfds := by
        simpa [PollVec.fds, PollVec.nfds] using inside
      rw [after, pollVecRemoveFd_inside entry]
      exact .disconnected fd _ index c atFd notUdp notTcp here owner active
  · obtain ⟨clients, server, edited⟩ := processServerTcpMsg_edited kernel fd
      { s with recvMsg := (kernel.recvTcpMsg fd s.recvMsg).2 }
    rw [server]
    exact .requested _ clients edited

/-! ## Which branch a round takes -/

theorem serve_at {kernel : Kernel} {iter : Nat} {s : Server} {fd : Int}
    (here : s.pollVec.fds[iter]? = some fd) :
    serve kernel iter s =
      if fd = s.udpSocket then serveUdp kernel iter s
      else if fd = s.tcpSocket then ⟨serveListener kernel s, false⟩
      else serveClient kernel iter fd s := by
  rw [PollVec.fds, List.getElem?_map, Option.map_eq_some_iff] at here
  obtain ⟨entry, here, rfl⟩ := here
  rw [serve, here]

theorem serve_listener {kernel : Kernel} {iter : Nat} {s : Server}
    (listener : s.pollVec.fds[iter]? = some s.tcpSocket) (notUdp : s.tcpSocket ≠ s.udpSocket) :
    serve kernel iter s = ⟨serveListener kernel s, false⟩ := by
  rw [serve_at listener, if_neg notUdp, if_pos rfl]

/-- What holds of every branch holds of the round. -/
theorem serve_branches {motive : Served → Prop} (kernel : Kernel) (iter : Nat) (s : Server)
    (beyond : s.pollVec.fds[iter]? = none → motive ⟨⟨.ok, s, []⟩, false⟩)
    (udp : s.pollVec.fds[iter]? = some s.udpSocket → motive (serveUdp kernel iter s))
    (listener : s.pollVec.fds[iter]? = some s.tcpSocket → s.tcpSocket ≠ s.udpSocket →
      motive ⟨serveListener kernel s, false⟩)
    (client : ∀ fd, s.pollVec.fds[iter]? = some fd → fd ≠ s.udpSocket → fd ≠ s.tcpSocket →
      motive (serveClient kernel iter fd s)) :
    motive (serve kernel iter s) := by
  cases here : s.pollVec.fds[iter]? with
  | none =>
      have past : s.pollVec.elems[iter]? = none := by
        rw [PollVec.fds, List.getElem?_map, Option.map_eq_none_iff] at here
        exact here
      rw [serve, past]
      exact beyond here
  | some fd =>
      rw [serve_at here]
      split
      · rename_i atUdp
        exact udp (by rw [here, atUdp])
      · rename_i notUdp
        split
        · rename_i atTcp
          exact listener (by rw [here, atTcp]) (atTcp ▸ notUdp)
        · rename_i notTcp
          exact client fd here notUdp notTcp

theorem serve_round {kernel : Kernel} {iter : Nat} {s : Server} :
    (serve kernel iter s).err = .ok →
      Round kernel iter s (serve kernel iter s).log (serve kernel iter s).server := by
  refine serve_branches (motive := fun done => done.err = .ok →
    Round kernel iter s done.log done.server) kernel iter s ?_ ?_ ?_ ?_
  · exact fun _ _ => .idle s.recvMsg
  · exact fun atUdp ran => serveUdp_round atUdp ran
  · exact fun _ _ ran => serveListener_round iter ran
  · exact fun fd atFd notUdp notTcp _ => serveClient_round atFd notUdp notTcp

end TopicBroker
