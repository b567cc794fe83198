import TopicBroker.Proof.References

/-!
# The fan-out of one message

The log of the publication shows the frames that went out. Here its loop is run
once more with every call of `send_tcp_msg` recorded, the failed ones too, so
that each client can be asked what was attempted for it.
-/

namespace TopicBroker

/-! ## The recorded loop -/

/-- One call of `send_tcp_msg`: the client it is made for, its arguments and its answer. -/
structure SendTo where
  client : Nat
  tcpSocket : Int
  frame : TcpMsg
  answer : Err
  deriving DecidableEq

/-- `transmitLoop` with its calls. -/
def recordedLoop (kernel : Kernel) (source : Ref) (msg : UdpType) :
    Nat → Nat → Server → Outcome × List SendTo
  | 0, _, s => (⟨.ok, s, []⟩, [])
  | clients + 1, iter, s =>
      match s.clients.elems[iter]? with
      | none => (⟨.ok, s, []⟩, [])
      | some c =>
          match locate (fun topic => msg.name == topic) c.table.topics with
          | none => recordedLoop kernel source msg clients (iter + 1) s
          | some (iterJ, _) =>
              if c.status = .active then
                let answer := kernel.sendTcpMsg iter c.fd s.sendMsg
                let log :=
                  if answer = .ok then
                    [.sent c.id c.fd source (s.stored? source).isSome s.sendMsg]
                  else []
                let rest := recordedLoop kernel source msg clients (iter + 1) s
                (rest.1.after log, ⟨iter, c.fd, s.sendMsg, answer⟩ :: rest.2)
              else if c.table.options[iterJ]? = some .sf then
                let added := addTopicMsgForClient s.clients source iter (kernel.readyMsgs iter)
                if added.1 ≠ .ok then (⟨added.1, { s with clients := added.2 }, []⟩, [])
                else
                  let rest :=
                    recordedLoop kernel source msg clients (iter + 1) { s with clients := added.2 }
                  (rest.1.after [.queued c.id source msg], rest.2)
              else recordedLoop kernel source msg clients (iter + 1) s

/-- `transmitTopicToClients` with its calls. -/
def transmitRecorded (kernel : Kernel) (s : Server) : Outcome × List SendTo :=
  let source := s.lastRef
  let msg := s.deref kernel source
  let packed := packTopicToTcpMsg s.sendMsg msg
  let s := { s with sendMsg := packed.2 }
  if packed.1 ≠ .ok then (⟨packed.1, s, []⟩, [])
  else recordedLoop kernel source msg s.clients.elems.length 0 s

/-- The call made for a client. -/
def calls (kernel : Kernel) (frame : TcpMsg) (name : Bytes) (iter : Nat) (c : ClientType) :
    List SendTo :=
  if c.takes name then [⟨iter, c.fd, frame, kernel.sendTcpMsg iter c.fd frame⟩] else []

/-- The calls made for the clients from index `iter` on. -/
def allCalls (kernel : Kernel) (frame : TcpMsg) (name : Bytes) :
    Nat → List ClientType → List SendTo
  | _, [] => []
  | iter, c :: rest => calls kernel frame name iter c ++ allCalls kernel frame name (iter + 1) rest

section Recorded

variable {kernel : Kernel} {source : Ref} {msg : UdpType}

theorem recordedLoop_step {rounds iter : Nat} {s : Server} {c : ClientType}
    (here : s.clients.elems[iter]? = some c) :
    recordedLoop kernel source msg (rounds + 1) iter s =
      if c.takes msg.name then
        let rest := recordedLoop kernel source msg rounds (iter + 1) s
        (rest.1.after (notices kernel s source msg iter c),
          calls kernel s.sendMsg msg.name iter c ++ rest.2)
      else if c.keeps msg.name then
        let added := addTopicMsgForClient s.clients source iter (kernel.readyMsgs iter)
        if added.1 ≠ .ok then (⟨added.1, { s with clients := added.2 }, []⟩, [])
        else
          let rest := recordedLoop kernel source msg rounds (iter + 1)
            { s with clients := added.2 }
          (rest.1.after (notices kernel s source msg iter c), rest.2)
      else recordedLoop kernel source msg rounds (iter + 1) s := by
  rw [recordedLoop, here]
  refine (transmit_branches c msg.name _ _ _).trans ?_
  rw [notices, calls]
  split
  · rfl
  · split <;> rfl

/-- Without the record it is the loop of the server. -/
theorem recordedLoop_fst (rounds iter : Nat) (s : Server) :
    (recordedLoop kernel source msg rounds iter s).1 =
      transmitLoop kernel source msg rounds iter s := by
  induction rounds generalizing iter s with
  | zero => rfl
  | succ rounds ih =>
      cases here : s.clients.elems[iter]? with
      | none => rw [recordedLoop, transmitLoop, here]
      | some c =>
          rw [recordedLoop_step here, transmitLoop_step here]
          split
          · exact congrArg (Outcome.after · _) (ih _ _)
          · split
            · dsimp only
              split
              · rfl
              · exact congrArg (Outcome.after · _) (ih _ _)
            · exact ih _ _

theorem transmitRecorded_fst (s : Server) :
    (transmitRecorded kernel s).1 = transmitTopicToClients kernel s := by
  unfold transmitRecorded transmitTopicToClients
  dsimp only
  split
  · rfl
  · exact recordedLoop_fst _ _ _

/-- With a willing allocator the calls are those for each client by itself. -/
theorem recordedLoop_snd (grows : ∀ index, kernel.readyMsgs index = true) {rounds iter : Nat}
    {s : Server} (all : iter + rounds = s.clients.elems.length) :
    (recordedLoop kernel source msg rounds iter s).2 =
      allCalls kernel s.sendMsg msg.name iter (s.clients.elems.drop iter) := by
  induction rounds generalizing iter s with
  | zero =>
      rw [List.drop_eq_nil_of_le (by omega)]
      rfl
  | succ rounds ih =>
      obtain ⟨c, here⟩ : ∃ c, s.clients.elems[iter]? = some c :=
        ⟨_, List.getElem?_eq_getElem (by omega)⟩
      have parts : s.clients.elems.drop iter = c :: s.clients.elems.drop (iter + 1) := by
        obtain ⟨_, rfl⟩ := List.getElem?_eq_some_iff.mp here
        exact List.drop_eq_getElem_cons _
      rw [recordedLoop_step here, parts, allCalls]
      split
      · dsimp only
        rw [ih (by omega)]
      · rename_i untaken
        rw [calls, if_neg untaken, List.nil_append]
        split
        · rw [grows, addTopicMsgForClient_grow here]
          dsimp only
          rw [if_neg (not_not.mpr rfl)]
          rw [ih (by simpa using by omega), Vec.set_elems,
            List.drop_set_of_lt (Nat.lt_succ_self iter)]
        · rw [ih (by omega)]

end Recorded

/-! ## One client among the calls -/

theorem allCalls_eq (kernel : Kernel) (frame : TcpMsg) (name : Bytes) (iter : Nat)
    (clients : List ClientType) :
    allCalls kernel frame name iter clients =
      (clients.zipIdx iter).flatMap fun entry => calls kernel frame name entry.2 entry.1 := by
  induction clients generalizing iter with
  | nil => rfl
  | cons c rest ih => rw [allCalls, ih, List.zipIdx_cons, List.flatMap_cons]

theorem mem_allCalls {kernel : Kernel} {frame : TcpMsg} {name : Bytes} {iter : Nat}
    {clients : List ClientType} {call : SendTo} :
    call ∈ allCalls kernel frame name iter clients ↔
      ∃ index c, clients[index]? = some c ∧ call ∈ calls kernel frame name (iter + index) c := by
  rw [allCalls_eq, mem_flatMap_zipIdx]

theorem calls_client {kernel : Kernel} {frame : TcpMsg} {name : Bytes} {iter : Nat}
    {c : ClientType} {call : SendTo} (called : call ∈ calls kernel frame name iter c) :
    call.client = iter := by
  unfold calls at called
  split at called
  · rw [List.mem_singleton.mp called]
  · cases called

/-- The calls with the number of a client are those made for it. -/
theorem allCalls_filter (kernel : Kernel) (frame : TcpMsg) (name : Bytes) (iter : Nat)
    {clients : List ClientType} {index : Nat} {c : ClientType} (here : clients[index]? = some c) :
    ((allCalls kernel frame name iter clients).filter fun call => call.client == iter + index) =
      calls kernel frame name (iter + index) c := by
  induction clients generalizing iter index with
  | nil => cases here
  | cons first rest ih =>
      rw [allCalls, List.filter_append]
      cases index with
      | zero =>
          cases here
          have own : ∀ call ∈ calls kernel frame name iter c,
              (call.client == iter + 0) = true := by
            intro call called
            simpa using calls_client called
          have others : ∀ call ∈ allCalls kernel frame name (iter + 1) rest,
              ¬ (call.client == iter + 0) = true := by
            intro call called
            obtain ⟨index, c, _, made⟩ := mem_allCalls.mp called
            have number := calls_client made
            simp only [beq_iff_eq]
            omega
          rw [List.filter_eq_self.mpr own, List.filter_eq_nil_iff.mpr others, List.append_nil]
          rfl
      | succ index =>
          have others : ∀ call ∈ calls kernel frame name iter first,
              ¬ (call.client == iter + (index + 1)) = true := by
            intro call called
            have number := calls_client called
            simp only [beq_iff_eq]
            omega
          have shifted : iter + (index + 1) = iter + 1 + index := by omega
          rw [List.filter_eq_nil_iff.mpr others, List.nil_append, shifted]
          exact ih (iter + 1) here

/-! ## The whole call -/

section Transmit

variable {kernel : Kernel} {s : Server} {msg : UdpType}

theorem lastRef_stored (last : s.udpMsgs.elems.getLast? = some msg) :
    s.stored? s.lastRef = some msg := by
  rw [Server.stored?, Server.lastRef, if_pos rfl, ← List.getLast?_eq_getElem?, last]

theorem lastRef_deref (last : s.udpMsgs.elems.getLast? = some msg) :
    s.deref kernel s.lastRef = msg := by
  rw [Server.deref, lastRef_stored last, Option.getD_some]

/-- The server with the frame packed from a message. -/
def Server.packed (s : Server) (msg : UdpType) : Server :=
  { s with sendMsg := (packTopicToTcpMsg s.sendMsg msg).2 }

theorem transmitTopicToClients_known (last : s.udpMsgs.elems.getLast? = some msg)
    (known : msg.Known) :
    transmitTopicToClients kernel s =
      transmitLoop kernel s.lastRef msg s.clients.elems.length 0 (s.packed msg) := by
  unfold transmitTopicToClients
  dsimp only
  rw [lastRef_deref last, if_neg (not_not.mpr ((packTopicToTcpMsg_ok_iff _ _).mpr known))]
  rfl

theorem transmitRecorded_known (last : s.udpMsgs.elems.getLast? = some msg) (known : msg.Known)
    (grows : ∀ index, kernel.readyMsgs index = true) :
    (transmitRecorded kernel s).2 =
      allCalls kernel (s.packed msg).sendMsg msg.name 0 s.clients.elems := by
  unfold transmitRecorded
  dsimp only
  rw [lastRef_deref last, if_neg (not_not.mpr ((packTopicToTcpMsg_ok_iff _ _).mpr known))]
  exact recordedLoop_snd grows (Nat.zero_add _)

/-- With a willing allocator the publication succeeds and notifies every client. -/
theorem transmitTopicToClients_grows (last : s.udpMsgs.elems.getLast? = some msg)
    (known : msg.Known) (grows : ∀ index, kernel.readyMsgs index = true) :
    (transmitTopicToClients kernel s).err = .ok ∧ ∃ clients : ClientVec,
      (transmitTopicToClients kernel s).server = { s.packed msg with clients := clients } ∧
      clients.elems = s.clients.elems.map (ClientType.notified s.lastRef msg.name) := by
  rw [transmitTopicToClients_known last known]
  have ran := transmitLoop_grows grows s.lastRef msg s.clients.elems.length 0 (s.packed msg)
  obtain ⟨clients, server, elems, _⟩ :=
    transmitLoop_ok (s := s.packed msg) (Nat.zero_add _) ran
  refine ⟨ran, clients, server, elems.trans ?_⟩
  rw [List.take_zero, List.nil_append, List.drop_zero]
  rfl

theorem transmitTopicToClients_client (last : s.udpMsgs.elems.getLast? = some msg)
    (known : msg.Known) (grows : ∀ index, kernel.readyMsgs index = true) {index : Nat}
    {c : ClientType} (here : s.clients.elems[index]? = some c) :
    (transmitTopicToClients kernel s).server.clients.elems[index]? =
      some (c.notified s.lastRef msg.name) := by
  obtain ⟨_, clients, server, elems⟩ := transmitTopicToClients_grows last known grows
  rw [server]
  change clients.elems[index]? = _
  rw [elems, List.getElem?_map, here]
  rfl

end Transmit

/-! ## Exactness -/

/-- The topic is in the table of the client, next to the option. -/
def ClientType.Wants (c : ClientType) (name : Bytes) (option : ClientOption) : Prop :=
  ∃ index : Nat, c.table.topics[index]? = some name ∧ c.table.options[index]? = some option

/-- The message about `name` goes to whom it is due and nothing else happens. -/
structure FannedOut (kernel : Kernel) (s : Server) (msg : UdpType) (name : Bytes) : Prop where
  recorded : (transmitRecorded kernel s).1 = transmitTopicToClients kernel s
  ok : (transmitTopicToClients kernel s).err = .ok
  /-- One call for each client that is connected and has the topic. -/
  sent : ∀ (index : Nat) (c : ClientType), s.clients.elems[index]? = some c → c.status = .active →
    name ∈ c.table.topics →
      ((transmitRecorded kernel s).2.filter fun call => call.client == index) =
        [⟨index, c.fd, (s.packed msg).sendMsg,
          kernel.sendTcpMsg index c.fd (s.packed msg).sendMsg⟩]
  unsent : ∀ call ∈ (transmitRecorded kernel s).2, ∃ c, s.clients.elems[call.client]? = some c ∧
    c.status = .active ∧ name ∈ c.table.topics
  /-- One pointer for each client that is away and wants it. -/
  queued : ∀ (index : Nat) (c : ClientType), s.clients.elems[index]? = some c →
    c.status = .dead → c.Wants name .sf →
    (transmitTopicToClients kernel s).server.clients.elems[index]? = some (c.stack s.lastRef)
  unqueued : ∀ (index : Nat) (c : ClientType), s.clients.elems[index]? = some c →
    ¬ (c.status = .dead ∧ c.Wants name .sf) →
      (transmitTopicToClients kernel s).server.clients.elems[index]? = some c
  /-- There is no other client after the call, and no other change of the server. -/
  length : (transmitTopicToClients kernel s).server.clients.elems.length = s.clients.elems.length
  server : ∃ clients,
    (transmitTopicToClients kernel s).server = { s.packed msg with clients := clients }

theorem ClientType.takes_iff {c : ClientType} {name : Bytes} :
    c.takes name ↔ c.status = .active ∧ name ∈ c.table.topics := by
  have subscribed : (c.table.option? name).isSome = true ↔ name ∈ c.table.topics := by
    rw [Option.isSome_iff_ne_none, Ne, TopicTable.option?_none_iff, not_not]
  exact and_congr_right fun _ => subscribed

theorem ClientType.keeps_iff {c : ClientType} (nodup : c.table.topics.Nodup) {name : Bytes} :
    c.keeps name ↔ c.status = .dead ∧ c.Wants name .sf :=
  and_congr_right fun _ => TopicTable.option?_eq_some_iff nodup

theorem FannedOut.of_stored {kernel : Kernel} (grows : ∀ index, kernel.readyMsgs index = true)
    {s : Server} (distinct : DistinctTopics s.clients) {msg : UdpType}
    (last : s.udpMsgs.elems.getLast? = some msg) (known : msg.Known) :
    FannedOut kernel s msg msg.name := by
  obtain ⟨ok, clients, server, elems⟩ := transmitTopicToClients_grows last known grows
  have keeps : ∀ (index : Nat) (c : ClientType), s.clients.elems[index]? = some c →
      (c.keeps msg.name ↔ c.status = .dead ∧ c.Wants msg.name .sf) := fun index c here =>
    ClientType.keeps_iff (distinct c (List.mem_of_getElem? here))
  have made := transmitRecorded_known last known grows
  refine ⟨transmitRecorded_fst s, ok, ?_, ?_, ?_, ?_, ?_, clients, server⟩
  · intro index c here active subscribed
    have filtered := allCalls_filter kernel (s.packed msg).sendMsg msg.name 0 here
    rw [Nat.zero_add] at filtered
    rw [made, filtered, calls, if_pos (ClientType.takes_iff.mpr ⟨active, subscribed⟩)]
  · intro call called
    rw [made] at called
    obtain ⟨index, c, here, forClient⟩ := mem_allCalls.mp called
    have number := calls_client forClient
    rw [Nat.zero_add] at number
    unfold calls at forClient
    split at forClient
    · rename_i taken
      exact ⟨c, by rw [number, here], ClientType.takes_iff.mp taken⟩
    · cases forClient
  · intro index c here dead wants
    rw [transmitTopicToClients_client last known grows here, ClientType.notified,
      if_pos ((keeps index c here).mpr ⟨dead, wants⟩)]
  · intro index c here other
    rw [transmitTopicToClients_client last known grows here, ClientType.notified,
      if_neg (mt (keeps index c here).mp other)]
  · rw [server]
    change clients.elems.length = _
    rw [elems, List.length_map]

/-- Whatever the calls of `send_tcp_msg` answer, the fan-out of the message that was just
stored is exact. -/
theorem fanOut_exact {kernel : Kernel} (grows : ∀ index, kernel.readyMsgs index = true)
    {s : Server} (distinct : DistinctTopics s.clients) {msg : UdpType}
    (last : s.udpMsgs.elems.getLast? = some msg) (known : msg.Known) :
    FannedOut kernel s msg msg.name :=
  .of_stored grows distinct last known

/-- No connection takes a byte. -/
def Kernel.broken : Kernel := { willing with send := fun _ _ _ => -1 }

/-- `C1` left and `C2` came, both subscribed to `news` with store-and-forward. -/
def audience : List (Nat × Kernel) :=
  departure ++
    [(2, .accepting 5 (.holding (ascii "C2"))),
      (3, .reading (.holding (ascii "subscribe" ++ [0] ++ ascii "news" ++ [0, 1])))]

def Server.attended : Server := ((play audience .started).get (by decide +kernel)).2

/-- A datagram about `news` came in. -/
def Server.informed : Server := Server.attended.receive (Buffer.zero _) (ascii "news")

/-- It was stored. -/
def Server.announced : Server := (addServerUdpMsg .willing .informed).2

theorem Server.announced_last :
    Server.announced.udpMsgs.elems.getLast? = some Server.informed.parsed := by
  decide +kernel

theorem Server.announced_known : Server.informed.parsed.Known :=
  (UdpType.known_iff _).mpr (by decide +kernel)

theorem fanOut_exact_announced :
    FannedOut .broken .announced Server.informed.parsed Server.informed.parsed.name :=
  fanOut_exact (fun _ => rfl) (by unfold DistinctTopics; decide +kernel) Server.announced_last
    Server.announced_known

/-! ## Store-and-forward when a send fails -/

/-- Every client that asked for store-and-forward was sent the whole message or
has it in its queue. -/
def Saved (kernel : Kernel) (s : Server) (msg : UdpType) : Prop :=
  ∀ (index : Nat) (c : ClientType), s.clients.elems[index]? = some c →
    c.table.option? msg.name = some .sf →
    (∃ call ∈ (transmitRecorded kernel s).2, call.client = index ∧ call.answer = .ok) ∨
      ∃ d, (transmitTopicToClients kernel s).server.clients.elems[index]? = some d ∧
        s.lastRef ∈ d.readyMsgs.elems

/-- Nothing is stored for a connected client: the message is saved exactly when
no send to one that asked for store-and-forward fails. -/
theorem saved_iff {kernel : Kernel} (grows : ∀ index, kernel.readyMsgs index = true)
    {s : Server} {msg : UdpType} (last : s.udpMsgs.elems.getLast? = some msg)
    (known : msg.Known) :
    Saved kernel s msg ↔
      ∀ (index : Nat) (c : ClientType), s.clients.elems[index]? = some c → c.status = .active →
      c.table.option? msg.name = some .sf →
        kernel.Delivers index c.fd ∨ s.lastRef ∈ c.readyMsgs.elems := by
  have made := transmitRecorded_known last known grows
  constructor
  · intro saved index c here active sf
    have untouched : ¬ c.keeps msg.name := by
      rintro ⟨dead, _⟩
      rw [active] at dead
      cases dead
    rcases saved index c here sf with ⟨call, called, rfl, answer⟩ | ⟨d, there, pending⟩
    · left
      rw [made] at called
      obtain ⟨index, owner, place, forClient⟩ := mem_allCalls.mp called
      have number := calls_client forClient
      rw [Nat.zero_add] at number forClient
      rw [number, place] at here
      cases here
      unfold calls at forClient
      split at forClient
      · rw [List.mem_singleton.mp forClient] at answer ⊢
        exact (Kernel.delivers_iff _).mpr answer
      · cases forClient
    · right
      rw [transmitTopicToClients_client last known grows here, ClientType.notified,
        if_neg untouched] at there
      rw [Option.some.inj there]
      exact pending
  · intro sends index c here sf
    cases status : c.status with
    | active =>
        rcases sends index c here status sf with delivers | pending
        · left
          have taken : c.takes msg.name := ⟨status, by rw [sf]; rfl⟩
          refine ⟨⟨index, c.fd, (s.packed msg).sendMsg,
            kernel.sendTcpMsg index c.fd (s.packed msg).sendMsg⟩, ?_, rfl, delivers _⟩
          rw [made]
          refine mem_allCalls.mpr ⟨index, c, here, ?_⟩
          rw [Nat.zero_add, calls, if_pos taken]
          exact List.mem_singleton_self _
        · right
          refine ⟨_, transmitTopicToClients_client last known grows here, ?_⟩
          unfold ClientType.notified
          split
          · exact List.mem_append_left _ pending
          · exact pending
    | dead =>
        right
        refine ⟨_, transmitTopicToClients_client last known grows here, ?_⟩
        rw [ClientType.notified, if_pos ⟨status, sf⟩]
        exact List.mem_append_right _ (List.mem_singleton_self _)

theorem saved_iff_announced :
    Saved .broken .announced Server.informed.parsed ↔
      ∀ (index : Nat) (c : ClientType), Server.announced.clients.elems[index]? = some c →
        c.status = .active → c.table.option? Server.informed.parsed.name = some .sf →
          Kernel.broken.Delivers index c.fd ∨ Server.announced.lastRef ∈ c.readyMsgs.elems :=
  saved_iff (fun _ => rfl) Server.announced_last Server.announced_known

/-- The connection of `C2` is broken, which was not noticed yet. -/
theorem message_not_saved :
    ¬ ∀ (kernel : Kernel) (s : Server) (msg : UdpType), (∀ index, kernel.readyMsgs index = true) →
      s.udpMsgs.elems.getLast? = some msg → msg.Known → Saved kernel s msg := by
  intro always
  have saved := always .broken .announced _ (fun _ => rfl) Server.announced_last
    Server.announced_known
  obtain ⟨c, here, sf⟩ : ∃ c, Server.announced.clients.elems[1]? = some c ∧
      c.table.option? Server.informed.parsed.name = some .sf := by
    have second : Server.announced.clients.elems[1]?.any (fun c =>
        c.table.option? Server.informed.parsed.name == some .sf) = true := by
      decide +kernel
    obtain ⟨c, here, sf⟩ := (Option.any_eq_true _ _).mp second
    exact ⟨c, here, beq_iff_eq.mp sf⟩
  rcases saved 1 c here sf with ⟨call, called, client, answer⟩ | ⟨d, there, pending⟩
  · have failed : ∀ call ∈ (transmitRecorded .broken .announced).2, call.answer ≠ .ok := by
      decide +kernel
    exact failed call called answer
  · have unqueued : ∀ d ∈ (transmitTopicToClients .broken .announced).server.clients.elems[1]?,
        Server.announced.lastRef ∉ d.readyMsgs.elems := by
      decide +kernel
    exact unqueued d there pending

end TopicBroker
