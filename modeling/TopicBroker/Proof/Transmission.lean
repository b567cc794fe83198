import TopicBroker.Model.ServerLoop
import TopicBroker.Proof.Subscriptions

/-!
# What publication and retransmission do

Both loops of the server over clients and queues in closed form: which clients
get the message, whose queue grows, and which part of a queue goes out on a
reconnection.
-/

namespace TopicBroker

/-! ## One client and one message -/

namespace ClientType

/-- The message is sent to the client at once. -/
def takes (c : ClientType) (name : Bytes) : Prop :=
  c.status = .active ∧ (c.table.option? name).isSome

/-- A pointer to the message is stacked for the client. -/
def keeps (c : ClientType) (name : Bytes) : Prop :=
  c.status = .dead ∧ c.table.option? name = some .sf

instance (c : ClientType) (name : Bytes) : Decidable (c.takes name) :=
  inferInstanceAs (Decidable (_ ∧ _))

instance (c : ClientType) (name : Bytes) : Decidable (c.keeps name) :=
  inferInstanceAs (Decidable (_ ∧ _))

/-- The client after the loop was at its index. -/
def notified (source : Ref) (name : Bytes) (c : ClientType) : ClientType :=
  if c.keeps name then c.stack source else c

theorem notified_id (source : Ref) (name : Bytes) (c : ClientType) :
    (c.notified source name).id = c.id := by
  unfold notified
  split <;> rfl

theorem takes_excludes_keeps {c : ClientType} {name : Bytes} (taken : c.takes name) :
    ¬ c.keeps name := by
  rintro ⟨dead, _⟩
  rw [taken.1] at dead
  cases dead

end ClientType

/-- What the loop logs at the client with index `iter`. -/
def notices (kernel : Kernel) (s : Server) (source : Ref) (msg : UdpType) (iter : Nat)
    (c : ClientType) : List Event :=
  if c.takes msg.name then
    if kernel.sendTcpMsg iter c.fd s.sendMsg = .ok then
      [.sent c.id c.fd source (s.stored? source).isSome s.sendMsg]
    else []
  else if c.keeps msg.name then [.queued c.id source msg] else []

/-- What the loop logs from the client with index `iter` on. -/
def allNotices (kernel : Kernel) (s : Server) (source : Ref) (msg : UdpType) :
    Nat → List ClientType → List Event
  | _, [] => []
  | iter, c :: rest =>
      notices kernel s source msg iter c ++ allNotices kernel s source msg (iter + 1) rest

theorem allNotices_eq (kernel : Kernel) (s : Server) (source : Ref) (msg : UdpType) (iter : Nat)
    (clients : List ClientType) :
    allNotices kernel s source msg iter clients =
      (clients.zipIdx iter).flatMap fun entry => notices kernel s source msg entry.2 entry.1 := by
  induction clients generalizing iter with
  | nil => rfl
  | cons c rest ih => rw [allNotices, ih, List.zipIdx_cons, List.flatMap_cons]

theorem locate_flip (name : Bytes) (topics : List Bytes) :
    locate (fun topic => name == topic) topics = locate (fun topic => topic == name) topics := by
  have flipped : (fun topic : Bytes => name == topic) = fun topic => topic == name :=
    funext fun topic => Bool.beq_comm
  rw [flipped]

/-! ## Publication -/

/-- The branches of the loop at one client. -/
theorem transmit_branches {α : Type} (c : ClientType) (name : Bytes) (taken kept ignored : α) :
    (match locate (fun topic => name == topic) c.table.topics with
      | none => ignored
      | some (iterJ, _) =>
          if c.status = .active then taken
          else if c.table.options[iterJ]? = some .sf then kept
          else ignored) =
      if c.takes name then taken else if c.keeps name then kept else ignored := by
  rw [locate_flip]
  cases located : locate (fun topic => topic == name) c.table.topics with
  | none =>
      have absent : c.table.option? name = none := by rw [TopicTable.option?, located]; rfl
      simp [ClientType.takes, ClientType.keeps, absent]
  | some found =>
      have option := TopicTable.option?_of_locate located
      obtain ⟨inside, _⟩ := List.getElem?_eq_some_iff.mp (mem_of_locate located)
      have subscribed : (c.table.option? name).isSome := by
        simp [option, c.table.aligned, inside]
      cases status : c.status with
      | active => simp [ClientType.takes, status, subscribed]
      | dead => simp [ClientType.takes, ClientType.keeps, status, option]

/-- The three ways the loop treats one client. -/
theorem transmitLoop_step {kernel : Kernel} {source : Ref} {msg : UdpType} {rounds iter : Nat}
    {s : Server} {c : ClientType} (here : s.clients.elems[iter]? = some c) :
    transmitLoop kernel source msg (rounds + 1) iter s =
      if c.takes msg.name then
        (transmitLoop kernel source msg rounds (iter + 1) s).after
          (notices kernel s source msg iter c)
      else if c.keeps msg.name then
        let added := addTopicMsgForClient s.clients source iter (kernel.readyMsgs iter)
        if added.1 ≠ .ok then ⟨added.1, { s with clients := added.2 }, []⟩
        else
          (transmitLoop kernel source msg rounds (iter + 1) { s with clients := added.2 }).after
            (notices kernel s source msg iter c)
      else transmitLoop kernel source msg rounds (iter + 1) s := by
  rw [transmitLoop, here]
  refine (transmit_branches c msg.name _ _ _).trans ?_
  rw [notices]
  split
  · rfl
  · split <;> rfl

theorem allNotices_congr (kernel : Kernel) {s t : Server} (source : Ref) (msg : UdpType)
    (sameFrame : t.sendMsg = s.sendMsg) (sameStored : t.stored? source = s.stored? source)
    (iter : Nat) (rest : List ClientType) :
    allNotices kernel t source msg iter rest = allNotices kernel s source msg iter rest := by
  induction rest generalizing iter with
  | nil => rfl
  | cons c rest ih => rw [allNotices, allNotices, ih, notices, notices, sameFrame, sameStored]

/-- The loop leaves everything but the clients alone, treats each client from
`iter` on by itself and logs one notice for each. -/
theorem transmitLoop_ok {kernel : Kernel} {source : Ref} {msg : UdpType} {rounds iter : Nat}
    {s : Server} (all : iter + rounds = s.clients.elems.length)
    (ran : (transmitLoop kernel source msg rounds iter s).err = .ok) :
    ∃ clients : ClientVec,
      (transmitLoop kernel source msg rounds iter s).server = { s with clients := clients } ∧
      clients.elems = s.clients.elems.take iter ++
        (s.clients.elems.drop iter).map (ClientType.notified source msg.name) ∧
      (transmitLoop kernel source msg rounds iter s).log =
        allNotices kernel s source msg iter (s.clients.elems.drop iter) := by
  induction rounds generalizing iter s with
  | zero =>
      have none_left : s.clients.elems.drop iter = [] := List.drop_eq_nil_of_le (by omega)
      refine ⟨s.clients, rfl, ?_, ?_⟩
      · rw [none_left, List.map_nil, List.append_nil, List.take_of_length_le (by omega)]
      · rw [none_left]
        rfl
  | succ rounds ih =>
      have inside : iter < s.clients.elems.length := by omega
      obtain ⟨c, here⟩ : ∃ c, s.clients.elems[iter]? = some c :=
        ⟨_, List.getElem?_eq_getElem inside⟩
      have parts : s.clients.elems.drop iter = c :: s.clients.elems.drop (iter + 1) := by
        obtain ⟨_, rfl⟩ := List.getElem?_eq_some_iff.mp here
        exact List.drop_eq_getElem_cons inside
      have front : s.clients.elems.take (iter + 1) = s.clients.elems.take iter ++ [c] := by
        rw [List.take_add_one, here]
        rfl
      rw [transmitLoop_step here] at ran ⊢
      rw [parts, List.map_cons, allNotices]
      by_cases taken : c.takes msg.name
      · rw [if_pos taken] at ran ⊢
        obtain ⟨clients, server, elems, log⟩ := ih (by omega) ran
        refine ⟨clients, server, ?_, ?_⟩
        · rw [elems, front, ClientType.notified, if_neg (ClientType.takes_excludes_keeps taken)]
          simp
        · rw [Outcome.after_log, log]
      · rw [if_neg taken] at ran ⊢
        by_cases kept : c.keeps msg.name
        · rw [if_pos kept] at ran ⊢
          dsimp only at ran ⊢
          split at ran
          · rename_i refused
            exact absurd ran refused
          · rename_i added
            rw [if_neg added]
            obtain ⟨grown, added_eq⟩ : ∃ grown, addTopicMsgForClient s.clients source iter
                (kernel.readyMsgs iter) = (.ok, grown) := ⟨_, Prod.ext (not_not.mp added) rfl⟩
            have stacked := addTopicMsgForClient_ok here added_eq
            rw [added_eq] at ran ⊢
            subst stacked
            obtain ⟨clients, server, elems, log⟩ := ih (by simpa using by omega) ran
            refine ⟨clients, server, ?_, ?_⟩
            · rw [elems, ClientType.notified, if_pos kept, Vec.set_elems,
                List.drop_set_of_lt (Nat.lt_succ_self iter), List.take_add_one, List.take_set,
                List.set_eq_of_length_le (by simp), List.getElem?_set_self inside]
              simp
            · rw [Outcome.after_log, log, Vec.set_elems,
                List.drop_set_of_lt (Nat.lt_succ_self iter)]
              exact congrArg (notices kernel s source msg iter c ++ ·)
                (allNotices_congr kernel source msg (by rfl) (by rfl) _ _)
        · rw [if_neg kept] at ran ⊢
          obtain ⟨clients, server, elems, log⟩ := ih (by omega) ran
          refine ⟨clients, server, ?_, ?_⟩
          · rw [elems, front, ClientType.notified, if_neg kept]
            simp
          · rw [log, notices, if_neg taken, if_neg kept]
            rfl

/-! ## A kernel that takes every byte -/

/-- A kernel that grants every request. Its datagrams are about `news`; no
connection and no frame comes. -/
def Kernel.willing : Kernel where
  recvfrom := some (Buffer.zero _, ascii "news")
  accept := fun _ => -1
  accept_fresh := by
    intro opened positive
    omega
  recv := fun _ _ => []
  send := fun _ _ offered => offered
  pfds := true
  udpMsgs := .inPlace
  register := .succeed
  subscribe := .succeed
  readyMsgs := fun _ => true
  stale := fun _ => ⟨Buffer.zero _, Buffer.zero _, .unknown 4⟩
  past := []

/-- It has another datagram. -/
def Kernel.hearing (payload : Bytes) : Kernel :=
  { willing with recvfrom := some (Buffer.zero _, payload) }

/-- The whole frame arrives at once. -/
def Kernel.reading (msg : TcpMsg) : Kernel :=
  { willing with recv := fun _ _ => msg.toBuffer.bytes }

/-- It has a connection with the given descriptor, if it is not open, and its first frame. -/
def Kernel.accepting (fd : Int) (msg : TcpMsg) : Kernel :=
  { reading msg with
    accept := fun opened => if fd ∈ opened then -1 else fd
    accept_fresh := by
      intro opened positive
      by_cases known : fd ∈ opened
      · simp [known] at positive
      · simp [known] }

/-- A frame with the given bytes in front and zeros behind. -/
def TcpMsg.holding (text : Bytes) : TcpMsg :=
  ⟨text.length.toUInt16, (Buffer.zero _).splice 0 text⟩

/-- The answers with which the server starts. -/
def InitKernel.willing : InitKernel where
  server := true
  udpAddrClient := Buffer.zero _
  buf := true
  cmd := true
  sendMsg := true
  recvMsg := true
  udpMsgs := true
  udpSocket := 3
  udpBind := true
  tcpSocket := 4
  tcpNodelay := true
  tcpBind := true
  tcpListen := true
  pollVec := true
  pfds := true
  clients := true
  entities := true

/-- The server that starts with them. -/
def Server.started : Server := (initServer .willing 8080).toOption.get (by decide)

theorem initServer_started : initServer .willing 8080 = .ok Server.started := rfl

/-- No `send` of the round fails. -/
def Kernel.Sends (kernel : Kernel) : Prop :=
  ∀ frame call offered, 0 < offered → 0 < kernel.send frame call offered

theorem sendLoop_ok {kernel : Kernel} (sends : kernel.Sends) (frame : Nat) (buf : Bytes)
    (rounds bytesSend call : Nat) :
    (sendLoop (kernel.sendCall frame) buf rounds bytesSend call).1 = .ok := by
  induction rounds generalizing bytesSend call with
  | zero => rfl
  | succ rounds ih =>
      rw [sendLoop]
      split
      · rename_i more
        have positive := sends frame call (buf.drop bytesSend).length (by simp; omega)
        have taken : ¬ (kernel.sendCall frame call (buf.drop bytesSend)).1 ≤ 0 := by
          simpa [Kernel.sendCall] using positive
        dsimp only
        rw [if_neg taken]
        exact ih _ _
      · rfl

theorem Kernel.sendTcpMsg_ok {kernel : Kernel} (sends : kernel.Sends) (frame : Nat) {fd : Int}
    (valid : 0 ≤ fd) (msg : TcpMsg) : kernel.sendTcpMsg frame fd msg = .ok := by
  have positive : msg.toBuffer.bytes.length ≠ 0 := by
    rw [msg.toBuffer.length_eq]
    decide
  rw [Kernel.sendTcpMsg, TopicBroker.sendTcpMsg, if_neg (by omega), if_neg positive]
  exact sendLoop_ok sends frame _ _ _ _

theorem sendLoop_congr (kernel : Kernel) (frame : Nat) {first second : Bytes}
    (length : first.length = second.length) (rounds bytesSend call : Nat) :
    sendLoop (kernel.sendCall frame) first rounds bytesSend call =
      sendLoop (kernel.sendCall frame) second rounds bytesSend call := by
  induction rounds generalizing bytesSend call with
  | zero => rfl
  | succ rounds ih =>
      have same : kernel.sendCall frame call (first.drop bytesSend) =
          kernel.sendCall frame call (second.drop bytesSend) := by
        simp only [Kernel.sendCall, List.length_drop, length]
      simp only [sendLoop, length, same, ih]

/-- The whole frame with the given number goes out. -/
def Kernel.Delivers (kernel : Kernel) (frame : Nat) (tcpSocket : Int) : Prop :=
  ∀ msg, kernel.sendTcpMsg frame tcpSocket msg = .ok

/-- What the frame holds does not matter, all frames have the same length. -/
theorem Kernel.delivers_iff {kernel : Kernel} {frame : Nat} {tcpSocket : Int} (msg : TcpMsg) :
    kernel.Delivers frame tcpSocket ↔ kernel.sendTcpMsg frame tcpSocket msg = .ok := by
  refine ⟨fun delivers => delivers msg, fun sent other => ?_⟩
  have length : other.toBuffer.bytes.length = msg.toBuffer.bytes.length :=
    other.toBuffer.length_eq.trans msg.toBuffer.length_eq.symm
  have same : kernel.sendTcpMsg frame tcpSocket other =
      kernel.sendTcpMsg frame tcpSocket msg := by
    rw [Kernel.sendTcpMsg, Kernel.sendTcpMsg, TopicBroker.sendTcpMsg, TopicBroker.sendTcpMsg,
      length, sendLoop_congr kernel frame length]
  rw [same, sent]

/-! ## Retransmission -/

/-- One frame went out to `fd` for each of the pointers. -/
def Resent (s : Server) (c : ClientType) (fd : Int) : List Ref → List Event → Prop :=
  List.Forall₂ fun source event =>
    ∃ frame, event = .sent c.id fd source (s.stored? source).isSome frame

/-- How many pointers the loop did not get to. -/
def RetransmitEnd.left : RetransmitEnd → Nat
  | .drained => 0
  | .packFailed _ remaining => remaining
  | .sendFailed remaining => remaining

/-- The length that the queue is given. -/
def RetransmitEnd.kept : RetransmitEnd → Nat
  | .drained => 0
  | .packFailed _ remaining => remaining
  | .sendFailed _ => 0

theorem retransmitLoop_resent (kernel : Kernel) (s : Server) (c : ClientType) (clientFd : Int)
    {count : Nat} (within : count ≤ c.readyMsgs.elems.length) (sendMsg : TcpMsg) :
    let done := retransmitLoop kernel s c clientFd count sendMsg
    done.1.left ≤ count ∧
      Resent s c clientFd ((c.readyMsgs.elems.take count).drop done.1.left).reverse done.2.2 := by
  induction count generalizing sendMsg with
  | zero => exact ⟨Nat.le_refl _, .nil⟩
  | succ count ih =>
      have inside : count < c.readyMsgs.elems.length := within
      obtain ⟨source, here⟩ : ∃ source, c.readyMsgs.elems[count]? = some source :=
        ⟨_, List.getElem?_eq_getElem inside⟩
      have untouched : ((c.readyMsgs.elems.take (count + 1)).drop (count + 1)).reverse = [] := by
        rw [List.drop_eq_nil_of_le (by simp), List.reverse_nil]
      rw [retransmitLoop, here]
      dsimp only
      split
      · refine ⟨Nat.le_refl _, ?_⟩
        rw [RetransmitEnd.left, untouched]
        exact .nil
      · split
        · refine ⟨Nat.le_refl _, ?_⟩
          rw [RetransmitEnd.left, untouched]
          exact .nil
        · obtain ⟨below, resent⟩ :=
            ih (Nat.le_of_lt inside) (packTopicToTcpMsg sendMsg (s.deref kernel source)).2
          refine ⟨Nat.le_succ_of_le below, ?_⟩
          have last : ((c.readyMsgs.elems.take (count + 1)).drop
              (retransmitLoop kernel s c clientFd count
                (packTopicToTcpMsg sendMsg (s.deref kernel source)).2).1.left).reverse =
              source :: ((c.readyMsgs.elems.take count).drop
                (retransmitLoop kernel s c clientFd count
                  (packTopicToTcpMsg sendMsg (s.deref kernel source)).2).1.left).reverse := by
            rw [List.take_add_one, here, Option.toList_some, List.drop_append_of_le_length
              (by rw [List.length_take]; omega)]
            simp
          rw [last]
          exact .cons ⟨_, rfl⟩ resent

theorem retransmitLoop_sends {kernel : Kernel} (sends : kernel.Sends) (s : Server)
    (c : ClientType) {clientFd : Int} (valid : 0 ≤ clientFd) (count : Nat) (sendMsg : TcpMsg)
    (remaining : Nat) :
    (retransmitLoop kernel s c clientFd count sendMsg).1 ≠ .sendFailed remaining := by
  induction count generalizing sendMsg with
  | zero => exact fun impossible => nomatch impossible
  | succ count ih =>
      rw [retransmitLoop]
      split
      · exact fun impossible => nomatch impossible
      · dsimp only
        split
        · exact fun impossible => nomatch impossible
        · rw [if_neg (not_not.mpr (Kernel.sendTcpMsg_ok sends count valid _))]
          exact ih _

theorem retransmitTopicsToClient_found {kernel : Kernel} {clientFd : Int} {s : Server} {iter : Nat}
    {c : ClientType}
    (found : locate (fun c => c.fd == clientFd) s.clients.elems = some (iter, c)) :
    let done := retransmitLoop kernel s c clientFd c.readyMsgs.elems.length s.sendMsg
    (retransmitTopicsToClient kernel clientFd s).server =
        { s with sendMsg := done.2.1, clients := s.clients.set iter (c.truncate done.1.kept) } ∧
      (retransmitTopicsToClient kernel clientFd s).log = done.2.2 := by
  rw [retransmitTopicsToClient, found]
  dsimp only
  cases (retransmitLoop kernel s c clientFd c.readyMsgs.elems.length s.sendMsg).1 with
  | drained => exact ⟨rfl, rfl⟩
  | packFailed err remaining => exact ⟨rfl, rfl⟩
  | sendFailed remaining =>
      refine ⟨?_, rfl⟩
      simp [RetransmitEnd.kept, ClientType.truncate, Vec.truncate]

/-- The client found at the descriptor is sent the end of its queue from `left`
on, and keeps the front up to `kept`; only a failed `send` makes these differ. -/
theorem retransmitTopicsToClient_spec (kernel : Kernel) (clientFd : Int) (s : Server)
    {iter : Nat} {c : ClientType}
    (found : locate (fun c => c.fd == clientFd) s.clients.elems = some (iter, c)) :
    ∃ (sendMsg : TcpMsg) (kept left : Nat), kept ≤ left ∧
      (kernel.Sends → 0 ≤ clientFd → kept = left) ∧
      (retransmitTopicsToClient kernel clientFd s).server =
        { s with sendMsg := sendMsg, clients := s.clients.set iter (c.truncate kept) } ∧
      Resent s c clientFd (c.readyMsgs.elems.drop left).reverse
        (retransmitTopicsToClient kernel clientFd s).log := by
  obtain ⟨_, resent⟩ :=
    retransmitLoop_resent kernel s c clientFd (Nat.le_refl c.readyMsgs.elems.length) s.sendMsg
  obtain ⟨server, log⟩ := retransmitTopicsToClient_found found
  rw [List.take_length, ← log] at resent
  refine ⟨_, _, _, ?_, ?_, server, resent⟩
  · cases (retransmitLoop kernel s c clientFd c.readyMsgs.elems.length s.sendMsg).1 with
    | drained => exact Nat.le_refl _
    | packFailed err remaining => exact Nat.le_refl _
    | sendFailed remaining => exact Nat.zero_le _
  · intro sends valid
    cases ended : (retransmitLoop kernel s c clientFd c.readyMsgs.elems.length s.sendMsg).1 with
    | drained => rfl
    | packFailed err remaining => rfl
    | sendFailed remaining => exact absurd ended (retransmitLoop_sends sends s c valid _ _ _)

end TopicBroker
