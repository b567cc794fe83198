import TopicBroker.Lib.Reads
import TopicBroker.Proof.ConnectionTable
import TopicBroker.Proof.Requests

/-!
# Where the server looks in a frame

The positions of `recv_msg->data` that are read while a frame is decoded and
the bytes that an id takes in the table. The length field and the NULs of the
frame come from the peer and are taken on trust.
-/

namespace TopicBroker

/-! ## Reads -/

/-- What `subscribe_client_to_topic` reads of the topic for the client that was
found: the search, and `strlen` when the topic is to be stored. -/
def ClientType.subscribeReads (c : ClientType) (memory : Bytes) (alloc : SubscribeAlloc) : Nat :=
  let searched := searchReads c.table.topics memory
  match locate (fun topic => topic == cstr memory) c.table.topics with
  | some _ => searched
  | none =>
      if c.table.full && !alloc.topics then searched
      else if c.table.full && !alloc.options then searched
      else max searched ((cstr memory).length + 1)

def subscribeReads (clients : ClientVec) (clientFd : Int) (memory : Bytes)
    (alloc : SubscribeAlloc) : Nat :=
  if clientFd < 0 then 0
  else
    match locate (fun c => c.fd == clientFd) clients.elems with
    | some (_, c) => c.subscribeReads memory alloc
    | none => 0

/-- `unsubscribe_client_from_topic` only searches. -/
def unsubscribeReads (clients : ClientVec) (clientFd : Int) (memory : Bytes) : Nat :=
  if clientFd < 0 then 0
  else
    match locate (fun c => c.fd == clientFd) clients.elems with
    | some (_, c) => searchReads c.table.topics memory
    | none => 0

/-- The positions that `process_server_tcp_msg` reads: `strlen` of the command
always, the option and the topic when the command calls for them. -/
def requestReads (kernel : Kernel) (clientFd : Int) (s : Server) : List Int :=
  let memory := s.recvMsg.data.bytes ++ kernel.past
  let cmd := cstr memory
  let start := cmd.length + 1
  let topic := memory.drop start
  let behind : List Int :=
    if cmd = ascii "subscribe" then
      ((s.recvMsg.len.toNat : Int) - 1) ::
        scanned start (subscribeReads s.clients clientFd topic kernel.subscribe)
    else if cmd = ascii "unsubscribe" then
      scanned start (unsubscribeReads s.clients clientFd topic)
    else []
  scanned 0 start ++ behind

/-- The positions read of the id of a new connection. The message printed after
the registration, whatever it returned, goes through the whole string. -/
def registerReads (kernel : Kernel) (s : Server) : List Int :=
  scanned 0 ((cstr (s.recvMsg.data.bytes ++ kernel.past)).length + 1)

/-- The bytes that `strcpy` writes to the id of a new entry. -/
def copiedId (kernel : Kernel) (clientFd : Int) (s : Server) : Option Nat :=
  let clientId := cstr (s.recvMsg.data.bytes ++ kernel.past)
  match locate (fun c => c.id == clientId) s.clients.elems with
  | some _ => none
  | none =>
      if (registerNewClient s.clients clientId clientFd kernel.register).1 = .ok then
        some (clientId.length + 1)
      else none

/-- The bytes of the id fit exactly when the registration stays inside its block. -/
theorem copiedId_fits_iff {kernel : Kernel} {clientFd : Int} {s : Server} :
    (∀ size ∈ copiedId kernel clientFd s, size ≤ maxIdClientLen) ↔
      (IdBlock.registerNewClient s.clients (cstr (s.recvMsg.data.bytes ++ kernel.past)) clientFd
        kernel.register).isSome = true := by
  have copied (entry : NewEntry s.clients (cstr (s.recvMsg.data.bytes ++ kernel.past))
      kernel.register) :
      copiedId kernel clientFd s =
        some ((cstr (s.recvMsg.data.bytes ++ kernel.past)).length + 1) := by
    obtain ⟨missed, ran⟩ := (newEntry_iff clientFd).mp entry
    simp only [copiedId, missed, if_pos ran]
  constructor
  · intro fits
    have stays := IdBlock.registerNewClient_fits (cstr_nulFree _) clientFd
      fun entry => fits _ (copied entry)
    rw [stays]
    rfl
  · intro inside size here
    by_contra long
    unfold copiedId at here
    dsimp only at here
    split at here
    · cases here
    · rename_i missed
      split at here
      · rename_i ran
        obtain rfl := Option.some.inj here
        have entry := (newEntry_iff clientFd).mpr ⟨missed, ran⟩
        have overflows := IdBlock.registerNewClient_overflows entry clientFd (by omega)
        rw [overflows] at inside
        cases inside
      · cases here

theorem ClientType.subscribeReads_le (c : ClientType) (memory : Bytes) (alloc : SubscribeAlloc) :
    c.subscribeReads memory alloc ≤ (cstr memory).length + 1 := by
  have searched := searchReads_le c.table.topics memory
  unfold ClientType.subscribeReads
  dsimp only
  split
  · exact searched
  · split
    · exact searched
    · split
      · exact searched
      · exact Nat.max_le.mpr ⟨searched, Nat.le_refl _⟩

theorem subscribeReads_le (clients : ClientVec) (clientFd : Int) (memory : Bytes)
    (alloc : SubscribeAlloc) :
    subscribeReads clients clientFd memory alloc ≤ (cstr memory).length + 1 := by
  unfold subscribeReads
  split
  · exact Nat.zero_le _
  · split
    · exact ClientType.subscribeReads_le _ _ _
    · exact Nat.zero_le _

theorem unsubscribeReads_le (clients : ClientVec) (clientFd : Int) (memory : Bytes) :
    unsubscribeReads clients clientFd memory ≤ (cstr memory).length + 1 := by
  unfold unsubscribeReads
  split
  · exact Nat.zero_le _
  · split
    · exact searchReads_le _ _
    · exact Nat.zero_le _

theorem requestReads_subscribe {kernel : Kernel} {clientFd : Int} {s : Server}
    (cmd : cstr (s.recvMsg.data.bytes ++ kernel.past) = ascii "subscribe") :
    requestReads kernel clientFd s =
      scanned 0 ((ascii "subscribe").length + 1) ++ ((s.recvMsg.len.toNat : Int) - 1) ::
        scanned ((ascii "subscribe").length + 1) (subscribeReads s.clients clientFd
          ((s.recvMsg.data.bytes ++ kernel.past).drop ((ascii "subscribe").length + 1))
          kernel.subscribe) := by
  unfold requestReads
  dsimp only
  rw [cmd, if_pos rfl]

theorem requestReads_unsubscribe {kernel : Kernel} {clientFd : Int} {s : Server}
    (cmd : cstr (s.recvMsg.data.bytes ++ kernel.past) = ascii "unsubscribe") :
    requestReads kernel clientFd s =
      scanned 0 ((ascii "unsubscribe").length + 1) ++
        scanned ((ascii "unsubscribe").length + 1) (unsubscribeReads s.clients clientFd
          ((s.recvMsg.data.bytes ++ kernel.past).drop ((ascii "unsubscribe").length + 1))) := by
  unfold requestReads
  dsimp only
  rw [cmd, if_neg (by decide), if_pos rfl]

/-! ## Refusals -/

/-- All that an entry says, without the sizes of its arrays. -/
def ClientType.contents (c : ClientType) :
    (Bytes × ClientStatus × Int) × List Bytes × List ClientOption × List Ref :=
  (c.contact, c.table.topics, c.table.options, c.readyMsgs.elems)

theorem ClientType.subscribe_refused {c : ClientType} {topic : Bytes} {option : ClientOption}
    {alloc : SubscribeAlloc} (refused : (c.subscribe topic option alloc).1 ≠ .ok) :
    (c.subscribe topic option alloc).2.contents = c.contents := by
  unfold ClientType.subscribe at refused ⊢
  cases located : locate (fun other => other == topic) c.table.topics with
  | some found => simp [located] at refused
  | none =>
      rw [located] at refused
      dsimp only at refused ⊢
      split
      · rfl
      · split
        · rfl
        · split
          · simp [ClientType.contents, ClientType.contact, TopicTable.reserve_topics,
              TopicTable.reserve_options]
          · simp_all

theorem ClientType.unsubscribe_refused {c : ClientType} {topic : Bytes}
    (refused : (c.unsubscribe topic).1 ≠ .ok) :
    (c.unsubscribe topic).2.contents = c.contents := by
  unfold ClientType.unsubscribe at refused ⊢
  cases located : locate (fun other => other == topic) c.table.topics with
  | none => rfl
  | some place => simp [located] at refused

/-- A refusal leaves the table as it was when it leaves the entry so. -/
theorem OnClient.refused {clients : ClientVec} {clientFd : Int}
    {run : ClientType → Err × ClientType} {done : Err × ClientVec}
    (onClient : OnClient clients clientFd run done)
    (kept : ∀ c, (run c).1 ≠ .ok → (run c).2.contents = c.contents) (refused : done.1 ≠ .ok) :
    done.2.elems.map ClientType.contents = clients.elems.map ClientType.contents := by
  cases onClient with
  | invalid negative => rfl
  | missed absent => rfl
  | found index c located => exact map_set_of_eq (locate_eq_some located).1 (kept c refused)

theorem subscribeClientToTopic_refused {clients : ClientVec} {clientFd : Int} {topic : Bytes}
    {option : ClientOption} {alloc : SubscribeAlloc}
    (refused : (subscribeClientToTopic clients clientFd topic option alloc).1 ≠ .ok) :
    (subscribeClientToTopic clients clientFd topic option alloc).2.elems.map
      ClientType.contents = clients.elems.map ClientType.contents :=
  (subscribeClientToTopic_onClient clients clientFd topic option alloc).refused
    (fun _ => ClientType.subscribe_refused) refused

theorem unsubscribeClientFromTopic_refused {clients : ClientVec} {clientFd : Int} {topic : Bytes}
    (refused : (unsubscribeClientFromTopic clients clientFd topic).1 ≠ .ok) :
    (unsubscribeClientFromTopic clients clientFd topic).2.elems.map ClientType.contents =
      clients.elems.map ClientType.contents :=
  (unsubscribeClientFromTopic_onClient clients clientFd topic).refused
    (fun _ => ClientType.unsubscribe_refused) refused

theorem processServerTcpMsg_refused {kernel : Kernel} {clientFd : Int} {s : Server}
    (refused : (processServerTcpMsg kernel clientFd s).1 ≠ .ok) :
    (processServerTcpMsg kernel clientFd s).2.clients.elems.map ClientType.contents =
      s.clients.elems.map ClientType.contents := by
  unfold processServerTcpMsg at refused ⊢
  dsimp only at refused ⊢
  split at refused
  · rename_i subscribing
    rw [if_pos subscribing]
    exact subscribeClientToTopic_refused refused
  · rename_i different
    rw [if_neg different]
    split at refused
    · rename_i unsubscribing
      rw [if_pos unsubscribing]
      exact unsubscribeClientFromTopic_refused refused
    · rename_i unknown
      rw [if_neg unknown]

/-! ## Frames that stay inside -/

/-- Every position lies in `data`. -/
def Inside (positions : List Int) : Prop :=
  ∀ position ∈ positions, 0 ≤ position ∧ position < (maxTcpMsgBufLen : Int)

/-- The registration of a received id stays within the frame and the entry; one
that is refused leaves the table as it was. -/
structure IdHandled (kernel : Kernel) (clientFd : Int) (s : Server) : Prop where
  inside : Inside (registerReads kernel s)
  fits : ∀ size ∈ copiedId kernel clientFd s, size ≤ maxIdClientLen
  refused :
    let done := registerNewClient s.clients (cstr (s.recvMsg.data.bytes ++ kernel.past)) clientFd
      kernel.register
    done.1 ≠ .ok → done.2.elems.map ClientType.contents = s.clients.elems.map ClientType.contents

/-- A received command is decoded within the frame; one that is refused leaves
the table as it was. -/
structure RequestHandled (kernel : Kernel) (clientFd : Int) (s : Server) : Prop where
  inside : Inside (requestReads kernel clientFd s)
  refused : (processServerTcpMsg kernel clientFd s).1 ≠ .ok →
    (processServerTcpMsg kernel clientFd s).2.clients.elems.map ClientType.contents =
      s.clients.elems.map ClientType.contents

/-- The frame is handled as the first one of any connection to any server. -/
def FirstHandled (msg : TcpMsg) : Prop :=
  ∀ (s : Server) (kernel : Kernel), (broker anyAnswer).Reachable s →
    0 < kernel.accept s.pollVec.fds →
    kernel.recvTcpMsg (kernel.accept s.pollVec.fds) s.recvMsg = (.ok, msg) →
    IdHandled kernel (kernel.accept s.pollVec.fds) { s with recvMsg := msg }

/-- The frame is handled as a later one of any connection to any server. -/
def LaterHandled (msg : TcpMsg) : Prop :=
  ∀ (s : Server) (kernel : Kernel) (iter : Nat) (fd : Int), (broker anyAnswer).Reachable s →
    1 ≤ iter → s.pollVec.fds[iter]? = some fd → fd ≠ s.udpSocket → fd ≠ s.tcpSocket →
    kernel.recvTcpMsg fd s.recvMsg = (.ok, msg) →
    RequestHandled kernel fd { s with recvMsg := msg }

/-- The id ends within the bytes an entry has for it. -/
def IdFits (msg : TcpMsg) : Prop := 0 ∈ msg.data.bytes.take maxIdClientLen

/-- The strings of the command end in the frame, and the option lies in it. -/
structure RequestFits (msg : TcpMsg) : Prop where
  cmd : 0 ∈ msg.data.bytes
  topic : cstr msg.data.bytes = ascii "subscribe" ∨ cstr msg.data.bytes = ascii "unsubscribe" →
    0 ∈ msg.data.bytes.drop ((cstr msg.data.bytes).length + 1)
  option : cstr msg.data.bytes = ascii "subscribe" →
    1 ≤ msg.len.toNat ∧ msg.len.toNat ≤ maxTcpMsgBufLen

theorem inside_scanned {start count : Nat} (ends : start + count ≤ maxTcpMsgBufLen) :
    Inside (scanned start count) := by
  intro position member
  have bounds := mem_scanned.mp member
  omega

theorem IdFits.handled {msg : TcpMsg} (fits : IdFits msg) (kernel : Kernel) (clientFd : Int)
    {s : Server} (received : s.recvMsg = msg) : IdHandled kernel clientFd s := by
  have length := msg.data.length_eq
  have short : (cstr msg.data.bytes).length < maxIdClientLen :=
    (nul_mem_take_iff (by rw [length]; decide)).mp fits
  have shown : cstr (s.recvMsg.data.bytes ++ kernel.past) = cstr msg.data.bytes := by
    rw [received, cstr_append_of_nul (List.mem_of_mem_take fits)]
  have limit : maxIdClientLen ≤ maxTcpMsgBufLen := by decide
  refine ⟨?_, ?_, ?_⟩
  · unfold registerReads
    rw [shown]
    exact inside_scanned (by omega)
  · intro size copied
    unfold copiedId at copied
    rw [shown] at copied
    dsimp only at copied
    split at copied
    · cases copied
    · split at copied
      · cases copied
        exact short
      · cases copied
  · intro done refused
    exact congrArg _ (registerNewClient_refused refused)

theorem RequestFits.handled {msg : TcpMsg} (fits : RequestFits msg) (kernel : Kernel)
    (clientFd : Int) {s : Server} (received : s.recvMsg = msg) :
    RequestHandled kernel clientFd s := by
  have length := msg.data.length_eq
  have shown : cstr (msg.data.bytes ++ kernel.past) = cstr msg.data.bytes :=
    cstr_append_of_nul fits.cmd _
  have ends : (cstr msg.data.bytes).length + 1 ≤ msg.data.bytes.length :=
    cstr_length_lt_iff.mpr fits.cmd
  have topic : 0 ∈ msg.data.bytes.drop ((cstr msg.data.bytes).length + 1) → ∀ count,
      count ≤ (cstr ((msg.data.bytes ++ kernel.past).drop
        ((cstr msg.data.bytes).length + 1))).length + 1 →
      Inside (scanned ((cstr msg.data.bytes).length + 1) count) := by
    intro nul count within
    have shorter := cstr_length_lt_iff.mpr nul
    rw [List.drop_append_of_le_length ends, cstr_append_of_nul nul] at within
    rw [List.length_drop] at shorter
    exact inside_scanned (by omega)
  refine ⟨?_, processServerTcpMsg_refused⟩
  unfold requestReads
  dsimp only
  rw [received, shown]
  intro position member
  rcases List.mem_append.mp member with scan | behind
  · exact inside_scanned (by omega) position scan
  · split at behind
    · rename_i subscribing
      rcases List.mem_cons.mp behind with rfl | later
      · have bounds := fits.option subscribing
        omega
      · exact topic (fits.topic (.inl subscribing)) _ (subscribeReads_le _ _ _ _) position later
    · split at behind
      · rename_i unsubscribing
        exact topic (fits.topic (.inr unsubscribing)) _ (unsubscribeReads_le _ _ _) position behind
      · cases behind

/-! ## Frames that do not -/

/-- A frame that comes in one piece is received as it is. -/
theorem Kernel.recvTcpMsg_whole {kernel : Kernel} {msg : TcpMsg}
    (whole : ∀ call asked, kernel.recv call asked = msg.toBuffer.bytes) {fd : Int}
    (valid : 0 ≤ fd) (past : TcpMsg) : kernel.recvTcpMsg fd past = (.ok, msg) := by
  have length := msg.toBuffer.length_eq
  have nonempty : msg.toBuffer.bytes ≠ [] :=
    List.ne_nil_of_length_pos (by rw [length]; decide)
  have filled : past.toBuffer.splice 0 msg.toBuffer.bytes = msg.toBuffer :=
    Buffer.ext_bytes (past.toBuffer.splice_whole length)
  have ran : recvLoop kernel.recvCall sizeofTcpMsg 0 past.toBuffer 0 =
      (.ok, msg.toBuffer, 1) := by
    change recvLoop kernel.recvCall (2049 + 1) 0 past.toBuffer 0 = _
    rw [recvLoop, if_pos (by decide)]
    dsimp only [Kernel.recvCall]
    rw [whole, if_neg nonempty, length, filled, recvLoop, if_neg (by decide)]
  unfold Kernel.recvTcpMsg
  rw [recvTcpMsg_loop _ valid (by decide), ran]
  exact congrArg _ (TcpMsg.ofBuffer_toBuffer msg)

theorem FirstHandled.idFits {msg : TcpMsg} (handled : FirstHandled msg) : IdFits msg := by
  have length := msg.data.length_eq
  have received : (Kernel.accepting 5 msg).recvTcpMsg 5 Server.started.recvMsg = (.ok, msg) :=
    Kernel.recvTcpMsg_whole (fun _ _ => rfl) (by decide) _
  have start : (broker anyAnswer).Reachable .started := .init ⟨_, _, initServer_started⟩
  have fits := (handled .started (.accepting 5 msg) start
    (show (0 : Int) < 5 by decide) received).fits
  have copied : copiedId (.accepting 5 msg) 5 { Server.started with recvMsg := msg } =
      some ((cstr (msg.data.bytes ++ [])).length + 1) := rfl
  have short := fits _ copied
  rw [List.append_nil] at short
  exact (nul_mem_take_iff (by rw [length]; decide)).mpr short

theorem Server.joined_reachable : (broker anyAnswer).Reachable .joined := by
  have start : (broker anyAnswer).Reachable .started := .init ⟨_, _, initServer_started⟩
  exact start.step (.serve Server.started 2 (.accepting 5 (.holding (ascii "C1"))) (by decide)
    (by decide) trivial (by decide +kernel))

theorem Server.joined_clients : Server.joined.clients.elems = [.fresh (ascii "C1") 5] := by
  decide +kernel

theorem Server.joined_fds : Server.joined.pollVec.fds = [0, 3, 4, 5] := by
  decide +kernel

/-- Its client is at index 3, behind the standard input and the sockets. -/
theorem Server.joined_connection : Server.joined.pollVec.fds[3]? = some 5 ∧
    5 ≠ Server.joined.udpSocket ∧ 5 ≠ Server.joined.tcpSocket := by
  decide +kernel

theorem not_inside {positions : List Int} (outside : (maxTcpMsgBufLen : Int) ∈ positions) :
    ¬ Inside positions := fun inside => Int.lt_irrefl _ (inside _ outside).2

/-- The reads of a frame from a client without subscriptions. -/
theorem LaterHandled.joined {msg : TcpMsg} (handled : LaterHandled msg) :
    Inside (requestReads (.reading msg) 5 { Server.joined with recvMsg := msg }) := by
  obtain ⟨atFd, notUdp, notTcp⟩ := Server.joined_connection
  exact (handled .joined (.reading msg) 3 5 Server.joined_reachable (by decide) atFd notUdp notTcp
    (Kernel.recvTcpMsg_whole (fun _ _ => rfl) (by decide) _)).inside

theorem subscribeReads_joined (memory : Bytes) :
    subscribeReads Server.joined.clients 5 memory .succeed = (cstr memory).length + 1 := by
  unfold subscribeReads
  rw [Server.joined_clients, if_neg (by decide)]
  exact Nat.zero_max _

theorem LaterHandled.cmd {msg : TcpMsg} (handled : LaterHandled msg) : 0 ∈ msg.data.bytes := by
  have length := msg.data.length_eq
  by_contra absent
  have whole : (cstr (msg.data.bytes ++ [])).length = maxTcpMsgBufLen := by
    have shorter := mt cstr_length_lt_iff.mp absent
    have bound := cstr_length_le msg.data.bytes
    rw [List.append_nil]
    omega
  refine not_inside (List.mem_append_left _ (mem_scanned.mpr ?_)) handled.joined
  change _ ∧ _ < ((0 + ((cstr (msg.data.bytes ++ [])).length + 1) : Nat) : Int)
  omega

theorem Inside.behind {front back : List Int} (inside : Inside (front ++ back)) : Inside back :=
  fun position member => inside position (List.mem_append_right _ member)

theorem LaterHandled.joined_subscribe {msg : TcpMsg} (handled : LaterHandled msg)
    (subscribing : cstr msg.data.bytes = ascii "subscribe") :
    Inside (((msg.len.toNat : Int) - 1) :: scanned ((ascii "subscribe").length + 1)
      ((cstr (msg.data.bytes.drop ((ascii "subscribe").length + 1))).length + 1)) := by
  have memory : msg.data.bytes ++ (Kernel.reading msg).past = msg.data.bytes :=
    List.append_nil _
  have reads : requestReads (.reading msg) 5 { Server.joined with recvMsg := msg } = _ :=
    requestReads_subscribe (by dsimp only; rw [memory, subscribing])
  have inside := handled.joined
  rw [reads] at inside
  dsimp only at inside
  rw [memory] at inside
  have topic := inside.behind
  rwa [show (Kernel.reading msg).subscribe = .succeed from rfl, subscribeReads_joined] at topic

/-- A topic that does not end in the frame is read to its end and one byte further. -/
theorem not_inside_unterminated {msg : TcpMsg} {start : Nat} (started : start ≤ maxTcpMsgBufLen)
    (unterminated : 0 ∉ msg.data.bytes.drop start) :
    ¬ Inside (scanned start ((cstr (msg.data.bytes.drop start)).length + 1)) := by
  have length := msg.data.length_eq
  have whole := mt cstr_length_lt_iff.mp unterminated
  have bound := cstr_length_le (msg.data.bytes.drop start)
  rw [List.length_drop] at whole bound
  exact not_inside (mem_scanned.mpr (by omega))

theorem LaterHandled.option {msg : TcpMsg} (handled : LaterHandled msg)
    (subscribing : cstr msg.data.bytes = ascii "subscribe") :
    1 ≤ msg.len.toNat ∧ msg.len.toNat ≤ maxTcpMsgBufLen := by
  have bounds := handled.joined_subscribe subscribing _ List.mem_cons_self
  omega

theorem LaterHandled.subscribe_topic {msg : TcpMsg} (handled : LaterHandled msg)
    (subscribing : cstr msg.data.bytes = ascii "subscribe") :
    0 ∈ msg.data.bytes.drop ((ascii "subscribe").length + 1) := by
  by_contra unterminated
  refine not_inside_unterminated (by decide) unterminated ?_
  exact fun position member =>
    handled.joined_subscribe subscribing position (List.mem_cons_of_mem _ member)

/-! ## A client with a long topic -/

/-- A subscription to a topic that fills the rest of the frame but two bytes. -/
def TcpMsg.subscribing (topic : Bytes) : TcpMsg :=
  ⟨2048, (Buffer.zero _).splice 0 (subscribeCmd ++ [0] ++ (topic ++ [0]) ++ [1])⟩

/-- The server after the client of `Server.joined` sent it. -/
def Server.subscribed (topic : Bytes) : Server :=
  (serve (.reading (.subscribing topic)) 3 .joined).server

theorem serve_client {kernel : Kernel} {iter : Nat} {fd : Int} {s : Server} {msg : TcpMsg}
    (atFd : s.pollVec.fds[iter]? = some fd) (notUdp : fd ≠ s.udpSocket)
    (notTcp : fd ≠ s.tcpSocket) (received : kernel.recvTcpMsg fd s.recvMsg = (.ok, msg)) :
    serve kernel iter s =
      ⟨⟨.ok, (processServerTcpMsg kernel fd { s with recvMsg := msg }).2, []⟩, false⟩ := by
  rw [serve_at atFd, if_neg notUdp, if_neg notTcp, serveClient, received]
  exact if_neg (not_not.mpr rfl)

theorem serve_joined {kernel : Kernel} {msg : TcpMsg}
    (whole : ∀ call asked, kernel.recv call asked = msg.toBuffer.bytes) :
    serve kernel 3 .joined =
      ⟨⟨.ok, (processServerTcpMsg kernel 5 { Server.joined with recvMsg := msg }).2, []⟩,
        false⟩ := by
  obtain ⟨atFd, notUdp, notTcp⟩ := Server.joined_connection
  exact serve_client atFd notUdp notTcp (Kernel.recvTcpMsg_whole whole (by decide) _)

theorem TcpMsg.subscribing_bytes {topic : Bytes} (length : topic.length = 2036) :
    (subscribing topic).data.bytes = (subscribeCmd ++ [0] ++ (topic ++ [0])) ++ [1] := by
  have total : (subscribeCmd ++ [0] ++ (topic ++ [0]) ++ [1]).length = maxTcpMsgBufLen := by
    have cmd : subscribeCmd.length = 9 := by decide
    simp only [List.length_append, List.length_singleton, cmd, length]
    rfl
  exact (Buffer.zero maxTcpMsgBufLen).splice_whole total

theorem Server.subscribed_eq {topic : Bytes} (free : NulFree topic)
    (length : topic.length = 2036) :
    Server.subscribed topic = { Server.joined with
      recvMsg := .subscribing topic
      clients := (subscribeClientToTopic Server.joined.clients 5 topic .sf .succeed).2 } := by
  have total : (subscribeCmd ++ [0] ++ (topic ++ [0])).length = 2047 := by
    have cmd : subscribeCmd.length = 9 := by decide
    simp only [List.length_append, List.length_singleton, cmd, length]
  have decoded := processServerTcpMsg_subscribe (.reading (.subscribing topic)) 5
    (s := { Server.joined with recvMsg := .subscribing topic }) free
    (TcpMsg.subscribing_bytes length) (by rw [total]; rfl)
  rw [if_neg (by decide), show (Kernel.reading (.subscribing topic)).subscribe = .succeed from rfl]
    at decoded
  unfold Server.subscribed
  rw [serve_joined fun _ _ => rfl, decoded]

theorem Server.subscribed_connection {topic : Bytes} (free : NulFree topic)
    (length : topic.length = 2036) : (Server.subscribed topic).pollVec.fds[3]? = some 5 ∧
    5 ≠ (Server.subscribed topic).udpSocket ∧ 5 ≠ (Server.subscribed topic).tcpSocket := by
  rw [Server.subscribed_eq free length]
  dsimp only
  exact Server.joined_connection

theorem Server.subscribed_reachable (topic : Bytes) :
    (broker anyAnswer).Reachable (.subscribed topic) := by
  refine Server.joined_reachable.step (.serve Server.joined 3 (.reading (.subscribing topic))
    (by decide) ?_ trivial ?_)
  · have count : Server.joined.pollVec.fds.length = 4 := by rw [Server.joined_fds]; rfl
    rw [PollVec.fds, List.length_map] at count
    exact Nat.lt_of_lt_of_eq (by decide) count.symm
  · rw [serve_joined fun _ _ => rfl]

/-- The subscribed client is still the only one. -/
theorem unsubscribeReads_subscribed {topic : Bytes} (free : NulFree topic)
    (length : topic.length = 2036) :
    unsubscribeReads (Server.subscribed topic).clients 5 topic = topic.length + 1 := by
  have found : locate (fun c => c.fd == (5 : Int)) Server.joined.clients.elems =
      some (0, .fresh (ascii "C1") 5) := by
    rw [Server.joined_clients]
    rfl
  have elems : (Server.subscribed topic).clients.elems =
      [{ ClientType.fresh (ascii "C1") 5 with
        table := (ClientType.fresh (ascii "C1") 5).table.push topic .sf }] := by
    rw [Server.subscribed_eq free length]
    unfold subscribeClientToTopic
    rw [if_neg (by decide), found]
    dsimp only
    rw [Vec.set_elems, Server.joined_clients]
    rfl
  have searched : searchReads [topic] topic = topic.length + 1 := by
    have compared := strcmpReads_self free []
    rw [List.append_nil] at compared
    rw [searchReads, if_pos (cstr_of_nulFree free).symm, compared]
  unfold unsubscribeReads
  rw [elems, if_neg (by decide)]
  exact searched

theorem LaterHandled.unsubscribe_topic {msg : TcpMsg} (handled : LaterHandled msg)
    (unsubscribing : cstr msg.data.bytes = ascii "unsubscribe") :
    0 ∈ msg.data.bytes.drop ((ascii "unsubscribe").length + 1) := by
  by_contra unterminated
  have free : NulFree (msg.data.bytes.drop ((ascii "unsubscribe").length + 1)) :=
    fun byte member zero => unterminated (zero ▸ member)
  have length : (msg.data.bytes.drop ((ascii "unsubscribe").length + 1)).length = 2036 := by
    rw [List.length_drop, msg.data.length_eq]
    decide
  have memory : msg.data.bytes ++ (Kernel.reading msg).past = msg.data.bytes :=
    List.append_nil _
  obtain ⟨atFd, notUdp, notTcp⟩ := Server.subscribed_connection free length
  have inside := (handled (.subscribed _) (.reading msg) 3 5 (Server.subscribed_reachable _)
    (by decide) atFd notUdp notTcp
    (Kernel.recvTcpMsg_whole (fun _ _ => rfl) (by decide) _)).inside
  have reads : requestReads (.reading msg) 5
      { Server.subscribed (msg.data.bytes.drop ((ascii "unsubscribe").length + 1)) with
        recvMsg := msg } = _ :=
    requestReads_unsubscribe (by dsimp only; rw [memory, unsubscribing])
  rw [reads] at inside
  dsimp only at inside
  rw [memory, unsubscribeReads_subscribed free length] at inside
  have outside := not_inside_unterminated (by decide) unterminated
  rw [cstr_of_nulFree free] at outside
  exact outside inside.behind

/-! ## The condition -/

theorem LaterHandled.requestFits {msg : TcpMsg} (handled : LaterHandled msg) :
    RequestFits msg where
  cmd := handled.cmd
  topic := by
    rintro (subscribing | unsubscribing)
    · rw [subscribing]
      exact handled.subscribe_topic subscribing
    · rw [unsubscribing]
      exact handled.unsubscribe_topic unsubscribing
  option := handled.option

/-- A frame is handled within the buffers by every reachable server exactly
when its strings end where the server takes them to end and its option lies in
the frame. -/
theorem frames_handled_iff (msg : TcpMsg) :
    (FirstHandled msg ↔ IdFits msg) ∧ (LaterHandled msg ↔ RequestFits msg) := by
  refine ⟨⟨FirstHandled.idFits, ?_⟩, ⟨LaterHandled.requestFits, ?_⟩⟩
  · intro fits s kernel reached accepted received
    exact fits.handled kernel _ rfl
  · intro fits s kernel iter fd reached first atFd notUdp notTcp received
    exact fits.handled kernel fd rfl

/-- The ten letters of this id and its NUL do not fit in an entry. -/
theorem frame_not_handled : ¬ ∀ msg : TcpMsg, FirstHandled msg ∧ LaterHandled msg := by
  intro always
  have fits := (always (.holding (ascii "ABCDEFGHIJ"))).1.idFits
  exact absurd fits (by unfold IdFits; decide +kernel)

end TopicBroker
