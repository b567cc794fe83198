import TopicBroker.Proof.Passes

/-!
# Datagrams that stop the server

The type byte decides whether the parser accepts a datagram, its refusal is
returned through every caller up to the main loop, and a datagram too short to
have a type byte is given the one that an earlier datagram left in the buffer.
-/

namespace TopicBroker

/-- The type byte that the parser finds in a buffer. -/
def typeByte (buf : Bytes) : UInt8 := byteAt buf (maxTopicLen - 1)

theorem parsed_known_iff (s : Server) : s.parsed.Known ↔ KnownType (typeByte s.buf.bytes) := by
  rw [UdpType.known_iff]
  have err : s.parsed.data.err = _ := parseUdpData_err (typeByte s.buf.bytes) _
  rw [err]
  by_cases known : KnownType (typeByte s.buf.bytes)
  · rw [if_pos known]
    exact ⟨fun _ => known, fun _ => rfl⟩
  · rw [if_neg known]
    exact ⟨fun impossible => (nomatch impossible), fun impossible => absurd impossible known⟩

/-! ## The byte in the buffer -/

theorem splice_front (buf : Buffer maxServerBuflen) (payload : Bytes) :
    (buf.splice 0 (payload.take maxServerBuflen)).bytes =
      payload.take maxServerBuflen ++ buf.bytes.drop (payload.take maxServerBuflen).length := by
  rw [Buffer.splice_bytes buf (by rw [List.length_take]; omega), List.take_zero, List.nil_append,
    Nat.zero_add]

/-- A datagram that reaches byte 50 brings its own type, a shorter one finds the old byte. -/
theorem typeByte_received (buf : Buffer maxServerBuflen) {payload : Bytes}
    (fits : payload.length ≤ maxServerBuflen) :
    typeByte (buf.splice 0 (payload.take maxServerBuflen)).bytes =
      if maxTopicLen ≤ payload.length then typeByte payload else typeByte buf.bytes := by
  rw [splice_front, List.take_of_length_le fits]
  unfold typeByte byteAt
  split
  · rename_i long
    have inside : maxTopicLen - 1 < payload.length := Nat.lt_of_lt_of_le (by decide) long
    rw [List.getD_append _ _ _ _ inside]
  · rename_i short
    have beyond : payload.length ≤ maxTopicLen - 1 := by
      unfold maxTopicLen at short ⊢
      omega
    rw [List.getD_append_right _ _ _ _ beyond, List.getD_eq_getElem?_getD,
      List.getD_eq_getElem?_getD, List.getElem?_drop, Nat.add_sub_of_le beyond]

/-- Byte 50 of the receive buffer is a known type. -/
def TypeInBuffer (s : Server) : Prop := KnownType (typeByte s.buf.bytes)

theorem TypeInBuffer.round {kernel : Kernel} {iter : Nat} {s t : Server} {log : List Event}
    (held : TypeInBuffer s) (ran : Round kernel iter s log t) : TypeInBuffer t := by
  cases ran with
  | idle recvMsg => exact held
  | emptied addr payload atUdp answer empty => exact held
  | published heard r clients atUdp received room known notified =>
      exact (parsed_known_iff r).mp known
  | rejected recvMsg pollVec clients samePoll sameClients => exact held
  | registered id fd recvMsg sendMsg clients index c kept left log positive unopened enrolled
      found shorter complete resent => exact held
  | disconnected fd recvMsg index c atFd notUdp notTcp here owner active => exact held
  | requested recvMsg clients edited => exact held

/-- A run goes on only past known types, and the buffer starts with zeros. -/
theorem TypeInBuffer.reachable {allowed : Server → Nat → Kernel → Prop} {s : Server}
    (reached : (broker allowed).Reachable s) : TypeInBuffer s := by
  refine reached.invariant ?_ ?_
  · rintro s ⟨kernel, hport, started⟩
    rw [TypeInBuffer, (initServer_fresh started).buf]
    decide +kernel
  · intro s log t held edge
    cases edge with
    | awake revents cmd => exact held
    | serve iter kernel first inside granted ran => exact held.round (serve_round ran)

/-! ## Publication with a willing allocator -/

theorem transmitLoop_grows {kernel : Kernel} (grows : ∀ index, kernel.readyMsgs index = true)
    (source : Ref) (msg : UdpType) (rounds iter : Nat) (s : Server) :
    (transmitLoop kernel source msg rounds iter s).err = .ok := by
  induction rounds generalizing iter s with
  | zero => rfl
  | succ rounds ih =>
      cases here : s.clients.elems[iter]? with
      | none => rw [transmitLoop, here]
      | some c =>
          rw [transmitLoop_step here, grows, addTopicMsgForClient_grow here]
          split
          · exact ih _ _
          · split
            · exact ih _ _
            · exact ih _ _

/-- With room for the message only an unknown type makes the publication fail. -/
theorem publish_ok_iff {kernel : Kernel} (room : kernel.udpMsgs ≠ .fails)
    (grows : ∀ index, kernel.readyMsgs index = true) (s : Server) :
    (publish kernel s).err = .ok ↔ KnownType (typeByte s.buf.bytes) := by
  constructor
  · intro ran
    exact (parsed_known_iff s).mp (publish_ok ran).2.1
  · intro known
    have stored : (addServerUdpMsg kernel s).1 = .ok :=
      (addServerUdpMsg_ok_iff kernel s).mpr
        ⟨fun crammed => room crammed.2, (parsed_known_iff s).mpr known⟩
    unfold publish
    dsimp only
    rw [if_neg (not_not.mpr stored)]
    unfold transmitTopicToClients
    dsimp only
    split
    · rename_i refused
      exfalso
      apply refused
      rw [packTopicToTcpMsg_ok_iff, addServerUdpMsg_server stored]
      have source : Server.lastRef { s.stored kernel with sendMsg := s.sendMsg } =
          s.nextRef kernel := by
        rw [Server.lastRef, Server.stored_elems, List.length_append]
        rfl
      have found := Server.stored_nextRef kernel s
      change Server.stored? { s.stored kernel with sendMsg := s.sendMsg } _ = _ at found
      rw [source, Server.deref, found, Option.getD_some, parsed_known_iff]
      exact known
    · exact transmitLoop_grows grows _ _ _ _ _

/-! ## The round of a datagram -/

theorem serve_datagram {kernel : Kernel} {iter : Nat} {s : Server}
    (atUdp : s.pollVec.fds[iter]? = some s.udpSocket) {addr : Buffer sizeofSockaddrIn}
    {payload : Bytes} (answer : kernel.recvfrom = some (addr, payload))
    (nonempty : payload ≠ []) :
    serve kernel iter s =
      ⟨(publish kernel (s.receive addr payload)).after
        [.received (some (payload.take maxServerBuflen))], false⟩ := by
  have some_bytes : payload.take maxServerBuflen ≠ [] := by
    intro empty
    rcases List.take_eq_nil_iff.mp empty with impossible | none_left
    · cases impossible
    · exact nonempty none_left
  rw [serve_at atUdp, if_pos rfl, serveUdp, answer]
  dsimp only
  rw [if_neg some_bytes]

/-- The type byte of a datagram that has one is not in the enumeration. -/
def UnknownDatagram (payload : Bytes) : Prop :=
  maxTopicLen ≤ payload.length ∧ ¬ KnownType (typeByte payload)

/-- What no datagram is to prevent: the round ends without an error, a datagram
of an unknown type leaves no trace, and the pass goes on behind the round. -/
structure Survived (kernel : Kernel) (iter : Nat) (s : Server) (payload : Bytes) : Prop where
  err : (serve kernel iter s).err = .ok
  dropped : UnknownDatagram payload →
    (serve kernel iter s).server.udpMsgs.elems = s.udpMsgs.elems ∧
      (serve kernel iter s).server.clients = s.clients
  goes_on : ∀ kernels rounds round entry, kernels round = kernel →
    s.pollVec.elems[iter]? = some entry → entry.ready = true →
      processLoop kernels (rounds + 1) round iter s =
        (processLoop kernels rounds (round + 1) (iter + 1) (serve kernel iter s).server).after
          (serve kernel iter s).log

/-- With successful allocations a datagram stops the server exactly when it is
long enough to have a type byte and the byte is not a known type. -/
theorem survived_iff {s : Server} (reached : (broker anyAnswer).Reachable s) {kernel : Kernel}
    {iter : Nat} (atUdp : s.pollVec.fds[iter]? = some s.udpSocket)
    {addr : Buffer sizeofSockaddrIn} {payload : Bytes}
    (answer : kernel.recvfrom = some (addr, payload)) (nonempty : payload ≠ [])
    (fits : payload.length ≤ maxServerBuflen) (room : kernel.udpMsgs ≠ .fails)
    (grows : ∀ index, kernel.readyMsgs index = true) :
    Survived kernel iter s payload ↔
      payload.length < maxTopicLen ∨ KnownType (typeByte payload) := by
  have held : TypeInBuffer s := .reachable reached
  have served := serve_datagram atUdp answer nonempty
  have err : (serve kernel iter s).err = .ok ↔
      payload.length < maxTopicLen ∨ KnownType (typeByte payload) := by
    rw [served, Outcome.after_err, publish_ok_iff room grows, Server.receive,
      typeByte_received s.buf fits]
    split
    · rename_i long
      simp [Nat.not_lt.mpr long]
    · rename_i short
      exact iff_of_true held (Or.inl (Nat.lt_of_not_le short))
  constructor
  · intro survived
    exact err.mp survived.err
  · intro mild
    have ended := err.mpr mild
    refine ⟨ended, ?_, ?_⟩
    · rintro ⟨long, unknown⟩
      rcases mild with short | known
      · omega
      · exact absurd known unknown
    · intro kernels rounds round entry same here ready
      have kept : (serve kernel iter s).removed = false := by rw [served]
      rw [processLoop, here]
      dsimp only
      rw [if_pos ready, same, if_neg (not_not.mpr ended), kept]
      rfl

theorem survived_iff_news :
    Survived .willing 1 .started (ascii "news") ↔
      (ascii "news").length < maxTopicLen ∨ KnownType (typeByte (ascii "news")) :=
  survived_iff (System.Reachable.init ⟨_, _, initServer_started⟩) rfl rfl (by decide)
    (by decide) (by decide) fun _ => rfl

/-- 51 bytes of which the last is 9 make `process_ready_fds` return an error. -/
theorem datagram_stops_server :
    ¬ ∀ (s : Server) (kernel : Kernel) (iter : Nat) (addr : Buffer sizeofSockaddrIn)
      (payload : Bytes), (broker anyAnswer).Reachable s →
        s.pollVec.fds[iter]? = some s.udpSocket → kernel.recvfrom = some (addr, payload) →
        payload ≠ [] → payload.length ≤ maxServerBuflen → kernel.udpMsgs ≠ .fails →
        (∀ index, kernel.readyMsgs index = true) → Survived kernel iter s payload := by
  intro always
  have start : (broker anyAnswer).Reachable .started := .init ⟨_, _, initServer_started⟩
  have survived := always .started (.hearing (List.replicate 50 0 ++ [9])) 1 _ _ start rfl rfl
    (by decide) (by decide) (by decide) fun _ => rfl
  have stopped : (serve (.hearing (List.replicate 50 0 ++ [9])) 1 .started).err =
      .udpUnknownDataType := by
    decide +kernel
  rw [survived.err] at stopped
  cases stopped

end TopicBroker
