import TopicBroker.Proof.ConnectionTable

/-!
# A pass over the ready descriptors

A pass that returns `OK` is a sequence of rounds, each of which brings it closer
to the end of the poll vector. Whether the sockets of the server are still
polled afterwards depends on what `recvfrom` returned.
-/

namespace TopicBroker

/-! ## A pass as a sequence of rounds -/

/-- Every round of the pass meets the condition in the state it starts in. -/
def PassAllows (allowed : Server → Nat → Kernel → Prop) (kernels : Nat → Kernel) :
    Nat → Nat → Nat → Server → Prop
  | 0, _, _, _ => True
  | rounds + 1, round, iter, s =>
      match s.pollVec.elems[iter]? with
      | none => True
      | some entry =>
          if entry.ready then
            let served := serve (kernels round) iter s
            allowed s iter (kernels round) ∧
              PassAllows allowed kernels rounds (round + 1)
                (if served.removed then iter else iter + 1) served.server
          else PassAllows allowed kernels rounds (round + 1) (iter + 1) s

theorem PassAllows.of_kernels {allowed : Server → Nat → Kernel → Prop} {kernels : Nat → Kernel}
    (always : ∀ s iter round, allowed s iter (kernels round)) (rounds round iter : Nat)
    (s : Server) : PassAllows allowed kernels rounds round iter s := by
  induction rounds generalizing round iter s with
  | zero => trivial
  | succ rounds ih =>
      rw [PassAllows]
      split
      · trivial
      · split
        · exact ⟨always _ _ _, ih _ _ _⟩
        · exact ih _ _ _

theorem processLoop_run {allowed : Server → Nat → Kernel → Prop} {kernels : Nat → Kernel}
    {rounds round iter : Nat} {s : Server} (first : 1 ≤ iter)
    (granted : PassAllows allowed kernels rounds round iter s)
    (ran : (processLoop kernels rounds round iter s).err = .ok) :
    (broker allowed).Run s (processLoop kernels rounds round iter s).log
      (processLoop kernels rounds round iter s).server := by
  induction rounds generalizing round iter s with
  | zero => exact .refl
  | succ rounds ih =>
      rw [processLoop] at ran ⊢
      rw [PassAllows] at granted
      cases here : s.pollVec.elems[iter]? with
      | none => exact .refl
      | some entry =>
          rw [here] at ran granted
          dsimp only at ran granted ⊢
          by_cases ready : entry.ready = true
          · rw [if_pos ready] at ran granted ⊢
            obtain ⟨now, later⟩ := granted
            by_cases ended : (serve (kernels round) iter s).err = .ok
            · rw [if_neg (not_not.mpr ended)] at ran ⊢
              obtain ⟨inside, _⟩ := List.getElem?_eq_some_iff.mp here
              have edge : (broker allowed).step s (serve (kernels round) iter s).log
                  (serve (kernels round) iter s).server :=
                BrokerStep.serve s iter (kernels round) first inside now ended
              exact (System.Run.single edge).trans
                (ih (by split <;> omega) later ran)
            · rw [if_pos ended] at ran
              exact absurd ran ended
          · rw [if_neg ready] at ran granted ⊢
            exact ih (by omega) granted ran

/-! ## What lies ahead -/

/-- Bounds the rounds from index `iter` on: a ready entry may append one entry. -/
def Server.ahead (s : Server) (iter : Nat) : Nat :=
  2 * (s.pollVec.elems.drop iter).countP PollFd.ready + (s.pollVec.elems.drop iter).length

/-- What a round does to the poll vector; the flag tells whether it executed `iter--`. -/
inductive Repolled (iter : Nat) (s : Server) : Bool → PollVec → Prop where
  | same (pollVec : PollVec) (elems : pollVec.elems = s.pollVec.elems) :
      Repolled iter s false pollVec
  | appended (fd : Int) : Repolled iter s false (s.pollVec.push ⟨fd, pollin ||| pollout, 0⟩)
  | removed : Repolled iter s true (s.pollVec.remove iter)

theorem publish_pollVec {kernel : Kernel} {s : Server} (ran : (publish kernel s).err = .ok) :
    (publish kernel s).server.pollVec.elems = s.pollVec.elems := by
  obtain ⟨_, _, clients, server, _⟩ := publish_ok ran
  rw [server]
  rfl

theorem serveUdp_repolled {kernel : Kernel} {iter : Nat} {s : Server}
    (inside : iter < s.pollVec.nfds) :
    (serveUdp kernel iter s).err = .ok →
      Repolled iter s (serveUdp kernel iter s).removed (serveUdp kernel iter s).server.pollVec := by
  refine serveUdp_branches (motive := fun done => done.err = .ok →
    Repolled iter s done.removed done.server.pollVec) kernel iter s ?_ ?_ ?_
  · exact fun _ ran => .same _ (publish_pollVec ran)
  · intro addr payload _ _ _
    rw [pollVecRemoveFd_inside inside]
    exact .removed
  · exact fun addr payload _ _ ran => .same _ (publish_pollVec (s := s.receive addr payload) ran)

theorem retransmitTopicsToClient_pollVec (kernel : Kernel) (clientFd : Int) (s : Server) :
    (retransmitTopicsToClient kernel clientFd s).server.pollVec = s.pollVec := by
  unfold retransmitTopicsToClient
  split
  · rfl
  · dsimp only
    split <;> rfl

theorem Listened.repolled {kernel : Kernel} {s t : Server} {log : List Event} (iter : Nat)
    (listened : Listened kernel s log t) : Repolled iter s false t.pollVec := by
  cases listened with
  | refused recvMsg pollVec clients positive samePoll sameClients refused => exact .same _ samePoll
  | joined recvMsg clients index c positive unopened enrolled found =>
      rw [retransmitTopicsToClient_pollVec]
      exact .appended _

theorem serveClient_repolled (kernel : Kernel) {iter : Nat} (fd : Int) {s : Server}
    (inside : iter < s.pollVec.nfds) :
    Repolled iter s (serveClient kernel iter fd s).removed
      (serveClient kernel iter fd s).server.pollVec := by
  unfold serveClient
  dsimp only
  split
  · split
    · exact .same _ rfl
    · rw [pollVecRemoveFd_inside inside]
      exact .removed
  · obtain ⟨clients, server, _⟩ := processServerTcpMsg_edited kernel fd
      { s with recvMsg := (kernel.recvTcpMsg fd s.recvMsg).2 }
    rw [server]
    exact .same _ rfl

theorem serve_repolled {kernel : Kernel} {iter : Nat} {s : Server}
    (inside : iter < s.pollVec.nfds) :
    (serve kernel iter s).err = .ok →
      Repolled iter s (serve kernel iter s).removed (serve kernel iter s).server.pollVec := by
  refine serve_branches (motive := fun done => done.err = .ok →
    Repolled iter s done.removed done.server.pollVec) kernel iter s ?_ ?_ ?_ ?_
  · exact fun _ _ => .same _ rfl
  · exact fun _ ran => serveUdp_repolled inside ran
  · exact fun _ _ ran => (serveListener_listened ran).repolled iter
  · exact fun fd _ _ _ _ => serveClient_repolled kernel fd inside

/-- What lies behind the entry that was served keeps its order; at most one entry
is put behind it, which is not ready. -/
theorem Repolled.behind {iter : Nat} {s : Server} {removed : Bool} {pollVec : PollVec}
    (inside : iter < s.pollVec.nfds) (repolled : Repolled iter s removed pollVec) :
    ∃ more : List PollFd, (∀ entry ∈ more, entry.ready = false) ∧ more.length ≤ 1 ∧
      pollVec.elems.drop (if removed then iter else iter + 1) =
        s.pollVec.elems.drop (iter + 1) ++ more := by
  cases repolled with
  | same pollVec elems =>
      refine ⟨[], fun _ absent => absurd absent List.not_mem_nil, Nat.zero_le _, ?_⟩
      rw [elems, List.append_nil]
      rfl
  | appended fd =>
      refine ⟨[⟨fd, pollin ||| pollout, 0⟩], ?_, Nat.le_refl _, ?_⟩
      · intro entry member
        rw [List.mem_singleton.mp member]
        simp [PollFd.ready]
      · rw [Vec.push_elems]
        exact List.drop_append_of_le_length inside
  | removed =>
      refine ⟨[], fun _ absent => absurd absent List.not_mem_nil, Nat.zero_le _, ?_⟩
      have front : iter ≤ (s.pollVec.elems.take iter).length := by
        rw [List.length_take]
        exact Nat.le_min.mpr ⟨Nat.le_refl _, Nat.le_of_lt inside⟩
      rw [Vec.remove_elems _ inside, if_pos rfl, List.eraseIdx_eq_take_drop_succ,
        List.drop_append_of_le_length front, List.drop_take_self, List.nil_append,
        List.append_nil]

/-- Serving a ready entry brings the pass closer to its end. -/
theorem Repolled.ahead_lt {iter : Nat} {s t : Server} {removed : Bool} {entry : PollFd}
    (here : s.pollVec.elems[iter]? = some entry) (ready : entry.ready = true)
    (repolled : Repolled iter s removed t.pollVec) :
    t.ahead (if removed then iter else iter + 1) < s.ahead iter := by
  obtain ⟨inside, rfl⟩ := List.getElem?_eq_some_iff.mp here
  obtain ⟨more, silent, few, behind⟩ := repolled.behind inside
  have none_ready : more.countP PollFd.ready = 0 :=
    List.countP_eq_zero.mpr fun entry member => by simp [silent entry member]
  rw [Server.ahead, Server.ahead, behind, List.drop_eq_getElem_cons inside,
    List.countP_cons_of_pos ready, List.length_cons, List.countP_append, List.length_append,
    none_ready]
  omega

/-! ## The sockets after a pass -/

/-- `recvfrom` returned at least one byte. -/
def Event.datagram : Event → Bool
  | .received (some payload) => !payload.isEmpty
  | _ => false

/-- Standard input and both sockets are polled, no client connection has the
number of the UDP socket, and every stored message was received. -/
structure SocketsServed (s : Server) (log : List Event) (t : Server) : Prop where
  stdin : stdinFileno ∈ t.pollVec.fds
  udp : t.udpSocket ∈ t.pollVec.fds
  tcp : t.tcpSocket ∈ t.pollVec.fds
  apart : ∀ c ∈ t.clients.elems, c.status = .active → c.fd ≠ t.udpSocket
  received : t.udpMsgs.elems.length ≤ s.udpMsgs.elems.length + log.countP Event.datagram

/-- At the UDP socket `recvfrom` returns at least one byte. -/
def hearsDatagram (s : Server) (iter : Nat) (kernel : Kernel) : Prop :=
  s.pollVec.fds[iter]? = some s.udpSocket →
    ∃ addr payload, kernel.recvfrom = some (addr, payload) ∧ payload ≠ []

theorem hearsDatagram.noEmpty {s : Server} {iter : Nat} {kernel : Kernel}
    (heard : hearsDatagram s iter kernel) : noEmptyDatagram s iter kernel := by
  rintro atUdp ⟨addr, empty⟩
  obtain ⟨other, payload, answer, nonempty⟩ := heard atUdp
  rw [empty] at answer
  cases answer
  exact nonempty rfl

theorem allNotices_countP (kernel : Kernel) (s : Server) (source : Ref) (msg : UdpType)
    (iter : Nat) (clients : List ClientType) :
    (allNotices kernel s source msg iter clients).countP Event.datagram = 0 := by
  induction clients generalizing iter with
  | nil => rfl
  | cons c rest ih =>
      rw [allNotices, List.countP_append, ih, Nat.add_zero, notices]
      split
      · split <;> rfl
      · split <;> rfl

theorem Resent.countP {s : Server} {c : ClientType} {fd : Int} {sources : List Ref}
    {log : List Event} (resent : Resent s c fd sources log) :
    log.countP Event.datagram = 0 := by
  induction resent with
  | nil => rfl
  | cons first _ ih =>
      obtain ⟨frame, rfl⟩ := first
      rw [List.countP_cons_of_neg Bool.false_ne_true, ih]

/-- A message is stored for every datagram received and for nothing else. -/
theorem Round.udpMsgs_length {kernel : Kernel} {iter : Nat} {s t : Server} {log : List Event}
    (ran : Round kernel iter s log t) (heard : hearsDatagram s iter kernel) :
    t.udpMsgs.elems.length = s.udpMsgs.elems.length + log.countP Event.datagram := by
  cases ran with
  | idle recvMsg => rfl
  | emptied addr payload atUdp answer empty =>
      exact absurd (Kernel.hearsEmpty_of_take answer empty) (heard.noEmpty atUdp)
  | published heardLog r clients atUdp received room known notified =>
      rw [List.countP_append, allNotices_countP, Nat.add_zero]
      change (r.stored kernel).udpMsgs.elems.length = _
      rw [Server.stored_elems, List.length_append, List.length_singleton]
      obtain ⟨addr, payload, answer, nonempty⟩ := heard atUdp
      cases received with
      | failed failure =>
          rw [failure] at answer
          cases answer
      | datagram addr payload _ some_bytes =>
          have counted :
              Event.datagram (.received (some (payload.take maxServerBuflen))) = true := by
            simpa [Event.datagram] using some_bytes
          rw [List.countP_cons_of_pos counted]
          rfl
  | rejected recvMsg pollVec clients samePoll sameClients => rfl
  | registered id fd recvMsg sendMsg clients index c kept left log positive unopened enrolled
      found shorter complete resent =>
      rw [resent.countP]
      rfl
  | disconnected fd recvMsg index c atFd notUdp notTcp here owner active => rfl
  | requested recvMsg clients edited => rfl

/-- While every `recvfrom` returns at least one byte, before the pass and in it,
a pass that returns `OK` leaves the sockets served. -/
theorem sockets_stay_served {s : Server} (reached : (broker hearsDatagram).Reachable s)
    (kernels : Nat → Kernel)
    (heard : PassAllows hearsDatagram kernels (passRounds s.pollVec) 0 1 s)
    (ran : (processReadyFds kernels s).err = .ok) :
    SocketsServed s (processReadyFds kernels s).log (processReadyFds kernels s).server := by
  have run : (broker hearsDatagram).Run s (processReadyFds kernels s).log
      (processReadyFds kernels s).server := processLoop_run (Nat.le_refl 1) heard ran
  have inv : ConnectionTable (processReadyFds kernels s).server :=
    .reachable (fun _ _ _ => hearsDatagram.noEmpty) (reached.run run)
  refine ⟨inv.stdin_polled, inv.udp_polled, inv.tcp_polled, ?_, ?_⟩
  · intro c member active
    exact (inv.sockets c member active).2.1
  · apply Nat.le_of_eq
    apply run.history (I := fun log t =>
      t.udpMsgs.elems.length = s.udpMsgs.elems.length + log.countP Event.datagram)
    · rfl
    · intro log more middle last counted edge
      cases edge with
      | awake revents cmd =>
          rw [List.append_nil]
          exact counted
      | serve iter kernel first inside granted served =>
          rw [(serve_round served).udpMsgs_length granted, counted, List.countP_append,
            Nat.add_assoc]

/-- The started server with a datagram waiting. -/
def Server.notified : Server :=
  Server.started.awake (fun index => if index = 1 then pollin else 0) (Buffer.zero _)

theorem Server.notified_reachable (allowed : Server → Nat → Kernel → Prop) :
    (broker allowed).Reachable .notified := by
  have start : (broker allowed).Reachable .started := .init ⟨_, _, initServer_started⟩
  exact start.step (.awake _ _ _)

theorem sockets_stay_served_datagram :
    SocketsServed .notified (processReadyFds (fun _ => .willing) .notified).log
      (processReadyFds (fun _ => .willing) .notified).server := by
  refine sockets_stay_served (Server.notified_reachable _) _ ?_ (by decide +kernel)
  apply PassAllows.of_kernels
  intro s iter round atUdp
  exact ⟨_, _, rfl, by decide⟩

/-- An empty datagram closes the UDP socket, and the pass returns `OK`. -/
theorem sockets_not_always_served :
    ¬ ∀ (s : Server) (kernels : Nat → Kernel), (broker anyAnswer).Reachable s →
      (processReadyFds kernels s).err = .ok →
        SocketsServed s (processReadyFds kernels s).log (processReadyFds kernels s).server := by
  intro always
  have served := always .notified (fun _ => .hearing []) (Server.notified_reachable _)
    (by decide +kernel)
  have closed : (processReadyFds (fun _ => .hearing []) .notified).server.udpSocket ∉
      (processReadyFds (fun _ => .hearing []) .notified).server.pollVec.fds := by
    decide +kernel
  exact closed served.udp

end TopicBroker
