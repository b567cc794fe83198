import TopicBroker.Proof.ClientTable
import TopicBroker.Proof.IdBlock

/-!
# The connection table

The poll vector and the client table are two records of the same connections,
kept by different functions. They agree after every round in which the UDP
socket stays polled and a new id fits its block.
-/

namespace TopicBroker

structure ConnectionTable (s : Server) : Prop extends ClientTable s.clients where
  sockets : ∀ c ∈ s.clients.elems, c.status = .active →
    c.fd ≠ stdinFileno ∧ c.fd ≠ s.udpSocket ∧ c.fd ≠ s.tcpSocket
  polled : ∃ conns : List Int,
    s.pollVec.fds = [stdinFileno, s.udpSocket, s.tcpSocket] ++ conns ∧ conns.Nodup ∧
      ∀ fd, fd ∈ conns ↔ ∃ c ∈ s.clients.elems, c.status = .active ∧ c.fd = fd

/-- `recvfrom` returns 0, which an empty datagram makes it do. -/
def Kernel.HearsEmpty (kernel : Kernel) : Prop := ∃ addr, kernel.recvfrom = some (addr, [])

theorem Kernel.hearsEmpty_of_take {kernel : Kernel} {addr : Buffer sizeofSockaddrIn}
    {payload : Bytes} (answer : kernel.recvfrom = some (addr, payload))
    (empty : payload.take maxServerBuflen = []) : kernel.HearsEmpty := by
  rcases List.take_eq_nil_iff.mp empty with impossible | rfl
  · cases impossible
  · exact ⟨addr, answer⟩

/-- The invariant sees the polled descriptors, the two sockets and the contacts. -/
theorem ConnectionTable.congr {s t : Server} (inv : ConnectionTable s)
    (sameUdp : t.udpSocket = s.udpSocket) (sameTcp : t.tcpSocket = s.tcpSocket)
    (samePoll : t.pollVec.fds = s.pollVec.fds)
    (same : t.clients.elems.map ClientType.contact = s.clients.elems.map ClientType.contact) :
    ConnectionTable t where
  toClientTable := inv.toClientTable.congr same
  sockets := by
    intro d member
    obtain ⟨c, old, status, fd⟩ := mem_of_contacts same member
    rw [← status, ← fd, sameUdp, sameTcp]
    exact inv.sockets c old
  polled := by
    obtain ⟨conns, fds, nodup, exact_conns⟩ := inv.polled
    refine ⟨conns, by rw [samePoll, sameUdp, sameTcp, fds], nodup, ?_⟩
    intro fd
    rw [exact_conns]
    constructor
    · rintro ⟨c, old, active, owner⟩
      obtain ⟨d, new, status, same_fd⟩ := mem_of_contacts same.symm old
      exact ⟨d, new, status.trans active, same_fd.trans owner⟩
    · rintro ⟨d, new, active, owner⟩
      obtain ⟨c, old, status, same_fd⟩ := mem_of_contacts same new
      exact ⟨c, old, status.trans active, same_fd.trans owner⟩

/-- A publication changes no contact. -/
theorem ClientType.contacts_notified (source : Ref) (name : Bytes) (clients : List ClientType) :
    (clients.map (ClientType.notified source name)).map ClientType.contact =
      clients.map ClientType.contact := by
  have contact : ClientType.contact ∘ ClientType.notified source name = ClientType.contact := by
    funext c
    change (ClientType.notified _ _ c).contact = c.contact
    unfold ClientType.notified
    split <;> rfl
  rw [List.map_map, contact]

namespace ConnectionTable

variable {s : Server}

theorem stdin_polled (inv : ConnectionTable s) : stdinFileno ∈ s.pollVec.fds := by
  obtain ⟨conns, fds, _⟩ := inv.polled
  simp [fds]

theorem udp_polled (inv : ConnectionTable s) : s.udpSocket ∈ s.pollVec.fds := by
  obtain ⟨conns, fds, _⟩ := inv.polled
  simp [fds]

theorem tcp_polled (inv : ConnectionTable s) : s.tcpSocket ∈ s.pollVec.fds := by
  obtain ⟨conns, fds, _⟩ := inv.polled
  simp [fds]

theorem conn_polled (inv : ConnectionTable s) {c : ClientType} (member : c ∈ s.clients.elems)
    (active : c.status = .active) : c.fd ∈ s.pollVec.fds := by
  obtain ⟨conns, fds, _, exact_conns⟩ := inv.polled
  rw [fds]
  exact List.mem_append_right _ ((exact_conns c.fd).mpr ⟨c, member, active, rfl⟩)

/-- Any other descriptor that is polled belongs to a connected client. -/
theorem connected (inv : ConnectionTable s) {fd : Int} (polled : fd ∈ s.pollVec.fds)
    (notStdin : fd ≠ stdinFileno) (notUdp : fd ≠ s.udpSocket) (notTcp : fd ≠ s.tcpSocket) :
    ∃ c ∈ s.clients.elems, c.status = .active ∧ c.fd = fd := by
  obtain ⟨conns, fds, _, exact_conns⟩ := inv.polled
  rw [fds] at polled
  simp only [List.cons_append, List.nil_append, List.mem_cons, notStdin, notUdp, notTcp,
    false_or] at polled
  exact (exact_conns fd).mp polled

/-- The sockets of the server stand in front of every connection. -/
theorem conn_index (inv : ConnectionTable s) {iter : Nat} {fd : Int}
    (here : s.pollVec.fds[iter]? = some fd) (notStdin : fd ≠ stdinFileno)
    (notUdp : fd ≠ s.udpSocket) (notTcp : fd ≠ s.tcpSocket) : 3 ≤ iter := by
  obtain ⟨conns, fds, _⟩ := inv.polled
  rw [fds] at here
  match iter, here with
  | 0, first => exact absurd (Option.some.inj first).symm notStdin
  | 1, second => exact absurd (Option.some.inj second).symm notUdp
  | 2, third => exact absurd (Option.some.inj third).symm notTcp
  | place + 3, _ => exact Nat.le_add_left 3 place

theorem listener_index (inv : ConnectionTable s) {iter : Nat}
    (here : s.pollVec.fds[iter]? = some s.tcpSocket) : iter < 3 := by
  obtain ⟨conns, fds, _, exact_conns⟩ := inv.polled
  rw [fds] at here
  match iter, here with
  | 0, _ => decide
  | 1, _ => decide
  | 2, _ => decide
  | place + 3, later =>
      have listed : s.tcpSocket ∈ conns := List.mem_of_getElem? later
      obtain ⟨c, member, active, owns⟩ := (exact_conns _).mp listed
      exact absurd owns (inv.sockets c member active).2.2

theorem unopened_apart (inv : ConnectionTable s) {fd : Int} (unopened : fd ∉ s.pollVec.fds) :
    fd ≠ stdinFileno ∧ fd ≠ s.udpSocket ∧ fd ≠ s.tcpSocket := by
  refine ⟨?_, ?_, ?_⟩
  · rintro rfl
    exact unopened inv.stdin_polled
  · rintro rfl
    exact unopened inv.udp_polled
  · rintro rfl
    exact unopened inv.tcp_polled

/-! ## The rounds that change a connection -/

theorem registered (inv : ConnectionTable s) {fd : Int} (positive : 0 < fd)
    (unopened : fd ∉ s.pollVec.fds) (entry : PollFd) (polled : entry.fd = fd) {id : Bytes}
    {clients : ClientVec} (enrolled : Registered s.clients id fd clients) :
    ConnectionTable { s with pollVec := s.pollVec.push entry, clients := clients } where
  toClientTable := by
    refine inv.toClientTable.registered positive ?_ enrolled
    rintro c member active rfl
    exact unopened (inv.conn_polled member active)
  sockets := by
    intro d member active
    rcases enrolled.origin d member with old | ⟨_, owns, _⟩
    · exact inv.sockets d old active
    · rw [owns]
      exact inv.unopened_apart unopened
  polled := by
    obtain ⟨conns, fds, nodup, exact_conns⟩ := inv.polled
    have fresh : fd ∉ conns := fun member => unopened (by rw [fds]; simp [member])
    refine ⟨conns ++ [fd], ?_, ?_, ?_⟩
    · change PollVec.fds (s.pollVec.push entry) = _
      rw [PollVec.fds_push, fds, polled, List.append_assoc]
    · refine List.nodup_append.mpr ⟨nodup, List.nodup_singleton fd, ?_⟩
      rintro old member new single rfl
      rw [List.mem_singleton] at single
      exact fresh (single ▸ member)
    · intro wanted
      rw [List.mem_append, List.mem_singleton, exact_conns]
      constructor
      · rintro (⟨d, member, active, owns⟩ | rfl)
        · exact ⟨d, enrolled.kept d member active, active, owns⟩
        · exact enrolled.owner
      · rintro ⟨d, member, active, owns⟩
        rcases enrolled.origin d member with old | ⟨_, new, _⟩
        · exact Or.inl ⟨d, old, active, owns⟩
        · exact Or.inr (owns.symm.trans new)

theorem disconnected (inv : ConnectionTable s) {iter index : Nat} {c : ClientType}
    (atFd : s.pollVec.fds[iter]? = some c.fd) (here : s.clients.elems[index]? = some c)
    (active : c.status = .active) :
    ConnectionTable
      { s with
        pollVec := s.pollVec.remove iter
        clients := s.clients.set index { c with status := .dead, fd := -1 } } := by
  obtain ⟨notStdin, notUdp, notTcp⟩ := inv.sockets c (List.mem_of_getElem? here) active
  obtain ⟨conns, fds, nodup, exact_conns⟩ := inv.polled
  obtain ⟨place, rfl, atConn⟩ : ∃ place, iter = place + 3 ∧ conns[place]? = some c.fd := by
    rw [fds] at atFd
    match iter, atFd with
    | 0, first => exact absurd (Option.some.inj first).symm notStdin
    | 1, second => exact absurd (Option.some.inj second).symm notUdp
    | 2, third => exact absurd (Option.some.inj third).symm notTcp
    | place + 3, later => exact ⟨place, rfl, later⟩
  obtain ⟨within, atPlace⟩ := List.getElem?_eq_some_iff.mp atConn
  have inside : place + 3 < s.pollVec.nfds := by
    have length := congrArg List.length fds
    simp only [PollVec.fds, List.length_map, List.length_append, List.length_cons,
      List.length_nil] at length
    rw [PollVec.nfds]
    omega
  have erased : conns.eraseIdx place = conns.erase c.fd := by
    rw [← atPlace, nodup.erase_getElem]
  refine ⟨inv.toClientTable.closed here, ?_, conns.erase c.fd, ?_, nodup.erase _, ?_⟩
  · intro d new alive
    rcases mem_set_cases new with rfl | old
    · cases alive
    · exact inv.sockets d old alive
  · change PollVec.fds (s.pollVec.remove (place + 3)) = _
    rw [PollVec.fds_remove _ inside, fds, ← erased]
    rfl
  · intro fd
    rw [nodup.mem_erase_iff, exact_conns]
    constructor
    · rintro ⟨different, d, old, alive, rfl⟩
      refine ⟨d, mem_set_of_apart here old ?_, alive, rfl⟩
      rintro rfl
      exact different rfl
    · rintro ⟨d, new, alive, rfl⟩
      obtain ⟨other, there⟩ := List.mem_iff_getElem?.mp new
      rw [Vec.set_elems] at there
      by_cases same : index = other
      · subst same
        obtain ⟨indexInside, _⟩ := List.getElem?_eq_some_iff.mp here
        rw [List.getElem?_set_self indexInside] at there
        rw [← Option.some.inj there] at alive
        cases alive
      · rw [List.getElem?_set_ne same] at there
        refine ⟨?_, d, List.mem_of_getElem? there, alive, rfl⟩
        intro owns
        exact same (inv.index_of_fd here there active alive owns).symm

/-! ## Every round -/

theorem published (inv : ConnectionTable s) {kernel : Kernel} {heard : List Event} {r : Server}
    (received : Heard kernel s heard r) {clients : ClientVec}
    (notified : clients.elems =
      r.clients.elems.map (ClientType.notified (r.nextRef kernel) r.parsed.name)) :
    ConnectionTable { r.stored kernel with clients := clients } := by
  have same : clients.elems.map ClientType.contact = r.clients.elems.map ClientType.contact := by
    rw [notified, ClientType.contacts_notified]
  cases received with
  | failed answer => exact inv.congr rfl rfl rfl same
  | datagram addr payload answer nonempty => exact inv.congr rfl rfl rfl same

theorem edited (inv : ConnectionTable s) (recvMsg : TcpMsg) {clients : ClientVec}
    (edit : Edited s.clients clients) :
    ConnectionTable { s with recvMsg := recvMsg, clients := clients } := by
  cases edit with
  | same => exact inv.congr rfl rfl rfl rfl
  | table index c table here nodup => exact inv.congr rfl rfl rfl (map_set_of_eq here rfl)

theorem round (inv : ConnectionTable s) {kernel : Kernel} {iter : Nat} {log : List Event}
    {t : Server} (heard : s.pollVec.fds[iter]? = some s.udpSocket → ¬ kernel.HearsEmpty)
    (ran : Round kernel iter s log t) : ConnectionTable t := by
  cases ran with
  | idle recvMsg => exact inv.congr rfl rfl rfl rfl
  | emptied addr payload atUdp answer empty =>
      exact absurd (Kernel.hearsEmpty_of_take answer empty) (heard atUdp)
  | published heard r clients atUdp received room known notified =>
      exact inv.published received notified
  | rejected recvMsg pollVec clients samePoll sameClients =>
      exact inv.congr rfl rfl samePoll (congrArg _ sameClients)
  | registered id fd recvMsg sendMsg clients index c kept left log positive unopened enrolled
      found shorter complete resent =>
      have joined := inv.registered positive unopened ⟨fd, pollin ||| pollout, 0⟩ rfl enrolled
      exact joined.congr rfl rfl rfl (map_set_of_eq (locate_eq_some found).1 rfl)
  | disconnected fd recvMsg index c atFd notUdp notTcp here owner active =>
      subst owner
      exact (inv.disconnected atFd here active).congr rfl rfl rfl rfl
  | requested recvMsg clients edit => exact inv.edited recvMsg edit

end ConnectionTable

/-- Right after `init_server` nobody is registered and nothing stored. -/
structure Fresh (s : Server) : Prop where
  fds : s.pollVec.fds = [stdinFileno, s.udpSocket, s.tcpSocket]
  clients : s.clients.elems = []
  udpMsgs : s.udpMsgs.elems = []
  buf : s.buf = Buffer.zero maxServerBuflen

theorem initServerPollVec_fds {kernel : InitKernel} {pollVec : PollVec}
    (made : initServerPollVec kernel = some pollVec) :
    pollVec.fds = [stdinFileno, kernel.udpSocket, kernel.tcpSocket] := by
  unfold initServerPollVec at made
  dsimp only at made
  split at made
  · cases made
  · split at made
    · rename_i withStdin first
      split at made
      · rename_i withUdp second
        split at made
        · rename_i withTcp third
          rw [← Option.some.inj made, pollVecAddFd_ok third, pollVecAddFd_ok second,
            pollVecAddFd_ok first]
          rfl
        · cases made
      · cases made
    · cases made

theorem initServer_fresh {kernel : InitKernel} {hport : UInt16} {s : Server}
    (started : initServer kernel hport = .ok s) : Fresh s := by
  unfold initServer at started
  split at started
  · cases started
  · split at started
    · cases started
    · split at started
      · cases started
      · split at started
        · cases started
        · split at started
          · cases started
          · split at started
            · cases started
            · rename_i pollVec made
              split at started
              · cases started
              · cases started
                exact ⟨initServerPollVec_fds made, rfl, rfl, rfl⟩

theorem Fresh.connectionTable {s : Server} (fresh : Fresh s) : ConnectionTable s where
  toClientTable := .of_nil fresh.clients
  sockets := by simp [fresh.clients]
  polled := ⟨[], by simp [fresh.fds], List.nodup_nil, by simp [fresh.clients]⟩

theorem ConnectionTable.awake {s : Server} (inv : ConnectionTable s) (revents : Nat → BitVec 16)
    (cmd : Buffer maxCmdLen) : ConnectionTable (s.awake revents cmd) :=
  inv.congr rfl rfl (PollVec.fds_polled _ _) rfl

/-- No empty datagram is received at the UDP socket. -/
def noEmptyDatagram (s : Server) (iter : Nat) (kernel : Kernel) : Prop :=
  s.pollVec.fds[iter]? = some s.udpSocket → ¬ kernel.HearsEmpty

/-- The invariant over runs. -/
theorem ConnectionTable.reachable {allowed : Server → Nat → Kernel → Prop}
    (heard : ∀ s iter kernel, allowed s iter kernel → noEmptyDatagram s iter kernel)
    {s : Server} (reached : (broker allowed).Reachable s) : ConnectionTable s := by
  refine reached.invariant ?_ ?_
  · rintro s ⟨kernel, hport, started⟩
    exact (initServer_fresh started).connectionTable
  · intro s log t inv edge
    cases edge with
    | awake revents cmd => exact inv.awake revents cmd
    | serve iter kernel first inside granted ran =>
        exact inv.round (heard _ _ _ granted) (serve_round ran)

/-! ## Rejection -/

/-- The listener is served, a connection and a frame arrive, and
`register_new_client` refuses the id. -/
structure Refusal (kernel : Kernel) (iter : Nat) (s : Server) : Prop where
  listener : s.pollVec.fds[iter]? = some s.tcpSocket
  notUdp : s.tcpSocket ≠ s.udpSocket
  accepted : 0 < kernel.accept s.pollVec.fds
  added : (pollVecAddFd s.pollVec (kernel.accept s.pollVec.fds) (pollin ||| pollout)
    kernel.pfds).1 = .ok
  received : (kernel.recvTcpMsg (kernel.accept s.pollVec.fds) s.recvMsg).1 = .ok
  refused : ∃ done, IdBlock.registerNewClient s.clients (kernel.newcomer s)
    (kernel.accept s.pollVec.fds) kernel.register = some done ∧ done.1 ≠ .ok

/-- The list of descriptors and the entries of the table are as before. -/
structure Untouched (s t : Server) : Prop where
  fds : t.pollVec.fds = s.pollVec.fds
  clients : t.clients.elems = s.clients.elems

/-- The descriptor is taken out again and no entry of the table has changed. -/
theorem Refusal.untouched {kernel : Kernel} {iter : Nat} {s : Server}
    (refusal : Refusal kernel iter s) :
    (serve kernel iter s).err = .ok ∧ Untouched s (serve kernel iter s).server := by
  obtain ⟨listener, notUdp, accepted, added, received, done, ran, failed⟩ := refusal
  have registered := IdBlock.registerNewClient_some (kernel.newcomer_nulFree s) ran
  have refused : (registerNewClient s.clients (kernel.newcomer s)
      (kernel.accept s.pollVec.fds) kernel.register).1 ≠ .ok := by rwa [registered]
  have same := registerNewClient_refused refused
  have last : PollVec.nfds (s.pollVec.push ⟨kernel.accept s.pollVec.fds, pollin ||| pollout, 0⟩) -
      1 < PollVec.nfds (s.pollVec.push ⟨kernel.accept s.pollVec.fds, pollin ||| pollout, 0⟩) := by
    simp [PollVec.nfds]
  have pushed := pollVecAddFd_push added
  rw [Kernel.newcomer] at refused
  rw [serve_listener listener notUdp]
  unfold serveListener
  dsimp only
  rw [if_neg (by omega), if_neg (not_not.mpr added), if_neg (not_not.mpr received), if_pos refused,
    pushed, pollVecRemoveFd_inside last]
  exact ⟨rfl, PollVec.fds_push_remove _ _, same⟩

/-! ## What a round keeps -/

/-- The round stays inside the blocks. Unless it returns an error the records
agree after it, and a rejected registration leaves both as they were. -/
def TableKept (kernel : Kernel) (iter : Nat) (s : Server) : Prop :=
  ∃ done, IdBlock.serve kernel iter s = some done ∧
    (done.err = .ok → ConnectionTable done.server) ∧
    (Refusal kernel iter s → done.err = .ok ∧ Untouched s done.server)

theorem ConnectionTable.kept {kernel : Kernel} {iter : Nat} {s : Server} (inv : ConnectionTable s)
    (heard : noEmptyDatagram s iter kernel) (fits : newcomerFits s iter kernel) :
    TableKept kernel iter s := by
  refine ⟨_, IdBlock.serve_fits fits, ?_, ?_⟩
  · intro ran
    exact inv.round heard (serve_round ran)
  · intro refusal
    exact refusal.untouched

theorem TableKept.fits {kernel : Kernel} {iter : Nat} {s : Server}
    (kept : TableKept kernel iter s) : newcomerFits s iter kernel := by
  obtain ⟨done, ran, _⟩ := kept
  exact IdBlock.serve_isSome_iff.mp (Option.isSome_of_eq_some ran)

/-- The poll vector and the client table agree from the start on. A round keeps
them so, and a rejected registration leaves both as they were, exactly when an
id that is registered for the first time fits its block; in a run that stays
inside the blocks they agree in every state. -/
theorem connectionTable_kept (s : Server) :
    (∀ kernel hport, initServer kernel hport = .ok s → ConnectionTable s) ∧
      (ConnectionTable s → ∀ kernel iter, noEmptyDatagram s iter kernel →
        (TableKept kernel iter s ↔ newcomerFits s iter kernel)) ∧
      ((IdBlock.broker noEmptyDatagram).Reachable s → ConnectionTable s) := by
  refine ⟨?_, ?_, ?_⟩
  · intro kernel hport started
    exact (initServer_fresh started).connectionTable
  · intro inv kernel iter heard
    exact ⟨TableKept.fits, inv.kept heard⟩
  · intro reached
    exact .reachable (fun _ _ _ heard => heard) (IdBlock.reachable_unbounded reached)

theorem noEmptyDatagram_accepting (s : Server) (iter : Nat) (fd : Int) (msg : TcpMsg) :
    noEmptyDatagram s iter (.accepting fd msg) := by
  rintro _ ⟨addr, impossible⟩
  cases impossible

/-- The first client of a server that has just started has an id of ten letters. -/
theorem connectionTable_not_kept :
    ConnectionTable .started ∧
      noEmptyDatagram .started 2 (.accepting 5 (.holding (ascii "ABCDEFGHIJ"))) ∧
      ¬ TableKept (.accepting 5 (.holding (ascii "ABCDEFGHIJ"))) 2 .started := by
  refine ⟨(initServer_fresh initServer_started).connectionTable,
    noEmptyDatagram_accepting _ _ _ _, ?_⟩
  intro kept
  have enrols : Enrols (.accepting 5 (.holding (ascii "ABCDEFGHIJ"))) .started :=
    ⟨by decide +kernel, by decide +kernel, by decide +kernel,
      ⟨by decide +kernel, fun _ => rfl, rfl, rfl, rfl, rfl⟩⟩
  have short := kept.fits (by decide +kernel) (by decide +kernel) enrols
  exact absurd short (by decide +kernel)

/-- The server after one client registered. -/
def Server.joined : Server :=
  (serve (.accepting 5 (.holding (ascii "C1"))) 2 .started).server

/-- `C1` is registered, and a second connection with the same id is turned away. -/
theorem connectionTable_kept_joined :
    TableKept (.accepting 5 (.holding (ascii "C1"))) 2 .started ∧ ConnectionTable .joined ∧
      TableKept (.accepting 6 (.holding (ascii "C1"))) 2 .joined ∧
      Refusal (.accepting 6 (.holding (ascii "C1"))) 2 .joined := by
  obtain ⟨starts, kept, _⟩ := connectionTable_kept .started
  obtain ⟨_, again, runs⟩ := connectionTable_kept .joined
  have fits : newcomerFits .started 2 (.accepting 5 (.holding (ascii "C1"))) :=
    fun _ _ _ => by decide +kernel
  have short : NewEntry Server.joined.clients
      ((Kernel.accepting 6 (.holding (ascii "C1"))).newcomer .joined) .succeed →
      ((Kernel.accepting 6 (.holding (ascii "C1"))).newcomer .joined).length < maxIdClientLen :=
    fun _ => by decide +kernel
  have reached : (IdBlock.broker noEmptyDatagram).Reachable .joined :=
    System.Reachable.step (.init ⟨_, _, initServer_started⟩)
      (.serve Server.started 2 (.accepting 5 (.holding (ascii "C1"))) _ (by decide) (by decide)
        (noEmptyDatagram_accepting _ _ _ _) (IdBlock.serve_fits fits) (by decide +kernel))
  have first := (kept (starts _ _ initServer_started) _ _
    (noEmptyDatagram_accepting _ _ _ _)).mpr fits
  refine ⟨first, runs reached, ?_, ?_⟩
  · refine (again (runs reached) _ _ (noEmptyDatagram_accepting _ _ _ _)).mpr ?_
    exact fun _ _ enrols => short enrols.entry
  · exact ⟨by decide +kernel, by decide +kernel, by decide +kernel, by decide +kernel,
      by decide +kernel, _, IdBlock.registerNewClient_fits (Kernel.newcomer_nulFree _ _) _ short,
      by decide +kernel⟩

end TopicBroker
