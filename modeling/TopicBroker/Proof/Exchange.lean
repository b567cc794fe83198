import TopicBroker.Lib.Succession
import TopicBroker.Proof.Attendance

/-!
# What a server and its subscribers agree on

Bytes under way in one direction are requests that the server has not read, in
the other they are frames that the subscriber has not printed. The server serves
a connection exactly for a client that is connected, and of the connections
under one id only the last.
-/

namespace TopicBroker

/-! ## One connection -/

namespace Peer

/-- The requests that the server has read. -/
def heeded (peer : Peer) : List Bytes := (requests peer.asked).take peer.heard

/-- The requests that are under way. -/
def pending (peer : Peer) : List Bytes := (requests peer.asked).drop peer.heard

def Serving (peer : Peer) : Prop := ∃ fd, peer.link = .serving fd

end Peer

/-- The bytes on the way to the server are frames that open the conversation and
a frame for each of the lines. -/
structure Caller.Speaks (caller : Caller) (front : List TcpMsg) (lines : List Bytes) : Prop where
  valid : 0 ≤ caller.main.this.tcpSocket
  wire : ∃ frames, caller.up = joined ((front ++ frames).map TcpMsg.toBuffer) ∧
    List.Forall₂ TcpMsg.Brings frames lines

/-- The subscriber has printed the first of the frames that it was handed, the
others are on the way to it. -/
def Caller.Prints (caller : Caller) (handed : List TcpMsg) : Prop :=
  ∃ seen coming, handed = seen ++ coming ∧ caller.main.shown = seen.flatMap TcpMsg.text ∧
    caller.down = joined (coming.map TcpMsg.toBuffer)

section Caller

variable {caller : Caller} {front handed : List TcpMsg} {lines : List Bytes}

theorem Caller.Speaks.round (speaks : caller.Speaks front lines) (taken got : Nat → Nat)
    (past : Bytes) (call : PollCall) :
    (caller.round taken got past call).Speaks front
      (lines ++ requests (caller.main.request call)) := by
  obtain ⟨valid, frames, wire, brings⟩ := speaks
  obtain ⟨⟨more, sent, also⟩, socket⟩ := SubscriberMain.round_spoke valid past call
    (Outlet.sliced taken) (Inlet.sliced got).get
  refine ⟨?_, frames ++ more, ?_, List.rel_append brings also⟩
  · exact (show 0 ≤ (caller.main.round _ _ past call).this.tcpSocket from socket ▸ valid)
  · calc
      (caller.round taken got past call).up
        = caller.up ++ joined (more.map TcpMsg.toBuffer) := sent
      _ = joined ((front ++ (frames ++ more)).map TcpMsg.toBuffer) := by
        rw [wire, ← joined_append, ← List.map_append, List.append_assoc]

theorem Caller.Speaks.given (speaks : caller.Speaks front lines) (frames : List TcpMsg) :
    (caller.given frames).Speaks front lines := ⟨speaks.valid, speaks.wire⟩

/-- Behind the frame that the server reads the others are still on the way. -/
theorem Caller.Speaks.read {frame : TcpMsg} (speaks : caller.Speaks (frame :: front) lines) :
    (∃ rest, caller.up = frame.toBuffer.bytes ++ rest) ∧ caller.read.Speaks front lines := by
  obtain ⟨valid, frames, wire, brings⟩ := speaks
  rw [List.cons_append, List.map_cons, joined_cons] at wire
  refine ⟨⟨_, wire⟩, valid, frames, ?_, brings⟩
  change caller.up.drop sizeofTcpMsg = _
  rw [wire]
  exact List.drop_left' frame.toBuffer.length_eq

/-- A frame at the front of the requests brings the first of them. -/
theorem Caller.Speaks.first {line : Bytes} (speaks : caller.Speaks [] (line :: lines)) :
    ∃ frame : TcpMsg, frame.Brings line ∧ caller.Speaks [frame] lines := by
  obtain ⟨valid, frames, wire, brings⟩ := speaks
  cases brings with
  | @cons frame _ frames _ first others => exact ⟨frame, first, valid, frames, wire, others⟩

theorem Caller.Speaks.silent (speaks : caller.Speaks [] []) : caller.up = [] := by
  obtain ⟨_, frames, wire, brings⟩ := speaks
  cases brings
  exact wire

/-- There is a frame to be read exactly when there is a request. -/
theorem Caller.Speaks.whole_iff (speaks : caller.Speaks [] lines) :
    sizeofTcpMsg ≤ caller.up.length ↔ lines ≠ [] := by
  cases lines with
  | nil =>
      rw [speaks.silent]
      exact ⟨fun impossible => absurd impossible (by decide),
        fun impossible => absurd rfl impossible⟩
  | cons line lines =>
      obtain ⟨frame, _, speaks⟩ := speaks.first
      obtain ⟨⟨rest, wire⟩, _⟩ := speaks.read
      rw [wire, List.length_append, frame.toBuffer.length_eq]
      exact ⟨fun _ => List.cons_ne_nil _ _, fun _ => Nat.le_add_right _ _⟩

theorem Caller.Prints.round (prints : caller.Prints handed)
    (valid : 0 ≤ caller.main.this.tcpSocket) (ended : ∀ frame ∈ handed, 0 ∈ frame.data.bytes)
    (taken got : Nat → Nat) (past : Bytes) (call : PollCall) :
    (caller.round taken got past call).Prints handed := by
  obtain ⟨seen, coming, parts, shown, wire⟩ := prints
  have clean : ∀ frame ∈ coming, 0 ∈ frame.data.bytes := fun frame member =>
    ended frame (parts ▸ List.mem_append_right seen member)
  obtain ⟨text, printed, now, later, split, same, left⟩ := SubscriberMain.round_printed valid past
    call (Outlet.sliced taken).put (Inlet.sliced got) clean wire
  refine ⟨seen ++ now, later, ?_, ?_, left⟩
  · rw [parts, split, List.append_assoc]
  · rw [List.flatMap_append, ← shown, ← same]
    exact printed

theorem Caller.Prints.read (prints : caller.Prints handed) : caller.read.Prints handed := prints

theorem Caller.Prints.given (prints : caller.Prints handed) (frames : List TcpMsg) :
    (caller.given frames).Prints (handed ++ frames) := by
  obtain ⟨seen, coming, parts, shown, wire⟩ := prints
  refine ⟨seen, coming ++ frames, ?_, shown, ?_⟩
  · rw [parts, List.append_assoc]
  · calc
      (caller.given frames).down
        = caller.down ++ joined (frames.map TcpMsg.toBuffer) := rfl
      _ = joined ((coming ++ frames).map TcpMsg.toBuffer) := by
        rw [wire, ← joined_append, ← List.map_append]

end Caller

/-! ## What a round of the server does to a subscriber -/

/-- The request that the server reads in a round that serves `served`. -/
def Peer.hearing (served : Option Int) (peer : Peer) : List Bytes :=
  match peer.link with
  | .serving fd => if served = some fd then peer.pending.take 1 else []
  | _ => []

/-- The frames that go out to the subscriber in a round. -/
def Peer.getting (log : List Event) (peer : Peer) : List TcpMsg :=
  match peer.link with
  | .serving fd => framesTo fd log
  | _ => []

/-- What is known of one accepted connection. -/
structure Peer.Sound (peer : Peer) : Prop where
  speaks : peer.Speaks [] peer.pending
  within : peer.heard ≤ (requests peer.asked).length
  closed : peer.link = .served → peer.main.left = true ∧ peer.pending = []

section Peer

variable {peer : Peer} {fds : List Int} {served : Option Int} {log : List Event}

theorem Peer.after_still (still : ¬ peer.Serving) : peer.after fds served log = peer := by
  unfold Peer.after
  split
  · rename_i fd link
    exact absurd ⟨fd, link⟩ still
  · rfl

theorem Peer.after_serving {fd : Int} (link : peer.link = .serving fd) :
    peer.after fds served log =
      (if served = some fd then peer.attended else peer).handing fds fd log := by
  unfold Peer.after
  rw [link]

theorem Peer.after_id : (peer.after fds served log).id = peer.id := by
  unfold Peer.after
  split
  · split <;> rfl
  · rfl

theorem Peer.after_link {fd : Int} (link : peer.link = .serving fd) :
    (peer.after fds served log).link = if fd ∈ fds then .serving fd else .served := by
  rw [Peer.after_serving link]
  rfl

theorem Peer.after_admitted : (peer.after fds served log).admitted = peer.admitted := by
  by_cases serving : peer.Serving
  · obtain ⟨fd, link⟩ := serving
    unfold Peer.admitted
    rw [Peer.after_link link, link]
    split <;> rfl
  · rw [Peer.after_still serving]

theorem Peer.after_prints (prints : peer.Prints peer.handed) :
    (peer.after fds served log).Prints (peer.after fds served log).handed := by
  unfold Peer.after
  split
  · split
    · exact prints.read.given _
    · exact prints.given _
  · exact prints

theorem Peer.hearing_still (still : ¬ peer.Serving) : peer.hearing served = [] := by
  unfold Peer.hearing
  split
  · rename_i fd link
    exact absurd ⟨fd, link⟩ still
  · rfl

theorem Peer.getting_still (still : ¬ peer.Serving) : peer.getting log = [] := by
  unfold Peer.getting
  split
  · rename_i fd link
    exact absurd ⟨fd, link⟩ still
  · rfl

theorem Peer.after_handed :
    (peer.after fds served log).handed = peer.handed ++ peer.getting log := by
  by_cases serving : peer.Serving
  · obtain ⟨fd, link⟩ := serving
    rw [Peer.after_serving link]
    simp only [Peer.getting, link]
    split <;> rfl
  · rw [Peer.after_still serving, Peer.getting_still serving, List.append_nil]

/-- The server reads a request or nothing. -/
theorem Peer.Sound.attended (sound : peer.Sound) :
    peer.attended.Speaks [] peer.attended.pending ∧
      peer.attended.heard ≤ (requests peer.asked).length ∧
      peer.attended.heeded = peer.heeded ++ peer.pending.take 1 ∧
      (peer.pending = [] → peer.attended.pending = []) := by
  obtain ⟨speaks, within, _⟩ := sound
  have whole := speaks.whole_iff
  cases waiting : peer.pending with
  | nil =>
      have heard : peer.attended.heard = peer.heard := if_neg fun frame => whole.mp frame waiting
      have pending : peer.attended.pending = [] := by
        rw [← waiting]
        exact congrArg (requests peer.asked).drop heard
      rw [waiting] at speaks
      have nothing : peer.attended.up = [] := by
        change peer.up.drop sizeofTcpMsg = []
        rw [speaks.silent]
        rfl
      refine ⟨?_, heard ▸ within, ?_, fun _ => pending⟩
      · rw [pending]
        exact ⟨speaks.valid, [], nothing, .nil⟩
      · rw [List.take_nil, List.append_nil]
        exact congrArg (requests peer.asked).take heard
  | cons line lines =>
      have heard : peer.attended.heard = peer.heard + 1 :=
        if_pos (whole.mpr (waiting ▸ List.cons_ne_nil _ _))
      have inside : peer.heard < (requests peer.asked).length := by
        by_contra beyond
        have empty : peer.pending = [] := List.drop_eq_nil_of_le (Nat.le_of_not_lt beyond)
        rw [waiting] at empty
        cases empty
      have behind : peer.attended.pending = lines := by
        calc
          peer.attended.pending = (requests peer.asked).drop (peer.heard + 1) :=
            congrArg (requests peer.asked).drop heard
          _ = peer.pending.tail := by rw [Peer.pending, List.tail_drop]
          _ = lines := by rw [waiting, List.tail_cons]
      rw [waiting] at speaks
      obtain ⟨frame, _, first⟩ := speaks.first
      refine ⟨behind ▸ first.read.2, heard ▸ inside, ?_, fun impossible => nomatch impossible⟩
      calc
        peer.attended.heeded = (requests peer.asked).take (peer.heard + 1) :=
          congrArg (requests peer.asked).take heard
        _ = peer.heeded ++ peer.pending.take 1 := List.take_add
        _ = peer.heeded ++ [line] := by rw [waiting, List.take_succ_cons, List.take_zero]
        _ = _ := rfl

theorem Peer.Sound.heeded (sound : peer.Sound) :
    (peer.after fds served log).heeded = peer.heeded ++ peer.hearing served := by
  by_cases serving : peer.Serving
  · obtain ⟨fd, link⟩ := serving
    rw [Peer.after_serving link]
    simp only [Peer.hearing, link]
    split
    · exact sound.attended.2.2.1
    · exact (List.append_nil _).symm
  · rw [Peer.after_still serving, Peer.hearing_still serving, List.append_nil]

/-- The connection is only closed when the subscriber has left and the server
has read all its requests. -/
theorem Peer.Sound.after (sound : peer.Sound) (closes : ∀ fd, peer.link = .serving fd →
    fd ∉ fds → peer.main.left = true ∧ peer.pending = []) :
    (peer.after fds served log).Sound := by
  by_cases serving : peer.Serving
  · obtain ⟨fd, link⟩ := serving
    have ends : (peer.after fds served log).link = .served →
        peer.main.left = true ∧ peer.pending = [] := by
      intro closed
      rw [Peer.after_link link] at closed
      split at closed
      · cases closed
      · rename_i gone
        exact closes fd link gone
    rw [Peer.after_serving link] at ends ⊢
    split
    · rename_i here
      rw [if_pos here] at ends
      obtain ⟨also, inside, _, nothing⟩ := sound.attended
      exact ⟨also.given _, inside, fun closed => ⟨(ends closed).1, nothing (ends closed).2⟩⟩
    · rename_i elsewhere
      rw [if_neg elsewhere] at ends
      exact ⟨sound.speaks.given _, sound.within, ends⟩
  · rw [Peer.after_still serving]
    exact sound

end Peer

/-! ## All connections -/

/-- What is known of a connection that waits. -/
structure Caller.Waits (caller : Caller) : Prop where
  free : NulFree caller.id
  short : caller.id.length < maxIdClientLen
  speaks : caller.Speaks [idFrame caller.id] (requests caller.asked)

structure Exchange.Sound (w : Exchange) : Prop where
  table : ConnectionTable w.server
  distinct : DistinctTopics w.server.clients
  callers : ∀ caller ∈ w.backlog, caller.Waits
  peers : ∀ peer ∈ w.accepted, peer.Sound
  registered : ∀ peer ∈ w.accepted, ∀ fd, peer.link = .serving fd →
    ∃ c ∈ w.server.clients.elems, c.status = .active ∧ c.fd = fd ∧ c.id = peer.id
  connected : ∀ c ∈ w.server.clients.elems, c.status = .active →
    ∃ peer ∈ w.accepted, peer.link = .serving c.fd ∧ peer.id = c.id
  order : w.accepted.Pairwise fun first second =>
    first.id = second.id → second.admitted = true → ¬ first.Serving

/-- An id that was registered was not connected. -/
theorem Registered.free {clients after : ClientVec} {id : Bytes} {fd : Int}
    (table : ClientTable clients) (enrolled : Registered clients id fd after) {c : ClientType}
    (member : c ∈ clients.elems) (own : c.id = id) : c.status = .dead := by
  cases enrolled with
  | again iter old here same dead =>
      obtain ⟨index, there⟩ := List.mem_iff_getElem?.mp member
      have place := table.index_of_id here there (own.trans same.symm)
      rw [place, here] at there
      rw [← Option.some.inj there]
      exact dead
  | fresh absent => exact absurd own (absent c member)

theorem answer_pollVec (line : Bytes) (kernel : Kernel) (clientFd : Int) (s : Server) :
    (answer line kernel clientFd s).2.pollVec = s.pollVec := by
  unfold answer
  split
  · split
    · rfl
    · split <;> rfl
  · rfl

namespace Exchange.Sound

variable {w : Exchange} {kernel : Kernel} {iter : Nat}

theorem start {s : Server} (fresh : Fresh s) : (Exchange.start s).Sound where
  table := fresh.connectionTable
  distinct := by
    intro c member
    change c ∈ s.clients.elems at member
    rw [fresh.clients] at member
    cases member
  callers := fun _ impossible => nomatch impossible
  peers := fun _ impossible => nomatch impossible
  registered := fun _ impossible => nomatch impossible
  connected := by
    intro c member
    change c ∈ s.clients.elems at member
    rw [fresh.clients] at member
    cases member
  order := .nil

theorem polled (sound : w.Sound) {peer : Peer} (member : peer ∈ w.accepted) {fd : Int}
    (link : peer.link = .serving fd) : fd ∈ w.server.pollVec.fds ∧ fd ≠ stdinFileno ∧
      fd ≠ w.server.udpSocket ∧ fd ≠ w.server.tcpSocket := by
  obtain ⟨c, listed, active, rfl, _⟩ := sound.registered peer member fd link
  exact ⟨sound.table.conn_polled listed active, sound.table.sockets c listed active⟩

/-- The client with the descriptor of a connection is the one whose id it brought. -/
theorem owner (sound : w.Sound) {peer : Peer} (member : peer ∈ w.accepted)
    {c : ClientType} (listed : c ∈ w.server.clients.elems) (active : c.status = .active)
    (link : peer.link = .serving c.fd) : c.id = peer.id := by
  obtain ⟨d, also, alive, fd, id⟩ := sound.registered peer member c.fd link
  obtain ⟨index, here⟩ := List.mem_iff_getElem?.mp listed
  obtain ⟨other, there⟩ := List.mem_iff_getElem?.mp also
  have place := sound.table.index_of_fd here there active alive fd
  rw [place, here] at there
  rw [Option.some.inj there]
  exact id

theorem owns (sound : w.Sound) {peer : Peer} (member : peer ∈ w.accepted) {fd : Int}
    (link : peer.link = .serving fd) :
    (clientMap w.server.clients).owner fd = some peer.id := by
  obtain ⟨c, listed, active, rfl, id⟩ := sound.registered peer member fd link
  obtain ⟨index, here⟩ := List.mem_iff_getElem?.mp listed
  exact Registry.owner_eq_some (clientMap_exclusive sound.table.toClientTable)
    ((owns_iff sound.table.toClientTable).mpr ⟨index, c, here, id, active, rfl⟩)

end Exchange.Sound

/-! ## A round of the server -/

section Serve

variable {w : Exchange} {kernel : Kernel} {iter : Nat}

theorem mem_joined {peer : Peer} : peer ∈ w.joining kernel iter ↔
    w.server.listens iter ∧ ∃ caller, w.backlog.head? = some caller ∧
      peer = caller.accepted (serve kernel iter w.server).server.pollVec.fds
        (kernel.accept w.server.pollVec.fds) (serve kernel iter w.server).log := by
  unfold Exchange.joining
  dsimp only
  split
  · rename_i listens
    simp [listens, Option.mem_toList, eq_comm]
  · rename_i elsewhere
    simp [elsewhere]

theorem accepted_positive (listens : w.server.listens iter)
    (ran : (serve kernel iter w.server).err = .ok) :
    0 < kernel.accept w.server.pollVec.fds ∧
      kernel.accept w.server.pollVec.fds ∉ w.server.pollVec.fds := by
  rw [serve_listener listens.1 listens.2] at ran
  have positive := (serveListener_listened ran).positive
  exact ⟨positive, kernel.accept_fresh _ positive⟩

/-- Whoever is connected after the round with a descriptor that was polled
before was connected with it before. -/
theorem serve_connected_before (ran : (serve kernel iter w.server).err = .ok) {d : ClientType}
    (listed : d ∈ (serve kernel iter w.server).server.clients.elems) (active : d.status = .active)
    (polled : d.fd ∈ w.server.pollVec.fds) :
    ∃ c ∈ w.server.clients.elems, c.status = .active ∧ c.fd = d.fd ∧ c.id = d.id := by
  rcases serve_comes ran d listed active with before | ⟨listens, owns, _⟩
  · exact before
  · exact absurd (owns ▸ polled) (accepted_positive listens ran).2

namespace Exchange.Sound

variable (sound : w.Sound) (ran : (serve kernel iter w.server).err = .ok)

include sound ran

/-- The id that the round registers is the one that the subscriber sent. -/
theorem newcomer (listens : w.server.listens iter) (answered : w.Answered iter kernel) :
    ∃ caller, w.backlog.head? = some caller ∧ kernel.newcomer w.server = caller.id := by
  obtain ⟨caller, first, hands⟩ := answered.newcomer listens
  obtain ⟨free, short, speaks⟩ := sound.callers caller (List.mem_of_mem_head? first)
  obtain ⟨⟨rest, front⟩, _⟩ := speaks.read
  have valid := Int.le_of_lt (accepted_positive listens ran).1
  exact ⟨caller, first, hands.newcomer front free short valid⟩

/-- No connection under the id is served when another one is registered under it. -/
theorem joins_free (answered : w.Answered iter kernel) {new old : Peer}
    (joined : new ∈ w.joining kernel iter) (admitted : new.admitted = true)
    (member : old ∈ w.accepted) (same : old.id = new.id) : ¬ old.Serving := by
  rintro ⟨fd, link⟩
  obtain ⟨c, listed, active, _, id⟩ := sound.registered old member fd link
  obtain ⟨listens, caller, first, rfl⟩ := mem_joined.mp joined
  obtain ⟨head, also, brought⟩ := sound.newcomer ran listens answered
  obtain rfl : head = caller := Option.some.inj (also.symm.trans first)
  have fresh := (accepted_positive listens ran).2
  have branch : serve kernel iter w.server = ⟨serveListener kernel w.server, false⟩ :=
    serve_listener listens.1 listens.2
  unfold Peer.admitted Caller.accepted at admitted
  dsimp only at admitted
  split at admitted
  · rename_i polled
    rw [branch] at polled ran
    have listened := serveListener_listened ran
    generalize (serveListener kernel w.server).log = log,
      (serveListener kernel w.server).server = t at listened polled
    cases listened with
    | refused recvMsg pollVec clients positive samePoll sameClients refused =>
        rw [PollVec.fds, samePoll] at polled
        exact fresh polled
    | joined recvMsg clients index d positive unopened enrolled found =>
        have dead := enrolled.free sound.table.toClientTable listed
          (id.trans (same.trans brought.symm))
        rw [active] at dead
        cases dead
  · cases admitted

/-- Whoever is connected after the round is served, by an old connection or the new one. -/
theorem connected_after (answered : w.Answered iter kernel)
    (table : ConnectionTable (serve kernel iter w.server).server) {d : ClientType}
    (listed : d ∈ (serve kernel iter w.server).server.clients.elems) (active : d.status = .active) :
    (∃ peer ∈ w.accepted, peer.link = .serving d.fd ∧ peer.id = d.id) ∨
      ∃ peer ∈ w.joining kernel iter, peer.link = .serving d.fd ∧ peer.id = d.id := by
  have polled := table.conn_polled listed active
  rcases serve_comes ran d listed active with ⟨c, before, alive, fd, id⟩ | ⟨listens, owns, id⟩
  · obtain ⟨peer, member, link, same⟩ := sound.connected c before alive
    exact Or.inl ⟨peer, member, fd ▸ link, same.trans id⟩
  · obtain ⟨caller, first, brought⟩ := sound.newcomer ran listens answered
    rw [owns] at polled ⊢
    exact Or.inr ⟨_, mem_joined.mpr ⟨listens, caller, first, rfl⟩, if_pos polled,
      brought.symm.trans id.symm⟩

/-- The server closes a connection only when the subscriber has left and there
are no requests of it under way. -/
theorem closes (inside : iter < w.server.pollVec.nfds) (answered : w.Answered iter kernel)
    {peer : Peer} (member : peer ∈ w.accepted) {fd : Int} (link : peer.link = .serving fd)
    (gone : fd ∉ (serve kernel iter w.server).server.pollVec.fds) :
    peer.main.left = true ∧ peer.pending = [] := by
  obtain ⟨polled, _, notUdp, notTcp⟩ := sound.polled member link
  have here := serve_closes inside ran polled gone
  obtain ⟨hands, whole⟩ := answered.request peer member fd link here
  have speaks := (sound.peers peer member).speaks
  have nothing : peer.pending = [] := by
    cases waiting : peer.pending with
    | nil => rfl
    | cons line lines =>
        rw [waiting] at speaks
        obtain ⟨frame, brings, first⟩ := speaks.first
        obtain ⟨⟨rest, front⟩, _⟩ := first.read
        obtain ⟨c, listed, active, rfl, _⟩ := sound.registered peer member fd link
        have positive := (sound.table.active_iff c listed).mp active
        have heard := hands.recv front (Int.le_of_lt positive) w.server.recvMsg
        rw [(serve_request brings here notUdp notTcp heard).1, answer_pollVec] at gone
        exact absurd polled gone
  refine ⟨?_, nothing⟩
  rcases whole with frame | left
  · exact absurd nothing (speaks.whole_iff.mp frame)
  · exact left

theorem served (inside : iter < w.server.pollVec.nfds)
    (granted : noEmptyDatagram w.server iter kernel) (answered : w.Answered iter kernel) :
    (w.served kernel iter).Sound where
  table := sound.table.round granted (serve_round ran)
  distinct := sound.distinct.round (serve_round ran)
  callers := by
    intro caller member
    change caller ∈ (if w.server.listens iter then w.backlog.tail else w.backlog) at member
    split at member
    · exact sound.callers caller (List.mem_of_mem_tail member)
    · exact sound.callers caller member
  peers := by
    intro peer member
    rcases List.mem_append.mp member with old | new
    · obtain ⟨before, listed, rfl⟩ := List.mem_map.mp old
      exact (sound.peers before listed).after fun fd link gone =>
        sound.closes ran inside answered listed link gone
    · obtain ⟨_, caller, first, rfl⟩ := mem_joined.mp new
      obtain ⟨_, _, speaks⟩ := sound.callers caller (List.mem_of_mem_head? first)
      refine ⟨speaks.read.2.given _, Nat.zero_le _, ?_⟩
      intro closed
      unfold Caller.accepted at closed
      dsimp only at closed
      split at closed <;> cases closed
  registered := by
    intro peer member fd link
    have table := sound.table.round granted (serve_round ran)
    rcases List.mem_append.mp member with old | new
    · obtain ⟨before, listed, rfl⟩ := List.mem_map.mp old
      have serving : before.Serving := by
        by_contra still
        rw [Peer.after_still still] at link
        exact still ⟨fd, link⟩
      obtain ⟨target, was⟩ := serving
      rw [Peer.after_link was] at link
      split at link
      · rename_i polled
        obtain rfl : target = fd := by simpa using link
        obtain ⟨opened, notStdin, notUdp, notTcp⟩ := sound.polled listed was
        obtain ⟨sameUdp, sameTcp⟩ := (serve_round ran).sockets
        obtain ⟨d, there, active, owns⟩ := table.connected polled notStdin (sameUdp ▸ notUdp)
          (sameTcp ▸ notTcp)
        obtain ⟨c, here, alive, fd, id⟩ := serve_connected_before ran there active (owns ▸ opened)
        refine ⟨d, there, active, owns, ?_⟩
        rw [Peer.after_id, ← id]
        exact sound.owner listed here alive (was.trans (by rw [fd, owns]))
      · cases link
    · obtain ⟨listens, caller, first, rfl⟩ := mem_joined.mp new
      obtain ⟨head, also, brought⟩ := sound.newcomer ran listens answered
      obtain rfl : head = caller := Option.some.inj (also.symm.trans first)
      unfold Caller.accepted at link
      dsimp only at link
      split at link
      · rename_i polled
        cases link
        have fresh := (accepted_positive listens ran).2
        obtain ⟨notStdin, notUdp, notTcp⟩ := sound.table.unopened_apart fresh
        obtain ⟨sameUdp, sameTcp⟩ := (serve_round ran).sockets
        obtain ⟨d, there, active, owns⟩ := table.connected polled notStdin (sameUdp ▸ notUdp)
          (sameTcp ▸ notTcp)
        refine ⟨d, there, active, owns, ?_⟩
        rcases serve_comes ran d there active with ⟨c, listed, alive, fd, _⟩ | ⟨_, _, id⟩
        · have polled := sound.table.conn_polled listed alive
          rw [fd, owns] at polled
          exact absurd polled fresh
        · exact id.trans brought
      · cases link
  connected := by
    intro d listed active
    have table := sound.table.round granted (serve_round ran)
    have polled := table.conn_polled listed active
    rcases sound.connected_after ran answered table listed active with
      ⟨peer, member, link, same⟩ | ⟨peer, member, link, same⟩
    · refine ⟨_, List.mem_append_left _ (List.mem_map_of_mem member), ?_, ?_⟩
      · exact (Peer.after_link link).trans (if_pos polled)
      · exact Peer.after_id.trans same
    · exact ⟨peer, List.mem_append_right _ member, link, same⟩
  order := by
    have serving : ∀ {fds : List Int} {served : Option Int} {log : List Event} {peer : Peer},
        (peer.after fds served log).Serving → peer.Serving := by
      intro fds served log peer after
      by_contra still
      rw [Peer.after_still still] at after
      exact still after
    refine List.pairwise_append.mpr ⟨?_, ?_, ?_⟩
    · refine List.pairwise_map.mpr (sound.order.imp ?_)
      intro first second apart same admitted after
      rw [Peer.after_id, Peer.after_id] at same
      rw [Peer.after_admitted] at admitted
      exact apart same admitted (serving after)
    · unfold Exchange.joining
      dsimp only
      cases w.backlog.head? with
      | none => split <;> exact .nil
      | some first => split <;> simp
    · intro old member new joined same admitted after
      obtain ⟨before, listed, rfl⟩ := List.mem_map.mp member
      rw [Peer.after_id] at same
      exact sound.joins_free ran answered joined admitted listed same (serving after)

end Exchange.Sound

end Serve

/-! ## Every step -/

theorem Exchange.Sound.connect {w : Exchange} (sound : w.Sound) {caller : Caller}
    (waits : caller.Waits) : Exchange.Sound { w with backlog := w.backlog ++ [caller] } :=
  { sound with
    callers := by
      intro other member
      rcases List.mem_append.mp member with old | new
      · exact sound.callers other old
      · rw [List.mem_singleton.mp new]
        exact waits }

theorem Caller.Waits.connected {id : Bytes} (free : NulFree id) (short : id.length < maxIdClientLen)
    {kernel : InitClientKernel} {hport : UInt16} {taken : Nat → Nat} (stdin : Bytes)
    {this : Subscriber} {out : Nat × Bytes}
    (started : initClient (Outlet.sliced taken).put kernel id hport (0, []) = (.ok this, out)) :
    (Caller.connected id this stdin out).Waits := by
  obtain ⟨valid, wire⟩ := initClient_sent (Outlet.sliced taken) started
  refine ⟨free, short, valid, [], ?_, .nil⟩
  calc
    (Caller.connected id this stdin out).up = [] ++ (idFrame id).toBuffer.bytes := wire
    _ = joined [(idFrame id).toBuffer] := (List.append_nil _).symm

theorem Caller.Waits.round {caller : Caller} (waits : caller.Waits) (taken handed : Nat → Nat)
    (past : Bytes) (call : PollCall) : (caller.round taken handed past call).Waits := by
  have speaks := waits.speaks.round taken handed past call
  rw [← requests_append] at speaks
  exact ⟨waits.free, waits.short, speaks⟩

theorem Exchange.Sound.wait {w : Exchange} (sound : w.Sound) {index : Nat} {next : Caller}
    (waits : next.Waits) : Exchange.Sound { w with backlog := w.backlog.set index next } :=
  { sound with
    callers := by
      intro other member
      rcases mem_set_cases member with rfl | old
      · exact waits
      · exact sound.callers other old }

/-- A subscriber whose connection is accepted goes through a round. -/
def Peer.spoken (taken handed : Nat → Nat) (past : Bytes) (call : PollCall) (peer : Peer) : Peer :=
  { peer with toCaller := peer.round taken handed past call }

theorem Peer.spoken_pending {peer : Peer} (within : peer.heard ≤ (requests peer.asked).length)
    (taken handed : Nat → Nat) (past : Bytes) (call : PollCall) :
    (peer.spoken taken handed past call).pending =
        peer.pending ++ requests (peer.main.request call) ∧
      (peer.spoken taken handed past call).heeded = peer.heeded := by
  have asked : requests (peer.spoken taken handed past call).asked =
      requests peer.asked ++ requests (peer.main.request call) := requests_append _ _
  constructor
  · unfold Peer.pending
    rw [asked]
    exact List.drop_append_of_le_length within
  · unfold Peer.heeded
    rw [asked]
    exact List.take_append_of_le_length within

theorem Peer.Sound.spoken {peer : Peer} (sound : peer.Sound) (running : peer.main.left = false)
    (taken handed : Nat → Nat) (past : Bytes) (call : PollCall) :
    (peer.spoken taken handed past call).Sound := by
  obtain ⟨pending, _⟩ := Peer.spoken_pending sound.within taken handed past call
  refine ⟨pending ▸ sound.speaks.round taken handed past call, ?_, ?_⟩
  · have asked : requests (peer.spoken taken handed past call).asked =
        requests peer.asked ++ requests (peer.main.request call) := requests_append _ _
    rw [asked, List.length_append]
    exact Nat.le_add_right_of_le sound.within
  · intro closed
    rw [(sound.closed closed).1] at running
    cases running

theorem Exchange.Sound.talk {w : Exchange} (sound : w.Sound) {index : Nat} {peer next : Peer}
    (here : w.accepted[index]? = some peer) (well : next.Sound) (id : next.id = peer.id)
    (link : next.link = peer.link) :
    Exchange.Sound { w with accepted := w.accepted.set index next } :=
  { sound with
    peers := by
      intro other member
      rcases mem_set_cases member with rfl | old
      · exact well
      · exact sound.peers other old
    registered := by
      intro other member fd serving
      rcases mem_set_cases member with rfl | old
      · rw [id]
        exact sound.registered peer (List.mem_of_getElem? here) fd (link ▸ serving)
      · exact sound.registered other old fd serving
    connected := by
      intro c listed active
      obtain ⟨other, member, serving, same⟩ := sound.connected c listed active
      by_cases replaced : other = peer
      · subst replaced
        obtain ⟨inside, _⟩ := List.getElem?_eq_some_iff.mp here
        exact ⟨next, List.mem_set inside _, link.trans serving, id.trans same⟩
      · exact ⟨other, mem_set_of_apart here member replaced, serving, same⟩
    order := by
      let apart (p q : Bytes × Link) : Prop :=
        p.1 = q.1 → (q.2 != .refused) = true → ¬ ∃ fd, p.2 = .serving fd
      let tie (p : Peer) : Bytes × Link := (p.id, p.link)
      have mapped : (w.accepted.map tie).Pairwise apart := List.pairwise_map.mpr sound.order
      have same : tie next = tie peer := Prod.ext id link
      rw [← map_set_of_eq here same] at mapped
      exact List.pairwise_map.mp mapped }

theorem Exchange.Sound.move {w v : Exchange} (sound : w.Sound) (step : SubscriberStep w v) :
    v.Sound := by
  cases step with
  | connect id free short kernel hport taken stdin this out started =>
      exact sound.connect (.connected free short stdin started)
  | wait index caller here running taken handed past call =>
      have waits := sound.callers caller (List.mem_of_getElem? here)
      exact sound.wait (waits.round taken handed past call)
  | talk index peer here running taken handed past call =>
      have well := sound.peers peer (List.mem_of_getElem? here)
      exact sound.talk here (well.spoken running taken handed past call) rfl rfl

theorem Exchange.Sound.awake {w : Exchange} (sound : w.Sound) (revents : Nat → BitVec 16)
    (cmd : Buffer maxCmdLen) : Exchange.Sound { w with server := w.server.awake revents cmd } :=
  { sound with table := sound.table.awake revents cmd }

end TopicBroker
