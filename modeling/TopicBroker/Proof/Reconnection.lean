import TopicBroker.Model.Network
import TopicBroker.Proof.Entries
import TopicBroker.Proof.Passes

/-!
# A client that comes back

The listener stands in front of every connection in the poll vector, so a pass
accepts a connection before it can notice that an older one was closed. A client
that comes back is turned away exactly when no earlier `poll` call reported the
end of its registered connection and had it served in its pass.
-/

namespace TopicBroker

/-! ## What a round does to the connections -/

section Rounds

variable {kernel : Kernel} {iter : Nat} {s t : Server} {log : List Event}

/-- A round closes no descriptor but the one it serves. -/
theorem serve_closes (inside : iter < s.pollVec.nfds) (ran : (serve kernel iter s).err = .ok)
    {fd : Int} (before : fd ∈ s.pollVec.fds)
    (gone : fd ∉ (serve kernel iter s).server.pollVec.fds) :
    s.pollVec.fds[iter]? = some fd := by
  have repolled := serve_repolled inside ran
  generalize (serve kernel iter s).removed = removed, (serve kernel iter s).server.pollVec =
    pollVec at repolled gone
  cases repolled with
  | same _ elems =>
      rw [PollVec.fds, elems] at gone
      exact absurd before gone
  | appended newcomer =>
      rw [PollVec.fds_push] at gone
      exact absurd (List.mem_append_left _ before) gone
  | removed =>
      rw [PollVec.fds_remove _ inside] at gone
      obtain ⟨index, here⟩ := List.mem_iff_getElem?.mp before
      by_cases same : index = iter
      · rw [← same, here]
      · exact absurd (List.mem_eraseIdx_iff_getElem?.mpr ⟨index, same, here⟩) gone

/-- Whoever is connected after a round was connected before, or came with it. -/
def Comes (kernel : Kernel) (iter : Nat) (s t : Server) : Prop :=
  ∀ d ∈ t.clients.elems, d.status = .active →
    (∃ c ∈ s.clients.elems, c.status = .active ∧ c.fd = d.fd ∧ c.id = d.id) ∨
      (s.listens iter ∧ d.fd = kernel.accept s.pollVec.fds ∧ d.id = kernel.newcomer s)

theorem Comes.of_contacts
    (same : t.clients.elems.map ClientType.contact = s.clients.elems.map ClientType.contact) :
    Comes kernel iter s t := by
  intro d member active
  obtain ⟨c, old, eq⟩ := exists_contact same member
  simp only [ClientType.contact, Prod.mk.injEq] at eq
  exact Or.inl ⟨c, old, eq.2.1.trans active, eq.2.2, eq.1⟩

theorem publish_contacts {r : Server} (ran : (publish kernel r).err = .ok) :
    (publish kernel r).server.clients.elems.map ClientType.contact =
      r.clients.elems.map ClientType.contact := by
  obtain ⟨_, _, clients, server, elems, _⟩ := publish_ok ran
  rw [server]
  change clients.elems.map _ = _
  rw [elems, ClientType.contacts_notified]

theorem serveUdp_comes : (serveUdp kernel iter s).err = .ok →
    Comes kernel iter s (serveUdp kernel iter s).server := by
  refine serveUdp_branches (motive := fun done => done.err = .ok →
    Comes kernel iter s done.server) kernel iter s ?_ ?_ ?_
  · exact fun _ ran => .of_contacts (publish_contacts ran)
  · exact fun _ _ _ _ _ => .of_contacts rfl
  · exact fun addr payload _ _ ran =>
      .of_contacts (publish_contacts (r := s.receive addr payload) ran)

theorem serveClient_comes (fd : Int) :
    Comes kernel iter s (serveClient kernel iter fd s).server := by
  unfold serveClient
  dsimp only
  split
  · split
    · exact .of_contacts rfl
    · rename_i closed
      obtain ⟨index, c, here, _, _, after⟩ := closeActiveClient_ok (not_not.mp closed)
      intro d member active
      rw [after] at member
      rcases mem_set_cases member with rfl | old
      · cases active
      · exact Or.inl ⟨d, old, active, rfl, rfl⟩
  · obtain ⟨clients, server, edited⟩ := processServerTcpMsg_edited kernel fd
      { s with recvMsg := (kernel.recvTcpMsg fd s.recvMsg).2 }
    rw [server]
    cases edited with
    | same => exact .of_contacts rfl
    | table index c table here nodup => exact .of_contacts (map_set_of_eq here rfl)

theorem Listened.comes (listened : Listened kernel s log t) (listens : s.listens iter) :
    Comes kernel iter s t := by
  cases listened with
  | refused recvMsg pollVec clients positive samePoll sameClients refused =>
      exact .of_contacts (congrArg _ sameClients)
  | joined recvMsg clients index c positive unopened enrolled found =>
      have same : (retransmitTopicsToClient kernel (kernel.accept s.pollVec.fds)
          (s.enrolling (kernel.accept s.pollVec.fds) recvMsg clients)).server.clients.elems.map
            ClientType.contact = clients.elems.map ClientType.contact := by
        rw [(retransmitTopicsToClient_found found).1]
        exact map_set_of_eq (locate_eq_some found).1 rfl
      intro d member active
      obtain ⟨e, new, eq⟩ := exists_contact same member
      simp only [ClientType.contact, Prod.mk.injEq] at eq
      obtain ⟨id, status, fd⟩ := eq
      rcases enrolled.origin e new with old | ⟨_, owns, newcomer⟩
      · exact Or.inl ⟨e, old, status.trans active, fd, id⟩
      · exact Or.inr ⟨listens, fd.symm.trans owns, id.symm.trans newcomer⟩

theorem serve_comes : (serve kernel iter s).err = .ok →
    Comes kernel iter s (serve kernel iter s).server := by
  refine serve_branches (motive := fun done => done.err = .ok →
    Comes kernel iter s done.server) kernel iter s ?_ ?_ ?_ ?_
  · exact fun _ _ => .of_contacts rfl
  · exact fun _ ran => serveUdp_comes ran
  · exact fun atTcp notUdp ran => (serveListener_listened ran).comes ⟨atTcp, notUdp⟩
  · exact fun fd _ _ _ _ => serveClient_comes fd

end Rounds

/-! ## The census -/

/-- What ties a registered connection to the table of clients. -/
def Accepted.tie (conn : Accepted) : Option Nat × Int × Bytes := (conn.dropped, conn.fd, conn.id)

/-- The registered connections whose descriptor is open are those of the
connected clients, and none was closed in a pass before it went by the listener. -/
structure Census (w : World) : Prop where
  table : ConnectionTable w.server
  registered : ∀ conn ∈ w.accepted, conn.dropped = none →
    ∃ c ∈ w.server.clients.elems, c.status = .active ∧ c.fd = conn.fd ∧ c.id = conn.id
  connected : ∀ c ∈ w.server.clients.elems, c.status = .active →
    ∃ conn ∈ w.accepted, conn.dropped = none ∧ conn.fd = c.fd ∧ conn.id = c.id
  apart : w.accepted.Pairwise fun first second =>
    first.dropped = none → second.dropped = none → first.fd ≠ second.fd
  past : ∀ conn ∈ w.accepted, ∀ poll, conn.dropped = some poll →
    poll ≤ w.polls ∧ ∀ iter, w.iter = some iter → poll = w.polls → 3 ≤ iter

namespace Accepted

variable {poll : Nat} {fds : List Int} {served : Option Int}

theorem after_fd (conn : Accepted) : (conn.after poll fds served).fd = conn.fd := by
  unfold after
  split
  · rfl
  · split
    · rfl
    · split <;> rfl

theorem after_id (conn : Accepted) : (conn.after poll fds served).id = conn.id := by
  unfold after
  split
  · rfl
  · split
    · rfl
    · split <;> rfl

theorem after_dropped (conn : Accepted) : (conn.after poll fds served).dropped =
    if conn.dropped = none ∧ conn.fd ∉ fds then some poll else conn.dropped := by
  unfold after
  by_cases gone : conn.dropped = none
  · by_cases polled : conn.fd ∈ fds
    · simp only [gone, polled, ne_eq, not_true_eq_false, if_false, and_false]
      split
      · rfl
      · exact gone
    · simp [gone, polled]
  · simp [gone]

theorem after_open {conn : Accepted} (still : (conn.after poll fds served).dropped = none) :
    conn.dropped = none ∧ conn.fd ∈ fds := by
  rw [after_dropped] at still
  split at still
  · cases still
  · rename_i kept
    exact ⟨still, by_contra fun gone => kept ⟨still, gone⟩⟩

end Accepted

namespace Census

variable {w : World}

theorem start {s : Server} (fresh : Fresh s) : Census (.start s) where
  table := fresh.connectionTable
  registered := fun _ impossible => nomatch impossible
  connected := by simp [World.start, fresh.clients]
  apart := .nil
  past := fun _ impossible => nomatch impossible

/-- The census sees the server, the ties and the place in the pass. -/
theorem congr (census : Census w) {v : World} (server : v.server = w.server)
    (ties : v.accepted.map Accepted.tie = w.accepted.map Accepted.tie) (polls : v.polls = w.polls)
    (iter : v.iter = w.iter) : Census v where
  table := server ▸ census.table
  registered := by
    intro conn member still
    obtain ⟨old, before, eq⟩ :=
      List.mem_map.mp (ties ▸ List.mem_map_of_mem (f := Accepted.tie) member)
    simp only [Accepted.tie, Prod.mk.injEq] at eq
    obtain ⟨c, listed, active, fd, id⟩ := census.registered old before (eq.1.trans still)
    exact ⟨c, server ▸ listed, active, fd.trans eq.2.1, id.trans eq.2.2⟩
  connected := by
    intro c member active
    obtain ⟨old, before, still, fd, id⟩ := census.connected c (server ▸ member) active
    obtain ⟨conn, after, eq⟩ :=
      List.mem_map.mp (ties ▸ List.mem_map_of_mem (f := Accepted.tie) before)
    simp only [Accepted.tie, Prod.mk.injEq] at eq
    exact ⟨conn, after, eq.1.trans still, eq.2.1.trans fd, eq.2.2.trans id⟩
  apart := by
    let differ (p q : Option Nat × Int × Bytes) : Prop := p.1 = none → q.1 = none → p.2.1 ≠ q.2.1
    have mapped : (w.accepted.map Accepted.tie).Pairwise differ :=
      List.pairwise_map.mpr census.apart
    rw [← ties] at mapped
    exact List.pairwise_map.mp mapped
  past := by
    intro conn member poll dropped
    obtain ⟨old, before, eq⟩ :=
      List.mem_map.mp (ties ▸ List.mem_map_of_mem (f := Accepted.tie) member)
    simp only [Accepted.tie, Prod.mk.injEq] at eq
    rw [polls, iter]
    exact census.past old before poll (eq.1.trans dropped)

end Census

/-! ## A round of the pass -/

section Serve

variable {w : World} {kernel : Kernel} {iter : Nat}

theorem mem_joining {conn : Accepted} : conn ∈ w.joining kernel iter ↔
    (w.server.listens iter ∧
      kernel.accept w.server.pollVec.fds ∈ (serve kernel iter w.server).server.pollVec.fds) ∧
      ∃ new, w.backlog.head? = some new ∧
        conn = new.accept (kernel.accept w.server.pollVec.fds) := by
  unfold World.joining
  dsimp only
  split
  · rename_i joins
    simp [joins, Option.mem_toList, eq_comm]
  · rename_i stays
    simp [stays]

/-- The descriptor of a new connection is not polled before the round. -/
theorem accept_unopened (listens : w.server.listens iter)
    (ran : (serve kernel iter w.server).err = .ok) :
    kernel.accept w.server.pollVec.fds ∉ w.server.pollVec.fds := by
  rw [serve_listener listens.1 listens.2] at ran
  exact kernel.accept_fresh _ (serveListener_listened ran).positive

/-- A round serves one index and goes on behind it or at it. -/
theorem served_iter {next : Nat} (inside : (w.served kernel iter).iter = some next) :
    iter ≤ next := by
  unfold World.served at inside
  dsimp only at inside
  split at inside
  · exact Nat.le_of_eq (Option.some.inj inside)
  · exact (Option.some.inj inside) ▸ Nat.le_succ iter

namespace Census

/-- The descriptor of an open connection is polled and none of the server's own. -/
theorem open_polled (census : Census w) {conn : Accepted} (member : conn ∈ w.accepted)
    (still : conn.dropped = none) : conn.fd ∈ w.server.pollVec.fds ∧
      conn.fd ≠ stdinFileno ∧ conn.fd ≠ w.server.udpSocket ∧ conn.fd ≠ w.server.tcpSocket := by
  obtain ⟨c, listed, active, fd, _⟩ := census.registered conn member still
  rw [← fd]
  exact ⟨census.table.conn_polled listed active, census.table.sockets c listed active⟩

/-- A descriptor that is polled after the round and is none of the server's own
belongs to a client that was connected with it before, or to the one that came. -/
theorem polled_after (census : Census w) (granted : noEmptyDatagram w.server iter kernel)
    (ran : (serve kernel iter w.server).err = .ok) {fd : Int}
    (polled : fd ∈ (serve kernel iter w.server).server.pollVec.fds) (notStdin : fd ≠ stdinFileno)
    (notUdp : fd ≠ w.server.udpSocket) (notTcp : fd ≠ w.server.tcpSocket) :
    ∃ d ∈ (serve kernel iter w.server).server.clients.elems, d.status = .active ∧ d.fd = fd ∧
      ((∃ c ∈ w.server.clients.elems, c.status = .active ∧ c.fd = fd ∧ c.id = d.id) ∨
        (w.server.listens iter ∧ fd = kernel.accept w.server.pollVec.fds ∧
          d.id = kernel.newcomer w.server)) := by
  have round := serve_round ran
  have table := census.table.round granted round
  obtain ⟨sameUdp, sameTcp⟩ := round.sockets
  obtain ⟨d, listed, active, rfl⟩ := table.connected polled notStdin (sameUdp ▸ notUdp)
    (sameTcp ▸ notTcp)
  exact ⟨d, listed, active, rfl, serve_comes ran d listed active⟩

theorem served_registered (census : Census w) (granted : noEmptyDatagram w.server iter kernel)
    (ran : (serve kernel iter w.server).err = .ok) (answered : w.Answered iter kernel) :
    ∀ conn ∈ (w.served kernel iter).accepted, conn.dropped = none →
      ∃ d ∈ (w.served kernel iter).server.clients.elems,
        d.status = .active ∧ d.fd = conn.fd ∧ d.id = conn.id := by
  intro conn member still
  rcases List.mem_append.mp member with old | new
  · obtain ⟨before, listed, rfl⟩ := List.mem_map.mp old
    obtain ⟨alive, polled⟩ := Accepted.after_open still
    obtain ⟨opened, notStdin, notUdp, notTcp⟩ := census.open_polled listed alive
    obtain ⟨d, there, active, fd, known | ⟨listens, came, _⟩⟩ :=
      census.polled_after granted ran polled notStdin notUdp notTcp
    · obtain ⟨c, member, connected, owns, id⟩ := known
      obtain ⟨e, here, alive, same, name⟩ := census.registered before listed alive
      obtain ⟨index, atIndex⟩ := List.mem_iff_getElem?.mp member
      obtain ⟨other, atOther⟩ := List.mem_iff_getElem?.mp here
      have place := census.table.index_of_fd atIndex atOther connected alive (same.trans owns.symm)
      rw [place, atIndex] at atOther
      cases atOther
      exact ⟨d, there, active, fd.trans (Accepted.after_fd _).symm,
        id.symm.trans (name.trans (Accepted.after_id _).symm)⟩
    · exact absurd (came ▸ opened) (accept_unopened listens ran)
  · obtain ⟨⟨listens, polled⟩, first, waiting, rfl⟩ := mem_joining.mp new
    have fresh := accept_unopened listens ran
    obtain ⟨notStdin, notUdp, notTcp⟩ := census.table.unopened_apart fresh
    obtain ⟨d, there, active, fd, ⟨c, member, connected, owns, _⟩ | ⟨_, _, id⟩⟩ :=
      census.polled_after granted ran polled notStdin notUdp notTcp
    · exact absurd (owns ▸ census.table.conn_polled member connected) fresh
    · obtain ⟨head, same, named⟩ := answered.newcomer listens
      rw [waiting] at same
      cases same
      exact ⟨d, there, active, fd, id.trans named⟩

theorem served_connected (census : Census w) (granted : noEmptyDatagram w.server iter kernel)
    (ran : (serve kernel iter w.server).err = .ok) (answered : w.Answered iter kernel) :
    ∀ d ∈ (w.served kernel iter).server.clients.elems, d.status = .active →
      ∃ conn ∈ (w.served kernel iter).accepted,
        conn.dropped = none ∧ conn.fd = d.fd ∧ conn.id = d.id := by
  intro d member active
  have table := census.table.round granted (serve_round ran)
  have polled := table.conn_polled member active
  rcases serve_comes ran d member active with ⟨c, listed, connected, fd, id⟩ |
    ⟨listens, owns, id⟩
  · obtain ⟨conn, before, still, sameFd, sameId⟩ := census.connected c listed connected
    refine ⟨_, List.mem_append_left _ (List.mem_map_of_mem before), ?_, ?_, ?_⟩
    · rw [Accepted.after_dropped, if_neg, still]
      rw [sameFd, fd]
      exact fun gone => gone.2 polled
    · rw [Accepted.after_fd, sameFd, fd]
    · rw [Accepted.after_id, sameId, id]
  · obtain ⟨first, waiting, named⟩ := answered.newcomer listens
    rw [owns] at polled
    refine ⟨_, List.mem_append_right _
      (mem_joining.mpr ⟨⟨listens, polled⟩, first, waiting, rfl⟩), rfl, owns.symm, ?_⟩
    exact (id.trans named).symm

theorem served_apart (census : Census w) (ran : (serve kernel iter w.server).err = .ok) :
    (w.served kernel iter).accepted.Pairwise fun first second =>
      first.dropped = none → second.dropped = none → first.fd ≠ second.fd := by
  refine List.pairwise_append.mpr ⟨?_, ?_, ?_⟩
  · refine List.pairwise_map.mpr (census.apart.imp ?_)
    intro first second differ one other
    rw [Accepted.after_fd, Accepted.after_fd]
    exact differ (Accepted.after_open one).1 (Accepted.after_open other).1
  · unfold World.joining
    dsimp only
    cases w.backlog.head? with
    | none => split <;> exact .nil
    | some first => split <;> simp
  · intro old member new joined one _
    obtain ⟨before, listed, rfl⟩ := List.mem_map.mp member
    obtain ⟨⟨listens, _⟩, first, _, rfl⟩ := mem_joining.mp joined
    have opened := (census.open_polled listed (Accepted.after_open one).1).1
    rw [Accepted.after_fd]
    intro same
    have owns : before.fd = kernel.accept w.server.pollVec.fds := same
    exact accept_unopened listens ran (owns ▸ opened)

theorem served_past (census : Census w) (inside : w.iter = some iter)
    (within : iter < w.server.pollVec.nfds) (ran : (serve kernel iter w.server).err = .ok) :
    ∀ conn ∈ (w.served kernel iter).accepted, ∀ poll, conn.dropped = some poll →
      poll ≤ w.polls ∧ ∀ next, (w.served kernel iter).iter = some next → poll = w.polls →
        3 ≤ next := by
  intro conn member poll dropped
  rcases List.mem_append.mp member with old | new
  · obtain ⟨before, listed, rfl⟩ := List.mem_map.mp old
    rw [Accepted.after_dropped] at dropped
    split at dropped
    · rename_i gone
      obtain ⟨polled, notStdin, notUdp, notTcp⟩ := census.open_polled listed gone.1
      have here := serve_closes within ran polled gone.2
      have behind := census.table.conn_index here notStdin notUdp notTcp
      exact ⟨Nat.le_of_eq (Option.some.inj dropped).symm,
        fun next reached _ => Nat.le_trans behind (served_iter reached)⟩
    · obtain ⟨earlier, behind⟩ := census.past before listed poll dropped
      exact ⟨earlier, fun next reached now =>
        Nat.le_trans (behind iter inside now) (served_iter reached)⟩
  · obtain ⟨_, first, _, rfl⟩ := mem_joining.mp new
    cases dropped

theorem served (census : Census w) (granted : noEmptyDatagram w.server iter kernel)
    (inside : w.iter = some iter) (within : iter < w.server.pollVec.nfds)
    (ran : (serve kernel iter w.server).err = .ok) (answered : w.Answered iter kernel) :
    Census (w.served kernel iter) where
  table := census.table.round granted (serve_round ran)
  registered := census.served_registered granted ran answered
  connected := census.served_connected granted ran answered
  apart := census.served_apart ran
  past := census.served_past inside within ran

end Census

end Serve

/-! ## Every step -/

theorem Connection.Step.id {clock : Nat} {conn next : Connection} (step : conn.Step clock next) :
    next.id = conn.id := by
  cases step <;> rfl

namespace Census

variable {w v : World} {log : List Event}

theorem step (census : Census w) (step : NetworkStep noEmptyDatagram w log v) : Census v := by
  cases step with
  | connect id => exact census.congr rfl rfl rfl rfl
  | wait index conn next here step => exact census.congr rfl rfl rfl rfl
  | talk index conn next here step =>
      refine census.congr rfl ?_ rfl rfl
      exact map_set_of_eq here (congrArg (fun id => (conn.dropped, conn.fd, id)) step.id)
  | poll revents cmd outside reported =>
      refine ⟨census.table.awake revents cmd, census.registered, census.connected, census.apart, ?_⟩
      intro conn member poll dropped
      have earlier := (census.past conn member poll dropped).1
      refine ⟨Nat.le_succ_of_le earlier, fun _ _ now => ?_⟩
      change poll = w.polls + 1 at now
      omega
  | skip iter entry inside here quiet =>
      refine ⟨census.table, census.registered, census.connected, census.apart, ?_⟩
      intro conn member poll dropped
      obtain ⟨earlier, behind⟩ := census.past conn member poll dropped
      refine ⟨earlier, fun next reached now => ?_⟩
      have moved : iter + 1 = next := Option.some.inj reached
      have before := behind iter inside now
      omega
  | serve iter entry kernel inside here ready answered granted ran =>
      obtain ⟨within, _⟩ := List.getElem?_eq_some_iff.mp here
      exact census.served granted inside within ran answered
  | finish iter inside beyond =>
      refine ⟨census.table, census.registered, census.connected, census.apart, ?_⟩
      intro conn member poll dropped
      exact ⟨(census.past conn member poll dropped).1, fun _ impossible => nomatch impossible⟩

theorem reachable (reached : (network noEmptyDatagram).Reachable w) : Census w := by
  refine reached.invariant ?_ fun _ _ _ census edge => census.step edge
  rintro w ⟨s, ⟨kernel, hport, started⟩, rfl⟩
  exact .start (initServer_fresh started)

/-- A connection is only dropped in the round of its own entry, which the current
`poll` call reported; `dropped` is the number of this call. -/
theorem dropped_reported {allowed : Server → Nat → Kernel → Prop} (census : Census w)
    (edge : NetworkStep allowed w log v) {index poll : Nat} {old new : Accepted}
    (before : w.accepted[index]? = some old) (after : v.accepted[index]? = some new)
    (still : old.dropped = none) (gone : new.dropped = some poll) :
    poll = w.polls ∧ ∃ iter entry, w.iter = some iter ∧
      w.server.pollVec.elems[iter]? = some entry ∧ entry.fd = old.fd ∧ entry.ready = true := by
  have unchanged (same : new.dropped = old.dropped) : False := by
    rw [gone, still] at same
    cases same
  have kept (same : v.accepted = w.accepted) : False := by
    rw [same, before] at after
    exact unchanged (congrArg Accepted.dropped (Option.some.inj after).symm)
  cases edge with
  | connect id => exact (kept rfl).elim
  | wait place conn next here step => exact (kept rfl).elim
  | talk place conn next here step =>
      change (w.accepted.set place _)[index]? = _ at after
      by_cases same : place = index
      · subst same
        rw [here] at before
        obtain ⟨inside, _⟩ := List.getElem?_eq_some_iff.mp here
        rw [List.getElem?_set_self inside] at after
        cases after
        cases before
        exact (unchanged rfl).elim
      · rw [List.getElem?_set_ne same, before] at after
        cases after
        exact (unchanged rfl).elim
  | poll revents cmd outside reported => exact (kept rfl).elim
  | skip iter entry inside here quiet => exact (kept rfl).elim
  | serve iter entry kernel inside here ready answered granted ran =>
      have listed := List.mem_of_getElem? before
      obtain ⟨within, _⟩ := List.getElem?_eq_some_iff.mp here
      change (w.accepted.map _ ++ _)[index]? = _ at after
      rw [List.getElem?_append_left
        (by rw [List.length_map]; exact (List.getElem?_eq_some_iff.mp before).1),
        List.getElem?_map, before] at after
      obtain rfl := Option.some.inj after
      rw [Accepted.after_dropped] at gone
      split at gone
      · rename_i left
        have atFd := serve_closes within ran (census.open_polled listed still).1 left.2
        rw [PollVec.fds, List.getElem?_map, here] at atFd
        exact ⟨(Option.some.inj gone).symm, iter, entry, inside, here, Option.some.inj atFd, ready⟩
      · rw [still] at gone
        cases gone
  | finish iter inside beyond => exact (kept rfl).elim

/-- The open connections have different ids. -/
theorem unique (census : Census w) {first second : Accepted} (one : first ∈ w.accepted)
    (other : second ∈ w.accepted) (open_first : first.dropped = none)
    (open_second : second.dropped = none) (same : first.id = second.id) : first = second := by
  obtain ⟨c, here, _, owns, id⟩ := census.registered first one open_first
  obtain ⟨d, there, _, owns', id'⟩ := census.registered second other open_second
  obtain ⟨index, atIndex⟩ := List.mem_iff_getElem?.mp here
  obtain ⟨place, atPlace⟩ := List.mem_iff_getElem?.mp there
  have equal := census.table.index_of_id atIndex atPlace (id'.trans (same.symm.trans id.symm))
  rw [equal, atIndex] at atPlace
  cases atPlace
  by_contra different
  have apart : Std.Symm fun a b : Accepted => a.dropped = none → b.dropped = none → a.fd ≠ b.fd :=
    ⟨fun a b differ one other => (differ other one).symm⟩
  exact (census.apart.forall one other different) open_first open_second (owns.symm.trans owns')

end Census

/-! ## The network around the server -/

/-- The server of a network runs as the server does. -/
theorem network_broker {allowed : Server → Nat → Kernel → Prop} {first last : World}
    {log : List Event} (listed : ∀ iter, first.iter = some iter → 1 ≤ iter)
    (run : (network allowed).Run first log last) :
    (broker allowed).Run first.server log last.server ∧
      ∀ iter, last.iter = some iter → 1 ≤ iter := by
  induction run with
  | refl => exact ⟨.refl, listed⟩
  | next _ edge ih =>
      obtain ⟨run, listed⟩ := ih
      cases edge with
      | connect id => exact ⟨by rwa [List.append_nil], listed⟩
      | wait index conn next here step => exact ⟨by rwa [List.append_nil], listed⟩
      | talk index conn next here step => exact ⟨by rwa [List.append_nil], listed⟩
      | poll revents cmd outside reported =>
          refine ⟨run.next (.awake _ revents cmd), ?_⟩
          intro iter inside
          exact Nat.le_of_eq (Option.some.inj inside)
      | skip iter entry inside here quiet =>
          refine ⟨by rwa [List.append_nil], ?_⟩
          intro next reached
          have moved : iter + 1 = next := Option.some.inj reached
          omega
      | serve iter entry kernel inside here ready answered granted ran =>
          obtain ⟨within, _⟩ := List.getElem?_eq_some_iff.mp here
          exact ⟨run.next (.serve _ iter kernel (listed iter inside) within granted ran),
            fun next reached => Nat.le_trans (listed iter inside) (served_iter reached)⟩
      | finish iter inside beyond =>
          exact ⟨by rwa [List.append_nil], fun _ impossible => nomatch impossible⟩

/-- Every round of the pass is answered as the connections are. -/
def PassAnswered (allowed : Server → Nat → Kernel → Prop) (kernels : Nat → Kernel) :
    Nat → Nat → Nat → World → Prop
  | 0, _, _, _ => True
  | rounds + 1, round, iter, w =>
      match w.server.pollVec.elems[iter]? with
      | none => True
      | some entry =>
          if entry.ready then
            (w.Answered iter (kernels round) ∧ allowed w.server iter (kernels round)) ∧
              PassAnswered allowed kernels rounds (round + 1)
                (if (serve (kernels round) iter w.server).removed then iter else iter + 1)
                (w.served (kernels round) iter)
          else PassAnswered allowed kernels rounds (round + 1) (iter + 1) (w.skipped iter)

/-- A pass of `process_ready_fds` is a run of the network. -/
theorem processLoop_network {allowed : Server → Nat → Kernel → Prop} {kernels : Nat → Kernel}
    {rounds round iter : Nat} {w : World} (inside : w.iter = some iter)
    (answered : PassAnswered allowed kernels rounds round iter w)
    (ran : (processLoop kernels rounds round iter w.server).err = .ok) :
    ∃ v, (network allowed).Run w (processLoop kernels rounds round iter w.server).log v ∧
      v.server = (processLoop kernels rounds round iter w.server).server := by
  induction rounds generalizing round iter w with
  | zero => exact ⟨w, .refl, rfl⟩
  | succ rounds ih =>
      rw [processLoop] at ran ⊢
      rw [PassAnswered] at answered
      cases here : w.server.pollVec.elems[iter]? with
      | none => exact ⟨w, .refl, rfl⟩
      | some entry =>
          rw [here] at ran answered
          dsimp only at ran answered ⊢
          by_cases ready : entry.ready = true
          · rw [if_pos ready] at ran answered ⊢
            obtain ⟨⟨now, granted⟩, later⟩ := answered
            by_cases ended : (serve (kernels round) iter w.server).err = .ok
            · rw [if_neg (not_not.mpr ended)] at ran ⊢
              have edge : (network allowed).step w (serve (kernels round) iter w.server).log
                  (w.served (kernels round) iter) :=
                NetworkStep.serve w iter entry (kernels round) inside here ready now granted ended
              obtain ⟨v, run, server⟩ := ih (w := w.served (kernels round) iter) rfl later ran
              exact ⟨v, (System.Run.single edge).trans run, server⟩
            · rw [if_pos ended] at ran
              exact absurd ran ended
          · rw [if_neg ready] at ran answered ⊢
            have edge : (network allowed).step w [] (w.skipped iter) :=
              NetworkStep.skip w iter entry inside here (Bool.not_eq_true _ ▸ ready)
            obtain ⟨v, run, server⟩ := ih (w := w.skipped iter) rfl answered ran
            exact ⟨v, (System.Run.single edge).trans run, server⟩

/-! ## Registration -/

/-- What `register_new_client` returns when the listener is served. -/
def World.registration (w : World) (kernel : Kernel) : Err :=
  (registerNewClient w.server.clients (kernel.newcomer w.server)
    (kernel.accept w.server.pollVec.fds) kernel.register).1

/-- The connection is only turned away because the peer of a registered one with
the same id has not closed it; when all of these were closed before the new
one was opened, it is registered. -/
structure Welcomed (w : World) (kernel : Kernel) (new : Connection) : Prop where
  refused : w.registration kernel = .clientVecClientAlreadyConnected →
    ∃ old ∈ w.accepted, old.id = new.id ∧ old.dropped = none ∧ old.closed = none
  registered : (∀ old ∈ w.accepted, old.id = new.id → old.dropped = none →
      ∃ time, old.closed = some time ∧ time < new.opened) →
    kernel.register = .succeed → w.registration kernel = .ok

/-- The end of every registered connection with the id that its peer closed was
reported by an earlier `poll` call, in whose pass the server closed it. -/
def Noticed (w : World) (id : Bytes) : Prop :=
  ∀ old ∈ w.accepted, old.id = id → old.closed ≠ none →
    ∃ poll, old.dropped = some poll ∧ poll < w.polls

/-- Whether a connection is welcomed is decided by what earlier passes have served. -/
theorem welcomed_iff {w : World} (reached : (network noEmptyDatagram).Reachable w) {iter : Nat}
    (inside : w.iter = some iter) (listens : w.server.listens iter) {new : Connection}
    (waiting : w.backlog.head? = some new) {kernel : Kernel} (answered : w.Answered iter kernel) :
    Welcomed w kernel new ↔ Noticed w new.id := by
  have census := Census.reachable reached
  have named : kernel.newcomer w.server = new.id := by
    obtain ⟨head, same, named⟩ := answered.newcomer listens
    rw [waiting] at same
    cases same
    exact named
  have away : w.registration kernel = .clientVecClientAlreadyConnected ↔
      ∃ c ∈ w.server.clients.elems, c.status = .active ∧ c.id = new.id := by
    rw [← named]
    exact census.table.turned_away_iff _ _ _
  constructor
  · intro welcomed old member same ended
    cases dropped : old.dropped with
    | some poll =>
        obtain ⟨earlier, behind⟩ := census.past old member poll dropped
        refine ⟨poll, rfl, Nat.lt_of_le_of_ne earlier fun now => ?_⟩
        have late := behind iter inside now
        have early := census.table.listener_index listens.1
        omega
    | none =>
        obtain ⟨c, listed, active, _, id⟩ := census.registered old member dropped
        obtain ⟨other, there, name, still, alive⟩ :=
          welcomed.refused (away.mpr ⟨c, listed, active, id.trans same⟩)
        rw [census.unique there member still dropped (name.trans same.symm)] at alive
        exact absurd alive ended
  · intro noticed
    have closed_gone : ∀ old ∈ w.accepted, old.id = new.id → old.dropped = none →
        old.closed = none := by
      intro old member same still
      by_contra ended
      obtain ⟨poll, dropped, _⟩ := noticed old member same ended
      rw [still] at dropped
      cases dropped
    constructor
    · intro refused
      obtain ⟨c, listed, active, same⟩ := away.mp refused
      obtain ⟨old, member, still, _, id⟩ := census.connected c listed active
      exact ⟨old, member, id.trans same, still, closed_gone old member (id.trans same) still⟩
    · intro closed granted
      have free : ∀ c ∈ w.server.clients.elems, c.id = new.id → c.status = .dead := by
        intro c listed same
        cases status : c.status with
        | dead => rfl
        | active =>
            obtain ⟨old, member, still, _, id⟩ := census.connected c listed status
            obtain ⟨time, ended, _⟩ := closed old member (id.trans same) still
            rw [closed_gone old member (id.trans same) still] at ended
            cases ended
      rw [World.registration, granted, named]
      exact registerNewClient_free free _

/-! ## A client that is overtaken -/

/-- What `poll` reports when it reports the given entries. -/
def reported (entries : List Nat) (index : Nat) : BitVec 16 :=
  if index ∈ entries then pollin else 0

/-- `C1` connects, and the pass has come to the listener. -/
def World.calling : World :=
  (((World.start .started).connected (ascii "C1")).polled (reported [2]) (Buffer.zero _)).skipped 1

/-- The connection is registered with descriptor 5. -/
def World.met : World :=
  ((World.calling.served (.accepting 5 (.holding (ascii "C1"))) 2).skipped 3).finished

/-- `C1` closes and connects again, `poll` reports both, and the pass has come
to the listener. -/
def World.back : World :=
  (((World.met.talked 0 ⟨⟨ascii "C1", 0, some 1, 0⟩, 5, none⟩).connected (ascii "C1")).polled
    (reported [2, 3]) (Buffer.zero _)).skipped 1

theorem World.calling_reachable : (network noEmptyDatagram).Reachable .calling := by
  have started : (network noEmptyDatagram).Reachable (.start .started) :=
    .init ⟨_, ⟨_, _, initServer_started⟩, rfl⟩
  have connected := started.step (.connect _ (ascii "C1"))
  have polled := connected.step
    (.poll _ (reported [2]) (Buffer.zero _) rfl (by decide +kernel))
  exact polled.step (.skip _ 1 ⟨3, pollin, 0⟩ rfl (by decide +kernel) rfl)

theorem World.calling_answered :
    World.calling.Answered 2 (.accepting 5 (.holding (ascii "C1"))) where
  newcomer := fun _ => ⟨⟨ascii "C1", 0, none, 1⟩, by decide +kernel, by decide +kernel⟩
  frame := fun _ impossible => nomatch impossible

theorem World.met_reachable : (network noEmptyDatagram).Reachable .met := by
  have quiet : noEmptyDatagram World.calling.server 2 (.accepting 5 (.holding (ascii "C1"))) := by
    rintro _ ⟨addr, impossible⟩
    cases impossible
  have served := calling_reachable.step
    (.serve _ 2 ⟨4, pollin, 1⟩ _ rfl (by decide +kernel) rfl calling_answered quiet
      (by decide +kernel))
  have skipped := served.step
    (.skip _ 3 ⟨5, pollin ||| pollout, 0⟩ (by decide +kernel) (by decide +kernel) rfl)
  exact skipped.step (.finish _ 4 rfl (by decide +kernel))

theorem World.back_reachable : (network noEmptyDatagram).Reachable .back := by
  have closed := met_reachable.step
    (.talk _ 0 ⟨⟨ascii "C1", 0, none, 0⟩, 5, none⟩ ⟨ascii "C1", 0, some 1, 0⟩ (by decide +kernel)
      (.hangUp rfl))
  have connected := closed.step (.connect _ (ascii "C1"))
  have polled := connected.step
    (.poll _ (reported [2, 3]) (Buffer.zero _) rfl (by decide +kernel))
  exact polled.step (.skip _ 1 ⟨3, pollin, 0⟩ rfl (by decide +kernel) rfl)

theorem World.back_answered : World.back.Answered 2 (.accepting 6 (.holding (ascii "C1"))) where
  newcomer := fun _ => ⟨⟨ascii "C1", 2, none, 1⟩, by decide +kernel, by decide +kernel⟩
  frame := by
    have elsewhere : ∀ conn ∈ World.back.accepted,
        World.back.server.pollVec.fds[2]? ≠ some conn.fd := by
      decide +kernel
    intro conn member _ here
    exact absurd here (elsewhere conn member)

theorem welcomed_iff_back :
    Welcomed .back (.accepting 6 (.holding (ascii "C1"))) ⟨ascii "C1", 2, none, 1⟩ ↔
      Noticed .back (ascii "C1") :=
  welcomed_iff World.back_reachable (by decide +kernel) (by decide +kernel) (by decide +kernel)
    World.back_answered

/-- `C1` is turned away because of the connection that it has closed. -/
theorem turned_away_by_itself :
    ¬ ∀ (w : World) (iter : Nat) (kernel : Kernel) (new : Connection),
      (network noEmptyDatagram).Reachable w → w.iter = some iter → w.server.listens iter →
        w.backlog.head? = some new → w.Answered iter kernel → Welcomed w kernel new := by
  intro always
  have welcomed := always .back 2 _ ⟨ascii "C1", 2, none, 1⟩ World.back_reachable
    (by decide +kernel) (by decide +kernel) (by decide +kernel) World.back_answered
  have refused : World.back.registration (.accepting 6 (.holding (ascii "C1"))) =
      .clientVecClientAlreadyConnected := by
    decide +kernel
  obtain ⟨old, member, _, _, alive⟩ := welcomed.refused refused
  have closed : ∀ old ∈ World.back.accepted, old.closed ≠ none := by decide +kernel
  exact closed old member alive

end TopicBroker
