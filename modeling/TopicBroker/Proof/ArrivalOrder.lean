import TopicBroker.Lib.Mailbox
import TopicBroker.Proof.Queues

/-!
# The order in which a client gets its messages

A message is sent when it arrives or waits in the queue, which is handed over
from its end when the client comes back. What a client is sent is therefore in
the order of arrival exactly as long as it never comes back to more than one message.
-/

namespace TopicBroker

/-! ## The messages of one client -/

def Event.sentTo (id : Bytes) : Event → Option Nat
  | .sent client _ source _ _ => if client = id then some source.slot else none
  | _ => none

def Event.queuedFor (id : Bytes) : Event → Option Nat
  | .queued client source _ => if client = id then some source.slot else none
  | _ => none

/-- The arrival numbers of the messages that the client was sent, first to last. -/
def sentSlots (id : Bytes) (log : List Event) : List Nat := log.filterMap (Event.sentTo id)

/-- The arrival numbers of the messages that were queued for the client. -/
def queuedSlots (id : Bytes) (log : List Event) : List Nat := log.filterMap (Event.queuedFor id)

/-- The arrival numbers of the messages that wait for the client. -/
def ClientType.pendingSlots (c : ClientType) : List Nat := c.readyMsgs.elems.map Ref.slot

/-- What every client was sent, and behind it what still waits for it, is in the
order of arrival, and nothing that was queued is missing. -/
structure InArrivalOrder (log : List Event) (s : Server) : Prop where
  order : ∀ c ∈ s.clients.elems, (sentSlots c.id log ++ c.pendingSlots).Pairwise (· < ·)
  complete : ∀ c ∈ s.clients.elems, ∀ slot ∈ queuedSlots c.id log,
    slot ∈ sentSlots c.id log ++ c.pendingSlots

theorem sentSlots_append (id : Bytes) (log more : List Event) :
    sentSlots id (log ++ more) = sentSlots id log ++ sentSlots id more := List.filterMap_append

theorem queuedSlots_append (id : Bytes) (log more : List Event) :
    queuedSlots id (log ++ more) = queuedSlots id log ++ queuedSlots id more :=
  List.filterMap_append

theorem Arrived.sentSlots_lt {log : List Event} {s : Server} (arrived : Arrived log s)
    (id : Bytes) :
    ∀ slot ∈ sentSlots id log, slot < s.udpMsgs.elems.length := by
  intro slot member
  obtain ⟨event, inside, selected⟩ := List.mem_filterMap.mp member
  cases event with
  | sent client fd source live frame =>
      rw [Event.sentTo] at selected
      split at selected
      · rw [← Option.some.inj selected]
        exact arrived.sent _ _ _ _ _ inside
      · cases selected
  | received answer => cases selected
  | queued client source stored => cases selected

theorem Arrived.pendingSlots_lt {log : List Event} {s : Server} (arrived : Arrived log s)
    {c : ClientType} (member : c ∈ s.clients.elems) :
    ∀ slot ∈ c.pendingSlots, slot < s.udpMsgs.elems.length := by
  intro slot pending
  obtain ⟨source, inside, rfl⟩ := List.mem_map.mp pending
  exact arrived.pending c member source inside

/-! ## One round -/

/-- The round serves the listener, and the connection brings the id of the client. -/
def ClientType.Returns (c : ClientType) (kernel : Kernel) (iter : Nat) (s : Server) : Prop :=
  s.pollVec.fds[iter]? = some s.tcpSocket ∧ s.tcpSocket ≠ s.udpSocket ∧ c.id = kernel.newcomer s

/-- Every queue takes one step of a mailbox in the round. -/
structure Turns (kernel : Kernel) (iter : Nat) (s t : Server) (log : List Event) : Prop where
  old : ∀ (index : Nat) (c : ClientType), s.clients.elems[index]? = some c →
    ∃ d, t.clients.elems[index]? = some d ∧ d.id = c.id ∧
      Mailbox.Step s.udpMsgs.elems.length (c.Returns kernel iter s) c.pendingSlots
        (sentSlots c.id log) (queuedSlots c.id log) d.pendingSlots
  unknown : ∀ id, (∀ c ∈ s.clients.elems, c.id ≠ id) →
    sentSlots id log = [] ∧ queuedSlots id log = []

/-- The id and the queue of a client. -/
def ClientType.mailbox (c : ClientType) : Bytes × List Ref := (c.id, c.readyMsgs.elems)

section Turns

variable {kernel : Kernel} {iter : Nat} {s t : Server} {log : List Event}

/-- A round that logs nothing and leaves the queues alone. -/
theorem Turns.of_mailboxes
    (same : t.clients.elems.map ClientType.mailbox = s.clients.elems.map ClientType.mailbox)
    (idle : ∀ c ∈ s.clients.elems, c.Returns kernel iter s → c.readyMsgs.elems = []) :
    Turns kernel iter s t [] where
  old := by
    intro index c here
    have mapped : (t.clients.elems.map ClientType.mailbox)[index]? = some c.mailbox := by
      rw [same, List.getElem?_map, here]
      rfl
    rw [List.getElem?_map] at mapped
    obtain ⟨d, there, eq⟩ := Option.map_eq_some_iff.mp mapped
    obtain ⟨id, queue⟩ := Prod.mk.inj eq
    refine ⟨d, there, id, ?_⟩
    rw [ClientType.pendingSlots, ClientType.pendingSlots, queue]
    refine .quiet _ fun returns => ?_
    rw [idle c (List.mem_of_getElem? here) returns]
    rfl
  unknown := fun _ _ => ⟨rfl, rfl⟩

theorem Turns.received (turns : Turns kernel iter s t log) (answer : Option Bytes) :
    Turns kernel iter s t (.received answer :: log) := ⟨turns.old, turns.unknown⟩

/-! ## Publication -/

theorem notices_foreign (kernel : Kernel) (s : Server) (source : Ref) (msg : UdpType)
    {id : Bytes} (index : Nat) {c : ClientType} (different : c.id ≠ id) :
    sentSlots id (notices kernel s source msg index c) = [] ∧
      queuedSlots id (notices kernel s source msg index c) = [] := by
  unfold notices
  split
  · split <;> simp [sentSlots, queuedSlots, Event.sentTo, Event.queuedFor, different]
  · split <;> simp [sentSlots, queuedSlots, Event.sentTo, Event.queuedFor, different]

theorem allNotices_foreign (kernel : Kernel) (s : Server) (source : Ref) (msg : UdpType)
    {id : Bytes} {clients : List ClientType} (first : Nat) (absent : ∀ c ∈ clients, c.id ≠ id) :
    sentSlots id (allNotices kernel s source msg first clients) = [] ∧
      queuedSlots id (allNotices kernel s source msg first clients) = [] := by
  induction clients generalizing first with
  | nil => exact ⟨rfl, rfl⟩
  | cons head rest ih =>
      obtain ⟨sent, queued⟩ := notices_foreign kernel s source msg first
        (absent head (by simp))
      obtain ⟨later, stacked⟩ := ih (first + 1) fun c member => absent c (by simp [member])
      rw [allNotices, sentSlots_append, queuedSlots_append, sent, queued, later, stacked]
      exact ⟨rfl, rfl⟩

/-- What the loop over the clients logs about one of them is its notice. -/
theorem allNotices_own (kernel : Kernel) (s : Server) (source : Ref) (msg : UdpType)
    {clients : List ClientType} (first : Nat) (distinct : (clients.map ClientType.id).Nodup)
    {index : Nat} {c : ClientType} (here : clients[index]? = some c) :
    sentSlots c.id (allNotices kernel s source msg first clients) =
        sentSlots c.id (notices kernel s source msg (first + index) c) ∧
      queuedSlots c.id (allNotices kernel s source msg first clients) =
        queuedSlots c.id (notices kernel s source msg (first + index) c) := by
  induction clients generalizing first index with
  | nil => cases here
  | cons head rest ih =>
      obtain ⟨apart, later⟩ := List.nodup_cons.mp distinct
      rw [allNotices, sentSlots_append, queuedSlots_append]
      cases index with
      | zero =>
          cases here
          have absent : ∀ d ∈ rest, d.id ≠ c.id := by
            intro d member same
            exact apart (List.mem_map.mpr ⟨d, member, same⟩)
          obtain ⟨sent, queued⟩ := allNotices_foreign kernel s source msg (first + 1) absent
          rw [sent, queued, List.append_nil, List.append_nil]
          exact ⟨rfl, rfl⟩
      | succ index =>
          have different : head.id ≠ c.id := by
            intro same
            exact apart (List.mem_map.mpr ⟨c, List.mem_of_getElem? here, same.symm⟩)
          obtain ⟨sent, queued⟩ := notices_foreign kernel s source msg first different
          have shifted : first + (index + 1) = first + 1 + index := by omega
          rw [sent, queued, List.nil_append, List.nil_append, shifted]
          exact ih (first + 1) later here

/-- The message is sent to a connected client, whose queue is empty, or it is
put behind what waits. -/
theorem notices_step {source : Ref} {msg : UdpType} {next : Nat} {back : Prop} (away : ¬ back)
    (slot : source.slot = next) (index : Nat) {c : ClientType}
    (idle : c.status = .active → c.readyMsgs.elems = []) :
    Mailbox.Step next back c.pendingSlots
      (sentSlots c.id (notices kernel s source msg index c))
      (queuedSlots c.id (notices kernel s source msg index c))
      (c.notified source msg.name).pendingSlots := by
  subst slot
  unfold notices ClientType.notified
  by_cases taken : c.takes msg.name
  · have empty : c.pendingSlots = [] := by
      rw [ClientType.pendingSlots, idle taken.1]
      rfl
    rw [if_pos taken, if_neg (ClientType.takes_excludes_keeps taken), empty]
    split
    · simpa [sentSlots, queuedSlots, List.filterMap_cons, Event.sentTo, Event.queuedFor] using
        Mailbox.Step.deliver away
    · exact .quiet _ fun _ => rfl
  · rw [if_neg taken]
    by_cases kept : c.keeps msg.name
    · rw [if_pos kept, if_pos kept]
      simpa [sentSlots, queuedSlots, List.filterMap_cons, Event.sentTo, Event.queuedFor,
        ClientType.pendingSlots, ClientType.stack] using Mailbox.Step.stack c.pendingSlots away
    · rw [if_neg kept, if_neg kept]
      exact .quiet _ fun returned => absurd returned away

theorem publish_turns {r : Server} (inv : ClientTable s.clients)
    (idle : ∀ c ∈ s.clients.elems, c.status = .active → c.readyMsgs.elems = [])
    (away : ∀ c : ClientType, ¬ c.Returns kernel iter s) (sameClients : r.clients = s.clients)
    (sameMsgs : r.udpMsgs = s.udpMsgs) (ran : (publish kernel r).err = .ok) :
    Turns kernel iter s (publish kernel r).server (publish kernel r).log := by
  obtain ⟨_, _, clients, server, elems, log⟩ := publish_ok ran
  have slot : (r.nextRef kernel).slot = s.udpMsgs.elems.length := by rw [← sameMsgs]; rfl
  rw [server, log, sameClients]
  constructor
  · intro index c here
    have there : clients.elems[index]? = some (c.notified (r.nextRef kernel) r.parsed.name) := by
      rw [elems, sameClients, List.getElem?_map, here]
      rfl
    obtain ⟨sent, queued⟩ := allNotices_own kernel (r.stored kernel) (r.nextRef kernel) r.parsed 0
      inv.ids here
    refine ⟨_, there, c.notified_id _ _, ?_⟩
    rw [sent, queued]
    exact notices_step (away c) slot _ (idle c (List.mem_of_getElem? here))
  · exact fun id absent => allNotices_foreign _ _ _ _ 0 absent

/-! ## Reconnection -/

theorem Resent.slots {c : ClientType} {fd : Int} {sources : List Ref}
    (resent : Resent s c fd sources log) (id : Bytes) :
    sentSlots id log = (if c.id = id then sources.map Ref.slot else []) ∧
      queuedSlots id log = [] := by
  induction resent with
  | nil => simp [sentSlots, queuedSlots]
  | cons first _ ih =>
      obtain ⟨frame, rfl⟩ := first
      obtain ⟨sent, queued⟩ := ih
      rw [sentSlots] at sent
      rw [queuedSlots] at queued
      rw [sentSlots, queuedSlots, List.filterMap_cons, List.filterMap_cons, sent, queued]
      by_cases same : c.id = id
      · simp [Event.sentTo, Event.queuedFor, same]
      · simp [Event.sentTo, Event.queuedFor, same]

/-- When every message can be packed and every send succeeds, the whole queue
is sent from its end. -/
theorem retransmitTopicsToClient_drained (s : Server) {clientFd : Int} {index : Nat}
    {c : ClientType}
    (found : locate (fun c => c.fd == clientFd) s.clients.elems = some (index, c))
    (sends : kernel.Sends) (valid : 0 ≤ clientFd)
    (packable : ∀ source ∈ c.readyMsgs.elems, (s.deref kernel source).Known) :
    (retransmitTopicsToClient kernel clientFd s).server.clients.elems =
        s.clients.elems.set index (c.truncate 0) ∧
      Resent s c clientFd c.readyMsgs.elems.reverse
        (retransmitTopicsToClient kernel clientFd s).log := by
  obtain ⟨server, sent⟩ := @retransmitTopicsToClient_found kernel _ _ _ _ found
  obtain ⟨_, resent⟩ := retransmitLoop_resent kernel s c clientFd
    (Nat.le_refl c.readyMsgs.elems.length) s.sendMsg
  have kept :
      (retransmitLoop kernel s c clientFd c.readyMsgs.elems.length s.sendMsg).1.kept = 0 := by
    rcases retransmitLoop_kept kernel s c clientFd c.readyMsgs.elems.length s.sendMsg with
      none_kept | ⟨source, pending, unknown⟩
    · exact none_kept
    · exact absurd (packable source pending) unknown
  have left :
      (retransmitLoop kernel s c clientFd c.readyMsgs.elems.length s.sendMsg).1.left = 0 := by
    cases ended : (retransmitLoop kernel s c clientFd c.readyMsgs.elems.length s.sendMsg).1 with
    | drained => rfl
    | packFailed err remaining =>
        rw [ended] at kept
        exact kept
    | sendFailed remaining => exact absurd ended (retransmitLoop_sends sends s c valid _ _ _)
  rw [left, List.take_length, List.drop_zero, ← sent] at resent
  rw [server, kept]
  exact ⟨rfl, resent⟩

/-- Whoever comes back is handed the whole queue from its end; nobody else is
concerned, and whoever is refused is connected and has nothing pending. -/
theorem Listened.turns (listened : Listened kernel s log t) (inv : ConnectionTable s)
    (idle : ∀ c ∈ s.clients.elems, c.status = .active → c.readyMsgs.elems = [])
    (packable : ∀ c ∈ s.clients.elems, ∀ source ∈ c.readyMsgs.elems, (s.deref kernel source).Known)
    (sends : kernel.Sends) (atTcp : s.pollVec.fds[iter]? = some s.tcpSocket)
    (notUdp : s.tcpSocket ≠ s.udpSocket) : Turns kernel iter s t log := by
  cases listened with
  | refused recvMsg pollVec clients positive samePoll sameClients refused =>
      refine .of_mailboxes (congrArg _ sameClients) ?_
      rintro c member ⟨_, _, same⟩
      cases status : c.status with
      | active => exact idle c member status
      | dead =>
          rw [← same] at refused
          exact absurd (inv.registers_again member status _ _) refused
  | joined recvMsg clients index c positive unopened enrolled found =>
      have unowned := inv.unowned positive unopened
      rcases enrolled.located unowned found with ⟨back, here, same, dead, rfl, after⟩ |
        ⟨rfl, absent, after⟩
      · obtain ⟨elems, resent⟩ := retransmitTopicsToClient_drained
          (s.enrolling (kernel.accept s.pollVec.fds) recvMsg clients) found sends
          (Int.le_of_lt positive) (packable back (List.mem_of_getElem? here))
        have elems := elems.trans (after _)
        obtain ⟨inside, _⟩ := List.getElem?_eq_some_iff.mp here
        constructor
        · intro other d there
          obtain ⟨sent, queued⟩ := resent.slots d.id
          rw [elems, sent, queued]
          by_cases place : index = other
          · subst place
            rw [here] at there
            cases there
            refine ⟨_, List.getElem?_set_self inside, rfl, ?_⟩
            rw [if_pos rfl, List.map_reverse]
            exact .flush _ ⟨atTcp, notUdp, same⟩
          · have different : back.id ≠ d.id := by
              intro equal
              exact place (inv.index_of_id here there equal.symm).symm
            refine ⟨d, by rw [List.getElem?_set_ne place, there], rfl, ?_⟩
            rw [if_neg different]
            exact .quiet _ fun returns => absurd (same.trans returns.2.2.symm) different
        · intro id others
          obtain ⟨sent, queued⟩ := resent.slots id
          rw [sent, queued, if_neg (others back (List.mem_of_getElem? here))]
          exact ⟨rfl, rfl⟩
      · obtain ⟨elems, resent⟩ := retransmitTopicsToClient_drained
          (s.enrolling (kernel.accept s.pollVec.fds) recvMsg clients) found sends
          (Int.le_of_lt positive) (fun _ impossible => nomatch impossible)
        have elems := elems.trans (after _)
        have nothing : (retransmitTopicsToClient kernel (kernel.accept s.pollVec.fds)
            (s.enrolling (kernel.accept s.pollVec.fds) recvMsg clients)).log = [] :=
          List.forall₂_nil_left_iff.mp resent
        rw [nothing]
        refine ⟨fun other d there => ?_, fun _ _ => ⟨rfl, rfl⟩⟩
        obtain ⟨inside, _⟩ := List.getElem?_eq_some_iff.mp there
        refine ⟨d, by rw [elems, List.getElem?_append_left inside, there], rfl, ?_⟩
        exact .quiet _ fun returns =>
          absurd returns.2.2 (absent d (List.mem_of_getElem? there))

/-! ## Every round -/

theorem serveClient_turns (fd : Int) (atFd : s.pollVec.fds[iter]? = some fd)
    (notTcp : fd ≠ s.tcpSocket) :
    Turns kernel iter s (serveClient kernel iter fd s).server
      (serveClient kernel iter fd s).log := by
  have away : ∀ c ∈ s.clients.elems, c.Returns kernel iter s → c.readyMsgs.elems = [] := by
    rintro c _ ⟨atTcp, _⟩
    rw [atFd] at atTcp
    exact absurd (Option.some.inj atTcp) notTcp
  unfold serveClient
  dsimp only
  split
  · split
    · exact .of_mailboxes rfl away
    · rename_i closed
      obtain ⟨index, c, here, _, _, after⟩ := closeActiveClient_ok (not_not.mp closed)
      refine .of_mailboxes ?_ away
      rw [after]
      exact map_set_of_eq here rfl
  · obtain ⟨clients, server, edited⟩ := processServerTcpMsg_edited kernel fd
      { s with recvMsg := (kernel.recvTcpMsg fd s.recvMsg).2 }
    refine .of_mailboxes ?_ away
    rw [server]
    cases edited with
    | same => rfl
    | table index c table here nodup => exact map_set_of_eq here rfl

theorem serveUdp_turns (inv : ClientTable s.clients)
    (idle : ∀ c ∈ s.clients.elems, c.status = .active → c.readyMsgs.elems = [])
    (atUdp : s.pollVec.fds[iter]? = some s.udpSocket) :
    (serveUdp kernel iter s).err = .ok →
      Turns kernel iter s (serveUdp kernel iter s).server (serveUdp kernel iter s).log := by
  have away : ∀ c : ClientType, ¬ c.Returns kernel iter s := by
    rintro c ⟨atTcp, notUdp, _⟩
    rw [atUdp] at atTcp
    exact notUdp (Option.some.inj atTcp).symm
  refine serveUdp_branches (motive := fun done => done.err = .ok →
    Turns kernel iter s done.server done.log) kernel iter s ?_ ?_ ?_
  · exact fun _ ran => (publish_turns inv idle away rfl rfl ran).received none
  · intro addr payload _ _ _
    refine Turns.received ?_ _
    exact .of_mailboxes rfl fun c _ returns => absurd returns (away c)
  · intro addr payload _ _ ran
    exact (publish_turns (r := s.receive addr payload) inv idle away rfl rfl ran).received _

theorem serve_turns (inv : ConnectionTable s)
    (idle : ∀ c ∈ s.clients.elems, c.status = .active → c.readyMsgs.elems = [])
    (packable : ∀ c ∈ s.clients.elems, ∀ source ∈ c.readyMsgs.elems, (s.deref kernel source).Known)
    (sends : s.pollVec.fds[iter]? = some s.tcpSocket → kernel.Sends) :
    (serve kernel iter s).err = .ok →
      Turns kernel iter s (serve kernel iter s).server (serve kernel iter s).log := by
  refine serve_branches (motive := fun done => done.err = .ok →
    Turns kernel iter s done.server done.log) kernel iter s ?_ ?_ ?_ ?_
  · intro beyond _
    refine .of_mailboxes rfl ?_
    rintro c _ ⟨atTcp, _⟩
    rw [beyond] at atTcp
    cases atTcp
  · exact fun atUdp ran => serveUdp_turns inv.toClientTable idle atUdp ran
  · exact fun atTcp notUdp ran => (serveListener_listened ran).turns inv idle packable
      (sends atTcp) atTcp notUdp
  · exact fun fd atFd _ notTcp _ => serveClient_turns fd atFd notTcp

end Turns

/-! ## Runs -/

/-- The pending pointers stay good, and every send to a client that comes back succeeds. -/
def resendsAll (s : Server) (iter : Nat) (kernel : Kernel) : Prop :=
  keepsQueues s iter kernel ∧ (s.pollVec.fds[iter]? = some s.tcpSocket → kernel.Sends)

/-- Besides, at most one message waits for the client that comes back. -/
def resendsOne (s : Server) (iter : Nat) (kernel : Kernel) : Prop :=
  resendsAll s iter kernel ∧
    ∀ c ∈ s.clients.elems, c.Returns kernel iter s → c.readyMsgs.elems.length ≤ 1

/-- What holds along every run: the messages that wait for a client are in the
order of arrival, and whatever was queued was sent or still waits. -/
structure Mailboxes (log : List Event) (s : Server) : Prop where
  queues : QueuesAsked log s
  arrived : Arrived log s
  unknown : ∀ id, (∀ c ∈ s.clients.elems, c.id ≠ id) →
    sentSlots id log = [] ∧ queuedSlots id log = []
  waiting : ∀ c ∈ s.clients.elems, c.pendingSlots.Pairwise (· < ·)
  complete : ∀ c ∈ s.clients.elems, ∀ slot ∈ queuedSlots c.id log,
    slot ∈ sentSlots c.id log ++ c.pendingSlots

namespace Mailboxes

variable {log : List Event} {s : Server} {iter : Nat} {kernel : Kernel}

theorem below (mail : Mailboxes log s) {c : ClientType} (member : c ∈ s.clients.elems) :
    ∀ slot ∈ sentSlots c.id log ++ c.pendingSlots, slot < s.udpMsgs.elems.length := by
  intro slot inside
  rcases List.mem_append.mp inside with sent | pending
  · exact mail.arrived.sentSlots_lt c.id slot sent
  · exact mail.arrived.pendingSlots_lt member slot pending

theorem turns (mail : Mailboxes log s) (granted : resendsAll s iter kernel)
    (ran : (serve kernel iter s).err = .ok) :
    Turns kernel iter s (serve kernel iter s).server (serve kernel iter s).log :=
  serve_turns mail.queues.table mail.queues.idle
    (fun _ member _ pending => mail.queues.packable kernel member pending) granted.2 ran

/-- A client after the round was there before, or its id was never seen. -/
theorem source_cases (mail : Mailboxes log s) (granted : resendsAll s iter kernel)
    (ran : (serve kernel iter s).err = .ok) {d : ClientType}
    (member : d ∈ (serve kernel iter s).server.clients.elems) :
    (∃ c ∈ s.clients.elems, d.id = c.id ∧
      Mailbox.Step s.udpMsgs.elems.length (c.Returns kernel iter s) c.pendingSlots
        (sentSlots c.id (serve kernel iter s).log) (queuedSlots c.id (serve kernel iter s).log)
        d.pendingSlots) ∨
      (d.pendingSlots = [] ∧ ∀ c ∈ s.clients.elems, c.id ≠ d.id) := by
  have turns := mail.turns granted ran
  have after := mail.queues.table.round granted.1.1 (serve_round ran)
  obtain ⟨index, there⟩ := List.mem_iff_getElem?.mp member
  rcases Nat.lt_or_ge index s.clients.elems.length with inside | beyond
  · have here := List.getElem?_eq_getElem inside
    obtain ⟨e, place, id, step⟩ := turns.old index _ here
    rw [there] at place
    cases place
    exact Or.inl ⟨_, List.mem_of_getElem? here, id, step⟩
  · refine Or.inr ⟨?_, ?_⟩
    · rw [ClientType.pendingSlots,
        (serve_entries mail.queues.table ran).fresh index d there beyond]
      rfl
    · intro c old same
      obtain ⟨other, here⟩ := List.mem_iff_getElem?.mp old
      obtain ⟨e, place, id, _⟩ := turns.old other c here
      obtain ⟨otherInside, _⟩ := List.getElem?_eq_some_iff.mp here
      have equal := after.index_of_id there place (id.trans same)
      omega

theorem round (mail : Mailboxes log s) (granted : resendsAll s iter kernel)
    (ran : (serve kernel iter s).err = .ok) :
    Mailboxes (log ++ (serve kernel iter s).log) (serve kernel iter s).server := by
  have turns := mail.turns granted ran
  refine ⟨mail.queues.round granted.1 ran, mail.arrived.round (serve_round ran), ?_, ?_, ?_⟩
  · intro id absent
    have before : ∀ c ∈ s.clients.elems, c.id ≠ id := by
      intro c member
      obtain ⟨index, here⟩ := List.mem_iff_getElem?.mp member
      obtain ⟨d, there, same, _⟩ := turns.old index c here
      rw [← same]
      exact absent d (List.mem_of_getElem? there)
    obtain ⟨sent, queued⟩ := mail.unknown id before
    obtain ⟨later, stacked⟩ := turns.unknown id before
    rw [sentSlots_append, queuedSlots_append, sent, queued, later, stacked]
    exact ⟨rfl, rfl⟩
  · intro d member
    rcases mail.source_cases granted ran member with ⟨c, old, _, step⟩ | ⟨nothing, _⟩
    · exact step.waiting_ordered (mail.waiting c old) (mail.arrived.pendingSlots_lt old)
    · rw [nothing]
      exact .nil
  · intro d member slot queued
    rw [queuedSlots_append] at queued
    rw [sentSlots_append]
    rcases mail.source_cases granted ran member with ⟨c, old, same, step⟩ | ⟨_, unseen⟩
    · rw [same] at queued ⊢
      have kept := step.complete slot
      simp only [List.mem_append] at queued kept ⊢
      rcases queued with before | now
      · have held := mail.complete c old slot before
        rw [List.mem_append] at held
        tauto
      · tauto
    · rw [(mail.unknown d.id unseen).2, (turns.unknown d.id unseen).2] at queued
      cases queued

/-- The order is kept by a round that finds at most one message. -/
theorem ordered (mail : Mailboxes log s) (granted : resendsOne s iter kernel)
    (ran : (serve kernel iter s).err = .ok)
    (order : ∀ c ∈ s.clients.elems, (sentSlots c.id log ++ c.pendingSlots).Pairwise (· < ·)) :
    ∀ d ∈ (serve kernel iter s).server.clients.elems,
      (sentSlots d.id (log ++ (serve kernel iter s).log) ++ d.pendingSlots).Pairwise (· < ·) := by
  intro d member
  rw [sentSlots_append]
  rcases mail.source_cases granted.1 ran member with ⟨c, old, same, step⟩ | ⟨nothing, unseen⟩
  · rw [same]
    refine step.ordered (order c old) (mail.below old) fun returns => ?_
    rw [ClientType.pendingSlots, List.length_map]
    exact granted.2 c old returns
  · rw [nothing, (mail.unknown d.id unseen).1, ((mail.turns granted.1 ran).unknown d.id unseen).1]
    exact .nil

theorem init {s : Server} (start : (broker resendsAll).init s) : Mailboxes [] s := by
  have queues : QueuesAsked [] s :=
    .of_run (fun s iter kernel (granted : resendsAll s iter kernel) => granted.1) start .refl
  obtain ⟨kernel, hport, started⟩ := start
  have fresh := initServer_fresh started
  refine ⟨queues, ⟨?_, ?_⟩, ?_, ?_, ?_⟩ <;> simp [fresh.clients, sentSlots, queuedSlots]

theorem awake (mail : Mailboxes log s) (revents : Nat → BitVec 16) (cmd : Buffer maxCmdLen) :
    Mailboxes log (s.awake revents cmd) :=
  ⟨mail.queues.awake revents cmd, ⟨mail.arrived.sent, mail.arrived.pending⟩, mail.unknown,
    mail.waiting, mail.complete⟩

theorem of_run {first : Server} (start : (broker resendsAll).init first)
    (run : (broker resendsAll).Run first log s) : Mailboxes log s := by
  refine run.history (init start) ?_
  intro log more s t mail edge
  cases edge with
  | awake revents cmd =>
      rw [List.append_nil]
      exact mail.awake revents cmd
  | serve iter kernel first inside granted ran => exact mail.round granted ran

end Mailboxes

/-- Some client was sent a message behind a later one. -/
def Disordered (log : List Event) : Prop := ∃ id, ¬ (sentSlots id log).Pairwise (· < ·)

theorem Disordered.append {log : List Event} (disordered : Disordered log) (more : List Event) :
    Disordered (log ++ more) := by
  obtain ⟨id, wrong⟩ := disordered
  refine ⟨id, fun order => wrong ?_⟩
  rw [sentSlots_append] at order
  exact (List.pairwise_append.mp order).1

/-- A run whose rounds find one message at most keeps the order. -/
theorem inArrivalOrder_of_run {first s : Server} {log : List Event}
    (start : (broker resendsOne).init first) (run : (broker resendsOne).Run first log s) :
    InArrivalOrder log s := by
  have kept : Mailboxes log s ∧
      ∀ c ∈ s.clients.elems, (sentSlots c.id log ++ c.pendingSlots).Pairwise (· < ·) := by
    refine run.history (I := fun log s => Mailboxes log s ∧ ∀ c ∈ s.clients.elems,
      (sentSlots c.id log ++ c.pendingSlots).Pairwise (· < ·)) ⟨Mailboxes.init start, ?_⟩ ?_
    · obtain ⟨kernel, hport, started⟩ := start
      simp [(initServer_fresh started).clients]
    · rintro log more s t ⟨mail, order⟩ edge
      cases edge with
      | awake revents cmd =>
          rw [List.append_nil]
          exact ⟨mail.awake revents cmd, order⟩
      | serve iter kernel first inside granted ran =>
          exact ⟨mail.round granted.1 ran, mail.ordered granted ran order⟩
  exact ⟨kept.2, kept.1.complete⟩

/-- The first round that finds more than one message puts the log out of order. -/
theorem resendsOne_or_disordered {first s : Server} {log : List Event}
    (start : (broker resendsAll).init first) (run : (broker resendsAll).Run first log s) :
    (broker resendsOne).Run first log s ∨ Disordered log := by
  induction run with
  | refl => exact Or.inl .refl
  | @next log more s t earlier edge ih =>
      rcases ih with ordered | disordered
      · cases edge with
        | awake revents cmd => exact Or.inl (.next ordered (.awake s revents cmd))
        | serve iter kernel first inside granted ran =>
            by_cases single : ∀ c ∈ s.clients.elems, c.Returns kernel iter s →
                c.readyMsgs.elems.length ≤ 1
            · exact Or.inl (.next ordered (.serve s iter kernel first inside ⟨granted, single⟩ ran))
            · simp only [not_forall, not_le] at single
              obtain ⟨c, member, returns, several⟩ := single
              have mail := Mailboxes.of_run start earlier
              obtain ⟨index, here⟩ := List.mem_iff_getElem?.mp member
              obtain ⟨d, _, _, step⟩ := (mail.turns granted ran).old index c here
              refine Or.inr ⟨c.id, ?_⟩
              rw [sentSlots_append]
              refine step.disordered returns (mail.waiting c member) ?_
              rwa [ClientType.pendingSlots, List.length_map]
      · exact Or.inr (disordered.append more)

/-- What the clients get is in the order of arrival exactly in the runs in which
no client comes back to more than one message. -/
theorem inArrivalOrder_iff {first s : Server} {log : List Event}
    (start : (broker resendsAll).init first) (run : (broker resendsAll).Run first log s) :
    InArrivalOrder log s ↔ (broker resendsOne).Run first log s := by
  constructor
  · intro kept
    rcases resendsOne_or_disordered start run with ordered | ⟨id, wrong⟩
    · exact ordered
    · by_cases known : ∃ c ∈ s.clients.elems, c.id = id
      · obtain ⟨c, member, rfl⟩ := known
        exact absurd (List.pairwise_append.mp (kept.order c member)).1 wrong
      · have unseen : ∀ c ∈ s.clients.elems, c.id ≠ id := fun c member same =>
          known ⟨c, member, same⟩
        rw [((Mailboxes.of_run start run).unknown id unseen).1] at wrong
        exact absurd .nil wrong
  · exact inArrivalOrder_of_run start

theorem flawlessInPlace.resendsAll {s : Server} {iter : Nat} {kernel : Kernel}
    (granted : flawlessInPlace s iter kernel) : resendsAll s iter kernel :=
  ⟨granted.keepsQueues, fun _ => granted.1.1.sends⟩

theorem inArrivalOrder_iff_waiting :
    InArrivalOrder waiting.1 waiting.2 ↔
      (broker resendsOne).Run .started waiting.1 waiting.2 :=
  inArrivalOrder_iff ⟨_, _, initServer_started⟩
    (waiting_run fun _ _ _ => flawlessInPlace.resendsAll)

/-- `C1` comes back and is sent the second message first. -/
theorem not_in_arrival_order :
    ¬ ∀ (first s : Server) (log : List Event), (broker resendsAll).init first →
      (broker resendsAll).Run first log s → InArrivalOrder log s := by
  intro always
  have wrong : (play (departure ++ arrivals 2 .inPlace ++ [comeback]) .started).any (fun done =>
      done.2.clients.elems.any fun c => decide (¬ (sentSlots c.id done.1).Pairwise (· < ·))) =
        true := by
    decide +kernel
  obtain ⟨⟨log, t⟩, played, found⟩ := (Option.any_eq_true _ _).mp wrong
  have granted : ∀ entry ∈ departure ++ arrivals 2 .inPlace ++ [comeback], ∀ s,
      resendsAll s entry.1 entry.2 := by
    intro entry member s
    refine (script_flawlessInPlace 2 entry ?_ s).resendsAll
    simp only [absence, List.mem_append] at member ⊢
    rcases member with (leaving | arriving) | returning
    · exact Or.inl (Or.inl (Or.inr leaving))
    · exact Or.inl (Or.inr arriving)
    · exact Or.inr returning
  have kept := always .started t log ⟨_, _, initServer_started⟩ (play_run granted played)
  obtain ⟨c, member, disordered⟩ := List.any_eq_true.mp found
  exact of_decide_eq_true disordered (List.pairwise_append.mp (kept.order c member)).1

end TopicBroker
