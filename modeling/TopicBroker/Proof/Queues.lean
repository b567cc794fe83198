import TopicBroker.Proof.Entries
import TopicBroker.Proof.Ledger
import TopicBroker.Proof.Retransmission

/-!
# What a queue is kept for

While a client is away its subscriptions cannot change, and while it is
connected its queue is empty. So whatever is pending is about a topic that the
client has under store-and-forward at that moment.
-/

namespace TopicBroker

/-- Rounds without an empty datagram that keep the pending pointers good. -/
def keepsQueues (s : Server) (iter : Nat) (kernel : Kernel) : Prop :=
  noEmptyDatagram s iter kernel ∧ keepsPending s iter kernel

/-! ## The stored messages -/

/-- A round leaves the stored messages in their slots. -/
theorem Round.udpMsgs_prefix {kernel : Kernel} {iter : Nat} {s t : Server} {log : List Event}
    (ran : Round kernel iter s log t) : s.udpMsgs.elems <+: t.udpMsgs.elems := by
  cases ran with
  | published heard r clients atUdp received room known notified =>
      change s.udpMsgs.elems <+: (r.stored kernel).udpMsgs.elems
      rw [Server.stored_elems, received.same.1]
      exact List.prefix_append _ _
  | idle recvMsg => exact List.prefix_rfl
  | emptied addr payload atUdp answer empty => exact List.prefix_rfl
  | rejected recvMsg pollVec clients samePoll sameClients => exact List.prefix_rfl
  | registered id fd recvMsg sendMsg clients index c kept left log positive unopened enrolled
      found shorter complete resent => exact List.prefix_rfl
  | disconnected fd recvMsg index c atFd notUdp notTcp here owner active => exact List.prefix_rfl
  | requested recvMsg clients edited => exact List.prefix_rfl

/-- Every stored message has a known type. -/
def StoredKnown (s : Server) : Prop := ∀ msg ∈ s.udpMsgs.elems, msg.Known

theorem StoredKnown.round {kernel : Kernel} {iter : Nat} {s t : Server} {log : List Event}
    (stored : StoredKnown s) (ran : Round kernel iter s log t) : StoredKnown t := by
  cases ran with
  | published heard r clients atUdp received room known notified =>
      intro msg member
      change msg ∈ (r.stored kernel).udpMsgs.elems at member
      rw [Server.stored_elems, received.same.1] at member
      rcases List.mem_append.mp member with old | new
      · exact stored msg old
      · rw [List.mem_singleton.mp new]
        exact known
  | idle recvMsg => exact stored
  | emptied addr payload atUdp answer empty => exact stored
  | rejected recvMsg pollVec clients samePoll sameClients => exact stored
  | registered id fd recvMsg sendMsg clients index c kept left log positive unopened enrolled
      found shorter complete resent => exact stored
  | disconnected fd recvMsg index c atFd notUdp notTcp here owner active => exact stored
  | requested recvMsg clients edited => exact stored

/-- A pending pointer designates a stored message. -/
theorem QueueHistory.stored {log : List Event} {s : Server} (history : QueueHistory log s)
    {c : ClientType} (member : c ∈ s.clients.elems) {source : Ref}
    (pending : source ∈ c.readyMsgs.elems) :
    ∃ msg, s.stored? source = some msg ∧ msg ∈ s.udpMsgs.elems := by
  obtain ⟨block, msg, queued⟩ := history.pending c member source pending
  have held := history.held c.id source msg queued
  exact ⟨msg, by rw [Server.stored?, if_pos block, held], List.mem_of_getElem? held⟩

/-! ## One entry -/

section Entry

variable {kernel : Kernel} {s t : Server} {c d : ClientType}

/-- Whoever is connected after the round has an empty queue, as long as what
was pending could be packed. -/
theorem EntryStep.idle (step : EntryStep kernel s t c d)
    (idle : c.status = .active → c.readyMsgs.elems = [])
    (packable : ∀ source ∈ c.readyMsgs.elems, (s.deref kernel source).Known)
    (active : d.status = .active) : d.readyMsgs.elems = [] := by
  cases step with
  | same => exact idle active
  | stacked source msg keeps stored =>
      have alive : c.status = .active := active
      rw [keeps.1] at alive
      cases alive
  | returned fd kept dead emptied =>
      rcases emptied with rfl | ⟨source, pending, unknown⟩
      · rfl
      · exact absurd (packable source pending) unknown
  | edited table alive => exact idle alive
  | closed alive => cases active

/-- What is pending after the round is about a topic under store-and-forward
when it was before: the table of an entry changes only while its queue is empty. -/
theorem EntryStep.asked (step : EntryStep kernel s t c d)
    (idle : c.status = .active → c.readyMsgs.elems = [])
    (asked : ∀ source ∈ c.readyMsgs.elems, ∀ msg, t.stored? source = some msg →
      c.table.option? msg.name = some .sf) :
    ∀ source ∈ d.readyMsgs.elems, ∀ msg, t.stored? source = some msg →
      d.table.option? msg.name = some .sf := by
  intro source pending msg stored
  cases step with
  | same => exact asked source pending msg stored
  | stacked new published keeps held =>
      rcases List.mem_append.mp pending with old | last
      · exact asked source old msg stored
      · rw [List.mem_singleton.mp last, held] at stored
        rw [← Option.some.inj stored]
        exact keeps.2
  | returned fd kept dead emptied =>
      exact asked source (List.mem_of_mem_take pending) msg stored
  | edited table alive =>
      have empty := idle alive
      change source ∈ c.readyMsgs.elems at pending
      rw [empty] at pending
      cases pending
  | closed alive => exact asked source pending msg stored

end Entry

/-! ## The invariant -/

/-- The queue of a connected client is empty, and what is pending was asked for. -/
structure QueuesAsked (log : List Event) (s : Server) : Prop where
  table : ConnectionTable s
  history : QueueHistory log s
  known : StoredKnown s
  idle : ∀ c ∈ s.clients.elems, c.status = .active → c.readyMsgs.elems = []
  asked : ∀ c ∈ s.clients.elems, ∀ source ∈ c.readyMsgs.elems, ∀ msg,
    s.stored? source = some msg → c.table.option? msg.name = some .sf

namespace QueuesAsked

variable {log : List Event} {s : Server}

/-- Whatever is pending can be packed. -/
theorem packable (queues : QueuesAsked log s) (kernel : Kernel) {c : ClientType}
    (member : c ∈ s.clients.elems) {source : Ref} (pending : source ∈ c.readyMsgs.elems) :
    (s.deref kernel source).Known := by
  obtain ⟨msg, stored, listed⟩ := queues.history.stored member pending
  rw [Server.deref, stored, Option.getD_some]
  exact queues.known msg listed

/-- A pending pointer that is still good designates the message that it did. -/
theorem asked_later (queues : QueuesAsked log s) {t : Server}
    (prefixed : s.udpMsgs.elems <+: t.udpMsgs.elems) {c : ClientType}
    (member : c ∈ s.clients.elems) {source : Ref} (pending : source ∈ c.readyMsgs.elems)
    {msg : UdpType} (stored : t.stored? source = some msg) :
    c.table.option? msg.name = some .sf := by
  obtain ⟨block, held, queued⟩ := queues.history.pending c member source pending
  have slot := queues.history.held c.id source held queued
  refine queues.asked c member source pending msg ?_
  rw [Server.stored?, if_pos block, slot]
  unfold Server.stored? at stored
  split at stored
  · obtain ⟨more, longer⟩ := prefixed
    obtain ⟨inside, _⟩ := List.getElem?_eq_some_iff.mp slot
    rw [← longer, List.getElem?_append_left inside, slot] at stored
    exact stored
  · cases stored

theorem round {kernel : Kernel} {iter : Nat} (queues : QueuesAsked log s)
    (granted : keepsQueues s iter kernel) (ran : (serve kernel iter s).err = .ok) :
    QueuesAsked (log ++ (serve kernel iter s).log) (serve kernel iter s).server := by
  have round := serve_round ran
  have entries := serve_entries queues.table ran
  refine ⟨queues.table.round granted.1 round, queues.history.round granted.2 round,
    queues.known.round round, ?_, ?_⟩
  · intro d member
    rcases entries.source_cases member with empty | ⟨c, old, step⟩
    · exact fun _ => empty
    · exact step.idle (queues.idle c old) fun source pending =>
        queues.packable kernel old pending
  · intro d member
    rcases entries.source_cases member with empty | ⟨c, old, step⟩
    · simp [empty]
    · exact step.asked (queues.idle c old) fun source pending msg stored =>
        queues.asked_later round.udpMsgs_prefix old pending stored

theorem awake (queues : QueuesAsked log s) (revents : Nat → BitVec 16) (cmd : Buffer maxCmdLen) :
    QueuesAsked log (s.awake revents cmd) :=
  ⟨queues.table.awake revents cmd, ⟨queues.history.held, queues.history.pending⟩, queues.known,
    queues.idle, queues.asked⟩

theorem of_run {allowed : Server → Nat → Kernel → Prop}
    (kept : ∀ s iter kernel, allowed s iter kernel → keepsQueues s iter kernel)
    {first s : Server} {log : List Event} (start : (broker allowed).init first)
    (run : (broker allowed).Run first log s) : QueuesAsked log s := by
  refine run.history ?_ ?_
  · obtain ⟨kernel, hport, started⟩ := start
    have fresh := initServer_fresh started
    refine ⟨fresh.connectionTable, ⟨?_, ?_⟩, ?_, ?_, ?_⟩ <;>
      simp [StoredKnown, fresh.clients, fresh.udpMsgs]
  · intro log more s t queues edge
    cases edge with
    | awake revents cmd =>
        rw [List.append_nil]
        exact queues.awake revents cmd
    | serve iter kernel first inside granted ran => exact queues.round (kept _ _ _ granted) ran

end QueuesAsked

/-! ## Queues of the topics asked for -/

/-- What is read through any pending pointer, and what is sent to a client that
comes back, is about a topic that the client has under store-and-forward. -/
structure KeptAsAsked (s : Server) : Prop where
  queued : ∀ c ∈ s.clients.elems, ∀ source ∈ c.readyMsgs.elems, ∀ kernel,
    c.table.option? (s.deref kernel source).name = some .sf
  resent : ∀ kernel, (serveListener kernel s).err = .ok → ∀ id fd source live frame,
    Event.sent id fd source live frame ∈ (serveListener kernel s).log →
      ∃ c ∈ s.clients.elems, c.id = id ∧
        c.table.option? (s.deref kernel source).name = some .sf

/-- A round at another entry than the UDP socket sends only what is pending. -/
theorem Round.sent_pending {kernel : Kernel} {iter : Nat} {s t : Server} {log : List Event}
    (ran : Round kernel iter s log t) (other : s.pollVec.fds[iter]? ≠ some s.udpSocket)
    {id : Bytes} {fd : Int} {source : Ref} {live : Bool} {frame : TcpMsg}
    (sent : Event.sent id fd source live frame ∈ log) :
    ∃ c ∈ s.clients.elems, c.id = id ∧ source ∈ c.readyMsgs.elems := by
  cases ran with
  | published heard r clients atUdp received room known notified => exact absurd atUdp other
  | emptied addr payload atUdp answer empty => exact absurd atUdp other
  | registered newcomer fd recvMsg sendMsg clients index c kept left log positive unopened enrolled
      found shorter complete resent =>
      obtain ⟨pointer, inside, _, eq⟩ := resent.mem sent
      cases eq
      exact enrolled.descends c (locate_mem found) source
        (List.mem_of_mem_drop (List.mem_reverse.mp inside))
  | idle recvMsg => cases sent
  | rejected recvMsg pollVec clients samePoll sameClients => cases sent
  | disconnected fd recvMsg index c atFd notUdp notTcp here owner active => cases sent
  | requested recvMsg clients edited => cases sent

/-- As long as no growth moves the array while a pointer is pending, nothing is
kept for a client that did not ask for it. -/
theorem kept_as_asked {s : Server} (reached : (broker keepsQueues).Reachable s) :
    KeptAsAsked s := by
  obtain ⟨first, log, start, run⟩ := reached
  have queues := QueuesAsked.of_run (fun _ _ _ granted => granted) start run
  have queued : ∀ c ∈ s.clients.elems, ∀ source ∈ c.readyMsgs.elems, ∀ kernel,
      c.table.option? (s.deref kernel source).name = some .sf := by
    intro c member source pending kernel
    obtain ⟨msg, stored, _⟩ := queues.history.stored member pending
    rw [Server.deref, stored, Option.getD_some]
    exact queues.asked c member source pending msg stored
  refine ⟨queued, ?_⟩
  intro kernel ran id fd source live frame sent
  have elsewhere : s.pollVec.fds[s.pollVec.fds.length]? ≠ some s.udpSocket := by simp
  obtain ⟨c, member, same, pending⟩ :=
    (serveListener_round s.pollVec.fds.length ran).sent_pending elsewhere sent
  exact ⟨c, member, same, queued c member source pending kernel⟩

theorem flawlessInPlace.keepsQueues {s : Server} {iter : Nat} {kernel : Kernel}
    (granted : flawlessInPlace s iter kernel) : keepsQueues s iter kernel :=
  ⟨granted.1.2.noEmpty, granted.2⟩

theorem waiting_run {allowed : Server → Nat → Kernel → Prop}
    (granted : ∀ s iter kernel, flawlessInPlace s iter kernel → allowed s iter kernel) :
    (broker allowed).Run .started waiting.1 waiting.2 := by
  refine play_run ?_ (play_waiting.trans (congrArg some (Prod.eta waiting).symm))
  intro entry member s
  refine granted s _ _ (script_flawlessInPlace 2 entry ?_ s)
  simp only [absence, List.mem_append] at member ⊢
  tauto

theorem kept_as_asked_waiting : KeptAsAsked waiting.2 :=
  kept_as_asked ⟨_, _, ⟨_, _, initServer_started⟩,
    waiting_run fun _ _ _ => flawlessInPlace.keepsQueues⟩

/-- Where the array was before it moved anything may be found. -/
theorem kept_for_another_topic :
    ¬ ∀ s, (broker noEmptyDatagram).Reachable s → KeptAsAsked s := by
  intro always
  have wrong : (play (absence 2 .moves) .started).any (fun done =>
      done.2.clients.elems.any fun c => c.readyMsgs.elems.any fun source =>
        c.table.option? (done.2.deref .willing source).name != some .sf) = true := by
    decide +kernel
  obtain ⟨⟨log, t⟩, played, found⟩ := (Option.any_eq_true _ _).mp wrong
  have granted : ∀ entry ∈ absence 2 .moves, ∀ s, noEmptyDatagram s entry.1 entry.2 := by
    intro entry member s
    have script := script_flawless (show Realloc.moves ≠ .fails by decide) 2
    exact (script entry (List.mem_append_left _ member) s).2.noEmpty
  have kept := always t (.run (.init ⟨_, _, initServer_started⟩) (play_run granted played))
  obtain ⟨c, member, found⟩ := List.any_eq_true.mp found
  obtain ⟨source, pending, different⟩ := List.any_eq_true.mp found
  have asked := kept.queued c member source pending .willing
  simp [asked] at different

end TopicBroker
