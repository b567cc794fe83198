import TopicBroker.Proof.Bounds
import TopicBroker.Proof.Exchange
import TopicBroker.Proof.Lifetimes

/-!
# What typing comes to, and what printing comes from

The lines that were typed under an id determine its topics at the server, up to
the requests that are under way. What was printed under an id are the messages
that the service delivers to it, up to the frames that are under way.
-/

namespace TopicBroker

/-! ## The connections under one id -/

namespace Exchange

/-- The connections that were registered under the id, in their order. -/
def under (w : Exchange) (id : Bytes) : List Peer :=
  w.accepted.filter fun peer => peer.id == id && peer.admitted

theorem mem_under {w : Exchange} {id : Bytes} {peer : Peer} :
    peer ∈ w.under id ↔ peer ∈ w.accepted ∧ peer.id = id ∧ peer.admitted = true := by
  simp [under, List.mem_filter]

theorem Sound.onlyLast {w : Exchange} (sound : w.Sound) (id : Bytes) :
    OnlyLast Peer.Serving (w.under id) := by
  refine (sound.order.filter _).imp_of_mem ?_
  intro first second one other apart
  obtain ⟨_, own, _⟩ := mem_under.mp one
  obtain ⟨_, same, admitted⟩ := mem_under.mp other
  exact apart (own.trans same.symm) admitted

theorem under_served (w : Exchange) (kernel : Kernel) (iter : Nat) (id : Bytes) :
    (w.served kernel iter).under id =
      (w.under id).map (Peer.after (serve kernel iter w.server).server.pollVec.fds
          w.server.pollVec.fds[iter]? (serve kernel iter w.server).log) ++
        (w.joining kernel iter).filter fun peer => peer.id == id && peer.admitted := by
  unfold under Exchange.served
  dsimp only
  rw [List.filter_append, List.filter_map]
  congr 3
  funext peer
  simp only [Function.comp_apply, Peer.after_id, Peer.after_admitted]

/-- What is counted over the connections under an id after a round. -/
theorem under_served_flatMap {α : Type} (f : Peer → List α) (w : Exchange) (kernel : Kernel)
    (iter : Nat) (id : Bytes) :
    ((w.served kernel iter).under id).flatMap f =
      ((w.under id).flatMap fun peer => f (peer.after
          (serve kernel iter w.server).server.pollVec.fds w.server.pollVec.fds[iter]?
          (serve kernel iter w.server).log)) ++
        ((w.joining kernel iter).filter fun peer => peer.id == id && peer.admitted).flatMap f := by
  rw [under_served, List.flatMap_append, List.flatMap_map]

end Exchange

/-- A served connection was registered. -/
theorem Peer.Serving.admitted {peer : Peer} (serving : peer.Serving) : peer.admitted = true := by
  obtain ⟨fd, link⟩ := serving
  unfold Peer.admitted
  rw [link]
  rfl

/-- A round reads at most one request, and it serves the connection then. -/
theorem Peer.hearing_cases (peer : Peer) {served : Option Int} (hears : peer.hearing served ≠ []) :
    ∃ fd line, peer.link = .serving fd ∧ served = some fd ∧ peer.hearing served = [line] := by
  unfold Peer.hearing at hears ⊢
  split
  · rename_i fd link
    rw [link] at hears
    dsimp only at hears
    split at hears
    · rename_i here
      rw [if_pos here]
      cases waiting : peer.pending with
      | nil =>
          rw [waiting] at hears
          exact absurd rfl hears
      | cons line lines => exact ⟨fd, line, link, here, rfl⟩
    · exact absurd rfl hears
  · rename_i still
    split at hears
    · rename_i fd link
      exact absurd link (still fd)
    · exact absurd rfl hears

/-! ## Topics -/

namespace Exchange

/-- All requests that were typed under the id. -/
def asked (w : Exchange) (id : Bytes) : List Bytes := (w.under id).flatMap fun peer => peer.asked

/-- The requests under the id that the server has read. -/
def heeded (w : Exchange) (id : Bytes) : List Bytes := (w.under id).flatMap Peer.heeded

/-- The requests under the id that are under way. -/
def pending (w : Exchange) (id : Bytes) : List Bytes := (w.under id).flatMap Peer.pending

/-- Nobody has asked for a topic before the first request. -/
def noTopics : Bytes → Option ClientOption := fun _ => none

/-- The topics are those of the requests that the server has read. -/
def Heeds (w : Exchange) : Prop := ∀ id, w.server.topicsOf id = heedAll noTopics (w.heeded id)

section Serve

variable {w : Exchange} {kernel : Kernel} {iter : Nat} (sound : w.Sound)
  (ran : (serve kernel iter w.server).err = .ok) (answered : w.Answered iter kernel)

include sound answered

include ran in
/-- Nothing is read when the round serves no connection with a request. -/
theorem serve_unheard (first : 1 ≤ iter)
    (quiet : ∀ peer ∈ w.accepted, peer.hearing w.server.pollVec.fds[iter]? = []) :
    (serve kernel iter w.server).server.topicsOf = w.server.topicsOf := by
  refine serve_topicsOf ?_ ran
  intro fd here notUdp notTcp
  have notStdin : fd ≠ stdinFileno := by
    obtain ⟨conns, fds, _, listed⟩ := sound.table.polled
    rw [fds] at here
    match iter, first, here with
    | 1, _, here => exact absurd (Option.some.inj here).symm notUdp
    | 2, _, here => exact absurd (Option.some.inj here).symm notTcp
    | place + 3, _, here =>
        obtain ⟨c, member, active, rfl⟩ := (listed fd).mp (List.mem_of_getElem? here)
        exact (sound.table.sockets c member active).1
  obtain ⟨c, listed, active, rfl⟩ := sound.table.connected (List.mem_of_getElem? here) notStdin
    notUdp notTcp
  obtain ⟨peer, member, link, _⟩ := sound.connected c listed active
  have nothing := quiet peer member
  unfold Peer.hearing at nothing
  rw [link] at nothing
  simp only [here, if_true, List.take_eq_nil_iff, Nat.one_ne_zero, false_or] at nothing
  have speaks := (sound.peers peer member).speaks
  rw [nothing] at speaks
  have positive := (sound.table.active_iff c listed).mp active
  have hands := (answered.request peer member c.fd link here).1
  rw [speaks.silent] at hands
  rw [hands.torn (Int.le_of_lt positive)]
  exact Err.noConfusion

/-- The server does what the line says that it reads. -/
theorem serve_heard {peer : Peer} (member : peer ∈ w.accepted) {line : Bytes}
    (hears : peer.hearing w.server.pollVec.fds[iter]? = [line]) :
    (serve kernel iter w.server).server.topicsOf =
      Function.update w.server.topicsOf peer.id (heed (w.server.topicsOf peer.id) line) := by
  unfold Peer.hearing at hears
  split at hears
  · rename_i fd link
    split at hears
    · rename_i here
      obtain ⟨lines, pending⟩ : ∃ lines, peer.pending = line :: lines := by
        cases waiting : peer.pending with
        | nil =>
            rw [waiting] at hears
            cases hears
        | cons other lines =>
            rw [waiting] at hears
            obtain rfl : other = line := by simpa using hears
            exact ⟨lines, rfl⟩
      have speaks := (sound.peers peer member).speaks
      rw [pending] at speaks
      obtain ⟨frame, brings, opened⟩ := speaks.first
      obtain ⟨⟨rest, front⟩, _⟩ := opened.read
      obtain ⟨_, _, notUdp, notTcp⟩ := sound.polled member link
      obtain ⟨c, listed, active, rfl, _⟩ := sound.registered peer member fd link
      have positive := (sound.table.active_iff c listed).mp active
      have heard := (answered.request peer member _ link here).1.recv front
        (Int.le_of_lt positive) w.server.recvMsg
      rw [(serve_request brings here notUdp notTcp heard).1]
      exact answer_topicsOf (s := { w.server with recvMsg := frame }) sound.table.toClientTable
        sound.distinct answered.subscribe (sound.owns member link) line
    · cases hears
  · cases hears

include ran in
theorem Heeds.served (heeds : w.Heeds) (first : 1 ≤ iter) : (w.served kernel iter).Heeds := by
  intro id
  have total : (w.served kernel iter).heeded id = w.heeded id ++
      (w.under id).flatMap (Peer.hearing w.server.pollVec.fds[iter]?) := by
    have grown : (w.under id).flatMap (fun peer => (peer.after
        (serve kernel iter w.server).server.pollVec.fds w.server.pollVec.fds[iter]?
        (serve kernel iter w.server).log).heeded) =
        w.heeded id ++ (w.under id).flatMap (Peer.hearing w.server.pollVec.fds[iter]?) := by
      refine Eq.trans (List.flatMap_congr fun peer member => ?_)
        ((sound.onlyLast id).flatMap_append fun peer _ still => Peer.hearing_still still)
      exact (sound.peers peer (mem_under.mp member).1).heeded
    have newcomers : ((w.joining kernel iter).filter fun peer =>
        peer.id == id && peer.admitted).flatMap Peer.heeded = [] := by
      refine List.flatMap_eq_nil_iff.mpr fun peer member => ?_
      obtain ⟨_, _, _, rfl⟩ := mem_joined.mp (List.mem_filter.mp member).1
      exact List.take_zero
    unfold Exchange.heeded at grown ⊢
    rw [under_served_flatMap, newcomers, List.append_nil, grown]
  change (serve kernel iter w.server).server.topicsOf id = _
  rw [total, heedAll_append, ← heeds id]
  by_cases speaks : ∃ peer ∈ w.accepted, peer.hearing w.server.pollVec.fds[iter]? ≠ []
  · obtain ⟨peer, member, hears⟩ := speaks
    obtain ⟨fd, line, link, here, only⟩ := peer.hearing_cases hears
    rw [serve_heard sound answered member only]
    by_cases own : id = peer.id
    · subst own
      have serving : peer.Serving := ⟨fd, link⟩
      have among : peer ∈ w.under peer.id := mem_under.mpr ⟨member, rfl, serving.admitted⟩
      have last := sound.onlyLast peer.id
      have read : (w.under peer.id).flatMap (Peer.hearing w.server.pollVec.fds[iter]?) = [line] :=
        last.flatMap_eq (fun _ _ still => Peer.hearing_still still)
          (fun other listed also => last.unique among listed serving also ▸ only)
          (Or.inr ⟨peer, among, serving⟩)
      rw [read, Function.update_self]
      rfl
    · have nothing : (w.under id).flatMap (Peer.hearing w.server.pollVec.fds[iter]?) = [] := by
        refine List.flatMap_eq_nil_iff.mpr fun other listed => by_contra fun also => ?_
        obtain ⟨accepted, named, _⟩ := mem_under.mp listed
        obtain ⟨target, _, linked, there, _⟩ := other.hearing_cases also
        obtain rfl : fd = target := Option.some.inj (here.symm.trans there)
        obtain ⟨c, among, active, rfl, _⟩ := sound.registered peer member fd link
        exact own (named.symm.trans ((sound.owner accepted among active linked).symm.trans
          (sound.owner member among active link)))
      rw [nothing, Function.update_of_ne own]
      rfl
  · have quiet : ∀ peer ∈ w.accepted, peer.hearing w.server.pollVec.fds[iter]? = [] :=
      fun peer member => by_contra fun hears => speaks ⟨peer, member, hears⟩
    have nothing : (w.under id).flatMap (Peer.hearing w.server.pollVec.fds[iter]?) = [] :=
      List.flatMap_eq_nil_iff.mpr fun peer member => quiet peer (mem_under.mp member).1
    rw [nothing]
    exact congrFun (serve_unheard sound ran answered first quiet) id

end Serve

/-- Typing and reading have come to the same so far. -/
structure Agreed (w : Exchange) : Prop extends w.Sound where
  heeds : w.Heeds

namespace Agreed

variable {w v : Exchange} {allowed : Server → Nat → Kernel → Prop} {log : List Event}

theorem init (start : (exchange allowed).init w) : w.Agreed := by
  obtain ⟨s, ⟨kernel, hport, started⟩, rfl⟩ := start
  have fresh := initServer_fresh started
  refine ⟨.start fresh, ?_⟩
  intro id
  have absent : clientMap s.clients id = none := by
    apply clientMap_absent
    intro c member
    rw [fresh.clients] at member
    cases member
  change (clientMap s.clients).topicsOf id = _
  rw [Registry.topicsOf, absent]
  rfl

theorem step (heard : ∀ s iter kernel, allowed s iter kernel → noEmptyDatagram s iter kernel)
    (agreed : w.Agreed) (edge : ExchangeStep allowed w log v) : v.Agreed := by
  obtain ⟨sound, heeds⟩ := agreed
  cases edge with
  | move step =>
      refine ⟨sound.move step, ?_⟩
      cases step with
      | connect id free short kernel hport taken stdin this out started => exact heeds
      | wait index caller here running taken handed past call => exact heeds
      | talk index peer here running taken handed past call =>
          intro id
          have well := sound.peers peer (List.mem_of_getElem? here)
          have same : ((w.accepted.set index (peer.spoken taken handed past call)).filter
              fun other => other.id == id && other.admitted).flatMap Peer.heeded = w.heeded id :=
            flatMap_filter_set here rfl (Peer.spoken_pending well.within taken handed past call).2
          exact (heeds id).trans (congrArg (heedAll noTopics) same.symm)
  | awake revents cmd => exact ⟨sound.awake revents cmd, heeds⟩
  | serve iter kernel first inside answered granted ran =>
      exact ⟨sound.served ran inside (heard _ _ _ granted) answered,
        heeds.served sound ran answered first⟩

end Agreed

end Exchange

/-- A subscriber that starts and sends 700 bytes at once. -/
def startedC1 : Except InitClientErr Subscriber × (Nat × Bytes) :=
  initClient (Outlet.sliced fun _ => 699).put .willing (ascii "C1") 8080 (0, [])

def Subscriber.started : Subscriber := startedC1.1.toOption.get (by decide +kernel)

theorem Caller.connected_up (id : Bytes) (this : Subscriber) (stdin : Bytes) (out : Nat × Bytes) :
    (Caller.connected id this stdin out).up = out.2 := rfl

namespace Exchange

/-- `C1` has connected, with a command at its terminal. -/
def calling : Exchange :=
  { start .started with
    backlog := [.connected (ascii "C1") .started (ascii "subscribe news 1\n") startedC1.2] }

theorem calling_head :
    calling.backlog.head? =
      some (.connected (ascii "C1") .started (ascii "subscribe news 1\n") startedC1.2) := by
  unfold calling
  exact List.head?_cons

/-- It is registered. -/
def met : Exchange := calling.served (.accepting 5 (idFrame (ascii "C1"))) 2

/-- The one subscriber has gone through a round in which the entry is ready. -/
def talked (w : Exchange) (entry : Nat) : Exchange :=
  { w with
    accepted := w.accepted.map fun peer =>
      peer.spoken (fun _ => 699) (fun _ => 899) []
        ⟨1, fun index => if index = entry then pollin else 0⟩ }

def typed : Exchange := met.talked 0

/-- The request that is under way. -/
def request : TcpMsg :=
  .ofBuffer ((Buffer.zero _).splice 0 (typed.accepted.flatMap fun peer => peer.up))

def subscribed : Exchange := typed.served (.reading request) 3

/-- A datagram has come. -/
def published : Exchange := subscribed.served .willing 1

def printed : Exchange := published.talked 1

end Exchange

theorem Kernel.hands_of_whole {kernel : Kernel} {frame : TcpMsg}
    (whole : ∀ call asked, kernel.recv call asked = frame.toBuffer.bytes) :
    kernel.Hands frame.toBuffer.bytes := by
  refine ⟨fun _ => sizeofTcpMsg, fun fd msg => ?_⟩
  by_cases valid : 0 ≤ fd
  · obtain ⟨reached, received, _⟩ :=
      TopicBroker.recvTcpMsg_whole (Inlet.sliced fun _ => sizeofTcpMsg) valid (by decide)
        msg.toBuffer (show (Inlet.sliced _).left (0, frame.toBuffer.bytes) =
          frame.toBuffer.bytes ++ [] from (List.append_nil _).symm)
    rw [Kernel.recvTcpMsg_whole whole valid msg, received]
    exact congrArg (Prod.mk Err.ok) frame.ofBuffer_toBuffer.symm
  · have negative := Int.not_le.mp valid
    unfold Kernel.recvTcpMsg TopicBroker.recvTcpMsg
    rw [if_pos negative, if_pos negative]

namespace Exchange

theorem calling_answered : calling.Answered 2 (.accepting 5 (idFrame (ascii "C1"))) where
  newcomer _ := by
    have sent : startedC1.2.2 = (idFrame (ascii "C1")).toBuffer.bytes := by decide +kernel
    refine ⟨_, calling_head, ?_⟩
    rw [Caller.connected_up, sent]
    exact Kernel.hands_of_whole fun _ _ => rfl
  request := fun _ impossible => nomatch impossible
  sends := fun _ impossible => nomatch impossible
  resends _ caller _ _ frame msg := by
    have willing : (Kernel.accepting 5 (idFrame (ascii "C1"))).Sends :=
      (Kernel.willing_grants rfl rfl (by decide) rfl rfl rfl).sends
    exact Kernel.sendTcpMsg_ok willing frame (by decide +kernel) msg
  subscribe := rfl

section Conversation

variable {allowed : Server → Nat → Kernel → Prop}
  (granted : ∀ s iter kernel, flawlessInPlace s iter kernel → allowed s iter kernel)

include granted

end Conversation

end Exchange

end TopicBroker
