import TopicBroker.Proof.Settlement

/-!
# What printing comes from

Every frame that goes out for an id goes to the last connection under the id,
and a subscriber prints the frames that it was handed in their order. So what
was printed under an id, and behind it what is under way, are the messages that
the service delivers to the id.
-/

namespace TopicBroker

/-- The frames that went out for the id. -/
def framesFor (id : Bytes) (log : List Event) : List TcpMsg :=
  log.filterMap fun event =>
    match event with
    | .sent client _ _ _ frame => if client = id then some frame else none
    | _ => none

theorem framesFor_append (id : Bytes) (log more : List Event) :
    framesFor id (log ++ more) = framesFor id log ++ framesFor id more := List.filterMap_append

theorem framesFor_cons_own (id : Bytes) (fd : Int) (source : Ref) (live : Bool) (frame : TcpMsg)
    (log : List Event) :
    framesFor id (.sent id fd source live frame :: log) = frame :: framesFor id log := by
  simp [framesFor]

theorem framesFor_cons_other {id client : Bytes} (different : client ≠ id) (fd : Int)
    (source : Ref) (live : Bool) (frame : TcpMsg) (log : List Event) :
    framesFor id (.sent client fd source live frame :: log) = framesFor id log := by
  simp [framesFor, different]

/-- A log in which the frames for the id are those to the descriptor. -/
theorem framesTo_eq_framesFor {fd : Int} {id : Bytes} {log : List Event}
    (same : ∀ client target source live frame, Event.sent client target source live frame ∈ log →
      (target = fd ↔ client = id)) : framesTo fd log = framesFor id log := by
  refine List.filterMap_congr fun event member => ?_
  cases event with
  | received answer => rfl
  | queued client source stored => rfl
  | sent client target source live frame =>
      have agree := same client target source live frame member
      by_cases own : client = id
      · simp only [own, agree.mpr own, if_true]
      · have apart : target ≠ fd := fun reached => own (agree.mp reached)
        simp only [own, apart, if_false]

theorem framesFor_eq_nil {id : Bytes} {log : List Event}
    (absent : ∀ client target source live frame, Event.sent client target source live frame ∈ log →
      client ≠ id) : framesFor id log = [] := by
  refine List.filterMap_eq_nil_iff.mpr fun event member => ?_
  cases event with
  | received answer => rfl
  | queued client source stored => rfl
  | sent client target source live frame =>
      exact if_neg (absent client target source live frame member)

/-- The clients that are connected after a round, by id and by descriptor. -/
theorem ConnectionTable.same_client {s : Server} (table : ConnectionTable s) {c d : ClientType}
    (first : c ∈ s.clients.elems) (second : d ∈ s.clients.elems) (active : c.status = .active)
    (alive : d.status = .active) : d.fd = c.fd ↔ d.id = c.id := by
  obtain ⟨index, here⟩ := List.mem_iff_getElem?.mp first
  obtain ⟨other, there⟩ := List.mem_iff_getElem?.mp second
  constructor
  · intro same
    have place := table.index_of_fd here there active alive same
    rw [place, here] at there
    rw [Option.some.inj there]
  · intro same
    have place := table.index_of_id here there same
    rw [place, here] at there
    rw [Option.some.inj there]

section Serve

variable {w : Exchange} {kernel : Kernel} {iter : Nat}

/-- A connection that the round accepts and registers is served from then on. -/
theorem joined_serving {peer : Peer} (member : peer ∈ w.joining kernel iter)
    (admitted : peer.admitted = true) :
    peer.link = .serving (kernel.accept w.server.pollVec.fds) ∧
      peer.handed =
        framesTo (kernel.accept w.server.pollVec.fds) (serve kernel iter w.server).log := by
  obtain ⟨_, caller, _, rfl⟩ := mem_joined.mp member
  refine ⟨?_, rfl⟩
  unfold Peer.admitted Caller.accepted at admitted
  dsimp only at admitted
  split at admitted
  · rename_i polled
    exact if_pos polled
  · cases admitted

/-- A round accepts one connection at most. -/
theorem joined_only {peer : Peer} (member : peer ∈ w.joining kernel iter) :
    w.joining kernel iter = [peer] := by
  obtain ⟨listens, caller, first, rfl⟩ := mem_joined.mp member
  unfold Exchange.joining
  dsimp only
  rw [if_pos listens, first]
  rfl

variable (sound : w.Sound)
  (ran : (serve kernel iter w.server).err = .ok) (answered : w.Answered iter kernel)
  (granted : noEmptyDatagram w.server iter kernel)

include sound ran granted

/-- In a round that leaves a client connected the frames to its descriptor are those for its id. -/
theorem framesTo_connected {c : ClientType}
    (listed : c ∈ (serve kernel iter w.server).server.clients.elems) (active : c.status = .active) :
    framesTo c.fd (serve kernel iter w.server).log =
      framesFor c.id (serve kernel iter w.server).log := by
  have table := sound.table.round granted (serve_round ran)
  have sends := (serve_round ran).sendsConnected table.toClientTable
  refine framesTo_eq_framesFor fun client target source live frame member => ?_
  obtain ⟨d, there, alive, rfl, rfl⟩ := sends client target source live frame member
  exact table.same_client listed there active alive

/-- Nobody is sent anything who is not connected after the round. -/
theorem framesFor_absent {id : Bytes}
    (absent : ∀ c ∈ (serve kernel iter w.server).server.clients.elems,
    c.status = .active → c.id ≠ id) : framesFor id (serve kernel iter w.server).log = [] := by
  have table := sound.table.round granted (serve_round ran)
  have sends := (serve_round ran).sendsConnected table.toClientTable
  refine framesFor_eq_nil fun client target source live frame member => ?_
  obtain ⟨d, there, alive, rfl, rfl⟩ := sends client target source live frame member
  exact absent d there alive

theorem framesTo_closed {fd : Int} (gone : fd ∉ (serve kernel iter w.server).server.pollVec.fds) :
    framesTo fd (serve kernel iter w.server).log = [] := by
  have table := sound.table.round granted (serve_round ran)
  have sends := (serve_round ran).sendsConnected table.toClientTable
  refine List.filterMap_eq_nil_iff.mpr fun event member => ?_
  cases event with
  | received answer => rfl
  | queued client source stored => rfl
  | sent client target source live frame =>
      obtain ⟨d, there, alive, _, rfl⟩ := sends client target source live frame member
      refine if_neg fun same => gone ?_
      rw [← same]
      exact table.conn_polled there alive

include answered

/-- The frames for an id go to the last connection under it. -/
theorem getting_served (inside : iter < w.server.pollVec.nfds) (id : Bytes) :
    ((w.under id).flatMap (Peer.getting (serve kernel iter w.server).log)) ++
        ((w.joining kernel iter).filter fun peer => peer.id == id && peer.admitted).flatMap
          Peer.handed = framesFor id (serve kernel iter w.server).log := by
  have after := sound.served ran inside granted answered
  have chosen : ∀ peer, peer ∈ (w.joining kernel iter).filter (fun peer =>
      peer.id == id && peer.admitted) ↔
        peer ∈ w.joining kernel iter ∧ peer.id = id ∧ peer.admitted = true := by
    simp [List.mem_filter]
  have last := sound.onlyLast id
  by_cases there : ∃ c ∈ (serve kernel iter w.server).server.clients.elems,
      c.status = .active ∧ c.id = id
  · obtain ⟨c, listed, active, own⟩ := there
    have frames := framesTo_connected sound ran granted listed active
    rw [own] at frames
    rcases sound.connected_after ran answered after.table listed active with
      ⟨peer, member, link, same⟩ | ⟨peer, member, link, same⟩
    · -- a connection that was there before
      have serving : peer.Serving := ⟨c.fd, link⟩
      have among : peer ∈ w.under id :=
        Exchange.mem_under.mpr ⟨member, same.trans own, serving.admitted⟩
      have gets : peer.getting (serve kernel iter w.server).log =
          framesFor id (serve kernel iter w.server).log := by
        unfold Peer.getting
        rw [link]
        exact frames
      have nobody : (w.joining kernel iter).filter (fun peer => peer.id == id && peer.admitted) =
          [] := by
        refine List.eq_nil_iff_forall_not_mem.mpr fun new joined => ?_
        obtain ⟨joins, named, admitted⟩ := (chosen new).mp joined
        exact sound.joins_free ran answered joins admitted member
          (same.trans (own.trans named.symm)) serving
      rw [nobody, List.flatMap_nil, List.append_nil]
      exact last.flatMap_eq (fun _ _ still => Peer.getting_still still)
        (fun other also growing => last.unique among also serving growing ▸ gets)
        (Or.inr ⟨peer, among, serving⟩)
    · -- the connection that the round accepted
      have serving : peer.Serving := ⟨c.fd, link⟩
      obtain ⟨linked, handed⟩ := joined_serving member serving.admitted
      have target : c.fd = kernel.accept w.server.pollVec.fds :=
        Link.serving.inj (link.symm.trans linked)
      have idle : (w.under id).flatMap (Peer.getting (serve kernel iter w.server).log) = [] := by
        refine List.flatMap_eq_nil_iff.mpr fun old listed => Peer.getting_still fun growing => ?_
        obtain ⟨accepted, named, _⟩ := Exchange.mem_under.mp listed
        exact sound.joins_free ran answered member serving.admitted accepted
          (named.trans (own.symm.trans same.symm)) growing
      have only : (w.joining kernel iter).filter (fun peer => peer.id == id && peer.admitted) =
          [peer] := by
        rw [joined_only member]
        exact List.filter_eq_self.mpr fun other listed => by
          rw [List.mem_singleton.mp listed, serving.admitted, beq_iff_eq.mpr (same.trans own)]
          rfl
      rw [idle, only, List.nil_append, List.flatMap_singleton, handed, ← target, frames]
  · have absent : ∀ c ∈ (serve kernel iter w.server).server.clients.elems, c.status = .active →
        c.id ≠ id := fun c listed active own => there ⟨c, listed, active, own⟩
    have idle : (w.under id).flatMap (Peer.getting (serve kernel iter w.server).log) = [] := by
      refine List.flatMap_eq_nil_iff.mpr fun old listed => ?_
      obtain ⟨accepted, named, _⟩ := Exchange.mem_under.mp listed
      by_cases growing : old.Serving
      · obtain ⟨fd, link⟩ := growing
        have gone : fd ∉ (serve kernel iter w.server).server.pollVec.fds := by
          intro polled
          obtain ⟨c, listed, active, _, own⟩ := after.registered _
            (List.mem_append_left _ (List.mem_map_of_mem accepted)) fd
            ((Peer.after_link link).trans (if_pos polled))
          exact absent c listed active (own.trans (Peer.after_id.trans named))
        unfold Peer.getting
        rw [link]
        exact framesTo_closed sound ran granted gone
      · exact Peer.getting_still growing
    have nobody : (w.joining kernel iter).filter (fun peer => peer.id == id && peer.admitted) =
        [] := by
      refine List.eq_nil_iff_forall_not_mem.mpr fun new joined => ?_
      obtain ⟨joins, named, admitted⟩ := (chosen new).mp joined
      obtain ⟨link, _⟩ := joined_serving joins admitted
      obtain ⟨c, listed, active, _, own⟩ :=
        after.registered new (List.mem_append_right _ joins) _ link
      exact absent c listed active (own.trans named)
    rw [idle, nobody, framesFor_absent sound ran granted absent]
    rfl

theorem handed_served (inside : iter < w.server.pollVec.nfds) (id : Bytes) :
    ((w.served kernel iter).under id).flatMap Peer.handed =
      (w.under id).flatMap Peer.handed ++ framesFor id (serve kernel iter w.server).log := by
  rw [Exchange.under_served_flatMap, ← getting_served sound ran answered granted inside id,
    ← List.append_assoc]
  refine congrArg (· ++ _) ?_
  refine Eq.trans (List.flatMap_congr fun peer _ => Peer.after_handed) ?_
  exact (sound.onlyLast id).flatMap_append fun peer _ still => Peer.getting_still still

end Serve

/-! ## Frames and messages -/

/-- What is printed for messages. -/
def printedLines (msgs : List UdpType) : Bytes := msgs.flatMap fun msg => msg.line ++ ascii "\n"

/-- Of the messages the subscriber has printed the first ones, the frames of the
others are on the way to it. -/
def Caller.Received (caller : Caller) (msgs : List UdpType) : Prop :=
  ∃ printed coming frames, msgs = printed ++ coming ∧ caller.main.shown = printedLines printed ∧
    List.Forall₂ TcpMsg.Shows frames coming ∧ caller.down = joined (frames.map TcpMsg.toBuffer)

theorem texts_eq {frames : List TcpMsg} {msgs : List UdpType}
    (shows : List.Forall₂ TcpMsg.Shows frames msgs) :
    frames.flatMap TcpMsg.text = printedLines msgs := by
  induction shows with
  | nil => rfl
  | cons first _ ih =>
      rw [List.flatMap_cons, ih, TcpMsg.text, first.line]
      rfl

theorem Caller.Prints.received {caller : Caller} {handed : List TcpMsg} {msgs : List UdpType}
    (prints : caller.Prints handed) (shows : List.Forall₂ TcpMsg.Shows handed msgs) :
    caller.Received msgs := by
  obtain ⟨seen, coming, rfl, shown, wire⟩ := prints
  obtain ⟨first, second, one, other, rfl⟩ :
      ∃ first second, List.Forall₂ TcpMsg.Shows seen first ∧
        List.Forall₂ TcpMsg.Shows coming second ∧ msgs = first ++ second := by
    refine ⟨msgs.take seen.length, msgs.drop seen.length, ?_, ?_,
      (List.take_append_drop _ _).symm⟩
    · exact (List.forall₂_take_append _ _ _ shows.flip).flip
    · exact (List.forall₂_drop_append _ _ _ shows.flip).flip
  exact ⟨first, second, coming, rfl, shown.trans (texts_eq one), other, wire⟩

namespace Delivered

variable {log : List Event} {delivered : List (Bytes × UdpType)}

/-- The frames for an id show the messages for the id. -/
theorem shows (carried : Delivered log delivered) (id : Bytes) :
    List.Forall₂ TcpMsg.Shows (framesFor id log) (mine id delivered) := by
  have only : framesFor id log = framesFor id (log.filter Event.isSent) := by
    unfold framesFor
    rw [List.filterMap_filter]
    refine List.filterMap_congr fun event _ => ?_
    cases event <;> rfl
  rw [only]
  unfold Delivered at carried
  generalize log.filter Event.isSent = sent at carried ⊢
  induction carried with
  | nil => exact .nil
  | @cons event delivery events deliveries carries _ ih =>
      obtain ⟨fd, source, frame, rfl, shows⟩ := carries
      by_cases own : delivery.1 = id
      · subst own
        have front : mine delivery.1 (delivery :: deliveries) =
            delivery.2 :: mine delivery.1 deliveries := mine_cons_own _ _ _
        rw [front, framesFor_cons_own]
        exact .cons shows ih
      · have skipped : mine id (delivery :: deliveries) = mine id deliveries :=
          mine_cons_other own _ _
        rw [skipped, framesFor_cons_other own]
        exact ih

/-- Every frame that went out shows a message. -/
theorem shown (carried : Delivered log delivered) {event : Event} (among : event ∈ log)
    (sent : event.isSent = true) : ∃ delivery, event.Carries delivery := by
  have listed : event ∈ log.filter Event.isSent := List.mem_filter.mpr ⟨among, sent⟩
  unfold Delivered at carried
  generalize log.filter Event.isSent = events at carried listed
  induction carried with
  | nil => cases listed
  | cons first _ ih =>
      rcases List.mem_cons.mp listed with rfl | later
      · exact ⟨_, first⟩
      · exact ih later

/-- Every frame that went out has a NUL behind its line. -/
theorem ended (carried : Delivered log delivered) {fd : Int} :
    ∀ frame ∈ framesTo fd log, 0 ∈ frame.data.bytes := by
  intro frame member
  obtain ⟨event, among, selected⟩ := List.mem_filterMap.mp member
  cases event with
  | received answer => cases selected
  | queued client source stored => cases selected
  | sent client target source live sent =>
      obtain ⟨delivery, _, _, _, same, shows⟩ := carried.shown among rfl
      cases same
      dsimp only at selected
      split at selected
      · cases selected
        exact shows.nul
      · cases selected

end Delivered

/-! ## Every step -/

/-- What is known of the frames after a log. -/
structure Supplied (reliable : Prop) (log : List Event) (w : Exchange) : Prop where
  agreed : w.Agreed
  serving : Serving reliable log w.server
  handed : ∀ id, (w.under id).flatMap Peer.handed = framesFor id log
  prints : ∀ peer ∈ w.accepted, peer.Prints peer.handed
  ended : ∀ peer ∈ w.accepted, ∀ frame ∈ peer.handed, 0 ∈ frame.data.bytes
  refused : ∀ peer ∈ w.accepted, peer.admitted = false → peer.handed = []
  waiting : ∀ caller ∈ w.backlog, caller.Prints []

namespace Supplied

variable {reliable : Prop} {log more : List Event} {w v : Exchange}

theorem init (start : (exchange (serviceable reliable)).init w) : Supplied reliable [] w := by
  have agreed := Exchange.Agreed.init start
  obtain ⟨s, begun, rfl⟩ := start
  refine ⟨agreed, .init begun, fun _ => rfl, ?_, ?_, ?_, ?_⟩
  · exact fun _ impossible => nomatch impossible
  · exact fun _ impossible => nomatch impossible
  · exact fun _ impossible => nomatch impossible
  · exact fun _ impossible => nomatch impossible

theorem served (supplied : Supplied reliable log w) {kernel : Kernel} {iter : Nat}
    (inside : iter < w.server.pollVec.nfds) (answered : w.Answered iter kernel)
    (granted : serviceable reliable w.server iter kernel)
    (ran : (serve kernel iter w.server).err = .ok) (agreed : (w.served kernel iter).Agreed) :
    Supplied reliable (log ++ (serve kernel iter w.server).log) (w.served kernel iter) := by
  have sound := supplied.agreed.toSound
  have quiet : noEmptyDatagram w.server iter kernel := granted.1.1
  have serving := supplied.serving.round granted ran
  obtain ⟨delivered, _, carried⟩ := serving.served
  have whole : ∀ (fd : Int), ∀ frame ∈ framesTo fd (serve kernel iter w.server).log,
      0 ∈ frame.data.bytes := by
    intro fd frame member
    refine carried.ended frame (?_ : frame ∈ framesTo fd _)
    unfold framesTo
    rw [List.filterMap_append]
    exact List.mem_append_right _ member
  refine ⟨agreed, serving, ?_, ?_, ?_, ?_, ?_⟩
  · intro id
    rw [handed_served sound ran answered quiet inside id, supplied.handed id, framesFor_append]
  · intro peer member
    rcases List.mem_append.mp member with old | new
    · obtain ⟨before, listed, rfl⟩ := List.mem_map.mp old
      exact Peer.after_prints (supplied.prints before listed)
    · obtain ⟨_, caller, first, rfl⟩ := mem_joined.mp new
      exact (supplied.waiting caller (List.mem_of_mem_head? first)).read.given _
  · intro peer member
    rcases List.mem_append.mp member with old | new
    · obtain ⟨before, listed, rfl⟩ := List.mem_map.mp old
      intro frame handed
      rw [Peer.after_handed] at handed
      rcases List.mem_append.mp handed with early | late
      · exact supplied.ended before listed frame early
      · unfold Peer.getting at late
        split at late
        · exact whole _ frame late
        · cases late
    · obtain ⟨_, caller, _, rfl⟩ := mem_joined.mp new
      exact whole _
  · intro peer member refused
    rcases List.mem_append.mp member with old | new
    · obtain ⟨before, listed, rfl⟩ := List.mem_map.mp old
      rw [Peer.after_admitted] at refused
      have still : ¬ before.Serving := by
        intro growing
        rw [growing.admitted] at refused
        cases refused
      rw [Peer.after_still still]
      exact supplied.refused before listed refused
    · obtain ⟨_, caller, _, rfl⟩ := mem_joined.mp new
      unfold Peer.admitted Caller.accepted at refused
      dsimp only at refused
      split at refused
      · cases refused
      · rename_i gone
        exact framesTo_closed sound ran quiet gone
  · intro caller member
    change caller ∈ (if w.server.listens iter then w.backlog.tail else w.backlog) at member
    split at member
    · exact supplied.waiting caller (List.mem_of_mem_tail member)
    · exact supplied.waiting caller member

theorem step (supplied : Supplied reliable log w)
    (edge : ExchangeStep (serviceable reliable) w more v) : Supplied reliable (log ++ more) v := by
  have agreed := supplied.agreed.step (fun _ _ _ granted => granted.1.1) edge
  cases edge with
  | move step =>
      rw [List.append_nil]
      cases step with
      | connect id free short kernel hport taken stdin this out started =>
          refine { supplied with agreed := agreed, waiting := ?_ }
          intro caller member
          rcases List.mem_append.mp member with old | new
          · exact supplied.waiting caller old
          · rw [List.mem_singleton.mp new]
            exact ⟨[], [], rfl, rfl, rfl⟩
      | wait index caller here running taken handed past call =>
          refine { supplied with agreed := agreed, waiting := ?_ }
          intro other member
          rcases mem_set_cases member with rfl | old
          · have listed := List.mem_of_getElem? here
            exact (supplied.waiting caller listed).round
              (supplied.agreed.callers caller listed).speaks.valid
              (fun _ impossible => nomatch impossible) taken handed past call
          · exact supplied.waiting other old
      | talk index peer here running taken handed past call =>
          have listed := List.mem_of_getElem? here
          refine { supplied with
            agreed := agreed, handed := ?_, prints := ?_, ended := ?_, refused := ?_ }
          · intro id
            have same : ((w.accepted.set index (peer.spoken taken handed past call)).filter
                fun other => other.id == id && other.admitted).flatMap Peer.handed =
                  (w.under id).flatMap Peer.handed :=
              flatMap_filter_set here rfl rfl
            exact same.trans (supplied.handed id)
          · intro other member
            rcases mem_set_cases member with rfl | old
            · exact (supplied.prints peer listed).round
                (supplied.agreed.peers peer listed).speaks.valid (supplied.ended peer listed) taken
                handed past call
            · exact supplied.prints other old
          · intro other member
            rcases mem_set_cases member with rfl | old
            · exact supplied.ended peer listed
            · exact supplied.ended other old
          · intro other member
            rcases mem_set_cases member with rfl | old
            · exact supplied.refused peer listed
            · exact supplied.refused other old
  | awake revents cmd =>
      rw [List.append_nil]
      exact { supplied with agreed := agreed, serving := supplied.serving.awake revents cmd }
  | serve iter kernel first inside answered granted ran =>
      exact supplied.served inside answered granted ran agreed

end Supplied

end TopicBroker
