import TopicBroker.Model.IdBlock
import TopicBroker.Proof.Rounds

/-!
# Ids that fit their block

An id of at most nine bytes is registered as if its block had no end. A longer
one is written past the block when it is registered for the first time, and
only then.
-/

namespace TopicBroker

/-- Every allocation that the registration of a new id asks for is done. -/
def RegisterAlloc.grants (alloc : RegisterAlloc) (clients : ClientVec) : Prop :=
  (clients.full = true → alloc.entities = true) ∧ alloc.id = true ∧ alloc.topics = true ∧
    alloc.options = true ∧ alloc.readyMsgs = true

/-- The id gets an entry of its own. -/
structure NewEntry (clients : ClientVec) (clientId : Bytes) (alloc : RegisterAlloc) : Prop where
  absent : ∀ c ∈ clients.elems, c.id ≠ clientId
  granted : alloc.grants clients

/-- An id gets an entry of its own when it is unknown and the registration succeeds. -/
theorem newEntry_iff {clients : ClientVec} {clientId : Bytes} {alloc : RegisterAlloc}
    (clientFd : Int) :
    NewEntry clients clientId alloc ↔
      locate (fun c => c.id == clientId) clients.elems = none ∧
        (registerNewClient clients clientId clientFd alloc).1 = .ok := by
  constructor
  · rintro ⟨absent, entities, id, topics, options, readyMsgs⟩
    have missed : locate (fun c => c.id == clientId) clients.elems = none :=
      locate_eq_none_iff.mpr fun c member => by simpa using absent c member
    have roomy : (clients.full && !alloc.entities) = false := by simpa using entities
    refine ⟨missed, ?_⟩
    simp [registerNewClient, missed, roomy, id, topics, options, readyMsgs]
  · rintro ⟨missed, ran⟩
    have absent : ∀ c ∈ clients.elems, c.id ≠ clientId := by
      intro c member
      simpa using locate_eq_none_iff.mp missed c member
    rw [registerNewClient, missed] at ran
    refine ⟨absent, ?_⟩
    unfold RegisterAlloc.grants
    grind

/-- A connection and a first frame arrive, and the id in it gets an entry of its own. -/
structure Enrols (kernel : Kernel) (s : Server) : Prop where
  accepted : 0 < kernel.accept s.pollVec.fds
  room : s.pollVec.full = true → kernel.pfds = true
  received : (kernel.recvTcpMsg (kernel.accept s.pollVec.fds) s.recvMsg).1 = .ok
  entry : NewEntry s.clients (kernel.newcomer s) kernel.register

/-- An id that the listener registers for the first time has at most nine bytes. -/
def newcomerFits (s : Server) (iter : Nat) (kernel : Kernel) : Prop :=
  s.pollVec.fds[iter]? = some s.tcpSocket → s.tcpSocket ≠ s.udpSocket → Enrols kernel s →
    (kernel.newcomer s).length < maxIdClientLen

theorem Kernel.newcomer_nulFree (kernel : Kernel) (s : Server) : NulFree (kernel.newcomer s) :=
  cstr_nulFree _

namespace IdBlock

/-! ## Early returns -/

section EarlyReturns

variable {α : Type} {p : Prop} [Decidable p] {early result : α} {rest : Option α}

theorem early_fits (later : ¬ p → rest = some result) :
    (if p then some early else rest) = some (if p then early else result) := by
  by_cases leaves : p
  · rw [if_pos leaves, if_pos leaves]
  · rw [if_neg leaves, if_neg leaves, later leaves]

theorem early_some {done : α} (ran : (if p then some early else rest) = some done)
    (later : ¬ p → rest = some done → result = done) :
    (if p then early else result) = done := by
  by_cases leaves : p
  · rw [if_pos leaves] at ran ⊢
    exact Option.some.inj ran
  · rw [if_neg leaves] at ran ⊢
    exact later leaves ran

end EarlyReturns

/-! ## Registration -/

section Registration

variable {clients : ClientVec} {clientId : Bytes} {alloc : RegisterAlloc}

theorem strcpy_id (free : NulFree clientId) (short : clientId.length < maxIdClientLen) :
    ∃ id, strcpy (Block.malloc maxIdClientLen) clientId = some id ∧ cstr id = clientId :=
  strcpy_fits free (by rwa [Block.malloc_length])

theorem registerNewClient_fits (free : NulFree clientId) (clientFd : Int)
    (fits : NewEntry clients clientId alloc → clientId.length < maxIdClientLen) :
    registerNewClient clients clientId clientFd alloc =
      some (TopicBroker.registerNewClient clients clientId clientFd alloc) := by
  unfold registerNewClient TopicBroker.registerNewClient
  cases found : locate (fun c => c.id == clientId) clients.elems with
  | some pair =>
      dsimp only
      split <;> rfl
  | none =>
      have absent : ∀ c ∈ clients.elems, c.id ≠ clientId := by
        intro c member
        simpa using locate_eq_none_iff.mp found c member
      refine early_fits fun entities => early_fits fun name => early_fits fun topics =>
        early_fits fun options => early_fits fun readyMsgs => ?_
      simp only [Bool.and_eq_true, Bool.not_eq_true', Bool.not_eq_false, not_and]
        at entities name topics options readyMsgs
      obtain ⟨id, copied, same⟩ := strcpy_id free
        (fits ⟨absent, entities, name, topics, options, readyMsgs⟩)
      simp only [copied, Option.bind_eq_bind, Option.bind_some, same]

theorem registerNewClient_overflows (entry : NewEntry clients clientId alloc) (clientFd : Int)
    (long : maxIdClientLen ≤ clientId.length) :
    registerNewClient clients clientId clientFd alloc = none := by
  obtain ⟨absent, entities, id, topics, options, readyMsgs⟩ := entry
  have missed : locate (fun c => c.id == clientId) clients.elems = none :=
    locate_eq_none_iff.mpr fun c member => by simpa using absent c member
  have copied : strcpy (Block.malloc maxIdClientLen) clientId = none :=
    strcpy_overflows (by rwa [Block.malloc_length])
  have roomy : (clients.full && !alloc.entities) = false := by simpa using entities
  simp [registerNewClient, missed, roomy, id, topics, options, readyMsgs, copied]

/-- What a registration returns it returns whatever the size of the block is. -/
theorem registerNewClient_some {clientFd : Int} {done : Err × ClientVec} (free : NulFree clientId)
    (ran : registerNewClient clients clientId clientFd alloc = some done) :
    TopicBroker.registerNewClient clients clientId clientFd alloc = done := by
  by_cases fits : NewEntry clients clientId alloc → clientId.length < maxIdClientLen
  · rw [registerNewClient_fits free clientFd fits] at ran
    exact Option.some.inj ran
  · obtain ⟨entry, long⟩ := Classical.not_imp.mp fits
    rw [registerNewClient_overflows entry clientFd (Nat.le_of_not_lt long)] at ran
    cases ran

end Registration

/-! ## One round -/

section Round

variable {kernel : Kernel} {iter : Nat} {s : Server}

theorem pollVecAddFd_room {vec : PollVec} {fd : Int} {fdEvents : BitVec 16} {grow : Bool} :
    (pollVecAddFd vec fd fdEvents grow).1 = .ok ↔ (vec.full = true → grow = true) := by
  unfold pollVecAddFd
  cases vec.full <;> cases grow <;> simp

theorem serveListener_fits
    (fits : Enrols kernel s → (kernel.newcomer s).length < maxIdClientLen) :
    serveListener kernel s = some (TopicBroker.serveListener kernel s) := by
  unfold serveListener TopicBroker.serveListener
  dsimp only
  refine early_fits fun accepted => early_fits fun added => early_fits fun received => ?_
  have short (entry : NewEntry s.clients (kernel.newcomer s) kernel.register) :=
    fits ⟨by omega, pollVecAddFd_room.mp (not_not.mp added), not_not.mp received, entry⟩
  have registered := registerNewClient_fits (kernel.newcomer_nulFree s)
    (kernel.accept s.pollVec.fds) short
  rw [Kernel.newcomer] at registered
  rw [registered]
  simp only [Option.bind_eq_bind, Option.bind_some]
  exact early_fits fun _ => rfl

theorem serveListener_overflows (enrols : Enrols kernel s)
    (long : maxIdClientLen ≤ (kernel.newcomer s).length) : serveListener kernel s = none := by
  obtain ⟨accepted, room, received, entry⟩ := enrols
  have added : (pollVecAddFd s.pollVec (kernel.accept s.pollVec.fds) (pollin ||| pollout)
      kernel.pfds).1 = .ok := pollVecAddFd_room.mpr room
  have copied := registerNewClient_overflows entry (kernel.accept s.pollVec.fds) long
  unfold serveListener
  dsimp only
  rw [Kernel.newcomer] at copied
  rw [if_neg (by omega), if_neg (not_not.mpr added), if_neg (not_not.mpr received), copied]
  rfl

theorem serve_fits (fits : newcomerFits s iter kernel) :
    serve kernel iter s = some (TopicBroker.serve kernel iter s) := by
  unfold serve TopicBroker.serve
  cases here : s.pollVec.elems[iter]? with
  | none => rfl
  | some entry =>
      have polled : s.pollVec.fds[iter]? = some entry.fd := by
        rw [PollVec.fds, List.getElem?_map, here]
        rfl
      dsimp only
      split
      · rfl
      · rename_i notUdp
        split
        · rename_i atTcp
          rw [serveListener_fits (fits (atTcp ▸ polled) (atTcp ▸ notUdp))]
          rfl
        · rfl

theorem serve_overflows (listener : s.pollVec.fds[iter]? = some s.tcpSocket)
    (notUdp : s.tcpSocket ≠ s.udpSocket) (enrols : Enrols kernel s)
    (long : maxIdClientLen ≤ (kernel.newcomer s).length) : serve kernel iter s = none := by
  rw [PollVec.fds, List.getElem?_map, Option.map_eq_some_iff] at listener
  obtain ⟨entry, here, atTcp⟩ := listener
  rw [serve, here]
  dsimp only
  rw [if_neg (atTcp ▸ notUdp), if_pos atTcp, serveListener_overflows enrols long]
  rfl

/-- A round stays inside the blocks exactly when the id fits that it registers for
the first time. -/
theorem serve_isSome_iff : (serve kernel iter s).isSome = true ↔ newcomerFits s iter kernel := by
  constructor
  · intro inside listener notUdp enrols
    by_contra long
    rw [serve_overflows listener notUdp enrols (Nat.le_of_not_lt long)] at inside
    cases inside
  · intro fits
    rw [serve_fits fits]
    rfl

/-- A round that stays inside them is the round over ids of any length. -/
theorem serve_some {done : Served} (ran : serve kernel iter s = some done) :
    TopicBroker.serve kernel iter s = done := by
  have fits := serve_isSome_iff.mp (Option.isSome_of_eq_some ran)
  rw [serve_fits fits] at ran
  exact Option.some.inj ran

end Round

/-! ## A pass and the programs -/

section Subscriber

variable {σ τ : Type} {send : SendCall σ} {recv : RecvCall τ} {out : σ}

theorem initClient_some {kernel : InitClientKernel} {id : Bytes} {hport : UInt16}
    {done : Except InitClientErr Subscriber × σ} (free : NulFree id)
    (ran : initClient send kernel id hport out = some done) :
    TopicBroker.initClient send kernel id hport out = done := by
  unfold initClient at ran
  unfold TopicBroker.initClient
  refine early_some ran fun _ ran => early_some ran fun _ ran => early_some ran fun _ ran => ?_
  obtain ⟨clientId, copied, behind⟩ := Option.bind_eq_some_iff.mp ran
  rw [strcpy_holds free copied] at behind
  refine early_some behind fun _ behind => early_some behind fun _ behind => ?_
  cases made : initClientPollVec kernel with
  | none =>
      rw [made] at behind
      exact Option.some.inj behind
  | some pollVec =>
      rw [made] at behind
      exact Option.some.inj behind

theorem subscriberMain_some {args : List Bytes} {kernel : InitClientKernel} {stdin : Bytes}
    {inn : τ} {calls : List (Bytes × PollCall)} {ended : Except Int (SubscriberMain σ τ)}
    (free : ∀ arg ∈ args, NulFree arg)
    (ran : subscriberMain send recv args kernel stdin out inn calls = some ended) :
    TopicBroker.subscriberMain send recv args kernel stdin out inn calls = ended := by
  match args, free, ran with
  | [_, id, _, port], free, ran =>
      obtain ⟨started, begun, behind⟩ := Option.bind_eq_some_iff.mp ran
      have same := initClient_some (free id (by simp)) begun
      obtain ⟨result, after⟩ := started
      cases result with
      | error err =>
          simp only [TopicBroker.subscriberMain, same]
          exact Option.some.inj behind
      | ok this =>
          simp only [TopicBroker.subscriberMain, same]
          exact Option.some.inj behind
  | [], _, ran => exact Option.some.inj ran
  | [_], _, ran => exact Option.some.inj ran
  | [_, _], _, ran => exact Option.some.inj ran
  | [_, _, _], _, ran => exact Option.some.inj ran
  | _ :: _ :: _ :: _ :: _ :: _, _, ran => exact Option.some.inj ran

end Subscriber

/-! ## Runs -/

theorem BrokerStep.unbounded {allowed : Server → Nat → Kernel → Prop} {s t : Server}
    {log : List Event} (edge : BrokerStep allowed s log t) :
    TopicBroker.BrokerStep allowed s log t := by
  cases edge with
  | awake revents cmd => exact .awake s revents cmd
  | serve iter kernel done first inside granted ran ok =>
      obtain rfl := serve_some ran
      exact .serve s iter kernel first inside granted ok

theorem reachable_unbounded {allowed : Server → Nat → Kernel → Prop} {s : Server}
    (reached : (broker allowed).Reachable s) : (TopicBroker.broker allowed).Reachable s :=
  reached.mono (fun _ start => start) fun _ _ _ edge => edge.unbounded

end IdBlock

end TopicBroker
