import TopicBroker.Lib.Registry
import TopicBroker.Proof.ClientTable
import TopicBroker.Proof.IdBlock
import TopicBroker.Proof.Subscriptions

/-!
# The client table as a registry

The vector of clients read as a partial map from ids to sessions, and what the
five functions on it do to the map as long as every id fits its block.
-/

namespace TopicBroker

/-! ## Operations -/

/-- A call of one of the five functions, with allocations that succeed. -/
inductive ClientCall where
  | registerNewClient (clientId : Bytes) (clientFd : Int)
  | closeActiveClient (clientFd : Int)
  | subscribeClientToTopic (clientFd : Int) (clientTopic : Bytes) (clientSf : ClientOption)
  | unsubscribeClientFromTopic (clientFd : Int) (clientTopic : Bytes)
  | addTopicMsgForClient (udpMsg : Ref) (clientIdx : Nat)

def ClientCall.run (clients : ClientVec) : ClientCall → Err × ClientVec
  | registerNewClient clientId clientFd =>
      TopicBroker.registerNewClient clients clientId clientFd .succeed
  | closeActiveClient clientFd =>
      let done := TopicBroker.closeActiveClient clients clientFd
      (done.1, done.2.1)
  | subscribeClientToTopic clientFd clientTopic clientSf =>
      TopicBroker.subscribeClientToTopic clients clientFd clientTopic clientSf .succeed
  | unsubscribeClientFromTopic clientFd clientTopic =>
      TopicBroker.unsubscribeClientFromTopic clients clientFd clientTopic
  | addTopicMsgForClient udpMsg clientIdx =>
      TopicBroker.addTopicMsgForClient clients udpMsg clientIdx true

/-- The call with the block of the id, which has no result where a byte is written
outside of it. -/
def ClientCall.runInBlock (clients : ClientVec) : ClientCall → Option (Err × ClientVec)
  | registerNewClient clientId clientFd =>
      IdBlock.registerNewClient clients clientId clientFd .succeed
  | call => some (call.run clients)

/-- An id is a C string. A registered descriptor is positive and no connected
client has it. -/
def ClientCall.Legal (clients : ClientVec) : ClientCall → Prop
  | registerNewClient clientId clientFd =>
      NulFree clientId ∧ 0 < clientFd ∧
        ∀ c ∈ clients.elems, c.status = .active → c.fd ≠ clientFd
  | _ => True

/-- Every call of a sequence is legal when its turn comes, whatever the calls
before it returned. -/
def LegalCalls (clients : ClientVec) : List ClientCall → Prop
  | [] => True
  | call :: rest =>
      call.Legal clients ∧
        match call.runInBlock clients with
        | none => True
        | some done => LegalCalls done.2 rest

/-- The id of a registration has at most nine bytes. -/
def ClientCall.IdFits : ClientCall → Prop
  | registerNewClient clientId _ => clientId.length < maxIdClientLen
  | _ => True

/-! ## Abstraction -/

abbrev ClientMap := Registry Bytes Int Bytes ClientOption Ref

def ClientType.session (c : ClientType) : Session Int Bytes ClientOption Ref where
  conn := if c.status = .active then some c.fd else none
  topics := c.table.option?
  pending := c.readyMsgs.elems

def clientMap (clients : ClientVec) : ClientMap := fun id =>
  (locate (fun c => c.id == id) clients.elems).map fun found => found.2.session

/-- The request that a call makes; an index names the id registered under it. -/
def ClientCall.request (clients : ClientVec) :
    ClientCall → Option (Request Bytes Int Bytes ClientOption Ref)
  | registerNewClient clientId clientFd => some (.register clientId clientFd)
  | closeActiveClient clientFd => some (.close clientFd)
  | subscribeClientToTopic clientFd clientTopic clientSf =>
      some (.subscribe clientFd clientTopic clientSf)
  | unsubscribeClientFromTopic clientFd clientTopic => some (.unsubscribe clientFd clientTopic)
  | addTopicMsgForClient udpMsg clientIdx =>
      clients.elems[clientIdx]?.map fun c => .add c.id udpMsg

/-! ## Reading the map -/

section Reading

variable {clients : ClientVec}

/-- The map at an id is the session of the entry that has the id. -/
theorem clientMap_eq_some_iff (table : ClientTable clients) {id : Bytes}
    {session : Session Int Bytes ClientOption Ref} :
    clientMap clients id = some session ↔
      ∃ (index : Nat) (c : ClientType),
        clients.elems[index]? = some c ∧ c.id = id ∧ c.session = session := by
  unfold clientMap
  constructor
  · intro mapped
    obtain ⟨found, located, eq⟩ := Option.map_eq_some_iff.mp mapped
    obtain ⟨here, same, _⟩ := locate_eq_some located
    exact ⟨found.1, found.2, here, by simpa using same, eq⟩
  · rintro ⟨index, c, here, rfl, rfl⟩
    have only : ∀ other d, clients.elems[other]? = some d → (d.id == c.id) = true →
        other = index := fun other d there same =>
      table.index_of_id here there (by simpa using same)
    rw [locate_eq_some_of_unique here (by simp) only]
    rfl

theorem clientMap_at (table : ClientTable clients) {index : Nat} {c : ClientType}
    (here : clients.elems[index]? = some c) : clientMap clients c.id = some c.session :=
  (clientMap_eq_some_iff table).mpr ⟨index, c, here, rfl, rfl⟩

theorem clientMap_absent {id : Bytes} (absent : ∀ c ∈ clients.elems, c.id ≠ id) :
    clientMap clients id = none := by
  have missed : locate (fun c => c.id == id) clients.elems = none :=
    locate_eq_none_iff.mpr fun c member => by simpa using absent c member
  rw [clientMap, missed]
  rfl

/-- Writing one entry revises one session. -/
theorem clientMap_set (table : ClientTable clients) {index : Nat} {c d : ClientType}
    (here : clients.elems[index]? = some c) (same : d.id = c.id)
    (after : ClientTable (clients.set index d)) :
    clientMap (clients.set index d) = (clientMap clients).revise c.id d.session := by
  obtain ⟨inside, _⟩ := List.getElem?_eq_some_iff.mp here
  have written : (clients.set index d).elems[index]? = some d := List.getElem?_set_self inside
  funext id
  by_cases own : id = c.id
  · rw [own, Registry.revise, Function.update_self, ← same]
    exact clientMap_at after written
  · rw [Registry.revise, Function.update_of_ne own]
    apply Option.ext
    intro session
    rw [clientMap_eq_some_iff after, clientMap_eq_some_iff table]
    constructor
    · rintro ⟨other, e, there, rfl, rfl⟩
      have apart : index ≠ other := by
        rintro rfl
        rw [written] at there
        cases there
        exact own same
      rw [Vec.set_elems, List.getElem?_set_ne apart] at there
      exact ⟨other, e, there, rfl, rfl⟩
    · rintro ⟨other, e, there, rfl, rfl⟩
      have apart : index ≠ other := by
        rintro rfl
        rw [here] at there
        cases there
        exact own rfl
      exact ⟨other, e, by rw [Vec.set_elems, List.getElem?_set_ne apart, there], rfl, rfl⟩

theorem clientMap_push {d : ClientType} (absent : ∀ c ∈ clients.elems, c.id ≠ d.id) :
    clientMap (clients.push d) = (clientMap clients).revise d.id d.session := by
  funext id
  unfold clientMap Registry.revise
  rw [Vec.push_elems]
  by_cases own : id = d.id
  · subst own
    rw [Function.update_self, locate_append fun c member => by simpa using absent c member]
    simp [locate]
  · rw [Function.update_of_ne own]
    cases located : locate (fun c => c.id == id) clients.elems with
    | none =>
        rw [locate_append (locate_eq_none_iff.mp located)]
        simp [locate, Ne.symm own]
    | some found =>
        rw [locate_append_of_some located]

theorem owns_iff (table : ClientTable clients) {fd : Int} {id : Bytes} :
    (clientMap clients).Owns fd id ↔ ∃ (index : Nat) (c : ClientType),
      clients.elems[index]? = some c ∧ c.id = id ∧ c.status = .active ∧ c.fd = fd := by
  constructor
  · rintro ⟨session, mapped, conn⟩
    obtain ⟨index, c, here, same, rfl⟩ := (clientMap_eq_some_iff table).mp mapped
    unfold ClientType.session at conn
    dsimp only at conn
    split at conn
    · rename_i active
      exact ⟨index, c, here, same, active, Option.some.inj conn⟩
    · cases conn
  · rintro ⟨index, c, here, rfl, active, owns⟩
    exact ⟨c.session, clientMap_at table here, by simp [ClientType.session, active, owns]⟩

theorem clientMap_exclusive (table : ClientTable clients) : (clientMap clients).Exclusive := by
  intro fd id other first second
  obtain ⟨index, c, here, rfl, active, owns⟩ := (owns_iff table).mp first
  obtain ⟨place, d, there, rfl, alive, also⟩ := (owns_iff table).mp second
  have same := table.index_of_fd here there active alive (also.trans owns.symm)
  rw [same, here] at there
  rw [Option.some.inj there]

/-- The search by descriptor finds the owner. -/
theorem owner_of_locate (table : ClientTable clients) {fd : Int} (valid : ¬ fd < 0)
    {found : Nat × ClientType}
    (located : locate (fun c => c.fd == fd) clients.elems = some found) :
    (clientMap clients).owner fd = some found.2.id ∧ found.2.status = .active := by
  obtain ⟨here, same, _⟩ := locate_eq_some located
  have owns : found.2.fd = fd := by simpa using same
  have active := table.active_of_fd (List.mem_of_getElem? here) (owns ▸ valid)
  exact ⟨Registry.owner_eq_some (clientMap_exclusive table)
    ((owns_iff table).mpr ⟨found.1, found.2, here, rfl, active, owns⟩), active⟩

/-- The guard and the search refuse only descriptors without an owner. -/
theorem owner_of_refused (table : ClientTable clients) {fd : Int}
    (refused : fd < 0 ∨ locate (fun c => c.fd == fd) clients.elems = none) :
    (clientMap clients).owner fd = none := by
  apply Registry.owner_eq_none
  intro id owned
  obtain ⟨index, c, here, _, active, rfl⟩ := (owns_iff table).mp owned
  have member := List.mem_of_getElem? here
  rcases refused with negative | missed
  · have positive := (table.active_iff c member).mp active
    omega
  · simpa using locate_eq_none_iff.mp missed c member

end Reading

/-! ## One client -/

theorem ClientType.subscribe_succeed {c : ClientType} (nodup : c.table.topics.Nodup)
    (topic : Bytes) (option : ClientOption) :
    ∃ table : TopicTable, c.subscribe topic option .succeed = (.ok, { c with table := table }) ∧
      table.topics.Nodup ∧
      table.option? = Function.update c.table.option? topic (some option) := by
  unfold ClientType.subscribe
  cases located : locate (fun other => other == topic) c.table.topics with
  | some found =>
      exact ⟨_, rfl, nodup, TopicTable.option?_setOption nodup (mem_of_locate located)⟩
  | none =>
      have absent : topic ∉ c.table.topics := by
        intro member
        simpa using locate_eq_none_iff.mp located topic member
      refine ⟨c.table.push topic option, ?_, TopicTable.nodup_push nodup absent,
        TopicTable.option?_push nodup absent⟩
      simp [SubscribeAlloc.succeed]

theorem ClientType.unsubscribe_found {c : ClientType} (nodup : c.table.topics.Nodup)
    {topic : Bytes} (subscribed : (c.table.option? topic).isSome = true) :
    ∃ table : TopicTable, c.unsubscribe topic = (.ok, { c with table := table }) ∧
      table.topics.Nodup ∧ table.option? = Function.update c.table.option? topic none := by
  unfold ClientType.unsubscribe
  cases located : locate (fun other => other == topic) c.table.topics with
  | none => simp [TopicTable.option?, located] at subscribed
  | some found =>
      have here := mem_of_locate located
      obtain ⟨inside, _⟩ := List.getElem?_eq_some_iff.mp here
      exact ⟨_, rfl, TopicTable.nodup_remove nodup inside, TopicTable.option?_remove nodup here⟩

theorem ClientType.unsubscribe_absent {c : ClientType} {topic : Bytes}
    (unsubscribed : (c.table.option? topic).isSome = false) :
    c.unsubscribe topic = (.clientsVecCoundNotFindTopic, c) := by
  have absent : topic ∉ c.table.topics :=
    TopicTable.option?_none_iff.mp (by simpa using unsubscribed)
  have missed : locate (fun other => other == topic) c.table.topics = none :=
    locate_eq_none_iff.mpr fun other member => by
      have different : other ≠ topic := by
        rintro rfl
        exact absent member
      simpa using different
  rw [ClientType.unsubscribe, missed]

/-! ## The calls -/

/-- A call that has a result returns `OK` exactly when its request succeeds, and
changes the map as the request does, not at all when it fails. -/
structure Simulates (clients : ClientVec) (call : ClientCall) (done : Err × ClientVec) : Prop where
  ok_iff : done.1 = .ok ↔ ((call.request clients).bind (clientMap clients).serve).isSome = true
  map_eq : clientMap done.2 =
    ((call.request clients).bind (clientMap clients).serve).getD (clientMap clients)

theorem Simulates.of_ok {clients after : ClientVec} {call : ClientCall} {served : ClientMap}
    (granted : (call.request clients).bind (clientMap clients).serve = some served)
    (same : clientMap after = served) : Simulates clients call (.ok, after) := by
  constructor
  · simp [granted]
  · simp [granted, same]

theorem Simulates.of_refused {clients : ClientVec} {call : ClientCall} {err : Err}
    (failed : err ≠ .ok)
    (refused : (call.request clients).bind (clientMap clients).serve = none) :
    Simulates clients call (err, clients) := by
  constructor
  · simp [refused, failed]
  · simp [refused]

/-- The invariant and the simulation of one call. -/
structure Stepped (clients : ClientVec) (call : ClientCall) : Prop where
  simulates : Simulates clients call (call.run clients)
  table : ClientTable (call.run clients).2
  distinct : DistinctTopics (call.run clients).2

theorem Stepped.of_refused {clients : ClientVec} {call : ClientCall} {err : Err}
    (table : ClientTable clients) (distinct : DistinctTopics clients)
    (ran : call.run clients = (err, clients)) (failed : err ≠ .ok)
    (refused : (call.request clients).bind (clientMap clients).serve = none) :
    Stepped clients call := by
  constructor <;> rw [ran]
  · exact .of_refused failed refused
  · exact table
  · exact distinct

/-- A call that rewrites one entry as its request revises the session. -/
theorem Stepped.of_set {clients : ClientVec} {call : ClientCall} {index : Nat} {c d : ClientType}
    (table : ClientTable clients) (distinct : DistinctTopics clients)
    (here : clients.elems[index]? = some c) (same : d.id = c.id)
    (after : ClientTable (clients.set index d)) (nodup : d.table.topics.Nodup)
    (ran : call.run clients = (.ok, clients.set index d))
    (granted : (call.request clients).bind (clientMap clients).serve =
      some ((clientMap clients).revise c.id d.session)) : Stepped clients call := by
  constructor <;> rw [ran]
  · exact .of_ok granted (clientMap_set table here same after)
  · exact after
  · exact distinct.set nodup

/-- Only the subscription table of an entry is rewritten. -/
theorem ClientTable.edited {clients : ClientVec} (table : ClientTable clients) {index : Nat}
    {c : ClientType} (here : clients.elems[index]? = some c) (topics : TopicTable) :
    ClientTable (clients.set index { c with table := topics }) :=
  table.congr (map_set_of_eq here rfl)

section Calls

variable {clients : ClientVec} (table : ClientTable clients) (distinct : DistinctTopics clients)
include table distinct

theorem registerNewClient_stepped (clientId : Bytes) {clientFd : Int} (positive : 0 < clientFd)
    (elsewhere : ∀ c ∈ clients.elems, c.status = .active → c.fd ≠ clientFd) :
    Stepped clients (.registerNewClient clientId clientFd) := by
  cases located : locate (fun c => c.id == clientId) clients.elems with
  | some found =>
      obtain ⟨here, same, _⟩ := locate_eq_some located
      have id : found.2.id = clientId := by simpa using same
      have known : clientMap clients clientId = some found.2.session := id ▸ clientMap_at table here
      cases status : found.2.status with
      | active =>
          have ran : registerNewClient clients clientId clientFd .succeed =
              (.clientVecClientAlreadyConnected, clients) := by
            simp [registerNewClient, located, status]
          refine .of_refused table distinct ran (by decide) ?_
          simp [ClientCall.request, Registry.serve, known, ClientType.session, status]
      | dead =>
          have ran : registerNewClient clients clientId clientFd .succeed =
              (.ok, clients.set found.1 { found.2 with fd := clientFd, status := .active }) := by
            simp [registerNewClient, located, status]
          refine .of_set (d := { found.2 with fd := clientFd, status := .active }) table distinct
            here rfl (table.registered positive elsewhere (registerNewClient_ok ran))
            (distinct found.2 (List.mem_of_getElem? here)) ran ?_
          simp [ClientCall.request, Registry.serve, known, ClientType.session, status, id]
  | none =>
      have absent : ∀ c ∈ clients.elems, c.id ≠ clientId := by
        intro c member
        simpa using locate_eq_none_iff.mp located c member
      have ran : registerNewClient clients clientId clientFd .succeed =
          (.ok, clients.push (.fresh clientId clientFd)) := by
        simp [registerNewClient, located, RegisterAlloc.succeed]
      have enrolled := registerNewClient_ok ran
      have session : (ClientType.fresh clientId clientFd).session =
          ⟨some clientFd, fun _ => none, []⟩ := by
        have topics : (TopicTable.create initTopicsCapacity (by decide)).option? = fun _ => none :=
          funext fun name => TopicTable.option?_create _ _
        simp [ClientType.session, ClientType.fresh, topics, Vec.create]
      constructor <;> rw [ClientCall.run, ran]
      · refine .of_ok ?_ (clientMap_push absent)
        rw [session]
        simp [ClientCall.request, Registry.serve, clientMap_absent absent, ClientType.fresh]
      · exact table.registered positive elsewhere enrolled
      · exact distinct.registered enrolled

theorem closeActiveClient_stepped (clientFd : Int) :
    Stepped clients (.closeActiveClient clientFd) := by
  by_cases valid : clientFd < 0
  · have unowned := owner_of_refused table (Or.inl valid)
    have ran : ClientCall.run clients (.closeActiveClient clientFd) =
        (.clientsVecInputFdIdxInvalid, clients) := by
      simp [ClientCall.run, closeActiveClient, valid]
    exact .of_refused table distinct ran (by decide)
      (by simp [ClientCall.request, Registry.serve, unowned])
  · cases located : locate (fun c => c.fd == clientFd) clients.elems with
    | none =>
        have unowned := owner_of_refused table (Or.inr located)
        have ran : ClientCall.run clients (.closeActiveClient clientFd) =
            (.clientsVecCloseClientNotFound, clients) := by
          simp [ClientCall.run, closeActiveClient, valid, located]
        exact .of_refused table distinct ran (by decide)
          (by simp [ClientCall.request, Registry.serve, unowned])
    | some found =>
        have here := (locate_eq_some located).1
        obtain ⟨owned, active⟩ := owner_of_locate table valid located
        refine .of_set (d := { found.2 with status := .dead, fd := -1 }) table distinct here rfl
          (table.closed here) (distinct found.2 (List.mem_of_getElem? here)) ?_ ?_
        · simp [ClientCall.run, closeActiveClient, valid, located, active]
        · simp [ClientCall.request, Registry.serve, owned, clientMap_at table here,
            ClientType.session]

theorem subscribeClientToTopic_stepped (clientFd : Int) (topic : Bytes) (option : ClientOption) :
    Stepped clients (.subscribeClientToTopic clientFd topic option) := by
  by_cases valid : clientFd < 0
  · have unowned := owner_of_refused table (Or.inl valid)
    have ran : ClientCall.run clients (.subscribeClientToTopic clientFd topic option) =
        (.clientsVecInputFdIdxInvalid, clients) := by
      simp [ClientCall.run, subscribeClientToTopic, valid]
    exact .of_refused table distinct ran (by decide)
      (by simp [ClientCall.request, Registry.serve, unowned])
  · cases located : locate (fun c => c.fd == clientFd) clients.elems with
    | none =>
        have unowned := owner_of_refused table (Or.inr located)
        have ran : ClientCall.run clients (.subscribeClientToTopic clientFd topic option) =
            (.clientsVecClientNotFound, clients) := by
          simp [ClientCall.run, subscribeClientToTopic, valid, located]
        exact .of_refused table distinct ran (by decide)
          (by simp [ClientCall.request, Registry.serve, unowned])
    | some found =>
        have here := (locate_eq_some located).1
        obtain ⟨owned, _⟩ := owner_of_locate table valid located
        obtain ⟨topics, subscribed, nodup, options⟩ := ClientType.subscribe_succeed
          (distinct found.2 (List.mem_of_getElem? here)) topic option
        refine .of_set (d := { found.2 with table := topics }) table distinct here rfl
          (table.edited here topics) nodup ?_ ?_
        · simp [ClientCall.run, subscribeClientToTopic, valid, located, subscribed]
        · simp [ClientCall.request, Registry.serve, owned, clientMap_at table here,
            ClientType.session, options]

theorem unsubscribeClientFromTopic_stepped (clientFd : Int) (topic : Bytes) :
    Stepped clients (.unsubscribeClientFromTopic clientFd topic) := by
  by_cases valid : clientFd < 0
  · have unowned := owner_of_refused table (Or.inl valid)
    have ran : ClientCall.run clients (.unsubscribeClientFromTopic clientFd topic) =
        (.clientsVecInputFdIdxInvalid, clients) := by
      simp [ClientCall.run, unsubscribeClientFromTopic, valid]
    exact .of_refused table distinct ran (by decide)
      (by simp [ClientCall.request, Registry.serve, unowned])
  · cases located : locate (fun c => c.fd == clientFd) clients.elems with
    | none =>
        have unowned := owner_of_refused table (Or.inr located)
        have ran : ClientCall.run clients (.unsubscribeClientFromTopic clientFd topic) =
            (.clientsVecClientNotFound, clients) := by
          simp [ClientCall.run, unsubscribeClientFromTopic, valid, located]
        exact .of_refused table distinct ran (by decide)
          (by simp [ClientCall.request, Registry.serve, unowned])
    | some found =>
        have here := (locate_eq_some located).1
        obtain ⟨owned, _⟩ := owner_of_locate table valid located
        cases known : (found.2.table.option? topic).isSome with
        | false =>
            have unchanged : clients.set found.1 found.2 = clients := clients.set_same here
            have ran : ClientCall.run clients (.unsubscribeClientFromTopic clientFd topic) =
                (.clientsVecCoundNotFindTopic, clients) := by
              simp [ClientCall.run, unsubscribeClientFromTopic, valid, located,
                ClientType.unsubscribe_absent known, unchanged]
            exact .of_refused table distinct ran (by decide)
              (by simp [ClientCall.request, Registry.serve, owned, clientMap_at table here,
                ClientType.session, known])
        | true =>
            obtain ⟨topics, unsubscribed, nodup, options⟩ := ClientType.unsubscribe_found
              (distinct found.2 (List.mem_of_getElem? here)) known
            refine .of_set (d := { found.2 with table := topics }) table distinct here rfl
              (table.edited here topics) nodup ?_ ?_
            · simp [ClientCall.run, unsubscribeClientFromTopic, valid, located, unsubscribed]
            · simp [ClientCall.request, Registry.serve, owned, clientMap_at table here,
                ClientType.session, known, options]

theorem addTopicMsgForClient_stepped (udpMsg : Ref) (clientIdx : Nat) :
    Stepped clients (.addTopicMsgForClient udpMsg clientIdx) := by
  cases here : clients.elems[clientIdx]? with
  | none =>
      have ran : ClientCall.run clients (.addTopicMsgForClient udpMsg clientIdx) =
          (.clientsVecIndexOutOfBound, clients) := by
        simp [ClientCall.run, addTopicMsgForClient, here]
      exact .of_refused table distinct ran (by decide) (by simp [ClientCall.request, here])
  | some c =>
      refine .of_set (d := c.stack udpMsg) table distinct here rfl
        (table.congr (map_set_of_eq here rfl)) (distinct c (List.mem_of_getElem? here))
        (addTopicMsgForClient_grow here udpMsg) ?_
      simp only [ClientCall.request, here, Option.map_some, Option.bind_some, Registry.serve,
        clientMap_at table here]
      rfl

theorem ClientCall.stepped (call : ClientCall) (legal : call.Legal clients) :
    Stepped clients call := by
  cases call with
  | registerNewClient clientId clientFd =>
      exact registerNewClient_stepped table distinct clientId legal.2.1 legal.2.2
  | closeActiveClient clientFd => exact closeActiveClient_stepped table distinct clientFd
  | subscribeClientToTopic clientFd clientTopic clientSf =>
      exact subscribeClientToTopic_stepped table distinct clientFd clientTopic clientSf
  | unsubscribeClientFromTopic clientFd clientTopic =>
      exact unsubscribeClientFromTopic_stepped table distinct clientFd clientTopic
  | addTopicMsgForClient udpMsg clientIdx =>
      exact addTopicMsgForClient_stepped table distinct udpMsg clientIdx

end Calls

/-! ## Sequences of calls -/

/-- Every call of a sequence stays inside its block and does to the map what its
request does. A connection never has two owners and a topic never stands twice
in a table. -/
def Refines (clients : ClientVec) : List ClientCall → Prop
  | [] => (clientMap clients).Exclusive ∧ DistinctTopics clients
  | call :: rest =>
      (clientMap clients).Exclusive ∧ DistinctTopics clients ∧
        ∃ done, call.runInBlock clients = some done ∧ Simulates clients call done ∧
          Refines done.2 rest

theorem ClientCall.runInBlock_fits {clients : ClientVec} {call : ClientCall}
    (legal : call.Legal clients) (fits : call.IdFits) :
    call.runInBlock clients = some (call.run clients) := by
  cases call with
  | registerNewClient clientId clientFd =>
      exact IdBlock.registerNewClient_fits legal.1 clientFd fun _ => fits
  | closeActiveClient clientFd => rfl
  | subscribeClientToTopic clientFd clientTopic clientSf => rfl
  | unsubscribeClientFromTopic clientFd clientTopic => rfl
  | addTopicMsgForClient udpMsg clientIdx => rfl

theorem refines_of_fits {clients : ClientVec} {calls : List ClientCall}
    (table : ClientTable clients) (distinct : DistinctTopics clients)
    (legal : LegalCalls clients calls) (fits : ∀ call ∈ calls, call.IdFits) :
    Refines clients calls := by
  induction calls generalizing clients with
  | nil => exact ⟨clientMap_exclusive table, distinct⟩
  | cons call rest ih =>
      obtain ⟨now, later⟩ := legal
      have ran := ClientCall.runInBlock_fits now (fits call List.mem_cons_self)
      rw [ran] at later
      have stepped := call.stepped table distinct now
      refine ⟨clientMap_exclusive table, distinct, _, ran, stepped.simulates, ?_⟩
      exact ih stepped.table stepped.distinct later fun other member =>
        fits other (List.mem_cons_of_mem _ member)

/-- Every id of the map has at most nine bytes. -/
def ShortIds (clients : ClientVec) : Prop :=
  ∀ id, (clientMap clients id).isSome = true → id.length < maxIdClientLen

/-- The block has room for the id of every call that has a result. -/
theorem ClientCall.fits_of_runInBlock {clients : ClientVec} {call : ClientCall}
    {done : Err × ClientVec} (short : ShortIds clients)
    (ran : call.runInBlock clients = some done) : call.IdFits := by
  cases call with
  | registerNewClient clientId clientFd =>
      by_contra long
      have known : (clientMap clients clientId).isSome = true := by
        by_contra unknown
        have absent : ∀ c ∈ clients.elems, c.id ≠ clientId := by
          simpa [clientMap, locate_eq_none_iff] using unknown
        have entry : NewEntry clients clientId .succeed :=
          ⟨absent, fun _ => rfl, rfl, rfl, rfl, rfl⟩
        have overflows := IdBlock.registerNewClient_overflows entry clientFd
          (Nat.le_of_not_lt long)
        rw [ClientCall.runInBlock, overflows] at ran
        cases ran
      exact long (short clientId known)
  | closeActiveClient clientFd => trivial
  | subscribeClientToTopic clientFd clientTopic clientSf => trivial
  | unsubscribeClientFromTopic clientFd clientTopic => trivial
  | addTopicMsgForClient udpMsg clientIdx => trivial

theorem ShortIds.kept {clients : ClientVec} {call : ClientCall} {done : Err × ClientVec}
    (short : ShortIds clients) (fits : call.IdFits) (simulates : Simulates clients call done) :
    ShortIds done.2 := by
  intro id known
  rw [simulates.map_eq] at known
  cases granted : (call.request clients).bind (clientMap clients).serve with
  | none =>
      rw [granted] at known
      exact short id known
  | some served =>
      rw [granted] at known
      obtain ⟨request, asked, ran⟩ := Option.bind_eq_some_iff.mp granted
      rcases Registry.serve_known ran known with old | ⟨conn, rfl⟩
      · exact short id old
      · cases call with
        | registerNewClient clientId clientFd =>
            cases asked
            exact fits
        | addTopicMsgForClient udpMsg clientIdx => simp [ClientCall.request] at asked
        | closeActiveClient clientFd => cases asked
        | subscribeClientToTopic clientFd clientTopic clientSf => cases asked
        | unsubscribeClientFromTopic clientFd clientTopic => cases asked

theorem Refines.fits {clients : ClientVec} {calls : List ClientCall} (short : ShortIds clients)
    (refines : Refines clients calls) : ∀ call ∈ calls, call.IdFits := by
  induction calls generalizing clients with
  | nil => exact fun _ member => nomatch member
  | cons call rest ih =>
      obtain ⟨_, _, done, ran, simulates, later⟩ := refines
      have fits := ClientCall.fits_of_runInBlock short ran
      intro other member
      rcases List.mem_cons.mp member with rfl | behind
      · exact fits
      · exact ih (short.kept fits simulates) later other behind

/-- From the empty vector on every call does to the map what its request does:
it returns `OK` exactly when the request succeeds, it changes the session the
request concerns and no other, and it changes nothing when it fails. This is
so exactly when every id that is registered fits its block. -/
theorem clientVec_refines_registry (initClients : Nat) (positive : 0 < initClients)
    (calls : List ClientCall) (legal : LegalCalls (createClientsVec initClients positive) calls) :
    clientMap (createClientsVec initClients positive) = (fun _ => none) ∧
      (Refines (createClientsVec initClients positive) calls ↔ ∀ call ∈ calls, call.IdFits) := by
  have table : ClientTable (createClientsVec initClients positive) := .of_nil rfl
  have distinct : DistinctTopics (createClientsVec initClients positive) :=
    fun c member => (nomatch member)
  have short : ShortIds (createClientsVec initClients positive) :=
    fun id known => absurd known Bool.false_ne_true
  exact ⟨rfl, Refines.fits short, refines_of_fits table distinct legal⟩

/-- The first client has an id of ten letters. -/
theorem clientVec_refines_registry_overflow :
    LegalCalls (createClientsVec initTopicsCapacity (by decide))
        [.registerNewClient (ascii "ABCDEFGHIJ") 5] ∧
      ¬ Refines (createClientsVec initTopicsCapacity (by decide))
        [.registerNewClient (ascii "ABCDEFGHIJ") 5] := by
  refine ⟨⟨⟨by decide +kernel, by decide, by decide⟩, trivial⟩, ?_⟩
  rintro ⟨_, _, done, ran, _⟩
  cases ran

/-- `C1` subscribes to two topics, drops the first, leaves and comes back. -/
def visit : List ClientCall :=
  [.registerNewClient (ascii "C1") 5, .subscribeClientToTopic 5 (ascii "news") .noSf,
    .subscribeClientToTopic 5 (ascii "weather") .sf,
    .unsubscribeClientFromTopic 5 (ascii "news"), .closeActiveClient 5,
    .registerNewClient (ascii "C1") 6]

theorem clientVec_refines_registry_visit :
    Refines (createClientsVec initTopicsCapacity (by decide)) visit := by
  have legal : LegalCalls (createClientsVec initTopicsCapacity (by decide)) visit :=
    ⟨⟨by decide +kernel, by decide, by decide⟩, trivial, trivial, trivial, trivial,
      ⟨by decide +kernel, by decide, by decide +kernel⟩, trivial⟩
  have short : (ascii "C1").length < maxIdClientLen := by decide
  refine (clientVec_refines_registry initTopicsCapacity (by decide) visit legal).2.mpr ?_
  simp [visit, ClientCall.IdFits, short]

end TopicBroker
