import TopicBroker.Lib.Vec
import TopicBroker.Model.Utils

/-!
# `client_vec`

The table of every client that ever registered. The answers of the allocator
are arguments, one for each `malloc` and `realloc` of the function they are
passed to. An element of `ready_msgs` is a pointer into the array of stored
datagrams: the heap block it points into and the slot in the block.
-/

namespace TopicBroker

def initTopicsCapacity : Nat := 10

inductive ClientStatus where
  | active
  | dead
  deriving DecidableEq, Repr

inductive ClientOption where
  | noSf
  | sf
  deriving DecidableEq, Repr

/-- `&udp_msgs[slot]`, taken while `udp_msgs` was the block `block`. -/
structure Ref where
  block : Nat
  slot : Nat
  deriving DecidableEq, Repr

/-- The parallel arrays `topics` and `options`, which share one length and one
recorded capacity but are allocated one after the other. -/
@[ext] structure TopicTable where
  topics : List Bytes
  options : List ClientOption
  capacity : Nat
  topicsAlloc : Nat
  optionsAlloc : Nat
  aligned : options.length = topics.length
  length_le : topics.length ≤ capacity
  topics_le : capacity ≤ topicsAlloc
  options_le : capacity ≤ optionsAlloc
  capacity_pos : 0 < capacity

namespace TopicTable

instance : DecidableEq TopicTable := fun _ _ => decidable_of_iff' _ TopicTable.ext_iff

def create (capacity : Nat) (positive : 0 < capacity) : TopicTable where
  topics := []
  options := []
  capacity := capacity
  topicsAlloc := capacity
  optionsAlloc := capacity
  aligned := rfl
  length_le := Nat.zero_le _
  topics_le := Nat.le_refl _
  options_le := Nat.le_refl _
  capacity_pos := positive

/-- The test `topics_len == topic_capacity`. -/
def full (table : TopicTable) : Bool := table.topics.length == table.capacity

/-- `topics` was doubled and the `realloc` of `options` failed. -/
def growTopics (table : TopicTable) : TopicTable where
  topics := table.topics
  options := table.options
  capacity := table.capacity
  topicsAlloc := table.capacity * 2
  optionsAlloc := table.optionsAlloc
  aligned := table.aligned
  length_le := table.length_le
  topics_le := by omega
  options_le := table.options_le
  capacity_pos := table.capacity_pos

/-- Both arrays were doubled. -/
def grow (table : TopicTable) : TopicTable where
  topics := table.topics
  options := table.options
  capacity := table.capacity * 2
  topicsAlloc := table.capacity * 2
  optionsAlloc := table.capacity * 2
  aligned := table.aligned
  length_le := by have := table.length_le; omega
  topics_le := Nat.le_refl _
  options_le := Nat.le_refl _
  capacity_pos := by have := table.capacity_pos; omega

/-- Growth when it is needed, taken to succeed. -/
def reserve (table : TopicTable) : TopicTable := if table.full then table.grow else table

theorem reserve_topics (table : TopicTable) : table.reserve.topics = table.topics := by
  unfold reserve
  split <;> rfl

theorem reserve_options (table : TopicTable) : table.reserve.options = table.options := by
  unfold reserve
  split <;> rfl

theorem reserve_room (table : TopicTable) : table.topics.length < table.reserve.capacity := by
  have within := table.length_le
  have positive := table.capacity_pos
  unfold reserve
  split
  · change table.topics.length < table.capacity * 2
    omega
  · rename_i partly
    have different : table.topics.length ≠ table.capacity := by simpa [full] using partly
    omega

/-- The topic and its option are written at the index `topics_len`, which is then counted. -/
def push (table : TopicTable) (topic : Bytes) (option : ClientOption) : TopicTable where
  topics := table.topics ++ [topic]
  options := table.options ++ [option]
  capacity := table.reserve.capacity
  topicsAlloc := table.reserve.topicsAlloc
  optionsAlloc := table.reserve.optionsAlloc
  aligned := by simp [table.aligned]
  length_le := by
    have room := table.reserve_room
    simp only [List.length_append, List.length_singleton]
    omega
  topics_le := table.reserve.topics_le
  options_le := table.reserve.options_le
  capacity_pos := table.reserve.capacity_pos

/-- `options[index] = option`. -/
def setOption (table : TopicTable) (index : Nat) (option : ClientOption) : TopicTable where
  topics := table.topics
  options := table.options.set index option
  capacity := table.capacity
  topicsAlloc := table.topicsAlloc
  optionsAlloc := table.optionsAlloc
  aligned := by simp [table.aligned]
  length_le := table.length_le
  topics_le := table.topics_le
  options_le := table.options_le
  capacity_pos := table.capacity_pos

/-- The topic at `index` and its option are shifted out. -/
def remove (table : TopicTable) (index : Nat) : TopicTable where
  topics := shiftOut table.topics index
  options := shiftOut table.options index
  capacity := table.capacity
  topicsAlloc := table.topicsAlloc
  optionsAlloc := table.optionsAlloc
  aligned := by simp only [shiftOut_length, table.aligned]
  length_le := by
    have within := table.length_le
    rw [shiftOut_length]
    omega
  topics_le := table.topics_le
  options_le := table.options_le
  capacity_pos := table.capacity_pos

end TopicTable

structure ClientType where
  id : Bytes
  status : ClientStatus
  fd : Int
  table : TopicTable
  readyMsgs : Vec Ref
  deriving DecidableEq

abbrev ClientVec := Vec ClientType

/-- `create_clients_vec` with both allocations done. -/
def createClientsVec (initClients : Nat) (positive : 0 < initClients) : ClientVec :=
  Vec.create initClients positive

/-! ## Registration -/

/-- The answers to the allocations of `register_new_client`. -/
structure RegisterAlloc where
  entities : Bool
  id : Bool
  topics : Bool
  options : Bool
  readyMsgs : Bool

def RegisterAlloc.succeed : RegisterAlloc := ⟨true, true, true, true, true⟩

/-- The entry of a client that registers for the first time. Its id is kept whole,
as the block of `MAX_ID_CLIENT_LEN` bytes does that `strcpy` fills when the id fits. -/
def ClientType.fresh (clientId : Bytes) (clientFd : Int) : ClientType where
  id := clientId
  status := .active
  fd := clientFd
  table := TopicTable.create initTopicsCapacity (by decide)
  readyMsgs := Vec.create initTopicsCapacity (by decide)

/-- The registration of an id that its block holds. `IdBlock.registerNewClient` is
the function with the block, which has no result where `strcpy` leaves it. -/
def registerNewClient (clients : ClientVec) (clientId : Bytes) (clientFd : Int)
    (alloc : RegisterAlloc) : Err × ClientVec :=
  match locate (fun c => c.id == clientId) clients.elems with
  | some (iter, c) =>
      if c.status = .active then (.clientVecClientAlreadyConnected, clients)
      else (.ok, clients.set iter { c with fd := clientFd, status := .active })
  | none =>
      if clients.full && !alloc.entities then (.clientsVecFailedRealloc, clients)
      -- the entries array may have grown by now; the new entry is not counted
      else if !alloc.id then (.clientsVecFailedRegisterAllocation, clients.reserve)
      else if !alloc.topics then (.clientsVecFailedRegisterAllocation, clients.reserve)
      else if !alloc.options then (.clientsVecFailedRegisterAllocation, clients.reserve)
      else if !alloc.readyMsgs then (.clientsVecFailedRegisterAllocation, clients.reserve)
      else (.ok, clients.push (.fresh clientId clientFd))

/-- The two ways in which a registration succeeds. -/
inductive Registered (clients : ClientVec) (clientId : Bytes) (clientFd : Int) :
    ClientVec → Prop where
  | again (iter : Nat) (c : ClientType) (here : clients.elems[iter]? = some c)
      (same : c.id = clientId) (dead : c.status = .dead) :
      Registered clients clientId clientFd
        (clients.set iter { c with fd := clientFd, status := .active })
  | fresh (absent : ∀ c ∈ clients.elems, c.id ≠ clientId) :
      Registered clients clientId clientFd (clients.push (.fresh clientId clientFd))

theorem registerNewClient_ok {clients after : ClientVec} {clientId : Bytes} {clientFd : Int}
    {alloc : RegisterAlloc}
    (ran : registerNewClient clients clientId clientFd alloc = (.ok, after)) :
    Registered clients clientId clientFd after := by
  unfold registerNewClient at ran
  cases found : locate (fun c => c.id == clientId) clients.elems with
  | some pair =>
      obtain ⟨here, same, _⟩ := locate_eq_some found
      rw [found] at ran
      cases status : pair.2.status with
      | active => simp [status] at ran
      | dead =>
          simp only [status, reduceCtorEq, if_false, Prod.mk.injEq, true_and] at ran
          rw [← ran]
          exact .again pair.1 pair.2 here (by simpa using same) status
  | none =>
      have absent : ∀ c ∈ clients.elems, c.id ≠ clientId := by
        intro c member
        simpa using locate_eq_none_iff.mp found c member
      rw [found] at ran
      dsimp only at ran
      split at ran
      · cases ran
      · split at ran
        · cases ran
        · split at ran
          · cases ran
          · split at ran
            · cases ran
            · split at ran
              · cases ran
              · rw [← (Prod.mk.inj ran).2]
                exact .fresh absent

/-- A refused registration leaves every entry of the table as it was. -/
theorem registerNewClient_refused {clients : ClientVec} {clientId : Bytes} {clientFd : Int}
    {alloc : RegisterAlloc}
    (refused : (registerNewClient clients clientId clientFd alloc).1 ≠ .ok) :
    (registerNewClient clients clientId clientFd alloc).2.elems = clients.elems := by
  unfold registerNewClient at refused ⊢
  cases found : locate (fun c => c.id == clientId) clients.elems with
  | some pair =>
      cases status : pair.2.status with
      | active => simp [status]
      | dead => simp [found, status] at refused
  | none =>
      rw [found] at refused
      dsimp only at refused ⊢
      split
      · rfl
      · split
        · exact clients.reserve_elems
        · split
          · exact clients.reserve_elems
          · split
            · exact clients.reserve_elems
            · split
              · exact clients.reserve_elems
              · simp_all

/-! ## Disconnection -/

/-- The third component is what is written to `*client_idx`. -/
def closeActiveClient (clients : ClientVec) (clientFd : Int) : Err × ClientVec × Nat :=
  if clientFd < 0 then (.clientsVecInputFdIdxInvalid, clients, 0)
  else
    match locate (fun c => c.fd == clientFd) clients.elems with
    | some (iter, c) =>
        if c.status = .dead then (.clientsVecClientAlreadyDead, clients, 0)
        else (.ok, clients.set iter { c with status := .dead, fd := -1 }, iter)
    | none => (.clientsVecCloseClientNotFound, clients, 0)

/-! ## Subscription -/

/-- The answers to the allocations of `subscribe_client_to_topic`. -/
structure SubscribeAlloc where
  topics : Bool
  options : Bool
  name : Bool

def SubscribeAlloc.succeed : SubscribeAlloc := ⟨true, true, true⟩

/-- The part of `subscribe_client_to_topic` for the client that was found. -/
def ClientType.subscribe (c : ClientType) (clientTopic : Bytes) (clientSf : ClientOption)
    (alloc : SubscribeAlloc) : Err × ClientType :=
  match locate (fun topic => topic == clientTopic) c.table.topics with
  | some (iter, _) => (.ok, { c with table := c.table.setOption iter clientSf })
  | none =>
      if c.table.full && !alloc.topics then (.clientsVecCoundNotAddATopic, c)
      else if c.table.full && !alloc.options then
        (.clientsVecCoundNotAddATopic, { c with table := c.table.growTopics })
      else if !alloc.name then
        (.clientsVecCoundNotAddATopic, { c with table := c.table.reserve })
      else (.ok, { c with table := c.table.push clientTopic clientSf })

def subscribeClientToTopic (clients : ClientVec) (clientFd : Int) (clientTopic : Bytes)
    (clientSf : ClientOption) (alloc : SubscribeAlloc) : Err × ClientVec :=
  if clientFd < 0 then (.clientsVecInputFdIdxInvalid, clients)
  else
    match locate (fun c => c.fd == clientFd) clients.elems with
    | some (iter, c) =>
        let done := c.subscribe clientTopic clientSf alloc
        (done.1, clients.set iter done.2)
    | none => (.clientsVecClientNotFound, clients)

/-- The part of `unsubscribe_client_from_topic` for the client that was found. -/
def ClientType.unsubscribe (c : ClientType) (clientTopic : Bytes) : Err × ClientType :=
  match locate (fun topic => topic == clientTopic) c.table.topics with
  | some (iter, _) => (.ok, { c with table := c.table.remove iter })
  | none => (.clientsVecCoundNotFindTopic, c)

def unsubscribeClientFromTopic (clients : ClientVec) (clientFd : Int) (clientTopic : Bytes) :
    Err × ClientVec :=
  if clientFd < 0 then (.clientsVecInputFdIdxInvalid, clients)
  else
    match locate (fun c => c.fd == clientFd) clients.elems with
    | some (iter, c) =>
        let done := c.unsubscribe clientTopic
        (done.1, clients.set iter done.2)
    | none => (.clientsVecClientNotFound, clients)

/-- How a function ends that goes to the client with a descriptor and works on its entry. -/
inductive OnClient (clients : ClientVec) (clientFd : Int) (run : ClientType → Err × ClientType) :
    Err × ClientVec → Prop where
  | invalid (negative : clientFd < 0) :
      OnClient clients clientFd run (.clientsVecInputFdIdxInvalid, clients)
  | missed (absent : locate (fun c => c.fd == clientFd) clients.elems = none) :
      OnClient clients clientFd run (.clientsVecClientNotFound, clients)
  | found (index : Nat) (c : ClientType)
      (located : locate (fun c => c.fd == clientFd) clients.elems = some (index, c)) :
      OnClient clients clientFd run ((run c).1, clients.set index (run c).2)

theorem subscribeClientToTopic_onClient (clients : ClientVec) (clientFd : Int)
    (clientTopic : Bytes) (clientSf : ClientOption) (alloc : SubscribeAlloc) :
    OnClient clients clientFd (·.subscribe clientTopic clientSf alloc)
      (subscribeClientToTopic clients clientFd clientTopic clientSf alloc) := by
  unfold subscribeClientToTopic
  split
  · rename_i negative
    exact .invalid negative
  · cases located : locate (fun c => c.fd == clientFd) clients.elems with
    | none => exact .missed located
    | some pair => exact .found pair.1 pair.2 located

theorem unsubscribeClientFromTopic_onClient (clients : ClientVec) (clientFd : Int)
    (clientTopic : Bytes) :
    OnClient clients clientFd (·.unsubscribe clientTopic)
      (unsubscribeClientFromTopic clients clientFd clientTopic) := by
  unfold unsubscribeClientFromTopic
  split
  · rename_i negative
    exact .invalid negative
  · cases located : locate (fun c => c.fd == clientFd) clients.elems with
    | none => exact .missed located
    | some pair => exact .found pair.1 pair.2 located

/-! ## Pending messages -/

/-- The pointer is written at the index `ready_msgs_len`, which is then counted. -/
def ClientType.stack (c : ClientType) (udpMsg : Ref) : ClientType :=
  { c with readyMsgs := c.readyMsgs.push udpMsg }

/-- `ready_msgs_len = count`. -/
def ClientType.truncate (c : ClientType) (count : Nat) : ClientType :=
  { c with readyMsgs := c.readyMsgs.truncate count }

def addTopicMsgForClient (clients : ClientVec) (udpMsg : Ref) (clientIdx : Nat) (grow : Bool) :
    Err × ClientVec :=
  match clients.elems[clientIdx]? with
  | none => (.clientsVecIndexOutOfBound, clients)
  | some c =>
      if c.readyMsgs.full && !grow then (.clientsVecFailedRealloc, clients)
      else (.ok, clients.set clientIdx (c.stack udpMsg))

theorem addTopicMsgForClient_ok {clients after : ClientVec} {udpMsg : Ref} {clientIdx : Nat}
    {grow : Bool} {c : ClientType} (here : clients.elems[clientIdx]? = some c)
    (ran : addTopicMsgForClient clients udpMsg clientIdx grow = (.ok, after)) :
    after = clients.set clientIdx (c.stack udpMsg) := by
  unfold addTopicMsgForClient at ran
  rw [here] at ran
  dsimp only at ran
  split at ran
  · cases ran
  · exact (Prod.mk.inj ran).2.symm

theorem addTopicMsgForClient_grow {clients : ClientVec} {clientIdx : Nat} {c : ClientType}
    (here : clients.elems[clientIdx]? = some c) (udpMsg : Ref) :
    addTopicMsgForClient clients udpMsg clientIdx true =
      (.ok, clients.set clientIdx (c.stack udpMsg)) := by
  simp [addTopicMsgForClient, here]

end TopicBroker
