import TopicBroker.Lib.Blocks
import TopicBroker.Model.Server

/-!
# The arrays on the heap

The functions that change the growable arrays, once more and nearer to the
code: over blocks of cells, with lengths and capacities of which nothing is
known, and without a result when a cell outside its block is accessed or one is
read that was never written. A pointer to a string is the string, `none` when
it leads to none: before the first write, for `NULL`, and after `free`.
-/

namespace TopicBroker
namespace Heap

/-! ## `poll_vec` -/

abbrev PollVec := Growable (Option PollFd)

def pollVecAddFd (vec : PollVec) (fd : Int) (fdEvents : BitVec 16) (grow : Bool) :
    Option (Err × PollVec) :=
  if vec.full && !grow then some (.pollVecFailedRealloc, vec)
  else do
    let vec ← vec.reserve.append (some ⟨fd, fdEvents, 0⟩)
    some (.ok, vec)

def pollVecRemoveFd (vec : PollVec) (fdIdx : Nat) : Option (Err × PollVec) :=
  if vec.len ≤ fdIdx then some (.pollVecInputFdIdxOutOfBound, vec)
  else do
    -- the descriptor that is closed
    let _ ← vec.block[fdIdx]?.join
    let vec ← vec.remove fdIdx
    some (.ok, vec)

/-! ## `client_vec` -/

structure ClientType where
  id : Option Bytes
  status : Option ClientStatus
  options : Option (List (Option ClientOption))
  fd : Option Int
  topics : Option (List (Option Bytes))
  topicsLen : Option Nat
  topicCapacity : Option Nat
  readyMsgs : Option (List (Option Ref))
  readyMsgsLen : Option Nat
  readyMsgsCapacity : Option Nat
  deriving DecidableEq, Inhabited

namespace ClientType

/-- `topics` with the length and the capacity that are kept for it. -/
def topicArray (entry : ClientType) : Option (Growable (Option Bytes)) := do
  some ⟨← entry.topics, ← entry.topicsLen, ← entry.topicCapacity⟩

/-- `options`, which goes by the length and the capacity of `topics`. -/
def optionArray (entry : ClientType) : Option (Growable (Option ClientOption)) := do
  some ⟨← entry.options, ← entry.topicsLen, ← entry.topicCapacity⟩

def readyArray (entry : ClientType) : Option (Growable (Option Ref)) := do
  some ⟨← entry.readyMsgs, ← entry.readyMsgsLen, ← entry.readyMsgsCapacity⟩

end ClientType

abbrev ClientVec := Growable ClientType

/-- What a `malloc` of `INIT_TOPICS_CAPACITY` elements returns. -/
def mallocTopics {α : Type} (granted : Bool) : Option (List (Option α)) :=
  if granted then some (Block.malloc initTopicsCapacity) else none

/-- The part of `register_new_client` that fills in the entry behind the table. -/
def fillNewEntry (clients : ClientVec) (clientId : Bytes) (clientFd : Int)
    (alloc : RegisterAlloc) : Option (Err × ClientVec) := do
  -- the answer of `malloc` is stored before it is tested, here and below
  let clients ← clients.update clients.len fun entry => { entry with id := none }
  if !alloc.id then some (.clientsVecFailedRegisterAllocation, clients)
  else
    let clients ← clients.update clients.len fun entry =>
      { entry with
        topicsLen := some 0
        topicCapacity := some initTopicsCapacity
        topics := mallocTopics alloc.topics }
    if !alloc.topics then
      let clients ← clients.update clients.len fun entry => { entry with id := none }
      some (.clientsVecFailedRegisterAllocation, clients)
    else
      let clients ← clients.update clients.len fun entry =>
        { entry with options := mallocTopics alloc.options }
      if !alloc.options then
        let clients ← clients.update clients.len fun entry =>
          { entry with id := none, topics := none }
        some (.clientsVecFailedRegisterAllocation, clients)
      else
        let clients ← clients.update clients.len fun entry =>
          { entry with
            readyMsgsLen := some 0
            readyMsgsCapacity := some initTopicsCapacity
            readyMsgs := mallocTopics alloc.readyMsgs }
        if !alloc.readyMsgs then
          let clients ← clients.update clients.len fun entry =>
            { entry with id := none, topics := none, options := none }
          some (.clientsVecFailedRegisterAllocation, clients)
        else
          let clients ← clients.update clients.len fun entry =>
            { entry with id := some clientId, fd := some clientFd, status := some .active }
          some (.ok, { clients with len := clients.len + 1 })

def registerNewClient (clients : ClientVec) (clientId : Bytes) (clientFd : Int)
    (alloc : RegisterAlloc) : Option (Err × ClientVec) := do
  match ← clients.scan fun entry => entry.id.map (· == clientId) with
  | some iter =>
      let entry ← clients.block[iter]?
      if (← entry.status) = .active then some (.clientVecClientAlreadyConnected, clients)
      else
        let clients ← clients.store iter { entry with fd := some clientFd, status := some .active }
        some (.ok, clients)
  | none =>
      if clients.full && !alloc.entities then some (.clientsVecFailedRealloc, clients)
      else fillNewEntry clients.reserve clientId clientFd alloc

def closeActiveClient (clients : ClientVec) (clientFd : Int) :
    Option (Err × ClientVec × Nat) :=
  if clientFd < 0 then some (.clientsVecInputFdIdxInvalid, clients, 0)
  else do
    match ← clients.scan fun entry => entry.fd.map (· == clientFd) with
    | some iter =>
        let entry ← clients.block[iter]?
        if (← entry.status) = .dead then some (.clientsVecClientAlreadyDead, clients, 0)
        else
          let clients ← clients.store iter { entry with status := some .dead, fd := some (-1) }
          some (.ok, clients, iter)
    | none => some (.clientsVecCloseClientNotFound, clients, 0)

/-- The topic and its option are written at the index `topics_len`, which is then counted. -/
def ClientType.addTopic (entry : ClientType) (clientTopic : Bytes) (clientSf : ClientOption)
    (name : Bool) : Option (Err × ClientType) := do
  let topics ← entry.topicArray
  let topics ← topics.store topics.len none
  if !name then
    some (.clientsVecCoundNotAddATopic, { entry with topics := some topics.block })
  else
    let topics ← topics.append (some clientTopic)
    let options ← (← entry.optionArray).append (some clientSf)
    some (.ok,
      { entry with
        topics := some topics.block
        options := some options.block
        topicsLen := some topics.len })

/-- The part of `subscribe_client_to_topic` for the client that was found. -/
def ClientType.subscribe (entry : ClientType) (clientTopic : Bytes) (clientSf : ClientOption)
    (alloc : SubscribeAlloc) : Option (Err × ClientType) := do
  let topics ← entry.topicArray
  let options ← entry.optionArray
  match ← topics.scan fun topic => topic.map (· == clientTopic) with
  | some iter =>
      let options ← options.store iter (some clientSf)
      some (.ok, { entry with options := some options.block })
  | none =>
      if topics.full then
        if !alloc.topics then some (.clientsVecCoundNotAddATopic, entry)
        else
          let entry := { entry with topics := some topics.grow.block }
          if !alloc.options then some (.clientsVecCoundNotAddATopic, entry)
          else
            let entry :=
              { entry with
                options := some options.grow.block
                topicCapacity := some options.grow.capacity }
            entry.addTopic clientTopic clientSf alloc.name
      else entry.addTopic clientTopic clientSf alloc.name

def subscribeClientToTopic (clients : ClientVec) (clientFd : Int) (clientTopic : Bytes)
    (clientSf : ClientOption) (alloc : SubscribeAlloc) : Option (Err × ClientVec) :=
  if clientFd < 0 then some (.clientsVecInputFdIdxInvalid, clients)
  else do
    match ← clients.scan fun entry => entry.fd.map (· == clientFd) with
    | some iter =>
        let entry ← clients.block[iter]?
        let done ← entry.subscribe clientTopic clientSf alloc
        let clients ← clients.store iter done.2
        some (done.1, clients)
    | none => some (.clientsVecClientNotFound, clients)

/-- `count` rounds of the loop that moves the topics and their options. -/
def shiftTopics : Nat → Nat → List (Option Bytes) → List (Option ClientOption) →
    Option (List (Option Bytes) × List (Option ClientOption))
  | 0, _, topics, options => some (topics, options)
  | count + 1, j, topics, options => do
      let topics ← Block.store topics j (← topics[j + 1]?)
      let options ← Block.store options j (← options[j + 1]?)
      shiftTopics count (j + 1) topics options

/-- The part of `unsubscribe_client_from_topic` for the client that was found. -/
def ClientType.unsubscribe (entry : ClientType) (clientTopic : Bytes) :
    Option (Err × ClientType) := do
  let topics ← entry.topicArray
  let options ← entry.optionArray
  match ← topics.scan fun topic => topic.map (· == clientTopic) with
  | some iter =>
      -- the name is freed
      let freed ← topics.store iter none
      let moved ← shiftTopics (topics.len - 1 - iter) iter freed.block options.block
      some (.ok,
        { entry with
          topics := some moved.1
          options := some moved.2
          topicsLen := some (topics.len - 1) })
  | none => some (.clientsVecCoundNotFindTopic, entry)

def unsubscribeClientFromTopic (clients : ClientVec) (clientFd : Int) (clientTopic : Bytes) :
    Option (Err × ClientVec) :=
  if clientFd < 0 then some (.clientsVecInputFdIdxInvalid, clients)
  else do
    match ← clients.scan fun entry => entry.fd.map (· == clientFd) with
    | some iter =>
        let entry ← clients.block[iter]?
        let done ← entry.unsubscribe clientTopic
        let clients ← clients.store iter done.2
        some (done.1, clients)
    | none => some (.clientsVecClientNotFound, clients)

def addTopicMsgForClient (clients : ClientVec) (udpMsg : Ref) (clientIdx : Nat) (grow : Bool) :
    Option (Err × ClientVec) :=
  if clients.len ≤ clientIdx then some (.clientsVecIndexOutOfBound, clients)
  else do
    let entry ← clients.block[clientIdx]?
    let readyMsgs ← entry.readyArray
    if readyMsgs.full && !grow then some (.clientsVecFailedRealloc, clients)
    else
      let readyMsgs ← readyMsgs.reserve.append (some udpMsg)
      let clients ← clients.store clientIdx
        { entry with
          readyMsgs := some readyMsgs.block
          readyMsgsLen := some readyMsgs.len
          readyMsgsCapacity := some readyMsgs.capacity }
      some (.ok, clients)

/-! ## `server_t` -/

/-- The arrays of a program and, for the stored datagrams, the block they are in. -/
structure Memory where
  pollVec : PollVec
  clients : ClientVec
  udpMsgs : Growable (Option UdpType)
  udpBlock : Nat
  deriving DecidableEq

/-- What `memset` leaves of an element of `udp_msgs`. -/
def zeroUdpType : UdpType where
  addr := Buffer.zero sizeofSockaddrIn
  topic := Buffer.zero maxTopicLen
  data := .int 0

def addServerUdpMsg (grow : Realloc) (udpAddrClient : Buffer sizeofSockaddrIn)
    (buf : Buffer maxServerBuflen) (this : Memory) : Option (Err × Memory) :=
  if this.udpMsgs.full && grow == .fails then some (.serverCouldNotAddNewUdp, this)
  else do
    let moved := this.udpMsgs.full && grow == .moves
    let udpMsgs := this.udpMsgs.reserve
    let udpMsgs ← udpMsgs.store udpMsgs.len (some zeroUdpType)
    -- the parser fills in the element whatever it returns
    let parsed := parseUdpTypeFrom udpAddrClient buf.bytes
    let udpMsgs ← udpMsgs.store udpMsgs.len (some parsed.2)
    let this :=
      { this with
        udpMsgs := udpMsgs
        udpBlock := if moved then this.udpBlock + 1 else this.udpBlock }
    if parsed.1 ≠ .ok then some (parsed.1, this)
    else some (.ok, { this with udpMsgs := { udpMsgs with len := udpMsgs.len + 1 } })

end Heap
end TopicBroker
