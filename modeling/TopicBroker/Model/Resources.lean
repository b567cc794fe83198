import TopicBroker.Lib.Custody
import TopicBroker.Model.Programs

/-!
# What the programs take and give back

The calls of `malloc`, `free`, `socket`, `accept` and `close` that the functions
of both programs make, in their order. A block is named by what it is allocated
for; one that `realloc` moves keeps its name.
-/

namespace TopicBroker

inductive Resource where
  | descriptor (fd : Int)
  -- blocks of both programs
  | pollVec
  | pfds
  | cmd
  | sendMsg
  | recvMsg
  -- blocks of the server
  | server
  | buf
  | udpMsgs
  | clients
  | entities
  | id (client : Bytes)
  | topics (client : Bytes)
  | options (client : Bytes)
  | readyMsgs (client : Bytes)
  | topic (client : Bytes) (name : Bytes)
  -- blocks of a subscriber
  | client
  | clientId
  deriving DecidableEq

abbrev Deals := List (Deal Resource)

/-! ## `poll_vec` and `client_vec` -/

/-- The block of a vector and that of its cells. A refusal of the second leaves the first. -/
def createVecDeals (vec cells : Resource) (vecGranted cellsGranted : Bool) : Deals :=
  if !vecGranted then []
  else .take vec :: if !cellsGranted then [] else [.take cells]

def createPollVecDeals : Bool → Bool → Deals := createVecDeals .pollVec .pfds

def freePollVecDeals (vec : PollVec) : Deals :=
  vec.fds.map (fun fd => .give (.descriptor fd)) ++ [.give .pfds, .give .pollVec]

def createClientsVecDeals : Bool → Bool → Deals := createVecDeals .clients .entities

def initServerUdpSocketDeals (kernel : InitKernel) : Deals :=
  if kernel.udpSocket < 0 then [] else [.take (.descriptor kernel.udpSocket)]

def initServerTcpSocketDeals (kernel : InitKernel) : Deals :=
  if kernel.tcpSocket < 0 then [] else [.take (.descriptor kernel.tcpSocket)]

/-- The vector goes when a descriptor cannot be added, and what it holds by then is closed. -/
def addedOrFreed (added : Err × PollVec) (next : PollVec → Deals) : Deals :=
  if added.1 ≠ .ok then freePollVecDeals added.2 else next added.2

def initServerPollVecDeals (kernel : InitKernel) : Deals :=
  createPollVecDeals kernel.pollVec kernel.pfds ++
    if !(kernel.pollVec && kernel.pfds) then []
    else
      let created : PollVec := Vec.create initNfds (Nat.succ_pos _)
      addedOrFreed (pollVecAddFd created stdinFileno pollin kernel.pfds) fun withStdin =>
        addedOrFreed (pollVecAddFd withStdin kernel.udpSocket pollin kernel.pfds) fun withUdp =>
          addedOrFreed (pollVecAddFd withUdp kernel.tcpSocket pollin kernel.pfds) fun _ => []

def initServerBuffersDeals (kernel : InitKernel) : Deals :=
  if !kernel.buf then []
  else .take .buf ::
    if !kernel.cmd then [.give .buf]
    else .take .cmd ::
      if !kernel.sendMsg then [.give .buf, .give .cmd]
      else .take .sendMsg ::
        if !kernel.recvMsg then [.give .buf, .give .cmd, .give .sendMsg]
        else .take .recvMsg ::
          if !kernel.udpMsgs then [.give .buf, .give .cmd, .give .sendMsg, .give .recvMsg]
          else [.take .udpMsgs]

def freeServerBuffers : Deals :=
  [.give .buf, .give .cmd, .give .sendMsg, .give .recvMsg, .give .udpMsgs]

def initServerDeals (kernel : InitKernel) (hport : UInt16) : Deals :=
  if hport = 0 then []
  else if !kernel.server then []
  else .take .server :: (initServerBuffersDeals kernel ++
    if !initServerBuffers kernel then [.give .server]
    else initServerUdpSocketDeals kernel ++
      if !initServerUdpSocket kernel then freeServerBuffers ++ [.give .server]
      else initServerTcpSocketDeals kernel ++
        if !initServerTcpSocket kernel then
          [.give (.descriptor kernel.udpSocket)] ++ freeServerBuffers ++ [.give .server]
        else initServerPollVecDeals kernel ++
          match initServerPollVec kernel with
          | none =>
              [.give (.descriptor kernel.udpSocket), .give (.descriptor kernel.tcpSocket)] ++
                freeServerBuffers ++ [.give .server]
          | some pollVec => createClientsVecDeals kernel.clients kernel.entities ++
              if !(kernel.clients && kernel.entities) then
                -- the vector holds both sockets, which are closed already
                [.give (.descriptor kernel.udpSocket), .give (.descriptor kernel.tcpSocket)] ++
                  freeServerBuffers ++ freePollVecDeals pollVec ++ [.give .server]
              else [])

/-- What a part of the main loop takes and gives back, and the descriptors of which it
leaves no copy. -/
structure Toll where
  deals : Deals
  dropped : List Int

namespace Toll

def none : Toll := ⟨[], []⟩

def of (deals : Deals) : Toll := ⟨deals, []⟩

def append (first second : Toll) : Toll :=
  ⟨first.deals ++ second.deals, first.dropped ++ second.dropped⟩

end Toll

def initClientBuffersDeals (kernel : InitClientKernel) : Deals :=
  if !kernel.cmd then []
  else .take .cmd ::
    if !kernel.sendMsg then [.give .cmd]
    else .take .sendMsg ::
      if !kernel.recvMsg then [.give .cmd, .give .sendMsg]
      else [.take .recvMsg]

def initClientTcpSocketDeals (kernel : InitClientKernel) : Deals :=
  if kernel.tcpSocket < 0 then [] else [.take (.descriptor kernel.tcpSocket)]

def initClientPollVecDeals (kernel : InitClientKernel) : Deals :=
  createPollVecDeals kernel.pollVec kernel.pfds ++
    if !(kernel.pollVec && kernel.pfds) then []
    else
      let created : PollVec := Vec.create 2 Nat.zero_lt_two
      addedOrFreed (pollVecAddFd created stdinFileno pollin kernel.pfds) fun withStdin =>
        addedOrFreed (pollVecAddFd withStdin kernel.tcpSocket (pollin ||| pollout) kernel.pfds)
          fun _ => []

def freeClientBuffers : Deals :=
  [.give .clientId, .give .cmd, .give .sendMsg, .give .recvMsg, .give .client]

section Subscriber

universe u v

variable {σ : Type u} {τ : Type v}

def initClientDeals (send : SendCall σ) (kernel : InitClientKernel) (id : Bytes) (hport : UInt16)
    (out : σ) : Deals :=
  if hport = 0 then []
  else if !kernel.client then []
  else .take .client ::
    if !kernel.id then [.give .client]
    else .take .clientId :: (initClientBuffersDeals kernel ++
      if !initClientBuffers kernel then [.give .client]
      else initClientTcpSocketDeals kernel ++
        if !(initClientTcpSocket send kernel id out).1 then freeClientBuffers
        else initClientPollVecDeals kernel ++
          match initClientPollVec kernel with
          | none => .give (.descriptor kernel.tcpSocket) :: freeClientBuffers
          | some _ => [])

def freeClientDeals (this : Subscriber) : Deals :=
  freePollVecDeals this.pollVec ++ freeClientBuffers

/-- What `main` of a subscriber takes and gives back up to the given rounds of its loop, in
which nothing is, and after it when it is left. -/
def subscriberMainDeals (send : SendCall σ) (recv : RecvCall τ) (args : List Bytes)
    (kernel : InitClientKernel) (stdin : Bytes) (out : σ) (inn : τ)
    (calls : List (Bytes × PollCall)) : Deals :=
  match args with
  | [_, id, _, port] =>
      let hport := (atoi port).toInt16.toUInt16
      let starting := initClientDeals send kernel id hport out
      match initClient send kernel id hport out with
      | (.error _, _) => starting
      | (.ok this, out) =>
          let main := SubscriberMain.rounds send recv calls (.start this stdin out inn)
          starting ++ if main.left then freeClientDeals main.this else []
  | _ => []

end Subscriber

end TopicBroker
