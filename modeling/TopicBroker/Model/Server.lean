import TopicBroker.Model.ClientVec
import TopicBroker.Model.PollVec
import TopicBroker.Model.TcpType
import TopicBroker.Model.UdpType

/-!
# `server_utils`: the state and the functions below the poll loop

Everything the server asks of the kernel and of libc while it serves one ready
descriptor is answered by a `Kernel`. The log records what leaves the server or
enters a queue, so that a run can be judged by what its clients were sent.
-/

namespace TopicBroker

def maxServerBuflen : Nat := 8096
def initNfds : Nat := 10
def initClients : Nat := 10
def initUdpMsgsLen : Nat := 20

structure Server where
  udpSocket : Int
  tcpSocket : Int
  udpAddrClient : Buffer sizeofSockaddrIn
  pollVec : PollVec
  buf : Buffer maxServerBuflen
  cmd : Buffer maxCmdLen
  sendMsg : TcpMsg
  recvMsg : TcpMsg
  clients : ClientVec
  udpMsgs : Vec UdpType
  /-- The heap block `udp_msgs` points to. -/
  udpBlock : Nat
  deriving DecidableEq

/-! ## Start -/

/-- The answers to the system calls and allocations of `init_server`. -/
structure InitKernel where
  server : Bool
  /-- What the new `udp_addr_client` holds, which is not cleared. -/
  udpAddrClient : Buffer sizeofSockaddrIn
  buf : Bool
  cmd : Bool
  sendMsg : Bool
  recvMsg : Bool
  udpMsgs : Bool
  udpSocket : Int
  udpBind : Bool
  tcpSocket : Int
  tcpNodelay : Bool
  tcpBind : Bool
  tcpListen : Bool
  pollVec : Bool
  pfds : Bool
  clients : Bool
  entities : Bool

def initServerBuffers (kernel : InitKernel) : Bool :=
  kernel.buf && kernel.cmd && kernel.sendMsg && kernel.recvMsg && kernel.udpMsgs

def initServerUdpSocket (kernel : InitKernel) : Bool :=
  decide (0 ≤ kernel.udpSocket) && kernel.udpBind

def initServerTcpSocket (kernel : InitKernel) : Bool :=
  decide (0 ≤ kernel.tcpSocket) && kernel.tcpNodelay && kernel.tcpBind && kernel.tcpListen

def initServerPollVec (kernel : InitKernel) : Option PollVec :=
  if !(kernel.pollVec && kernel.pfds) then none
  else
    let created : PollVec := Vec.create initNfds (by decide)
    match pollVecAddFd created stdinFileno pollin kernel.pfds with
    | (.ok, withStdin) =>
        match pollVecAddFd withStdin kernel.udpSocket pollin kernel.pfds with
        | (.ok, withUdp) =>
            match pollVecAddFd withUdp kernel.tcpSocket pollin kernel.pfds with
            | (.ok, withTcp) => some withTcp
            | _ => none
        | _ => none
    | _ => none

def initServer (kernel : InitKernel) (hport : UInt16) : Except Err Server :=
  if hport = 0 then .error .invalidPortNumber
  else if !kernel.server then .error .serverFailedAllocation
  else if !initServerBuffers kernel then .error .serverFailedAllocation
  else if !initServerUdpSocket kernel then .error .serverFailedUdp
  else if !initServerTcpSocket kernel then .error .serverFailedTcp
  else
    match initServerPollVec kernel with
    | none => .error .serverFailedPollVec
    | some pollVec =>
        if !(kernel.clients && kernel.entities) then .error .serverFailedClientsVec
        else .ok
          { udpSocket := kernel.udpSocket
            tcpSocket := kernel.tcpSocket
            udpAddrClient := kernel.udpAddrClient
            pollVec := pollVec
            buf := Buffer.zero maxServerBuflen
            cmd := Buffer.zero maxCmdLen
            sendMsg := TcpMsg.zero
            recvMsg := TcpMsg.zero
            clients := createClientsVec initClients (by decide)
            udpMsgs := Vec.create initUdpMsgsLen (by decide)
            udpBlock := 0 }

/-! ## The kernel during one round of the poll loop -/

/-- What `realloc` does: it may move the block. -/
inductive Realloc where
  | fails
  | inPlace
  | moves
  deriving DecidableEq, Repr

structure Kernel where
  /-- The answer of `recvfrom`, `none` for -1. -/
  recvfrom : Option (Buffer sizeofSockaddrIn × Bytes)
  /-- The answer of `accept`, given the descriptors the server has open. -/
  accept : List Int → Int
  accept_fresh : ∀ opened, 0 < accept opened → accept opened ∉ opened
  /-- What the given `recv` call of a `recv_tcp_msg`, asked for so many bytes, delivers. -/
  recv : Nat → Nat → Bytes
  /-- What the given `send` call of the given `send_tcp_msg`, offered so many
  bytes, returns. One on a connection that its peer has closed may not return at
  all: `SIGPIPE` is left at its default and ends the process. -/
  send : Nat → Nat → Nat → Int
  /-- Growth of `pfds`. -/
  pfds : Bool
  /-- Growth of `udp_msgs`. -/
  udpMsgs : Realloc
  register : RegisterAlloc
  subscribe : SubscribeAlloc
  /-- Growth of `ready_msgs` of the client with the given index. -/
  readyMsgs : Nat → Bool
  /-- What is found where a freed block was. -/
  stale : Ref → UdpType
  /-- The memory behind `recv_msg`. -/
  past : Bytes

namespace Kernel

def recvCall (kernel : Kernel) : RecvCall Nat :=
  fun call asked => (kernel.recv call asked, call + 1)

def sendCall (kernel : Kernel) (frame : Nat) : SendCall Nat :=
  fun call offered => (kernel.send frame call offered.length, call + 1)

/-- `send_tcp_msg` of the frame with the given number in this round. -/
def sendTcpMsg (kernel : Kernel) (frame : Nat) (tcpSocket : Int) (msg : TcpMsg) : Err :=
  (TopicBroker.sendTcpMsg (kernel.sendCall frame) tcpSocket msg.toBuffer.bytes 0).1

/-- `recv_tcp_msg` into the given frame. -/
def recvTcpMsg (kernel : Kernel) (tcpSocket : Int) (msg : TcpMsg) : Err × TcpMsg :=
  let done := TopicBroker.recvTcpMsg kernel.recvCall tcpSocket msg.toBuffer 0
  (done.1, .ofBuffer done.2.1)

end Kernel

/-- What a run shows to the outside and what it queues. -/
inductive Event where
  /-- `recvfrom` returned, `none` for -1. -/
  | received (answer : Option Bytes)
  /-- A whole frame went out to a client. It was packed from the given element of
  `udp_msgs`, which was still part of the array when `live`. -/
  | sent (client : Bytes) (fd : Int) (source : Ref) (live : Bool) (frame : TcpMsg)
  /-- A pointer was stacked for a client while the given message was being published. -/
  | queued (client : Bytes) (source : Ref) (stored : UdpType)
  deriving DecidableEq

/-- The return value of a function of the server, the server after it, and what it logged. -/
structure Outcome where
  err : Err
  server : Server
  log : List Event

namespace Outcome

/-- What ran before had logged `earlier`. -/
def after (outcome : Outcome) (earlier : List Event) : Outcome :=
  { outcome with log := earlier ++ outcome.log }

@[simp] theorem after_err (outcome : Outcome) (earlier : List Event) :
    (outcome.after earlier).err = outcome.err := rfl

@[simp] theorem after_server (outcome : Outcome) (earlier : List Event) :
    (outcome.after earlier).server = outcome.server := rfl

@[simp] theorem after_log (outcome : Outcome) (earlier : List Event) :
    (outcome.after earlier).log = earlier ++ outcome.log := rfl

theorem after_after (outcome : Outcome) (first second : List Event) :
    (outcome.after second).after first = outcome.after (first ++ second) := by
  simp [after]

end Outcome

/-! ## Packing -/

/-- `snprintf` to `data + offset` with the given size argument. -/
def snprintf {size : Nat} (data : Buffer size) (offset room : Nat) (text : Bytes) : Buffer size :=
  if room = 0 then data else data.splice offset (text.take (room - 1) ++ [0])

/-- `inet_ntoa(addr.sin_addr)`. -/
def inetNtoa (addr : Buffer sizeofSockaddrIn) : Bytes :=
  let octet (index : Nat) := decimal (byteAt addr.bytes (4 + index)).toNat
  octet 0 ++ ascii "." ++ octet 1 ++ ascii "." ++ octet 2 ++ ascii "." ++ octet 3

/-- `ntohs(addr.sin_port)`. -/
def sinPort (addr : Buffer sizeofSockaddrIn) : UInt16 := ntohs (addr.bytes.drop 2)

/-- The text of the first `snprintf`. -/
def packedHead (msg : UdpType) : Bytes :=
  inetNtoa msg.addr ++ ascii ":" ++ decimal (sinPort msg.addr).toNat ++ ascii " - " ++ msg.name ++
    ascii " -"

/-- The text of the second `snprintf`, one for each type. -/
def packedTail : UdpData → Option Bytes
  | .int value => some (ascii " INT - " ++ signedDecimal value.toInt)
  | .shortReal value => some (ascii " SHORT_REAL - " ++ value.print 2)
  | .float value => some (ascii " FLOAT - " ++ value.print 6)
  | .string value => some (ascii " STRING - " ++ cstr value.bytes)
  | .unknown _ => none

/-- `MAX_TCP_MSG_BUF_LEN - len`, converted from `int` to `size_t`. -/
def roomBehind (len : UInt16) : Nat := (((maxTcpMsgBufLen : Int) - len.toNat) % 2 ^ 64).toNat

def packTopicToTcpMsg (sendMsg : TcpMsg) (msg : UdpType) : Err × TcpMsg :=
  let head := packedHead msg
  let headed : TcpMsg :=
    { len := head.length.toUInt16, data := snprintf sendMsg.data 0 maxTcpMsgBufLen head }
  match packedTail msg.data with
  | none => (.udpUnknownDataType, headed)
  | some tail =>
      (.ok,
        { len := headed.len + tail.length.toUInt16
          data := snprintf headed.data headed.len.toNat (roomBehind headed.len) tail })

theorem packedTail_eq_none_iff (data : UdpData) : packedTail data = none ↔ data.err ≠ .ok := by
  cases data <;> simp [packedTail, UdpData.err]

theorem packTopicToTcpMsg_ok_iff (sendMsg : TcpMsg) (msg : UdpType) :
    (packTopicToTcpMsg sendMsg msg).1 = .ok ↔ msg.Known := by
  rw [UdpType.known_iff]
  unfold packTopicToTcpMsg
  cases tail : packedTail msg.data with
  | none => simpa using (packedTail_eq_none_iff msg.data).mp tail
  | some text =>
      simp only [true_iff]
      by_contra refused
      rw [(packedTail_eq_none_iff msg.data).mpr refused] at tail
      cases tail

/-! ## Requests -/

/-- The byte at `data + len - 1`. A zero length points at the high byte of the
length field itself. -/
def optionByte (msg : TcpMsg) (past : Bytes) : UInt8 :=
  if msg.len = 0 then (msg.len >>> 8).toUInt8
  else byteAt (msg.data.bytes ++ past) (msg.len.toNat - 1)

def processServerTcpMsg (kernel : Kernel) (clientFd : Int) (s : Server) : Err × Server :=
  let memory := s.recvMsg.data.bytes ++ kernel.past
  let cmd := cstr memory
  let topic := cstr (memory.drop (cmd.length + 1))
  if cmd = ascii "subscribe" then
    let option := if optionByte s.recvMsg kernel.past = 0 then ClientOption.noSf else .sf
    let done := subscribeClientToTopic s.clients clientFd topic option kernel.subscribe
    (done.1, { s with clients := done.2 })
  else if cmd = ascii "unsubscribe" then
    let done := unsubscribeClientFromTopic s.clients clientFd topic
    (done.1, { s with clients := done.2 })
  else (.serverUnknownCommand, s)

/-! ## Stored datagrams -/

namespace Server

/-- The element of `udp_msgs` a pointer designates, when it designates one. -/
def stored? (s : Server) (source : Ref) : Option UdpType :=
  if source.block = s.udpBlock then s.udpMsgs.elems[source.slot]? else none

/-- What is read through a pointer. -/
def deref (s : Server) (kernel : Kernel) (source : Ref) : UdpType :=
  (s.stored? source).getD (kernel.stale source)

/-- `udp_msgs` after a successful growth. -/
def growUdpMsgs (s : Server) (kernel : Kernel) : Server :=
  { s with
    udpMsgs := s.udpMsgs.grow
    udpBlock := if kernel.udpMsgs = .moves then s.udpBlock + 1 else s.udpBlock }

/-- `udp_msgs` with room for one more element. -/
def reserveUdpMsgs (s : Server) (kernel : Kernel) : Server :=
  if s.udpMsgs.full then s.growUdpMsgs kernel else s

end Server

def addServerUdpMsg (kernel : Kernel) (s : Server) : Err × Server :=
  if s.udpMsgs.full && kernel.udpMsgs == .fails then (.serverCouldNotAddNewUdp, s)
  else
    let s := s.reserveUdpMsgs kernel
    let parsed := parseUdpTypeFrom s.udpAddrClient s.buf.bytes
    if parsed.1 ≠ .ok then (parsed.1, s)
    else (.ok, { s with udpMsgs := s.udpMsgs.push parsed.2 })

end TopicBroker
