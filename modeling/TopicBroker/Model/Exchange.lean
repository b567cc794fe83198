import TopicBroker.Lib.Stream
import TopicBroker.Model.Network
import TopicBroker.Model.Programs

/-!
# A server and its subscribers

The programs on both sides of the connections, and the bytes under way between
them. A connection hands its bytes over in order, in pieces of any sizes. Each
side takes its steps when it likes; a step of the server is one round of the
poll loop, a step of a subscriber one round of its main loop.
-/

namespace TopicBroker

universe u v

/-! ## One subscriber -/

/-- The line that the next round of the main loop takes for a request. -/
def SubscriberMain.request {σ : Type u} {τ : Type v} (call : PollCall)
    (main : SubscriberMain σ τ) : List Bytes :=
  let waited := waitForReadyFds call main.this.pollVec
  let got := { main.this with pollVec := waited.2 }.getCmdLine main.stdin
  if waited.1 = .ok ∧ (got.1 = .subscribe ∨ got.1 = .unsubscribe) then [cstr got.2.1.cmd.bytes]
  else []

/-- A subscriber that has connected. The two directions of its connection hold
what the other side has not read yet. -/
structure Caller where
  id : Bytes
  main : SubscriberMain (Nat × Bytes) (Nat × Bytes)
  /-- The lines that it took for requests. -/
  asked : List Bytes

namespace Caller

def up (caller : Caller) : Bytes := caller.main.out.2

def down (caller : Caller) : Bytes := caller.main.inn.2

/-- The subscriber has started, its id is on the way. -/
def connected (id : Bytes) (this : Subscriber) (stdin : Bytes) (out : Nat × Bytes) : Caller where
  id := id
  main := .start this stdin out (0, [])
  asked := []

/-- A round of the main loop. The bytes are taken and handed over in pieces of the given sizes. -/
def round (taken handed : Nat → Nat) (past : Bytes) (call : PollCall) (caller : Caller) : Caller :=
  { caller with
    main := caller.main.round (Outlet.sliced taken).put (Inlet.sliced handed).get past call
    asked := caller.asked ++ caller.main.request call }

/-- The server has read a frame, or the end of the stream. -/
def read (caller : Caller) : Caller :=
  { caller with
    main := { caller.main with out := (caller.main.out.1, caller.up.drop sizeofTcpMsg) } }

/-- Frames are on their way to the subscriber. -/
def given (frames : List TcpMsg) (caller : Caller) : Caller :=
  { caller with
    main :=
      { caller.main with
        inn := (caller.main.inn.1, caller.down ++ joined (frames.map TcpMsg.toBuffer)) } }

end Caller

/-- What has become of a connection that the server accepted. -/
inductive Link where
  /-- The id was not registered and the descriptor is closed. -/
  | refused
  /-- It is registered with the descriptor. -/
  | serving (fd : Int)
  /-- It was registered and is closed. -/
  | served
  deriving DecidableEq

/-- A subscriber whose connection the server accepted. -/
structure Peer extends Caller where
  link : Link
  /-- How many of its requests the server has read. -/
  heard : Nat
  /-- The frames that the server has sent to it. -/
  handed : List TcpMsg

/-- The frames that went out to the descriptor. -/
def framesTo (fd : Int) (log : List Event) : List TcpMsg :=
  log.filterMap fun event =>
    match event with
    | .sent _ target _ _ frame => if target = fd then some frame else none
    | _ => none

/-- The connection was accepted and the id read in a round that logged `log` and
left the server with the descriptors `fds`. -/
def Caller.accepted (fds : List Int) (fd : Int) (log : List Event) (caller : Caller) : Peer where
  toCaller := caller.read.given (framesTo fd log)
  link := if fd ∈ fds then .serving fd else .refused
  heard := 0
  handed := framesTo fd log

namespace Peer

/-- The server registered it. -/
def admitted (peer : Peer) : Bool := peer.link != .refused

/-- The server has read from the connection. -/
def attended (peer : Peer) : Peer :=
  { peer with
    toCaller := peer.read
    heard := if sizeofTcpMsg ≤ peer.up.length then peer.heard + 1 else peer.heard }

/-- Frames have gone out to the descriptor `fd`, which may be closed afterwards. -/
def handing (fds : List Int) (fd : Int) (log : List Event) (peer : Peer) : Peer :=
  { peer with
    toCaller := peer.given (framesTo fd log)
    link := if fd ∈ fds then .serving fd else .served
    handed := peer.handed ++ framesTo fd log }

/-- The subscriber after a round of the server that served `served`, logged
`log` and left the server with the descriptors `fds`. -/
def after (fds : List Int) (served : Option Int) (log : List Event) (peer : Peer) : Peer :=
  match peer.link with
  | .serving fd => (if served = some fd then peer.attended else peer).handing fds fd log
  | _ => peer

end Peer

/-! ## The exchange -/

structure Exchange where
  server : Server
  /-- The subscribers that wait for `accept`. -/
  backlog : List Caller
  /-- The subscribers that the server has accepted, also those that are gone. -/
  accepted : List Peer

/-- What `recv_tcp_msg` makes of a stream that hands its bytes over in pieces. -/
def Kernel.Hands (kernel : Kernel) (stream : Bytes) : Prop :=
  ∃ cuts : Nat → Nat, ∀ (fd : Int) (msg : TcpMsg),
    kernel.recvTcpMsg fd msg =
      let done := TopicBroker.recvTcpMsg (Inlet.sliced cuts).get fd msg.toBuffer (0, stream)
      (done.1, .ofBuffer done.2.1)

namespace Exchange

def start (s : Server) : Exchange := ⟨s, [], []⟩

/-- The connection that the round accepts. -/
def joining (w : Exchange) (kernel : Kernel) (iter : Nat) : List Peer :=
  let done := serve kernel iter w.server
  if w.server.listens iter then
    w.backlog.head?.toList.map
      (Caller.accepted done.server.pollVec.fds (kernel.accept w.server.pollVec.fds) done.log)
  else []

/-- The server has served the entry. -/
def served (w : Exchange) (kernel : Kernel) (iter : Nat) : Exchange :=
  let done := serve kernel iter w.server
  { server := done.server
    backlog := if w.server.listens iter then w.backlog.tail else w.backlog
    accepted := w.accepted.map
      (Peer.after done.server.pollVec.fds w.server.pollVec.fds[iter]? done.log) ++
        w.joining kernel iter }

/-- The kernel of the server answers as the connections are: the bytes that come
are those that were sent, `recv_tcp_msg` waits for a whole frame unless the
subscriber has left, and a frame to a subscriber that has not left goes out whole. -/
structure Answered (w : Exchange) (iter : Nat) (kernel : Kernel) : Prop where
  newcomer : w.server.listens iter →
    ∃ caller, w.backlog.head? = some caller ∧ kernel.Hands caller.up
  request : ∀ peer ∈ w.accepted, ∀ fd, peer.link = .serving fd →
    w.server.pollVec.fds[iter]? = some fd →
      kernel.Hands peer.up ∧ (sizeofTcpMsg ≤ peer.up.length ∨ peer.main.left = true)
  sends : ∀ peer ∈ w.accepted, ∀ fd, peer.link = .serving fd → peer.main.left = false →
    ∀ frame, ∀ msg, kernel.sendTcpMsg frame fd msg = .ok
  resends : w.server.listens iter → ∀ caller, w.backlog.head? = some caller →
    caller.main.left = false → ∀ frame, ∀ msg,
      kernel.sendTcpMsg frame (kernel.accept w.server.pollVec.fds) msg = .ok
  subscribe : kernel.subscribe = .succeed

end Exchange

/-- A subscriber connects or goes through a round of its main loop, before or
after it is accepted. One that reads where nothing has come takes this for the
end of the stream, so it may leave at any time. -/
inductive SubscriberStep : Exchange → Exchange → Prop where
  | connect (w : Exchange) (id : Bytes) (free : NulFree id) (short : id.length < maxIdClientLen)
      (kernel : InitClientKernel) (hport : UInt16) (taken : Nat → Nat) (stdin : Bytes)
      (this : Subscriber) (out : Nat × Bytes)
      (started : initClient (Outlet.sliced taken).put kernel id hport (0, []) = (.ok this, out)) :
      SubscriberStep w { w with backlog := w.backlog ++ [.connected id this stdin out] }
  | wait (w : Exchange) (index : Nat) (caller : Caller) (here : w.backlog[index]? = some caller)
      (running : caller.main.left = false) (taken handed : Nat → Nat) (past : Bytes)
      (call : PollCall) :
      SubscriberStep w
        { w with backlog := w.backlog.set index (caller.round taken handed past call) }
  | talk (w : Exchange) (index : Nat) (peer : Peer) (here : w.accepted[index]? = some peer)
      (running : peer.main.left = false) (taken handed : Nat → Nat) (past : Bytes)
      (call : PollCall) :
      SubscriberStep w
        { w with
          accepted := w.accepted.set index
            { peer with toCaller := peer.round taken handed past call } }

/-- A subscriber takes a step, or the server wakes up or serves an entry. -/
inductive ExchangeStep (allowed : Server → Nat → Kernel → Prop) :
    Exchange → List Event → Exchange → Prop where
  | move {w v : Exchange} (step : SubscriberStep w v) : ExchangeStep allowed w [] v
  | awake (w : Exchange) (revents : Nat → BitVec 16) (cmd : Buffer maxCmdLen) :
      ExchangeStep allowed w [] { w with server := w.server.awake revents cmd }
  | serve (w : Exchange) (iter : Nat) (kernel : Kernel) (first : 1 ≤ iter)
      (inside : iter < w.server.pollVec.nfds) (answered : w.Answered iter kernel)
      (granted : allowed w.server iter kernel) (ran : (serve kernel iter w.server).err = .ok) :
      ExchangeStep allowed w (serve kernel iter w.server).log (w.served kernel iter)

def exchange (allowed : Server → Nat → Kernel → Prop) : System Exchange Event where
  init w := ∃ s, (broker allowed).init s ∧ w = .start s
  step := ExchangeStep allowed

end TopicBroker
