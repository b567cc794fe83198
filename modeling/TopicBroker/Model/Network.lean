import TopicBroker.Model.ServerLoop

/-!
# The network around the server

Peers open connections, send frames and close, and the kernel keeps what the
server has not fetched yet. A pass serves the descriptors that `poll` reported
one by one, in the order of the poll vector, while the peers go on.
-/

namespace TopicBroker

/-! ## Connections -/

/-- A connection as its peer sees it. -/
structure Connection where
  /-- The id in the first frame. -/
  id : Bytes
  /-- When the peer opened it. -/
  opened : Nat
  /-- When the peer closed it. -/
  closed : Option Nat
  /-- How many frames the server has not read yet. -/
  unread : Nat
  deriving DecidableEq

/-- The peer sends another frame or closes. -/
inductive Connection.Step (clock : Nat) (conn : Connection) : Connection → Prop where
  | say (alive : conn.closed = none) :
      Connection.Step clock conn { conn with unread := conn.unread + 1 }
  | hangUp (alive : conn.closed = none) :
      Connection.Step clock conn { conn with closed := some clock }

/-- A connection that the server registered. -/
structure Accepted extends Connection where
  fd : Int
  /-- The number of the `poll` call that reported the descriptor and in whose pass
  the server closed it. -/
  dropped : Option Nat
  deriving DecidableEq

/-- The connection after a round of the pass that belongs to the given `poll`
call: the server polls the descriptors `fds` afterwards and has served `served`. -/
def Accepted.after (poll : Nat) (fds : List Int) (served : Option Int) (conn : Accepted) :
    Accepted :=
  if conn.dropped ≠ none then conn
  else if conn.fd ∉ fds then { conn with dropped := some poll }
  else if served = some conn.fd then { conn with unread := conn.unread - 1 }
  else conn

/-- The server has accepted the connection and read the first frame. -/
def Connection.accept (conn : Connection) (fd : Int) : Accepted :=
  { conn with unread := conn.unread - 1, fd := fd, dropped := none }

/-! ## The world -/

structure World where
  server : Server
  clock : Nat
  /-- How often `poll` has returned. -/
  polls : Nat
  /-- The index that the pass has reached, `none` outside `process_ready_fds`. -/
  iter : Option Nat
  /-- The connections that wait for `accept`. -/
  backlog : List Connection
  /-- The connections that were registered, also those that are gone. -/
  accepted : List Accepted
  deriving DecidableEq

/-- The round at the index serves the listener. -/
def Server.listens (s : Server) (iter : Nat) : Prop :=
  s.pollVec.fds[iter]? = some s.tcpSocket ∧ s.tcpSocket ≠ s.udpSocket

instance (s : Server) (iter : Nat) : Decidable (s.listens iter) :=
  inferInstanceAs (Decidable (_ ∧ _))

namespace World

def start (s : Server) : World := ⟨s, 0, 0, none, [], []⟩

/-- There is something to be read: a line or a datagram may be there at any
time, a connection has to be waiting, a peer has sent something or closed. -/
def Readable (w : World) (fd : Int) : Prop :=
  fd = stdinFileno ∨ fd = w.server.udpSocket ∨
    (fd = w.server.tcpSocket ∧ w.backlog ≠ []) ∨
    ∃ conn ∈ w.accepted, conn.fd = fd ∧ conn.dropped = none ∧
      (0 < conn.unread ∨ conn.closed ≠ none)

instance (w : World) (fd : Int) : Decidable (w.Readable fd) :=
  inferInstanceAs (Decidable (_ ∨ _ ∨ (_ ∧ _) ∨ _))

/-- A peer opens a connection. -/
def connected (w : World) (id : Bytes) : World :=
  { w with clock := w.clock + 1, backlog := w.backlog ++ [⟨id, w.clock, none, 1⟩] }

/-- The peer of a waiting connection went on. -/
def waited (w : World) (index : Nat) (conn : Connection) : World :=
  { w with clock := w.clock + 1, backlog := w.backlog.set index conn }

/-- The peer of a registered connection went on. -/
def talked (w : World) (index : Nat) (conn : Accepted) : World :=
  { w with clock := w.clock + 1, accepted := w.accepted.set index conn }

/-- `poll` returned. -/
def polled (w : World) (revents : Nat → BitVec 16) (cmd : Buffer maxCmdLen) : World :=
  { w with server := w.server.awake revents cmd, polls := w.polls + 1, iter := some 1 }

/-- The entry at the index was not reported. -/
def skipped (w : World) (iter : Nat) : World := { w with iter := some (iter + 1) }

/-- The connection that the round registered: it was the first to wait, and its
descriptor is still polled. -/
def joining (w : World) (kernel : Kernel) (iter : Nat) : List Accepted :=
  let newClientFd := kernel.accept w.server.pollVec.fds
  if w.server.listens iter ∧ newClientFd ∈ (serve kernel iter w.server).server.pollVec.fds then
    w.backlog.head?.toList.map fun conn => conn.accept newClientFd
  else []

/-- The loop body was executed for the index. -/
def served (w : World) (kernel : Kernel) (iter : Nat) : World :=
  let done := serve kernel iter w.server
  { w with
    server := done.server
    iter := some (if done.removed then iter else iter + 1)
    backlog := if w.server.listens iter then w.backlog.tail else w.backlog
    accepted := w.accepted.map (Accepted.after w.polls done.server.pollVec.fds
      w.server.pollVec.fds[iter]?) ++ w.joining kernel iter }

/-- The end of the pass. -/
def finished (w : World) : World := { w with iter := none }

/-- The kernel answers as the connections are: the first frame of the first
connection that waits holds its id, and no frame comes that was not sent. -/
structure Answered (w : World) (iter : Nat) (kernel : Kernel) : Prop where
  newcomer : w.server.listens iter →
    ∃ conn, w.backlog.head? = some conn ∧ kernel.newcomer w.server = conn.id
  frame : ∀ conn ∈ w.accepted, conn.dropped = none →
    w.server.pollVec.fds[iter]? = some conn.fd →
      (kernel.recvTcpMsg conn.fd w.server.recvMsg).1 = .ok → 0 < conn.unread

end World

/-! ## Runs of the network -/

/-- A peer does something, `poll` reports any of the descriptors that can be
read, or the pass goes on. `allowed` restricts what the kernel answers besides.
An id may have any length here; `IdBlock` has what becomes of one that is longer
than its block. -/
inductive NetworkStep (allowed : Server → Nat → Kernel → Prop) :
    World → List Event → World → Prop where
  | connect (w : World) (id : Bytes) : NetworkStep allowed w [] (w.connected id)
  | wait (w : World) (index : Nat) (conn next : Connection)
      (here : w.backlog[index]? = some conn) (step : conn.Step w.clock next) :
      NetworkStep allowed w [] (w.waited index next)
  | talk (w : World) (index : Nat) (conn : Accepted) (next : Connection)
      (here : w.accepted[index]? = some conn) (step : conn.toConnection.Step w.clock next) :
      NetworkStep allowed w [] (w.talked index { conn with toConnection := next })
  | poll (w : World) (revents : Nat → BitVec 16) (cmd : Buffer maxCmdLen)
      (outside : w.iter = none)
      (reported : ∀ entry ∈ (w.server.pollVec.polled revents).elems, entry.ready = true →
        w.Readable entry.fd) :
      NetworkStep allowed w [] (w.polled revents cmd)
  | skip (w : World) (iter : Nat) (entry : PollFd) (inside : w.iter = some iter)
      (here : w.server.pollVec.elems[iter]? = some entry) (quiet : entry.ready = false) :
      NetworkStep allowed w [] (w.skipped iter)
  | serve (w : World) (iter : Nat) (entry : PollFd) (kernel : Kernel)
      (inside : w.iter = some iter) (here : w.server.pollVec.elems[iter]? = some entry)
      (ready : entry.ready = true) (answered : w.Answered iter kernel)
      (granted : allowed w.server iter kernel) (ran : (serve kernel iter w.server).err = .ok) :
      NetworkStep allowed w (serve kernel iter w.server).log (w.served kernel iter)
  | finish (w : World) (iter : Nat) (inside : w.iter = some iter)
      (beyond : w.server.pollVec.nfds ≤ iter) : NetworkStep allowed w [] w.finished

def network (allowed : Server → Nat → Kernel → Prop) : System World Event where
  init w := ∃ s, (broker allowed).init s ∧ w = .start s
  step := NetworkStep allowed

end TopicBroker
