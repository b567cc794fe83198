import TopicBroker.Model.ServerLoop
import TopicBroker.Model.Subscriber

/-!
# `server` and `subscriber`

The two programs as a whole: how a subscriber starts, and the two main loops.
One round of a main loop is given what `poll` returns in it and what the kernel
answers afterwards.
-/

namespace TopicBroker

universe u v

/-- What one call of `poll` returns, and the `revents` it leaves behind. -/
structure PollCall where
  returned : Int
  revents : Nat → BitVec 16

/-- `wait_for_ready_fds`, which both programs have. -/
def waitForReadyFds (call : PollCall) (vec : PollVec) : Err × PollVec :=
  if call.returned ≤ 0 then (.pollFailedTimedOut, vec) else (.ok, vec.polled call.revents)

/-! ## The main loop of the server -/

/-- Why a main loop was left. -/
inductive Leaving where
  | exit
  | failed (err : Err)
  deriving DecidableEq, Repr

/-- The answers of one round of the main loop of the server: those of `poll`,
and for each round of the pass behind it those of a `Kernel`. -/
structure ServerAnswers where
  call : PollCall
  kernels : Nat → Kernel

/-- The main loop at its head, or how it was left. -/
structure ServerMain where
  console : Console
  log : List Event
  left : Option Leaving

namespace ServerMain

def start (s : Server) (stdin : Bytes) : ServerMain := ⟨⟨s, stdin⟩, [], none⟩

/-- One round of the loop. -/
def round (answers : ServerAnswers) (main : ServerMain) : ServerMain :=
  let s := main.console.server
  let waited := waitForReadyFds answers.call s.pollVec
  if waited.1 ≠ .ok then { main with left := some (.failed waited.1) }
  else
    let checked := checkIfExit { s with pollVec := waited.2 } main.console.stdin
    if checked.1 then { main with console := ⟨checked.2.1, checked.2.2⟩, left := some .exit }
    else
      let done := processReadyFds answers.kernels checked.2.1
      { console := ⟨done.server, checked.2.2⟩
        log := main.log ++ done.log
        left := if done.err = .ok then none else some (.failed done.err) }

/-- The rounds of the loop, as long as it is not left. -/
def rounds : List ServerAnswers → ServerMain → ServerMain
  | [], main => main
  | answers :: rest, main => if main.left = none then rounds rest (main.round answers) else main

end ServerMain

def exitCodeRed : Int := -2

/-- What `init_client` returns when it does not return `OK`. -/
inductive InitClientErr where
  | invalidPortNumber
  | clientFailedAllocation
  | clientFailedTcp
  | clientFailedPollVec
  deriving DecidableEq, Repr

/-- The answers to the system calls and allocations of `init_client`, other than `send`. -/
structure InitClientKernel where
  client : Bool
  id : Bool
  cmd : Bool
  sendMsg : Bool
  recvMsg : Bool
  tcpSocket : Int
  tcpNodelay : Bool
  connect : Bool
  pollVec : Bool
  pfds : Bool

def initClientBuffers (kernel : InitClientKernel) : Bool :=
  kernel.cmd && kernel.sendMsg && kernel.recvMsg

/-- The frame that brings the id, in the zeros of a new `send_msg`. -/
def idFrame (id : Bytes) : TcpMsg where
  len := (id.length + 1).toUInt16
  data := strcpy TcpMsg.zero.data 0 id

section InitClient

variable {σ : Type u} {τ : Type v}

/-- The first component is whether the function returned 0. -/
def initClientTcpSocket (send : SendCall σ) (kernel : InitClientKernel) (id : Bytes) (out : σ) :
    Bool × σ :=
  if kernel.tcpSocket < 0 then (false, out)
  else if !kernel.tcpNodelay then (false, out)
  else if !kernel.connect then (false, out)
  else
    let sent := sendTcpMsg send kernel.tcpSocket (idFrame id).toBuffer.bytes out
    (decide (sent.1 = .ok), sent.2)

def initClientPollVec (kernel : InitClientKernel) : Option PollVec :=
  if !(kernel.pollVec && kernel.pfds) then none
  else
    let created : PollVec := Vec.create 2 Nat.zero_lt_two
    match pollVecAddFd created stdinFileno pollin kernel.pfds with
    | (.ok, withStdin) =>
        match pollVecAddFd withStdin kernel.tcpSocket (pollin ||| pollout) kernel.pfds with
        | (.ok, withTcp) => some withTcp
        | _ => none
    | _ => none

/-- The id has to fit in the `MAX_ID_CLIENT_LEN` bytes that it is copied to. -/
def initClient (send : SendCall σ) (kernel : InitClientKernel) (id : Bytes) (hport : UInt16)
    (out : σ) : Except InitClientErr Subscriber × σ :=
  if hport = 0 then (.error .invalidPortNumber, out)
  else if !kernel.client then (.error .clientFailedAllocation, out)
  else if !kernel.id then (.error .clientFailedAllocation, out)
  else if !initClientBuffers kernel then (.error .clientFailedAllocation, out)
  else
    let tcp := initClientTcpSocket send kernel id out
    if !tcp.1 then (.error .clientFailedTcp, tcp.2)
    else
      match initClientPollVec kernel with
      | none => (.error .clientFailedPollVec, tcp.2)
      | some pollVec =>
          (.ok
            { tcpSocket := kernel.tcpSocket
              cmd := Buffer.zero maxClientCmdLen
              sendMsg := idFrame id
              pollVec := pollVec
              recvMsg := TcpMsg.zero }, tcp.2)

/-! ## The main loop of the subscriber -/

/-- The main loop of a subscriber at its head, or that it was left. `out` and
`inn` are the two directions of its connection. -/
structure SubscriberMain (σ : Type u) (τ : Type v) where
  this : Subscriber
  stdin : Bytes
  out : σ
  inn : τ
  /-- What it has confirmed to its user. -/
  confirmed : Bytes
  /-- What it has printed of the server's frames. -/
  shown : Bytes
  left : Bool

namespace SubscriberMain

def start (this : Subscriber) (stdin : Bytes) (out : σ) (inn : τ) : SubscriberMain σ τ :=
  ⟨this, stdin, out, inn, [], [], false⟩

/-- One round of the loop. `past` is the memory behind `recv_msg`. -/
def round (send : SendCall σ) (recv : RecvCall τ) (past : Bytes) (call : PollCall)
    (main : SubscriberMain σ τ) : SubscriberMain σ τ :=
  let waited := waitForReadyFds call main.this.pollVec
  if waited.1 ≠ .ok then { main with left := true }
  else
    let got := { main.this with pollVec := waited.2 }.getCmdLine main.stdin
    match got.1 with
    | .exit => { main with this := got.2.1, stdin := got.2.2, left := true }
    | .none =>
        let done := got.2.1.processReadyFds recv past main.inn
        { main with
          this := done.2.1
          stdin := got.2.2
          inn := done.2.2.2
          shown := main.shown ++ done.2.2.1
          left := decide (done.1 ≠ .ok) }
    | cmd =>
        let done := got.2.1.obey send cmd main.out
        { main with
          this := done.2.1
          stdin := got.2.2
          out := done.2.2
          confirmed := main.confirmed ++ done.1 }

/-- The rounds of the loop, as long as it is not left, each with the memory behind
`recv_msg` and the answer of `poll`. -/
def rounds (send : SendCall σ) (recv : RecvCall τ) :
    List (Bytes × PollCall) → SubscriberMain σ τ → SubscriberMain σ τ
  | [], main => main
  | (past, call) :: rest, main =>
      if main.left then main else rounds send recv rest (main.round send recv past call)

end SubscriberMain

/-- `main` of a subscriber up to the given rounds of its loop: the exit code when it ended
before the loop, the loop otherwise. The address of the server only goes to `connect`. -/
def subscriberMain (send : SendCall σ) (recv : RecvCall τ) (args : List Bytes)
    (kernel : InitClientKernel) (stdin : Bytes) (out : σ) (inn : τ)
    (calls : List (Bytes × PollCall)) : Except Int (SubscriberMain σ τ) :=
  match args with
  | [_, id, _, port] =>
      match initClient send kernel id (atoi port).toInt16.toUInt16 out with
      | (.error _, _) => .error exitCodeRed
      | (.ok this, out) =>
          .ok (SubscriberMain.rounds send recv calls (.start this stdin out inn))
  | _ => .error exitCodeRed

end InitClient

end TopicBroker
