import TopicBroker.Lib.Loops
import TopicBroker.Lib.Runs
import TopicBroker.Model.Server

/-!
# `server_utils`: the poll loop

One round of `process_ready_fds` serves one ready descriptor. What the kernel
answers in it is a `Kernel`; a pass takes one `Kernel` for each of its rounds.
-/

namespace TopicBroker

/-! ## Publication -/

/-- The loop over the clients from index `iter` on. -/
def transmitLoop (kernel : Kernel) (source : Ref) (msg : UdpType) : Nat → Nat → Server → Outcome
  | 0, _, s => ⟨.ok, s, []⟩
  | clients + 1, iter, s =>
      match s.clients.elems[iter]? with
      | none => ⟨.ok, s, []⟩
      | some c =>
          match locate (fun topic => msg.name == topic) c.table.topics with
          | none => transmitLoop kernel source msg clients (iter + 1) s
          | some (iterJ, _) =>
              if c.status = .active then
                -- a failed send is only reported
                let log :=
                  if kernel.sendTcpMsg iter c.fd s.sendMsg = .ok then
                    [.sent c.id c.fd source (s.stored? source).isSome s.sendMsg]
                  else []
                (transmitLoop kernel source msg clients (iter + 1) s).after log
              else if c.table.options[iterJ]? = some .sf then
                let added := addTopicMsgForClient s.clients source iter (kernel.readyMsgs iter)
                if added.1 ≠ .ok then ⟨added.1, { s with clients := added.2 }, []⟩
                else
                  (transmitLoop kernel source msg clients (iter + 1)
                    { s with clients := added.2 }).after [.queued c.id source msg]
              else transmitLoop kernel source msg clients (iter + 1) s

/-- `&udp_msgs[udp_msgs_len - 1]`. -/
def Server.lastRef (s : Server) : Ref := ⟨s.udpBlock, s.udpMsgs.elems.length - 1⟩

def transmitTopicToClients (kernel : Kernel) (s : Server) : Outcome :=
  let source := s.lastRef
  let msg := s.deref kernel source
  let packed := packTopicToTcpMsg s.sendMsg msg
  let s := { s with sendMsg := packed.2 }
  if packed.1 ≠ .ok then ⟨packed.1, s, []⟩
  else transmitLoop kernel source msg s.clients.elems.length 0 s

/-! ## Retransmission -/

/-- How the loop over the pending messages ended. -/
inductive RetransmitEnd where
  | drained
  | packFailed (err : Err) (remaining : Nat)
  | sendFailed (remaining : Nat)

/-- The loop `for (; remaining_msgs > 0; remaining_msgs--)`. -/
def retransmitLoop (kernel : Kernel) (s : Server) (c : ClientType) (clientFd : Int) :
    Nat → TcpMsg → RetransmitEnd × TcpMsg × List Event
  | 0, sendMsg => (.drained, sendMsg, [])
  | remaining + 1, sendMsg =>
      match c.readyMsgs.elems[remaining]? with
      | none => (.drained, sendMsg, [])
      | some source =>
          let packed := packTopicToTcpMsg sendMsg (s.deref kernel source)
          if packed.1 ≠ .ok then (.packFailed packed.1 (remaining + 1), packed.2, [])
          else if kernel.sendTcpMsg remaining clientFd packed.2 ≠ .ok then
            (.sendFailed (remaining + 1), packed.2, [])
          else
            let rest := retransmitLoop kernel s c clientFd remaining packed.2
            (rest.1, rest.2.1,
              .sent c.id clientFd source (s.stored? source).isSome packed.2 :: rest.2.2)

def retransmitTopicsToClient (kernel : Kernel) (clientFd : Int) (s : Server) : Outcome :=
  match locate (fun c => c.fd == clientFd) s.clients.elems with
  | none => ⟨.clientsVecClientNotFound, s, []⟩
  | some (iter, c) =>
      let done := retransmitLoop kernel s c clientFd c.readyMsgs.elems.length s.sendMsg
      let s := { s with sendMsg := done.2.1 }
      match done.1 with
      | .packFailed err remaining =>
          ⟨err, { s with clients := s.clients.set iter (c.truncate remaining) }, done.2.2⟩
      | .sendFailed remaining =>
          -- the break leads to the assignment of zero behind the loop
          let broken := c.truncate remaining
          ⟨.ok, { s with clients := s.clients.set iter (broken.truncate 0) }, done.2.2⟩
      | .drained => ⟨.ok, { s with clients := s.clients.set iter (c.truncate 0) }, done.2.2⟩

/-! ## One round -/

/-- The outcome of a round; `removed` when the round executed `iter--`. -/
structure Served extends Outcome where
  removed : Bool

/-- The datagram in `buf` is stored and published. -/
def publish (kernel : Kernel) (s : Server) : Outcome :=
  let added := addServerUdpMsg kernel s
  if added.1 ≠ .ok then ⟨added.1, added.2, []⟩
  else transmitTopicToClients kernel added.2

/-- `recvfrom` filled the front of `buf` and the address of the sender. -/
def Server.receive (s : Server) (addr : Buffer sizeofSockaddrIn) (payload : Bytes) : Server :=
  { s with udpAddrClient := addr, buf := s.buf.splice 0 (payload.take maxServerBuflen) }

/-- The branch for the UDP socket. An error of `recvfrom` is not told from a datagram. -/
def serveUdp (kernel : Kernel) (iter : Nat) (s : Server) : Served :=
  match kernel.recvfrom with
  | none => ⟨(publish kernel s).after [.received none], false⟩
  | some (addr, payload) =>
      let received := s.receive addr payload
      if payload.take maxServerBuflen = [] then
        let removed := pollVecRemoveFd received.pollVec iter
        ⟨⟨removed.1, { received with pollVec := removed.2 }, [.received (some [])]⟩, true⟩
      else
        ⟨(publish kernel received).after [.received (some (payload.take maxServerBuflen))], false⟩

/-- The id that a new connection brings in its first frame. -/
def Kernel.newcomer (kernel : Kernel) (s : Server) : Bytes :=
  cstr ((kernel.recvTcpMsg (kernel.accept s.pollVec.fds) s.recvMsg).2.data.bytes ++ kernel.past)

/-- The branch for the listener. -/
def serveListener (kernel : Kernel) (s : Server) : Outcome :=
  let newClientFd := kernel.accept s.pollVec.fds
  if newClientFd ≤ 0 then ⟨.serverFailedAcceptTcp, s, []⟩
  else
    let added := pollVecAddFd s.pollVec newClientFd (pollin ||| pollout) kernel.pfds
    if added.1 ≠ .ok then ⟨added.1, { s with pollVec := added.2 }, []⟩
    else
      let received := kernel.recvTcpMsg newClientFd s.recvMsg
      let s := { s with pollVec := added.2, recvMsg := received.2 }
      if received.1 ≠ .ok then ⟨.serverCouldNotConnectNewClient, s, []⟩
      else
        let clientId := cstr (s.recvMsg.data.bytes ++ kernel.past)
        let registered := registerNewClient s.clients clientId newClientFd kernel.register
        let s := { s with clients := registered.2 }
        if registered.1 ≠ .ok then
          ⟨.ok, { s with pollVec := (pollVecRemoveFd s.pollVec (s.pollVec.nfds - 1)).2 }, []⟩
        else
          -- an error of the retransmission is only reported
          { retransmitTopicsToClient kernel newClientFd s with err := .ok }

/-- The branch for a connection. -/
def serveClient (kernel : Kernel) (iter : Nat) (fd : Int) (s : Server) : Served :=
  let received := kernel.recvTcpMsg fd s.recvMsg
  let s := { s with recvMsg := received.2 }
  if received.1 ≠ .ok then
    let closed := closeActiveClient s.clients fd
    if closed.1 ≠ .ok then ⟨⟨.ok, s, []⟩, false⟩
    else
      ⟨⟨.ok, { s with clients := closed.2.1, pollVec := (pollVecRemoveFd s.pollVec iter).2 }, []⟩,
        true⟩
  else ⟨⟨.ok, (processServerTcpMsg kernel fd s).2, []⟩, false⟩

/-- The body of the loop for a ready entry. -/
def serve (kernel : Kernel) (iter : Nat) (s : Server) : Served :=
  match s.pollVec.elems[iter]? with
  | none => ⟨⟨.ok, s, []⟩, false⟩
  | some entry =>
      if entry.fd = s.udpSocket then serveUdp kernel iter s
      else if entry.fd = s.tcpSocket then ⟨serveListener kernel s, false⟩
      else serveClient kernel iter entry.fd s

/-! ## A pass -/

/-- The loop over the poll vector from index `iter` on. -/
def processLoop (kernels : Nat → Kernel) : Nat → Nat → Nat → Server → Outcome
  | 0, _, _, s => ⟨.ok, s, []⟩
  | rounds + 1, round, iter, s =>
      match s.pollVec.elems[iter]? with
      | none => ⟨.ok, s, []⟩
      | some entry =>
          if entry.ready then
            let served := serve (kernels round) iter s
            if served.err ≠ .ok then served.toOutcome
            else
              (processLoop kernels rounds (round + 1) (if served.removed then iter else iter + 1)
                served.server).after served.log
          else processLoop kernels rounds (round + 1) (iter + 1) s

/-- Rounds enough for a pass: a ready entry is served once and may append one
entry, which is not ready. -/
def passRounds (vec : PollVec) : Nat := 2 * vec.elems.countP PollFd.ready + vec.nfds

def processReadyFds (kernels : Nat → Kernel) (s : Server) : Outcome :=
  processLoop kernels (passRounds s.pollVec) 0 1 s

/-! ## The loop of a pass -/

/-- The call by which a round serves an entry, and the descriptor it is made on. -/
inductive Dispatch where
  | recvfrom (fd : Int)
  | accept (fd : Int)
  | recv (fd : Int)
  deriving DecidableEq

def Dispatch.fd : Dispatch → Int
  | .recvfrom fd => fd
  | .accept fd => fd
  | .recv fd => fd

/-- The branch of the loop body that an entry is given to. -/
def Server.dispatch (s : Server) (entry : PollFd) : Dispatch :=
  if entry.fd = s.udpSocket then .recvfrom s.udpSocket
  else if entry.fd = s.tcpSocket then .accept s.tcpSocket
  else .recv entry.fd

/-- What is dispatched when the condition in front of the loop body has been tested. -/
def Server.serves (s : Server) (entry : PollFd) : Option Dispatch :=
  if entry.ready then some (s.dispatch entry) else none

/-- Where a pass stands: the entries examined so far, the index, and the outcome
of the rounds so far. -/
structure Pass where
  round : Nat
  iter : Nat
  done : Outcome

/-- The loop of `process_ready_fds` as it stands, which nothing cuts off. An
error returns from it. -/
def passWhile (kernels : Nat → Kernel) : Loop Pass where
  guard pass := pass.done.err = .ok ∧ pass.iter < pass.done.server.pollVec.nfds
  body pass :=
    match pass.done.server.pollVec.elems[pass.iter]? with
    | none => pass
    | some entry =>
        if entry.ready then
          let served := serve (kernels pass.round) pass.iter pass.done.server
          { round := pass.round + 1
            iter := if served.removed then pass.iter else pass.iter + 1
            done := served.toOutcome.after pass.done.log }
        else { pass with round := pass.round + 1, iter := pass.iter + 1 }

instance (kernels : Nat → Kernel) : DecidablePred (passWhile kernels).guard :=
  fun pass => inferInstanceAs
    (Decidable (pass.done.err = .ok ∧ pass.iter < pass.done.server.pollVec.nfds))

theorem passWhile_serve (kernels : Nat → Kernel) {pass : Pass} {entry : PollFd}
    (here : pass.done.server.pollVec.elems[pass.iter]? = some entry) (ready : entry.ready = true) :
    (passWhile kernels).body pass =
      let served := serve (kernels pass.round) pass.iter pass.done.server
      { round := pass.round + 1
        iter := if served.removed then pass.iter else pass.iter + 1
        done := served.toOutcome.after pass.done.log } := by
  simp only [passWhile, here, if_pos ready]

theorem passWhile_skip (kernels : Nat → Kernel) {pass : Pass} {entry : PollFd}
    (here : pass.done.server.pollVec.elems[pass.iter]? = some entry)
    (quiet : ¬ entry.ready = true) :
    (passWhile kernels).body pass =
      { pass with round := pass.round + 1, iter := pass.iter + 1 } := by
  simp only [passWhile, here, if_neg quiet]

/-- The pass before its first round. -/
def Pass.start (s : Server) : Pass := ⟨0, 1, ⟨.ok, s, []⟩⟩

/-- What is dispatched in the round that starts here. -/
def Pass.dispatched (pass : Pass) : Option Dispatch :=
  pass.done.server.pollVec.elems[pass.iter]?.bind pass.done.server.serves

/-! ## Commands -/

/-- The third component is what is left of the input. -/
def checkIfExit (s : Server) (stdin : Bytes) : Bool × Server × Bytes :=
  match s.pollVec.elems[0]? with
  | none => (false, s, stdin)
  | some entry =>
      if entry.fd = stdinFileno then
        if entry.ready then
          match fgets s.cmd stdin with
          | none => (false, s, stdin)
          | some (cmd, rest) =>
              (strncmpEq cmd.bytes exitCmd exitCmd.length, { s with cmd := cmd }, rest)
        else (false, s, stdin)
      else (false, s, stdin)

/-- A server with the rest of its input. -/
structure Console where
  server : Server
  stdin : Bytes

def Console.exits (console : Console) : Bool := (checkIfExit console.server console.stdin).1

/-- Successive calls of `check_if_exit`, until there is no input left. -/
def consoleWhile : Loop Console where
  guard console := console.stdin ≠ []
  body console :=
    let checked := checkIfExit console.server console.stdin
    ⟨checked.2.1, checked.2.2⟩

/-! ## Runs of the server -/

/-- `poll` returned and `stdin` may have been read. -/
def Server.awake (s : Server) (revents : Nat → BitVec 16) (cmd : Buffer maxCmdLen) : Server :=
  { s with pollVec := s.pollVec.polled revents, cmd := cmd }

/-- The main loop goes on: it wakes up, or a round serves an entry other than
`stdin` without an error. `allowed` restricts what the kernel answers. -/
inductive BrokerStep (allowed : Server → Nat → Kernel → Prop) :
    Server → List Event → Server → Prop where
  | awake (s : Server) (revents : Nat → BitVec 16) (cmd : Buffer maxCmdLen) :
      BrokerStep allowed s [] (s.awake revents cmd)
  | serve (s : Server) (iter : Nat) (kernel : Kernel) (first : 1 ≤ iter)
      (inside : iter < s.pollVec.nfds) (granted : allowed s iter kernel)
      (ran : (serve kernel iter s).err = .ok) :
      BrokerStep allowed s (serve kernel iter s).log (serve kernel iter s).server

def broker (allowed : Server → Nat → Kernel → Prop) : System Server Event where
  init s := ∃ kernel hport, initServer kernel hport = .ok s
  step := BrokerStep allowed

/-- The kernel answers what it likes. -/
def anyAnswer : Server → Nat → Kernel → Prop := fun _ _ _ => True

end TopicBroker
