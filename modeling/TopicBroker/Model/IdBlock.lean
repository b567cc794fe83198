import TopicBroker.Lib.Blocks
import TopicBroker.Model.Programs

/-!
# The block of an id

`register_new_client` copies the id of a new client, and `init_client` its own,
into a block of `MAX_ID_CLIENT_LEN` bytes, and neither looks at its length. The
functions on the way to them are given again as they run with that block: a byte
that is written outside of it leaves no result.
-/

namespace TopicBroker

namespace IdBlock

/-- The characters and the NUL behind them. -/
def strcpy (dest src : Bytes) : Option Bytes := Block.copy dest 0 (src ++ [0])

/-- A string that is shorter than the block is what the block holds afterwards. -/
theorem strcpy_fits {dest src : Bytes} (free : NulFree src) (fits : src.length < dest.length) :
    ∃ after, strcpy dest src = some after ∧ cstr after = src := by
  have inside : 0 + (src ++ [0]).length ≤ dest.length := by
    rw [List.length_append, List.length_singleton]
    omega
  refine ⟨_, Block.copy_inside inside, ?_⟩
  rw [List.take_zero, List.nil_append, List.append_assoc]
  exact cstr_append_nul free _

theorem strcpy_overflows {dest src : Bytes} (long : dest.length ≤ src.length) :
    strcpy dest src = none := by
  refine Block.copy_outside (Nat.zero_le _) ?_
  rw [List.length_append, List.length_singleton]
  omega

/-- A copy that stays inside the block leaves the string there. -/
theorem strcpy_holds {dest src after : Bytes} (free : NulFree src)
    (copied : strcpy dest src = some after) : cstr after = src := by
  by_cases fits : src.length < dest.length
  · obtain ⟨block, written, holds⟩ := strcpy_fits free fits
    rw [copied] at written
    rwa [Option.some.inj written]
  · rw [strcpy_overflows (Nat.le_of_not_lt fits)] at copied
    cases copied

/-! ## A round -/

def registerNewClient (clients : ClientVec) (clientId : Bytes) (clientFd : Int)
    (alloc : RegisterAlloc) : Option (Err × ClientVec) :=
  match locate (fun c => c.id == clientId) clients.elems with
  | some (iter, c) =>
      if c.status = .active then some (.clientVecClientAlreadyConnected, clients)
      else some (.ok, clients.set iter { c with fd := clientFd, status := .active })
  | none =>
      if clients.full && !alloc.entities then some (.clientsVecFailedRealloc, clients)
      else if !alloc.id then some (.clientsVecFailedRegisterAllocation, clients.reserve)
      else if !alloc.topics then some (.clientsVecFailedRegisterAllocation, clients.reserve)
      else if !alloc.options then some (.clientsVecFailedRegisterAllocation, clients.reserve)
      else if !alloc.readyMsgs then some (.clientsVecFailedRegisterAllocation, clients.reserve)
      else do
        let id ← strcpy (Block.malloc maxIdClientLen) clientId
        some (.ok, clients.push (.fresh (cstr id) clientFd))

def serveListener (kernel : Kernel) (s : Server) : Option Outcome :=
  let newClientFd := kernel.accept s.pollVec.fds
  if newClientFd ≤ 0 then some ⟨.serverFailedAcceptTcp, s, []⟩
  else
    let added := pollVecAddFd s.pollVec newClientFd (pollin ||| pollout) kernel.pfds
    if added.1 ≠ .ok then some ⟨added.1, { s with pollVec := added.2 }, []⟩
    else
      let received := kernel.recvTcpMsg newClientFd s.recvMsg
      let s := { s with pollVec := added.2, recvMsg := received.2 }
      if received.1 ≠ .ok then some ⟨.serverCouldNotConnectNewClient, s, []⟩
      else do
        let clientId := cstr (s.recvMsg.data.bytes ++ kernel.past)
        let registered ← registerNewClient s.clients clientId newClientFd kernel.register
        let s := { s with clients := registered.2 }
        if registered.1 ≠ .ok then
          some ⟨.ok, { s with pollVec := (pollVecRemoveFd s.pollVec (s.pollVec.nfds - 1)).2 }, []⟩
        else
          -- an error of the retransmission is only reported
          some { retransmitTopicsToClient kernel newClientFd s with err := .ok }

/-- The body of the loop for a ready entry. -/
def serve (kernel : Kernel) (iter : Nat) (s : Server) : Option Served :=
  match s.pollVec.elems[iter]? with
  | none => some ⟨⟨.ok, s, []⟩, false⟩
  | some entry =>
      if entry.fd = s.udpSocket then some (serveUdp kernel iter s)
      else if entry.fd = s.tcpSocket then do
        let outcome ← serveListener kernel s
        some ⟨outcome, false⟩
      else some (serveClient kernel iter entry.fd s)

/-! ## A pass -/

/-- The loop over the poll vector from index `iter` on. -/
def processLoop (kernels : Nat → Kernel) : Nat → Nat → Nat → Server → Option Outcome
  | 0, _, _, s => some ⟨.ok, s, []⟩
  | rounds + 1, round, iter, s =>
      match s.pollVec.elems[iter]? with
      | none => some ⟨.ok, s, []⟩
      | some entry =>
          if entry.ready then do
            let served ← serve (kernels round) iter s
            if served.err ≠ .ok then some served.toOutcome
            else do
              let rest ← processLoop kernels rounds (round + 1)
                (if served.removed then iter else iter + 1) served.server
              some (rest.after served.log)
          else processLoop kernels rounds (round + 1) (iter + 1) s

def processReadyFds (kernels : Nat → Kernel) (s : Server) : Option Outcome :=
  processLoop kernels (passRounds s.pollVec) 0 1 s

/-! ## The programs -/

section Subscriber

variable {σ τ : Type}

def initClient (send : SendCall σ) (kernel : InitClientKernel) (id : Bytes) (hport : UInt16)
    (out : σ) : Option (Except InitClientErr Subscriber × σ) :=
  if hport = 0 then some (.error .invalidPortNumber, out)
  else if !kernel.client then some (.error .clientFailedAllocation, out)
  else if !kernel.id then some (.error .clientFailedAllocation, out)
  else do
    let clientId ← strcpy (Block.malloc maxIdClientLen) id
    if !initClientBuffers kernel then some (.error .clientFailedAllocation, out)
    else
      let tcp := initClientTcpSocket send kernel (cstr clientId) out
      if !tcp.1 then some (.error .clientFailedTcp, tcp.2)
      else
        match initClientPollVec kernel with
        | none => some (.error .clientFailedPollVec, tcp.2)
        | some pollVec =>
            some (.ok
              { tcpSocket := kernel.tcpSocket
                cmd := Buffer.zero maxClientCmdLen
                sendMsg := idFrame (cstr clientId)
                pollVec := pollVec
                recvMsg := TcpMsg.zero }, tcp.2)

def subscriberMain (send : SendCall σ) (recv : RecvCall τ) (args : List Bytes)
    (kernel : InitClientKernel) (stdin : Bytes) (out : σ) (inn : τ)
    (calls : List (Bytes × PollCall)) : Option (Except Int (SubscriberMain σ τ)) :=
  match args with
  | [_, id, _, port] => do
      let started ← initClient send kernel id (atoi port).toInt16.toUInt16 out
      match started with
      | (.error _, _) => some (.error exitCodeRed)
      | (.ok this, out) =>
          some (.ok (SubscriberMain.rounds send recv calls (.start this stdin out inn)))
  | _ => some (.error exitCodeRed)

end Subscriber

/-! ## Runs of the server -/

/-- The main loop goes on as long as every write stays inside its block. -/
inductive BrokerStep (allowed : Server → Nat → Kernel → Prop) :
    Server → List Event → Server → Prop where
  | awake (s : Server) (revents : Nat → BitVec 16) (cmd : Buffer maxCmdLen) :
      BrokerStep allowed s [] (s.awake revents cmd)
  | serve (s : Server) (iter : Nat) (kernel : Kernel) (done : Served) (first : 1 ≤ iter)
      (inside : iter < s.pollVec.nfds) (granted : allowed s iter kernel)
      (ran : serve kernel iter s = some done) (ok : done.err = .ok) :
      BrokerStep allowed s done.log done.server

def broker (allowed : Server → Nat → Kernel → Prop) : System Server Event where
  init s := ∃ kernel hport, initServer kernel hport = .ok s
  step := BrokerStep allowed

end IdBlock

end TopicBroker
