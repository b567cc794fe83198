import TopicBroker.Lib.Stream
import TopicBroker.Proof.Commands
import TopicBroker.Proof.IdBlock
import TopicBroker.Proof.Resources

/-!
# The programs from their start to their end

What `init_server` and `init_client` hold when they return, with which error
whatsoever, and what is left of the programs when they have ended.
-/

namespace TopicBroker

/-! ## The start of the server -/

/-- What a call of `socket` leaves to be closed. -/
def opened (fd : Int) : Multiset Resource := if fd < 0 then 0 else {.descriptor fd}

theorem opened_trades (fd : Int) (p : Multiset Resource) :
    Trades (if fd < 0 then [] else [.take (.descriptor fd)]) p (p + opened fd) := by
  unfold opened
  split
  · exact (Trades.nil p).of_eq rfl (add_zero p).symm
  · exact Trades.takes [Resource.descriptor fd] p

theorem initServerBuffers_trades (kernel : InitKernel) (p : Multiset Resource) :
    Trades (initServerBuffersDeals kernel) p
      (if initServerBuffers kernel then p + serverBuffers else p) := by
  unfold initServerBuffersDeals initServerBuffers
  cases kernel.buf with
  | false => exact .nil p
  | true =>
      cases kernel.cmd with
      | false => exact Trades.returned [Resource.buf] p
      | true =>
          cases kernel.sendMsg with
          | false => exact Trades.returned [Resource.buf, .cmd] p
          | true =>
              cases kernel.recvMsg with
              | false => exact Trades.returned [Resource.buf, .cmd, .sendMsg] p
              | true =>
                  cases kernel.udpMsgs with
                  | false => exact Trades.returned [Resource.buf, .cmd, .sendMsg, .recvMsg] p
                  | true => exact Trades.takes [Resource.buf, .cmd, .sendMsg, .recvMsg, .udpMsgs] p

/-- There is room for the descriptors with which the vector starts. -/
theorem initServerPollVec_none_iff (kernel : InitKernel) :
    initServerPollVec kernel = none ↔ (kernel.pollVec && kernel.pfds) = false := by
  unfold initServerPollVec
  cases kernel.pollVec with
  | false => exact iff_of_true rfl rfl
  | true =>
      cases kernel.pfds with
      | false => exact iff_of_true rfl rfl
      | true => exact iff_of_false (Option.some_ne_none _) Bool.noConfusion

theorem initServerPollVecDeals_eq (kernel : InitKernel) :
    initServerPollVecDeals kernel = createPollVecDeals kernel.pollVec kernel.pfds := by
  unfold initServerPollVecDeals
  cases kernel.pollVec with
  | false => rfl
  | true =>
      cases kernel.pfds with
      | false => rfl
      | true => rfl

/-- The block that has been granted. -/
def granted (block : Resource) (answer : Bool) : Multiset Resource := if answer then {block} else 0

/-- The block of a vector stays when its cells get none. -/
theorem createVec_failed (vec cells : Resource) {first second : Bool}
    (failed : (first && second) = false) (p : Multiset Resource) :
    Trades (createVecDeals vec cells first second) p (p + granted vec first) := by
  cases first with
  | false => exact (Trades.nil p).of_eq rfl (add_zero p).symm
  | true =>
      cases second with
      | false => exact Trades.takes [vec] p
      | true => cases failed

/-- The way out of a start that fails: what has come besides the blocks stays. -/
theorem abandoned_trades (p q : Multiset Resource) :
    Trades (freeServerBuffers ++ [.give .server]) (p + {.server} + serverBuffers + q) (p + q) := by
  have freed := freeServerBuffers_trades.beside (Trades.give Resource.server)
  refine (freed.frame (p + q)).of_eq ?_ ?_
  · abel
  · abel

theorem opened_of_nonneg {fd : Int} (valid : 0 ≤ fd) : opened fd = {.descriptor fd} :=
  if_neg (Int.not_lt.mpr valid)

namespace InitKernel

variable {kernel : InitKernel}

theorem udp_opened (bound : initServerUdpSocket kernel = true) :
    opened kernel.udpSocket = {.descriptor kernel.udpSocket} := by
  unfold initServerUdpSocket at bound
  exact opened_of_nonneg (of_decide_eq_true (Bool.and_eq_true_iff.mp bound).1)

theorem tcp_opened (listens : initServerTcpSocket kernel = true) :
    opened kernel.tcpSocket = {.descriptor kernel.tcpSocket} := by
  unfold initServerTcpSocket at listens
  simp only [Bool.and_eq_true, decide_eq_true_eq] at listens
  exact opened_of_nonneg listens.1.1.1

theorem sockets_closed (bound : initServerUdpSocket kernel = true)
    (listens : initServerTcpSocket kernel = true) (p q : Multiset Resource) :
    Trades [.give (.descriptor kernel.udpSocket), .give (.descriptor kernel.tcpSocket)]
      (p + opened kernel.udpSocket + opened kernel.tcpSocket + q) (p + q) := by
  have both := (Trades.give (Resource.descriptor kernel.udpSocket)).beside
    (Trades.give (Resource.descriptor kernel.tcpSocket))
  rw [udp_opened bound, tcp_opened listens]
  refine (both.frame (p + q)).of_eq ?_ ?_
  · abel
  · abel

end InitKernel

/-- What nobody gives back when `init_server` fails: the socket that could not be set up, or
the first block of a vector whose second was refused. -/
def InitKernel.abandoned (kernel : InitKernel) : Err → Multiset Resource
  | .serverFailedUdp => opened kernel.udpSocket
  | .serverFailedTcp => opened kernel.tcpSocket
  | .serverFailedPollVec => granted .pollVec kernel.pollVec
  | .serverFailedClientsVec => granted .clients kernel.clients
  | _ => 0

/-- `init_server` has come as far as the table of clients. -/
structure Polled (kernel : InitKernel) (hport : UInt16) (vec : PollVec) : Prop where
  port : hport ≠ 0
  server : kernel.server = true
  buffers : initServerBuffers kernel = true
  udp : initServerUdpSocket kernel = true
  tcp : initServerTcpSocket kernel = true
  made : initServerPollVec kernel = some vec

/-- An earlier failure has everything else given back. -/
theorem initServer_polled_or (kernel : InitKernel) (hport : UInt16) (p : Multiset Resource) :
    (∃ vec, Polled kernel hport vec) ∨
      ∃ err, initServer kernel hport = .error err ∧ err ≠ .serverFailedClientsVec ∧
        Trades (initServerDeals kernel hport) p (p + kernel.abandoned err) := by
  have nothing := (Trades.nil p).of_eq rfl (add_zero p).symm
  have begun := Trades.takes [Resource.server] p
  have buffers := initServerBuffers_trades kernel (p + {.server})
  have udp := opened_trades kernel.udpSocket (p + {.server} + serverBuffers)
  have tcp := opened_trades kernel.tcpSocket
    (p + {.server} + serverBuffers + opened kernel.udpSocket)
  unfold initServer initServerDeals
  by_cases port : hport = 0
  · rw [if_pos port, if_pos port]
    exact .inr ⟨_, rfl, Err.noConfusion, nothing⟩
  rw [if_neg port, if_neg port]
  cases server : kernel.server with
  | false => exact .inr ⟨_, rfl, Err.noConfusion, nothing⟩
  | true =>
  cases blocks : initServerBuffers kernel with
  | false =>
      rw [blocks] at buffers
      exact .inr ⟨_, rfl, Err.noConfusion,
        (begun.append (buffers.append (Trades.back Resource.server p))).of_eq rfl (add_zero p).symm⟩
  | true =>
  rw [blocks] at buffers
  cases bound : initServerUdpSocket kernel with
  | false =>
      exact .inr ⟨_, rfl, Err.noConfusion,
        begun.append (buffers.append (udp.append (abandoned_trades p _)))⟩
  | true =>
  have udpClosed := Trades.back (.descriptor kernel.udpSocket)
    (p + {.server} + serverBuffers + opened kernel.tcpSocket)
  rw [add_right_comm, ← InitKernel.udp_opened bound] at udpClosed
  cases listens : initServerTcpSocket kernel with
  | false =>
      exact .inr ⟨_, rfl, Err.noConfusion, begun.append (buffers.append (udp.append (tcp.append
        (udpClosed.append (abandoned_trades p _)))))⟩
  | true =>
  cases made : initServerPollVec kernel with
  | some vec => exact .inl ⟨vec, port, server, blocks, bound, listens, made⟩
  | none =>
      have failed := (initServerPollVec_none_iff kernel).mp made
      have polled := createVec_failed .pollVec .pfds failed
        (p + {.server} + serverBuffers + opened kernel.udpSocket + opened kernel.tcpSocket)
      have closed := InitKernel.sockets_closed bound listens (p + {.server} + serverBuffers)
        (kernel.abandoned .serverFailedPollVec)
      refine .inr ⟨_, rfl, Err.noConfusion, ?_⟩
      rw [initServerPollVecDeals_eq]
      exact begun.append (buffers.append (udp.append (tcp.append (polled.append
        (closed.append (abandoned_trades p _))))))

namespace Polled

variable {kernel : InitKernel} {hport : UInt16} {vec : PollVec}

/-- What is held when the poll vector is there, besides what was held before. -/
def held (kernel : InitKernel) (p : Multiset Resource) : Multiset Resource :=
  p + {.server} + serverBuffers + opened kernel.udpSocket + opened kernel.tcpSocket

theorem deals (polled : Polled kernel hport vec) (p : Multiset Resource) :
    ∃ front, Trades front p (held kernel p + ({.pollVec, .pfds} : Multiset Resource)) ∧
      initServerDeals kernel hport =
        front ++ (createClientsVecDeals kernel.clients kernel.entities ++
          if !(kernel.clients && kernel.entities) then
            [.give (.descriptor kernel.udpSocket), .give (.descriptor kernel.tcpSocket)] ++
              freeServerBuffers ++ freePollVecDeals vec ++ [.give .server]
          else []) := by
  have begun := Trades.takes [Resource.server] p
  have buffers := initServerBuffers_trades kernel (p + {.server})
  rw [polled.buffers] at buffers
  have udp := opened_trades kernel.udpSocket (p + {.server} + serverBuffers)
  have tcp := opened_trades kernel.tcpSocket
    (p + {.server} + serverBuffers + opened kernel.udpSocket)
  have both : (kernel.pollVec && kernel.pfds) = true := by
    by_contra refused
    have none := (initServerPollVec_none_iff kernel).mpr (Bool.eq_false_iff.mpr refused)
    rw [polled.made] at none
    cases none
  obtain ⟨vecGranted, pfdsGranted⟩ := Bool.and_eq_true_iff.mp both
  have created := Trades.takes [Resource.pollVec, .pfds] (held kernel p)
  refine ⟨_, begun.append (buffers.append (udp.append (tcp.append created))), ?_⟩
  unfold initServerDeals
  rw [if_neg polled.port, polled.server, polled.buffers, polled.udp, polled.tcp, polled.made,
    initServerPollVecDeals_eq, vecGranted, pfdsGranted]
  simp only [Bool.not_true, Bool.false_eq_true, if_false, List.append_assoc]
  rfl

theorem refused (polled : Polled kernel hport vec)
    (failed : (kernel.clients && kernel.entities) = false) :
    initServer kernel hport = .error .serverFailedClientsVec := by
  unfold initServer
  rw [if_neg polled.port, polled.server, polled.buffers, polled.udp, polled.tcp, polled.made,
    failed]
  rfl

theorem accepted (polled : Polled kernel hport vec)
    (granted : (kernel.clients && kernel.entities) = true) :
    ∃ s, initServer kernel hport = .ok s ∧ s.pollVec = vec ∧ s.clients.elems = [] := by
  unfold initServer
  rw [if_neg polled.port, polled.server, polled.buffers, polled.udp, polled.tcp, polled.made,
    granted]
  exact ⟨_, rfl, rfl, rfl⟩

theorem holding (polled : Polled kernel hport vec) :
    vec.holding = {.descriptor stdinFileno} + opened kernel.udpSocket + opened kernel.tcpSocket +
      ({.pollVec, .pfds} : Multiset Resource) := by
  rw [InitKernel.udp_opened polled.udp, InitKernel.tcp_opened polled.tcp]
  unfold PollVec.holding
  rw [initServerPollVec_fds polled.made]
  exact congrArg _ (Multiset.cons_swap _ _ _)

/-- Everything is there. -/
theorem starts (polled : Polled kernel hport vec)
    (granted : (kernel.clients && kernel.entities) = true) {s : Server}
    (started : initServer kernel hport = .ok s) :
    Trades (initServerDeals kernel hport) {.descriptor stdinFileno} s.holding := by
  obtain ⟨front, trades, deals⟩ := polled.deals {.descriptor stdinFileno}
  obtain ⟨t, result, polls, empty⟩ := polled.accepted granted
  obtain rfl : t = s := by
    rw [started] at result
    exact (Except.ok.inj result).symm
  obtain ⟨clientsGranted, entitiesGranted⟩ := Bool.and_eq_true_iff.mp granted
  rw [deals, clientsGranted, entitiesGranted]
  refine (trades.append (Trades.takes [Resource.clients, .entities] _)).of_eq rfl ?_
  have table : ClientVec.holding t.clients = ([.clients, .entities] : List Resource) := by
    unfold ClientVec.holding
    rw [empty]
    exact (zero_add _).trans (Multiset.cons_swap _ _ _)
  unfold Server.holding
  rw [polls, polled.holding, table]
  unfold held
  abel

/-- The way out up to the poll vector, which then holds both sockets for a second time. -/
theorem closes (polled : Polled kernel hport vec) (kept : Multiset Resource) :
    Trades
      (([.give (.descriptor kernel.udpSocket), .give (.descriptor kernel.tcpSocket)] : Deals) ++
        (freeServerBuffers ++ [.give (.descriptor stdinFileno)]))
      (held kernel {.descriptor stdinFileno} + ({.pollVec, .pfds} : Multiset Resource) + kept)
      (({.pfds, .pollVec, .server} : Multiset Resource) + kept) := by
  have sockets := InitKernel.sockets_closed polled.udp polled.tcp
    ({.descriptor stdinFileno} + {.server} + serverBuffers)
    (({.pollVec, .pfds} : Multiset Resource) + kept)
  have blocks := (freeServerBuffers_trades.beside (Trades.give (.descriptor stdinFileno))).frame
    (({.pfds, .pollVec, .server} : Multiset Resource) + kept)
  have three : ({.pfds, .pollVec, .server} : Multiset Resource) =
      {.pfds} + {.pollVec} + {.server} := rfl
  have two : ({.pollVec, .pfds} : Multiset Resource) =
      {.pollVec} + {.pfds} := rfl
  have middle : serverBuffers + {.descriptor stdinFileno} +
      (({.pfds, .pollVec, .server} : Multiset Resource) + kept) =
        {.descriptor stdinFileno} + {.server} + serverBuffers +
          (({.pollVec, .pfds} : Multiset Resource) + kept) := by
    rw [three, two]
    abel
  rw [middle, zero_add, zero_add] at blocks
  exact (sockets.append blocks).of_eq (add_assoc _ _ _).symm rfl

/-- Both sockets are closed twice. -/
theorem fails (polled : Polled kernel hport vec)
    (failed : (kernel.clients && kernel.entities) = false) :
    Leads (initServerDeals kernel hport) {.descriptor stdinFileno}
      [.descriptor kernel.udpSocket, .descriptor kernel.tcpSocket]
      (granted .clients kernel.clients) := by
  obtain ⟨front, trades, deals⟩ := polled.deals {.descriptor stdinFileno}
  have table := createVec_failed .clients .entities failed
    (held kernel {.descriptor stdinFileno} + {.pollVec, .pfds})
  have closes := polled.closes (granted .clients kernel.clients)
  have absent (fd : Int) : Resource.descriptor fd ∉
      ({.pfds, .pollVec, .server} : Multiset Resource) + granted .clients kernel.clients := by
    unfold granted
    cases kernel.clients <;> simp
  have again :
      Leads ([Resource.descriptor kernel.udpSocket, .descriptor kernel.tcpSocket].map .give)
      (({.pfds, .pollVec, .server} : Multiset Resource) + granted .clients kernel.clients)
      [.descriptor kernel.udpSocket, .descriptor kernel.tcpSocket]
      (({.pfds, .pollVec, .server} : Multiset Resource) + granted .clients kernel.clients) := by
    apply Leads.again
    intro r member
    rcases List.mem_pair.mp member with rfl | rfl
    · exact absent _
    · exact absent _
  have last := (Trades.gives [Resource.pfds, .pollVec, .server]).frame
    (granted .clients kernel.clients)
  rw [zero_add] at last
  rw [deals, failed]
  unfold freePollVecDeals
  rw [initServerPollVec_fds polled.made]
  exact trades.leads.append (table.leads.append (closes.leads.append (again.append last.leads)))

end Polled

theorem Polled.err {kernel : InitKernel} {hport : UInt16} {vec : PollVec}
    (polled : Polled kernel hport vec) {err : Err}
    (failed : initServer kernel hport = .error err) :
    err = .serverFailedClientsVec ∧ (kernel.clients && kernel.entities) = false := by
  cases both : kernel.clients && kernel.entities with
  | false =>
      have refused := polled.refused both
      rw [failed] at refused
      exact ⟨Except.error.inj refused, rfl⟩
  | true =>
      obtain ⟨s, started, _⟩ := polled.accepted both
      rw [failed] at started
      cases started

theorem initServer_leads (kernel : InitKernel) (hport : UInt16) {s : Server}
    (started : initServer kernel hport = .ok s) :
    Trades (initServerDeals kernel hport) {.descriptor stdinFileno} s.holding := by
  rcases initServer_polled_or kernel hport {.descriptor stdinFileno} with
    ⟨vec, polled⟩ | ⟨err, failed, _⟩
  · cases both : kernel.clients && kernel.entities with
    | false =>
        rw [polled.refused both] at started
        cases started
    | true => exact polled.starts both started
  · rw [failed] at started
    cases started

/-- What `init_server` has taken and not given back when it returns, and what it has given
back twice: without an error all of it is the server's; with one everything goes but what is
abandoned, and the sockets are closed a second time when the table of clients fails. -/
theorem init_server_custody (kernel : InitKernel) (hport : UInt16) :
    match initServer kernel hport with
    | .ok s => Leads (initServerDeals kernel hport) {.descriptor stdinFileno} [] s.holding
    | .error err =>
        if err = .serverFailedClientsVec then
          Leads (initServerDeals kernel hport) {.descriptor stdinFileno}
            [.descriptor kernel.udpSocket, .descriptor kernel.tcpSocket] (kernel.abandoned err)
        else
          Leads (initServerDeals kernel hport) {.descriptor stdinFileno} []
            ({.descriptor stdinFileno} + kernel.abandoned err) := by
  rcases initServer_polled_or kernel hport {.descriptor stdinFileno} with
    ⟨vec, polled⟩ | ⟨err, failed, early, trades⟩
  · cases result : initServer kernel hport with
    | ok s => exact (initServer_leads kernel hport result).leads
    | error err =>
        obtain ⟨rfl, refused⟩ := polled.err result
        exact polled.fails refused
  · rw [failed]
    dsimp only
    rw [if_neg early]
    exact trades.leads

/-! ## The life of the server -/

/-- The loop of a program that has a result and got there. -/
theorem ended_of_any {ε α : Type} {result : Option (Except ε α)} {test : α → Bool}
    (passes : result.any (fun ended => ended.toOption.any test) = true) :
    ∃ main, result = some (.ok main) ∧ test main = true := by
  obtain ⟨ended, some, any⟩ := (Option.any_eq_true _ _).mp passes
  cases ended with
  | error err => cases any
  | ok main => exact ⟨main, some, any⟩

def clientBuffers : Multiset Resource := {.clientId, .cmd, .sendMsg, .recvMsg, .client}

def Subscriber.holding (this : Subscriber) : Multiset Resource :=
  this.pollVec.holding + clientBuffers

theorem freeClient_trades (this : Subscriber) : Trades (freeClientDeals this) this.holding 0 :=
  (freePollVec_trades this.pollVec).beside
    (Trades.gives [Resource.clientId, .cmd, .sendMsg, .recvMsg, .client])

/-- What nobody gives back when `init_client` fails: the block of the id, the socket, or the
first block of the poll vector. -/
def InitClientKernel.abandoned (kernel : InitClientKernel) : InitClientErr → Multiset Resource
  | .invalidPortNumber => 0
  | .clientFailedAllocation => granted .clientId (kernel.client && kernel.id)
  | .clientFailedTcp => opened kernel.tcpSocket
  | .clientFailedPollVec => granted .pollVec kernel.pollVec

theorem initClientBuffers_trades (kernel : InitClientKernel) (p : Multiset Resource) :
    Trades (initClientBuffersDeals kernel) p
      (if initClientBuffers kernel then p + {.cmd, .sendMsg, .recvMsg} else p) := by
  unfold initClientBuffersDeals initClientBuffers
  cases kernel.cmd with
  | false => exact .nil p
  | true =>
      cases kernel.sendMsg with
      | false => exact Trades.returned [Resource.cmd] p
      | true =>
          cases kernel.recvMsg with
          | false => exact Trades.returned [Resource.cmd, .sendMsg] p
          | true => exact Trades.takes [Resource.cmd, .sendMsg, .recvMsg] p

/-- There is room for both descriptors. -/
theorem initClientPollVec_cases (kernel : InitClientKernel) :
    initClientPollVecDeals kernel = createPollVecDeals kernel.pollVec kernel.pfds ∧
      (initClientPollVec kernel = none ∧ (kernel.pollVec && kernel.pfds) = false ∨
        ∃ vec, initClientPollVec kernel = some vec ∧ (kernel.pollVec && kernel.pfds) = true ∧
          vec.fds = [stdinFileno, kernel.tcpSocket]) := by
  unfold initClientPollVecDeals initClientPollVec
  cases kernel.pollVec with
  | false => exact ⟨rfl, .inl ⟨rfl, rfl⟩⟩
  | true =>
      cases kernel.pfds with
      | false => exact ⟨rfl, .inl ⟨rfl, rfl⟩⟩
      | true => exact ⟨rfl, .inr ⟨_, rfl, rfl, rfl⟩⟩

/-- The way out of a start that fails: what has come besides the blocks stays. -/
theorem abandonedClient_trades (p q : Multiset Resource) :
    Trades freeClientBuffers (p + {.client} + {.clientId} + {.cmd, .sendMsg, .recvMsg} + q)
      (p + q) := by
  have freed := (Trades.gives [Resource.clientId, .cmd, .sendMsg, .recvMsg, .client]).frame (p + q)
  have five : (([.clientId, .cmd, .sendMsg, .recvMsg, .client] : List Resource) :
      Multiset Resource) = {.clientId} + {.cmd} + {.sendMsg} + {.recvMsg} + {.client} := rfl
  have three : ({.cmd, .sendMsg, .recvMsg} : Multiset Resource) =
      {.cmd} + {.sendMsg} + {.recvMsg} := rfl
  rw [five] at freed
  refine freed.of_eq ?_ (zero_add _)
  rw [three]
  abel

/-- What a subscriber starts with. -/
theorem Subscriber.holding_eq {this : Subscriber} {fd : Int} (valid : 0 ≤ fd)
    (fds : this.pollVec.fds = [stdinFileno, fd]) :
    this.holding = {.descriptor stdinFileno} + {.client} + {.clientId} +
      {.cmd, .sendMsg, .recvMsg} + opened fd + {.pollVec, .pfds} := by
  have two : ([stdinFileno, fd].map Resource.descriptor : Multiset Resource) =
      {.descriptor stdinFileno} + {.descriptor fd} := rfl
  have blocks : clientBuffers = {.clientId} + {.cmd, .sendMsg, .recvMsg} + {.client} := rfl
  have vec : ({.pollVec, .pfds} : Multiset Resource) = {.pfds, .pollVec} := Multiset.cons_swap _ _ _
  unfold Subscriber.holding PollVec.holding
  rw [fds, two, blocks, vec, opened_of_nonneg valid]
  abel

section InitClient

variable {σ : Type} (send : SendCall σ) (kernel : InitClientKernel) (id : Bytes) (hport : UInt16)
  (out : σ)

theorem initClient_trades :
    match (initClient send kernel id hport out).1 with
    | .ok this =>
        Trades (initClientDeals send kernel id hport out) {.descriptor stdinFileno} this.holding
    | .error err =>
        Trades (initClientDeals send kernel id hport out) {.descriptor stdinFileno}
          ({.descriptor stdinFileno} + kernel.abandoned err) := by
  have nothing : Trades [] {.descriptor stdinFileno}
      ({.descriptor stdinFileno} + (0 : Multiset Resource)) :=
    (Trades.nil _).of_eq rfl (add_zero _).symm
  unfold initClient initClientDeals
  by_cases port : hport = 0
  · rw [if_pos port, if_pos port]
    exact nothing
  rw [if_neg port, if_neg port]
  have begun := Trades.takes [Resource.client] {.descriptor stdinFileno}
  have named := Trades.takes [Resource.clientId] ({.descriptor stdinFileno} + {.client})
  have buffers := initClientBuffers_trades kernel
    ({.descriptor stdinFileno} + {.client} + {.clientId})
  have tcp := opened_trades kernel.tcpSocket
    ({.descriptor stdinFileno} + {.client} + {.clientId} + {.cmd, .sendMsg, .recvMsg})
  have freed := abandonedClient_trades {.descriptor stdinFileno}
  cases client : kernel.client with
  | false =>
      change Trades [] _ (_ + granted .clientId (kernel.client && kernel.id))
      rw [client]
      exact nothing
  | true =>
  cases idGranted : kernel.id with
  | false =>
      change Trades _ _ (_ + granted .clientId (kernel.client && kernel.id))
      rw [client, idGranted]
      exact (begun.append (Trades.back Resource.client _)).of_eq rfl (add_zero _).symm
  | true =>
  cases blocks : initClientBuffers kernel with
  | false =>
      change Trades _ _ (_ + granted .clientId (kernel.client && kernel.id))
      rw [client, idGranted]
      rw [blocks] at buffers
      have freedClient := Trades.back Resource.client
        ({.descriptor stdinFileno} + granted .clientId true)
      rw [add_right_comm] at freedClient
      exact begun.append (named.append (buffers.append freedClient))
  | true =>
  rw [blocks] at buffers
  simp only [Bool.not_true, Bool.false_eq_true, if_false]
  cases sent : (initClientTcpSocket send kernel id out).1 with
  | false => exact begun.append (named.append (buffers.append (tcp.append (freed _))))
  | true =>
  have valid : ¬ kernel.tcpSocket < 0 := by
    intro negative
    unfold initClientTcpSocket at sent
    rw [if_pos negative] at sent
    cases sent
  simp only [Bool.not_true, Bool.false_eq_true, if_false]
  obtain ⟨deals, ⟨refused, failed⟩ | ⟨vec, made, both, fds⟩⟩ := initClientPollVec_cases kernel
  · have polled := createVec_failed .pollVec .pfds failed
      ({.descriptor stdinFileno} + {.client} + {.clientId} + {.cmd, .sendMsg, .recvMsg} +
        opened kernel.tcpSocket)
    have closed := Trades.back (Resource.descriptor kernel.tcpSocket)
      ({.descriptor stdinFileno} + {.client} + {.clientId} + {.cmd, .sendMsg, .recvMsg} +
        granted .pollVec kernel.pollVec)
    rw [add_right_comm, ← opened_of_nonneg (Int.not_lt.mp valid)] at closed
    rw [deals, refused]
    exact begun.append (named.append (buffers.append (tcp.append (polled.append
      (closed.append (freed _))))))
  · obtain ⟨vecGranted, pfdsGranted⟩ := Bool.and_eq_true_iff.mp both
    have created := Trades.takes [Resource.pollVec, .pfds]
      ({.descriptor stdinFileno} + {.client} + {.clientId} + {.cmd, .sendMsg, .recvMsg} +
        opened kernel.tcpSocket)
    rw [deals, made, vecGranted, pfdsGranted]
    exact (begun.append (named.append (buffers.append (tcp.append created)))).of_eq rfl
      (Subscriber.holding_eq (Int.not_lt.mp valid) fds).symm

/-- What `init_client` has taken and not given back when it returns, for an id that fits its
block. Nothing is given back twice. -/
theorem init_client_custody {done : Except InitClientErr Subscriber × σ} (free : NulFree id)
    (ran : IdBlock.initClient send kernel id hport out = some done) :
    match done.1 with
    | .ok this =>
        Trades (initClientDeals send kernel id hport out) {.descriptor stdinFileno} this.holding
    | .error err =>
        Trades (initClientDeals send kernel id hport out) {.descriptor stdinFileno}
          ({.descriptor stdinFileno} + kernel.abandoned err) := by
  rw [← IdBlock.initClient_some free ran]
  exact initClient_trades send kernel id hport out

end InitClient

/-- The answers with which a subscriber starts. -/
def InitClientKernel.willing : InitClientKernel where
  client := true
  id := true
  cmd := true
  sendMsg := true
  recvMsg := true
  tcpSocket := 3
  tcpNodelay := true
  connect := true
  pollVec := true
  pfds := true

/-- `C1` starts, and its first frame goes out 700 bytes at a time. -/
theorem init_client_custody_started :
    ∃ this out,
      IdBlock.initClient (Outlet.sliced fun _ => 699).put .willing (ascii "C1") 8080 (0, []) =
          some (.ok this, out) ∧
        Trades (initClientDeals (Outlet.sliced fun _ => 699).put .willing (ascii "C1") 8080
          (0, [])) {.descriptor stdinFileno} this.holding := by
  have fine : (IdBlock.initClient (Outlet.sliced fun _ => 699).put .willing (ascii "C1") 8080
      (0, [])).any (fun done => done.1.toOption.isSome) = true := by
    decide +kernel
  obtain ⟨⟨ended, out⟩, ran, isOk⟩ := (Option.any_eq_true _ _).mp fine
  cases ended with
  | error err => cases isOk
  | ok this =>
      exact ⟨this, out, ran, init_client_custody _ _ _ _ _ (by decide +kernel) ran⟩

/-! ## The life of a subscriber -/

section Life

variable {σ τ : Type} (send : SendCall σ) (recv : RecvCall τ)

theorem Subscriber.getCmdLine_pollVec (this : Subscriber) (stdin : Bytes) :
    (this.getCmdLine stdin).2.1.pollVec = this.pollVec := by
  unfold Subscriber.getCmdLine
  split
  · rfl
  · split
    · split
      · split
        · rfl
        · dsimp only
          split
          · rfl
          · split
            · rfl
            · split <;> rfl
      · rfl
    · rfl

theorem Subscriber.processReadyFds_pollVec (past : Bytes) (this : Subscriber) (inn : τ) :
    (this.processReadyFds recv past inn).2.1.pollVec = this.pollVec := by
  unfold Subscriber.processReadyFds
  split
  · rfl
  · split
    · dsimp only
      split
      · rfl
      · split <;> rfl
    · rfl

/-- Nothing is taken or given back in the loop, and the descriptors stay. -/
theorem SubscriberMain.round_holding (past : Bytes) (call : PollCall) (main : SubscriberMain σ τ) :
    (main.round send recv past call).this.holding = main.this.holding := by
  have fds : (main.round send recv past call).this.pollVec.fds = main.this.pollVec.fds := by
    unfold SubscriberMain.round waitForReadyFds
    dsimp only
    by_cases silent : call.returned ≤ 0
    · rw [if_pos silent]
      rfl
    · rw [if_neg silent]
      have polled := main.this.pollVec.fds_polled call.revents
      have got := Subscriber.getCmdLine_pollVec
        { main.this with pollVec := main.this.pollVec.polled call.revents } main.stdin
      dsimp only
      rw [if_neg (not_not.mpr rfl)]
      split
      · rw [got, polled]
      · rw [Subscriber.processReadyFds_pollVec, got, polled]
      · rw [Subscriber.obey_pollVec, got, polled]
  unfold Subscriber.holding PollVec.holding
  rw [fds]

theorem SubscriberMain.rounds_holding (calls : List (Bytes × PollCall))
    (main : SubscriberMain σ τ) :
    (rounds send recv calls main).this.holding = main.this.holding := by
  induction calls generalizing main with
  | nil => rfl
  | cons call calls ih =>
      rw [rounds]
      split
      · rfl
      · rw [ih, round_holding]

theorem subscriberMain_leads {args : List Bytes} {kernel : InitClientKernel} {stdin : Bytes}
    {out : σ} {inn : τ} {calls : List (Bytes × PollCall)} {main : SubscriberMain σ τ}
    (ran : subscriberMain send recv args kernel stdin out inn calls = .ok main) :
    Leads (subscriberMainDeals send recv args kernel stdin out inn calls)
      {.descriptor stdinFileno} [] (if main.left then 0 else main.this.holding) := by
  unfold subscriberMain at ran
  unfold subscriberMainDeals
  split at ran
  · rename_i name id address port
    have start := initClient_trades send kernel id (atoi port).toInt16.toUInt16 out
    cases result : initClient send kernel id (atoi port).toInt16.toUInt16 out with
    | mk ended after =>
        dsimp only at ran ⊢
        rw [result] at ran start ⊢
        cases ended with
        | error err => cases ran
        | ok this =>
            obtain rfl := Except.ok.inj ran
            have held := SubscriberMain.rounds_holding send recv calls (.start this stdin after inn)
            refine (start.append ?_).leads
            cases (SubscriberMain.rounds send recv calls (.start this stdin after inn)).left with
            | false => exact (Trades.nil _).of_eq rfl held.symm
            | true => exact (freeClient_trades _).of_eq held rfl
  · cases ran

/-- From its start to its end a subscriber gives nothing back twice, when its id fits its
block. While its main loop goes on everything it has taken is what `client_t` leads to, and when
it has ended everything has been given back. -/
theorem subscriber_custody {args : List Bytes} {kernel : InitClientKernel} {stdin : Bytes}
    {out : σ} {inn : τ} {calls : List (Bytes × PollCall)} {main : SubscriberMain σ τ}
    (free : ∀ arg ∈ args, NulFree arg)
    (ran : IdBlock.subscriberMain send recv args kernel stdin out inn calls = some (.ok main)) :
    Leads (subscriberMainDeals send recv args kernel stdin out inn calls)
      {.descriptor stdinFileno} [] (if main.left then 0 else main.this.holding) :=
  subscriberMain_leads send recv (IdBlock.subscriberMain_some free ran)

end Life

def stoppedArgs : List Bytes :=
  [ascii "subscriber", ascii "C1", ascii "127.0.0.1", ascii "8080"]

/-- A user who types `exit` at once. -/
def stopped : Option (Except Int (SubscriberMain (Nat × Bytes) (Nat × Bytes))) :=
  IdBlock.subscriberMain (Outlet.sliced fun _ => 699).put (Inlet.sliced fun _ => 899).get
    stoppedArgs .willing (ascii "exit\n") (0, []) (0, [])
    [([], ⟨1, fun index => if index = 0 then pollin else 0⟩)]

def stoppedDeals : Deals :=
  subscriberMainDeals (Outlet.sliced fun _ => 699).put (Inlet.sliced fun _ => 899).get
    stoppedArgs .willing (ascii "exit\n") (0, []) (0, [])
    [([], ⟨1, fun index => if index = 0 then pollin else 0⟩)]

theorem subscriber_custody_exit :
    ∃ main, stopped = some (.ok main) ∧ main.left = true ∧
      Leads stoppedDeals {.descriptor stdinFileno} []
        (if main.left then 0 else main.this.holding) := by
  have left : stopped.any (fun ended => ended.toOption.any fun main => main.left) = true := by
    decide +kernel
  have free : ∀ arg ∈ stoppedArgs, NulFree arg := by decide +kernel
  obtain ⟨main, ran, exited⟩ := ended_of_any left
  exact ⟨main, ran, exited, subscriber_custody _ _ free ran⟩

end TopicBroker
