import TopicBroker.Model.Resources
import TopicBroker.Proof.Passes

/-!
# What the server holds

The descriptors of the poll vector, the blocks of the table of clients and those
of the server itself are what it has taken and not given back, in every state
that a round leaves. Ending gives all of it back.
-/

namespace TopicBroker

/-! ## Holdings -/

def PollVec.holding (vec : PollVec) : Multiset Resource :=
  (vec.fds.map Resource.descriptor : List Resource) + {.pfds, .pollVec}

/-- The blocks of one client. -/
def ClientType.holding (c : ClientType) : Multiset Resource :=
  (c.table.topics.map (Resource.topic c.id) : List Resource) +
    {.topics c.id, .id c.id, .options c.id, .readyMsgs c.id}

def ClientVec.holding (clients : ClientVec) : Multiset Resource :=
  (clients.elems.map ClientType.holding).sum + {.entities, .clients}

def serverBuffers : Multiset Resource := {.buf, .cmd, .sendMsg, .recvMsg, .udpMsgs}

def Server.holding (s : Server) : Multiset Resource :=
  s.pollVec.holding + serverBuffers + ClientVec.holding s.clients + {.server}

theorem freePollVec_trades (vec : PollVec) : Trades (freePollVecDeals vec) vec.holding 0 := by
  have closed := Trades.gives (vec.fds.map Resource.descriptor)
  rw [List.map_map] at closed
  have freed := Trades.gives [Resource.pfds, .pollVec]
  exact closed.beside freed

theorem freeServerBuffers_trades : Trades freeServerBuffers serverBuffers 0 :=
  Trades.gives [Resource.buf, .cmd, .sendMsg, .recvMsg, .udpMsgs]

/-- The descriptors that are held and of which no copy is left. -/
def lost (dropped : List Int) : Multiset Resource :=
  (dropped.map Resource.descriptor : List Resource)

/-- With which error the last copy of a descriptor goes: the poll vector has no room for a
connection, or the connection has the descriptor 0. -/
inductive Drops : Err → List Int → Prop where
  | nothing {err : Err} (other : err ≠ .pollVecFailedRealloc) : Drops err []
  | crammed {fd : Int} (positive : 0 < fd) : Drops .pollVecFailedRealloc [fd]
  | standard : Drops .serverFailedAcceptTcp [0]

theorem Drops.of_ok {dropped : List Int} (drops : Drops .ok dropped) : dropped = [] := by
  cases drops
  rfl

namespace ServerMain

/-- The error with which the loop was left. -/
def err (main : ServerMain) : Err :=
  match main.left with
  | some (.failed err) => err
  | _ => .ok

def holding (main : ServerMain) : Multiset Resource := main.console.server.holding

end ServerMain

end TopicBroker
