import TopicBroker.Proof.Heap
import TopicBroker.Proof.Survival

/-!
# Calls that are refused

Any calls of the functions that change an array, one after the other, with any
answers of the allocator. No call touches a cell outside its block, and the
recorded capacities stay true. A refused call leaves every array with what it
said; but the stored datagrams may have moved away from the pointers that wait
for them.
-/

namespace TopicBroker

/-! ## Calls -/

/-- A call with the answers of the allocator to it. The bytes of an id are not
among the blocks here; `IdBlock` has those. -/
inductive Call where
  | pollVecAddFd (fd : Int) (fdEvents : BitVec 16) (grow : Bool)
  | pollVecRemoveFd (fdIdx : Nat)
  | registerNewClient (clientId : Bytes) (clientFd : Int) (alloc : RegisterAlloc)
  | closeActiveClient (clientFd : Int)
  | subscribeClientToTopic (clientFd : Int) (clientTopic : Bytes) (clientSf : ClientOption)
      (alloc : SubscribeAlloc)
  | unsubscribeClientFromTopic (clientFd : Int) (clientTopic : Bytes)
  /-- The message is `&udp_msgs[slot]`, in the array as it stands. -/
  | addTopicMsgForClient (slot : Nat) (clientIdx : Nat) (grow : Bool)
  | addServerUdpMsg (grow : Realloc) (udpAddrClient : Buffer sizeofSockaddrIn)
      (buf : Buffer maxServerBuflen)

namespace Heap
namespace Memory

def call (memory : Memory) : Call → Option (Err × Memory)
  | .pollVecAddFd fd fdEvents grow => do
      let done ← pollVecAddFd memory.pollVec fd fdEvents grow
      some (done.1, { memory with pollVec := done.2 })
  | .pollVecRemoveFd fdIdx => do
      let done ← pollVecRemoveFd memory.pollVec fdIdx
      some (done.1, { memory with pollVec := done.2 })
  | .registerNewClient clientId clientFd alloc => do
      let done ← registerNewClient memory.clients clientId clientFd alloc
      some (done.1, { memory with clients := done.2 })
  | .closeActiveClient clientFd => do
      let done ← closeActiveClient memory.clients clientFd
      some (done.1, { memory with clients := done.2.1 })
  | .subscribeClientToTopic clientFd clientTopic clientSf alloc => do
      let done ← subscribeClientToTopic memory.clients clientFd clientTopic clientSf alloc
      some (done.1, { memory with clients := done.2 })
  | .unsubscribeClientFromTopic clientFd clientTopic => do
      let done ← unsubscribeClientFromTopic memory.clients clientFd clientTopic
      some (done.1, { memory with clients := done.2 })
  | .addTopicMsgForClient slot clientIdx grow => do
      let done ← addTopicMsgForClient memory.clients ⟨memory.udpBlock, slot⟩ clientIdx grow
      some (done.1, { memory with clients := done.2 })
  | .addServerUdpMsg grow udpAddrClient buf => addServerUdpMsg grow udpAddrClient buf memory

/-- One call after the other. -/
def run : Memory → List Call → Option Memory
  | memory, [] => some memory
  | memory, next :: rest => do
      let done ← memory.call next
      done.2.run rest

end Memory
end Heap

/-- The same call on the arrays of a server. -/
def Server.call (s : Server) : Call → Err × Server
  | .pollVecAddFd fd fdEvents grow =>
      let done := pollVecAddFd s.pollVec fd fdEvents grow
      (done.1, { s with pollVec := done.2 })
  | .pollVecRemoveFd fdIdx =>
      let done := pollVecRemoveFd s.pollVec fdIdx
      (done.1, { s with pollVec := done.2 })
  | .registerNewClient clientId clientFd alloc =>
      let done := registerNewClient s.clients clientId clientFd alloc
      (done.1, { s with clients := done.2 })
  | .closeActiveClient clientFd =>
      let done := closeActiveClient s.clients clientFd
      (done.1, { s with clients := done.2.1 })
  | .subscribeClientToTopic clientFd clientTopic clientSf alloc =>
      let done := subscribeClientToTopic s.clients clientFd clientTopic clientSf alloc
      (done.1, { s with clients := done.2 })
  | .unsubscribeClientFromTopic clientFd clientTopic =>
      let done := unsubscribeClientFromTopic s.clients clientFd clientTopic
      (done.1, { s with clients := done.2 })
  | .addTopicMsgForClient slot clientIdx grow =>
      let done := addTopicMsgForClient s.clients ⟨s.udpBlock, slot⟩ clientIdx grow
      (done.1, { s with clients := done.2 })
  | .addServerUdpMsg grow udpAddrClient buf =>
      addServerUdpMsg { Kernel.willing with udpMsgs := grow }
        { s with udpAddrClient := udpAddrClient, buf := buf }

/-- What a function does to one array it does to the memory with this array. -/
theorem Mirrors.within {ε σ τ σ' τ' : Type} {belongs : σ → τ → Prop} {belongs' : σ' → τ' → Prop}
    {run : Option (ε × σ)} {done : ε × τ} {inject : σ → σ'} {embed : τ → τ'}
    (mirrors : Mirrors belongs run done)
    (placed : ∀ after model, belongs after model → belongs' (inject after) (embed model)) :
    Mirrors belongs' (run.bind fun ran => some (ran.1, inject ran.2)) (done.1, embed done.2) := by
  obtain ⟨after, ran, kept⟩ := mirrors
  rw [ran]
  exact .intro (placed _ _ kept)

theorem Server.call_mirrors {memory : Heap.Memory} {s : Server}
    (pictures : memory.Pictures s) (next : Call) :
    Mirrors Heap.Memory.Pictures (memory.call next) (s.call next) := by
  have polled (after : Heap.PollVec) (model : PollVec) (kept : Realizes Written after model) :
      Heap.Memory.Pictures { memory with pollVec := after } { s with pollVec := model } :=
    { pictures with pollVec := kept }
  have known (after : Heap.ClientVec) (model : ClientVec) (kept : Realizes Tells after model) :
      Heap.Memory.Pictures { memory with clients := after } { s with clients := model } :=
    { pictures with clients := kept }
  cases next with
  | pollVecAddFd fd fdEvents grow =>
      exact (pollVecAddFd_mirrors pictures.pollVec fd fdEvents grow).within polled
  | pollVecRemoveFd fdIdx => exact (pollVecRemoveFd_mirrors pictures.pollVec fdIdx).within polled
  | registerNewClient clientId clientFd alloc =>
      exact (registerNewClient_mirrors pictures.clients clientId clientFd alloc).within known
  | closeActiveClient clientFd =>
      exact (closeActiveClient_mirrors pictures.clients clientFd).within
        fun after model kept => known after.1 model.1 kept.1
  | subscribeClientToTopic clientFd clientTopic clientSf alloc =>
      exact (subscribeClientToTopic_mirrors pictures.clients clientFd clientTopic clientSf
        alloc).within known
  | unsubscribeClientFromTopic clientFd clientTopic =>
      exact (unsubscribeClientFromTopic_mirrors pictures.clients clientFd clientTopic).within known
  | addTopicMsgForClient slot clientIdx grow =>
      have stacked : Mirrors (Realizes Tells)
          (Heap.addTopicMsgForClient memory.clients ⟨memory.udpBlock, slot⟩ clientIdx grow)
          (addTopicMsgForClient s.clients ⟨s.udpBlock, slot⟩ clientIdx grow) := by
        rw [pictures.udpBlock]
        exact addTopicMsgForClient_mirrors pictures.clients _ clientIdx grow
      exact stacked.within known
  | addServerUdpMsg grow udpAddrClient buf =>
      exact addServerUdpMsg_mirrors
        (s := { s with udpAddrClient := udpAddrClient, buf := buf })
        ⟨pictures.pollVec, pictures.clients, pictures.udpMsgs, pictures.udpBlock⟩
        { Kernel.willing with udpMsgs := grow }

/-! ## What the arrays say -/

/-- What is said about a client, with its pending pointers seen through some view. -/
@[ext] structure ClientContents (γ : Type) where
  id : Option Bytes
  fd : Option Int
  status : Option ClientStatus
  topics : Option (List (Option Bytes))
  options : Option (List (Option ClientOption))
  pending : Option (List (Option γ))
  deriving DecidableEq

@[ext] structure Contents (γ : Type) where
  polled : List (Option PollFd)
  clients : List (ClientContents γ)
  stored : List (Option UdpType)
  deriving DecidableEq

def Heap.ClientType.contents {γ : Type} (entry : Heap.ClientType) (view : Ref → γ) :
    ClientContents γ where
  id := entry.id
  fd := entry.fd
  status := entry.status
  topics := entry.topicArray.map Growable.used
  options := entry.optionArray.map Growable.used
  pending := entry.readyArray.map fun readyMsgs => readyMsgs.used.map (Option.map view)

namespace Heap.Memory

def contents {γ : Type} (memory : Memory) (view : Ref → γ) : Contents γ where
  polled := memory.pollVec.used
  clients := memory.clients.used.map (·.contents view)
  stored := memory.udpMsgs.used

/-- The stored datagram a pointer goes to, when it goes to one. -/
def stored? (memory : Memory) (source : Ref) : Option UdpType :=
  if source.block = memory.udpBlock then memory.udpMsgs.used[source.slot]?.join else none

end Heap.Memory

/-- Some client waits for a stored datagram. -/
def Contents.Awaits (contents : Contents (Option UdpType)) : Prop :=
  ∃ c ∈ contents.clients, ∃ pending ∈ c.pending, ∃ msg ∈ pending, msg.join.isSome = true

instance (contents : Contents (Option UdpType)) : Decidable contents.Awaits :=
  inferInstanceAs (Decidable (∃ c ∈ contents.clients, _))

def ClientType.told {γ : Type} (c : ClientType) (view : Ref → γ) : ClientContents γ where
  id := some c.id
  fd := some c.fd
  status := some c.status
  topics := some (c.table.topics.map some)
  options := some (c.table.options.map some)
  pending := some (c.readyMsgs.elems.map fun source => some (view source))

def Server.told {γ : Type} (s : Server) (view : Ref → γ) : Contents γ where
  polled := s.pollVec.elems.map some
  clients := s.clients.elems.map (·.told view)
  stored := s.udpMsgs.elems.map some

/-- The written cells in use. -/
theorem Realizes.used_eq {α : Type} {array : Growable (Option α)} {vec : Vec α}
    (realizes : Realizes Written array vec) : array.used = vec.elems.map some := by
  have read : array.used.map id = vec.elems.map some :=
    realizes.map_used fun _ _ written => written
  rwa [List.map_id] at read

theorem Tells.contents {γ : Type} {entry : Heap.ClientType} {c : ClientType}
    (tells : Tells entry c) (view : Ref → γ) : entry.contents view = c.told view := by
  obtain ⟨named, chosen, stacked⟩ := tells
  unfold Heap.ClientType.contents ClientType.told
  simp only [Heap.ClientType.topicArray, Heap.ClientType.optionArray, Heap.ClientType.readyArray,
    Option.bind_eq_bind, Option.bind_some, Option.map_some, named.used_eq, chosen.used_eq,
    stacked.used_eq, List.map_map]
  rfl

namespace Heap.Memory.Pictures

variable {memory : Heap.Memory} {s : Server}

theorem contents {γ : Type} (pictures : memory.Pictures s) (view : Ref → γ) :
    memory.contents view = s.told view := by
  have clients : memory.clients.used.map (·.contents view) = s.clients.elems.map (·.told view) :=
    pictures.clients.map_used fun _ _ tells => tells.contents view
  unfold Heap.Memory.contents Server.told
  rw [pictures.pollVec.used_eq, clients, pictures.udpMsgs.used_eq]

theorem stored? (pictures : memory.Pictures s) : memory.stored? = s.stored? := by
  funext source
  unfold Heap.Memory.stored? Server.stored?
  rw [pictures.udpBlock, pictures.udpMsgs.used_eq, List.getElem?_map]
  cases s.udpMsgs.elems[source.slot]? <;> rfl

end Heap.Memory.Pictures

/-! ## Sizes -/

structure Heap.ClientType.Sound (entry : Heap.ClientType) : Prop where
  topics : ∃ topics ∈ entry.topicArray, topics.Sound
  options : ∃ options ∈ entry.optionArray, options.Sound
  readyMsgs : ∃ readyMsgs ∈ entry.readyArray, readyMsgs.Sound

/-- Every length is within its capacity, and every capacity within its block. -/
structure Heap.Memory.Sound (memory : Heap.Memory) : Prop where
  pollVec : memory.pollVec.Sound
  clients : memory.clients.Sound
  entries : ∀ entry ∈ memory.clients.used, entry.Sound
  udpMsgs : memory.udpMsgs.Sound

theorem Tells.sound {entry : Heap.ClientType} {c : ClientType} (tells : Tells entry c) :
    entry.Sound := by
  obtain ⟨named, chosen, stacked⟩ := tells
  exact ⟨⟨_, rfl, named.sound⟩, ⟨_, rfl, chosen.sound⟩, ⟨_, rfl, stacked.sound⟩⟩

theorem Heap.Memory.Pictures.sound {memory : Heap.Memory} {s : Server}
    (pictures : memory.Pictures s) : memory.Sound where
  pollVec := pictures.pollVec.sound
  clients := pictures.clients.sound
  entries := by
    intro entry member
    obtain ⟨c, _, tells⟩ := pictures.clients.of_mem_used member
    exact tells.sound
  udpMsgs := pictures.udpMsgs.sound

/-! ## Refusals -/

theorem pollVecAddFd_refused {vec : PollVec} {fd : Int} {fdEvents : BitVec 16} {grow : Bool}
    (refused : (pollVecAddFd vec fd fdEvents grow).1 ≠ .ok) :
    (pollVecAddFd vec fd fdEvents grow).2 = vec := by
  unfold pollVecAddFd at refused ⊢
  split
  · rfl
  · simp_all

theorem pollVecRemoveFd_refused {vec : PollVec} {fdIdx : Nat}
    (refused : (pollVecRemoveFd vec fdIdx).1 ≠ .ok) : (pollVecRemoveFd vec fdIdx).2 = vec := by
  unfold pollVecRemoveFd at refused ⊢
  split
  · rfl
  · simp_all

theorem closeActiveClient_refused {clients : ClientVec} {clientFd : Int}
    (refused : (closeActiveClient clients clientFd).1 ≠ .ok) :
    (closeActiveClient clients clientFd).2.1 = clients := by
  unfold closeActiveClient at refused ⊢
  split
  · rfl
  · cases found : locate (fun c => c.fd == clientFd) clients.elems with
    | none => rfl
    | some pair => cases status : pair.2.status <;> simp_all

theorem addTopicMsgForClient_refused {clients : ClientVec} {udpMsg : Ref} {clientIdx : Nat}
    {grow : Bool} (refused : (addTopicMsgForClient clients udpMsg clientIdx grow).1 ≠ .ok) :
    (addTopicMsgForClient clients udpMsg clientIdx grow).2 = clients := by
  unfold addTopicMsgForClient at refused ⊢
  cases here : clients.elems[clientIdx]? with
  | none => rfl
  | some c =>
      rw [here] at refused
      dsimp only at refused ⊢
      split
      · rfl
      · simp_all

/-- A refused datagram is not counted. -/
theorem addServerUdpMsg_refused {kernel : Kernel} {s : Server}
    (refused : (addServerUdpMsg kernel s).1 ≠ .ok) :
    (s.Crammed kernel ∧ (addServerUdpMsg kernel s).2 = s) ∨
      (¬ s.Crammed kernel ∧ (addServerUdpMsg kernel s).2 = s.reserveUdpMsgs kernel) := by
  have crammed_iff : (s.udpMsgs.full && kernel.udpMsgs == .fails) = true ↔ s.Crammed kernel := by
    simp [Server.Crammed]
  unfold addServerUdpMsg at refused ⊢
  split
  · rename_i crammed
    exact Or.inl ⟨crammed_iff.mp crammed, rfl⟩
  · rename_i room
    rw [if_neg room] at refused
    dsimp only at refused ⊢
    split
    · exact Or.inr ⟨fun crammed => room (crammed_iff.mpr crammed), rfl⟩
    · rename_i accepted
      rw [if_neg accepted] at refused
      exact absurd rfl refused

theorem told_of_contents {γ : Type} (view : Ref → γ) {xs ys : List ClientType}
    (same : xs.map ClientType.contents = ys.map ClientType.contents) :
    xs.map (·.told view) = ys.map (·.told view) := by
  let say (k : (Bytes × ClientStatus × Int) × List Bytes × List ClientOption × List Ref) :
      ClientContents γ :=
    ⟨some k.1.1, some k.1.2.2, some k.1.2.1, some (k.2.1.map some), some (k.2.2.1.map some),
      some (k.2.2.2.map fun source => some (view source))⟩
  have through (zs : List ClientType) :
      zs.map (·.told view) = (zs.map ClientType.contents).map say := by
    rw [List.map_map]
    rfl
  rw [through, through, same]

/-- A refused call changes nothing of what the arrays say. -/
theorem Server.call_refused {γ : Type} {s : Server} {next : Call}
    (refused : (s.call next).1 ≠ .ok) (view : Ref → γ) :
    (s.call next).2.told view = s.told view := by
  have known (clients : ClientVec)
      (same : clients.elems.map ClientType.contents = s.clients.elems.map ClientType.contents) :
      Server.told { s with clients := clients } view = s.told view := by
    unfold Server.told
    rw [told_of_contents view same]
  cases next with
  | pollVecAddFd fd fdEvents grow =>
      have same := pollVecAddFd_refused refused
      simp only [Server.call, Server.told, same]
  | pollVecRemoveFd fdIdx =>
      have same := pollVecRemoveFd_refused refused
      simp only [Server.call, Server.told, same]
  | registerNewClient clientId clientFd alloc =>
      exact known _ (congrArg (List.map ClientType.contents) (registerNewClient_refused refused))
  | closeActiveClient clientFd =>
      exact known _ (by rw [closeActiveClient_refused refused])
  | subscribeClientToTopic clientFd clientTopic clientSf alloc =>
      exact known _ (subscribeClientToTopic_refused refused)
  | unsubscribeClientFromTopic clientFd clientTopic =>
      exact known _ (unsubscribeClientFromTopic_refused refused)
  | addTopicMsgForClient slot clientIdx grow =>
      exact known _ (by rw [addTopicMsgForClient_refused refused])
  | addServerUdpMsg grow udpAddrClient buf =>
      rcases addServerUdpMsg_refused refused with ⟨_, same⟩ | ⟨_, reserved⟩
      · rw [Server.call, same]
        rfl
      · rw [Server.call, reserved]
        obtain ⟨pollVec, clients, _, _⟩ := Server.reserveUdpMsgs_rest
          { s with udpAddrClient := udpAddrClient, buf := buf }
          { Kernel.willing with udpMsgs := grow }
        unfold Server.told
        rw [pollVec, clients, Server.reserveUdpMsgs_elems]

/-! ## Pointers to stored datagrams -/

/-- No pending pointer goes into a block that is still to come. -/
def Server.Grounded (s : Server) : Prop :=
  ∀ c ∈ s.clients.elems, ∀ source ∈ c.readyMsgs.elems, source.block ≤ s.udpBlock

namespace Server.Grounded

variable {s : Server}

/-- One entry is overwritten. -/
theorem set (grounded : s.Grounded) {index : Nat} {d : ClientType}
    (low : ∀ source ∈ d.readyMsgs.elems, source.block ≤ s.udpBlock) :
    Server.Grounded { s with clients := s.clients.set index d } := by
  intro c member
  rcases mem_set_cases member with rfl | old
  · exact low
  · exact grounded c old

theorem edited (grounded : s.Grounded) {clients : ClientVec} (edited : Edited s.clients clients) :
    Server.Grounded { s with clients := clients } := by
  cases edited with
  | same => exact grounded
  | table index c table here _ => exact grounded.set (grounded c (List.mem_of_getElem? here))

theorem registered (grounded : s.Grounded) (clientId : Bytes) (clientFd : Int)
    (alloc : RegisterAlloc) :
    Server.Grounded
      { s with clients := (registerNewClient s.clients clientId clientFd alloc).2 } := by
  by_cases done : (registerNewClient s.clients clientId clientFd alloc).1 = .ok
  · obtain ⟨after, ran⟩ :
        ∃ after, registerNewClient s.clients clientId clientFd alloc = (.ok, after) :=
      ⟨_, Prod.ext done rfl⟩
    rw [ran]
    cases registerNewClient_ok ran with
    | again iter c here _ _ => exact grounded.set (grounded c (List.mem_of_getElem? here))
    | fresh absent =>
        intro c member
        rcases List.mem_append.mp member with old | new
        · exact grounded c old
        · obtain rfl := List.mem_singleton.mp new
          intro source none
          cases none
  · intro c member
    rw [registerNewClient_refused done] at member
    exact grounded c member

theorem closed (grounded : s.Grounded) (clientFd : Int) :
    Server.Grounded { s with clients := (closeActiveClient s.clients clientFd).2.1 } := by
  unfold closeActiveClient
  split
  · exact grounded
  · cases found : locate (fun c => c.fd == clientFd) s.clients.elems with
    | none => exact grounded
    | some pair =>
        dsimp only
        split
        · exact grounded
        · exact grounded.set (grounded pair.2 (locate_mem found))

theorem stacked (grounded : s.Grounded) {udpMsg : Ref} (low : udpMsg.block ≤ s.udpBlock)
    (clientIdx : Nat) (grow : Bool) :
    Server.Grounded
      { s with clients := (addTopicMsgForClient s.clients udpMsg clientIdx grow).2 } := by
  unfold addTopicMsgForClient
  cases here : s.clients.elems[clientIdx]? with
  | none => exact grounded
  | some c =>
      dsimp only
      split
      · exact grounded
      · refine grounded.set ?_
        intro source member
        rcases List.mem_append.mp member with old | new
        · exact grounded c (List.mem_of_getElem? here) source old
        · obtain rfl := List.mem_singleton.mp new
          exact low

end Server.Grounded

/-- What a refused call does to the block of the stored datagrams. -/
def Call.MovesInVain : Call → Prop
  | .addServerUdpMsg grow _ buf => grow = .moves ∧ ¬ KnownType (typeByte buf.bytes)
  | _ => False

section Blocks

variable {s : Server}

theorem addServerUdpMsg_block (kernel : Kernel) (s : Server) :
    (addServerUdpMsg kernel s).2.clients = s.clients ∧
      s.udpBlock ≤ (addServerUdpMsg kernel s).2.udpBlock := by
  obtain ⟨_, clients, _, _⟩ := s.reserveUdpMsgs_rest kernel
  have low : s.udpBlock ≤ (s.reserveUdpMsgs kernel).udpBlock := by
    rw [s.reserveUdpMsgs_udpBlock kernel]
    split <;> omega
  unfold addServerUdpMsg
  split
  · exact ⟨rfl, Nat.le_refl _⟩
  · dsimp only
    split <;> exact ⟨clients, low⟩

theorem Server.call_grounded (grounded : s.Grounded) (next : Call) :
    (s.call next).2.Grounded := by
  cases next with
  | pollVecAddFd fd fdEvents grow => exact grounded
  | pollVecRemoveFd fdIdx => exact grounded
  | registerNewClient clientId clientFd alloc => exact grounded.registered clientId clientFd alloc
  | closeActiveClient clientFd => exact grounded.closed clientFd
  | subscribeClientToTopic clientFd clientTopic clientSf alloc =>
      exact grounded.edited (subscribeClientToTopic_edited _ _ _ _ _)
  | unsubscribeClientFromTopic clientFd clientTopic =>
      exact grounded.edited (unsubscribeClientFromTopic_edited _ _ _)
  | addTopicMsgForClient slot clientIdx grow =>
      exact grounded.stacked (Nat.le_refl _) clientIdx grow
  | addServerUdpMsg grow udpAddrClient buf =>
      obtain ⟨clients, low⟩ := addServerUdpMsg_block { Kernel.willing with udpMsgs := grow }
        { s with udpAddrClient := udpAddrClient, buf := buf }
      intro c member source waiting
      rw [Server.call, clients] at member
      exact Nat.le_trans (grounded c member source waiting) low

theorem addServerUdpMsg_stays {kernel : Kernel} {s : Server}
    (refused : (addServerUdpMsg kernel s).1 ≠ .ok)
    (stays : ¬ (s.udpMsgs.full = true ∧ kernel.udpMsgs = .moves ∧
      ¬ KnownType (typeByte s.buf.bytes))) :
    (addServerUdpMsg kernel s).2.stored? = s.stored? := by
  rcases addServerUdpMsg_refused refused with ⟨_, same⟩ | ⟨room, reserved⟩
  · rw [same]
  · have unknown : ¬ KnownType (typeByte s.buf.bytes) := fun known =>
      refused ((addServerUdpMsg_ok_iff kernel s).mpr ⟨room, (parsed_known_iff s).mpr known⟩)
    have still : ¬ (s.udpMsgs.full && kernel.udpMsgs == .moves) = true := by
      rw [Bool.and_eq_true, beq_iff_eq]
      exact fun moved => stays ⟨moved.1, moved.2, unknown⟩
    funext source
    unfold Server.stored?
    rw [reserved, Server.reserveUdpMsgs_elems, Server.reserveUdpMsgs_udpBlock, if_neg still]

theorem addServerUdpMsg_moves {kernel : Kernel} {s : Server} (full : s.udpMsgs.full = true)
    (moves : kernel.udpMsgs = .moves) (unknown : ¬ KnownType (typeByte s.buf.bytes)) :
    (addServerUdpMsg kernel s).1 ≠ .ok ∧
      (addServerUdpMsg kernel s).2.udpBlock = s.udpBlock + 1 := by
  have refused : (addServerUdpMsg kernel s).1 ≠ .ok := fun ok =>
    unknown ((parsed_known_iff s).mp ((addServerUdpMsg_ok_iff kernel s).mp ok).2)
  refine ⟨refused, ?_⟩
  rcases addServerUdpMsg_refused refused with ⟨⟨_, fails⟩, _⟩ | ⟨_, reserved⟩
  · rw [moves] at fails
    cases fails
  · have moved : (s.udpMsgs.full && kernel.udpMsgs == .moves) = true := by
      rw [full, moves]
      rfl
    rw [reserved, Server.reserveUdpMsgs_udpBlock, if_pos moved]

/-- A refused call that does not move the stored datagrams leaves them where they are. -/
theorem Server.call_stays {next : Call} (refused : (s.call next).1 ≠ .ok)
    (stays : ¬ (s.udpMsgs.full = true ∧ next.MovesInVain)) :
    (s.call next).2.stored? = s.stored? := by
  cases next with
  | addServerUdpMsg grow udpAddrClient buf => exact addServerUdpMsg_stays refused stays
  | _ => rfl

theorem Server.call_moves {next : Call} (full : s.udpMsgs.full = true)
    (vain : next.MovesInVain) :
    (s.call next).1 ≠ .ok ∧ (s.call next).2.udpBlock = s.udpBlock + 1 := by
  cases next with
  | addServerUdpMsg grow udpAddrClient buf =>
      obtain ⟨moves, unknown⟩ := vain
      exact addServerUdpMsg_moves full moves unknown
  | _ => exact vain.elim

end Blocks

/-! ## Pending messages -/

section Pending

variable {s t : Server}

/-- Two views agree on a server when they do on every pending pointer. -/
theorem Server.told_eq_iff {γ : Type} {view other : Ref → γ} :
    s.told view = s.told other ↔
      ∀ c ∈ s.clients.elems, ∀ source ∈ c.readyMsgs.elems, view source = other source := by
  have client (c : ClientType) : c.told view = c.told other ↔
      ∀ source ∈ c.readyMsgs.elems, view source = other source := by
    rw [ClientContents.ext_iff]
    simp [ClientType.told, List.map_inj_left]
  rw [Contents.ext_iff]
  simp [Server.told, List.map_inj_left, client]

theorem Server.awaits_iff : (s.told s.stored?).Awaits ↔
    ∃ c ∈ s.clients.elems, ∃ source ∈ c.readyMsgs.elems, ∃ msg, s.stored? source = some msg := by
  constructor
  · rintro ⟨_, told, pending, kept, msg, listed, seen⟩
    obtain ⟨c, member, rfl⟩ := List.mem_map.mp told
    obtain rfl := Option.some.inj kept
    obtain ⟨source, stacked, rfl⟩ := List.mem_map.mp listed
    exact ⟨c, member, source, stacked, Option.isSome_iff_exists.mp seen⟩
  · rintro ⟨c, member, source, waiting, here⟩
    exact ⟨c.told s.stored?, List.mem_map_of_mem member, _, rfl, some (s.stored? source),
      List.mem_map_of_mem waiting, Option.isSome_iff_exists.mpr here⟩

/-- No pointer goes into a block that has just been taken. -/
theorem Server.Grounded.lost (grounded : s.Grounded) (moved : t.udpBlock = s.udpBlock + 1)
    {c : ClientType} (member : c ∈ s.clients.elems) {source : Ref}
    (waiting : source ∈ c.readyMsgs.elems) : t.stored? source = none := by
  have low := grounded c member source waiting
  unfold Server.stored?
  rw [if_neg (by omega)]

/-- When the stored datagrams have moved, the pending messages are as they were
only if there were none. -/
theorem Server.Grounded.moved_iff (grounded : s.Grounded) (moved : t.udpBlock = s.udpBlock + 1) :
    s.told t.stored? = s.told s.stored? ↔ ¬ (s.told s.stored?).Awaits := by
  rw [Server.told_eq_iff, Server.awaits_iff]
  constructor
  · rintro same ⟨c, member, source, waiting, msg, here⟩
    have lost := grounded.lost moved member waiting
    rw [same c member source waiting, here] at lost
    cases lost
  · intro none c member source waiting
    rw [grounded.lost moved member waiting]
    cases here : s.stored? source with
    | none => rfl
    | some msg => exact absurd ⟨c, member, source, waiting, msg, here⟩ none

end Pending

/-! ## Whole runs -/

/-- The two programs that keep arrays. Of these arrays a subscriber has the first only. -/
inductive Program where
  | server
  | subscriber

/-- The capacity with which a program creates its vector of descriptors. -/
def Program.nfds : Program → Nat
  | .server => initNfds
  | .subscriber => 2

theorem Program.nfds_pos (program : Program) : 0 < program.nfds := by
  cases program <;> decide

def Heap.Memory.created (program : Program) : Heap.Memory where
  pollVec := Growable.create program.nfds
  clients := Growable.create initClients
  udpMsgs := Growable.create initUdpMsgsLen
  udpBlock := 0

/-- A server with the arrays as they are created. -/
def Server.created (program : Program) : Server :=
  { Server.started with pollVec := Vec.create program.nfds program.nfds_pos }

theorem Server.created_pictured (program : Program) :
    (Heap.Memory.created program).Pictures (Server.created program) where
  pollVec := Realizes.create program.nfds_pos
  clients := Realizes.create (by decide)
  udpMsgs := Realizes.create (by decide)
  udpBlock := rfl

theorem Server.created_grounded (program : Program) : (Server.created program).Grounded := by
  intro c member
  cases member

/-- A run comes to its end, in a memory that is laid out like the arrays of some server. -/
theorem Heap.Memory.Pictures.run {memory : Heap.Memory} {s : Server}
    (pictures : memory.Pictures s) (grounded : s.Grounded) (calls : List Call) :
    ∃ after t, memory.run calls = some after ∧ after.Pictures t ∧ t.Grounded := by
  induction calls generalizing memory s with
  | nil => exact ⟨memory, s, rfl, pictures, grounded⟩
  | cons next rest ih =>
      obtain ⟨middle, ran, kept⟩ := Server.call_mirrors pictures next
      obtain ⟨after, t, later, drawn, low⟩ := ih kept (Server.call_grounded grounded next)
      refine ⟨after, t, ?_, drawn, low⟩
      rw [Heap.Memory.run, ran]
      exact later

/-- The call comes to an end, the sizes are right after it, and when it is
refused all that the arrays say is as it was, with the pending pointers seen as
`view` has it. -/
def Heap.Memory.Endures {γ : Type} (view : Heap.Memory → Ref → γ) (memory : Heap.Memory)
    (next : Call) : Prop :=
  ∃ err after, memory.call next = some (err, after) ∧ after.Sound ∧
    (err ≠ .ok → after.contents (view after) = memory.contents (view memory))

/-- The datagram of the call is refused after the stored ones, for one of which
a client waits, were moved. -/
def Heap.Memory.Uproots (memory : Heap.Memory) (next : Call) : Prop :=
  memory.udpMsgs.full = true ∧ next.MovesInVain ∧ (memory.contents memory.stored?).Awaits

namespace Heap.Memory.Pictures

variable {memory : Heap.Memory} {s : Server}

theorem endures (pictures : memory.Pictures s) (next : Call) :
    memory.Endures (fun _ source => source) next := by
  obtain ⟨after, ran, kept⟩ := Server.call_mirrors pictures next
  refine ⟨_, after, ran, kept.sound, ?_⟩
  intro refused
  rw [kept.contents, pictures.contents]
  exact Server.call_refused refused _

/-- Whether the pending messages endure can be read off the server. -/
theorem endures_stored_iff (pictures : memory.Pictures s) (next : Call) :
    memory.Endures Heap.Memory.stored? next ↔
      ((s.call next).1 ≠ .ok → s.told (s.call next).2.stored? = s.told s.stored?) := by
  obtain ⟨after, ran, kept⟩ := Server.call_mirrors pictures next
  have seen (refused : (s.call next).1 ≠ .ok) :
      after.contents after.stored? = memory.contents memory.stored? ↔
        s.told (s.call next).2.stored? = s.told s.stored? := by
    rw [kept.contents, kept.stored?, pictures.contents, pictures.stored?,
      Server.call_refused refused]
  constructor
  · rintro ⟨err, other, again, _, same⟩ refused
    rw [ran] at again
    obtain ⟨rfl, rfl⟩ := Prod.mk.inj (Option.some.inj again)
    exact (seen refused).mp (same refused)
  · intro same
    exact ⟨_, after, ran, kept.sound, fun refused => (seen refused).mpr (same refused)⟩

theorem endures_iff (pictures : memory.Pictures s) (grounded : s.Grounded) (next : Call) :
    memory.Endures Heap.Memory.stored? next ↔ ¬ memory.Uproots next := by
  unfold Heap.Memory.Uproots
  rw [pictures.endures_stored_iff, pictures.contents, pictures.stored?, pictures.udpMsgs.full]
  by_cases moves : s.udpMsgs.full = true ∧ next.MovesInVain
  · obtain ⟨full, vain⟩ := moves
    obtain ⟨refused, moved⟩ := Server.call_moves full vain
    have lost := grounded.moved_iff moved
    exact ⟨fun same uprooted => lost.mp (same refused) uprooted.2.2,
      fun rooted _ => lost.mpr fun awaits => rooted ⟨full, vain, awaits⟩⟩
  · refine ⟨fun _ uprooted => moves ⟨uprooted.1, uprooted.2.1⟩, fun _ refused => ?_⟩
    rw [Server.call_stays refused moves]

end Heap.Memory.Pictures

/-- From the arrays as a program creates them, any calls with any answers of the
allocator keep the sizes right and stay inside the blocks, and a refused call
changes nothing; the pending messages are still there just when it did not move
them away from the pointers. -/
theorem refused_calls_endured (program : Program) (calls : List Call) :
    ∃ memory, (Heap.Memory.created program).run calls = some memory ∧ memory.Sound ∧
      ∀ next : Call, memory.Endures (fun _ source => source) next ∧
        (memory.Endures Heap.Memory.stored? next ↔ ¬ memory.Uproots next) := by
  obtain ⟨memory, s, ran, pictures, grounded⟩ :=
    (Server.created_pictured program).run (Server.created_grounded program) calls
  exact ⟨memory, ran, pictures.sound,
    fun next => ⟨pictures.endures next, pictures.endures_iff grounded next⟩⟩

/-- A client that is away waits for the first of twenty stored datagrams. -/
def awaited : List Call :=
  [.registerNewClient (ascii "C1") 5 .succeed,
    .subscribeClientToTopic 5 (ascii "news") .sf .succeed,
    .closeActiveClient 5,
    .addServerUdpMsg .inPlace (Buffer.zero _) ((Buffer.zero _).splice 0 (ascii "news")),
    .addTopicMsgForClient 0 0 true] ++
  List.replicate 19 (.addServerUdpMsg .inPlace (Buffer.zero _) (Buffer.zero _))

/-- A datagram of unknown type for which the stored ones are moved. -/
def Call.vain : Call :=
  .addServerUdpMsg .moves (Buffer.zero _) ((Buffer.zero _).splice (maxTopicLen - 1) [4])

/-- The refused datagram takes the stored ones away from the client. -/
theorem refused_call_uproots :
    ¬ ∀ (program : Program) (calls : List Call) (next : Call),
      ∃ memory, (Heap.Memory.created program).run calls = some memory ∧
        memory.Endures Heap.Memory.stored? next := by
  intro always
  obtain ⟨memory, ran, endures⟩ := always .server awaited .vain
  obtain ⟨same, s, again, pictures, grounded⟩ :=
    (Server.created_pictured .server).run (Server.created_grounded .server) awaited
  obtain rfl := Option.some.inj (ran.symm.trans again)
  have full : ((Heap.Memory.created .server).run awaited).map (·.udpMsgs.full) = some true := by
    decide +kernel
  have awaits : ((Heap.Memory.created .server).run awaited).map
      (fun memory => decide (memory.contents memory.stored?).Awaits) = some true := by
    decide +kernel
  rw [ran] at full awaits
  refine (pictures.endures_iff grounded .vain).mp endures ⟨Option.some.inj full, ?_, ?_⟩
  · exact ⟨rfl, by decide +kernel⟩
  · exact of_decide_eq_true (Option.some.inj awaits)

end TopicBroker
