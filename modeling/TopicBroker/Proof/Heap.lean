import TopicBroker.Model.Heap
import TopicBroker.Proof.Bounds

/-!
# The arrays on the heap behave as those of the model

A heap that is laid out like the arrays of a server is so after every function
on both, whatever the allocator answers. So no access goes outside its block,
and a function that is refused leaves what the arrays say as it was. Only the
array of stored datagrams may have moved away from the pointers to it.
-/

namespace TopicBroker

/-! ## What a heap says -/

/-- A cell that was written. -/
def Written {α : Type} (cell : Option α) (x : α) : Prop := cell = some x

def TopicTable.topicVec (table : TopicTable) : Vec Bytes where
  elems := table.topics
  capacity := table.capacity
  alloc := table.topicsAlloc
  length_le := table.length_le
  capacity_le := table.topics_le
  capacity_pos := table.capacity_pos

def TopicTable.optionVec (table : TopicTable) : Vec ClientOption where
  elems := table.options
  capacity := table.capacity
  alloc := table.optionsAlloc
  length_le := by
    rw [table.aligned]
    exact table.length_le
  capacity_le := table.options_le
  capacity_pos := table.capacity_pos

/-- The entry on the heap is laid out like the entry of the model. -/
inductive Tells : Heap.ClientType → ClientType → Prop where
  | intro {c : ClientType} {topics : Growable (Option Bytes)}
      {options : List (Option ClientOption)} {readyMsgs : Growable (Option Ref)}
      (named : Realizes Written topics c.table.topicVec)
      (chosen : Realizes Written ⟨options, topics.len, topics.capacity⟩ c.table.optionVec)
      (stacked : Realizes Written readyMsgs c.readyMsgs) :
      Tells
        { id := some c.id, status := some c.status, options := some options, fd := some c.fd
          topics := some topics.block, topicsLen := some topics.len
          topicCapacity := some topics.capacity, readyMsgs := some readyMsgs.block
          readyMsgsLen := some readyMsgs.len, readyMsgsCapacity := some readyMsgs.capacity } c

namespace Tells

variable {entry : Heap.ClientType} {c : ClientType}

theorem id (tells : Tells entry c) : entry.id = some c.id := by
  cases tells
  rfl

theorem status (tells : Tells entry c) : entry.status = some c.status := by
  cases tells
  rfl

theorem fd (tells : Tells entry c) : entry.fd = some c.fd := by
  cases tells
  rfl

/-- A new descriptor and status. -/
theorem contact (tells : Tells entry c) (status : ClientStatus) (fd : Int) :
    Tells { entry with fd := some fd, status := some status }
      { c with fd := fd, status := status } := by
  obtain ⟨named, chosen, stacked⟩ := tells
  exact Tells.intro (c := { c with fd := fd, status := status }) named chosen stacked

end Tells

/-! ## `poll_vec` -/

section PollVec

variable {vec : Heap.PollVec} {polled : PollVec}

theorem pollVecAddFd_mirrors (realizes : Realizes Written vec polled) (fd : Int)
    (fdEvents : BitVec 16) (grow : Bool) :
    Mirrors (Realizes Written) (Heap.pollVecAddFd vec fd fdEvents grow)
      (pollVecAddFd polled fd fdEvents grow) := by
  unfold Heap.pollVecAddFd pollVecAddFd
  rw [realizes.full]
  split
  · exact .intro realizes
  · have written : Written (some (PollFd.mk fd fdEvents 0)) ⟨fd, fdEvents, 0⟩ := rfl
    obtain ⟨after, ran, kept⟩ := realizes.reserve.append written
    rw [ran]
    exact .intro kept

theorem pollVecRemoveFd_mirrors (realizes : Realizes Written vec polled) (fdIdx : Nat) :
    Mirrors (Realizes Written) (Heap.pollVecRemoveFd vec fdIdx) (pollVecRemoveFd polled fdIdx) := by
  unfold Heap.pollVecRemoveFd pollVecRemoveFd PollVec.nfds
  rw [realizes.len]
  split
  · exact .intro realizes
  · have inside : fdIdx < polled.elems.length := by omega
    obtain ⟨cell, here, rfl⟩ := realizes.load (List.getElem?_eq_getElem inside)
    obtain ⟨after, ran, kept⟩ := realizes.remove inside
    rw [here, ran]
    exact .intro kept

end PollVec

/-! ## `client_vec` -/

section ClientVec

variable {clients : Heap.ClientVec} {table : ClientVec}

/-- The search for an id. -/
theorem Realizes.scan_id (realizes : Realizes Tells clients table) (clientId : Bytes) :
    clients.scan (fun entry => entry.id.map (· == clientId)) =
      some ((locate (fun c => c.id == clientId) table.elems).map Prod.fst) :=
  realizes.scan fun entry c tells => by rw [tells.id, Option.map_some]

/-- The search for a descriptor. -/
theorem Realizes.scan_fd (realizes : Realizes Tells clients table) (clientFd : Int) :
    clients.scan (fun entry => entry.fd.map (· == clientFd)) =
      some ((locate (fun c => c.fd == clientFd) table.elems).map Prod.fst) :=
  realizes.scan fun entry c tells => by rw [tells.fd, Option.map_some]

/-- The block that `malloc` hands out is one for an empty array. -/
theorem malloc_realizes {α : Type} :
    Realizes (Written (α := α))
      ⟨Block.malloc initTopicsCapacity, 0, initTopicsCapacity⟩
      (Vec.create initTopicsCapacity (by decide)) := Realizes.create (by decide)

/-- An entry that is not filled in completely is not counted, and one that is, is. -/
theorem fillNewEntry_mirrors (reserved : Realizes Tells clients table.reserve)
    (clientId : Bytes) (clientFd : Int) (alloc : RegisterAlloc) :
    Mirrors (Realizes Tells) (Heap.fillNewEntry clients clientId clientFd alloc)
      (if !alloc.id then (.clientsVecFailedRegisterAllocation, table.reserve)
      else if !alloc.topics then (.clientsVecFailedRegisterAllocation, table.reserve)
      else if !alloc.options then (.clientsVecFailedRegisterAllocation, table.reserve)
      else if !alloc.readyMsgs then (.clientsVecFailedRegisterAllocation, table.reserve)
      else (.ok, table.push (.fresh clientId clientFd))) := by
  obtain ⟨cell, here⟩ : ∃ cell, clients.block[clients.len]? = some cell :=
    ⟨_, List.getElem?_eq_getElem reserved.room⟩
  have first (change : Heap.ClientType → Heap.ClientType) :
      clients.update clients.len change = some (clients.put (change cell)) := by
    have written := Growable.put_update reserved.room cell change
    rwa [Growable.put_self here] at written
  have next (entry : Heap.ClientType) (change : Heap.ClientType → Heap.ClientType) :
      (clients.put entry).update clients.len change = some (clients.put (change entry)) :=
    Growable.put_update reserved.room entry change
  have len (entry : Heap.ClientType) : (clients.put entry).len = clients.len := rfl
  unfold Heap.fillNewEntry
  simp only [first, Option.bind_eq_bind, Option.bind_some, len, next]
  cases alloc.id with
  | false => exact .intro (reserved.put _)
  | true =>
      cases alloc.topics with
      | false => exact .intro (reserved.put _)
      | true =>
          cases alloc.options with
          | false => exact .intro (reserved.put _)
          | true =>
              cases alloc.readyMsgs with
              | false => exact .intro (reserved.put _)
              | true =>
                  refine .intro (reserved.count ?_)
                  exact Tells.intro (c := .fresh clientId clientFd) malloc_realizes malloc_realizes
                    malloc_realizes

theorem registerNewClient_mirrors (realizes : Realizes Tells clients table) (clientId : Bytes)
    (clientFd : Int) (alloc : RegisterAlloc) :
    Mirrors (Realizes Tells) (Heap.registerNewClient clients clientId clientFd alloc)
      (registerNewClient table clientId clientFd alloc) := by
  unfold Heap.registerNewClient registerNewClient
  rw [realizes.scan_id]
  cases found : locate (fun c => c.id == clientId) table.elems with
  | none =>
      simp only [Option.map_none, Option.bind_eq_bind, Option.bind_some]
      rw [realizes.full]
      split
      · exact .intro realizes
      · exact fillNewEntry_mirrors realizes.reserve clientId clientFd alloc
  | some pair =>
      have here := (locate_eq_some found).1
      obtain ⟨entry, there, tells⟩ := realizes.load here
      simp only [Option.map_some, Option.bind_eq_bind, Option.bind_some, there, tells.status]
      split
      · exact .intro realizes
      · obtain ⟨after, ran, kept⟩ := realizes.store here (tells.contact .active clientFd)
        rw [ran]
        exact .intro kept

theorem closeActiveClient_mirrors (realizes : Realizes Tells clients table) (clientFd : Int) :
    Mirrors (fun done model => Realizes Tells done.1 model.1 ∧ done.2 = model.2)
      (Heap.closeActiveClient clients clientFd) (closeActiveClient table clientFd) := by
  unfold Heap.closeActiveClient closeActiveClient
  split
  · exact .intro ⟨realizes, rfl⟩
  · rw [realizes.scan_fd]
    cases found : locate (fun c => c.fd == clientFd) table.elems with
    | none => exact .intro ⟨realizes, rfl⟩
    | some pair =>
        have here := (locate_eq_some found).1
        obtain ⟨entry, there, tells⟩ := realizes.load here
        simp only [Option.map_some, Option.bind_eq_bind, Option.bind_some, there, tells.status]
        split
        · exact .intro ⟨realizes, rfl⟩
        · obtain ⟨after, ran, kept⟩ := realizes.store here (tells.contact .dead (-1))
          rw [ran]
          exact .intro ⟨kept, rfl⟩

end ClientVec

/-! ## Topics -/

namespace TopicTable

theorem reserve_topicVec (table : TopicTable) :
    table.reserve.topicVec = table.topicVec.reserve := by
  have same : table.full = table.topicVec.full := rfl
  unfold reserve Vec.reserve
  rw [same]
  split <;> rfl

theorem reserve_optionVec (table : TopicTable) :
    table.reserve.optionVec = table.optionVec.reserve := by
  have same : table.full = table.optionVec.full := by
    rw [full, ← table.aligned]
    rfl
  unfold reserve Vec.reserve
  rw [same]
  split <;> rfl

theorem push_topicVec (table : TopicTable) (topic : Bytes) (option : ClientOption) :
    (table.push topic option).topicVec = table.topicVec.push topic := by
  have capacity := congrArg Vec.capacity table.reserve_topicVec
  have alloc := congrArg Vec.alloc table.reserve_topicVec
  exact Vec.ext rfl capacity alloc

theorem push_optionVec (table : TopicTable) (topic : Bytes) (option : ClientOption) :
    (table.push topic option).optionVec = table.optionVec.push option := by
  have capacity := congrArg Vec.capacity table.reserve_optionVec
  have alloc := congrArg Vec.alloc table.reserve_optionVec
  exact Vec.ext rfl capacity alloc

end TopicTable

section Topics

variable {entry : Heap.ClientType} {c : ClientType}

/-- The search for a topic. -/
theorem Realizes.scan_topic {topics : Growable (Option Bytes)} {table : TopicTable}
    (named : Realizes Written topics table.topicVec) (clientTopic : Bytes) :
    topics.scan (fun topic => topic.map (· == clientTopic)) =
      some ((locate (fun topic => topic == clientTopic) table.topics).map Prod.fst) :=
  named.scan fun cell name written => by
    obtain rfl := written
    rfl

/-- The capacity that is recorded stays behind the block. -/
theorem Realizes.grown_block {topics : Growable (Option Bytes)} {table : TopicTable}
    (named : Realizes Written topics table.topicVec) :
    Realizes Written { topics with block := topics.grow.block } table.growTopics.topicVec where
  len := named.len
  capacity := named.capacity
  alloc := named.grow.alloc
  backs := named.grow.backs

theorem Tells.addTopic (tells : Tells entry { c with table := c.table.reserve })
    (clientTopic : Bytes) (clientSf : ClientOption) (name : Bool) :
    Mirrors Tells (entry.addTopic clientTopic clientSf name)
      (if !name then (.clientsVecCoundNotAddATopic, { c with table := c.table.reserve })
      else (.ok, { c with table := c.table.push clientTopic clientSf })) := by
  obtain ⟨named, chosen, stacked⟩ := tells
  rename_i topics options readyMsgs
  have names : Realizes Written topics c.table.topicVec.reserve :=
    c.table.reserve_topicVec ▸ named
  have choices :
      Realizes Written ⟨options, topics.len, topics.capacity⟩ c.table.optionVec.reserve :=
    c.table.reserve_optionVec ▸ chosen
  have answered := names.put none
  have stored := Growable.store_len names.room none
  have appended := Growable.append_room answered.room (some clientTopic)
  have optioned := Growable.append_room choices.room (some clientSf)
  unfold Heap.ClientType.addTopic
  simp only [Heap.ClientType.topicArray, Heap.ClientType.optionArray, Option.bind_eq_bind,
    Option.bind_some, stored, appended, optioned]
  cases name with
  | false =>
      exact .intro (.intro (c := { c with table := c.table.reserve }) (named.put none) chosen
        stacked)
  | true =>
      have pushed := c.table.push_topicVec clientTopic clientSf ▸
        answered.count (x := clientTopic) rfl
      have paired := c.table.push_optionVec clientTopic clientSf ▸
        choices.count (x := clientSf) rfl
      exact .intro (.intro (c := { c with table := c.table.push clientTopic clientSf }) pushed
        paired stacked)

theorem Tells.subscribe (tells : Tells entry c) (clientTopic : Bytes)
    (clientSf : ClientOption) (alloc : SubscribeAlloc) :
    Mirrors Tells (entry.subscribe clientTopic clientSf alloc)
      (c.subscribe clientTopic clientSf alloc) := by
  obtain ⟨named, chosen, stacked⟩ := tells
  rename_i topics options readyMsgs
  have searched := named.scan_topic clientTopic
  have full : topics.full = c.table.full := named.full
  unfold Heap.ClientType.subscribe ClientType.subscribe
  simp only [Heap.ClientType.topicArray, Heap.ClientType.optionArray, Option.bind_eq_bind,
    Option.bind_some, searched, full]
  cases found : locate (fun topic => topic == clientTopic) c.table.topics with
  | some pair =>
      have inside : pair.1 < c.table.options.length := by
        rw [c.table.aligned]
        exact (List.getElem?_eq_some_iff.mp (locate_eq_some found).1).1
      have stored := Growable.store_inside
        (chosen.inside (List.getElem?_eq_getElem inside)) (some clientSf)
      simp only [Option.map_some, stored, Option.bind_some]
      exact .intro (.intro (c := { c with table := c.table.setOption pair.1 clientSf }) named
        (chosen.set (x := clientSf) rfl) stacked)
  | none =>
      simp only [Option.map_none]
      cases whole : c.table.full with
      | false =>
          have same : c.table.reserve = c.table := by simp [TopicTable.reserve, whole]
          refine Tells.addTopic (c := c) ?_ clientTopic clientSf alloc.name
          rw [same]
          exact .intro named chosen stacked
      | true =>
          have grown : c.table.reserve = c.table.grow := by simp [TopicTable.reserve, whole]
          cases alloc.topics with
          | false => exact .intro (.intro named chosen stacked)
          | true =>
              cases alloc.options with
              | false =>
                  exact .intro (.intro (c := { c with table := c.table.growTopics })
                    named.grown_block chosen stacked)
              | true =>
                  refine Tells.addTopic (c := c) ?_ clientTopic clientSf alloc.name
                  rw [grown]
                  exact .intro (c := { c with table := c.table.grow }) named.grow chosen.grow
                    stacked

/-- Inside both arrays the loop is two loops over lists. -/
theorem shiftTopics_eq {count j : Nat} (topics : List (Option Bytes))
    (options : List (Option ClientOption)) (named : j + count < topics.length)
    (chosen : j + count < options.length) :
    Heap.shiftTopics count j topics options =
      some (shiftLoop count j topics, shiftLoop count j options) := by
  induction count generalizing j topics options with
  | zero => rfl
  | succ count ih =>
      have topic : topics[j + 1]? = some topics[j + 1] := List.getElem?_eq_getElem (by omega)
      have option : options[j + 1]? = some options[j + 1] := List.getElem?_eq_getElem (by omega)
      have first := Block.store_inside (show j < topics.length by omega) topics[j + 1]
      have second := Block.store_inside (show j < options.length by omega) options[j + 1]
      have rest := ih (j := j + 1) (topics.set j topics[j + 1]) (options.set j options[j + 1])
        (by rw [List.length_set]; omega) (by rw [List.length_set]; omega)
      rw [Heap.shiftTopics, topic, option, shiftLoop, shiftLoop, topic, option]
      simp only [Option.bind_eq_bind, Option.bind_some, first, second]
      exact rest

theorem Tells.unsubscribe (tells : Tells entry c) (clientTopic : Bytes) :
    Mirrors Tells (entry.unsubscribe clientTopic) (c.unsubscribe clientTopic) := by
  obtain ⟨named, chosen, stacked⟩ := tells
  rename_i topics options readyMsgs
  have searched := named.scan_topic clientTopic
  unfold Heap.ClientType.unsubscribe ClientType.unsubscribe
  simp only [Heap.ClientType.topicArray, Heap.ClientType.optionArray, Option.bind_eq_bind,
    Option.bind_some, searched]
  cases found : locate (fun topic => topic == clientTopic) c.table.topics with
  | none => exact .intro (.intro named chosen stacked)
  | some pair =>
      have here := (locate_eq_some found).1
      have inside : pair.1 < c.table.topics.length := (List.getElem?_eq_some_iff.mp here).1
      have answered : pair.1 < c.table.options.length := by rwa [c.table.aligned]
      have freed := Growable.store_inside (named.inside here) none
      have rounds : pair.1 + (topics.len - 1 - pair.1) < topics.len := by
        have len : topics.len = c.table.topics.length := named.len
        omega
      have moved := shiftTopics_eq (topics.block.set pair.1 none) options
        (Nat.lt_of_lt_of_le rounds (by rw [List.length_set]; exact named.sound.room))
        (Nat.lt_of_lt_of_le rounds chosen.sound.room)
      simp only [Option.map_some, freed, moved, Option.bind_some]
      exact .intro (.intro (c := { c with table := c.table.remove pair.1 })
        (named.shifted inside none) (chosen.removed answered) stacked)

end Topics

section Requests

variable {clients : Heap.ClientVec} {table : ClientVec}

/-- A function that goes to the client with a descriptor and works on its entry. -/
theorem onClient_mirrors (realizes : Realizes Tells clients table) (clientFd : Int)
    {run : Heap.ClientType → Option (Err × Heap.ClientType)}
    {model : ClientType → Err × ClientType}
    (mirrors : ∀ entry c, Tells entry c → Mirrors Tells (run entry) (model c)) :
    Mirrors (Realizes Tells)
      (do
        match ← clients.scan fun entry => entry.fd.map (· == clientFd) with
        | some iter =>
            let entry ← clients.block[iter]?
            let done ← run entry
            let clients ← clients.store iter done.2
            some (done.1, clients)
        | none => some (.clientsVecClientNotFound, clients))
      (match locate (fun c => c.fd == clientFd) table.elems with
        | some (iter, c) => ((model c).1, table.set iter (model c).2)
        | none => (.clientsVecClientNotFound, table)) := by
  rw [realizes.scan_fd]
  cases found : locate (fun c => c.fd == clientFd) table.elems with
  | none => exact .intro realizes
  | some pair =>
      have here := (locate_eq_some found).1
      obtain ⟨entry, there, tells⟩ := realizes.load here
      obtain ⟨written, done, told⟩ := mirrors entry pair.2 tells
      obtain ⟨after, ran, kept⟩ := realizes.store here told
      simp only [Option.map_some, Option.bind_eq_bind, Option.bind_some, there, done, ran]
      exact .intro kept

theorem subscribeClientToTopic_mirrors (realizes : Realizes Tells clients table) (clientFd : Int)
    (clientTopic : Bytes) (clientSf : ClientOption) (alloc : SubscribeAlloc) :
    Mirrors (Realizes Tells)
      (Heap.subscribeClientToTopic clients clientFd clientTopic clientSf alloc)
      (subscribeClientToTopic table clientFd clientTopic clientSf alloc) := by
  unfold Heap.subscribeClientToTopic subscribeClientToTopic
  split
  · exact .intro realizes
  · exact onClient_mirrors realizes clientFd
      fun _ _ tells => tells.subscribe clientTopic clientSf alloc

theorem unsubscribeClientFromTopic_mirrors (realizes : Realizes Tells clients table)
    (clientFd : Int) (clientTopic : Bytes) :
    Mirrors (Realizes Tells) (Heap.unsubscribeClientFromTopic clients clientFd clientTopic)
      (unsubscribeClientFromTopic table clientFd clientTopic) := by
  unfold Heap.unsubscribeClientFromTopic unsubscribeClientFromTopic
  split
  · exact .intro realizes
  · exact onClient_mirrors realizes clientFd fun _ _ tells => tells.unsubscribe clientTopic

theorem addTopicMsgForClient_mirrors (realizes : Realizes Tells clients table) (udpMsg : Ref)
    (clientIdx : Nat) (grow : Bool) :
    Mirrors (Realizes Tells) (Heap.addTopicMsgForClient clients udpMsg clientIdx grow)
      (addTopicMsgForClient table udpMsg clientIdx grow) := by
  unfold Heap.addTopicMsgForClient addTopicMsgForClient
  rw [realizes.len]
  cases here : table.elems[clientIdx]? with
  | none =>
      rw [if_pos (List.getElem?_eq_none_iff.mp here)]
      exact .intro realizes
  | some c =>
      have inside := (List.getElem?_eq_some_iff.mp here).1
      obtain ⟨entry, there, tells⟩ := realizes.load here
      obtain ⟨named, chosen, stacked⟩ := tells
      rename_i topics options readyMsgs
      have full : readyMsgs.full = c.readyMsgs.full := stacked.full
      rw [if_neg (Nat.not_le_of_lt inside), there]
      simp only [Heap.ClientType.readyArray, Option.bind_eq_bind, Option.bind_some, full]
      split
      · exact .intro realizes
      · have written : Written (some udpMsg) udpMsg := rfl
        obtain ⟨longer, appended, counted⟩ := stacked.reserve.append written
        obtain ⟨after, ran, kept⟩ := realizes.store here
          (Tells.intro (c := c.stack udpMsg) named chosen counted)
        simp only [ClientType.stack] at ran
        simp only [appended, Option.bind_some, ran]
        exact .intro kept

end Requests

/-! ## Stored datagrams -/

/-- The arrays of the server are laid out in this memory. -/
structure Heap.Memory.Pictures (memory : Heap.Memory) (s : Server) : Prop where
  pollVec : Realizes Written memory.pollVec s.pollVec
  clients : Realizes Tells memory.clients s.clients
  udpMsgs : Realizes Written memory.udpMsgs s.udpMsgs
  udpBlock : memory.udpBlock = s.udpBlock

theorem Server.reserveUdpMsgs_udpMsgs (s : Server) (kernel : Kernel) :
    (s.reserveUdpMsgs kernel).udpMsgs = s.udpMsgs.reserve := by
  unfold Server.reserveUdpMsgs Vec.reserve
  split <;> rfl

theorem Server.reserveUdpMsgs_udpBlock (s : Server) (kernel : Kernel) :
    (s.reserveUdpMsgs kernel).udpBlock =
      if s.udpMsgs.full && kernel.udpMsgs == .moves then s.udpBlock + 1 else s.udpBlock := by
  unfold Server.reserveUdpMsgs
  cases s.udpMsgs.full with
  | false => rfl
  | true => simp [Server.growUdpMsgs]

theorem Server.reserveUdpMsgs_rest (s : Server) (kernel : Kernel) :
    (s.reserveUdpMsgs kernel).pollVec = s.pollVec ∧
      (s.reserveUdpMsgs kernel).clients = s.clients ∧
      (s.reserveUdpMsgs kernel).udpAddrClient = s.udpAddrClient ∧
      (s.reserveUdpMsgs kernel).buf = s.buf := by
  unfold Server.reserveUdpMsgs
  split <;> exact ⟨rfl, rfl, rfl, rfl⟩

/-- The growth of the stored datagrams, after which there may be writes behind them. -/
theorem Heap.Memory.Pictures.reserved {memory : Heap.Memory} {s : Server}
    (pictures : memory.Pictures s) (kernel : Kernel) {udpMsgs : Growable (Option UdpType)}
    (kept : Realizes Written udpMsgs s.udpMsgs.reserve) :
    Heap.Memory.Pictures
      { memory with
        udpMsgs := udpMsgs
        udpBlock :=
          if s.udpMsgs.full && kernel.udpMsgs == .moves then memory.udpBlock + 1
          else memory.udpBlock }
      (s.reserveUdpMsgs kernel) := by
  obtain ⟨pollVec, clients, _, _⟩ := s.reserveUdpMsgs_rest kernel
  refine ⟨?_, ?_, ?_, ?_⟩
  · rw [pollVec]
    exact pictures.pollVec
  · rw [clients]
    exact pictures.clients
  · rw [s.reserveUdpMsgs_udpMsgs]
    exact kept
  · rw [s.reserveUdpMsgs_udpBlock, pictures.udpBlock]

theorem addServerUdpMsg_mirrors {memory : Heap.Memory} {s : Server}
    (pictures : memory.Pictures s) (kernel : Kernel) :
    Mirrors Heap.Memory.Pictures
      (Heap.addServerUdpMsg kernel.udpMsgs s.udpAddrClient s.buf memory)
      (addServerUdpMsg kernel s) := by
  have reserved := pictures.udpMsgs.reserve
  have stored := Growable.store_len reserved.room (some Heap.zeroUdpType)
  have cleared := reserved.put (some Heap.zeroUdpType)
  have filled (msg : UdpType) := Growable.store_len cleared.room (some msg)
  obtain ⟨_, _, addr, buf⟩ := s.reserveUdpMsgs_rest kernel
  unfold Heap.addServerUdpMsg addServerUdpMsg
  rw [pictures.udpMsgs.full]
  split
  · exact .intro pictures
  · simp only [Option.bind_eq_bind, stored, filled, Option.bind_some, addr, buf]
    generalize parseUdpTypeFrom s.udpAddrClient s.buf.bytes = parsed
    have grown := pictures.reserved kernel (cleared.put (some parsed.2))
    split
    · exact .intro grown
    · rw [← s.udpMsgs.reserve_reserve, ← s.reserveUdpMsgs_udpMsgs kernel] at cleared
      exact .intro { grown with udpMsgs := cleared.count (x := parsed.2) rfl }

end TopicBroker
