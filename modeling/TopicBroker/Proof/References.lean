import TopicBroker.Proof.Survival

/-!
# Pending references

A queue holds pointers into the array of stored messages, and the array may be
moved when it grows. The pointers stay good exactly as long as the block is not
moved while one of them is pending.
-/

namespace TopicBroker

/-! ## Scripts -/

/-- The rounds of a script one after another, each with its entry and its
kernel, as long as none fails. -/
def play : List (Nat × Kernel) → Server → Option (List Event × Server)
  | [], s => some ([], s)
  | (iter, kernel) :: rest, s =>
      if 1 ≤ iter ∧ iter < s.pollVec.nfds ∧ (serve kernel iter s).err = .ok then
        (play rest (serve kernel iter s).server).map fun done =>
          ((serve kernel iter s).log ++ done.1, done.2)
      else none

theorem play_run {allowed : Server → Nat → Kernel → Prop} {script : List (Nat × Kernel)}
    (granted : ∀ entry ∈ script, ∀ s, allowed s entry.1 entry.2) {s t : Server}
    {log : List Event} (played : play script s = some (log, t)) :
    (broker allowed).Run s log t := by
  induction script generalizing s log with
  | nil =>
      cases played
      exact .refl
  | cons entry rest ih =>
      rw [play] at played
      split at played
      · rename_i fine
        obtain ⟨done, later, eq⟩ := Option.map_eq_some_iff.mp played
        cases eq
        have edge : (broker allowed).step s (serve entry.2 entry.1 s).log
            (serve entry.2 entry.1 s).server :=
          BrokerStep.serve s entry.1 entry.2 fine.1 fine.2.1 (granted entry (by simp) s) fine.2.2
        exact (System.Run.single edge).trans
          (ih (fun other member => granted other (by simp [member])) later)
      · cases played

/-! ## The history of the queues -/

/-- Every queued message is still in the slot it was queued with, and every
pending pointer goes into the present block and was queued. -/
structure QueueHistory (log : List Event) (s : Server) : Prop where
  held : ∀ id source msg, Event.queued id source msg ∈ log →
    s.udpMsgs.elems[source.slot]? = some msg
  pending : ∀ c ∈ s.clients.elems, ∀ source ∈ c.readyMsgs.elems,
    source.block = s.udpBlock ∧ ∃ msg, Event.queued c.id source msg ∈ log

/-- Whatever is pending in the second table was pending in the first for the same id. -/
def Descends (before after : List ClientType) : Prop :=
  ∀ d ∈ after, ∀ source ∈ d.readyMsgs.elems,
    ∃ c ∈ before, c.id = d.id ∧ source ∈ c.readyMsgs.elems

theorem Descends.refl (clients : List ClientType) : Descends clients clients :=
  fun d member _ pending => ⟨d, member, rfl, pending⟩

theorem Descends.trans {first second third : List ClientType} (earlier : Descends first second)
    (later : Descends second third) : Descends first third := by
  intro e member source pending
  obtain ⟨d, middle, sameSecond, still⟩ := later e member source pending
  obtain ⟨c, old, sameFirst, before⟩ := earlier d middle source still
  exact ⟨c, old, sameFirst.trans sameSecond, before⟩

theorem Descends.set {clients : List ClientType} {index : Nat} {c d : ClientType}
    (here : clients[index]? = some c) (same : c.id = d.id)
    (fewer : ∀ source ∈ d.readyMsgs.elems, source ∈ c.readyMsgs.elems) :
    Descends clients (clients.set index d) := by
  intro e member source pending
  rcases mem_set_cases member with rfl | old
  · exact ⟨c, List.mem_of_getElem? here, same, fewer source pending⟩
  · exact ⟨e, old, rfl, pending⟩

theorem Registered.descends {clients after : ClientVec} {id : Bytes} {fd : Int}
    (enrolled : Registered clients id fd after) : Descends clients.elems after.elems := by
  cases enrolled with
  | again iter c here same dead => exact .set here rfl fun _ pending => pending
  | fresh absent =>
      intro d member source pending
      rcases List.mem_append.mp member with old | new
      · exact ⟨d, old, rfl, pending⟩
      · rw [List.mem_singleton.mp new] at pending
        cases pending

theorem Edited.descends {clients after : ClientVec} (edited : Edited clients after) :
    Descends clients.elems after.elems := by
  cases edited with
  | same => exact .refl _
  | table index c table here nodup => exact .set here rfl fun _ pending => pending

/-- A round that stores nothing and queues nothing keeps the history. -/
theorem QueueHistory.quiet {log more : List Event} {s t : Server} (history : QueueHistory log s)
    (sameMsgs : t.udpMsgs = s.udpMsgs) (sameBlock : t.udpBlock = s.udpBlock)
    (descends : Descends s.clients.elems t.clients.elems)
    (silent : ∀ id source msg, Event.queued id source msg ∉ more) :
    QueueHistory (log ++ more) t where
  held := by
    intro id source msg member
    rcases List.mem_append.mp member with old | new
    · rw [sameMsgs]
      exact history.held id source msg old
    · exact absurd new (silent id source msg)
  pending := by
    intro d member source pending
    obtain ⟨c, old, same, before⟩ := descends d member source pending
    obtain ⟨block, msg, queued⟩ := history.pending c old source before
    rw [sameBlock]
    exact ⟨block, msg, List.mem_append_left _ (same ▸ queued)⟩

theorem Resent.not_queued {s : Server} {c : ClientType} {fd : Int} {sources : List Ref}
    {log : List Event} (resent : Resent s c fd sources log) (id : Bytes) (source : Ref)
    (msg : UdpType) : Event.queued id source msg ∉ log := by
  induction resent with
  | nil => exact List.not_mem_nil
  | cons first _ ih =>
      obtain ⟨frame, rfl⟩ := first
      intro member
      rcases List.mem_cons.mp member with impossible | later
      · cases impossible
      · exact ih later

theorem mem_allNotices {kernel : Kernel} {s : Server} {source : Ref} {msg : UdpType} {iter : Nat}
    {clients : List ClientType} {event : Event} :
    event ∈ allNotices kernel s source msg iter clients ↔
      ∃ index c, clients[index]? = some c ∧
        event ∈ notices kernel s source msg (iter + index) c := by
  rw [allNotices_eq, mem_flatMap_zipIdx]

theorem queued_mem_notices {kernel : Kernel} {s : Server} {source other : Ref}
    {msg stored : UdpType} {iter : Nat} {c : ClientType} {id : Bytes} :
    Event.queued id other stored ∈ notices kernel s source msg iter c ↔
      c.keeps msg.name ∧ id = c.id ∧ other = source ∧ stored = msg := by
  unfold notices
  split
  · rename_i taken
    have unkept := ClientType.takes_excludes_keeps taken
    split <;> simp [unkept]
  · split
    · rename_i kept
      simp [kept]
    · rename_i unkept
      simp [unkept]

/-! ## The condition -/

/-- The round stores a datagram for which `realloc` moves the array. -/
def Moves (s : Server) (iter : Nat) (kernel : Kernel) : Prop :=
  s.pollVec.fds[iter]? = some s.udpSocket ∧ ¬ kernel.HearsEmpty ∧ s.udpMsgs.full = true ∧
    kernel.udpMsgs = .moves

/-- The array is not moved while a pointer into it is pending. -/
def keepsPending (s : Server) (iter : Nat) (kernel : Kernel) : Prop :=
  Moves s iter kernel → ∀ c ∈ s.clients.elems, c.readyMsgs.elems = []

theorem Heard.same {kernel : Kernel} {s r : Server} {log : List Event}
    (heard : Heard kernel s log r) :
    r.udpMsgs = s.udpMsgs ∧ r.udpBlock = s.udpBlock ∧ r.clients = s.clients := by
  cases heard with
  | failed answer => exact ⟨rfl, rfl, rfl⟩
  | datagram addr payload answer nonempty => exact ⟨rfl, rfl, rfl⟩

theorem Heard.not_empty {kernel : Kernel} {s r : Server} {log : List Event}
    (heard : Heard kernel s log r) : ¬ kernel.HearsEmpty := by
  rintro ⟨addr, empty⟩
  cases heard with
  | failed answer =>
      rw [empty] at answer
      cases answer
  | datagram addr payload answer nonempty =>
      rw [empty] at answer
      cases answer
      exact nonempty rfl

theorem Heard.not_queued {kernel : Kernel} {s r : Server} {log : List Event}
    (heard : Heard kernel s log r) (id : Bytes) (source : Ref) (msg : UdpType) :
    Event.queued id source msg ∉ log := by
  cases heard <;> simp

/-- A block that is not moved is the one the pointers go into. -/
theorem nextRef_block {kernel : Kernel} {r : Server}
    (stays : ¬ (r.udpMsgs.full = true ∧ kernel.udpMsgs = .moves)) :
    (r.nextRef kernel).block = r.udpBlock := by
  unfold Server.nextRef Server.reserveUdpMsgs
  dsimp only
  split
  · rename_i full
    have still : kernel.udpMsgs ≠ .moves := fun moves => stays ⟨full, moves⟩
    simp [Server.growUdpMsgs, still]
  · rfl

/-- The slot stays and the new pointers are those just logged. -/
theorem QueueHistory.published {log heardLog : List Event} {s r : Server} {kernel : Kernel}
    {iter : Nat} (history : QueueHistory log s) (atUdp : s.pollVec.fds[iter]? = some s.udpSocket)
    (heard : Heard kernel s heardLog r) (kept : keepsPending s iter kernel)
    {clients : ClientVec}
    (notified : clients.elems =
      r.clients.elems.map (ClientType.notified (r.nextRef kernel) r.parsed.name)) :
    QueueHistory
      (log ++ (heardLog ++
        allNotices kernel (r.stored kernel) (r.nextRef kernel) r.parsed 0 r.clients.elems))
      { r.stored kernel with clients := clients } := by
  obtain ⟨sameMsgs, sameBlock, sameClients⟩ := heard.same
  constructor
  · intro id source msg member
    change (r.stored kernel).udpMsgs.elems[source.slot]? = some msg
    rw [Server.stored_elems, sameMsgs]
    rcases List.mem_append.mp member with old | new
    · have before := history.held id source msg old
      obtain ⟨inside, _⟩ := List.getElem?_eq_some_iff.mp before
      rw [List.getElem?_append_left inside, before]
    · rcases List.mem_append.mp new with impossible | noticed
      · exact absurd impossible (heard.not_queued id source msg)
      · obtain ⟨index, c, _, noticed⟩ := mem_allNotices.mp noticed
        obtain ⟨_, _, rfl, rfl⟩ := queued_mem_notices.mp noticed
        simp [Server.nextRef, sameMsgs]
  · intro d member source pending
    change source.block = (r.nextRef kernel).block ∧ _
    rw [notified] at member
    obtain ⟨c, old, rfl⟩ := List.mem_map.mp member
    obtain ⟨index, here⟩ := List.mem_iff_getElem?.mp old
    have earlier : source ∈ c.readyMsgs.elems → source.block = (r.nextRef kernel).block ∧
        ∃ msg, Event.queued c.id source msg ∈ log ++ (heardLog ++ allNotices kernel
          (r.stored kernel) (r.nextRef kernel) r.parsed 0 r.clients.elems) := by
      intro before
      rw [sameClients] at old
      obtain ⟨block, msg, queued⟩ := history.pending c old source before
      have stays : ¬ (r.udpMsgs.full = true ∧ kernel.udpMsgs = .moves) := by
        rintro ⟨full, moves⟩
        rw [sameMsgs] at full
        rw [kept ⟨atUdp, heard.not_empty, full, moves⟩ c old] at before
        cases before
      rw [nextRef_block stays, sameBlock]
      exact ⟨block, msg, List.mem_append_left _ queued⟩
    unfold ClientType.notified at pending ⊢
    split at pending
    · rename_i keeps
      rw [if_pos keeps]
      rcases List.mem_append.mp pending with before | new
      · exact earlier before
      · rw [List.mem_singleton.mp new]
        refine ⟨rfl, r.parsed, List.mem_append_right _ (List.mem_append_right _ ?_)⟩
        exact mem_allNotices.mpr ⟨index, c, here, queued_mem_notices.mpr ⟨keeps, rfl, rfl, rfl⟩⟩
    · rename_i ignored
      rw [if_neg ignored]
      exact earlier pending

theorem QueueHistory.round {log more : List Event} {s t : Server} {kernel : Kernel} {iter : Nat}
    (history : QueueHistory log s) (kept : keepsPending s iter kernel)
    (ran : Round kernel iter s more t) : QueueHistory (log ++ more) t := by
  cases ran with
  | idle recvMsg => exact history.quiet rfl rfl (.refl _) (by simp)
  | emptied addr payload atUdp answer empty => exact history.quiet rfl rfl (.refl _) (by simp)
  | published heard r clients atUdp received room known notified =>
      exact history.published atUdp received kept notified
  | rejected recvMsg pollVec clients samePoll sameClients =>
      exact history.quiet rfl rfl (sameClients ▸ .refl _) (by simp)
  | registered id fd recvMsg sendMsg clients index c kept left log positive unopened enrolled
      found shorter complete resent =>
      refine history.quiet rfl rfl (enrolled.descends.trans ?_) resent.not_queued
      exact .set (locate_eq_some found).1 rfl fun _ front => List.mem_of_mem_take front
  | disconnected fd recvMsg index c atFd notUdp notTcp here owner active =>
      exact history.quiet rfl rfl (.set here rfl fun _ pending => pending) (by simp)
  | requested recvMsg clients edited => exact history.quiet rfl rfl edited.descends (by simp)

/-! ## Pointers into the present block -/

/-- The pointer designates a slot of the present block, and the slot holds the
message that was being published when the pointer was queued. -/
structure GoodReference (log : List Event) (s : Server) (id : Bytes) (source : Ref) : Prop where
  block : source.block = s.udpBlock
  slot : source.slot < s.udpMsgs.elems.length
  queued : ∃ msg, Event.queued id source msg ∈ log
  held : ∀ msg, Event.queued id source msg ∈ log → s.stored? source = some msg
  packed : ∀ msg, Event.queued id source msg ∈ log → ∀ kernel, s.deref kernel source = msg

/-- All pending pointers are good. -/
def PendingGood (log : List Event) (s : Server) : Prop :=
  ∀ c ∈ s.clients.elems, ∀ source ∈ c.readyMsgs.elems, GoodReference log s c.id source

theorem QueueHistory.pendingGood {log : List Event} {s : Server} (history : QueueHistory log s) :
    PendingGood log s := by
  intro c member source pending
  obtain ⟨block, msg, queued⟩ := history.pending c member source pending
  obtain ⟨slot, _⟩ := List.getElem?_eq_some_iff.mp (history.held c.id source msg queued)
  have held : ∀ msg, Event.queued c.id source msg ∈ log → s.stored? source = some msg := by
    intro other logged
    rw [Server.stored?, if_pos block]
    exact history.held c.id source other logged
  refine ⟨block, slot, ⟨msg, queued⟩, held, ?_⟩
  intro other logged kernel
  rw [Server.deref, held other logged, Option.getD_some]

theorem QueueHistory.of_run {allowed : Server → Nat → Kernel → Prop}
    (kept : ∀ s iter kernel, allowed s iter kernel → keepsPending s iter kernel)
    {first s : Server} {log : List Event} (start : (broker allowed).init first)
    (run : (broker allowed).Run first log s) : QueueHistory log s := by
  refine run.history ?_ ?_
  · obtain ⟨kernel, hport, started⟩ := start
    exact ⟨by simp, by simp [(initServer_fresh started).clients]⟩
  · intro log more s t history edge
    cases edge with
    | awake revents cmd => exact history.quiet rfl rfl (.refl _) (by simp)
    | serve iter kernel first inside granted ran =>
        exact history.round (kept _ _ _ granted) (serve_round ran)

/-- As long as no growth moves the array while a pointer is pending, every
pending pointer is good, however many messages were stored since. -/
theorem pending_references_good {first s : Server} {log : List Event}
    (start : (broker keepsPending).init first) (run : (broker keepsPending).Run first log s) :
    PendingGood log s :=
  (QueueHistory.of_run (fun _ _ _ kept => kept) start run).pendingGood

/-! ## A client that stays away -/

/-- A kernel that answers as told when the array of stored messages grows. -/
def Kernel.growing (growth : Realloc) : Kernel := { willing with udpMsgs := growth }

/-- So many messages about `news` arrive. -/
def arrivals (count : Nat) (growth : Realloc) : List (Nat × Kernel) :=
  List.replicate count (1, .growing growth)

/-- `C1` registers, subscribes to `news` with store-and-forward and leaves. -/
def departure : List (Nat × Kernel) :=
  [(2, .accepting 5 (.holding (ascii "C1"))),
    (3, .reading (.holding (ascii "subscribe" ++ [0] ++ ascii "news" ++ [0, 1]))),
    (3, .willing)]

/-- 19 messages arrive before `C1` comes and goes, and so many afterwards. -/
def absence (count : Nat) (growth : Realloc) : List (Nat × Kernel) :=
  arrivals 19 growth ++ departure ++ arrivals count growth

theorem absence_inPlace (count : Nat) :
    ∀ entry ∈ absence count .inPlace, entry.2.udpMsgs = .inPlace := by
  intro entry member
  simp only [absence, arrivals, departure, List.mem_append, List.mem_replicate, List.mem_cons,
    List.not_mem_nil, or_false] at member
  rcases member with (⟨_, rfl⟩ | rfl | rfl | rfl) | ⟨_, rfl⟩ <;> rfl

theorem pending_references_good_departed :
    ∃ log t, play (absence 1 .inPlace) .started = some (log, t) ∧
      (∃ c ∈ t.clients.elems, c.readyMsgs.elems ≠ []) ∧ PendingGood log t := by
  have waiting : (play (absence 1 .inPlace) .started).any (fun done =>
      decide (∃ c ∈ done.2.clients.elems, c.readyMsgs.elems ≠ [])) = true := by
    decide +kernel
  obtain ⟨⟨log, t⟩, played, pending⟩ := (Option.any_eq_true _ _).mp waiting
  refine ⟨log, t, played, of_decide_eq_true pending, ?_⟩
  refine pending_references_good ⟨_, _, initServer_started⟩ (play_run ?_ played)
  intro entry member s moves
  have moved := moves.2.2.2
  rw [absence_inPlace 1 entry member] at moved
  cases moved

/-- The message that fills the array up is followed by one that moves it. -/
theorem pending_references_dangle :
    ¬ ∀ (first s : Server) (log : List Event), (broker anyAnswer).init first →
      (broker anyAnswer).Run first log s → PendingGood log s := by
  intro always
  have dangling : (play (absence 2 .moves) .started).any (fun done =>
      done.2.clients.elems.any fun c =>
        c.readyMsgs.elems.any fun source => source.block != done.2.udpBlock) = true := by
    decide +kernel
  obtain ⟨⟨log, t⟩, played, bad⟩ := (Option.any_eq_true _ _).mp dangling
  have good := always .started t log ⟨_, _, initServer_started⟩
    (play_run (fun _ _ _ => trivial) played)
  obtain ⟨c, member, bad⟩ := List.any_eq_true.mp bad
  obtain ⟨source, pending, different⟩ := List.any_eq_true.mp bad
  have same := (good c member source pending).block
  simp [same] at different

end TopicBroker
