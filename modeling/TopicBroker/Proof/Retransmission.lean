import TopicBroker.Proof.References

/-!
# Interrupted retransmissions

A reconnection sends the queue of the client from its end. When a send fails
the loop writes the number of the remaining messages into the length and leaves,
and the assignment behind the loop writes zero over it.
-/

namespace TopicBroker

/-! ## How the loop ends -/

/-- The loop is left by a failed send exactly when it reaches one: all messages
from the end of the queue on can be packed, and the last send of them fails. -/
theorem retransmitLoop_sendFailed_iff (kernel : Kernel) (s : Server) (c : ClientType)
    (clientFd : Int) {count : Nat} (within : count ≤ c.readyMsgs.elems.length)
    (sendMsg : TcpMsg) :
    (∃ remaining,
        (retransmitLoop kernel s c clientFd count sendMsg).1 = .sendFailed remaining) ↔
      ∃ index < count, ¬ kernel.Delivers index clientFd ∧
        ∀ source ∈ (c.readyMsgs.elems.take count).drop index, (s.deref kernel source).Known := by
  induction count generalizing sendMsg with
  | zero =>
      constructor
      · rintro ⟨remaining, impossible⟩
        cases impossible
      · rintro ⟨index, impossible, _⟩
        omega
  | succ count ih =>
      obtain ⟨source, here⟩ : ∃ source, c.readyMsgs.elems[count]? = some source :=
        ⟨_, List.getElem?_eq_getElem within⟩
      have window : ∀ index ≤ count, (c.readyMsgs.elems.take (count + 1)).drop index =
          (c.readyMsgs.elems.take count).drop index ++ [source] := by
        intro index below
        rw [List.take_add_one, here, Option.toList_some, List.drop_append_of_le_length]
        rw [List.length_take]
        omega
      rw [retransmitLoop, here]
      dsimp only
      split
      · rename_i unpacked
        constructor
        · rintro ⟨remaining, impossible⟩
          cases impossible
        · rintro ⟨index, below, _, known⟩
          rw [window index (Nat.le_of_lt_succ below)] at known
          exact absurd ((packTopicToTcpMsg_ok_iff _ _).mpr (known source (by simp))) unpacked
      · rename_i packed
        have ready : (s.deref kernel source).Known :=
          (packTopicToTcpMsg_ok_iff _ _).mp (not_not.mp packed)
        split
        · rename_i failed
          refine ⟨fun _ => ⟨count, Nat.lt_succ_self _, mt (Kernel.delivers_iff _).mp failed, ?_⟩,
            fun _ => ⟨_, rfl⟩⟩
          intro other member
          rw [window count (Nat.le_refl _), List.drop_eq_nil_of_le (by simp),
            List.nil_append] at member
          rw [List.mem_singleton.mp member]
          exact ready
        · rename_i sent
          have delivers := (Kernel.delivers_iff _).mpr (not_not.mp sent)
          dsimp only
          rw [ih (Nat.le_of_lt within)]
          constructor
          · rintro ⟨index, below, fails, known⟩
            refine ⟨index, Nat.lt_succ_of_lt below, fails, ?_⟩
            intro other member
            rw [window index (Nat.le_of_lt below)] at member
            rcases List.mem_append.mp member with before | last
            · exact known other before
            · rw [List.mem_singleton.mp last]
              exact ready
          · rintro ⟨index, below, fails, known⟩
            have different : index ≠ count := by
              rintro rfl
              exact fails delivers
            refine ⟨index, by omega, fails, ?_⟩
            intro other member
            refine known other ?_
            rw [window index (Nat.le_of_lt_succ below)]
            exact List.mem_append_left _ member

theorem retransmitLoop_sendFailed_pos {kernel : Kernel} {s : Server} {c : ClientType}
    {clientFd : Int} {count remaining : Nat} {sendMsg : TcpMsg}
    (ended : (retransmitLoop kernel s c clientFd count sendMsg).1 = .sendFailed remaining) :
    0 < remaining := by
  induction count generalizing sendMsg with
  | zero => cases ended
  | succ count ih =>
      rw [retransmitLoop] at ended
      split at ended
      · cases ended
      · dsimp only at ended
        split at ended
        · cases ended
        · split at ended
          · cases ended
            exact Nat.succ_pos _
          · exact ih ended

/-! ## One reconnection -/

/-- The sources of the frames that went out, in the order of the log. -/
def sentSources (log : List Event) : List Ref :=
  log.filterMap fun event =>
    match event with
    | .sent _ _ source _ _ => some source
    | _ => none

theorem Resent.sources {s : Server} {c : ClientType} {fd : Int} {sources : List Ref}
    {log : List Event} (resent : Resent s c fd sources log) : sentSources log = sources := by
  induction resent with
  | nil => rfl
  | cons first _ ih =>
      obtain ⟨frame, rfl⟩ := first
      exact congrArg (_ :: ·) ih

/-- A call of `retransmit_topics_to_client` that finds the client. -/
structure Reconnection where
  kernel : Kernel
  clientFd : Int
  s : Server
  iter : Nat
  c : ClientType
  found : locate (fun c => c.fd == clientFd) s.clients.elems = some (iter, c)

namespace Reconnection

def pending (call : Reconnection) : List Ref := call.c.readyMsgs.elems

def outcome (call : Reconnection) : Outcome :=
  retransmitTopicsToClient call.kernel call.clientFd call.s

/-- What was completely sent, first to last. -/
def sent (call : Reconnection) : List Ref := sentSources call.outcome.log

/-- What is in the queue of the client after the call. -/
def kept (call : Reconnection) : List Ref :=
  (call.outcome.server.clients.elems[call.iter]?.map fun c => c.readyMsgs.elems).getD []

/-- The queue holds, in their order, exactly the pending messages that were not sent. -/
structure KeepsUnsent (call : Reconnection) : Prop where
  order : call.kept.Sublist call.pending
  parts : (call.sent ++ call.kept).Perm call.pending

/-- The loop reaches no send that fails. -/
def Uninterrupted (call : Reconnection) : Prop :=
  ∀ index < call.pending.length,
    (∀ source ∈ call.pending.drop index, (call.s.deref call.kernel source).Known) →
      call.kernel.Delivers index call.clientFd

/-- How the loop ended. -/
def ended (call : Reconnection) : RetransmitEnd :=
  (retransmitLoop call.kernel call.s call.c call.clientFd call.pending.length
    call.s.sendMsg).1

theorem ended_left_le (call : Reconnection) : call.ended.left ≤ call.pending.length :=
  (retransmitLoop_resent _ _ _ _ (Nat.le_refl _) _).1

theorem sent_eq (call : Reconnection) :
    call.sent = (call.pending.drop call.ended.left).reverse := by
  obtain ⟨_, resent⟩ := retransmitLoop_resent call.kernel call.s call.c call.clientFd
    (Nat.le_refl call.c.readyMsgs.elems.length) call.s.sendMsg
  rw [List.take_length] at resent
  rw [sent, outcome, (retransmitTopicsToClient_found call.found).2]
  exact resent.sources

theorem kept_eq (call : Reconnection) : call.kept = call.pending.take call.ended.kept := by
  obtain ⟨inside, _⟩ := List.getElem?_eq_some_iff.mp (locate_eq_some call.found).1
  rw [kept, outcome, (retransmitTopicsToClient_found call.found).1]
  dsimp only
  rw [Vec.set_elems, List.getElem?_set_self inside]
  rfl

theorem uninterrupted_iff (call : Reconnection) :
    call.Uninterrupted ↔ ¬ ∃ remaining, call.ended = .sendFailed remaining := by
  have reached := retransmitLoop_sendFailed_iff call.kernel call.s call.c call.clientFd
    (Nat.le_refl call.c.readyMsgs.elems.length) call.s.sendMsg
  rw [List.take_length] at reached
  constructor
  · intro free interrupted
    obtain ⟨index, below, fails, known⟩ := reached.mp interrupted
    exact fails (free index below known)
  · intro completes index below known
    by_contra fails
    exact completes (reached.mpr ⟨index, below, fails, known⟩)

/-- What was not sent is kept exactly when no send fails: a failed one empties the queue. -/
theorem keepsUnsent_iff (call : Reconnection) : call.KeepsUnsent ↔ call.Uninterrupted := by
  have below := call.ended_left_le
  rw [uninterrupted_iff]
  constructor
  · rintro ⟨_, parts⟩ ⟨remaining, interrupted⟩
    have positive := retransmitLoop_sendFailed_pos interrupted
    have total := parts.length_eq
    rw [sent_eq, kept_eq, interrupted, List.length_append, List.length_reverse, List.length_drop,
      List.length_take] at total
    rw [interrupted] at below
    simp only [RetransmitEnd.left, RetransmitEnd.kept] at below total
    omega
  · intro completes
    have same : call.ended.kept = call.ended.left := by
      cases ended : call.ended with
      | drained => rfl
      | packFailed err remaining => rfl
      | sendFailed remaining => exact absurd ⟨remaining, ended⟩ completes
    refine ⟨?_, ?_⟩
    · rw [kept_eq]
      exact List.take_sublist _ _
    · rw [sent_eq, kept_eq, same]
      have turned : ((call.pending.drop call.ended.left).reverse ++
          call.pending.take call.ended.left).Perm
            (call.pending.drop call.ended.left ++ call.pending.take call.ended.left) :=
        (List.reverse_perm _).append_right _
      have joined := turned.trans List.perm_append_comm
      rwa [List.take_append_drop] at joined

end Reconnection

/-! ## Any number of reconnections -/

/-- A reconnection, and what was queued for the client since the one before. -/
structure Visit extends Reconnection where
  arrivals : List Ref

/-- Each visit finds what the one before kept, and behind it what was queued since. -/
def Follows : List Ref → List Visit → Prop
  | _, [] => True
  | before, visit :: later =>
      visit.pending = before ++ visit.arrivals ∧ Follows visit.kept later

/-- What is in the queue after the visits. -/
def keptAfter : List Ref → List Visit → List Ref
  | before, [] => before
  | _, visit :: later => keptAfter visit.kept later

/-- After every visit the queue holds what was not sent, and over all visits
together every message is sent once or still in the queue. -/
structure NothingLost (before : List Ref) (visits : List Visit) : Prop where
  each : ∀ visit ∈ visits, visit.KeepsUnsent
  total : (visits.flatMap (fun visit => visit.sent) ++ keptAfter before visits).Perm
    (before ++ visits.flatMap Visit.arrivals)

theorem keptAfter_perm {before : List Ref} {visits : List Visit} (follows : Follows before visits)
    (each : ∀ visit ∈ visits, visit.KeepsUnsent) :
    (visits.flatMap (fun visit => visit.sent) ++ keptAfter before visits).Perm
      (before ++ visits.flatMap Visit.arrivals) := by
  induction visits generalizing before with
  | nil => simp [keptAfter]
  | cons visit later ih =>
      obtain ⟨pending, rest⟩ := follows
      have now := (each visit (by simp)).parts
      have after := ih rest fun other member => each other (by simp [member])
      have first : (visit.sent ++ (later.flatMap (fun visit => visit.sent) ++
          keptAfter visit.kept later)).Perm
            (visit.sent ++ visit.kept ++ later.flatMap Visit.arrivals) := by
        rw [List.append_assoc]
        exact after.append_left _
      have second : (visit.sent ++ visit.kept ++ later.flatMap Visit.arrivals).Perm
          (before ++ visit.arrivals ++ later.flatMap Visit.arrivals) := by
        rw [← pending]
        exact now.append_right _
      rw [List.flatMap_cons, List.flatMap_cons, keptAfter, List.append_assoc,
        ← List.append_assoc before]
      exact first.trans second

/-- Over any number of reconnections nothing is lost exactly when none of them reaches a
send that fails. -/
theorem nothing_lost_iff {before : List Ref} {visits : List Visit}
    (follows : Follows before visits) :
    NothingLost before visits ↔ ∀ visit ∈ visits, visit.Uninterrupted := by
  constructor
  · intro kept visit member
    exact visit.keepsUnsent_iff.mp (kept.each visit member)
  · intro free
    have each : ∀ visit ∈ visits, visit.KeepsUnsent := fun visit member =>
      visit.keepsUnsent_iff.mpr (free visit member)
    exact ⟨each, keptAfter_perm follows each⟩

/-- The log and the server after `C1` left and two messages about `news` were queued for it. -/
def waiting : List Event × Server :=
  (play (departure ++ arrivals 2 .inPlace) .started).get (by decide +kernel)

theorem play_waiting : play (departure ++ arrivals 2 .inPlace) .started = some waiting :=
  (Option.some_get _).symm

/-- `C1` comes back with descriptor 5. -/
def Server.returned : Server :=
  { waiting.2 with
    clients := (registerNewClient waiting.2.clients (ascii "C1") 5 .succeed).2 }

theorem Server.returned_found :
    (locate (fun c => c.fd == 5) Server.returned.clients.elems).isSome = true := by
  decide +kernel

/-- The first visit of the client with the descriptor. -/
def Visit.first (kernel : Kernel) (clientFd : Int) (s : Server)
    (found : (locate (fun c => c.fd == clientFd) s.clients.elems).isSome = true) : Visit where
  kernel := kernel
  clientFd := clientFd
  s := s
  iter := ((locate (fun c => c.fd == clientFd) s.clients.elems).get found).1
  c := ((locate (fun c => c.fd == clientFd) s.clients.elems).get found).2
  found := (Option.some_get found).symm
  arrivals :=
    ((locate (fun c => c.fd == clientFd) s.clients.elems).get found).2.readyMsgs.elems

theorem Visit.first_follows (kernel : Kernel) (clientFd : Int) (s : Server)
    (found : (locate (fun c => c.fd == clientFd) s.clients.elems).isSome = true) :
    Follows [] [Visit.first kernel clientFd s found] :=
  ⟨(List.nil_append _).symm, trivial⟩

/-- What is sent to `C1` then. -/
def returning (kernel : Kernel) : Visit := .first kernel 5 .returned Server.returned_found

theorem nothing_lost_iff_returning :
    NothingLost [] [returning .willing] ↔
      ∀ visit ∈ [returning .willing], visit.Uninterrupted :=
  nothing_lost_iff (Visit.first_follows _ _ _ _)

/-- The second frame cannot be sent. -/
def Kernel.faltering : Kernel :=
  { willing with send := fun frame _ offered => if frame = 0 then -1 else offered }

/-- The message whose send failed is not in the queue any more. -/
theorem unsent_lost :
    ¬ ∀ (before : List Ref) (visits : List Visit), Follows before visits →
      NothingLost before visits := by
  intro always
  have kept := always [] _ (Visit.first_follows .faltering 5 .returned Server.returned_found)
  have total := (kept.each _ (List.mem_singleton_self _)).parts.length_eq
  have lost : ((returning .faltering).sent ++ (returning .faltering).kept).length ≠
      (returning .faltering).pending.length := by
    decide +kernel
  exact lost total

end TopicBroker
