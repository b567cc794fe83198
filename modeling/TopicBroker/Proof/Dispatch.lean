import TopicBroker.Proof.Passes

/-!
# What a pass dispatches

The loop of a pass changes the vector it goes through: an entry is shifted out
where the pass stands, or appended at the end. Counting the entries examined
instead of the index shows what stays in place: behind the index lie the entries
that have not been examined, in their first order, and then those that were
added, none of which is ready.
-/

namespace TopicBroker

/-! ## The loop ends -/

/-- The rounds of a pass are its loop, cut off. -/
theorem processLoop_cutOff (kernels : Nat → Kernel) (rounds round iter : Nat) (s : Server)
    (log : List Event) :
    ((passWhile kernels).cutOff rounds ⟨round, iter, ⟨.ok, s, log⟩⟩).done =
      (processLoop kernels rounds round iter s).after log := by
  induction rounds generalizing round iter s log with
  | zero => simp [Loop.cutOff, processLoop, Outcome.after]
  | succ rounds ih =>
      rw [processLoop]
      cases here : s.pollVec.elems[iter]? with
      | none =>
          have beyond : ¬ (passWhile kernels).guard ⟨round, iter, ⟨.ok, s, log⟩⟩ := by
            rintro ⟨_, inside⟩
            exact Nat.not_le_of_lt inside (List.getElem?_eq_none_iff.mp here)
          rw [Loop.cutOff_ended beyond]
          simp [Outcome.after]
      | some entry =>
          obtain ⟨inside, _⟩ := List.getElem?_eq_some_iff.mp here
          rw [Loop.cutOff_round (passWhile kernels) ⟨rfl, inside⟩]
          dsimp only
          by_cases ready : entry.ready = true
          · rw [if_pos ready, passWhile_serve kernels here ready]
            by_cases ended : (serve (kernels round) iter s).err = .ok
            · rw [if_neg (not_not.mpr ended), Outcome.after_after, ← ih]
              dsimp only
              rw [Outcome.after, ended]
            · have returned : ¬ (passWhile kernels).guard
                  ⟨round + 1, if (serve (kernels round) iter s).removed then iter else iter + 1,
                    (serve (kernels round) iter s).toOutcome.after log⟩ := fun goes => ended goes.1
              rw [if_pos ended, Loop.cutOff_ended returned]
          · rw [if_neg ready, passWhile_skip kernels here ready]
            exact ih _ _ _ _

/-- A bound on the rounds that a pass has left. -/
def Pass.within (rounds : Nat) (pass : Pass) : Prop :=
  pass.done.err = .ok → pass.done.server.ahead pass.iter ≤ rounds

theorem passWhile_exits (kernels : Nat → Kernel) (s : Server) :
    ∃ passed last, (passWhile kernels).Exits (.start s) passed last ∧
      passed.length ≤ passRounds s.pollVec := by
  refine Loop.exits_within Pass.within ?_ ?_ ?_
  · rintro pass spent ⟨ran, inside⟩
    have nothing := spent ran
    unfold Server.ahead at nothing
    rw [List.length_drop] at nothing
    unfold PollVec.nfds at inside
    omega
  · rintro rounds pass left ⟨ran, inside⟩
    have before := left ran
    have here := List.getElem?_eq_getElem inside
    by_cases ready : (pass.done.server.pollVec.elems[pass.iter]).ready = true
    · intro ended
      rw [passWhile_serve kernels here ready] at ended ⊢
      have closer := (serve_repolled inside ended).ahead_lt here ready
      exact Nat.le_of_lt_succ (Nat.lt_of_lt_of_le closer before)
    · intro _
      rw [passWhile_skip kernels here ready]
      unfold Server.ahead at before ⊢
      rw [List.drop_eq_getElem_cons inside, List.length_cons, List.countP_cons] at before
      dsimp only
      omega
  · intro _
    have fewer := (List.drop_sublist 1 s.pollVec.elems).countP_le (p := PollFd.ready)
    have shorter := (List.drop_sublist 1 s.pollVec.elems).length_le
    change s.ahead 1 ≤ passRounds s.pollVec
    unfold Server.ahead passRounds PollVec.nfds
    omega

/-- The pass returns what its loop leaves behind. -/
theorem processReadyFds_exits {kernels : Nat → Kernel} {s : Server} {passed : List Pass}
    {last : Pass} (exits : (passWhile kernels).Exits (.start s) passed last)
    (enough : passed.length ≤ passRounds s.pollVec) : processReadyFds kernels s = last.done := by
  have cut := processLoop_cutOff kernels (passRounds s.pollVec) 0 1 s []
  rw [show (⟨0, 1, ⟨.ok, s, []⟩⟩ : Pass) = .start s from rfl, exits.cutOff enough] at cut
  rw [processReadyFds, cut]
  rfl

/-! ## Where a pass stands -/

theorem Server.dispatch_fd (s : Server) (entry : PollFd) : (s.dispatch entry).fd = entry.fd := by
  unfold dispatch
  split
  · rename_i atUdp
    exact atUdp.symm
  · split
    · rename_i atTcp
      exact atTcp.symm
    · rfl

theorem Server.serves_congr {s t : Server} (sameUdp : t.udpSocket = s.udpSocket)
    (sameTcp : t.tcpSocket = s.tcpSocket) (entry : PollFd) : t.serves entry = s.serves entry := by
  rw [serves, serves, dispatch, dispatch, sameUdp, sameTcp]

/-- The branch of the loop body that makes the call. -/
def Dispatch.branch (kernel : Kernel) (iter : Nat) (s : Server) : Dispatch → Served
  | .recvfrom _ => serveUdp kernel iter s
  | .accept _ => ⟨serveListener kernel s, false⟩
  | .recv fd => serveClient kernel iter fd s

theorem serve_dispatch {kernel : Kernel} {iter : Nat} {s : Server} {entry : PollFd}
    (here : s.pollVec.elems[iter]? = some entry) :
    serve kernel iter s = (s.dispatch entry).branch kernel iter s := by
  have atFd : s.pollVec.fds[iter]? = some entry.fd := by
    rw [PollVec.fds, List.getElem?_map, here]
    rfl
  rw [serve_at atFd, Server.dispatch]
  split
  · rfl
  · split <;> rfl

/-- `rest` are the entries of the first vector that have not been examined. They
lie behind the index, and behind them what was added. -/
structure Pass.Stands (s : Server) (rest : List PollFd) (pass : Pass) : Prop where
  first : 1 ≤ pass.iter
  sameUdp : pass.done.server.udpSocket = s.udpSocket
  sameTcp : pass.done.server.tcpSocket = s.tcpSocket
  ahead : ∃ added : List PollFd, (∀ entry ∈ added, entry.ready = false) ∧
    pass.done.server.pollVec.elems.drop pass.iter = rest ++ added

/-- The entry at the index is the next one of `rest`, or it was added. -/
theorem Pass.Stands.examined {s : Server} {rest : List PollFd} {pass : Pass}
    (stands : pass.Stands s rest) {entry : PollFd}
    (here : pass.done.server.pollVec.elems[pass.iter]? = some entry) :
    pass.dispatched = rest.head?.bind s.serves ∧
      ∃ added : List PollFd, (∀ later ∈ added, later.ready = false) ∧
        pass.done.server.pollVec.elems.drop (pass.iter + 1) = rest.tail ++ added := by
  obtain ⟨added, silent, ahead⟩ := stands.ahead
  obtain ⟨inside, rfl⟩ := List.getElem?_eq_some_iff.mp here
  rw [Pass.dispatched, here, Option.bind_some,
    Server.serves_congr stands.sameUdp stands.sameTcp]
  rw [List.drop_eq_getElem_cons inside] at ahead
  cases rest with
  | nil =>
      rw [List.nil_append] at ahead
      have quiet := silent _ (ahead ▸ List.mem_cons_self)
      refine ⟨?_, pass.done.server.pollVec.elems.drop (pass.iter + 1), ?_, rfl⟩
      · rw [Server.serves, quiet]
        rfl
      · exact fun later member => silent later (ahead ▸ List.mem_cons_of_mem _ member)
  | cons first rest =>
      obtain ⟨same, behind⟩ := List.cons.inj ahead
      refine ⟨?_, added, silent, behind⟩
      rw [same]
      rfl

/-- A round takes the first entry from `rest` and changes nothing in the others. -/
theorem Pass.Stands.next {kernels : Nat → Kernel} {s : Server} {rest : List PollFd} {pass : Pass}
    (stands : pass.Stands s rest) (goes : (passWhile kernels).guard pass)
    (ran : ((passWhile kernels).body pass).done.err = .ok) :
    ((passWhile kernels).body pass).Stands s rest.tail := by
  obtain ⟨_, inside⟩ := goes
  have here := List.getElem?_eq_getElem inside
  obtain ⟨_, added, silent, behind⟩ := stands.examined here
  have first := stands.first
  by_cases ready : (pass.done.server.pollVec.elems[pass.iter]).ready = true
  · rw [passWhile_serve kernels here ready] at ran ⊢
    obtain ⟨more, quiet, _, moved⟩ := (serve_repolled inside ran).behind inside
    obtain ⟨sameUdp, sameTcp⟩ := (serve_round ran).sockets
    refine ⟨?_, sameUdp.trans stands.sameUdp, sameTcp.trans stands.sameTcp, added ++ more, ?_, ?_⟩
    · dsimp only
      split <;> omega
    · intro entry member
      rcases List.mem_append.mp member with early | late
      · exact silent entry early
      · exact quiet entry late
    · rw [← List.append_assoc, ← behind]
      exact moved
  · rw [passWhile_skip kernels here ready]
    exact ⟨Nat.le_succ_of_le first, stands.sameUdp, stands.sameTcp, added, silent, behind⟩

/-! ## A whole pass -/

/-- An error is never taken back. -/
theorem passWhile_ran {kernels : Nat → Kernel} {first last : Pass} {passed : List Pass}
    (exits : (passWhile kernels).Exits first passed last) (ran : last.done.err = .ok) :
    first.done.err = .ok := by
  cases exits with
  | leave _ _ => exact ran
  | round _ goes _ => exact goes.1

/-- The rounds take the entries one by one, and further rounds find what was added. -/
theorem Pass.Stands.passed {kernels : Nat → Kernel} {s : Server} {first last : Pass}
    {passed : List Pass} (exits : (passWhile kernels).Exits first passed last)
    (ran : last.done.err = .ok) {rest : List PollFd} (stands : first.Stands s rest) :
    (∀ (count : Nat) (pass : Pass), passed[count]? = some pass → pass.Stands s (rest.drop count)) ∧
      ∃ more, passed.map Pass.dispatched = rest.map s.serves ++ List.replicate more none := by
  induction exits generalizing rest with
  | leave pass ended =>
      refine ⟨fun count pass absent => (by cases absent), 0, ?_⟩
      obtain ⟨added, _, ahead⟩ := stands.ahead
      have beyond : pass.done.server.pollVec.elems.length ≤ pass.iter :=
        Nat.le_of_not_lt fun inside => ended ⟨ran, inside⟩
      rw [List.drop_eq_nil_of_le beyond] at ahead
      obtain ⟨rfl, _⟩ := List.append_eq_nil_iff.mp ahead.symm
      rfl
  | round pass goes later ih =>
      obtain ⟨each, more, dispatched⟩ := ih ran (stands.next goes (passWhile_ran later ran))
      obtain ⟨now, _⟩ := stands.examined (List.getElem?_eq_getElem goes.2)
      constructor
      · intro count other there
        cases count with
        | zero =>
            cases there
            exact stands
        | succ count =>
            rw [← List.drop_tail]
            exact each count other there
      · rw [List.map_cons, now, dispatched]
        cases rest with
        | nil => exact ⟨more + 1, rfl⟩
        | cons entry rest => exact ⟨more, rfl⟩

/-- What the loop body makes of the outcome so far when it examines the entry at the index:
the outcome of the one branch it dispatches to, or nothing. -/
def Pass.outcome (kernels : Nat → Kernel) (pass : Pass) : Outcome :=
  match pass.dispatched with
  | some call =>
      (call.branch (kernels pass.round) pass.iter pass.done.server).toOutcome.after pass.done.log
  | none => pass.done

/-- The loop body executes what it dispatches. -/
theorem passWhile_body {kernels : Nat → Kernel} {pass : Pass}
    (goes : (passWhile kernels).guard pass) :
    ((passWhile kernels).body pass).round = pass.round + 1 ∧
      ((passWhile kernels).body pass).done = pass.outcome kernels := by
  obtain ⟨entry, here⟩ : ∃ entry, pass.done.server.pollVec.elems[pass.iter]? = some entry :=
    ⟨_, List.getElem?_eq_getElem goes.2⟩
  by_cases ready : entry.ready = true
  · have dispatched : pass.dispatched = some (pass.done.server.dispatch entry) := by
      rw [Pass.dispatched, here, Option.bind_some, Server.serves, if_pos ready]
    rw [passWhile_serve kernels here ready, Pass.outcome, dispatched, serve_dispatch here]
    exact ⟨rfl, rfl⟩
  · have dispatched : pass.dispatched = none := by
      rw [Pass.dispatched, here, Option.bind_some, Server.serves, if_neg ready]
    rw [passWhile_skip kernels here ready, Pass.outcome, dispatched]
    exact ⟨rfl, rfl⟩

/-- The loop passed through the given states and left in the last one. In each of
them it examines an entry behind standard input, and what lies behind the index
are the entries of the first vector that were not examined yet, followed by
entries that are not ready. What it dispatches are the ready entries of the first
vector, one after the other, each in the branch for its own descriptor, and what
it does between one state and the next is to execute that branch. -/
structure DispatchedOnce (kernels : Nat → Kernel) (s : Server) (passed : List Pass) (last : Pass) :
    Prop where
  index : ∀ pass ∈ passed, 1 ≤ pass.iter ∧ pass.iter < pass.done.server.pollVec.nfds
  aligned : ∀ (count : Nat) (pass : Pass), passed[count]? = some pass →
    ∃ added : List PollFd, (∀ entry ∈ added, entry.ready = false) ∧
      pass.done.server.pollVec.elems.drop pass.iter =
        s.pollVec.elems.drop (1 + count) ++ added
  own : ∀ pass ∈ passed, ∀ call, pass.dispatched = some call →
    pass.done.server.pollVec.fds[pass.iter]? = some call.fd ∧
      serve (kernels pass.round) pass.iter pass.done.server =
        call.branch (kernels pass.round) pass.iter pass.done.server
  once : ∃ more, passed.map Pass.dispatched =
    (s.pollVec.elems.drop 1).map s.serves ++ List.replicate more none
  executed : ∀ (count : Nat) (pass next : Pass), passed[count]? = some pass →
    (passed ++ [last])[count + 1]? = some next →
      next.round = pass.round + 1 ∧ next.done = pass.outcome kernels

/-- The pass ends, and when it returns `OK` it has served every ready entry once. -/
structure PassServes (kernels : Nat → Kernel) (s : Server) : Prop where
  ends : ∃ passed last, (passWhile kernels).Exits (.start s) passed last ∧
    processReadyFds kernels s = last.done
  once : ∀ passed last, (passWhile kernels).Exits (.start s) passed last →
    (processReadyFds kernels s).err = .ok → DispatchedOnce kernels s passed last

/-- Whatever the rounds do to the poll vector, a pass serves each ready descriptor
exactly once. -/
theorem pass_serves (kernels : Nat → Kernel) (s : Server) : PassServes kernels s := by
  obtain ⟨seen, left, exits, enough⟩ := passWhile_exits kernels s
  have returned := processReadyFds_exits exits enough
  constructor
  · exact ⟨seen, left, exits, returned⟩
  · intro passed last again ran
    obtain ⟨rfl, rfl⟩ := exits.unique again
    rw [returned] at ran
    have start : (Pass.start s).Stands s (s.pollVec.elems.drop 1) :=
      ⟨Nat.le_refl 1, rfl, rfl, [], fun _ absent => absurd absent List.not_mem_nil,
        (List.append_nil _).symm⟩
    obtain ⟨each, once⟩ := start.passed exits ran
    have goes : ∀ pass ∈ passed, (passWhile kernels).guard pass := fun pass member =>
      ((exits.invariant (I := fun _ => True) trivial fun _ _ _ => trivial).1 pass member).2
    refine ⟨?_, ?_, ?_, once, ?_⟩
    · intro pass member
      obtain ⟨count, there⟩ := List.mem_iff_getElem?.mp member
      exact ⟨(each count pass there).first, (goes pass member).2⟩
    · intro count pass there
      rw [← List.drop_drop]
      exact (each count pass there).ahead
    · intro pass member call dispatched
      have here := List.getElem?_eq_getElem (goes pass member).2
      rw [Pass.dispatched, here, Option.bind_some, Server.serves] at dispatched
      split at dispatched
      · cases dispatched
        rw [Server.dispatch_fd, PollVec.fds, List.getElem?_map, here]
        exact ⟨rfl, serve_dispatch here⟩
      · cases dispatched
    · intro count pass next here behind
      obtain ⟨guarded, rfl⟩ := exits.next here behind
      exact passWhile_body guarded

end TopicBroker
