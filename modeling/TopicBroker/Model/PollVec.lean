import TopicBroker.Lib.Vec
import TopicBroker.Model.Utils

/-!
# `poll_vec`

The vector of polled descriptors. `realloc` answers are arguments: `grow` is
whether the call succeeds when the function makes it.
-/

namespace TopicBroker

def stdinFileno : Int := 0
def pollin : BitVec 16 := 1
def pollout : BitVec 16 := 4

structure PollFd where
  fd : Int
  events : BitVec 16
  revents : BitVec 16
  deriving DecidableEq

/-- The test `(revents & POLLIN) != 0`. -/
def PollFd.ready (entry : PollFd) : Bool := entry.revents &&& pollin != 0

abbrev PollVec := Vec PollFd

namespace PollVec

/-- `nfds`. -/
def nfds (vec : PollVec) : Nat := vec.elems.length

/-- The polled descriptors, in the order of the vector. -/
def fds (vec : PollVec) : List Int := vec.elems.map PollFd.fd

/-- What a `poll` call leaves behind: only the `revents` of each entry change. -/
def polled (vec : PollVec) (revents : Nat → BitVec 16) : PollVec :=
  vec.mapIdx fun index entry => { entry with revents := revents index }

theorem fds_polled (vec : PollVec) (revents : Nat → BitVec 16) :
    (vec.polled revents).fds = vec.fds := by
  apply List.ext_getElem?
  intro index
  simp only [fds, polled, Vec.mapIdx_elems, List.getElem?_map, List.getElem?_mapIdx]
  cases vec.elems[index]? <;> rfl

end PollVec

def pollVecAddFd (vec : PollVec) (fd : Int) (fdEvents : BitVec 16) (grow : Bool) :
    Err × PollVec :=
  if vec.full && !grow then (.pollVecFailedRealloc, vec)
  else (.ok, vec.push ⟨fd, fdEvents, 0⟩)

/-- The descriptor of the removed entry is closed, which no later read of this
state can see other than by its absence. -/
def pollVecRemoveFd (vec : PollVec) (fdIdx : Nat) : Err × PollVec :=
  if vec.nfds ≤ fdIdx then (.pollVecInputFdIdxOutOfBound, vec)
  else (.ok, vec.remove fdIdx)

theorem pollVecAddFd_ok {vec added : PollVec} {fd : Int} {fdEvents : BitVec 16} {grow : Bool}
    (ran : pollVecAddFd vec fd fdEvents grow = (.ok, added)) :
    added = vec.push ⟨fd, fdEvents, 0⟩ := by
  unfold pollVecAddFd at ran
  split at ran
  · cases ran
  · exact (Prod.mk.inj ran).2.symm

theorem pollVecAddFd_push {vec : PollVec} {fd : Int} {fdEvents : BitVec 16} {grow : Bool}
    (ran : (pollVecAddFd vec fd fdEvents grow).1 = .ok) :
    (pollVecAddFd vec fd fdEvents grow).2 = vec.push ⟨fd, fdEvents, 0⟩ :=
  pollVecAddFd_ok (Prod.ext ran rfl)

theorem pollVecRemoveFd_inside {vec : PollVec} {fdIdx : Nat} (inside : fdIdx < vec.nfds) :
    pollVecRemoveFd vec fdIdx = (.ok, vec.remove fdIdx) := by
  simp [pollVecRemoveFd, inside]

theorem PollVec.fds_push (vec : PollVec) (entry : PollFd) :
    PollVec.fds (vec.push entry) = vec.fds ++ [entry.fd] := by
  simp [PollVec.fds]

theorem PollVec.fds_remove (vec : PollVec) {fdIdx : Nat} (inside : fdIdx < vec.nfds) :
    PollVec.fds (vec.remove fdIdx) = vec.fds.eraseIdx fdIdx := by
  rw [PollVec.fds, Vec.remove_elems vec inside, ← List.eraseIdx_map]
  rfl

/-- Adding a descriptor and removing the last entry leaves the entries as they were. -/
theorem PollVec.elems_push_remove (vec : PollVec) (entry : PollFd) :
    ((vec.push entry).remove (PollVec.nfds (vec.push entry) - 1)).elems = vec.elems := by
  have last : PollVec.nfds (vec.push entry) - 1 = vec.elems.length := by simp [PollVec.nfds]
  rw [last, Vec.remove_elems _ (by simp), Vec.push_elems]
  simp [List.eraseIdx_append_of_length_le]

theorem PollVec.fds_push_remove (vec : PollVec) (entry : PollFd) :
    PollVec.fds ((vec.push entry).remove (PollVec.nfds (vec.push entry) - 1)) = vec.fds :=
  congrArg (List.map PollFd.fd) (vec.elems_push_remove entry)

end TopicBroker
