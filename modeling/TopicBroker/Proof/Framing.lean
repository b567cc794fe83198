import TopicBroker.Lib.Stream
import TopicBroker.Model.TcpType

/-!
# Frames over a stream

The two loops of `tcp_type` between the ends of one stream. However the calls
of either side cut the bytes, the frames come out as they went in.
-/

namespace TopicBroker

universe u v

variable {σ : Type u} {τ : Type v} {size : Nat}

/-! ## The loops as they run -/

/-- The loop of `send_tcp_msg` comes to its end from an offset. -/
inductive SendRun (send : SendCall σ) (buf : Bytes) : Nat → σ → Err × σ → Prop where
  | done {bytesSend : Nat} {kernel : σ} (all : ¬ bytesSend < buf.length) :
      SendRun send buf bytesSend kernel (.ok, kernel)
  | failed {bytesSend : Nat} {kernel : σ} (more : bytesSend < buf.length)
      (closed : (send kernel (buf.drop bytesSend)).1 ≤ 0) :
      SendRun send buf bytesSend kernel
        (.tcpFailedSendRecv, (send kernel (buf.drop bytesSend)).2)
  | moved {bytesSend : Nat} {kernel : σ} {ended : Err × σ} (more : bytesSend < buf.length)
      (alive : ¬ (send kernel (buf.drop bytesSend)).1 ≤ 0)
      (rest : SendRun send buf (bytesSend + (send kernel (buf.drop bytesSend)).1.toNat)
        (send kernel (buf.drop bytesSend)).2 ended) :
      SendRun send buf bytesSend kernel ended

/-- The loop of `recv_tcp_msg` comes to its end from an offset. -/
inductive RecvRun (recv : RecvCall σ) :
    Nat → Buffer size → σ → Err × Buffer size × σ → Prop where
  | done {bytesSend : Nat} {buf : Buffer size} {kernel : σ} (all : ¬ bytesSend < size) :
      RecvRun recv bytesSend buf kernel (.ok, buf, kernel)
  | failed {bytesSend : Nat} {buf : Buffer size} {kernel : σ} (more : bytesSend < size)
      (closed : (recv kernel (size - bytesSend)).1 = []) :
      RecvRun recv bytesSend buf kernel
        (.tcpFailedSendRecv, buf, (recv kernel (size - bytesSend)).2)
  | moved {bytesSend : Nat} {buf : Buffer size} {kernel : σ} {ended : Err × Buffer size × σ}
      (more : bytesSend < size) (alive : (recv kernel (size - bytesSend)).1 ≠ [])
      (rest : RecvRun recv (bytesSend + (recv kernel (size - bytesSend)).1.length)
        (buf.splice bytesSend (recv kernel (size - bytesSend)).1)
        (recv kernel (size - bytesSend)).2 ended) :
      RecvRun recv bytesSend buf kernel ended

/-- A call that does not end the loop moves a byte, so the rounds of the model are enough. -/
theorem sendLoop_run (send : SendCall σ) (buf : Bytes) {rounds bytesSend : Nat}
    (enough : buf.length ≤ bytesSend + rounds) (kernel : σ) :
    SendRun send buf bytesSend kernel (sendLoop send buf rounds bytesSend kernel) := by
  induction rounds generalizing bytesSend kernel with
  | zero => exact .done (by omega)
  | succ rounds ih =>
      rw [sendLoop]
      split
      · rename_i more
        dsimp only
        split
        · rename_i closed
          exact .failed more closed
        · rename_i positive
          exact .moved more positive (ih (by omega) _)
      · rename_i all
        exact .done all

theorem recvLoop_run (recv : RecvCall σ) {rounds bytesSend : Nat}
    (enough : size ≤ bytesSend + rounds) (buf : Buffer size) (kernel : σ) :
    RecvRun recv bytesSend buf kernel (recvLoop recv rounds bytesSend buf kernel) := by
  induction rounds generalizing bytesSend buf kernel with
  | zero => exact .done (by omega)
  | succ rounds ih =>
      rw [recvLoop]
      split
      · rename_i more
        dsimp only
        split
        · rename_i closed
          exact .failed more closed
        · rename_i nonempty
          have positive := List.length_pos_of_ne_nil nonempty
          exact .moved more nonempty (ih (by omega) _ _)
      · rename_i all
        exact .done all

/-! ## One frame -/

/-- From an offset on the loop puts the rest of the buffer on the wire. -/
theorem sendLoop_wire (out : Outlet σ) (buf : Bytes) {rounds bytesSend : Nat}
    (enough : buf.length ≤ bytesSend + rounds) (kernel : σ) :
    (sendLoop out.put buf rounds bytesSend kernel).1 = .ok ∧
      out.wire (sendLoop out.put buf rounds bytesSend kernel).2 =
        out.wire kernel ++ buf.drop bytesSend := by
  induction rounds generalizing bytesSend kernel with
  | zero =>
      have nothing : buf.drop bytesSend = [] := List.drop_eq_nil_of_le (by omega)
      simp [sendLoop, nothing]
  | succ rounds ih =>
      rw [sendLoop]
      split
      · rename_i more
        have offer : buf.drop bytesSend ≠ [] := by
          rw [Ne, List.drop_eq_nil_iff]
          omega
        obtain ⟨count, positive, _, answer, wire⟩ := out.put_takes kernel _ offer
        have alive : ¬ (count : Int) ≤ 0 := by omega
        dsimp only
        rw [answer, if_neg alive, Int.toNat_natCast]
        obtain ⟨ok, later⟩ := ih (show buf.length ≤ bytesSend + count + rounds by omega)
          (out.put kernel (buf.drop bytesSend)).2
        refine ⟨ok, ?_⟩
        rw [later, wire, List.append_assoc, ← List.drop_drop, List.take_append_drop]
      · rename_i all
        rw [List.drop_eq_nil_of_le (by omega), List.append_nil]
        exact ⟨rfl, rfl⟩

/-- From an offset on the loop fills the rest of the buffer from the stream, if
that much is left. -/
theorem recvLoop_whole (inn : Inlet σ) {rounds bytesSend : Nat}
    (enough : size ≤ bytesSend + rounds) (buf : Buffer size) (kernel : σ)
    (inside : bytesSend ≤ size) (more : size - bytesSend ≤ (inn.left kernel).length) :
    let done := recvLoop inn.get rounds bytesSend buf kernel
    done.1 = .ok ∧
      done.2.1.bytes = buf.bytes.take bytesSend ++ (inn.left kernel).take (size - bytesSend) ∧
      inn.left done.2.2 = (inn.left kernel).drop (size - bytesSend) := by
  induction rounds generalizing bytesSend buf kernel with
  | zero =>
      have full : size - bytesSend = 0 := by omega
      have length := buf.length_eq
      simp [recvLoop, full, List.take_of_length_le (show buf.bytes.length ≤ bytesSend by omega)]
  | succ rounds ih =>
      have length := buf.length_eq
      rw [recvLoop]
      split
      · rename_i room
        have splits := inn.get_splits kernel (size - bytesSend)
        have fits := inn.get_length kernel (size - bytesSend)
        have nonempty : (inn.get kernel (size - bytesSend)).1 ≠ [] := by
          intro nothing
          rw [inn.get_empty _ _ (by omega) nothing, List.length_nil] at more
          omega
        dsimp only
        rw [if_neg nonempty]
        have positive := List.length_pos_of_ne_nil nonempty
        generalize inn.get kernel (size - bytesSend) = answer at *
        have behind : size - (bytesSend + answer.1.length) =
            size - bytesSend - answer.1.length := by omega
        have total := congrArg List.length splits
        rw [List.length_append] at total
        obtain ⟨ok, bytes, rest⟩ := ih (show size ≤ bytesSend + answer.1.length + rounds by omega)
          (buf.splice bytesSend answer.1) answer.2 (by omega) (by omega)
        refine ⟨ok, ?_, ?_⟩
        · rw [bytes, ← splits, behind, List.take_append,
            List.take_of_length_le (show answer.1.length ≤ size - bytesSend by omega),
            Buffer.splice_bytes buf (by omega), ← List.append_assoc]
          congr 1
          exact List.take_left' (by simp; omega)
        · rw [rest, ← splits, behind, List.drop_append,
            List.drop_eq_nil_of_le (show answer.1.length ≤ size - bytesSend by omega),
            List.nil_append]
      · rename_i full
        have none_left : size - bytesSend = 0 := by omega
        simp [none_left, List.take_of_length_le (show buf.bytes.length ≤ bytesSend by omega)]

/-- With less left in the stream the loop fails. -/
theorem recvLoop_torn (inn : Inlet σ) {rounds bytesSend : Nat}
    (enough : size ≤ bytesSend + rounds) (buf : Buffer size) {kernel : σ}
    (less : (inn.left kernel).length < size - bytesSend) :
    (recvLoop inn.get rounds bytesSend buf kernel).1 = .tcpFailedSendRecv := by
  induction rounds generalizing bytesSend buf kernel with
  | zero => omega
  | succ rounds ih =>
      rw [recvLoop, if_pos (by omega)]
      dsimp only
      split
      · rfl
      · rename_i nonempty
        have positive := List.length_pos_of_ne_nil nonempty
        have total := congrArg List.length (inn.get_splits kernel (size - bytesSend))
        rw [List.length_append] at total
        exact ih (by omega) _ (by omega)

theorem sendTcpMsg_wire (out : Outlet σ) {tcpSocket : Int} (valid : 0 ≤ tcpSocket)
    (positive : 0 < size) (msg : Buffer size) (kernel : σ) :
    (sendTcpMsg out.put tcpSocket msg.bytes kernel).1 = .ok ∧
      out.wire (sendTcpMsg out.put tcpSocket msg.bytes kernel).2 =
        out.wire kernel ++ msg.bytes := by
  have length := msg.length_eq
  rw [sendTcpMsg, if_neg (by omega), if_neg (by omega)]
  exact sendLoop_wire out msg.bytes (show msg.bytes.length ≤ 0 + msg.bytes.length by omega) kernel

theorem recvTcpMsg_loop (recv : RecvCall σ) {tcpSocket : Int} (valid : 0 ≤ tcpSocket)
    (positive : 0 < size) (buf : Buffer size) (kernel : σ) :
    recvTcpMsg recv tcpSocket buf kernel = recvLoop recv size 0 buf kernel := by
  rw [recvTcpMsg, if_neg (by omega), if_neg (by omega)]

/-- A frame in front of the stream is delivered whatever the buffer held. -/
theorem recvTcpMsg_whole (inn : Inlet σ) {tcpSocket : Int} (valid : 0 ≤ tcpSocket)
    (positive : 0 < size) (buf : Buffer size) {kernel : σ} {msg : Buffer size} {rest : Bytes}
    (left : inn.left kernel = msg.bytes ++ rest) :
    ∃ reached, recvTcpMsg inn.get tcpSocket buf kernel = (.ok, msg, reached) ∧
      inn.left reached = rest := by
  have length := msg.length_eq
  obtain ⟨ok, bytes, behind⟩ := recvLoop_whole inn (show size ≤ 0 + size by omega) buf kernel
    (Nat.zero_le size) (by rw [left]; simp; omega)
  rw [left, Nat.sub_zero, List.take_zero, List.nil_append, List.take_left' length] at bytes
  rw [left, Nat.sub_zero, List.drop_left' length] at behind
  rw [recvTcpMsg_loop _ valid positive]
  exact ⟨_, Prod.ext ok (Prod.ext (Buffer.ext_bytes bytes) rfl), behind⟩

/-! ## Successive frames -/

/-- Successive `send_tcp_msg` calls and what they return. -/
def sendTcpMsgs (send : SendCall σ) (tcpSocket : Int) : List (Buffer size) → σ → List Err × σ
  | [], kernel => ([], kernel)
  | msg :: msgs, kernel =>
      let sent := sendTcpMsg send tcpSocket msg.bytes kernel
      let later := sendTcpMsgs send tcpSocket msgs sent.2
      (sent.1 :: later.1, later.2)

/-- Successive `recv_tcp_msg` calls into one buffer, what they return and what
the buffer holds after each. -/
def recvTcpMsgs (recv : RecvCall σ) (tcpSocket : Int) :
    Nat → Buffer size → σ → List (Err × Buffer size) × σ
  | 0, _, kernel => ([], kernel)
  | calls + 1, buf, kernel =>
      let received := recvTcpMsg recv tcpSocket buf kernel
      let later := recvTcpMsgs recv tcpSocket calls received.2.1 received.2.2
      ((received.1, received.2.1) :: later.1, later.2)

theorem sendTcpMsgs_wire (out : Outlet σ) {tcpSocket : Int} (valid : 0 ≤ tcpSocket)
    (positive : 0 < size) (msgs : List (Buffer size)) (kernel : σ) :
    (sendTcpMsgs out.put tcpSocket msgs kernel).1 = msgs.map (fun _ => Err.ok) ∧
      out.wire (sendTcpMsgs out.put tcpSocket msgs kernel).2 =
        out.wire kernel ++ joined msgs := by
  induction msgs generalizing kernel with
  | nil => simp [sendTcpMsgs, joined]
  | cons msg msgs ih =>
      obtain ⟨ok, wire⟩ := sendTcpMsg_wire out valid positive msg kernel
      obtain ⟨oks, later⟩ := ih (sendTcpMsg out.put tcpSocket msg.bytes kernel).2
      rw [sendTcpMsgs]
      exact ⟨by rw [ok, oks, List.map_cons],
        by rw [later, wire, joined_cons, List.append_assoc]⟩

/-- Whole frames in front of the stream are delivered one by one; the calls
after them find what lies behind. -/
theorem recvTcpMsgs_whole (inn : Inlet σ) {tcpSocket : Int} (valid : 0 ≤ tcpSocket)
    (positive : 0 < size) (msgs : List (Buffer size)) (calls : Nat) (buf : Buffer size)
    {kernel : σ} {rest : Bytes} (left : inn.left kernel = joined msgs ++ rest) :
    ∃ (later : Buffer size) (reached : σ), inn.left reached = rest ∧
      recvTcpMsgs inn.get tcpSocket (msgs.length + calls) buf kernel =
        (msgs.map (Prod.mk Err.ok) ++ (recvTcpMsgs inn.get tcpSocket calls later reached).1,
          (recvTcpMsgs inn.get tcpSocket calls later reached).2) := by
  induction msgs generalizing buf kernel with
  | nil => exact ⟨buf, kernel, left, by simp⟩
  | cons msg msgs ih =>
      rw [joined_cons, List.append_assoc] at left
      obtain ⟨middle, received, behind⟩ := recvTcpMsg_whole inn valid positive buf left
      obtain ⟨later, reached, rest_left, delivered⟩ := ih msg behind
      refine ⟨later, reached, rest_left, ?_⟩
      rw [List.length_cons, Nat.add_right_comm, recvTcpMsgs, received]
      dsimp only
      rw [delivered]
      rfl

/-! ## From end to end -/

/-- What the two loops make of a list of frames: the wire holds exactly the
frames; a stream that brings all of it delivers exactly them, one that ends or
fails earlier delivers the whole ones in front and then reports the failure;
and every call comes to its end. -/
structure FramesCross (out : Outlet σ) (inn : Inlet τ) (tcpSocket peerSocket : Int)
    (msgs : List (Buffer size)) (before : σ) (past : Buffer size) (arrived : τ)
    (length : Nat) : Prop where
  sent : (sendTcpMsgs out.put tcpSocket msgs before).1 = msgs.map fun _ => Err.ok
  wire : out.taken before (sendTcpMsgs out.put tcpSocket msgs before).2 = joined msgs
  whole : size * msgs.length ≤ length →
    (recvTcpMsgs inn.get peerSocket msgs.length past arrived).1 = msgs.map (Prod.mk Err.ok) ∧
      inn.left (recvTcpMsgs inn.get peerSocket msgs.length past arrived).2 = []
  torn : length < size * msgs.length →
    ∃ rest, (recvTcpMsgs inn.get peerSocket (length / size + 1) past arrived).1 =
      (msgs.take (length / size)).map (Prod.mk Err.ok) ++ [(.tcpFailedSendRecv, rest)]
  send_ends : ∀ (msg : Buffer size) (kernel : σ), SendRun out.put msg.bytes 0 kernel
    (sendTcpMsg out.put tcpSocket msg.bytes kernel)
  recv_ends : ∀ (buf : Buffer size) (kernel : τ), RecvRun inn.get 0 buf kernel
    (recvTcpMsg inn.get peerSocket buf kernel)

/-- Frames cross a stream unchanged, whatever the calls of either side move at a time. -/
theorem frames_cross (out : Outlet σ) (inn : Inlet τ) {tcpSocket peerSocket : Int}
    (valid : 0 ≤ tcpSocket) (peer : 0 ≤ peerSocket) (msgs : List (Buffer sizeofTcpMsg))
    (before : σ) (past : Buffer sizeofTcpMsg) {arrived : τ} {length : Nat}
    (stream : inn.left arrived =
      (out.taken before (sendTcpMsgs out.put tcpSocket msgs before).2).take length) :
    FramesCross out inn tcpSocket peerSocket msgs before past arrived length := by
  have positive : 0 < sizeofTcpMsg := by decide
  obtain ⟨sent, wire⟩ := sendTcpMsgs_wire out valid positive msgs before
  have taken : out.taken before (sendTcpMsgs out.put tcpSocket msgs before).2 = joined msgs := by
    rw [Outlet.taken, wire, List.drop_left]
  rw [taken] at stream
  refine ⟨sent, taken, ?_, ?_, ?_, ?_⟩
  · intro all
    have complete : inn.left arrived = joined msgs ++ [] := by
      rw [stream, List.append_nil, List.take_of_length_le (by rw [joined_length]; exact all)]
    obtain ⟨later, reached, ended, delivered⟩ :=
      recvTcpMsgs_whole inn peer positive msgs 0 past complete
    rw [Nat.add_zero] at delivered
    rw [delivered]
    exact ⟨List.append_nil _, ended⟩
  · intro short
    obtain ⟨torn, front, less⟩ := joined_take positive msgs (Nat.le_of_lt short)
    have count : (msgs.take (length / sizeofTcpMsg)).length = length / sizeofTcpMsg := by
      rw [List.length_take, Nat.min_eq_left (Nat.div_le_of_le_mul (Nat.le_of_lt short))]
    obtain ⟨later, reached, ended, delivered⟩ :=
      recvTcpMsgs_whole inn peer positive _ 1 past (stream.trans front)
    have failed : (recvTcpMsg inn.get peerSocket later reached).1 = .tcpFailedSendRecv := by
      rw [recvTcpMsg_loop _ peer positive]
      exact recvLoop_torn inn (Nat.le_of_eq (Nat.zero_add _).symm) later
        (by rw [ended, Nat.sub_zero]; exact less)
    rw [count] at delivered
    refine ⟨(recvTcpMsg inn.get peerSocket later reached).2.1, ?_⟩
    rw [delivered, ← failed]
    rfl
  · intro msg kernel
    have length := msg.length_eq
    rw [sendTcpMsg, if_neg (by omega), if_neg (by omega)]
    exact sendLoop_run _ _ (Nat.le_of_eq (Nat.zero_add _).symm) _
  · intro buf kernel
    rw [recvTcpMsg_loop _ peer positive]
    exact recvLoop_run _ (Nat.le_of_eq (Nat.zero_add _).symm) _ _

/-- What is taken in pieces of 700 bytes when two frames are sent. -/
def twoFrames : Bytes :=
  let out := Outlet.sliced fun _ => 699
  out.taken (0, []) (sendTcpMsgs out.put 5 [TcpMsg.zero.toBuffer, TcpMsg.zero.toBuffer] (0, [])).2

/-- 3000 bytes of two frames arrive in pieces of 900. -/
theorem frames_cross_pieces :
    FramesCross (.sliced fun _ => 699) (.sliced fun _ => 899) 5 6
      [TcpMsg.zero.toBuffer, TcpMsg.zero.toBuffer] (0, []) (Buffer.zero sizeofTcpMsg)
      (0, twoFrames.take 3000) 3000 :=
  frames_cross _ _ (by decide) (by decide) _ _ _ (by simp only [Inlet.sliced, twoFrames])

end TopicBroker
