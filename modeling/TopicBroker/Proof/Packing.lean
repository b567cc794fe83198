import TopicBroker.Model.Server

/-!
# The published line

The two `snprintf` calls write one C string. The first part is short, so the
second ends the string inside the frame and nothing that stood in the frame
before can be seen through it.
-/

namespace TopicBroker

theorem inetNtoa_length_le (addr : Buffer sizeofSockaddrIn) : (inetNtoa addr).length ≤ 15 := by
  have octet : ∀ byte : UInt8, (decimal byte.toNat).length ≤ 3 := fun byte =>
    decimal_length_le (by decide) (Nat.lt_trans byte.toNat_lt (by decide))
  have dot : (ascii ".").length = 1 := by decide
  have first := octet (byteAt addr.bytes (4 + 0))
  have second := octet (byteAt addr.bytes (4 + 1))
  have third := octet (byteAt addr.bytes (4 + 2))
  have fourth := octet (byteAt addr.bytes (4 + 3))
  simp only [inetNtoa, List.length_append, dot]
  omega

/-- The address, the port and the topic. -/
theorem packedHead_length_le (msg : UdpType) : (packedHead msg).length ≤ 77 := by
  have addr := inetNtoa_length_le msg.addr
  have port : (decimal (sinPort msg.addr).toNat).length ≤ 5 :=
    decimal_length_le (by decide) (Nat.lt_of_lt_of_le (sinPort msg.addr).toNat_lt (by decide))
  have name : msg.name.length ≤ 51 :=
    Nat.le_trans (cstr_length_le _) (Nat.le_of_eq msg.topic.length_eq)
  have colon : (ascii ":").length = 1 := by decide
  have dash : (ascii " - ").length = 3 := by decide
  have last : (ascii " -").length = 2 := by decide
  simp only [packedHead, List.length_append, colon, dash, last]
  omega

theorem roomBehind_eq {count : Nat} (small : count ≤ maxTcpMsgBufLen) :
    roomBehind count.toUInt16 = maxTcpMsgBufLen - count := by
  have limit : maxTcpMsgBufLen < 2 ^ 64 := by decide
  rw [roomBehind, fieldLen_toNat small]
  omega

/-- The C string of a packed frame. -/
def publishedLine (msg : UdpType) (tail : Bytes) : Bytes :=
  cstr (packedHead msg ++
    (tail.take (maxTcpMsgBufLen - (packedHead msg).length - 1) ++ [0]))

/-- The two parts stand at the front of the frame with a NUL behind them. -/
theorem packTopicToTcpMsg_bytes (sendMsg : TcpMsg) {msg : UdpType} {tail : Bytes}
    (packed : packedTail msg.data = some tail) :
    ∃ rest, (packTopicToTcpMsg sendMsg msg).2.data.bytes = packedHead msg ++
      (tail.take (maxTcpMsgBufLen - (packedHead msg).length - 1) ++ [0]) ++ rest := by
  have short := packedHead_length_le msg
  have limit : maxTcpMsgBufLen = 2048 := rfl
  have whole : (packedHead msg).take (maxTcpMsgBufLen - 1) = packedHead msg :=
    List.take_of_length_le (by omega)
  have headed := sendMsg.data.splice_behind (packedHead msg ++ [0])
    (show _ = [] ++ sendMsg.data.bytes from rfl)
    (by rw [List.length_append, List.length_singleton, List.length_nil]; omega)
  rw [List.nil_append, List.append_assoc] at headed
  have tailed := Buffer.splice_behind _
    (tail.take (maxTcpMsgBufLen - (packedHead msg).length - 1) ++ [0]) headed
    (by rw [List.length_append, List.length_singleton, List.length_take]; omega)
  unfold packTopicToTcpMsg
  rw [packed]
  dsimp only
  rw [fieldLen_toNat (by omega), roomBehind_eq (by omega), snprintf, if_neg (by omega), snprintf,
    if_neg (by decide), whole]
  rw [List.length_nil] at tailed
  exact ⟨_, tailed⟩

/-- The line does not depend on the frame that was packed into. -/
theorem packTopicToTcpMsg_line (sendMsg : TcpMsg) {msg : UdpType} {tail : Bytes}
    (packed : packedTail msg.data = some tail) :
    cstr (packTopicToTcpMsg sendMsg msg).2.data.bytes = publishedLine msg tail := by
  obtain ⟨rest, bytes⟩ := packTopicToTcpMsg_bytes sendMsg packed
  rw [bytes]
  exact cstr_append_of_nul (by simp) _

end TopicBroker
