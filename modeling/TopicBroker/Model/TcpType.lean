import TopicBroker.Model.Utils

/-!
# `tcp_type`

The frame of the protocol and the two loops that move a whole frame over a
stream socket. The kernel is a state `σ` and the answer it gives to one call:
`send` is offered the rest of the buffer and returns the number of bytes it
took, `recv` is asked for a number of bytes and returns those it delivers, none
when the connection is closed or broken.
-/

namespace TopicBroker

universe u

def maxTcpMsgBufLen : Nat := 2048

/-- `sizeof (tcp_msg_t)`; the structure is packed. -/
def sizeofTcpMsg : Nat := 2 + maxTcpMsgBufLen

/-- A length that fits in a frame fits in its length field. -/
theorem fieldLen_toNat {count : Nat} (small : count ≤ maxTcpMsgBufLen) :
    count.toUInt16.toNat = count :=
  UInt16.toNat_ofNat_of_lt' (Nat.lt_of_le_of_lt small (by decide))

structure TcpMsg where
  len : UInt16
  data : Buffer maxTcpMsgBufLen
  deriving DecidableEq

namespace TcpMsg

/-- The frame after `memset`. -/
def zero : TcpMsg := ⟨0, Buffer.zero maxTcpMsgBufLen⟩

/-- The frame as it lies in memory, the length with its low byte first. -/
def toBuffer (msg : TcpMsg) : Buffer sizeofTcpMsg where
  bytes := msg.len.toUInt8 :: (msg.len >>> 8).toUInt8 :: msg.data.bytes
  length_eq := by
    have length := msg.data.length_eq
    simp only [List.length_cons, sizeofTcpMsg]
    omega

def ofBuffer (buffer : Buffer sizeofTcpMsg) : TcpMsg where
  len := (byteAt buffer.bytes 0).toUInt16 ||| ((byteAt buffer.bytes 1).toUInt16 <<< 8)
  data := buffer.window 2 maxTcpMsgBufLen (Nat.le_refl _)

/-- The two bytes of the length give it back. -/
theorem len_bytes (len : UInt16) :
    len.toUInt8.toUInt16 ||| ((len >>> 8).toUInt8.toUInt16 <<< 8) = len := by
  apply UInt16.toNat_inj.mp
  have bound := len.toNat_lt
  have low : len.toNat % 256 < 2 ^ 8 := by omega
  have sum : (len.toNat / 256 % 256) <<< 8 % 65536 ||| len.toNat % 256 = len.toNat := by
    have high : (len.toNat / 256 % 256) <<< 8 < 65536 := by
      rw [Nat.shiftLeft_eq]
      omega
    rw [Nat.mod_eq_of_lt high, ← Nat.shiftLeft_add_eq_or_of_lt low, Nat.shiftLeft_eq]
    omega
  rw [UInt16.toNat_or, Nat.or_comm]
  simpa [Nat.shiftRight_eq_div_pow] using sum

theorem ofBuffer_toBuffer (msg : TcpMsg) : ofBuffer msg.toBuffer = msg := by
  have data : msg.toBuffer.window 2 maxTcpMsgBufLen (Nat.le_refl _) = msg.data :=
    Buffer.ext_bytes (List.take_of_length_le (Nat.le_of_eq msg.data.length_eq))
  unfold ofBuffer
  rw [data]
  exact congrArg (TcpMsg.mk · msg.data) (len_bytes msg.len)

end TcpMsg

/-- One `send` call: the bytes offered, the returned count, the kernel after it. -/
abbrev SendCall (σ : Type u) := σ → Bytes → Int × σ

/-- One `recv` call: the number of bytes asked for, the bytes delivered, the kernel after it. -/
abbrev RecvCall (σ : Type u) := σ → Nat → Bytes × σ

variable {σ : Type u}

/-- The `while (bytes_send < buf_len)` loop. A call that does not end the loop
moves at least one byte, so `buf_len` rounds are all the loop can make. -/
def sendLoop (send : SendCall σ) (buf : Bytes) : Nat → Nat → σ → Err × σ
  | 0, _, kernel => (.ok, kernel)
  | rounds + 1, bytesSend, kernel =>
      if bytesSend < buf.length then
        let answer := send kernel (buf.drop bytesSend)
        if answer.1 ≤ 0 then (.tcpFailedSendRecv, answer.2)
        else sendLoop send buf rounds (bytesSend + answer.1.toNat) answer.2
      else (.ok, kernel)

def sendTcpMsg (send : SendCall σ) (tcpSocket : Int) (buf : Bytes) (kernel : σ) : Err × σ :=
  if tcpSocket < 0 then (.tcpInputSocketInvalid, kernel)
  else if buf.length = 0 then (.tcpInputBufLenIsZero, kernel)
  else sendLoop send buf buf.length 0 kernel

/-- The loop of `recv_tcp_msg`; what was delivered before a failure stays in the buffer. -/
def recvLoop {size : Nat} (recv : RecvCall σ) :
    Nat → Nat → Buffer size → σ → Err × Buffer size × σ
  | 0, _, buf, kernel => (.ok, buf, kernel)
  | rounds + 1, bytesSend, buf, kernel =>
      if bytesSend < size then
        let answer := recv kernel (size - bytesSend)
        if answer.1 = [] then (.tcpFailedSendRecv, buf, answer.2)
        else recvLoop recv rounds (bytesSend + answer.1.length) (buf.splice bytesSend answer.1)
          answer.2
      else (.ok, buf, kernel)

def recvTcpMsg {size : Nat} (recv : RecvCall σ) (tcpSocket : Int) (buf : Buffer size)
    (kernel : σ) : Err × Buffer size × σ :=
  if tcpSocket < 0 then (.tcpInputSocketInvalid, buf, kernel)
  else if size = 0 then (.tcpInputBufLenIsZero, buf, kernel)
  else recvLoop recv size 0 buf kernel

end TopicBroker
