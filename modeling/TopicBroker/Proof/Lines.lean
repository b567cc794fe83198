import TopicBroker.Model.Subscriber
import TopicBroker.Proof.Framing
import TopicBroker.Proof.Packing

/-!
# The line that a subscriber prints

Every part of a line has a bounded length and no NUL, all parts together fit in
the frame, and the one NUL behind them hides whatever the frame held before.
-/

namespace TopicBroker

/-! ## The line -/

def typeName : UdpData → Bytes
  | .int _ => ascii "INT"
  | .shortReal _ => ascii "SHORT_REAL"
  | .float _ => ascii "FLOAT"
  | .string _ => ascii "STRING"
  | .unknown _ => []

def printedValue : UdpData → Bytes
  | .int value => signedDecimal value.toInt
  | .shortReal value => value.print 2
  | .float value => value.print 6
  | .string value => cstr value.bytes
  | .unknown _ => []

/-- `<ip>:<port> - <topic> - <type> - <value>`. -/
def lineText (addr : Buffer sizeofSockaddrIn) (msg : UdpType) : Bytes :=
  inetNtoa addr ++ ascii ":" ++ decimal (sinPort addr).toNat ++ ascii " - " ++ msg.name ++
    ascii " - " ++ typeName msg.data ++ ascii " - " ++ printedValue msg.data

/-- The tail begins with the blank behind the dash that ends the head. -/
theorem packedTail_text {data : UdpData} {tail : Bytes} (packed : packedTail data = some tail) :
    tail = ascii " " ++ typeName data ++ ascii " - " ++ printedValue data := by
  cases data with
  | unknown type => cases packed
  | int value => exact (Option.some.inj packed).symm
  | shortReal value => exact (Option.some.inj packed).symm
  | float value => exact (Option.some.inj packed).symm
  | string value => exact (Option.some.inj packed).symm

/-- Eight bytes of the address hold all of it that is printed. -/
theorem packedHead_parsed (addr : Buffer sizeofSockaddrIn) (buf : Bytes) :
    packedHead (parsedUdpType addr buf) = inetNtoa addr ++ ascii ":" ++
      decimal (sinPort addr).toNat ++ ascii " - " ++ (parsedUdpType addr buf).name ++
        ascii " -" := by
  have copied : ∀ index < sizeofPointer,
      byteAt (parsedUdpType addr buf).addr.bytes index = byteAt addr.bytes index := by
    intro index inside
    have width := addr.length_eq
    have front : (addr.bytes.take sizeofPointer).length = sizeofPointer := by
      rw [List.length_take, width]
      rfl
    unfold parsedUdpType
    dsimp only
    rw [Buffer.splice_bytes _ (by rw [front]; decide), List.take_zero, List.nil_append,
      byteAt_append, front, if_pos inside]
    simp [byteAt, List.getD_eq_getElem?_getD, inside]
  have octets : inetNtoa (parsedUdpType addr buf).addr = inetNtoa addr := by
    unfold inetNtoa
    dsimp only
    rw [copied (4 + 0) (by decide), copied (4 + 1) (by decide), copied (4 + 2) (by decide),
      copied (4 + 3) (by decide)]
  have port : sinPort (parsedUdpType addr buf).addr = sinPort addr := by
    unfold sinPort ntohs
    rw [byteAt_drop, byteAt_drop, byteAt_drop, byteAt_drop, copied 2 (by decide),
      copied 3 (by decide)]
  rw [packedHead, octets, port]

/-! ## Lengths and NULs -/

theorem typeName_mem (data : UdpData) :
    typeName data ∈ [ascii "INT", ascii "SHORT_REAL", ascii "FLOAT", ascii "STRING", []] := by
  cases data <;> simp [typeName]

theorem typeName_length_le (data : UdpData) : (typeName data).length ≤ 10 := by
  have all : ∀ name ∈ [ascii "INT", ascii "SHORT_REAL", ascii "FLOAT", ascii "STRING", []],
      name.length ≤ 10 := by
    decide
  exact all _ (typeName_mem data)

theorem typeName_nulFree (data : UdpData) : NulFree (typeName data) := by
  have all : ∀ name ∈ [ascii "INT", ascii "SHORT_REAL", ascii "FLOAT", ascii "STRING", []],
      NulFree name := by
    decide +kernel
  exact all _ (typeName_mem data)

theorem printedValue_nulFree (data : UdpData) : NulFree (printedValue data) := by
  cases data with
  | int value => exact signedDecimal_nulFree _
  | shortReal value => exact Quotient.print_nulFree _ _
  | float value => exact Quotient.print_nulFree _ _
  | string value => exact cstr_nulFree _
  | unknown type => exact fun _ member => nomatch member

theorem parseUdpFloatType_num (buf : Bytes) : (parseUdpFloatType buf).num < 2 ^ 32 := by
  have small := (ntohl (buf.drop 1)).toNat_lt
  unfold parseUdpFloatType
  dsimp only
  split
  · exact small
  · exact small

/-- A stored number is printed in at most 18 characters, a string in all that it has. -/
theorem printedValue_length_le (type : UInt8) (buf : Bytes) :
    (printedValue (parseUdpData type buf)).length ≤ maxStringLen := by
  have limit : maxStringLen = 1501 := rfl
  by_cases known : KnownType type
  · rcases known.cases with tag | tag | tag | tag
    · rw [parseUdpData_int buf tag]
      have low := Int32.le_toInt (parseUdpIntType buf)
      have high := Int32.toInt_lt (parseUdpIntType buf)
      have digits : (signedDecimal (parseUdpIntType buf).toInt).length ≤ 10 + 1 :=
        signedDecimal_length_le (by decide) (by omega)
      exact Nat.le_trans digits (by decide)
    · rw [parseUdpData_shortReal buf tag]
      have small : (parseUdpShortRealType buf).num < 2 ^ 32 :=
        Nat.lt_trans (ntohs buf).toNat_lt (by decide)
      exact Nat.le_trans (Quotient.print_length_le (by decide) small) (by decide)
    · rw [parseUdpData_float buf tag]
      exact Nat.le_trans (Quotient.print_length_le (by decide) (parseUdpFloatType_num buf))
        (by decide)
    · rw [parseUdpData_string buf tag]
      exact Nat.le_trans (cstr_length_le _) (Nat.le_of_eq (Buffer.length_eq _))
  · rw [parseUdpData_unknown buf known]
    exact Nat.zero_le _

/-- What the two `snprintf` calls write is the line. -/
theorem lineText_eq (addr : Buffer sizeofSockaddrIn) (buf : Bytes) {tail : Bytes}
    (packed : packedTail (parsedUdpType addr buf).data = some tail) :
    lineText addr (parsedUdpType addr buf) = packedHead (parsedUdpType addr buf) ++ tail := by
  have dash : ascii " - " = ascii " -" ++ ascii " " := by decide
  rw [packedHead_parsed, packedTail_text packed, lineText]
  conv_lhs => rw [List.append_assoc _ (ascii " - ") (typeName _)]
  rw [dash]
  simp only [List.append_assoc]

theorem packedTail_length_le {addr : Buffer sizeofSockaddrIn} {buf tail : Bytes}
    (packed : packedTail (parsedUdpType addr buf).data = some tail) :
    tail.length ≤ 14 + maxStringLen := by
  have value := printedValue_length_le (byteAt buf (maxTopicLen - 1)) (buf.drop maxTopicLen)
  have name := typeName_length_le (parsedUdpType addr buf).data
  have blank : (ascii " ").length = 1 := by decide
  have dash : (ascii " - ").length = 3 := by decide
  rw [packedTail_text packed, List.length_append, List.length_append, List.length_append, blank,
    dash]
  change _ + (printedValue (parseUdpData _ _)).length ≤ _
  omega

theorem lineText_nulFree (addr : Buffer sizeofSockaddrIn) (msg : UdpType) :
    NulFree (lineText addr msg) := by
  have octet : ∀ byte : UInt8, NulFree (decimal byte.toNat) := fun byte => decimal_nulFree _
  have dot : NulFree (ascii ".") := by decide +kernel
  have colon : NulFree (ascii ":") := by decide +kernel
  have dash : NulFree (ascii " - ") := by decide +kernel
  have host : NulFree (inetNtoa addr) :=
    .append (.append (.append (.append (.append (.append (octet _) dot) (octet _)) dot)
      (octet _)) dot) (octet _)
  have sender : NulFree (inetNtoa addr ++ ascii ":" ++ decimal (sinPort addr).toNat) :=
    .append (.append host colon) (decimal_nulFree _)
  have front : NulFree (inetNtoa addr ++ ascii ":" ++ decimal (sinPort addr).toNat ++
      ascii " - " ++ msg.name ++ ascii " - ") :=
    .append (.append (.append sender dash) (cstr_nulFree _)) dash
  exact .append (.append (.append front (typeName_nulFree _)) dash) (printedValue_nulFree _)

/-! ## The whole frame -/

/-- A frame with the line in front and a NUL behind it. -/
structure Holds (msg : TcpMsg) (text : Bytes) : Prop where
  len : msg.len.toNat = text.length
  short : text.length < maxTcpMsgBufLen
  front : msg.data.bytes.take msg.len.toNat = text
  nul : byteAt msg.data.bytes msg.len.toNat = 0
  line : cstr msg.data.bytes = text

/-- Neither `snprintf` is truncated, the room left for the second does not
underflow, and the frame holds the line and is printed as the line. -/
structure LineComplete (sendMsg : TcpMsg) (addr : Buffer sizeofSockaddrIn) (msg : UdpType) :
    Prop where
  ok : (packTopicToTcpMsg sendMsg msg).1 = .ok
  head : (packedHead msg).length < maxTcpMsgBufLen
  room : (roomBehind (packedHead msg).length.toUInt16 : Int) =
    (maxTcpMsgBufLen : Int) - (packedHead msg).length
  tail : ∀ tail, packedTail msg.data = some tail →
    tail.length < roomBehind (packedHead msg).length.toUInt16
  held : Holds (packTopicToTcpMsg sendMsg msg).2 (lineText addr msg)
  shown : ∀ {τ : Type} (inn : Inlet τ) (past rest : Bytes) (this : Subscriber) (kernel : τ)
    (entry : PollFd), 0 ≤ this.tcpSocket → this.pollVec.elems[1]? = some entry →
      entry.ready = true →
        inn.left kernel = (packTopicToTcpMsg sendMsg msg).2.toBuffer.bytes ++ rest →
          (this.processReadyFds inn.get past kernel).1 = .ok ∧
            (this.processReadyFds inn.get past kernel).2.2.1 = lineText addr msg ++ ascii "\n"

/-- A subscriber prints the C string of the frame at the front of its stream. -/
theorem processReadyFds_prints {τ : Type} (inn : Inlet τ) (past : Bytes) {rest : Bytes}
    {this : Subscriber} {kernel : τ} {entry : PollFd} {msg : TcpMsg} {text : Bytes}
    (holds : Holds msg text) (valid : 0 ≤ this.tcpSocket)
    (second : this.pollVec.elems[1]? = some entry) (ready : entry.ready = true)
    (left : inn.left kernel = msg.toBuffer.bytes ++ rest) :
    (this.processReadyFds inn.get past kernel).1 = .ok ∧
      (this.processReadyFds inn.get past kernel).2.2.1 = text ++ ascii "\n" := by
  obtain ⟨reached, received, _⟩ :=
    recvTcpMsg_whole inn valid (by decide) this.recvMsg.toBuffer left
  have nul : 0 ∈ msg.data.bytes := by
    rw [← cstr_length_lt_iff, holds.line, msg.data.length_eq]
    exact holds.short
  unfold Subscriber.processReadyFds
  rw [second]
  dsimp only
  rw [if_pos ready, received]
  dsimp only
  rw [if_neg (by decide), if_neg (not_not.mpr rfl), TcpMsg.ofBuffer_toBuffer,
    cstr_append_of_nul nul, holds.line]
  exact ⟨rfl, rfl⟩

/-- Whatever the frame held before, the line of a stored message is complete in it. -/
theorem line_complete {addr : Buffer sizeofSockaddrIn} {buf : Bytes}
    (accepted : (parseUdpTypeFrom addr buf).1 = .ok) (sendMsg : TcpMsg) :
    LineComplete sendMsg addr (parseUdpTypeFrom addr buf).2 := by
  change LineComplete sendMsg addr (parsedUdpType addr buf)
  obtain ⟨tail, packed⟩ : ∃ tail, packedTail (parsedUdpType addr buf).data = some tail := by
    apply Option.ne_none_iff_exists'.mp
    exact fun refused => (packedTail_eq_none_iff _).mp refused accepted
  have limit : maxTcpMsgBufLen = 2048 := rfl
  have string : maxStringLen = 1501 := rfl
  have head := packedHead_length_le (parsedUdpType addr buf)
  have text := lineText_eq addr buf packed
  have behind := packedTail_length_le packed
  have total : (lineText addr (parsedUdpType addr buf)).length =
      (packedHead (parsedUdpType addr buf)).length + tail.length := by
    rw [text, List.length_append]
  have room := roomBehind_eq (show (packedHead (parsedUdpType addr buf)).length ≤ maxTcpMsgBufLen
    by omega)
  have len : (packTopicToTcpMsg sendMsg (parsedUdpType addr buf)).2.len.toNat =
      (lineText addr (parsedUdpType addr buf)).length := by
    unfold packTopicToTcpMsg
    rw [packed]
    dsimp only
    rw [UInt16.toNat_add, fieldLen_toNat (by omega), fieldLen_toNat (by omega), total]
    omega
  obtain ⟨rest, bytes⟩ := packTopicToTcpMsg_bytes sendMsg packed
  have whole : tail.take (maxTcpMsgBufLen -
      (packedHead (parsedUdpType addr buf)).length - 1) = tail :=
    List.take_of_length_le (by omega)
  rw [whole, ← List.append_assoc, ← text, List.append_assoc] at bytes
  have held : Holds (packTopicToTcpMsg sendMsg (parsedUdpType addr buf)).2
      (lineText addr (parsedUdpType addr buf)) := by
    refine ⟨len, by omega, ?_, ?_, ?_⟩
    · rw [len, bytes, List.take_left]
    · rw [len, bytes, byteAt_append, if_neg (Nat.lt_irrefl _), Nat.sub_self]
      rfl
    · rw [bytes]
      exact cstr_append_nul (lineText_nulFree _ _) _
  refine ⟨(packTopicToTcpMsg_ok_iff _ _).mpr ((UdpType.known_iff _).mpr accepted), by omega, ?_,
    ?_, held, ?_⟩
  · rw [room]
    omega
  · intro other found
    rw [packed] at found
    cases found
    rw [room]
    omega
  · intro τ inn past rest this kernel entry valid second ready left
    exact processReadyFds_prints inn past held valid second ready left

/-- The datagram of 51 zeros is the INT 0 about the empty topic. -/
theorem line_complete_zeros :
    LineComplete TcpMsg.zero (Buffer.zero _)
      (parseUdpTypeFrom (Buffer.zero _) (List.replicate 51 0)).2 :=
  line_complete (by decide) _

end TopicBroker
