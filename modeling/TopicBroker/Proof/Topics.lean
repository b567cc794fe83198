import TopicBroker.Proof.FanOut
import TopicBroker.Proof.Lines

/-!
# The topic of a datagram

A topic has at most 50 bytes. The parser copies 51, and the last one that it
copies is the type byte, which ends the name of a full topic only when it is zero.
-/

namespace TopicBroker

/-- A topic padded with zeros, and the type byte behind it. -/
def topicField (topic : Bytes) (type : UInt8) : Bytes :=
  topic ++ List.replicate (maxTopicLen - 1 - topic.length) 0 ++ [type]

def datagramAbout (topic : Bytes) (type : UInt8) (data : Bytes) : Bytes :=
  topicField topic type ++ data

/-- Padding ends the name, and so does a type byte that is zero. -/
theorem cstr_padded {topic : Bytes} (free : NulFree topic) (padding : Nat) (type : UInt8) :
    cstr (topic ++ List.replicate padding 0 ++ [type]) =
      if 0 < padding ∨ type = 0 then topic else topic ++ [type] := by
  rw [List.append_assoc, cstr_append_of_nulFree free]
  cases padding with
  | zero =>
      by_cases zero : type = 0
      · simp [cstr, zero]
      · simp [cstr, zero]
  | succ padding => simp [cstr, List.replicate_succ]

section Received

variable {topic : Bytes} (short : topic.length < maxTopicLen) (type : UInt8) (data : Bytes)
  (s : Server) (addr : Buffer sizeofSockaddrIn)
include short

theorem topicField_length : (topicField topic type).length = maxTopicLen := by
  rw [topicField, List.length_append, List.length_append, List.length_replicate,
    List.length_singleton]
  omega

/-- The datagram stands at the front of the receive buffer. -/
theorem receive_bytes : ∃ rest,
    (s.receive addr (datagramAbout topic type data)).buf.bytes = topicField topic type ++ rest := by
  have width := topicField_length short type
  have limit : maxTopicLen ≤ maxServerBuflen := by decide
  have front : (datagramAbout topic type data).take maxServerBuflen =
      topicField topic type ++ data.take (maxServerBuflen - maxTopicLen) := by
    rw [datagramAbout, List.take_append, List.take_of_length_le (by omega), width]
  rw [Server.receive]
  dsimp only
  rw [splice_front, front, List.append_assoc]
  exact ⟨_, rfl⟩

theorem receive_name (free : NulFree topic) :
    (s.receive addr (datagramAbout topic type data)).parsed.name =
      if topic.length < maxTopicLen - 1 ∨ type = 0 then topic else topic ++ [type] := by
  have width := topicField_length short type
  obtain ⟨rest, bytes⟩ := receive_bytes short type data s addr
  unfold UdpType.name Server.parsed parsedUdpType
  dsimp only
  rw [bytes, List.take_append_of_le_length (by omega), List.take_of_length_le (by omega),
    Buffer.splice_whole _ width, topicField, cstr_padded free]
  simp only [Nat.sub_pos_iff_lt]

theorem receive_known (known : KnownType type) :
    (s.receive addr (datagramAbout topic type data)).parsed.Known := by
  have width := topicField_length short type
  obtain ⟨rest, bytes⟩ := receive_bytes short type data s addr
  have front : (topic ++ List.replicate (maxTopicLen - 1 - topic.length) 0).length =
      maxTopicLen - 1 := by
    rw [List.length_append, List.length_replicate]
    omega
  have last : byteAt (topicField topic type) (maxTopicLen - 1) = type := by
    rw [topicField, byteAt_append, front, if_neg (Nat.lt_irrefl _), Nat.sub_self]
    rfl
  rw [parsed_known_iff, bytes, typeByte, byteAt_append, if_pos (by rw [width]; decide), last]
  exact known

end Received

/-! ## The three uses of the name -/

/-- The datagram in `buf` is stored, printed and published under the topic: the
line that any frame shows which it is packed into has the topic behind the sender. -/
structure TopicExact (s : Server) (topic : Bytes) : Prop where
  stored : s.parsed.name = topic
  printed : ∀ sendMsg : TcpMsg, (packTopicToTcpMsg sendMsg s.parsed).1 = .ok ∧
    cstr (packTopicToTcpMsg sendMsg s.parsed).2.data.bytes = inetNtoa s.udpAddrClient ++
      ascii ":" ++ decimal (sinPort s.udpAddrClient).toNat ++ ascii " - " ++ topic ++
        ascii " - " ++ typeName s.parsed.data ++ ascii " - " ++ printedValue s.parsed.data
  published : ∀ kernel : Kernel, (∀ index, kernel.readyMsgs index = true) → ¬ s.Crammed kernel →
    DistinctTopics s.clients → FannedOut kernel (addServerUdpMsg kernel s).2 s.parsed topic

theorem TopicExact.of_name {s : Server} {topic : Bytes} (known : s.parsed.Known)
    (name : s.parsed.name = topic) : TopicExact s topic := by
  subst name
  have complete := line_complete ((UdpType.known_iff s.parsed).mp known)
  refine ⟨rfl, fun sendMsg => ⟨(complete sendMsg).ok, (complete sendMsg).held.line⟩,
    fun kernel grows room distinct => ?_⟩
  have added := (addServerUdpMsg_ok_iff kernel s).mpr ⟨room, known⟩
  rw [addServerUdpMsg_server added]
  refine .of_stored (s := { s.stored kernel with sendMsg := s.sendMsg }) grows distinct ?_ known
  change (s.stored kernel).udpMsgs.elems.getLast? = _
  rw [Server.stored_elems, List.getLast?_concat]

/-- A datagram is about its topic exactly when the topic leaves a zero behind it or
the type byte is one. -/
theorem topicExact_iff {topic : Bytes} (free : NulFree topic)
    (short : topic.length ≤ maxTopicLen - 1) {type : UInt8} (known : KnownType type)
    (data : Bytes) (s : Server) (addr : Buffer sizeofSockaddrIn) :
    TopicExact (s.receive addr (datagramAbout topic type data)) topic ↔
      topic.length < maxTopicLen - 1 ∨ type = 0 := by
  have inside : topic.length < maxTopicLen := Nat.lt_of_le_of_lt short (by decide)
  have name := receive_name inside type data s addr free
  constructor
  · intro exact_topic
    by_contra full
    rw [exact_topic.stored, if_neg full] at name
    simp at name
  · intro ended
    rw [if_pos ended] at name
    exact .of_name (receive_known inside type data s addr known) name

/-- A topic that fills its field. -/
def fullTopic : Bytes := List.replicate 50 97

theorem topicExact_iff_full :
    TopicExact (Server.started.receive (Buffer.zero _) (datagramAbout fullTopic 0 [])) fullTopic ↔
      fullTopic.length < maxTopicLen - 1 ∨ (0 : UInt8) = 0 :=
  topicExact_iff (by decide +kernel) (by decide) (by decide) _ _ _

/-- A SHORT_REAL about it is published under a name of 51 bytes. -/
theorem topic_not_exact :
    ¬ ∀ (topic : Bytes) (type : UInt8) (data : Bytes) (s : Server)
      (addr : Buffer sizeofSockaddrIn), NulFree topic → topic.length ≤ maxTopicLen - 1 →
        KnownType type → TopicExact (s.receive addr (datagramAbout topic type data)) topic := by
  intro always
  have stored := (always fullTopic 1 [] .started (Buffer.zero _) (by decide +kernel)
    (by decide) (by decide)).stored
  have longer : (Server.started.receive (Buffer.zero _)
      (datagramAbout fullTopic 1 [])).parsed.name.length = 51 := by
    decide +kernel
  rw [stored] at longer
  exact absurd longer (by decide)

end TopicBroker
