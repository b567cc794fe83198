import TopicBroker.Proof.Packing
import TopicBroker.Proof.Survival

/-!
# What a stored message depends on

The parser reads windows of fixed size out of the receive buffer. A datagram
that is shorter than the windows of its type is completed with what an earlier
one left there, so only a datagram that fills them, or whose string ends in it,
is stored as itself.
-/

namespace TopicBroker

/-! ## What is seen of a message -/

/-- A value as it is seen: a string up to its NUL. -/
def UdpData.seen : UdpData → UdpData ⊕ Bytes
  | .string value => .inr (cstr value.bytes)
  | data => .inl data

/-- The same address, topic, type and value. -/
structure UdpType.Same (first second : UdpType) : Prop where
  addr : first.addr = second.addr
  name : first.name = second.name
  data : first.data.seen = second.data.seen

theorem packedTail_of_seen {first second : UdpData} (same : first.seen = second.seen) :
    packedTail first = packedTail second := by
  cases first <;> cases second <;> simp_all [UdpData.seen, packedTail]

theorem UdpType.Same.head {first second : UdpType} (same : first.Same second) :
    packedHead first = packedHead second := by
  unfold packedHead
  rw [same.addr, same.name]

theorem UdpType.Same.line {first second : UdpType} (same : first.Same second) (tail : Bytes) :
    publishedLine first tail = publishedLine second tail := by
  unfold publishedLine
  rw [same.head]

/-! ## Datagrams that are stored as themselves -/

/-- The datagram has all the bytes that are parsed for its type. -/
structure SelfContained (payload : Bytes) : Prop where
  long : maxTopicLen ≤ payload.length
  int : (typeByte payload).toNat = 0 → maxTopicLen + 5 ≤ payload.length
  shortReal : (typeByte payload).toNat = 1 → maxTopicLen + 2 ≤ payload.length
  float : (typeByte payload).toNat = 2 → maxTopicLen + 6 ≤ payload.length
  string : (typeByte payload).toNat = 3 →
    maxTopicLen + maxStringLen ≤ payload.length ∨ 0 ∈ payload.drop maxTopicLen

/-- The first bytes of two pieces of memory are the same. -/
def Agree (count : Nat) (first second : Bytes) : Prop :=
  ∀ position < count, byteAt first position = byteAt second position

theorem parseUdpIntType_congr {first second : Bytes} (agree : Agree 5 first second) :
    parseUdpIntType first = parseUdpIntType second := by
  simp (disch := omega) only [parseUdpIntType, ntohl, byteAt_drop, agree _ _]

theorem parseUdpShortRealType_congr {first second : Bytes} (agree : Agree 2 first second) :
    parseUdpShortRealType first = parseUdpShortRealType second := by
  simp (disch := omega) only [parseUdpShortRealType, ntohs, agree _ _]

theorem parseUdpFloatType_congr {first second : Bytes} (agree : Agree 6 first second) :
    parseUdpFloatType first = parseUdpFloatType second := by
  simp (disch := omega) only [parseUdpFloatType, ntohl, byteAt_drop, agree _ _]

theorem parseUdpStringType_bytes {buf : Bytes} (enough : maxStringLen ≤ buf.length) :
    (parseUdpStringType buf).bytes = buf.take maxStringLen :=
  Buffer.splice_whole _ (by rw [List.length_take, Nat.min_eq_left enough])

section Windows

variable {payload rest other : Bytes}

/-- What lies behind the topic of a datagram that fills the windows of its type. -/
theorem agree_behind {count : Nat} (fills : maxTopicLen + count ≤ payload.length) :
    Agree count ((payload ++ rest).drop maxTopicLen) ((payload ++ other).drop maxTopicLen) := by
  intro position inside
  rw [byteAt_drop, byteAt_drop, byteAt_append, byteAt_append, if_pos (by omega), if_pos (by omega)]

theorem parsedString_seen (long : maxTopicLen ≤ payload.length)
    (ends : maxTopicLen + maxStringLen ≤ payload.length ∨ 0 ∈ payload.drop maxTopicLen)
    (enough : maxTopicLen + maxStringLen ≤ payload.length + rest.length) :
    cstr (parseUdpStringType ((payload ++ rest).drop maxTopicLen)).bytes =
      cstr ((payload.drop maxTopicLen).take maxStringLen) := by
  have behind : (payload ++ rest).drop maxTopicLen = payload.drop maxTopicLen ++ rest :=
    List.drop_append_of_le_length long
  have length : (payload.drop maxTopicLen).length = payload.length - maxTopicLen :=
    List.length_drop
  rw [parseUdpStringType_bytes (by rw [behind, List.length_append]; omega), behind,
    List.take_append]
  by_cases filled : maxTopicLen + maxStringLen ≤ payload.length
  · have nothing : maxStringLen - (payload.drop maxTopicLen).length = 0 := by omega
    rw [nothing, List.take_zero, List.append_nil]
  · have nul := ends.resolve_left filled
    rw [List.take_of_length_le (by omega), cstr_append_of_nul nul]

theorem parsed_same {addr : Buffer sizeofSockaddrIn} (contained : SelfContained payload)
    (enough : maxTopicLen + maxStringLen ≤ payload.length + rest.length)
    (also : maxTopicLen + maxStringLen ≤ payload.length + other.length) :
    (parsedUdpType addr (payload ++ rest)).Same (parsedUdpType addr (payload ++ other)) := by
  have long := contained.long
  have front :
      ∀ behind : Bytes, byteAt (payload ++ behind) (maxTopicLen - 1) = typeByte payload := by
    intro behind
    rw [byteAt_append, if_pos (Nat.lt_of_lt_of_le (by decide) long)]
    rfl
  refine ⟨rfl, ?_, ?_⟩
  · unfold UdpType.name parsedUdpType
    dsimp only
    rw [List.take_append_of_le_length long, List.take_append_of_le_length long]
  · unfold parsedUdpType
    dsimp only
    rw [front, front]
    by_cases known : KnownType (typeByte payload)
    · rcases known.cases with tag | tag | tag | tag
      · rw [parseUdpData_int _ tag, parseUdpData_int _ tag,
          parseUdpIntType_congr (agree_behind (contained.int tag))]
      · rw [parseUdpData_shortReal _ tag, parseUdpData_shortReal _ tag,
          parseUdpShortRealType_congr (agree_behind (contained.shortReal tag))]
      · rw [parseUdpData_float _ tag, parseUdpData_float _ tag,
          parseUdpFloatType_congr (agree_behind (contained.float tag))]
      · rw [parseUdpData_string _ tag, parseUdpData_string _ tag, UdpData.seen, UdpData.seen,
          parsedString_seen long (contained.string tag) enough,
          parsedString_seen long (contained.string tag) also]
    · rw [parseUdpData_unknown _ known, parseUdpData_unknown _ known]

end Windows

/-! ## The round of a datagram -/

/-- The round receives the datagram from the address, and gets the memory it asks for. -/
structure Hears (kernel : Kernel) (iter : Nat) (s : Server) (addr : Buffer sizeofSockaddrIn)
    (payload : Bytes) : Prop where
  atUdp : s.pollVec.fds[iter]? = some s.udpSocket
  answer : kernel.recvfrom = some (addr, payload)
  room : kernel.udpMsgs ≠ .fails
  grows : ∀ index, kernel.readyMsgs index = true

/-- The round stored the message, and every frame it packed or sent shows the text.
The bytes behind its NUL are not compared: `send_msg` keeps those of earlier frames. -/
structure Published (s : Server) (done : Served) (msg : UdpType) (text : Bytes) : Prop where
  err : done.err = .ok
  stored : done.server.udpMsgs.elems = s.udpMsgs.elems ++ [msg]
  packed : cstr done.server.sendMsg.data.bytes = text
  sent : ∀ client fd source live frame,
    .sent client fd source live frame ∈ done.log → cstr frame.data.bytes = text

/-- The round returned an error and stored nothing. -/
structure Refused (s : Server) (done : Served) : Prop where
  err : done.err ≠ .ok
  stored : done.server.udpMsgs.elems = s.udpMsgs.elems

theorem allNotices_frame {kernel : Kernel} {s : Server} {source ref : Ref} {msg : UdpType}
    {iter : Nat} {rest : List ClientType} {client : Bytes} {fd : Int} {live : Bool}
    {frame : TcpMsg}
    (logged : .sent client fd ref live frame ∈ allNotices kernel s source msg iter rest) :
    frame = s.sendMsg := by
  induction rest generalizing iter with
  | nil => cases logged
  | cons c rest ih =>
      rcases List.mem_append.mp logged with here | later
      · unfold notices at here
        split at here
        · split at here
          · cases List.mem_singleton.mp here
            rfl
          · cases here
        · split at here
          · cases List.mem_singleton.mp here
          · cases here
      · exact ih later

section Hearing

variable {kernel : Kernel} {iter : Nat} {s : Server} {addr : Buffer sizeofSockaddrIn}
  {payload : Bytes} (hears : Hears kernel iter s addr payload) (nonempty : payload ≠ [])
include hears nonempty

theorem Hears.published (known : KnownType (typeByte (s.receive addr payload).buf.bytes)) :
    ∃ tail, packedTail (s.receive addr payload).parsed.data = some tail ∧
      Published s (serve kernel iter s) (s.receive addr payload).parsed
        (publishedLine (s.receive addr payload).parsed tail) := by
  have ran := (publish_ok_iff hears.room hears.grows (s.receive addr payload)).mpr known
  obtain ⟨_, accepted, clients, server, _, log⟩ := publish_ok ran
  obtain ⟨tail, packed⟩ : ∃ tail, packedTail (s.receive addr payload).parsed.data = some tail := by
    rw [← Option.ne_none_iff_exists', Ne, packedTail_eq_none_iff, not_not]
    exact (UdpType.known_iff _).mp accepted
  refine ⟨tail, packed, ?_⟩
  have line : cstr ((s.receive addr payload).stored kernel).sendMsg.data.bytes =
      publishedLine (s.receive addr payload).parsed tail := by
    rw [Server.stored_sendMsg]
    exact packTopicToTcpMsg_line _ packed
  rw [serve_datagram hears.atUdp hears.answer nonempty]
  refine ⟨ran, ?_, ?_, ?_⟩
  · rw [Outcome.after_server, server]
    exact Server.stored_elems kernel (s.receive addr payload)
  · rw [Outcome.after_server, server]
    exact line
  · intro client fd source live frame logged
    rw [Outcome.after_log, log] at logged
    rcases List.mem_append.mp logged with received | noticed
    · cases List.mem_singleton.mp received
    · rw [allNotices_frame noticed]
      exact line

theorem Hears.refused (unknown : ¬ KnownType (typeByte (s.receive addr payload).buf.bytes)) :
    Refused s (serve kernel iter s) := by
  have failed : (addServerUdpMsg kernel (s.receive addr payload)).1 ≠ .ok := fun stored =>
    unknown ((parsed_known_iff _).mp ((addServerUdpMsg_ok_iff _ _).mp stored).2)
  have elems : (addServerUdpMsg kernel (s.receive addr payload)).2.udpMsgs.elems =
      s.udpMsgs.elems := by
    unfold addServerUdpMsg at failed ⊢
    dsimp only at failed ⊢
    split
    · rfl
    · rename_i room
      rw [if_neg room] at failed
      split
      · exact Server.reserveUdpMsgs_elems kernel _
      · rename_i accepted
        rw [if_neg accepted] at failed
        exact absurd rfl failed
  rw [serve_datagram hears.atUdp hears.answer nonempty]
  unfold publish
  dsimp only
  rw [if_pos failed]
  exact ⟨failed, elems⟩

end Hearing

/-! ## Two runs -/

/-- The two rounds store the same and publish the same, or neither stores anything. -/
def Alike (s : Server) (first : Served) (t : Server) (second : Served) : Prop :=
  (∃ msg other text, Published s first msg text ∧ Published t second other text ∧
    msg.Same other) ∨ (Refused s first ∧ Refused t second)

/-- Whatever two servers received before, they treat the datagram alike. -/
def Isolated (payload : Bytes) : Prop :=
  ∀ (addr : Buffer sizeofSockaddrIn) (s t : Server) (kernel other : Kernel) (iter index : Nat),
    (broker anyAnswer).Reachable s → (broker anyAnswer).Reachable t →
    Hears kernel iter s addr payload → Hears other index t addr payload →
    Alike s (serve kernel iter s) t (serve other index t)

/-- The receive buffer after a datagram. -/
def completed (payload buf : Bytes) : Bytes := payload ++ buf.drop payload.length

theorem receive_parsed (s : Server) (addr : Buffer sizeofSockaddrIn) {payload : Bytes}
    (fits : payload.length ≤ maxServerBuflen) :
    (s.receive addr payload).parsed = parsedUdpType addr (completed payload s.buf.bytes) := by
  unfold Server.parsed Server.receive completed
  dsimp only
  rw [splice_front, List.take_of_length_le fits]

theorem SelfContained.isolated {payload : Bytes} (contained : SelfContained payload)
    (fits : payload.length ≤ maxServerBuflen) : Isolated payload := by
  intro addr s t kernel other iter index reached also hears heard
  have nonempty : payload ≠ [] :=
    List.ne_nil_of_length_pos (Nat.lt_of_lt_of_le (by decide) contained.long)
  have own : ∀ u : Server, typeByte (u.receive addr payload).buf.bytes = typeByte payload := by
    intro u
    have found := typeByte_received u.buf fits
    rwa [if_pos contained.long] at found
  have windows : maxTopicLen + maxStringLen ≤ maxServerBuflen := by decide
  have behind : ∀ u : Server, maxTopicLen + maxStringLen ≤
      payload.length + (u.buf.bytes.drop payload.length).length := by
    intro u
    rw [List.length_drop, u.buf.length_eq]
    omega
  by_cases known : KnownType (typeByte payload)
  · obtain ⟨tail, packed, first⟩ := hears.published nonempty ((own s).symm ▸ known)
    obtain ⟨end_, packs, second⟩ := heard.published nonempty ((own t).symm ▸ known)
    have same : (s.receive addr payload).parsed.Same (t.receive addr payload).parsed := by
      rw [receive_parsed s addr fits, receive_parsed t addr fits]
      exact parsed_same contained (behind s) (behind t)
    have tails : tail = end_ :=
      Option.some.inj (packed.symm.trans ((packedTail_of_seen same.data).trans packs))
    rw [← tails, ← same.line] at second
    exact .inl ⟨_, _, _, first, second, same⟩
  · exact .inr ⟨hears.refused nonempty ((own s).symm ▸ known),
      heard.refused nonempty ((own t).symm ▸ known)⟩

/-! ## What an earlier datagram leaves behind -/

/-- A datagram that fills the buffer, zeros but for one byte. -/
def leftover (place : Nat) (byte : UInt8) : Bytes :=
  (List.replicate maxServerBuflen 0).set place byte

theorem leftover_length (place : Nat) (byte : UInt8) :
    (leftover place byte).length = maxServerBuflen := by
  rw [leftover, List.length_set, List.length_replicate]

theorem byteAt_leftover {place : Nat} {byte : UInt8} (inside : place < maxServerBuflen)
    (position : Nat) :
    byteAt (leftover place byte) position = if position = place then byte else 0 := by
  rw [byteAt, List.getD_eq_getElem?_getD, leftover]
  by_cases here : position = place
  · rw [here, List.getElem?_set_self (by rw [List.length_replicate]; exact inside), if_pos rfl]
    rfl
  · rw [List.getElem?_set_ne (Ne.symm here), List.getElem?_replicate, if_neg here]
    split <;> rfl

theorem byteAt_completed (payload : Bytes) {place : Nat} {byte : UInt8}
    (inside : place < maxServerBuflen) (position : Nat) :
    byteAt (completed payload (leftover place byte)) position =
      if position < payload.length then byteAt payload position
      else if position = place then byte else 0 := by
  rw [completed, byteAt_append]
  split
  · rfl
  · rename_i behind
    rw [byteAt_drop, Nat.add_sub_of_le (Nat.le_of_not_lt behind), byteAt_leftover inside]

theorem Hears.hearing (payload : Bytes) {s : Server}
    (atUdp : s.pollVec.fds[1]? = some s.udpSocket) :
    Hears (.hearing payload) 1 s (Buffer.zero _) payload where
  atUdp := atUdp
  answer := rfl
  room := show Realloc.inPlace ≠ .fails by decide
  grows _ := rfl

/-- The server after that datagram. -/
def Server.primed (place : Nat) (byte : UInt8) : Server :=
  (serve (.hearing (leftover place byte)) 1 .started).server

/-- It can be reached when the type byte of the datagram is known. -/
structure Primed (place : Nat) (byte : UInt8) : Prop where
  reachable : (broker anyAnswer).Reachable (.primed place byte)
  atUdp : (Server.primed place byte).pollVec.fds[1]? = some (Server.primed place byte).udpSocket
  buf : (Server.primed place byte).buf.bytes = leftover place byte

theorem Primed.of_known {place : Nat} {byte : UInt8}
    (known : KnownType (typeByte (leftover place byte))) : Primed place byte := by
  have length := leftover_length place byte
  have nonempty : leftover place byte ≠ [] :=
    List.ne_nil_of_length_pos (by rw [length]; decide)
  have filled : (Server.started.receive (Buffer.zero _) (leftover place byte)).buf.bytes =
      leftover place byte := by
    rw [Server.receive]
    dsimp only
    rw [List.take_of_length_le (Nat.le_of_eq length), Buffer.splice_whole _ length]
  have hears : Hears _ 1 .started _ _ := .hearing (leftover place byte) rfl
  have heard := serve_datagram hears.atUdp hears.answer nonempty
  have ran := (publish_ok_iff hears.room hears.grows _).mpr (filled.symm ▸ known)
  obtain ⟨_, _, clients, server, _, _⟩ := publish_ok ran
  have start : (broker anyAnswer).Reachable .started := .init ⟨_, _, initServer_started⟩
  refine ⟨start.step (.serve Server.started 1 (.hearing (leftover place byte)) (by decide)
    (by decide) trivial (by rw [heard, Outcome.after_err]; exact ran)), ?_, ?_⟩
  · rw [Server.primed, heard, Outcome.after_server, server]
    rfl
  · rw [Server.primed, heard, Outcome.after_server, server]
    exact filled

/-! ## The last byte of each window -/

theorem ntohl_inj {first second : Bytes} (same : ntohl first = ntohl second) :
    Agree 4 first second := by
  have small : ∀ a b c d, bigEndian [a, b, c, d] < UInt32.size := fun a b c d =>
    Nat.lt_of_lt_of_eq (bigEndian_lt [a, b, c, d]) (by norm_num [UInt32.size])
  have values := congrArg UInt32.toNat same
  unfold ntohl at values
  rw [Nat.toUInt32_eq, Nat.toUInt32_eq, UInt32.toNat_ofNat_of_lt' (small _ _ _ _),
    UInt32.toNat_ofNat_of_lt' (small _ _ _ _)] at values
  have bytes := bigEndian_inj (by simp only [List.length_cons]) values
  intro position inside
  interval_cases position <;> simp_all

theorem ntohs_inj {first second : Bytes} (same : ntohs first = ntohs second) :
    Agree 2 first second := by
  have small : ∀ a b, bigEndian [a, b] < UInt16.size := fun a b =>
    Nat.lt_of_lt_of_eq (bigEndian_lt [a, b]) (by norm_num [UInt16.size])
  have values := congrArg UInt16.toNat same
  unfold ntohs at values
  rw [Nat.toUInt16_eq, Nat.toUInt16_eq, UInt16.toNat_ofNat_of_lt' (small _ _),
    UInt16.toNat_ofNat_of_lt' (small _ _)] at values
  have bytes := bigEndian_inj (by simp only [List.length_cons]) values
  intro position inside
  interval_cases position <;> simp_all

theorem parseUdpIntType_last {first second : Bytes} (sign : byteAt first 0 = byteAt second 0)
    (same : parseUdpIntType first = parseUdpIntType second) :
    byteAt first 4 = byteAt second 4 := by
  unfold parseUdpIntType at same
  dsimp only at same
  rw [sign] at same
  have values : (ntohl (first.drop 1)).toInt32 = (ntohl (second.drop 1)).toInt32 := by
    split at same
    · rwa [Int32.mul_comm, ← Int32.neg_eq_neg_one_mul, Int32.mul_comm (ntohl _).toInt32,
        ← Int32.neg_eq_neg_one_mul, Int32.neg_inj] at same
    · exact same
  have last := ntohl_inj (congrArg Int32.toUInt32 values) 3 (by decide)
  rwa [byteAt_drop, byteAt_drop] at last

theorem parseUdpShortRealType_last {first second : Bytes}
    (same : parseUdpShortRealType first = parseUdpShortRealType second) :
    byteAt first 1 = byteAt second 1 :=
  ntohs_inj (UInt16.toNat_inj.mp (congrArg Quotient.num same)) 1 (by decide)

theorem parseUdpFloatType_den (buf : Bytes) :
    (parseUdpFloatType buf).den = (ipow 10 (byteAt buf 5)).toNat := by
  unfold parseUdpFloatType
  dsimp only
  split <;> rfl

/-- Behind two different datagrams the bytes in front of the place are the same. -/
theorem window_agree (payload : Bytes) {count : Nat} {byte : UInt8}
    (inside : maxTopicLen + count < maxServerBuflen) :
    Agree count ((completed payload (leftover 0 0)).drop maxTopicLen)
      ((completed payload (leftover (maxTopicLen + count) byte)).drop maxTopicLen) := by
  intro position below
  rw [byteAt_drop, byteAt_drop, byteAt_completed payload (by decide),
    byteAt_completed payload inside, if_neg (show maxTopicLen + position ≠ maxTopicLen + count by
      omega)]
  split
  · rfl
  · split <;> rfl

/-- At the place itself they differ, when the datagram does not reach it. -/
theorem window_differs {payload : Bytes} {count : Nat} (byte : UInt8)
    (inside : maxTopicLen + count < maxServerBuflen)
    (short : payload.length ≤ maxTopicLen + count) :
    byteAt ((completed payload (leftover 0 0)).drop maxTopicLen) count = 0 ∧
      byteAt ((completed payload (leftover (maxTopicLen + count) byte)).drop maxTopicLen) count =
        byte := by
  rw [byteAt_drop, byteAt_drop, byteAt_completed payload (by decide),
    byteAt_completed payload inside, if_neg (Nat.not_lt.mpr short), if_neg (Nat.not_lt.mpr short),
    if_pos rfl]
  exact ⟨by split <;> rfl, rfl⟩

/-- A string without a NUL goes on into what lies behind it. -/
theorem parsedString_open {tail rest : Bytes} {byte : UInt8} (free : NulFree tail)
    (short : tail.length < maxStringLen)
    (enough : maxStringLen ≤ (tail ++ byte :: rest).length) :
    ∃ more, cstr (parseUdpStringType (tail ++ byte :: rest)).bytes =
      tail ++ cstr (byte :: more) := by
  obtain ⟨room, eq⟩ : ∃ room, maxStringLen - tail.length = room + 1 :=
    Nat.exists_eq_add_one.mpr (by omega)
  refine ⟨rest.take room, ?_⟩
  rw [parseUdpStringType_bytes enough, List.take_append, List.take_of_length_le (by omega), eq,
    List.take_succ_cons, cstr_append_of_nulFree free]

theorem completed_behind {payload : Bytes} (long : maxTopicLen ≤ payload.length)
    (short : payload.length < maxServerBuflen) (place : Nat) (byte : UInt8) :
    (completed payload (leftover place byte)).drop maxTopicLen = payload.drop maxTopicLen ++
      byteAt (leftover place byte) payload.length ::
        (leftover place byte).drop (payload.length + 1) := by
  have inside : payload.length < (leftover place byte).length := by
    rw [leftover_length]
    exact short
  rw [completed, List.drop_append_of_le_length long, List.drop_eq_getElem_cons inside, byteAt,
    List.getD_eq_getElem _ _ inside]

section Necessity

variable {payload : Bytes} (isolated : Isolated payload) (nonempty : payload ≠ [])
  (fits : payload.length ≤ maxServerBuflen)
include isolated nonempty fits

/-- The datagram is stored as the same message behind two different ones. -/
theorem Isolated.same (place : Nat) (byte : UInt8)
    (known : KnownType (typeByte (leftover place byte)))
    (first : KnownType (typeByte (completed payload (leftover 0 0))))
    (second : KnownType (typeByte (completed payload (leftover place byte)))) :
    (parsedUdpType (Buffer.zero _) (completed payload (leftover 0 0))).data.seen =
      (parsedUdpType (Buffer.zero _) (completed payload (leftover place byte))).data.seen := by
  have stored : ∀ {place byte}, Primed place byte →
      KnownType (typeByte (completed payload (leftover place byte))) → ∃ text,
        Published (.primed place byte) (serve (.hearing payload) 1 (.primed place byte))
          (parsedUdpType (Buffer.zero _) (completed payload (leftover place byte))) text := by
    intro place byte primed accepted
    have hears := Hears.hearing payload primed.atUdp
    have buf : ((Server.primed place byte).receive (Buffer.zero _) payload).buf.bytes =
        completed payload (leftover place byte) := by
      rw [Server.receive]
      dsimp only
      rw [splice_front, List.take_of_length_le fits, primed.buf, completed]
    obtain ⟨tail, _, published⟩ := hears.published nonempty (by rw [buf]; exact accepted)
    rw [receive_parsed _ _ fits, primed.buf] at published
    exact ⟨_, published⟩
  have zeros : KnownType (typeByte (leftover 0 0)) := by
    rw [typeByte, byteAt_leftover (by decide), if_neg (by decide)]
    decide
  have before := Primed.of_known zeros
  have after := Primed.of_known known
  obtain ⟨_, one⟩ := stored before first
  obtain ⟨_, two⟩ := stored after second
  have alike := isolated _ _ _ _ _ _ _ before.reachable after.reachable
    (.hearing payload before.atUdp) (.hearing payload after.atUdp)
  rcases alike with ⟨msg, other, text, left, right, same⟩ | ⟨refused, _⟩
  · have firstMsg := List.append_cancel_left (one.stored.symm.trans left.stored)
    have secondMsg := List.append_cancel_left (two.stored.symm.trans right.stored)
    rw [List.singleton_inj.mp firstMsg, List.singleton_inj.mp secondMsg]
    exact same.data
  · exact absurd one.err refused.err

theorem Isolated.long : maxTopicLen ≤ payload.length := by
  by_contra short
  have behind : ¬ maxTopicLen - 1 < payload.length := by
    have topic : maxTopicLen = 51 := rfl
    omega
  have zero : typeByte (completed payload (leftover 0 0)) = 0 := by
    rw [typeByte, byteAt_completed payload (by decide), if_neg behind, if_neg (by decide)]
  have one : typeByte (completed payload (leftover (maxTopicLen - 1) 1)) = 1 := by
    rw [typeByte, byteAt_completed payload (by decide), if_neg behind, if_pos rfl]
  have left : typeByte (leftover (maxTopicLen - 1) 1) = 1 := by
    rw [typeByte, byteAt_leftover (by decide), if_pos rfl]
  have same := isolated.same nonempty fits (maxTopicLen - 1) 1 (by rw [left]; decide)
    (by rw [zero]; decide) (by rw [one]; decide)
  unfold parsedUdpType at same
  dsimp only at same
  change (parseUdpData (typeByte _) _).seen = (parseUdpData (typeByte _) _).seen at same
  rw [zero, one] at same
  cases same

/-- The value is parsed to the same from behind two different datagrams. -/
theorem Isolated.window (known : KnownType (typeByte payload)) (count : Nat) (byte : UInt8)
    (inside : maxTopicLen + count < maxServerBuflen) :
    (parseUdpData (typeByte payload)
        ((completed payload (leftover 0 0)).drop maxTopicLen)).seen =
      (parseUdpData (typeByte payload)
        ((completed payload (leftover (maxTopicLen + count) byte)).drop maxTopicLen)).seen := by
  have long := isolated.long nonempty fits
  have topic : maxTopicLen = 51 := rfl
  have own : ∀ place byte, place < maxServerBuflen →
      typeByte (completed payload (leftover place byte)) = typeByte payload := by
    intro place byte small
    rw [typeByte, byteAt_completed payload small, if_pos (by omega), typeByte]
  have zero : typeByte (leftover (maxTopicLen + count) byte) = 0 := by
    rw [typeByte, byteAt_leftover inside, if_neg (by omega)]
  have first := own 0 0 (by omega)
  have second := own (maxTopicLen + count) byte inside
  have same := isolated.same nonempty fits (maxTopicLen + count) byte (by rw [zero]; decide)
    (by rw [first]; exact known) (by rw [second]; exact known)
  unfold parsedUdpType at same
  dsimp only at same
  change (parseUdpData (typeByte _) _).seen = (parseUdpData (typeByte _) _).seen at same
  rwa [first, second] at same

/-- Two windows that a datagram leaves open at a place: they differ there, agree
in front of it and are parsed to the same. -/
theorem Isolated.windows (known : KnownType (typeByte payload)) (count : Nat) (byte : UInt8)
    (inside : maxTopicLen + count < maxServerBuflen)
    (short : payload.length ≤ maxTopicLen + count) :
    ∃ first second : Bytes, Agree count first second ∧ byteAt first count = 0 ∧
      byteAt second count = byte ∧ (parseUdpData (typeByte payload) first).seen =
        (parseUdpData (typeByte payload) second).seen := by
  obtain ⟨zero, other⟩ := window_differs byte inside short
  exact ⟨_, _, window_agree payload inside, zero, other,
    isolated.window nonempty fits known count byte inside⟩

theorem Isolated.string (tag : (typeByte payload).toNat = 3) :
    maxTopicLen + maxStringLen ≤ payload.length ∨ 0 ∈ payload.drop maxTopicLen := by
  by_contra both
  obtain ⟨narrow, absent⟩ := not_or.mp both
  have long := isolated.long nonempty fits
  have limit : maxTopicLen + maxStringLen < maxServerBuflen := by decide
  have free : NulFree (payload.drop maxTopicLen) :=
    fun byte member zero => absent (zero ▸ member)
  have length : (payload.drop maxTopicLen).length = payload.length - maxTopicLen :=
    List.length_drop
  have end_ : maxTopicLen + (payload.length - maxTopicLen) = payload.length := by omega
  have same := isolated.window nonempty fits (by unfold KnownType; omega)
    (payload.length - maxTopicLen) 1 (by omega)
  have whole : ∀ place byte, maxStringLen ≤ (payload.drop maxTopicLen ++
      byteAt (leftover place byte) payload.length ::
        (leftover place byte).drop (payload.length + 1)).length := by
    intro place byte
    rw [List.length_append, List.length_cons, length, List.length_drop, leftover_length]
    omega
  rw [end_, completed_behind long (by omega), completed_behind long (by omega)] at same
  rw [parseUdpData_string _ tag, parseUdpData_string _ tag] at same
  obtain ⟨more, first⟩ := parsedString_open free (by omega) (whole 0 0)
  obtain ⟨rest, second⟩ := parsedString_open free (by omega) (whole payload.length 1)
  have texts := (first.symm.trans (Sum.inr.inj same)).trans second
  rw [byteAt_leftover (by decide), byteAt_leftover (by omega), if_pos rfl] at texts
  have tails := List.append_cancel_left texts
  split at tails
  · cases tails
  · cases tails

theorem Isolated.selfContained : SelfContained payload := by
  have topic : maxTopicLen = 51 := rfl
  have limit : maxServerBuflen = 8096 := rfl
  refine ⟨isolated.long nonempty fits, ?_, ?_, ?_, isolated.string nonempty fits⟩
  · intro tag
    by_contra short
    obtain ⟨first, second, agree, zero, one, same⟩ :=
      isolated.windows nonempty fits (by unfold KnownType; omega) 4 1 (by omega) (by omega)
    rw [parseUdpData_int _ tag, parseUdpData_int _ tag] at same
    have last := parseUdpIntType_last (agree 0 (by omega)) (UdpData.int.inj (Sum.inl.inj same))
    rw [zero, one] at last
    cases last
  · intro tag
    by_contra short
    obtain ⟨first, second, _, zero, other, same⟩ :=
      isolated.windows nonempty fits (by unfold KnownType; omega) 1 255 (by omega) (by omega)
    rw [parseUdpData_shortReal _ tag, parseUdpData_shortReal _ tag] at same
    have last := parseUdpShortRealType_last (UdpData.shortReal.inj (Sum.inl.inj same))
    rw [zero, other] at last
    cases last
  · intro tag
    by_contra short
    obtain ⟨first, second, _, zero, other, same⟩ :=
      isolated.windows nonempty fits (by unfold KnownType; omega) 5 32 (by omega) (by omega)
    rw [parseUdpData_float _ tag, parseUdpData_float _ tag] at same
    have divisors := congrArg Quotient.den (UdpData.float.inj (Sum.inl.inj same))
    rw [parseUdpFloatType_den, parseUdpFloatType_den, zero, other] at divisors
    exact absurd divisors (by decide)

end Necessity

/-- A datagram is treated alike after all histories exactly when it fills the
windows of its type or its string ends in it. -/
theorem isolated_iff {payload : Bytes} (nonempty : payload ≠ [])
    (fits : payload.length ≤ maxServerBuflen) : Isolated payload ↔ SelfContained payload :=
  ⟨fun isolated => isolated.selfContained nonempty fits, fun contained => contained.isolated fits⟩

/-- The INT 7 about an empty topic. -/
def sevenDatagram : Bytes := List.replicate 55 0 ++ [7]

theorem isolated_iff_seven : Isolated sevenDatagram ↔ SelfContained sevenDatagram :=
  isolated_iff (by decide) (by decide)

/-- A STRING about an empty topic whose text, `hi`, has no NUL behind it. -/
def hiDatagram : Bytes := List.replicate 50 0 ++ [3] ++ ascii "hi"

theorem datagram_not_isolated :
    ¬ ∀ payload : Bytes, payload ≠ [] → payload.length ≤ maxServerBuflen →
      KnownType (typeByte payload) → Isolated payload := by
  intro always
  have isolated := always hiDatagram (by decide) (by decide) (by decide)
  have ends := isolated.string (by decide) (by decide) (by decide)
  revert ends
  decide

end TopicBroker
