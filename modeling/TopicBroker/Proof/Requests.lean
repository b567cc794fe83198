import TopicBroker.Lib.Words
import TopicBroker.Model.Server
import TopicBroker.Model.Subscriber
import TopicBroker.Proof.Framing

/-!
# Requests from the keyboard to the table

What the user of a subscriber types becomes one frame, and the server reads the
same words out of the frame again, whatever stood in the buffers of either side
before.
-/

namespace TopicBroker

universe u v

variable {σ : Type u} {τ : Type v}

/-! ## Words of a line -/

/-- The maximal runs of bytes other than space and newline. -/
def lineWords (line : Bytes) : List Bytes := words (fun c => wordSeparator.contains c) line

theorem strtokR_words (line : Bytes) :
    (strtokR wordSeparator line).1 = (lineWords line).head? ∧
      lineWords (strtokR wordSeparator line).2 = (lineWords line).tail := by
  have skipped : lineWords (line.dropWhile fun c => wordSeparator.contains c) = lineWords line :=
    words_dropWhile line
  unfold strtokR
  dsimp only
  cases found : line.dropWhile (fun c => wordSeparator.contains c) with
  | nil =>
      rw [← skipped, found]
      simp [lineWords]
  | cons letter text =>
      have clear : wordSeparator.contains letter = false := by
        have stopped := List.head?_dropWhile_not (fun c => wordSeparator.contains c) line
        rw [found] at stopped
        exact stopped
      have front : (letter :: text).takeWhile (fun c => !wordSeparator.contains c) ≠ [] := by
        rw [List.takeWhile_cons_of_pos (by rw [clear]; rfl)]
        exact List.cons_ne_nil _ _
      have parts := words_takeWhile front
      rw [if_neg (List.cons_ne_nil _ _), ← skipped, found]
      change _ = (words _ _).head? ∧ words _ _ = (words _ _).tail
      rw [parts]
      exact ⟨rfl, rfl⟩

/-! ## The frame -/

theorem strcpy_behind {size : Nat} (data : Buffer size) (source : Bytes) {front rest : Bytes}
    (bytes : data.bytes = front ++ rest) (fits : front.length + source.length + 1 ≤ size) :
    (strcpy data front.length source).bytes =
      front ++ (source ++ [0]) ++ rest.drop (source.length + 1) := by
  have shown := data.splice_behind (source ++ [0]) bytes
    (by rw [List.length_append, List.length_singleton]; omega)
  rwa [List.length_append] at shown

/-- Two strings written one behind the other. -/
theorem strcpy_twice {size : Nat} (data : Buffer size) (cmd topic : Bytes)
    (fits : cmd.length + topic.length + 2 ≤ size) :
    ∃ rest, (strcpy (strcpy data 0 cmd) (cmd.length + 1) topic).bytes =
      (cmd ++ [0] ++ (topic ++ [0])) ++ rest := by
  have first := strcpy_behind data cmd (show data.bytes = [] ++ data.bytes from rfl)
    (by rw [List.length_nil]; omega)
  rw [List.nil_append, List.length_nil] at first
  have second := strcpy_behind (strcpy data 0 cmd) topic first
    (by rw [List.length_append, List.length_singleton]; omega)
  rw [List.length_append, List.length_singleton] at second
  exact ⟨_, second⟩

/-- The command and the topic are found again in front of the frame. -/
theorem decode_texts {memory cmd topic rest : Bytes} (cmdFree : NulFree cmd)
    (topicFree : NulFree topic) (bytes : memory = (cmd ++ [0] ++ (topic ++ [0])) ++ rest) :
    cstr memory = cmd ∧ cstr (memory.drop (cmd.length + 1)) = topic := by
  have opened : memory = cmd ++ 0 :: (topic ++ 0 :: rest) := by
    rw [bytes]
    simp
  constructor
  · rw [opened, cstr_append_nul cmdFree]
  · have behind : memory.drop (cmd.length + 1) = topic ++ 0 :: rest := by
      rw [opened, ← List.drop_drop, List.drop_left, List.drop_one, List.tail_cons]
    rw [behind, cstr_append_nul topicFree]

/-! ## The server's side -/

theorem subscribeCmd_free : NulFree subscribeCmd := by decide +kernel

theorem unsubscribeCmd_free : NulFree unsubscribeCmd := by decide +kernel

theorem processServerTcpMsg_subscribe (kernel : Kernel) (clientFd : Int) {s : Server}
    {topic rest : Bytes} {sf : UInt8} (free : NulFree topic)
    (data : s.recvMsg.data.bytes = (subscribeCmd ++ [0] ++ (topic ++ [0])) ++ sf :: rest)
    (len : s.recvMsg.len.toNat = (subscribeCmd ++ [0] ++ (topic ++ [0])).length + 1) :
    processServerTcpMsg kernel clientFd s =
      let done := subscribeClientToTopic s.clients clientFd topic
        (if sf = 0 then .noSf else .sf) kernel.subscribe
      (done.1, { s with clients := done.2 }) := by
  have memory : s.recvMsg.data.bytes ++ kernel.past =
      (subscribeCmd ++ [0] ++ (topic ++ [0])) ++ (sf :: rest ++ kernel.past) := by
    rw [data, List.append_assoc]
  obtain ⟨cmd_eq, topic_eq⟩ := decode_texts subscribeCmd_free free memory
  have option : optionByte s.recvMsg kernel.past = sf := by
    have positive : s.recvMsg.len ≠ 0 := by
      intro zero
      rw [zero] at len
      exact absurd len (Nat.succ_ne_zero _).symm
    rw [optionByte, if_neg positive, len, Nat.add_sub_cancel, memory, byteAt,
      List.getD_append_right _ _ _ _ (Nat.le_refl _), Nat.sub_self]
    rfl
  unfold processServerTcpMsg
  dsimp only
  rw [cmd_eq, topic_eq, option]
  exact if_pos rfl

theorem processServerTcpMsg_unsubscribe (kernel : Kernel) (clientFd : Int) {s : Server}
    {topic rest : Bytes} (free : NulFree topic)
    (data : s.recvMsg.data.bytes = (unsubscribeCmd ++ [0] ++ (topic ++ [0])) ++ rest) :
    processServerTcpMsg kernel clientFd s =
      let done := unsubscribeClientFromTopic s.clients clientFd topic
      (done.1, { s with clients := done.2 }) := by
  have memory : s.recvMsg.data.bytes ++ kernel.past =
      (unsubscribeCmd ++ [0] ++ (topic ++ [0])) ++ (rest ++ kernel.past) := by
    rw [data, List.append_assoc]
  obtain ⟨cmd_eq, topic_eq⟩ := decode_texts unsubscribeCmd_free free memory
  unfold processServerTcpMsg
  dsimp only
  rw [cmd_eq, topic_eq, if_neg (by decide)]
  exact if_pos rfl

/-! ## The subscriber's side -/

/-- The option that the words behind the topic ask for. -/
def typedOption : List Bytes → ClientOption
  | [] => .noSf
  | sfStr :: _ => if 0 < atoi sfStr then .sf else .noSf

/-- The byte sent for the option is decoded into it. -/
theorem sfFrom_option (more : List Bytes) :
    (if sfFrom more.head? = 0 then ClientOption.noSf else .sf) = typedOption more := by
  cases more with
  | nil => rfl
  | cons sfStr more =>
      rw [List.head?_cons]
      by_cases positive : 0 < atoi sfStr
      · rw [sfFrom, typedOption, if_pos positive, if_neg (Int32.not_le.mpr positive)]
        rfl
      · rw [sfFrom, typedOption, if_neg positive, if_pos (Int32.not_lt.mp positive)]
        rfl

/-- What leaves the subscriber for a line: a frame made of the first two words,
whatever the frame held before. -/
structure Framed (send : SendCall σ) (this : Client) (kernel : σ) (done : Err × Client × σ)
    (frame : TcpMsg) : Prop where
  err : done.1 = (sendTcpMsg send this.tcpSocket frame.toBuffer.bytes kernel).1
  sendMsg : done.2.1 = { this with sendMsg := frame }
  kernel : done.2.2 = (sendTcpMsg send this.tcpSocket frame.toBuffer.bytes kernel).2

variable {send : SendCall σ} {this : Client} {kernel : σ} {cmd topic : Bytes} {more : List Bytes}

/-- The words that the commands ask for, one after the other. -/
theorem strtokR_thrice {line : Bytes} (typed : lineWords line = cmd :: topic :: more) :
    (strtokR wordSeparator line).1 = some cmd ∧
      (strtokR wordSeparator (strtokR wordSeparator line).2).1 = some topic ∧
      (strtokR wordSeparator (strtokR wordSeparator (strtokR wordSeparator line).2).2).1 =
        more.head? := by
  obtain ⟨first, behindFirst⟩ := strtokR_words line
  obtain ⟨second, behindSecond⟩ := strtokR_words (strtokR wordSeparator line).2
  obtain ⟨third, _⟩ := strtokR_words (strtokR wordSeparator (strtokR wordSeparator line).2).2
  rw [typed] at first behindFirst
  rw [behindFirst] at second behindSecond
  rw [behindSecond] at third
  exact ⟨first, second, third⟩

theorem processSubscribeCmd_framed (send : SendCall σ) (kernel : σ)
    (typed : lineWords (cstr this.cmd.bytes) = cmd :: topic :: more)
    (fits : cmd.length + topic.length + 3 ≤ maxTcpMsgBufLen) :
    ∃ frame rest, Framed send this kernel (processSubscribeCmd send this kernel) frame ∧
      frame.data.bytes = (cmd ++ [0] ++ (topic ++ [0])) ++ sfFrom more.head? :: rest ∧
      frame.len.toNat = (cmd ++ [0] ++ (topic ++ [0])).length + 1 := by
  obtain ⟨first, second, third⟩ := strtokR_thrice typed
  obtain ⟨old, texts⟩ := strcpy_twice this.sendMsg.data cmd topic (by omega)
  have length : (cmd ++ [0] ++ (topic ++ [0])).length = cmd.length + 1 + (topic.length + 1) := by
    simp only [List.length_append, List.length_singleton]
  have data := Buffer.splice_behind _ [sfFrom more.head?] texts
    (by rw [length, List.length_singleton]; omega)
  rw [length, List.append_assoc, List.singleton_append] at data
  refine ⟨⟨(1 + (cmd.length + 1 + (topic.length + 1))).toUInt16, _⟩, _, ?_, data, ?_⟩
  · unfold processSubscribeCmd
    dsimp only
    rw [first, second, third]
    dsimp only
    rw [fieldLen_toNat (show cmd.length + 1 ≤ _ by omega),
      fieldLen_toNat (show topic.length + 1 ≤ _ by omega)]
    exact ⟨rfl, rfl, rfl⟩
  · rw [length, fieldLen_toNat (by omega), Nat.add_comm]

theorem processUnsubscribeCmd_framed (send : SendCall σ) (kernel : σ)
    (typed : lineWords (cstr this.cmd.bytes) = cmd :: topic :: more)
    (fits : cmd.length + topic.length + 3 ≤ maxTcpMsgBufLen) :
    ∃ frame rest, Framed send this kernel (processUnsubscribeCmd send this kernel) frame ∧
      frame.data.bytes = (cmd ++ [0] ++ (topic ++ [0])) ++ rest := by
  obtain ⟨first, second, _⟩ := strtokR_thrice typed
  obtain ⟨rest, data⟩ := strcpy_twice this.sendMsg.data cmd topic (by omega)
  refine ⟨⟨(topic.length + 1 + (cmd.length + 1)).toUInt16, _⟩, rest, ?_, data⟩
  unfold processUnsubscribeCmd
  dsimp only
  rw [first, second]
  dsimp only
  rw [fieldLen_toNat (show cmd.length + 1 ≤ _ by omega),
    fieldLen_toNat (show topic.length + 1 ≤ _ by omega)]
  exact ⟨rfl, rfl, rfl⟩

/-! ## From the line to the call -/

/-- A line that was typed into the command buffer: `fgets` ended it with a NUL
and left the bytes behind as they were. -/
structure Client.Typed (this : Client) (line : Bytes) : Prop where
  free : NulFree line
  short : line.length ≤ maxClientCmdLen - 1
  held : ∃ stale, this.cmd.bytes = line ++ 0 :: stale

section Typed

variable {line : Bytes} (typed : this.Typed line)

include typed

theorem Client.Typed.text : cstr this.cmd.bytes = line := by
  obtain ⟨stale, held⟩ := typed.held
  rw [held, cstr_append_nul typed.free]

/-- The words of a line fit in a frame. -/
theorem Client.Typed.fits (parts : lineWords line = cmd :: topic :: more) :
    NulFree topic ∧ cmd.length + topic.length + 3 ≤ maxTcpMsgBufLen := by
  have known : ∀ word ∈ lineWords line, NulFree word ∧ word.length ≤ 127 := by
    intro word member
    have part := sublist_of_mem_words member
    exact ⟨fun byte inside => typed.free byte (part.subset inside),
      Nat.le_trans part.length_le typed.short⟩
  rw [parts] at known
  obtain ⟨free, topicShort⟩ := known topic (by simp)
  obtain ⟨_, cmdShort⟩ := known cmd (by simp)
  refine ⟨free, Nat.le_trans ?_ (show 257 ≤ maxTcpMsgBufLen by decide)⟩
  omega

/-- Without a topic nothing is sent. -/
theorem Client.Typed.missing (few : (lineWords line).length < 2) (send : SendCall σ) (kernel : σ) :
    processSubscribeCmd send this kernel = (.inputWrongFormat, this, kernel) ∧
      processUnsubscribeCmd send this kernel = (.inputWrongFormat, this, kernel) := by
  obtain ⟨first, behind⟩ := strtokR_words line
  obtain ⟨second, _⟩ := strtokR_words (strtokR wordSeparator line).2
  have none_left : (strtokR wordSeparator (strtokR wordSeparator line).2).1 = none := by
    rw [second, behind, List.head?_eq_none_iff, ← List.length_eq_zero_iff, List.length_tail]
    omega
  constructor
  · unfold processSubscribeCmd
    dsimp only
    rw [typed.text, none_left]
    cases (strtokR wordSeparator line).1 <;> rfl
  · unfold processUnsubscribeCmd
    dsimp only
    rw [typed.text, none_left]
    cases (strtokR wordSeparator line).1 <;> rfl

end Typed

/-- One frame goes out, and the server that receives it, whatever its own frame
held before, makes the given call and returns what the call returns. -/
structure Requested (out : Outlet σ) (inn : Inlet τ) (before : σ) (done : Err × Client × σ)
    (call : Kernel → ClientVec → Int → Err × ClientVec) : Prop where
  err : done.1 = .ok
  sent : out.taken before done.2.2 = done.2.1.sendMsg.toBuffer.bytes
  decoded : ∀ (s : Server) (kernel : Kernel) (clientFd : Int) (arrived : τ), 0 ≤ clientFd →
    inn.left arrived = out.taken before done.2.2 →
    let received := recvTcpMsg inn.get clientFd s.recvMsg.toBuffer arrived
    let answer := call kernel s.clients clientFd
    received.1 = .ok ∧
      processServerTcpMsg kernel clientFd { s with recvMsg := .ofBuffer received.2.1 } =
        (answer.1, { s with recvMsg := .ofBuffer received.2.1, clients := answer.2 })

theorem Framed.requested {out : Outlet σ} {before : σ} {done : Err × Client × σ} {frame : TcpMsg}
    (framed : Framed out.put this before done frame) (valid : 0 ≤ this.tcpSocket) (inn : Inlet τ)
    {call : Kernel → ClientVec → Int → Err × ClientVec}
    (decodes : ∀ (s : Server) (kernel : Kernel) (clientFd : Int), s.recvMsg = frame →
      processServerTcpMsg kernel clientFd s =
        ((call kernel s.clients clientFd).1,
          { s with clients := (call kernel s.clients clientFd).2 })) :
    Requested out inn before done call := by
  obtain ⟨ok, wire⟩ := sendTcpMsg_wire out valid (by decide) frame.toBuffer before
  have sent : out.taken before done.2.2 = done.2.1.sendMsg.toBuffer.bytes := by
    rw [Outlet.taken, framed.kernel, framed.sendMsg, wire, List.drop_left]
  refine ⟨framed.err.trans ok, sent, ?_⟩
  intro s kernel clientFd arrived peer stream
  rw [sent, framed.sendMsg, ← List.append_nil frame.toBuffer.bytes] at stream
  obtain ⟨reached, received, _⟩ :=
    recvTcpMsg_whole inn peer (by decide) s.recvMsg.toBuffer stream
  rw [received]
  dsimp only
  refine ⟨rfl, ?_⟩
  rw [TcpMsg.ofBuffer_toBuffer]
  exact decodes _ kernel clientFd rfl

/-- What becomes of the lines that start with the name of a command. -/
structure LineDecodes (out : Outlet σ) (inn : Inlet τ) (this : Client) (line : Bytes)
    (before : σ) : Prop where
  subscribe : ∀ topic more, lineWords line = ascii "subscribe" :: topic :: more →
    Requested out inn before (processSubscribeCmd out.put this before)
      fun kernel clients clientFd =>
        subscribeClientToTopic clients clientFd topic (typedOption more) kernel.subscribe
  unsubscribe : ∀ topic more, lineWords line = ascii "unsubscribe" :: topic :: more →
    Requested out inn before (processUnsubscribeCmd out.put this before)
      fun _ clients clientFd => unsubscribeClientFromTopic clients clientFd topic
  missing : (lineWords line).length < 2 →
    processSubscribeCmd out.put this before = (.inputWrongFormat, this, before) ∧
      processUnsubscribeCmd out.put this before = (.inputWrongFormat, this, before)

/-- A request is decoded into what was typed. -/
theorem request_decodes (out : Outlet σ) (inn : Inlet τ) {this : Client} {line : Bytes}
    (typed : this.Typed line) (valid : 0 ≤ this.tcpSocket) (before : σ) :
    LineDecodes out inn this line before := by
  refine ⟨?_, ?_, fun few => typed.missing few out.put before⟩
  · intro topic more parts
    obtain ⟨free, short⟩ := typed.fits parts
    obtain ⟨frame, rest, framed, data, len⟩ :=
      processSubscribeCmd_framed out.put before (typed.text ▸ parts) short
    refine framed.requested valid inn ?_
    rintro s kernel clientFd rfl
    rw [processServerTcpMsg_subscribe kernel clientFd free data len, sfFrom_option]
  · intro topic more parts
    obtain ⟨free, short⟩ := typed.fits parts
    obtain ⟨frame, rest, framed, data⟩ :=
      processUnsubscribeCmd_framed out.put before (typed.text ▸ parts) short
    refine framed.requested valid inn ?_
    rintro s kernel clientFd rfl
    rw [processServerTcpMsg_unsubscribe kernel clientFd free data]

/-- A subscriber whose user typed a line. -/
def Client.typing (line : Bytes) : Client where
  tcpSocket := 3
  cmd := (Buffer.zero _).splice 0 (line ++ [0])
  sendMsg := TcpMsg.zero

theorem request_decodes_news :
    LineDecodes (.sliced fun _ => 99) (.sliced fun _ => 9)
      (.typing (ascii "subscribe news 1\n")) (ascii "subscribe news 1\n") (0, []) :=
  request_decodes _ _
    ⟨by decide +kernel, by decide +kernel, List.replicate 110 0, by decide +kernel⟩
    (by decide) _

end TopicBroker
