import TopicBroker.Model.Exchange
import TopicBroker.Proof.Commands

/-!
# The two sides of a conversation

What a subscriber puts on its connection, round by round, is one frame for each
request with a topic, and the server takes the frame for the line that was
typed. What a subscriber prints, round by round, are the texts of the frames at
the front of its connection.
-/

namespace TopicBroker

universe u v

variable {σ : Type u} {τ : Type v}

/-! ## The call that a line comes to -/

/-- What the server does about a line with a topic. -/
def answer (line : Bytes) (kernel : Kernel) (clientFd : Int) (s : Server) : Err × Server :=
  match lineWords line with
  | cmd :: topic :: more =>
      if cmd = subscribeCmd then
        let done := subscribeClientToTopic s.clients clientFd topic (typedOption more)
          kernel.subscribe
        (done.1, { s with clients := done.2 })
      else if cmd = unsubscribeCmd then
        let done := unsubscribeClientFromTopic s.clients clientFd topic
        (done.1, { s with clients := done.2 })
      else (.serverUnknownCommand, s)
  | _ => (.serverUnknownCommand, s)

/-- The server takes the frame for the line. -/
def TcpMsg.Brings (frame : TcpMsg) (line : Bytes) : Prop :=
  ∀ (kernel : Kernel) (clientFd : Int) (s : Server), s.recvMsg = frame →
    processServerTcpMsg kernel clientFd s = answer line kernel clientFd s

/-- The lines with a topic, which are the ones that a frame is sent for. -/
def requests (lines : List Bytes) : List Bytes :=
  lines.filter fun line => decide (2 ≤ (lineWords line).length)

theorem requests_append (lines more : List Bytes) :
    requests (lines ++ more) = requests lines ++ requests more := List.filter_append _ _

theorem processServerTcpMsg_unknown (kernel : Kernel) (clientFd : Int) {s : Server}
    {cmd rest : Bytes} (free : NulFree cmd) (data : s.recvMsg.data.bytes = cmd ++ 0 :: rest)
    (notSubscribe : cmd ≠ subscribeCmd) (notUnsubscribe : cmd ≠ unsubscribeCmd) :
    processServerTcpMsg kernel clientFd s = (.serverUnknownCommand, s) := by
  have read : cstr (s.recvMsg.data.bytes ++ kernel.past) = cmd := by
    rw [data, List.append_assoc]
    exact cstr_append_nul free _
  simp only [processServerTcpMsg, read]
  exact (if_neg notSubscribe).trans (if_neg notUnsubscribe)

/-- A name in front of a line is in front of its first word. -/
theorem firstWord_starts {line name cmd : Bytes} {more : List Bytes}
    (member : name ∈ commandNames) (starts : name <+: line)
    (parts : lineWords line = cmd :: more) : name <+: cmd := by
  have solid : ∀ other ∈ commandNames, other ≠ [] ∧
      ∀ c ∈ other, wordSeparator.contains c = false := by
    rw [commandNames_bytes, wordSeparator_bytes]
    decide +kernel
  obtain ⟨nonempty, clear⟩ := solid name member
  obtain ⟨rest, rfl⟩ := starts
  obtain ⟨letter, letters, spelled⟩ := List.exists_cons_of_ne_nil nonempty
  have word : (lineWords (name ++ rest)).head? =
      some ((name ++ rest).takeWhile fun c => !wordSeparator.contains c) := by
    rw [spelled, List.cons_append]
    exact firstWord_of_front (clear letter (spelled ▸ List.mem_cons_self))
  have whole : (name ++ rest).takeWhile (fun c => !wordSeparator.contains c) =
      name ++ rest.takeWhile fun c => !wordSeparator.contains c :=
    List.takeWhile_append_of_pos fun c among => by rw [clear c among]; rfl
  rw [parts, List.head?_cons, whole] at word
  rw [Option.some.inj word]
  exact List.prefix_append _ _

theorem subscribe_apart_unsubscribe {cmd : Bytes} (first : subscribeCmd <+: cmd)
    (second : unsubscribeCmd <+: cmd) : False := by
  have same := exclusive_front cmd subscribeCmd (by simp [commandNames]) unsubscribeCmd
    (by simp [commandNames]) first second
  exact absurd same (by decide)

section Requests

variable {this : Client} {line cmd topic : Bytes} {more : List Bytes} (typed : this.Typed line)

include typed

theorem Client.Typed.cmd_free (parts : lineWords line = cmd :: more) : NulFree cmd := by
  have part : cmd.Sublist line := sublist_of_mem_words (parts ▸ List.mem_cons_self)
  exact fun byte member => typed.free byte (part.subset member)

/-- A line that begins with the name of the first command goes out as a frame
that brings it. -/
theorem Client.Typed.subscribe_brings (starts : subscribeCmd <+: line)
    (parts : lineWords line = cmd :: topic :: more) (send : SendCall σ) (kernel : σ) :
    ∃ frame : TcpMsg, frame.Brings line ∧
      Framed send this kernel (processSubscribeCmd send this kernel) frame := by
  obtain ⟨topicFree, fits⟩ := typed.fits parts
  obtain ⟨frame, rest, framed, data, len⟩ :=
    processSubscribeCmd_framed send kernel (typed.text ▸ parts) fits
  refine ⟨frame, ?_, framed⟩
  rintro server clientFd s rfl
  unfold answer
  rw [parts]
  by_cases named : cmd = subscribeCmd
  · subst named
    rw [processServerTcpMsg_subscribe server clientFd topicFree data len, sfFrom_option]
    exact (if_pos rfl).symm
  · have starts := firstWord_starts (by simp [commandNames]) starts parts
    have other : cmd ≠ unsubscribeCmd := by
      rintro rfl
      exact subscribe_apart_unsubscribe starts List.prefix_rfl
    have front : s.recvMsg.data.bytes = cmd ++ 0 :: (topic ++ 0 :: sfFrom more.head? :: rest) := by
      simpa using data
    rw [processServerTcpMsg_unknown server clientFd (typed.cmd_free parts) front named other]
    simp only [if_neg named, if_neg other]

theorem Client.Typed.unsubscribe_brings (starts : unsubscribeCmd <+: line)
    (parts : lineWords line = cmd :: topic :: more) (send : SendCall σ) (kernel : σ) :
    ∃ frame : TcpMsg, frame.Brings line ∧
      Framed send this kernel (processUnsubscribeCmd send this kernel) frame := by
  obtain ⟨topicFree, fits⟩ := typed.fits parts
  obtain ⟨frame, rest, framed, data⟩ :=
    processUnsubscribeCmd_framed send kernel (typed.text ▸ parts) fits
  refine ⟨frame, ?_, framed⟩
  rintro server clientFd s rfl
  unfold answer
  rw [parts]
  have starts := firstWord_starts (by simp [commandNames]) starts parts
  have named : cmd ≠ subscribeCmd := by
    rintro rfl
    exact subscribe_apart_unsubscribe List.prefix_rfl starts
  by_cases other : cmd = unsubscribeCmd
  · subst other
    rw [processServerTcpMsg_unsubscribe server clientFd topicFree data]
    simp only [if_neg named, if_pos]
  · have front : s.recvMsg.data.bytes = cmd ++ 0 :: (topic ++ 0 :: rest) := by simpa using data
    rw [processServerTcpMsg_unknown server clientFd (typed.cmd_free parts) front named other]
    simp only [if_neg named, if_neg other]

end Requests

/-! ## What a subscriber sends -/

/-- Frames that bring the requests among the lines were put behind what was on
the connection, one for each. -/
def Spoke (out : Outlet σ) (before after : σ) (lines : List Bytes) : Prop :=
  ∃ frames : List TcpMsg, out.wire after = out.wire before ++ joined (frames.map TcpMsg.toBuffer) ∧
    List.Forall₂ TcpMsg.Brings frames (requests lines)

theorem Spoke.nothing (out : Outlet σ) (kernel : σ) : Spoke out kernel kernel [] :=
  ⟨[], (List.append_nil _).symm, .nil⟩

section Obey

variable {this : Client} {line : Bytes}

theorem Spoke.of_framed {out : Outlet σ} {kernel : σ} {done : Err × Client × σ} {frame : TcpMsg}
    (framed : Framed out.put this kernel done frame) (valid : 0 ≤ this.tcpSocket)
    (brings : frame.Brings line) (worded : 2 ≤ (lineWords line).length) :
    Spoke out kernel done.2.2 [line] := by
  refine ⟨[frame], ?_, ?_⟩
  · obtain ⟨_, wire⟩ := sendTcpMsg_wire out valid (by decide) frame.toBuffer kernel
    rw [framed.kernel, wire]
    simp [joined]
  · have kept : requests [line] = [line] := by simp [requests, worded]
    rw [kept]
    exact .cons brings .nil

theorem Spoke.of_missing {out : Outlet σ} {kernel : σ} (few : (lineWords line).length < 2) :
    Spoke out kernel kernel [line] := by
  have dropped : requests [line] = [] := by simp [requests, few]
  exact ⟨[], (List.append_nil _).symm, by rw [dropped]; exact .nil⟩

theorem lineWords_cases (line : Bytes) : (lineWords line).length < 2 ∨
    ∃ cmd topic more, lineWords line = cmd :: topic :: more := by
  match lineWords line with
  | [] => exact Or.inl Nat.zero_lt_two
  | [_] => exact Or.inl Nat.one_lt_two
  | cmd :: topic :: more => exact Or.inr ⟨cmd, topic, more, rfl⟩

theorem Client.Typed.subscribe_speaks (typed : this.Typed line) (starts : subscribeCmd <+: line)
    (valid : 0 ≤ this.tcpSocket) (out : Outlet σ) (kernel : σ) :
    Spoke out kernel (processSubscribeCmd out.put this kernel).2.2 [line] ∧
      (processSubscribeCmd out.put this kernel).2.1.tcpSocket = this.tcpSocket := by
  rcases lineWords_cases line with few | ⟨cmd, topic, more, parts⟩
  · rw [(typed.missing few out.put kernel).1]
    exact ⟨.of_missing few, rfl⟩
  · obtain ⟨frame, brings, framed⟩ := typed.subscribe_brings starts parts out.put kernel
    refine ⟨.of_framed framed valid brings (by simp [parts]), ?_⟩
    rw [framed.sendMsg]

theorem Client.Typed.unsubscribe_speaks (typed : this.Typed line)
    (starts : unsubscribeCmd <+: line) (valid : 0 ≤ this.tcpSocket) (out : Outlet σ) (kernel : σ) :
    Spoke out kernel (processUnsubscribeCmd out.put this kernel).2.2 [line] ∧
      (processUnsubscribeCmd out.put this kernel).2.1.tcpSocket = this.tcpSocket := by
  rcases lineWords_cases line with few | ⟨cmd, topic, more, parts⟩
  · rw [(typed.missing few out.put kernel).2]
    exact ⟨.of_missing few, rfl⟩
  · obtain ⟨frame, brings, framed⟩ := typed.unsubscribe_brings starts parts out.put kernel
    refine ⟨.of_framed framed valid brings (by simp [parts]), ?_⟩
    rw [framed.sendMsg]

end Obey

/-- What a call of `get_cmd_line` leaves behind. -/
structure Got (this got : Subscriber) (cmd : CmdLine) : Prop where
  socket : got.tcpSocket = this.tcpSocket
  typed : cmd ≠ .none → got.toClient.Typed (cstr got.cmd.bytes)
  front : ∀ name, cmd.name = some name → name <+: cstr got.cmd.bytes

/-- What `fgets` read is a line in the buffer. -/
theorem fgets_typed {this : Client} {cmd : Buffer maxClientCmdLen} {stdin rest : Bytes}
    (read : fgets this.cmd stdin = some (cmd, rest)) :
    Client.Typed { this with cmd := cmd } (cstr cmd.bytes) := by
  unfold fgets at read
  dsimp only at read
  split at read
  · cases read
  · obtain ⟨rfl, _⟩ := Prod.mk.inj (Option.some.inj read)
    obtain ⟨stale, bytes⟩ := Buffer.filled_bytes (by decide) this.cmd stdin
    have nul : 0 ∈ (this.cmd.filled stdin).bytes := by
      rw [bytes]
      simp
    have short := chunk_length_le isNewline (maxClientCmdLen - 1) stdin
    refine ⟨cstr_nulFree _, ?_, cstr_split nul⟩
    have front : 0 ∈ (this.cmd.filled stdin).bytes.take
        ((chunk isNewline (maxClientCmdLen - 1) stdin).length + 1) := by
      rw [bytes, List.take_length_add_append]
      simp
    have inside : (chunk isNewline (maxClientCmdLen - 1) stdin).length + 1 ≤
        (this.cmd.filled stdin).bytes.length := by
      rw [bytes]
      simp
    exact Nat.le_trans (Nat.le_of_lt_succ ((nul_mem_take_iff inside).mp front)) short

theorem Subscriber.getCmdLine_got (this : Subscriber) (stdin : Bytes) :
    Got this (this.getCmdLine stdin).2.1 (this.getCmdLine stdin).1 := by
  have nothing : Got this this .none := ⟨rfl, fun impossible => absurd rfl impossible,
    fun name impossible => nomatch impossible⟩
  unfold Subscriber.getCmdLine
  split
  · exact nothing
  · split
    · split
      · split
        · exact nothing
        · rename_i cmd rest read
          have typed := fgets_typed read
          dsimp only
          split
          · rename_i front
            refine ⟨rfl, fun _ => typed, ?_⟩
            rintro _ ⟨⟩
            exact (strncmpEq_iff subscribeCmd_free).mp front
          · split
            · rename_i front
              refine ⟨rfl, fun _ => typed, ?_⟩
              rintro _ ⟨⟩
              exact (strncmpEq_iff unsubscribeCmd_free).mp front
            · split
              · rename_i front
                refine ⟨rfl, fun _ => typed, ?_⟩
                rintro _ ⟨⟩
                exact (strncmpEq_iff (by decide +kernel)).mp front
              · exact ⟨rfl, fun impossible => absurd rfl impossible,
                  fun name impossible => nomatch impossible⟩
      · exact nothing
    · exact nothing

/-! ## What a subscriber prints -/

/-- What is printed for a frame. -/
def TcpMsg.text (frame : TcpMsg) : Bytes := cstr frame.data.bytes ++ ascii "\n"

/-- The texts of the frames at the front of the connection were printed, the
other frames are still on it. -/
def Printed (inn : Inlet τ) (unread : List TcpMsg) (shown : Bytes) (after : τ) : Prop :=
  ∃ now later, unread = now ++ later ∧ shown = now.flatMap TcpMsg.text ∧
    inn.left after = joined (later.map TcpMsg.toBuffer)

theorem Printed.nothing {inn : Inlet τ} {unread : List TcpMsg} {kernel : τ}
    (left : inn.left kernel = joined (unread.map TcpMsg.toBuffer)) :
    Printed inn unread [] kernel := ⟨[], unread, rfl, rfl, left⟩

/-- An end that has nothing left stays so. -/
theorem recvLoop_ended (inn : Inlet τ) {size : Nat} {rounds bytesSend : Nat} (buf : Buffer size)
    {kernel : τ} (ended : inn.left kernel = []) :
    inn.left (recvLoop inn.get rounds bytesSend buf kernel).2.2 = [] := by
  induction rounds generalizing bytesSend buf kernel with
  | zero => exact ended
  | succ rounds ih =>
      rw [recvLoop]
      split
      · have parts := inn.get_splits kernel (size - bytesSend)
        rw [ended] at parts
        obtain ⟨nothing, after⟩ := List.append_eq_nil_iff.mp parts
        dsimp only
        rw [if_pos nothing]
        exact after
      · exact ended

theorem Subscriber.processReadyFds_socket (recv : RecvCall τ) (past : Bytes) (this : Subscriber)
    (kernel : τ) : (this.processReadyFds recv past kernel).2.1.tcpSocket = this.tcpSocket := by
  unfold Subscriber.processReadyFds
  split
  · rfl
  · split
    · dsimp only
      split
      · rfl
      · split <;> rfl
    · rfl

theorem Subscriber.processReadyFds_printed (inn : Inlet τ) (past : Bytes) {this : Subscriber}
    (valid : 0 ≤ this.tcpSocket) {unread : List TcpMsg}
    (ended : ∀ frame ∈ unread, 0 ∈ frame.data.bytes) {kernel : τ}
    (left : inn.left kernel = joined (unread.map TcpMsg.toBuffer)) :
    Printed inn unread (this.processReadyFds inn.get past kernel).2.2.1
      (this.processReadyFds inn.get past kernel).2.2.2 := by
  unfold Subscriber.processReadyFds
  split
  · exact .nothing left
  · split
    · cases unread with
      | nil =>
          -- nothing has come, or the connection is closed
          have less : (inn.left kernel).length < sizeofTcpMsg - 0 := by
            rw [left]
            decide
          have torn := recvLoop_torn inn (Nat.le_add_left sizeofTcpMsg 0) this.recvMsg.toBuffer less
          have after : inn.left
              (recvLoop inn.get sizeofTcpMsg 0 this.recvMsg.toBuffer kernel).2.2 = [] :=
            recvLoop_ended inn _ left
          rw [recvTcpMsg_loop inn.get valid (by decide)]
          dsimp only
          rw [if_pos torn]
          exact .nothing after
      | cons frame unread =>
          rw [List.map_cons, joined_cons] at left
          obtain ⟨reached, received, behind⟩ :=
            recvTcpMsg_whole inn valid (by decide) this.recvMsg.toBuffer left
          have text : cstr (frame.data.bytes ++ past) = cstr frame.data.bytes :=
            cstr_append_of_nul (ended frame List.mem_cons_self) past
          rw [received]
          dsimp only
          rw [if_neg (by decide), if_neg (not_not.mpr rfl), TcpMsg.ofBuffer_toBuffer, text]
          exact ⟨[frame], unread, rfl, (List.append_nil _).symm, behind⟩
    · exact .nothing left

/-! ## A round of the main loop -/

section Round

variable {main : SubscriberMain σ τ} (valid : 0 ≤ main.this.tcpSocket) (past : Bytes)
  (call : PollCall)

include valid

theorem SubscriberMain.round_spoke (out : Outlet σ) (recv : RecvCall τ) :
    Spoke out main.out (main.round out.put recv past call).out (main.request call) ∧
      (main.round out.put recv past call).this.tcpSocket = main.this.tcpSocket := by
  unfold SubscriberMain.round SubscriberMain.request
  dsimp only
  split
  · rename_i failed
    rw [if_neg fun both => failed both.1]
    exact ⟨.nothing out main.out, rfl⟩
  · rename_i waited
    have got := Subscriber.getCmdLine_got
      { main.this with pollVec := (waitForReadyFds call main.this.pollVec).2 } main.stdin
    generalize Subscriber.getCmdLine _ main.stdin = read at got ⊢
    obtain ⟨cmd, this, stdin⟩ := read
    dsimp only at got ⊢
    have socket : 0 ≤ this.tcpSocket := got.socket ▸ valid
    cases cmd with
    | subscribe =>
        obtain ⟨spoke, same⟩ := (got.typed CmdLine.noConfusion).subscribe_speaks
          (got.front _ rfl) socket out main.out
        rw [if_pos ⟨not_not.mp waited, Or.inl rfl⟩]
        exact ⟨spoke, same.trans got.socket⟩
    | unsubscribe =>
        obtain ⟨spoke, same⟩ := (got.typed CmdLine.noConfusion).unsubscribe_speaks
          (got.front _ rfl) socket out main.out
        rw [if_pos ⟨not_not.mp waited, Or.inr rfl⟩]
        exact ⟨spoke, same.trans got.socket⟩
    | exit =>
        rw [if_neg (by simp)]
        exact ⟨.nothing out main.out, got.socket⟩
    | none =>
        rw [if_neg (by simp)]
        exact ⟨.nothing out main.out,
          (this.processReadyFds_socket recv past main.inn).trans got.socket⟩

theorem SubscriberMain.round_printed (send : SendCall σ) (inn : Inlet τ) {unread : List TcpMsg}
    (ended : ∀ frame ∈ unread, 0 ∈ frame.data.bytes)
    (left : inn.left main.inn = joined (unread.map TcpMsg.toBuffer)) :
    ∃ shown, (main.round send inn.get past call).shown = main.shown ++ shown ∧
      Printed inn unread shown (main.round send inn.get past call).inn := by
  unfold SubscriberMain.round
  dsimp only
  split
  · exact ⟨[], (List.append_nil _).symm, .nothing left⟩
  · have got := Subscriber.getCmdLine_got
      { main.this with pollVec := (waitForReadyFds call main.this.pollVec).2 } main.stdin
    generalize Subscriber.getCmdLine _ main.stdin = read at got ⊢
    obtain ⟨cmd, this, stdin⟩ := read
    dsimp only at got ⊢
    cases cmd with
    | none =>
        have socket : 0 ≤ this.tcpSocket := got.socket ▸ valid
        exact ⟨_, rfl, this.processReadyFds_printed inn past socket ended left⟩
    | subscribe => exact ⟨[], (List.append_nil _).symm, .nothing left⟩
    | unsubscribe => exact ⟨[], (List.append_nil _).symm, .nothing left⟩
    | exit => exact ⟨[], (List.append_nil _).symm, .nothing left⟩

end Round

/-! ## The first frame -/

/-- A subscriber that started has sent its id. -/
theorem initClient_sent (out : Outlet σ) {kernel : InitClientKernel} {id : Bytes}
    {hport : UInt16} {before after : σ} {this : Subscriber}
    (started : initClient out.put kernel id hport before = (.ok this, after)) :
    0 ≤ this.tcpSocket ∧ out.wire after = out.wire before ++ (idFrame id).toBuffer.bytes := by
  unfold initClient at started
  split at started
  · cases started
  · split at started
    · cases started
    · split at started
      · cases started
      · split at started
        · cases started
        · dsimp only at started
          split at started
          · cases started
          · rename_i connected
            split at started
            · cases started
            · cases started
              simp only [Bool.not_eq_true, Bool.not_eq_false'] at connected
              unfold initClientTcpSocket at connected ⊢
              split at connected
              · cases connected
              · rename_i opened
                have valid : 0 ≤ kernel.tcpSocket := Int.not_lt.mp opened
                rw [if_neg opened]
                split at connected
                · cases connected
                · rename_i prompt
                  rw [if_neg prompt]
                  split at connected
                  · cases connected
                  · rename_i reached
                    rw [if_neg reached]
                    exact ⟨valid, (sendTcpMsg_wire out valid (by decide) _ before).2⟩

theorem idFrame_data {id : Bytes} (short : id.length < maxIdClientLen) :
    ∃ rest, (idFrame id).data.bytes = id ++ 0 :: rest := by
  have limit : maxIdClientLen ≤ maxTcpMsgBufLen := by decide
  have written := strcpy_behind TcpMsg.zero.data id
    (show TcpMsg.zero.data.bytes = [] ++ TcpMsg.zero.data.bytes from rfl)
    (by rw [List.length_nil]; omega)
  rw [List.nil_append, List.append_assoc] at written
  exact ⟨_, written⟩

/-- The frame in front of a stream is what `recv_tcp_msg` reads from it. -/
theorem Kernel.Hands.recv {kernel : Kernel} {stream rest : Bytes} {frame : TcpMsg}
    (hands : kernel.Hands stream) (front : stream = frame.toBuffer.bytes ++ rest) {fd : Int}
    (valid : 0 ≤ fd) (msg : TcpMsg) : kernel.recvTcpMsg fd msg = (.ok, frame) := by
  obtain ⟨cuts, reads⟩ := hands
  obtain ⟨reached, received, _⟩ := recvTcpMsg_whole (Inlet.sliced cuts) valid (by decide)
    msg.toBuffer (show (Inlet.sliced cuts).left (0, stream) = _ from front)
  rw [reads, received]
  exact congrArg (Prod.mk Err.ok) frame.ofBuffer_toBuffer

theorem Kernel.Hands.torn {kernel : Kernel} (hands : kernel.Hands []) {fd : Int} (valid : 0 ≤ fd)
    (msg : TcpMsg) : (kernel.recvTcpMsg fd msg).1 = .tcpFailedSendRecv := by
  obtain ⟨cuts, reads⟩ := hands
  rw [reads, recvTcpMsg_loop _ valid (by decide)]
  exact recvLoop_torn (Inlet.sliced cuts) (Nat.le_add_left _ _) msg.toBuffer
    (show 0 < sizeofTcpMsg by decide)

/-- The server reads the id that the subscriber sent. -/
theorem Kernel.Hands.newcomer {kernel : Kernel} {stream rest id : Bytes} {s : Server}
    (hands : kernel.Hands stream) (front : stream = (idFrame id).toBuffer.bytes ++ rest)
    (free : NulFree id) (short : id.length < maxIdClientLen)
    (valid : 0 ≤ kernel.accept s.pollVec.fds) : kernel.newcomer s = id := by
  obtain ⟨behind, data⟩ := idFrame_data short
  unfold Kernel.newcomer
  rw [hands.recv front valid, data, List.append_assoc]
  exact cstr_append_nul free _

end TopicBroker
