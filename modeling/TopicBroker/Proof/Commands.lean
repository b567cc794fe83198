import TopicBroker.Lib.LineReader
import TopicBroker.Model.ServerLoop
import TopicBroker.Proof.Requests
import TopicBroker.Proof.Transmission

/-!
# Commands on standard input

Both programs read their standard input in chunks of a fixed size and compare
the front of each chunk with the names of the commands. A command is found by
its first letters, and a long line is taken for several.
-/

namespace TopicBroker

universe u

/-! ## The front of a buffer -/

theorem strncmpEq_iff {memory name : Bytes} (free : NulFree name) :
    strncmpEq memory name name.length = true ↔ name <+: cstr memory := by
  unfold strncmpEq
  rw [beq_iff_eq, cstr_of_nulFree free, List.take_length, List.prefix_iff_eq_take]
  exact eq_comm

/-- What `fgets` leaves in the buffer when the stream has not ended. -/
def Buffer.filled {size : Nat} (s : Buffer size) (stdin : Bytes) : Buffer size :=
  s.splice 0 (chunk isNewline (size - 1) stdin ++ [0])

theorem fgets_more {size : Nat} (large : 1 < size) (s : Buffer size) {stdin : Bytes}
    (more : stdin ≠ []) :
    fgets s stdin = some (s.filled stdin, unread isNewline (size - 1) stdin) := by
  unfold fgets
  dsimp only
  rw [if_neg (chunk_ne_nil isNewline (Nat.sub_pos_of_lt large) more)]
  rfl

theorem Buffer.filled_bytes {size : Nat} (large : 1 < size) (s : Buffer size) (stdin : Bytes) :
    ∃ stale, (s.filled stdin).bytes = chunk isNewline (size - 1) stdin ++ 0 :: stale := by
  have short := chunk_length_le isNewline (size - 1) stdin
  have bytes := s.splice_behind (chunk isNewline (size - 1) stdin ++ [0])
    (show s.bytes = [] ++ s.bytes from rfl)
    (by rw [List.length_nil, List.length_append, List.length_singleton]; omega)
  rw [List.nil_append, List.append_assoc] at bytes
  exact ⟨_, bytes⟩

theorem Buffer.filled_cstr {size : Nat} (large : 1 < size) (s : Buffer size) {stdin : Bytes}
    (free : NulFree (chunk isNewline (size - 1) stdin)) :
    cstr (s.filled stdin).bytes = chunk isNewline (size - 1) stdin := by
  obtain ⟨stale, bytes⟩ := s.filled_bytes large stdin
  rw [bytes, cstr_append_nul free]

/-! ## The names of the commands -/

def commandNames : List Bytes := [subscribeCmd, unsubscribeCmd, exitCmd]

/-- The names byte by byte, from which their small facts are read off. -/
theorem commandNames_bytes : commandNames =
    [[115, 117, 98, 115, 99, 114, 105, 98, 101],
      [117, 110, 115, 117, 98, 115, 99, 114, 105, 98, 101], [101, 120, 105, 116]] := by
  decide +kernel

/-- The first command whose name has the property. -/
def CmdLine.pick (holds : Bytes → Prop) [DecidablePred holds] : CmdLine :=
  if holds subscribeCmd then .subscribe
  else if holds unsubscribeCmd then .unsubscribe
  else if holds exitCmd then .exit
  else .none

def CmdLine.name : CmdLine → Option Bytes
  | .subscribe => some subscribeCmd
  | .unsubscribe => some unsubscribeCmd
  | .exit => some exitCmd
  | .none => Option.none

/-- Not two of the names have the property. -/
def Exclusive (holds : Bytes → Prop) : Prop :=
  ∀ first ∈ commandNames, ∀ second ∈ commandNames, holds first → holds second → first = second

theorem CmdLine.pick_name {holds : Bytes → Prop} [DecidablePred holds]
    (exclusive : Exclusive holds) {name : Bytes} (member : name ∈ commandNames) :
    (CmdLine.pick holds).name = some name ↔ holds name := by
  have found : ∀ other ∈ commandNames, holds other → (some other = some name ↔ holds name) := by
    intro other among has
    rw [Option.some.injEq]
    constructor
    · rintro rfl
      exact has
    · exact exclusive other among name member has
  unfold pick
  split
  · rename_i has
    exact found subscribeCmd (by simp [commandNames]) has
  · rename_i not_subscribe
    split
    · rename_i has
      exact found unsubscribeCmd (by simp [commandNames]) has
    · rename_i not_unsubscribe
      split
      · rename_i has
        exact found exitCmd (by simp [commandNames]) has
      · rename_i not_exit
        refine ⟨fun absent => (by cases absent), fun has => ?_⟩
        simp only [commandNames, List.mem_cons, List.not_mem_nil, or_false] at member
        rcases member with rfl | rfl | rfl <;> contradiction

theorem CmdLine.pick_eq_iff {p q : Bytes → Prop} [DecidablePred p] [DecidablePred q]
    (first : Exclusive p) (second : Exclusive q) :
    CmdLine.pick p = CmdLine.pick q ↔ ∀ name ∈ commandNames, (p name ↔ q name) := by
  constructor
  · intro same name member
    rw [← CmdLine.pick_name first member, ← CmdLine.pick_name second member, same]
  · intro agree
    unfold pick
    simp only [agree subscribeCmd (by simp [commandNames]),
      agree unsubscribeCmd (by simp [commandNames]), agree exitCmd (by simp [commandNames])]

/-- No name is the front of another one. -/
theorem exclusive_front (text : Bytes) : Exclusive fun name => name <+: text := by
  have apart : ∀ first ∈ commandNames, ∀ second ∈ commandNames,
      first.isPrefixOf second = true → first = second := by
    rw [commandNames_bytes]
    decide
  intro first member second also starts follows
  rcases Nat.le_total first.length second.length with short | long
  · exact apart first member second also
      (List.isPrefixOf_iff_prefix.mpr (List.prefix_of_prefix_length_le starts follows short))
  · exact (apart second also first member
      (List.isPrefixOf_iff_prefix.mpr (List.prefix_of_prefix_length_le follows starts long))).symm

/-! ## A line -/

/-- A line of the input, without the newline that ends it. -/
structure TypedLine (line : Bytes) : Prop where
  free : NulFree line
  unbroken : ∀ c ∈ line, isNewline c = false

/-- The decision that the first word of a line calls for. -/
def firstWordCmd (line : Bytes) : CmdLine :=
  .pick fun name => (lineWords line).head? = some name

theorem exclusive_firstWord (line : Bytes) :
    Exclusive fun name => (lineWords line).head? = some name := by
  intro first _ second _ here also
  rw [here] at also
  exact Option.some.inj also

theorem wordSeparator_bytes : wordSeparator = [32, 10] := by decide

theorem separator_iff (c : UInt8) : wordSeparator.contains c = true ↔ c = 32 ∨ c = 10 := by
  simp [wordSeparator_bytes]

theorem lineWords_newline (line : Bytes) : lineWords (line ++ [10]) = lineWords line := by
  have newline : (fun c => wordSeparator.contains c) 10 = true := by decide
  have split := words_append_separator line newline []
  rw [words_nil, List.append_nil] at split
  exact split

/-- A name has no newline in it. -/
theorem prefix_newline_iff {name : Bytes} (member : name ∈ commandNames) (line : Bytes) :
    name <+: line ++ [10] ↔ name <+: line := by
  rw [List.prefix_concat_iff]
  constructor
  · rintro (whole | inside)
    · have absent : ∀ other ∈ commandNames, (10 : UInt8) ∉ other := by
        rw [commandNames_bytes]
        decide
      exact absurd (by rw [whole]; simp) (absent name member)
    · exact inside
  · exact Or.inr

theorem firstWord_of_front {letter : UInt8} {text : Bytes}
    (clear : wordSeparator.contains letter = false) :
    (lineWords (letter :: text)).head? =
      some ((letter :: text).takeWhile fun c => !wordSeparator.contains c) := by
  have front : (letter :: text).takeWhile (fun c => !wordSeparator.contains c) ≠ [] := by
    rw [List.takeWhile_cons_of_pos (by rw [clear]; rfl)]
    exact List.cons_ne_nil _ _
  rw [lineWords, words_takeWhile front]
  rfl

/-- A name in front of a line is its first word when the line goes on with a
space or not at all. -/
theorem firstWord_name_iff {line name : Bytes} (typed : TypedLine line)
    (member : name ∈ commandNames) (starts : name <+: line) :
    (lineWords line).head? = some name ↔
      ∀ c, (line.drop name.length).head? = some c → c = 32 := by
  have solid : ∀ other ∈ commandNames, other ≠ [] ∧
      ∀ c ∈ other, wordSeparator.contains c = false := by
    rw [commandNames_bytes, wordSeparator_bytes]
    decide +kernel
  obtain ⟨nonempty, clear⟩ := solid name member
  obtain ⟨rest, rfl⟩ := starts
  obtain ⟨letter, more, parts⟩ := List.exists_cons_of_ne_nil nonempty
  have word : (lineWords (name ++ rest)).head? =
      some (name ++ rest.takeWhile fun c => !wordSeparator.contains c) := by
    rw [← List.takeWhile_append_of_pos (fun c among => by rw [clear c among]; rfl), parts,
      List.cons_append]
    exact firstWord_of_front (clear letter (parts ▸ List.mem_cons_self))
  rw [word, Option.some.injEq, List.append_right_eq_self, List.drop_left]
  cases rest with
  | nil => simp
  | cons c rest =>
      have within : isNewline c = false := typed.unbroken c (by simp)
      have not_newline : c ≠ 10 := by simpa [isNewline] using within
      rw [List.head?_cons]
      by_cases space : c = 32
      · have ends : (!wordSeparator.contains c) = false := by
          rw [(separator_iff c).mpr (.inl space)]
          rfl
        rw [List.takeWhile_cons_of_neg (by rw [ends]; exact Bool.false_ne_true)]
        simp [space]
      · have goes_on : (!wordSeparator.contains c) = true := by
          rw [Bool.not_eq_true', ← Bool.not_eq_true, separator_iff]
          exact fun either => either.elim space not_newline
        rw [List.takeWhile_cons, if_pos goes_on]
        simp [space]

/-- The first word of a line that does not begin with a space is its front. -/
theorem firstWord_prefix {line name : Bytes} (typed : TypedLine line)
    (word : (lineWords line).head? = some name) (front : line.head? ≠ some 32) :
    name <+: line := by
  cases line with
  | nil => simp [lineWords] at word
  | cons letter text =>
      have not_newline : letter ≠ 10 := by
        simpa [isNewline] using typed.unbroken letter List.mem_cons_self
      have not_space : letter ≠ 32 := by simpa using front
      have clear : wordSeparator.contains letter = false := by
        rw [← Bool.not_eq_true, separator_iff]
        exact fun either => either.elim not_space not_newline
      rw [firstWord_of_front clear] at word
      rw [← Option.some.inj word]
      exact List.takeWhile_prefix _

/-- A line that the subscriber understands: it fits in the buffer with its
newline and a NUL, the name of a command in front of it ends there, and a
command is not indented. -/
structure PlainLine (line : Bytes) : Prop where
  short : line.length + 2 ≤ maxClientCmdLen
  ended : ∀ name ∈ commandNames, name <+: line →
    ∀ c, (line.drop name.length).head? = some c → c = 32
  front : ∀ name ∈ commandNames, (lineWords line).head? = some name → line.head? ≠ some 32

theorem pick_firstWord_iff {line : Bytes} (typed : TypedLine line) :
    CmdLine.pick (fun name => name <+: line ++ [10]) = firstWordCmd line ↔
      (∀ name ∈ commandNames, name <+: line →
        ∀ c, (line.drop name.length).head? = some c → c = 32) ∧
        ∀ name ∈ commandNames, (lineWords line).head? = some name → line.head? ≠ some 32 := by
  have heads : ∀ name ∈ commandNames, name <+: line → line.head? ≠ some 32 := by
    have letters : ∀ name ∈ commandNames, name.head? ≠ none ∧ name.head? ≠ some 32 := by
      rw [commandNames_bytes]
      decide
    intro name member starts
    obtain ⟨some_letter, no_space⟩ := letters name member
    obtain ⟨rest, rfl⟩ := starts
    cases first : name.head? with
    | none => exact absurd first some_letter
    | some letter =>
        rw [List.head?_append, first, Option.some_or, ← first]
        exact no_space
  rw [firstWordCmd, CmdLine.pick_eq_iff (exclusive_front _) (exclusive_firstWord line)]
  constructor
  · intro agree
    constructor
    · intro name member starts
      rw [← firstWord_name_iff typed member starts, ← agree name member]
      exact (prefix_newline_iff member line).mpr starts
    · intro name member word
      have starts := (agree name member).mpr word
      exact heads name member ((prefix_newline_iff member line).mp starts)
  · rintro ⟨ended, front⟩ name member
    rw [prefix_newline_iff member]
    constructor
    · intro starts
      exact (firstWord_name_iff typed member starts).mpr (ended name member starts)
    · intro word
      exact firstWord_prefix typed word (front name member word)

/-! ## What the server makes of a request -/

theorem OnClient.known {clients : ClientVec} {clientFd : Int}
    {run : ClientType → Err × ClientType} {done : Err × ClientVec}
    (onClient : OnClient clients clientFd run done)
    (knows : ∀ c, (run c).1 ≠ .serverUnknownCommand) : done.1 ≠ .serverUnknownCommand := by
  cases onClient with
  | invalid negative => exact Err.noConfusion
  | missed absent => exact Err.noConfusion
  | found index c located => exact knows c

theorem ClientType.subscribe_knows (c : ClientType) (topic : Bytes) (option : ClientOption)
    (alloc : SubscribeAlloc) : (c.subscribe topic option alloc).1 ≠ .serverUnknownCommand := by
  unfold ClientType.subscribe
  split
  · exact Err.noConfusion
  · split
    · exact Err.noConfusion
    · split
      · exact Err.noConfusion
      · split <;> exact Err.noConfusion

theorem ClientType.unsubscribe_knows (c : ClientType) (topic : Bytes) :
    (c.unsubscribe topic).1 ≠ .serverUnknownCommand := by
  unfold ClientType.unsubscribe
  split <;> exact Err.noConfusion

/-- The server knows the command of the frame that the subscriber holds. -/
def Client.Known (this : Client) : Prop :=
  ∀ (s : Server) (kernel : Kernel) (clientFd : Int), s.recvMsg = this.sendMsg →
    (processServerTcpMsg kernel clientFd s).1 ≠ .serverUnknownCommand

section Requests

variable {σ : Type u} {this : Client} {line : Bytes} {send : SendCall σ} {kernel : σ}

theorem Client.Typed.subscribe_known (typed : this.Typed line)
    (word : (lineWords line).head? = some subscribeCmd)
    (ran : (processSubscribeCmd send this kernel).1 = .ok) :
    (processSubscribeCmd send this kernel).2.1.Known := by
  match parts : lineWords line with
  | [] => simp [parts] at word
  | [_] =>
      rw [(typed.missing (by rw [parts]; exact Nat.lt_succ_self 1) send kernel).1] at ran
      cases ran
  | cmd :: topic :: more =>
      rw [parts, List.head?_cons, Option.some.injEq] at word
      subst word
      obtain ⟨free, short⟩ := typed.fits parts
      obtain ⟨frame, rest, framed, data, len⟩ :=
        processSubscribeCmd_framed send kernel (typed.text ▸ parts) short
      rw [framed.sendMsg]
      rintro s serverKernel clientFd rfl
      rw [processServerTcpMsg_subscribe serverKernel clientFd free data len]
      exact (subscribeClientToTopic_onClient _ _ _ _ _).known fun c => c.subscribe_knows _ _ _

theorem Client.Typed.unsubscribe_known (typed : this.Typed line)
    (word : (lineWords line).head? = some unsubscribeCmd)
    (ran : (processUnsubscribeCmd send this kernel).1 = .ok) :
    (processUnsubscribeCmd send this kernel).2.1.Known := by
  match parts : lineWords line with
  | [] => simp [parts] at word
  | [_] =>
      rw [(typed.missing (by rw [parts]; exact Nat.lt_succ_self 1) send kernel).2] at ran
      cases ran
  | cmd :: topic :: more =>
      rw [parts, List.head?_cons, Option.some.injEq] at word
      subst word
      obtain ⟨free, short⟩ := typed.fits parts
      obtain ⟨frame, rest, framed, data⟩ :=
        processUnsubscribeCmd_framed send kernel (typed.text ▸ parts) short
      rw [framed.sendMsg]
      rintro s serverKernel clientFd rfl
      rw [processServerTcpMsg_unsubscribe serverKernel clientFd free data]
      exact (unsubscribeClientFromTopic_onClient _ _ _).known fun c => c.unsubscribe_knows _

end Requests

/-! ## Successive calls of the subscriber -/

/-- Standard input is the first entry, and `poll` has reported it. -/
def PollVec.Reports (vec : PollVec) : Prop :=
  ∃ entry, vec.elems[0]? = some entry ∧ entry.fd = stdinFileno ∧ entry.ready = true

theorem newline_ends : isNewline 10 = true := rfl

/-- The input that a user typed line by line. -/
def typedLines (lines : List Bytes) : Bytes := lines.flatMap (· ++ [10])

theorem Subscriber.getCmdLine_more {this : Subscriber} (reports : this.pollVec.Reports)
    {stdin : Bytes} (more : stdin ≠ []) :
    this.getCmdLine stdin =
      (.pick fun name => name <+: cstr (this.cmd.filled stdin).bytes,
        { this with cmd := this.cmd.filled stdin },
        unread isNewline (maxClientCmdLen - 1) stdin) := by
  obtain ⟨entry, here, atStdin, ready⟩ := reports
  have exitCmd_free : NulFree exitCmd := by decide +kernel
  unfold Subscriber.getCmdLine CmdLine.pick
  rw [here]
  dsimp only
  rw [if_pos atStdin, if_pos ready, fgets_more (by decide) _ more]
  simp only [strncmpEq_iff subscribeCmd_free, strncmpEq_iff unsubscribeCmd_free,
    strncmpEq_iff exitCmd_free]
  split
  · rfl
  · split
    · rfl
    · split <;> rfl

section Terminals

variable {σ : Type u} (send : SendCall σ) {terminal : Terminal σ}
  (reports : terminal.this.pollVec.Reports) (more : terminal.stdin ≠ [])

theorem Subscriber.obey_pollVec (cmd : CmdLine) (this : Subscriber) (kernel : σ) :
    (this.obey send cmd kernel).2.1.pollVec = this.pollVec := by
  cases cmd <;> rfl

include reports more

theorem Terminal.next_reports : (terminal.next send).this.pollVec.Reports := by
  unfold Terminal.next Terminal.obeyed
  rw [Subscriber.obey_pollVec, Subscriber.getCmdLine_more reports more]
  exact reports

theorem Terminal.next_stdin :
    (terminal.next send).stdin = unread isNewline (maxClientCmdLen - 1) terminal.stdin := by
  unfold Terminal.next
  rw [Subscriber.getCmdLine_more reports more]

theorem Terminal.decision_more (free : NulFree (chunk isNewline (maxClientCmdLen - 1)
    terminal.stdin)) :
    terminal.decision =
      .pick fun name => name <+: chunk isNewline (maxClientCmdLen - 1) terminal.stdin := by
  unfold Terminal.decision
  rw [Subscriber.getCmdLine_more reports more, Buffer.filled_cstr (by decide) _ free]

/-- A request whose success is reported is one that the server knows, when the
call read the whole of a line and decided by its first word. -/
theorem Terminal.reported_known {line : Bytes} (typed : TypedLine line)
    (whole : chunk isNewline (maxClientCmdLen - 1) terminal.stdin = line ++ [10])
    (plain : terminal.decision = firstWordCmd line) (reported : (terminal.obeyed send).1 ≠ []) :
    (terminal.obeyed send).2.1.toClient.Known := by
  have text : Client.Typed { terminal.this.toClient with
      cmd := terminal.this.cmd.filled terminal.stdin } (line ++ [10]) := by
    refine ⟨typed.free.append (by decide +kernel), ?_, ?_⟩
    · rw [← whole]
      exact chunk_length_le _ _ _
    · rw [← whole]
      exact Buffer.filled_bytes (by decide) _ _
  have named : ∀ name ∈ commandNames, terminal.decision.name = some name →
      (lineWords (line ++ [10])).head? = some name := by
    intro name member decided
    rw [lineWords_newline]
    rw [plain] at decided
    exact (CmdLine.pick_name (exclusive_firstWord line) member).mp decided
  unfold Terminal.obeyed at reported ⊢
  rw [Subscriber.getCmdLine_more reports more] at reported ⊢
  dsimp only at reported ⊢
  cases decided : terminal.decision with
  | subscribe =>
      rw [decided] at reported named
      unfold Subscriber.obey at reported ⊢
      dsimp only at reported ⊢
      split at reported
      · rename_i ran
        exact text.subscribe_known (named subscribeCmd (by simp [commandNames]) rfl) ran
      · exact absurd rfl reported
  | unsubscribe =>
      rw [decided] at reported named
      unfold Subscriber.obey at reported ⊢
      dsimp only at reported ⊢
      split at reported
      · rename_i ran
        exact text.unsubscribe_known (named unsubscribeCmd (by simp [commandNames]) rfl) ran
      · exact absurd rfl reported
  | exit =>
      rw [decided] at reported
      exact absurd rfl reported
  | none =>
      rw [decided] at reported
      exact absurd rfl reported

end Terminals

/-- Each call decides as the first word of its line calls for, and what is
reported as done is a request that the server knows. -/
structure Followed {σ : Type u} (send : SendCall σ) (lines : List Bytes)
    (passed : List (Terminal σ)) : Prop where
  decisions : passed.map Terminal.decision = lines.map firstWordCmd
  known : ∀ terminal ∈ passed, (terminal.obeyed send).1 ≠ [] →
    (terminal.obeyed send).2.1.toClient.Known

/-- The calls that read the lines come to an end, and follow them. -/
def Terminal.Follows {σ : Type u} (send : SendCall σ) (terminal : Terminal σ)
    (lines : List Bytes) : Prop :=
  ∃ passed last, (terminalWhile send).Exits terminal passed last ∧ Followed send lines passed

section Follows

variable {σ : Type u} {send : SendCall σ} {terminal last : Terminal σ}
  {passed : List (Terminal σ)} {lines : List Bytes}

theorem terminalWhile_goes (send : SendCall σ) (terminal : Terminal σ) :
    (terminalWhile send).guard terminal ↔ terminal.stdin ≠ [] := Iff.rfl

theorem terminalWhile_kept (terminal : Terminal σ) (reports : terminal.this.pollVec.Reports)
    (more : (terminalWhile send).guard terminal) :
    ((terminalWhile send).body terminal).this.pollVec.Reports :=
  Terminal.next_reports send reports more

theorem terminalWhile_reads (terminal : Terminal σ) (reports : terminal.this.pollVec.Reports)
    (more : (terminalWhile send).guard terminal) :
    ((terminalWhile send).body terminal).stdin =
      unread isNewline (maxClientCmdLen - 1) terminal.stdin :=
  Terminal.next_stdin send reports more

theorem TypedLine.newline_free {line : Bytes} (typed : TypedLine line) :
    NulFree (line ++ [10]) := typed.free.append (by decide +kernel)

/-- The decisions are right exactly when every line is plain. -/
theorem terminal_decisions_iff (typed : ∀ line ∈ lines, TypedLine line)
    (reports : terminal.this.pollVec.Reports) (input : terminal.stdin = typedLines lines)
    (exits : (terminalWhile send).Exits terminal passed last) :
    passed.map Terminal.decision = lines.map firstWordCmd ↔ ∀ line ∈ lines, PlainLine line := by
  rw [reader_decisions_iff (terminalWhile_goes send) terminalWhile_kept terminalWhile_reads
    (fun text => .pick fun name => name <+: text) firstWordCmd (by decide) newline_ends
    (fun line member => (typed line member).unbroken) ?_ reports input exits]
  · constructor
    · intro each line member
      obtain ⟨short, judged⟩ := each line member
      obtain ⟨ended, front⟩ := (pick_firstWord_iff (typed line member)).mp judged
      exact ⟨Nat.add_lt_of_lt_sub short, ended, front⟩
    · intro plain line member
      have here := plain line member
      exact ⟨Nat.lt_sub_of_add_lt here.short,
        (pick_firstWord_iff (typed line member)).mpr ⟨here.ended, here.front⟩⟩
  · intro other reports more line member whole
    have free : NulFree (chunk isNewline (maxClientCmdLen - 1) other.stdin) :=
      whole ▸ (typed line member).newline_free
    simp only [Terminal.decision_more reports more free, whole]

theorem terminal_follows_iff (typed : ∀ line ∈ lines, TypedLine line)
    (reports : terminal.this.pollVec.Reports) (input : terminal.stdin = typedLines lines) :
    terminal.Follows send lines ↔ ∀ line ∈ lines, PlainLine line := by
  constructor
  · rintro ⟨passed, last, exits, followed⟩
    exact (terminal_decisions_iff typed reports input exits).mp followed.decisions
  · intro plain
    obtain ⟨passed, last, exits⟩ := reader_exits (terminalWhile_goes send) terminalWhile_kept
      terminalWhile_reads (by decide) reports
    have decisions := (terminal_decisions_iff typed reports input exits).mpr plain
    refine ⟨passed, last, exits, decisions, ?_⟩
    intro other member
    have fit : ∀ line ∈ lines, line.length < maxClientCmdLen - 1 :=
      fun line among => Nat.lt_sub_of_add_lt (plain line among).short
    obtain ⟨still, more, line, among, whole⟩ := reader_reads (terminalWhile_goes send)
      terminalWhile_kept terminalWhile_reads (by decide) newline_ends
      (fun line among => (typed line among).unbroken) fit reports input exits member
    have here := plain line among
    have decided : other.decision = firstWordCmd line := by
      have free : NulFree (chunk isNewline (maxClientCmdLen - 1) other.stdin) :=
        whole ▸ (typed line among).newline_free
      simp only [Terminal.decision_more still more free, whole]
      exact (pick_firstWord_iff (typed line among)).mpr ⟨here.ended, here.front⟩
    exact Terminal.reported_known send still more (typed line among) whole decided

end Follows

/-! ## Successive calls of the server -/

theorem checkIfExit_more {s : Server} (reports : s.pollVec.Reports) {stdin : Bytes}
    (more : stdin ≠ []) :
    checkIfExit s stdin =
      (decide (exitCmd <+: cstr (s.cmd.filled stdin).bytes), { s with cmd := s.cmd.filled stdin },
        unread isNewline (maxCmdLen - 1) stdin) := by
  obtain ⟨entry, here, atStdin, ready⟩ := reports
  unfold checkIfExit
  rw [here]
  dsimp only
  rw [if_pos atStdin, if_pos ready, fgets_more (by decide) _ more]
  dsimp only
  rw [Bool.eq_iff_iff.mpr ((strncmpEq_iff (by decide +kernel)).trans decide_eq_true_iff.symm)]

/-- The calls that read the lines come to an end, and exit where the line is the command. -/
def Console.Follows (console : Console) (lines : List Bytes) : Prop :=
  ∃ passed last, consoleWhile.Exits console passed last ∧
    passed.map Console.exits = lines.map fun line => decide (line = exitCmd)

/-- A line that the server understands: it fits in the buffer with its newline
and a NUL, and nothing follows the command. -/
structure PlainExit (line : Bytes) : Prop where
  short : line.length + 2 ≤ maxCmdLen
  ended : exitCmd <+: line → line = exitCmd

section Consoles

variable {console last : Console} {passed : List Console} {lines : List Bytes}

theorem consoleWhile_goes (console : Console) :
    consoleWhile.guard console ↔ console.stdin ≠ [] := Iff.rfl

theorem consoleWhile_kept (console : Console) (reports : console.server.pollVec.Reports)
    (more : consoleWhile.guard console) :
    (consoleWhile.body console).server.pollVec.Reports := by
  unfold consoleWhile
  dsimp only
  rw [checkIfExit_more reports more]
  exact reports

theorem consoleWhile_reads (console : Console) (reports : console.server.pollVec.Reports)
    (more : consoleWhile.guard console) :
    (consoleWhile.body console).stdin = unread isNewline (maxCmdLen - 1) console.stdin := by
  unfold consoleWhile
  dsimp only
  rw [checkIfExit_more reports more]

theorem console_exits_iff (typed : ∀ line ∈ lines, TypedLine line)
    (reports : console.server.pollVec.Reports) (input : console.stdin = typedLines lines)
    (exits : consoleWhile.Exits console passed last) :
    passed.map Console.exits = lines.map (fun line => decide (line = exitCmd)) ↔
      ∀ line ∈ lines, PlainExit line := by
  have exit_name : exitCmd ∈ commandNames := by simp [commandNames]
  rw [reader_decisions_iff consoleWhile_goes consoleWhile_kept consoleWhile_reads
    (fun text => decide (exitCmd <+: text)) (fun line => decide (line = exitCmd)) (by decide)
    newline_ends (fun line member => (typed line member).unbroken) ?_ reports input exits]
  · constructor
    · intro each line member
      obtain ⟨short, judged⟩ := each line member
      rw [decide_eq_decide, prefix_newline_iff exit_name] at judged
      exact ⟨Nat.add_lt_of_lt_sub short, judged.mp⟩
    · intro plain line member
      obtain ⟨short, ended⟩ := plain line member
      refine ⟨Nat.lt_sub_of_add_lt short, ?_⟩
      rw [decide_eq_decide, prefix_newline_iff exit_name]
      exact ⟨ended, fun same => same ▸ List.prefix_rfl⟩
  · intro other reports more line member whole
    have free : NulFree (chunk isNewline (maxCmdLen - 1) other.stdin) :=
      whole ▸ (typed line member).newline_free
    unfold Console.exits
    rw [checkIfExit_more reports more, Buffer.filled_cstr (by decide) _ free, whole]

theorem console_follows_iff (typed : ∀ line ∈ lines, TypedLine line)
    (reports : console.server.pollVec.Reports) (input : console.stdin = typedLines lines) :
    console.Follows lines ↔ ∀ line ∈ lines, PlainExit line := by
  constructor
  · rintro ⟨passed, last, exits, followed⟩
    exact (console_exits_iff typed reports input exits).mp followed
  · intro plain
    obtain ⟨passed, last, exits⟩ :=
      reader_exits consoleWhile_goes consoleWhile_kept consoleWhile_reads (by decide) reports
    exact ⟨passed, last, exits, (console_exits_iff typed reports input exits).mpr plain⟩

end Consoles

/-- Both programs follow the lines of their input exactly when every line is
plain to them. -/
theorem commands_follow_iff {σ : Type u} (send : SendCall σ) {lines : List Bytes}
    (typed : ∀ line ∈ lines, TypedLine line) {terminal : Terminal σ}
    (reports : terminal.this.pollVec.Reports) (input : terminal.stdin = typedLines lines)
    {console : Console} (polled : console.server.pollVec.Reports)
    (given : console.stdin = typedLines lines) :
    (terminal.Follows send lines ↔ ∀ line ∈ lines, PlainLine line) ∧
      (console.Follows lines ↔ ∀ line ∈ lines, PlainExit line) :=
  ⟨terminal_follows_iff typed reports input, console_follows_iff typed polled given⟩

/-- A subscriber in front of its input. -/
def Terminal.typing (lines : List Bytes) : Terminal (Nat × Bytes) where
  this :=
    { Client.typing [] with
      pollVec := (Vec.create 2 (by decide)).push ⟨stdinFileno, pollin, pollin⟩
      recvMsg := TcpMsg.zero }
  kernel := (0, [])
  stdin := typedLines lines

/-- A server in front of its input, which `poll` has reported. -/
def Console.typing (lines : List Bytes) : Console where
  server := Server.started.awake (fun _ => pollin) (Buffer.zero maxCmdLen)
  stdin := typedLines lines

theorem Terminal.typing_reports (lines : List Bytes) :
    (Terminal.typing lines).this.pollVec.Reports :=
  ⟨⟨stdinFileno, pollin, pollin⟩, rfl, rfl, by decide⟩

theorem Console.typing_reports (lines : List Bytes) :
    (Console.typing lines).server.pollVec.Reports :=
  ⟨⟨stdinFileno, pollin, pollin⟩, rfl, rfl, by decide⟩

theorem commands_follow_iff_typing :
    ((Terminal.typing [ascii "subscribe news 1", ascii "exit"]).Follows
        (Outlet.sliced fun _ => 99).put [ascii "subscribe news 1", ascii "exit"] ↔
      ∀ line ∈ [ascii "subscribe news 1", ascii "exit"], PlainLine line) ∧
    ((Console.typing [ascii "subscribe news 1", ascii "exit"]).Follows
        [ascii "subscribe news 1", ascii "exit"] ↔
      ∀ line ∈ [ascii "subscribe news 1", ascii "exit"], PlainExit line) :=
  commands_follow_iff _
    (fun line member => ⟨by revert line; decide +kernel, by revert line; decide +kernel⟩)
    (Terminal.typing_reports _) rfl (Console.typing_reports _) rfl

/-- The first word of this line is not the name of a command, but begins with one. -/
theorem command_not_followed :
    ¬ ∀ lines : List Bytes, (∀ line ∈ lines, TypedLine line) →
      (Terminal.typing lines).Follows (Outlet.sliced fun _ => 99).put lines := by
  intro always
  have typed : ∀ line ∈ [ascii "subscriber news"], TypedLine line :=
    fun line member => ⟨by revert line; decide +kernel, by revert line; decide +kernel⟩
  have plain := (terminal_follows_iff typed (Terminal.typing_reports _) rfl).mp
    (always [ascii "subscriber news"] typed) _ List.mem_cons_self
  have next := plain.ended subscribeCmd List.mem_cons_self (by decide +kernel) 114
  exact absurd (next (by decide +kernel)) (by decide)

end TopicBroker
