import TopicBroker.Model.PollVec
import TopicBroker.Model.TcpType

/-!
# `subscriber_utils`

What a subscriber makes of a line typed by its user, of a frame that the server
sends, and of the commands on its standard input. `__strtok_r` also writes a
NUL over the separator behind each word; nobody reads the line after the command
was processed, so only the words are modelled.
-/

namespace TopicBroker

universe u

def maxClientCmdLen : Nat := 128
def wordSeparator : Bytes := ascii " \n"
def subscribeCmd : Bytes := ascii "subscribe"
def unsubscribeCmd : Bytes := ascii "unsubscribe"

/-! ## libc -/

/-- The next word of a C string, and the string that `save_ptr` designates then. -/
def strtokR (separators text : Bytes) : Option Bytes × Bytes :=
  let found := text.dropWhile fun c => separators.contains c
  if found = [] then (none, [])
  else
    (some (found.takeWhile fun c => !separators.contains c),
      (found.dropWhile fun c => !separators.contains c).drop 1)

def isspace (c : UInt8) : Bool := c == 32 || (9 ≤ c && c ≤ 13)

def isdigit (c : UInt8) : Bool := 48 ≤ c && c ≤ 57

/-- `strtol (nptr, NULL, 10)`; a number that does not fit in a `long` is replaced by the bound. -/
def strtol (nptr : Bytes) : Int :=
  let signed := nptr.dropWhile isspace
  let negative := signed.head? = some 45
  let digits := if negative ∨ signed.head? = some 43 then signed.drop 1 else signed
  let magnitude : Nat :=
    (digits.takeWhile isdigit).foldl (fun total c => 10 * total + (c.toNat - 48)) 0
  max (-(2 ^ 63)) (min (2 ^ 63 - 1) (if negative then -(magnitude : Int) else magnitude))

/-- The `long`, converted to `int`. -/
def atoi (nptr : Bytes) : Int32 := (strtol nptr).toInt32

def strcpy {size : Nat} (data : Buffer size) (offset : Nat) (source : Bytes) : Buffer size :=
  data.splice offset (source ++ [0])

/-! ## The subscriber -/

/-- The part of `client_t` that the commands use. -/
structure Client where
  tcpSocket : Int
  cmd : Buffer maxClientCmdLen
  sendMsg : TcpMsg

/-- `sf_str == NULL ? 0 : (atoi(sf_str) <= 0 ? 0 : 1)`. -/
def sfFrom : Option Bytes → UInt8
  | none => 0
  | some sfStr => if atoi sfStr ≤ 0 then 0 else 1

variable {σ : Type u}

def processSubscribeCmd (send : SendCall σ) (this : Client) (kernel : σ) : Err × Client × σ :=
  let first := strtokR wordSeparator (cstr this.cmd.bytes)
  let second := strtokR wordSeparator first.2
  match first.1, second.1 with
  | some cmd, some topic =>
      let third := strtokR wordSeparator second.2
      let sf := sfFrom third.1
      let len := (cmd.length + 1).toUInt16
      let data := strcpy this.sendMsg.data 0 cmd
      let sendOffset := len.toNat
      let len := (topic.length + 1).toUInt16
      let data := strcpy data sendOffset topic
      let sendOffset := sendOffset + len.toNat
      let data := data.splice sendOffset [sf]
      let sendMsg : TcpMsg := ⟨(1 + sendOffset).toUInt16, data⟩
      let sent := sendTcpMsg send this.tcpSocket sendMsg.toBuffer.bytes kernel
      (sent.1, { this with sendMsg := sendMsg }, sent.2)
  | _, _ => (.inputWrongFormat, this, kernel)

def processUnsubscribeCmd (send : SendCall σ) (this : Client) (kernel : σ) : Err × Client × σ :=
  let first := strtokR wordSeparator (cstr this.cmd.bytes)
  let second := strtokR wordSeparator first.2
  match first.1, second.1 with
  | some cmd, some topic =>
      let len := (cmd.length + 1).toUInt16
      let data := strcpy this.sendMsg.data 0 cmd
      let sendOffset := len.toNat
      let len := (topic.length + 1).toUInt16
      let data := strcpy data sendOffset topic
      let sendMsg : TcpMsg := ⟨(len.toNat + sendOffset).toUInt16, data⟩
      let sent := sendTcpMsg send this.tcpSocket sendMsg.toBuffer.bytes kernel
      (sent.1, { this with sendMsg := sendMsg }, sent.2)
  | _, _ => (.inputWrongFormat, this, kernel)

/-! ## Frames from the server -/

/-- `client_t` with what it receives into. -/
structure Subscriber extends Client where
  pollVec : PollVec
  recvMsg : TcpMsg

/-- The third component is what is printed. `past` is the memory behind `recv_msg`. -/
def Subscriber.processReadyFds (recv : RecvCall σ) (past : Bytes) (this : Subscriber)
    (kernel : σ) : Err × Subscriber × Bytes × σ :=
  match this.pollVec.elems[1]? with
  | none => (.ok, this, [], kernel)
  | some entry =>
      if entry.ready then
        let received := recvTcpMsg recv this.tcpSocket this.recvMsg.toBuffer kernel
        let this := { this with recvMsg := .ofBuffer received.2.1 }
        if received.1 = .tcpFailedSendRecv then (.okWithExit, this, [], received.2.2)
        else if received.1 ≠ .ok then (received.1, this, [], received.2.2)
        else
          (.ok, this, cstr (this.recvMsg.data.bytes ++ past) ++ ascii "\n", received.2.2)
      else (.ok, this, [], kernel)

/-! ## Commands from the user -/

inductive CmdLine where
  | subscribe
  | unsubscribe
  | exit
  | none
  deriving DecidableEq, Repr

/-- The third component is what is left of the input. -/
def Subscriber.getCmdLine (this : Subscriber) (stdin : Bytes) : CmdLine × Subscriber × Bytes :=
  match this.pollVec.elems[0]? with
  | none => (.none, this, stdin)
  | some entry =>
      if entry.fd = stdinFileno then
        if entry.ready then
          match fgets this.cmd stdin with
          | none => (.none, this, stdin)
          | some (cmd, rest) =>
              let this := { this with cmd := cmd }
              if strncmpEq cmd.bytes subscribeCmd subscribeCmd.length then
                (.subscribe, this, rest)
              else if strncmpEq cmd.bytes unsubscribeCmd unsubscribeCmd.length then
                (.unsubscribe, this, rest)
              else if strncmpEq cmd.bytes exitCmd exitCmd.length then (.exit, this, rest)
              else (.none, this, rest)
        else (.none, this, stdin)
      else (.none, this, stdin)

/-- What `main` does about a request, and what it prints to the user then. -/
def Subscriber.obey (send : SendCall σ) (cmd : CmdLine) (this : Subscriber) (kernel : σ) :
    Bytes × Subscriber × σ :=
  match cmd with
  | .subscribe =>
      let done := processSubscribeCmd send this.toClient kernel
      (if done.1 = .ok then ascii "Subscribed to topic.\n" else [],
        { this with toClient := done.2.1 }, done.2.2)
  | .unsubscribe =>
      let done := processUnsubscribeCmd send this.toClient kernel
      (if done.1 = .ok then ascii "Unsubscribed from topic.\n" else [],
        { this with toClient := done.2.1 }, done.2.2)
  | .exit => ([], this, kernel)
  | .none => ([], this, kernel)

/-- A subscriber with the rest of its input. -/
structure Terminal (σ : Type u) where
  this : Subscriber
  kernel : σ
  stdin : Bytes

namespace Terminal

def decision (terminal : Terminal σ) : CmdLine := (terminal.this.getCmdLine terminal.stdin).1

def obeyed (send : SendCall σ) (terminal : Terminal σ) : Bytes × Subscriber × σ :=
  (terminal.this.getCmdLine terminal.stdin).2.1.obey send terminal.decision terminal.kernel

/-- The terminal after one call of `get_cmd_line` and what follows from it. -/
def next (send : SendCall σ) (terminal : Terminal σ) : Terminal σ where
  this := (terminal.obeyed send).2.1
  kernel := (terminal.obeyed send).2.2
  stdin := (terminal.this.getCmdLine terminal.stdin).2.2

end Terminal

/-- Successive calls of `get_cmd_line`, until there is no input left. -/
def terminalWhile (send : SendCall σ) : Loop (Terminal σ) where
  guard terminal := terminal.stdin ≠ []
  body := Terminal.next send

example : atoi (ascii "1\n") = 1 := by decide
example : atoi (ascii " -7x") = -7 := by decide

end TopicBroker
