import TopicBroker.Lib.Bytes
import TopicBroker.Lib.LineReader

/-!
# `utils`

The error class, the constants, the calls of libc that read commands, and
`ipow`. The variants that only report a
`NULL` argument, and those no modelled function returns, are left out.
-/

namespace TopicBroker

inductive Err where
  | ok
  | okWithExit
  | invalidPortNumber
  | pollFailedTimedOut
  | serverFailedAllocation
  | serverFailedUdp
  | serverFailedTcp
  | serverFailedPollVec
  | serverCouldNotConnectNewClient
  | serverFailedAcceptTcp
  | serverFailedClientsVec
  | serverUnknownCommand
  | serverCouldNotAddNewUdp
  | pollVecFailedAllocation
  | pollVecFailedRealloc
  | pollVecInputFdIdxOutOfBound
  | udpUnknownDataType
  | tcpInputSocketInvalid
  | tcpInputBufLenIsZero
  | tcpFailedSendRecv
  | clientsVecFailedAllocation
  | clientsVecFailedRealloc
  | clientsVecFailedRegisterAllocation
  | clientVecClientAlreadyConnected
  | clientsVecInputFdIdxInvalid
  | clientsVecClientAlreadyDead
  | clientsVecCloseClientNotFound
  | clientsVecClientNotFound
  | clientsVecCoundNotAddATopic
  | clientsVecCoundNotFindTopic
  | clientsVecIndexOutOfBound
  | inputWrongFormat
  deriving DecidableEq, Repr

def maxCmdLen : Nat := 10
def maxIdClientLen : Nat := 10
def exitCmd : Bytes := ascii "exit"

def isNewline (c : UInt8) : Bool := c == 10

/-- `fgets` with the size of the buffer; `none` when the stream has ended. The
second component is what is left of the stream. -/
def fgets {size : Nat} (s : Buffer size) (stdin : Bytes) : Option (Buffer size × Bytes) :=
  let read := chunk isNewline (size - 1) stdin
  if read = [] then none else some (s.splice 0 (read ++ [0]), stdin.drop read.length)

/-- `strncmp (s1, s2, n) == 0`. -/
def strncmpEq (s1 s2 : Bytes) (n : Nat) : Bool := (cstr s1).take n == (cstr s2).take n

/-- The `while (exp != 0)` loop. Eight halvings empty a `uint8_t`, so eight
rounds are all the loop can make. The accumulator is an `int`; each product is
formed in `uint32_t` and converted back. -/
def ipowLoop : Nat → UInt32 → UInt8 → Int32 → Int32
  | 0, _, _, baseToExp => baseToExp
  | rounds + 1, base, exp, baseToExp =>
      if exp ≠ 0 then
        let baseToExp := if exp &&& 1 ≠ 0 then (baseToExp.toUInt32 * base).toInt32 else baseToExp
        ipowLoop rounds (base * base) (exp >>> 1) baseToExp
      else baseToExp

def ipow (base : UInt32) (exp : UInt8) : UInt32 := (ipowLoop 8 base exp 1).toUInt32

/-- The variables of `ipow`. -/
structure IpowVars where
  base : UInt32
  exp : UInt8
  baseToExp : Int32

/-- The loop as it stands, which nothing cuts off. -/
def ipowWhile : Loop IpowVars where
  guard vars := vars.exp ≠ 0
  body vars :=
    { base := vars.base * vars.base
      exp := vars.exp >>> 1
      baseToExp :=
        if vars.exp &&& 1 ≠ 0 then (vars.baseToExp.toUInt32 * vars.base).toInt32
        else vars.baseToExp }

instance : DecidablePred ipowWhile.guard := fun vars => inferInstanceAs (Decidable (vars.exp ≠ 0))

/-- The eight rounds are the loop, cut off. -/
theorem ipowLoop_cutOff (rounds : Nat) (base : UInt32) (exp : UInt8) (baseToExp : Int32) :
    ipowLoop rounds base exp baseToExp =
      (ipowWhile.cutOff rounds ⟨base, exp, baseToExp⟩).baseToExp := by
  induction rounds generalizing base exp baseToExp with
  | zero => rfl
  | succ rounds ih =>
      rw [ipowLoop, Loop.cutOff]
      by_cases goes : exp ≠ 0
      · rw [if_pos goes, if_pos (show ipowWhile.guard ⟨base, exp, baseToExp⟩ from goes), ih]
        rfl
      · rw [if_neg goes, if_neg (show ¬ ipowWhile.guard ⟨base, exp, baseToExp⟩ from goes)]

example : ipow 0 0 = 1 := by decide
example : ipow 10 9 = 1000000000 := by decide
example : ipow 10 32 = 0 := by decide

end TopicBroker
