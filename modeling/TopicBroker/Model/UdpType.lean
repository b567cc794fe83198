import TopicBroker.Lib.Decimal
import TopicBroker.Model.Utils

/-!
# `udp_type`

The parser of datagrams. It is handed the receive buffer and nothing else: how
many bytes of the buffer the last datagram filled is not among its arguments.
A pointer into the buffer is the memory from that position on.
-/

namespace TopicBroker

def maxTopicLen : Nat := 51
def maxStringLen : Nat := 1501

def sizeofSockaddrIn : Nat := 16

/-- `sizeof udp_type_var`, the size of a pointer. -/
def sizeofPointer : Nat := 8

/-- The union with its tag. `unknown` is a type byte outside the enumeration,
for which the union holds nothing that was parsed. -/
inductive UdpData where
  | int (value : Int32)
  | shortReal (value : Quotient)
  | float (value : Quotient)
  | string (value : Buffer maxStringLen)
  | unknown (type : UInt8)
  deriving DecidableEq

structure UdpType where
  addr : Buffer sizeofSockaddrIn
  topic : Buffer maxTopicLen
  data : UdpData
  deriving DecidableEq

/-- `ntohl(*(uint32_t *)buf)`. -/
def ntohl (buf : Bytes) : UInt32 :=
  (bigEndian [byteAt buf 0, byteAt buf 1, byteAt buf 2, byteAt buf 3]).toUInt32

/-- `ntohs(*(uint16_t *)buf)`. -/
def ntohs (buf : Bytes) : UInt16 := (bigEndian [byteAt buf 0, byteAt buf 1]).toUInt16

def parseUdpIntType (buf : Bytes) : Int32 :=
  let sign := byteAt buf 0
  let value := (ntohl (buf.drop 1)).toInt32
  if sign ≠ 0 then value * (-1) else value

def parseUdpShortRealType (buf : Bytes) : Quotient := .of (ntohs buf).toNat 100

def parseUdpFloatType (buf : Bytes) : Quotient :=
  let sign := byteAt buf 0
  let value := Quotient.of (ntohl (buf.drop 1)).toNat (ipow 10 (byteAt buf 5)).toNat
  if sign ≠ 0 then value.negate else value

def parseUdpStringType (buf : Bytes) : Buffer maxStringLen :=
  (Buffer.zero maxStringLen).splice 0 (buf.take maxStringLen)

def parseUdpData (type : UInt8) (buf : Bytes) : UdpData :=
  match type.toNat with
  | 0 => .int (parseUdpIntType buf)
  | 1 => .shortReal (parseUdpShortRealType buf)
  | 2 => .float (parseUdpFloatType buf)
  | 3 => .string (parseUdpStringType buf)
  | _ => .unknown type

/-- What the `switch` over the type returns. -/
def UdpData.err : UdpData → Err
  | .unknown _ => .udpUnknownDataType
  | _ => .ok

/-- The structure as the parser fills it in, whatever it returns. -/
def parsedUdpType (addr : Buffer sizeofSockaddrIn) (buf : Bytes) : UdpType where
  addr := (Buffer.zero sizeofSockaddrIn).splice 0 (addr.bytes.take sizeofPointer)
  topic := (Buffer.zero maxTopicLen).splice 0 (buf.take maxTopicLen)
  data := parseUdpData (byteAt buf (maxTopicLen - 1)) (buf.drop maxTopicLen)

def parseUdpTypeFrom (addr : Buffer sizeofSockaddrIn) (buf : Bytes) : Err × UdpType :=
  let parsed := parsedUdpType addr buf
  (parsed.data.err, parsed)

namespace UdpType

/-- The topic as a C string; the padding behind the array is zero. -/
def name (msg : UdpType) : Bytes := cstr msg.topic.bytes

/-- The type byte is one of the enumeration. -/
def Known (msg : UdpType) : Prop := ∀ type, msg.data ≠ .unknown type

end UdpType

/-- The type bytes of the enumeration. -/
def KnownType (type : UInt8) : Prop := type.toNat ≤ 3

instance (type : UInt8) : Decidable (KnownType type) := inferInstanceAs (Decidable (_ ≤ _))

section Cases

variable {type : UInt8} (buf : Bytes)

theorem parseUdpData_int (tag : type.toNat = 0) :
    parseUdpData type buf = .int (parseUdpIntType buf) := by
  simp only [parseUdpData, tag]

theorem parseUdpData_shortReal (tag : type.toNat = 1) :
    parseUdpData type buf = .shortReal (parseUdpShortRealType buf) := by
  simp only [parseUdpData, tag]

theorem parseUdpData_float (tag : type.toNat = 2) :
    parseUdpData type buf = .float (parseUdpFloatType buf) := by
  simp only [parseUdpData, tag]

theorem parseUdpData_string (tag : type.toNat = 3) :
    parseUdpData type buf = .string (parseUdpStringType buf) := by
  simp only [parseUdpData, tag]

theorem parseUdpData_unknown (tag : ¬ KnownType type) : parseUdpData type buf = .unknown type := by
  unfold parseUdpData
  split <;> simp_all [KnownType]

/-- The type bytes of the enumeration, one by one. -/
theorem KnownType.cases (known : KnownType type) :
    type.toNat = 0 ∨ type.toNat = 1 ∨ type.toNat = 2 ∨ type.toNat = 3 := by
  unfold KnownType at known
  omega

theorem parseUdpData_err (type : UInt8) (buf : Bytes) :
    (parseUdpData type buf).err = if KnownType type then .ok else .udpUnknownDataType := by
  by_cases known : KnownType type
  · rw [if_pos known]
    rcases known.cases with tag | tag | tag | tag
    · simp only [parseUdpData_int buf tag, UdpData.err]
    · simp only [parseUdpData_shortReal buf tag, UdpData.err]
    · simp only [parseUdpData_float buf tag, UdpData.err]
    · simp only [parseUdpData_string buf tag, UdpData.err]
  · simp only [if_neg known, parseUdpData_unknown buf known, UdpData.err]

end Cases

theorem UdpType.known_iff (msg : UdpType) : msg.Known ↔ msg.data.err = .ok := by
  cases data : msg.data <;> simp [UdpType.Known, UdpData.err, data]

end TopicBroker
