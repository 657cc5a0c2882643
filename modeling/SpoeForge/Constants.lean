import SpoeForge.Python

/-!
# Protocol constants (`spop/constants.py`, `server/constants.py`)

Each `IntEnum` is an inductive type with its integer value; `ofValue` is the enum
call `Enum(n)`, whose `ValueError` is `none`.
-/

namespace SpoeForge

def INT32_MIN : ℤ := -2 ^ 31
def INT32_MAX : ℤ := 2 ^ 31 - 1
def INT64_MIN : ℤ := -2 ^ 63
def INT64_MAX : ℤ := 2 ^ 63 - 1
def UINT32_MAX : ℤ := 2 ^ 32 - 1
def UINT64_MAX : ℤ := 2 ^ 64 - 1

/-- `DataFlag` and `DataTypeMask`, `constants.py:27-43`. -/
def BOOL_TRUE : ℕ := 0x10
def BOOL_FALSE : ℕ := 0x00
def TYPE_MASK : ℕ := 0x0F
def FLAG_MASK : ℕ := 0xF0

/-- `FrameFlag`, `constants.py:46-52`. -/
def FLAG_FIN : ℕ := 0x01
def FLAG_ABORT : ℕ := 0x02

inductive DataType where
  | null | bool | int32 | uint32 | int64 | uint64 | ipv4 | ipv6 | string | binary
  deriving DecidableEq, Repr

def DataType.value : DataType → ℕ
  | .null => 0
  | .bool => 1
  | .int32 => 2
  | .uint32 => 3
  | .int64 => 4
  | .uint64 => 5
  | .ipv4 => 6
  | .ipv6 => 7
  | .string => 8
  | .binary => 9

def DataType.ofValue : ℕ → Option DataType
  | 0 => some .null
  | 1 => some .bool
  | 2 => some .int32
  | 3 => some .uint32
  | 4 => some .int64
  | 5 => some .uint64
  | 6 => some .ipv4
  | 7 => some .ipv6
  | 8 => some .string
  | 9 => some .binary
  | _ => none

inductive FrameType where
  | unset | haproxyHello | haproxyDisconnect | notify | agentHello | agentDisconnect | ack
  deriving DecidableEq, Repr

def FrameType.value : FrameType → ℕ
  | .unset => 0
  | .haproxyHello => 1
  | .haproxyDisconnect => 2
  | .notify => 3
  | .agentHello => 101
  | .agentDisconnect => 102
  | .ack => 103

def FrameType.ofValue : ℕ → Option FrameType
  | 0 => some .unset
  | 1 => some .haproxyHello
  | 2 => some .haproxyDisconnect
  | 3 => some .notify
  | 101 => some .agentHello
  | 102 => some .agentDisconnect
  | 103 => some .ack
  | _ => none

def FrameType.name : FrameType → Str
  | .unset => str "UNSET"
  | .haproxyHello => str "HAPROXY_HELLO"
  | .haproxyDisconnect => str "HAPROXY_DISCONNECT"
  | .notify => str "NOTIFY"
  | .agentHello => str "AGENT_HELLO"
  | .agentDisconnect => str "AGENT_DISCONNECT"
  | .ack => str "ACK"

inductive ActionType where
  | setVar | unsetVar
  deriving DecidableEq, Repr

def ActionType.value : ActionType → ℕ
  | .setVar => 1
  | .unsetVar => 2

def ActionType.ofValue : ℕ → Option ActionType
  | 1 => some .setVar
  | 2 => some .unsetVar
  | _ => none

/-- `ActionNBArgs`, `constants.py:101-107`. -/
def ActionType.nbArgs : ActionType → ℕ
  | .setVar => 3
  | .unsetVar => 2

inductive ActionScope where
  | process | session | transaction | request | response
  deriving DecidableEq, Repr

def ActionScope.value : ActionScope → ℕ
  | .process => 0
  | .session => 1
  | .transaction => 2
  | .request => 3
  | .response => 4

def ActionScope.ofValue : ℕ → Option ActionScope
  | 0 => some .process
  | 1 => some .session
  | 2 => some .transaction
  | 3 => some .request
  | 4 => some .response
  | _ => none

theorem DataType.ofValue_value (t : DataType) : DataType.ofValue t.value = some t := by
  cases t <;> rfl

theorem FrameType.ofValue_value (t : FrameType) : FrameType.ofValue t.value = some t := by
  cases t <;> rfl

theorem FrameType.value_lt (t : FrameType) : t.value < 128 := by
  cases t <;> decide

theorem ActionType.ofValue_value (t : ActionType) : ActionType.ofValue t.value = some t := by
  cases t <;> rfl

theorem ActionScope.ofValue_value (s : ActionScope) : ActionScope.ofValue s.value = some s := by
  cases s <;> rfl

/-! ### Server constants -/

def SPOE_VERSION : Str := str "2.0"

def PIPELINING : Str := str "pipelining"

def SPOE_CAPABILITIES : List Str := [PIPELINING]

def DISCONNECT_MESSAGE_MAX_LENGTH : ℕ := 256

/-- `DisconnectCode`, `server/constants.py:24-43`. -/
inductive DisconnectCode where
  | normal | ioError | timeout | frameTooBig | invalidFrameReceived | versionNotFound
  | maxFrameSizeNotFound | capabilityNotFound | unsupportedVersion | maxFrameSizeOutOfRange
  | fragmentationNotSupported | invalidInterlacedFrame | frameIdNotFound
  | resourceAllocationError | unknownError | serverIncompatible | protocolError
  deriving DecidableEq, Repr

def DisconnectCode.value : DisconnectCode → ℕ
  | .normal => 0
  | .ioError => 1
  | .timeout => 2
  | .frameTooBig => 3
  | .invalidFrameReceived => 4
  | .versionNotFound => 5
  | .maxFrameSizeNotFound => 6
  | .capabilityNotFound => 7
  | .unsupportedVersion => 8
  | .maxFrameSizeOutOfRange => 9
  | .fragmentationNotSupported => 10
  | .invalidInterlacedFrame => 11
  | .frameIdNotFound => 12
  | .resourceAllocationError => 13
  | .unknownError => 99
  | .serverIncompatible => 101
  | .protocolError => 102

end SpoeForge
