import SpoeForge.Constants
import SpoeForge.Library.Dict

/-!
# Protocol data types (`spop/spop_types.py`)

`Value` is `SpoaDataType`. What a message handler hands back is not checked before
it is encoded, so an action's fields are `PyObj`: a value, or an object of another
class, given by how the operations end that the encoders use on it. An object in an
action list may also be no action at all.
-/

namespace SpoeForge

structure IPv4Address where
  packed : Bytes
  length : packed.length = 4
  deriving DecidableEq, Repr

structure IPv6Address where
  packed : Bytes
  scopeId : Option Str
  length : packed.length = 16
  deriving DecidableEq, Repr

/-- `SpoaDataType`, `spop_types.py:19-21`. -/
inductive Value where
  | none
  | bool (b : Bool)
  | int (i : ℤ)
  | ipv4 (a : IPv4Address)
  | ipv6 (a : IPv6Address)
  | bytes (bs : Bytes)
  | str (s : Str)
  deriving DecidableEq, Repr

/-- `type(v).__name__`. -/
def Value.typeName : Value → Str
  | .none => SpoeForge.str "NoneType"
  | .bool _ => SpoeForge.str "bool"
  | .int _ => SpoeForge.str "int"
  | .ipv4 _ => SpoeForge.str "IPv4Address"
  | .ipv6 _ => SpoeForge.str "IPv6Address"
  | .bytes _ => SpoeForge.str "bytes"
  | .str _ => SpoeForge.str "str"

/-- `bool(v)`. -/
def Value.truthy : Value → Bool
  | .none => false
  | .bool b => b
  | .int i => i ≠ 0
  | .ipv4 _ => true
  | .ipv6 _ => true
  | .bytes bs => !bs.isEmpty
  | .str s => !s.isEmpty

/-- The number a value is in a comparison with an `int`; `bool` is a subclass of `int`. -/
def Value.number? : Value → Option ℤ
  | .bool b => some (if b then 1 else 0)
  | .int i => some i
  | _ => Option.none

/-- An instance of a class that no encoder knows, by what `repr`, `str`, `__index__` and
`encode("latin-1")` give or raise; `encode` gives bytes, or `none` for a `UnicodeEncodeError`. -/
structure Foreign where
  cls : Str
  repr : Except Exc Str
  str : Except Exc Str
  index : Except Exc ℤ
  encode : Except Exc (Option Bytes)
  deriving DecidableEq, Repr

inductive PyObj where
  | val (v : Value)
  | other (o : Foreign)
  deriving DecidableEq, Repr

structure Flags where
  fin : Bool
  abort : Bool
  deriving DecidableEq, Repr

structure MetaData where
  flags : Flags
  streamId : ℤ
  frameId : ℤ
  deriving DecidableEq, Repr

abbrev Args := Dict Str Value

/-- Ordered (name, args) pairs, `spop_types.py:23-25`. -/
abbrev Messages := List (Str × Args)

structure SetVarAction where
  scope : PyObj
  name : PyObj
  value : PyObj
  deriving DecidableEq, Repr

structure UnsetVarAction where
  scope : PyObj
  name : PyObj
  deriving DecidableEq, Repr

/-- An object in a list of actions; `other` is an instance of any other class, with its
attribute `name`, or what reading that raises. -/
inductive ActionObj where
  | setVar (a : SetVarAction)
  | unsetVar (a : UnsetVarAction)
  | other (cls : Str) (name : Except Exc PyObj)
  deriving DecidableEq, Repr

/-- `SetVarAction(scope, name, value)` with fields of the annotated types. -/
def ActionObj.ofSet (scope : ActionScope) (name : Str) (value : Value) : ActionObj :=
  .setVar ⟨.val (.int scope.value), .val (.str name), .val value⟩

/-- `UnsetVarAction(scope, name)` with fields of the annotated types. -/
def ActionObj.ofUnset (scope : ActionScope) (name : Str) : ActionObj :=
  .unsetVar ⟨.val (.int scope.value), .val (.str name)⟩

/-- An action whose fields have the types of the dataclass annotations. -/
inductive ActionObj.WellTyped : ActionObj → Prop
  | set (scope : ActionScope) (name : Str) (value : Value) : WellTyped (.ofSet scope name value)
  | unset (scope : ActionScope) (name : Str) : WellTyped (.ofUnset scope name)

end SpoeForge
