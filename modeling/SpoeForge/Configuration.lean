import SpoeForge.Frame

/-!
# Negotiation (`server/configuration.py`)

`int` of a string is a parameter of the version check; the server uses `intOfStr`.
-/

namespace SpoeForge

/-- `configuration.py:16-50`. -/
structure ServerConfiguration where
  version : Str
  capabilities : List Str
  maxFrameSize : ℤ
  maxConcurrentFrames : ℤ
  serverCompatible : Bool
  deriving DecidableEq, Repr

/-- `ServerConfiguration.__init__`, `configuration.py:31-50`. -/
def ServerConfiguration.init (maxFrameSize maxConcurrentFrames : ℤ) : ServerConfiguration :=
  ⟨SPOE_VERSION, [], maxFrameSize, maxConcurrentFrames, true⟩

section Negotiation

variable (int : Str → Option ℤ)

/-- `_parse_version`, `configuration.py:11-13`; `none` is `ValueError`. -/
def parseVersion (version : Str) : Option (ℤ × ℤ) :=
  match version.splitOn '.' with
  | [major, minor] =>
    match int major, int minor with
    | some a, some b => some (a, b)
    | _, _ => none
  | _ => none

/-- The `for` loop of `_check_version_compatibility`, `configuration.py:62-76`. -/
def someCompatible (ver : ℤ × ℤ) : List Str → Bool
  | [] => false
  | version :: rest =>
    match parseVersion int version with
    | none => someCompatible ver rest
    | some haVer =>
      if ver.1 ≠ haVer.1 then someCompatible ver rest
      else if ver.1 < haVer.1 ∨ (ver.1 = haVer.1 ∧ ver.2 ≤ haVer.2) then true
      else someCompatible ver rest

/-- `_check_version_compatibility`, `configuration.py:52-83`. -/
def checkVersionCompatibility (c : ServerConfiguration) (haVersions : List Str) :
    Except Exc ServerConfiguration :=
  match parseVersion int c.version with
  | none => .error ⟨.valueError, str "invalid literal for int() with base 10"⟩
  | some ver => .ok { c with serverCompatible := someCompatible int ver haVersions }

/-- `_find_max_frame_size`, `configuration.py:85-100`. `min(ha, own)` compares with `<`,
which only numbers answer. A `bool` counts as the number it is, where the code keeps the
object: no frame fits a limit of 1, so only texts of errors tell them apart. The log line of
a size that is not positive formats it. -/
def findMaxFrameSize (c : ServerConfiguration) (haMaxFrameSize : Value) :
    Except Exc ServerConfiguration :=
  match haMaxFrameSize.number? with
  | none => .error ⟨.typeError, str "'<' not supported between instances of 'int' and '" ++
      haMaxFrameSize.typeName ++ str "'"⟩
  | some ha =>
    let size := if c.maxFrameSize < ha then c.maxFrameSize else ha
    if size ≤ 0 then do
      let _ ← intStr size
      .ok { c with maxFrameSize := size, serverCompatible := false }
    else .ok { c with maxFrameSize := size }

/-- `_find_common_capabilities`, `configuration.py:102-117`: a list without repetition. -/
def findCommonCapabilities (c : ServerConfiguration) (haCapabilities : List Str) :
    ServerConfiguration :=
  { c with capabilities := SPOE_CAPABILITIES.filter fun x => x ∈ haCapabilities }

/-- `negotiate_server_compatibility`, `configuration.py:119-137`. -/
def negotiateWith (c : ServerConfiguration) (supportedVersions : List Str)
    (haMaxFrameSize : Value) (haCapabilities : List Str) : Except Exc ServerConfiguration := do
  let c ← checkVersionCompatibility int c supportedVersions
  let c ← findMaxFrameSize c haMaxFrameSize
  .ok (findCommonCapabilities c haCapabilities)

/-- The arguments of a call of `negotiate_server_compatibility`. -/
structure Offer where
  supportedVersions : List Str
  haMaxFrameSize : ℤ
  haCapabilities : List Str
  deriving DecidableEq, Repr

/-- `negotiate_server_compatibility` on the object: what it holds after the call, and the
exception that the call raised. The size is assigned before the log line that may raise. -/
def ServerConfiguration.negotiate (c : ServerConfiguration) (offer : Offer) :
    ServerConfiguration × Option Exc :=
  match checkVersionCompatibility int c offer.supportedVersions with
  | .error e => (c, some e)
  | .ok c =>
    match findMaxFrameSize c (.int offer.haMaxFrameSize) with
    | .error e => ({ c with maxFrameSize := min offer.haMaxFrameSize c.maxFrameSize }, some e)
    | .ok c => (findCommonCapabilities c offer.haCapabilities, none)

end Negotiation

/-- `negotiate_server_compatibility` with Python's `int`. -/
def ServerConfiguration.negotiateServerCompatibility (c : ServerConfiguration)
    (supportedVersions : List Str) (haMaxFrameSize : Value) (haCapabilities : List Str) :
    Except Exc ServerConfiguration :=
  negotiateWith intOfStr c supportedVersions haMaxFrameSize haCapabilities

end SpoeForge
