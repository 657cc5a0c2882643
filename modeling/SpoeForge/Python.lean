import SpoeForge.Library.Fallible
import Mathlib.Data.List.DropRight
import Mathlib.Data.Nat.Bits
import Mathlib.Data.Int.ModEq

/-!
# The Python built-ins the package uses

Bytes, strings by code point, exceptions, the latin-1 codec, `ctypes` and `struct`
integers, and the text forms of integers. `str(i)` and `repr(i)` raise `ValueError`
for an integer of more than 4300 digits (CPython's default limit).
-/

namespace SpoeForge

abbrev Byte := Fin 256
abbrev Bytes := List Byte

/-- A `str`, code point by code point. -/
abbrev Str := List Char

/-- `x in xs` for a list of strings. -/
instance (x : Str) (xs : List Str) : Decidable (x ∈ xs) := inferInstance

/-- A string literal. -/
def str (s : String) : Str := s.toList

/-- `n & 0xFF` as a byte. -/
def byte (n : ℕ) : Byte := ⟨n % 256, Nat.mod_lt _ (by decide)⟩

@[simp] theorem byte_val (n : ℕ) : (byte n).val = n % 256 := rfl

theorem byte_val_of_lt {n : ℕ} (h : n < 256) : (byte n).val = n := Nat.mod_eq_of_lt h

@[simp] theorem byte_of_val (b : Byte) : byte b.val = b := Fin.ext (Nat.mod_eq_of_lt b.isLt)

/-! ### Exceptions -/

/-- The exception classes that occur (`exception.py`, `spop/exception.py`,
`server/exceptions.py` and those of Python): `osError` is an `OSError` that is no
`ConnectionError`, `cancelledError` that of `asyncio`, and `exception` any other class. -/
inductive ExcClass where
  | spoeForgeError
  | spopDecodeError
  | spopEncodeError
  | spopEOFError
  | spopFrameTooBigError
  | closeConnection
  | connectionError
  | attributeError
  | typeError
  | valueError
  | keyError
  | osError
  | cancelledError
  | exception
  deriving DecidableEq, Repr

/-- An exception with its text `str(e)`. -/
structure Exc where
  cls : ExcClass
  text : Str
  deriving DecidableEq, Repr

/-- `isinstance(e, SpoeForgeError)`. -/
def Exc.isSpoeForgeError (e : Exc) : Bool :=
  match e.cls with
  | .spoeForgeError | .spopDecodeError | .spopEncodeError | .spopEOFError
  | .spopFrameTooBigError => true
  | _ => false

def decodeError (text : Str) : Exc := ⟨.spopDecodeError, text⟩
def encodeError (text : Str) : Exc := ⟨.spopEncodeError, text⟩
def frameTooBig (text : Str) : Exc := ⟨.spopFrameTooBigError, text⟩

/-! ### Text of integers -/

def natText (n : ℕ) : Str := Nat.toDigits 10 n

def intText : ℤ → Str
  | .ofNat n => natText n
  | .negSucc n => '-' :: natText (n + 1)

/-- `sys.int_info.default_max_str_digits`. -/
def intMaxStrDigits : ℕ := 4300

/-- The integers that `str` and `repr` convert. -/
def Printable (i : ℤ) : Prop := i.natAbs < 10 ^ intMaxStrDigits

instance (i : ℤ) : Decidable (Printable i) := inferInstanceAs (Decidable (_ < _))

/-- `str(i)` and `repr(i)`. -/
def intStr (i : ℤ) : Except Exc Str :=
  if Printable i then .ok (intText i)
  else .error ⟨.valueError, str "Exceeds the limit (4300 digits) for integer string conversion"⟩

theorem intStr_ok {i : ℤ} {t : Str} : intStr i = .ok t ↔ Printable i ∧ t = intText i := by
  unfold intStr
  split
  · rename_i h
    simp [h, eq_comm]
  · rename_i h
    simp [h]

theorem intStr_error {i : ℤ} (h : ¬Printable i) :
    ∃ e, intStr i = .error e ∧ e.cls = .valueError := by
  rw [intStr, if_neg h]
  exact ⟨_, rfl, rfl⟩

theorem printable_of_natAbs_lt {i : ℤ} (h : i.natAbs < 2 ^ 64) : Printable i := by
  have hpow : 10 ^ 20 ≤ 10 ^ intMaxStrDigits := Nat.pow_le_pow_right (by decide) (by decide)
  rw [Printable]
  omega

theorem printable_of_lt {i : ℤ} (hl : 0 ≤ i) (hh : i < 2 ^ 64) : Printable i :=
  printable_of_natAbs_lt (by omega)

/-! ### Strings -/

/-- The white space that `str.strip` removes. -/
def isSpace (c : Char) : Bool :=
  let n := c.toNat
  (0x09 ≤ n && n ≤ 0x0D) || (0x1C ≤ n && n ≤ 0x20) || n = 0x85 || n = 0xA0 || n = 0x1680 ||
    (0x2000 ≤ n && n ≤ 0x200A) || n = 0x2028 || n = 0x2029 || n = 0x202F || n = 0x205F || n = 0x3000

/-- The white space that `int` allows around a number: not the separators U+001C to U+001F. -/
def isIntSpace (c : Char) : Bool := isSpace c && !(0x1C ≤ c.toNat && c.toNat ≤ 0x1F)

/-- `s.strip()`. -/
def strip (s : Str) : Str := (s.dropWhile isSpace).rdropWhile isSpace

/-- `sep.join(items)` for a one-character separator. -/
def join (sep : Char) (items : List Str) : Str := [sep].intercalate items

/-- Decimal digits with single underscores between them, after a first digit. -/
def digitsFrom (acc : ℕ) : Str → Option ℕ
  | [] => some acc
  | '_' :: c :: cs => if c.isDigit then digitsFrom (10 * acc + (c.toNat - 48)) cs else none
  | c :: cs => if c.isDigit then digitsFrom (10 * acc + (c.toNat - 48)) cs else none

def digitsValue : Str → Option ℕ
  | [] => none
  | c :: cs => if c.isDigit then digitsFrom (c.toNat - 48) cs else none

/-- `int(s)` of ASCII digits with optional white space around and a sign; `none` is
`ValueError`. The digits of other scripts are above U+00FF, where no string of the wire is. -/
def intOfStr (s : Str) : Option ℤ :=
  if (s.filter Char.isDigit).length ≤ intMaxStrDigits then
    match (s.dropWhile isIntSpace).rdropWhile isIntSpace with
    | '-' :: ds => (digitsValue ds).map fun n => -(n : ℤ)
    | '+' :: ds => (digitsValue ds).map fun n => (n : ℤ)
    | ds => (digitsValue ds).map fun n => (n : ℤ)
  else none

example : intOfStr (str " +1_0 ") = some 10 ∧ intOfStr (str "1__0") = none ∧
    intOfStr [Char.ofNat 0x1C, '0'] = none ∧ intOfStr [Char.ofNat 0xA0, '0'] = some 0 := by
  decide +kernel

/-- `s.encode("latin-1")`; `none` is `UnicodeEncodeError`. -/
def latin1Encode : Str → Option Bytes
  | [] => some []
  | c :: cs =>
    if h : c.toNat < 256 then (latin1Encode cs).map fun bs => ⟨c.toNat, h⟩ :: bs else none

/-- `bs.decode("latin-1")`. -/
def latin1Decode (bs : Bytes) : Str := bs.map fun b => Char.ofNat b.val

theorem toNat_charOfByte (b : Byte) : (Char.ofNat b.val).toNat = b.val := by
  have hv : b.val.isValidChar := by
    have hb := b.isLt
    exact Or.inl (by omega)
  rw [Char.ofNat, dif_pos hv]
  rfl

theorem latin1Decode_encode {s : Str} {bs : Bytes} (h : latin1Encode s = some bs) :
    latin1Decode bs = s := by
  induction s generalizing bs with
  | nil =>
    cases h
    rfl
  | cons c cs ih =>
    simp only [latin1Encode] at h
    split at h
    · obtain ⟨rest, hr, rfl⟩ := Option.map_eq_some_iff.mp h
      have hc : Char.ofNat c.toNat = c := Char.ofNat_toNat c
      simp only [latin1Decode, List.map_cons, hc, List.cons.injEq, true_and]
      exact ih hr
    · cases h

theorem latin1Encode_length {s : Str} {bs : Bytes} (h : latin1Encode s = some bs) :
    bs.length = s.length := by
  rw [← latin1Decode_encode h]
  simp [latin1Decode]

theorem latin1Encode_eq_none {s : Str} : latin1Encode s = none ↔ ∃ c ∈ s, 255 < c.toNat := by
  induction s with
  | nil => simp [latin1Encode]
  | cons c cs ih =>
    by_cases h : c.toNat < 256
    · have hn : ¬255 < c.toNat := by omega
      simp only [latin1Encode, dif_pos h, Option.map_eq_none_iff, ih, List.mem_cons,
        exists_eq_or_imp, hn, false_or]
    · have hp : 255 < c.toNat := by omega
      simp [latin1Encode, h, hp]

/-! ### Fixed-width integers -/

/-- `ctypes.c_uintN(v).value`. -/
def cUint (w v : ℕ) : ℤ := ((v % 2 ^ w : ℕ) : ℤ)

/-- `ctypes.c_intN(v).value`. -/
def cInt (w v : ℕ) : ℤ :=
  if v % 2 ^ w < 2 ^ (w - 1) then ((v % 2 ^ w : ℕ) : ℤ) else ((v % 2 ^ w : ℕ) : ℤ) - 2 ^ w

/-- `v & (2**w - 1)`. -/
def maskUint (w : ℕ) (v : ℤ) : ℤ := v % 2 ^ w

/-- `struct.pack("!I", n)`; `none` is `struct.error`. -/
def packU32 (n : ℕ) : Option Bytes :=
  if n < 2 ^ 32 then
    some [byte (n / 2 ^ 24), byte (n / 2 ^ 16), byte (n / 2 ^ 8), byte n]
  else none

/-- `struct.unpack("!I", buf)`; `none` is `struct.error`. -/
def unpackU32 : Bytes → Option ℕ
  | [a, b, c, d] => some (2 ^ 24 * a.val + 2 ^ 16 * b.val + 2 ^ 8 * c.val + d.val)
  | _ => none

theorem packU32_length {n : ℕ} {bs : Bytes} (h : packU32 n = some bs) : bs.length = 4 := by
  simp only [packU32] at h
  split at h
  · cases h
    rfl
  · cases h

theorem unpackU32_packU32 {n : ℕ} {bs : Bytes} (h : packU32 n = some bs) :
    unpackU32 bs = some n := by
  simp only [packU32] at h
  split at h
  · cases h
    simp only [unpackU32, byte_val, Option.some.injEq]
    omega
  · cases h

end SpoeForge
