import Mathlib.Algebra.Group.Nat.Defs
import Pkcs11rs.Library.Reader

/-!
# CBOR

The items of CBOR, as an encoder writes and a decoder reads them.  A `CborCodec` has the writers and
the readers with their laws: a reader takes what its writer wrote, `Reads reader (writer x) x`, and
`StartsWith` says which type a decoder sees when it looks ahead.

Lengths and counts are written in at most eight bytes, so the laws of byte strings and texts ask
for a length below `2 ^ 64`.
-/

set_option autoImplicit false

namespace Pkcs11rs.Library

variable {ε α : Type}

/-! ## Text -/

/-- The bytes of a text. -/
def utf8 (s : String) : List UInt8 := s.toUTF8.data.toList

/-- The text of bytes in UTF-8. -/
def fromUtf8 (bytes : List UInt8) : Option String := String.fromUTF8? ⟨bytes.toArray⟩

/-- A text is read back. -/
@[simp] theorem fromUtf8_utf8 (s : String) : fromUtf8 (utf8 s) = some s := by
  exact dif_pos s.isValidUTF8

/-! ## Items -/

/-- The type of an item, as far as decoders ask for it. -/
inductive CborType where
  | unsigned
  | bytes
  | text
  | array
  | map
  | boolean
  | null
  | other
  deriving DecidableEq, Repr

/-- The bytes begin with an item of the type, as the reader of types sees it. -/
def StartsWith (p : Reader ε CborType) (type : CborType) (bytes : List UInt8) : Prop :=
  ∀ rest, p (bytes ++ rest) = .ok (type, bytes ++ rest)

/-- An encoder and a decoder of CBOR.  The head of an array or a map of indefinite length has no count. -/
class CborCodec where
  cborUint : UInt64 → List UInt8
  cborBytes : List UInt8 → List UInt8
  cborText : String → List UInt8
  cborArray : ℕ → List UInt8
  cborMap : ℕ → List UInt8
  cborBool : Bool → List UInt8
  cborNull : List UInt8
  readUint {ε : Type} (error : ε) : Reader ε UInt64
  readBytes {ε : Type} (error : ε) : Reader ε (List UInt8)
  readString {ε : Type} (error : ε) : Reader ε String
  readArray {ε : Type} (error : ε) : Reader ε (Option ℕ)
  readMap {ε : Type} (error : ε) : Reader ε (Option ℕ)
  readBool {ε : Type} (error : ε) : Reader ε Bool
  readNull {ε : Type} (error : ε) : Reader ε Unit
  /-- The type of the next item, which is not taken. -/
  peekType {ε : Type} (error : ε) : Reader ε CborType
  reads_readUint {ε : Type} (error : ε) (n : UInt64) : Reads (readUint error) (cborUint n) n
  reads_readBytes {ε : Type} (error : ε) {bytes : List UInt8} (h : bytes.length < 2 ^ 64) :
    Reads (readBytes error) (cborBytes bytes) bytes
  reads_readString {ε : Type} (error : ε) {s : String} (h : (utf8 s).length < 2 ^ 64) :
    Reads (readString error) (cborText s) s
  reads_readArray {ε : Type} (error : ε) {count : ℕ} (h : count < 2 ^ 64) :
    Reads (readArray error) (cborArray count) (some count)
  reads_readMap {ε : Type} (error : ε) {count : ℕ} (h : count < 2 ^ 64) :
    Reads (readMap error) (cborMap count) (some count)
  reads_readBool {ε : Type} (error : ε) (b : Bool) : Reads (readBool error) (cborBool b) b
  reads_readNull {ε : Type} (error : ε) : Reads (readNull error) cborNull ()
  startsWith_cborUint {ε : Type} (error : ε) (n : UInt64) :
    StartsWith (peekType error) .unsigned (cborUint n)
  startsWith_cborBytes {ε : Type} (error : ε) (bytes : List UInt8) :
    StartsWith (peekType error) .bytes (cborBytes bytes)
  startsWith_cborText {ε : Type} (error : ε) (s : String) :
    StartsWith (peekType error) .text (cborText s)
  startsWith_cborArray {ε : Type} (error : ε) (count : ℕ) :
    StartsWith (peekType error) .array (cborArray count)
  startsWith_cborMap {ε : Type} (error : ε) (count : ℕ) :
    StartsWith (peekType error) .map (cborMap count)
  startsWith_cborBool {ε : Type} (error : ε) (b : Bool) :
    StartsWith (peekType error) .boolean (cborBool b)
  startsWith_cborNull {ε : Type} (error : ε) : StartsWith (peekType error) .null cborNull
  /-- Byte strings and texts are written as they are. -/
  length_le_cborBytes (bytes : List UInt8) : bytes.length ≤ (cborBytes bytes).length
  length_le_cborText (s : String) : (utf8 s).length ≤ (cborText s).length
  /-- Only an item of the major type of arrays is read as one. -/
  readArray_initial {ε : Type} {error : ε} {initial : UInt8} {rest : List UInt8}
    (h : initial.toNat / 32 ≠ 4) : readArray error (initial :: rest) = .error error

export CborCodec (cborUint cborBytes cborText cborArray cborMap cborBool cborNull readUint readBytes
  readString readArray readMap readBool readNull peekType reads_readUint reads_readBytes
  reads_readString reads_readArray reads_readMap reads_readBool reads_readNull startsWith_cborUint
  startsWith_cborBytes startsWith_cborText startsWith_cborArray startsWith_cborMap
  startsWith_cborBool startsWith_cborNull length_le_cborBytes length_le_cborText readArray_initial)

/-! ## Looking ahead -/

variable {type : CborType} {p : Reader ε CborType} {bytes : List UInt8}

/-- More items follow. -/
theorem StartsWith.append (h : StartsWith p type bytes) (rest : List UInt8) :
    StartsWith p type (bytes ++ rest) := by
  intro more
  rw [List.append_assoc]
  exact h (rest ++ more)

/-- A decoder that looks at the next item first. -/
theorem Reads.peek {f : CborType → Reader ε α} {a : α} (htype : StartsWith p type bytes)
    (h : Reads (f type) bytes a) : Reads (p >>= f) bytes a := by
  intro rest
  have hbind : (p >>= f) (bytes ++ rest) =
      p (bytes ++ rest) >>= fun result => f result.1 result.2 := rfl
  rw [hbind, htype]
  exact h rest

variable [CborCodec] (error : ε)

/-- Read the null value, or else an item. -/
def readNullOr (p : Reader ε α) : Reader ε (Option α) :=
  peekType error >>= fun type =>
    if type = .null then readNull error >>= fun _ => Pure.pure none
    else p >>= fun a => Pure.pure (some a)

/-- Write an item, or else the null value. -/
def cborOption (write : α → List UInt8) : Option α → List UInt8
  | none => cborNull
  | some a => write a

/-- An optional item is read back. -/
theorem reads_readNullOr {p : Reader ε α} {write : α → List UInt8} {value : Option α}
    (hnull : type ≠ .null) (htype : ∀ a, StartsWith (peekType error) type (write a))
    (h : ∀ a, value = some a → Reads p (write a) a) :
    Reads (readNullOr error p) (cborOption write value) value := by
  cases value with
  | none =>
    refine Reads.peek (startsWith_cborNull error) ?_
    exact (reads_readNull error).map fun _ => none
  | some a =>
    refine Reads.peek (htype a) ?_
    simp only [if_neg hnull]
    exact (h a rfl).map some

end Pkcs11rs.Library
