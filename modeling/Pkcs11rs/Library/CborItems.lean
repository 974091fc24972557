import Pkcs11rs.Library.BigEndian
import Pkcs11rs.Library.Cbor

/-!
# CBOR with items of definite length

The writers that always take the shortest head, and the readers that take every head of a definite
length.  They are a `CborCodec`, so what is proved for every codec holds for them and can be evaluated.
-/

set_option autoImplicit false

namespace Pkcs11rs.Library.DefiniteLength

variable {ε : Type} {major n : ℕ} {info : ℕ} {type : CborType}

/-! ## Heads -/

/-- The first byte of an item. -/
def initialByte (major info : ℕ) : UInt8 := UInt8.ofNat (32 * major + info)

/-- The head of an item: its major type and its argument. -/
def itemHead (major n : ℕ) : List UInt8 :=
  if n < 24 then [initialByte major n]
  else if n < 2 ^ 8 then initialByte major 24 :: beBytes 1 n
  else if n < 2 ^ 16 then initialByte major 25 :: beBytes 2 n
  else if n < 2 ^ 32 then initialByte major 26 :: beBytes 4 n
  else initialByte major 27 :: beBytes 8 n

variable (error : ε)

/-- A number in a fixed count of bytes. -/
def readBe (width : ℕ) : Reader ε ℕ := fun bytes =>
  if bytes.length < width then .error error
  else .ok (beValue (bytes.take width), bytes.drop width)

/-- The argument that the low bits of the first byte announce. -/
def readArgument (info : ℕ) : Reader ε ℕ :=
  if info < 24 then Pure.pure info
  else if info = 24 then readBe error 1
  else if info = 25 then readBe error 2
  else if info = 26 then readBe error 4
  else if info = 27 then readBe error 8
  else Reader.fail error

/-- The head of an item of a major type. -/
def readHead (major : ℕ) : Reader ε ℕ := fun bytes =>
  match bytes with
  | [] => .error error
  | initial :: rest =>
    if initial.toNat / 32 = major then readArgument error (initial.toNat % 32) rest
    else .error error

/-- The major type and the low bits of the first byte. -/
theorem toNat_initialByte (hmajor : major < 8) (hinfo : info < 32) :
    (initialByte major info).toNat = 32 * major + info :=
  UInt8.toNat_ofNat_of_lt' (by simp only [UInt8.size]; omega)

/-- A number is read back. -/
theorem reads_readBe {width : ℕ} (h : n < 256 ^ width) :
    Reads (readBe error width) (beBytes width n) n := by
  intro rest
  simp [readBe, beValue_beBytes, *]

/-- A head whose argument follows the first byte. -/
theorem reads_readHead_cons {argument : List UInt8} (hmajor : major < 8) (hinfo : info < 32)
    (h : Reads (readArgument error info) argument n) :
    Reads (readHead error major) (initialByte major info :: argument) n := by
  intro rest
  have hmod : (32 * major + info) % 32 = info := by omega
  have hdiv : (32 * major + info) / 32 = major := by omega
  simp only [List.cons_append, readHead, toNat_initialByte hmajor hinfo, hmod, hdiv, if_true]
  exact h rest

/-- A head is read back. -/
theorem reads_readHead (hmajor : major < 8) (hn : n < 2 ^ 64) :
    Reads (readHead error major) (itemHead major n) n := by
  unfold itemHead
  grind [reads_readHead_cons, readArgument, Reads.pure, reads_readBe]

/-- The first byte of a head is not that of an indefinite length. -/
theorem itemHead_eq_cons (major n : ℕ) :
    ∃ info argument, info < 28 ∧ itemHead major n = initialByte major info :: argument := by
  unfold itemHead
  split_ifs with h
  · exact ⟨n, [], by omega, rfl⟩
  all_goals exact ⟨_, _, by decide, rfl⟩

/-! ## Items -/

/-- Take a number of bytes. -/
def readExact (count : ℕ) : Reader ε (List UInt8) := fun bytes =>
  if bytes.length < count then .error error else .ok (bytes.take count, bytes.drop count)

/-- Take the bytes of a text. -/
def readText (count : ℕ) : Reader ε String :=
  readExact error count >>= fun bytes =>
    match fromUtf8 bytes with
    | some s => Pure.pure s
    | none => Reader.fail error

/-- Read the head of an array or a map; an indefinite length has no count. -/
def readCount (major : ℕ) : Reader ε (Option ℕ) := fun bytes =>
  match bytes with
  | [] => .error error
  | initial :: rest =>
    if initial = initialByte major 31 then .ok (none, rest)
    else (readHead error major >>= fun count => Pure.pure (some count)) (initial :: rest)

/-- The type that the first byte of an item says. -/
def initialType (initial : UInt8) : CborType :=
  if initial ≤ 0x1b then .unsigned
  else if 0x40 ≤ initial ∧ initial ≤ 0x5b then .bytes
  else if 0x60 ≤ initial ∧ initial ≤ 0x7b then .text
  else if 0x80 ≤ initial ∧ initial ≤ 0x9b then .array
  else if 0xa0 ≤ initial ∧ initial ≤ 0xbb then .map
  else if initial = 0xf4 ∨ initial = 0xf5 then .boolean
  else if initial = 0xf6 then .null
  else .other

/-- Look at the type of the next item. -/
def peekInitial : Reader ε CborType := fun bytes =>
  match bytes with
  | [] => .error error
  | initial :: rest => .ok (initialType initial, initial :: rest)

/-- Read a truth value. -/
def readSimple : Reader ε Bool := fun bytes =>
  match bytes with
  | [] => .error error
  | initial :: rest =>
    if initial = 0xf4 then .ok (false, rest)
    else if initial = 0xf5 then .ok (true, rest)
    else .error error

/-- Read the null value. -/
def readNil : Reader ε Unit := fun bytes =>
  match bytes with
  | [] => .error error
  | initial :: rest => if initial = 0xf6 then .ok ((), rest) else .error error

/-- A number of bytes is taken. -/
theorem reads_readExact (bytes : List UInt8) :
    Reads (readExact error bytes.length) bytes bytes := by
  intro rest
  have hlength : ¬ (bytes ++ rest).length < bytes.length := by simp
  simp only [readExact, if_neg hlength, List.take_left, List.drop_left]

/-- The bytes of a text are taken. -/
theorem reads_readText (s : String) : Reads (readText error (utf8 s).length) (utf8 s) s := by
  refine (reads_readExact error (utf8 s)).last ?_
  rw [fromUtf8_utf8]
  exact Reads.pure s

/-- A count is read back. -/
theorem reads_readCount {count : ℕ} (hmajor : major < 8) (hcount : count < 2 ^ 64) :
    Reads (readCount error major) (itemHead major count) (some count) := by
  have hread := (reads_readHead error hmajor hcount).map some
  obtain ⟨info, argument, hinfo, hhead⟩ := itemHead_eq_cons major count
  have hne : initialByte major info ≠ initialByte major 31 := by grind [toNat_initialByte]
  intro rest
  have hrest := hread rest
  rw [hhead, List.cons_append] at hrest ⊢
  simp only [readCount, if_neg hne]
  exact hrest

/-- An array or a map has its major type. -/
theorem readCount_initial {initial : UInt8} {rest : List UInt8} (hmajor : major < 8)
    (h : initial.toNat / 32 ≠ major) : readCount error major (initial :: rest) = .error error := by
  have hne : initial ≠ initialByte major 31 := by
    rintro rfl
    rw [toNat_initialByte hmajor (by decide)] at h
    omega
  have hhead : readHead error major (initial :: rest) = .error error := if_neg h
  have hbind : readCount error major (initial :: rest) =
      (readHead error major (initial :: rest) >>= fun result =>
        (Pure.pure (some result.1) : Reader ε (Option ℕ)) result.2) := if_neg hne
  rw [hbind, hhead]
  rfl

/-- The type of an item is that of its first byte. -/
theorem startsWith_cons (initial : UInt8) (rest : List UInt8) :
    StartsWith (peekInitial error) (initialType initial) (initial :: rest) := fun _ => rfl

/-- The type of an item with a head. -/
theorem startsWith_itemHead (htype : ∀ info < 28, initialType (initialByte major info) = type) :
    StartsWith (peekInitial error) type (itemHead major n) := by
  obtain ⟨info, argument, hinfo, hhead⟩ := itemHead_eq_cons major n
  rw [hhead, ← htype info hinfo]
  exact startsWith_cons error _ _

/-! ## The codec -/

instance codec : CborCodec where
  cborUint n := itemHead 0 n.toNat
  cborBytes bytes := itemHead 2 bytes.length ++ bytes
  cborText s := itemHead 3 (utf8 s).length ++ utf8 s
  cborArray count := itemHead 4 count
  cborMap count := itemHead 5 count
  cborBool b := [if b then 0xf5 else 0xf4]
  cborNull := [0xf6]
  readUint error := readHead error 0 >>= fun n => Pure.pure (UInt64.ofNat n)
  readBytes error := readHead error 2 >>= fun count => readExact error count
  readString error := readHead error 3 >>= fun count => readText error count
  readArray error := readCount error 4
  readMap error := readCount error 5
  readBool error := readSimple error
  readNull error := readNil error
  peekType error := peekInitial error
  reads_readUint error n := by
    have hhead := reads_readHead error (by decide : 0 < 8) n.toNat_lt
    have hread := hhead.map UInt64.ofNat
    rwa [UInt64.ofNat_toNat] at hread
  reads_readBytes error _ h := (reads_readHead error (by decide) h).bind (reads_readExact error _)
  reads_readString error _ h := (reads_readHead error (by decide) h).bind (reads_readText error _)
  reads_readArray error _ h := reads_readCount error (by decide) h
  reads_readMap error _ h := reads_readCount error (by decide) h
  reads_readBool _ b _ := by cases b <;> rfl
  reads_readNull _ _ := rfl
  startsWith_cborUint error _ := startsWith_itemHead error (by decide)
  startsWith_cborBytes error bytes := (startsWith_itemHead error (by decide)).append bytes
  startsWith_cborText error s := (startsWith_itemHead error (by decide)).append (utf8 s)
  startsWith_cborArray error _ := startsWith_itemHead error (by decide)
  startsWith_cborMap error _ := startsWith_itemHead error (by decide)
  startsWith_cborBool error b := by cases b <;> exact startsWith_cons error _ _
  startsWith_cborNull error := startsWith_cons error _ _
  length_le_cborBytes bytes := by
    rw [List.length_append]
    omega
  length_le_cborText s := by
    rw [List.length_append]
    omega
  readArray_initial h := readCount_initial _ (by decide) h

end Pkcs11rs.Library.DefiniteLength
