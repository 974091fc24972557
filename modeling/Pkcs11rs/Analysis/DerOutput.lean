import Pkcs11rs.Model.ObjectAttributes

/-!
# DER output

`der_tlv` writes the shortest definite length, so that a DER reader gets the tag and the content back, and
`der_integer` the shortest two's complement of a magnitude.  A tag whose low five bits are all set is the
exception: to a reader it starts a tag of several octets.
-/

set_option autoImplicit false

namespace Pkcs11rs.Analysis

open Pkcs11rs.Library Pkcs11rs.Model List

/-! ## Lengths -/

/-- The octets stand for the length, in the short or in a long definite form. -/
def LengthForm (octets : Bytes) (length : ℕ) : Prop :=
  (∃ b : UInt8, b < 0x80 ∧ octets = [b] ∧ b.toNat = length) ∨
  ∃ (b : UInt8) (digits : Bytes), octets = b :: digits ∧ b.toNat = 0x80 + digits.length ∧
    digits ≠ [] ∧ beValue digits = length

/-- The octets of a tag; the low five bits of the first are set if more follow. -/
def readTag : Bytes → Option (Bytes × Bytes)
  | [] => none
  | b :: rest =>
    if b &&& 0x1f ≠ 0x1f then some ([b], rest)
    else
      let more := rest.takeWhile (0x80 ≤ ·)
      match rest.drop more.length with
      | [] => none
      | last :: rest => some (b :: more ++ [last], rest)

/-- A definite length, which has to be the shortest one. -/
def readLength : Bytes → Option (ℕ × Bytes)
  | [] => none
  | b :: rest =>
    if b < 0x80 then some (b.toNat, rest)
    else
      let digits := rest.take (b.toNat - 0x80)
      if digits.length ≠ b.toNat - 0x80 ∨ beValue digits < 128 ∨ digits.head? = some 0 then none
      else some (beValue digits, rest.drop (b.toNat - 0x80))

/-- The tag, the content and what is left over. -/
def readDer (input : Bytes) : Option (Bytes × Bytes × Bytes) := do
  let (tag, rest) ← readTag input
  let (length, rest) ← readLength rest
  if rest.length < length then none else some (tag, rest.take length, rest.drop length)

/-- The length octets of `derTlv`. -/
def lengthOctets (n : ℕ) : Bytes :=
  if n < 128 then [UInt8.ofNat n]
  else UInt8.ofNat (0x80 + (beMinimal n).length) :: beMinimal n

/-- `der_tlv` writes tag, length and content. -/
theorem derTlv_eq (tag : UInt8) (value : Bytes) :
    derTlv tag value = tag :: (lengthOctets value.length ++ value) := by
  unfold derTlv lengthOctets
  split_ifs <;> rfl

section

variable {n : ℕ} (hlong : ¬ n < 128) (hn : n < 2 ^ 64)

include hlong hn

/-- The first octet of a long form. -/
theorem longForm_first : (UInt8.ofNat (0x80 + (beMinimal n).length)).toNat =
    0x80 + (beMinimal n).length := by
  have hlow := (beMinimal_spec n).2 (by omega)
  have hlength : (beMinimal n).length ≤ 8 := by
    by_contra hlarge
    have hpow : 256 ^ 9 ≤ 256 ^ (beMinimal n).length :=
      Nat.pow_le_pow_right (by decide) (by omega)
    omega
  exact UInt8.toNat_ofNat_of_lt' (by simp [UInt8.size]; omega)

/-- The digits of a long form do not start with zero. -/
theorem longForm_head : (beMinimal n).head? ≠ some 0 := by
  intro hzero
  obtain ⟨hvalue, hlow⟩ := beMinimal_spec n
  have hlow := hlow (by omega)
  obtain ⟨rest, hrest⟩ := head?_eq_some_iff.mp hzero
  rw [hrest, beValue_cons] at hvalue
  rw [hrest, length_cons, pow_succ] at hlow
  have hlt := beValue_lt rest
  simp at hvalue
  omega

end

/-- A short length is one octet. -/
theorem shortForm_first {n : ℕ} (hshort : n < 128) :
    (UInt8.ofNat n).toNat = n ∧ UInt8.ofNat n < 0x80 := by
  have hbyte : (UInt8.ofNat n).toNat = n := UInt8.toNat_ofNat_of_lt' (by simp [UInt8.size]; omega)
  refine ⟨hbyte, ?_⟩
  rw [UInt8.lt_iff_toNat_lt, hbyte]
  exact hshort

/-- The octets are a length. -/
theorem lengthForm_lengthOctets {n : ℕ} (hn : n < 2 ^ 64) : LengthForm (lengthOctets n) n := by
  unfold lengthOctets
  split_ifs with hshort
  · obtain ⟨hbyte, hlt⟩ := shortForm_first hshort
    exact .inl ⟨_, hlt, rfl, hbyte⟩
  · refine .inr ⟨_, _, rfl, longForm_first hshort hn, ?_, (beMinimal_spec n).1⟩
    intro hempty
    have hvalue := (beMinimal_spec n).1
    rw [hempty, beValue_nil] at hvalue
    omega

/-- No other form of the length is shorter. -/
theorem lengthOctets_shortest {n : ℕ} {octets : Bytes} (h : LengthForm octets n) :
    (lengthOctets n).length ≤ octets.length := by
  unfold lengthOctets
  split_ifs with hshort
  · obtain ⟨b, -, rfl, -⟩ | ⟨b, digits, rfl, -⟩ := h <;> simp
  · obtain ⟨b, hb, -, hvalue⟩ | ⟨b, digits, rfl, -, -, hvalue⟩ := h
    · rw [UInt8.lt_iff_toNat_lt, hvalue] at hb
      exact absurd hb hshort
    · have hlow := (beMinimal_spec n).2 (by omega)
      have hlt := beValue_lt digits
      have hpow : 256 ^ (beMinimal n).length < 256 ^ (digits.length + 1) := by
        rw [pow_succ]
        omega
      have hlength := (Nat.pow_lt_pow_iff_right (by decide)).mp hpow
      simp only [length_cons]
      omega

/-- The length is read back. -/
theorem readLength_lengthOctets {n : ℕ} (hn : n < 2 ^ 64) (rest : Bytes) :
    readLength (lengthOctets n ++ rest) = some (n, rest) := by
  unfold lengthOctets
  split_ifs with hshort
  · obtain ⟨hbyte, hlt⟩ := shortForm_first hshort
    simp only [singleton_append, readLength, if_pos hlt, hbyte]
  · have hfirst := longForm_first hshort hn
    have hlarge : ¬ UInt8.ofNat (0x80 + (beMinimal n).length) < 0x80 := by
      rw [UInt8.lt_iff_toNat_lt, hfirst]
      simp
    have hdigits : ¬ ((beMinimal n).length ≠ (beMinimal n).length ∨ n < 128 ∨
        (beMinimal n).head? = some 0) := by
      simp [hshort, longForm_head hshort hn]
    simp only [cons_append, readLength, if_neg hlarge, hfirst, Nat.add_sub_cancel_left, take_left,
      drop_left, (beMinimal_spec n).1, if_neg hdigits]

/-! ## Integers -/

/-- The number that the content of an integer stands for. -/
def twosValue (content : Bytes) : ℤ :=
  if content.head?.any (0x80 ≤ ·) then beValue content - (256 ^ content.length : ℕ)
  else beValue content

/-- Leading zeros do not count. -/
theorem beValue_dropWhile (magnitude : Bytes) :
    beValue (magnitude.dropWhile (· = 0)) = beValue magnitude := by
  induction magnitude with
  | nil => rfl
  | cons b rest ih =>
    by_cases hzero : b = 0
    · simp [hzero, ih, beValue_cons]
    · simp [hzero]

/-- What is not negative has the sign bit clear. -/
theorem lt_of_twosValue {b : UInt8} {rest : Bytes} {n : ℕ} (h : twosValue (b :: rest) = n) :
    n < 128 * 256 ^ rest.length := by
  have hlt := beValue_lt (b :: rest)
  simp only [twosValue, head?_cons, Option.any_some, decide_eq_true_eq] at h
  split_ifs at h with hsign
  · omega
  · have hbit : b.toNat ≤ 127 := by
      rw [UInt8.le_iff_toNat_le] at hsign
      exact Nat.le_of_lt_succ (Nat.lt_of_not_le hsign)
    have hmul := Nat.mul_le_mul_right (256 ^ rest.length) hbit
    have hrest := beValue_lt rest
    rw [beValue_cons] at h
    omega

/-- The content of the integer of a magnitude: its value, and no shorter content has it. -/
theorem derInteger_spec (magnitude : Bytes) : ∃ content, derInteger magnitude = derTlv 0x02 content ∧
    twosValue content = beValue magnitude ∧
    ∀ content', content' ≠ [] → twosValue content' = beValue magnitude →
      content.length ≤ content'.length := by
  have hnonzero : ∀ b ∈ (magnitude.dropWhile (· = 0)).head?, b ≠ 0 := by
    intro b hb
    have hhead := head?_dropWhile_not (· = 0) magnitude
    rw [Option.mem_def.mp hb] at hhead
    simpa using hhead
  rw [← beValue_dropWhile magnitude]
  unfold derInteger
  dsimp only
  generalize magnitude.dropWhile (· = 0) = m at hnonzero ⊢
  cases m with
  | nil =>
    refine ⟨[0], rfl, rfl, fun content' hne _ => ?_⟩
    exact length_pos_iff.mpr hne
  | cons b rest =>
    have hge := Nat.le_add_right (b.toNat * 256 ^ rest.length) (beValue rest)
    rw [← beValue_cons] at hge
    by_cases hsign : 0x80 ≤ b
    · refine ⟨0 :: b :: rest, by simp [hsign], by simp [twosValue, beValue_cons], ?_⟩
      intro content' hne hvalue
      obtain ⟨c, rest', rfl⟩ := exists_cons_of_ne_nil hne
      have hmul := Nat.mul_le_mul_right (256 ^ rest.length) (UInt8.le_iff_toNat_le.mp hsign)
      have hlt := (hmul.trans hge).trans_lt (lt_of_twosValue hvalue)
      have hrest := (Nat.pow_lt_pow_iff_right (by decide)).mp (Nat.lt_of_mul_lt_mul_left hlt)
      simpa using hrest
    · refine ⟨b :: rest, by simp [hsign], by simp [twosValue, hsign], ?_⟩
      intro content' hne hvalue
      obtain ⟨c, rest', rfl⟩ := exists_cons_of_ne_nil hne
      have hone : 1 ≤ b.toNat := Nat.pos_of_ne_zero fun hzero =>
        hnonzero b rfl (UInt8.toNat_inj.mp hzero)
      have hmul := Nat.mul_le_mul_right (256 ^ rest.length) hone
      have hlt : 256 ^ rest.length < 256 ^ (rest'.length + 1) := by
        have hbound := lt_of_twosValue hvalue
        rw [pow_succ]
        omega
      have hrest := (Nat.pow_lt_pow_iff_right (by decide)).mp hlt
      simpa using hrest

/-- **DER output.**  No definite-length form is shorter, and with a tag of one octet a DER reader returns the
tag and the content, whatever follows.  An integer has the value of its magnitude, and no shorter two's
complement has it. -/
theorem der_output_minimal (tag : UInt8) (value : Bytes) (hlength : value.length < 2 ^ 64) :
    (∃ octets, derTlv tag value = tag :: (octets ++ value) ∧ LengthForm octets value.length ∧
      ∀ octets', LengthForm octets' value.length → octets.length ≤ octets'.length) ∧
    (tag &&& 0x1f ≠ 0x1f → ∀ rest, readDer (derTlv tag value ++ rest) = some ([tag], value, rest)) ∧
    ∀ magnitude, ∃ content, derInteger magnitude = derTlv 0x02 content ∧ twosValue content = beValue
      magnitude ∧ ∀ content', content' ≠ [] → twosValue content' = beValue magnitude →
        content.length ≤ content'.length := by
  refine ⟨⟨_, derTlv_eq tag value, lengthForm_lengthOctets hlength,
    fun octets => lengthOctets_shortest⟩, fun htag rest => ?_, derInteger_spec⟩
  have hread := readLength_lengthOctets hlength (value ++ rest)
  simp only [derTlv_eq, cons_append, append_assoc, readDer, readTag, if_pos htag, hread,
    Option.bind_eq_bind, Option.bind_some]
  simp

/-- A content of 300 bytes has three length octets. -/
theorem der_output_minimal_sequence :
    (derTlv 0x30 (replicate 300 7)).take 4 = [0x30, 0x82, 0x01, 0x2c] ∧
      readDer (derTlv 0x30 (replicate 300 7)) = some ([0x30], replicate 300 7, []) := by
  have hlength : (replicate 300 (7 : UInt8)).length < 2 ^ 64 := by
    rw [length_replicate]
    decide
  have hread := (der_output_minimal 0x30 (replicate 300 7) hlength).2.1 (by decide) []
  rw [append_nil] at hread
  exact ⟨by decide +kernel, hread⟩

/-- The length octet is taken for a part of the tag. -/
theorem tag_of_several_octets :
    derTlv 0x1f [] = [0x1f, 0] ∧ readTag (derTlv 0x1f []) = some ([0x1f, 0], []) ∧
      readDer (derTlv 0x1f []) = none := by
  decide +kernel

end Pkcs11rs.Analysis
