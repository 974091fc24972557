import Pkcs11rs.Model.Scp03Session

/-!
# The APDU codec

`decode` reads back what `encode` writes, and what it accepts is what `encode` writes for the command
(`apdu_codec_exact`).  The one string more that it accepts announces data of length zero in the extended
form, which is not how a command without data is written (`zero_data_length_accepted`).

A command keeps its form when the form is the one that its lengths need, which is how `transmit_command`
sends it (`decode_encode`).
-/

set_option autoImplicit false

namespace Pkcs11rs.Analysis

open Pkcs11rs.Library Pkcs11rs.Model CommandApdu ApduTransport ResponseApdu List

variable {n le : ℕ} {encoded : Bytes}

/-- Clearing the chaining bit undoes setting it. -/
theorem chaining_cleared : ∀ cla : UInt8, cla &&& commandChainingCla = 0 →
    cla &&& 0xef = cla ∧ (cla ||| commandChainingCla) &&& 0xef = cla ∧
      (cla ||| commandChainingCla) &&& commandChainingCla ≠ 0 :=
  forall_byte (by decide +kernel)

/-- A number below 65536 in two bytes. -/
theorem exists_beBytes_two (h : n < 65536) : ∃ a b, beBytes 2 n = [a, b] ∧ beValue [a, b] = n := by
  obtain ⟨a, b, hab⟩ := length_eq_two.mp (length_beBytes 2 n)
  refine ⟨a, b, hab, ?_⟩
  rw [← hab]
  exact beValue_beBytes h

/-- Two bytes are an extended length. -/
theorem beValue_two_le (a b : UInt8) : beValue [a, b] ≤ maxExtendedDataLength := by
  have hlt := beValue_lt [a, b]
  simp only [length_cons, length_nil] at hlt
  unfold maxExtendedDataLength
  omega

/-- The lengths of a command are in range. -/
structure ValidLengths (command : CommandApdu) : Prop where
  data : command.data.length ≤ maxExtendedDataLength
  le : ∀ le, command.le = some le → 0 < le ∧ le ≤ maxExtendedExpectedLength

/-! ### The length fields -/

/-- A short `Le` is read back. -/
theorem shortLe_ofNat (hpos : 0 < le) (hle : le ≤ maxShortExpectedLength) :
    shortLe (UInt8.ofNat (if le = maxShortExpectedLength then 0 else le)) = le := by
  unfold maxShortExpectedLength at hle ⊢
  unfold shortLe
  split
  · subst_vars
    rfl
  · have hvalue : (UInt8.ofNat le).toNat = le := UInt8.toNat_ofNat_of_lt' (show le < 256 by omega)
    have hne : UInt8.ofNat le ≠ 0 := by
      intro hzero
      rw [hzero] at hvalue
      simp at hvalue
      omega
    rw [if_neg hne, hvalue]

/-- An extended `Le` is read back. -/
theorem extendedLe_beBytes (hpos : 0 < le) (hle : le ≤ maxExtendedExpectedLength) : extendedLe
      (beBytes 2 (if le = maxExtendedExpectedLength then 0 else le)) = le := by
  grind [maxExtendedExpectedLength, extendedLe, beValue_beBytes]

/-- A short `Le` is in range, and is written as it was. -/
theorem shortLe_spec (le : UInt8) :
    (0 < shortLe le ∧ shortLe le ≤ maxShortExpectedLength) ∧
    UInt8.ofNat (if shortLe le = maxShortExpectedLength then 0
      else shortLe le) = le := by
  have hlt := le.toNat_lt
  unfold shortLe maxShortExpectedLength
  by_cases hzero : le = 0
  · simp [hzero]
  · have hpos : le.toNat ≠ 0 := fun h => hzero (UInt8.toNat_inj.mp h)
    rw [if_neg hzero, if_neg (by omega), UInt8.ofNat_toNat]
    exact ⟨by omega, rfl⟩

/-- An extended `Le` is in range, and is written as it was. -/
theorem extendedLe_spec {le : Bytes} (h : le.length = 2) :
    (0 < extendedLe le ∧ extendedLe le ≤ maxExtendedExpectedLength) ∧
    beBytes 2 (if extendedLe le = maxExtendedExpectedLength then 0
      else extendedLe le) = le := by
  have hlt := beValue_lt le
  have hback := beBytes_beValue h
  rw [h] at hlt
  unfold extendedLe maxExtendedExpectedLength
  by_cases hzero : beValue le = 0
  · rw [hzero] at hback
    simp [hzero, hback]
  · rw [if_neg hzero, if_neg (by omega), hback]
    exact ⟨by omega, rfl⟩

/-! ### What is written -/

/-- The form in which a command is written. -/
def writtenExtended (command : CommandApdu) : Bool :=
  command.extended || ApduTransport.needsExtended command

/-- The data behind its length. -/
def measured (extended : Bool) (data : Bytes) : Bytes :=
  if data = [] then []
  else if extended then 0 :: beBytes 2 data.length ++ data
  else UInt8.ofNat data.length :: data

/-- A command in one of the forms. -/
def written (extended : Bool) (command : CommandApdu) : Bytes :=
  [command.cla, command.ins, command.p1, command.p2] ++ measured extended command.data ++
    command.encodeLe extended

section Written

variable {command : CommandApdu}

/-- When a valid command is written in extended form. -/
theorem usesExtendedLength_eq {length : ℕ} (h : ValidLengths command)
    (hlength : length ≤ maxExtendedDataLength) :
    command.usesExtendedLength length = .ok (command.extended ||
      decide (length > maxShortDataLength) ||
      command.le.any fun le => decide (le > maxShortExpectedLength)) := by
  have hrange : ¬ (length > maxExtendedDataLength ∨
      command.le.any (fun le => le == 0 || decide (le > maxExtendedExpectedLength)) = true) := by
    rintro (hdata | hle)
    · omega
    · cases hc : command.le with
      | none => simp [hc] at hle
      | some le =>
        obtain ⟨hpos, hmax⟩ := h.le le hc
        simp [hc] at hle
        omega
  unfold usesExtendedLength
  rw [if_neg hrange]

/-- A command with valid lengths is written. -/
theorem encode_of_valid (h : ValidLengths command) :
    command.encode = .ok (written (writtenExtended command) command) := by
  have huses : command.usesExtendedLength command.data.length = .ok (writtenExtended command) := by
    rw [usesExtendedLength_eq h h.data, Bool.or_assoc]
    rfl
  have hrange : ¬ (command.data.length < command.data.length ∨
      command.data.length > maxExtendedDataLength) := by
    have := h.data
    omega
  unfold CommandApdu.encode CommandApdu.encodeHeaderAndData written measured
  simp only [huses, if_neg hrange, length_eq_zero_iff]
  split_ifs <;> simp

/-- A short command is written in short form. -/
theorem encode_of_short (hform : command.extended = false)
    (hdata : command.data.length ≤ maxShortDataLength)
    (hle : ∀ n, command.le = some n → 0 < n ∧ n ≤ maxShortExpectedLength) :
    command.encode = .ok (written false command) := by
  have hshort : writtenExtended command = false := by
    rcases hcase : command.le with _ | n <;> grind [writtenExtended, needsExtended]
  rw [encode_of_valid ⟨hdata.trans (by decide), fun n hn => ?_⟩, hshort]
  exact ⟨(hle n hn).1, (hle n hn).2.trans (by decide)⟩

/-- Only commands with valid lengths are written. -/
theorem validLengths_of_encode (h : command.encode = .ok encoded) : ValidLengths command := by
  have hrange : ¬ (command.data.length > maxExtendedDataLength ∨ command.le.any
      (fun le => le == 0 || decide (le > maxExtendedExpectedLength)) = true) := by
    intro hrange
    unfold CommandApdu.encode CommandApdu.usesExtendedLength at h
    rw [if_pos hrange] at h
    cases h
  constructor
  · omega
  · grind

end Written

/-! ### Round trip -/

section RoundTrip

variable {command : CommandApdu}

/-- A command without data is read back. -/
theorem decode_written_nil {form : Bool} (h : ValidLengths command) (hdata : command.data = [])
    (hform : form = false → ∀ n, command.le = some n → n ≤ maxShortExpectedLength) :
    decode (written form command) =
      .ok { command with extended := form && command.le.isSome } := by
  obtain ⟨cla, ins, p1, p2, data, le, extended⟩ := command
  cases hdata
  cases le with
  | none => simp [written, measured, encodeLe, decode]
  | some n =>
    obtain ⟨hpos, hmax⟩ := h.le n rfl
    cases form with
    | false =>
      have hread := shortLe_ofNat hpos (hform rfl n rfl)
      simp [written, measured, encodeLe, decode, hread]
    | true =>
      obtain ⟨a, b, hab⟩ := length_eq_two.mp
        (length_beBytes 2 (if n = maxExtendedExpectedLength then 0 else n))
      have hread := extendedLe_beBytes hpos hmax
      rw [hab] at hread
      simp [written, measured, encodeLe, hab, decode, hread]

section

variable (h : ValidLengths command)

include h

/-- Short data are read back. -/
theorem decode_written_short (hdata : command.data ≠ [])
    (hshort : command.data.length ≤ maxShortDataLength)
    (hle : ∀ n, command.le = some n → n ≤ maxShortExpectedLength) :
    decode (written false command) = .ok { command with extended := false } := by
  obtain ⟨cla, ins, p1, p2, _ | ⟨first, data⟩, le, extended⟩ := command
  · exact absurd rfl hdata
  have hvalue : (UInt8.ofNat (first :: data).length).toNat = (first :: data).length :=
    UInt8.toNat_ofNat_of_lt' (Nat.lt_succ_of_le hshort)
  have hne : UInt8.ofNat (first :: data).length ≠ 0 := by
    intro hzero
    rw [hzero] at hvalue
    simp at hvalue
  unfold written measured
  rw [if_neg hdata, if_neg (by decide)]
  cases le with
  | none =>
    simp only [encodeLe, append_nil, cons_append, nil_append, decode]
    rw [if_pos hne, if_pos (by rw [hvalue]; rfl)]
  | some n =>
    have hread := shortLe_ofNat (h.le n rfl).1 (hle n rfl)
    simp only [encodeLe, cons_append, nil_append, decode]
    rw [if_pos hne, if_neg (by rw [hvalue]; simp), if_pos (by rw [hvalue]; simp), hvalue]
    simp [hread]

/-- Extended data are read back. -/
theorem decode_written_extended (hdata : command.data ≠ []) :
    decode (written true command) = .ok { command with extended := true } := by
  obtain ⟨cla, ins, p1, p2, _ | ⟨first, data⟩, le, extended⟩ := command
  · exact absurd rfl hdata
  obtain ⟨a, b, hab, hvalue⟩ := exists_beBytes_two (Nat.lt_succ_of_le h.data)
  unfold written measured
  rw [if_neg hdata, if_pos rfl, hab]
  cases le with
  | none =>
    simp only [encodeLe, append_nil, cons_append, nil_append, decode]
    rw [if_neg (by simp), if_pos (by rw [hvalue]; simp)]
  | some n =>
    have hread := extendedLe_beBytes (h.le n rfl).1 (h.le n rfl).2
    simp only [encodeLe, cons_append, nil_append, decode]
    rw [if_neg (by simp), if_neg (by rw [hvalue]; simp), if_pos (by rw [hvalue]; simp), hvalue]
    simp [hread]

/-- What is written is read back; the form is read off the lengths, where there are any. -/
theorem decode_written : decode (written (writtenExtended command) command) =
      .ok { command with
        extended := writtenExtended command && (command.data ≠ [] || command.le.isSome) } := by
  have hshort : writtenExtended command = false → command.data.length ≤ maxShortDataLength ∧
      ∀ n, command.le = some n → n ≤ maxShortExpectedLength := by
    grind [writtenExtended, needsExtended]
  by_cases hdata : command.data = []
  · simpa [hdata] using decode_written_nil h hdata fun hform => (hshort hform).2
  · cases hform : writtenExtended command with
    | true => simpa [hdata] using decode_written_extended h hdata
    | false =>
      obtain ⟨hlength, hle⟩ := hshort hform
      simpa using decode_written_short h hdata hlength hle

/-- **Round trip.**  A command in the form that its lengths need is read back as it was. -/
theorem decode_encode (hform : command.extended = needsExtended command) :
    ∃ encoded, command.encode = .ok encoded ∧ decode encoded = .ok command := by
  refine ⟨_, encode_of_valid h, ?_⟩
  rw [decode_written h]
  have hback : (writtenExtended command && (command.data ≠ [] || command.le.isSome)) =
      command.extended := by
    rcases hle : command.le with _ | n <;>
      grind [writtenExtended, needsExtended, maxShortDataLength]
  rw [hback]

end

end RoundTrip

/-! ### What is accepted -/

/-- The length of the data is written in three bytes and zero, and an `Le` follows. -/
def zeroDataLength (encoded : Bytes) : Prop :=
  encoded.length = 9 ∧ (encoded.drop 4).take 3 = [0, 0, 0]

instance (encoded : Bytes) : Decidable (zeroDataLength encoded) :=
  inferInstanceAs (Decidable (_ ∧ _))

/-- A list is its first part and its last element. -/
theorem take_append_getD {data : Bytes} (h : data.length = n + 1) :
    data.take n ++ [data.getD n 0] = data := by
  have hget : data.getD n 0 = data[n] := by simp [getD, h]
  rw [hget, take_concat_get', ← h, take_length]

/-- A string that is read is the one that is written. -/
theorem encode_decode {command : CommandApdu} (h : decode encoded = .ok command)
    (hzero : ¬ zeroDataLength encoded) : command.encode = .ok encoded := by
  fun_cases decode encoded with
  | case1 cla ins p1 p2 =>
    cases h
    rfl
  | case2 cla ins p1 p2 le =>
    cases h
    obtain ⟨hle, hback⟩ := shortLe_spec le
    refine Eq.trans (encode_of_short rfl (by simp) (by simpa using hle)) ?_
    simp [written, measured, encodeLe, hback]
  | case3 cla ins p1 p2 length second rest hlength hsize =>
    simp only [decode, if_pos hlength, if_pos hsize] at h
    cases h
    have hdata : (second :: rest).length = length.toNat := Nat.succ.inj hsize
    refine Eq.trans (encode_of_short rfl (hdata.trans_le (Nat.le_of_lt_succ length.toNat_lt))
      (by simp)) ?_
    simp [written, measured, encodeLe, - length_cons, hdata]
  | case4 cla ins p1 p2 length second rest hlength hne hsize =>
    simp only [decode, if_pos hlength, if_pos hsize, if_neg hne] at h
    cases h
    have hdata : (second :: rest).length = length.toNat + 1 := Nat.succ.inj hsize
    have hbody := take_append_getD hdata
    generalize second :: rest = body at hdata hbody
    have htake : (body.take length.toNat).length = length.toNat := by simp; omega
    have hnil : body.take length.toNat ≠ [] := by
      intro hnil
      rw [hnil] at htake
      exact hlength (UInt8.toNat_inj.mp htake.symm)
    obtain ⟨hle, hback⟩ := shortLe_spec (body.getD length.toNat 0)
    refine Eq.trans (encode_of_short rfl (htake.trans_le (Nat.le_of_lt_succ length.toNat_lt))
      (by simpa using hle)) ?_
    rw [written, measured, if_neg hnil, if_neg (by decide), htake]
    simp [encodeLe, hback, - getD_eq_getElem?_getD, hbody]
  | case5 cla ins p1 p2 length second rest hlength hne hne' =>
    simp only [decode, if_pos hlength, if_neg hne, if_neg hne'] at h
    cases h
  | case6 cla ins p1 p2 length second hlength =>
    simp only [decode, if_neg hlength] at h
    cases h
  | case7 cla ins p1 p2 length second hlength third =>
    simp only [decode, if_neg hlength] at h
    cases h
    obtain ⟨hle, hback⟩ := extendedLe_spec (show [second, third].length = 2 from rfl)
    refine Eq.trans (encode_of_valid ⟨by simp, by simpa using hle⟩) ?_
    simp [writtenExtended, written, measured, encodeLe, hback, not_not.mp hlength]
  | case8 cla ins p1 p2 length second hlength third tail htail dataLength hsize =>
    simp only [decode, if_neg hlength] at h
    rw [if_pos hsize] at h
    cases h
    have hdata : tail.length = beValue [second, third] := by simpa using hsize
    have hback : beBytes 2 tail.length = [second, third] := hdata ▸ beBytes_beValue rfl
    refine Eq.trans (encode_of_valid ⟨hdata.trans_le (beValue_two_le second third), by simp⟩) ?_
    simp [writtenExtended, written, measured, show tail ≠ [] from htail, hback, encodeLe, not_not.mp hlength]
  | case9 cla ins p1 p2 length second hlength third tail htail dataLength hne hsize =>
    simp only [decode, if_neg hlength] at h
    rw [if_neg hne, if_pos hsize] at h
    cases h
    have hdata : tail.length = beValue [second, third] + 2 := by simpa using hsize
    have hbody : beBytes 2 (beValue [second, third]) = [second, third] := beBytes_beValue rfl
    have htake : (tail.take (beValue [second, third])).length = beValue [second, third] := by
      simp; omega
    have hnil : tail.take (beValue [second, third]) ≠ [] := by
      intro hnil
      rw [hnil] at htake
      rw [← htake] at hbody hdata
      obtain ⟨rfl, rfl⟩ : 0 = second ∧ 0 = third := by simpa [beBytes] using hbody
      exact hzero ⟨by simpa using hdata, by rw [not_not.mp hlength]; rfl⟩
    obtain ⟨hle, hback⟩ := extendedLe_spec
      (show (tail.drop (beValue [second, third])).length = 2 by simp; omega)
    refine Eq.trans (encode_of_valid
      ⟨htake.trans_le (beValue_two_le second third), by simpa using hle⟩) ?_
    simp [writtenExtended, written, measured, hnil, htake, hbody, encodeLe, hback,
      not_not.mp hlength]
  | case10 cla ins p1 p2 length second hlength third tail htail dataLength hne hne' =>
    simp only [decode, if_neg hlength] at h
    rw [if_neg hne, if_neg hne'] at h
    cases h
  | case11 encoded hshort =>
    unfold decode at h
    split at h
    · exact absurd rfl (hshort _ _ _ _ _)
    · cases h

/-- A string with a data length of zero is accepted for a command that is written in seven bytes. -/
theorem encode_ne_of_zeroDataLength {command : CommandApdu} (h : decode encoded = .ok command)
    (hzero : zeroDataLength encoded) : command.encode ≠ .ok encoded := by
  obtain ⟨hlength, hbytes⟩ := hzero
  match encoded, hlength with
  | [cla, ins, p1, p2, first, second, third, high, low], _ =>
    obtain ⟨rfl, rfl, rfl⟩ : first = 0 ∧ second = 0 ∧ third = 0 := by simpa using hbytes
    have hcommand : (⟨cla, ins, p1, p2, [], some (extendedLe [high, low]), true⟩ : CommandApdu) =
        command := Except.ok.inj h
    subst hcommand
    obtain ⟨hle, -⟩ := extendedLe_spec (show [high, low].length = 2 from rfl)
    rw [encode_of_valid ⟨by simp, by simpa using hle⟩]
    -- without data no length is written before the `Le`
    intro hencode
    have hwritten := congrArg List.length (Except.ok.inj hencode)
    simp [writtenExtended, written, measured, encodeLe] at hwritten

/-- **The codec.**  What `encode` writes is read back with the same header, data and expected length.  What
`decode` accepts is written back byte for byte exactly if it does not announce data of length zero, and no
other such string is accepted for the command. -/
theorem apdu_codec_exact (command : CommandApdu) (encoded : Bytes) :
    (command.encode = .ok encoded → ∃ decoded, CommandApdu.decode encoded = .ok decoded ∧
      decoded = { command with extended := decoded.extended }) ∧
    (CommandApdu.decode encoded = .ok command →
      (command.encode = .ok encoded ↔ ¬ zeroDataLength encoded) ∧
      ∀ other, CommandApdu.decode other = .ok command → ¬ zeroDataLength encoded →
        ¬ zeroDataLength other → other = encoded) := by
  constructor
  · intro h
    have hvalid := validLengths_of_encode h
    rw [encode_of_valid hvalid] at h
    cases h
    exact ⟨_, decode_written hvalid, rfl⟩
  · intro h
    refine ⟨⟨fun hencode hzero => encode_ne_of_zeroDataLength h hzero hencode, encode_decode h⟩, ?_⟩
    intro other hother hzero hzero'
    have hencode := encode_decode h hzero
    have hencode' := encode_decode hother hzero'
    rw [hencode] at hencode'
    cases hencode'
    rfl

/-- A SELECT is written back, and the nine bytes that announce no data are not. -/
theorem apdu_codec_exact_select :
    CommandApdu.decode [0, 0xa4, 4, 0, 1, 7, 0] = .ok ⟨0, 0xa4, 4, 0, [7], some 256, false⟩ ∧
    CommandApdu.encode ⟨0, 0xa4, 4, 0, [7], some 256, false⟩ = .ok [0, 0xa4, 4, 0, 1, 7, 0] ∧
    CommandApdu.encode ⟨0, 0xca, 0, 0, [], some 1, true⟩ ≠ .ok [0, 0xca, 0, 0, 0, 0, 0, 0, 1] :=
  ⟨rfl, ((apdu_codec_exact _ _).2 rfl).1.mpr (by decide),
    fun h => ((apdu_codec_exact _ _).2 rfl).1.mp h (by decide)⟩

/-- Two strings are accepted for one command, and one of them is not written. -/
theorem zero_data_length_accepted :
    ∃ command, CommandApdu.decode [0, 0xca, 0, 0, 0, 0, 0, 0, 1] = .ok command ∧
      CommandApdu.decode [0, 0xca, 0, 0, 0, 0, 1] = .ok command ∧
      command.encode = .ok [0, 0xca, 0, 0, 0, 0, 1] :=
  ⟨_, rfl, rfl, rfl⟩

/-- A response is read back. -/
theorem parse_encode (response : ResponseApdu) : parse response.encode = .ok response := by
  obtain ⟨data, status⟩ := response
  have hlength : (data ++ beBytes 2 status.toNat).length = data.length + 2 := by simp
  unfold ResponseApdu.parse ResponseApdu.encode
  dsimp only
  rw [if_neg (by omega), hlength]
  have hvalue : beValue (beBytes 2 status.toNat) = status.toNat :=
    beValue_beBytes (by simpa using status.toNat_lt)
  simp [hvalue]

/-! ### One APDU or segments -/

/-- The expected length fits a short APDU. -/
def ShortLe (command : CommandApdu) : Prop :=
  ∀ le, command.le = some le → 0 < le ∧ le ≤ maxShortExpectedLength

section

variable {capabilities : ApduCapabilities} {command : CommandApdu}

/-- A short expected length needs no extended form. -/
theorem not_any_of_shortLe (hle : ShortLe command) :
    (command.le.any fun le => decide (le > maxShortExpectedLength)) = false := by
  cases hc : command.le with
  | none => rfl
  | some le => simpa using (hle le hc).2

/-- A command that needs no chain is one APDU. -/
theorem transmitCommand_one
    (hone : ApduTransport.needsExtended command = false ∨ capabilities.extended = true) {ε : Type}
    (transport : ApduTransport ε) (t : ε) : transport.transmitCommand capabilities command t =
      transport.transmitApdu { command with extended := needsExtended command } t := by
  have hextended : (needsExtended command && capabilities.extended) = needsExtended command := by
    rcases hone with h | h <;> simp [h]
  rw [transmitCommand, if_pos hone, hextended]

/-- A command that is too long for one APDU goes in segments. -/
theorem transmitCommand_chained
    (hone : ¬ (ApduTransport.needsExtended command = false ∨ capabilities.extended = true))
    (hle : ShortLe command) (hchaining : capabilities.commandChaining = true)
    (hcla : command.cla &&& commandChainingCla = 0) : chunks maxShortDataLength command.data ≠ [] ∧
    (∀ data ∈ chunks maxShortDataLength command.data, data.length ≤ maxShortDataLength) ∧ ∀
    {ε : Type} (transport : ApduTransport ε) t,
      transport.transmitCommand capabilities command t =
        transport.transmitSegments command (chunks maxShortDataLength command.data) t := by
  have hlong : maxShortDataLength < command.data.length := by
    have hneeds := (not_or.mp hone).1
    simpa [needsExtended, not_any_of_shortLe hle] using hneeds
  have hdata : command.data ≠ [] := by
    intro h
    simp [h] at hlong
  refine ⟨?_, fun data hmem => (length_of_mem_chunks (by decide) hmem).2, fun _ _ => ?_⟩
  · intro h
    have htwo := two_le_length_chunks (by decide) hlong
    simp [h] at htwo
  · rw [transmitCommand, if_neg hone, if_neg (by simp [not_any_of_shortLe hle]),
      if_neg (by simp [hchaining, hdata, hcla])]

end

end Pkcs11rs.Analysis
