import Pkcs11rs.Analysis.CipherModes
import Pkcs11rs.Model.DeviceCipher

/-!
# Chunks on the device

The loops that spread AES over several commands are one transducer run cut into pieces: each command runs
the mode over its chunk, the chaining block carried over is the state of the transducer after the chunk
(`chaining_eq`), and a run over a concatenation is the run over the parts.  The chunk lengths
are chosen so that the commands pass the size check of every firmware version
(`validateCommand_chunk`).
-/

set_option autoImplicit false

namespace Pkcs11rs.Analysis

open Pkcs11rs.Library Pkcs11rs.Model Command List

variable {data chunk iv : Bytes} {command : Command}

/-- The block functions of a key: encryption and decryption of one block. -/
structure AesFunctions where
  apply : Bool → Bytes → Bytes
  length_apply : ∀ encrypting block, block.length = 16 → (apply encrypting block).length = 16

namespace AesFunctions

variable (aes : AesFunctions)

/-- AES-ECB over whole blocks. -/
def ecb (encrypting : Bool) (data : Bytes) : Bytes :=
  ((blocks 16 data).map (aes.apply encrypting)).flatten

/-- AES-CBC over whole blocks. -/
def cbc (encrypting : Bool) (iv data : Bytes) : Bytes :=
  (transduce (cbcStep (aes.apply encrypting) encrypting) iv (blocks 16 data)).2.flatten

/-- AES-CBC-MAC over whole blocks. -/
def cbcMac (data : Bytes) : Bytes :=
  (transduce (cbcStep (aes.apply true) true) (List.replicate 16 0) (blocks 16 data)).1

end AesFunctions

/-- The device computes the mechanism of a command that it accepts on the data of the command. -/
structure ComputesAes {ε : Type} (device : Command → ε → Outcome Rv ε Bytes) (major minor : UInt8)
    (keyId : UInt16) (aes : AesFunctions) : Prop where
  ecb : ∀ encrypting chunk command t,
    Command.keyData (if encrypting then .encryptEcb else .decryptEcb) keyId chunk = .ok command →
    validateCommand major minor command = .ok () →
    (device command t).1 = .ok (aes.ecb encrypting chunk)
  cbc : ∀ encrypting iv chunk command t, iv.length = 16 →
    Command.cryptCbc (if encrypting then .encryptCbc else .decryptCbc) keyId iv chunk =
      .ok command →
    validateCommand major minor command = .ok () →
    (device command t).1 = .ok (aes.cbc encrypting iv chunk)

/-! ### The commands -/

/-- A command of a chunk passes the size check whatever the version of the device. -/
theorem validateCommand_chunk (major minor : UInt8)
    (hcode : command.code ∈ [.encryptEcb, .decryptEcb, .encryptCbc, .decryptCbc])
    (hlength : command.data.length ≤ 2018) : validateCommand major minor command = .ok () := by
  have hsize : secureMessageLength command.data.length ≤ maximumCommandSize major minor := by
    have hmax : 2048 ≤ maximumCommandSize major minor := by
      unfold maximumCommandSize
      split <;> decide
    simp only [secureMessageLength, aesBlockSize, macLength]
    omega
  grind [validateCommand, CommandCode.isSessionProtocol]

/-- A chunk fits a command. -/
theorem fromVec_chunk {code : CommandCode}
    (hcode : code ∈ [.encryptEcb, .decryptEcb, .encryptCbc, .decryptCbc])
    (hlength : data.length ≤ 2018) : ∃ command, fromVec code data = .ok command ∧
      ∀ major minor, validateCommand major minor command = .ok () := by
  have hfits : ¬ data.length > maxCommandDataLength := by
    unfold maxCommandDataLength
    omega
  refine ⟨⟨code, data⟩, ?_, fun major minor => validateCommand_chunk major minor hcode hlength⟩
  rw [fromVec, if_neg hfits]

/-- A chunk of ECB data has a command. -/
theorem keyData_chunk (encrypting : Bool) (keyId : UInt16) (hdvd : 16 ∣ chunk.length)
    (hle : chunk.length ≤ yubihsmEcbChunkLength) :
    ∃ command, keyData (if encrypting then .encryptEcb else .decryptEcb) keyId chunk =
      .ok command ∧ ∀ major minor, validateCommand major minor command = .ok () := by
  have hdata : (beBytes 2 keyId.toNat ++ chunk).length ≤ 2018 := by
    rw [yubihsmEcbChunkLength] at hle
    rw [length_append, length_beBytes]
    omega
  cases encrypting <;>
    simpa [keyData, Nat.mod_eq_zero_of_dvd hdvd] using fromVec_chunk (by simp) hdata

/-- A chunk of CBC data has a command. -/
theorem cryptCbc_chunk (encrypting : Bool) (keyId : UInt16) (hiv : iv.length = 16)
    (hdvd : 16 ∣ chunk.length) (hle : chunk.length ≤ yubihsmCbcChunkLength) :
    ∃ command, cryptCbc (if encrypting then .encryptCbc else .decryptCbc) keyId iv chunk =
      .ok command ∧ ∀ major minor, validateCommand major minor command = .ok () := by
  have hdata : (beBytes 2 keyId.toNat ++ iv ++ chunk).length ≤ 2018 := by
    grind [yubihsmCbcChunkLength, length_beBytes]
  cases encrypting <;>
    simpa [cryptCbc, Nat.mod_eq_zero_of_dvd hdvd] using fromVec_chunk (by simp) hdata

/-! ### The modes over a concatenation -/

section Modes

variable (aes : AesFunctions)

section

variable (encrypting : Bool)

/-- ECB keeps the length. -/
theorem length_ecb (h : 16 ∣ data.length) : (aes.ecb encrypting data).length = data.length := by
  unfold AesFunctions.ecb
  rw [length_flatten_blocks 16, length_map, length_blocks, Nat.div_mul_cancel h]
  intro b hb
  obtain ⟨block, hblock, rfl⟩ := mem_map.mp hb
  exact aes.length_apply _ _ (length_of_mem_blocks 16 data block hblock)

/-- ECB of two parts. -/
theorem ecb_append {a : Bytes} (h : 16 ∣ a.length) (b : Bytes) :
    aes.ecb encrypting (a ++ b) = aes.ecb encrypting a ++ aes.ecb encrypting b := by
  simp only [AesFunctions.ecb, blocks_append 16 (by decide) a b h, map_append, flatten_append]

/-- CBC keeps the length. -/
theorem length_cbc (hiv : iv.length = 16) (h : 16 ∣ data.length) :
    (aes.cbc encrypting iv data).length = data.length := by
  have hout := (transduce_cbcStep_length (aes.length_apply encrypting) encrypting hiv data).2
  rw [AesFunctions.cbc, length_flatten_blocks 16 _ hout, length_transduce, length_blocks,
    Nat.div_mul_cancel h]

/-- The chaining block that the loops carry over is the state of the transducer. -/
theorem chaining_eq (hiv : iv.length = 16) (hdvd : 16 ∣ chunk.length) (hpos : 0 < chunk.length) :
    let tail := if encrypting then aes.cbc encrypting iv chunk else chunk
    tail.drop (tail.length - 16) =
      (transduce (cbcStep (aes.apply encrypting) encrypting) iv (blocks 16 chunk)).1 := by
  intro tail
  have htail : tail.length = chunk.length := by
    cases encrypting with
    | true => exact length_cbc aes true hiv hdvd
    | false => rfl
  rw [htail, transduce_cbcStep_drop (aes.length_apply encrypting) encrypting hiv hdvd
    (ne_nil_of_length_pos hpos)]
  rfl

/-- CBC over a concatenation goes on from the chaining block of the first part. -/
theorem cbc_append (hiv : iv.length = 16) (hdvd : 16 ∣ chunk.length) (hpos : 0 < chunk.length)
    (rest : Bytes) : let tail := if encrypting then aes.cbc encrypting iv chunk else chunk
    aes.cbc encrypting iv (chunk ++ rest) =
      aes.cbc encrypting iv chunk ++ aes.cbc encrypting (tail.drop (tail.length - 16)) rest := by
  intro tail
  rw [chaining_eq aes encrypting hiv hdvd hpos]
  simp only [AesFunctions.cbc, blocks_append 16 (by decide) chunk rest hdvd, transduce_append,
    flatten_append]

end

end Modes

/-! ### The loops -/

section Loops

variable {ε : Type} {device : Command → ε → Outcome Rv ε Bytes} {major minor : UInt8}
  {keyId : UInt16} {aes : AesFunctions}

/-- A command whose answer has the length of the chunk gives that answer. -/
theorem yubihsmChunk_eq {response : Bytes} {t : ε} (hanswer : (device command t).1 = .ok response)
    (hlength : response.length = chunk.length) :
    yubihsmChunk device (.ok command) chunk t = (.ok response, (device command t).2) := by
  grind [yubihsmChunk, Outcome.andThen]

/-- The pieces of a loop: whole blocks, none empty, none too long. -/
def Pieces (bound : ℕ) (pieces : List Bytes) : Prop :=
  ∀ chunk ∈ pieces, 16 ∣ chunk.length ∧ 0 < chunk.length ∧ chunk.length ≤ bound

/-- The chunks are pieces of whole blocks. -/
theorem pieces_chunks {bound : ℕ} (hpos : 0 < bound) (hbound : 16 ∣ bound)
    (hdata : 16 ∣ data.length) : Pieces bound (chunks bound data) := by
  intro chunk hmem
  obtain ⟨hlow, hhigh⟩ := length_of_mem_chunks hpos hmem
  exact ⟨dvd_length_of_mem_chunks hbound hdata hmem, hlow, hhigh⟩

section

variable (hdevice : ComputesAes device major minor keyId aes)

include hdevice

section

variable (encrypting : Bool)

/-- The ECB loop. -/
theorem yubihsmEcbLoop_eq (pieces : List Bytes) (hpieces : Pieces yubihsmEcbChunkLength pieces)
    (output : Bytes) (t : ε) : (yubihsmEcbLoop device keyId encrypting pieces output t).1 =
      .ok (output ++ aes.ecb encrypting pieces.flatten) := by
  induction pieces generalizing output t with
  | nil => simp [yubihsmEcbLoop, AesFunctions.ecb]
  | cons chunk pieces ih =>
    obtain ⟨hdvd, -, hle⟩ := hpieces chunk mem_cons_self
    obtain ⟨command, hcommand, hvalid⟩ := keyData_chunk encrypting keyId hdvd hle
    have hanswer := hdevice.ecb encrypting chunk command t hcommand (hvalid major minor)
    have hrest := ih (fun c hc => hpieces c (mem_cons_of_mem _ hc))
      (output ++ aes.ecb encrypting chunk) (device command t).2
    simp only [yubihsmEcbLoop, hcommand,
      yubihsmChunk_eq hanswer (length_ecb aes encrypting hdvd), Outcome.andThen]
    rw [hrest, flatten_cons, ecb_append aes encrypting hdvd, append_assoc]

/-- A chunk of CBC data is answered, and the chaining block for the next one is a block. -/
theorem yubihsmChunk_cbc (hiv : iv.length = 16) (hdvd : 16 ∣ chunk.length) (hpos : 0 < chunk.length)
    (hle : chunk.length ≤ yubihsmCbcChunkLength) (t : ε) :
    let tail := if encrypting then aes.cbc encrypting iv chunk else chunk
    (tail.drop (tail.length - 16)).length = 16 ∧ ∃ t', yubihsmChunk device
      (cryptCbc (if encrypting then .encryptCbc else .decryptCbc) keyId iv chunk) chunk t =
        (.ok (aes.cbc encrypting iv chunk), t') := by
  obtain ⟨command, hcommand, hvalid⟩ := cryptCbc_chunk encrypting keyId hiv hdvd hle
  have hanswer := hdevice.cbc encrypting iv chunk command t hiv hcommand (hvalid major minor)
  refine ⟨?_, (device command t).2, ?_⟩
  · rw [chaining_eq aes encrypting hiv hdvd hpos]
    exact (transduce_cbcStep_length (aes.length_apply encrypting) encrypting hiv chunk).1
  · rw [hcommand, yubihsmChunk_eq hanswer (length_cbc aes encrypting hiv hdvd)]

/-- The CBC loop. -/
theorem yubihsmCbcLoop_eq (pieces : List Bytes) (hpieces : Pieces yubihsmCbcChunkLength pieces)
    (hiv : iv.length = 16) (result : Bytes) (t : ε) :
    (yubihsmCbcLoop device keyId encrypting pieces iv result t).1 =
      .ok (result ++ aes.cbc encrypting iv pieces.flatten) := by
  induction pieces generalizing iv result t with
  | nil => simp [yubihsmCbcLoop, AesFunctions.cbc]
  | cons chunk pieces ih =>
    obtain ⟨hdvd, hpos, hle⟩ := hpieces chunk mem_cons_self
    obtain ⟨hnext, t', hchunk⟩ := yubihsmChunk_cbc hdevice encrypting hiv hdvd hpos hle t
    rw [yubihsmCbcLoop, hchunk]
    refine (ih (fun c hc => hpieces c (mem_cons_of_mem _ hc)) hnext _ t').trans ?_
    rw [flatten_cons, cbc_append aes encrypting hiv hdvd hpos, append_assoc]

end

/-- The loop of the MAC keeps the state of the transducer. -/
theorem yubihsmMacLoop_eq (pieces : List Bytes) (hpieces : Pieces yubihsmCbcChunkLength pieces)
    (hiv : iv.length = 16) (t : ε) : (yubihsmMacLoop device keyId pieces iv t).1 =
      .ok (transduce (cbcStep (aes.apply true) true) iv (blocks 16 pieces.flatten)).1 := by
  induction pieces generalizing iv t with
  | nil => simp [yubihsmMacLoop]
  | cons chunk pieces ih =>
    obtain ⟨hdvd, hpos, hle⟩ := hpieces chunk mem_cons_self
    obtain ⟨hnext, t', hchunk⟩ := yubihsmChunk_cbc hdevice true hiv hdvd hpos hle t
    simp only [if_true] at hchunk
    rw [yubihsmMacLoop, hchunk]
    refine (ih (fun c hc => hpieces c (mem_cons_of_mem _ hc)) hnext t').trans ?_
    rw [flatten_cons, blocks_append 16 (by decide) chunk _ hdvd, transduce_append,
      ← chaining_eq aes true hiv hdvd hpos]

end

/-- **Chunking is invisible.**  Whatever the version and so the message size of the device, the ECB, CBC
and CBC-MAC results put together from several commands are those of one computation over all of the
data. -/
theorem device_chunks_invisible (hdevice : ComputesAes device major minor keyId aes)
    (encrypting : Bool) {iv data : Bytes} (hiv : iv.length = 16) (hdata : 16 ∣ data.length)
    (t : ε) :
    (yubihsmCryptEcbBlocks device keyId data encrypting t).1 = .ok (aes.ecb encrypting data) ∧
    (yubihsmCryptCbcBlocks device keyId (some iv) data encrypting t).1 =
      .ok (aes.cbc encrypting iv data) ∧
    (yubihsmCbcMac device keyId data t).1 =
      if data = [] then .error .dataLenRange else .ok (aes.cbcMac data) := by
  have hmod : data.length % aesBlockLength = 0 := Nat.mod_eq_zero_of_dvd hdata
  have hecb : Pieces yubihsmEcbChunkLength (chunks yubihsmEcbChunkLength data) :=
    pieces_chunks (by decide) (by decide) hdata
  have hcbc : Pieces yubihsmCbcChunkLength (chunks yubihsmCbcChunkLength data) :=
    pieces_chunks (by decide) (by decide) hdata
  refine ⟨?_, ?_, ?_⟩
  · grind [yubihsmEcbLoop_eq, flatten_chunks, yubihsmCryptEcbBlocks]
  · have hloop := yubihsmCbcLoop_eq hdevice encrypting _ hcbc hiv [] t
    rw [flatten_chunks, List.nil_append] at hloop
    exact hloop
  · have hloop := yubihsmMacLoop_eq hdevice _ hcbc (List.length_replicate (n := 16) (a := 0)) t
    rw [flatten_chunks] at hloop
    unfold yubihsmCbcMac
    by_cases hempty : data = []
    · simp [hempty]
    · simp only [hempty, hmod, ne_eq, not_true_eq_false, or_self, if_false]
      exact hloop

end Loops

/-- A device whose block functions are the identity. -/
def identityDevice (command : Command) (t : Unit) : Outcome Rv Unit Bytes :=
  let identity : AesFunctions := ⟨fun _ block => block, fun _ _ h => h⟩
  match command.code with
  | .encryptEcb => (.ok (identity.ecb true (command.data.drop 2)), t)
  | .decryptEcb => (.ok (identity.ecb false (command.data.drop 2)), t)
  | .encryptCbc =>
    (.ok (identity.cbc true ((command.data.drop 2).take 16) ((command.data.drop 2).drop 16)), t)
  | .decryptCbc =>
    (.ok (identity.cbc false ((command.data.drop 2).take 16) ((command.data.drop 2).drop 16)), t)
  | _ => (.error .deviceError, t)

/-- The device of the example computes the identity. -/
theorem identityDevice_computes :
    ComputesAes identityDevice 2 3 7 ⟨fun _ block => block, fun _ _ h => h⟩ where
  ecb encrypting chunk command t hcommand _ := by
    obtain ⟨-, hcommand⟩ := guard_eq_ok.mp hcommand
    obtain ⟨-, hcommand⟩ := guard_eq_ok.mp hcommand
    obtain ⟨-, hcommand⟩ := guard_eq_ok.mp hcommand
    cases hcommand
    cases encrypting <;> simp [identityDevice, drop_left']
  cbc encrypting iv chunk command t hiv hcommand _ := by
    obtain ⟨-, hcommand⟩ := guard_eq_ok.mp hcommand
    obtain ⟨-, hcommand⟩ := guard_eq_ok.mp hcommand
    obtain ⟨-, hcommand⟩ := guard_eq_ok.mp hcommand
    cases hcommand
    cases encrypting <;> simp [identityDevice, -drop_drop, drop_left', take_left', hiv]

/-- 126 blocks in more than one chunk. -/
theorem device_chunks_invisible_identity :
    (yubihsmCbcMac identityDevice 7 (List.replicate 2016 5) ()).1 =
      .ok (AesFunctions.cbcMac ⟨fun _ block => block, fun _ _ h => h⟩ (List.replicate 2016 5)) := by
  have hdata : 16 ∣ (List.replicate 2016 (5 : UInt8)).length := by
    rw [List.length_replicate]
    decide
  have h := (device_chunks_invisible identityDevice_computes true
    (List.length_replicate (n := 16) (a := 0)) hdata ()).2.2
  rwa [if_neg (by simp)] at h

end Pkcs11rs.Analysis
