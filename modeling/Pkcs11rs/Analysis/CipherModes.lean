import Pkcs11rs.Model.Crypt

/-!
# The software cipher functions as block transducers

Over lawful external primitives, the transformation that an update applies to complete
blocks (`cryptBlocks`) and the one that a single-part or final call applies to the whole
input (`cryptTransform`) are the transducer `cipherStep` of the mechanism, started at the
chaining block of the operation (`cryptBlocks_eq`, `cryptTransform_toOption`), and the
chaining block an update stores is the transducer's state (`chained_cryptUpdateIv`).
-/

set_option autoImplicit false

namespace Pkcs11rs.Analysis

open Pkcs11rs.Library Pkcs11rs.Model CipherMechanism

variable {m : CipherMechanism} {key : Bytes} {block s : Bytes} {operation : CryptOperation}

/-- The block function an operation applies. -/
def blockFunction (c : BlockCiphers) (m : CipherMechanism) (key : Bytes) (encrypting : Bool) :
    Bytes → Bytes :=
  if m.des3 then (if encrypting then c.tdesEncrypt key else c.tdesDecrypt key)
  else (if encrypting then c.aesEncrypt key else c.aesDecrypt key)

/-- The mode of operation of a mechanism as a transducer step on chaining block and block. -/
def cipherStep (c : BlockCiphers) (m : CipherMechanism) (key : Bytes) (encrypting : Bool) :
    Bytes → Bytes → Bytes × Bytes :=
  if m.cbc then cbcStep (blockFunction c m key encrypting) encrypting
  else ecbStep (blockFunction c m key encrypting)

/-- A key of the right length for the mechanism's cipher. -/
def ValidKey (m : CipherMechanism) (key : Bytes) : Prop :=
  if m.des3 then IsTdesKey key else IsAesKey key

/-- `s` is the chaining block of the operation; ECB has none. -/
def Chained (operation : CryptOperation) (s : Bytes) : Prop :=
  operation.mechanism.cbc = true →
    (if operation.mechanism.des3 then operation.des3Iv else operation.iv) = some s ∧
      s.length = operation.mechanism.blockLength

/-- Blocks are not empty. -/
theorem blockLength_pos (m : CipherMechanism) : 0 < m.blockLength := by
  cases m <;> decide

/-- The lengths of blocks. -/
theorem blockLength_eq (m : CipherMechanism) : m.blockLength = 8 ∨ m.blockLength = 16 := by
  cases m <;> decide

section

variable {core : SymmetricCore} {c : BlockCiphers}

/-- A cipher keeps the length of a block. -/
theorem length_blockFunction (hcore : core.Implements c) (hkey : ValidKey m key) (encrypting : Bool)
    (hblock : block.length = m.blockLength) :
    (blockFunction c m key encrypting block).length = m.blockLength := by
  unfold ValidKey at hkey
  unfold blockLength at hblock ⊢
  unfold blockFunction
  by_cases hdes : m.des3 = true
  · simp only [hdes, if_true, tdesBlockLength] at hkey hblock ⊢
    cases encrypting
    · simpa using hcore.tdesDecrypt_length key block hkey hblock
    · simpa using hcore.tdesEncrypt_length key block hkey hblock
  · simp only [hdes, if_false, aesBlockLength, Bool.false_eq_true] at hkey hblock ⊢
    cases encrypting
    · simpa using hcore.aesDecrypt_length key block hkey hblock
    · simpa using hcore.aesEncrypt_length key block hkey hblock

/-- A step keeps the chaining block at block length and outputs one block. -/
theorem cipherStep_length (hcore : core.Implements c) (hkey : ValidKey m key) (encrypting : Bool)
    (s block : Bytes) (hs : m.cbc = true → s.length = m.blockLength)
    (hblock : block.length = m.blockLength) :
    (m.cbc = true → (cipherStep c m key encrypting s block).1.length = m.blockLength) ∧
      (cipherStep c m key encrypting s block).2.length = m.blockLength := by
  unfold cipherStep
  by_cases hcbc : m.cbc = true
  · have hs := hs hcbc
    have hxor : (xorBytes block s).length = m.blockLength := by
      rw [length_xorBytes, hblock, hs, Nat.min_self]
    simp only [hcbc, if_true, cbcStep]
    cases encrypting
    · have hf := length_blockFunction hcore hkey false hblock
      simp [hblock, hf, hs]
    · have hf := length_blockFunction hcore hkey true hxor
      simp [hf]
  · grind [ecbStep, length_blockFunction]

/-- ECB transforms block by block. -/
theorem transduce_ecbStep (f : Bytes → Bytes) (s : Bytes) (bs : List Bytes) :
    transduce (ecbStep f) s bs = (s, bs.map f) := by
  induction bs with
  | nil => rfl
  | cons b bs ih => simp [ecbStep, ih]

/-- After at least one block, CBC chains on the last ciphertext block. -/
theorem transduce_cbcStep_state (f : Bytes → Bytes) (encrypting : Bool) (s b : Bytes)
    (bs : List Bytes) : (transduce (cbcStep f encrypting) s (bs ++ [b])).1 =
      if encrypting then (transduce (cbcStep f encrypting) s (bs ++ [b])).2.getLastD []
      else b := by
  rw [transduce_append]
  cases encrypting <;> simp [cbcStep]

section Chaining

variable {f : Bytes → Bytes} {n : ℕ} {s data : Bytes}

section

variable (hf : ∀ b : Bytes, b.length = n → (f b).length = n) (encrypting : Bool) (hs : s.length = n)

include hf hs

/-- CBC over whole blocks with a function on blocks keeps blocks of the same length. -/
theorem transduce_cbcStep_length (data : Bytes) :
    (transduce (cbcStep f encrypting) s (blocks n data)).1.length = n ∧
      ∀ b ∈ (transduce (cbcStep f encrypting) s (blocks n data)).2, b.length = n := by
  apply transduce_invariant _ (fun s : Bytes => s.length = n) (fun b : Bytes => b.length = n)
    (fun b : Bytes => b.length = n) _ s _ hs (length_of_mem_blocks n data)
  intro s b hs hb
  have hxor : (xorBytes b s).length = n := by simp [hs, hb]
  cases encrypting with
  | true => simp [cbcStep, hf _ hxor]
  | false => simp [cbcStep, hf _ hb, hs, hb]

/-- The chaining block after some blocks is the last block of the ciphertext. -/
theorem transduce_cbcStep_drop (hdata : n ∣ data.length) (hne : data ≠ []) :
    (transduce (cbcStep f encrypting) s (blocks n data)).1 =
      (if encrypting then (transduce (cbcStep f encrypting) s (blocks n data)).2.flatten
        else data).drop (data.length - n) := by
  have hmem := length_of_mem_blocks n data
  have hflat := flatten_blocks n data hdata
  have hout := (transduce_cbcStep_length hf encrypting hs data).2
  have hlength : (transduce (cbcStep f encrypting) s (blocks n data)).2.flatten.length =
      data.length := by
    rw [length_flatten_blocks n _ hout, length_transduce, length_blocks, Nat.div_mul_cancel hdata]
  -- the blocks of the data are some blocks and a last one
  obtain ⟨bs, b, hsplit⟩ : ∃ bs b, blocks n data = bs ++ [b] := by
    have hblocks : blocks n data ≠ [] := fun h0 => hne (by rw [← hflat, h0]; rfl)
    exact ⟨_, _, (List.dropLast_append_getLast hblocks).symm⟩
  cases encrypting with
  | false =>
    rw [hsplit] at hmem hflat ⊢
    have hlast := drop_flatten_blocks n bs b (hmem b (by simp))
    rw [hflat] at hlast
    simp [transduce_cbcStep_state, hlast]
  | true =>
    rw [← hlength, hsplit]
    simp [transduce_append, cbcStep, *]

end

end Chaining

/-- One AES block through the external ECB function is one application of the cipher. -/
theorem softwareCryptEcbBlocks_single (hcore : core.Implements c) (hkey : IsAesKey key)
    (hblock : block.length = 16) (encrypting : Bool) :
    softwareCryptEcbBlocks core key block encrypting =
      .ok (if encrypting then c.aesEncrypt key block else c.aesDecrypt key block) := by
  have hmod : block.length % 16 = 0 := by omega
  have hone := blocks_single 16 (by decide) block hblock
  unfold softwareCryptEcbBlocks
  cases encrypting
  · simp [hcore.decryptAesEcb key block hkey hmod, hone]
  · simp [hcore.encryptAesEcb key block hkey hmod, hone]

/-- The AES CBC loop is the CBC transducer. -/
theorem softwareAesCbcLoop_eq (hcore : core.Implements c) (hkey : IsAesKey key) (encrypting : Bool)
    (previous : Bytes) (bs : List Bytes) (hprev : previous.length = 16)
    (hbs : ∀ b ∈ bs, b.length = 16) : softwareAesCbcLoop core key encrypting previous bs =
      .ok (transduce (cbcStep (if encrypting then c.aesEncrypt key else c.aesDecrypt key)
        encrypting) previous bs).2.flatten := by
  induction bs generalizing previous with
  | nil => rfl
  | cons b bs ih =>
    have hb : b.length = 16 := hbs b (by simp)
    have hrest : ∀ b' ∈ bs, b'.length = 16 := fun b' h => hbs b' (by simp [h])
    cases encrypting with
    | true =>
      have hxor : (xorBytes b previous).length = 16 := by simp [hb, hprev]
      have henc := hcore.aesEncrypt_length key _ hkey hxor
      simp only [softwareAesCbcLoop, if_true, softwareCryptEcbBlocks_single hcore hkey hxor true]
      rw [show (Except.ok (c.aesEncrypt key (xorBytes b previous)) >>= fun encrypted => do
          let output ← softwareAesCbcLoop core key true encrypted bs
          return encrypted ++ output : Except Rv Bytes) = (do
          let output ← softwareAesCbcLoop core key true (c.aesEncrypt key (xorBytes b previous)) bs
          return c.aesEncrypt key (xorBytes b previous) ++ output) from rfl,
        ih _ henc hrest]
      rfl
    | false =>
      simp only [softwareAesCbcLoop, Bool.false_eq_true, if_false,
        softwareCryptEcbBlocks_single hcore hkey hb false]
      rw [show (Except.ok (c.aesDecrypt key b) >>= fun decrypted => do
          let output ← softwareAesCbcLoop core key false b bs
          return xorBytes decrypted previous ++ output : Except Rv Bytes) = (do
          let output ← softwareAesCbcLoop core key false b bs
          return xorBytes (c.aesDecrypt key b) previous ++ output) from rfl,
        ih _ hb hrest]
      rfl

/-- The transduction of `data` from the chaining block `s`, as a byte string. -/
def transform (c : BlockCiphers) (m : CipherMechanism) (key : Bytes) (encrypting : Bool)
    (s data : Bytes) : Bytes :=
  (transduce (cipherStep c m key encrypting) s (blocks m.blockLength data)).2.flatten

/-- No blocks give nothing. -/
theorem transform_nil (m : CipherMechanism) (key : Bytes) (encrypting : Bool) (s : Bytes) :
    transform c m key encrypting s [] = [] := by
  simp [transform]

section

variable (hcore : core.Implements c)

include hcore

/-- The transformation of whole blocks has as many bytes. -/
theorem length_transform (hkey : ValidKey m key) (encrypting : Bool)
    (hs : m.cbc = true → s.length = m.blockLength) (data : Bytes) :
    (transform c m key encrypting s data).length = data.length / m.blockLength * m.blockLength := by
  have hlen := (transduce_invariant (cipherStep c m key encrypting)
    (fun s => m.cbc = true → s.length = m.blockLength) (fun b => b.length = m.blockLength)
    (fun b => b.length = m.blockLength)
    (fun s b hs hb => cipherStep_length hcore hkey encrypting s b hs hb) s
    (blocks m.blockLength data) hs (length_of_mem_blocks _ _)).2
  unfold transform
  rw [length_flatten_blocks _ _ hlen, length_transduce, length_blocks]

section

variable (hkey : ValidKey operation.mechanism operation.key) (hs : Chained operation s)
  (encrypting : Bool) (data : Bytes)

include hkey hs

/-- **Whole blocks**: an update transforms whole blocks by the mechanism's transducer. -/
theorem cryptBlocks_eq (hdata : data.length % operation.mechanism.blockLength = 0) :
    cryptBlocks core operation encrypting data =
      .ok (transform c operation.mechanism operation.key encrypting s data) := by
  unfold ValidKey at hkey
  unfold Chained at hs
  unfold cryptBlocks transform cipherStep blockFunction blockLength
  unfold blockLength at hdata hs
  by_cases hdes : operation.mechanism.des3 = true
  · simp only [hdes, if_true, tdesBlockLength] at hkey hs hdata ⊢
    by_cases hcbc : operation.mechanism.cbc = true
    · obtain ⟨hiv, hlen⟩ := hs hcbc
      simp only [hcbc, if_true, hiv, softwareTdesCbc]
      cases encrypting
      · simp [hcore.decryptTdesCbc _ _ _ hkey hlen, hdata]
      · simp [hcore.encryptTdesCbc _ _ _ hkey hlen, hdata]
    · simp only [hcbc, Bool.false_eq_true, if_false, softwareTdesEcbBlocks, transduce_ecbStep]
      cases encrypting
      · simp [hcore.decryptTdesEcb _ _ hkey hdata]
      · simp [hcore.encryptTdesEcb _ _ hkey hdata]
  · simp only [hdes, Bool.false_eq_true, if_false, aesBlockLength] at hkey hs hdata ⊢
    by_cases hcbc : operation.mechanism.cbc = true
    · grind [softwareAesCbc, aesBlockLength, softwareAesCbcLoop_eq, length_of_mem_blocks]
    · simp only [hcbc, Bool.false_eq_true, if_false, softwareCryptEcbBlocks, transduce_ecbStep]
      cases encrypting
      · simp [hcore.decryptAesEcb _ _ hkey hdata]
      · simp [hcore.encryptAesEcb _ _ hkey hdata]

/-- **The chaining block** an update stores is the transducer's state. -/
theorem chained_cryptUpdateIv (hne : data ≠ [])
    (hdata : operation.mechanism.blockLength ∣ data.length) : Chained (cryptUpdateIv operation
        (if encrypting then transform c operation.mechanism operation.key encrypting s data
          else data) data.length)
      (transduce (cipherStep c operation.mechanism operation.key encrypting) s
        (blocks operation.mechanism.blockLength data)).1 := by
  set n := operation.mechanism.blockLength with hn
  intro hcbc
  by_cases hcbc' : operation.mechanism.cbc = true
  swap
  · simp [cryptUpdateIv, hcbc'] at hcbc
  obtain ⟨hiv, hlen⟩ := hs hcbc'
  have hf : ∀ b : Bytes, b.length = n →
      (blockFunction c operation.mechanism operation.key encrypting b).length = n :=
    fun b hb => length_blockFunction hcore hkey encrypting hb
  have hstep : cipherStep c operation.mechanism operation.key encrypting =
      cbcStep (blockFunction c operation.mechanism operation.key encrypting) encrypting := by
    simp [cipherStep, hcbc']
  have hsize := (transduce_cbcStep_length hf encrypting hlen data).1
  have hstate := transduce_cbcStep_drop hf encrypting hlen hdata hne
  simp only [transform, hstep, ← hn]
  unfold cryptUpdateIv
  rw [hstate] at hsize ⊢
  by_cases hdes : operation.mechanism.des3 = true
  · simp only [hcbc', hdes, if_true, blockLength] at hn ⊢
    rw [hn] at hsize ⊢
    exact ⟨rfl, hsize⟩
  · simp only [hcbc', hdes, if_true, Bool.false_eq_true, if_false, blockLength] at hn ⊢
    rw [hn] at hsize ⊢
    exact ⟨rfl, hsize⟩

end

end

end

end Pkcs11rs.Analysis
