import Pkcs11rs.Library.Runs
import Pkcs11rs.Analysis.CipherModes

/-!
# Multipart encryption and decryption agree with the single-part call

An application drives one initialized operation by a list of calls (`CryptCall`): update
calls, final calls and single-part calls, each with its own output buffer.  It repeats a call
after a length query (null output) and after `CKR_BUFFER_TOO_SMALL`, collects what the calls
write, and stops at the first call that fails or at the first single-part or final call that
delivers (`CryptRun.step`).

The update phase is the streaming front end of the library with the mechanism's transducer:
`updates_streamed` carries that invariant over any list of update calls.  What the final
phase delivers is a function of the operation alone (`finals_outcome`), and
`specFinal_streamed` compares it with what a single-part call delivers for everything that
was consumed.
-/

set_option autoImplicit false

namespace Pkcs11rs.Analysis

open Pkcs11rs.Library Pkcs11rs.Model CipherMechanism List

variable {requiresLogin : Bool} {v : Except Rv Bytes}

/-! ## Driving an operation -/

/-- One call on the active operation. -/
inductive CryptCall where
  /-- `C_Encrypt`/`C_Decrypt`. -/
  | whole (input : Bytes) (out : OutputBuffer)
  /-- `C_EncryptUpdate`/`C_DecryptUpdate`. -/
  | update (part : Bytes) (out : OutputBuffer)
  /-- `C_EncryptFinal`/`C_DecryptFinal`. -/
  | final (out : OutputBuffer)

namespace CryptCall

def out : CryptCall → OutputBuffer
  | whole _ out | update _ out | final out => out

def input : CryptCall → Bytes
  | whole input _ | update input _ => input
  | final _ => []

/-- Whether a delivery by this call ends the operation. -/
def ends : CryptCall → Bool
  | update _ _ => false
  | _ => true

def run (core : SymmetricCore) (userLoggedIn encrypting : Bool) :
    CryptCall → Option CryptOperation → Option CryptOperation × CallResult
  | whole input out => crypt core userLoggedIn encrypting false input out
  | update part out => cryptUpdate core userLoggedIn encrypting part out
  | final out => crypt core userLoggedIn encrypting true [] out

end CryptCall

/-- The state of an application that drives one operation. -/
structure CryptRun where
  operation : Option CryptOperation
  /-- The input bytes that calls have accepted. -/
  consumed : Bytes
  /-- What the calls have written. -/
  output : Bytes
  /-- The result, once a call has failed or the last call has delivered. -/
  outcome : Option (Except Rv Bytes)

/-- Make one call: a length query or a too small buffer changes nothing for the application. -/
def CryptRun.step (core : SymmetricCore) (userLoggedIn encrypting : Bool) (r : CryptRun)
    (call : CryptCall) : CryptRun :=
  if r.outcome.isSome then r
  else
    let (operation, result) := call.run core userLoggedIn encrypting r.operation
    if result.rv = .bufferTooSmall then { r with operation }
    else if result.rv ≠ .ok then { r with operation, outcome := some (.error result.rv) }
    else if call.out.null then { r with operation }
    else
      let output := r.output ++ result.output
      { operation, consumed := r.consumed ++ call.input, output
        outcome := if call.ends then some (.ok output) else none }

/-- Make the calls one after the other on a freshly initialized operation. -/
def runCalls (core : SymmetricCore) (userLoggedIn encrypting : Bool) (operation : CryptOperation)
    (calls : List CryptCall) : CryptRun :=
  calls.foldl (CryptRun.step core userLoggedIn encrypting) ⟨some operation, [], [], none⟩

/-! ## What the last call delivers -/

/-- The blocks an update holds back. -/
def retainedBlocks (m : CipherMechanism) (encrypting : Bool) : ℕ :=
  if !encrypting && m.padded then 1 else 0

/-- The output of the last call on the input `data` from the chaining block `s`. -/
def specFinal (c : BlockCiphers) (m : CipherMechanism) (key : Bytes) (encrypting : Bool)
    (s data : Bytes) : Option Bytes :=
  if m.padded then
    if encrypting then some (transform c m key encrypting s (pkcs7Pad m.blockLength data))
    else if data = [] ∨ data.length % m.blockLength ≠ 0 then none
    else pkcs7Unpad m.blockLength (transform c m key encrypting s data)
  else if data.length % m.blockLength = 0 then some (transform c m key encrypting s data)
  else none

/-- The length check and the transformation of a single-part or final call. -/
def lastResult (core : SymmetricCore) (operation : CryptOperation) (encrypting finalizing : Bool)
    (input : Bytes) : Except Rv Bytes := do
  let _ ← cryptOutputLength operation (operation.buffer.length + input.length) encrypting
  cryptTransform core operation encrypting finalizing (operation.buffer ++ input)

section

variable {core : SymmetricCore} {c : BlockCiphers}
  {operation : CryptOperation} {s key s₀ input bytes : Bytes} {m : CipherMechanism}
  {userLoggedIn encrypting finalizing : Bool} {r : CryptRun}

section

variable (hcore : core.Implements c)

include hcore

/-- The padded functions over a chaining function that is the mechanism's transducer. -/
theorem softwareCbcPad_toOption (m : CipherMechanism) (key s : Bytes)
    (cbc : Bytes → Bool → Except Rv Bytes)
    (hcbc : ∀ data encrypting, data.length % m.blockLength = 0 →
      cbc data encrypting = .ok (transform c m key encrypting s data)) (input : Bytes)
    (encrypting : Bool) : (softwareCbcPad core m.blockLength cbc input encrypting).toOption =
      if encrypting then some (transform c m key encrypting s (pkcs7Pad m.blockLength input))
      else if input = [] ∨ input.length % m.blockLength ≠ 0 then none
      else pkcs7Unpad m.blockLength (transform c m key encrypting s input) := by
  have hlen := blockLength_eq m
  unfold softwareCbcPad
  cases encrypting with
  | true =>
    have hpad := Nat.mod_eq_zero_of_dvd
      (dvd_length_pkcs7Pad m.blockLength (blockLength_pos m) input)
    simp only [if_true, hcore.applyPkcs7Padding input _ hlen]
    rw [toOption_bind, toOption_mapError]
    simp [Except.toOption, hcbc _ true hpad]
  | false =>
    simp only [Bool.false_eq_true, if_false, List.isEmpty_iff]
    by_cases hbad : input = [] ∨ input.length % m.blockLength ≠ 0
    · simp only [hbad, if_true]
      rfl
    · simp only [hbad, if_false]
      have hmod : input.length % m.blockLength = 0 := by
        by_contra hne
        exact hbad (.inr hne)
      rw [toOption_bind, hcbc _ _ hmod]
      have hremove := hcore.removePkcs7Padding (transform c m key false s input) _ hlen
      rw [← hremove]
      exact toOption_mapError _ _

section

variable (hkey : ValidKey operation.mechanism operation.key) (hs : Chained operation s)

include hkey hs

/-- The transformation of an unpadded mechanism: whole blocks are transduced, anything else
fails. -/
theorem cryptTransform_unpadded (hpad : operation.mechanism.padded = false)
    (encrypting finalizing : Bool) (data : Bytes) :
    (cryptTransform core operation encrypting finalizing data).toOption =
      if data.length % operation.mechanism.blockLength = 0 then
        some (transform c operation.mechanism operation.key encrypting s data)
      else none := by
  have hblocks := cryptBlocks_eq hcore hkey hs encrypting data
  obtain ⟨key, requiresLogin, m, iv, des3Iv, buffer, multipart, result⟩ := operation
  by_cases hempty : data = []
  · grind [transform_nil, Nat.zero_mod, cryptTransform, cryptBlocks, des3, cbc, padded,
      Except.toOption]
  · by_cases hmod : data.length % m.blockLength = 0
    · cases m <;>
        simp_all [cryptTransform, cryptBlocks, des3, cbc, padded, Except.toOption, blockLength]
    · simp only [hmod, if_false]
      cases m with
      | aesCbcPad | des3CbcPad => simp [padded] at hpad
      | des3Cbc =>
        -- the external CBC function itself rejects the length
        obtain ⟨hiv, hlen⟩ := hs rfl
        simp only [des3, if_true] at hiv
        have hkey' : IsTdesKey key := hkey
        have hmod' : data.length % 8 ≠ 0 := hmod
        have hlen' : s.length = 8 := hlen
        cases encrypting <;>
          simp [cryptTransform, hiv, softwareTdesCbc, Except.toOption,
            hcore.encryptTdesCbc _ _ _ hkey' hlen', hcore.decryptTdesCbc _ _ _ hkey' hlen',
            hmod']
      | aesCbc =>
        obtain ⟨hiv, -⟩ := hs rfl
        simp only [des3, Bool.false_eq_true, if_false] at hiv
        have hmod' : data.length % 16 ≠ 0 := hmod
        simp [cryptTransform, hempty, hiv, softwareAesCbc, Except.toOption, aesBlockLength, hmod']
      | aesEcb =>
        have hmod' : data.length % 16 ≠ 0 := hmod
        simp [cryptTransform, hempty, Except.toOption, aesBlockLength, hmod']
      | des3Ecb =>
        have hmod' : data.length % 8 ≠ 0 := hmod
        simp [cryptTransform, Except.toOption, tdesBlockLength, hmod']

/-- The transformation of a padded mechanism. -/
theorem cryptTransform_padded (hpad : operation.mechanism.padded = true)
    (encrypting finalizing : Bool) (data : Bytes) :
    (cryptTransform core operation encrypting finalizing data).toOption =
      specFinal c operation.mechanism operation.key encrypting s data := by
  have hblocks := fun data encrypting => cryptBlocks_eq hcore hkey hs encrypting data
  obtain ⟨key, requiresLogin, m, iv, des3Iv, buffer, multipart, result⟩ := operation
  have hcbcpad := softwareCbcPad_toOption hcore m key s
  simp only [specFinal, hpad, if_true]
  cases m <;> simp only [padded, Bool.false_eq_true] at hpad
  · obtain ⟨hiv, -⟩ := hs rfl
    grind [des3, cryptBlocks, cbc, cryptTransform, softwareAesCbcPad, blockLength]
  · obtain ⟨hiv, -⟩ := hs rfl
    grind [des3, cryptBlocks, cbc, cryptTransform, softwareTdesCbcPad, blockLength]

/-- **The last call** succeeds exactly on the inputs the specification accepts, with its
output. -/
theorem lastResult_toOption (encrypting finalizing : Bool) (input : Bytes) :
    (lastResult core operation encrypting finalizing input).toOption =
      specFinal c operation.mechanism operation.key encrypting s (operation.buffer ++ input) := by
  unfold lastResult
  rw [toOption_bind, ← length_append]
  by_cases hpad : operation.mechanism.padded = true
  · simp only [cryptTransform_padded hcore hkey hs hpad]
    cases encrypting with
    | true => simp [cryptOutputLength, hpad, Except.toOption]
    | false =>
      simp only [cryptOutputLength, specFinal, hpad, if_true, Bool.false_eq_true, if_false,
        length_eq_zero_iff]
      split <;> rfl
  · have hpad : operation.mechanism.padded = false := by simpa using hpad
    simp only [cryptTransform_unpadded hcore hkey hs hpad]
    simp [cryptOutputLength, specFinal, hpad, Except.toOption]

end

end

/-! ## The update phase -/

/-- **Streaming does not change the result**: what was released, followed by what the last call
makes of the bytes held back, is what the last call makes of everything. -/
theorem specFinal_streamed (hcore : core.Implements c) (hkey : ValidKey m key) (encrypting : Bool)
    {fed pending out : Bytes} (hs₀ : m.cbc = true → s₀.length = m.blockLength)
    (h : Streamed m.blockLength (retainedBlocks m encrypting) (cipherStep c m key encrypting) s₀
      fed s pending out) :
    specFinal c m key encrypting s₀ fed =
      (specFinal c m key encrypting s pending).map (out ++ ·) := by
  set n := m.blockLength with hn
  have hpos : 0 < n := blockLength_pos m
  have hfed : fed = fed.take (released n (retainedBlocks m encrypting) fed.length) ++ pending := by
    rw [h.pending_eq, take_append_drop]
  have hcut : n ∣ (fed.take (released n (retainedBlocks m encrypting) fed.length)).length :=
    Streamed.take_dvd _ _ _
  have hmod : fed.length % n = pending.length % n := by
    obtain ⟨k, hk⟩ := hcut
    conv_lhs => rw [hfed]
    rw [length_append, hk, Nat.mul_add_mod]
  have hinv := transduce_invariant (cipherStep c m key encrypting)
    (fun s => m.cbc = true → s.length = n) (fun b => b.length = n) (fun b => b.length = n)
    (fun s b hs hb => cipherStep_length hcore hkey encrypting s b hs hb) s₀
    (blocks n (fed.take (released n (retainedBlocks m encrypting) fed.length)))
    hs₀ (length_of_mem_blocks _ _)
  have hs : m.cbc = true → s.length = n := by
    rw [h.state_eq]
    exact hinv.1
  have hout : n ∣ out.length := by
    rw [h.out_eq, length_flatten_blocks n _ hinv.2]
    exact Dvd.intro_left _ rfl
  have hcomplete := h.complete hpos
  unfold specFinal
  by_cases hpad : m.padded = true
  · simp only [hpad, if_true]
    cases encrypting with
    | true =>
      -- both paddings append the same bytes, because the lengths agree modulo the block
      have hpf : pkcs7Pad n fed = fed ++ replicate (n - pending.length % n)
          (UInt8.ofNat (n - pending.length % n)) := by rw [pkcs7Pad, hmod]
      simp only [if_true, Option.map_some, Option.some.injEq]
      rw [← hn, hpf]
      exact hcomplete _
    | false =>
      simp only [Bool.false_eq_true, if_false, ← hn]
      by_cases hbad : fed = [] ∨ fed.length % n ≠ 0
      · grind
      · obtain ⟨hne, hmod0⟩ : fed ≠ [] ∧ fed.length % n = 0 := by grind
        -- exactly the retained block is held back
        have hlen : pending.length = n := by
          have hpos' : 0 < fed.length := length_pos_iff.mpr hne
          have hdiv := Nat.div_mul_cancel (Nat.dvd_of_mod_eq_zero hmod0)
          have hq : 1 ≤ fed.length / n := by grind
          rw [h.length_pending]
          simp only [released, retainedBlocks, hpad, Bool.not_false, Bool.and_self, if_true]
          rw [Nat.sub_mul, Nat.one_mul, hdiv]
          have hle : n ≤ fed.length := by
            calc n = 1 * n := (Nat.one_mul n).symm
              _ ≤ fed.length / n * n := Nat.mul_le_mul_right _ hq
              _ = fed.length := hdiv
          omega
        have hne' : pending ≠ [] := by
          intro h0
          rw [h0] at hlen
          simp at hlen
          omega
        have hbad' : ¬ (pending = [] ∨ pending.length % n ≠ 0) := by
          rw [hlen]
          simp [hne']
        have htlen : (transform c m key false s pending).length = n := by
          rw [length_transform hcore hkey false hs, ← hn, hlen, Nat.div_self hpos, Nat.one_mul]
        have htne : transform c m key false s pending ≠ [] := by
          intro h0
          rw [h0] at htlen
          simp at htlen
          omega
        have hall : transform c m key false s₀ fed = out ++ transform c m key false s pending := by
          have := hcomplete []
          simpa [transform, ← hn] using this
        simp only [hbad, hbad', if_false]
        rw [hall, pkcs7Unpad_append n _ _ hout htne htlen.ge]
  · have hall : transform c m key encrypting s₀ fed =
        out ++ transform c m key encrypting s pending := by
      have := hcomplete []
      simpa [transform, ← hn] using this
    grind

/-- A call of the update phase: an update call, or a length query of the final call.  In padded decryption the
pending input has to be a positive whole number of blocks then. -/
def InUpdatePhase (m : CipherMechanism) (encrypting : Bool) (r : CryptRun) : CryptCall → Prop
  | .whole _ _ => False
  | .update _ _ => True
  | .final out => out.null = true ∧ (m.padded = true → encrypting = false →
      ∀ operation ∈ r.operation, operation.buffer ≠ [] ∧ m.blockLength ∣ operation.buffer.length)

instance (m : CipherMechanism) (encrypting : Bool) (r : CryptRun) (call : CryptCall) :
    Decidable (InUpdatePhase m encrypting r call) := by
  unfold InUpdatePhase
  split <;> infer_instance

/-- Every call is one of the update phase when it is made. -/
def UpdateCalls (core : SymmetricCore) (userLoggedIn encrypting : Bool) (m : CipherMechanism) :
    CryptRun → List CryptCall → Prop :=
  Along (fun r call => some (CryptRun.step core userLoggedIn encrypting r call))
    (InUpdatePhase m encrypting)

/-- The state of the application during the update phase. -/
structure UpdatePhase (c : BlockCiphers) (m : CipherMechanism) (key : Bytes)
    (requiresLogin encrypting : Bool) (s₀ : Bytes) (r : CryptRun) (operation : CryptOperation)
    (s : Bytes) : Prop where
  running : r.outcome = none
  active : r.operation = some operation
  mechanism_eq : operation.mechanism = m
  key_eq : operation.key = key
  requiresLogin_eq : operation.requiresLogin = requiresLogin
  result_eq : operation.result = none
  chained : Chained operation s
  streamed : Streamed m.blockLength (retainedBlocks m encrypting) (cipherStep c m key encrypting)
    s₀ r.consumed s operation.buffer r.output

/-- What the application makes of a call's result. -/
theorem CryptRun.step_eq (hrun : r.outcome = none) {call : CryptCall}
    {operation : Option CryptOperation} {result : CallResult}
    (hcall : call.run core userLoggedIn encrypting r.operation = (operation, result)) :
    r.step core userLoggedIn encrypting call =
      if result.rv = .bufferTooSmall then { r with operation }
      else if result.rv ≠ .ok then { r with operation, outcome := some (.error result.rv) }
      else if call.out.null then { r with operation }
      else
        { operation, consumed := r.consumed ++ call.input, output := r.output ++ result.output
          outcome := if call.ends then some (.ok (r.output ++ result.output)) else none } := by
  simp only [CryptRun.step, hrun, Option.isSome_none, Bool.false_eq_true, if_false, hcall]

/-- **The update function** on a stream: a length query and a too small buffer leave the
operation alone; otherwise the released blocks are transduced and the rest is kept. -/
theorem cryptUpdateBlocks_spec (hcore : core.Implements c)
    (hkey : ValidKey operation.mechanism operation.key) (hs : Chained operation s)
    (encrypting : Bool) (part : Bytes) (out : OutputBuffer) (produced : ℕ)
    (hproduced : produced = released operation.mechanism.blockLength
      (retainedBlocks operation.mechanism encrypting) (operation.buffer ++ part).length) :
    if out.null then
      cryptUpdateBlocks core encrypting part out operation = (some operation, ⟨.ok, produced, []⟩)
    else if out.capacity < produced then
      cryptUpdateBlocks core encrypting part out operation =
        (some operation, ⟨.bufferTooSmall, produced, []⟩)
    else ∃ operation', cryptUpdateBlocks core encrypting part out operation =
        (some operation', ⟨.ok, produced, transform c operation.mechanism operation.key encrypting s
          ((operation.buffer ++ part).take produced)⟩) ∧
      operation'.mechanism = operation.mechanism ∧ operation'.key = operation.key ∧
      operation'.requiresLogin = operation.requiresLogin ∧
      operation'.result = operation.result ∧
      operation'.buffer = (operation.buffer ++ part).drop produced ∧
      Chained operation' (transduce (cipherStep c operation.mechanism operation.key encrypting) s
        (blocks operation.mechanism.blockLength ((operation.buffer ++ part).take produced))).1 := by
  have hsource : ((operation.buffer.length + part.length) / operation.mechanism.blockLength -
      (if !encrypting && operation.mechanism.padded then 1 else 0)) *
      operation.mechanism.blockLength = produced := by
    rw [hproduced, released, retainedBlocks, length_append]
  have hdvd : operation.mechanism.blockLength ∣ produced := hproduced ▸ dvd_released _ _ _
  have hle : produced ≤ (operation.buffer ++ part).length := hproduced ▸ released_le _ _ _
  have hlen : ((operation.buffer ++ part).take produced).length = produced := by
    rw [length_take, Nat.min_eq_left hle]
  unfold cryptUpdateBlocks
  simp only [hsource]
  by_cases hnull : out.null = true
  · simp only [hnull, if_true]
  by_cases hsmall : out.capacity < produced
  · simp only [hnull, hsmall, if_false, if_true, Bool.false_eq_true]
  simp only [hnull, hsmall, if_false, Bool.false_eq_true]
  by_cases hzero : produced = 0
  · -- nothing is released: the part is only buffered
    refine ⟨{ operation with buffer := operation.buffer ++ part, multipart := true }, ?_⟩
    simp only [hzero, ne_eq, not_true_eq_false, if_false, take_zero, blocks_nil,
      transform_nil, drop_zero, transduce_nil, true_and]
    exact hs
  · have hne : (operation.buffer ++ part).take produced ≠ [] := by
      intro h0
      rw [h0] at hlen
      exact hzero hlen.symm
    have hdvd' : operation.mechanism.blockLength ∣
        ((operation.buffer ++ part).take produced).length := by rwa [hlen]
    have htrans := cryptBlocks_eq hcore hkey hs encrypting _ (Nat.mod_eq_zero_of_dvd hdvd')
    have htlen : (transform c operation.mechanism operation.key encrypting s
        ((operation.buffer ++ part).take produced)).length = produced := by
      rw [length_transform hcore hkey encrypting (fun h => (hs h).2), Nat.div_mul_cancel hdvd',
        hlen]
    have hiv := chained_cryptUpdateIv hcore hkey hs encrypting _ hne hdvd'
    rw [hlen] at hiv
    simp only [hzero, ne_eq, not_false_eq_true, if_true, htrans, htlen, not_true_eq_false, if_false]
    refine ⟨_, rfl, ?_, ?_, ?_, ?_, rfl, hiv⟩
    all_goals
      simp only [cryptUpdateIv]
      split_ifs <;> rfl

/-- **One call** of the update phase: either nothing changes, or the part is fed to the stream. -/
theorem UpdatePhase.step (hcore : core.Implements c) (hkey : ValidKey m key)
    (hlogin : (requiresLogin && !userLoggedIn) = false)
    (h : UpdatePhase c m key requiresLogin encrypting s₀ r operation s) (call : CryptCall)
    (hcall : InUpdatePhase m encrypting r call) :
    (∃ operation' s', UpdatePhase c m key requiresLogin encrypting s₀
      (r.step core userLoggedIn encrypting call) operation' s') ∧
    (call.out.null = true → (r.step core userLoggedIn encrypting call).consumed = r.consumed) ∧
    (call.out.null = false → r.consumed.length + call.input.length ≤ call.out.capacity →
      (r.step core userLoggedIn encrypting call).consumed = r.consumed ++ call.input) := by
  obtain ⟨hrun, hact, rfl, rfl, rfl, hres, hchain, hstream⟩ := h
  have hsame : ∃ operation' s', UpdatePhase c operation.mechanism operation.key
      operation.requiresLogin encrypting s₀ { r with operation := some operation } operation' s' :=
    ⟨operation, s, hrun, rfl, rfl, rfl, rfl, hres, hchain, hstream⟩
  cases call with
  | whole input out => exact hcall.elim
  | final out =>
    obtain ⟨hnull, hblocks⟩ := hcall
    obtain ⟨required, hreq⟩ : ∃ required,
        cryptOutputLength operation operation.buffer.length encrypting = .ok required := by
      cases hp : operation.mechanism.padded with
      | false => exact ⟨_, by simp only [cryptOutputLength, hp]; rfl⟩
      | true =>
        cases encrypting with
        | true => simp_all [cryptOutputLength]
        | false =>
          obtain ⟨hne, hdvd⟩ := hblocks hp rfl operation hact
          have hmod := Nat.mod_eq_zero_of_dvd hdvd
          exact ⟨operation.buffer.length, by simp [cryptOutputLength, hp, hne, hmod]⟩
    have hcallrun : (CryptCall.final out).run core userLoggedIn encrypting r.operation =
        (some operation, ⟨.ok, required, []⟩) := by
      simp [CryptCall.run, crypt, hact, hlogin, hres, hreq, hnull]
    rw [CryptRun.step_eq hrun hcallrun]
    simp only [CryptCall.out, hnull, if_true]
    exact ⟨hsame, fun _ => rfl, fun h => by simp at h⟩
  | update part out =>
    have hspec := cryptUpdateBlocks_spec hcore hkey hchain encrypting part out _ rfl
    have hfeed := hstream.feed (blockLength_pos _) part
    have hpend := hstream.length_pending
    have hle := released_le operation.mechanism.blockLength
      (retainedBlocks operation.mechanism encrypting) (operation.buffer ++ part).length
    have hrunUpdate : (CryptCall.update part out).run core userLoggedIn encrypting r.operation =
        cryptUpdateBlocks core encrypting part out operation := by
      simp [CryptCall.run, cryptUpdate, hact, hlogin, hres]
    set produced := released operation.mechanism.blockLength
      (retainedBlocks operation.mechanism encrypting) (operation.buffer ++ part).length
    by_cases hnull : out.null = true
    · simp only [hnull, if_true] at hspec
      rw [CryptRun.step_eq hrun (hrunUpdate.trans hspec)]
      simp only [CryptCall.out, hnull, if_true]
      exact ⟨hsame, fun _ => rfl, fun h => by simp at h⟩
    by_cases hsmall : out.capacity < produced
    · simp only [hnull, hsmall, if_true, if_false, Bool.false_eq_true] at hspec
      rw [CryptRun.step_eq hrun (hrunUpdate.trans hspec)]
      grind [CryptCall.input, CryptCall.out]
    · simp only [hnull, hsmall, if_false, Bool.false_eq_true] at hspec
      obtain ⟨operation', heq, hm, hk, hl, hr, hb, hc⟩ := hspec
      rw [CryptRun.step_eq hrun (hrunUpdate.trans heq)]
      simp only [CryptCall.out, hnull, CryptCall.input, CryptCall.ends, ne_eq,
        not_true_eq_false, if_false, Bool.false_eq_true, reduceCtorEq]
      refine ⟨⟨operation', _, rfl, rfl, hm, hk, hl, hr.trans hres, hc, ?_⟩, ?_, ?_⟩
      · rw [hb]
        exact hfeed
      · intro h
        exact absurd h (by simp)
      · intro _ _
        trivial

/-- **The update phase**: any list of its calls keeps the stream, and with ample buffers it
consumes exactly the parts of the calls that are not length queries. -/
theorem updates_streamed (hcore : core.Implements c) (hkey : ValidKey m key)
    (hlogin : (requiresLogin && !userLoggedIn) = false) (calls : List CryptCall)
    (hcalls : UpdateCalls core userLoggedIn encrypting m r calls)
    (h : UpdatePhase c m key requiresLogin encrypting s₀ r operation s) :
    (∃ operation' s', UpdatePhase c m key requiresLogin encrypting s₀
      (calls.foldl (CryptRun.step core userLoggedIn encrypting) r) operation' s') ∧
    ((∀ call ∈ calls, call.out.null = false →
        r.consumed.length + (calls.map CryptCall.input).flatten.length ≤ call.out.capacity) →
      (calls.foldl (CryptRun.step core userLoggedIn encrypting) r).consumed =
        r.consumed ++ ((calls.filter fun call => !call.out.null).map CryptCall.input).flatten) := by
  induction calls generalizing r operation s with
  | nil => exact ⟨⟨operation, s, h⟩, by simp⟩
  | cons call calls ih =>
    obtain ⟨⟨operation', s', hstep⟩, hquery, hfed⟩ :=
      h.step hcore hkey hlogin call hcalls.1
    obtain ⟨hphase, hconsumed⟩ := ih (hcalls.2 _ rfl) hstep
    refine ⟨hphase, fun hample => ?_⟩
    have hhead := hample call (by simp)
    have hrest : ∀ x ∈ calls, x.out.null = false → r.consumed.length +
        (call.input.length + (calls.map CryptCall.input).flatten.length) ≤ x.out.capacity := by
      intro x hx hn
      have := hample x (by simp [hx]) hn
      simpa using this
    rw [foldl_cons]
    cases hnull : call.out.null with
    | true =>
      have hq := hquery hnull
      rw [hconsumed (fun x hx hn => by have := hrest x hx hn; rw [hq]; omega), hq]
      simp [hnull]
    | false =>
      have hcap := hhead hnull
      simp only [map_cons, flatten_cons, length_append] at hcap
      have hq := hfed hnull (by omega)
      rw [hconsumed (fun x hx hn => by
        have := hrest x hx hn
        rw [hq, length_append]
        omega), hq]
      simp [hnull]

/-! ## The final phase -/

/-- An error that ends the operation. -/
def IsFailure (rv : Rv) : Prop := rv ≠ .ok ∧ rv ≠ .bufferTooSmall

/-- A result whose error, if any, ends the operation. -/
def FailsProperly {α : Type} (x : Except Rv α) : Prop := ∀ e, x = .error e → IsFailure e

/-- A success. -/
theorem failsProperly_ok {α : Type} (a : α) : FailsProperly (.ok a : Except Rv α) := by
  intro e h
  cases h

/-- An error that ends the operation. -/
theorem failsProperly_error {α : Type} {e : Rv} (h : IsFailure e) :
    FailsProperly (.error e : Except Rv α) := by
  intro e' h'
  cases h'
  exact h

/-- Errors that are renamed. -/
theorem failsProperly_mapError {α ε : Type} (x : Except ε α) {f : ε → Rv}
    (h : ∀ e, IsFailure (f e)) : FailsProperly (x.mapError f) := by
  intro e he
  cases x with
  | error e' =>
    simp only [mapError_error, Except.error.injEq] at he
    exact he ▸ h e'
  | ok a => simp at he

/-- One thing after the other. -/
theorem failsProperly_bind {α β : Type} {x : Except Rv α} {f : α → Except Rv β}
    (hx : FailsProperly x) (hf : ∀ a, FailsProperly (f a)) : FailsProperly (x >>= f) := by
  intro e he
  cases x with
  | error e' => exact hx e (by simpa [Bind.bind, Except.bind] using he)
  | ok a => exact hf a e he

/-- The errors of ECB. -/
theorem isFailure_ecbError (e : SoftwareSymmetricError) : IsFailure (ecbError e) := by
  cases e <;> simp [IsFailure, ecbError]

/-- The length error. -/
theorem isFailure_lenRangeError (encrypting : Bool) : IsFailure (lenRangeError encrypting) := by
  cases encrypting <;> simp [IsFailure, lenRangeError]

section

variable (core : SymmetricCore)

/-- AES in CBC mode. -/
theorem softwareAesCbc_failsProperly (key iv input : Bytes) (encrypting : Bool) :
    FailsProperly (softwareAesCbc core key iv input encrypting) := by
  have hloop : ∀ (bs : List Bytes) (previous : Bytes),
      FailsProperly (softwareAesCbcLoop core key encrypting previous bs) := by
    intro bs
    induction bs with
    | nil => exact fun _ => failsProperly_ok _
    | cons b bs ih =>
      intro previous
      simp only [softwareAesCbcLoop]
      split
      · exact failsProperly_bind (failsProperly_mapError _ isFailure_ecbError) fun _ =>
          failsProperly_bind (ih _) fun _ => failsProperly_ok _
      · exact failsProperly_bind (failsProperly_mapError _ isFailure_ecbError) fun _ =>
          failsProperly_bind (ih _) fun _ => failsProperly_ok _
  grind [softwareAesCbc, failsProperly_error, isFailure_lenRangeError]

/-- Triple DES in CBC mode. -/
theorem softwareTdesCbc_failsProperly (key iv input : Bytes) (encrypting : Bool) :
    FailsProperly (softwareTdesCbc core key iv input encrypting) := by
  refine failsProperly_mapError _ fun e => ?_
  cases e with
  | invalidDataLength => exact isFailure_lenRangeError encrypting
  | _ => simp [IsFailure]

/-- CBC with padding. -/
theorem softwareCbcPad_failsProperly (n : ℕ) (cbc : Bytes → Bool → Except Rv Bytes)
    (hcbc : ∀ d e, FailsProperly (cbc d e)) (input : Bytes) (encrypting : Bool) :
    FailsProperly (softwareCbcPad core n cbc input encrypting) := by
  unfold softwareCbcPad
  split
  · exact failsProperly_bind (failsProperly_mapError _ fun _ => by simp [IsFailure])
      fun _ => hcbc _ _
  · grind [failsProperly_error, IsFailure, failsProperly_bind, failsProperly_mapError]

/-- The last call never fails with the two return values the application retries on. -/
theorem lastResult_failsProperly (operation : CryptOperation) (encrypting finalizing : Bool)
    (input : Bytes) : FailsProperly (lastResult core operation encrypting finalizing input) := by
  refine failsProperly_bind ?_ fun _ => ?_
  · grind [IsFailure, cryptOutputLength, failsProperly_ok, failsProperly_error]
  · unfold cryptTransform
    have hparam : IsFailure .mechanismParamInvalid := by simp [IsFailure]
    split
    · exact failsProperly_ok _
    · cases operation.mechanism
      · dsimp only
        split
        · exact failsProperly_error (isFailure_lenRangeError _)
        · exact failsProperly_mapError _ isFailure_ecbError
      · grind [failsProperly_error, softwareAesCbc_failsProperly]
      · cases operation.iv
        · exact failsProperly_error hparam
        · exact softwareCbcPad_failsProperly _ _ _ (softwareAesCbc_failsProperly _ _ _) _ _
      · dsimp only
        split
        · exact failsProperly_error (isFailure_lenRangeError _)
        · exact failsProperly_mapError _ isFailure_ecbError
      · grind [failsProperly_error, softwareTdesCbc_failsProperly]
      · cases operation.des3Iv
        · exact failsProperly_error hparam
        · exact softwareCbcPad_failsProperly _ _ _ (softwareTdesCbc_failsProperly _ _ _) _ _

end

/-- The operation between the attempts of its last call, whose result is `v`: not computed yet,
or kept from a call with a too small buffer. -/
def Awaiting (core : SymmetricCore) (encrypting finalizing : Bool) (input : Bytes)
    (v : Except Rv Bytes) (operation : CryptOperation) : Prop :=
  (operation.result = none ∧ lastResult core operation encrypting finalizing input = v) ∨
    ∃ result, operation.result = some result ∧ v = .ok result

/-- **One attempt** of the last call. -/
theorem crypt_awaiting (hmulti : (operation.multipart && !finalizing) = false)
    (hlogin : (operation.requiresLogin && !userLoggedIn) = false)
    (h : Awaiting core encrypting finalizing input v operation) (out : OutputBuffer) :
    (∃ operation' result, crypt core userLoggedIn encrypting finalizing input out (some operation) =
        (some operation', result) ∧ Awaiting core encrypting finalizing input v operation' ∧
        (operation'.multipart && !finalizing) = false ∧
        (operation'.requiresLogin && !userLoggedIn) = false ∧
        (result.rv = .ok ∧ out.null = true ∨ result.rv = .bufferTooSmall ∧
          ∃ bytes, v = .ok bytes ∧ out.capacity < bytes.length)) ∨
    (∃ e, v = .error e ∧ crypt core userLoggedIn encrypting finalizing input out (some operation) =
        (none, .fail e out)) ∨
    (∃ bytes, v = .ok bytes ∧ out.null = false ∧
      crypt core userLoggedIn encrypting finalizing input out (some operation) =
        (none, ⟨.ok, bytes.length, bytes⟩)) := by
  rcases h with ⟨hnone, hv⟩ | ⟨result, hsome, rfl⟩
  · unfold lastResult at hv
    cases hreq : cryptOutputLength operation (operation.buffer.length + input.length)
        encrypting with
    | error e =>
      right; left
      refine ⟨e, ?_, ?_⟩
      · rw [← hv, hreq]
        rfl
      · simp [crypt, hmulti, hlogin, hnone, hreq]
    | ok required =>
      rw [hreq] at hv
      have hv : cryptTransform core operation encrypting finalizing
          (operation.buffer ++ input) = v := hv
      by_cases hnull : out.null = true
      · left
        refine ⟨operation, ⟨.ok, required, []⟩, ?_, .inl ⟨hnone, ?_⟩, hmulti, hlogin,
          .inl ⟨rfl, hnull⟩⟩
        · simp [crypt, hmulti, hlogin, hnone, hreq, hnull]
        · unfold lastResult
          rw [hreq]
          exact hv
      cases v with
      | error e => simp [crypt, Except.map, *]
      | ok bytes =>
        by_cases hsmall : out.capacity < bytes.length
        · left
          refine ⟨{ operation with buffer := [], result := some bytes },
            ⟨.bufferTooSmall, bytes.length, []⟩, ?_, .inr ⟨bytes, rfl, rfl⟩, hmulti, hlogin,
            .inr ⟨rfl, bytes, rfl, hsmall⟩⟩
          simp [crypt, hmulti, hlogin, hnone, hreq, hnull, hv, Except.map, hsmall]
        · simp [crypt, Except.map, *]
  · by_cases hnull : out.null = true
    · left
      refine ⟨operation, ⟨.ok, result.length, []⟩, ?_, .inr ⟨result, hsome, rfl⟩, hmulti,
        hlogin, .inl ⟨rfl, hnull⟩⟩
      simp [crypt, hmulti, hlogin, hsome, hnull]
    by_cases hsmall : out.capacity < result.length
    · left
      refine ⟨{ operation with result := some result },
        ⟨.bufferTooSmall, result.length, []⟩, ?_, .inr ⟨result, rfl, rfl⟩, hmulti, hlogin,
        .inr ⟨rfl, result, rfl, hsmall⟩⟩
      simp [crypt, hmulti, hlogin, hsome, hnull, hsmall]
    · simp [crypt, *]

/-- Once there is an outcome the application makes no further calls. -/
theorem foldl_step_of_outcome (h : r.outcome.isSome = true) (calls : List CryptCall) :
    calls.foldl (CryptRun.step core userLoggedIn encrypting) r = r := by
  induction calls with
  | nil => rfl
  | cons call calls ih =>
    rw [foldl_cons, show r.step core userLoggedIn encrypting call = r by
      simp [CryptRun.step, h], ih]

/-- **The last call**, attempted with any list of buffers one of which is large enough, has the
outcome `v`. -/
theorem attempts_outcome {extra : Bytes} (hv : FailsProperly v) (call : OutputBuffer → CryptCall)
    (hrun : ∀ out, (call out).run core userLoggedIn encrypting =
      crypt core userLoggedIn encrypting finalizing input out) (hout : ∀ out, (call out).out = out)
    (hends : ∀ out, (call out).ends = true) (hextra : ∀ out, (call out).input = extra)
    (outs : List OutputBuffer)
    (hlarge : ∃ out ∈ outs, out.null = false ∧ ∀ bytes, v = .ok bytes → bytes.length ≤ out.capacity)
    (hrunning : r.outcome = none) (hactive : r.operation = some operation)
    (hmulti : (operation.multipart && !finalizing) = false)
    (hlogin : (operation.requiresLogin && !userLoggedIn) = false)
    (h : Awaiting core encrypting finalizing input v operation) :
    ((outs.map call).foldl (CryptRun.step core userLoggedIn encrypting) r).outcome =
      some (v.map (r.output ++ ·)) ∧
    (((outs.map call).foldl (CryptRun.step core userLoggedIn encrypting) r).consumed =
        r.consumed ∨
      ((outs.map call).foldl (CryptRun.step core userLoggedIn encrypting) r).consumed =
        r.consumed ++ extra) := by
  induction outs generalizing r operation with
  | nil =>
    obtain ⟨out, hmem, -⟩ := hlarge
    simp at hmem
  | cons out outs ih =>
    rw [map_cons, foldl_cons]
    have hcall : (call out).run core userLoggedIn encrypting r.operation =
        crypt core userLoggedIn encrypting finalizing input out (some operation) := by
      rw [hrun, hactive]
    rcases crypt_awaiting hmulti hlogin h out with
      ⟨operation', result, heq, hawait, hmulti', hlogin', hretry⟩ | ⟨e, rfl, heq⟩ |
      ⟨bytes, rfl, hnull, heq⟩
    · -- a length query or a too small buffer: the rest of the attempts decides
      have hstep : r.step core userLoggedIn encrypting (call out) =
          { r with operation := some operation' } := by
        rw [CryptRun.step_eq hrunning (hcall.trans heq)]
        rcases hretry with ⟨hrv, hnull⟩ | ⟨hrv, -⟩
        · simp [hrv, hout, hnull]
        · simp [hrv]
      rw [hstep]
      refine ih ?_ hrunning rfl hmulti' hlogin' hawait
      obtain ⟨out', hmem, hnull', hcap'⟩ := hlarge
      rcases mem_cons.mp hmem with rfl | hmem
      · rcases hretry with ⟨-, hnull⟩ | ⟨-, bytes, hbytes, hsmall⟩
        · simp [hnull] at hnull'
        · exact absurd (hcap' bytes hbytes) (by omega)
      · exact ⟨out', hmem, hnull', hcap'⟩
    · obtain ⟨hne, hns⟩ := hv e rfl
      have hstep : r.step core userLoggedIn encrypting (call out) =
          { r with operation := none, outcome := some (.error e) } := by
        rw [CryptRun.step_eq hrunning (hcall.trans heq)]
        simp [CallResult.fail, hne, hns]
      rw [hstep, foldl_step_of_outcome rfl]
      exact ⟨rfl, .inl rfl⟩
    · have hstep : r.step core userLoggedIn encrypting (call out) =
          { operation := none, consumed := r.consumed ++ extra, output := r.output ++ bytes
            outcome := some (.ok (r.output ++ bytes)) } := by
        rw [CryptRun.step_eq hrunning (hcall.trans heq)]
        simp [hout, hnull, hends, hextra]
      rw [hstep, foldl_step_of_outcome rfl]
      exact ⟨rfl, .inr rfl⟩

/-! ## The comparison -/

/-- An accepted parameter is an IV. -/
theorem ivParameter_eq_ok {length : ℕ} {parameter iv : Option Bytes}
    (h : ivParameter length parameter = .ok iv) : ∃ s, iv = some s ∧ s.length = length := by
  cases parameter with
  | none => cases h
  | some bytes =>
    obtain ⟨hlen, h⟩ := require_eq_ok.mp h
    cases h
    exact ⟨bytes, rfl, hlen⟩

/-- The operation `crypt_init` starts: nothing buffered, a key of the mechanism's length, and a
chaining block of block length for the chaining mechanisms. -/
theorem cryptInit_spec {parameter : Option Bytes} {object : CipherKey} {loggedIn : Bool}
    (h : cryptInit m parameter object loggedIn encrypting = .ok operation) :
    operation.mechanism = m ∧ ValidKey m operation.key ∧ operation.buffer = [] ∧
      operation.result = none ∧ operation.multipart = false ∧
      (operation.requiresLogin && !loggedIn) = false ∧ ∃ s, Chained operation s := by
  obtain ⟨des3Iv, hdes3, h⟩ := bind_eq_ok.mp h
  obtain ⟨iv, hiv, h⟩ := bind_eq_ok.mp h
  simp only [guard_eq_ok, Except.ok.injEq] at h
  obtain ⟨hlogin, -, -, htype, rfl⟩ := h
  refine ⟨rfl, ?_, rfl, rfl, rfl, by simpa using hlogin, ?_⟩
  · have hvalid := object.valid
    grind [ValidKey, CipherKeyType.ValidValue]
  · cases hcbc : m.cbc with
    | false => exact ⟨[], fun h => absurd h (by simp [hcbc])⟩
    | true =>
      cases hd : m.des3 with
      | true =>
        simp only [cryptInitDes3Iv, hd, hcbc, Bool.and_self, if_true] at hdes3
        obtain ⟨s, rfl, hlen⟩ := ivParameter_eq_ok hdes3
        exact ⟨s, fun _ => ⟨by simp [hd], by simp [blockLength, hd, hlen]⟩⟩
      | false =>
        simp only [cryptInitIv, hd, hcbc, if_true, Bool.false_eq_true, if_false] at hiv
        obtain ⟨s, rfl, hlen⟩ := ivParameter_eq_ok hiv
        exact ⟨s, fun _ => ⟨by simp [hd], by simp [blockLength, hd, hlen]⟩⟩

/-- The bytes that padding can add. -/
def paddingLength (m : CipherMechanism) (encrypting : Bool) : ℕ :=
  if m.padded && encrypting then m.blockLength else 0

section

variable (hcore : core.Implements c) (hkey : ValidKey m key)
  (hs : m.cbc = true → s.length = m.blockLength) (encrypting : Bool)

include hcore hkey hs

/-- What a last call delivers are at most the whole blocks of its padded input. -/
theorem length_specFinal_le {data : Bytes} (h : specFinal c m key encrypting s data = some bytes) :
    bytes.length ≤ (data.length + paddingLength m encrypting) / m.blockLength * m.blockLength := by
  have hlen := length_transform hcore hkey encrypting hs
  have hmono : data.length / m.blockLength * m.blockLength ≤
      (data.length + paddingLength m encrypting) / m.blockLength * m.blockLength :=
    Nat.mul_le_mul_right _ (Nat.div_le_div_right (Nat.le_add_right _ _))
  unfold specFinal at h
  split at h
  next hpad =>
    split at h
    next henc =>
      cases h
      rw [hlen]
      refine Nat.mul_le_mul_right _ (Nat.div_le_div_right ?_)
      simp only [paddingLength, hpad, henc, Bool.and_self, if_true]
      exact length_pkcs7Pad_le _ _
    next =>
      split at h
      · cases h
      · have hunpad := length_pkcs7Unpad_le h
        rw [hlen] at hunpad
        exact hunpad.trans hmono
  next =>
    split at h
    · cases h
      rw [hlen]
      exact hmono
    · cases h

/-- After a stream the last call delivers at most one block. -/
theorem length_specFinal_pending_le {fed pending out : Bytes}
    (hstream : Streamed m.blockLength (retainedBlocks m encrypting) (cipherStep c m key encrypting)
      s₀ fed s pending out) (h : specFinal c m key encrypting s pending = some bytes) :
    bytes.length ≤ m.blockLength := by
  have hpos := blockLength_pos m
  have hpending : pending.length < (retainedBlocks m encrypting + 1) * m.blockLength := by
    rw [hstream.length_pending]
    exact sub_released_lt hpos _ _
  have htotal : pending.length + paddingLength m encrypting < 2 * m.blockLength := by
    grind [retainedBlocks, paddingLength]
  have hone : (pending.length + paddingLength m encrypting) / m.blockLength ≤ 1 :=
    Nat.lt_succ_iff.mp ((Nat.div_lt_iff_lt_mul hpos).mpr htotal)
  calc bytes.length
      ≤ (pending.length + paddingLength m encrypting) / m.blockLength * m.blockLength :=
        length_specFinal_le hcore hkey hs encrypting h
    _ ≤ 1 * m.blockLength := Nat.mul_le_mul_right _ hone
    _ = m.blockLength := Nat.one_mul _

end

/-- A successful result is bounded if the specification's output is. -/
theorem lastResult_length_le (hcore : core.Implements c)
    (hkey : ValidKey operation.mechanism operation.key) (hs : Chained operation s) {bound : ℕ}
    (hbound : ∀ bytes, specFinal c operation.mechanism operation.key encrypting s
      (operation.buffer ++ input) = some bytes → bytes.length ≤ bound)
    (h : lastResult core operation encrypting finalizing input = .ok bytes) :
    bytes.length ≤ bound := by
  apply hbound
  rw [← lastResult_toOption hcore hkey hs encrypting finalizing input, h]
  rfl

/-- **Multipart equals single part.**  An operation started by `crypt_init` is driven by any
calls of the update phase and then by any attempts of the final call, one of them with room
for a block.  A second operation, started the same way, is driven by any attempts of the
single-part call on everything the first one consumed, one of them with enough room.  Both
end; they deliver the same bytes or both fail.  If the update calls have ample buffers, what is
consumed are the parts of the calls that are not length queries. -/
theorem multipart_eq_single (hcore : core.Implements c) {m : CipherMechanism}
    {parameter : Option Bytes} {object : CipherKey} {loggedIn encrypting : Bool}
    {operation : CryptOperation}
    (hinit : cryptInit m parameter object loggedIn encrypting = .ok operation)
    (calls : List CryptCall)
    (hcalls : UpdateCalls core loggedIn encrypting m ⟨some operation, [], [], none⟩ calls)
    (finals : List OutputBuffer)
    (hfinals : ∃ out ∈ finals, out.null = false ∧ m.blockLength ≤ out.capacity)
    (singles : List OutputBuffer) {r w : CryptRun}
    (hr : r = runCalls core loggedIn encrypting operation (calls ++ finals.map .final))
    (hw : w = runCalls core loggedIn encrypting operation (singles.map (.whole r.consumed)))
    (hsingles : ∃ out ∈ singles, out.null = false ∧
      r.consumed.length + m.blockLength ≤ out.capacity) :
    (∃ multi single : Except Rv Bytes, r.outcome = some multi ∧ w.outcome = some single ∧
      multi.toOption = single.toOption) ∧
    ((∀ call ∈ calls, call.out.null = false →
        (calls.map CryptCall.input).flatten.length ≤ call.out.capacity) →
      r.consumed = ((calls.filter fun call => !call.out.null).map CryptCall.input).flatten) := by
  obtain ⟨rfl, hkey, hbuffer, hresult, hmulti, hlogin, s₀, hs₀⟩ := cryptInit_spec hinit
  have hstart : UpdatePhase c operation.mechanism operation.key operation.requiresLogin encrypting
      s₀ ⟨some operation, [], [], none⟩ operation s₀ :=
    ⟨rfl, rfl, rfl, rfl, rfl, hresult, hs₀, by rw [hbuffer]; exact Streamed.init _ _ _ _⟩
  obtain ⟨⟨operation', s, hphase⟩, hconsumed⟩ :=
    updates_streamed hcore hkey hlogin calls hcalls hstart
  set r₁ := calls.foldl (CryptRun.step core loggedIn encrypting) ⟨some operation, [], [], none⟩
  have hkey' : ValidKey operation'.mechanism operation'.key := by
    rw [hphase.mechanism_eq, hphase.key_eq]
    exact hkey
  have hs : operation.mechanism.cbc = true → s.length = operation.mechanism.blockLength := by
    intro hcbc
    rw [← hphase.mechanism_eq] at hcbc ⊢
    exact (hphase.chained hcbc).2
  -- the final phase
  have hfinal : ∀ bytes, lastResult core operation' encrypting true [] = .ok bytes →
      bytes.length ≤ operation.mechanism.blockLength := by
    refine fun bytes => lastResult_length_le hcore hkey' hphase.chained fun bytes hspec => ?_
    rw [hphase.mechanism_eq, hphase.key_eq, List.append_nil] at hspec
    exact length_specFinal_pending_le hcore hkey hs encrypting hphase.streamed hspec
  obtain ⟨out, hmem, hnull, hcap⟩ := hfinals
  have hmultipart := attempts_outcome (lastResult_failsProperly core operation' encrypting true [])
    CryptCall.final (fun _ => rfl) (fun _ => rfl) (fun _ => rfl) (fun _ => rfl) finals
    ⟨out, hmem, hnull, fun bytes hb => (hfinal bytes hb).trans hcap⟩ hphase.running hphase.active
    (Bool.and_false _) (hphase.requiresLogin_eq ▸ hlogin) (Or.inl ⟨hphase.result_eq, rfl⟩)
  have hrun : r = (finals.map .final).foldl (CryptRun.step core loggedIn encrypting) r₁ := by
    rw [hr, runCalls, List.foldl_append]
  rw [← hrun] at hmultipart
  obtain ⟨houtcome, hsame⟩ := hmultipart
  have hsame : r.consumed = r₁.consumed := by
    rcases hsame with h | h
    · exact h
    · rw [h, List.append_nil]
  -- the single-part call
  have hwhole : ∀ bytes, lastResult core operation encrypting false r.consumed = .ok bytes →
      bytes.length ≤ r.consumed.length + operation.mechanism.blockLength := by
    refine fun bytes => lastResult_length_le hcore hkey hs₀ fun bytes hspec => ?_
    rw [hbuffer, List.nil_append] at hspec
    refine (length_specFinal_le hcore hkey (fun h => (hs₀ h).2) encrypting hspec).trans ?_
    refine (Nat.div_mul_le_self _ _).trans (Nat.add_le_add_left ?_ _)
    unfold paddingLength
    split
    · exact le_refl _
    · exact Nat.zero_le _
  obtain ⟨out, hmem, hnull, hcap⟩ := hsingles
  obtain ⟨hsingle, -⟩ := attempts_outcome
    (lastResult_failsProperly core operation encrypting false r.consumed)
    (CryptCall.whole r.consumed) (fun _ => rfl) (fun _ => rfl) (fun _ => rfl) (fun _ => rfl) singles
    ⟨out, hmem, hnull, fun bytes hb => (hwhole bytes hb).trans hcap⟩
    (r := ⟨some operation, [], [], none⟩) rfl rfl (by simp [hmulti]) hlogin
    (Or.inl ⟨hresult, rfl⟩)
  refine ⟨⟨_, _, houtcome, by rw [hw]; exact hsingle, ?_⟩, ?_⟩
  · have hlast := lastResult_toOption hcore hkey' hphase.chained encrypting true []
    have hall := lastResult_toOption hcore hkey hs₀ encrypting false r.consumed
    rw [hphase.mechanism_eq, hphase.key_eq, List.append_nil] at hlast
    rw [hbuffer, List.nil_append, hsame,
      specFinal_streamed hcore hkey encrypting (fun h => (hs₀ h).2) hphase.streamed] at hall
    rw [toOption_map, toOption_map, hlast, hsame, hall, Option.map_map]
    rfl
  · intro hample
    rw [hsame, hconsumed (by simpa using hample), List.nil_append]

end

/-- An AES key that permits both directions. -/
def sampleAesKey : CipherKey where
  keyType := .aes
  value := List.replicate 16 7
  valid := Or.inl rfl
  allowedMechanisms := none
  priv := false
  encrypt := true
  decrypt := true

/-- Padded decryption in two parts with length queries and a too small buffer in each phase; one of the
queries is a final call after the first block. -/
def paddedCalls : List CryptCall :=
  [.update (List.replicate 16 1) ⟨true, 0⟩, .update (List.replicate 16 1) ⟨false, 32⟩, .final ⟨true, 0⟩,
    .update (List.replicate 16 2) ⟨false, 15⟩, .update (List.replicate 16 2) ⟨false, 32⟩]

/-- Two blocks in parts and at once. -/
theorem multipart_eq_single_cbcPad :
    ∃ multi single : Except Rv Bytes,
      (runCalls (.ofCiphers .identity) true false
        ⟨sampleAesKey.value, false, .aesCbcPad, some (List.replicate 16 1), none, [], false, none⟩
        (paddedCalls ++ [⟨true, 0⟩, ⟨false, 12⟩, ⟨false, 16⟩].map .final)).outcome = some multi ∧
      (runCalls (.ofCiphers .identity) true false
        ⟨sampleAesKey.value, false, .aesCbcPad, some (List.replicate 16 1), none, [], false, none⟩
        ([⟨false, 48⟩].map (.whole (List.replicate 16 1 ++ List.replicate 16 2)))).outcome =
          some single ∧
      multi.toOption = single.toOption :=
  (multipart_eq_single (SymmetricCore.ofCiphers_implements .identity
      BlockCiphers.identity_preservesLength)
    (show cryptInit .aesCbcPad (some (List.replicate 16 1)) sampleAesKey true false = .ok _ from rfl)
    paddedCalls (along_of_decide (by decide +kernel)) _ ⟨⟨false, 16⟩, by simp, rfl, by decide⟩
    _ rfl rfl ⟨⟨false, 48⟩, by simp, rfl, by decide⟩).1

/-- **Attempts of the final call are not free before the last update call.**  In padded CBC a
final call with a too small buffer keeps its result, and the update call after it ends the
operation; in padded decryption even a length query of the final call ends it.  The single-part
calls on the same inputs succeed. -/
theorem early_final_ends_operation :
    (∃ operation, cryptInit .aesCbcPad (some (List.replicate 16 1)) sampleAesKey true true =
        .ok operation ∧
      (runCalls (.ofCiphers .identity) true true operation
        [.update [1] ⟨false, 16⟩, .final ⟨false, 0⟩, .update [2] ⟨false, 16⟩,
          .final ⟨false, 16⟩]).outcome = some (.error .operationNotInitialized) ∧
      ∃ bytes, (runCalls (.ofCiphers .identity) true true operation
        [.whole [1, 2] ⟨false, 16⟩]).outcome = some (.ok bytes)) ∧
    (∃ operation, cryptInit .aesCbcPad (some (List.replicate 16 1)) sampleAesKey true false =
        .ok operation ∧
      (runCalls (.ofCiphers .identity) true false operation
        [.update [17] ⟨false, 16⟩, .final ⟨true, 0⟩, .update (List.replicate 15 17) ⟨false, 16⟩,
          .final ⟨false, 16⟩]).outcome = some (.error .encryptedDataLenRange) ∧
      ∃ bytes, (runCalls (.ofCiphers .identity) true false operation
        [.whole (List.replicate 16 17) ⟨false, 16⟩]).outcome = some (.ok bytes)) :=
  ⟨⟨_, rfl, rfl, _, rfl⟩, ⟨_, rfl, rfl, _, rfl⟩⟩

end Pkcs11rs.Analysis
