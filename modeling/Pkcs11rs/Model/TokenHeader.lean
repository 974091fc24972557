import Pkcs11rs.Model.ReturnValue

/-!
# The software token header and its updates

The header of a software token holds the master keys wrapped under the PINs
(`software_storage.rs:266-300`).  `change_pin`, `change_so_pin`, `init_user_pin` and
`init_token` each replace it (`software_storage.rs:468-608`).

A call is split where the source reads the current header: `authorize` is what the login at
its start checks, `prepare` computes the replacement from the header that the call reads for
that purpose.  `applyCall` does both on one header; it is the call as if nothing happened in
between.  The key derivation and the AEAD are parameters; the random bytes a call draws are
part of the call.
-/

set_option autoImplicit false

namespace Pkcs11rs.Model

open Pkcs11rs.Library

/-- `derive_wrapping_key` and the AEAD of the storage. -/
structure HeaderCrypto where
  deriveWrappingKey : Bytes → Bytes → Except Rv Bytes
  /-- Key, nonce, additional data and plaintext. -/
  encrypt : Bytes → Bytes → Bytes → Bytes → Except Rv Bytes
  decrypt : Bytes → Bytes → Bytes → Bytes → Except Rv Bytes

/-- The parts of `SoftwareTokenStore` that the header functions use. -/
structure TokenStore where
  name : Bytes
  discoveryPin : Option Bytes

inductive PinRole where
  | userPublic
  | userPrivate
  | soPublic
  | discoveryPublic
  deriving DecidableEq, Repr

def PinRole.aadLabel : PinRole → Bytes
  | userPublic => "user-public".toUTF8.toList
  | userPrivate => "user-private".toUTF8.toList
  | soPublic => "so-public".toUTF8.toList
  | discoveryPublic => "discovery-public".toUTF8.toList

structure WrappedMasterKey where
  generation : ℕ
  salt : Bytes
  nonce : Bytes
  wrappedMasterKey : Bytes
  deriving DecidableEq, Repr

structure UserWrappedMasterKeys where
  pub : WrappedMasterKey
  priv : WrappedMasterKey
  deriving DecidableEq, Repr

structure Header where
  generation : ℕ
  label : Bytes
  discoveryPublic : WrappedMasterKey
  soPublic : WrappedMasterKey
  user : Option UserWrappedMasterKeys
  deriving DecidableEq, Repr

def minPinLength : ℕ := 8

def maxPinLength : ℕ := 1024

def masterKeyLength : ℕ := 32

def validateSoftwarePin (pin : Bytes) : Except Rv Unit :=
  if minPinLength ≤ pin.length ∧ pin.length ≤ maxPinLength then .ok () else .error .pinLenRange

def headerAad (store : TokenStore) (role : PinRole) (generation : ℕ) : Bytes :=
  "pkcs11rs-software-token-key".toUTF8.toList ++ [0] ++ store.name ++ [0] ++ role.aadLabel ++ [0] ++
    beBytes 8 generation

variable (crypto : HeaderCrypto) (store : TokenStore)

/-- `wrap_master_key` with the salt and the nonce it draws. -/
def wrapMasterKey (role : PinRole) (generation : ℕ) (pin masterKey salt nonce : Bytes) :
    Except Rv WrappedMasterKey := do
  validateSoftwarePin pin
  let wrappingKey ← crypto.deriveWrappingKey pin salt
  let wrapped ← crypto.encrypt wrappingKey nonce (headerAad store role generation) masterKey
  .ok ⟨generation, salt, nonce, wrapped⟩

/-- `unwrap_master_key`: a decryption failure is a wrong PIN. -/
def unwrapMasterKey (pin : Bytes) (role : PinRole) (wrapped : WrappedMasterKey) :
    Except Rv Bytes := do
  let wrappingKey ← crypto.deriveWrappingKey pin wrapped.salt
  let plaintext ← (crypto.decrypt wrappingKey wrapped.nonce
    (headerAad store role wrapped.generation) wrapped.wrappedMasterKey).mapError fun error =>
      if error = .encryptedDataInvalid then .pinIncorrect else error
  if plaintext.length = masterKeyLength then .ok plaintext else .error .dataInvalid

/-- `login` on the current header. -/
def loginHeader (pin : Bytes) (current : Option Header) : Except Rv (Bytes × Bytes) := do
  validateSoftwarePin pin
  match current with
  | none => .error .tokenNotInitialized
  | some header =>
    match header.user with
    | none => .error .userPinNotInitialized
    | some user => do
        let pub ← unwrapMasterKey crypto store pin .userPublic user.pub
        let priv ← unwrapMasterKey crypto store pin .userPrivate user.priv
        .ok (pub, priv)

def loginSoHeader (pin : Bytes) (current : Option Header) : Except Rv Bytes := do
  validateSoftwarePin pin
  match current with
  | none => .error .tokenNotInitialized
  | some header => unwrapMasterKey crypto store pin .soPublic header.soPublic

/-- `generation.checked_add(1)` on `u64`. -/
def nextGeneration (generation : ℕ) : Except Rv ℕ :=
  if generation + 1 < 2 ^ 64 then .ok (generation + 1) else .error .deviceError

/-- The random bytes a call draws: salt and nonce of its two wrappings, a master key and a
discovery PIN. -/
structure HeaderRandom where
  firstSalt : Bytes
  firstNonce : Bytes
  secondSalt : Bytes
  secondNonce : Bytes
  masterKey : Bytes
  discoveryPin : Bytes
  deriving DecidableEq, Repr

/-- The calls that replace the header. -/
inductive HeaderCall where
  | changePin (oldPin newPin : Bytes) (random : HeaderRandom)
  | changeSoPin (oldPin newPin : Bytes) (random : HeaderRandom)
  | initUserPin (newPin publicMasterKey : Bytes) (random : HeaderRandom)
  | initToken (soPin label : Bytes) (random : HeaderRandom)
  deriving DecidableEq, Repr

/-- Whether the call logs in before it reads the header it replaces. -/
def HeaderCall.logsIn : HeaderCall → Bool
  | changePin .. | changeSoPin .. => true
  | _ => false

/-- The checks and the login before the read of the header that is replaced. -/
def authorize (current : Option Header) : HeaderCall → Except Rv (Bytes × Bytes)
  | .changePin oldPin newPin _ => do
      validateSoftwarePin newPin
      loginHeader crypto store oldPin current
  | .changeSoPin oldPin newPin _ => do
      validateSoftwarePin newPin
      let pub ← loginSoHeader crypto store oldPin current
      .ok (pub, [])
  | .initUserPin .. | .initToken .. => .ok ([], [])

/-- The header with the user's keys wrapped under a new PIN. -/
def replaceUserPin (header : Header) (newPin pub priv : Bytes) (random : HeaderRandom) :
    Except Rv Header := do
  let generation ← nextGeneration header.generation
  let pub ← wrapMasterKey crypto store .userPublic generation newPin pub random.firstSalt
    random.firstNonce
  let priv ← wrapMasterKey crypto store .userPrivate generation newPin priv random.secondSalt
    random.secondNonce
  .ok { header with generation := generation, user := some ⟨pub, priv⟩ }

/-- The generation `init_token` writes, after its PIN check on an existing header. -/
def initTokenGeneration (soPin : Bytes) : Option Header → Except Rv ℕ
  | some header => do
      let _ ← unwrapMasterKey crypto store soPin .soPublic header.soPublic
      nextGeneration header.generation
  | none => .ok 1

/-- The replacement computed from the header that was read, with the keys of the login. -/
def prepare (keys : Bytes × Bytes) (current : Option Header) : HeaderCall → Except Rv Header
  | .changePin _ newPin random =>
    match current with
    | none => .error .deviceError
    | some header => replaceUserPin crypto store header newPin keys.1 keys.2 random
  | .changeSoPin _ newPin random =>
    match current with
    | none => .error .deviceError
    | some header => do
        let generation ← nextGeneration header.generation
        let soPublic ← wrapMasterKey crypto store .soPublic generation newPin keys.1
          random.firstSalt random.firstNonce
        .ok { header with generation := generation, soPublic := soPublic }
  | .initUserPin newPin publicMasterKey random => do
      validateSoftwarePin newPin
      match current with
      | none => .error .deviceError
      | some header =>
        if header.user.isSome then .error .functionFailed
        else replaceUserPin crypto store header newPin publicMasterKey random.masterKey random
  | .initToken soPin label random => do
      validateSoftwarePin soPin
      let generation ← initTokenGeneration crypto store soPin current
      let discoveryPublic ← wrapMasterKey crypto store .discoveryPublic generation
        (store.discoveryPin.getD random.discoveryPin) random.masterKey random.firstSalt
        random.firstNonce
      let soPublic ← wrapMasterKey crypto store .soPublic generation soPin random.masterKey
        random.secondSalt random.secondNonce
      .ok ⟨generation, label, discoveryPublic, soPublic, none⟩

def applyCall (current : Option Header) (call : HeaderCall) : Except Rv Header := do
  let keys ← authorize crypto store current call
  prepare crypto store keys current call

/-- The next generation. -/
theorem nextGeneration_eq_ok {generation next : ℕ} (h : nextGeneration generation = .ok next) :
    next = generation + 1 := by
  obtain ⟨-, h⟩ := require_eq_ok.mp h
  cases h
  rfl

/-- A new PIN makes the next generation. -/
theorem replaceUserPin_generation {crypto : HeaderCrypto} {store : TokenStore} {header : Header}
    {newPin pub priv : Bytes} {random : HeaderRandom} {replacement : Header}
    (h : replaceUserPin crypto store header newPin pub priv random = .ok replacement) :
    replacement.generation = header.generation + 1 := by
  obtain ⟨generation, hgen, h⟩ := bind_eq_ok.mp h
  obtain ⟨_, -, h⟩ := bind_eq_ok.mp h
  obtain ⟨_, -, h⟩ := bind_eq_ok.mp h
  cases h
  exact nextGeneration_eq_ok hgen

/-- A replacement has the next generation; without a header it has the first one. -/
theorem prepare_generation {crypto : HeaderCrypto} {store : TokenStore} {keys : Bytes × Bytes}
    {current : Option Header} {call : HeaderCall} {replacement : Header}
    (h : prepare crypto store keys current call = .ok replacement) :
    replacement.generation = match current with
      | some header => header.generation + 1
      | none => 1 := by
  cases call with
  | changePin oldPin newPin random =>
    cases current with
    | none => cases h
    | some header => exact replaceUserPin_generation h
  | changeSoPin oldPin newPin random =>
    cases current with
    | none => cases h
    | some header =>
      obtain ⟨generation, hgen, h⟩ := bind_eq_ok.mp h
      obtain ⟨_, -, h⟩ := bind_eq_ok.mp h
      cases h
      exact nextGeneration_eq_ok hgen
  | initUserPin newPin publicMasterKey random =>
    obtain ⟨_, -, h⟩ := bind_eq_ok.mp h
    cases current with
    | none => cases h
    | some header => exact replaceUserPin_generation (guard_eq_ok.mp h).2
  | initToken soPin label random =>
    obtain ⟨_, -, h⟩ := bind_eq_ok.mp h
    obtain ⟨generation, hgen, h⟩ := bind_eq_ok.mp h
    obtain ⟨_, -, h⟩ := bind_eq_ok.mp h
    obtain ⟨_, -, h⟩ := bind_eq_ok.mp h
    cases h
    cases current with
    | none =>
      cases hgen
      rfl
    | some header =>
      obtain ⟨_, -, hgen⟩ := bind_eq_ok.mp hgen
      exact nextGeneration_eq_ok hgen

end Pkcs11rs.Model
