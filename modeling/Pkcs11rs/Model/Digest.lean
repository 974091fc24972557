import Pkcs11rs.Model.Crypt
import Pkcs11rs.Model.TokenObject

/-!
# Digest operations of a session

`C_DigestInit`, `C_Digest`, `C_DigestUpdate`, `C_DigestKey` and `C_DigestFinal`
(`api/crypt/digest.rs`).

The active operation is `SessionContext::digest_operation`.  What a call reads of its
surroundings is part of the call: whether the session is reached at all, the answer of
`require_slot_mechanism`, and the object that `resolve_object` finds for a key handle.
-/

set_option autoImplicit false

namespace Pkcs11rs.Model

open Pkcs11rs.Library

inductive MessageDigest where
  | sha1
  | sha224
  | sha256
  | sha384
  | sha512
  | sha3x224
  | sha3x256
  | sha3x384
  | sha3x512
  deriving DecidableEq, Repr

def MessageDigest.size : MessageDigest → ℕ
  | sha1 => 20
  | sha224 | sha3x224 => 28
  | sha256 | sha3x256 => 32
  | sha384 | sha3x384 => 48
  | sha512 | sha3x512 => 64

/-- The types of `SOFTWARE_DIGEST_MECHANISMS`. -/
def softwareDigestMechanisms : List MechanismType :=
  [544, 597, 592, 608, 624, 693, 688, 704, 720]

variable (mechanism : MechanismType)

def digestForHashMechanism : Except Rv MessageDigest :=
  if mechanism = 544 then .ok .sha1
  else if mechanism = 597 then .ok .sha224
  else if mechanism = 592 then .ok .sha256
  else if mechanism = 608 then .ok .sha384
  else if mechanism = 624 then .ok .sha512
  else if mechanism = 693 then .ok .sha3x224
  else if mechanism = 688 then .ok .sha3x256
  else if mechanism = 704 then .ok .sha3x384
  else if mechanism = 720 then .ok .sha3x512
  else .error .mechanismParamInvalid

def softwareDigest : Except Rv MessageDigest :=
  if mechanism ∉ softwareDigestMechanisms then .error .mechanismInvalid
  else digestForHashMechanism mechanism

/-- `HashContext` of `software-key-core`: a context takes its input in pieces. -/
structure HashCore (κ : Type) where
  new : MessageDigest → κ
  update : κ → Bytes → κ
  finalize : κ → Bytes
  update_append : ∀ (context : κ) (a b : Bytes),
    update (update context a) b = update context (a ++ b)

structure DigestOperation (κ : Type) where
  mechanism : MechanismType
  algorithm : MessageDigest
  state : κ
  multipart : Bool
  deriving DecidableEq

/-- The mechanism argument of `C_DigestInit`: whether it has a parameter, and what
`require_slot_mechanism` answers for it. -/
inductive MechanismArgument where
  | null
  | misaligned
  | value (mechanism : MechanismType) (hasParameter : Bool) (slot : Except Rv Unit)

/-- The caller's `digest` and `digest_len`, which may be misaligned. -/
inductive DigestOutput where
  | misaligned
  | buffer (out : OutputBuffer)

/-- The calls.  An input of `none` is one that `from_raw_parts` refuses, an output of `none` is a
null `digest_len`. -/
inductive DigestCall where
  | init (argument : MechanismArgument)
  | digest (data : Option Bytes) (out : Option DigestOutput)
  | update (part : Option Bytes)
  | key (loggedIn : Bool) (resolved : Except Rv (Option TokenObject))
  | final (out : Option DigestOutput)

/-- A call, and the error with which the session is not reached, if it is not. -/
structure DigestEvent where
  refusal : Option Rv
  call : DigestCall

def TokenObject.allowsMechanism (object : TokenObject) (mechanism : MechanismType) : Bool :=
  object.allowedMechanisms.all fun allowed => mechanism ∈ allowed

/-- The value that `C_DigestKey` digests. -/
def digestKeyValue (loggedIn : Bool) : Except Rv (Option TokenObject) → Except Rv Bytes
  | .error rv => .error rv
  | .ok none => .error .keyHandleInvalid
  | .ok (some object) =>
    if object.isVisibleTo loggedIn = false then .error .keyHandleInvalid
    else if object.allowsMechanism mechanism = false then .error .mechanismInvalid
    else if object.class_ ≠ Cko.secretKey then .error .keyIndigestible
    else
      match object.material with
      | .secret value | .softwareSecret value => .ok value
      | _ => .error .keyIndigestible

/-- A result without output. -/
def CallResult.bare (rv : Rv) : CallResult := ⟨rv, 0, []⟩

section Calls

variable {κ : Type} (core : HashCore κ) (active : Option (DigestOperation κ))

def digestInit : MechanismArgument → Option (DigestOperation κ) × CallResult
  | .null => (none, .bare (if active.isSome then .ok else .operationNotInitialized))
  | argument =>
    if active.isSome then (active, .bare .operationActive)
    else
      match argument with
      | .value mechanism hasParameter slot =>
        match slot, hasParameter, softwareDigest mechanism with
        | .error rv, _, _ => (active, .bare rv)
        | _, true, _ => (active, .bare .mechanismParamInvalid)
        | _, _, .error rv => (active, .bare rv)
        | _, _, .ok algorithm =>
          (some ⟨mechanism, algorithm, core.new algorithm, false⟩, .bare .ok)
      | _ => (active, .bare .argumentsBad)

def copyDigest (data : Bytes) : DigestOutput → Option (DigestOperation κ) × CallResult
  | .buffer out =>
    match active with
    | none => (none, .fail .operationNotInitialized out)
    | some operation =>
      let required := operation.algorithm.size
      if out.null then (active, ⟨.ok, required, []⟩)
      else if out.capacity < required then (active, ⟨.bufferTooSmall, required, []⟩)
      else (none, ⟨.ok, required, core.finalize (core.update operation.state data)⟩)
  | .misaligned => (active, .bare .argumentsBad)

/-- `operation.state.update(..); operation.multipart = true`. -/
def DigestOperation.absorb (operation : DigestOperation κ) (data : Bytes) : DigestOperation κ :=
  { operation with state := core.update operation.state data, multipart := true }

/-- The five entry points. -/
def digestCall (event : DigestEvent) : Option (DigestOperation κ) × CallResult :=
  match event.call, event.refusal with
  -- a null length pointer is refused whatever becomes of the session
  | .digest _ none, refusal | .final none, refusal =>
    (if refusal.isSome then active else none, .bare .argumentsBad)
  | _, some rv => (active, .bare rv)
  | .init argument, none => digestInit core active argument
  | .digest data (some out), none =>
    match active with
    | none => (none, .bare .operationNotInitialized)
    | some operation =>
      if operation.multipart then (none, .bare .operationActive)
      else
        match data with
        | none => (none, .bare .argumentsBad)
        | some data => copyDigest core active data out
  | .update none, none => (none, .bare .argumentsBad)
  | .update (some part), none =>
    match active with
    | none => (none, .bare .operationNotInitialized)
    | some operation => (some (operation.absorb core part), .bare .ok)
  | .key loggedIn resolved, none =>
    match active with
    | none => (none, .bare .operationNotInitialized)
    | some operation =>
      match digestKeyValue operation.mechanism loggedIn resolved with
      | .error rv => (active, .bare rv)
      | .ok value => (some (operation.absorb core value), .bare .ok)
  | .final (some out), none => copyDigest core active [] out

end Calls

end Pkcs11rs.Model
