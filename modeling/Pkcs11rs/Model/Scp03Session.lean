import Pkcs11rs.Library.Blocks
import Pkcs11rs.Library.Calls
import Pkcs11rs.Model.Apdu
import Pkcs11rs.Model.SecureSession

/-!
# SCP03 secure messaging over ISO 7816

A command of an SCP03 session is protected once (`Scp03Session::protect_command`, `scp03.rs:812-865`) and
then handed to the layer below, which sends it as one short or extended APDU or as a chain of short ones,
sends it again with another expected length when the card answers `6Cxx`, and collects a response that
comes in parts (`iso7816.rs:32-189`).

The transport is arbitrary.  The functions of `secure_channel_crypto` are the parameters `Scp03Core`; the
keys of a session are elements of `κ`.  The static DEK of a session takes no part in secure messaging.
-/

set_option autoImplicit false

namespace Pkcs11rs.Model

open Pkcs11rs.Library

/-! ### ISO 7816 -/

structure ApduCapabilities where
  commandChaining : Bool
  extended : Bool
  deriving DecidableEq

def ApduCapabilities.shortOnly : ApduCapabilities := { commandChaining := true, extended := false }

def commandChainingCla : UInt8 := 0x10

def getResponseIns : UInt8 := 0xc0

def maxResponseLength : ℕ := 65536

def maxResponseSegments : ℕ := 256

/-- The connector that APDUs go through, over a state `ε`. -/
structure ApduTransport (ε : Type) where
  capabilities : ApduCapabilities
  send : Bytes → ε → Outcome Rv ε Bytes

namespace ApduTransport

variable {ε : Type} (transport : ApduTransport ε)
variable (command : CommandApdu) (t : ε)

/-- `scp03::transmit`. -/
def transmitApdu : Outcome Rv ε ResponseApdu :=
  match command.encode with
  | .error error => (.error error, t)
  | .ok encoded => (transport.send encoded t).andThen fun reply t => (ResponseApdu.parse reply, t)

/-- The loop of `transmit_command` over the segments. -/
def transmitSegments (command : CommandApdu) : List Bytes → ε → Outcome Rv ε ResponseApdu
  | [], t => (.error .deviceError, t)
  | [data], t => transport.transmitApdu { command with data, extended := false } t
  | data :: segments, t =>
    (transport.transmitApdu { command with
      cla := command.cla ||| commandChainingCla, data, le := none, extended := false } t).andThen
      fun response t =>
        if response.status ≠ responseOk ∨ response.data ≠ [] then (.error .deviceError, t)
        else transmitSegments command segments t

/-- The command does not fit a short APDU. -/
def needsExtended : Bool :=
  decide (command.data.length > maxShortDataLength) ||
    command.le.any fun le => decide (le > maxShortExpectedLength)

def transmitCommand (capabilities : ApduCapabilities) (command : CommandApdu) (t : ε) :
    Outcome Rv ε ResponseApdu :=
  if needsExtended command = false ∨ capabilities.extended then
    transport.transmitApdu
      { command with extended := needsExtended command && capabilities.extended } t
  else if command.le.any fun le => decide (le > maxShortExpectedLength) then
    (.error .dataLenRange, t)
  else if capabilities.commandChaining = false ∨ command.data = [] ∨
      command.cla &&& commandChainingCla ≠ 0 then
    (.error .argumentsBad, t)
  else transport.transmitSegments command (chunks maxShortDataLength command.data) t

/-- The loop of `collect_response_chain_with_instruction`, with the number of segments that may still
come, whether one has come before and the data so far. -/
def collectSegments (instruction : UInt8) :
    ℕ → Bool → Bytes → ResponseApdu → ε → Outcome Rv ε ResponseApdu
  | remaining, continued, data, response, t =>
    if response.status &&& 0xff00 = 0x6100 then
      match remaining with
      | 0 => (.error .deviceError, t)
      | remaining + 1 =>
        if continued ∧ response.data = [] then (.error .deviceError, t)
        else if data.length + response.data.length > maxResponseLength then
          (.error .deviceError, t)
        else
          let available := (response.status &&& 0xff).toNat
          (transport.transmitApdu
            { cla := 0, ins := instruction, p1 := 0, p2 := 0, data := []
              le := some (if available = 0 then maxShortExpectedLength else available)
              extended := false } t).andThen fun next t =>
            collectSegments instruction remaining true (data ++ response.data) next t
    else if data.length + response.data.length > maxResponseLength then
      (.error .deviceError, t)
    else (.ok { data := data ++ response.data, status := response.status }, t)

def collectResponseChain (instruction : UInt8) (response : ResponseApdu) (t : ε) :
    Outcome Rv ε ResponseApdu :=
  transport.collectSegments instruction maxResponseSegments false [] response t

/-- The expected length that an answer `6Cxx` asks for. -/
def requestedLength (status : UInt16) : ℕ :=
  if status.toUInt8 = 0 then maxShortExpectedLength else status.toUInt8.toNat

def transmitWithCapabilities (capabilities : ApduCapabilities) (command : CommandApdu) (t : ε) :
    Outcome Rv ε ResponseApdu :=
  (transport.transmitCommand capabilities command t).andThen fun response t =>
    if response.status &&& 0xff00 = 0x6c00 then
      (transport.transmitCommand capabilities
        { command with le := some (requestedLength response.status) } t).andThen
        (transport.collectResponseChain getResponseIns)
    else transport.collectResponseChain getResponseIns response t

end ApduTransport

/-! ### The session -/

/-- The functions of `secure_channel_crypto`. -/
structure Scp03Core (κ : Type) where
  aesBlock : κ → AesBlock → Except Rv AesBlock
  /-- Key, initialization vector, data and whether to encrypt. -/
  aesCbc : κ → AesBlock → Bytes → Bool → Except Rv Bytes
  aesCmac : κ → Bytes → Except Rv AesBlock
  pad : Bytes → Bytes
  unpad : Bytes → Except Rv Bytes

/-- The documented behaviour of these functions. -/
structure Scp03Core.Lawful {κ : Type} (core : Scp03Core κ) : Prop where
  aesBlock : ∀ key block, ∃ out, core.aesBlock key block = .ok out
  aesCbc : ∀ key iv data, data.length % 16 = 0 → ∃ out,
    core.aesCbc key iv data true = .ok out ∧ out.length = data.length ∧
      core.aesCbc key iv out false = .ok data
  aesCmac : ∀ key data, ∃ mac, core.aesCmac key data = .ok mac
  length_pad : ∀ data, (core.pad data).length = (data.length / 16 + 1) * 16
  unpad_pad : ∀ data, core.unpad (core.pad data) = .ok data

structure Scp03Session (κ : Type) where
  sEnc : κ
  sMac : κ
  sRmac : κ
  macChainingValue : AesBlock
  encryptionCounter : ℕ
  securityLevel : UInt8

def validateSecurityLevel (level : UInt8) : Except Rv Unit :=
  if level ∈ [0x00, 0x01, 0x03, 0x11, 0x13, 0x33] then .ok () else .error .argumentsBad

def securityCMac : UInt8 := 0x01

def securityCEncryption : UInt8 := 0x02

def securityRMac : UInt8 := 0x10

def securityREncryption : UInt8 := 0x20

def normalizeScp03Cla (cla : UInt8) : Except Rv UInt8 :=
  if cla &&& 0x40 ≠ 0 ∨ cla &&& 0x03 ≠ 0 then .error .argumentsBad
  else .ok (cla &&& 0xf3 ||| 0x04)

/-- The counter as a block; the first bit is set for a response. -/
def counterBlock (counter : ℕ) (response : Bool) : AesBlock :=
  ⟨(beBytes 16 counter).modifyHead fun first => if response then first ||| 0x80 else first,
    by simp⟩

/-- The responses that carry protected data. -/
def protectedStatus (status : UInt16) : Bool :=
  status == responseOk || status == 0x9100 || status &&& 0xff00 == 0x6200 ||
    status &&& 0xff00 == 0x6300

namespace Scp03Session

variable {κ : Type} (core : Scp03Core κ) (session : Scp03Session κ)

def commandIv (response : Bool) : Except Rv AesBlock :=
  core.aesBlock session.sEnc (counterBlock session.encryptionCounter response)

def Encrypts (command : CommandApdu) : Prop :=
  session.securityLevel &&& securityCEncryption ≠ 0 ∧ command.data ≠ []

instance (session : Scp03Session κ) (command : CommandApdu) :
    Decidable (session.Encrypts command) :=
  inferInstanceAs (Decidable (_ ∧ _))

def encryptData (command : CommandApdu) : Except Rv Bytes :=
  if session.Encrypts command then do
    let iv ← session.commandIv core false
    core.aesCbc session.sEnc iv (core.pad command.data) true
  else .ok command.data

/-- The input of the command MAC over a command without its MAC. -/
def macInput (command : CommandApdu) : Except Rv Bytes :=
  if command.data.length + macLength > maxExtendedDataLength then .error .dataLenRange
  else do
    let encoded ← command.encodeHeaderAndData (command.data.length + macLength)
    .ok (session.macChainingValue.val ++ encoded)

/-- The last part of `protect_command`. -/
def appendMac (command : CommandApdu) : Outcome Rv (Scp03Session κ) CommandApdu :=
  if session.securityLevel &&& securityCMac ≠ 0 then
    match session.macInput command with
    | .error error => (.error error, session)
    | .ok input =>
      match core.aesCmac session.sMac input with
      | .error error => (.error error, session)
      | .ok mac =>
        (.ok { command with data := command.data ++ mac.val.take macLength },
          { session with macChainingValue := mac })
  else (.ok command, session)

/-- The class byte that the card sees. -/
def protectedCla (command : CommandApdu) : Except Rv UInt8 :=
  if session.securityLevel = 0 then .ok command.cla else normalizeScp03Cla command.cla

def protectCommand (command : CommandApdu) : Outcome Rv (Scp03Session κ) CommandApdu :=
  match session.protectedCla command with
  | .error error => (.error error, session)
  | .ok cla =>
    if session.encryptionCounter + 1 ≥ 2 ^ 128 then (.error .deviceError, session)
    else
      let session := { session with encryptionCounter := session.encryptionCounter + 1 }
      if session.securityLevel = 0 then (.ok command, session)
      else
        match command.usesExtendedLength command.data.length with
        | .error error => (.error error, session)
        | .ok _ =>
          match session.encryptData core command with
          | .error error => (.error error, session)
          | .ok data => session.appendMac core { command with cla, data }

/-- The response without its MAC. -/
def verifyResponse (response : ResponseApdu) : Except Rv Bytes :=
  if session.securityLevel &&& securityRMac ≠ 0 then
    if response.data.length < macLength then .error .encryptedDataInvalid
    else do
      let data := response.data.take (response.data.length - macLength)
      let mac ← core.aesCmac session.sRmac
        (session.macChainingValue.val ++ data ++ beBytes 2 response.status.toNat)
      if mac.val.take macLength ≠ response.data.drop (response.data.length - macLength) then
        .error .encryptedDataInvalid
      else .ok data
  else .ok response.data

/-- The response data under R-ENC. -/
def decryptData (data : Bytes) : Except Rv Bytes :=
  if session.securityLevel &&& securityREncryption ≠ 0 ∧ data ≠ [] then
    if data.length % 16 ≠ 0 then .error .encryptedDataInvalid
    else do
      let iv ← session.commandIv core true
      let clear ← core.aesCbc session.sEnc iv data false
      core.unpad clear
  else .ok data

def unprotectResponse (response : ResponseApdu) : Except Rv ResponseApdu :=
  if protectedStatus response.status = false then
    if response.data ≠ [] then .error .encryptedDataInvalid else .ok response
  else do
    let data ← session.verifyResponse core response
    let data ← session.decryptData core data
    .ok { response with data }

variable {ε : Type} (transport : ApduTransport ε)

/-- Protect a command, hand it to the layer below and unprotect what comes back. -/
def exchange (session : Scp03Session κ) (command : CommandApdu)
    (send : CommandApdu → ε → Outcome Rv ε ResponseApdu) (t : ε) :
    Outcome Rv (Scp03Session κ × ε) ResponseApdu :=
  match session.protectCommand core command with
  | (.error error, session) => (.error error, session, t)
  | (.ok sealed, session) =>
    let (response, t) := send sealed t
    (response.bind (session.unprotectResponse core), session, t)

def transmit (session : Scp03Session κ) (command : CommandApdu) (t : ε) :
    Outcome Rv (Scp03Session κ × ε) ResponseApdu :=
  session.exchange core command (transport.transmitWithCapabilities transport.capabilities) t

end Scp03Session

end Pkcs11rs.Model
