import Pkcs11rs.Model.YubiHsmProtocol

/-!
# The YubiHSM secure session

The host side of an established session (`yubihsm.rs:873-1003, 1109-1116`) and the peer
side of the same protocol, which the source keeps beside it (`yubihsm.rs:369-461`).

A method that takes `&mut self` returns the session it leaves behind also when it fails.  The
transport is a `Connector` over an arbitrary state.  The functions of `software-key-core`
(AES, CMAC and the ISO 7816 padding) are the parameters `ChannelCore`.
-/

set_option autoImplicit false

namespace Pkcs11rs.Model

open Pkcs11rs.Library

/-- `[u8; AES_BLOCK_SIZE]`. -/
abbrev AesBlock := { block : Bytes // block.length = 16 }

/-- The secure channel functions of `software-key-core` under the error mapping of
`secure_channel_crypto.rs`. -/
structure ChannelCore where
  aesEncryptBlock : AesBlock → AesBlock → Except Rv AesBlock
  /-- Key, initialization vector, data and whether to encrypt. -/
  aesCbc : AesBlock → AesBlock → Bytes → Bool → Except Rv Bytes
  aesCmac : AesBlock → Bytes → Except Rv AesBlock
  padIso7816 : Bytes → Bytes
  unpadIso7816 : Bytes → Except Rv Bytes

/-- The documented behaviour of the secure channel functions. -/
structure ChannelCore.Lawful (core : ChannelCore) : Prop where
  aesEncryptBlock : ∀ key block, ∃ out, core.aesEncryptBlock key block = .ok out
  aesCbc : ∀ key iv data, data.length % 16 = 0 → ∃ out,
    core.aesCbc key iv data true = .ok out ∧ out.length = data.length ∧
      core.aesCbc key iv out false = .ok data
  aesCmac : ∀ key data, ∃ mac, core.aesCmac key data = .ok mac
  length_padIso7816 : ∀ data, (core.padIso7816 data).length = (data.length + 1 + 15) / 16 * 16
  unpadIso7816_padIso7816 : ∀ data, core.unpadIso7816 (core.padIso7816 data) = .ok data

structure LocalKeys where
  enc : AesBlock
  mac : AesBlock
  rmac : AesBlock

/-- `SessionKeys`: the material until it is cleared. -/
abbrev SessionKeys := Option LocalKeys

variable (core : ChannelCore)

namespace SessionKeys

def material : SessionKeys → Except Rv LocalKeys
  | some keys => .ok keys
  | none => .error .keyHandleInvalid

variable (keys : SessionKeys)

def iv (counter : AesBlock) : Except Rv AesBlock := do
  let keys ← keys.material
  core.aesEncryptBlock keys.enc counter

def cbc (iv : AesBlock) (input : Bytes) (encrypt : Bool) : Except Rv Bytes := do
  let keys ← keys.material
  core.aesCbc keys.enc iv input encrypt

def commandMac (input : Bytes) : Except Rv AesBlock := do
  let keys ← keys.material
  core.aesCmac keys.mac input

def peerResponseMac (input : Bytes) : Except Rv AesBlock := do
  let keys ← keys.material
  core.aesCmac keys.rmac input

def verifyResponseMac (input signature : Bytes) : Except Rv Unit :=
  if signature.length ≠ 8 then .error .signatureLenRange
  else do
    let keys ← keys.material
    let expected ← core.aesCmac keys.rmac input
    if expected.val.take 8 ≠ signature then .error .signatureInvalid else .ok ()

end SessionKeys

structure SecureSession where
  sid : UInt8
  keys : SessionKeys
  counter : AesBlock
  macChainingValue : AesBlock
  valid : Bool

def incrementCounter (counter : AesBlock) : AesBlock :=
  ⟨increment counter.val, (length_increment _).trans counter.property⟩

/-- The transport (`Connector`): the device version, and sending a request over a transport
state. -/
structure Connector (ε : Type) where
  major : UInt8
  minor : UInt8
  send : ε → Bytes → ε × Except Rv Bytes

/-- An authenticated request without its MAC: the header counts the MAC. -/
def requestHeaderAndData (command : UInt8) (data : Bytes) : Bytes :=
  command :: beBytes 2 (data.length + macLength) ++ data

variable (session : SecureSession)

/-- The checks of `send_authenticated` on the received bytes. -/
def checkResponse (command : UInt8) (requireResponseMac : Bool) (encodedResponse : Bytes) :
    Except Rv Frame := do
  let response ← Frame.parse encodedResponse
  if !requireResponseMac && response.command = command ||| responseBit then .ok response
  else if response.data.length < macLength then
    if response.command = commandError && response.data.length = 1 then
      if command = CommandCode.authenticateSession.toByte && response.data = [0x04] then
        .error .pinIncorrect
      else .error (mapDeviceError response.data.head?)
    else .error .deviceError
  else
    let payloadLength := response.data.length - macLength
    -- the authenticated header carries the length including the trailing R-MAC
    let authenticated := encodedResponse.take 1 ++ beBytes 2 response.data.length ++
      (encodedResponse.take (3 + payloadLength)).drop 3
    let _ ← (session.keys.verifyResponseMac core (session.macChainingValue.val ++ authenticated)
      (response.data.drop payloadLength)).mapError fun _ => Rv.deviceError
    Frame.new response.command (response.data.take payloadLength)

def sendAuthenticated {ε : Type} (core : ChannelCore) (connector : Connector ε)
    (session : SecureSession) (transport : ε) (command : UInt8) (data : Bytes)
    (requireResponseMac : Bool) : SecureSession × ε × Except Rv Frame :=
  if data.length + macLength > 65535 then (session, transport, .error .dataLenRange)
  else
    let request := requestHeaderAndData command data
    match session.keys.commandMac core (session.macChainingValue.val ++ request) with
    | .error error => (session, transport, .error error)
    | .ok mac =>
      let session := { session with macChainingValue := mac }
      let (transport, response) := connector.send transport (request ++ mac.val.take macLength)
      (session, transport, response.bind (checkResponse core session command requireResponseMac))

/-- The first half of `send_command_inner`: the IV and the sealed command. -/
def sealCommand (command : Command) : Except Rv (AesBlock × Bytes) := do
  let inner ← Frame.new command.code.toByte command.data
  let iv ← session.keys.iv core session.counter
  let ciphertext ← session.keys.cbc core iv (core.padIso7816 inner.encode) true
  .ok (iv, session.sid :: ciphertext)

/-- A sealed payload: the session id and at least one whole block. -/
def sealedPayloadOk (sid : UInt8) (payload : Bytes) : Bool :=
  !(payload.length < 1 + aesBlockSize || payload.head? ≠ some sid ||
    (payload.length - 1) % aesBlockSize ≠ 0)

/-- The second half of `send_command_inner`: the response frame inside the sealed response. -/
def openResponse (iv : AesBlock) (outer : Frame) : Except Rv Frame := do
  let encrypted ← outer.requireResponse CommandCode.sessionMessage.toByte
  if !sealedPayloadOk session.sid encrypted then .error .deviceError
  else do
    let clear ← session.keys.cbc core iv encrypted.tail false
    let clear ← core.unpadIso7816 clear
    Frame.parse clear

def sendCommandInner {ε : Type} (core : ChannelCore) (connector : Connector ε)
    (session : SecureSession) (transport : ε) (command : Command) :
    SecureSession × ε × Except Rv Bytes :=
  let session := { session with valid := false }
  match sealCommand core session command with
  | .error error => (session, transport, .error error)
  | .ok (iv, outerData) =>
    match sendAuthenticated core connector session transport CommandCode.sessionMessage.toByte
      outerData true with
    | (session, transport, .error error) => (session, transport, .error error)
    | (session, transport, .ok outer) =>
      match openResponse core session iv outer with
      | .error error => (session, transport, .error error)
      | .ok response =>
        let result := response.requireResponse command.code.toByte
        let closed := command.code = .closeSession && result.isOk
        ({ session with counter := incrementCounter session.counter, valid := !closed },
          transport, result)

def sendCommand {ε : Type} (core : ChannelCore) (connector : Connector ε)
    (session : SecureSession) (transport : ε) (command : Command) :
    SecureSession × ε × Except Rv Bytes :=
  if !session.valid then (session, transport, .error .sessionClosed)
  else
    match validateCommand connector.major connector.minor command with
    | .error error => (session, transport, .error error)
    | .ok () =>
      let (session, transport, result) := sendCommandInner core connector session transport command
      -- the keys of an invalid session are cleared
      ((if !session.valid then { session with keys := none } else session), transport, result)

/-! ## The peer -/

def peerRequest (encoded : Bytes) (command : UInt8) : SecureSession × Except Rv Bytes :=
  if !session.valid then (session, .error .sessionClosed)
  else
    match Frame.parse encoded with
    | .error error => (session, .error error)
    | .ok frame =>
      if frame.command ≠ command || frame.data.length < macLength then
        ({ session with valid := false }, .error .deviceError)
      else
        let payloadLength := frame.data.length - macLength
        match session.keys.commandMac core
          (session.macChainingValue.val ++ encoded.take (3 + payloadLength)) with
        | .error error => (session, .error error)
        | .ok mac =>
          if mac.val.take macLength ≠ frame.data.drop payloadLength then
            ({ session with valid := false }, .error .encryptedDataInvalid)
          else
            ({ session with macChainingValue := mac }, .ok (frame.data.take payloadLength))

/-- A device's command handler over its own state (`handler` of `peer_exchange`). -/
abbrev Handler (σ : Type) := σ → UInt8 → Bytes → σ × Except Rv (UInt8 × Bytes)

/-- The part of `peer_exchange` before the handler: the IV and the request frame. -/
def openRequest (payload : Bytes) : Except Rv (AesBlock × Frame) := do
  let iv ← session.keys.iv core session.counter
  let clear ← session.keys.cbc core iv payload.tail false
  let clear ← core.unpadIso7816 clear
  let request ← Frame.parse clear
  .ok (iv, request)

/-- The part of `peer_exchange` after the handler: the response on the wire. -/
def sealResponse (iv : AesBlock) (command : UInt8) (data : Bytes) : Except Rv Bytes := do
  let clear ← Frame.new command data
  let ciphertext ← session.keys.cbc core iv (core.padIso7816 clear.encode) true
  let response := requestHeaderAndData (CommandCode.sessionMessage.toByte ||| responseBit)
    (session.sid :: ciphertext)
  let mac ← session.keys.peerResponseMac core (session.macChainingValue.val ++ response)
  .ok (response ++ mac.val.take macLength)

def peerExchange {σ : Type} (core : ChannelCore) (handler : Handler σ) (session : SecureSession)
    (s : σ) (encoded : Bytes) : SecureSession × σ × Except Rv Bytes :=
  match peerRequest core session encoded CommandCode.sessionMessage.toByte with
  | (session, .error error) => (session, s, .error error)
  | (session, .ok payload) =>
    if !sealedPayloadOk session.sid payload then
      ({ session with valid := false }, s, .error .deviceError)
    else
      match openRequest core session payload with
      | .error error => (session, s, .error error)
      | .ok (iv, request) =>
        match handler s request.command request.data with
        | (s, .error error) => (session, s, .error error)
        | (s, .ok (command, data)) =>
          match sealResponse core session iv command data with
          | .error error => (session, s, .error error)
          | .ok response =>
            let closes := request.command = CommandCode.closeSession.toByte
            ({ session with
                counter := incrementCounter session.counter
                valid := if closes then false else session.valid }, s, .ok response)

end Pkcs11rs.Model
