import Pkcs11rs.Library.Padding
import Pkcs11rs.Model.SecureSession
import Mathlib.Tactic.NormNum

/-!
# The secure session against a device that follows the protocol

A host session talks to a device through a `Relay`: the relay hands every request to the
device's side of the protocol (`peerExchange`) and passes its answer on, unless the delivery
at this point of the run is replaced by other bytes or by a transport error.

* `exchange_genuine` is one undisturbed exchange, `run_genuine` a run of them: the host
  computes what the device's command handler alone would (`specCommands`), and both sides
  keep the same counter and MAC chaining value.
* `exchange_altered` is one exchange with any other delivery: it fails and closes the session,
  and a closed session transmits nothing (`run_closed`).
* `usedCounters_eq` lists the counters that a session encrypts with, over any transport.
-/

set_option autoImplicit false

namespace Pkcs11rs.Analysis

open Pkcs11rs.Library Pkcs11rs.Model Frame SessionKeys CommandCode List

variable {ciphertext : Bytes} {keys : LocalKeys} {session host : SecureSession} {command : Command}
  {iv : AesBlock} {frame : Frame} {rest : List (Option (Except Rv Bytes))} {mac : AesBlock}
  {outer answer : Frame} {peer : SecureSession}

/-! ## Devices, relays and runs -/

/-- A device's command handler that always answers, over its own state. -/
abbrev Device (σ : Type) := σ → UInt8 → Bytes → σ × UInt8 × Bytes

/-- The device as a handler of the peer protocol. -/
def Device.handler {σ : Type} (device : Device σ) : Handler σ := fun s command data =>
  ((device s command data).1, .ok (device s command data).2)

/-- A device keeps its answers within the message size and confirms `CloseSession`. -/
structure Device.FollowsProtocol {σ : Type} (device : Device σ) : Prop where
  length_le : ∀ s command data,
    secureMessageLength (device s command data).2.2.length ≤ maxMessageSize
  close : ∀ s data, (device s CommandCode.closeSession.toByte data).2.1 =
    CommandCode.closeSession.toByte ||| responseBit

/-- What the caller gets for a device answer. -/
def deviceResult (request command : UInt8) (data : Bytes) : Except Rv Bytes :=
  if command = commandError then .error (mapDeviceError data.head?)
  else if command ≠ request ||| responseBit then .error .deviceError
  else .ok data

/-- One command on the specification: the handler alone, until a `CloseSession` succeeds. -/
def specCommand {σ : Type} (device : Device σ) (s : σ) (isOpen : Bool) (command : Command) :
    σ × Bool × Except Rv Bytes :=
  if !isOpen then (s, false, .error .sessionClosed)
  else
    let answer := device s command.code.toByte command.data
    let result := deviceResult command.code.toByte answer.2.1 answer.2.2
    (answer.1, !(command.code = .closeSession && result.isOk), result)

/-- A list of commands on the specification. -/
def specCommands {σ : Type} (device : Device σ) :
    σ → Bool → List Command → σ × Bool × List (Except Rv Bytes)
  | s, isOpen, [] => (s, isOpen, [])
  | s, isOpen, command :: commands =>
    let step := specCommand device s isOpen command
    let rest := specCommands device step.1 step.2.1 commands
    (rest.1, rest.2.1, step.2.2 :: rest.2.2)

/-- A transport to a device.  `deliveries` scripts the run: `none` passes the device's answer on,
`some d` delivers `d` instead. -/
structure Relay (σ : Type) where
  peer : SecureSession
  handlerState : σ
  deliveries : List (Option (Except Rv Bytes))
  /-- The requests transmitted so far. -/
  wire : List Bytes
  /-- The chaining values and answers of the device so far. -/
  answered : List (AesBlock × Bytes)

/-- Transmit one request. -/
def Relay.send {σ : Type} (core : ChannelCore) (device : Device σ) (relay : Relay σ)
    (request : Bytes) : Relay σ × Except Rv Bytes :=
  let (peer, handlerState, genuine) :=
    peerExchange core device.handler relay.peer relay.handlerState request
  let answered := match genuine with
    | .ok response => relay.answered ++ [(peer.macChainingValue, response)]
    | .error _ => relay.answered
  ({ peer, handlerState, deliveries := relay.deliveries.tail, wire := relay.wire ++ [request]
     answered },
    match relay.deliveries.head? with
    | some (some delivery) => delivery
    | _ => genuine)

/-- The relay as the host's connector. -/
def Relay.connector {σ : Type} (core : ChannelCore) (device : Device σ) (major minor : UInt8) :
    Connector (Relay σ) where
  major := major
  minor := minor
  send := Relay.send core device

/-- Send commands one after the other. -/
def runCommands {ε : Type} (core : ChannelCore) (connector : Connector ε) :
    SecureSession → ε → List Command → SecureSession × ε × List (Except Rv Bytes)
  | session, transport, [] => (session, transport, [])
  | session, transport, command :: commands =>
    let step := sendCommand core connector session transport command
    let rest := runCommands core connector step.1 step.2.1 commands
    (rest.1, rest.2.1, step.2.2 :: rest.2.2)

/-- The counters with which commands are encrypted in a run: those of the commands that a valid
session accepts. -/
def usedCounters {ε : Type} (core : ChannelCore) (connector : Connector ε) :
    SecureSession → ε → List Command → List AesBlock
  | _, _, [] => []
  | session, transport, command :: commands =>
    let step := sendCommand core connector session transport command
    let used := if session.valid &&
        (validateCommand connector.major connector.minor command).isOk then [session.counter]
      else []
    used ++ usedCounters core connector step.1 step.2.1 commands

/-- The two sides of a session with the given keys agree. -/
structure Synced (keys : LocalKeys) (host peer : SecureSession) (isOpen : Bool) : Prop where
  sid_eq : host.sid = peer.sid
  counter_eq : host.counter = peer.counter
  chain_eq : host.macChainingValue = peer.macChainingValue
  host_valid : host.valid = isOpen
  peer_valid : peer.valid = isOpen
  keys_eq : isOpen = true → host.keys = some keys ∧ peer.keys = some keys

/-! ## Messages on the wire -/

section

variable {core : ChannelCore} {σ : Type} {device : Device σ}

/-- A message with the first bytes of its MAC. -/
abbrev tagged (command : UInt8) (data : Bytes) (mac : AesBlock) : Bytes :=
  requestHeaderAndData command data ++ mac.val.take macLength

/-- The MAC of a message under a chaining value. -/
abbrev HasMac (core : ChannelCore) (key chain : AesBlock) (command : UInt8) (data : Bytes)
    (mac : AesBlock) : Prop :=
  core.aesCmac key (chain.val ++ requestHeaderAndData command data) = .ok mac

/-- The length of a tag. -/
theorem length_tag (mac : AesBlock) : (mac.val.take macLength).length = macLength := by
  rw [length_take, mac.property]
  rfl

/-- A message with its MAC is the encoding of a frame. -/
theorem authenticated_eq_encode (command : UInt8) (data mac : Bytes) (hmac : mac.length = macLength)
    (hle : (data ++ mac).length ≤ 65535) :
    requestHeaderAndData command data ++ mac = encode ⟨command, data ++ mac, hle⟩ := by
  simp [requestHeaderAndData, encode, hmac]

/-- The length of a request. -/
theorem length_requestHeaderAndData (command : UInt8) (data : Bytes) :
    (requestHeaderAndData command data).length = 3 + data.length := by
  simp only [requestHeaderAndData, length_append, length_cons, length_beBytes]

/-- The length of a sealed message. -/
theorem secureMessageLength_eq (n : ℕ) :
    secureMessageLength n = (3 + n + 1 + 15) / 16 * 16 + 12 := by
  simp only [secureMessageLength, aesBlockSize, macLength]
  omega

/-- Whole blocks that open to a frame and fit a message. -/
structure SealedFrame (core : ChannelCore) (key iv : AesBlock) (ciphertext : Bytes)
    (frame : Frame) : Prop where
  size : ciphertext.length + 12 = secureMessageLength frame.data.length
  fits : secureMessageLength frame.data.length ≤ maxMessageSize
  whole : ciphertext.length % 16 = 0
  least : 16 ≤ ciphertext.length
  opens : core.aesCbc key iv ciphertext false = .ok (core.padIso7816 frame.encode)

/-- A sealed frame is not too long. -/
theorem SealedFrame.length_le {key : AesBlock} (h : SealedFrame core key iv ciphertext frame)
    (sid : UInt8) : (sid :: ciphertext).length + macLength ≤ 65535 := by
  have hsize := h.size.trans_le h.fits
  simp only [length_cons, macLength]
  rw [maxMessageSize] at hsize
  omega

variable {data : Bytes}

/-- Data that fit a message. -/
theorem data_length_le (h : secureMessageLength data.length ≤ maxMessageSize) :
    data.length ≤ 65535 := by
  rw [secureMessageLength_eq, maxMessageSize] at h
  omega

/-- **Sealing a frame**: the ciphertext is whole blocks and opens to the frame. -/
theorem cbc_seal (hcore : core.Lawful) (key iv : AesBlock) (frame : Frame)
    (hlen : secureMessageLength frame.data.length ≤ maxMessageSize) :
    ∃ ciphertext, core.aesCbc key iv (core.padIso7816 frame.encode) true = .ok ciphertext ∧
      SealedFrame core key iv ciphertext frame := by
  have hpad := hcore.length_padIso7816 frame.encode
  rw [length_encode] at hpad
  obtain ⟨ciphertext, henc, hlength, hdec⟩ :=
    hcore.aesCbc key iv (core.padIso7816 frame.encode) (by rw [hpad]; exact Nat.mul_mod_left _ _)
  have hsize := secureMessageLength_eq frame.data.length
  exact ⟨ciphertext, henc, by omega, hlen, by omega, by omega, hdec⟩

/-- A sealed payload is accepted. -/
theorem sealedPayloadOk_cons {sid : UInt8} (hmod : ciphertext.length % 16 = 0)
    (hle : 16 ≤ ciphertext.length) : sealedPayloadOk sid (sid :: ciphertext) = true := by
  grind [sealedPayloadOk, aesBlockSize]

/-- The keys of a session. -/
theorem sessionKeys_material : material (some keys) = .ok keys := rfl

/-- The host seals a command that fits the message size. -/
theorem sealCommand_spec (hcore : core.Lawful) (hkeys : session.keys = some keys)
    (hlen : secureMessageLength command.data.length ≤ maxMessageSize) :
    ∃ iv ciphertext frame, Frame.new command.code.toByte command.data = .ok frame ∧
      core.aesEncryptBlock keys.enc session.counter = .ok iv ∧
      sealCommand core session command = .ok (iv, session.sid :: ciphertext) ∧
      SealedFrame core keys.enc iv ciphertext frame := by
  obtain ⟨iv, hiv⟩ := hcore.aesEncryptBlock keys.enc session.counter
  have hdata := data_length_le hlen
  obtain ⟨ciphertext, henc, hsealed⟩ :=
    cbc_seal hcore keys.enc iv ⟨command.code.toByte, command.data, hdata⟩ hlen
  refine ⟨iv, ciphertext, _, Frame.new_of_le hdata, hiv, ?_, hsealed⟩
  simp [sealCommand, Frame.new_of_le, SessionKeys.iv, SessionKeys.cbc, sessionKeys_material, bind,
    Except.bind, *]

/-- The device accepts a request with the right MAC and moves its chaining value. -/
theorem peerRequest_genuine (hkeys : session.keys = some keys) (hvalid : session.valid = true)
    {command : UInt8} (hlen : data.length + macLength ≤ 65535)
    (hmac : HasMac core keys.mac session.macChainingValue command data mac) :
    peerRequest core session (tagged command data mac) command =
      ({ session with macChainingValue := mac }, .ok data) := by
  have hmaclen := length_tag mac
  have hle : (data ++ mac.val.take macLength).length ≤ 65535 := by
    rw [length_append, hmaclen]
    exact hlen
  have hencode := authenticated_eq_encode command data _ hmaclen hle
  have hparse := parse_eq_ok_iff.mpr hencode
  have htake : (requestHeaderAndData command data ++ mac.val.take macLength).take
      (3 + data.length) = requestHeaderAndData command data := by simp [length_requestHeaderAndData]
  unfold tagged
  simp_all [peerRequest, commandMac, sessionKeys_material, bind, Except.bind]

/-- The device opens the request that the host sealed. -/
theorem openRequest_genuine (hcore : core.Lawful) (hkeys : session.keys = some keys)
    (hiv : core.aesEncryptBlock keys.enc session.counter = .ok iv) (sid : UInt8)
    (hsealed : SealedFrame core keys.enc iv ciphertext frame) :
    openRequest core session (sid :: ciphertext) = .ok (iv, frame) := by
  have hparse : Frame.parse frame.encode = .ok frame := Frame.parse_eq_ok_iff.mpr rfl
  simp only [openRequest, SessionKeys.iv, SessionKeys.cbc, hkeys, sessionKeys_material, bind,
    Except.bind, hiv, tail_cons, hsealed.opens, hcore.unpadIso7816_padIso7816, hparse]

/-- The code of an answer to a session message. -/
abbrev answerCode : UInt8 := CommandCode.sessionMessage.toByte ||| responseBit

/-- The device's answer on the wire. -/
theorem sealResponse_spec (hcore : core.Lawful) (hkeys : session.keys = some keys) (iv : AesBlock)
    (command : UInt8) (hlen : secureMessageLength data.length ≤ maxMessageSize) :
    ∃ ciphertext frame mac, new command data = .ok frame ∧
      sealResponse core session iv command data =
        .ok (tagged answerCode (session.sid :: ciphertext) mac) ∧
      HasMac core keys.rmac session.macChainingValue answerCode (session.sid :: ciphertext) mac ∧
      SealedFrame core keys.enc iv ciphertext frame := by
  have hdata := data_length_le hlen
  obtain ⟨ciphertext, henc, hsealed⟩ := cbc_seal hcore keys.enc iv ⟨command, data, hdata⟩ hlen
  obtain ⟨mac, hmac⟩ := hcore.aesCmac keys.rmac (session.macChainingValue.val ++
    requestHeaderAndData answerCode (session.sid :: ciphertext))
  refine ⟨ciphertext, _, mac, new_of_le hdata, ?_, hmac, hsealed⟩
  simp only [sealResponse, new_of_le hdata, cbc, peerResponseMac, hkeys,
    sessionKeys_material, bind, Except.bind, henc, hmac]

/-- Verifying a response MAC. -/
theorem verifyResponseMac_eq_ok_iff {input signature : Bytes} (hlen : signature.length = macLength)
    : verifyResponseMac core (some keys) input signature = .ok () ↔
      ∃ mac, core.aesCmac keys.rmac input = .ok mac ∧ mac.val.take macLength = signature := by
  have hlen8 : ¬ signature.length ≠ 8 := not_not.mpr hlen
  simp only [verifyResponseMac, hlen8, if_false, sessionKeys_material, bind, Except.bind, macLength]
  cases hcmac : core.aesCmac keys.rmac input with
  | error | ok => simp

/-- The checks on a received frame that is long enough to carry a MAC. -/
theorem checkResponse_encode (request : UInt8) (response : Frame)
    (hlen : macLength ≤ response.data.length) :
    checkResponse core session request true response.encode =
      (session.keys.verifyResponseMac core (session.macChainingValue.val ++ requestHeaderAndData
          response.command (response.data.take (response.data.length - macLength)))
        (response.data.drop (response.data.length - macLength))).mapError (fun _ => Rv.deviceError)
      >>= fun _ =>
        new response.command (response.data.take (response.data.length - macLength)) := by
  have hparse : parse response.encode = .ok response := parse_eq_ok_iff.mpr rfl
  set payloadLength := response.data.length - macLength with hpayload
  have hsum : payloadLength + macLength = response.data.length := Nat.sub_add_cancel hlen
  have hdrop : (response.encode.take (3 + payloadLength)).drop 3 =
      response.data.take payloadLength := by
    rw [drop_take, Nat.add_sub_cancel_left]
    rfl
  have hauth : response.encode.take 1 ++ beBytes 2 response.data.length ++
      (response.encode.take (3 + payloadLength)).drop 3 =
      requestHeaderAndData response.command (response.data.take payloadLength) := by
    rw [hdrop, requestHeaderAndData, length_take, Nat.min_eq_left (Nat.sub_le _ _), hsum]
    rfl
  unfold checkResponse
  rw [hparse]
  simp only [bind, Except.bind, Bool.not_true, Bool.false_and, Bool.false_eq_true, if_false,
    Nat.not_lt.mpr hlen, ← hpayload, hauth]

/-- **Response authentication**: the host accepts an answer exactly if it is a content followed by
the MAC of that content under the current chaining value. -/
theorem checkResponse_eq_ok_iff (hkeys : session.keys = some keys) (request : UInt8)
    {encoded : Bytes} : checkResponse core session request true encoded = .ok frame ↔
      frame.data.length + macLength ≤ 65535 ∧ ∃ mac, HasMac core keys.rmac session.macChainingValue
        frame.command frame.data mac ∧ encoded = tagged frame.command frame.data mac := by
  constructor
  · intro h
    obtain ⟨response, hparse, hrest⟩ := bind_eq_ok.mp h
    obtain rfl := parse_eq_ok_iff.mp hparse
    by_cases hlen : macLength ≤ response.data.length
    · rw [checkResponse_encode request response hlen, hkeys] at h
      obtain ⟨_, hverify, hframe⟩ := bind_eq_ok.mp h
      have hsig : (response.data.drop (response.data.length - macLength)).length = macLength := by
        rw [length_drop, Nat.sub_sub_self hlen]
      obtain ⟨mac, hmac, htag⟩ :=
        (verifyResponseMac_eq_ok_iff hsig).mp (mapError_eq_ok_iff.mp hverify)
      have hpayload : (response.data.take (response.data.length - macLength)).length ≤ 65535 :=
        (length_take_le' _ _).trans response.length_le
      rw [new_of_le hpayload] at hframe
      cases hframe
      have hsplit : response.data = response.data.take (response.data.length - macLength) ++
          mac.val.take macLength := by rw [htag, take_append_drop]
      have hmaclen : (mac.val.take macLength).length = macLength := htag ▸ hsig
      refine ⟨?_, mac, hmac, ?_⟩
      · have hle := response.length_le
        rw [hsplit, length_append, hmaclen] at hle
        exact hle
      · rw [tagged, authenticated_eq_encode _ _ _ hmaclen (hsplit ▸ response.length_le)]
        simp only [encode, ← hsplit]
    · -- too short for a MAC: an error in every branch
      have hshort : response.data.length < macLength := Nat.lt_of_not_le hlen
      simp only [Bool.not_true, Bool.false_and, Bool.false_eq_true, if_false, hshort,
        if_true] at hrest
      split at hrest
      · split at hrest <;> cases hrest
      · cases hrest
  · rintro ⟨hlen, mac, hmac, rfl⟩
    have hmaclen := length_tag mac
    have hle : (frame.data ++ mac.val.take macLength).length ≤ 65535 := by
      rw [length_append, hmaclen]
      exact hlen
    rw [tagged, authenticated_eq_encode _ _ _ hmaclen hle, checkResponse_encode request _ (by simp [hmaclen])]
    simp only [length_append, hmaclen, Nat.add_sub_cancel, take_left', drop_left', hkeys]
    have hverify := (verifyResponseMac_eq_ok_iff hmaclen).mpr ⟨mac, hmac, rfl⟩
    rw [hverify]
    exact new_of_le frame.length_le

/-- The host opens the answer that the device sealed. -/
theorem openResponse_genuine (hcore : core.Lawful) (hkeys : session.keys = some keys)
    (hcommand : outer.command = answerCode) (hdata : outer.data = session.sid :: ciphertext)
    (hsealed : SealedFrame core keys.enc iv ciphertext frame) :
    openResponse core session iv outer = .ok frame := by
  have hresponse : outer.requireResponse sessionMessage.toByte =
      .ok (session.sid :: ciphertext) := by
    rw [requireResponse, hcommand, hdata]
    rfl
  have hok : sealedPayloadOk session.sid (session.sid :: ciphertext) = true :=
    sealedPayloadOk_cons hsealed.whole hsealed.least
  have hparse : parse frame.encode = .ok frame := parse_eq_ok_iff.mpr rfl
  simp only [openResponse, hresponse, bind, Except.bind, hok, Bool.not_true, Bool.false_eq_true,
    if_false, cbc, hkeys, sessionKeys_material, tail_cons, hsealed.opens,
    hcore.unpadIso7816_padIso7816, hparse]

/-! ## One exchange -/

/-- The session while it waits for the answer: invalid, with the chaining value of the request. -/
def waitingSession (session : SecureSession) (mac : AesBlock) : SecureSession :=
  { session with valid := false, macChainingValue := mac }

/-- The session and the caller's result after the checks on the delivered bytes. -/
def finishCommand (session : SecureSession) (command : Command) :
    Except Rv Frame → SecureSession × Except Rv Bytes
  | .error error => ({ session with keys := none }, .error error)
  | .ok answer =>
    let result := answer.requireResponse command.code.toByte
    let closed := command.code = .closeSession && result.isOk
    ({ session with
        counter := incrementCounter session.counter, valid := !closed
        keys := if closed then none else session.keys }, result)

/-- **One command**: once sealed, its outcome is decided by the delivered bytes. -/
theorem sendCommand_eq {ε : Type} {connector : Connector ε} {transport transport' : ε}
    {outerData : Bytes} {delivered : Except Rv Bytes} (hvalid : session.valid = true)
    (hcheck : validateCommand connector.major connector.minor command = .ok ())
    (hseal : sealCommand core session command = .ok (iv, outerData))
    (hlen : outerData.length + macLength ≤ 65535)
    (hmac : session.keys.commandMac core (session.macChainingValue.val ++
      requestHeaderAndData sessionMessage.toByte outerData) = .ok mac)
    (hsend : connector.send transport (tagged sessionMessage.toByte outerData mac) =
      (transport', delivered)) : sendCommand core connector session transport command =
      let outcome := finishCommand (waitingSession session mac) command
        ((delivered.bind (checkResponse core (waitingSession session mac)
          sessionMessage.toByte true)).bind
          (openResponse core (waitingSession session mac) iv))
      (outcome.1, transport', outcome.2) := by
  have hseal' : sealCommand core { session with valid := false } command =
      .ok (iv, outerData) := hseal
  have hnot : ¬ outerData.length + macLength > 65535 := Nat.not_lt.mpr hlen
  have hauth : sendAuthenticated core connector { session with valid := false } transport
      sessionMessage.toByte outerData true =
      (waitingSession session mac, transport', delivered.bind (checkResponse core
        (waitingSession session mac) sessionMessage.toByte true)) := by
    simp only [sendAuthenticated, hnot, if_false, hmac, hsend]
    rfl
  unfold sendCommand
  simp only [hvalid, Bool.not_true, Bool.false_eq_true, if_false, hcheck]
  cases houter : delivered.bind (checkResponse core (waitingSession session mac)
      sessionMessage.toByte true) with
  | error e =>
    have hinner : sendCommandInner core connector session transport command =
        (waitingSession session mac, transport', .error e) := by
      simp only [sendCommandInner, hseal', hauth, houter]
    rw [hinner]
    rfl
  | ok outer =>
    cases hanswer : openResponse core (waitingSession session mac) iv outer with
    | error e =>
      have hinner : sendCommandInner core connector session transport command =
          (waitingSession session mac, transport', .error e) := by
        simp only [sendCommandInner, hseal', hauth, houter, hanswer]
      simp only [hinner, Except.bind, hanswer]
      rfl
    | ok answer =>
      have hinner : sendCommandInner core connector session transport command =
          ({ waitingSession session mac with
              counter := incrementCounter session.counter
              valid := !(command.code = .closeSession &&
                (answer.requireResponse command.code.toByte).isOk) },
            transport', answer.requireResponse command.code.toByte) := by
        simp only [sendCommandInner, hseal', hauth, houter, hanswer]
        rfl
      simp only [hinner, Except.bind, hanswer, finishCommand]
      cases hclosed : command.code = .closeSession &&
          (answer.requireResponse command.code.toByte).isOk with
      | false => rfl
      | true => rfl

/-- A closed session answers every command itself and transmits nothing. -/
theorem sendCommand_closed {ε : Type} {connector : Connector ε} {transport : ε}
    (h : session.valid = false) : sendCommand core connector session transport command =
      (session, transport, .error .sessionClosed) := by
  simp [sendCommand, h]

/-- Only `CloseSession` has its code. -/
theorem closeSession_toByte (code : CommandCode) :
    code.toByte = closeSession.toByte ↔ code = .closeSession := by
  cases code <;> decide

/-- The device's side after it has answered a command. -/
abbrev answeredPeer (peer : SecureSession) (command : Command) (mac : AesBlock) : SecureSession :=
  { peer with
    macChainingValue := mac, counter := incrementCounter peer.counter
    valid := !(command.code = .closeSession) }

/-- A frame that holds what the handler returned. -/
structure AnswerOf (device : Device σ) (s : σ) (command : Command) (answer : Frame) : Prop where
  command_eq : answer.command = (device s command.code.toByte command.data).2.1
  data_eq : answer.data = (device s command.code.toByte command.data).2.2

/-- **The two sides of one exchange.**  The host seals the command; the device opens it, runs its
handler and moves its chaining value and counter; its answer carries a valid MAC and opens to what
the handler returned. -/
theorem exchange (hcore : core.Lawful) (hdevice : device.FollowsProtocol)
    (hsync : Synced keys host peer true) (s : σ)
    (hlen : secureMessageLength command.data.length ≤ maxMessageSize) :
    ∃ iv mac rmac outer answer outerData,
      sealCommand core host command = .ok (iv, outerData) ∧
      outerData.length + macLength ≤ 65535 ∧
      HasMac core keys.mac host.macChainingValue sessionMessage.toByte outerData mac ∧
      peerExchange core device.handler peer s (tagged sessionMessage.toByte outerData mac) =
        (answeredPeer peer command mac, (device s command.code.toByte command.data).1,
          .ok (tagged outer.command outer.data rmac)) ∧
      outer.data.length + macLength ≤ 65535 ∧
      HasMac core keys.rmac mac outer.command outer.data rmac ∧
      openResponse core (waitingSession host mac) iv outer = .ok answer ∧
      AnswerOf device s command answer := by
  obtain ⟨hhost, hpeer⟩ := hsync.keys_eq rfl
  obtain ⟨iv, ciphertext, frame, hframe, hiv, hseal, hsealed⟩ := sealCommand_spec hcore hhost hlen
  have houterLen := hsealed.length_le host.sid
  obtain ⟨mac, hmac⟩ := hcore.aesCmac keys.mac (host.macChainingValue.val ++
    requestHeaderAndData sessionMessage.toByte (host.sid :: ciphertext))
  have hmacPeer := hmac
  rw [hsync.chain_eq] at hmacPeer
  have hrequest := peerRequest_genuine hpeer hsync.peer_valid houterLen hmacPeer
  set peer' : SecureSession := { peer with macChainingValue := mac } with hpeer'
  have hkeys' : peer'.keys = some keys := hpeer
  have hopen := openRequest_genuine hcore hkeys'
    (show core.aesEncryptBlock keys.enc peer'.counter = .ok iv from hsync.counter_eq ▸ hiv)
    host.sid hsealed
  have hbound := hdevice.length_le s command.code.toByte command.data
  obtain ⟨ciphertext', answer, rmac, hanswer, hresponse, hrmac, hsealed'⟩ :=
    sealResponse_spec hcore hkeys' iv (device s command.code.toByte command.data).2.1 hbound
  have houterLen' := hsealed'.length_le peer'.sid
  refine ⟨iv, mac, rmac, ⟨answerCode, peer'.sid :: ciphertext', by omega⟩, answer,
    host.sid :: ciphertext, hseal, houterLen, hmac, ?_, houterLen', hrmac, ?_,
    (new_eq_ok hanswer).1, (new_eq_ok hanswer).2⟩
  · have hpayload : sealedPayloadOk peer'.sid (host.sid :: ciphertext) = true := by
      rw [hsync.sid_eq]
      exact sealedPayloadOk_cons hsealed.whole hsealed.least
    obtain ⟨hcommand, hdata⟩ := new_eq_ok hframe
    simp only [peerExchange, hrequest, hpayload, Bool.not_true, Bool.false_eq_true, if_false, hopen,
      Device.handler, hcommand, hdata, hresponse, closeSession_toByte]
    have hvalid := hsync.peer_valid
    by_cases hclose : command.code = .closeSession <;> simp [hclose, hvalid, hpeer']
  · exact openResponse_genuine hcore hhost rfl
      (by rw [hpeer']; exact congrArg (· :: _) hsync.sid_eq.symm) hsealed'

/-- A frame is answered as the specification answers its content. -/
theorem requireResponse_eq (frame : Frame) (request : UInt8) :
    frame.requireResponse request = deviceResult request frame.command frame.data := rfl

/-- A device that confirms `CloseSession` closes the session with exactly that command. -/
theorem specCommand_isOpen (hdevice : device.FollowsProtocol) (s : σ) (command : Command) :
    (specCommand device s true command).2.1 = !(command.code = .closeSession) := by
  simp only [specCommand, Bool.not_true, Bool.false_eq_true, if_false]
  by_cases hclose : command.code = .closeSession
  · have hcommand := hdevice.close s command.data
    rw [← hclose] at hcommand
    have hresult : (deviceResult command.code.toByte
        (device s command.code.toByte command.data).2.1
        (device s command.code.toByte command.data).2.2).isOk = true := by
      rw [hcommand, hclose]
      rfl
    rw [hresult, Bool.and_true]
  · simp [hclose]

/-- The caller's result for the frame that holds the device's answer. -/
theorem finishCommand_result {s : σ} (h : AnswerOf device s command answer) :
    (finishCommand session command (.ok answer)).2 = (specCommand device s true command).2.2 := by
  simp only [finishCommand, requireResponse_eq, h.command_eq, h.data_eq]
  rfl

/-- The two sides after the host has accepted the device's answer. -/
theorem synced_finishCommand (hdevice : device.FollowsProtocol) (hsync : Synced keys host peer true)
    (mac : AesBlock) {s : σ} (h : AnswerOf device s command answer) :
    Synced keys (finishCommand (waitingSession host mac) command (.ok answer)).1
      (answeredPeer peer command mac) (specCommand device s true command).2.1 := by
  have hclosed := specCommand_isOpen hdevice s command
  have hvalid : (finishCommand (waitingSession host mac) command (.ok answer)).1.valid =
      (specCommand device s true command).2.1 := by
    simp only [finishCommand, requireResponse_eq, h.command_eq, h.data_eq]
    rfl
  refine ⟨hsync.sid_eq, congrArg incrementCounter hsync.counter_eq, rfl, hvalid, hclosed.symm, ?_⟩
  intro hopen
  obtain ⟨hhost, hpeer⟩ := hsync.keys_eq rfl
  refine ⟨?_, hpeer⟩
  rw [hopen] at hvalid
  have hkeys : (finishCommand (waitingSession host mac) command (.ok answer)).1.keys =
      host.keys := by
    simp only [finishCommand, Bool.not_eq_true'] at hvalid ⊢
    rw [hvalid]
    rfl
  rw [hkeys, hhost]

/-- What arrives at the host when the device answers `genuine`. -/
def Relay.delivered {σ : Type} (relay : Relay σ) (genuine : Bytes) : Except Rv Bytes :=
  match relay.deliveries.head? with
  | some (some delivery) => delivery
  | _ => .ok genuine

/-- The relay after the device has answered. -/
def Relay.afterAnswer {σ : Type} (relay : Relay σ) (request : Bytes) (peer : SecureSession) (s : σ)
    (genuine : Bytes) : Relay σ where
  peer := peer
  handlerState := s
  deliveries := relay.deliveries.tail
  wire := relay.wire ++ [request]
  answered := relay.answered ++ [(peer.macChainingValue, genuine)]

variable {relay : Relay σ}

section

variable (hcore : core.Lawful) (hdevice : device.FollowsProtocol) (major minor : UInt8)
  (hsync : Synced keys host relay.peer true)

include hcore hdevice hsync

/-- **One exchange through the relay**: everything but the outcome of the delivered bytes. -/
theorem exchange_delivered (hcheck : validateCommand major minor command = .ok ()) :
    ∃ iv mac rmac outer answer request,
      outer.data.length + macLength ≤ 65535 ∧
      HasMac core keys.rmac mac outer.command outer.data rmac ∧
      openResponse core (waitingSession host mac) iv outer = .ok answer ∧
      AnswerOf device relay.handlerState command answer ∧
      sendCommand core (Relay.connector core device major minor) host relay command =
        let genuine := tagged outer.command outer.data rmac
        let outcome := finishCommand (waitingSession host mac) command
          (((relay.delivered genuine).bind (checkResponse core (waitingSession host mac)
            sessionMessage.toByte true)).bind
            (openResponse core (waitingSession host mac) iv))
        (outcome.1, relay.afterAnswer request (answeredPeer relay.peer command mac)
          (device relay.handlerState command.code.toByte command.data).1 genuine, outcome.2) := by
  obtain ⟨iv, mac, rmac, outer, answer, outerData, hseal, hlen, hmac, hexchange, houterLen, hrmac,
    hopen, hanswer⟩ :=
    exchange hcore hdevice hsync relay.handlerState (validateCommand_length hcheck)
  have hmac' : host.keys.commandMac core (host.macChainingValue.val ++
      requestHeaderAndData sessionMessage.toByte outerData) = .ok mac := by
    rw [(hsync.keys_eq rfl).1]
    exact hmac
  set request := tagged sessionMessage.toByte outerData mac with hrequest
  have hsend : (Relay.connector core device major minor).send relay request =
      (relay.afterAnswer request (answeredPeer relay.peer command mac)
        (device relay.handlerState command.code.toByte command.data).1
        (tagged outer.command outer.data rmac),
        relay.delivered (tagged outer.command outer.data rmac)) := by
    simp only [Relay.connector, Relay.send, hexchange, Relay.afterAnswer, Relay.delivered]
  exact ⟨iv, mac, rmac, outer, answer, request, houterLen, hrmac, hopen, hanswer,
    sendCommand_eq hsync.host_valid hcheck hseal hlen hmac' hsend⟩

/-- **One undisturbed exchange** computes what the handler alone computes and keeps the two sides
in step. -/
theorem exchange_genuine (hcheck : validateCommand major minor command = .ok ())
    (hscript : relay.deliveries = none :: rest) :
    ∃ host' relay', sendCommand core (Relay.connector core device major minor) host relay command =
        (host', relay', (specCommand device relay.handlerState true command).2.2) ∧
      Synced keys host' relay'.peer (specCommand device relay.handlerState true command).2.1 ∧
      relay'.handlerState = (specCommand device relay.handlerState true command).1 ∧
      relay'.deliveries = rest ∧ relay'.wire.length = relay.wire.length + 1 ∧
      relay'.answered.length = relay.answered.length + 1 := by
  obtain ⟨iv, mac, rmac, outer, answer, request, hlen, hrmac, hopen, hanswer, hsend⟩ :=
    exchange_delivered hcore hdevice major minor hsync hcheck
  have hkeys : (waitingSession host mac).keys = some keys := (hsync.keys_eq rfl).1
  have hrespond : checkResponse core (waitingSession host mac) sessionMessage.toByte
      true (tagged outer.command outer.data rmac) = .ok outer :=
    (checkResponse_eq_ok_iff hkeys _).mpr ⟨hlen, rmac, hrmac, rfl⟩
  have hdelivered (genuine : Bytes) : relay.delivered genuine = .ok genuine := by
    rw [Relay.delivered, hscript]
    rfl
  simp only [hdelivered, Except.bind, hrespond, hopen] at hsend
  rw [finishCommand_result hanswer] at hsend
  refine ⟨_, _, hsend, synced_finishCommand hdevice hsync mac hanswer, rfl, ?_, ?_, ?_⟩
  · rw [Relay.afterAnswer, hscript]
    rfl
  · simp [Relay.afterAnswer]
  · simp [Relay.afterAnswer]

end

/-- **No forgery**: a tag on `bytes` that is right under the chaining value `chain` is a tag the
device has made, on the same content under the same chaining value. -/
def Unforged (core : ChannelCore) (keys : LocalKeys) (answered : List (AesBlock × Bytes))
    (chain : AesBlock) (bytes : Bytes) : Prop :=
  ∀ content tag mac, bytes = content ++ tag → tag.length = macLength →
    core.aesCmac keys.rmac (chain.val ++ content) = .ok mac → mac.val.take macLength = tag →
    ∃ entry ∈ answered, ∃ content' tag', entry.2 = content' ++ tag' ∧ tag'.length = macLength ∧
      entry.1.val ++ content' = chain.val ++ content

/-- **An accepted delivery is the device's answer**, if no tag is forged and chaining values do
not repeat. -/
theorem delivered_eq_genuine (hkeys : session.keys = some keys) {request : UInt8} {bytes : Bytes}
    (hcheck : checkResponse core session request true bytes = .ok frame) {rmac : AesBlock}
    (hrmac : HasMac core keys.rmac session.macChainingValue outer.command outer.data rmac)
    {answered : List (AesBlock × Bytes)} (hfresh : (answered.map Prod.fst).Nodup)
    (hmem : (session.macChainingValue, tagged outer.command outer.data rmac) ∈ answered)
    (hunforged : Unforged core keys answered session.macChainingValue bytes) :
    bytes = tagged outer.command outer.data rmac := by
  obtain ⟨-, mac, hmac, rfl⟩ := (checkResponse_eq_ok_iff hkeys request).mp hcheck
  obtain ⟨entry, hentry, content, tag, hsplit, htaglen, hinput⟩ :=
    hunforged _ _ mac rfl (length_tag mac) hmac rfl
  obtain ⟨hchain, hcontent⟩ := append_inj hinput (by rw [entry.1.property,
    session.macChainingValue.property])
  have hsame := inj_on_of_nodup_map hfresh hentry hmem (Subtype.ext hchain)
  rw [hsame] at hsplit
  obtain ⟨houter, -⟩ := append_inj' hsplit ((length_tag rmac).trans htaglen.symm)
  rw [hcontent] at houter
  unfold HasMac at hmac hrmac
  rw [← houter, hrmac] at hmac
  cases hmac
  rw [tagged, tagged, houter]

/-- **One altered exchange** fails and closes the session. -/
theorem exchange_altered (hcore : core.Lawful) (hdevice : device.FollowsProtocol)
    (major minor : UInt8) (hsync : Synced keys host relay.peer true)
    (hcheck : validateCommand major minor command = .ok ()) {delivery : Except Rv Bytes}
    (hscript : relay.deliveries = some delivery :: rest) : ∃ host' relay' result genuine,
      sendCommand core (Relay.connector core device major minor) host relay command =
        (host', relay', result) ∧
      relay'.answered = relay.answered ++ [(host'.macChainingValue, genuine)] ∧
      relay'.wire.length = relay.wire.length + 1 ∧
      (delivery ≠ .ok genuine → (relay'.answered.map Prod.fst).Nodup →
        (∀ bytes, delivery = .ok bytes →
          Unforged core keys relay'.answered host'.macChainingValue bytes) →
        host'.valid = false ∧ ∃ error, result = .error error) := by
  obtain ⟨iv, mac, rmac, outer, answer, request, hlen, hrmac, hopen, hanswer, hsend⟩ :=
    exchange_delivered hcore hdevice major minor hsync hcheck
  have hwaiting : (waitingSession host mac).keys = some keys := (hsync.keys_eq rfl).1
  have hdelivered (genuine : Bytes) : relay.delivered genuine = delivery := by
    rw [Relay.delivered, hscript]
    rfl
  simp only [hdelivered] at hsend
  have hchain (x : Except Rv Frame) :
      (finishCommand (waitingSession host mac) command x).1.macChainingValue = mac := by
    cases x <;> rfl
  refine ⟨_, _, _, tagged outer.command outer.data rmac, hsend, ?_, by simp [Relay.afterAnswer], ?_⟩
  · rw [hchain]
    rfl
  intro haltered hfresh hunforged
  rw [hchain] at hunforged
  -- the checks on the delivered bytes fail
  have hfail : ∃ error, delivery.bind (checkResponse core (waitingSession host mac)
      sessionMessage.toByte true) = .error error := by
    cases hcase : delivery.bind (checkResponse core (waitingSession host mac)
        sessionMessage.toByte true) with
    | error e => exact ⟨e, rfl⟩
    | ok frame =>
      exfalso
      cases delivery with
      | error e => cases hcase
      | ok bytes =>
        apply haltered
        rw [delivered_eq_genuine hwaiting hcase hrmac hfresh (by simp [Relay.afterAnswer,
          waitingSession]) (hunforged bytes rfl)]
  obtain ⟨error, hfail⟩ := hfail
  rw [hfail]
  exact ⟨rfl, error, rfl⟩

/-! ## Runs -/

/-- A closed session stays as it is over any run and transmits nothing. -/
theorem run_closed {ε : Type} {connector : Connector ε} (h : session.valid = false) (transport : ε)
    (commands : List Command) : runCommands core connector session transport commands =
      (session, transport, commands.map fun _ => .error .sessionClosed) := by
  induction commands with
  | nil => rfl
  | cons command commands ih => simp only [runCommands, sendCommand_closed h, ih, map_cons]

/-- A closed session refuses everything. -/
theorem specCommands_closed (s : σ) (commands : List Command) :
    specCommands device s false commands =
      (s, false, commands.map fun _ => .error .sessionClosed) := by
  induction commands with
  | nil => rfl
  | cons command commands ih =>
    have hstep : specCommand device s false command = (s, false, .error .sessionClosed) := rfl
    simp only [specCommands, hstep, ih, map_cons]

/-- Commands in two parts. -/
theorem runCommands_append {ε : Type} (connector : Connector ε) (session : SecureSession)
    (transport : ε) (xs ys : List Command) :
    runCommands core connector session transport (xs ++ ys) =
      let first := runCommands core connector session transport xs
      let second := runCommands core connector first.1 first.2.1 ys
      (second.1, second.2.1, first.2.2 ++ second.2.2) := by
  induction xs generalizing session transport with
  | nil => rfl
  | cons x xs ih => simp only [cons_append, runCommands, ih]

/-- **A run without disturbance**: the host computes what the handler alone computes, and after
every prefix both sides agree. -/
theorem run_genuine (hcore : core.Lawful) (hdevice : device.FollowsProtocol) (major minor : UInt8)
    {isOpen : Bool} (hsync : Synced keys host relay.peer isOpen) (commands : List Command)
    (hcheck : ∀ command ∈ commands, validateCommand major minor command = .ok ())
    (hscript : relay.deliveries = replicate commands.length none ++ rest) : ∃ host' relay',
      runCommands core (Relay.connector core device major minor) host relay commands =
        (host', relay', (specCommands device relay.handlerState isOpen commands).2.2) ∧
      Synced keys host' relay'.peer (specCommands device relay.handlerState isOpen commands).2.1 ∧
      ((specCommands device relay.handlerState isOpen commands).2.1 = true →
        relay'.deliveries = rest ∧ relay'.wire.length = relay.wire.length + commands.length) := by
  induction commands generalizing host relay isOpen with
  | nil => exact ⟨host, relay, rfl, hsync, fun _ => ⟨hscript, rfl⟩⟩
  | cons command commands ih =>
    cases isOpen with
    | false =>
      refine ⟨host, relay, ?_, ?_, ?_⟩
      · rw [run_closed hsync.host_valid, specCommands_closed]
      · rw [specCommands_closed]
        exact hsync
      · rw [specCommands_closed]
        exact fun h => absurd h Bool.false_ne_true
    | true =>
      obtain ⟨host₁, relay₁, hsend, hsync₁, hstate, hscript₁, hwire, -⟩ :=
        exchange_genuine hcore hdevice major minor hsync (hcheck command mem_cons_self) hscript
      obtain ⟨host', relay', hrun, hsync', hopen⟩ := ih hsync₁
        (fun x hx => hcheck x (mem_cons_of_mem _ hx)) hscript₁
      rw [hstate] at hrun hsync' hopen
      refine ⟨host', relay', ?_, hsync', fun h => ⟨(hopen h).1, ?_⟩⟩
      · simp only [runCommands, hsend, hrun]
        rfl
      · rw [(hopen h).2, hwire, length_cons]
        omega

end

/-! ## Counters -/

/-- The counter after some commands. -/
theorem incrementCounter_iterate (n : ℕ) (counter : AesBlock) :
    (incrementCounter^[n] counter).val = increment^[n] counter.val := by
  induction n generalizing counter with
  | zero => rfl
  | succ n ih => rw [Function.iterate_succ_apply, Function.iterate_succ_apply, ih]; rfl

section

variable (core : ChannelCore) {ε : Type} (connector : Connector ε) (session : SecureSession)
  (transport : ε)

/-- Sending changes only the chaining value. -/
theorem sendAuthenticated_frame (command : UInt8) (data : Bytes) (requireMac : Bool) :
    (sendAuthenticated core connector session transport command data requireMac).1.valid =
        session.valid ∧
      (sendAuthenticated core connector session transport command data requireMac).1.counter =
        session.counter := by grind [sendAuthenticated]

/-- A command takes one counter. -/
theorem sendCommandInner_counter (command : Command) :
    (sendCommandInner core connector session transport command).1.valid = false ∨
      (sendCommandInner core connector session transport command).1.counter =
        incrementCounter session.counter := by
  unfold sendCommandInner
  dsimp only
  split
  · exact .inl rfl
  next iv outerData hseal =>
    have hframe := sendAuthenticated_frame core connector { session with valid := false }
      transport sessionMessage.toByte outerData true
    split
    next session' _ _ hsend =>
      rw [hsend] at hframe
      exact .inl hframe.1
    next session' _ outer hsend =>
      rw [hsend] at hframe
      split
      · exact .inl hframe.1
      · exact .inr (congrArg incrementCounter hframe.2)

/-- A command that a valid session accepts closes the session or moves the counter on. -/
theorem sendCommand_counter (command : Command) (hvalid : session.valid = true)
    (hcheck : validateCommand connector.major connector.minor command = .ok ()) :
    (sendCommand core connector session transport command).1.valid = false ∨
      (sendCommand core connector session transport command).1.counter =
        incrementCounter session.counter := by
  have hinner := sendCommandInner_counter core connector session transport command
  grind [sendCommand]

/-- A closed session uses no counter. -/
theorem usedCounters_closed {session : SecureSession} (h : session.valid = false) (commands : List Command) :
    usedCounters core connector session transport commands = [] := by
  induction commands with
  | nil => rfl
  | cons command commands ih =>
    simp only [usedCounters, sendCommand_closed h, ih, h, Bool.false_and, Bool.false_eq_true,
      if_false, append_nil]

/-- **The counters of a session**, over any transport, are the successive ones from the counter it
starts with. -/
theorem usedCounters_eq (commands : List Command) :
    ∃ n, usedCounters core connector session transport commands =
      (range n).map fun i => incrementCounter^[i] session.counter := by
  induction commands generalizing session transport with
  | nil => exact ⟨0, rfl⟩
  | cons command commands ih =>
    cases hvalid : session.valid with
    | false => exact ⟨0, usedCounters_closed core connector _ hvalid _⟩
    | true =>
      cases hcheck : validateCommand connector.major connector.minor command with
      | error e =>
        -- a rejected command leaves the session as it is
        have hsend : sendCommand core connector session transport command =
            (session, transport, .error e) := by
          simp [sendCommand, hvalid, hcheck]
        obtain ⟨n, hn⟩ := ih session transport
        refine ⟨n, ?_⟩
        simp only [usedCounters, hcheck, hsend, Except.isOk, Except.toBool, Bool.and_false,
          Bool.false_eq_true, if_false, nil_append, hn]
      | ok u =>
        have hused : usedCounters core connector session transport (command :: commands) =
            session.counter :: usedCounters core connector
              (sendCommand core connector session transport command).1
              (sendCommand core connector session transport command).2.1 commands := by
          simp [usedCounters, hvalid, hcheck, Except.isOk, Except.toBool]
        rcases sendCommand_counter core connector session transport command hvalid
          hcheck with hclosed | hcounter
        · refine ⟨1, ?_⟩
          rw [hused, usedCounters_closed core connector _ hclosed]
          rfl
        · obtain ⟨n, hn⟩ := ih (sendCommand core connector session transport command).1
            (sendCommand core connector session transport command).2.1
          refine ⟨n + 1, ?_⟩
          rw [hused, hn, range_succ_eq_map, map_cons, map_map, hcounter]
          rfl

/-- Within `2 ^ 128` commands no counter is used twice. -/
theorem usedCounters_ne (commands : List Command) {i j : ℕ} {a b : AesBlock}
    (ha : (usedCounters core connector session transport commands)[i]? = some a)
    (hb : (usedCounters core connector session transport commands)[j]? = some b)
    (hij : i < j) (hnear : j - i < 2 ^ 128) : a ≠ b := by
  obtain ⟨n, hn⟩ := usedCounters_eq core connector session transport commands
  rw [hn, getElem?_map, Option.map_eq_some_iff] at ha hb
  obtain ⟨i', hi, rfl⟩ := ha
  obtain ⟨j', hj, rfl⟩ := hb
  grind [incrementCounter_iterate, increment_iterate_ne]

end

/-! ## The session as a whole -/

/-- Every command passes the check for a device of this version. -/
def Accepted (major minor : UInt8) (commands : List Command) : Prop :=
  ∀ command ∈ commands, validateCommand major minor command = .ok ()

section

variable {core : ChannelCore} {σ : Type} {device : Device σ}

/-- **The secure session.**

1. Over any accepted commands and an undisturbed relay, the results are those of the device's
   handler until a `CloseSession` succeeds, and both sides agree on counter and chaining value.
2. If in an open session the delivery for one command is anything but the device's answer, that
   command fails; every later command returns `CKR_SESSION_CLOSED` and leaves the wire as it is.
3. Over any transport, two commands less than `2 ^ 128` apart are encrypted with different
   counters. -/
theorem secureSession_lockstep (hcore : core.Lawful) (hdevice : device.FollowsProtocol)
    (major minor : UInt8) {keys : LocalKeys} {host : SecureSession} {relay : Relay σ}
    (hsync : Synced keys host relay.peer true) :
    (∀ commands rest, Accepted major minor commands →
      relay.deliveries = List.replicate commands.length none ++ rest →
      ∃ host' relay',
        runCommands core (Relay.connector core device major minor) host relay commands =
          (host', relay', (specCommands device relay.handlerState true commands).2.2) ∧
        Synced keys host' relay'.peer
          (specCommands device relay.handlerState true commands).2.1) ∧
    (∀ before command after delivery rest mid, Accepted major minor (before ++ [command]) →
      relay.deliveries = List.replicate before.length none ++ some delivery :: rest →
      (specCommands device relay.handlerState true before).2.1 = true →
      mid = runCommands core (Relay.connector core device major minor) host relay
        (before ++ [command]) →
      (∀ genuine, mid.2.1.answered.getLast? = some (mid.1.macChainingValue, genuine) →
        delivery ≠ .ok genuine) →
      (mid.2.1.answered.map Prod.fst).Nodup →
      (∀ bytes, delivery = .ok bytes →
        Unforged core keys mid.2.1.answered mid.1.macChainingValue bytes) →
      ∃ error,
        runCommands core (Relay.connector core device major minor) host relay
            (before ++ command :: after) =
          (mid.1, mid.2.1, (specCommands device relay.handlerState true before).2.2 ++
            .error error :: after.map fun _ => .error .sessionClosed) ∧
        mid.1.valid = false ∧
        mid.2.1.wire.length = relay.wire.length + before.length + 1) ∧
    (∀ (ε : Type) (connector : Connector ε) session transport commands i j a b,
      (usedCounters core connector session transport commands)[i]? = some a →
      (usedCounters core connector session transport commands)[j]? = some b →
      i < j → j - i < 2 ^ 128 → a ≠ b) := by
  refine ⟨?_, ?_, ?_⟩
  · intro commands rest hcheck hscript
    obtain ⟨host', relay', hrun, hsync', -⟩ :=
      run_genuine hcore hdevice major minor hsync commands hcheck hscript
    exact ⟨host', relay', hrun, hsync'⟩
  · intro before command after delivery rest mid hcheck hscript hopen hmid haltered hfresh hunforged
    have hbefore : Accepted major minor before := fun x hx => hcheck x (by simp [hx])
    obtain ⟨host₁, relay₁, hrun, hsync₁, hrest⟩ :=
      run_genuine hcore hdevice major minor hsync before hbefore hscript
    rw [hopen] at hsync₁
    obtain ⟨hscript₁, hwire₁⟩ := hrest hopen
    obtain ⟨host₂, relay₂, result, genuine, hsend, hanswered, hwire₂, hclosed⟩ :=
      exchange_altered hcore hdevice major minor hsync₁ (hcheck command (by simp)) hscript₁
    simp_all [runCommands_append, runCommands, run_closed]
  · intro ε connector session transport commands i j a b ha hb hij hnear
    exact usedCounters_ne core connector session transport commands ha hb hij hnear

variable {relay : Relay σ}

section

variable (hcore : core.Lawful) (hdevice : device.FollowsProtocol) (major minor : UInt8)
  (hsync : Synced keys host relay.peer true)

include hcore hdevice hsync

/-- Over an undisturbed relay every accepted command except `CloseSession` uses a counter. -/
theorem length_usedCounters_genuine (commands : List Command)
    (hcheck : Accepted major minor commands)
    (hclose : ∀ command ∈ commands, command.code ≠ .closeSession)
    (hscript : relay.deliveries = replicate commands.length none) :
    (usedCounters core (Relay.connector core device major minor) host relay commands).length =
      commands.length := by
  induction commands generalizing host relay with
  | nil => rfl
  | cons command commands ih =>
    have hcommand := hcheck command mem_cons_self
    obtain ⟨host₁, relay₁, hsend, hsync₁, -, hscript₁, -⟩ :=
      exchange_genuine hcore hdevice major minor hsync hcommand hscript
    have hopen : (specCommand device relay.handlerState true command).2.1 = true := by
      rw [specCommand_isOpen hdevice]
      simpa using hclose command mem_cons_self
    rw [hopen] at hsync₁
    have hrest := ih hsync₁ (fun x hx => hcheck x (mem_cons_of_mem _ hx))
      (fun x hx => hclose x (mem_cons_of_mem _ hx)) hscript₁
    have hcommand' : validateCommand (Relay.connector core device major minor).major
        (Relay.connector core device major minor).minor command = .ok () := hcommand
    simp only [usedCounters, hsync.host_valid, hcommand', Except.isOk, Except.toBool,
      Bool.and_self, if_true, hsend, length_append, length_cons, length_nil, hrest]
    omega

/-- In a long enough session the counter comes back. -/
theorem usedCounters_repeat (commands : List Command) (hcheck : Accepted major minor commands)
    (hclose : ∀ command ∈ commands, command.code ≠ .closeSession)
    (hscript : relay.deliveries = replicate commands.length none)
    (hlong : 2 ^ 128 < commands.length) : ∃ counter,
      (usedCounters core (Relay.connector core device major minor) host relay commands)[0]? =
        some counter ∧
      (usedCounters core (Relay.connector core device major minor) host relay
        commands)[2 ^ 128]? = some counter := by
  have hlength :=
    length_usedCounters_genuine hcore hdevice major minor hsync commands hcheck hclose hscript
  obtain ⟨n, hn⟩ :=
    usedCounters_eq core (Relay.connector core device major minor) host relay commands
  rw [hn, length_map, length_range] at hlength
  have hperiod : incrementCounter^[2 ^ 128] host.counter = host.counter := by
    apply Subtype.ext
    rw [incrementCounter_iterate]
    grind [increment_iterate_period]
  refine ⟨host.counter, ?_, ?_⟩
  · rw [hn, getElem?_map, getElem?_range (by omega)]
    rfl
  · rw [hn, getElem?_map, getElem?_range (by omega), Option.map_some, hperiod]

end

end

/-! ## A sample session -/

/-- Channel functions without secrecy: the identity cipher, and the end of the input as MAC. -/
def plainChannelCore : ChannelCore where
  aesEncryptBlock _ block := .ok block
  aesCbc _ _ data _ := .ok data
  aesCmac _ data := .ok ⟨(List.replicate 16 0 ++ data).reverse.take 16, by simp⟩
  padIso7816 := iso7816Pad 16
  unpadIso7816 data := match iso7816Unpad data with
    | some clear => .ok clear
    | none => .error .encryptedDataInvalid

/-- The core of the example is lawful. -/
theorem plainChannelCore_lawful : plainChannelCore.Lawful where
  aesEncryptBlock _ block := ⟨block, rfl⟩
  aesCbc _ _ data _ := ⟨data, rfl, rfl, rfl⟩
  aesCmac _ _ := ⟨_, rfl⟩
  length_padIso7816 data := length_iso7816Pad 16 (by decide) data
  unpadIso7816_padIso7816 data := by
    simp only [plainChannelCore, iso7816Unpad_iso7816Pad]

/-- A device that answers every command with the start of its data. -/
def echoDevice : Device Unit := fun _ command data => ((), command ||| responseBit, data.take 64)

/-- The device of the example follows the protocol. -/
theorem echoDevice_followsProtocol : echoDevice.FollowsProtocol where
  length_le _ _ data := by
    have hle : (data.take 64).length ≤ 64 := length_take_le _ _
    simp only [echoDevice, secureMessageLength_eq, maxMessageSize]
    omega
  close _ _ := rfl

/-- The length of a block. -/
theorem length_zeroBlock : (replicate 16 (0 : UInt8)).length = 16 := rfl

/-- A session right after its establishment. -/
def sampleSession : SecureSession where
  sid := 3
  keys := some ⟨⟨List.replicate 16 1, rfl⟩, ⟨List.replicate 16 2, rfl⟩, ⟨List.replicate 16 3, rfl⟩⟩
  counter := ⟨List.replicate 16 0, length_zeroBlock⟩
  macChainingValue := ⟨List.replicate 16 0, length_zeroBlock⟩
  valid := true

/-- The relay to the echo device with a script of deliveries. -/
def sampleRelay (deliveries : List (Option (Except Rv Bytes))) : Relay Unit where
  peer := sampleSession
  handlerState := ()
  deliveries := deliveries
  wire := []
  answered := []

/-- Both sides of the example are in step. -/
theorem sampleSession_synced :
    Synced ⟨⟨replicate 16 1, rfl⟩, ⟨replicate 16 2, rfl⟩, ⟨replicate 16 3, rfl⟩⟩
      sampleSession sampleSession true :=
  ⟨rfl, rfl, rfl, rfl, rfl, fun _ => ⟨rfl, rfl⟩⟩

/-- The sample session runs commands, and notices a truncated answer. -/
theorem secureSession_lockstep_echo :
    (∃ host relay, runCommands plainChannelCore (Relay.connector plainChannelCore echoDevice 2 4)
        sampleSession (sampleRelay [none, none, none])
        [⟨.echo, [1, 2]⟩, ⟨.closeSession, []⟩, ⟨.echo, [3]⟩] =
          (host, relay, [.ok [1, 2], .ok [], .error .sessionClosed]) ∧
      Synced ⟨⟨List.replicate 16 1, rfl⟩, ⟨List.replicate 16 2, rfl⟩, ⟨List.replicate 16 3, rfl⟩⟩
        host relay.peer false) ∧
    (∃ error host relay, runCommands plainChannelCore
        (Relay.connector plainChannelCore echoDevice 2 4) sampleSession
        (sampleRelay [some (.ok [0x85, 0, 0])]) ([] ++ ⟨.echo, [1, 2]⟩ :: [⟨.echo, [3]⟩]) =
          (host, relay, [.error error, .error .sessionClosed])) := by
  refine ⟨?_, ?_⟩
  · obtain ⟨host, relay, hrun, hsync⟩ :=
      (secureSession_lockstep plainChannelCore_lawful echoDevice_followsProtocol 2 4
        (show Synced _ sampleSession (sampleRelay [none, none, none]).peer true from
          sampleSession_synced)).1
        [⟨.echo, [1, 2]⟩, ⟨.closeSession, []⟩, ⟨.echo, [3]⟩] []
        (by simp only [Accepted, List.forall_mem_cons]; exact ⟨rfl, rfl, rfl, by simp⟩) rfl
    exact ⟨host, relay, hrun, hsync⟩
  · obtain ⟨error, hrun, -⟩ :=
      (secureSession_lockstep plainChannelCore_lawful echoDevice_followsProtocol 2 4
        (show Synced _ sampleSession (sampleRelay [some (.ok [0x85, 0, 0])]).peer true from
          sampleSession_synced)).2.1 [] ⟨.echo, [1, 2]⟩ [⟨.echo, [3]⟩] (.ok [0x85, 0, 0]) [] _
        (by simp only [Accepted, List.nil_append, List.forall_mem_cons]; exact ⟨rfl, by simp⟩)
        rfl rfl rfl (by
          rintro genuine hlast ⟨⟩
          revert hlast
          decide +kernel) (by decide +kernel) (by
          -- three bytes cannot hold a tag
          rintro bytes ⟨⟩ content tag mac hsplit htag
          have hlen := congrArg List.length hsplit
          simp only [List.length_append, htag, macLength, List.length_cons, List.length_nil] at hlen
          omega)
    exact ⟨error, _, _, hrun⟩

/-- **Two limits of a session.**  After a successful `CloseSession` an accepted command is not
answered by the device any more, and after `2 ^ 128` commands the counter repeats. -/
theorem secureSession_limits :
    (validateCommand 2 4 ⟨.closeSession, []⟩ = .ok () ∧ validateCommand 2 4 ⟨.echo, [1]⟩ = .ok () ∧
      (runCommands plainChannelCore (Relay.connector plainChannelCore echoDevice 2 4) sampleSession
        (sampleRelay [none, none]) [⟨.closeSession, []⟩, ⟨.echo, [1]⟩]).2.2 =
          [.ok [], .error .sessionClosed]) ∧
    (∃ commands, Accepted 2 4 commands ∧ ∃ counter,
      (usedCounters plainChannelCore (Relay.connector plainChannelCore echoDevice 2 4)
        sampleSession (sampleRelay (List.replicate commands.length none)) commands)[0]? =
          some counter ∧
      (usedCounters plainChannelCore (Relay.connector plainChannelCore echoDevice 2 4)
        sampleSession (sampleRelay (List.replicate commands.length none)) commands)[2 ^ 128]? =
          some counter) := by
  have hclosed : Accepted 2 4 [⟨.closeSession, []⟩, ⟨.echo, [1]⟩] := by
    simp only [Accepted, List.forall_mem_cons]
    exact ⟨rfl, rfl, by simp⟩
  refine ⟨⟨rfl, rfl, ?_⟩, ?_⟩
  · obtain ⟨host, relay, hrun, -⟩ :=
      run_genuine plainChannelCore_lawful echoDevice_followsProtocol 2 4
        (show Synced _ sampleSession (sampleRelay [none, none]).peer true from
          sampleSession_synced) _ hclosed
        (show (sampleRelay [none, none]).deliveries = List.replicate 2 none ++ [] from rfl)
    rfl
  obtain ⟨commands, hcommands, hlong⟩ : ∃ commands : List Command,
      (∀ command ∈ commands, command = ⟨.echo, []⟩) ∧ 2 ^ 128 < commands.length :=
    ⟨List.replicate (2 ^ 128 + 1) ⟨.echo, []⟩, fun _ h => List.eq_of_mem_replicate h,
      by rw [List.length_replicate]; exact Nat.lt_succ_self _⟩
  have haccepted : Accepted 2 4 commands := by
    intro command hmem
    rw [hcommands command hmem]
    rfl
  refine ⟨commands, haccepted, ?_⟩
  apply usedCounters_repeat plainChannelCore_lawful echoDevice_followsProtocol 2 4
    (show Synced _ sampleSession (sampleRelay (List.replicate commands.length none)).peer true from
      sampleSession_synced) commands haccepted _ rfl hlong
  intro command hmem
  rw [hcommands command hmem]
  decide

end Pkcs11rs.Analysis
