import Pkcs11rs.Analysis.SecureSession

/-!
# The size of a command on the wire

`validate_command` decides from the length of the data whether a command is sent.  What `send_command`
then hands to the connector has exactly the length that the check computed, and the two length fields in
it, of the sealed message and of the command inside, read back the lengths they were written from.  A
command that fails the check leaves the session and the connector as they were.
-/

set_option autoImplicit false

namespace Pkcs11rs.Analysis

open Pkcs11rs.Library Pkcs11rs.Model Frame CommandCode

section

variable {ε : Type} (connector : Connector ε)

/-- The connector with a record of the requests. -/
def recordedConnector : Connector (ε × List Bytes) where
  major := connector.major
  minor := connector.minor
  send s request :=
    let (transport, reply) := connector.send s.1 request
    ((transport, s.2 ++ [request]), reply)

/-- A request of the computed length, within the limit of the device, whose length fields hold the lengths
they stand for. -/
structure ExactRequest (command : Command) (request : Bytes) : Prop where
  length_eq : request.length = secureMessageLength command.data.length
  length_le : request.length ≤ maximumCommandSize connector.major connector.minor
  outer : ∃ frame, Frame.parse request = .ok frame ∧
    frame.command = CommandCode.sessionMessage.toByte ∧ request.length = 3 + frame.data.length
  inner : ∃ frame, Frame.new command.code.toByte command.data = .ok frame ∧
    Frame.parse frame.encode = .ok frame ∧ frame.encode.length = 3 + command.data.length

variable {connector} {core : ChannelCore} {session : SecureSession} {command : Command}

/-- A valid session with its keys sends an accepted command in one exact request. -/
theorem sendCommand_request (hcore : core.Lawful) {keys : LocalKeys}
    (hkeys : session.keys = some keys) (hvalid : session.valid = true)
    (hcheck : validateCommand connector.major connector.minor command = .ok ())
    (transport : ε) :
    ∃ request, (sendCommand core (recordedConnector connector) session (transport, [])
        command).2.1.2 = [request] ∧
      ExactRequest connector command request := by
  obtain ⟨iv, ciphertext, frame, hframe, -, hseal, hsealed⟩ :=
    sealCommand_spec hcore hkeys (validateCommand_length hcheck)
  have hdata := (new_eq_ok hframe).2
  have hle := hsealed.length_le session.sid
  obtain ⟨mac, hmac⟩ := hcore.aesCmac keys.mac (session.macChainingValue.val ++
    requestHeaderAndData sessionMessage.toByte (session.sid :: ciphertext))
  have htag := length_tag mac
  have hcommandMac : session.keys.commandMac core (session.macChainingValue.val ++
      requestHeaderAndData sessionMessage.toByte (session.sid :: ciphertext)) =
        .ok mac := by
    simp only [SessionKeys.commandMac, hkeys, sessionKeys_material, bind, Except.bind, hmac]
  refine ⟨tagged sessionMessage.toByte (session.sid :: ciphertext) mac, ?_, ?_⟩
  · have hcheck' : validateCommand (recordedConnector connector).major
        (recordedConnector connector).minor command = .ok () := hcheck
    rw [sendCommand_eq hvalid hcheck' hseal hle hcommandMac rfl]
    rfl
  · have hrequest : (tagged sessionMessage.toByte (session.sid :: ciphertext)
        mac).length = secureMessageLength command.data.length := by
      rw [tagged, List.length_append, length_requestHeaderAndData, htag, ← hdata, ← hsealed.size,
        List.length_cons, macLength]
      omega
    constructor
    case length_eq => exact hrequest
    case length_le =>
      obtain ⟨-, hcheck⟩ := guard_eq_ok.mp hcheck
      obtain ⟨hle, -⟩ := guard_eq_ok.mp hcheck
      exact hrequest.le.trans (Nat.le_of_not_lt hle)
    case outer =>
      have hframe := authenticated_eq_encode sessionMessage.toByte
        (session.sid :: ciphertext) _ htag (by rw [List.length_append, htag]; exact hle)
      rw [tagged, hframe]
      exact ⟨_, parse_eq_ok_iff.mpr rfl, rfl, length_encode _⟩
    grind [new_of_le, parse_eq_ok_iff, length_encode]

/-- Nothing goes out without a valid session and its keys. -/
theorem sendCommand_silent (h : session.valid = false ∨ session.keys = none) (transport : ε) :
    (sendCommand core (recordedConnector connector) session (transport, []) command).2.1 =
      (transport, []) := by
  unfold sendCommand
  split
  · rfl
  · split
    · rfl
    · -- without keys there is no initialization vector
      have hkeys : session.keys = none := h.resolve_left (by simp_all)
      have hseal : ∃ error, sealCommand core { session with valid := false } command =
          .error error := by
        simp only [sealCommand, SessionKeys.iv, hkeys, SessionKeys.material]
        cases new command.code.toByte command.data with
        | error error => exact ⟨error, rfl⟩
        | ok frame => exact ⟨_, rfl⟩
      obtain ⟨error, hseal⟩ := hseal
      simp only [sendCommandInner, hseal]

/-- **Command size.**  Every request that `send_command` transmits for an accepted command has exactly the
computed length, within the limit of the device and with no length cut off; there is one such request when
the session can send.  A rejected command transmits nothing and leaves the session as it was. -/
theorem command_size_exact (hcore : core.Lawful) (connector : Connector ε)
    (session : SecureSession) (command : Command) (transport : ε) :
    let after := sendCommand core (recordedConnector connector) session (transport, []) command
    (validateCommand connector.major connector.minor command = .ok () →
      (∀ request ∈ after.2.1.2, ExactRequest connector command request) ∧
      (session.valid = true → session.keys ≠ none → after.2.1.2.length = 1)) ∧
    ∀ error, validateCommand connector.major connector.minor command = .error error →
      after.1 = session ∧ after.2.1 = (transport, []) := by
  intro after
  refine ⟨fun hcheck => ?_, fun error hcheck => ?_⟩
  · by_cases hable : session.valid = true ∧ session.keys ≠ none
    · obtain ⟨hvalid, hkeys⟩ := hable
      obtain ⟨keys, hkeys⟩ := Option.ne_none_iff_exists'.mp hkeys
      obtain ⟨request, hlog, hexact⟩ :=
        sendCommand_request hcore hkeys hvalid hcheck transport
      have hlog' : after.2.1.2 = [request] := hlog
      rw [hlog']
      exact ⟨fun x hx => List.mem_singleton.mp hx ▸ hexact, fun _ _ => rfl⟩
    · have hsilent : after.2.1 = (transport, []) := by
        apply sendCommand_silent
        rw [not_and_or, not_not, Bool.not_eq_true] at hable
        exact hable
      rw [hsilent]
      exact ⟨by simp, fun hvalid hkeys => absurd ⟨hvalid, hkeys⟩ hable⟩
  · have hcheck' : validateCommand (recordedConnector connector).major
        (recordedConnector connector).minor command = .error error := hcheck
    simp only [after, sendCommand, hcheck']
    split <;> exact ⟨rfl, rfl⟩

end

/-- A connector that fails after it has taken the request. -/
def brokenConnector : Connector Unit where
  major := 2
  minor := 4
  send _ _ := ((), .error .deviceError)

/-- A command of two bytes takes 28 on the wire. -/
theorem command_size_exact_echo :
    plainChannelCore.Lawful ∧ ∃ request, (sendCommand plainChannelCore
        (recordedConnector brokenConnector) sampleSession ((), []) ⟨.echo, [1, 2]⟩).2.1.2 =
          [request] ∧
      ExactRequest brokenConnector ⟨.echo, [1, 2]⟩ request ∧ request.length = 28 := by
  obtain ⟨hexact, hone⟩ := (command_size_exact plainChannelCore_lawful brokenConnector
    sampleSession ⟨.echo, [1, 2]⟩ ()).1 rfl
  obtain ⟨request, hlog⟩ := List.length_eq_one_iff.mp (hone rfl (by simp [sampleSession]))
  have hrequest := hexact request (by rw [hlog]; simp)
  exact ⟨plainChannelCore_lawful, request, hlog, hrequest, hrequest.length_eq⟩

end Pkcs11rs.Analysis
