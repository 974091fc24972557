import Pkcs11rs.Analysis.SecureSession
import Pkcs11rs.Library.AssocMap
import Pkcs11rs.Model.SessionRecreation

/-!
# How often a command is executed

A device with any number of open sessions behind a network that does what it likes: it sees every
request, hands any frames to the device, in any order and as often as it likes, and answers the
host with any bytes.  A session is set up, on the host and on the device, by any exchange of frames
that are no session messages (`SessionSetup`).

A call of `send_yubihsm_secure_command` transmits its command once, or twice if the network denies
the session (`Denies`) in answer to the first copy and the session can be recreated.  The frame of
an invalid session carries no MAC, so the network can put it in place of the answer of a device that
has executed the command.  `resend_at_most_once_iff` says that a command is executed at most once,
whatever the network does with the requests, exactly if the session is not recreated or the first
answer is no denial; and that it is executed at most once if the network relays the denial of a
device that has closed the session.
-/

set_option autoImplicit false

namespace Pkcs11rs.Analysis

open Pkcs11rs.Library Pkcs11rs.Model

/-! ## The device -/

/-- The device side of all sessions. -/
structure HsmDevice (σ : Type) where
  /-- The open sessions, by session id. -/
  sessions : List (UInt8 × SecureSession)
  state : σ
  /-- The frames whose commands were executed, in order. -/
  executed : List Bytes

/-- How the device sets sessions up: the sessions and the answer after a frame that is no session
message. -/
abbrev Handshake (σ : Type) :=
  HsmDevice σ → Bytes → List (UInt8 × SecureSession) × Except Rv Bytes

/-- The frame that says that a session is not open. -/
def invalidSessionFrame : Bytes := [0x7f, 0x00, 0x01, 0x03]

/-- The frame belongs to an open session. -/
def isSessionMessage (frame : Bytes) : Bool :=
  frame.head? = some CommandCode.sessionMessage.toByte

/-- The command that the peer finds in a frame and hands to its handler. -/
def acceptedRequest (core : ChannelCore) (session : SecureSession) (frame : Bytes) :
    Option Frame :=
  match peerRequest core session frame CommandCode.sessionMessage.toByte with
  | (session, .ok payload) =>
    if sealedPayloadOk session.sid payload then
      (openRequest core session payload).toOption.map (·.2)
    else none
  | (_, .error _) => none

section Device

variable {σ : Type} (core : ChannelCore) (handler : Handler σ) (handshake : Handshake σ)

/-- The device takes a frame. -/
def HsmDevice.receive (device : HsmDevice σ) (frame : Bytes) : HsmDevice σ × Except Rv Bytes :=
  if isSessionMessage frame then
    -- the session id follows the header
    match (frame.drop 3).head?.bind (mapGet device.sessions) with
    | none => (device, .ok invalidSessionFrame)
    | some session =>
      let result := peerExchange core handler session device.state frame
      ({ sessions := mapInsert device.sessions session.sid result.1
         state := result.2.1
         executed :=
          if (acceptedRequest core session frame).isSome then device.executed ++ [frame]
          else device.executed },
        result.2.2)
  else ({ device with sessions := (handshake device frame).1 }, (handshake device frame).2)

/-- The device takes frames one after the other. -/
def HsmDevice.receiveAll : HsmDevice σ → List Bytes → HsmDevice σ × List (Except Rv Bytes)
  | device, [] => (device, [])
  | device, frame :: frames =>
    let first := device.receive core handler handshake frame
    let rest := HsmDevice.receiveAll first.1 frames
    (rest.1, first.2 :: rest.2)

end Device

/-! ## The network -/

/-- What the network does with one request. -/
structure NetworkTurn where
  /-- The frames it hands to the device. -/
  deliver : Bytes → List Bytes
  /-- What it answers, from the request and the answers of the device. -/
  answer : Bytes → List (Except Rv Bytes) → Except Rv Bytes

/-- The network hands the request to the device and the answer to the host. -/
def relayingTurn : NetworkTurn :=
  ⟨fun request => [request], fun _ answers => answers.headD (.error .deviceError)⟩

/-- The device behind the network. -/
structure Network (σ : Type) where
  device : HsmDevice σ
  turns : List NetworkTurn
  /-- The frames that the host has transmitted. -/
  sent : List Bytes

/-- A request of the host; without a turn of the network it is lost. -/
def Network.send {σ : Type} (core : ChannelCore) (handler : Handler σ) (handshake : Handshake σ)
    (network : Network σ) (request : Bytes) : Network σ × Except Rv Bytes :=
  match network.turns with
  | [] => ({ network with sent := network.sent ++ [request] }, .error .deviceError)
  | turn :: turns =>
    let received := network.device.receiveAll core handler handshake (turn.deliver request)
    ({ device := received.1, turns := turns, sent := network.sent ++ [request] },
      turn.answer request received.2)

def Network.connector {σ : Type} (core : ChannelCore) (handler : Handler σ)
    (handshake : Handshake σ) (major minor : UInt8) : Connector (Network σ) :=
  ⟨major, minor, Network.send core handler handshake⟩

/-- The host and the device set a session up: `ClientAuth::authenticate` sends frames that are no
session messages. -/
structure SessionSetup (α σ : Type) (core : ChannelCore) (handler : Handler σ) where
  handshake : Handshake σ
  authenticate : Authenticate α (Network σ)
  sends : ∀ recipe network, ∃ frames : List Bytes,
    (∀ frame ∈ frames, isSessionMessage frame = false) ∧
    (authenticate recipe network).1 =
      frames.foldl (fun network frame => (network.send core handler handshake frame).1) network

/-- The answer makes the host take its session for closed. -/
def Denies (core : ChannelCore) (major minor : UInt8) (session : SecureSession) (command : Command)
    (answer : Except Rv Bytes) : Prop :=
  (sendCommand core (⟨major, minor, fun _ _ => ((), answer)⟩ : Connector Unit) session ()
    command).2.2 = .error .sessionClosed

instance (core : ChannelCore) (major minor : UInt8) (session : SecureSession) (command : Command)
    (answer : Except Rv Bytes) : Decidable (Denies core major minor session command answer) :=
  inferInstanceAs (Decidable (_ = _))

/-! ## What one request does -/

section Requests

variable {σ : Type} {core : ChannelCore} {handler : Handler σ} {handshake : Handshake σ}
  {session : SecureSession} {command : Command} {major minor : UInt8} {network : Network σ}
  {request frame : Bytes}

/-- Every request is recorded. -/
theorem Network.send_sent : (network.send core handler handshake request).1.sent =
    network.sent ++ [request] := by
  unfold Network.send
  split <;> rfl

/-- `send_command` uses the transport at most once. -/
theorem sendCommand_transport {ε : Type} (connector : Connector ε) (session : SecureSession)
    (transport : ε) (command : Command) :
    (sendCommand core connector session transport command).2.1 = transport ∨
      ∃ request, (sendCommand core connector session transport command).2.1 =
        (connector.send transport request).1 := by
  have hauthenticated : ∀ (session : SecureSession) (code : UInt8) (data : Bytes),
      (sendAuthenticated core connector session transport code data true).2.1 = transport ∨
        ∃ request, (sendAuthenticated core connector session transport code data true).2.1 =
          (connector.send transport request).1 := by grind [sendAuthenticated]
  have hinner : (sendCommandInner core connector session transport command).2.1 = transport ∨
      ∃ request, (sendCommandInner core connector session transport command).2.1 =
        (connector.send transport request).1 := by grind [sendCommandInner]
  unfold sendCommand
  split
  · exact .inl rfl
  · split
    · exact .inl rfl
    · exact hinner

/-- What `send_command` returns depends on the answer only. -/
theorem sendCommand_result {ε ε' : Type} {connector : Connector ε} {connector' : Connector ε'}
    {transport : ε} {transport' : ε'} (hmajor : connector.major = connector'.major)
    (hminor : connector.minor = connector'.minor)
    (hsend : ∀ request, (connector.send transport request).2 =
      (connector'.send transport' request).2) :
    (sendCommand core connector session transport command).2.2 =
      (sendCommand core connector' session transport' command).2.2 := by
  have hauthenticated : ∀ (session : SecureSession) (code : UInt8) (data : Bytes),
      (sendAuthenticated core connector session transport code data true).1 =
          (sendAuthenticated core connector' session transport' code data true).1 ∧
        (sendAuthenticated core connector session transport code data true).2.2 =
          (sendAuthenticated core connector' session transport' code data true).2.2 := by
    intro session code data
    unfold sendAuthenticated
    split_ifs
    · exact ⟨rfl, rfl⟩
    · dsimp only
      split
      · exact ⟨rfl, rfl⟩
      · rw [hsend]
        exact ⟨rfl, rfl⟩
  have hinner : (sendCommandInner core connector session transport command).2.2 =
      (sendCommandInner core connector' session transport' command).2.2 := by
    unfold sendCommandInner
    dsimp only
    split
    · rfl
    · rename_i iv outerData hseal
      obtain ⟨hsession, hresult⟩ := hauthenticated { session with valid := false }
        CommandCode.sessionMessage.toByte outerData
      grind
  unfold sendCommand
  rw [hmajor, hminor]
  split
  · rfl
  · split
    · rfl
    · exact hinner

/-- The frame of a command: a message of its session, which the other side of the session takes. -/
theorem request_accepted {keys : LocalKeys} (hcore : core.Lawful)
    (hkeys : session.keys = some keys) (hvalid : session.valid = true)
    (hcheck : validateCommand major minor command = .ok ()) :
    ∃ request, isSessionMessage request = true ∧ (request.drop 3).head? = some session.sid ∧
      (acceptedRequest core session request).isSome = true ∧
      ∀ {ε : Type} (connector : Connector ε) (transport : ε), connector.major = major →
        connector.minor = minor → (sendCommand core connector session transport command).2.1 =
          (connector.send transport request).1 := by
  obtain ⟨iv, ciphertext, frame, -, hiv, hseal, hsealed⟩ :=
    sealCommand_spec hcore hkeys (validateCommand_length hcheck)
  have hlength := hsealed.length_le session.sid
  obtain ⟨mac, hmac⟩ := hcore.aesCmac keys.mac (session.macChainingValue.val ++
    requestHeaderAndData CommandCode.sessionMessage.toByte (session.sid :: ciphertext))
  refine ⟨tagged CommandCode.sessionMessage.toByte (session.sid :: ciphertext) mac, ?_, ?_, ?_, ?_⟩
  · simp [isSessionMessage, requestHeaderAndData]
  · have hheader : (requestHeaderAndData CommandCode.sessionMessage.toByte
        (session.sid :: ciphertext)).drop 3 = session.sid :: ciphertext := by
      simp [requestHeaderAndData, length_beBytes]
    rw [tagged, List.drop_append_of_le_length (by rw [length_requestHeaderAndData]; omega), hheader]
    rfl
  · have hrequest := peerRequest_genuine hkeys hvalid hlength hmac
    set opened : SecureSession := { session with macChainingValue := mac }
    have hopen : openRequest core opened (session.sid :: ciphertext) = .ok (iv, frame) :=
      openRequest_genuine hcore hkeys hiv session.sid hsealed
    have hpayload : sealedPayloadOk opened.sid (session.sid :: ciphertext) = true :=
      sealedPayloadOk_cons hsealed.whole hsealed.least
    simp [acceptedRequest, hrequest, hpayload, hopen, Except.toOption]
  · rintro ε connector transport rfl rfl
    have hcommand : session.keys.commandMac core (session.macChainingValue.val ++
        requestHeaderAndData CommandCode.sessionMessage.toByte (session.sid :: ciphertext)) =
        .ok mac := by
      rw [hkeys]
      exact hmac
    rw [sendCommand_eq hvalid hcheck hseal hlength hcommand rfl]

/-- A frame that the other side of its session takes is executed. -/
theorem receive_accepted {device : HsmDevice σ} {sid : UInt8} (hmessage : isSessionMessage frame = true)
    (hsid : (frame.drop 3).head? = some sid) (hopen : mapGet device.sessions sid = some session)
    (haccepted : (acceptedRequest core session frame).isSome = true) :
    (device.receive core handler handshake frame).1.executed = device.executed ++ [frame] := by
  simp only [HsmDevice.receive, hmessage, if_true, hsid, Option.bind_some, hopen, haccepted]

/-- A frame of a session that is not open is refused. -/
theorem receive_refused {device : HsmDevice σ} {sid : UInt8} (hmessage : isSessionMessage frame = true)
    (hsid : (frame.drop 3).head? = some sid) (hclosed : mapGet device.sessions sid = none) :
    (device.receive core handler handshake frame).1 = device := by
  simp only [HsmDevice.receive, hmessage, if_true, hsid, Option.bind_some, hclosed]

/-- A frame is executed once if it is received once, and only if it is a session message. -/
theorem receive_executed (device : HsmDevice σ) (frame : Bytes) :
    (device.receive core handler handshake frame).1.executed.length ≤ device.executed.length + 1 ∧
      (isSessionMessage frame = false →
        (device.receive core handler handshake frame).1.executed = device.executed) := by
  unfold HsmDevice.receive
  constructor
  · grind
  · intro hmessage
    simp [hmessage]

/-- A network that relays what it still handles. -/
def Network.Relays (network : Network σ) : Prop := ∀ turn ∈ network.turns, turn = relayingTurn

/-- A network that relays hands the request to the device, or loses it. -/
theorem Network.Relays.send (h : network.Relays) :
    (network.send core handler handshake request).1.Relays ∧
      ((network.send core handler handshake request).1.device = network.device ∨
        (network.send core handler handshake request).1.device =
          (network.device.receive core handler handshake request).1) := by
  unfold Network.send
  cases hturns : network.turns with
  | nil => exact ⟨fun turn hmem => absurd hmem List.not_mem_nil, .inl rfl⟩
  | cons turn turns =>
    have hrelay : turn = relayingTurn := h turn (by rw [hturns]; exact List.mem_cons_self)
    subst hrelay
    refine ⟨fun turn hmem => h turn ?_, .inr rfl⟩
    rw [hturns]
    exact List.mem_cons_of_mem _ hmem

/-- Setting a session up over a network that relays executes nothing. -/
theorem Network.Relays.setup (h : network.Relays) {frames : List Bytes}
    (hframes : ∀ frame ∈ frames, isSessionMessage frame = false) :
    (frames.foldl (fun network frame => (network.send core handler handshake frame).1)
        network).Relays ∧
      (frames.foldl (fun network frame => (network.send core handler handshake frame).1)
        network).device.executed = network.device.executed := by
  induction frames generalizing network with
  | nil => exact ⟨h, rfl⟩
  | cons frame frames ih =>
    obtain ⟨hrelays, hdevice⟩ := @Network.Relays.send σ core handler handshake network frame h
    obtain ⟨hrelays', hrest⟩ := ih hrelays fun frame hmem =>
      hframes frame (List.mem_cons_of_mem _ hmem)
    refine ⟨hrelays', hrest.trans ?_⟩
    rcases hdevice with hsame | hreceived
    · rw [hsame]
    · rw [hreceived]
      exact (receive_executed network.device frame).2 (hframes frame List.mem_cons_self)

/-- A command over a network that relays is executed once at most. -/
theorem Network.Relays.sendCommand (h : network.Relays) (session : SecureSession)
    (command : Command) :
    (sendCommand core (Network.connector core handler handshake major minor) session network
        command).2.1.device.executed.length ≤ network.device.executed.length + 1 := by
  rcases sendCommand_transport (Network.connector core handler handshake major minor) session
    network command with hsame | ⟨request, hsent⟩
  · rw [hsame]
    exact Nat.le_succ _
  · rw [hsent]
    rcases (@Network.Relays.send σ core handler handshake network request h).2 with
      hlost | hreceived
    · exact (congrArg (·.executed.length) hlost).le.trans (Nat.le_succ _)
    · exact (congrArg (·.executed.length) hreceived).le.trans
        (receive_executed network.device request).1

end Requests

/-! ## The copies of a command -/

/-- How often the device has executed one of the frames. -/
def executions {σ : Type} (device : HsmDevice σ) (copies : List Bytes) : ℕ :=
  (device.executed.filter fun frame => frame ∈ copies).length

/-- The device has executed the session messages of the host once at most, also after later frames,
if it has taken no frame twice. -/
def ExecutedOnce {σ : Type} (core : ChannelCore) (handler : Handler σ) (handshake : Handshake σ)
    (network : Network σ) (later : List Bytes) : Prop :=
  let device := (network.device.receiveAll core handler handshake later).1
  device.executed.Nodup → executions device (network.sent.filter isSessionMessage) ≤ 1

/-- One copy is executed once at most, if no frame is taken twice. -/
theorem executions_le_one {σ : Type} {device : HsmDevice σ} {copies : List Bytes}
    (hreplay : device.executed.Nodup) (hlen : copies.length ≤ 1) : executions device copies ≤ 1 := by
  have hnodup : (device.executed.filter fun frame => frame ∈ copies).Nodup := hreplay.filter _
  have hsub : (device.executed.filter fun frame => frame ∈ copies) ⊆ copies := fun frame hframe =>
    of_decide_eq_true (List.mem_filter.mp hframe).2
  exact (hnodup.subperm hsub).length_le.trans hlen

/-- The device and the network at the beginning of a call; the network answers the first request
with the given answer. -/
def callNetwork {σ : Type} (sessions : List (UInt8 × SecureSession)) (state : σ)
    (deliver : Bytes → List Bytes) (answer : Except Rv Bytes) (turns : List NetworkTurn) :
    Network σ where
  device := ⟨sessions, state, []⟩
  turns := ⟨deliver, fun _ _ => answer⟩ :: turns
  sent := []

section Copies

variable {α σ : Type} {core : ChannelCore} {handler : Handler σ} {major minor : UInt8}
  {session : SecureSession} {command : Command} {sessions : List (UInt8 × SecureSession)}
  {answer : Except Rv Bytes} {reauthentication : Option α}

/-- The network after the first attempt and, if the session has expired, the second one. -/
abbrev afterCall (setup : SessionSetup α σ core handler) (major minor : UInt8)
    (reauthentication : Option α) (session : SecureSession) (network : Network σ)
    (command : Command) : Network σ :=
  (sendOrRecreate core (Network.connector core handler setup.handshake major minor)
    setup.authenticate reauthentication session network command).2.1

/-- The network decides how the first attempt ends. -/
theorem sendCommand_callNetwork (handshake : Handshake σ) (state : σ)
    (deliver : Bytes → List Bytes) (turns : List NetworkTurn) :
    (sendCommand core (Network.connector core handler handshake major minor) session
      (callNetwork sessions state deliver answer turns) command).2.2 = .error .sessionClosed ↔
      Denies core major minor session command answer := by
  have hsame := @sendCommand_result core session command _ Unit
    (Network.connector core handler handshake major minor) ⟨major, minor, fun _ _ => ((), answer)⟩
    (callNetwork sessions state deliver answer turns) () rfl rfl fun _ => rfl
  rw [Denies, hsame]

/-- Without a second attempt one frame is transmitted. -/
theorem length_sent_le_one (setup : SessionSetup α σ core handler) (state : σ)
    (deliver : Bytes → List Bytes) (turns : List NetworkTurn)
    (h : reauthentication = none ∨ ¬ Denies core major minor session command answer) :
    (afterCall setup major minor reauthentication session
      (callNetwork sessions state deliver answer turns) command).sent.length ≤ 1 := by
  have hfirst : (sendCommand core (Network.connector core handler setup.handshake major minor)
      session (callNetwork sessions state deliver answer turns) command).2.1.sent.length ≤ 1 := by
    rcases sendCommand_transport (Network.connector core handler setup.handshake major minor)
      session (callNetwork sessions state deliver answer turns) command with hsame | ⟨request, hsent⟩
    · rw [hsame]
      exact Nat.zero_le 1
    · rw [hsent]
      exact (congrArg List.length Network.send_sent).le
  rw [← @sendCommand_callNetwork σ core handler major minor session command sessions answer
    setup.handshake state deliver turns] at h
  unfold afterCall sendOrRecreate
  split
  · rename_i session' network' hsend
    rw [hsend] at hfirst h
    rcases h with rfl | h
    · exact hfirst
    · exact absurd rfl h
  · exact hfirst

/-- The session with the next id, and everything else as before. -/
def renewed (session : SecureSession) : SecureSession := { session with sid := session.sid + 1 }

/-- The device opens the renewed session. -/
def renewingHandshake (σ : Type) (session : SecureSession) : Handshake σ := fun _ _ =>
  ([((renewed session).sid, renewed session)], .ok [])

/-- The session is renewed with one frame. -/
def renewingSetup (α : Type) (core : ChannelCore) (handler : Handler σ) (session : SecureSession) :
    SessionSetup α σ core handler where
  handshake := renewingHandshake σ session
  authenticate := fun _ network =>
    ((network.send core handler (renewingHandshake σ session) []).1, .ok (renewed session))
  sends := fun _ _ => ⟨[[]], by simp [isSessionMessage], rfl⟩

/-- After a denial the command is sent over the renewed session. -/
theorem afterCall_renewingSetup {network : Network σ} {first second : Bytes} (recipe : α)
    (hdenied : (sendCommand core (Network.connector core handler (renewingHandshake σ session) major
      minor) session network command).2.2 = .error .sessionClosed)
    (hfirst : (sendCommand core (Network.connector core handler (renewingHandshake σ session) major
      minor) session network command).2.1 =
        (network.send core handler (renewingHandshake σ session) first).1)
    (hsecond : ∀ network, (sendCommand core (Network.connector core handler
      (renewingHandshake σ session) major minor) (renewed session) network command).2.1 =
        (network.send core handler (renewingHandshake σ session) second).1) :
    afterCall (renewingSetup α core handler session) major minor (some recipe) session network command =
      (((network.send core handler (renewingHandshake σ session) first).1.send core handler
        (renewingHandshake σ session) []).1.send core handler (renewingHandshake σ session) second).1 := by
  unfold afterCall sendOrRecreate renewingSetup
  rcases hsend : sendCommand core (Network.connector core handler (renewingHandshake σ session) major
    minor) session network command with ⟨session', network', result⟩
  rw [hsend] at hdenied hfirst
  obtain rfl : result = .error .sessionClosed := hdenied
  obtain rfl : network' = (network.send core handler (renewingHandshake σ session) first).1 := hfirst
  exact hsecond _

/-- A denial and a session that is set up anew: the device can execute both copies. -/
theorem exists_two_executions {keys : LocalKeys} (hcore : core.Lawful)
    (hkeys : session.keys = some keys) (hvalid : session.valid = true)
    (hcheck : validateCommand major minor command = .ok ())
    (hsync : mapGet sessions session.sid = some session) (state : σ) (recipe : α)
    (hdenies : Denies core major minor session command answer) :
    ∃ setup : SessionSetup α σ core handler, ∃ deliver turns,
      ¬ ExecutedOnce core handler setup.handshake (afterCall setup major minor (some recipe) session
        (callNetwork sessions state deliver answer turns) command) [] := by
  obtain ⟨first, hmessage, hsid, haccepted, hfirst⟩ := request_accepted hcore hkeys hvalid hcheck
  have hkeys' : (renewed session).keys = some keys := hkeys
  have hvalid' : (renewed session).valid = true := hvalid
  obtain ⟨second, hmessage', hsid', haccepted', hsecond⟩ :=
    request_accepted hcore hkeys' hvalid' hcheck
  refine ⟨renewingSetup α core handler session, fun request => [request],
    [relayingTurn, relayingTurn], ?_⟩
  set network := callNetwork sessions state (fun request => [request]) answer
    [relayingTurn, relayingTurn]
  set after := afterCall (renewingSetup α core handler session) major minor (some recipe) session
    network command with hafter
  have hcall := afterCall_renewingSetup recipe (sendCommand_callNetwork _ state _ _ |>.mpr hdenies)
    (hfirst (Network.connector core handler _ major minor) network rfl rfl)
    (fun network => hsecond (Network.connector core handler _ major minor) network rfl rfl)
  have hexecuted : after.device.executed = [first, second] := by
    have hone := @receive_accepted σ core handler (renewingHandshake σ session) session first
      network.device session.sid hmessage hsid hsync haccepted
    have hnew : mapGet [((renewed session).sid, renewed session)] (renewed session).sid =
        some (renewed session) := by simp [mapGet]
    rw [hafter, hcall]
    refine (@receive_accepted σ core handler (renewingHandshake σ session) (renewed session) second _
      (renewed session).sid hmessage' hsid' hnew haccepted').trans ?_
    exact congrArg (· ++ [second]) hone
  have hcopies : after.sent.filter isSessionMessage = [first, second] := by
    rw [hafter, hcall]
    simp only [Network.send_sent]
    have hempty : isSessionMessage [] = false := rfl
    simp [callNetwork, hmessage, hmessage', hempty]
  have hne : first ≠ second := by
    rintro rfl
    rw [hsid] at hsid'
    simp [renewed] at hsid'
  intro honce
  rw [ExecutedOnce, hcopies] at honce
  have hnodup : after.device.executed.Nodup := by
    rw [hexecuted]
    simpa using hne
  have htwo : executions after.device [first, second] = 2 := by
    simp [executions, hexecuted]
  exact absurd (htwo.symm.le.trans (honce hnodup)) (by decide)

/-- A device that has closed the session executes the command once at most, if the network relays. -/
theorem executed_once_of_relays {keys : LocalKeys} (hcore : core.Lawful)
    (hkeys : session.keys = some keys) (hvalid : session.valid = true)
    (hcheck : validateCommand major minor command = .ok ())
    (setup : SessionSetup α σ core handler) {network : Network σ} (hrelays : network.Relays)
    (hclosed : mapGet network.device.sessions session.sid = none) :
    (afterCall setup major minor reauthentication session network command).device.executed.length ≤
      network.device.executed.length + 1 := by
  obtain ⟨first, hmessage, hsid, -, hsent⟩ := request_accepted hcore hkeys hvalid hcheck
  have hfirst := hsent (Network.connector core handler setup.handshake major minor) network rfl rfl
  obtain ⟨hrelays', hdevice⟩ := @Network.Relays.send σ core handler setup.handshake network first hrelays
  have hrefused : (network.send core handler setup.handshake first).1.device = network.device :=
    hdevice.elim id fun hreceived =>
      hreceived.trans (receive_refused hmessage hsid hclosed)
  unfold afterCall sendOrRecreate
  rcases hsend : sendCommand core (Network.connector core handler setup.handshake major minor)
    session network command with ⟨session', network', result⟩
  rw [hsend] at hfirst
  obtain rfl : network' = (network.send core handler setup.handshake first).1 := hfirst
  have hone : (network.send core handler setup.handshake first).1.device.executed.length ≤
      network.device.executed.length + 1 := by
    rw [hrefused]
    exact Nat.le_succ _
  split
  · rename_i session'' network'' hclosedResult
    obtain ⟨-, rfl, -⟩ := Prod.mk.injEq .. ▸ hclosedResult
    cases reauthentication with
    | none => exact hone
    | some recipe =>
      obtain ⟨frames, hframes, hauthenticate⟩ := setup.sends recipe
        (network.send core handler setup.handshake first).1
      obtain ⟨hrelays'', hexecuted⟩ :=
        @Network.Relays.setup σ core handler setup.handshake _ hrelays' frames hframes
      rw [← hauthenticate] at hrelays'' hexecuted
      rw [hrefused] at hexecuted
      dsimp only
      split
      · rename_i network₂ replacement heq
        rw [heq] at hrelays'' hexecuted
        have hsecond := @Network.Relays.sendCommand σ core handler setup.handshake major minor
          network₂ hrelays'' replacement command
        rwa [hexecuted] at hsecond
      · rename_i network₂ error heq
        rw [heq] at hexecuted
        exact (congrArg List.length hexecuted).le.trans (Nat.le_succ _)
  · exact hone

/-- **When a command is executed at most once.**  Of a device with which the session is open, and
for every answer of the network to the first copy: whatever else the network does, during the call
and after it, and however sessions are set up, the command is executed at most once exactly if the
session is not recreated or the answer is no denial.  Of a device that has closed the session, and
over a network that relays, the command is executed at most once. -/
theorem resend_at_most_once_iff {keys : LocalKeys} (hcore : core.Lawful)
    (hkeys : session.keys = some keys) (hvalid : session.valid = true)
    (hcheck : validateCommand major minor command = .ok ()) (state : σ) (role : YubiHsmSessionRole)
    (nativeSessionObjects : Bool) (reauthentication : Option α)
    (credentialDescription : Option String) :
    let after := fun (setup : SessionSetup α σ core handler) (network : Network σ) =>
      (sendSecureCommand core (Network.connector core handler setup.handshake major minor)
        setup.authenticate (.active session role nativeSessionObjects reauthentication
          credentialDescription) network command).2.1
    (∀ sessions answer, mapGet sessions session.sid = some session →
      ((∀ setup deliver turns later, ExecutedOnce core handler setup.handshake
          (after setup (callNetwork sessions state deliver answer turns)) later) ↔
        reauthentication = none ∨ ¬ Denies core major minor session command answer)) ∧
    ∀ setup sessions turns, mapGet sessions session.sid = none →
      (∀ turn ∈ turns, turn = relayingTurn) →
      (after setup ⟨⟨sessions, state, []⟩, turns, []⟩).device.executed.length ≤ 1 := by
  intro after
  have hafter : ∀ (setup : SessionSetup α σ core handler) (network : Network σ),
      after setup network = afterCall setup major minor reauthentication session network command := by
    intro setup network
    have hcheck' : validateCommand (Network.connector core handler setup.handshake major minor).major
        (Network.connector core handler setup.handshake major minor).minor command = .ok () := hcheck
    simp only [after, sendSecureCommand, hcheck']
  refine ⟨fun sessions answer hsync => ⟨fun honce => ?_, fun h setup deliver turns later => ?_⟩,
    fun setup sessions turns hclosed hrelays => ?_⟩
  · by_contra hnot
    rw [not_or, not_not] at hnot
    obtain ⟨recipe, rfl⟩ := Option.ne_none_iff_exists'.mp hnot.1
    obtain ⟨setup, deliver, turns, htwice⟩ := @exists_two_executions α σ core handler major minor
      session command sessions answer keys hcore hkeys hvalid hcheck hsync state recipe hnot.2
    have hcall := honce setup deliver turns []
    rw [hafter] at hcall
    exact htwice hcall
  · rw [hafter]
    intro hreplay
    refine executions_le_one hreplay ((List.length_filter_le _ _).trans ?_)
    exact length_sent_le_one setup state deliver turns h
  · rw [hafter]
    exact executed_once_of_relays hcore hkeys hvalid hcheck setup hrelays hclosed

end Copies

/-! ## Instances -/

/-- A device that counts the commands it executes. -/
def countingHandler : Handler ℕ := fun n command data => (n + 1, .ok (command ||| responseBit, data))

/-- The session that is authenticated anew. -/
def recreatedSession : SecureSession :=
  { sampleSession with sid := 4, macChainingValue := ⟨List.replicate 16 7, rfl⟩ }

/-- The device opens session 4. -/
def sampleHandshake : Handshake ℕ := fun device _ =>
  (mapInsert device.sessions 4 recreatedSession, .ok [0x83, 0, 0])

/-- The host asks for a session with one frame. -/
def sampleSetup : SessionSetup Unit ℕ plainChannelCore countingHandler where
  handshake := sampleHandshake
  authenticate := fun _ network =>
    let created := network.send plainChannelCore countingHandler sampleHandshake [0x03, 0, 0]
    (created.1, created.2.map fun _ => recreatedSession)
  sends := fun _ network => ⟨[[0x03, 0, 0]], by simp [isSessionMessage]; decide, rfl⟩

/-- The call of a user whose session can be recreated. -/
def sampleCall (network : Network ℕ) : YubiHsmSessionState Unit × Network ℕ × Except Rv Bytes :=
  sendSecureCommand plainChannelCore
    (Network.connector plainChannelCore countingHandler sampleHandshake 2 4)
    sampleSetup.authenticate (.active sampleSession .user false (some ()) none) network
    ⟨.echo, [1, 2]⟩

/-- The network hands the request to the device and denies the session, and one call makes the
device execute its command twice. -/
theorem resend_executes_twice :
    let result := sampleCall (callNetwork [(3, sampleSession)] 0 (fun request => [request])
      (.ok invalidSessionFrame) [relayingTurn, relayingTurn])
    result.2.2 = .ok [1, 2] ∧ result.2.1.device.state = 2 ∧
      result.2.1.device.executed = result.2.1.sent.filter isSessionMessage ∧
      result.2.1.device.executed.length = 2 ∧ result.2.1.device.executed.Nodup := by
  decide +kernel

/-- The network hands the request to the device and drops the answer; and a session that the
device has closed is recreated over a network that relays. -/
theorem resend_at_most_once_lost :
    let lost := sampleCall (callNetwork [(3, sampleSession)] 0 (fun request => [request])
      (.error .deviceError) [relayingTurn, relayingTurn])
    let expired := sampleCall ⟨⟨[], 0, []⟩, [relayingTurn, relayingTurn, relayingTurn], []⟩
    lost.2.1.device.executed.length = 1 ∧
      executions lost.2.1.device (lost.2.1.sent.filter isSessionMessage) ≤ 1 ∧
      expired.2.2 = .ok [1, 2] ∧ expired.2.1.sent.length = 3 ∧
      expired.2.1.device.executed.length ≤ 1 := by
  intro lost expired
  obtain ⟨hanswers, hrelays⟩ := @resend_at_most_once_iff Unit ℕ plainChannelCore countingHandler 2 4
    sampleSession ⟨.echo, [1, 2]⟩ _ plainChannelCore_lawful rfl rfl rfl 0 .user false (some ()) none
  have honce := (hanswers [(3, sampleSession)] (.error .deviceError) rfl).mpr
    (.inr (by decide +kernel)) sampleSetup (fun request => [request]) [relayingTurn, relayingTurn] []
  refine ⟨by decide +kernel, honce (by decide +kernel), by decide +kernel, by decide +kernel, ?_⟩
  refine hrelays sampleSetup [] [relayingTurn, relayingTurn, relayingTurn] rfl ?_
  simp

end Pkcs11rs.Analysis
