import Mathlib.Logic.Function.Basic
import Pkcs11rs.Library.Calls
import Pkcs11rs.Model.Apdu

/-!
# The applet connectors of a card reader

Every applet of a reader has a connector of its own (`PcscAppletConnector`, `connector.rs:690-1553`).
The connectors share the connector of the reader below them and the record of the applet that is
selected there, with its secure channel (`SecureChannelState`, `connector.rs:175-262`).

`CcidReader` is that shared state together with the state of every applet connector.  The connector
below (`BaseConnector`) is arbitrary: what it answers, and whether it has replaced the card in the
meantime, depends on a state of its own.  `sent` is a history of what the applet connectors have handed
to it; nothing reads it.  The handshakes of SCP03 and SCP11 are one step of the connector below.

A lock that is poisoned is not modelled.
-/

set_option autoImplicit false

namespace Pkcs11rs.Model

open Pkcs11rs.Library

inductive SecureChannelProtocol where
  | scp03
  | scp11a
  | scp11b
  | scp11c
  deriving DecidableEq

inductive CcidLoginState where
  | public_
  | user
  | so
  deriving DecidableEq

/-- How a command goes over the transport: `iso7816::transmit`, `transmit_short` or
`transmit_oath`. -/
inductive ApduForm where
  | normal
  | short
  | oath
  deriving DecidableEq

/-- The administration commands of the issuer security domain. -/
inductive SecurityDomainCommand where
  | putScp03KeySet (newKvn replaceKvn : UInt8) (enc mac dek : Bytes)
  | deleteScp03KeySet (kvn : UInt8) (deleteLast : Bool)
  | scp11Administration (operation : Bytes)
  deriving DecidableEq

/-- The connector below the applet connectors, over a state `β`.  `σ` is `Scp03Session` and `κ` is
`CardCredential`. -/
structure BaseConnector (β σ κ : Type) where
  connectionEpoch : β → UInt64
  isPresent : β → Bool
  stableAppletTopology : Bool
  refresh : β → Outcome Rv β Unit
  selectApplication : Bytes → β → Outcome Rv β Unit
  /-- The handshake for the applet that is selected: the session and the description of the
  credential. -/
  authenticate : SecureChannelProtocol → Option κ → Bytes → β → Outcome Rv β (σ × Option String)
  sendApdu : ApduForm → CommandApdu → β → Outcome Rv β ResponseApdu
  /-- `Connector::transmit`. -/
  transmit : Bytes → β → Outcome Rv β Bytes
  /-- `Scp03Session::transmit`, `transmit_short` and `transmit_oath`. -/
  sendSecured : ApduForm → CommandApdu → σ → β → Outcome Rv (σ × β) ResponseApdu
  /-- The length of `Scp03Session::static_dek`. -/
  staticDekLength : σ → Except Rv ℕ
  prepareScp11Administration : Bytes → σ → Except Rv Unit
  /-- The commands of `SecurityDomainClient`, which go through the session. -/
  administer : SecurityDomainCommand → σ → β → Outcome Rv (σ × β) Bytes

/-- `Scp03Session`, with the applet and the connection it was made for.  The source does not keep
these two. -/
structure AppletSession (σ : Type) where
  state : σ
  applet : Bytes
  connection : UInt64
  deriving DecidableEq

structure SelectedApplet (σ : Type) where
  applicationAid : Bytes
  session : Option (AppletSession σ)
  protocol : Option SecureChannelProtocol
  credentialDescription : Option String
  login : CcidLoginState
  deriving DecidableEq

/-- `PcscAppletConnector` with its `PcscAppletState`. -/
structure AppletConnector (κ : Type) where
  applicationAid : Bytes
  protocol : Option SecureChannelProtocol
  /-- `SecureChannelConfiguration::recreate_sessions`. -/
  recreateSessions : Bool
  /-- `SecureChannelConfiguration::client_uri`. -/
  clientUri : Option Bytes
  enabled : Bool
  channelStarted : Bool
  /-- `AppletAuthentication::protocol`. -/
  authenticationProtocol : Option SecureChannelProtocol
  /-- `AppletAuthentication::credential`. -/
  credential : Option κ
  appletPresent : Bool
  discoveryError : Option Rv
  deriving DecidableEq

/-- What an applet connector hands to the connector below. -/
inductive AppletFrame (σ : Type) where
  | select (aid : Bytes)
  | handshake (aid : Bytes) (protocol : SecureChannelProtocol)
  | plain (form : ApduForm) (command : CommandApdu)
  | raw (command : Bytes)
  | secured (session : AppletSession σ) (form : ApduForm) (command : CommandApdu)
  | administration (session : AppletSession σ) (command : SecurityDomainCommand)
  deriving DecidableEq

/-- An entry of the history: which connector, on which connection, with which applet recorded as
selected. -/
structure SentFrame (ι σ : Type) where
  connector : ι
  frame : AppletFrame σ
  epoch : UInt64
  selected : Option Bytes
  deriving DecidableEq

/-- `PcscReaderState` with the connector below and the applet connectors of the reader. -/
structure CcidReader (ι β σ κ : Type) where
  base : β
  /-- `SecureChannelState::selected_applet`. -/
  selected : Option (SelectedApplet σ)
  /-- `SecureChannelState::connection_epoch`. -/
  connectionEpoch : UInt64
  applets : ι → AppletConnector κ
  /-- The history, the newest entry first. -/
  sent : List (SentFrame ι σ)

def secureChannelLoginFailure (error : Rv) : Rv :=
  if error ∈ [.signatureInvalid, .signatureLenRange] then .deviceError
  else if error ∈ [.keyHandleInvalid, .objectHandleInvalid, .keyTypeInconsistent,
      .keyFunctionNotPermitted, .publicKeyInvalid, .templateIncomplete, .templateInconsistent,
      .mechanismInvalid, .mechanismParamInvalid, .argumentsBad, .pinIncorrect, .pinLocked,
      .userPinNotInitialized, .userNotLoggedIn, .functionNotSupported] then .functionFailed
  else error

namespace AppletConnector

variable {κ : Type}

def activeProtocol (applet : AppletConnector κ) : Option SecureChannelProtocol :=
  applet.authenticationProtocol.or applet.protocol

def sourceCredential (applet : AppletConnector κ) : Except Rv (Option κ) :=
  if applet.authenticationProtocol.isSome ∧ applet.credential.isNone then
    .error .userNotLoggedIn
  else .ok applet.credential

def newConfigured (applicationAid : Bytes) (protocol : Option SecureChannelProtocol)
    (recreateSessions : Bool) (clientUri : Option Bytes) (present : Bool) : AppletConnector κ :=
  { applicationAid, protocol, recreateSessions, clientUri, enabled := false,
    channelStarted := false, authenticationProtocol := none, credential := none,
    appletPresent := present, discoveryError := none }

end AppletConnector

namespace CcidReader

variable {ι β σ κ : Type} [DecidableEq ι]

/-! ### The record of the selected applet -/

variable (r : CcidReader ι β σ κ)

def clearSelection : CcidReader ι β σ κ := { r with selected := none }

def select (aid : Bytes) : CcidReader ι β σ κ :=
  { r with selected := some { applicationAid := aid, session := none, protocol := none,
                              credentialDescription := none, login := .public_ } }

/-- Change the record of the selected applet. -/
def updateSelected (f : SelectedApplet σ → SelectedApplet σ) : CcidReader ι β σ κ :=
  { r with selected := r.selected.map f }
variable (i : ι)

/-- Change an applet connector. -/
def updateApplet (f : AppletConnector κ → AppletConnector κ) : CcidReader ι β σ κ :=
  { r with applets := Function.update r.applets i (f (r.applets i)) }

/-- The connector disables its channel and drops its credential. -/
def disable : CcidReader ι β σ κ :=
  r.updateApplet i fun applet => { applet with enabled := false, credential := none }

/-- The applet of the connector is recorded as selected. -/
def Ours : Prop :=
  r.selected.map SelectedApplet.applicationAid = some (r.applets i).applicationAid

instance (r : CcidReader ι β σ κ) (i : ι) : Decidable (r.Ours i) :=
  inferInstanceAs (Decidable (_ = _))

def clearSecureChannelLocked : CcidReader ι β σ κ :=
  let r := r.updateApplet i fun applet => { applet with enabled := false }
  if r.Ours i then
    r.updateSelected fun selected =>
      { selected with session := none, protocol := none, credentialDescription := none,
                      login := .public_ }
  else r

section Device

variable (device : BaseConnector β σ κ)

/-- `SecureChannelState::synchronize_connection` with the epoch of the connector below. -/
def synchronizeConnection (r : CcidReader ι β σ κ) : CcidReader ι β σ κ :=
  if r.connectionEpoch = device.connectionEpoch r.base then r
  else { r.clearSelection with connectionEpoch := device.connectionEpoch r.base }

/-- The connector hands a frame to the connector below. -/
def record (r : CcidReader ι β σ κ) (i : ι) (frame : AppletFrame σ) : CcidReader ι β σ κ :=
  { r with sent := { connector := i, frame, epoch := device.connectionEpoch r.base,
                     selected := r.selected.map SelectedApplet.applicationAid } :: r.sent }

/-- The connector below does something with a frame. -/
def exchange {α : Type} (r : CcidReader ι β σ κ) (i : ι) (frame : AppletFrame σ)
    (act : β → Outcome Rv β α) : Outcome Rv (CcidReader ι β σ κ) α :=
  let (result, base) := act r.base
  (result, { r.record device i frame with base })

/-- The session takes part in what the connector below does with a frame. -/
def exchangeSecured {α : Type} (r : CcidReader ι β σ κ) (i : ι) (session : AppletSession σ)
    (frame : AppletFrame σ) (act : σ → β → Outcome Rv (σ × β) α) :
    Outcome Rv (CcidReader ι β σ κ) α :=
  let (result, state, base) := act session.state r.base
  (result, { r.record device i frame with base }.updateSelected fun selected =>
    { selected with session := some { session with state } })

/-! ### The gate before every operation -/

/-- The first part of `ensure_selected_locked`: the applet is selected. -/
def ensureApplet (r : CcidReader ι β σ κ) (i : ι) : Outcome Rv (CcidReader ι β σ κ) Unit :=
  let aid := (r.applets i).applicationAid
  let r := r.synchronizeConnection device
  if r.Ours i then (.ok (), r)
  else
    Outcome.andThen
      (r.clearSelection.exchange device i (.select aid) (device.selectApplication aid))
      fun _ r =>
        -- the first APDU may have replaced the card
        (.ok (), (r.synchronizeConnection device).select aid)

/-- The end of `ensure_selected_locked`: a channel is made. -/
def establish (r : CcidReader ι β σ κ) (i : ι) (protocol : SecureChannelProtocol)
    (source : Option κ) : Outcome Rv (CcidReader ι β σ κ) Unit :=
  let aid := (r.applets i).applicationAid
  match r.exchange device i (.handshake aid protocol) (device.authenticate protocol source aid) with
  | (.error error, r) => (.error error, r.clearSelection.disable i)
  | (.ok (state, description), r) =>
    let r := r.updateSelected fun selected =>
      { selected with
        session := some { state, applet := aid, connection := r.connectionEpoch }
        protocol := some protocol
        credentialDescription := description }
    (.ok (), r.updateApplet i fun applet => { applet with channelStarted := true })

/-- The second part of `ensure_selected_locked`: the channel is there if there has to be one. -/
def ensureChannel (r : CcidReader ι β σ κ) (i : ι) : Outcome Rv (CcidReader ι β σ κ) Unit :=
  match r.selected with
  | none => (.error .deviceError, r)
  | some selected =>
    let applet := r.applets i
    let dynamicMissing := applet.authenticationProtocol.isSome && applet.credential.isNone
    if dynamicMissing ∧ selected.session.isNone then (.error .userNotLoggedIn, r)
    else if applet.channelStarted ∧ ¬ applet.enabled then (.error .userNotLoggedIn, r)
    else if applet.activeProtocol.isNone ∨ ¬ applet.enabled ∨ selected.session.isSome then
      (.ok (), r)
    else if applet.channelStarted ∧ ¬ applet.recreateSessions then (.error .userNotLoggedIn, r)
    else
      match applet.sourceCredential, applet.activeProtocol with
      | .error error, _ => (.error error, r)
      | .ok _, none => (.error .argumentsBad, r)
      | .ok source, some protocol => r.establish device i protocol source

def ensureSelectedLocked (r : CcidReader ι β σ κ) (i : ι) : Outcome Rv (CcidReader ι β σ κ) Unit :=
  (r.ensureApplet device i).andThen fun _ r => r.ensureChannel device i

/-- The connector sends commands as they are. -/
def SendsPlain : Prop :=
  (r.applets i).activeProtocol = none ∨ (r.applets i).enabled = false

instance (r : CcidReader ι β σ κ) (i : ι) : Decidable (r.SendsPlain i) :=
  inferInstanceAs (Decidable (_ ∨ _))

def selectedSession : Except Rv (AppletSession σ) :=
  match r.selected with
  | none => .error .deviceError
  | some selected => selected.session.elim (.error .userNotLoggedIn) .ok

/-! ### Sending -/

/-- A command as it is; an error takes the selection away. -/
def sendPlain {α : Type} (r : CcidReader ι β σ κ) (i : ι) (frame : AppletFrame σ)
    (act : β → Outcome Rv β α) : Outcome Rv (CcidReader ι β σ κ) α :=
  match r.exchange device i frame act with
  | (.error error, r) => (.error error, r.clearSelection)
  | (.ok response, r) => (.ok response, r)

/-- A command through the channel; an error takes the selection, the channel and the credential
away. -/
def sendSecured (r : CcidReader ι β σ κ) (i : ι) (form : ApduForm) (command : CommandApdu) :
    Outcome Rv (CcidReader ι β σ κ) ResponseApdu :=
  match r.selectedSession with
  | .error error => (.error error, r)
  | .ok session =>
    match r.exchangeSecured device i session (.secured session form command)
        (device.sendSecured form command) with
    | (.error error, r) => (.error error, r.clearSelection.disable i)
    | (.ok response, r) => (.ok response, r)

/-- `send_apdu_locked`, `send_short_apdu_locked` and `send_oath_apdu`. -/
def sendApdu (r : CcidReader ι β σ κ) (i : ι) (form : ApduForm) (command : CommandApdu) :
    Outcome Rv (CcidReader ι β σ κ) ResponseApdu :=
  (r.ensureSelectedLocked device i).andThen fun _ r =>
    if r.SendsPlain i then r.sendPlain device i (.plain form command) (device.sendApdu form command)
    else r.sendSecured device i form command

def transmit (r : CcidReader ι β σ κ) (i : ι) (sendBuffer : Bytes) (receiveLength : ℕ) :
    Outcome Rv (CcidReader ι β σ κ) Bytes :=
  (r.ensureSelectedLocked device i).andThen fun _ r =>
    if r.SendsPlain i then r.sendPlain device i (.raw sendBuffer) (device.transmit sendBuffer)
    else
      match CommandApdu.decode sendBuffer with
      | .error error => (.error error, r)
      | .ok command =>
        (r.sendApdu device i .normal command).andThen fun response r =>
          if response.encode.length > receiveLength then (.error .deviceError, r)
          else (.ok response.encode, r)

/-- The three administration calls: their checks differ, and what a success leaves is the same in
the part of the state that is modelled. -/
def securityDomainCall (r : CcidReader ι β σ κ) (i : ι) (check : σ → Except Rv Unit)
    (command : SecurityDomainCommand) : Outcome Rv (CcidReader ι β σ κ) Bytes :=
  (r.ensureSelectedLocked device i).andThen fun _ r =>
    if ¬ (r.applets i).enabled then (.error .userNotLoggedIn, r)
    else
      match r.selectedSession with
      | .error error => (.error error, r)
      | .ok session =>
        match check session.state with
        | .error error => (.error error, r)
        | .ok _ =>
          match r.exchangeSecured device i session (.administration session command)
              (device.administer command) with
          | (.error error, r) => (.error error, r.clearSelection)
          | (.ok response, r) => (.ok response, r)

def securityDomainPutScp03KeySet (r : CcidReader ι β σ κ) (i : ι) (newKvn replaceKvn : UInt8)
    (enc mac dek : Bytes) : Outcome Rv (CcidReader ι β σ κ) Bytes :=
  let check := fun state => do
    let length ← device.staticDekLength state
    if length ≠ 16 then .error .keySizeRange else .ok ()
  r.securityDomainCall device i check (.putScp03KeySet newKvn replaceKvn enc mac dek)

def securityDomainDeleteScp03KeySet (r : CcidReader ι β σ κ) (i : ι) (kvn : UInt8)
    (deleteLast : Bool) : Outcome Rv (CcidReader ι β σ κ) Bytes :=
  r.securityDomainCall device i (fun _ => .ok ()) (.deleteScp03KeySet kvn deleteLast)

def securityDomainScp11Administration (r : CcidReader ι β σ κ) (i : ι) (operation : Bytes) :
    Outcome Rv (CcidReader ι β σ κ) Bytes :=
  r.securityDomainCall device i (device.prepareScp11Administration operation)
    (.scp11Administration operation)

/-! ### The other calls -/

/-- What `refresh` makes of a reader that is there. -/
def refreshPresent (r : CcidReader ι β σ κ) (i : ι) : Outcome Rv (CcidReader ι β σ κ) Unit :=
  let aid := (r.applets i).applicationAid
  let r := r.synchronizeConnection device
  if device.stableAppletTopology then
    (.ok (), r.updateApplet i fun applet =>
      { applet with appletPresent := true, discoveryError := none })
  else if r.selected.any fun selected => selected.login != .public_ then
    (.ok (), r.updateApplet i fun applet => { applet with discoveryError := none })
  else
    match r.clearSelection.exchange device i (.select aid) (device.selectApplication aid) with
    | (.ok (), r) =>
      (.ok (), (r.select aid).updateApplet i fun applet =>
        { applet with appletPresent := true, discoveryError := none })
    | (.error error, r) =>
      (.error error, r.updateApplet i fun applet =>
        { applet with appletPresent := false, discoveryError := some error })

def refresh (r : CcidReader ι β σ κ) (i : ι) : Outcome Rv (CcidReader ι β σ κ) Unit :=
  let (result, base) := device.refresh r.base
  let r := { r with base }
  match result with
  | .error error =>
    (.error error, ((r.updateApplet i fun applet =>
      { applet with appletPresent := false, discoveryError := some error }).disable i).clearSelection)
  | .ok () =>
    if device.isPresent base then r.refreshPresent device i
    else
      (.ok (), ((r.updateApplet i fun applet =>
        { applet with appletPresent := false,
                      discoveryError := some .deviceRemoved }).disable i).clearSelection)

/-- `prepare_secure_channel_login`.  `resolved` is what `ccid_auth::resolve` makes of a username that
is not empty. -/
def prepareSecureChannelLogin (username : Bytes) (resolved : Except Rv (SecureChannelProtocol × κ)) :
    Outcome Rv (CcidReader ι β σ κ) Unit :=
  let username := if username = [] then ((r.applets i).clientUri.getD username) else username
  match (if username = [] then .ok none else resolved.map some) with
  | .error error => (.error error, r)
  | .ok selected =>
    (.ok (), (r.clearSecureChannelLocked i).updateApplet i fun applet =>
      { applet with authenticationProtocol := selected.map Prod.fst
                    credential := selected.map Prod.snd
                    channelStarted := false })

def clearSecureChannel : CcidReader ι β σ κ :=
  (r.updateApplet i fun applet =>
    { applet with credential := none, channelStarted := false }).clearSecureChannelLocked i

def clearSecureChannelForLogin : CcidReader ι β σ κ :=
  (r.clearSecureChannelLocked i).updateApplet i fun applet => { applet with channelStarted := false }

def finishSecureChannelLogin (success : Bool) : CcidReader ι β σ κ :=
  if ¬ success then r.clearSecureChannel i
  else if ¬ (r.applets i).recreateSessions then
    r.updateApplet i fun applet => { applet with credential := none }
  else r

def reconcileLostAppletLogin : CcidReader ι β σ κ :=
  if ¬ (r.applets i).recreateSessions then
    -- `channel_started` stays
    (r.updateApplet i fun applet => { applet with credential := none }).clearSecureChannelLocked i
  else r

def establishSecureChannel (r : CcidReader ι β σ κ) (i : ι) (aid : Bytes) :
    Outcome Rv (CcidReader ι β σ κ) Unit :=
  if aid ≠ (r.applets i).applicationAid then (.error .argumentsBad, r)
  else
    match (r.updateApplet i fun applet =>
        { applet with enabled := true }).ensureSelectedLocked device i with
    | (.error error, r) =>
      (.error (secureChannelLoginFailure error), r.updateApplet i fun applet =>
        { applet with enabled := false })
    | (.ok (), r) => (.ok (), r)

def setCcidLoginState (r : CcidReader ι β σ κ) (i : ι) (login : CcidLoginState) :
    Outcome Rv (CcidReader ι β σ κ) Unit :=
  if login = .public_ then
    let r := r.synchronizeConnection device
    (.ok (), if r.Ours i then r.updateSelected fun selected => { selected with login } else r)
  else
    (r.ensureSelectedLocked device i).andThen fun _ r =>
      match r.selected with
      | none => (.error .deviceError, r)
      | some _ => (.ok (), r.updateSelected fun selected => { selected with login })

def secureChannelProtocol (r : CcidReader ι β σ κ) (i : ι) :
    Option SecureChannelProtocol × CcidReader ι β σ κ :=
  let r := r.synchronizeConnection device
  ((r.selected.filter fun selected =>
    device.isPresent r.base && decide (r.Ours i) && selected.session.isSome).bind
      SelectedApplet.protocol, r)

def authenticatedCredentialDescription (r : CcidReader ι β σ κ) (i : ι) :
    Outcome Rv (CcidReader ι β σ κ) String :=
  let r := r.synchronizeConnection device
  match r.selected.filter fun selected =>
      device.isPresent r.base && decide (r.Ours i) && selected.session.isSome &&
        selected.login != .public_ with
  | none => (.error .userNotLoggedIn, r)
  | some selected =>
    match selected.credentialDescription with
    | none => (.error .functionNotSupported, r)
    | some description => (.ok description, r)

def ccidLoginState (r : CcidReader ι β σ κ) (i : ι) : CcidLoginState × CcidReader ι β σ κ :=
  let r := r.synchronizeConnection device
  (if r.Ours i then (r.selected.map SelectedApplet.login).getD .public_ else .public_, r)

end Device

end CcidReader

/-! ### Runs -/

/-- What happens at a reader. -/
inductive ReaderEvent (ι β κ : Type) where
  | sendApdu (i : ι) (form : ApduForm) (command : CommandApdu)
  | transmit (i : ι) (sendBuffer : Bytes) (receiveLength : ℕ)
  | securityDomainPutScp03KeySet (i : ι) (newKvn replaceKvn : UInt8) (enc mac dek : Bytes)
  | securityDomainDeleteScp03KeySet (i : ι) (kvn : UInt8) (deleteLast : Bool)
  | securityDomainScp11Administration (i : ι) (operation : Bytes)
  | refresh (i : ι)
  | prepareSecureChannelLogin (i : ι) (username : Bytes)
      (resolved : Except Rv (SecureChannelProtocol × κ))
  | finishSecureChannelLogin (i : ι) (success : Bool)
  | reconcileLostAppletLogin (i : ι)
  | clearSecureChannel (i : ι)
  | clearSecureChannelForLogin (i : ι)
  | establishSecureChannel (i : ι) (aid : Bytes)
  | setCcidLoginState (i : ι) (login : CcidLoginState)
  | secureChannelProtocol (i : ι)
  | authenticatedCredentialDescription (i : ι)
  | ccidLoginState (i : ι)
  /-- Discovery selects an applet and records it (`context.rs:2371-2398`). -/
  | setSelectedApplication (aid : Bytes)
  /-- The connector below changes: another call on it, a card that comes or goes. -/
  | baseChanges (base : β)

namespace CcidReader

variable {ι β σ κ : Type} [DecidableEq ι] (device : BaseConnector β σ κ)

/-- Whether the event returns without an error, and the reader after it. -/
def step (r : CcidReader ι β σ κ) : ReaderEvent ι β κ → Outcome Rv (CcidReader ι β σ κ) Unit
  | .sendApdu i form command => (r.sendApdu device i form command).andThen fun _ r => (.ok (), r)
  | .transmit i sendBuffer receiveLength =>
    (r.transmit device i sendBuffer receiveLength).andThen fun _ r => (.ok (), r)
  | .securityDomainPutScp03KeySet i newKvn replaceKvn enc mac dek =>
    (r.securityDomainPutScp03KeySet device i newKvn replaceKvn enc mac dek).andThen
      fun _ r => (.ok (), r)
  | .securityDomainDeleteScp03KeySet i kvn deleteLast =>
    (r.securityDomainDeleteScp03KeySet device i kvn deleteLast).andThen fun _ r => (.ok (), r)
  | .securityDomainScp11Administration i operation =>
    (r.securityDomainScp11Administration device i operation).andThen fun _ r => (.ok (), r)
  | .refresh i => r.refresh device i
  | .prepareSecureChannelLogin i username resolved =>
    r.prepareSecureChannelLogin i username resolved
  | .finishSecureChannelLogin i success => (.ok (), r.finishSecureChannelLogin i success)
  | .reconcileLostAppletLogin i => (.ok (), r.reconcileLostAppletLogin i)
  | .clearSecureChannel i => (.ok (), r.clearSecureChannel i)
  | .clearSecureChannelForLogin i => (.ok (), r.clearSecureChannelForLogin i)
  | .establishSecureChannel i aid => r.establishSecureChannel device i aid
  | .setCcidLoginState i login => r.setCcidLoginState device i login
  | .secureChannelProtocol i => (.ok (), (r.secureChannelProtocol device i).2)
  | .authenticatedCredentialDescription i =>
    (r.authenticatedCredentialDescription device i).andThen fun _ r => (.ok (), r)
  | .ccidLoginState i => (.ok (), (r.ccidLoginState device i).2)
  | .setSelectedApplication aid =>
    match device.selectApplication aid r.base with
    | (.error error, base) => (.error error, { r with base })
    | (.ok (), base) => (.ok (), { r with base }.select aid)
  | .baseChanges base => (.ok (), { r with base })

def after (r : CcidReader ι β σ κ) (events : List (ReaderEvent ι β κ)) : CcidReader ι β σ κ :=
  events.foldl (fun r event => (r.step device event).2) r

end CcidReader

/-- The event is an explicit end of the channel of the connector. -/
def ReaderEvent.Clears {ι β κ : Type} (i : ι) : ReaderEvent ι β κ → Prop
  | .prepareSecureChannelLogin j _ _ => j = i
  | .clearSecureChannel j => j = i
  | .clearSecureChannelForLogin j => j = i
  -- a login that has failed clears the channel
  | .finishSecureChannelLogin j success => j = i ∧ success = false
  | _ => False

end Pkcs11rs.Model
