import Pkcs11rs.Model.SecureSession

/-!
# Commands over a recreated session

`send_yubihsm_secure_command` (`backend/yubihsm.rs:239-306`, `backend/yubihsm.rs:3239-3331`): the
state of a slot's session, and the command that is sent again over a new session after the device
has said that the session is invalid.

The credential of a session (`ClientAuth`) is any type; how it authenticates is a parameter.
-/

set_option autoImplicit false

namespace Pkcs11rs.Model

open Pkcs11rs.Library

inductive YubiHsmSessionRole where
  | user
  | publicDiscovery
  deriving DecidableEq, Repr

inductive YubiHsmSessionState (α : Type) where
  | loggedOut
  | invalidatedUser
  | active (session : SecureSession) (role : YubiHsmSessionRole) (nativeSessionObjects : Bool)
      (reauthentication : Option α) (credentialDescription : Option String)

/-- `ClientAuth::authenticate` over a transport state. -/
abbrev Authenticate (α ε : Type) := α → ε → ε × Except Rv SecureSession

/-- The state after the command, by whether its session is still valid. -/
def YubiHsmSessionState.after {α : Type} (session : SecureSession) (role : YubiHsmSessionRole)
    (nativeSessionObjects : Bool) (reauthentication : Option α)
    (credentialDescription : Option String) : YubiHsmSessionState α :=
  if session.valid then
    .active session role nativeSessionObjects reauthentication credentialDescription
  else
    match role with
    | .user => .invalidatedUser
    | .publicDiscovery => .loggedOut

section

variable {α ε : Type} (core : ChannelCore) (connector : Connector ε)

/-- The first attempt and, if the session has expired, the second one. -/
def sendOrRecreate (authenticate : Authenticate α ε) (reauthentication : Option α)
    (session : SecureSession) (transport : ε) (command : Command) :
    SecureSession × ε × Except Rv Bytes :=
  match sendCommand core connector session transport command with
  | (session, transport, .error .sessionClosed) =>
    match reauthentication with
    | none => (session, transport, .error .sessionClosed)
    | some recipe =>
      match authenticate recipe transport with
      | (transport, .ok replacement) =>
        sendCommand core connector replacement transport command
      | (transport, .error error) => (session, transport, .error error)
  | result => result

def sendSecureCommand (authenticate : Authenticate α ε) (state : YubiHsmSessionState α)
    (transport : ε) (command : Command) :
    YubiHsmSessionState α × ε × Except Rv Bytes :=
  match state with
  | .active session role nativeSessionObjects reauthentication credentialDescription =>
    match validateCommand connector.major connector.minor command with
    | .error error => (state, transport, .error error)
    | .ok () =>
      let (session, transport, result) :=
        sendOrRecreate core connector authenticate reauthentication session transport command
      (.after session role nativeSessionObjects reauthentication credentialDescription,
        transport, result)
  | inactive => (inactive, transport, .error .userNotLoggedIn)

end

end Pkcs11rs.Model
