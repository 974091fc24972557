import Pkcs11rs.Model.Scp03Session

/-!
# A card with SCP03

The other side of an SCP03 session, after the specification: the card takes an APDU, joins the segments
of a command chain, verifies the MAC of the whole command over the header, the length field and the data
as it has received them, counts the command, decrypts it and gives it to the application.  The response
is protected and handed out in parts, for which the host asks with `GET RESPONSE`.

What the application does and answers, how a response is cut into parts, and which commands are refused
with `6Cxx` before secure messaging, is arbitrary (`CardBehaviour`).  `received` is a history of the
commands that the application has got, with the MAC input and the initialization vector that the card has
used.
-/

set_option autoImplicit false

namespace Pkcs11rs.Model

open Pkcs11rs.Library

/-- What a card does besides secure messaging, over a state `α` of its application. -/
structure CardBehaviour (α : Type) where
  /-- A command that is refused with `6Cxx` before anything is done with it. -/
  wrongLength : α → CommandApdu → Option UInt8
  run : α → CommandApdu → ResponseApdu × α
  /-- The parts of a response. -/
  parts : Bytes → List Bytes
  flatten_parts : ∀ data, (parts data).flatten = data

/-- A command that the application has got. -/
structure ReceivedCommand where
  cla : UInt8
  ins : UInt8
  p1 : UInt8
  p2 : UInt8
  data : Bytes
  /-- The input of the command MAC, if there was one. -/
  macInput : Option Bytes
  /-- The initialization vector, if the data were encrypted. -/
  iv : Option AesBlock
  deriving DecidableEq

structure Scp03Card (κ α : Type) where
  sEnc : κ
  sMac : κ
  sRmac : κ
  securityLevel : UInt8
  macChainingValue : AesBlock
  encryptionCounter : ℕ
  /-- The session has not been ended by a command that could not be verified. -/
  isOpen : Bool
  /-- The command chain so far. -/
  chain : Option CommandApdu
  /-- The parts of the response that have not been fetched, and its status. -/
  pending : List Bytes × UInt16
  application : α
  received : List ReceivedCommand

namespace Scp03Card

variable {κ α : Type}

/-- The length field in the form that the command came in. -/
def lengthField (extended : Bool) (length : ℕ) : Bytes :=
  if length = 0 then []
  else if extended then 0 :: beBytes 2 length
  else [UInt8.ofNat length]

/-- The MAC input for a command whose data end with the MAC. -/
def macInput (card : Scp03Card κ α) (command : CommandApdu) : Bytes :=
  card.macChainingValue.val ++ [command.cla, command.ins, command.p1, command.p2] ++
    lengthField command.extended command.data.length ++
    command.data.take (command.data.length - macLength)

/-- The card hands out the next part of a response. -/
def reply (card : Scp03Card κ α) (parts : List Bytes) (status : UInt16) :
    ResponseApdu × Scp03Card κ α :=
  match parts with
  | [] => (⟨[], status⟩, { card with pending := ([], status) })
  | [part] => (⟨part, status⟩, { card with pending := ([], status) })
  | part :: next :: rest =>
    (⟨part, 0x6100 ||| UInt16.ofNat (if next.length < 256 then next.length else 0)⟩,
      { card with pending := (next :: rest, status) })

section Core

variable (core : Scp03Core κ) (card : Scp03Card κ α)

/-- The data of a command are encrypted. -/
def Decrypts (body : Bytes) : Prop :=
  card.securityLevel &&& securityCEncryption ≠ 0 ∧ body ≠ []

instance (card : Scp03Card κ α) (body : Bytes) : Decidable (card.Decrypts body) :=
  inferInstanceAs (Decidable (_ ∧ _))

/-- The data of a command in clear. -/
def decryptCommand (iv : AesBlock) (body : Bytes) : Option Bytes :=
  if card.Decrypts body then
    (core.aesCbc card.sEnc iv body false).toOption.bind fun clear => (core.unpad clear).toOption
  else some body

/-- The card verifies and decrypts a command; `none` ends the session. -/
def unwrap (command : CommandApdu) : Option (CommandApdu × ReceivedCommand × Scp03Card κ α) :=
  let counted := { card with encryptionCounter := card.encryptionCounter + 1 }
  if card.securityLevel = 0 then
    some (command, { cla := command.cla, ins := command.ins, p1 := command.p1, p2 := command.p2,
                     data := command.data, macInput := none, iv := none }, counted)
  else if card.isOpen = false ∨ command.cla &&& 0x04 = 0 ∨ command.data.length < macLength then none
  else
    let body := command.data.take (command.data.length - macLength)
    (core.aesCmac card.sMac (card.macInput command)).toOption.bind fun mac =>
      if mac.val.take macLength ≠ command.data.drop (command.data.length - macLength) then none
      else
        (core.aesBlock card.sEnc
          (counterBlock counted.encryptionCounter false)).toOption.bind fun iv =>
          (card.decryptCommand core iv body).map fun data =>
            ({ command with data },
              { cla := command.cla, ins := command.ins, p1 := command.p1, p2 := command.p2, data,
                macInput := some (card.macInput command),
                iv := if card.Decrypts body then some iv else none },
              { counted with macChainingValue := mac })

def encryptResponse (data : Bytes) : Option Bytes :=
  if card.securityLevel &&& securityREncryption ≠ 0 ∧ data ≠ [] then
    (core.aesBlock card.sEnc (counterBlock card.encryptionCounter true)).toOption.bind fun iv =>
      (core.aesCbc card.sEnc iv (core.pad data) true).toOption
  else some data

def appendResponseMac (data : Bytes) (status : UInt16) : Option Bytes :=
  if card.securityLevel &&& securityRMac ≠ 0 then
    (core.aesCmac card.sRmac
      (card.macChainingValue.val ++ data ++ beBytes 2 status.toNat)).toOption.map fun mac =>
        data ++ mac.val.take macLength
  else some data

/-- The card protects a response. -/
def wrapResponse (response : ResponseApdu) : Option ResponseApdu :=
  if protectedStatus response.status = false then some { response with data := [] }
  else
    (card.encryptResponse core response.data).bind fun data =>
      (card.appendResponseMac core data response.status).map fun data => { response with data }

variable (behaviour : CardBehaviour α)

/-- A whole command has come in. -/
def complete (card : Scp03Card κ α) (command : CommandApdu) : ResponseApdu × Scp03Card κ α :=
  let card := { card with chain := none, pending := ([], 0) }
  match behaviour.wrongLength card.application command with
  | some length => (⟨[], 0x6c00 ||| length.toUInt16⟩, card)
  | none =>
    match card.unwrap core command with
    | none => (⟨[], 0x6982⟩, { card with isOpen := false })
    | some (command, entry, card) =>
      let (response, application) := behaviour.run card.application command
      let card := { card with application, received := card.received ++ [entry] }
      match card.wrapResponse core response with
      | none => (⟨[], 0x6f00⟩, card)
      | some response => card.reply (behaviour.parts response.data) response.status

def Continues (chain command : CommandApdu) : Prop :=
  chain.cla = command.cla &&& 0xef ∧ chain.ins = command.ins ∧ chain.p1 = command.p1 ∧
    chain.p2 = command.p2

instance (chain command : CommandApdu) : Decidable (Continues chain command) :=
  inferInstanceAs (Decidable (_ ∧ _))

/-- A segment that is not the last one. -/
def collect (command : CommandApdu) : Scp03Card κ α :=
  let before := match card.chain with
    | some chain => if Continues chain command then chain.data else []
    | none => []
  { card with
    chain := some { command with cla := command.cla &&& 0xef, data := before ++ command.data }
    pending := ([], 0) }

/-- The command that a last segment completes.  More than 255 bytes have a length in the extended
form. -/
def join (command : CommandApdu) : CommandApdu :=
  match card.chain with
  | none => command
  | some chain =>
    if Continues chain command then
      { command with
        data := chain.data ++ command.data
        extended := command.extended ||
          decide ((chain.data ++ command.data).length > maxShortDataLength) }
    else command

variable (capabilities : ApduCapabilities)

def take (card : Scp03Card κ α) (command : CommandApdu) : ResponseApdu × Scp03Card κ α :=
  if command.extended ∧ capabilities.extended = false then
    (⟨[], 0x6700⟩, { card with chain := none })
  else if command.cla = 0 ∧ command.ins = getResponseIns then
    card.reply card.pending.1 card.pending.2
  else if command.cla &&& commandChainingCla ≠ 0 then
    if capabilities.commandChaining = false then (⟨[], 0x6884⟩, { card with chain := none })
    else (⟨[], responseOk⟩, card.collect command)
  else card.complete core behaviour (card.join command)

/-- The card takes an APDU. -/
def receive (card : Scp03Card κ α) (encoded : Bytes) : ResponseApdu × Scp03Card κ α :=
  match CommandApdu.decode encoded with
  | .error _ => (⟨[], 0x6700⟩, { card with chain := none })
  | .ok command => card.take core behaviour capabilities command

/-- The card as the other end of the transport. -/
def transport : ApduTransport (Scp03Card κ α) where
  capabilities
  send := fun encoded card =>
    let (response, card) := card.receive core behaviour capabilities encoded
    (.ok response.encode, card)

end Core

end Scp03Card

end Pkcs11rs.Model
