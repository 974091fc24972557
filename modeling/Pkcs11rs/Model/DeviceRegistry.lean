import Pkcs11rs.Model.I2cTransport
import Mathlib.Logic.Function.Basic

/-!
# The device registry of the connector

The registry has a record for every serial number, a map of USB ids, the connection generation of every
serial number and the serial number that legacy clients get (`registry.rs:399-811`).  Each function takes the
lock once; `attach_candidate` takes it for the generation and again for the record.

USB discovery is one task (`registry.rs:918-957`), and the I2C coordinator is another
(`i2c/transport.rs:75-202`): it registers all pending endpoints in a round, handles the reports of lost
endpoints that have come meanwhile, and waits for a report or the retry delay.  `RegistryRun.step` lets the
tasks, and the transports that report the loss of their endpoint, run in any order.  Embedded devices are
registered before the tasks are started (`virtual_hsm.rs:103-158`).

`registrations` and `filteredEndpoints` are histories: the generations of the records that were inserted, and
the endpoints whose device is filtered.
-/

set_option autoImplicit false

namespace Pkcs11rs.Model

open Pkcs11rs.Library

inductive DeviceTransportKind where
  | usb
  | i2c
  | embedded
  deriving DecidableEq

structure DeviceMetadata where
  serial : String
  manufacturer : String
  product : String
  version : String
  deriving DecidableEq

structure DeviceTransportView where
  kind : DeviceTransportKind
  connectionGeneration : ℕ
  deriving DecidableEq

/-- `DeviceEntry`; of its command transport only the I2C endpoint. -/
structure RegisteredEntry where
  id : Option ℕ
  legacyOnly : Bool
  metadata : DeviceMetadata
  deviceTransport : DeviceTransportView
  endpoint : Option I2cYubiHsmSpec
  deriving DecidableEq

inductive DeviceRecord where
  | claimed (entry : RegisteredEntry)
  | unclaimed (metadata : DeviceMetadata) (transport : DeviceTransportView)
  | filtered (metadata : DeviceMetadata) (transport : DeviceTransportView)
  deriving DecidableEq

namespace DeviceRecord

def metadata : DeviceRecord → DeviceMetadata
  | claimed entry => entry.metadata
  | unclaimed metadata _ => metadata
  | filtered metadata _ => metadata

def transport : DeviceRecord → DeviceTransportView
  | claimed entry => entry.deviceTransport
  | unclaimed _ transport => transport
  | filtered _ transport => transport

def claimedEntry : DeviceRecord → Option RegisteredEntry
  | claimed entry => some entry
  | _ => none

end DeviceRecord

/-- The configuration of `DeviceRegistry`. -/
structure DeviceRegistry where
  serials : Option (List String)
  configuredLegacySerial : Option String
  deriving DecidableEq

namespace DeviceRegistry

def allowsSerial (registry : DeviceRegistry) (serial : String) : Bool :=
  registry.serials.all fun serials => serials.contains serial

def shouldClaim (registry : DeviceRegistry) (serial : String) : Bool :=
  registry.allowsSerial serial || registry.configuredLegacySerial == some serial

end DeviceRegistry

/-- A firmware version. -/
structure DeviceVersion where
  major : ℕ
  minor : ℕ
  patch : ℕ
  deriving DecidableEq

/-- Major and minor. -/
def DeviceVersion.text (version : DeviceVersion) : String :=
  let major := version.major
  let minor := version.minor
  s!"{major}.{minor}"

def u64Max : ℕ := 2 ^ 64 - 1

/-- `saturating_add(1)`. -/
def saturatingSucc (generation : ℕ) : ℕ := min (generation + 1) u64Max

structure RegistryState where
  records : String → Option DeviceRecord
  serialById : ℕ → Option String
  connectionGenerations : String → ℕ
  legacySerial : Option String
  registrations : List (String × ℕ)

variable (state : RegistryState) (serial : String)

namespace RegistryState

def initial : RegistryState where
  records := fun _ => none
  serialById := fun _ => none
  connectionGenerations := fun _ => 0
  legacySerial := none
  registrations := []

def nextConnectionGeneration : ℕ × RegistryState :=
  let generation := saturatingSucc (state.connectionGenerations serial)
  (generation,
    { state with
      connectionGenerations := Function.update state.connectionGenerations serial generation })

def insertRecord (record : DeviceRecord) : RegistryState :=
  let serial := record.metadata.serial
  { state with
    records := Function.update state.records serial (some record)
    registrations := state.registrations ++ [(serial, record.transport.connectionGeneration)] }

/-- The first device that is claimed is latched for legacy clients. -/
def latch : RegistryState :=
  { state with legacySerial := some (state.legacySerial.getD serial) }

def register (id : ℕ) (record : DeviceRecord) : Bool × RegistryState :=
  let serial := record.metadata.serial
  if (state.records serial).isSome then (false, state)
  else
    let state := { state with serialById := Function.update state.serialById id (some serial) }
    let state := if record.claimedEntry.isSome then state.latch serial else state
    (true, state.insertRecord record)

/-- The error of a serial number that is there already. -/
def duplicateSerial : TransportError := .device s!"duplicate YubiHSM serial {serial}"

def registerFiltered (version : Option DeviceVersion) (kind : DeviceTransportKind) :
    Except TransportError RegistryState :=
  if (state.records serial).isSome then .error (duplicateSerial serial)
  else
    let (generation, state) := state.nextConnectionGeneration serial
    let metadata : DeviceMetadata :=
      ⟨serial, "Yubico", "YubiHSM", (version.map DeviceVersion.text).getD ""⟩
    .ok (state.insertRecord (.filtered metadata ⟨kind, generation⟩))

/-- `register_configured`; the generation is returned for the transport that is made with it. -/
def registerConfigured (registry : DeviceRegistry) (serial : String) (version : DeviceVersion)
    (kind : DeviceTransportKind) (endpoint : Option I2cYubiHsmSpec) :
    Except TransportError (Option ℕ × RegistryState) :=
  if registry.shouldClaim serial then
    if (state.records serial).isSome then .error (duplicateSerial serial)
    else
      let (generation, state) := state.nextConnectionGeneration serial
      let entry : RegisteredEntry :=
        { id := none
          legacyOnly := !registry.allowsSerial serial
          metadata := ⟨serial, "Yubico", "YubiHSM", version.text⟩
          deviceTransport := ⟨kind, generation⟩
          endpoint := endpoint }
      .ok (some generation, (state.latch serial).insertRecord (.claimed entry))
  else (state.registerFiltered serial (some version) kind).map fun state => (none, state)

def removeI2c (serial generation : ℕ) : Bool × RegistryState :=
  let serial := toString serial
  match state.records serial with
  | some record =>
    if record.transport = ⟨.i2c, generation⟩ then
      (true,
        { state with
          records := Function.update state.records serial none
          legacySerial := if state.legacySerial = some serial then none else state.legacySerial })
    else (false, state)
  | none => (false, state)

def detach (id : ℕ) : RegistryState :=
  match state.serialById id with
  | some serial =>
    { state with
      serialById := Function.update state.serialById id none
      records := Function.update state.records serial none }
  | none => state

def get : Option RegisteredEntry :=
  ((state.records serial).bind DeviceRecord.claimedEntry).filter fun entry => !entry.legacyOnly

/-- `select_legacy`; `none` is `NoDevice`. -/
def selectLegacy (configuredSerial : Option String) : Option RegisteredEntry :=
  match configuredSerial with
  | some serial => (state.records serial).bind DeviceRecord.claimedEntry
  | none =>
    (state.legacySerial.bind state.records).bind DeviceRecord.claimedEntry

end RegistryState

/-! ### The tasks -/

/-- What `attach_candidate` has found out of a device. -/
inductive AttachOutcome where
  | filtered (metadata : DeviceMetadata)
  /-- It could not be opened or its interface not be claimed. -/
  | unclaimed (metadata : DeviceMetadata)
  | claimed (metadata : DeviceMetadata)
  deriving DecidableEq

namespace AttachOutcome

def metadata : AttachOutcome → DeviceMetadata
  | filtered metadata => metadata
  | unclaimed metadata => metadata
  | claimed metadata => metadata

/-- The record of a USB device. -/
def record (registry : DeviceRegistry) (id generation : ℕ) : AttachOutcome → DeviceRecord
  | filtered metadata => .filtered metadata ⟨.usb, generation⟩
  | unclaimed metadata => .unclaimed metadata ⟨.usb, generation⟩
  | claimed metadata =>
    .claimed
      { id := some id
        legacyOnly := !registry.allowsSerial metadata.serial
        metadata := metadata
        deviceTransport := ⟨.usb, generation⟩
        endpoint := none }

end AttachOutcome

inductive UsbTask where
  | idle
  /-- Before `next_connection_generation`. -/
  | numbering (id : ℕ) (outcome : AttachOutcome)
  /-- Before `register`. -/
  | registering (id : ℕ) (record : DeviceRecord)
  deriving DecidableEq

inductive I2cCoordinator where
  /-- A round of registrations; a result is there when one has ended, `true` for `Ok`. -/
  | round (jobs : List (I2cYubiHsmSpec × Option Bool))
  /-- The reports that have come meanwhile are handled. -/
  | draining (pending : List I2cYubiHsmSpec)
  | waiting (pending : List I2cYubiHsmSpec)
  deriving DecidableEq

namespace I2cCoordinator

/-- The endpoints that are to be registered. -/
def pending : I2cCoordinator → List I2cYubiHsmSpec
  | round jobs => (jobs.filter fun job => job.2 ≠ some true).map (·.1)
  | draining pending => pending
  | waiting pending => pending

/-- A round for all of them. -/
def start (pending : List I2cYubiHsmSpec) : I2cCoordinator := .round (pending.map fun spec => (spec, none))

end I2cCoordinator

/-- What `serial` and `open` of a USB candidate give. -/
structure AttachedCandidate where
  serial : Option String
  manufacturer : String
  product : String
  version : DeviceVersion
  /-- The manufacturer, the product and the version of the device, if it can be opened and claimed. -/
  opened : Option (String × String × DeviceVersion)
  deriving DecidableEq

/-- The connector. -/
structure RegistryRun where
  registry : DeviceRegistry
  state : RegistryState
  usb : UsbTask
  coordinator : I2cCoordinator
  /-- What the I2C transports that were made report when their endpoint is lost. -/
  connections : List EndpointLost
  /-- The channel of the coordinator. -/
  events : List EndpointLost
  filteredEndpoints : List (I2cYubiHsmSpec × String)

/-- What happens next. -/
inductive RegistryEvent where
  /-- `attach_candidate` up to the generation. -/
  | attach (id : ℕ) (candidate : AttachedCandidate)
  | numberUsb
  | registerUsb
  | detach (id : ℕ)
  /-- `register_one` of a job of the round, with the identity of the device if it can be opened. -/
  | registerOne (job : ℕ) (identity : Option (ℕ × DeviceVersion))
  /-- The round has ended. -/
  | collect
  /-- The next report is handled. -/
  | receive
  /-- There is no report left. -/
  | drained
  /-- The retry delay is over. -/
  | retry
  /-- A transport reports the loss of its endpoint. -/
  | lose (connection : ℕ)
  deriving DecidableEq

namespace RegistryRun

/-- Embedded devices are registered one after the other. -/
def startEmbedded (registry : DeviceRegistry) (state : RegistryState) :
    List (ℕ × DeviceVersion) → Except TransportError RegistryState
  | [] => .ok state
  | (serial, version) :: rest =>
    let serial := toString serial
    if registry.shouldClaim serial then
      (state.registerConfigured registry serial version .embedded none).bind fun registered =>
        startEmbedded registry registered.2 rest
    else
      (state.registerFiltered serial none .embedded).bind fun state =>
        startEmbedded registry state rest

/-- The tasks are started. -/
def initial (registry : DeviceRegistry) (state : RegistryState) (specs : List I2cYubiHsmSpec) :
    RegistryRun where
  registry := registry
  state := state
  usb := .idle
  coordinator := .start specs
  connections := []
  events := []
  filteredEndpoints := []

variable (s : RegistryRun)

/-- `attach_candidate` up to the generation. -/
def attach (id : ℕ) (candidate : AttachedCandidate) : RegistryRun :=
  if (s.state.serialById id).isSome then s
  else
    match candidate.serial with
    | none => s
    | some serial =>
      if serial = "" then s
      else
        let metadata : DeviceMetadata :=
          ⟨serial, candidate.manufacturer, candidate.product, candidate.version.text⟩
        if s.registry.shouldClaim serial then
          match candidate.opened with
          | none => { s with usb := .numbering id (.unclaimed metadata) }
          | some (manufacturer, product, version) =>
            { s with usb := .numbering id (.claimed ⟨serial, manufacturer, product, version.text⟩) }
        else { s with usb := .numbering id (.filtered metadata) }

/-- The result of a job of the round. -/
def finishJob (jobs : List (I2cYubiHsmSpec × Option Bool)) (job : ℕ) (spec : I2cYubiHsmSpec)
    (ok : Bool) : RegistryRun :=
  { s with coordinator := .round (jobs.set job (spec, some ok)) }

/-- `register_one` after the device is opened. -/
def registerOne (jobs : List (I2cYubiHsmSpec × Option Bool)) (job : ℕ) (spec : I2cYubiHsmSpec)
    (serial : ℕ) (version : DeviceVersion) : RegistryRun :=
  if s.registry.shouldClaim (toString serial) then
    match s.state.registerConfigured s.registry (toString serial) version .i2c (some spec) with
    | .error _ => s.finishJob jobs job spec false
    | .ok (generation, state) =>
      finishJob { s with
        state := state
        connections := s.connections ++
          (generation.map fun generation => EndpointLost.mk spec serial generation).toList }
        jobs job spec true
  else
    match s.state.registerFiltered (toString serial) (some version) .i2c with
    | .error _ => s.finishJob jobs job spec false
    | .ok state =>
      finishJob { s with
        state := state
        filteredEndpoints := s.filteredEndpoints ++ [(spec, toString serial)] } jobs job spec true

def handleEvent (pending : List I2cYubiHsmSpec) (event : EndpointLost) :
    List I2cYubiHsmSpec × RegistryRun :=
  let (removed, state) := s.state.removeI2c event.serial event.generation
  (if removed ∧ event.spec ∉ pending then pending ++ [event.spec] else pending,
    { s with state := state })

/-- One step of a task. -/
def step : RegistryEvent → Option RegistryRun
  | .attach id candidate =>
    match s.usb with
    | .idle => some (s.attach id candidate)
    | _ => none
  | .numberUsb =>
    match s.usb with
    | .numbering id outcome =>
      let (generation, state) := s.state.nextConnectionGeneration outcome.metadata.serial
      some { s with
        state := state
        usb := .registering id (outcome.record s.registry id generation) }
    | _ => none
  | .registerUsb =>
    match s.usb with
    | .registering id record =>
      some { s with
        state := (s.state.register id record).2
        usb := .idle }
    | _ => none
  | .detach id =>
    match s.usb with
    | .idle => some { s with state := s.state.detach id }
    | _ => none
  | .registerOne job identity =>
    match s.coordinator with
    | .round jobs =>
      match jobs[job]? with
      | some (spec, none) =>
        match identity with
        | none => some (s.finishJob jobs job spec false)
        | some (serial, version) => some (s.registerOne jobs job spec serial version)
      | _ => none
    | _ => none
  | .collect =>
    match s.coordinator with
    | .round jobs =>
      if jobs.all fun job => job.2.isSome then
        some { s with coordinator := .draining (I2cCoordinator.round jobs).pending }
      else none
    | _ => none
  | .receive =>
    match s.coordinator, s.events with
    | .draining pending, event :: events =>
      let (pending, s) := s.handleEvent pending event
      some { s with events := events, coordinator := .draining pending }
    | .waiting pending, event :: events =>
      let (pending, s) := s.handleEvent pending event
      some { s with events := events, coordinator := .start pending }
    | _, _ => none
  | .drained =>
    match s.coordinator, s.events with
    | .draining pending, [] => some { s with coordinator := .waiting pending }
    | _, _ => none
  | .retry =>
    match s.coordinator with
    | .waiting pending => if pending = [] then none else some { s with coordinator := .start pending }
    | _ => none
  | .lose connection => (s.connections[connection]?).map fun event => { s with events := s.events ++ [event] }

end RegistryRun

end Pkcs11rs.Model
