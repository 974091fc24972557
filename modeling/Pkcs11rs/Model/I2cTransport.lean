import Pkcs11rs.Library.AssocMap
import Pkcs11rs.Model.UsbTransport

/-!
# YubiHSMs on I2C

The connector talks to a YubiHSM behind an I2C endpoint in exchanges of one request and one response
(`pkcs11rs-connector/src/i2c/device.rs:121-190`).  The bus lock is held while a request is written and
while a response is read, and between the two only by a recovery.  A device handle has requested the READY
line of its endpoint; to whom the kernel grants a line is not said here (`ReadyGranted` in the analysis).

Handles are opened by the coordinator, which registers the configured endpoints
(`i2c/transport.rs:74-202`), and by the command of a connection whose handle is gone
(`i2c/transport.rs:24-60`).  An entry that has been removed from the registry is still used by the callers
that have got it before; when the last of them is done, the entry is dropped and its handle closed.
`I2cConnector.step` lets all of them run in any order; the rounds of the coordinator are taken apart, so that
registrations and events come in any order as well.

`written` and `reads` are histories: whose request an endpoint has got last, and for every response that
has been read, who has read it and whose request it answers.  A new request supersedes the result of an
older one.
-/

set_option autoImplicit false

namespace Pkcs11rs.Model

open Pkcs11rs.Library

/-! ### One exchange -/

structure I2cYubiHsmSpec where
  bus : String
  address : ℕ
  /-- `ReadyGpioSpec`: chip and offset. -/
  ready : String × ℕ
  deriving DecidableEq

def TransportError.invalidFrame (message : String) : TransportError := ⟨.invalidCommandFrame, message⟩

def TransportError.tooLarge (message : String) : TransportError := ⟨.commandTooLarge, message⟩

def maxFrameLength : ℕ := 8192

def validateRequest (request : Bytes) : Except TransportError Unit :=
  let actual := request.length
  match frameLength request with
  | none => .error (.invalidFrame "YubiHSM request has no complete header")
  | some expected =>
    if actual ≠ expected then
      .error (.invalidFrame s!"invalid YubiHSM request length: {actual} bytes, expected {expected}")
    else if actual > maxFrameLength then
      .error (.tooLarge s!"YubiHSM request exceeds {maxFrameLength} bytes")
    else .ok ()

/-- The response that `exchange` makes of the bytes on the bus, which `payload` gives for a length. -/
def readResponse (request header : Bytes) (payload : ℕ → Except TransportError Bytes) :
    Except TransportError Bytes :=
  if header.head? ≠ request.head?.map (· ||| 0x80) ∧ header.head? ≠ some 0x7f then
    .error (.device "unexpected I2C response command")
  else
    let length := beValue (header.drop 1)
    if length > maxFrameLength - messageHeaderSize then
      .error (.device s!"I2C response declares invalid {length}-byte payload")
    else if length = 0 then .ok header
    else (payload length).map fun data => header ++ data

def recoveryRequest (token : ℕ) : Bytes :=
  [0x00, 0x00, 0x0d, 0x42, 0x53, 0x43, 0x52, 0x45, 0x43, 0x4f, 0x56, 0x01] ++
    beBytes 4 (token % 2 ^ 32)

def recoveryReply (token : ℕ) : Bytes := (recoveryRequest token).set 0 0x80

def deviceInfoRequest : Bytes := [0x06, 0x00, 0x00]

/-- `YubiHsmI2cDevice::identity`: the serial number. -/
def identitySerial (response : Bytes) : Except TransportError ℕ :=
  if response.length < 12 ∨ response.head? ≠ some 0x86 then
    .error (.device "I2C endpoint did not return a valid YubiHSM DeviceInfo response")
  else .ok (beValue ((response.drop 6).take 4))

/-! ### The connector -/

inductive ExchangeStage where
  | recovery (token : ℕ)
  | identity
  | transmit
  deriving DecidableEq

/-- How far an exchange has come. -/
inductive WirePhase where
  /-- It waits for the bus lock. -/
  | queued
  /-- It has the lock and writes the request. -/
  | requesting
  /-- The request is written; it waits for the acknowledgement. -/
  | written
  /-- It waits for READY. -/
  | computing
  /-- READY is asserted; it waits for the bus lock. -/
  | responding
  /-- It has the lock and reads the response. -/
  | reading
  deriving DecidableEq

/-- Between the request and the end of the response. -/
def WirePhase.InProgress (phase : WirePhase) : Prop :=
  phase ≠ .queued ∧ phase ≠ .requesting

instance (phase : WirePhase) : Decidable phase.InProgress := inferInstanceAs (Decidable (_ ∧ _))

/-- What a worker has to do. -/
inductive I2cJob where
  /-- A command of an HTTP caller for a connection. -/
  | command (connection : ℕ) (request : Bytes)
  | register (spec : I2cYubiHsmSpec)
  deriving DecidableEq

/-- How far a worker has come. -/
inductive WorkerPhase where
  /-- It waits for the mutex of the connection. -/
  | waiting
  /-- It opens a device handle. -/
  | opening
  | exchange (stage : ExchangeStage) (phase : WirePhase)
  | finished (result : Except TransportError Bytes)

/-- A task of the connector. -/
structure I2cWorker where
  job : I2cJob
  phase : WorkerPhase

/-- `Connection` in its mutex. -/
structure I2cConnection where
  endpoint : I2cYubiHsmSpec
  serial : ℕ
  generation : ℕ
  /-- There is a device handle. -/
  device : Bool
  /-- The worker that has the mutex. -/
  holder : Option ℕ

/-- Who has a device handle. -/
inductive HandleOwner where
  | worker (number : ℕ)
  | connection (number : ℕ)
  deriving DecidableEq

/-- A record of the registry. -/
inductive I2cRecord where
  | claimed (connection generation : ℕ)
  | filtered (generation : ℕ)

structure EndpointLost where
  spec : I2cYubiHsmSpec
  serial : ℕ
  generation : ℕ

structure I2cConnector where
  shouldClaim : ℕ → Bool
  /-- The open device handles, each with its READY line. -/
  handles : List (HandleOwner × (String × ℕ))
  /-- The workers that have a bus lock. -/
  buses : String → Option ℕ
  workers : ℕ → Option I2cWorker
  workerCount : ℕ
  connections : ℕ → Option I2cConnection
  connectionCount : ℕ
  records : ℕ → Option I2cRecord
  generations : ℕ → ℕ
  pending : List I2cYubiHsmSpec
  events : List EndpointLost
  tokens : ℕ
  written : I2cYubiHsmSpec → Option (ℕ × ExchangeStage)
  reads : List ((ℕ × ExchangeStage) × Option (ℕ × ExchangeStage))

/-- What the bus answers to the next step of an exchange. -/
inductive WireAnswer where
  | done
  | failed (error : TransportError)
  | response (header : Bytes) (payload : ℕ → Except TransportError Bytes)

/-- The steps of the parties. -/
inductive I2cStep where
  /-- An HTTP caller gets the entry of a serial number and calls it. -/
  | call (serial : ℕ) (request : Bytes)
  | lock (worker : ℕ)
  | openDevice (worker : ℕ) (outcome : Except TransportError Unit)
  | advance (worker : ℕ) (answer : WireAnswer)
  | register (spec : I2cYubiHsmSpec)
  | handleEvent
  /-- Nobody has the entry of a connection any more. -/
  | dropEntry (connection : ℕ)

variable (s : I2cConnector) (number : ℕ)

namespace I2cConnector

def endpoint (s : I2cConnector) (worker : I2cWorker) : Option I2cYubiHsmSpec :=
  match worker.job with
  | .command connection _ => (s.connections connection).map I2cConnection.endpoint
  | .register spec => some spec

/-- The worker goes on in another phase. -/
def setPhase (worker : I2cWorker) (phase : WorkerPhase) : I2cConnector :=
  { s with workers := Function.update s.workers number (some { worker with phase }) }

def requestOf (worker : I2cWorker) : ExchangeStage → Bytes
  | .recovery token => recoveryRequest token
  | .identity => deviceInfoRequest
  | .transmit =>
    match worker.job with
    | .command _ request => request
    | .register _ => []

/-- A worker ends.  A command releases the mutex of its connection, and a registration that failed is
tried again. -/
def finishWorker (worker : I2cWorker) (result : Except TransportError Bytes) : I2cConnector :=
  let s := s.setPhase number worker (.finished result)
  match worker.job with
  | .command connection _ =>
    { s with
      connections := Function.update s.connections connection
        ((s.connections connection).map fun c => { c with holder := none }) }
  | .register spec =>
    match result with
    | .ok _ => s
    | .error _ => { s with pending := s.pending ++ [spec] }

def closeHandle (owner : HandleOwner) : I2cConnector :=
  { s with handles := mapRemove s.handles owner }

/-- The handle that a worker has opened goes to a connection. -/
def passHandle (connection : ℕ) (endpoint : I2cYubiHsmSpec) : I2cConnector :=
  { s with
    handles := mapInsert (mapRemove s.handles (.worker number)) (.connection connection) endpoint.ready }

/-- The handle of a connection is closed. -/
def closeDevice (connection : ℕ) : I2cConnector :=
  { s.closeHandle (.connection connection) with
    connections := Function.update s.connections connection
      ((s.connections connection).map fun c => { c with device := false }) }

/-- An exchange has failed: the bus lock is released, an uncertain handle is closed, and the loss of an
endpoint is reported. -/
def exchangeFailed (worker : I2cWorker) (stage : ExchangeStage) (endpoint : I2cYubiHsmSpec)
    (error : TransportError) : I2cConnector :=
  let s := { s with buses := fun bus => if s.buses bus = some number then none else s.buses bus }
  match stage, worker.job with
  | .transmit, .command connection _ =>
    let closed := if error.kind = .deviceTransport ∨ error.kind = .endpointUnavailable then
        s.closeDevice connection else s
    let lost := match s.connections connection with
      | some c => if error.kind = .endpointUnavailable then
          [EndpointLost.mk endpoint c.serial c.generation] else []
      | none => []
    finishWorker { closed with events := closed.events ++ lost } number worker (.error error)
  | _, _ => (s.closeHandle (.worker number)).finishWorker number worker (.error error)

/-- `transmit` of a command with a handle. -/
def startTransmit (worker : I2cWorker) (request : Bytes) : I2cConnector :=
  match validateRequest request with
  | .error error => s.finishWorker number worker (.error error)
  | .ok _ => s.setPhase number worker (.exchange .transmit .queued)

/-- The device of a registration is identified: `register_filtered` or `register_configured`. -/
def registered (worker : I2cWorker) (spec : I2cYubiHsmSpec) (serial : ℕ) : I2cConnector :=
  if (s.records serial).isSome then
    (s.closeHandle (.worker number)).finishWorker number worker
      (.error (.device s!"duplicate YubiHSM serial {serial}"))
  else
    let generation := s.generations serial + 1
    let s := { s with generations := Function.update s.generations serial generation }
    if s.shouldClaim serial then
      let connection := s.connectionCount
      finishWorker { s.passHandle number connection spec with
        records := Function.update s.records serial (some (.claimed connection generation))
        connections := Function.update s.connections connection (some
          { endpoint := spec, serial, generation, device := true, holder := none })
        connectionCount := s.connectionCount + 1 } number worker (.ok [])
    else
      finishWorker { s.closeHandle (.worker number) with
        records := Function.update s.records serial (some (.filtered generation)) }
        number worker (.ok [])

/-- A new handle has been identified. -/
def identified (worker : I2cWorker) (endpoint : I2cYubiHsmSpec) (serial : ℕ) : I2cConnector :=
  match worker.job with
  | .register spec => s.registered number worker spec serial
  | .command connection request =>
    match s.connections connection with
    | none => s
    | some c =>
      if serial ≠ c.serial then
        let expected := c.serial
        (s.closeHandle (.worker number)).finishWorker number worker (.error (.device
          s!"I2C endpoint changed serial from {expected} to {serial}"))
      else
        startTransmit { s.passHandle number connection endpoint with
          connections := Function.update s.connections connection
            (some { c with device := true }) } number worker request

/-- A response has been read. -/
def responded (worker : I2cWorker) (stage : ExchangeStage) (endpoint : I2cYubiHsmSpec)
    (response : Bytes) : I2cConnector :=
  let s := { s with buses := fun bus => if s.buses bus = some number then none else s.buses bus }
  match stage with
  | .recovery token =>
    if response ≠ recoveryReply token then
      s.exchangeFailed number worker stage endpoint
        (.device "I2C frontend does not confirm explicit recovery support")
    else s.setPhase number worker (.exchange .identity .queued)
  | .identity =>
    match identitySerial response with
    | .error error => s.exchangeFailed number worker stage endpoint error
    | .ok serial => s.identified number worker endpoint serial
  | .transmit => s.finishWorker number worker (.ok response)

/-- `DeviceEntry::command` of the entry that the registry has. -/
def call (serial : ℕ) (request : Bytes) : Option I2cConnector :=
  match s.records serial with
  | some (.claimed connection _) => some { s with
      workers := Function.update s.workers s.workerCount
        (some ⟨.command connection request, .waiting⟩)
      workerCount := s.workerCount + 1 }
  | _ => none

/-- A command gets the mutex of its connection. -/
def lock : Option I2cConnector :=
  match s.workers number with
  | some ⟨.command connection request, .waiting⟩ =>
    match s.connections connection with
    | some c =>
      if c.holder.isSome then none
      else
        let worker : I2cWorker := ⟨.command connection request, .waiting⟩
        let s := { s with
          connections := Function.update s.connections connection
            (some { c with holder := some number }) }
        some (if c.device then s.startTransmit number worker request
          else s.setPhase number worker .opening)
    | none => none
  | _ => none

/-- `YubiHsmI2cDevice::open` up to the recovery; `outcome` is what the system calls say. -/
def openDevice (outcome : Except TransportError Unit) : Option I2cConnector :=
  match s.workers number with
  | some ⟨job, .opening⟩ =>
    let worker : I2cWorker := ⟨job, .opening⟩
    match s.endpoint worker, outcome with
    | some _, .error error => some (s.finishWorker number worker (.error error))
    | some endpoint, .ok _ =>
      some (setPhase { s with
        handles := mapInsert s.handles (.worker number) endpoint.ready
        tokens := s.tokens + 1 } number worker (.exchange (.recovery s.tokens) .queued))
    | none, _ => none
  | _ => none

/-- The exchange keeps the bus lock between request and response. -/
def holdsBus : ExchangeStage → Bool
  | .recovery _ => true
  | _ => false

/-- The next step of an exchange. -/
def advance (answer : WireAnswer) : Option I2cConnector :=
  match s.workers number with
  | some ⟨job, .exchange stage phase⟩ =>
    let worker : I2cWorker := ⟨job, .exchange stage phase⟩
    match s.endpoint worker with
    | none => none
    | some endpoint =>
      -- a request that is being written may reach the target also when the write fails
      let sent := if phase = .requesting then
          { s with written := Function.update s.written endpoint (some (number, stage)) }
        else s
      match answer, phase with
      | .failed error, _ => some (sent.exchangeFailed number worker stage endpoint error)
      | .done, .queued =>
        if (s.buses endpoint.bus).isSome then none
        else some (setPhase { s with
          buses := Function.update s.buses endpoint.bus (some number) } number worker
          (.exchange stage .requesting))
      | .done, .requesting => some (sent.setPhase number worker (.exchange stage .written))
      | .done, .written =>
        some (setPhase { s with
          buses := if holdsBus stage then s.buses
            else Function.update s.buses endpoint.bus none } number worker
          (.exchange stage .computing))
      | .done, .computing => some (s.setPhase number worker (.exchange stage .responding))
      | .done, .responding =>
        if holdsBus stage = false ∧ (s.buses endpoint.bus).isSome then none
        else some (setPhase { s with
          buses := Function.update s.buses endpoint.bus (some number) } number worker
          (.exchange stage .reading))
      | .response header payload, .reading =>
        let s := { s with reads := s.reads ++ [((number, stage), s.written endpoint)] }
        match readResponse (requestOf worker stage) header payload with
        | .error error => some (s.exchangeFailed number worker stage endpoint error)
        | .ok response => some (s.responded number worker stage endpoint response)
      | _, _ => none
  | _ => none

/-- The coordinator registers a pending endpoint. -/
def register (s : I2cConnector) (spec : I2cYubiHsmSpec) : Option I2cConnector :=
  if spec ∈ s.pending then
    some { s with
      pending := s.pending.filter fun other => other != spec
      workers := Function.update s.workers s.workerCount (some ⟨.register spec, .opening⟩)
      workerCount := s.workerCount + 1 }
  else none

def handleEvent : Option I2cConnector :=
  match s.events with
  | [] => none
  | event :: events =>
    let s := { s with events }
    let current := match s.records event.serial with
      | some (.claimed _ generation) => decide (generation = event.generation)
      | some (.filtered generation) => decide (generation = event.generation)
      | none => false
    some (if current then { s with
        records := Function.update s.records event.serial none
        pending := if event.spec ∈ s.pending then s.pending else s.pending ++ [event.spec] }
      else s)

/-- The registry has the entry of a connection. -/
def isRegistered (connection : ℕ) (c : I2cConnection) : Bool :=
  match s.records c.serial with
  | some (.claimed other _) => other = connection
  | _ => false

/-- A caller that has got the entry of a connection is not done. -/
def isCalled (connection : ℕ) : Bool :=
  (List.range s.workerCount).any fun number =>
    match s.workers number with
    | some ⟨.command _ _, .finished _⟩ => false
    | some ⟨.command other _, _⟩ => other = connection
    | _ => false

/-- The last reference to an entry goes, and its handle is closed. -/
def dropEntry (connection : ℕ) : Option I2cConnector :=
  match s.connections connection with
  | some c =>
    if s.isRegistered connection c ∨ s.isCalled connection then none
    else some (s.closeDevice connection)
  | none => none

def step : I2cStep → Option I2cConnector
  | .call serial request => s.call serial request
  | .lock worker => s.lock worker
  | .openDevice worker outcome => s.openDevice worker outcome
  | .advance worker answer => s.advance worker answer
  | .register spec => s.register spec
  | .handleEvent => s.handleEvent
  | .dropEntry connection => s.dropEntry connection

/-- The connector with its configured endpoints. -/
def configured (specs : List I2cYubiHsmSpec) (shouldClaim : ℕ → Bool) : I2cConnector where
  shouldClaim
  handles := []
  buses := fun _ => none
  workers := fun _ => none
  workerCount := 0
  connections := fun _ => none
  connectionCount := 0
  records := fun _ => none
  generations := fun _ => 0
  pending := specs
  events := []
  tokens := 1
  written := fun _ => none
  reads := []

end I2cConnector

end Pkcs11rs.Model
