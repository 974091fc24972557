import Pkcs11rs.Library.Runs
import Pkcs11rs.Model.ReturnValue

/-!
# A YubiHSM at the connector's USB port

`DeviceEntry::command` (`pkcs11rs-connector/src/registry.rs:374-396`) sends the requests of all callers
to one device.  A request goes through the mutex of the entry, the recoverable transport that opens the
device again after an uncertain exchange (`registry.rs:199-247`), and `transmit_owned` of the hardware
crate (`pkcs11rs-local-hardware/src/yubihsm_usb.rs:463-503, 582-717`).

An asynchronous function is the machine of its await points: `Waiting` is where `transmit_owned` waits for
the bus, and `DeviceEntry.step` lets the events of callers, lock and bus come in any order.  What the bus
and the device answer is part of an event.  `log`, `pipe` and `answers` are histories: what has been opened
and submitted, the bytes that the device has sent and the host has not read, and all bytes that it has sent
for a request.
-/

set_option autoImplicit false

namespace Pkcs11rs.Model

open Pkcs11rs.Library

/-! ### Errors -/

/-- `pkcs11rs_local_hardware::Error`; the errors of the USB library are their texts. -/
inductive HardwareError where
  | usb (error : String)
  | transfer (error : String)
  | deviceFailure
  | deviceRemoved
  | invalidMessageLength (actual : ℕ) (expected : Option ℕ)
  | sendBufferTooLarge (actual maximum : ℕ) (firmwareVersion : ℕ × ℕ)
  | receiveBufferTooLarge
  | receiveMessageTooLarge (actual maximum : ℕ)
  | incompleteWrite (actual expected : ℕ)
  | missingBulkOutEndpoint
  deriving DecidableEq

/-- `YUBIHSM_MESSAGE_HEADER_SIZE`. -/
def messageHeaderSize : ℕ := 3

/-- The text of an error. -/
def HardwareError.display : HardwareError → String
  | usb error => s!"USB error: {error}"
  | transfer error => s!"USB transfer error: {error}"
  | deviceFailure => "USB device operation failed"
  | deviceRemoved => "USB device is not connected"
  | invalidMessageLength actual (some expected) =>
    s!"invalid YubiHSM message length: received {actual} bytes, expected {expected}"
  | invalidMessageLength actual none =>
    s!"invalid YubiHSM message length: received {actual} bytes, " ++
      s!"expected at least {messageHeaderSize}"
  | sendBufferTooLarge actual maximum (major, minor) =>
    s!"YubiHSM message is too large: received {actual} bytes, " ++
      s!"maximum {maximum} bytes for firmware {major}.{minor}"
  | receiveBufferTooLarge => "USB receive buffer is too large"
  | receiveMessageTooLarge actual maximum =>
    s!"YubiHSM response is too large: received {actual} bytes, maximum {maximum} bytes"
  | incompleteWrite actual expected => s!"incomplete USB write: sent {actual} of {expected} bytes"
  | missingBulkOutEndpoint => "YubiHSM bulk OUT endpoint is missing"

inductive TransportErrorKind where
  | invalidCommandFrame
  | commandTooLarge
  | deviceTransport
  | endpointUnavailable
  deriving DecidableEq

structure TransportError where
  kind : TransportErrorKind
  message : String
  deriving DecidableEq

def TransportError.device (message : String) : TransportError := ⟨.deviceTransport, message⟩

def TransportError.ofHardware (error : HardwareError) : TransportError :=
  let kind := match error with
    | .invalidMessageLength _ _ => .invalidCommandFrame
    | .sendBufferTooLarge _ _ _ => .commandTooLarge
    | _ => .deviceTransport
  ⟨kind, error.display⟩

/-! ### One exchange -/

/-- `YUBIHSM_LEGACY_MAX_MESSAGE_SIZE`. -/
def legacyMaxMessageSize : ℕ := 2048

/-- `YUBIHSM_MAX_MESSAGE_SIZE`. -/
def usbMaxMessageSize : ℕ := 8192

/-- The length that the header of a message announces. -/
def frameLength : Bytes → Option ℕ
  | _ :: high :: low :: _ => some (messageHeaderSize + (high.toNat * 256 + low.toNat))
  | _ => none

/-- `yubihsm_max_command_size`: firmware before 2.4 takes short messages only. -/
def maxCommandSize (version : ℕ × ℕ) : ℕ :=
  if version.1 < 2 ∨ version.1 = 2 ∧ version.2 < 4 then legacyMaxMessageSize else usbMaxMessageSize

/-- `ensure_yubihsm_message_size`. -/
def ensureMessageSize (version : ℕ × ℕ) (actual : ℕ) : Except HardwareError Unit :=
  if actual ≤ maxCommandSize version then .ok ()
  else .error (.sendBufferTooLarge actual (maxCommandSize version) version)

/-- `ensure_yubihsm_message`. -/
def ensureMessage (version : ℕ × ℕ) (message : Bytes) : Except HardwareError Unit :=
  match frameLength message with
  | none => .error (.invalidMessageLength message.length none)
  | some expected =>
    if message.length ≠ expected then
      .error (.invalidMessageLength message.length (some expected))
    else ensureMessageSize version message.length

def ensureReceiveSize (actual maximum : ℕ) : Except HardwareError Unit :=
  if actual ≤ maximum then .ok () else .error (.receiveMessageTooLarge actual maximum)

def ensureCompleteWrite (actual expected : ℕ) : Except HardwareError Unit :=
  if actual = expected then .ok () else .error (.incompleteWrite actual expected)

def needsZeroLengthPacket (length packetSize : ℕ) : Bool :=
  decide (packetSize ≠ 0 ∧ length % packetSize = 0)

def responseIsComplete (response : Bytes) (capacity : ℕ) : Except HardwareError Bool :=
  match frameLength response with
  | none => .ok false
  | some expected =>
    (ensureReceiveSize expected usbMaxMessageSize).bind fun _ =>
      if expected > capacity then .error .receiveBufferTooLarge
      else if response.length > expected then
        .error (.invalidMessageLength response.length (some expected))
      else .ok (response.length == expected)

def incompleteResponse (response : Bytes) : HardwareError :=
  .invalidMessageLength response.length (frameLength response)

/-- `YubiHsmUsbDevice`, as far as an exchange reads it.  `generation` numbers the connections. -/
structure YubiHsmUsbDevice where
  generation : ℕ
  serial : String
  version : ℕ × ℕ
  packetSize : ℕ
  interface : Bool
  deriving DecidableEq

def YubiHsmUsbDevice.bufferSize (device : YubiHsmUsbDevice) : ℕ :=
  usbMaxMessageSize + device.packetSize

/-- Where `transmit_owned` waits for the bus. -/
inductive Waiting where
  /-- For the request to be written. -/
  | write
  /-- For the empty packet that ends a request of whole packets. -/
  | zeroLengthPacket
  /-- For the next part of the response. -/
  | read (first : Bool) (response : Bytes)
  deriving DecidableEq

/-- How a transfer ended, with the text of the error. -/
abbrev TransferStatus := Except String Unit

/-- `completion.status?`. -/
def checkStatus (status : TransferStatus) : Except HardwareError Unit :=
  status.mapError .transfer

namespace YubiHsmUsbDevice

/-- `transfer_endpoints`, with the outcome of opening the endpoints. -/
def transferEndpoints (device : YubiHsmUsbDevice) (sendBuffer : Bytes)
    (endpoints : Except HardwareError Unit) : Except HardwareError Unit :=
  (ensureMessage device.version sendBuffer).bind fun _ =>
    if device.bufferSize ≥ 2 ^ 32 then .error .receiveBufferTooLarge
    else if device.interface = false then .error .deviceRemoved
    else endpoints

/-- `transmit_owned` up to the submission of the request. -/
def transmitOwned (device : YubiHsmUsbDevice) (sendBuffer : Bytes)
    (endpoints : Except HardwareError Unit) : Except HardwareError Waiting :=
  (device.transferEndpoints sendBuffer endpoints).map fun _ => .write

/-- After the request has been written. -/
def written (device : YubiHsmUsbDevice) (sendLen : ℕ) (status : TransferStatus)
    (actualLen : ℕ) : Except HardwareError Waiting :=
  (checkStatus status).bind fun _ =>
    (ensureCompleteWrite actualLen sendLen).map fun _ =>
      if needsZeroLengthPacket actualLen device.packetSize then .zeroLengthPacket else .read true []

/-- After the empty packet. -/
def packetWritten (status : TransferStatus) : Except HardwareError Waiting :=
  (checkStatus status).map fun _ => .read true []

/-- The part of the loop of `receive_response` between two reads: with the first part of a response, or
with the next one, which must not be empty. -/
def received (device : YubiHsmUsbDevice) (first : Bool) (response : Bytes)
    (status : TransferStatus) (chunk : Bytes) : Except HardwareError (Waiting ⊕ Bytes) :=
  (checkStatus status).bind fun _ =>
    (ensureReceiveSize chunk.length (device.bufferSize - response.length)).bind fun _ =>
      if first = false ∧ chunk = [] then .error (incompleteResponse response)
      else
        (responseIsComplete (response ++ chunk) device.bufferSize).bind fun complete =>
          if complete then .ok (.inr (response ++ chunk))
          else if device.bufferSize ≤ (response ++ chunk).length then .error .receiveBufferTooLarge
          else .ok (.inl (.read false (response ++ chunk)))

end YubiHsmUsbDevice

def ensureSingleResponseFrame (response : Bytes) : Except TransportError Unit :=
  let actual := response.length
  match frameLength response with
  | none => .error (.device
      s!"YubiHSM returned an incomplete response header of {actual} bytes")
  | some expected =>
    if actual ≠ expected then .error (.device
      (s!"YubiHSM returned {actual} response bytes, " ++
        s!"expected one {expected}-byte frame"))
    else .ok ()

/-! ### Opening the device again -/

/-- What is found out about a device on the bus. -/
structure UsbCandidate where
  id : ℕ
  /-- Serial number, firmware version and packet size. -/
  opened : Except HardwareError (String × (ℕ × ℕ) × ℕ)
  connected : Except HardwareError Unit

/-- `UsbTransportFactory::open`. -/
def reopen (id : ℕ) (serial : String) (generation : ℕ)
    (candidates : Except HardwareError (List UsbCandidate)) :
    Except TransportError YubiHsmUsbDevice :=
  (candidates.mapError .ofHardware).bind fun candidates =>
    match candidates.find? fun candidate => candidate.id == id with
    | none => .error (.device s!"YubiHSM {serial} is no longer present at USB device {id}")
    | some candidate =>
      (candidate.opened.mapError .ofHardware).bind fun (found, version, packetSize) =>
        if found ≠ serial then
          .error (.device s!"USB device {id} changed serial from {serial} to {found}")
        else
          (candidate.connected.mapError .ofHardware).map fun _ =>
            { generation, serial := found, version, packetSize, interface := true }

/-! ### The entry of a device -/

/-- What happens between the host and the device. -/
inductive TransportEvent where
  | opened (generation : ℕ) (serial : String)
  | submitted (task generation : ℕ)
  | ended (task generation : ℕ) (result : Except TransportError Bytes)

/-- A spawned command. -/
structure CommandTask where
  number : ℕ
  request : Bytes
  deriving DecidableEq

/-- How far the command that holds the mutex has come. -/
inductive CommandPhase where
  /-- The device is being opened. -/
  | opening
  /-- The transport is connected. -/
  | ready
  | exchange (waiting : Waiting)
  deriving DecidableEq

/-- `DeviceEntry` with its callers, its tasks and the device. -/
structure DeviceEntry where
  id : ℕ
  serial : String
  connected : Option YubiHsmUsbDevice
  /-- The number of connections so far. -/
  generations : ℕ
  /-- The number of calls so far. -/
  calls : ℕ
  /-- The tasks that wait for the mutex. -/
  queue : List CommandTask
  holder : Option (CommandTask × CommandPhase)
  /-- The callers that have not been cancelled. -/
  callers : List ℕ
  returned : List (ℕ × Except TransportError Bytes)
  log : List TransportEvent
  pipe : Bytes
  answers : ℕ → Bytes

/-- The events of callers, lock, bus and device. -/
inductive UsbEvent where
  | call (request : Bytes)
  | cancel (task : ℕ)
  | lock (task : ℕ)
  /-- The device has been opened, and some bytes have been read and dropped. -/
  | opened (candidates : Except HardwareError (List UsbCandidate)) (drained : ℕ)
  | start (endpoints : Except HardwareError Unit)
  | written (status : TransferStatus) (actualLen : ℕ)
  | packetWritten (status : TransferStatus)
  | received (status : TransferStatus) (count : ℕ)
  /-- The device sends bytes for a request. -/
  | sends (task : ℕ) (bytes : Bytes)

variable (entry : DeviceEntry)

namespace DeviceEntry

/-- The command of a task has ended: an uncertain connection is dropped, and the mutex is released. -/
def finish (task : CommandTask) (result : Except TransportError Bytes) : DeviceEntry :=
  { entry with
    connected := match result with
      | .error error => if error.kind = .deviceTransport then none else entry.connected
      | .ok _ => entry.connected
    holder := none
    callers := entry.callers.erase task.number
    returned := if task.number ∈ entry.callers then entry.returned ++ [(task.number, result)]
      else entry.returned }

/-- A submitted command has ended. -/
def finishSubmitted (task : CommandTask) (generation : ℕ) (result : Except TransportError Bytes) :
    DeviceEntry :=
  finish { entry with log := entry.log ++ [.ended task.number generation result] } task result

/-- `DeviceEntry::command` spawns a task. -/
def call (request : Bytes) : DeviceEntry :=
  { entry with
    calls := entry.calls + 1
    queue := entry.queue ++ [⟨entry.calls, request⟩]
    callers := entry.callers ++ [entry.calls] }

/-- A waiting task gets the mutex. -/
def lock (number : ℕ) : Option DeviceEntry :=
  match entry.holder, entry.queue.find? fun task => task.number == number with
  | none, some task => some { entry with
      queue := entry.queue.filter fun task => task.number != number
      holder := some (task, if entry.connected.isNone then .opening else .ready) }
  | _, _ => none

/-- `self.connected = Some(self.factory.open().await?)`. -/
def opened (entry : DeviceEntry) (candidates : Except HardwareError (List UsbCandidate))
    (drained : ℕ) : Option DeviceEntry :=
  match entry.holder with
  | some (task, .opening) =>
    match reopen entry.id entry.serial entry.generations candidates with
    | .error error => some (entry.finish task (.error error))
    | .ok device => some { entry with
        connected := some device
        generations := entry.generations + 1
        holder := some (task, .ready)
        log := entry.log ++ [.opened device.generation device.serial]
        pipe := entry.pipe.drop drained }
  | _ => none

/-- The connected transport submits the request. -/
def start (endpoints : Except HardwareError Unit) : Option DeviceEntry :=
  match entry.holder, entry.connected with
  | some (task, .ready), some device =>
    match device.transmitOwned task.request endpoints with
    | .error error => some (entry.finish task (.error (.ofHardware error)))
    | .ok waiting => some { entry with
        holder := some (task, .exchange waiting)
        log := entry.log ++ [.submitted task.number device.generation] }
  | _, _ => none

/-- A submitted command goes on: it waits again, or it ends. -/
def resume (task : CommandTask) (device : YubiHsmUsbDevice) :
    Except HardwareError (Waiting ⊕ Bytes) → DeviceEntry
  | .error error => entry.finishSubmitted task device.generation (.error (.ofHardware error))
  | .ok (.inl waiting) => { entry with holder := some (task, .exchange waiting) }
  | .ok (.inr response) =>
    entry.finishSubmitted task device.generation
      ((ensureSingleResponseFrame response).map fun _ => response)

/-- A transfer has ended. -/
def transferred (event : UsbEvent) : Option DeviceEntry :=
  match entry.holder, entry.connected with
  | some (task, .exchange waiting), some device =>
    match waiting, event with
    | .write, .written status actualLen =>
      some (entry.resume task device
        ((device.written task.request.length status actualLen).map .inl))
    | .zeroLengthPacket, .packetWritten status =>
      some (entry.resume task device ((YubiHsmUsbDevice.packetWritten status).map .inl))
    | .read first response, .received status count =>
      some (resume { entry with pipe := entry.pipe.drop count } task device
        (device.received first response status (entry.pipe.take count)))
    | _, _ => none
  | _, _ => none

def step : UsbEvent → Option DeviceEntry
  | .call request => some (entry.call request)
  | .cancel task => some { entry with callers := entry.callers.filter fun number => number != task }
  | .lock task => entry.lock task
  | .opened candidates drained => entry.opened candidates drained
  | .start endpoints => entry.start endpoints
  | .sends task bytes => some { entry with
      pipe := entry.pipe ++ bytes
      answers := Function.update entry.answers task (entry.answers task ++ bytes) }
  | event => entry.transferred event

/-- The entry after the device has been registered. -/
def registered (id : ℕ) (device : YubiHsmUsbDevice) : DeviceEntry where
  id
  serial := device.serial
  connected := some { device with generation := 0 }
  generations := 1
  calls := 0
  queue := []
  holder := none
  callers := []
  returned := []
  log := [.opened 0 device.serial]
  pipe := []
  answers := fun _ => []

end DeviceEntry

end Pkcs11rs.Model
