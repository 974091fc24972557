import Pkcs11rs.Model.UsbTransport

/-!
# Which connection a command may use

The history of an entry is a trace of the small machine `Link`: a connection is opened, it is idle, a
command is submitted to it and ends.  In the strict machine a connection is closed by a command that did
not end with one complete frame.

Every run of an entry follows the lax machine, since all commands go through the mutex.  It follows the
strict one as long as every response is delimited: `response_is_complete` and `incomplete_response` report a
response that is too long or breaks off with `InvalidMessageLength`, which `TransportError::from` takes for
an invalid command of the caller, so the connection stays.
-/

set_option autoImplicit false

namespace Pkcs11rs.Analysis

open Pkcs11rs.Library Pkcs11rs.Model DeviceEntry Function List

variable {response : Bytes} {status : TransferStatus} {error : HardwareError}
  {message chunk : Bytes} {device : YubiHsmUsbDevice} {capacity : ℕ} {first : Bool}
  {entry entry' : DeviceEntry} {event : UsbEvent}
  {candidates : Except HardwareError (List UsbCandidate)} {task : CommandTask}
  {result : Except TransportError Bytes}

/-! ### Frames -/

/-- The bytes are one frame. -/
def ExactFrame (message : Bytes) : Prop := frameLength message = some message.length

/-- The bytes do not go beyond one frame. -/
def WithinFrame (message : Bytes) : Prop :=
  ∀ expected, frameLength message = some expected → message.length ≤ expected

/-- The header does not change when more bytes come. -/
theorem frameLength_append {expected : ℕ} (h : frameLength message = some expected) (rest : Bytes) :
    frameLength (message ++ rest) = some expected := by
  unfold frameLength at h
  split at h
  · exact h
  · cases h

/-- Nothing comes after a frame. -/
theorem ExactFrame.rest_nil {rest : Bytes} (h : ExactFrame message)
    (hwithin : WithinFrame (message ++ rest)) : rest = [] := by
  have hle := hwithin _ (frameLength_append h rest)
  rw [length_append] at hle
  exact eq_nil_of_length_eq_zero (by omega)

/-- A command ended with one frame. -/
def Framed : Except TransportError Bytes → Prop
  | .ok response => ExactFrame response
  | .error _ => False

instance (result : Except TransportError Bytes) : Decidable (Framed result) :=
  match result with
  | .ok response => inferInstanceAs (Decidable (frameLength response = some response.length))
  | .error _ => inferInstanceAs (Decidable False)

/-- An exact frame passes the check. -/
theorem ensureSingleResponseFrame_ok (h : ExactFrame response) :
    ensureSingleResponseFrame response = .ok () := by
  unfold ensureSingleResponseFrame
  rw [h]
  simp

/-! ### The machine of a connection -/

/-- What is known of the connection. -/
inductive Link where
  /-- With the generation that comes next. -/
  | closed (next : ℕ)
  | idle (generation : ℕ)
  | busy (task generation : ℕ)
  deriving DecidableEq

/-- The generation of the next connection. -/
def Link.next : Link → ℕ
  | .closed next => next
  | .idle generation | .busy _ generation => generation + 1

/-- No command is submitted to an earlier generation. -/
def Link.lowest : Link → ℕ
  | .closed next => next
  | .idle generation | .busy _ generation => generation

/-- One event of the history.  With `reuse` a connection may be used again after a command that did not
end with a frame. -/
def Link.step (reuse : Bool) (serial : String) : Link → TransportEvent → Option Link
  | .busy task generation, .ended task' generation' result =>
    if task' = task ∧ generation' = generation then
      some (if Framed result ∨ reuse = true then .idle generation else .closed (generation + 1))
    else none
  | .busy _ _, _ => none
  | .idle generation, .submitted task generation' =>
    if generation' = generation then some (.busy task generation) else none
  | link, .opened generation found =>
    if found = serial ∧ generation = link.next then some (.idle generation) else none
  | _, _ => none

section Machine

variable {reuse : Bool} {serial : String} {link link' : Link} {event : TransportEvent}
  {task generation : ℕ}

/-- A command is submitted to an idle link. -/
theorem step_submitted (h : Link.step reuse serial link (.submitted task generation) = some link') :
    link = .idle generation ∧ link' = .busy task generation := by
  cases link with
  | closed | busy => cases h
  | idle generation' => grind [Link.step]

/-- A busy link only ends. -/
theorem step_busy (h : Link.step reuse serial (.busy task generation) event = some link') :
    ∃ result, event = .ended task generation result ∧
      link' = if Framed result ∨ reuse = true then .idle generation else .closed (generation + 1) := by
  cases event with
  | opened | submitted => cases h
  | ended task' generation' result => grind [Link.step]

/-- A closed link is only opened. -/
theorem step_closed {next : ℕ} (h : Link.step reuse serial (.closed next) event = some link') :
    event = .opened next serial := by
  cases event with
  | submitted | ended => cases h
  | opened generation' found => grind [Link.step, Link.next]

/-- A link that is not busy can be opened. -/
theorem step_opened (h : ∀ task generation, link ≠ .busy task generation) :
    Link.step reuse serial link (.opened link.next serial) = some (.idle link.next) := by
  cases link with
  | busy task generation => exact absurd rfl (h task generation)
  | closed | idle => simp [Link.step, Link.next]

/-- The generations of a connection grow. -/
theorem lowest_le_of_step (h : Link.step reuse serial link event = some link') :
    link.lowest ≤ link'.lowest := by
  cases link <;> cases event <;> grind [Link.step, Link.lowest, Link.next]

/-- A later command goes to a connection that is not earlier. -/
theorem lowest_le_of_submitted {before after : List TransportEvent}
    (h : run (Link.step reuse serial) link (before ++ .submitted task generation :: after) = some link') :
    link.lowest ≤ generation := by
  induction before generalizing link with
  | nil =>
    obtain ⟨link₁, hsubmitted, -⟩ := Option.bind_eq_some_iff.mp h
    obtain ⟨rfl, -⟩ := step_submitted hsubmitted
    exact le_rfl
  | cons event before ih =>
    obtain ⟨link₁, hstep, h⟩ := Option.bind_eq_some_iff.mp h
    exact (lowest_le_of_step hstep).trans (ih h)

/-- Between two submissions the first command ends.  If it did not end with a frame, the strict machine
has opened the next connection before anything else, and the second command is not sent over the first. -/
theorem between_submissions {task' generation' : ℕ} {before mid after : List TransportEvent}
    (h : (run (Link.step reuse serial) link
      (before ++ .submitted task generation :: (mid ++ .submitted task' generation' :: after))) =
        some link') :
    ∃ result rest, mid = .ended task generation result :: rest ∧
      (¬ (Framed result ∨ reuse = true) →
        (∃ rest', rest = .opened (generation + 1) serial :: rest') ∧ generation < generation') := by
  rw [run_append] at h
  obtain ⟨link₁, -, h⟩ := Option.bind_eq_some_iff.mp h
  obtain ⟨link₂, hsubmitted, h⟩ := Option.bind_eq_some_iff.mp h
  obtain ⟨rfl, rfl⟩ := step_submitted hsubmitted
  cases mid with
  | nil =>
    obtain ⟨link₃, hnext, -⟩ := Option.bind_eq_some_iff.mp h
    obtain ⟨result, hevent, -⟩ := step_busy hnext
    cases hevent
  | cons event rest =>
    obtain ⟨link₃, hnext, h⟩ := Option.bind_eq_some_iff.mp h
    obtain ⟨result, rfl, rfl⟩ := step_busy hnext
    refine ⟨result, rest, rfl, fun hfailed => ?_⟩
    rw [if_neg hfailed] at h
    refine ⟨?_, lowest_le_of_submitted h⟩
    cases rest with
    | nil =>
      obtain ⟨link₄, hnext', -⟩ := Option.bind_eq_some_iff.mp h
      cases step_closed hnext'
    | cons event rest =>
      obtain ⟨link₄, hnext', -⟩ := Option.bind_eq_some_iff.mp h
      cases step_closed hnext'
      exact ⟨rest, rfl⟩

end Machine

/-! ### Which errors drop the connection -/

/-- The next part of a response ends in time: a later part is not empty, and the response is not longer
than its header says. -/
def Delimits (first : Bool) (response chunk : Bytes) : Prop :=
  (first = false → chunk ≠ []) ∧
    ∀ expected, frameLength (response ++ chunk) = some expected → expected ≤ usbMaxMessageSize →
      (response ++ chunk).length ≤ expected

/-- The error of a failed call drops the connection. -/
def Drops (error : HardwareError) : Prop :=
  (TransportError.ofHardware error).kind = .deviceTransport

/-- A failed transfer costs the connection. -/
theorem drops_of_checkStatus (h : checkStatus status = .error error) : Drops error := by
  cases status with
  | error text =>
    cases h
    rfl
  | ok _ => cases h

/-- A transfer that is too long costs it. -/
theorem drops_of_ensureReceiveSize {actual maximum : ℕ}
    (h : ensureReceiveSize actual maximum = .error error) : Drops error := by
  unfold ensureReceiveSize at h
  split at h
  · cases h
  · cases h
    rfl

/-- A failed write costs it. -/
theorem drops_of_written {sendLen actualLen : ℕ}
    (h : device.written sendLen status actualLen = .error error) : Drops error := by
  rcases bind_eq_error.mp h with h | ⟨_, -, h⟩
  · exact drops_of_checkStatus h
  · have hwrite := map_eq_error.mp h
    unfold ensureCompleteWrite at hwrite
    split at hwrite
    · cases hwrite
    · cases hwrite
      rfl

/-- A failed empty packet costs it. -/
theorem drops_of_packetWritten (h : YubiHsmUsbDevice.packetWritten status = .error error) :
    Drops error :=
  drops_of_checkStatus (map_eq_error.mp h)

/-- A response that cannot be complete. -/
theorem responseIsComplete_error (h : responseIsComplete response capacity = .error error) :
    Drops error ∨ ∃ expected, frameLength response = some expected ∧ expected ≤ usbMaxMessageSize ∧
      expected < response.length := by
  unfold responseIsComplete at h
  split at h
  · cases h
  · rename_i expected hexpected
    rcases bind_eq_error.mp h with h | ⟨_, hsize, h⟩
    · exact .inl (drops_of_ensureReceiveSize h)
    · have hmax : expected ≤ usbMaxMessageSize := by
        unfold ensureReceiveSize at hsize
        split at hsize
        · assumption
        · cases hsize
      split at h
      · cases h
        exact .inl rfl
      · grind

/-- A failed read drops the connection if the response was delimited. -/
theorem drops_of_received (h : device.received first response status chunk = .error error)
    (hdelimits : status = .ok () → Delimits first response chunk) : Drops error := by
  rcases bind_eq_error.mp h with h | ⟨_, hstatus, h⟩
  · exact drops_of_checkStatus h
  have hok : status = .ok () := by
    cases status with
    | error text => cases hstatus
    | ok _ => rfl
  obtain ⟨hnonempty, hlength⟩ := hdelimits hok
  rcases bind_eq_error.mp h with h | ⟨_, -, h⟩
  · exact drops_of_ensureReceiveSize h
  split at h
  · rename_i hempty
    exact absurd hempty.2 (hnonempty hempty.1)
  rcases bind_eq_error.mp h with h | ⟨complete, -, h⟩
  · grind [responseIsComplete_error]
  · split at h
    · cases h
    split at h
    · cases h
      rfl
    · cases h

/-! ### What a step can do -/

/-- The part of the response that has been read. -/
def soFar : Waiting → Bytes
  | .read _ response => response
  | _ => []

/-- No response has come yet. -/
theorem soFar_written {sendLen actualLen : ℕ} {next : Waiting}
    (h : device.written sendLen status actualLen = .ok next) : soFar next = [] := by
  obtain ⟨_, -, h⟩ := bind_eq_ok.mp h
  obtain ⟨_, -, rfl⟩ := map_eq_ok.mp h
  split <;> rfl

/-- A response that is complete is one frame. -/
theorem exactFrame_of_responseIsComplete (h : responseIsComplete response capacity = .ok true) :
    ExactFrame response := by
  unfold responseIsComplete at h
  split at h
  · cases h
  · obtain ⟨_, -, h⟩ := bind_eq_ok.mp h
    grind [ExactFrame]

/-- What a successful read leads to. -/
theorem received_ok {next : Waiting ⊕ Bytes}
    (h : device.received first response status chunk = .ok next) :
    next = .inl (.read false (response ++ chunk)) ∨
      next = .inr (response ++ chunk) ∧ ExactFrame (response ++ chunk) := by
  obtain ⟨_, -, h⟩ := bind_eq_ok.mp h
  obtain ⟨_, -, h⟩ := bind_eq_ok.mp h
  split at h
  · cases h
  obtain ⟨complete, hcomplete, h⟩ := bind_eq_ok.mp h
  grind [exactFrame_of_responseIsComplete]

/-- Every response that is read in this step is delimited. -/
def DelimitedStep (entry : DeviceEntry) (event : UsbEvent) : Prop :=
  ∀ task first response count, entry.holder = some (task, .exchange (.read first response)) →
    event = .received (.ok ()) count → Delimits first response (entry.pipe.take count)

/-- How a transfer of a submitted command ends. -/
structure Transferred (entry : DeviceEntry) (event : UsbEvent) (waiting : Waiting) (chunk : Bytes)
    (outcome : Except HardwareError (Waiting ⊕ Bytes)) : Prop where
  waits : ∀ next, outcome = .ok (.inl next) → soFar next = soFar waiting ++ chunk
  answers : ∀ response, outcome = .ok (.inr response) →
    response = soFar waiting ++ chunk ∧ ExactFrame response
  fails : ∀ error, outcome = .error error → DelimitedStep entry event → Drops error

/-- A transfer belongs to the command that holds the mutex. -/
theorem transferred_cases (h : entry.transferred event = some entry') :
    ∃ task waiting device count outcome, entry.holder = some (task, .exchange waiting) ∧
      entry.connected = some device ∧
      entry' = resume { entry with pipe := entry.pipe.drop count } task device outcome ∧
      Transferred entry event waiting (entry.pipe.take count) outcome := by
  unfold transferred at h
  split at h
  · rename_i task waiting device hholder hconnected
    split at h
    · refine ⟨task, .write, device, 0, _, hholder, hconnected, (Option.some.inj h).symm, ?_⟩
      constructor
      · grind [map_eq_ok, soFar_written, soFar]
      · grind [map_eq_ok]
      · intro error herror _
        exact drops_of_written (map_eq_error.mp herror)
    · refine ⟨task, .zeroLengthPacket, device, 0, _, hholder, hconnected,
        (Option.some.inj h).symm, ?_⟩
      constructor
      · grind [map_eq_ok, YubiHsmUsbDevice.packetWritten, soFar]
      · grind [map_eq_ok]
      · intro error herror _
        exact drops_of_packetWritten (map_eq_error.mp herror)
    · rename_i first response status count
      refine ⟨task, .read first response, device, count, _, hholder, hconnected,
        (Option.some.inj h).symm, ?_⟩
      constructor
      · grind [received_ok, soFar]
      · grind [received_ok, soFar]
      · intro error herror hdelimited
        exact drops_of_received herror fun hok => hdelimited task first response count hholder (by rw [hok])
    · cases h
  · cases h

/-- A waiting task gets the free mutex. -/
theorem lock_cases {number : ℕ} (h : entry.lock number = some entry') :
    ∃ task phase, entry.holder = none ∧ task ∈ entry.queue ∧ task.number = number ∧
      (∀ waiting, phase ≠ .exchange waiting) ∧
      entry' = { entry with
        queue := entry.queue.filter fun task => task.number != number
        holder := some (task, phase) } := by
  unfold lock at h
  split at h
  · rename_i task hholder hfind
    refine ⟨task, _, hholder, mem_of_find?_eq_some hfind, ?_, ?_, (Option.some.inj h).symm⟩
    · simpa using find?_some hfind
    · intro waiting
      split
      · simp
      · simp
  · cases h

/-- The device that a factory opens has the serial number of the entry. -/
theorem reopen_ok {id generation : ℕ} {serial : String}
    (h : reopen id serial generation candidates = .ok device) :
    device.serial = serial ∧ device.generation = generation := by
  obtain ⟨found, -, h⟩ := bind_eq_ok.mp h
  split at h
  · cases h
  · obtain ⟨⟨serial', version, packetSize⟩, -, h⟩ := bind_eq_ok.mp h
    grind [map_eq_ok]

/-- The device has been opened, or the command fails without it. -/
theorem opened_cases {drained : ℕ} (h : entry.opened candidates drained = some entry') :
    ∃ task, entry.holder = some (task, .opening) ∧
      ((∃ error, entry' = entry.finish task (.error error)) ∨
        ∃ device, device.serial = entry.serial ∧ device.generation = entry.generations ∧
          entry' = { entry with
            connected := some device
            generations := entry.generations + 1
            holder := some (task, .ready)
            log := entry.log ++ [.opened device.generation device.serial]
            pipe := entry.pipe.drop drained }) := by
  unfold opened at h
  split at h
  · rename_i task hholder
    refine ⟨task, hholder, ?_⟩
    split at h
    · rename_i error herror
      exact .inl ⟨error, (Option.some.inj h).symm⟩
    · rename_i device hdevice
      obtain ⟨hserial, hgeneration⟩ := reopen_ok hdevice
      exact .inr ⟨device, hserial, hgeneration, (Option.some.inj h).symm⟩
  · cases h

/-- The request is submitted, or it is refused before. -/
theorem start_cases {endpoints : Except HardwareError Unit}
    (h : entry.start endpoints = some entry') :
    ∃ task device, entry.holder = some (task, .ready) ∧ entry.connected = some device ∧
      ((∃ error, entry' = entry.finish task (.error error)) ∨
        entry' = { entry with
          holder := some (task, .exchange .write)
          log := entry.log ++ [.submitted task.number device.generation] }) := by
  unfold start at h
  split at h
  · rename_i task device hholder hconnected
    refine ⟨task, device, hholder, hconnected, ?_⟩
    split at h
    · exact .inl ⟨_, (Option.some.inj h).symm⟩
    · rename_i waiting hwaiting
      obtain ⟨_, -, rfl⟩ := map_eq_ok.mp hwaiting
      exact .inr (Option.some.inj h).symm
  · cases h

/-- What the end of a command leaves alone. -/
theorem finish_frame (entry : DeviceEntry) (task : CommandTask) (result : Except TransportError Bytes) :
    (entry.finish task result).holder = none ∧ (entry.finish task result).log = entry.log ∧
      (entry.finish task result).calls = entry.calls ∧ (entry.finish task result).queue = entry.queue ∧
      (entry.finish task result).pipe = entry.pipe ∧
      (entry.finish task result).answers = entry.answers ∧
      (entry.finish task result).generations = entry.generations :=
  ⟨rfl, rfl, rfl, rfl, rfl, rfl, rfl⟩

/-- A connection that is still there after a command. -/
theorem finish_connected (h : (entry.finish task result).connected = some device) :
    entry.connected = some device ∧ ∀ error, result = .error error → error.kind ≠ .deviceTransport := by
  unfold finish at h
  grind

/-! ### The entry follows the machine -/

/-- The state of the entry and that of its connection. -/
@[grind cases]
structure Follows (entry : DeviceEntry) (link : Link) : Prop where
  generations : entry.generations = link.next
  busy : ∀ task waiting device, entry.holder = some (task, .exchange waiting) →
    entry.connected = some device → link = .busy task.number device.generation
  idle : (∀ task waiting, entry.holder ≠ some (task, .exchange waiting)) →
    (∀ task generation, link ≠ .busy task generation) ∧
      ∀ device, entry.connected = some device → link = .idle device.generation

/-- The machine goes on with what the entry has added to its history. -/
def Advances (reuse : Bool) (entry entry' : DeviceEntry) (link : Link) : Prop :=
  ∃ suffix link', entry'.log = entry.log ++ suffix ∧
    run (Link.step reuse entry.serial) link suffix = some link' ∧ Follows entry' link' ∧
    entry'.serial = entry.serial

section Steps

variable {reuse : Bool} {entry entry' : DeviceEntry} {link : Link}

/-- A command that was not submitted leaves the connection idle. -/
theorem advances_finish (hlink : Follows entry link) {phase : CommandPhase}
    (hholder : entry.holder = some (task, phase)) (hphase : ∀ waiting, phase ≠ .exchange waiting)
    (result : Except TransportError Bytes) :
    Advances reuse entry (entry.finish task result) link := by
  refine ⟨[], link, by simp [finish], rfl, ?_, rfl⟩
  have hframe := finish_frame entry task result
  constructor <;> grind [finish_connected]

/-- A submitted command ends: the connection is kept after a frame, or where the machine allows it. -/
theorem advances_finishSubmitted (entry : DeviceEntry) (hconnected : entry.connected = some device)
    (hgenerations : entry.generations = device.generation + 1)
    (hresult : reuse = true ∨ ∀ error, result = .error error → error.kind = .deviceTransport)
    (hok : ∀ response, result = .ok response → ExactFrame response) :
    Advances reuse entry (entry.finishSubmitted task device.generation result)
      (.busy task.number device.generation) := by
  refine ⟨[.ended task.number device.generation result],
    if Framed result ∨ reuse = true then .idle device.generation else .closed (device.generation + 1),
    rfl, ?_, ?_, rfl⟩
  · simp [run, Link.step]
  · have hfree : (entry.finishSubmitted task device.generation result).holder = none := rfl
    have hkept : ∀ device', (entry.finishSubmitted task device.generation result).connected = some device' →
        device' = device ∧ ∀ error, result = .error error → error.kind ≠ .deviceTransport := by
      intro device' hdevice'
      obtain ⟨hsame, hkind⟩ := finish_connected hdevice'
      exact ⟨Option.some.inj (hsame.symm.trans hconnected), hkind⟩
    constructor
    · exact hgenerations.trans (by split <;> rfl)
    · grind
    · cases result <;> grind [Framed]

/-- **One event.** -/
theorem step_advances (hstep : entry.step event = some entry') (hlink : Follows entry link)
    (hdelimited : reuse = true ∨ DelimitedStep entry event) : Advances reuse entry entry' link := by
  have quiet : ∀ entry'' : DeviceEntry, entry''.log = entry.log → entry''.serial = entry.serial →
      entry''.connected = entry.connected → entry''.holder = entry.holder →
      entry''.generations = entry.generations → Advances reuse entry entry'' link := by
    intro entry'' hlog hserial hconnected hholder hgenerations
    refine ⟨[], link, by simp [hlog], rfl, ?_, hserial⟩
    constructor <;> grind
  have transfer : entry.transferred event = some entry' → Advances reuse entry entry' link := by
    intro h
    obtain ⟨task, waiting, device, count, outcome, hholder, hconnected, rfl, ht⟩ :=
      transferred_cases h
    obtain rfl := hlink.busy task waiting device hholder hconnected
    have hgenerations := hlink.generations
    rcases outcome with error | next | response
    · refine advances_finishSubmitted { entry with pipe := entry.pipe.drop count }
        hconnected hgenerations (hdelimited.imp_right fun hdelimited => ?_) nofun
      rintro _ ⟨⟩
      exact ht.fails error rfl hdelimited
    · refine ⟨[], _, by simp [resume], rfl, ?_, rfl⟩
      constructor <;> grind [resume]
    · -- the answer is one frame, so this check of it passes
      obtain ⟨-, hexact⟩ := ht.answers response rfl
      refine advances_finishSubmitted { entry with pipe := entry.pipe.drop count } hconnected
        hgenerations ?_ ?_
      · rw [ensureSingleResponseFrame_ok hexact]
        exact .inr nofun
      · rw [ensureSingleResponseFrame_ok hexact]
        rintro _ ⟨⟩
        exact hexact
  cases event with
  | call | cancel | sends =>
    cases hstep
    exact quiet _ rfl rfl rfl rfl rfl
  | lock number =>
    obtain ⟨task, phase, hfree, -, -, hphase, rfl⟩ := lock_cases hstep
    refine ⟨[], link, by simp, rfl, ?_, rfl⟩
    constructor <;> grind
  | opened candidates drained =>
    obtain ⟨task, hholder, ⟨error, rfl⟩ | ⟨device, hserial, hgeneration, rfl⟩⟩ := opened_cases hstep
    · exact advances_finish hlink hholder (by simp) _
    · have hidle := hlink.idle (by simp [hholder])
      have hnext := hgeneration.trans hlink.generations
      refine ⟨[.opened device.generation device.serial], .idle device.generation, rfl, ?_, ?_, rfl⟩
      · rw [hnext, hserial, run, step_opened hidle.1]
        rfl
      · constructor <;> grind [Link.next]
  | start endpoints =>
    obtain ⟨task, device, hholder, hconnected, ⟨error, rfl⟩ | rfl⟩ := start_cases hstep
    · exact advances_finish hlink hholder (by simp) _
    · obtain rfl := (hlink.idle (by simp [hholder])).2 device hconnected
      refine ⟨[.submitted task.number device.generation], .busy task.number device.generation, rfl,
        by simp [run, Link.step], ?_, rfl⟩
      constructor <;> grind [Link.next]
  | written | packetWritten | received => exact transfer hstep

end Steps

/-! ### Every request is submitted once -/

/-- The commands that have been submitted. -/
def submittedTasks (log : List TransportEvent) : List ℕ :=
  log.filterMap fun
    | .submitted task _ => some task
    | _ => none

/-- The submitted commands. -/
theorem mem_submittedTasks {log : List TransportEvent} {task : ℕ} :
    task ∈ submittedTasks log ↔ ∃ generation, .submitted task generation ∈ log := by
  unfold submittedTasks
  grind

/-- The numbers of tasks: a submitted command is not waiting for its submission. -/
@[grind cases]
structure Numbered (entry : DeviceEntry) : Prop where
  queue : ∀ task ∈ entry.queue, task.number < entry.calls
  holder : ∀ task phase, entry.holder = some (task, phase) →
    task.number < entry.calls ∧ ∀ queued ∈ entry.queue, queued.number ≠ task.number
  submitted : ∀ number ∈ submittedTasks entry.log, number < entry.calls ∧
    (∀ queued ∈ entry.queue, queued.number ≠ number) ∧
    ∀ task phase, entry.holder = some (task, phase) → (∀ waiting, phase ≠ .exchange waiting) →
      task.number ≠ number
  nodup : (submittedTasks entry.log).Nodup

/-- The end of a command is no submission, and the mutex is free. -/
theorem Numbered.finish (h : Numbered entry) (task : CommandTask)
    (result : Except TransportError Bytes) : Numbered (entry.finish task result) := by
  have hframe := finish_frame entry task result
  constructor <;> grind

/-- A command ends. -/
theorem Numbered.finishSubmitted (h : Numbered entry) (task : CommandTask) (generation : ℕ)
    (result : Except TransportError Bytes) :
    Numbered (entry.finishSubmitted task generation result) := by
  have hlog : submittedTasks (entry.log ++ [.ended task.number generation result]) =
      submittedTasks entry.log := by simp [submittedTasks]
  have hended : Numbered { entry with log := entry.log ++ [.ended task.number generation result] } := by
    constructor <;> grind
  exact hended.finish task result

/-- **One event.** -/
theorem Numbered.step (h : Numbered entry) (hstep : entry.step event = some entry') :
    Numbered entry' := by
  have transfer : entry.transferred event = some entry' → Numbered entry' := by
    intro hmade
    obtain ⟨task, waiting, device, count, outcome, hholder, -, rfl, -⟩ := transferred_cases hmade
    have hdropped : Numbered { entry with pipe := entry.pipe.drop count } := { h with }
    rcases outcome with error | next | response
    · exact hdropped.finishSubmitted task _ _
    · constructor <;> grind [resume]
    · exact hdropped.finishSubmitted task _ _
  cases event with
  | call request =>
    -- the number of the new task is above those of the others
    cases hstep
    constructor <;> grind [call]
  | cancel | sends =>
    cases hstep
    exact { h with }
  | lock number =>
    obtain ⟨task, phase, -, hmem, hnumber, -, rfl⟩ := lock_cases hstep
    constructor <;> grind
  | opened candidates drained =>
    obtain ⟨task, hholder, ⟨error, rfl⟩ | ⟨device, -, -, rfl⟩⟩ := opened_cases hstep
    · exact h.finish task _
    · have hlog : submittedTasks (entry.log ++ [.opened device.generation device.serial]) =
          submittedTasks entry.log := by simp [submittedTasks]
      constructor <;> grind
  | start endpoints =>
    obtain ⟨task, device, hholder, hconnected, ⟨error, rfl⟩ | rfl⟩ := start_cases hstep
    · exact h.finish task _
    · have hlog : submittedTasks (entry.log ++ [.submitted task.number device.generation]) =
          submittedTasks entry.log ++ [task.number] := by simp [submittedTasks]
      constructor <;> grind
  | written | packetWritten | received => exact transfer hstep

/-! ### Every response answers its request -/

/-- The device answers a request of the current connection, with one frame at most, and what it has sent
on an earlier connection is gone when a new one is opened. -/
def AnsweringStep (entry : DeviceEntry) (event : UsbEvent) : Prop :=
  (∀ task bytes, event = .sends task bytes → ∃ device, entry.connected = some device ∧
    .submitted task device.generation ∈ entry.log ∧ WithinFrame (entry.answers task ++ bytes)) ∧
  ∀ candidates drained, event = .opened candidates drained → entry.pipe.length ≤ drained

/-- What the host has not read is the rest of the answer to the command in progress. -/
@[grind cases]
structure Answered (entry : DeviceEntry) : Prop where
  generations : ∀ task generation, .submitted task generation ∈ entry.log →
    generation < entry.generations
  connected : ∀ device, entry.connected = some device → device.generation < entry.generations
  unsubmitted : ∀ task, task ∉ submittedTasks entry.log → entry.answers task = []
  idle : ∀ device, entry.connected = some device →
    (∀ task waiting, entry.holder ≠ some (task, .exchange waiting)) →
    entry.pipe = [] ∧ ∀ task, .submitted task device.generation ∈ entry.log →
      ExactFrame (entry.answers task)
  busy : ∀ task waiting device, entry.holder = some (task, .exchange waiting) →
    entry.connected = some device →
    entry.answers task.number = soFar waiting ++ entry.pipe ∧
    WithinFrame (entry.answers task.number) ∧
    ∀ task', .submitted task' device.generation ∈ entry.log → task' ≠ task.number →
      ExactFrame (entry.answers task')
  returned : ∀ number response, (number, .ok response) ∈ entry.returned →
    response = entry.answers number ∧ ExactFrame response

section Answers

variable {entry entry' : DeviceEntry} {event : UsbEvent}

section

variable (h : Answered entry)

include h

/-- A failed command leaves the answers alone.  The connection is gone or it was idle. -/
theorem Answered.failed (task : CommandTask) {error : TransportError}
    (hidle : error.kind = .deviceTransport ∨
      ∀ task waiting, entry.holder ≠ some (task, .exchange waiting)) :
    Answered (entry.finish task (.error error)) where
  generations := h.generations
  connected device hdevice := h.connected device (finish_connected hdevice).1
  unsubmitted := h.unsubmitted
  idle device hdevice _ := by
    obtain ⟨hconnected, hkind⟩ := finish_connected hdevice
    exact h.idle device hconnected (hidle.resolve_left (hkind error rfl))
  busy _ _ _ hheld := nomatch hheld
  returned := by grind [finish]

/-- The end of a command is logged. -/
theorem Answered.ended (task generation : ℕ) (result : Except TransportError Bytes) :
    Answered { entry with log := entry.log ++ [.ended task generation result] } := by
  have hlog : submittedTasks (entry.log ++ [.ended task generation result]) =
      submittedTasks entry.log := by simp [submittedTasks]
  constructor <;> grind

/-- A submitted command fails and takes the connection with it. -/
theorem Answered.dropped {task : CommandTask} {generation count : ℕ} {error : TransportError}
    (hkind : error.kind = .deviceTransport) :
    Answered (finishSubmitted { entry with pipe := entry.pipe.drop count } task
      generation (.error error)) := by
  have hended := h.ended task.number generation (.error error)
  have hfailed : Answered (finish _ task (.error error)) :=
    hended.failed task (.inl hkind)
  refine { hfailed with idle := ?_, busy := ?_ }
  · intro device hdevice
    exact absurd hkind ((finish_connected hdevice).2 error rfl)
  · intro _ _ _ hheld
    cases hheld

/-- The whole answer has been read. -/
theorem Answered.succeeded {waiting : Waiting} {count : ℕ}
    (hholder : entry.holder = some (task, .exchange waiting))
    (hconnected : entry.connected = some device)
    (hresponse : response = soFar waiting ++ entry.pipe.take count) (hexact : ExactFrame response) :
    Answered (finish { entry with pipe := entry.pipe.drop count } task (.ok response)) := by
  obtain ⟨hanswer, hwithin, hothers⟩ := h.busy task waiting device hholder hconnected
  have hsplit : entry.answers task.number = response ++ entry.pipe.drop count := by
    rw [hanswer, hresponse, append_assoc, take_append_drop]
  have hrest : entry.pipe.drop count = [] := by
    rw [hsplit] at hwithin
    exact hexact.rest_nil hwithin
  have hframes : ∀ task', .submitted task' device.generation ∈ entry.log →
      ExactFrame (entry.answers task') := by grind
  refine ⟨h.generations, h.connected, h.unsubmitted, fun device' hdevice' _ => ?_,
    nofun, ?_⟩
  · cases hconnected.symm.trans hdevice'
    exact ⟨hrest, hframes⟩
  · grind [finish]

/-- The device sends a part of its answer. -/
theorem Answered.sends {task : ℕ} {bytes : Bytes} (hconnected : entry.connected = some device)
    (hmem : .submitted task device.generation ∈ entry.log)
    (hwithin : WithinFrame (entry.answers task ++ bytes)) : Answered { entry with
      pipe := entry.pipe ++ bytes
      answers := update entry.answers task (entry.answers task ++ bytes) } := by
  -- after a whole answer nothing more comes
  have hdone : ExactFrame (entry.answers task) → bytes = [] := fun hexact => hexact.rest_nil hwithin
  have hsubmitted := mem_submittedTasks.mpr ⟨_, hmem⟩
  constructor <;> grind

/-- **One event.** -/
theorem Answered.step (hnumbered : Numbered entry) (hstep : entry.step event = some entry')
    (hdelimited : DelimitedStep entry event) (hanswering : AnsweringStep entry event) :
    Answered entry' := by
  have transfer : entry.transferred event = some entry' → Answered entry' := by
    intro hmade
    obtain ⟨task, waiting, device, count, outcome, hholder, hconnected, rfl, ht⟩ :=
      transferred_cases hmade
    rcases outcome with error | next | response
    · have hkind : (TransportError.ofHardware error).kind = .deviceTransport :=
        ht.fails error rfl hdelimited
      exact h.dropped hkind
    · have hnext : soFar next ++ entry.pipe.drop count = soFar waiting ++ entry.pipe := by
        rw [ht.waits next rfl, append_assoc, take_append_drop]
      constructor <;> grind [resume]
    · obtain ⟨hresponse, hexact⟩ := ht.answers response rfl
      have hended := h.ended task.number device.generation (.ok response)
      dsimp only [resume]
      rw [ensureSingleResponseFrame_ok hexact]
      exact hended.succeeded hholder hconnected hresponse hexact
  cases event with
  | call | cancel =>
    cases hstep
    exact { h with }
  | sends task bytes =>
    cases hstep
    obtain ⟨device, hconnected, hmem, hwithin⟩ := hanswering.1 task bytes rfl
    exact h.sends hconnected hmem hwithin
  | lock number =>
    obtain ⟨task, phase, hfree, -, -, hphase, rfl⟩ := lock_cases hstep
    constructor <;> grind
  | opened candidates drained =>
    obtain ⟨task, hholder, ⟨error, rfl⟩ | ⟨device, -, hgeneration, rfl⟩⟩ := opened_cases hstep
    · exact h.failed task (.inr (by simp [hholder]))
    · -- nothing has been submitted to the new connection, and the bytes of the old one are dropped
      have hlog : submittedTasks (entry.log ++ [.opened device.generation device.serial]) =
          submittedTasks entry.log := by simp [submittedTasks]
      have hpipe := drop_eq_nil_of_le (hanswering.2 candidates drained rfl)
      constructor <;> grind
  | start endpoints =>
    obtain ⟨task, device, hholder, hconnected, ⟨error, rfl⟩ | rfl⟩ := start_cases hstep
    · exact h.failed task (.inr (by simp [hholder]))
    · have hnew : task.number ∉ submittedTasks entry.log := fun hmem =>
        (hnumbered.submitted _ hmem).2.2 task .ready hholder (by simp) rfl
      have hlog : submittedTasks (entry.log ++ [.submitted task.number device.generation]) =
          submittedTasks entry.log ++ [task.number] := filterMap_append
      constructor <;> grind [soFar, WithinFrame]
  | written | packetWritten | received => exact transfer hstep

end

end Answers

/-! ### Whole runs -/

/-- Between two submissions the first command ends. -/
def OneAtATime (log : List TransportEvent) : Prop :=
  ∀ before mid after task generation task' generation',
    log = before ++ .submitted task generation :: (mid ++ .submitted task' generation' :: after) →
      ∃ result rest, mid = .ended task generation result :: rest

/-- If it did not end with one frame, the device is opened, under its serial number and as a new connection,
before anything else is sent, and the next command does not go to the old one. -/
def Discards (serial : String) (log : List TransportEvent) : Prop :=
  ∀ before mid after task generation task' generation',
    log = before ++ .submitted task generation :: (mid ++ .submitted task' generation' :: after) →
      ∃ result rest, mid = .ended task generation result :: rest ∧
        (¬ Framed result →
          (∃ rest', rest = .opened (generation + 1) serial :: rest') ∧ generation < generation')

section Runs

variable {id : ℕ} {device : YubiHsmUsbDevice} {events : List UsbEvent} {s : DeviceEntry}

/-- A registered entry follows the machine along every run. -/
theorem run_follows (reuse : Bool) (hrun : run step (.registered id device) events = some s)
    (halong : Along step (fun entry event => reuse = true ∨ DelimitedStep entry event)
      (.registered id device) events) :
    ∃ link, run (Link.step reuse device.serial) (.closed 0) s.log = some link := by
  have hinvariant := run_induction
    (fun entry => entry.serial = device.serial ∧ ∃ link,
      run (Link.step reuse device.serial) (.closed 0) entry.log = some link ∧ Follows entry link)
    (fun entry event entry' => ?_) events (.registered id device) s ?_ halong hrun
  · obtain ⟨-, link, hlink, -⟩ := hinvariant
    exact ⟨link, hlink⟩
  · rintro ⟨hserial, link, hlink, hfollows⟩ hdelimited hstep
    obtain ⟨suffix, link', hlog, hsuffix, hfollows', hserial'⟩ :=
      step_advances hstep hfollows hdelimited
    grind [run_append]
  · refine ⟨rfl, .idle 0, by simp [registered, run, Link.step, Link.next], ?_⟩
    constructor <;> grind [registered, Link.next]

/-- The numbers and the answers along a run. -/
theorem run_answered (hrun : run step (.registered id device) events = some s) : Numbered s ∧
      (Along step (fun entry event => DelimitedStep entry event ∧ AnsweringStep entry event)
        (.registered id device) events → Answered s) := by
  have hnumbered : Numbered (.registered id device) := by
    constructor <;> grind [registered, submittedTasks]
  have hanswered : Answered (.registered id device) := by
    constructor <;> grind [registered]
  constructor
  · exact run_induction Numbered (fun _ _ _ h _ hstep => h.step hstep) events _ s hnumbered
      (along_of_forall (P := fun _ _ => True) fun _ _ _ => trivial) hrun
  · intro halong
    exact (run_induction (fun entry => Numbered entry ∧ Answered entry)
      (fun _ _ _ h hcond hstep => ⟨h.1.step hstep, h.2.step h.1 hstep hcond.1 hcond.2⟩) events _ s
      ⟨hnumbered, hanswered⟩ halong hrun).2

/-- **An uncertain connection is not reused.**  In every run every request is submitted at most once and
one command is in progress at a time.  If every response is delimited, a command that did not end with one
frame costs the connection, and the device is opened under the same serial number before anything else is
sent.  If the device moreover answers the requests of the connection with one frame each, every response
that is returned is the answer to its request. -/
theorem uncertain_connection_not_reused
    (hrun : run DeviceEntry.step (.registered id device) events = some s) :
    (submittedTasks s.log).Nodup ∧ OneAtATime s.log ∧
      (Along DeviceEntry.step DelimitedStep (.registered id device) events →
        Discards device.serial s.log) ∧
      (Along DeviceEntry.step
          (fun entry event => DelimitedStep entry event ∧ AnsweringStep entry event)
          (.registered id device) events →
        ∀ number response, (number, .ok response) ∈ s.returned → response = s.answers number) := by
  refine ⟨(run_answered hrun).1.nodup, ?_, fun halong => ?_, fun halong => ?_⟩
  · intro before mid after task generation task' generation' hlog
    obtain ⟨link, hlink⟩ := run_follows true hrun (along_of_forall fun _ _ _ => .inl rfl)
    rw [hlog] at hlink
    obtain ⟨result, rest, hmid, -⟩ := between_submissions hlink
    exact ⟨result, rest, hmid⟩
  · intro before mid after task generation task' generation' hlog
    obtain ⟨link, hlink⟩ := run_follows false hrun (along_mono (fun _ _ => .inr) halong)
    rw [hlog] at hlink
    obtain ⟨result, rest, hmid, hopened⟩ := between_submissions hlink
    exact ⟨result, rest, hmid, fun hfailed => hopened (by simpa using hfailed)⟩
  · intro number response hmem
    exact (((run_answered hrun).2 halong).returned number response hmem).1

end Runs

/-! ### Runs -/

/-- A device with full-speed packets. -/
def smallDevice : YubiHsmUsbDevice :=
  { generation := 0, serial := "00000001", version := (2, 4), packetSize := 64, interface := true }

/-- A request without payload that the device answers with the given bytes, read in one part. -/
def exchangeEvents (task : ℕ) (answer : Bytes) : List UsbEvent :=
  [.call [1, 0, 0], .lock task, .start (.ok ()), .written (.ok ()) 3, .sends task answer,
    .received (.ok ()) answer.length]

/-- The device answers with one byte more than its header says.  The connection stays, and the next
request is submitted to it. -/
theorem long_response_keeps_connection :
    ∃ s, run DeviceEntry.step (.registered 7 smallDevice)
        (exchangeEvents 0 [0x81, 0, 0, 9] ++ [.call [1, 0, 0], .lock 1, .start (.ok ())]) = some s ∧
      ¬ Discards smallDevice.serial s.log := by
  refine ⟨_, rfl, fun hdiscards => ?_⟩
  obtain ⟨result, rest, hmid, hopened⟩ := hdiscards [.opened 0 smallDevice.serial]
    [.ended 0 0 (.error (.ofHardware (.invalidMessageLength 4 (some 3))))] [] 0 0 1 0 rfl
  cases hmid
  exact absurd (hopened id).2 (lt_irrefl 0)

/-- The two conditions, for an event that the kernel checks. -/
def conditionsHold (entry : DeviceEntry) : UsbEvent → Bool
  | .received (.ok ()) count =>
    match entry.holder with
    | some (_, .exchange (.read first response)) =>
      let chunk := entry.pipe.take count
      (first || !chunk.isEmpty) &&
        (frameLength (response ++ chunk)).all fun expected =>
          decide ((response ++ chunk).length ≤ expected)
    | _ => true
  | .sends task bytes =>
    entry.connected.any fun device =>
      (entry.log.any fun event =>
        match event with
        | .submitted task' generation => task' == task && generation == device.generation
        | _ => false) &&
      (frameLength (entry.answers task ++ bytes)).all fun expected =>
        decide ((entry.answers task ++ bytes).length ≤ expected)
  | .opened _ drained => decide (entry.pipe.length ≤ drained)
  | _ => true

/-- The check implies the conditions. -/
theorem conditions_of_conditionsHold (entry : DeviceEntry) (event : UsbEvent)
    (h : conditionsHold entry event = true) :
    DelimitedStep entry event ∧ AnsweringStep entry event := by
  refine ⟨?_, ?_, ?_⟩
  · rintro task first response count hholder rfl
    simp only [conditionsHold, hholder, Bool.and_eq_true] at h
    refine ⟨?_, fun expected hexpected _ => ?_⟩
    · rintro rfl
      simpa using h.1
    · simpa [hexpected] using h.2
  · rintro task bytes rfl
    obtain ⟨device, hconnected, h⟩ := exists_of_any h
    obtain ⟨hsubmitted, hwithin⟩ := (Bool.and_eq_true _ _).mp h
    obtain ⟨event, hmem, hevent⟩ := List.any_eq_true.mp hsubmitted
    refine ⟨device, hconnected, ?_, fun expected hexpected => by simpa [hexpected] using hwithin⟩
    cases event with
    | submitted task' generation =>
      simp only [Bool.and_eq_true, beq_iff_eq] at hevent
      rwa [← hevent.1, ← hevent.2]
    | opened | ended => cases hevent
  · rintro candidates drained rfl
    exact of_decide_eq_true h

/-- The read of the first command fails with a part of the response.  The second caller, who waits for the
mutex, opens the device again, drops the rest of that response, and is answered. -/
def reopenedEvents : List UsbEvent :=
  [.call [1, 0, 0], .call [2, 0, 0], .lock 0, .start (.ok ()), .written (.ok ()) 3, .sends 0 [0x81, 0],
    .received (.ok ()) 1, .received (.error "stall") 0, .lock 1,
    .opened (.ok [⟨7, .ok (smallDevice.serial, (2, 4), 64), .ok ()⟩]) 1, .start (.ok ()),
    .written (.ok ()) 3, .sends 1 [0x82, 0, 0], .received (.ok ()) 3]

/-- A failed command, the new connection, and the answer to the second request. -/
theorem uncertain_connection_not_reused_reopened :
    ∃ s, run DeviceEntry.step (.registered 7 smallDevice) reopenedEvents = some s ∧
      (s.log.any fun event => event matches .submitted 0 0) = true ∧
      (s.log.any fun event => event matches .submitted 1 1) = true ∧
      Discards smallDevice.serial s.log ∧
      (1, .ok [0x82, 0, 0]) ∈ s.returned ∧ [0x82, 0, 0] = s.answers 1 := by
  obtain ⟨s, hrun, h⟩ : ∃ s, run DeviceEntry.step (.registered 7 smallDevice) reopenedEvents = some s ∧
      ((s.log.any fun event => event matches .submitted 0 0) &&
        (s.log.any fun event => event matches .submitted 1 1) &&
        decide ((1, .ok [0x82, 0, 0]) ∈ s.returned)) = true :=
    exists_of_any (by decide +kernel)
  simp only [Bool.and_eq_true, decide_eq_true_eq] at h
  obtain ⟨⟨hfirst, hsecond⟩, hreturned⟩ := h
  have halong : Along DeviceEntry.step
      (fun entry event => DelimitedStep entry event ∧ AnsweringStep entry event)
      (.registered 7 smallDevice) reopenedEvents :=
    along_of_alongAll (fun _ => True) (fun _ _ _ _ _ _ => trivial)
      (fun entry event _ => conditions_of_conditionsHold entry event) trivial
      (by decide +kernel : alongAll _ conditionsHold _ _ = true)
  obtain ⟨-, -, hdiscards, hanswers⟩ := uncertain_connection_not_reused hrun
  exact ⟨s, hrun, hfirst, hsecond, hdiscards (along_mono (fun _ _ h => h.1) halong), hreturned,
    hanswers halong 1 _ hreturned⟩

end Pkcs11rs.Analysis
