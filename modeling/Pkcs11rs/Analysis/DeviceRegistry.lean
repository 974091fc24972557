import Pkcs11rs.Model.DeviceRegistry
import Mathlib.Data.List.Pairwise

/-!
# The inventory of the connector

The records, the USB ids and the claims of the registry fit together whatever the tasks do (`Inventory`).
Generations are given out once, so a record has a generation that no other registration of its serial number
had (`GenerationsFit`), and a report of a lost endpoint can only remove the registration of the transport
that made it (`Reported`).  So every configured endpoint stays registered, filtered or pending
(`EndpointsCovered`).

A USB device takes its generation before it is registered.  If an I2C device of the same serial number is
registered and lost in between, the later registration has the smaller generation
(`registry_inventory_out_of_order`); without that the generations of a serial number increase
(`registry_inventory`).

The latched device of legacy clients is kept as long as its record is not removed by `remove_i2c`, which
clears the latch (`legacy_choice_is_latched`, `legacy_choice_moves`).
-/

set_option autoImplicit false

namespace Pkcs11rs.Analysis

open Pkcs11rs.Library Pkcs11rs.Model Function RegistryState RegistryRun I2cCoordinator

variable {record : DeviceRecord} {entry : RegisteredEntry} {generation : ℕ}
  {coordinator : I2cCoordinator} {lost : EndpointLost} {state state' : RegistryState}
  {serial serial' latched : String} {kind : DeviceTransportKind} {events : List EndpointLost}
  {s s' : RegistryRun} {event : RegistryEvent}

/-! ### What the functions of the registry do -/

/-- A record is inserted. -/
structure Inserted (state state' : RegistryState) (serial : String) (record : DeviceRecord) : Prop where
  absent : state.records serial = none
  named : record.metadata.serial = serial
  records : ∀ serial', state'.records serial' = if serial' = serial then some record
    else state.records serial'
  ids : (∀ id, state'.serialById id = state.serialById id) ∨ record.transport.kind = .usb ∧
    ∃ id, ∀ id', state'.serialById id' = if id' = id then some serial else state.serialById id'
  registrations : state'.registrations =
    state.registrations ++ [(serial, record.transport.connectionGeneration)]
  latch : state'.legacySerial = state.legacySerial ∨
    state'.legacySerial = some (state.legacySerial.getD serial)

/-- A generation is given out. -/
structure GivenOut (state state' : RegistryState) (serial : String) (generation : ℕ) : Prop where
  next : generation = saturatingSucc (state.connectionGenerations serial)
  generations : ∀ serial', state'.connectionGenerations serial' = if serial' = serial then generation
    else state.connectionGenerations serial'

/-- `next_connection_generation`. -/
theorem givenOut_next (state : RegistryState) (serial : String) :
    GivenOut state (state.nextConnectionGeneration serial).2 serial
      (state.nextConnectionGeneration serial).1 :=
  ⟨rfl, fun serial' => update_apply _ serial _ serial'⟩

/-- What `register_filtered` inserts. -/
theorem registerFiltered_ok {version : Option DeviceVersion}
    (h : state.registerFiltered serial version kind = .ok state') :
    ∃ metadata generation, Inserted state state' serial (.filtered metadata ⟨kind, generation⟩) ∧
      GivenOut state state' serial generation := by
  unfold registerFiltered at h
  split_ifs at h with hrecord
  cases h
  refine ⟨_, _, ⟨by simpa using hrecord, rfl, ?_, .inl fun _ => rfl, rfl, .inl rfl⟩, rfl, ?_⟩
  · exact fun serial' => update_apply _ serial _ serial'
  · exact fun serial' => update_apply _ serial _ serial'

/-- What `register_configured` inserts for a claimed serial number. -/
theorem registerConfigured_ok {registry : DeviceRegistry} {version : DeviceVersion}
    {endpoint : Option I2cYubiHsmSpec} {generation : Option ℕ}
    (hclaim : registry.shouldClaim serial = true)
    (h : state.registerConfigured registry serial version kind endpoint = .ok (generation, state')) :
    ∃ entry : RegisteredEntry, entry.legacyOnly = (!registry.allowsSerial serial) ∧
      entry.endpoint = endpoint ∧ entry.deviceTransport.kind = kind ∧
      generation = some entry.deviceTransport.connectionGeneration ∧
      Inserted state state' serial (.claimed entry) ∧
      GivenOut state state' serial entry.deviceTransport.connectionGeneration := by
  unfold registerConfigured at h
  split_ifs at h with hrecord
  cases h
  refine ⟨_, rfl, rfl, rfl, rfl, ⟨by simpa using hrecord, rfl, ?_, .inl fun _ => rfl, rfl, .inr rfl⟩, rfl, ?_⟩
  · exact fun serial' => update_apply _ serial _ serial'
  · exact fun serial' => update_apply _ serial _ serial'

/-- A device with a duplicate serial number is not registered. -/
theorem register_cases (state : RegistryState) (id : ℕ) (hkind : record.transport.kind = .usb) :
    (state.register id record).2 = state ∨
      Inserted state (state.register id record).2 record.metadata.serial record ∧
        (state.register id record).2.connectionGenerations = state.connectionGenerations := by
  unfold register
  dsimp only
  split_ifs with hrecord hclaimed
  · exact .inl rfl
  · refine .inr ⟨⟨by simpa using hrecord, rfl, ?_, .inr ⟨hkind, id, ?_⟩, rfl, .inr rfl⟩, rfl⟩
    · exact fun serial' => update_apply _ _ _ serial'
    · exact fun id' => update_apply _ id _ id'
  · refine .inr ⟨⟨by simpa using hrecord, rfl, ?_, .inr ⟨hkind, id, ?_⟩, rfl, .inl rfl⟩, rfl⟩
    · exact fun serial' => update_apply _ _ _ serial'
    · exact fun id' => update_apply _ id _ id'

/-- A record is removed. -/
structure Removed (state state' : RegistryState) (serial : String) : Prop where
  records : ∀ serial', state'.records serial' = if serial' = serial then none else state.records serial'
  generations : state'.connectionGenerations = state.connectionGenerations
  registrations : state'.registrations = state.registrations

/-- A report removes a record of its serial number, its generation and I2C, or nothing. -/
theorem removeI2c_cases (state : RegistryState) (serial generation : ℕ) :
    state.removeI2c serial generation = (false, state) ∨
      ∃ record state', state.removeI2c serial generation = (true, state') ∧
        state.records (toString serial) = some record ∧ record.transport = ⟨.i2c, generation⟩ ∧
        Removed state state' (toString serial) ∧ state'.serialById = state.serialById ∧
        (state'.legacySerial = state.legacySerial ∨ state.legacySerial = some (toString serial)) := by
  unfold removeI2c
  dsimp only
  rcases hrecord : state.records (toString serial) with _ | record
  · exact .inl rfl
  · dsimp only
    split_ifs with htransport hlegacy
    · refine .inr ⟨record, _, rfl, rfl, htransport, ⟨?_, rfl, rfl⟩, rfl, .inr hlegacy⟩
      exact fun serial' => update_apply _ _ _ serial'
    · refine .inr ⟨record, _, rfl, rfl, htransport, ⟨?_, rfl, rfl⟩, rfl, .inl rfl⟩
      exact fun serial' => update_apply _ _ _ serial'
    · exact .inl rfl

/-- What `detach` removes. -/
theorem detach_cases (state : RegistryState) (id : ℕ) :
    state.detach id = state ∨ ∃ serial, state.serialById id = some serial ∧
      Removed state (state.detach id) serial ∧
      (∀ id', (state.detach id).serialById id' = if id' = id then none else state.serialById id') ∧
      (state.detach id).legacySerial = state.legacySerial := by
  unfold detach
  rcases hid : state.serialById id with _ | serial
  · exact .inl rfl
  · refine .inr ⟨serial, rfl, ⟨?_, rfl, rfl⟩, ?_, rfl⟩
    · exact fun serial' => update_apply _ serial _ serial'
    · exact fun id' => update_apply _ id _ id'

/-! ### Records, ids and claims -/

/-- A record may be registered for its serial number. -/
def MayRegister (registry : DeviceRegistry) (record : DeviceRecord) : Prop :=
  ∀ entry, record = .claimed entry → registry.shouldClaim entry.metadata.serial = true ∧
    entry.legacyOnly = !registry.allowsSerial entry.metadata.serial

/-- A claimed device may be registered. -/
theorem mayRegister_claimed {registry : DeviceRegistry}
    (hclaim : registry.shouldClaim serial = true) (hnamed : entry.metadata.serial = serial)
    (hlegacy : entry.legacyOnly = !registry.allowsSerial serial) :
    MayRegister registry (.claimed entry) := by
  rintro _ ⟨rfl⟩
  rw [hnamed]
  exact ⟨hclaim, hlegacy⟩

/-- A filtered device may be registered. -/
theorem mayRegister_filtered {registry : DeviceRegistry} (metadata : DeviceMetadata)
    (transport : DeviceTransportView) : MayRegister registry (.filtered metadata transport) := by
  intro entry h
  cases h

/-- Records are kept under their serial number, only devices that should be claimed are, and the USB ids
have USB records of their own. -/
structure Inventory (registry : DeviceRegistry) (state : RegistryState) : Prop where
  named : ∀ {serial record}, state.records serial = some record → record.metadata.serial = serial
  admissible : ∀ {serial record}, state.records serial = some record → MayRegister registry record
  usb : ∀ {id serial}, state.serialById id = some serial →
    ∃ record, state.records serial = some record ∧ record.transport.kind = .usb
  alone : ∀ {id id' serial}, state.serialById id = some serial → state.serialById id' = some serial →
    id = id'

section Inventory

variable {registry : DeviceRegistry} {state state' : RegistryState}

/-- The registry is empty at first. -/
theorem inventory_initial : Inventory registry .initial := by
  refine ⟨?_, ?_, ?_, ?_⟩
  · intro serial record h
    cases h
  · intro serial record h
    cases h
  · intro id serial h
    cases h
  · intro id id' serial h
    cases h

/-- A record of a serial number that was absent is inserted, with or without an id of its own. -/
theorem Inventory.inserted (h : Inventory registry state)
    (hinserted : Inserted state state' serial record) (hadmissible : MayRegister registry record) :
    Inventory registry state' := by
  obtain ⟨hnamed, hmay, husb, halone⟩ := h
  obtain ⟨habsent, hname, hrecords, hids, _, _⟩ := hinserted
  refine ⟨?_, ?_, ?_, ?_⟩ <;> grind

/-- A record that no USB id has goes, or one with its id. -/
theorem Inventory.removed (h : Inventory registry state) (hremoved : Removed state state' serial)
    (hids : ∀ id serial', state'.serialById id = some serial' →
      state.serialById id = some serial' ∧ serial' ≠ serial) : Inventory registry state' := by
  obtain ⟨hnamed, hmay, husb, halone⟩ := h
  obtain ⟨hrecords, _, _⟩ := hremoved
  refine ⟨?_, ?_, ?_, ?_⟩ <;> grind

/-- Embedded devices are inserted one after the other. -/
theorem startEmbedded_induction {P : RegistryState → Prop}
    (hinsert : ∀ {state state' serial record}, P state → Inserted state state' serial record →
      GivenOut state state' serial record.transport.connectionGeneration →
      MayRegister registry record → P state')
    {devices : List (ℕ × DeviceVersion)} (h : P state)
    (hstart : startEmbedded registry state devices = .ok state') : P state' := by
  induction devices generalizing state with
  | nil =>
    cases hstart
    exact h
  | cons device devices ih =>
    obtain ⟨serial, version⟩ := device
    simp only [startEmbedded] at hstart
    split_ifs at hstart with hclaim
    · rcases hregistered : state.registerConfigured registry (toString serial) version .embedded none
        with error | ⟨generation, next⟩
      · rw [hregistered] at hstart
        cases hstart
      · rw [hregistered] at hstart
        obtain ⟨entry, hlegacy, _, _, _, hinserted, hgiven⟩ := registerConfigured_ok hclaim hregistered
        refine ih (hinsert h hinserted hgiven ?_) hstart
        exact mayRegister_claimed hclaim hinserted.named hlegacy
    · rcases hregistered : state.registerFiltered (toString serial) none .embedded with error | next
      · rw [hregistered] at hstart
        cases hstart
      · rw [hregistered] at hstart
        obtain ⟨metadata, generation, hinserted, hgiven⟩ := registerFiltered_ok hregistered
        exact ih (hinsert h hinserted hgiven (mayRegister_filtered _ _)) hstart

end Inventory

/-! ### Generations -/

/-- No generation has reached the limit. -/
def Below (state : RegistryState) : Prop := ∀ serial, state.connectionGenerations serial < u64Max

/-- The counter has not reached its end. -/
theorem saturatingSucc_of_lt (h : saturatingSucc generation < u64Max) :
    saturatingSucc generation = generation + 1 := by
  unfold saturatingSucc at h ⊢
  omega

section GenerationsFit

variable {state state' : RegistryState} {serial : String}

/-- Below the limit generations are counted. -/
theorem GivenOut.below (hgiven : GivenOut state state' serial generation) (h : Below state') :
    Below state ∧ generation = state.connectionGenerations serial + 1 := by
  obtain ⟨hnext, hgenerations⟩ := hgiven
  have hnew := h serial
  rw [hgenerations, if_pos rfl, hnext] at hnew
  have hsucc := saturatingSucc_of_lt hnew
  refine ⟨fun serial' => ?_, hnext.trans hsucc⟩
  have hold := h serial'
  rw [hgenerations] at hold
  split_ifs at hold with hserial
  · rw [hserial]
    omega
  · exact hold

/-- Generations do not decrease. -/
theorem GivenOut.le (hgiven : GivenOut state state' serial generation) (h : Below state')
    (serial' : String) :
    state.connectionGenerations serial' ≤ state'.connectionGenerations serial' := by
  have hgeneration := (hgiven.below h).2
  have hgenerations := hgiven.generations serial'
  grind

/-- The generations of registrations were given out, each for one registration, and a record has that of the
last registration of its serial number. -/
structure GenerationsFit (state : RegistryState) : Prop where
  bounded : ∀ {serial g}, (serial, g) ∈ state.registrations → g ≤ state.connectionGenerations serial
  unique : state.registrations.Nodup
  latest : ∀ {serial record}, state.records serial = some record → ∃ older newer,
    state.registrations = older ++ (serial, record.transport.connectionGeneration) :: newer ∧
      ∀ g, (serial, g) ∉ newer

/-- No generation has been given out at first. -/
theorem generationsFit_initial : GenerationsFit .initial := by
  refine ⟨?_, List.nodup_nil, ?_⟩
  · intro serial g h
    cases h
  · intro serial record h
    cases h

/-- Records go, and generations are given out. -/
theorem GenerationsFit.of_records (h : GenerationsFit state)
    (hrecords : ∀ {serial record}, state'.records serial = some record →
      state.records serial = some record)
    (hregistrations : state'.registrations = state.registrations)
    (hgenerations : ∀ serial, state.connectionGenerations serial ≤
      state'.connectionGenerations serial) : GenerationsFit state' := by
  obtain ⟨hbounded, hunique, hlatest⟩ := h
  refine ⟨fun hg => ?_, ?_, fun hget => ?_⟩
  · exact Nat.le_trans (hbounded (hregistrations ▸ hg)) (hgenerations _)
  · exact hregistrations ▸ hunique
  · exact hregistrations ▸ hlatest (hrecords hget)

/-- A record that is left was there before. -/
theorem Removed.kept (hremoved : Removed state state' serial)
    (h : state'.records serial' = some record) : state.records serial' = some record := by
  have hrecords := hremoved.records serial'
  grind

/-- A record with a generation that no registration had. -/
theorem GenerationsFit.inserted (h : GenerationsFit state)
    (hinserted : Inserted state state' serial record)
    (hnew : (serial, record.transport.connectionGeneration) ∉ state.registrations)
    (hgenerations : ∀ serial, state.connectionGenerations serial ≤
      state'.connectionGenerations serial)
    (hgeneration : record.transport.connectionGeneration ≤ state'.connectionGenerations serial) :
    GenerationsFit state' := by
  obtain ⟨hbounded, hunique, hlatest⟩ := h
  refine ⟨?_, ?_, ?_⟩
  · intro serial' g hg
    rw [hinserted.registrations] at hg
    grind
  · rw [hinserted.registrations]
    exact List.nodup_append.mpr ⟨hunique, List.nodup_singleton _, by grind⟩
  · intro serial' record' hget
    rw [hinserted.records] at hget
    rw [hinserted.registrations]
    split_ifs at hget with hserial
    · cases hget
      exact ⟨state.registrations, [], by rw [hserial], nofun⟩
    · grind

/-- The generation that is given out next is later than all before. -/
theorem GivenOut.later (hgiven : GivenOut state state' serial generation) (h : GenerationsFit state)
    (hbelow : Below state') {g : ℕ} (hg : (serial, g) ∈ state.registrations) : g < generation := by
  rw [(hgiven.below hbelow).2]
  exact Nat.lt_succ_of_le (h.bounded hg)

/-- A record with a new generation is inserted. -/
theorem GenerationsFit.given (h : GenerationsFit state)
    (hinserted : Inserted state state' serial record)
    (hgiven : GivenOut state state' serial record.transport.connectionGeneration)
    (hbelow : Below state') : GenerationsFit state' := by
  refine h.inserted hinserted (fun hmem => Nat.lt_irrefl _ (hgiven.later h hbelow hmem))
    (hgiven.le hbelow) ?_
  rw [hgiven.generations, if_pos rfl]

end GenerationsFit

/-- The generations of every serial number increase. -/
def Increasing (state : RegistryState) : Prop :=
  ∀ serial, ((state.registrations.filter fun entry => entry.1 = serial).map (·.2)).Pairwise (· < ·)

/-- A registration with a generation later than those before. -/
theorem Increasing.insert (h : Increasing state)
    (hlater : ∀ g, (serial, g) ∈ state.registrations → g < generation)
    (hregistrations : state'.registrations = state.registrations ++ [(serial, generation)]) :
    Increasing state' := by
  intro serial'
  rw [hregistrations, List.filter_append, List.map_append]
  by_cases hserial : serial = serial'
  · subst hserial
    refine List.pairwise_append.mpr ⟨h serial, by simp, ?_⟩
    grind
  · simpa [hserial] using h serial'

/-! ### The tasks -/

/-- What the task of USB discovery is about to register is a USB record that may be registered. -/
def UsbReady (registry : DeviceRegistry) : UsbTask → Prop
  | .idle => True
  | .numbering id outcome => ∀ generation, MayRegister registry (outcome.record registry id generation)
  | .registering _ record => MayRegister registry record ∧ record.transport.kind = .usb

section

variable (registry : DeviceRegistry) (id generation : ℕ) (outcome : AttachOutcome)

/-- The record of a USB device has its generation. -/
theorem kind_record : (outcome.record registry id generation).transport = ⟨.usb, generation⟩ := by
  cases outcome <;> rfl

/-- The record of a USB device has its metadata. -/
theorem metadata_record : (outcome.record registry id generation).metadata = outcome.metadata := by
  cases outcome <;> rfl

end

/-- `attach_candidate` changes nothing but what its task will register. -/
theorem attach_cases (s : RegistryRun) (id : ℕ) (candidate : AttachedCandidate) :
    s.attach id candidate = s ∨ ∃ outcome,
      s.attach id candidate = { s with usb := .numbering id outcome } ∧
        ∀ generation, MayRegister s.registry (outcome.record s.registry id generation) := by
  unfold attach
  split_ifs with hid
  · exact .inl rfl
  · rcases candidate.serial with _ | serial
    · exact .inl rfl
    · dsimp only
      split_ifs with hempty hclaim
      · exact .inl rfl
      · rcases candidate.opened with _ | ⟨manufacturer, product, version⟩
        · refine .inr ⟨_, rfl, fun generation entry hentry => ?_⟩
          cases hentry
        · exact .inr ⟨_, rfl, fun generation => mayRegister_claimed hclaim rfl rfl⟩
      · exact .inr ⟨_, rfl, fun generation => mayRegister_filtered _ _⟩

/-- A registration of an I2C device: it fails, or inserts a record, and a transport if it is claimed. -/
theorem registerOne_cases (s : RegistryRun) (jobs : List (I2cYubiHsmSpec × Option Bool)) (job : ℕ)
    (spec : I2cYubiHsmSpec) (serial : ℕ) (version : DeviceVersion) :
    s.registerOne jobs job spec serial version = s.finishJob jobs job spec false ∨
    (∃ state entry, Inserted s.state state (toString serial) (.claimed entry) ∧
      GivenOut s.state state (toString serial) entry.deviceTransport.connectionGeneration ∧
      MayRegister s.registry (.claimed entry) ∧ entry.endpoint = some spec ∧
      entry.deviceTransport.kind = .i2c ∧
      s.registerOne jobs job spec serial version = finishJob { s with
        state := state
        connections := s.connections ++ [⟨spec, serial, entry.deviceTransport.connectionGeneration⟩] }
        jobs job spec true) ∨
    ∃ state metadata transport, Inserted s.state state (toString serial) (.filtered metadata transport) ∧
      GivenOut s.state state (toString serial) transport.connectionGeneration ∧
      transport.kind = .i2c ∧
      s.registerOne jobs job spec serial version = finishJob { s with
        state := state
        filteredEndpoints := s.filteredEndpoints ++ [(spec, toString serial)] } jobs job spec true := by
  unfold registerOne
  split_ifs with hclaim
  · rcases hregistered : s.state.registerConfigured s.registry (toString serial) version .i2c (some spec)
      with error | ⟨generation, state⟩
    · exact .inl rfl
    · obtain ⟨entry, hlegacy, hendpoint, hkind, rfl, hinserted, hgiven⟩ :=
        registerConfigured_ok hclaim hregistered
      exact .inr (.inl ⟨state, entry, hinserted, hgiven,
        mayRegister_claimed hclaim hinserted.named hlegacy, hendpoint, hkind, rfl⟩)
  · rcases hregistered : s.state.registerFiltered (toString serial) (some version) .i2c with error | state
    · exact .inl rfl
    · obtain ⟨metadata, generation, hinserted, hgiven⟩ := registerFiltered_ok hregistered
      exact .inr (.inr ⟨state, metadata, _, hinserted, hgiven, rfl, rfl⟩)

/-- A job of the round ends; only its own endpoint may leave the pending ones, after a success. -/
theorem mem_pending_finish {jobs : List (I2cYubiHsmSpec × Option Bool)} {job : ℕ}
    {spec other : I2cYubiHsmSpec} {ok : Bool} (hjob : jobs[job]? = some (spec, none))
    (hother : other ∈ (round jobs).pending) :
    other ∈ (round (jobs.set job (spec, some ok))).pending ∨
      other = spec ∧ ok = true := by
  obtain ⟨entry, hentry, rfl⟩ := List.mem_map.mp hother
  obtain ⟨hmem, hresult⟩ := List.mem_filter.mp hentry
  obtain ⟨index, hindex⟩ := List.mem_iff_getElem?.mp hmem
  by_cases hsame : index = job
  · subst hsame
    rw [hjob] at hindex
    cases hindex
    cases ok with
    | true => exact .inr ⟨rfl, rfl⟩
    | false =>
      refine .inl (List.mem_map.mpr ⟨(spec, some false), List.mem_filter.mpr ⟨?_, by simp⟩, rfl⟩)
      refine List.mem_iff_getElem?.mpr ⟨index, ?_⟩
      rw [List.getElem?_set_self (List.getElem?_eq_some_iff.mp hjob).1]
  · refine .inl (List.mem_map.mpr ⟨entry, List.mem_filter.mpr ⟨?_, hresult⟩, rfl⟩)
    refine List.mem_iff_getElem?.mpr ⟨index, ?_⟩
    rw [List.getElem?_set_ne (Ne.symm hsame)]
    exact hindex

/-- What is pending at the start. -/
theorem pending_start (pending : List I2cYubiHsmSpec) : (I2cCoordinator.start pending).pending = pending := by
  have hfilter : (pending.map fun spec => (spec, (none : Option Bool))).filter
      (fun job => job.2 ≠ some true) = pending.map fun spec => (spec, none) := by simp
  simp only [I2cCoordinator.start, I2cCoordinator.pending, hfilter, List.map_map]
  exact List.map_id pending

/-- The record of an I2C device of an endpoint: with a transport for it, or filtered. -/
def RecordOf (spec : I2cYubiHsmSpec) (serial : String) (filteredEndpoints : List (I2cYubiHsmSpec × String))
    (record : DeviceRecord) : Prop :=
  (∃ entry, record = .claimed entry ∧ entry.deviceTransport.kind = .i2c ∧ entry.endpoint = some spec) ∨
    ∃ metadata transport, record = .filtered metadata transport ∧ transport.kind = .i2c ∧
      (spec, serial) ∈ filteredEndpoints

/-- What a step can do. -/
inductive Moved (s : RegistryRun) : RegistryEvent → RegistryRun → Prop where
  | kept (event : RegistryEvent) (usb : UsbTask) (coordinator : I2cCoordinator) (events : List EndpointLost)
      (husb : usb = s.usb ∨ UsbReady s.registry usb ∧ ∀ id record, usb ≠ .registering id record)
      (hevents : ∀ lost ∈ events, lost ∈ s.events ∨ lost ∈ s.connections)
      (hpending : ∀ spec ∈ s.coordinator.pending, spec ∈ coordinator.pending) :
      Moved s event { s with usb := usb, coordinator := coordinator, events := events }
  | numbered (id : ℕ) (outcome : AttachOutcome) (husb : s.usb = .numbering id outcome) :
      Moved s .numberUsb
        { s with
          state := (s.state.nextConnectionGeneration outcome.metadata.serial).2
          usb := .registering id (outcome.record s.registry id
            (s.state.nextConnectionGeneration outcome.metadata.serial).1) }
  | registered (id : ℕ) (record : DeviceRecord) (state : RegistryState)
      (husb : s.usb = .registering id record)
      (hinserted : Inserted s.state state record.metadata.serial record)
      (hgenerations : state.connectionGenerations = s.state.connectionGenerations) :
      Moved s .registerUsb { s with state := state, usb := .idle }
  | connected (job : ℕ) (spec : I2cYubiHsmSpec) (serial : ℕ) (version : DeviceVersion)
      (state : RegistryState) (record : DeviceRecord) (connections : List EndpointLost)
      (filteredEndpoints : List (I2cYubiHsmSpec × String)) (coordinator : I2cCoordinator)
      (hinserted : Inserted s.state state (toString serial) record)
      (hgiven : GivenOut s.state state (toString serial) record.transport.connectionGeneration)
      (hadmissible : MayRegister s.registry record)
      (hrecord : RecordOf spec (toString serial) filteredEndpoints record)
      (hconnections : ∀ lost ∈ connections, lost ∈ s.connections ∨
        lost = ⟨spec, serial, record.transport.connectionGeneration⟩ ∧
          ∃ entry, record = .claimed entry ∧ entry.endpoint = some spec)
      (hmade : s.connections ⊆ connections) (hfiltered : s.filteredEndpoints ⊆ filteredEndpoints)
      (hpending : ∀ other ∈ s.coordinator.pending, other ∈ coordinator.pending ∨ other = spec) :
      Moved s (.registerOne job (some (serial, version)))
        { s with
          state := state
          connections := connections
          filteredEndpoints := filteredEndpoints
          coordinator := coordinator }
  | detached (id : ℕ) (serial : String) (state : RegistryState) (hid : s.state.serialById id = some serial)
      (hremoved : Removed s.state state serial)
      (hids : ∀ id', state.serialById id' = if id' = id then none else s.state.serialById id')
      (hlegacy : state.legacySerial = s.state.legacySerial) :
      Moved s (.detach id) { s with state := state }
  | received (lost : EndpointLost) (events : List EndpointLost) (coordinator : I2cCoordinator)
      (record : DeviceRecord) (state : RegistryState) (hevents : s.events = lost :: events)
      (hpending : ∀ spec ∈ s.coordinator.pending, spec ∈ coordinator.pending)
      (hspec : lost.spec ∈ coordinator.pending)
      (hget : s.state.records (toString lost.serial) = some record)
      (htransport : record.transport = ⟨.i2c, lost.generation⟩)
      (hremoval : s.state.removeI2c lost.serial lost.generation = (true, state))
      (hremoved : Removed s.state state (toString lost.serial))
      (hids : state.serialById = s.state.serialById)
      (hlegacy : state.legacySerial = s.state.legacySerial ∨
        s.state.legacySerial = some (toString lost.serial)) :
      Moved s .receive { s with state := state, events := events, coordinator := coordinator }

section Moved

variable {s s' : RegistryRun} {event : RegistryEvent}

/-- The coordinator plans its next round. -/
theorem moved_planned (event : RegistryEvent)
    (hpending : ∀ spec ∈ s.coordinator.pending, spec ∈ coordinator.pending) :
    Moved s event { s with coordinator := coordinator } :=
  .kept event s.usb coordinator s.events (.inl rfl) (fun _ hlost => .inl hlost) hpending

/-- A report is handled. -/
theorem moved_receive {pending : List I2cYubiHsmSpec} (hpending : s.coordinator.pending = pending)
    (hevents : s.events = lost :: events)
    (hcoordinator : coordinator.pending = (s.handleEvent pending lost).1) :
    Moved s .receive { s with
      state := (s.handleEvent pending lost).2.state
      events := events
      coordinator := coordinator } := by
  simp only [handleEvent] at hcoordinator ⊢
  have hkept : ∀ spec ∈ s.coordinator.pending, spec ∈ coordinator.pending := by
    grind
  rcases removeI2c_cases s.state lost.serial lost.generation with
    hsame | ⟨record, state, hremoval, hget, htransport, hremoved, hids, hlegacy⟩
  · rw [hsame]
    exact .kept _ s.usb coordinator events (.inl rfl) (by grind) hkept
  · rw [hremoval] at hcoordinator ⊢
    exact .received lost events coordinator record state hevents hkept (by grind) hget htransport hremoval
      hremoved hids hlegacy

/-- A registration ends. -/
theorem moved_registerOne {job : ℕ} {identity : Option (ℕ × DeviceVersion)}
    (h : s.step (.registerOne job identity) = some s') :
    Moved s (.registerOne job identity) s' := by
  rcases hcoordinator : s.coordinator with jobs | pending | pending <;>
    simp only [step, hcoordinator] at h <;> try cases h
  rcases hjob : jobs[job]? with _ | ⟨spec, _ | result⟩ <;> rw [hjob] at h <;> try cases h
  have hpending : ∀ ok, ∀ other ∈ s.coordinator.pending,
      other ∈ (round (jobs.set job (spec, some ok))).pending ∨
        other = spec ∧ ok = true := by
    intro ok other hother
    rw [hcoordinator] at hother
    exact mem_pending_finish hjob hother
  have hfailed : Moved s (.registerOne job identity) (s.finishJob jobs job spec false) :=
    moved_planned _ fun other hother => by simpa using hpending false other hother
  have hdone : ∀ other ∈ s.coordinator.pending,
      other ∈ (round (jobs.set job (spec, some true))).pending ∨ other = spec :=
    fun other hother => (hpending true other hother).imp_right And.left
  rcases identity with _ | ⟨serial, version⟩ <;> cases h
  · exact hfailed
  · rcases registerOne_cases s jobs job spec serial version with
      hnone | ⟨state, entry, hinserted, hgiven, hadmissible, hendpoint, hkind, hentry⟩ |
        ⟨state, metadata, transport, hinserted, hgiven, hkind, hentry⟩
    · rw [hnone]
      exact hfailed
    · rw [hentry]
      exact .connected job spec serial version state _ _ s.filteredEndpoints _ hinserted hgiven
        hadmissible (.inl ⟨entry, rfl, hkind, hendpoint⟩)
        (by simpa [or_imp, forall_and] using ⟨fun _ => .inl, .inr ⟨rfl, hendpoint⟩⟩)
        (List.subset_append_left _ _) (List.Subset.refl _) hdone
    · rw [hentry]
      exact .connected job spec serial version state _ s.connections _ _ hinserted hgiven
        (mayRegister_filtered _ _) (.inr ⟨metadata, transport, rfl, hkind, by simp⟩)
        (fun _ hlost => .inl hlost) (List.Subset.refl _) (List.subset_append_left _ _) hdone

/-- **Every step is one of the moves.** -/
theorem moved_of_step (hready : UsbReady s.registry s.usb) (h : s.step event = some s') :
    Moved s event s' := by
  have hsame : ∀ spec ∈ s.coordinator.pending, spec ∈ s.coordinator.pending := fun _ hspec => hspec
  have hsent : ∀ lost ∈ s.events, lost ∈ s.events ∨ lost ∈ s.connections := fun _ hlost => .inl hlost
  cases event with
  | attach id candidate =>
    rcases husb : s.usb with _ | ⟨_, _⟩ | ⟨_, _⟩ <;> simp only [step, husb] at h <;> cases h
    rcases attach_cases s id candidate with hattached | ⟨outcome, hattached, houtcome⟩
    · rw [hattached]
      exact moved_planned _ hsame
    · rw [hattached]
      exact .kept _ _ s.coordinator s.events (.inr ⟨houtcome, fun _ _ => by simp⟩) hsent hsame
  | numberUsb =>
    rcases husb : s.usb with _ | ⟨id, outcome⟩ | ⟨_, _⟩ <;> simp only [step, husb] at h <;>
      cases h
    exact .numbered id outcome husb
  | registerUsb =>
    rcases husb : s.usb with _ | ⟨_, _⟩ | ⟨id, record⟩ <;> simp only [step, husb] at h <;>
      cases h
    rw [husb] at hready
    rcases register_cases s.state id hready.2 with hregistered | ⟨hinserted, hgenerations⟩
    · rw [hregistered]
      exact .kept _ .idle s.coordinator s.events (.inr ⟨trivial, fun _ _ => by simp⟩) hsent hsame
    · exact .registered id record _ husb hinserted hgenerations
  | detach id =>
    rcases husb : s.usb with _ | ⟨_, _⟩ | ⟨_, _⟩ <;> simp only [step, husb] at h <;> cases h
    have hmoved : Moved s (.detach id) { s with state := s.state.detach id } := by
      rcases detach_cases s.state id with hdetached | ⟨serial, hid, hremoved, hids, hlegacy⟩
      · rw [hdetached]
        exact moved_planned _ hsame
      · exact .detached id serial _ hid hremoved hids hlegacy
    simpa only [husb] using hmoved
  | registerOne job identity => exact moved_registerOne h
  | collect =>
    rcases hcoordinator : s.coordinator with jobs | pending | pending <;>
      simp only [step, hcoordinator] at h <;> try cases h
    split_ifs at h
    cases h
    exact moved_planned _ (by rw [hcoordinator]; exact fun _ hspec => hspec)
  | receive =>
    rcases hcoordinator : s.coordinator with jobs | pending | pending <;>
      rcases hevents : s.events with _ | ⟨event, events⟩ <;>
      simp only [step, hcoordinator, hevents] at h <;> cases h
    · exact moved_receive (by rw [hcoordinator]; rfl) hevents rfl
    · exact moved_receive (by rw [hcoordinator]; rfl) hevents (pending_start _)
  | drained =>
    rcases hcoordinator : s.coordinator with jobs | pending | pending <;>
      rcases hevents : s.events with _ | ⟨event, events⟩ <;>
      simp only [step, hcoordinator, hevents] at h <;> cases h
    have hplanned : Moved s .drained { s with coordinator := .waiting pending } :=
      moved_planned _ (by rw [hcoordinator]; exact fun _ hspec => hspec)
    simpa only [hevents] using hplanned
  | retry =>
    rcases hcoordinator : s.coordinator with jobs | pending | pending <;>
      simp only [step, hcoordinator] at h <;> try cases h
    split_ifs at h
    cases h
    refine moved_planned _ ?_
    rw [hcoordinator, pending_start]
    exact fun _ hspec => hspec
  | lose connection =>
    obtain ⟨event, hget, rfl⟩ := Option.map_eq_some_iff.mp h
    exact .kept _ s.usb s.coordinator _ (.inl rfl) (by grind) hsame

/-- A step does not take back a generation. -/
theorem Moved.below (hmoved : Moved s event s') (hbelow : Below s'.state) : Below s.state := by
  cases hmoved with
  | kept => exact hbelow
  | numbered id outcome husb => exact ((givenOut_next _ _).below hbelow).1
  | registered id record state husb hinserted hgenerations => exact fun serial => hgenerations ▸ hbelow serial
  | connected _ _ _ _ _ _ _ _ _ _ hgiven => exact (hgiven.below hbelow).1
  | detached id serial state hid hremoved => exact fun serial => hremoved.generations ▸ hbelow serial
  | received _ _ _ _ _ _ _ _ _ _ _ hremoved => exact fun serial => hremoved.generations ▸ hbelow serial

end Moved

/-! ### What every run keeps -/

/-- The filters do not change. -/
theorem Moved.registry (h : Moved s event s') : s'.registry = s.registry := by
  cases h <;> rfl

/-- The inventory, with what USB discovery is about to register. -/
structure Stocked (s : RegistryRun) : Prop where
  inventory : Inventory s.registry s.state
  ready : UsbReady s.registry s.usb

/-- A move keeps the inventory. -/
theorem Stocked.moved (h : Stocked s) (hmoved : Moved s event s') : Stocked s' := by
  obtain ⟨hinventory, hready⟩ := h
  cases hmoved with
  | kept _ usb coordinator events husb =>
    refine ⟨hinventory, ?_⟩
    rcases husb with rfl | ⟨husb, _⟩
    · exact hready
    · exact husb
  | numbered id outcome husb =>
    rw [husb] at hready
    refine ⟨⟨hinventory.named, hinventory.admissible, hinventory.usb, hinventory.alone⟩, hready _, ?_⟩
    rw [kind_record]
  | registered id record state husb hinserted =>
    rw [husb] at hready
    exact ⟨hinventory.inserted hinserted hready.1, trivial⟩
  | connected _ _ _ _ _ _ _ _ _ hinserted _ hadmissible =>
    exact ⟨hinventory.inserted hinserted hadmissible, hready⟩
  | detached id serial state hid hremoved hids =>
    refine ⟨hinventory.removed hremoved fun id' serial' hid' => ?_, hready⟩
    rw [hids] at hid'
    split_ifs at hid' with hne
    refine ⟨hid', ?_⟩
    rintro rfl
    exact hne (hinventory.alone hid' hid)
  | received lost events coordinator record state hevents _ _ hget htransport _ hremoved hids =>
    refine ⟨hinventory.removed hremoved fun id serial hid => ?_, hready⟩
    rw [hids] at hid
    refine ⟨hid, ?_⟩
    rintro rfl
    obtain ⟨record', hrecord', hkind'⟩ := hinventory.usb hid
    grind

/-- A generation that USB discovery has taken is not that of a registration, and a report has the
generation of the registration that made its transport. -/
structure Reported (s : RegistryRun) : Prop where
  numbered : GenerationsFit s.state
  reserved : ∀ {id record}, s.usb = .registering id record →
    record.transport.connectionGeneration ≤ s.state.connectionGenerations record.metadata.serial ∧
      (record.metadata.serial, record.transport.connectionGeneration) ∉ s.state.registrations
  made : ∀ {lost : EndpointLost}, lost ∈ s.connections →
    (toString lost.serial, lost.generation) ∈ s.state.registrations ∧
      ∀ record, s.state.records (toString lost.serial) = some record →
        record.transport.connectionGeneration = lost.generation →
        ∃ entry, record = .claimed entry ∧ entry.endpoint = some lost.spec
  sent : s.events ⊆ s.connections

section Reported

variable {s s' : RegistryRun} {event : RegistryEvent}

/-- Records are removed. -/
theorem Reported.of_records (h : Reported s) (hremoved : Removed s.state state serial)
    (hevents : events ⊆ s.events) :
    Reported { s with state := state, events := events, coordinator := coordinator } := by
  refine ⟨h.numbered.of_records hremoved.kept hremoved.registrations ?_, ?_, ?_, ?_⟩
  · exact fun serial => Nat.le_of_eq (congrFun hremoved.generations serial).symm
  · intro id record husb
    rw [hremoved.registrations, hremoved.generations]
    exact h.reserved husb
  · intro lost hlost
    obtain ⟨hmem, hrecord⟩ := h.made hlost
    rw [hremoved.registrations]
    exact ⟨hmem, fun record hget => hrecord record (hremoved.kept hget)⟩
  · exact List.Subset.trans hevents h.sent

/-- A report of a transport that was made before is not about a new registration. -/
theorem Reported.made_of_insert (h : Reported s) (hinserted : Inserted s.state state serial record)
    (hnew : (serial, record.transport.connectionGeneration) ∉ s.state.registrations)
    (hlost : lost ∈ s.connections) : (toString lost.serial, lost.generation) ∈ state.registrations ∧
      ∀ record, state.records (toString lost.serial) = some record →
        record.transport.connectionGeneration = lost.generation →
        ∃ entry, record = .claimed entry ∧ entry.endpoint = some lost.spec := by
  obtain ⟨hmem, hrecord⟩ := h.made hlost
  have hrecords := hinserted.records (toString lost.serial)
  have hregistrations := hinserted.registrations
  grind

/-- A move keeps the reports in order. -/
theorem Reported.moved (h : Reported s) (hmoved : Moved s event s') (hbelow : Below s'.state) :
    Reported s' := by
  cases hmoved with
  | kept _ usb coordinator events husb hevents =>
    refine ⟨h.numbered, fun {id record} hregistering => ?_, h.made, fun lost hlost => ?_⟩
    · rcases husb with rfl | ⟨_, hnone⟩
      · exact h.reserved hregistering
      · exact absurd hregistering (hnone id record)
    · exact (hevents lost hlost).elim (fun hsent => h.sent hsent) id
  | numbered id outcome husb =>
    have hgiven := givenOut_next s.state outcome.metadata.serial
    refine ⟨h.numbered.of_records (fun hget => hget) rfl (hgiven.le hbelow), ?_, h.made, h.sent⟩
    intro id' record hregistering
    cases hregistering
    rw [metadata_record, kind_record]
    refine ⟨Nat.le_of_eq ?_, fun hmem => ?_⟩
    · rw [hgiven.generations, if_pos rfl]
    · exact Nat.lt_irrefl _ (hgiven.later h.numbered hbelow hmem)
  | registered id record state husb hinserted hgenerations =>
    obtain ⟨hle, hnot⟩ := h.reserved husb
    rw [← hgenerations] at hle
    refine ⟨h.numbered.inserted hinserted hnot (fun serial => by rw [hgenerations]) hle, ?_,
      fun hlost => h.made_of_insert hinserted hnot hlost, h.sent⟩
    intro id' record' hregistering
    cases hregistering
  | connected job spec serial version state record connections _ coordinator hinserted hgiven _ _
      hconnections hmade =>
      have hnot : (toString serial, record.transport.connectionGeneration) ∉ s.state.registrations :=
        fun hmem => Nat.lt_irrefl _ (hgiven.later h.numbered hbelow hmem)
      refine ⟨h.numbered.given hinserted hgiven hbelow, ?_, ?_, List.Subset.trans h.sent hmade⟩
      · -- the generation that USB discovery has taken is not the new one
        intro id waiting husb
        obtain ⟨hle, hnew⟩ := h.reserved husb
        refine ⟨Nat.le_trans hle (hgiven.le hbelow _), ?_⟩
        have hgeneration := (hgiven.below hbelow).2
        have hregistrations := hinserted.registrations
        grind
      · intro lost hlost
        rcases hconnections lost hlost with hold | ⟨rfl, entry, rfl, hendpoint⟩
        · exact h.made_of_insert hinserted hnot hold
        · have hrecords := hinserted.records (toString serial)
          have hregistrations := hinserted.registrations
          grind
  | detached id serial state hid hremoved => exact h.of_records hremoved (List.Subset.refl _)
  | received lost events coordinator record state hevents _ _ _ _ _ hremoved =>
    exact h.of_records hremoved (by grind)

end Reported

/-! ### The order of generations -/

/-- No I2C device is registered with the serial number of a USB device that has its generation and is not
registered yet. -/
def Apart (s : RegistryRun) : RegistryEvent → Prop
  | .registerOne _ (some (serial, _)) =>
    ∀ id record, s.usb = .registering id record → record.metadata.serial ≠ toString serial
  | _ => True

/-- The generations increase, and the one that USB discovery has taken is later than those before. -/
structure InOrder (s : RegistryRun) : Prop where
  increasing : Increasing s.state
  later : ∀ {id record g}, s.usb = .registering id record →
    (record.metadata.serial, g) ∈ s.state.registrations → g < record.transport.connectionGeneration

/-- Nothing new is registered. -/
theorem InOrder.of_state (h : InOrder s)
    (hregistrations : s'.state.registrations = s.state.registrations)
    (husb : ∀ {id record}, s'.usb = .registering id record → s.usb = .registering id record) :
    InOrder s' := by
  refine ⟨fun serial => ?_, fun hregistering hg => ?_⟩
  · rw [hregistrations]
    exact h.increasing serial
  · exact h.later (husb hregistering) (hregistrations ▸ hg)

/-- A move keeps the generations in order. -/
theorem InOrder.moved (h : InOrder s) (hnumbered : GenerationsFit s.state)
    (hmoved : Moved s event s') (hbelow : Below s'.state) (hapart : Apart s event) :
    InOrder s' := by
  cases hmoved with
  | kept _ usb coordinator events husb =>
    refine h.of_state rfl fun {id record} hregistering => ?_
    grind
  | numbered id outcome husb =>
    refine ⟨h.increasing, ?_⟩
    intro id' record g hregistering hg
    cases hregistering
    rw [metadata_record] at hg
    rw [kind_record]
    exact (givenOut_next _ _).later hnumbered hbelow hg
  | registered id record state husb hinserted =>
    refine ⟨h.increasing.insert (fun g hg => h.later husb hg) hinserted.registrations, ?_⟩
    intro id' record' g hregistering
    cases hregistering
  | connected job spec serial version state record connections _ coordinator hinserted hgiven =>
    refine ⟨h.increasing.insert (fun g hg => hgiven.later hnumbered hbelow hg) hinserted.registrations, ?_⟩
    intro id waiting g hregistering hg
    have hother := hapart id waiting hregistering
    have hregistrations := hinserted.registrations
    have hlater := h.later hregistering (g := g)
    grind
  | detached id serial state hid hremoved => exact h.of_state hremoved.registrations fun husb => husb
  | received lost events coordinator record state _ _ _ _ _ _ hremoved =>
    exact h.of_state hremoved.registrations fun husb => husb

/-! ### Configured endpoints -/

/-- An endpoint has a record: its device is claimed with a transport for it, or filtered. -/
def Occupied (s : RegistryRun) (spec : I2cYubiHsmSpec) : Prop :=
  (∃ serial entry, s.state.records serial = some (.claimed entry) ∧
    entry.deviceTransport.kind = .i2c ∧ entry.endpoint = some spec) ∨
  ∃ serial metadata transport, (spec, serial) ∈ s.filteredEndpoints ∧
    s.state.records serial = some (.filtered metadata transport) ∧ transport.kind = .i2c

/-- Every configured endpoint is pending or has a record. -/
def EndpointsCovered (specs : List I2cYubiHsmSpec) (s : RegistryRun) : Prop :=
  ∀ spec ∈ specs, spec ∈ s.coordinator.pending ∨ Occupied s spec

section EndpointsCovered

variable {s s' : RegistryRun} {event : RegistryEvent} {specs : List I2cYubiHsmSpec}

/-- A record occupies its endpoint. -/
theorem RecordOf.occupied {spec : I2cYubiHsmSpec}
    (h : RecordOf spec serial s.filteredEndpoints record)
    (hget : s.state.records serial = some record) : Occupied s spec := by
  rcases h with ⟨entry, rfl, hkind, hendpoint⟩ | ⟨metadata, transport, rfl, hkind, hmem⟩
  · exact .inl ⟨serial, entry, hget, hkind, hendpoint⟩
  · exact .inr ⟨serial, metadata, transport, hmem, hget, hkind⟩

/-- The I2C records of other endpoints stay. -/
theorem EndpointsCovered.mono (h : EndpointsCovered specs s)
    (hpending : ∀ spec ∈ s.coordinator.pending, spec ∈ s'.coordinator.pending ∨ Occupied s' spec)
    (hfiltered : s.filteredEndpoints ⊆ s'.filteredEndpoints)
    (hrecords : ∀ serial record, s.state.records serial = some record → record.transport.kind = .i2c →
      s'.state.records serial = some record ∨
        ∃ entry spec, record = .claimed entry ∧ entry.endpoint = some spec ∧
          spec ∈ s'.coordinator.pending) : EndpointsCovered specs s' := by
  intro spec hspec
  rcases h spec hspec with hin | ⟨serial, entry, hget, hkind, hendpoint⟩ |
    ⟨serial, metadata, transport, hmem, hget, hkind⟩
  · exact hpending spec hin
  · rcases hrecords serial _ hget hkind with hstill | ⟨_, other, ⟨rfl⟩, hother, hgone⟩
    · exact .inr (.inl ⟨serial, entry, hstill, hkind, hendpoint⟩)
    · rw [hendpoint] at hother
      cases hother
      exact .inl hgone
  · rcases hrecords serial _ hget hkind with hstill | ⟨_, _, hclaimed, _, _⟩
    · exact .inr (.inr ⟨serial, metadata, transport, hfiltered hmem, hstill, hkind⟩)
    · cases hclaimed

/-- The other records stay. -/
theorem Inserted.keeps {old : DeviceRecord} (hinserted : Inserted state state' serial record)
    (hget : state.records serial' = some old) : state'.records serial' = some old := by
  have hrecords := hinserted.records serial'
  have habsent := hinserted.absent
  grind

/-- A move loses no endpoint. -/
theorem EndpointsCovered.moved (h : EndpointsCovered specs s) (hstocked : Stocked s) (hreported : Reported s)
    (hmoved : Moved s event s') : EndpointsCovered specs s' := by
  have hsame : ∀ spec ∈ s.coordinator.pending, spec ∈ s.coordinator.pending ∨ Occupied s' spec :=
    fun _ hin => .inl hin
  have hfiltered : s.filteredEndpoints ⊆ s.filteredEndpoints := List.Subset.refl _
  cases hmoved with
  | kept _ usb coordinator events husb hevents hpending =>
    exact h.mono (fun spec hin => .inl (hpending spec hin)) hfiltered fun _ _ hget _ => .inl hget
  | numbered id outcome husb => exact h.mono hsame hfiltered fun _ _ hget _ => .inl hget
  | registered id record state husb hinserted =>
    exact h.mono hsame hfiltered fun _ _ hget _ => .inl (hinserted.keeps hget)
  | connected job spec serial version state record connections filteredEndpoints coordinator hinserted
      hgiven hadmissible hrecord hconnections hmade hsub hpending =>
      refine h.mono (fun other hin => ?_) hsub fun _ _ hget _ => .inl (hinserted.keeps hget)
      rcases hpending other hin with hstill | rfl
      · exact .inl hstill
      · refine .inr (RecordOf.occupied hrecord ?_)
        rw [hinserted.records, if_pos rfl]
  | detached id serial state hid hremoved =>
    refine h.mono hsame hfiltered fun serial' record hget hkind => .inl ?_
    -- the record that goes is one of USB
    obtain ⟨record', husb, hkind'⟩ := hstocked.inventory.usb hid
    have hrecords := hremoved.records serial'
    grind
  | received lost events coordinator record state hevents hpending hspec hget htransport _ hremoved =>
    refine h.mono (fun spec hin => .inl (hpending spec hin)) hfiltered fun serial other hother _ => ?_
    have hlost : lost ∈ s.connections := hreported.sent (by rw [hevents]; exact List.mem_cons_self)
    obtain ⟨entry, rfl, hendpoint⟩ := (hreported.made hlost).2 record hget (by rw [htransport])
    by_cases hserial : serial = toString lost.serial
    · grind
    · exact .inl (by rw [hremoved.records, if_neg hserial]; exact hother)

end EndpointsCovered

/-! ### Runs -/

/-- What holds after every step: the inventory always, and the rest while no generation is at the limit. -/
structure RegistryInvariant (registry : DeviceRegistry) (specs : List I2cYubiHsmSpec)
    (s : RegistryRun) : Prop where
  same : s.registry = registry
  stocked : Stocked s
  reported : Below s.state → Reported s
  covered : Below s.state → EndpointsCovered specs s

/-- One step keeps the invariant. -/
theorem RegistryInvariant.step {registry : DeviceRegistry} {specs : List I2cYubiHsmSpec}
    {s s' : RegistryRun} {event : RegistryEvent} (h : RegistryInvariant registry specs s)
    (hstep : s.step event = some s') : RegistryInvariant registry specs s' := by
  have hmoved := moved_of_step h.stocked.ready hstep
  refine ⟨hmoved.registry.trans h.same, h.stocked.moved hmoved, ?_, ?_⟩
  · intro hbelow
    exact (h.reported (hmoved.below hbelow)).moved hmoved hbelow
  · intro hbelow
    have hbefore := hmoved.below hbelow
    exact (h.covered hbefore).moved h.stocked (h.reported hbefore) hmoved

/-- The invariant holds after the start. -/
theorem registryInvariant_initial {registry : DeviceRegistry} {state : RegistryState}
    {embedded : List (ℕ × DeviceVersion)} (specs : List I2cYubiHsmSpec)
    (hstart : startEmbedded registry .initial embedded = .ok state) :
    RegistryInvariant registry specs (.initial registry state specs) := by
  have hinventory : Inventory registry state :=
    startEmbedded_induction (P := Inventory registry)
      (fun h hinserted _ hadmissible => h.inserted hinserted hadmissible) inventory_initial hstart
  have hnumbered : Below state → GenerationsFit state :=
    startEmbedded_induction (P := fun state => Below state → GenerationsFit state)
      (fun h hinserted hgiven _ hbelow => (h (hgiven.below hbelow).1).given hinserted hgiven hbelow)
      (fun _ => generationsFit_initial) hstart
  refine ⟨rfl, ⟨hinventory, trivial⟩, ?_, ?_⟩
  · intro hbelow
    refine ⟨hnumbered hbelow, ?_, ?_, List.Subset.refl _⟩
    · intro id record hregistering
      cases hregistering
    · intro lost hlost
      cases hlost
  · intro _ spec hspec
    left
    simp only [RegistryRun.initial, pending_start]
    exact hspec

/-- The embedded registrations are in order. -/
theorem increasing_startEmbedded {registry : DeviceRegistry} {embedded : List (ℕ × DeviceVersion)}
    (hstart : startEmbedded registry .initial embedded = .ok state) (hbelow : Below state) :
    Increasing state := by
  refine (startEmbedded_induction
    (P := fun state => Below state → GenerationsFit state ∧ Increasing state) ?_ ?_ hstart hbelow).2
  · intro state state' serial record h hinserted hgiven _ hbelow
    obtain ⟨hnumbered, hincreasing⟩ := h (hgiven.below hbelow).1
    refine ⟨hnumbered.given hinserted hgiven hbelow, hincreasing.insert ?_ hinserted.registrations⟩
    exact fun g hg => hgiven.later hnumbered hbelow hg
  · exact fun _ => ⟨generationsFit_initial, fun _ => List.Pairwise.nil⟩

/-- A serial number that was registered again keeps its record when the report of an older transport comes. -/
theorem Reported.stale (h : Reported s) {older newer : List (String × ℕ)}
    (hsplit : s.state.registrations = older ++ (toString lost.serial, lost.generation) :: newer)
    (hagain : (toString lost.serial, generation) ∈ newer) :
    s.state.removeI2c lost.serial lost.generation = (false, s.state) := by
  rcases removeI2c_cases s.state lost.serial lost.generation with
    hsame | ⟨record, state, _, hget, htransport, _⟩
  · exact hsame
  · exfalso
    obtain ⟨older', newer', hsplit', hlast⟩ := h.numbered.latest hget
    have hunique := h.numbered.unique
    grind [List.append_cons_inj_of_notMem]

/-- A serial number that should not be claimed has no entry, and `get` returns allowed serial numbers only. -/
theorem Stocked.get (h : Stocked s) (hget : s.state.get serial = some entry) :
    s.registry.allowsSerial serial = true := by
  obtain ⟨hclaimed, hlegacy⟩ := Option.filter_eq_some_iff.mp hget
  obtain ⟨record, hrecord, hentry⟩ := Option.bind_eq_some_iff.mp hclaimed
  cases record with
  | claimed entry' =>
    cases hentry
    have hallowed := (h.inventory.admissible hrecord entry rfl).2
    have hnamed : entry.metadata.serial = serial := h.inventory.named hrecord
    rw [hnamed] at hallowed
    rw [hallowed] at hlegacy
    simpa using hlegacy
  | unclaimed | filtered => cases hentry

/-- **The inventory of the registry.**  After every order of the steps of USB discovery, the I2C coordinator
and the transports, below the limit of generations: the USB ids have USB records of their own; the generations
of a serial number increase with each registration; the report of a transport does not remove a record that
was registered after it; a filtered serial number has no entry, and `get` returns allowed ones only; and every
configured endpoint is pending, or its device is registered or filtered. -/
theorem registry_inventory (registry : DeviceRegistry) (embedded : List (ℕ × DeviceVersion))
    (specs : List I2cYubiHsmSpec) (events : List RegistryEvent) (state : RegistryState) (s : RegistryRun)
    (hstart : RegistryRun.startEmbedded registry .initial embedded = .ok state)
    (hrun : run RegistryRun.step (.initial registry state specs) events = some s)
    (hlimit : ∀ serial, s.state.connectionGenerations serial < u64Max)
    (hapart : Along RegistryRun.step Apart (.initial registry state specs) events) :
    (∀ id serial, s.state.serialById id = some serial →
      ∃ record, s.state.records serial = some record ∧ record.transport.kind = .usb) ∧
    (∀ id id' serial, s.state.serialById id = some serial → s.state.serialById id' = some serial →
      id = id') ∧
    (∀ serial, ((s.state.registrations.filter fun entry => entry.1 = serial).map (·.2)).Pairwise
      (· < ·)) ∧
    (∀ lost ∈ s.connections, ∀ older newer generation,
      s.state.registrations = older ++ (toString lost.serial, lost.generation) :: newer →
      (toString lost.serial, generation) ∈ newer →
      s.state.removeI2c lost.serial lost.generation = (false, s.state)) ∧
    (∀ serial, registry.shouldClaim serial = false →
      ∀ entry, s.state.records serial ≠ some (.claimed entry)) ∧
    (∀ serial entry, s.state.get serial = some entry → registry.allowsSerial serial = true) ∧
    ∀ spec ∈ specs, spec ∈ s.coordinator.pending ∨
      (∃ serial entry, s.state.records serial = some (.claimed entry) ∧
        entry.deviceTransport.kind = .i2c ∧ entry.endpoint = some spec) ∨
      ∃ serial metadata transport, (spec, serial) ∈ s.filteredEndpoints ∧
        s.state.records serial = some (.filtered metadata transport) ∧ transport.kind = .i2c := by
  have hs : RegistryInvariant registry specs s ∧ (Below s.state → InOrder s) := by
    refine run_induction
      (fun s => RegistryInvariant registry specs s ∧ (Below s.state → InOrder s)) ?_ events _ s
      ⟨registryInvariant_initial specs hstart, ?_⟩ hapart hrun
    · rintro s event s' ⟨hinvariant, hascending⟩ hsafe hstep
      refine ⟨hinvariant.step hstep, fun hbelow => ?_⟩
      have hmoved := moved_of_step hinvariant.stocked.ready hstep
      have hbefore := hmoved.below hbelow
      exact (hascending hbefore).moved (hinvariant.reported hbefore).numbered hmoved hbelow hsafe
    · intro hbelow
      refine ⟨increasing_startEmbedded hstart hbelow, ?_⟩
      intro id record g hregistering
      cases hregistering
  obtain ⟨hinvariant, hascending⟩ := hs
  have hinventory := hinvariant.stocked.inventory
  refine ⟨fun id serial hid => hinventory.usb hid, fun id id' serial hid hid' => hinventory.alone hid hid',
    (hascending hlimit).increasing, ?_, ?_, ?_, hinvariant.covered hlimit⟩
  · exact fun lost _ older newer generation hsplit hagain =>
      (hinvariant.reported hlimit).stale hsplit hagain
  · intro serial hfiltered entry hrecord
    have hclaim := (hinventory.admissible hrecord entry rfl).1
    have hnamed : entry.metadata.serial = serial := hinventory.named hrecord
    rw [hnamed, hinvariant.same, hfiltered] at hclaim
    cases hclaim
  · intro serial entry hget
    have hallowed := hinvariant.stocked.get hget
    rw [hinvariant.same] at hallowed
    exact hallowed

/-- A step gives out one generation at most. -/
theorem Moved.generations_le (hmoved : Moved s event s') {k : ℕ}
    (h : ∀ serial, s.state.connectionGenerations serial ≤ k) (serial : String) :
    s'.state.connectionGenerations serial ≤ k + 1 := by
  have hkept : s.state.connectionGenerations serial ≤ k + 1 := Nat.le_succ_of_le (h serial)
  have hgiven : ∀ {state serial₀ generation}, GivenOut s.state state serial₀ generation →
      state.connectionGenerations serial ≤ k + 1 := by
    intro state serial₀ generation hgiven
    rw [hgiven.generations, hgiven.next]
    split_ifs
    · exact Nat.le_trans (Nat.min_le_left _ _) (Nat.succ_le_succ (h serial₀))
    · exact hkept
  cases hmoved with
  | kept => exact hkept
  | numbered id outcome husb => exact hgiven (givenOut_next _ _)
  | registered id record state husb hinserted hgenerations => exact hgenerations ▸ hkept
  | connected _ _ _ _ _ _ _ _ _ _ hgeneration => exact hgiven hgeneration
  | detached id serial state hid hremoved => exact hremoved.generations ▸ hkept
  | received _ _ _ _ _ _ _ _ _ _ _ hremoved => exact hremoved.generations ▸ hkept

/-- A run of fewer steps than the limit stays below it. -/
theorem generations_le_length {registry : DeviceRegistry} {specs : List I2cYubiHsmSpec}
    {events : List RegistryEvent} {k : ℕ} (hs : RegistryInvariant registry specs s)
    (h : ∀ serial, s.state.connectionGenerations serial ≤ k) (hrun : run step s events = some s')
    (serial : String) : s'.state.connectionGenerations serial ≤ k + events.length := by
  induction events generalizing s k with
  | nil =>
    cases hrun
    exact h serial
  | cons event events ih =>
    obtain ⟨s₁, hstep, hrest⟩ := Option.bind_eq_some_iff.mp hrun
    have hle := ih (hs.step hstep) ((moved_of_step hs.stocked.ready hstep).generations_le h) hrest
    rw [List.length_cons]
    omega

/-! ### Runs of a few steps -/

def benchSpec : I2cYubiHsmSpec := ⟨"/dev/i2c-1", 0x24, "/dev/gpiochip0", 23⟩

def benchVersion : DeviceVersion := ⟨2, 4, 0⟩

def benchCandidate (serial : String) : AttachedCandidate :=
  ⟨some serial, "Yubico", "YubiHSM", benchVersion, some ("Yubico", "YubiHSM", benchVersion)⟩

/-- Every serial number is claimed. -/
def openRegistry : DeviceRegistry := ⟨none, none⟩

/-- The device of the endpoint is lost, registered again, and reported a second time by the old transport. -/
def lostAndFound : List RegistryEvent :=
  [.registerOne 0 (some (7, benchVersion)), .collect, .drained, .lose 0, .lose 0, .receive,
    .registerOne 0 (some (7, benchVersion)), .collect, .receive]

/-- The run of the example meets the condition. -/
theorem lostAndFound_apart :
    Along step Apart (.initial openRegistry .initial [benchSpec]) lostAndFound := by
  have hidle : ∀ id record, UsbTask.idle = .registering id record →
      record.metadata.serial ≠ toString (7 : ℕ) := by
    intro id record h
    cases h
  refine ⟨hidle, ?_⟩
  rintro _ ⟨⟩
  refine ⟨trivial, ?_⟩
  rintro _ ⟨⟩
  refine ⟨trivial, ?_⟩
  rintro _ ⟨⟩
  refine ⟨trivial, ?_⟩
  rintro _ ⟨⟩
  refine ⟨trivial, ?_⟩
  rintro _ ⟨⟩
  refine ⟨trivial, ?_⟩
  rintro _ ⟨⟩
  exact ⟨hidle, fun _ _ => ⟨trivial, fun _ _ => ⟨trivial, fun _ _ => trivial⟩⟩⟩

/-- The second registration stays, and its endpoint is accounted for. -/
theorem registry_inventory_lostAndFound :
    ∃ s, run RegistryRun.step (.initial openRegistry .initial [benchSpec]) lostAndFound = some s ∧
      s.state.registrations = [("7", 1), ("7", 2)] ∧
      s.state.removeI2c 7 1 = (false, s.state) ∧
      (benchSpec ∈ s.coordinator.pending ∨
        (∃ serial entry, s.state.records serial = some (.claimed entry) ∧
          entry.deviceTransport.kind = .i2c ∧ entry.endpoint = some benchSpec) ∨
        ∃ serial metadata transport, (benchSpec, serial) ∈ s.filteredEndpoints ∧
          s.state.records serial = some (.filtered metadata transport) ∧ transport.kind = .i2c) := by
  obtain ⟨s, hrun, hregistrations, hconnection⟩ : ∃ s,
      run RegistryRun.step (.initial openRegistry .initial [benchSpec]) lostAndFound = some s ∧
      s.state.registrations = [("7", 1), ("7", 2)] ∧ ⟨benchSpec, 7, 1⟩ ∈ s.connections :=
    ⟨_, rfl, by decide, List.mem_cons_self⟩
  have hlimit : ∀ serial, s.state.connectionGenerations serial < u64Max := by
    intro serial
    have hinitial := @registryInvariant_initial openRegistry .initial [] [benchSpec] rfl
    have hle := generations_le_length (k := 0) hinitial (fun _ => Nat.le_refl 0) hrun serial
    exact Nat.lt_of_le_of_lt hle (by decide)
  obtain ⟨_, _, _, hstale, _, _, hcovered⟩ := registry_inventory openRegistry [] [benchSpec] lostAndFound
    .initial s rfl hrun hlimit lostAndFound_apart
  refine ⟨s, hrun, hregistrations, ?_, hcovered benchSpec List.mem_cons_self⟩
  exact hstale ⟨benchSpec, 7, 1⟩ hconnection [] [("7", 2)] 2 hregistrations List.mem_cons_self

/-- A USB device takes generation 1; before it is registered, an I2C device of the same serial number is
registered with generation 2 and lost. -/
theorem registry_inventory_out_of_order :
    ∃ s, run RegistryRun.step (.initial openRegistry .initial [benchSpec])
        [.attach 5 (benchCandidate "7"), .numberUsb, .registerOne 0 (some (7, benchVersion)), .lose 0,
          .collect, .receive, .registerUsb] = some s ∧
      s.state.registrations = [("7", 2), ("7", 1)] :=
  ⟨_, rfl, by decide⟩

/-! ### The device of legacy clients -/

/-- The report that is received is not about the transport under which the latched serial number is
registered. -/
def KeepsLatch (s : RegistryRun) : RegistryEvent → Prop
  | .receive => ∀ lost ∈ s.events.head?, s.state.legacySerial = some (toString lost.serial) →
      ∀ record ∈ s.state.records (toString lost.serial), record.transport ≠ ⟨.i2c, lost.generation⟩
  | _ => True

instance (s : RegistryRun) (event : RegistryEvent) : Decidable (KeepsLatch s event) := by
  unfold KeepsLatch
  split <;> infer_instance

/-- A registration keeps the latch. -/
theorem Inserted.legacySerial (hinserted : Inserted state state' serial record)
    (h : state.legacySerial = some latched) : state'.legacySerial = some latched := by
  rcases hinserted.latch with hsame | hlatched
  · exact hsame.trans h
  · rw [hlatched, h]
    rfl

/-- The latch is kept. -/
theorem Moved.legacySerial (hmoved : Moved s event s') (hkept : KeepsLatch s event)
    (h : s.state.legacySerial = some latched) : s'.state.legacySerial = some latched := by
  cases hmoved with
  | kept | numbered => exact h
  | registered id record state husb hinserted => exact hinserted.legacySerial h
  | connected _ _ _ _ _ _ _ _ _ hinserted => exact hinserted.legacySerial h
  | detached id serial state hid hremoved hids hlegacy => exact hlegacy.trans h
  | received lost events coordinator record state hevents _ _ _ _ hremoval _ _ hlegacy =>
    rcases hlegacy with hsame | hlatched
    · exact hsame.trans h
    · have hother := hkept lost (by rw [hevents]; rfl) hlatched
      grind [removeI2c]

/-- A device that `select_legacy` returns has the serial number that was asked for. -/
theorem Inventory.selectLegacy {registry : DeviceRegistry} (h : Inventory registry state)
    (hselected : (state.records serial).bind DeviceRecord.claimedEntry = some entry) :
    entry.metadata.serial = serial := by
  obtain ⟨record, hrecord, hentry⟩ := Option.bind_eq_some_iff.mp hselected
  cases record with
  | claimed entry' =>
    cases hentry
    exact h.named hrecord
  | unclaimed | filtered => cases hentry

/-- Without a configured serial number the latch decides. -/
theorem Inventory.selectLegacy_none {registry : DeviceRegistry} (h : Inventory registry state)
    (hselected : state.selectLegacy none = some entry) :
    state.legacySerial = some entry.metadata.serial := by
  simp only [RegistryState.selectLegacy] at hselected
  rcases hlatch : state.legacySerial with _ | latched
  · rw [hlatch] at hselected
    cases hselected
  · rw [hlatch] at hselected
    rw [h.selectLegacy hselected]

/-- **The choice for legacy clients is latched.**  A device that `select_legacy` returns without a configured
serial number after some steps is the only one that it returns later, in every run whose reports do not remove
the record of the latched serial number; and with a configured serial number it returns that one only. -/
theorem legacy_choice_is_latched (registry : DeviceRegistry) (embedded : List (ℕ × DeviceVersion))
    (specs : List I2cYubiHsmSpec) (events later : List RegistryEvent) (state : RegistryState)
    (s s' : RegistryRun)
    (hstart : RegistryRun.startEmbedded registry .initial embedded = .ok state)
    (hrun : run RegistryRun.step (.initial registry state specs) events = some s)
    (hlater : run RegistryRun.step s later = some s')
    (hkept : Along RegistryRun.step KeepsLatch s later) :
    (∀ entry entry', s.state.selectLegacy none = some entry → s'.state.selectLegacy none = some entry' →
      entry'.metadata.serial = entry.metadata.serial) ∧
    ∀ serial entry, s'.state.selectLegacy (some serial) = some entry →
      entry.metadata.serial = serial := by
  have hinvariant : RegistryInvariant registry specs s :=
    run_induction (P := fun _ _ => True) (RegistryInvariant registry specs)
      (fun _ _ _ h _ hstep => h.step hstep) events _ s (registryInvariant_initial specs hstart)
      (along_of_forall fun _ _ _ => trivial) hrun
  have hinvariant' : RegistryInvariant registry specs s' :=
    run_induction (P := fun _ _ => True) (RegistryInvariant registry specs)
      (fun _ _ _ h _ hstep => h.step hstep) later s s' hinvariant
      (along_of_forall fun _ _ _ => trivial) hlater
  refine ⟨?_, fun serial entry hselected => hinvariant'.stocked.inventory.selectLegacy hselected⟩
  intro entry entry' hselected hselected'
  have hlatched := hinvariant.stocked.inventory.selectLegacy_none hselected
  have hlatched' : RegistryInvariant registry specs s' ∧
      s'.state.legacySerial = some entry.metadata.serial :=
    run_induction (fun s => RegistryInvariant registry specs s ∧
        s.state.legacySerial = some entry.metadata.serial)
      (fun _ _ _ h hkept hstep =>
        ⟨h.1.step hstep, (moved_of_step h.1.stocked.ready hstep).legacySerial hkept h.2⟩)
      later s s' ⟨hinvariant, hlatched⟩ hkept hlater
  have hchosen := hinvariant'.stocked.inventory.selectLegacy_none hselected'
  exact Option.some.inj (hchosen.symm.trans hlatched'.2)

/-- The device of an endpoint is registered and lost again beside the latched USB device, which is then
detached and comes back under another id. -/
def reattachEvents : List RegistryEvent :=
  [.registerOne 0 (some (8, benchVersion)), .collect, .drained, .lose 0, .receive, .detach 5,
    .attach 9 (benchCandidate "7"), .numberUsb, .registerUsb]

/-- The latched device is chosen before and after. -/
theorem legacy_choice_is_latched_reattached :
    ∃ s s', run RegistryRun.step (.initial openRegistry .initial [benchSpec])
        [.attach 5 (benchCandidate "7"), .numberUsb, .registerUsb] = some s ∧
      run RegistryRun.step s reattachEvents = some s' ∧
      ∃ entry entry', s.state.selectLegacy none = some entry ∧ s'.state.selectLegacy none = some entry' ∧
        entry'.metadata.serial = entry.metadata.serial := by
  refine ⟨_, _, rfl, rfl, _, _, rfl, rfl, ?_⟩
  refine (legacy_choice_is_latched openRegistry [] [benchSpec]
    [.attach 5 (benchCandidate "7"), .numberUsb, .registerUsb] reattachEvents .initial _ _ rfl rfl rfl
    ?_).1 _ _ rfl rfl
  exact along_of_decide (by decide +kernel)

/-- The latched I2C device is lost, and the next device that is attached is latched in its place. -/
theorem legacy_choice_moves :
    ∃ s s', run RegistryRun.step (.initial openRegistry .initial [benchSpec])
        [.registerOne 0 (some (7, benchVersion)), .collect] = some s ∧
      run RegistryRun.step s [.lose 0, .receive, .attach 5 (benchCandidate "8"), .numberUsb,
        .registerUsb] = some s' ∧
      (s.state.selectLegacy none).map (fun entry => entry.metadata.serial) = some "7" ∧
      (s'.state.selectLegacy none).map (fun entry => entry.metadata.serial) = some "8" :=
  ⟨_, _, rfl, rfl, by decide, by decide⟩

end Pkcs11rs.Analysis
