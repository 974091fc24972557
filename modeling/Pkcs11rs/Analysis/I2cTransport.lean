import Pkcs11rs.Library.Runs
import Pkcs11rs.Model.I2cTransport

/-!
# One exchange per endpoint

Two workers may talk to one endpoint: the command of a connection that has been removed from the registry,
and the registration of the endpoint or a command of its new connection.  The bus lock does not keep them
apart, since it is released between request and response.

What does is the device handle.  Every exchange goes through a handle, which has the READY line of the
endpoint (`HasHandle`), and the handle is used by one worker: the one that has opened it, or the one that has
the mutex of the connection it belongs to (`HoldsMutex`).  That two handles do not have one line is up to the
kernel: a line that is requested already is not granted a second time (`ReadyGranted`).
-/

set_option autoImplicit false

namespace Pkcs11rs.Analysis

open Pkcs11rs.Library Pkcs11rs.Model I2cConnector Function

variable {e : I2cYubiHsmSpec} {c : ℕ} {conn : I2cConnection} {stage : ExchangeStage}
  {handles : List (HandleOwner × (String × ℕ))} {spec : I2cYubiHsmSpec}

/-! ### What a worker has -/

/-- A handle of the owner has the line. -/
def Owns (s : I2cConnector) (owner : HandleOwner) (line : String × ℕ) : Prop :=
  (owner, line) ∈ s.handles

/-- The worker of a command has the mutex of its connection. -/
def HoldsMutex (s : I2cConnector) (n : ℕ) (w : I2cWorker) : Prop :=
  ∀ c r, w.job = .command c r → ∃ conn, s.connections c = some conn ∧ conn.holder = some n

/-- The worker has a handle: its own one, or that of its connection. -/
def HasHandle (s : I2cConnector) (n : ℕ) (w : I2cWorker) : ExchangeStage → Prop
  | .transmit => ∃ c r conn, w.job = .command c r ∧ s.connections c = some conn ∧ conn.device = true
  | _ => ∀ e, s.endpoint w = some e → Owns s (.worker n) e.ready

/-- What a worker has in its phase. -/
def Uses (s : I2cConnector) (n : ℕ) (w : I2cWorker) : Prop :=
  match w.phase with
  | .waiting => True
  | .finished _ => True
  | .opening => HoldsMutex s n w
  | .exchange stage phase => HoldsMutex s n w ∧ HasHandle s n w stage ∧
      (phase.InProgress → ∀ e, s.endpoint w = some e → s.written e = some (n, stage))

/-- The tables of the connector. -/
@[grind cases]
structure Tables (s : I2cConnector) : Prop where
  unshared : Library.Injective s.handles
  devices : ∀ c conn, s.connections c = some conn → conn.device = true →
    Owns s (.connection c) conn.endpoint.ready
  connections : ∀ c conn, s.connections c = some conn → c < s.connectionCount
  workers : ∀ n w, s.workers n = some w → n < s.workerCount
  known : ∀ n w c r, s.workers n = some w → w.job = .command c r → (s.connections c).isSome
  records : ∀ serial c g, s.records serial = some (.claimed c g) → (s.connections c).isSome
  reads : ∀ entry ∈ s.reads, entry.2 = some entry.1

/-- All workers but one have what they need. -/
def OthersUse (s : I2cConnector) (n : ℕ) : Prop :=
  ∀ m w, m ≠ n → s.workers m = some w → Uses s m w

/-- The invariant. -/
@[grind cases]
structure Exclusive (s : I2cConnector) : Prop extends Tables s where
  users : ∀ n w, s.workers n = some w → Uses s n w

/-- All others have what they need. -/
theorem Exclusive.others {s : I2cConnector} (h : Exclusive s) (n : ℕ) : OthersUse s n :=
  fun m w _ hw => h.users m w hw

/-- A connection in two states, as a worker sees it. -/
def Kept (m : ℕ) (conn conn' : I2cConnection) : Prop :=
  conn'.endpoint = conn.endpoint ∧ (conn.holder = some m → conn'.holder = some m) ∧
    (conn.holder = some m → conn.device = true → conn'.device = true)

section Frames

variable {s s' : I2cConnector} {m n : ℕ} {w : I2cWorker}

/-- The endpoint of a worker does not change. -/
theorem endpoint_eq_of_kept (hconn : ∀ c r conn, w.job = .command c r → s.connections c = some conn →
      ∃ conn', s'.connections c = some conn' ∧ Kept m conn conn')
    (hknown : ∀ c r, w.job = .command c r → (s.connections c).isSome)
    (he : s'.endpoint w = some e) : s.endpoint w = some e := by
  unfold endpoint at he ⊢
  cases hjob : w.job with
  | command c r =>
    obtain ⟨conn, hc⟩ := Option.isSome_iff_exists.mp (hknown c r hjob)
    obtain ⟨conn', hc', hkept⟩ := hconn c r conn hjob hc
    simpa [hjob, hc, hc', hkept.1] using he
  | register spec => simpa [hjob] using he

/-- What a worker has is kept if its connection, its line and its request are. -/
theorem Uses.kept (h : Uses s m w)
    (hknown : ∀ c r, w.job = .command c r → (s.connections c).isSome)
    (hconn : ∀ c r conn, w.job = .command c r → s.connections c = some conn →
      ∃ conn', s'.connections c = some conn' ∧ Kept m conn conn')
    (hline : ∀ e, s.endpoint w = some e → Owns s (.worker m) e.ready → Owns s' (.worker m) e.ready)
    (hwritten : ∀ stage phase e, w.phase = .exchange stage phase → s.endpoint w = some e →
      s.written e = some (m, stage) → s'.written e = some (m, stage)) : Uses s' m w := by
  have hmutex : HoldsMutex s m w → HoldsMutex s' m w := by
    intro hold c r hjob
    obtain ⟨conn, hc, hholder⟩ := hold c r hjob
    obtain ⟨conn', hc', -, hkept, -⟩ := hconn c r conn hjob hc
    exact ⟨conn', hc', hkept hholder⟩
  unfold Uses at h ⊢
  cases hphase : w.phase with
  | waiting | finished => trivial
  | opening =>
    rw [hphase] at h
    exact hmutex h
  | exchange stage phase =>
    rw [hphase] at h
    obtain ⟨hold, hhandle, hprogress⟩ := h
    have hend : ∀ e, s'.endpoint w = some e → s.endpoint w = some e :=
      fun e he => endpoint_eq_of_kept hconn hknown he
    refine ⟨hmutex hold, ?_, fun hin e he => ?_⟩
    · cases stage with
      | transmit =>
        obtain ⟨c, r, conn, hjob, hc, hdevice⟩ := hhandle
        obtain ⟨conn₀, hc₀, hholder⟩ := hold c r hjob
        rw [hc] at hc₀
        cases hc₀
        obtain ⟨conn', hc', -, -, hkept⟩ := hconn c r conn hjob hc
        exact ⟨c, r, conn', hjob, hc', hkept hholder hdevice⟩
      | recovery | identity => exact fun e he => hline e (hend e he) (hhandle e (hend e he))
    · exact hwritten stage phase e hphase (hend e he) (hprogress hin e (hend e he))

/-- The endpoint of a command is that of its connection. -/
theorem endpoint_of_command {r : Bytes} (hjob : w.job = .command c r)
    (hc : s.connections c = some conn) (he : s.endpoint w = some e) : conn.endpoint = e := by
  unfold endpoint at he
  simpa [hjob, hc] using he

/-- Two workers with a handle for one line are one. -/
theorem handle_unique (ht : Tables s) {w' : I2cWorker} {stage' : ExchangeStage}
    {e' : I2cYubiHsmSpec} (he : s.endpoint w = some e) (he' : s.endpoint w' = some e')
    (hready : e.ready = e'.ready) (hmutex : HoldsMutex s m w) (hmutex' : HoldsMutex s n w')
    (hhandle : HasHandle s m w stage) (hhandle' : HasHandle s n w' stage') : m = n := by
  -- who has the line
  have howner : ∀ (k : ℕ) (v : I2cWorker) (st : ExchangeStage) (f : I2cYubiHsmSpec), s.endpoint v =
      some f → HoldsMutex s k v → HasHandle s k v st → Owns s (.worker k) f.ready ∨
        ∃ c conn, Owns s (.connection c) f.ready ∧ s.connections c = some conn ∧
          conn.holder = some k := by
    intro k v st f hf hold hhas
    cases st with
    | transmit =>
      obtain ⟨c, r, conn, hjob, hc, hdevice⟩ := hhas
      obtain ⟨conn₀, hc₀, hholder⟩ := hold c r hjob
      grind [endpoint_of_command]
    | recovery | identity => exact .inl (hhas f hf)
  have hunique : ∀ o o', Owns s o e.ready → Owns s o' e.ready → o = o' :=
    fun o o' => ht.unshared o o' e.ready
  grind

/-- The invariant without the worker that makes the step. -/
@[grind cases]
structure Rest (s : I2cConnector) (n : ℕ) : Prop extends Tables s where
  others : OthersUse s n

/-- The invariant without one worker. -/
theorem Exclusive.rest (h : Exclusive s) (n : ℕ) : Rest s n := ⟨h.toTables, h.others n⟩

/-- The worker goes on in a phase for which it has what it needs. -/
theorem Rest.setPhase (h : Rest s n) (hw : s.workers n = some w) (phase : WorkerPhase)
    (huses : Uses s n { w with phase }) : Exclusive (s.setPhase n w phase) := by
  have hworkers : ∀ m, (s.setPhase n w phase).workers m =
      if m = n then some { w with phase } else s.workers m := fun m => update_apply _ _ _ m
  -- what the workers have does not depend on their phases
  have hothers : ∀ m v, m ≠ n → s.workers m = some v → Uses (s.setPhase n w phase) m v := h.others
  have hself : Uses (s.setPhase n w phase) n { w with phase } := huses
  refine { unshared := h.unshared, devices := h.devices, connections := h.connections, workers := ?_,
           known := ?_, records := h.records, reads := h.reads, users := ?_ }
  · grind [setPhase]
  · grind [setPhase]
  · grind

/-- A connection and the handles change: for everybody else the connection is kept, and so are the handles
of other owners. -/
theorem Rest.setConnection (h : Rest s n) {conn' : I2cConnection} (hc : s.connections c = some conn)
    (hkept : ∀ m, m ≠ n → Kept m conn conn') (hend : conn'.endpoint = conn.endpoint)
    (hdevice : conn'.device = true → (.connection c, conn.endpoint.ready) ∈ handles)
    (hhandles : ∀ owner line, owner ≠ .worker n → owner ≠ .connection c →
      (owner, line) ∈ s.handles → (owner, line) ∈ handles) (hunshared : Library.Injective handles) :
    Rest { s with connections := update s.connections c (some conn'), handles := handles } n := by
  refine { unshared := hunshared, devices := ?_, connections := ?_, workers := h.workers, known := ?_,
           records := ?_, reads := h.reads, others := fun m v hm hv => ?_ }
  · grind [update_apply, Owns]
  · grind [update_apply]
  · grind [update_apply]
  · grind [update_apply]
  · refine (h.others m v hm hv).kept (fun c' r => h.known m v c' r hv) ?_
      (fun e _ hline => hhandles _ _ (by simpa using hm) (by simp) hline)
      (fun _ _ _ _ _ hwritten => hwritten)
    grind [update_apply, Kept]

/-- Only the handle of the worker changes. -/
theorem Rest.setHandles (h : Rest s n)
    (hhandles : ∀ owner line, owner ≠ .worker n → (owner, line) ∈ s.handles → (owner, line) ∈ handles)
    (hunshared : Library.Injective handles) : Rest { s with handles := handles } n := by
  refine { h with unshared := hunshared, devices := fun c conn hc hd => ?_, others := fun m v hm hv => ?_ }
  · exact hhandles _ _ (by simp) (h.devices c conn hc hd)
  · exact (h.others m v hm hv).kept (fun c r => h.known m v c r hv)
      (fun c _ conn _ hc => ⟨conn, hc, rfl, id, fun _ => id⟩)
      (fun e _ hline => hhandles _ _ (by simpa using hm) hline) (fun _ _ _ _ _ hwritten => hwritten)

/-- A handle that goes from a worker to a connection keeps its line. -/
theorem injective_passHandle (hm : Library.Injective s.handles) (hown : Owns s (.worker n) e.ready) :
    Library.Injective (s.passHandle n c e).handles := by
  refine (hm.mono (mapRemove_subset _ _)).mapInsert fun owner hmem => ?_
  obtain ⟨hmem, hne⟩ := mem_mapRemove.mp hmem
  exact absurd (hm _ _ _ hmem hown) hne

section

variable (h : Rest s n)

include h

/-- A worker closes the handle that it has opened. -/
theorem Rest.closeHandle : Rest (s.closeHandle (.worker n)) n :=
  h.setHandles (fun _ _ hne hown => mem_mapRemove.mpr ⟨hown, hne⟩)
    (h.unshared.mono (mapRemove_subset _ _))

/-- The worker ends. -/
theorem Rest.finishWorker (hw : s.workers n = some w) (hmutex : HoldsMutex s n w)
    (result : Except TransportError Bytes) : Exclusive (s.finishWorker n w result) := by
  obtain ⟨job, phase⟩ := w
  cases job with
  | register spec =>
    have hset := h.setPhase hw (.finished result) trivial
    unfold I2cConnector.finishWorker
    dsimp only
    split
    · exact hset
    · exact { hset with }
  | command c r =>
    obtain ⟨conn, hc, hholder⟩ := hmutex c r rfl
    have hfree : Rest { s with
        connections := Function.update s.connections c (some { conn with holder := none })
        handles := s.handles } n := by
      refine h.setConnection hc (fun m hm => ⟨rfl, fun hheld => ?_, fun _ => id⟩) rfl
        (h.devices c conn hc) (fun _ _ _ _ hown => hown) h.unshared
      rw [hholder] at hheld
      exact absurd (Option.some.inj hheld).symm hm
    have hset := hfree.setPhase hw (.finished result) trivial
    unfold I2cConnector.finishWorker
    simp only [I2cConnector.setPhase, hc, Option.map_some]
    exact hset

/-- The command with the mutex closes the handle of its connection. -/
theorem Rest.closeDevice (hc : s.connections c = some conn) (hholder : conn.holder = some n) :
    Rest (s.closeDevice c) n := by
  have hclosed : Rest { s with
      connections := update s.connections c (some { conn with device := false })
      handles := mapRemove s.handles (.connection c) } n := by
    refine h.setConnection hc (fun m hm => ⟨rfl, id, fun hheld => ?_⟩) rfl nofun
      (fun _ _ _ hne hown => mem_mapRemove.mpr ⟨hown, hne⟩) (h.unshared.mono (mapRemove_subset _ _))
    rw [hholder] at hheld
    exact absurd (Option.some.inj hheld).symm hm
  unfold I2cConnector.closeDevice I2cConnector.closeHandle
  simp only [hc, Option.map_some]
  exact hclosed

/-- What an exchange needs does not depend on the locks of the buses. -/
theorem Rest.setBuses (buses : String → Option ℕ) : Rest { s with buses := buses } n := { h with }

/-- Reports need nothing. -/
theorem Rest.setEvents (events : List EndpointLost) :
    Rest { s with events := events } n := { h with }

/-- An exchange has failed. -/
theorem Rest.exchangeFailed (stage : ExchangeStage) (hw : s.workers n = some w)
    (he : s.endpoint w = some e) (hmutex : HoldsMutex s n w) (hhandle : HasHandle s n w stage)
    (error : TransportError) : Exclusive (s.exchangeFailed n w stage e error) := by
  have hbuses := h.setBuses fun bus => if s.buses bus = some n then none else s.buses bus
  cases stage with
  | recovery | identity => exact hbuses.closeHandle.finishWorker hw hmutex (.error error)
  | transmit =>
    obtain ⟨c, r, conn, hjob, hc, hdevice⟩ := hhandle
    obtain ⟨conn₀, hc₀, hholder⟩ := hmutex c r hjob
    cases hc.symm.trans hc₀
    have hend : conn.endpoint = e := endpoint_of_command hjob hc he
    subst hend
    unfold I2cConnector.exchangeFailed
    rw [hjob]
    dsimp only
    split
    · have hclosed := hbuses.closeDevice hc hholder
      refine (hclosed.setEvents _).finishWorker hw ?_ (.error error)
      intro c' r' hjob'
      simp_all [I2cConnector.closeDevice]
    · exact (hbuses.setEvents _).finishWorker hw hmutex (.error error)

/-- A command with the mutex starts its own exchange. -/
theorem Rest.startTransmit {request : Bytes} (hw : s.workers n = some w)
    (hjob : w.job = .command c request) (hc : s.connections c = some conn)
    (hholder : conn.holder = some n) (hdevice : conn.device = true) :
    Exclusive (s.startTransmit n w request) := by
  have hmutex : HoldsMutex s n w := by
    intro c' r' hjob'
    rw [hjob] at hjob'
    cases hjob'
    exact ⟨conn, hc, hholder⟩
  unfold I2cConnector.startTransmit
  split
  · exact h.finishWorker hw hmutex _
  · refine h.setPhase hw _ ⟨hmutex, ⟨c, request, conn, hjob, hc, hdevice⟩, fun hin => ?_⟩
    exact absurd rfl hin.1

/-- The handle of a registration goes to a new connection. -/
theorem Rest.addConnection {serial generation : ℕ} (hline : Owns s (.worker n) spec.ready) :
    Rest { s with
      handles := (s.passHandle n s.connectionCount spec).handles
      generations := update s.generations serial generation
      records := update s.records serial (some (.claimed s.connectionCount generation))
      connections := update s.connections s.connectionCount (some
        { endpoint := spec, serial, generation, device := true, holder := none })
      connectionCount := s.connectionCount + 1 } n := by
  refine { unshared := injective_passHandle h.unshared hline, devices := ?_, connections := ?_,
           workers := h.workers, known := ?_, records := ?_, reads := h.reads,
           others := fun m v hm hv => ?_ }
  · grind [update_apply, Owns, passHandle, mem_mapInsert, mem_mapRemove]
  · grind [update_apply]
  · grind [update_apply]
  · grind [update_apply]
  · refine (h.others m v hm hv).kept (fun c r => h.known m v c r hv) ?_
      (fun e _ hown => ?_) (fun _ _ _ _ _ hwritten => hwritten)
    · grind [update_apply, Kept]
    · grind [Owns, passHandle, mem_mapInsert, mem_mapRemove]

/-- `register_filtered` and `register_configured`. -/
theorem Rest.registered (hw : s.workers n = some w) (hjob : w.job = .register spec)
    (hline : Owns s (.worker n) spec.ready) (serial : ℕ) :
    Exclusive (s.registered n w spec serial) := by
  have hmutex : ∀ s' : I2cConnector, HoldsMutex s' n w := by
    intro s' c r hcommand
    rw [hjob] at hcommand
    cases hcommand
  unfold I2cConnector.registered
  split
  · exact h.closeHandle.finishWorker hw (hmutex _) _
  dsimp only
  split
  · exact (h.addConnection hline).finishWorker hw (hmutex _) _
  · have hclosed := h.closeHandle
    have hfiltered : Rest { s.closeHandle (.worker n) with
        generations := update s.generations serial (s.generations serial + 1)
        records := update s.records serial
          (some (.filtered (s.generations serial + 1))) } n := by
      refine { hclosed with records := ?_ }
      grind [Function.update_apply, I2cConnector.closeHandle]
    exact hfiltered.finishWorker hw (hmutex _) _

section

variable (hw : s.workers n = some w) (he : s.endpoint w = some e) (hmutex : HoldsMutex s n w)

include hw he hmutex

/-- A new handle has been identified. -/
theorem Rest.identified (hline : Owns s (.worker n) e.ready) (serial : ℕ) :
    Exclusive (s.identified n w e serial) := by
  unfold I2cConnector.identified
  split
  · rename_i spec hjob
    have hspec : spec = e := by
      unfold endpoint at he
      rw [hjob] at he
      exact Option.some.inj he
    subst hspec
    exact h.registered hw hjob hline serial
  · rename_i c request hjob
    obtain ⟨conn, hc, hholder⟩ := hmutex c request hjob
    have hend : conn.endpoint = e := endpoint_of_command hjob hc he
    subst hend
    rw [hc]
    dsimp only
    split
    · exact h.closeHandle.finishWorker hw hmutex _
    · have hinstalled : Rest { s with
          connections := update s.connections c (some { conn with device := true })
          handles := (s.passHandle n c conn.endpoint).handles } n := by
        refine h.setConnection hc (fun m hm => ⟨rfl, id, fun _ _ => rfl⟩) rfl
          (fun _ => mem_mapInsert.mpr (.inl rfl)) (fun owner line hne hne' hown => ?_)
          (injective_passHandle h.unshared hline)
        exact mem_mapInsert.mpr (.inr ⟨mem_mapRemove.mpr ⟨hown, hne⟩, hne'⟩)
      exact hinstalled.startTransmit hw hjob (update_self _ _ _) hholder rfl

/-- A response has been read. -/
theorem Rest.responded (hhandle : HasHandle s n w stage) (response : Bytes) :
    Exclusive (s.responded n w stage e response) := by
  have hbuses := h.setBuses fun bus => if s.buses bus = some n then none else s.buses bus
  cases stage with
  | recovery token =>
    unfold responded
    dsimp only
    split
    · exact hbuses.exchangeFailed (.recovery token) hw he hmutex hhandle _
    · refine hbuses.setPhase hw (.exchange .identity .queued) ⟨hmutex, hhandle, fun hin => ?_⟩
      exact absurd rfl hin.1
  | identity =>
    unfold responded
    dsimp only
    split
    · exact hbuses.exchangeFailed .identity hw he hmutex hhandle _
    · exact hbuses.identified hw he hmutex (hhandle e he) _
  | transmit => exact hbuses.finishWorker hw hmutex _

end

/-- The endpoint has got the request of the worker. -/
theorem Rest.setWritten (he : s.endpoint w = some e) (hmutex : HoldsMutex s n w)
    (hhandle : HasHandle s n w stage) :
    Rest { s with written := update s.written e (some (n, stage)) } n := by
  refine { h with others := fun m v hm hv => ?_ }
  have huses := h.others m v hm hv
  refine huses.kept (fun c r => h.known m v c r hv)
    (fun c _ conn _ hc => ⟨conn, hc, rfl, id, fun _ => id⟩) (fun _ _ hline => hline) ?_
  intro stage' phase' e' hphase hend hwritten
  have hne : e' ≠ e := by grind [Uses, handle_unique]
  exact (update_of_ne hne _ _).trans hwritten

/-- The response that the worker reads answers its request. -/
theorem Rest.addRead (hwritten : s.written e = some (n, stage)) :
    Rest { s with reads := s.reads ++ [((n, stage), s.written e)] } n := by
  exact { h with reads := by grind }

end

end Frames

/-! ### Steps and runs -/

section Steps

variable {s s' : I2cConnector} {n : ℕ}

/-- The next step of an exchange. -/
theorem Exclusive.advance (h : Exclusive s) {answer : WireAnswer}
    (hstep : s.advance n answer = some s') : Exclusive s' := by
  unfold I2cConnector.advance at hstep
  split at hstep
  · rename_i job stage phase hw
    dsimp only at hstep
    split at hstep
    · cases hstep
    rename_i e he
    obtain ⟨hmutex, hhandle, hprogress⟩ := h.users n _ hw
    have hrest := h.rest n
    have hsent := hrest.setWritten he hmutex hhandle
    -- a phase in which the request has been written
    have hgoes : ∀ (next : WirePhase) (buses : String → Option ℕ), phase.InProgress →
        Exclusive (setPhase { s with buses := buses } n ⟨job, .exchange stage phase⟩
          (.exchange stage next)) := fun next buses hin =>
      (hrest.setBuses buses).setPhase hw _ ⟨hmutex, hhandle, fun _ => hprogress hin⟩
    split at hstep
    · cases hstep
      split
      · exact hsent.exchangeFailed stage hw he hmutex hhandle _
      · exact hrest.exchangeFailed stage hw he hmutex hhandle _
    · split at hstep
      · cases hstep
      · cases hstep
        refine (hrest.setBuses (update s.buses e.bus (some n))).setPhase hw
          (.exchange stage .requesting) ⟨hmutex, hhandle, fun hin => ?_⟩
        exact absurd rfl hin.2
    · cases hstep
      refine hsent.setPhase hw (.exchange stage .written) ⟨hmutex, hhandle, fun _ e' he' => ?_⟩
      have heq : e = e' := Option.some.inj (he.symm.trans he')
      subst heq
      exact update_self _ _ _
    · cases hstep
      exact hgoes .computing _ (by decide)
    · cases hstep
      exact hgoes .responding s.buses (by decide)
    · split at hstep
      · cases hstep
      · cases hstep
        exact hgoes .reading _ (by decide)
    · have hread := hrest.addRead (hprogress (by decide) e he)
      split at hstep
      · cases hstep
        exact hread.exchangeFailed stage hw he hmutex hhandle _
      · cases hstep
        exact hread.responded hw he hmutex hhandle _
    · cases hstep
  · cases hstep

/-- A new worker that needs nothing yet, or that registers an endpoint. -/
theorem Exclusive.addWorker (h : Exclusive s) {v : I2cWorker}
    (hknown : ∀ c r, v.job = .command c r → (s.connections c).isSome)
    (huses : Uses s s.workerCount v) :
    Exclusive { s with
      workers := update s.workers s.workerCount (some v)
      workerCount := s.workerCount + 1 } := by
  refine { unshared := h.unshared, devices := h.devices, connections := h.connections, workers := ?_,
           known := ?_, records := h.records, reads := h.reads, users := fun m u hu => ?_ }
  · grind [update_apply]
  · grind [update_apply]
  · by_cases hm : m = s.workerCount
    · subst hm
      cases (update_self _ _ _).symm.trans hu
      exact huses
    · exact h.users m u ((update_of_ne hm _ _).symm.trans hu)

/-- The callers of a connection that nobody calls any more are done. -/
theorem finished_of_not_isCalled {w : I2cWorker} {r : Bytes} (ht : Tables s) (hcalled : ¬ s.isCalled c)
    (hw : s.workers n = some w) (hjob : w.job = .command c r) : ∃ result, w.phase = .finished result := by
  obtain ⟨job, phase⟩ := w
  cases hjob
  cases phase with
  | finished result => exact ⟨result, rfl⟩
  | waiting | opening | exchange =>
    refine absurd (List.any_eq_true.mpr ⟨n, List.mem_range.mpr (ht.workers n _ hw), ?_⟩) hcalled
    simp [hw]

/-- The entry of a connection that nobody has any more is dropped. -/
theorem Exclusive.dropEntry (h : Exclusive s) (hstep : s.dropEntry c = some s') : Exclusive s' := by
  unfold I2cConnector.dropEntry at hstep
  split at hstep
  · rename_i conn hc
    split at hstep
    · cases hstep
    · rename_i hfree
      cases hstep
      obtain ⟨-, hcalled⟩ := not_or.mp hfree
      have hclosed : Exclusive { s with
          connections := update s.connections c (some { conn with device := false })
          handles := mapRemove s.handles (.connection c) } := by
        refine { unshared := h.unshared.mono (mapRemove_subset _ _), devices := ?_, connections := ?_,
                 workers := h.workers, known := ?_, records := ?_, reads := h.reads,
                 users := fun m v hv => ?_ }
        · grind [update_apply, Owns, mem_mapRemove]
        · grind [update_apply]
        · grind [update_apply]
        · grind [update_apply]
        · by_cases hjob : ∃ r, v.job = .command c r
          · -- a caller of this connection is done
            obtain ⟨r, hjob⟩ := hjob
            obtain ⟨result, hphase⟩ := finished_of_not_isCalled h.toTables hcalled hv hjob
            simp only [Uses, hphase]
          · -- the others do not see the change
            refine (h.users m v hv).kept (fun c r => h.known m v c r hv)
              (fun c' r conn' hjob' hc' => ?_) (fun e _ hown => mem_mapRemove.mpr ⟨hown, nofun⟩)
              (fun _ _ _ _ _ hwritten => hwritten)
            have hne : c' ≠ c := fun heq => hjob ⟨r, heq ▸ hjob'⟩
            exact ⟨conn', (update_of_ne hne _ _).trans hc', rfl, id, fun _ => id⟩
      unfold I2cConnector.closeDevice I2cConnector.closeHandle
      simp only [hc, Option.map_some]
      exact hclosed
  · cases hstep

/-- The kernel grants a READY line only if no handle has it. -/
def ReadyGranted (s : I2cConnector) : I2cStep → Prop
  | .openDevice number (.ok _) => ∀ w ∈ s.workers number, ∀ e ∈ s.endpoint w,
      ∀ handle ∈ s.handles, handle.2 ≠ e.ready
  | _ => True

instance (s : I2cConnector) (event : I2cStep) : Decidable (ReadyGranted s event) := by
  unfold ReadyGranted
  split <;> infer_instance

/-- A caller comes. -/
theorem Exclusive.call {serial : ℕ} {request : Bytes} (h : Exclusive s)
    (hstep : s.call serial request = some s') : Exclusive s' := by
  unfold I2cConnector.call at hstep
  split at hstep
  · rename_i c g hrecord
    cases hstep
    refine h.addWorker (fun c' r hjob => ?_) trivial
    cases hjob
    exact h.records serial c g hrecord
  · cases hstep

/-- A caller gets the mutex of its connection. -/
theorem Exclusive.lock {number : ℕ} (h : Exclusive s) (hstep : s.lock number = some s') :
    Exclusive s' := by
  unfold I2cConnector.lock at hstep
  split at hstep
  · rename_i c request hw
    split at hstep
    · rename_i conn hc
      split at hstep
      · cases hstep
      · rename_i hfree
        cases hstep
        have hlocked : Rest { s with
            connections := update s.connections c (some { conn with holder := some number })
            handles := s.handles } number := by
          refine (h.rest number).setConnection hc (fun m _ => ⟨rfl, fun hheld => ?_, fun _ => id⟩)
            rfl (h.devices c conn hc) (fun _ _ _ _ hown => hown) h.unshared
          rw [hheld] at hfree
          exact absurd rfl hfree
        split
        · rename_i hdevice
          exact hlocked.startTransmit hw rfl (update_self _ _ _) rfl hdevice
        · refine hlocked.setPhase hw .opening fun c' r' hjob => ?_
          cases hjob
          exact ⟨_, update_self _ _ _, rfl⟩
    · cases hstep
  · cases hstep

/-- A worker opens the device. -/
theorem Exclusive.openDevice {number : ℕ} {outcome : Except TransportError Unit} (h : Exclusive s)
    (hgranted : ReadyGranted s (.openDevice number outcome))
    (hstep : s.openDevice number outcome = some s') : Exclusive s' := by
  unfold I2cConnector.openDevice at hstep
  split at hstep
  · rename_i job hw
    have hmutex : HoldsMutex s number ⟨job, .opening⟩ := h.users number _ hw
    dsimp only at hstep
    split at hstep
    · cases hstep
      exact (h.rest number).finishWorker hw hmutex _
    · rename_i e _ he
      cases hstep
      have hfree : ∀ owner, ¬ Owns s owner e.ready := fun owner hown => hgranted _ hw e he _ hown rfl
      have hopened : Rest { s with
          handles := mapInsert s.handles (.worker number) e.ready } number :=
        (h.rest number).setHandles
          (fun owner line hne hown => mem_mapInsert.mpr (.inr ⟨hown, hne⟩))
          (h.unshared.mapInsert fun owner hown => absurd hown (hfree owner))
      have hrest : Rest { s with
          handles := mapInsert s.handles (.worker number) e.ready
          tokens := s.tokens + 1 } number := { hopened with }
      refine hrest.setPhase hw (.exchange (.recovery s.tokens) .queued)
        ⟨hmutex, fun e' he' => ?_, fun hin => absurd rfl hin.1⟩
      have heq : e = e' := Option.some.inj (he.symm.trans he')
      subst heq
      exact mem_mapInsert.mpr (.inl rfl)
    · cases hstep
  · cases hstep

/-- The coordinator tries an endpoint. -/
theorem Exclusive.register {spec : I2cYubiHsmSpec} (h : Exclusive s)
    (hstep : s.register spec = some s') : Exclusive s' := by
  unfold I2cConnector.register at hstep
  split at hstep
  · cases hstep
    have hadded := h.addWorker (v := ⟨.register spec, .opening⟩) nofun nofun
    exact { hadded with }
  · cases hstep

/-- The coordinator handles the loss of an endpoint. -/
theorem Exclusive.handleEvent (h : Exclusive s) (hstep : s.handleEvent = some s') : Exclusive s' := by
  unfold I2cConnector.handleEvent at hstep
  split at hstep
  · cases hstep
  · dsimp only at hstep
    cases hstep
    split
    · exact { h with records := by grind [update_apply] }
    · exact { h with }

/-- **One step.** -/
theorem Exclusive.step (h : Exclusive s) {event : I2cStep} (hgranted : ReadyGranted s event)
    (hstep : s.step event = some s') : Exclusive s' := by
  cases event with
  | call serial request => exact h.call hstep
  | lock number => exact h.lock hstep
  | openDevice number outcome => exact h.openDevice hgranted hstep
  | advance number answer => exact h.advance hstep
  | register spec => exact h.register hstep
  | handleEvent => exact h.handleEvent hstep
  | dropEntry connection => exact h.dropEntry hstep

end Steps

/-- A worker is between the request and the end of the response. -/
def UnderWay (w : I2cWorker) : Prop :=
  match w.phase with
  | .exchange _ phase => phase.InProgress
  | _ => False

instance (w : I2cWorker) : Decidable (UnderWay w) := by
  unfold UnderWay
  split <;> infer_instance

/-- A worker is between the request and the end of the response of an exchange with an endpoint. -/
def InExchange (s : I2cConnector) (endpoint : I2cYubiHsmSpec) (n : ℕ) : Prop :=
  ∃ w ∈ s.workers n, UnderWay w ∧ s.endpoint w = some endpoint

instance (s : I2cConnector) (endpoint : I2cYubiHsmSpec) (n : ℕ) : Decidable (InExchange s endpoint n) :=
  inferInstanceAs (Decidable (∃ w ∈ s.workers n, _))

/-- Who is between request and response has the mutex of its connection and a handle. -/
theorem Exclusive.inExchange {s : I2cConnector} {n : ℕ} (h : Exclusive s) (hn : InExchange s e n) :
    ∃ w stage, s.endpoint w = some e ∧ HoldsMutex s n w ∧ HasHandle s n w stage := by
  obtain ⟨⟨job, phase⟩, hw, hprogress, he⟩ := hn
  have huses := h.users n _ hw
  cases phase with
  | exchange stage phase => exact ⟨_, stage, he, huses.1, huses.2.1⟩
  | waiting | opening | finished => exact hprogress.elim

/-- **One exchange per endpoint.**  In every run of callers, registrations and the coordinator under a kernel
that does not grant a READY line twice, at most one worker is between the request and the response of an
exchange with an endpoint, and every response has been read by the exchange that has written its request. -/
theorem one_exchange_per_endpoint (specs : List I2cYubiHsmSpec) (shouldClaim : ℕ → Bool)
    (steps : List I2cStep) (s : I2cConnector)
    (hgranted : Along I2cConnector.step ReadyGranted (.configured specs shouldClaim) steps)
    (hrun : run I2cConnector.step (.configured specs shouldClaim) steps = some s) :
    (∀ endpoint m n, InExchange s endpoint m → InExchange s endpoint n → m = n) ∧
      ∀ entry ∈ s.reads, entry.2 = some entry.1 := by
  have hinitial : Exclusive (.configured specs shouldClaim) := by
    refine { unshared := injective_nil, devices := ?_, connections := ?_, workers := ?_, known := ?_,
             records := ?_, reads := ?_, users := ?_ } <;> grind [I2cConnector.configured]
  have h : Exclusive s := run_induction Exclusive (fun _ _ _ h hgranted hstep => h.step hgranted hstep)
    steps _ s hinitial hgranted hrun
  refine ⟨fun endpoint m n hm hn => ?_, h.reads⟩
  obtain ⟨w, stage, he, hmutex, hhandle⟩ := h.inExchange hm
  obtain ⟨w', stage', he', hmutex', hhandle'⟩ := h.inExchange hn
  exact handle_unique h.toTables he he' rfl hmutex hmutex' hhandle hhandle'

/-- An endpoint. -/
def targetSpec : I2cYubiHsmSpec :=
  { bus := "/dev/i2c-1", address := 0x24, ready := ("/dev/gpiochip0", 23) }

/-- A worker gets the bus lock, writes its request, waits and reads the response. -/
def exchangeSteps (worker : ℕ) (header payload : Bytes) : List I2cStep :=
  List.replicate 5 (.advance worker .done) ++ [.advance worker (.response header fun _ => .ok payload)]

/-- A worker opens a handle, recovers the target and reads the serial number 7. -/
def openSteps (worker token : ℕ) : List I2cStep :=
  [.openDevice worker (.ok ())] ++
    exchangeSteps worker ((recoveryReply token).take 3) ((recoveryReply token).drop 3) ++
    exchangeSteps worker [0x86, 0x00, 0x09] [2, 4, 0, 0, 0, 0, 7, 0, 0]

/-- Of two callers the first one loses the endpoint and the second one, whose entry is removed meanwhile,
opens it again.  The endpoint is registered again once the entry has been dropped. -/
def lostEndpointSteps : List I2cStep :=
  [.register targetSpec] ++ openSteps 0 1 ++
    [.call 7 [0x01, 0x00, 0x00], .call 7 [0x01, 0x00, 0x00], .lock 1, .advance 1 .done,
      .advance 1 (.failed ⟨.endpointUnavailable, "write I2C request"⟩), .handleEvent, .lock 2] ++
    openSteps 2 2 ++
    [.register targetSpec, .openDevice 3 (.error (.device "request READY GPIO line"))] ++
    exchangeSteps 2 [0x81, 0x00, 0x00] [] ++
    [.dropEntry 0, .register targetSpec, .openDevice 4 (.ok ()), .advance 4 .done, .advance 4 .done]

/-- Five workers at one endpoint. -/
theorem one_exchange_per_endpoint_lost :
    ∃ s, run I2cConnector.step (.configured [targetSpec] fun _ => true) lostEndpointSteps = some s ∧
      s.reads.map (fun entry => entry.1.1) = [0, 0, 2, 2, 2] ∧
      (∀ entry ∈ s.reads, entry.2 = some entry.1) ∧
      InExchange s targetSpec 4 ∧ ∀ n, InExchange s targetSpec n → n = 4 := by
  obtain ⟨s, hrun, hs⟩ := @exists_of_any _
    (run I2cConnector.step (.configured [targetSpec] fun _ => true) lostEndpointSteps)
    (fun s => decide (s.reads.map (fun entry => entry.1.1) = [0, 0, 2, 2, 2]) &&
      decide (InExchange s targetSpec 4)) (by decide +kernel)
  obtain ⟨hreads, hexchange⟩ := (Bool.and_eq_true _ _).mp hs
  have hgranted : Along I2cConnector.step ReadyGranted (.configured [targetSpec] fun _ => true)
      lostEndpointSteps := along_of_decide (by decide +kernel)
  obtain ⟨hone, hanswers⟩ := one_exchange_per_endpoint [targetSpec] (fun _ => true) lostEndpointSteps s
    hgranted hrun
  exact ⟨s, hrun, of_decide_eq_true hreads, hanswers, of_decide_eq_true hexchange,
    fun n hn => hone targetSpec n 4 hn (of_decide_eq_true hexchange)⟩

end Pkcs11rs.Analysis
