import Pkcs11rs.Model.AppletConnector

/-!
# Commands after a secure channel was established

A connector that has established a channel must not fall back to plain commands when the channel is
lost.  The reader keeps one selected applet with its session, every connector keeps `enabled` and
`channelStarted`, and each failure path changes some of these.

`Covered` is the invariant of a reader.  A session in the record belongs to the applet recorded there and
to the connection recorded there, and if that is the applet of the connector `i`, then `i` has
`channelStarted`.  While the channel of `i` is under watch, `channelStarted` stays and its frames are
guarded.  Only the
explicit ends of a channel reset `channelStarted`, and the gate in `ensureSelectedLocked` lets nothing
pass when a channel was started and is not enabled.
-/

set_option autoImplicit false

namespace Pkcs11rs.Analysis

open Pkcs11rs.Library Pkcs11rs.Model CcidReader SelectedApplet Function AppletConnector Outcome

/-- The frame is part of selecting the applet or of making the channel, or it went through a session of
the applet that was selected, made on the connection that was current. -/
def SentGuarded {ι σ : Type} (aid : Bytes) (entry : SentFrame ι σ) : Prop :=
  match entry.frame with
  | .select _ => True
  | .handshake _ _ => True
  | .plain _ _ => False
  | .raw _ => False
  | .secured session _ _ =>
    session.applet = aid ∧ session.connection = entry.epoch ∧ entry.selected = some aid
  | .administration session _ =>
    session.applet = aid ∧ session.connection = entry.epoch ∧ entry.selected = some aid

/-- A handshake that succeeds has run on one connection. -/
def SteadyHandshake {β σ κ : Type} (device : BaseConnector β σ κ) : Prop :=
  ∀ protocol source aid base result base',
    device.authenticate protocol source aid base = (.ok result, base') →
      device.connectionEpoch base' = device.connectionEpoch base

variable {ι β σ κ : Type}

/-- The invariant of a reader whose connectors have the identifiers `aid`.  The connector `i` is under
watch while `w` holds; `old` is the history from before. -/
structure Covered (aid : ι → Bytes) (i : ι) (w : Prop) (old : List (SentFrame ι σ))
    (r : CcidReader ι β σ κ) : Prop where
  aids : ∀ j, (r.applets j).applicationAid = aid j
  /-- A session belongs to the applet and the connection of the record. -/
  live : ∀ selected ∈ r.selected, ∀ session ∈ selected.session,
    session.applet = selected.applicationAid ∧ session.connection = r.connectionEpoch
  /-- With a session of its applet, the connector has started its channel. -/
  started : ∀ selected ∈ r.selected, ∀ session ∈ selected.session,
    selected.applicationAid = aid i → (r.applets i).channelStarted = true
  watched : w → (r.applets i).channelStarted = true ∧ (r.applets i).activeProtocol ≠ none
  history : w → ∃ new, r.sent = new ++ old ∧
    ∀ entry ∈ new, entry.connector = i → SentGuarded (aid i) entry

/-- The applet is selected on the current connection. -/
structure Ready (device : BaseConnector β σ κ) (r : CcidReader ι β σ κ) (j : ι) : Prop where
  ours : r.Ours j
  current : r.connectionEpoch = device.connectionEpoch r.base

/-- What the gate has let through. -/
structure Admitted (device : BaseConnector β σ κ) (r : CcidReader ι β σ κ) (j : ι) : Prop
    extends Ready device r j where
  /-- A channel that was started is enabled. -/
  enabled : (r.applets j).channelStarted = true → (r.applets j).enabled = true
  /-- A connector that does not send plain commands has a session. -/
  session : ¬ r.SendsPlain j → ∃ selected ∈ r.selected, ∃ session, selected.session = some session

/-- The change keeps what the invariant says about a connector. -/
def KeepsApplet (f : AppletConnector κ → AppletConnector κ) : Prop :=
  ∀ applet, (f applet).applicationAid = applet.applicationAid ∧
    (applet.channelStarted = true → (f applet).channelStarted = true) ∧
    (f applet).activeProtocol = applet.activeProtocol

/-! ### The steps of the calls -/

variable {f : SelectedApplet σ → SelectedApplet σ} {frame : AppletFrame σ}

namespace Covered

variable {aid : ι → Bytes} {i : ι} {w : Prop} {old : List (SentFrame ι σ)}
  {r : CcidReader ι β σ κ}

section

variable (h : Covered aid i w old r)

include h

/-- The base connector changes. -/
theorem withBase (base : β) : Covered aid i w old { r with base := base } :=
  ⟨h.aids, h.live, h.started, h.watched, h.history⟩

/-- The selection is forgotten. -/
theorem clearSelection : Covered aid i w old r.clearSelection where
  aids := h.aids
  live := nofun
  started := nofun
  watched := h.watched
  history := h.history

/-- An applet is selected. -/
theorem select (a : Bytes) : Covered aid i w old (r.select a) where
  aids := h.aids
  live := by
    intro selected hselected session hsession
    cases hselected
    cases hsession
  started := by
    intro selected hselected session hsession
    cases hselected
    cases hsession
  watched := h.watched
  history := h.history

/-- The epoch of the connection is taken over. -/
theorem synchronizeConnection (device : BaseConnector β σ κ) :
    Covered aid i w old (r.synchronizeConnection device) := by
  unfold CcidReader.synchronizeConnection
  split
  · exact h
  · exact ⟨h.aids, fun _ hselected => (nomatch hselected), fun _ hselected => (nomatch hselected),
      h.watched, h.history⟩

/-- The selection keeps its AID and its session. -/
theorem updateSelected
    (hf : ∀ selected ∈ r.selected, (f selected).applicationAid = selected.applicationAid ∧
      ∀ session ∈ (f selected).session, ∃ session₀ ∈ selected.session,
        session.applet = session₀.applet ∧ session.connection = session₀.connection) :
    Covered aid i w old (r.updateSelected f) := by
  refine ⟨h.aids, ?_, ?_, h.watched, h.history⟩
  · intro selected hselected session hsession
    obtain ⟨selected₀, hselected₀, rfl⟩ := Option.map_eq_some_iff.mp hselected
    obtain ⟨haid, hsessions⟩ := hf selected₀ hselected₀
    obtain ⟨session₀, hsession₀, happlet, hconnection⟩ := hsessions session hsession
    rw [happlet, hconnection, haid]
    exact h.live selected₀ hselected₀ session₀ hsession₀
  · intro selected hselected session hsession hi
    obtain ⟨selected₀, hselected₀, rfl⟩ := Option.map_eq_some_iff.mp hselected
    obtain ⟨haid, hsessions⟩ := hf selected₀ hselected₀
    obtain ⟨session₀, hsession₀, -⟩ := hsessions session hsession
    exact h.started selected₀ hselected₀ session₀ hsession₀ (haid.symm.trans hi)

/-- A frame of the connector under watch has to be guarded. -/
theorem record (device : BaseConnector β σ κ) (j : ι) (frame : AppletFrame σ)
    (hframe : w → j = i → SentGuarded (aid i)
      ({ connector := j, frame, epoch := device.connectionEpoch r.base,
         selected := r.selected.map SelectedApplet.applicationAid } : SentFrame ι σ)) :
    Covered aid i w old (r.record device j frame) := by
  refine ⟨h.aids, h.live, h.started, h.watched, fun hw => ?_⟩
  obtain ⟨new, hsent, hnew⟩ := h.history hw
  refine ⟨_ :: new, congrArg (List.cons _) hsent, ?_⟩
  intro entry hentry hconnector
  rcases List.mem_cons.mp hentry with rfl | hentry
  · exact hframe hw hconnector
  · exact hnew entry hentry hconnector

end

/-- A frame is handed over and the connector below does something with it. -/
theorem exchange_ends {α : Type} {device : BaseConnector β σ κ} {j : ι}
    (h : Covered aid i w old (r.record device j frame)) (act : β → Outcome Rv β α) :
    (r.exchange device j frame act).Ends
      (fun a r' => Covered aid i w old r' ∧
        r' = { r.record device j frame with base := r'.base } ∧ act r.base = (.ok a, r'.base))
      (Covered aid i w old) := by
  unfold exchange
  rcases hact : act r.base with ⟨_ | a, base⟩
  · exact h.withBase base
  · exact ⟨h.withBase base, rfl, rfl⟩

variable [DecidableEq ι]

section

variable (h : Covered aid i w old r)

include h

/-- A connector changes what may change. -/
theorem updateApplet (j : ι) {f : AppletConnector κ → AppletConnector κ} (hf : KeepsApplet f) :
    Covered aid i w old (r.updateApplet j f) := by
  have happlet : ∀ k, ((r.updateApplet j f).applets k).applicationAid =
        (r.applets k).applicationAid ∧
      ((r.applets k).channelStarted = true →
        ((r.updateApplet j f).applets k).channelStarted = true) ∧
      ((r.updateApplet j f).applets k).activeProtocol = (r.applets k).activeProtocol := by
    intro k
    by_cases hk : k = j
    · subst hk
      simpa [CcidReader.updateApplet] using hf (r.applets k)
    · simp [CcidReader.updateApplet, Function.update_of_ne hk]
  refine ⟨fun k => (happlet k).1.trans (h.aids k), h.live, ?_, ?_, h.history⟩
  · intro selected hselected session hsession hi
    exact (happlet i).2.1 (h.started selected hselected session hsession hi)
  · intro hw
    rw [(happlet i).2.2]
    exact ⟨(happlet i).2.1 (h.watched hw).1, (h.watched hw).2⟩

/-- A connector is disabled. -/
theorem disable (j : ι) : Covered aid i w old (r.disable j) :=
  h.updateApplet j fun _ => ⟨rfl, id, rfl⟩

/-- What discovery notes about an applet. -/
theorem discovered (j : ι) (present : AppletConnector κ → Bool) (error : Option Rv) :
    Covered aid i w old (r.updateApplet j fun applet =>
      { applet with appletPresent := present applet, discoveryError := error }) :=
  h.updateApplet j fun _ => ⟨rfl, id, rfl⟩

end

/-- The session of a handshake: the connector has started its channel, and no other connector has the
applet of `i`. -/
theorem establish (haid : ∀ j, aid j = aid i → j = i) (h : Covered aid i w old r) (j : ι)
    (hours : r.Ours j) (hf : ∀ selected, (f selected).applicationAid = selected.applicationAid ∧
      ∀ session ∈ (f selected).session, session.applet = aid j ∧
        session.connection = r.connectionEpoch) :
    Covered aid i w old ((r.updateSelected f).updateApplet j fun applet =>
      { applet with channelStarted := true }) := by
  obtain ⟨selected₀, hselected₀, hselected₀_aid⟩ := Option.map_eq_some_iff.mp hours
  have hj : selected₀.applicationAid = aid j := hselected₀_aid.trans (h.aids j)
  refine ⟨?_, ?_, ?_, ?_, h.history⟩
  · intro k
    by_cases hk : k = j
    · subst hk
      simpa [CcidReader.updateApplet, CcidReader.updateSelected] using h.aids k
    · simpa [CcidReader.updateApplet, CcidReader.updateSelected, Function.update_of_ne hk]
        using h.aids k
  · intro selected hselected session hsession
    obtain ⟨selected', hselected', rfl⟩ := Option.map_eq_some_iff.mp hselected
    obtain rfl : selected₀ = selected' := Option.some.inj (hselected₀.symm.trans hselected')
    rw [(hf selected₀).1, hj]
    exact (hf selected₀).2 session hsession
  · intro selected hselected session hsession hi
    obtain ⟨selected', hselected', rfl⟩ := Option.map_eq_some_iff.mp hselected
    obtain rfl : selected₀ = selected' := Option.some.inj (hselected₀.symm.trans hselected')
    obtain rfl : j = i := haid j (hj.symm.trans ((hf selected₀).1.symm.trans hi))
    simp [CcidReader.updateApplet]
  · intro hw
    by_cases hi : i = j
    · subst hi
      simpa [CcidReader.updateApplet, CcidReader.updateSelected, AppletConnector.activeProtocol]
        using (h.watched hw).2
    · simpa [CcidReader.updateApplet, CcidReader.updateSelected, Function.update_of_ne hi]
        using h.watched hw

end Covered

/-! ### The gate -/

section Gate

variable {device : BaseConnector β σ κ} {aid : ι → Bytes} {i j : ι} {w : Prop}
  {old : List (SentFrame ι σ)} {r : CcidReader ι β σ κ}

section

variable (device : BaseConnector β σ κ) (r : CcidReader ι β σ κ)

/-- The epoch is that of the base connector. -/
theorem synchronizeConnection_current : (r.synchronizeConnection device).connectionEpoch =
      device.connectionEpoch (r.synchronizeConnection device).base := by
  unfold synchronizeConnection
  split
  · assumption
  · rfl

/-- The connectors stay as they are. -/
@[simp] theorem synchronizeConnection_applets :
    (r.synchronizeConnection device).applets = r.applets := by
  unfold synchronizeConnection
  split <;> rfl

end

/-- A command does not change the connectors. -/
theorem exchange_applets {α : Type} (r : CcidReader ι β σ κ) (device : BaseConnector β σ κ) (j : ι)
    (frame : AppletFrame σ) (act : β → Outcome Rv β α) :
    (r.exchange device j frame act).2.applets = r.applets := rfl

/-- The first part of the gate: the applet is selected on the current connection. -/
theorem ensureApplet_ends (h : Covered aid i w old r) :
    (r.ensureApplet device j).Ends (fun _ r' => Covered aid i w old r' ∧ Ready device r' j)
      (Covered aid i w old) := by
  refine ends_ite (fun hours => ?_) fun _ => ?_
  · exact ⟨h.synchronizeConnection device, hours, synchronizeConnection_current device r⟩
  · have hselect := ((h.synchronizeConnection device).clearSelection.record device j
      (.select (r.applets j).applicationAid) fun _ _ => trivial).exchange_ends
      (device.selectApplication (r.applets j).applicationAid)
    refine hselect.andThen ?_
    rintro _ r' ⟨hr', hr'_eq, -⟩
    refine ⟨(hr'.synchronizeConnection device).select _, ?_, ?_⟩
    · have happlets : ((r'.synchronizeConnection device).select
          (r.applets j).applicationAid).applets = r.applets := by
        rw [hr'_eq]
        simp [select, record, clearSelection]
      exact congrArg some (by rw [happlets])
    · exact synchronizeConnection_current device r'

variable [DecidableEq ι]

section

variable (haid : ∀ j, aid j = aid i → j = i)

include haid

section

variable (hsteady : SteadyHandshake device) (h : Covered aid i w old r)

include hsteady h

/-- A channel is made, or the connector is left without one. -/
theorem establish_ends (hready : Ready device r j) (henabled : (r.applets j).enabled = true)
    (protocol : SecureChannelProtocol) (source : Option κ) :
    (r.establish device j protocol source).Ends
      (fun _ r' => Covered aid i w old r' ∧ Admitted device r' j) (Covered aid i w old) := by
  have hhandshake := (h.record device j (.handshake (r.applets j).applicationAid protocol)
    fun _ _ => trivial).exchange_ends
    (device.authenticate protocol source (r.applets j).applicationAid)
  unfold establish
  dsimp only
  generalize r.exchange device j _ (device.authenticate protocol source _) = x at hhandshake ⊢
  rcases x with ⟨_ | ⟨state, description⟩, r'⟩
  · exact hhandshake.clearSelection.disable j
  · obtain ⟨hr', hr'_eq, hact⟩ := hhandshake
    have hbase := hsteady _ _ _ _ _ _ hact
    have happlets : r'.applets = r.applets := by rw [hr'_eq]; rfl
    have hours : r'.Ours j := by
      have hsame : r'.selected = r.selected := by rw [hr'_eq]; rfl
      unfold CcidReader.Ours
      rw [hsame, happlets]
      exact hready.ours
    obtain ⟨selected, hselected, hselected_aid⟩ := Option.map_eq_some_iff.mp hours
    refine ⟨hr'.establish haid j hours fun _ => ⟨rfl, ?_⟩, ⟨?_, ?_⟩, ?_, ?_⟩
    · intro session hsession
      cases hsession
      exact ⟨h.aids j, rfl⟩
    · simp [CcidReader.Ours, updateApplet, updateSelected, hselected, hselected_aid]
    · have hepoch : r'.connectionEpoch = r.connectionEpoch := by rw [hr'_eq]; rfl
      exact hepoch.trans (hready.current.trans hbase.symm)
    · intro _
      simpa [updateApplet, updateSelected, happlets] using henabled
    · intro _
      exact ⟨_, congrArg (Option.map _) hselected, _, rfl⟩

/-- The second part of the gate. -/
theorem ensureChannel_ends (hready : Ready device r j) : (r.ensureChannel device j).Ends
      (fun _ r' => Covered aid i w old r' ∧ Admitted device r' j) (Covered aid i w old) := by
  obtain ⟨selected, hselected, -⟩ := Option.map_eq_some_iff.mp hready.ours
  unfold ensureChannel
  rw [hselected]
  refine ends_ite (fun _ => h) fun _ => ?_
  refine ends_ite (fun _ => h) fun hstarted => ?_
  refine ends_ite (fun hpass => ?_) fun hpass => ?_
  · refine ⟨h, hready, ?_, ?_⟩
    · intro hchannel
      by_contra henabled
      exact hstarted ⟨hchannel, henabled⟩
    · intro hsecured
      unfold CcidReader.SendsPlain at hsecured
      rw [not_or] at hsecured
      rcases hpass with hnone | henabled | hsession
      · exact absurd (Option.isNone_iff_eq_none.mp hnone) hsecured.1
      · exact absurd (Bool.eq_false_iff.mpr henabled) hsecured.2
      · exact ⟨selected, hselected, Option.isSome_iff_exists.mp hsession⟩
  · refine ends_ite (fun _ => h) fun _ => ?_
    have henabled : (r.applets j).enabled = true := by
      by_contra henabled
      exact hpass (.inr (.inl henabled))
    split
    · exact h
    · exact h
    · exact establish_ends haid hsteady h hready henabled _ _

/-- The gate: a call goes on with the applet selected on the current connection, with a channel if the
connector does not send plain commands, and not at all when a channel was started and is not
enabled. -/
theorem ensureSelectedLocked_ends : (r.ensureSelectedLocked device j).Ends
      (fun _ r' => Covered aid i w old r' ∧ Admitted device r' j) (Covered aid i w old) :=
  (ensureApplet_ends h).andThen fun _ _ hr' => ensureChannel_ends haid hsteady hr'.1 hr'.2

end

end

/-- The gate does not change what the connector is allowed to do. -/
theorem ensureSelectedLocked_keeps : (r.ensureSelectedLocked device j).Ends
      (fun _ r' => (r'.applets j).enabled = (r.applets j).enabled ∧
        (r'.applets j).activeProtocol = (r.applets j).activeProtocol)
      (fun _ => True) := by
  have happlet : (r.ensureApplet device j).Ends (fun _ r' => r'.applets = r.applets)
      (fun _ => True) := by
    refine ends_ite (fun _ => synchronizeConnection_applets device r) fun _ => ?_
    have hselect := exchange_applets (r.synchronizeConnection device).clearSelection device j
      (.select (r.applets j).applicationAid) (device.selectApplication (r.applets j).applicationAid)
    generalize exchange device _ j _ _ = x at hselect ⊢
    rcases x with ⟨_ | _, r'⟩
    · trivial
    · exact (synchronizeConnection_applets device r').trans
        (hselect.trans (synchronizeConnection_applets device r))
  refine happlet.andThen fun _ r' hr' => ?_
  rw [← hr']
  unfold ensureChannel
  split
  · trivial
  · refine ends_ite (fun _ => trivial) fun _ => ?_
    refine ends_ite (fun _ => trivial) fun _ => ?_
    refine ends_ite (fun _ => ⟨rfl, rfl⟩) fun _ => ?_
    refine ends_ite (fun _ => trivial) fun _ => ?_
    split
    · trivial
    · trivial
    · have hhandshake := fun protocol source =>
        exchange_applets r' device j (.handshake (r'.applets j).applicationAid protocol)
          (device.authenticate protocol source (r'.applets j).applicationAid)
      unfold establish
      dsimp only
      specialize hhandshake ‹_› ‹_›
      generalize r'.exchange device j _ _ = x at hhandshake ⊢
      rcases x with ⟨_ | ⟨state, description⟩, r''⟩
      · trivial
      · simp_all [updateApplet, updateSelected, activeProtocol]

end Gate

/-! ### Sending -/

section Sending

variable {device : BaseConnector β σ κ} {aid : ι → Bytes} {i j : ι} {w : Prop}
  {old : List (SentFrame ι σ)} {r : CcidReader ι β σ κ} {session : AppletSession σ}

/-- The session is that of the selection. -/
theorem selectedSession_eq_ok_iff : r.selectedSession = .ok session ↔
      ∃ selected ∈ r.selected, selected.session = some session := by
  unfold selectedSession
  rcases r.selected with _ | selected
  · simp
  · rcases hsession : selected.session with _ | session'
    · simp [hsession]
    · simp [hsession]

/-- The session that a connector uses is that of its applet on the current connection. -/
theorem session_guarded (h : Covered aid i w old r) (hready : Ready device r j)
    (hsession : r.selectedSession = .ok session) :
    session.applet = aid j ∧ session.connection = device.connectionEpoch r.base ∧
      r.selected.map SelectedApplet.applicationAid = some (aid j) := by
  obtain ⟨selected, hselected, hsession⟩ := selectedSession_eq_ok_iff.mp hsession
  obtain ⟨happlet, hconnection⟩ := h.live selected hselected session hsession
  have hours : r.selected.map SelectedApplet.applicationAid = some (aid j) :=
    hready.ours.trans (congrArg some (h.aids j))
  refine ⟨?_, hconnection.trans hready.current, hours⟩
  rw [hselected] at hours
  exact happlet.trans (Option.some.inj hours)

/-- A frame goes through the session of the applet. -/
theorem exchangeSecured_ends {α : Type} {act : σ → β → Outcome Rv (σ × β) α}
    (h : Covered aid i w old (r.record device j frame)) (hsession : r.selectedSession = .ok session)
    : (r.exchangeSecured device j session frame act).Ends
      (fun _ r' => Covered aid i w old r' ∧
        r'.sent = (r.record device j frame).sent) (Covered aid i w old) := by
  obtain ⟨selected, hselected, hsession⟩ := selectedSession_eq_ok_iff.mp hsession
  have hkept : ∀ (state : σ) (base : β), Covered aid i w old
      ({ r.record device j frame with base := base }.updateSelected fun selected =>
        { selected with session := some { session with state } }) := by
    intro state base
    refine (h.withBase base).updateSelected fun selected' hselected' => ⟨rfl, ?_⟩
    obtain rfl : selected = selected' := Option.some.inj (hselected.symm.trans hselected')
    intro session' hsession'
    cases hsession'
    exact ⟨session, hsession, rfl, rfl⟩
  unfold exchangeSecured
  rcases act session.state r.base with ⟨_ | a, state, base⟩
  · exact hkept state base
  · exact ⟨hkept state base, rfl⟩

/-- The connector under watch does not send plain commands. -/
theorem not_sendsPlain (h : Covered aid i w old r) (hw : w) (hadmitted : Admitted device r i) :
    ¬ r.SendsPlain i := by
  obtain ⟨hstarted, hprotocol⟩ := h.watched hw
  rintro (hnone | hdisabled)
  · exact hprotocol hnone
  · exact absurd (hadmitted.enabled hstarted) (by simp [hdisabled])

/-- A command is sent in plain. -/
theorem sendPlain_ends {α : Type} {act : β → Outcome Rv β α} (h : Covered aid i w old r)
    (hadmitted : Admitted device r j) (hplain : r.SendsPlain j) :
    (r.sendPlain device j frame act).Ends (fun _ => Covered aid i w old) (Covered aid i w old) := by
  have hrecord := h.record device j frame (by
    rintro hw rfl
    exact absurd hplain (not_sendsPlain h hw hadmitted))
  have hexchange := hrecord.exchange_ends act
  unfold sendPlain
  generalize r.exchange device j frame act = x at hexchange ⊢
  rcases x with ⟨_ | a, r'⟩
  · exact hexchange.clearSelection
  · exact hexchange.1

variable [DecidableEq ι]

/-- A command is sent through the session. -/
theorem sendSecured_ends (form : ApduForm) (command : CommandApdu) (h : Covered aid i w old r)
    (hready : Ready device r j) : (r.sendSecured device j form command).Ends
      (fun _ r' => Covered aid i w old r' ∧ ∃ session entry, r'.sent.head? = some entry ∧
        entry.frame = .secured session form command ∧ entry.connector = j ∧ SentGuarded (aid j) entry)
      (Covered aid i w old) := by
  unfold sendSecured
  rcases hsession : r.selectedSession with error | session
  · exact h
  · have hrecord := h.record device j (.secured session form command) (by
      rintro - rfl
      exact session_guarded h hready hsession)
    have hexchange : (r.exchangeSecured device j session (.secured session form command)
      (device.sendSecured form command)).Ends _ _ := exchangeSecured_ends hrecord hsession
    dsimp only
    generalize r.exchangeSecured device j session _ _ = x at hexchange ⊢
    rcases x with ⟨_ | response, r'⟩
    · exact hexchange.clearSelection.disable j
    · refine ⟨hexchange.1, session, _, congrArg List.head? hexchange.2, rfl, rfl, ?_⟩
      exact session_guarded h hready hsession

variable (haid : ∀ j, aid j = aid i → j = i) (hsteady : SteadyHandshake device)

include haid hsteady

section

variable (form : ApduForm) (command : CommandApdu) (h : Covered aid i w old r)

include h

/-- `send_apdu`. -/
theorem sendApdu_ends : (r.sendApdu device j form command).Ends (fun _ => Covered aid i w old)
      (Covered aid i w old) := by
  refine (ensureSelectedLocked_ends haid hsteady h).andThen fun _ r' hr' => ?_
  refine ends_ite (fun hplain => ?_) fun _ => ?_
  · exact sendPlain_ends hr'.1 hr'.2 hplain
  · exact (sendSecured_ends form command hr'.1 hr'.2.toReady).imp (fun _ _ h => h.1) fun _ h => h

/-- A send of the connector under watch that returns has gone through a session. -/
theorem sendApdu_secured (hw : w) : (r.sendApdu device i form command).Ends
      (fun _ r' => ∃ session entry, r'.sent.head? = some entry ∧
        entry.frame = .secured session form command ∧ entry.connector = i ∧ SentGuarded (aid i) entry)
      (fun _ => True) := by
  refine ((ensureSelectedLocked_ends haid hsteady h).imp (fun _ _ h => h)
    fun _ _ => trivial).andThen fun _ r' hr' => ?_
  refine ends_ite (fun hplain => ?_) fun _ => ?_
  · exact absurd hplain (not_sendsPlain hr'.1 hw hr'.2)
  · exact (sendSecured_ends form command hr'.1 hr'.2.toReady).imp (fun _ _ h => h.2)
      fun _ _ => trivial

end

/-- `transmit`. -/
theorem transmit_ends (sendBuffer : Bytes) (receiveLength : ℕ) (h : Covered aid i w old r) :
    (r.transmit device j sendBuffer receiveLength).Ends (fun _ => Covered aid i w old)
      (Covered aid i w old) := by
  refine (ensureSelectedLocked_ends haid hsteady h).andThen fun _ r' hr' => ?_
  refine ends_ite (fun hplain => ?_) fun _ => ?_
  · exact sendPlain_ends hr'.1 hr'.2 hplain
  · split
    · exact hr'.1
    · refine (sendApdu_ends haid hsteady .normal _ hr'.1).andThen fun _ r'' hr'' => ?_
      exact ends_ite (fun _ => hr'') fun _ => hr''

/-- A call of the security domain. -/
theorem securityDomainCall_ends (check : σ → Except Rv Unit) (command : SecurityDomainCommand)
    (h : Covered aid i w old r) :
    (r.securityDomainCall device j check command).Ends (fun _ => Covered aid i w old)
      (Covered aid i w old) := by
  refine (ensureSelectedLocked_ends haid hsteady h).andThen fun _ r' hr' => ?_
  refine ends_ite (fun _ => hr'.1) fun _ => ?_
  rcases hsession : r'.selectedSession with error | session
  · exact hr'.1
  · dsimp only
    split
    · exact hr'.1
    · have hrecord := hr'.1.record device j (.administration session command) (by
        rintro - rfl
        exact session_guarded hr'.1 hr'.2.toReady hsession)
      have hexchange : (r'.exchangeSecured device j session (.administration session command)
        (device.administer command)).Ends _ _ := exchangeSecured_ends hrecord hsession
      generalize r'.exchangeSecured device j session _ _ = x at hexchange ⊢
      rcases x with ⟨_ | response, r''⟩
      · exact hexchange.clearSelection
      · exact hexchange.1

end Sending

/-! ### The other calls -/

section Calls

variable [DecidableEq ι] {device : BaseConnector β σ κ} {aid : ι → Bytes} {i j : ι} {w : Prop}
  {old : List (SentFrame ι σ)} {r : CcidReader ι β σ κ}

/-- The channel is cleared. -/
theorem clearSecureChannelLocked_covered (h : Covered aid i w old r) (j : ι) :
    Covered aid i w old (r.clearSecureChannelLocked j) := by
  have hdisabled := h.updateApplet j (f := fun applet => { applet with enabled := false })
    fun _ => ⟨rfl, id, rfl⟩
  unfold clearSecureChannelLocked
  dsimp only
  split
  · exact hdisabled.updateSelected fun _ _ => ⟨rfl, nofun⟩
  · exact hdisabled

/-- What the clearing leaves alone. -/
theorem clearSecureChannelLocked_rest (r : CcidReader ι β σ κ) (j : ι) :
    (r.clearSecureChannelLocked j).connectionEpoch = r.connectionEpoch ∧
      (r.clearSecureChannelLocked j).sent = r.sent ∧
      (r.clearSecureChannelLocked j).applets =
        (r.updateApplet j fun applet => { applet with enabled := false }).applets := by
  unfold clearSecureChannelLocked
  dsimp only
  split
  · exact ⟨rfl, rfl, rfl⟩
  · exact ⟨rfl, rfl, rfl⟩

/-- A session that is still there after the channel of a connector was cleared is one of another
applet. -/
theorem session_of_clearSecureChannelLocked {selected : SelectedApplet σ}
    {session : AppletSession σ} (hselected : selected ∈ (r.clearSecureChannelLocked j).selected)
    (hsession : session ∈ selected.session) : selected ∈ r.selected ∧ selected.applicationAid ≠
    (r.applets j).applicationAid := by
  unfold clearSecureChannelLocked at hselected
  dsimp only at hselected
  split at hselected
  · obtain ⟨selected₀, -, rfl⟩ := Option.map_eq_some_iff.mp hselected
    cases hsession
  · rename_i hours
    refine ⟨hselected, fun hsame => hours ?_⟩
    refine Option.map_eq_some_iff.mpr ⟨selected, hselected, ?_⟩
    simpa [updateApplet] using hsame

/-- The explicit ends of a channel: nothing is asked of the flags of the connector. -/
theorem Covered.cleared {r' : CcidReader ι β σ κ} (h : Covered aid i w old r) (hw : w → j ≠ i)
    (hselected : r'.selected = (r.clearSecureChannelLocked j).selected)
    (hepoch : r'.connectionEpoch = r.connectionEpoch) (hsent : r'.sent = r.sent)
    (hsame : (r'.applets j).applicationAid = (r.applets j).applicationAid)
    (hothers : ∀ k, k ≠ j → r'.applets k = r.applets k) : Covered aid i w old r' := by
  have hsession : ∀ selected ∈ r'.selected, ∀ session ∈ selected.session,
      selected ∈ r.selected ∧ selected.applicationAid ≠ aid j := by
    intro selected hmem session hsession
    rw [hselected] at hmem
    rw [← h.aids j]
    exact session_of_clearSecureChannelLocked hmem hsession
  refine ⟨?_, ?_, ?_, ?_, ?_⟩
  · intro k
    by_cases hk : k = j
    · subst hk
      exact hsame.trans (h.aids k)
    · rw [hothers k hk]
      exact h.aids k
  · intro selected hmem session hmem'
    rw [hepoch]
    exact h.live selected (hsession selected hmem session hmem').1 session hmem'
  · intro selected hmem session hmem' hi
    obtain ⟨hselected', hother⟩ := hsession selected hmem session hmem'
    have hij : i ≠ j := by
      rintro rfl
      exact hother hi
    rw [hothers i hij]
    exact h.started selected hselected' session hmem' hi
  · intro hopen
    rw [hothers i (hw hopen).symm]
    exact h.watched hopen
  · rw [hsent]
    exact h.history

/-- The channel is cleared and the flags are set, in this order. -/
theorem Covered.clearedThen (h : Covered aid i w old r) (hw : w → j ≠ i)
    {f : AppletConnector κ → AppletConnector κ}
    (hf : ∀ applet, (f applet).applicationAid = applet.applicationAid) :
    Covered aid i w old ((r.clearSecureChannelLocked j).updateApplet j f) := by
  obtain ⟨hepoch, hsent, happlets⟩ := clearSecureChannelLocked_rest r j
  refine h.cleared hw rfl hepoch hsent ?_ fun k hk => ?_
  · simp [CcidReader.updateApplet, happlets, hf]
  · simp [CcidReader.updateApplet, happlets, Function.update_of_ne hk]

/-- A login is prepared. -/
theorem prepareSecureChannelLogin_covered (username : Bytes)
    (resolved : Except Rv (SecureChannelProtocol × κ)) (h : Covered aid i w old r) (hw : w → j ≠ i)
    : Covered aid i w old (r.prepareSecureChannelLogin j username resolved).2 := by
  unfold prepareSecureChannelLogin
  dsimp only
  split
  · exact h
  · dsimp only
    apply h.clearedThen hw
    intro applet
    rfl

/-- `clear_secure_channel` sets the flags first. -/
theorem clearSecureChannel_covered (h : Covered aid i w old r) (hw : w → j ≠ i) :
    Covered aid i w old (r.clearSecureChannel j) := by
  have hours : ∀ f : AppletConnector κ → AppletConnector κ,
      (∀ applet, (f applet).applicationAid = applet.applicationAid) →
      ((r.updateApplet j f).clearSecureChannelLocked j).selected =
        (r.clearSecureChannelLocked j).selected := by
    intro f hf
    simp [clearSecureChannelLocked, CcidReader.Ours, updateApplet,
      updateSelected, hf, apply_ite selected]
  obtain ⟨hepoch, hsent, happlets⟩ := clearSecureChannelLocked_rest
    (r.updateApplet j fun applet => { applet with credential := none, channelStarted := false }) j
  refine h.cleared hw (hours _ fun _ => rfl) hepoch hsent ?_ fun k hk => ?_
  · unfold clearSecureChannel
    rw [happlets]
    simp [updateApplet]
  · unfold clearSecureChannel
    rw [happlets]
    simp [updateApplet, update_of_ne hk]

/-- A login is finished. -/
theorem finishSecureChannelLogin_covered (success : Bool) (h : Covered aid i w old r)
    (hw : w → ¬ (j = i ∧ success = false)) :
    Covered aid i w old (r.finishSecureChannelLogin j success) := by
  unfold finishSecureChannelLogin
  split
  · rename_i hfailed
    refine clearSecureChannel_covered h fun hopen hji => hw hopen ⟨hji, ?_⟩
    exact Bool.eq_false_iff.mpr hfailed
  · split
    · exact h.updateApplet j (by exact fun _ => ⟨rfl, id, rfl⟩)
    · exact h

/-- A lost login is reconciled. -/
theorem reconcileLostAppletLogin_covered (h : Covered aid i w old r) :
    Covered aid i w old (r.reconcileLostAppletLogin j) := by
  unfold reconcileLostAppletLogin
  split
  · exact clearSecureChannelLocked_covered (h.updateApplet j (by exact fun _ => ⟨rfl, id, rfl⟩)) j
  · exact h

/-- `refresh`. -/
theorem refresh_covered (h : Covered aid i w old r) :
    Covered aid i w old (r.refresh device j).2 := by
  have hlost : ∀ (base : β) (error : Rv), Covered aid i w old
      ((({ r with base := base }.updateApplet j fun applet =>
        { applet with appletPresent := false, discoveryError := some error }).disable
          j).clearSelection) := by
    intro base error
    refine Covered.clearSelection (Covered.disable ?_ j)
    exact (h.withBase base).discovered j (fun _ => false) (some error)
  unfold refresh
  rcases device.refresh r.base with ⟨error | _, base⟩
  · exact hlost base error
  · dsimp only
    split
    · unfold refreshPresent
      dsimp only
      have hsync := (h.withBase base).synchronizeConnection device
      split
      · exact hsync.discovered j (fun _ => true) none
      split
      · exact hsync.discovered j appletPresent none
      have hselect := (hsync.clearSelection.record device j
        (.select (r.applets j).applicationAid) fun _ _ => trivial).exchange_ends
        (device.selectApplication (r.applets j).applicationAid)
      generalize exchange device _ j _ _ = x at hselect ⊢
      rcases x with ⟨error | _, r'⟩
      · exact Covered.discovered hselect j (fun _ => false) (some error)
      · exact (hselect.1.select _).discovered j (fun _ => true) none
    · exact hlost base .deviceRemoved

/-- The login state is set. -/
theorem setCcidLoginState_covered (haid : ∀ j, aid j = aid i → j = i)
    (hsteady : SteadyHandshake device) (login : CcidLoginState) (h : Covered aid i w old r) :
    Covered aid i w old (r.setCcidLoginState device j login).2 := by
  have hlogin : ∀ {r' : CcidReader ι β σ κ}, Covered aid i w old r' →
      Covered aid i w old (r'.updateSelected fun selected => { selected with login }) :=
    fun h' => h'.updateSelected fun _ _ =>
      ⟨rfl, fun session hsession => ⟨session, hsession, rfl, rfl⟩⟩
  unfold setCcidLoginState
  split
  · dsimp only
    split
    · exact hlogin (h.synchronizeConnection device)
    · exact h.synchronizeConnection device
  · refine Outcome.Ends.state
      ((ensureSelectedLocked_ends haid hsteady h).andThen fun _ r' hr' => ?_)
    split
    · exact hr'.1
    · exact hlogin hr'.1

/-- `establish_secure_channel`.  When it returns for the connector `i` and a protocol is active, `i` has
started its channel. -/
theorem establishSecureChannel_ends (haid : ∀ j, aid j = aid i → j = i)
    (hsteady : SteadyHandshake device) (applicationAid : Bytes) (h : Covered aid i w old r) :
    (r.establishSecureChannel device j applicationAid).Ends
      (fun _ r' => Covered aid i w old r' ∧
        (r'.applets j).activeProtocol = (r.applets j).activeProtocol ∧
        (j = i → (r.applets i).activeProtocol ≠ none → (r'.applets i).channelStarted = true))
      (Covered aid i w old) := by
  refine ends_ite (fun _ => h) fun _ => ?_
  have henabled := h.updateApplet j (f := fun applet => { applet with enabled := true })
    (by exact fun _ => ⟨rfl, id, rfl⟩)
  have hends := ensureSelectedLocked_ends (j := j) haid hsteady henabled
  have hkeeps : (ensureSelectedLocked device (r.updateApplet j fun applet =>
    { applet with enabled := true }) j).Ends _ _ := ensureSelectedLocked_keeps
  generalize ensureSelectedLocked device _ j = x at hends hkeeps ⊢
  rcases x with ⟨error | _, r'⟩
  · exact Covered.updateApplet hends j (by exact fun _ => ⟨rfl, id, rfl⟩)
  · obtain ⟨hr', hadmitted⟩ := hends
    obtain ⟨hon, hprotocol⟩ := hkeeps
    have hprotocol' : (r'.applets j).activeProtocol = (r.applets j).activeProtocol :=
      hprotocol.trans (by simp [updateApplet, activeProtocol])
    have hon' : (r'.applets j).enabled = true :=
      hon.trans (by simp [updateApplet])
    refine ⟨hr', hprotocol', ?_⟩
    rintro rfl hactive
    have hsecured : ¬ r'.SendsPlain j := by
      rintro (hnone | hoff)
      · exact hactive (hprotocol'.symm.trans hnone)
      · exact absurd hon' (by simp [hoff])
    obtain ⟨selected, hselected, session, hsession⟩ := hadmitted.session hsecured
    obtain ⟨selected', hselected', hours⟩ := Option.map_eq_some_iff.mp hadmitted.ours
    obtain rfl : selected = selected' := Option.some.inj (hselected.symm.trans hselected')
    exact hr'.started selected hselected session hsession (hours.trans (hr'.aids j))

end Calls

/-! ### Runs -/

section Runs

variable [DecidableEq ι] {device : BaseConnector β σ κ} {aid : ι → Bytes} {i : ι} {w : Prop}
  {old : List (SentFrame ι σ)} {r : CcidReader ι β σ κ}

section

variable (haid : ∀ j, aid j = aid i → j = i) (hsteady : SteadyHandshake device)
  (h : Covered aid i w old r)

include haid hsteady h

/-- One event: it keeps the invariant when it does not end the channel under watch. -/
theorem step_covered (event : ReaderEvent ι β κ) (hevent : w → ¬ event.Clears i) :
    Covered aid i w old (r.step device event).2 := by
  have hreply : ∀ {α : Type} {x : Outcome Rv (CcidReader ι β σ κ) α},
      x.Ends (fun _ => Covered aid i w old) (Covered aid i w old) →
      Covered aid i w old (x.andThen fun _ r => (.ok (), r)).2 := by
    rintro α ⟨_ | a, r'⟩ hx
    · exact hx
    · exact hx
  cases event with
  | sendApdu j form command => exact hreply (sendApdu_ends haid hsteady form command h)
  | transmit j sendBuffer receiveLength =>
    exact hreply (transmit_ends haid hsteady sendBuffer receiveLength h)
  | securityDomainPutScp03KeySet j newKvn replaceKvn enc mac dek =>
    apply hreply
    unfold securityDomainPutScp03KeySet
    exact securityDomainCall_ends haid hsteady _ _ h
  | securityDomainDeleteScp03KeySet j kvn deleteLast =>
    apply hreply
    exact securityDomainCall_ends haid hsteady _ _ h
  | securityDomainScp11Administration j operation =>
    apply hreply
    exact securityDomainCall_ends haid hsteady _ _ h
  | refresh j => exact refresh_covered h
  | prepareSecureChannelLogin j username resolved =>
    exact prepareSecureChannelLogin_covered username resolved h hevent
  | finishSecureChannelLogin j success => exact finishSecureChannelLogin_covered success h hevent
  | reconcileLostAppletLogin j => exact reconcileLostAppletLogin_covered h
  | clearSecureChannel j => exact clearSecureChannel_covered h hevent
  | clearSecureChannelForLogin j =>
    dsimp only [step, clearSecureChannelForLogin]
    apply h.clearedThen hevent
    intro applet
    rfl
  | establishSecureChannel j applicationAid =>
    exact ((establishSecureChannel_ends haid hsteady applicationAid h).imp
      (fun _ _ hr => hr.1) fun _ hr => hr).state
  | setCcidLoginState j login => exact setCcidLoginState_covered haid hsteady login h
  | secureChannelProtocol j => exact h.synchronizeConnection device
  | authenticatedCredentialDescription j =>
    refine hreply ?_
    unfold authenticatedCredentialDescription
    dsimp only
    split
    · exact h.synchronizeConnection device
    · split
      · exact h.synchronizeConnection device
      · exact h.synchronizeConnection device
  | ccidLoginState j => exact h.synchronizeConnection device
  | setSelectedApplication a =>
    simp only [step]
    rcases device.selectApplication a r.base with ⟨error | _, base⟩
    · exact h.withBase base
    · exact (h.withBase base).select a
  | baseChanges base => exact h.withBase base

/-- A run of events that do not end the channel under watch. -/
theorem after_covered (events : List (ReaderEvent ι β κ))
    (hevents : w → ∀ event ∈ events, ¬ event.Clears i) :
    Covered aid i w old (r.after device events) := by
  induction events generalizing r with
  | nil => exact h
  | cons event events ih =>
    refine ih (step_covered haid hsteady h event fun hw => ?_) fun hw event' hevent' => ?_
    · exact hevents hw event List.mem_cons_self
    · exact hevents hw event' (List.mem_cons_of_mem _ hevent')

end

/-- **No plaintext downgrade.**  A connector with an active protocol has established its channel.  No
other connector of the reader has its applet, and a handshake that succeeds has run on one connection.
Then whatever happens at the reader until the channel is ended explicitly, every frame of the connector
after that is part of selecting the applet or of making the channel, or it goes through a session of the
applet that is selected, on the current connection; and a send that returns has gone through such a
session. -/
theorem secured_until_cleared (device : BaseConnector β σ κ) (hsteady : SteadyHandshake device)
    (r : CcidReader ι β σ κ) (hunused : r.selected = none)
    (before after : List (ReaderEvent ι β κ)) (i : ι) (aid : Bytes)
    (haid : ∀ j, (r.applets j).applicationAid = (r.applets i).applicationAid → j = i)
    (hprotocol : ((r.after device before).applets i).activeProtocol ≠ none)
    (hestablished : ((r.after device before).establishSecureChannel device i aid).1 = .ok ())
    (hafter : ∀ event ∈ after, ¬ event.Clears i) :
    let established := ((r.after device before).establishSecureChannel device i aid).2
    let later := established.after device after
    (∃ new, later.sent = new ++ established.sent ∧
      ∀ entry ∈ new, entry.connector = i → SentGuarded (r.applets i).applicationAid entry) ∧
    ∀ form command response, (later.sendApdu device i form command).1 = .ok response →
      ∃ session entry, (later.sendApdu device i form command).2.sent.head? = some entry ∧
        entry.frame = .secured session form command ∧ entry.connector = i ∧
        SentGuarded (r.applets i).applicationAid entry := by
  intro established later
  set aids : ι → Bytes := fun j => (r.applets j).applicationAid
  have hstart : Covered aids i False [] r := by
    refine ⟨fun _ => rfl, ?_, ?_, False.elim, False.elim⟩
    · intro selected hselected
      rw [hunused] at hselected
      cases hselected
    · intro selected hselected
      rw [hunused] at hselected
      cases hselected
  have hbefore : Covered aids i False [] (r.after device before) :=
    after_covered haid hsteady hstart before False.elim
  obtain ⟨hcovered, hsame, hstarted⟩ :=
    (establishSecureChannel_ends haid hsteady aid hbefore).of_ok hestablished
  -- from here on the connector is under watch
  have hwatched : Covered aids i True established.sent established := by
    refine ⟨hcovered.aids, hcovered.live, hcovered.started, fun _ => ⟨hstarted rfl hprotocol, ?_⟩, ?_⟩
    · rw [hsame]
      exact hprotocol
    · exact fun _ => ⟨[], rfl, fun _ hentry => nomatch hentry⟩
  have hlater : Covered aids i True established.sent later :=
    after_covered haid hsteady hwatched after fun _ => hafter
  refine ⟨hlater.history trivial, fun form command response hresponse => ?_⟩
  exact (sendApdu_secured haid hsteady form command hlater trivial).of_ok hresponse

end Runs

/-! ### Readers on which the conditions fail -/

/-- A card in a reader: its connection, and whether its handshakes succeed. -/
structure SampleCard where
  epoch : UInt64
  authenticates : Bool

/-- A connector for such a card, which answers every command with `9000`.  A session is the number of the
connection that its handshake was made on.  At the end of a handshake the card may be replaced. -/
def sampleDevice (replaced : Bool) : BaseConnector SampleCard UInt64 Unit where
  connectionEpoch := SampleCard.epoch
  isPresent := fun _ => true
  stableAppletTopology := false
  refresh := fun card => (.ok (), card)
  selectApplication := fun _ card => (.ok (), card)
  authenticate := fun _ _ _ card =>
    if card.authenticates then
      (.ok (card.epoch, none), if replaced then { card with epoch := card.epoch + 1 } else card)
    else (.error .deviceError, card)
  sendApdu := fun _ _ card => (.ok ⟨[], responseOk⟩, card)
  transmit := fun _ card => (.ok [0x90, 0x00], card)
  sendSecured := fun _ _ session card => (.ok ⟨[], responseOk⟩, session, card)
  staticDekLength := fun _ => .ok 16
  prepareScp11Administration := fun _ _ => .ok ()
  administer := fun _ session card => (.ok [], session, card)

/-- A reader with two connectors. -/
def sampleReader (card : SampleCard) (aid : Bool → Bytes) (protocol : Option SecureChannelProtocol) :
    CcidReader Bool SampleCard UInt64 Unit where
  base := card
  selected := none
  connectionEpoch := card.epoch
  applets := fun i => .newConfigured (aid i) protocol true none true
  sent := []

/-- The identifiers of the two applets. -/
def sampleAid (i : Bool) : Bytes := if i then [0xa0, 1, 2, 3, 4] else [0xa0, 5, 6, 7, 8]

/-- A command with data. -/
def sampleCommand : CommandApdu :=
  { cla := 0, ins := 0x20, p1 := 0, p2 := 0x80, data := [1, 2, 3, 4], le := none, extended := false }

/-- Without a protocol, `establish_secure_channel` succeeds and the next command goes out as it is.  So
it does when another connector of the reader had made the session of the same applet, and a later
handshake has failed.  When the card is replaced under a handshake, a command goes through a session of
the connection from before. -/
theorem established_channel_sends_unguarded :
    (let r := sampleReader ⟨1, true⟩ sampleAid none
     (r.establishSecureChannel (sampleDevice false) true (sampleAid true)).1 = .ok () ∧
     ((r.establishSecureChannel (sampleDevice false) true (sampleAid true)).2.after (sampleDevice false)
        [.sendApdu true .normal sampleCommand]).sent.head?.map SentFrame.frame =
       some (.plain .normal sampleCommand)) ∧
    (let r := (sampleReader ⟨1, true⟩ (fun _ => sampleAid true) (some .scp03)).after
        (sampleDevice false) [.establishSecureChannel false (sampleAid true)]
     (r.establishSecureChannel (sampleDevice false) true (sampleAid true)).1 = .ok () ∧
     ((r.establishSecureChannel (sampleDevice false) true (sampleAid true)).2.after (sampleDevice false)
        [.baseChanges ⟨2, false⟩, .sendApdu true .normal sampleCommand,
          .sendApdu true .normal sampleCommand]).sent.head?.map SentFrame.frame =
       some (.plain .normal sampleCommand)) ∧
    (let r := sampleReader ⟨1, true⟩ sampleAid (some .scp03)
     (r.establishSecureChannel (sampleDevice true) true (sampleAid true)).1 = .ok () ∧
     ((r.establishSecureChannel (sampleDevice true) true (sampleAid true)).2.after (sampleDevice true)
        [.sendApdu true .normal sampleCommand]).sent.head?.map
          (fun entry => (entry.frame, entry.epoch)) =
       some (.secured ⟨2, sampleAid true, 2⟩ .normal sampleCommand, 3)) := by
  decide +kernel

/-- The channel is lost with the connection, the applet is selected by another connector, and a handshake
fails: nothing goes out as it is. -/
theorem secured_until_cleared_lost_channel :
    let r := sampleReader ⟨1, true⟩ sampleAid (some .scp03)
    let established := (r.establishSecureChannel (sampleDevice false) true (sampleAid true)).2
    let later := established.after (sampleDevice false)
      [.sendApdu true .normal sampleCommand, .sendApdu false .normal sampleCommand,
        .baseChanges ⟨2, false⟩, .sendApdu true .normal sampleCommand]
    ∃ new, later.sent = new ++ established.sent ∧
      ∀ entry ∈ new, entry.connector = true → SentGuarded (sampleAid true) entry := by
  intro r established later
  have hsteady : SteadyHandshake (sampleDevice false) := by
    intro protocol source aid card result card' hhandshake
    simp only [sampleDevice] at hhandshake
    split at hhandshake
    · cases hhandshake
      rfl
    · cases hhandshake
  exact (secured_until_cleared (sampleDevice false) hsteady r rfl [] _ true (sampleAid true)
    (by decide) (by decide) (by decide) (by simp [ReaderEvent.Clears])).1

end Pkcs11rs.Analysis
