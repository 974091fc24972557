import Pkcs11rs.Model.DiscoveryCalls

/-!
# Scripts that leave the discovery session to reads

A trace is `Clean` if every command over a discovery session, and every command between the end of a user's
session and the next login, reads public data.  Reads keep it so, whatever session they are sent over
(`sound_of_readOnly`).  For another command the session cell must not have a discovery session.

What a call checked when it began says that the cell has the session of a user.  A lost session leaves the
cell invalidated, and then no command is sent; but `ensure_read_session` and `public_discovery_available`
put a discovery session there later in the same call.  So the scripts are followed in two ways: one whose
steps are all made while the user's session is there (`firm_base`), and one of a call during which the
connector does not reconnect, where the cell stays with the user until a step fails (`calm_base`).  If
nothing ends the session during the call, every script is safe (`steady_keeps`).
-/

set_option autoImplicit false

namespace Pkcs11rs.Analysis

open Pkcs11rs.Library Pkcs11rs.Model SecureSlot Script List

variable {trace : List SecureEvent} {role : YubiHsmSessionRole} {code : CommandCode}
  {s : SecureSlot} {cell : RoleCell} {exchange : Exchange} {answer : HsmAnswer}
  {request : HsmRequest}

/-! ### Clean traces -/

/-- The commands that only read public data: list, object info, public key, opaque or template value,
storage info and random, and the end of the session. -/
def isPublicRead : CommandCode → Bool
  | .listObjects => true
  | .getObjectInfo => true
  | .getPublicKey => true
  | .getOpaque => true
  | .getTemplate => true
  | .getStorageInfo => true
  | .getPseudoRandom => true
  | .closeSession => true
  | _ => false

/-- The session of a user has ended, and no login has succeeded since. -/
def UserGone (trace : List SecureEvent) : Prop :=
  ∃ earlier later, trace = earlier ++ .userEnded :: later ∧ .userStarted ∉ later

/-- Discovery sessions, and the time without a user, are left to reads. -/
def Clean (trace : List SecureEvent) : Prop :=
  ∀ before role code after, trace = before ++ .sent role code :: after →
    role = .publicDiscovery ∨ UserGone before → isPublicRead code = true

/-- The last event of a trace, or one before it. -/
theorem append_singleton_split {before after : List SecureEvent} {e x : SecureEvent}
    (h : trace ++ [e] = before ++ x :: after) :
    (before = trace ∧ x = e ∧ after = []) ∨ ∃ rest, trace = before ++ x :: rest := by
  rcases eq_nil_or_concat after with hafter | ⟨rest, last, hafter⟩
  · grind [append_inj']
  · grind [append_inj']

/-- A command does not end a session. -/
theorem userGone_append_sent (h : UserGone (trace ++ [.sent role code])) : UserGone trace := by
  obtain ⟨earlier, later, heq, hlater⟩ := h
  rcases eq_nil_or_concat later with hnil | ⟨rest, last, hconcat⟩
  · subst hnil
    obtain ⟨_, hlast⟩ := append_inj' heq rfl
    cases hlast
  · subst hconcat
    rw [concat_eq_append, ← cons_append, ← append_assoc] at heq
    obtain ⟨htrace, _⟩ := append_inj' heq rfl
    refine ⟨earlier, rest, htrace, ?_⟩
    intro hmem
    exact hlater (by rw [concat_eq_append]; exact mem_append_left _ hmem)

/-- A login begins one. -/
theorem not_userGone_append_userStarted (trace : List SecureEvent) :
    ¬ UserGone (trace ++ [.userStarted]) := by
  rintro ⟨earlier, later, heq, hlater⟩
  rcases eq_nil_or_concat later with hnil | ⟨rest, last, hconcat⟩
  · subst hnil
    obtain ⟨_, hlast⟩ := append_inj' heq rfl
    cases hlast
  · grind [append_inj']

/-- Nothing has been sent. -/
theorem clean_nil : Clean [] := by
  intro before role code after h
  cases before <;> cases h

/-- An event that is not a command. -/
theorem Clean.append_other {e : SecureEvent} (h : Clean trace)
    (he : ∀ role code, e ≠ .sent role code) : Clean (trace ++ [e]) := by
  intro before role code after heq hrole
  rcases append_singleton_split heq with ⟨_, hx, _⟩ | ⟨rest, htrace⟩
  · exact absurd hx.symm (he role code)
  · exact h before role code rest htrace hrole

/-- One more command. -/
theorem Clean.append_sent (h : Clean trace)
    (hcode : role = .publicDiscovery ∨ UserGone trace → isPublicRead code = true) :
    Clean (trace ++ [.sent role code]) := by
  intro before role' code' after heq hrole
  rcases append_singleton_split heq with ⟨hbefore, hx, _⟩ | ⟨rest, htrace⟩
  · cases hx
    subst hbefore
    exact hcode hrole
  · exact h before role' code' rest htrace hrole

/-! ### What a request keeps -/

/-- The trace is clean, and a user's session that is there has not ended. -/
structure Sound (s : SecureSlot) : Prop where
  clean : Clean s.trace
  present : s.cell.isUser = true → ¬ UserGone s.trace

/-- The cell has the session of a user. -/
def WithUser (s : SecureSlot) : Prop := Sound s ∧ s.cell.isUser = true

/-- The cell has the session of a user, or has lost it and nothing is opened since. -/
def Held (s : SecureSlot) : Prop :=
  Sound s ∧ (s.cell.isUser = true ∨ s.cell = .invalidatedUser)

/-- A user's session is held. -/
theorem WithUser.held (h : WithUser s) : Held s := ⟨h.1, .inl h.2⟩

/-- The cell of a user. -/
theorem eq_active_of_isUser (h : cell.isUser = true) :
    ∃ native recreate, cell = .active .user native recreate := by
  cases cell with
  | loggedOut | invalidatedUser => cases h
  | active role native recreate =>
    cases role with
    | user => exact ⟨native, recreate, rfl⟩
    | publicDiscovery => cases h

/-- The user's session is gone from the cell. -/
theorem Sound.of_cell (h : Sound s) (hcell : cell.isUser = false) :
    Sound { s with cell := cell } := by
  refine ⟨h.clean, ?_⟩
  simp [*]

/-- A command over the session of a role, which may be the user's. -/
theorem Sound.log_sent (h : Sound s)
    (hcode : isPublicRead code = true ∨ role = .user ∧ s.cell.isUser = true) :
    Sound (s.log [.sent role code]) := by
  refine ⟨h.clean.append_sent ?_, fun huser hgone => h.present huser (userGone_append_sent hgone)⟩
  intro hrole
  rcases hcode with hread | ⟨hrole', huser⟩
  · exact hread
  · rcases hrole with hrole | hgone
    · rw [hrole'] at hrole
      cases hrole
    · exact absurd hgone (h.present huser)

/-- Events are logged in order. -/
theorem log_append (s : SecureSlot) (first rest : List SecureEvent) :
    s.log (first ++ rest) = (s.log first).log rest := by
  simp [log, append_assoc]

/-- The user's session ends. -/
theorem Sound.log_userEnded (h : Sound s) (hcell : cell.isUser = false) :
    Sound { s.log [.userEnded] with cell := cell } := by
  refine ⟨h.clean.append_other nofun, ?_⟩
  simp [*]

/-- The session is lost. -/
theorem Sound.lose (h : Sound s) (role : YubiHsmSessionRole) : Sound (s.lose role) := by
  cases role with
  | user => exact h.log_userEnded rfl
  | publicDiscovery => exact h.of_cell rfl

/-- `send_secure_command`: the commands that are sent, and whether the session is lost. -/
theorem send_cases (s : SecureSlot) (code : CommandCode) (exchange : Exchange) : s.send code
    exchange = (false, s) ∨ ∃ role native recreate sent, s.cell = .active role native recreate ∧
      (sent = s.log [.sent role code] ∨ sent = (s.log [.sent role code]).log [.sent role code]) ∧
      ((∃ ok, s.send code exchange = (ok, sent)) ∨
        s.send code exchange = (false, sent.lose role)) := by
  obtain ⟨first, reauthenticated, second⟩ := exchange
  have htwice : ∀ e : SecureEvent, (s.log [e]).log [e] = s.log [e, e] :=
    fun e => (log_append s [e] [e]).symm
  rcases hcell : s.cell with _ | _ | ⟨role, native, recreate⟩
  · left
    simp [send, hcell]
  · left
    simp [send, hcell]
  · cases first with
    | refused =>
      left
      simp [send, hcell]
    | answered ok =>
      exact .inr ⟨role, native, recreate, _, rfl, .inl rfl, .inl ⟨ok, by simp [send, hcell]⟩⟩
    | broken =>
      exact .inr ⟨role, native, recreate, _, rfl, .inl rfl, .inr (by simp [send, hcell])⟩
    | expired =>
      by_cases hagain : recreate ∧ reauthenticated
      · refine .inr ⟨role, native, recreate, _, rfl, .inr rfl, ?_⟩
        cases second <;> simp [send, hcell, hagain, htwice]
      · refine .inr ⟨role, native, recreate, _, rfl, .inl rfl, .inr ?_⟩
        simp [send, hcell, hagain]

/-- A read, or a command when the cell has no discovery session. -/
theorem Sound.send (h : Sound s) (hcode : isPublicRead code = true ∨ ∀ native recreate,
      s.cell ≠ .active .publicDiscovery native recreate) : Sound (s.send code exchange).2 := by
  rcases send_cases s code exchange with
    hsend | ⟨role, native, recreate, sent, hcell, hsent, hsend⟩
  · rw [hsend]
    exact h
  · have hallowed : isPublicRead code = true ∨ role = .user ∧ s.cell.isUser = true := by
      rcases hcode with hread | hnot
      · exact .inl hread
      · cases role with
        | user => exact .inr ⟨rfl, by rw [hcell]; rfl⟩
        | publicDiscovery => exact absurd hcell (hnot native recreate)
    have honce : Sound (s.log [.sent role code]) := h.log_sent hallowed
    have hsound : Sound sent := by
      rcases hsent with rfl | rfl
      · exact honce
      · exact honce.log_sent hallowed
    rcases hsend with ⟨ok, hsend⟩ | hsend
    · rw [hsend]
      exact hsound
    · rw [hsend]
      exact hsound.lose role

/-- A command keeps the cell, or loses its session. -/
theorem send_cell (s : SecureSlot) (code : CommandCode) (exchange : Exchange) :
    (s.send code exchange).2.cell = s.cell ∨
      (s.send code exchange).1 = false ∧ ∃ role native recreate, s.cell = .active role native
        recreate ∧ (s.send code exchange).2.cell = (s.lose role).cell := by
  rcases send_cases s code exchange with
    hsend | ⟨role, native, recreate, sent, hcell, hsent, hsend⟩
  · rw [hsend]
    exact .inl rfl
  · rcases hsend with ⟨ok, hsend⟩ | hsend
    · rw [hsend]
      rcases hsent with rfl | rfl <;> exact .inl rfl
    · rw [hsend]
      exact .inr ⟨rfl, role, native, recreate, hcell, by cases role <;> rfl⟩

/-- A held session is no discovery session. -/
theorem Held.not_discovery (h : Held s) (native recreate : Bool) :
    s.cell ≠ .active .publicDiscovery native recreate := by
  intro hcell
  rcases h.2 with huser | hinvalid
  · rw [hcell] at huser
    cases huser
  · rw [hcell] at hinvalid
    cases hinvalid

/-- Every command keeps the cell with its user, or without a session. -/
theorem Held.send (h : Held s) : Held (s.send code exchange).2 := by
  refine ⟨h.1.send (.inr h.not_discovery), ?_⟩
  rcases send_cell s code exchange with hcell | ⟨_, role, native, recreate, hcell, hlost⟩
  · rw [hcell]
    exact h.2
  · cases role with
    | user =>
      right
      rw [hlost]
      rfl
    | publicDiscovery => exact absurd hcell (h.not_discovery native recreate)

/-- A command that succeeds leaves the session of the user. -/
theorem WithUser.send (h : WithUser s) (hok : (s.send code exchange).1 = true) :
    WithUser (s.send code exchange).2 := by
  refine ⟨h.held.send.1, ?_⟩
  rcases send_cell s code exchange with hcell | ⟨hfail, _⟩
  · rw [hcell]
    exact h.2
  · rw [hfail] at hok
    cases hok

/-- Caches are synchronized. -/
theorem Sound.synchronizeCaches (h : Sound s) (reconnected : Bool) :
    Sound (s.synchronizeCaches reconnected) := by
  cases reconnected with
  | false => exact h
  | true =>
    by_cases huser : s.cell.isUser = true
    · simp only [SecureSlot.synchronizeCaches, huser, if_true]
      exact ⟨(h.lose .user).clean, (h.lose .user).present⟩
    · simp only [SecureSlot.synchronizeCaches, huser, if_true]
      have hsound : Sound { s with cell := .loggedOut } := h.of_cell rfl
      exact ⟨hsound.clean, hsound.present⟩

/-- Nothing is reset while the connector stays connected. -/
theorem synchronizeCaches_same (h : answer.reconnected = false) :
    s.synchronizeCaches answer.reconnected = s := by
  rw [h]
  rfl

/-- A session that is there is enough to read. -/
theorem ensureReadSession_same (h : answer.reconnected = false) (huser : s.cell.isUser = true) :
    s.ensureReadSession answer = (true, s) := by
  grind [eq_active_of_isUser, ensureReadSession, synchronizeCaches_same]

/-- The user's session is held. -/
theorem WithUser.synchronizeCaches (h : WithUser s) (reconnected : Bool) :
    Held (s.synchronizeCaches reconnected) := by
  refine ⟨h.1.synchronizeCaches reconnected, ?_⟩
  cases reconnected with
  | false => exact .inl h.2
  | true =>
    right
    simp only [SecureSlot.synchronizeCaches, h.2, if_true]
    rfl

section

variable (h : Sound s)

include h

/-- A discovery session is installed. -/
theorem Sound.installDiscovery : Sound s.installDiscovery :=
  h.of_cell rfl

/-- `ensure_read_session`. -/
theorem Sound.ensureReadSession (answer : HsmAnswer) : Sound (s.ensureReadSession answer).2 := by
  have hsync : Sound (s.synchronizeCaches answer.reconnected) := h.synchronizeCaches _
  unfold SecureSlot.ensureReadSession
  generalize s.synchronizeCaches answer.reconnected = s' at hsync
  dsimp only
  rcases hcell : s'.cell with _ | _ | ⟨role, native, recreate⟩
  · by_cases hopen : s'.discoveryConfigured = true ∧ answer.authenticated = true
    · have hinfo : Sound (s'.log [.sent .publicDiscovery .getObjectInfo]) :=
        hsync.log_sent (.inl rfl)
      simp only [hopen, and_self, if_true]
      cases answer.accepted with
      | true => exact hinfo.installDiscovery
      | false => exact hinfo.log_sent (.inl rfl)
    · simp only [hopen, if_false]
      exact hsync
  · exact hsync.of_cell rfl
  · exact hsync

/-- Commands of a discovery session that are reads. -/
theorem Sound.log_reads (reads : List DiscoveryRead) :
    Sound (s.log (reads.map fun read => .sent .publicDiscovery read.code)) := by
  induction reads generalizing s with
  | nil =>
    simp only [log, map_nil, append_nil]
    exact h
  | cons read reads ih =>
    have hread : isPublicRead read.code = true := by cases read <;> rfl
    have hfirst : Sound (s.log [.sent .publicDiscovery read.code]) := h.log_sent (.inl hread)
    have hsplit : s.log ((read :: reads).map fun read => .sent .publicDiscovery read.code) =
        (s.log [.sent .publicDiscovery read.code]).log
          (reads.map fun read => .sent .publicDiscovery read.code) :=
      log_append s [_] _
    rw [hsplit]
    exact ih hfirst

/-- The discovery cache changes. -/
theorem Sound.of_discovery {discovery : DiscoveryCache} :
    Sound { s with discovery := discovery } := ⟨h.clean, h.present⟩

/-- A discovery is attempted. -/
theorem Sound.attemptDiscovery (reads : List DiscoveryRead) (answer : HsmAnswer) :
    Sound (s.attemptDiscovery reads answer).2 := by
  obtain ⟨exchange, reconnected, selected, authenticated, listed, accepted⟩ := answer
  have hinfo : Sound (s.log [.sent .publicDiscovery .getObjectInfo]) := h.log_sent (.inl rfl)
  have hlisted : Sound ((s.log [.sent .publicDiscovery .getObjectInfo]).log
      [.sent .publicDiscovery .listObjects]) := hinfo.log_sent (.inl rfl)
  have hreads := hlisted.log_reads reads
  rw [← log_append] at hreads
  cases authenticated with
  | false => exact h
  | true =>
    cases listed with
    | false => exact hinfo.log_sent (.inl rfl)
    | true =>
      cases accepted with
      | true => exact hreads.installDiscovery.of_discovery
      | false => exact hreads.log_sent (.inl rfl)

/-- `public_discovery_available`. -/
theorem Sound.publicDiscoveryAvailable (reads : List DiscoveryRead) (answer : HsmAnswer) :
    Sound (s.publicDiscoveryAvailable reads answer).2 := by
  have hsync : Sound (s.synchronizeCaches answer.reconnected) := h.synchronizeCaches _
  unfold SecureSlot.publicDiscoveryAvailable
  generalize s.synchronizeCaches answer.reconnected = s' at hsync
  dsimp only
  split_ifs with hconfigured huser
  · grind
  · cases s'.discovery with
    | available | failed => exact hsync
    | unattempted => exact hsync.of_discovery.attemptDiscovery reads answer
  · exact hsync

end

variable {α : Type}

/-- Before and after a script of the slot. -/
abbrev Meets (permits : HsmAnswer → Prop) (P : SecureSlot → Prop) (script : HsmScript α)
    (Q : α → SecureSlot → Prop) : Prop :=
  Script.Triple SecureSlot.handle HsmAnswer.quiet permits P script Q

/-! ### Scripts of reads -/

/-- A request that sends nothing but reads. -/
def ReadOnly : HsmRequest → Prop
  | .command code => isPublicRead code = true
  | _ => True

/-- A request that only reads. -/
theorem Sound.handle (h : Sound s) (hread : ReadOnly request) (answer : HsmAnswer) :
    Sound (s.handle request answer).2 := by
  cases request with
  | command code => exact h.send (.inl hread)
  | synchronizeCaches => exact h.synchronizeCaches _
  | ensureReadSession => exact h.ensureReadSession answer
  | publicDiscoveryAvailable reads => exact h.publicDiscoveryAvailable reads answer
  | isUser | isActive | isLoggedOut => exact h

variable {script : HsmScript α}

/-- **Reads are safe over every session.** -/
theorem sound_of_readOnly {permits : HsmAnswer → Prop} (hquiet : permits .quiet)
    (hall : script.All ReadOnly) : Meets permits Sound script fun _ => Sound :=
  triple_of_request hquiet hall fun _ _ answer hread _ hs => hs.handle hread answer

/-- A single request. -/
theorem all_ask {p : HsmRequest → Prop} (h : p request) :
    (ask request).All p := ⟨h, fun ok => all_done ok⟩

section

-- the reads that need no discovery session
variable {p : HsmRequest → Prop} (reads : List DiscoveryRead) (read : ObjectRead)
  (hp : ∀ request, ReadOnly request → request ≠ .ensureReadSession → p request)

include hp

/-- The requests of a discovery. -/
theorem all_discoverObjects : (discoverObjects reads).All p := by
  refine all_and (all_ask (hp _ rfl nofun)) ?_
  induction reads with
  | nil => exact all_pure true
  | cons read reads ih =>
    have hread : ReadOnly (.command read.code) := by cases read <;> rfl
    exact all_bind (all_ask (hp _ hread nofun)) fun _ => all_ite ih (all_pure false)

/-- The requests for the objects. -/
theorem all_backendTokenObjects : (backendTokenObjects reads).All p := by
  refine all_bind (all_ask (hp _ trivial nofun)) fun _ => ?_
  refine all_ite (all_discoverObjects reads hp) ?_
  exact all_bind (all_ask (hp _ trivial nofun)) fun _ => all_pure true

/-- The requests for a value. -/
theorem all_readObjectValue : (readObjectValue read).All p := by
  have hread : ReadOnly (.command (if read.template then .getTemplate else .getOpaque)) := by
    cases read.template <;> rfl
  exact all_ite (all_pure true) (all_ask (hp _ hread nofun))

/-- The same by its id. -/
theorem all_readObjectValueById : (readObjectValueById read).All p :=
  all_and (all_ite (all_pure true) (all_ask (hp _ rfl nofun))) (all_readObjectValue read hp)

end

/-- The objects are only read. -/
theorem readOnly_backendTokenObjects (reads : List DiscoveryRead) :
    (backendTokenObjects reads).All ReadOnly :=
  all_backendTokenObjects reads fun _ hread _ => hread

variable (read : ObjectRead)

/-- A value is only read. -/
theorem readOnly_readObjectValueById : (readObjectValueById read).All ReadOnly :=
  all_readObjectValueById read fun _ hread _ => hread

/-- It is only read after a discovery. -/
theorem readOnly_readWithPublicDiscovery : (readWithPublicDiscovery read).All ReadOnly := by
  have hread := readOnly_readObjectValueById read
  refine all_and (all_ask trivial) ?_
  refine all_bind hread fun _ => all_ite (all_pure true) ?_
  refine all_bind (all_ask trivial) fun _ => all_ite ?_ (all_pure false)
  exact all_and (all_ask trivial) hread

/-- An object is only read. -/
theorem readOnly_yubihsmReadObject : (yubihsmReadObject read).All ReadOnly :=
  all_bind (all_ask trivial) fun _ =>
    all_ite (readOnly_readObjectValueById read) (readOnly_readWithPublicDiscovery read)

/-- A stored value is only read. -/
theorem readOnly_storageObjectValue : (storageObjectValue read).All ReadOnly :=
  all_bind (all_ask trivial) fun _ =>
    all_ite (all_readObjectValue read fun _ hread _ => hread) (readOnly_readWithPublicDiscovery read)

/-- Stored values are only read. -/
theorem readOnly_storageValues (reads : List ObjectRead) : (storageValues reads).All ReadOnly := by
  induction reads with
  | nil => exact all_pure true
  | cons read reads ih => exact all_and (readOnly_storageObjectValue read) ih

/-- A scan only reads. -/
theorem readOnly_storageScan (scan : StorageScan) : (storageScan scan).All ReadOnly := by
  refine all_and ?_ (readOnly_storageValues scan.values)
  exact all_bind (all_ask trivial) fun _ =>
    all_ite (all_discoverObjects scan.reads fun _ hread _ => hread) (all_pure true)

/-- Scans only read. -/
theorem readOnly_storageScans (scans : List StorageScan) : (storageScans scans).All ReadOnly := by
  induction scans with
  | nil => exact all_pure true
  | cons scan scans ih => exact all_and (readOnly_storageScan scan) ih

/-- A refresh only reads. -/
theorem readOnly_refreshSlotTokenObjects (plan : RefreshPlan) :
    (refreshSlotTokenObjects plan).All ReadOnly :=
  all_and (readOnly_backendTokenObjects plan.reads)
    (all_and (readOnly_storageScans plan.scans) (all_pure plan.decoded))

/-! ### A call during which nothing ends the session -/

/-- The answer leaves the session as it is. -/
def Steady (answer : HsmAnswer) : Prop :=
  answer.reconnected = false ∧
    (answer.exchange.first = .refused ∨ ∃ ok, answer.exchange.first = .answered ok)

/-- A session that stays is in the cell. -/
theorem send_cell_of_steady (h : Steady answer) :
    (s.send code answer.exchange).2.cell = s.cell := by
  rcases hcell : s.cell with _ | _ | ⟨role, native, recreate⟩
  · simp [send, hcell]
  · simp [send, hcell]
  · rcases h.2 with hfirst | ⟨ok, hfirst⟩
    · simp [send, hcell, hfirst]
    · simp [send, hcell, hfirst, log]

/-- **Every script is safe while the session of the user lasts.** -/
theorem steady_keeps (script : HsmScript α) : Meets Steady WithUser script fun _ => WithUser := by
  refine triple_of_every_request ⟨rfl, .inl rfl⟩ ?_
  intro s request answer hsteady hs
  have hsync : s.synchronizeCaches answer.reconnected = s := synchronizeCaches_same hsteady.1
  cases request with
  | command code =>
    refine ⟨hs.held.send.1, ?_⟩
    exact (congrArg RoleCell.isUser (send_cell_of_steady hsteady)).trans hs.2
  | synchronizeCaches =>
    simp only [handle, hsync]
    exact hs
  | ensureReadSession =>
    simp only [handle, ensureReadSession_same hsteady.1 hs.2]
    exact hs
  | publicDiscoveryAvailable reads =>
    have hsame : (s.publicDiscoveryAvailable reads answer).2 = s := by
      simp only [publicDiscoveryAvailable, hsync, hs.2, true_or, if_true]
      split_ifs
      · cases s.discovery <;> rfl
      · rfl
    simp only [handle, hsame]
    exact hs
  | isUser | isActive | isLoggedOut => exact hs

/-! ### Scripts that go on only with the session of the user -/

/-- A script that goes on only in a state with `H`, and is safe when it fails. -/
abbrev Tracks (permits : HsmAnswer → Prop) (H : SecureSlot → Prop) (script : HsmScript Bool) : Prop :=
  Meets permits H script (Script.Outcome H Sound)

/-- What the steps do that a script is made of. -/
structure TrackBase (permits : HsmAnswer → Prop) (H : SecureSlot → Prop) : Prop where
  quiet : permits .quiet
  sound : ∀ s, H s → Sound s
  command : ∀ code, Tracks permits H (command code)
  deletions : ∀ count, Tracks permits H (deleteMetadataObjects count)
  readSession : Tracks permits H (ask .ensureReadSession)
  value : ∀ read, Tracks permits H (storageObjectValue read)

section Tracks

variable {permits : HsmAnswer → Prop} {H : SecureSlot → Prop}

/-- Either of two scripts. -/
theorem TrackBase.ite (_ : TrackBase permits H) {c : Prop} [Decidable c] {yes no : HsmScript Bool}
    (hyes : Tracks permits H yes) (hno : Tracks permits H no) :
    Tracks permits H (if c then yes else no) :=
  triple_ite (fun _ => hyes) fun _ => hno

variable (base : TrackBase permits H)

include base

/-- Nothing is asked. -/
theorem TrackBase.pure (ok : Bool) : Tracks permits H (pure ok) :=
  triple_outcome (triple_pure fun _ hs => hs) base.sound

/-- The info of an object. -/
theorem TrackBase.objectInfo (infoCached : Bool) : Tracks permits H (objectInfo infoCached) :=
  base.ite (base.pure true) (base.command .getObjectInfo)

/-- Stored values. -/
theorem TrackBase.storageValues (reads : List ObjectRead) :
    Tracks permits H (storageValues reads) := by
  induction reads with
  | nil => exact base.pure true
  | cons read reads ih => exact triple_and (base.value read) ih

/-- Metadata are written. -/
theorem TrackBase.writeBackedKeyMetadata (infoCached : Bool) :
    Tracks permits H (writeBackedKeyMetadata infoCached) :=
  triple_and base.readSession (triple_and (base.objectInfo infoCached) (base.command .putOpaque))

/-- A record is put. -/
theorem TrackBase.storagePut (put : StoragePut) : Tracks permits H (storagePut put) := by
  refine base.ite (base.ite (base.pure true) ?_) (base.pure false)
  refine triple_and (base.storageValues put.values) ?_
  exact base.ite (base.pure true)
    (base.ite (base.writeBackedKeyMetadata put.infoCached) (base.command .putOpaque))

/-- Records are put. -/
theorem TrackBase.storagePuts (puts : List StoragePut) : Tracks permits H (storagePuts puts) := by
  induction puts with
  | nil => exact base.pure true
  | cons put puts ih => exact triple_and (base.storagePut put) ih

/-- A record is deleted. -/
theorem TrackBase.storageDelete (deletion : StorageDeletion) :
    Tracks permits H (storageDelete deletion) :=
  triple_and (base.storageValues deletion.values) (base.deletions deletion.found)

/-- Records are deleted. -/
theorem TrackBase.storageDeletions (deletions : List StorageDeletion) :
    Tracks permits H (storageDeletions deletions) := by
  induction deletions with
  | nil => exact base.pure true
  | cons deletion deletions ih => exact triple_and (base.storageDelete deletion) ih

/-- The refresh at the end of a call. -/
theorem TrackBase.refresh {script : HsmScript Bool} (hscript : Tracks permits H script)
    (plan : RefreshPlan) : Meets permits H (thenRefresh script plan) fun _ => Sound := by
  refine triple_bind hscript fun ok => ?_
  cases ok with
  | true =>
    refine triple_consequence
      (sound_of_readOnly base.quiet (readOnly_refreshSlotTokenObjects plan)) ?_ fun _ _ hs => hs
    exact fun s hs => base.sound s (outcome_true.mp hs)
  | false => exact triple_pure fun s hs => outcome_false.mp hs

end Tracks

/-- The script asks for nothing but commands. -/
abbrev CommandsOnly {α : Type} (script : HsmScript α) : Prop :=
  script.All fun request => ∃ code, request = .command code

/-- Commands, whatever they are, keep the cell with its user or without a session. -/
theorem held_of_commands (hall : CommandsOnly script) :
    Meets (fun _ => True) Held script fun _ => Held := by
  refine triple_of_request trivial hall ?_
  rintro s request answer ⟨code, rfl⟩ _ hs
  exact hs.send

/-- Commands are commands. -/
theorem all_commands (codes : List CommandCode) : CommandsOnly (commands codes) := by
  induction codes with
  | nil => exact all_pure true
  | cons code codes ih => exact all_and (all_ask ⟨code, rfl⟩) ih

/-- Metadata are deleted by commands. -/
theorem all_deleteMetadataObjects (count : ℕ) : CommandsOnly (deleteMetadataObjects count) := by
  induction count with
  | zero => exact all_pure true
  | succ count ih =>
    refine all_bind (all_ask ⟨_, rfl⟩) fun _ => ?_
    exact all_bind ih fun _ => all_pure _

/-! ### Steps that are made while the session of the user is there -/

/-- A request with a user's session. -/
theorem firm_ask {M : Bool → SecureSlot → Prop}
    (h : ∀ s answer, WithUser s → M (s.handle request answer).1 (s.handle request answer).2) :
    Meets (fun _ => True) WithUser (ask request) M := by
  refine triple_request (M := M) trivial (fun s answer _ hs => h s answer hs) ?_
  exact fun ok => triple_done fun _ hs => hs

/-- A command with a user's session. -/
theorem firm_command (code : CommandCode) : Tracks (fun _ => True) WithUser (command code) := by
  refine firm_ask ?_
  intro s answer hs
  cases hok : (s.handle (.command code) answer).1 with
  | true => exact outcome_true.mpr (hs.send hok)
  | false => exact outcome_false.mpr hs.held.send.1

/-- The user's session is the read session. -/
theorem firm_readSession : Tracks (fun _ => True) WithUser (ask .ensureReadSession) := by
  refine firm_ask ?_
  intro s answer hs
  cases hreconnected : answer.reconnected with
  | false =>
    simp only [handle, ensureReadSession_same hreconnected hs.2]
    exact outcome_true.mpr hs
  | true =>
    have hfail : (s.ensureReadSession answer).1 = false := by
      simp [ensureReadSession, synchronizeCaches, hreconnected, hs.2, lose]
    simp only [handle, hfail]
    exact outcome_false.mpr (hs.1.ensureReadSession answer)

/-- Deletions with a user's session. -/
theorem firm_deletions (count : ℕ) :
    Tracks (fun _ => True) WithUser (deleteMetadataObjects count) := by
  induction count with
  | zero => exact triple_pure fun s hs => outcome_true.mpr hs
  | succ count ih =>
    refine triple_bind (M := fun ok s => if ok = true then WithUser s else Held s)
      (firm_ask ?_) fun ok => ?_
    · intro s answer hs
      cases hok : (s.handle (.command .deleteObject) answer).1 with
      | true => exact hs.send hok
      | false => exact hs.held.send
    · cases ok with
      | true =>
        refine triple_bind (triple_consequence ih (fun s hs => hs) fun _ _ hs => hs) fun rest => ?_
        exact triple_pure fun s hs => hs
      | false =>
        refine triple_bind (M := fun _ => Held)
          (held_of_commands (all_deleteMetadataObjects count)) fun rest => ?_
        exact triple_pure fun s hs => outcome_false.mpr hs.1

/-- A value with a user's session. -/
theorem firm_value : Tracks (fun _ => True) WithUser (storageObjectValue read) := by
  refine triple_bind (M := fun ok s => ok = true ∧ WithUser s) (firm_ask ?_) fun ok => ?_
  · exact fun s answer hs => ⟨hs.2, hs⟩
  · cases ok with
    | true =>
      have hread : Tracks (fun _ => True) WithUser (readObjectValue read) := by
        refine triple_ite (fun _ => ?_) fun _ => firm_command _
        exact triple_pure fun s hs => outcome_true.mpr hs
      exact triple_consequence hread (fun s hs => hs.2) fun _ _ hs => hs
    | false =>
      intro answers s _ hs
      cases hs.1

/-- **Steps made with the session of the user**, whatever the answers are. -/
theorem firm_base : TrackBase (fun _ => True) WithUser where
  quiet := trivial
  sound := fun _ hs => hs.1
  command := firm_command
  deletions := firm_deletions
  readSession := firm_readSession
  value := firm_value

/-! ### Calls during which the connector does not reconnect -/

/-- The connection epoch stays. -/
def Connected (answer : HsmAnswer) : Prop := answer.reconnected = false

/-- No answer reconnects. -/
theorem connected_quiet : Connected .quiet := rfl

/-- The cell is with its user or without a session, and public discovery has been attempted. -/
def Calm (s : SecureSlot) : Prop := Held s ∧ s.discovery ≠ .unattempted

/-- What a command changes. -/
theorem send_frame (s : SecureSlot) (code : CommandCode) (exchange : Exchange) :
    ∃ cell trace, (s.send code exchange).2 = { s with cell := cell, trace := trace } := by
  rcases send_cases s code exchange with
    hsend | ⟨role, native, recreate, sent, hcell, hsent, hsend⟩
  · exact ⟨_, _, by rw [hsend]⟩
  · rcases hsent with rfl | rfl <;> rcases hsend with ⟨ok, hsend⟩ | hsend <;> rw [hsend]
    all_goals cases role <;> exact ⟨_, _, rfl⟩

/-- Every request but `ensure_read_session` keeps the cell. -/
theorem Calm.handle (h : Calm s) (hrequest : request ≠ .ensureReadSession)
    (hanswer : Connected answer) : Calm (s.handle request answer).2 := by
  have hsync : s.synchronizeCaches answer.reconnected = s := synchronizeCaches_same hanswer
  cases request with
  | command code =>
    obtain ⟨cell, trace, hsend⟩ := send_frame s code answer.exchange
    exact ⟨h.1.send, by rw [handle, hsend]; exact h.2⟩
  | synchronizeCaches =>
    simp only [handle, hsync]
    exact h
  | ensureReadSession => exact absurd rfl hrequest
  | publicDiscoveryAvailable reads =>
    have hsame : (s.publicDiscoveryAvailable reads answer).2 = s := by
      simp only [publicDiscoveryAvailable, hsync]
      cases hcache : s.discovery with
      | unattempted => exact absurd hcache h.2
      | failed | available => split_ifs <;> rfl
    simp only [handle, hsame]
    exact h
  | isUser | isActive | isLoggedOut => exact h

/-- The script opens no session for reading. -/
abbrev KeepsSession {α : Type} (script : HsmScript α) : Prop :=
  script.All (· ≠ .ensureReadSession)

/-- A script that opens no session keeps the cell. -/
theorem settled_of_all (hall : KeepsSession script) : Meets Connected Calm script fun _ => Calm :=
  triple_of_request connected_quiet hall fun _ _ _ hrequest hanswer hs =>
    hs.handle hrequest hanswer

/-- A script that goes on while the slot is calm. -/
abbrev KeepsCalm (script : HsmScript Bool) : Prop := Tracks Connected Calm script

/-- A script that keeps its session. -/
theorem calm_of_all {script : HsmScript Bool} (hall : KeepsSession script) : KeepsCalm script :=
  triple_outcome (settled_of_all hall) fun _ hs => hs.1.1

/-- A read session. -/
theorem calm_readSession : KeepsCalm (ask .ensureReadSession) := by
  refine triple_request (M := Script.Outcome Calm Sound) connected_quiet ?_
    fun ok => triple_done fun _ hs => hs
  intro s answer hanswer hs
  rcases hs.1.2 with huser | hinvalid
  · simp only [handle, ensureReadSession_same hanswer huser]
    exact outcome_true.mpr hs
  · have hfail : (s.ensureReadSession answer).1 = false := by
      simp [ensureReadSession, synchronizeCaches_same hanswer, hinvalid]
    simp only [handle, hfail]
    exact outcome_false.mpr (hs.1.1.ensureReadSession answer)

/-- A value is read in one session. -/
theorem keeps_readObjectValueById : KeepsSession (readObjectValueById read) :=
  all_readObjectValueById read fun _ _ hrequest => hrequest

/-- A value after a discovery. -/
theorem calm_readWithPublicDiscovery : KeepsCalm (readWithPublicDiscovery read) := by
  have hread : KeepsCalm (readAttempt read) :=
    triple_and calm_readSession (calm_of_all (keeps_readObjectValueById read))
  refine triple_and calm_readSession ?_
  refine triple_bind (settled_of_all (keeps_readObjectValueById read)) fun ok => ?_
  refine triple_ite (fun _ => triple_pure fun s hs => outcome_true.mpr hs) fun _ => ?_
  refine triple_bind (M := fun _ => Calm) (settled_of_all (all_ask nofun)) fun _ => ?_
  refine triple_ite (fun _ => hread) fun _ => ?_
  exact triple_pure fun s hs => outcome_false.mpr hs.1.1

/-- A stored value. -/
theorem calm_value : KeepsCalm (storageObjectValue read) := by
  refine triple_bind (M := fun _ => Calm) (settled_of_all (all_ask nofun)) fun ok => ?_
  refine triple_ite (fun _ => calm_of_all ?_) fun _ => calm_readWithPublicDiscovery read
  exact all_ite (all_pure true) (all_ask nofun)

/-- **Steps of a call during which the connector does not reconnect.** -/
theorem calm_base : TrackBase Connected Calm where
  quiet := connected_quiet
  sound := fun _ hs => hs.1.1
  command := fun _ => calm_of_all (all_ask nofun)
  deletions := by
    intro count
    refine calm_of_all ?_
    induction count with
    | zero => exact all_pure true
    | succ count ih =>
      refine all_bind (all_ask nofun) fun _ => ?_
      exact all_bind ih fun _ => all_pure _
  readSession := calm_readSession
  value := calm_value

end Pkcs11rs.Analysis
