import Pkcs11rs.Library.Runs
import Pkcs11rs.Model.HeaderDirectory

/-!
# Header updates as a sequential history

`hard_link` makes a call's header the current one only if the header that the call read is
still the newest when the link is made.  The step invariant `HeaderInvariant` says why that
is so in an undisturbed run: of the generation a call has read, either it is the newest or the
generation after it, which is the one the call links, is there already.

A run is undisturbed (`Undisturbed`) if no call removes the generation that another call is
going to link, or any file while another call is listing the headers, and if what a call's
login checked still holds of the header that it then replaces.  In such a run the links made
are a sequential history of `applyCall` (`header_updates_sequential`), and a PIN that was replaced opens
the current header no more, if what is sealed under a PIN opens under no other PIN (`SealedByPin`).
-/

set_option autoImplicit false

namespace Pkcs11rs.Analysis

open Pkcs11rs.Library Pkcs11rs.Model HeaderSystem

variable {names : List ℕ} {files : HeaderFiles} {base : Option Header} {record : LinkRecord}
  {p g old : ℕ} {call : HeaderCall} {phase : HeaderPhase} {header : Header} {s' : HeaderSystem}
  {crypto : HeaderCrypto} {store : TokenStore} {log : List LinkRecord} {current : Option Header}

/-! ## The newest generation -/

/-- The generation is present and no present one is newer. -/
def Newest (names : List ℕ) (generation : ℕ) : Prop :=
  generation ∈ names ∧ ∀ other ∈ names, other ≤ generation

/-- The current generation is the largest one. -/
theorem currentGeneration_eq_max? (names : List ℕ) : currentGeneration names = names.max? := by
  have hfold : ∀ (l : List ℕ) (candidate : ℕ),
      currentGeneration (candidate :: l) = some (l.foldl max candidate) := by
    intro l
    induction l with
    | nil => exact fun _ => rfl
    | cons x l ih =>
      intro candidate
      rw [List.foldl_cons, ← ih]
      simp only [currentGeneration, List.foldl_cons]
      split
      · rw [max_eq_right (by omega)]
      · rw [max_eq_left (by omega)]
  cases names with
  | nil => rfl
  | cons x names => exact hfold names x

/-- The current generation is the newest name. -/
theorem currentGeneration_eq_some_iff {generation : ℕ} :
    currentGeneration names = some generation ↔ Newest names generation := by
  rw [currentGeneration_eq_max?, List.max?_eq_some_iff]
  rfl

/-- Only an empty directory has none. -/
theorem currentGeneration_eq_none_iff : currentGeneration names = none ↔ names = [] := by
  rw [currentGeneration_eq_max?, List.max?_eq_none_iff]

/-- The header is the one a login would use now. -/
def BaseCurrent (files : HeaderFiles) : Option Header → Prop
  | none => files = []
  | some header => Newest files.generations header.generation ∧
      List.lookup header.generation files = some header

/-- The base is the current header. -/
theorem BaseCurrent.currentHeader_eq (h : BaseCurrent files base) : currentHeader files = base := by
  cases base with
  | none =>
    obtain rfl : files = [] := h
    rfl
  | some header =>
    rw [currentHeader, currentGeneration_eq_some_iff.mpr h.1]
    exact h.2

/-- There is one newest name. -/
theorem Newest.unique {a b : ℕ} (ha : Newest names a) (hb : Newest names b) : a = b :=
  Nat.le_antisymm (hb.2 a ha.1) (ha.2 b hb.1)

/-! ## Histories -/

/-- The links are the effects of their calls, one after the other. -/
def Sequential (crypto : HeaderCrypto) (store : TokenStore) :
    Option Header → List LinkRecord → Option Header → Prop
  | start, [], final => start = final
  | start, record :: log, final =>
    applyCall crypto store start record.call = .ok record.header ∧
      Sequential crypto store (some record.header) log final

/-- One more call is made. -/
theorem Sequential.concat {start final : Option Header}
    (h : Sequential crypto store start log final)
    (hcall : applyCall crypto store final record.call = .ok record.header) : Sequential crypto store
    start (log ++ [record]) (some record.header) := by
  induction log generalizing start with
  | nil =>
    obtain rfl : start = final := h
    exact ⟨hcall, rfl⟩
  | cons first log ih => exact ⟨h.1, ih h.2⟩

/-- The last call gives the final header. -/
theorem Sequential.getLast {start final : Option Header}
    (h : Sequential crypto store start log final) (hlast : log.getLast? = some record) :
    final = some record.header := by
  induction log generalizing start with
  | nil => cases hlast
  | cons first log ih =>
    cases log with
    | nil =>
      cases hlast
      exact h.2.symm
    | cons second log => exact ih h.2 hlast

/-! ## The PINs of a history -/

/-- What is sealed under one PIN does not open under another. -/
def SealedByPin (crypto : HeaderCrypto) : Prop :=
  ∀ {pin other salt key otherKey nonce aad plaintext ciphertext},
    crypto.deriveWrappingKey pin salt = .ok key →
    crypto.deriveWrappingKey other salt = .ok otherKey →
    crypto.encrypt key nonce aad plaintext = .ok ciphertext → other ≠ pin →
    crypto.decrypt otherKey nonce aad ciphertext = .error .encryptedDataInvalid

/-- The user PIN after a call, if it is known: `some none` if the user has no PIN. -/
def userPinAfter (known : Option (Option Bytes)) : HeaderCall → Option (Option Bytes)
  | .changePin _ newPin _ | .initUserPin newPin _ _ => some (some newPin)
  | .initToken .. => some none
  | .changeSoPin .. => known

/-- The PIN of the security officer after a call, if it is known. -/
def soPinAfter (known : Option (Option Bytes)) : HeaderCall → Option (Option Bytes)
  | .changeSoPin _ newPin _ => some (some newPin)
  | .initToken soPin _ _ => some (some soPin)
  | .changePin .. | .initUserPin .. => known

/-- The PIN after the calls of a history. -/
def pinAfter (sets : Option (Option Bytes) → HeaderCall → Option (Option Bytes))
    (known : Option (Option Bytes)) (log : List LinkRecord) : Option (Option Bytes) :=
  log.foldl (fun known record => sets known record.call) known

/-- No login succeeds with a PIN other than the one that is known. -/
def OpensOnly {α : Type} (login : Bytes → Option Header → Except Rv α) (current : Option Header)
    (known : Option (Option Bytes)) : Prop :=
  ∀ pin keys, login pin current = .ok keys → ∀ set, known = some set → set = some pin

/-- Without a PIN nothing is claimed. -/
theorem opensOnly_none {α : Type} (login : Bytes → Option Header → Except Rv α)
    (current : Option Header) : OpensOnly login current none := by
  intro pin keys hlogin set hset
  cases hset

/-- What every call keeps, a history keeps. -/
theorem Sequential.opensOnly {α : Type} {login : Bytes → Option Header → Except Rv α}
    {sets : Option (Option Bytes) → HeaderCall → Option (Option Bytes)}
    (hcall : ∀ current known call header, applyCall crypto store current call = .ok header →
      OpensOnly login current known → OpensOnly login (some header) (sets known call))
    {start final : Option Header} {known : Option (Option Bytes)}
    (h : Sequential crypto store start log final) (hstart : OpensOnly login start known) :
    OpensOnly login final (pinAfter sets known log) := by
  induction log generalizing start known with
  | nil =>
    obtain rfl : start = final := h
    exact hstart
  | cons record log ih => exact ih h.2 (hcall start known record.call record.header h.1 hstart)

/-- A new user PIN leaves that of the security officer. -/
theorem replaceUserPin_soPublic {newPin pub priv : Bytes} {random : HeaderRandom}
    {replacement : Header}
    (h : replaceUserPin crypto store header newPin pub priv random = .ok replacement) :
    replacement.soPublic = header.soPublic := by
  obtain ⟨generation, -, h⟩ := bind_eq_ok.mp h
  obtain ⟨wrappedPublic, -, h⟩ := bind_eq_ok.mp h
  obtain ⟨wrappedPrivate, -, h⟩ := bind_eq_ok.mp h
  cases h
  rfl

/-- The PIN of the security officer opens what it has wrapped. -/
theorem OpensOnly.of_soPublic_eq {previous : Header} {known : Option (Option Bytes)}
    (h : OpensOnly (loginSoHeader crypto store) (some previous) known)
    (hsame : header.soPublic = previous.soPublic) :
    OpensOnly (loginSoHeader crypto store) (some header) known := by
  intro pin keys hlogin
  refine h pin keys ?_
  rw [loginSoHeader, hsame] at hlogin
  exact hlogin

section

variable (hsealed : SealedByPin crypto)

include hsealed

/-- A wrapped master key opens under the PIN that it was wrapped with only. -/
theorem unwrapMasterKey_wrapMasterKey {role role' : PinRole} {pin other masterKey salt nonce key : Bytes}
    {generation : ℕ} {wrapped : WrappedMasterKey} (hrole : role' = role)
    (hwrap : wrapMasterKey crypto store role generation pin masterKey salt nonce = .ok wrapped)
    (hunwrap : unwrapMasterKey crypto store other role' wrapped = .ok key) : other = pin := by
  subst hrole
  obtain ⟨-, -, hwrap⟩ := bind_eq_ok.mp hwrap
  obtain ⟨wrappingKey, hkey, hwrap⟩ := bind_eq_ok.mp hwrap
  obtain ⟨ciphertext, hencrypt, hwrap⟩ := bind_eq_ok.mp hwrap
  cases hwrap
  obtain ⟨otherKey, hother, hunwrap⟩ := bind_eq_ok.mp hunwrap
  obtain ⟨plaintext, hdecrypt, -⟩ := bind_eq_ok.mp hunwrap
  by_contra hne
  rw [hsealed hkey hother hencrypt hne] at hdecrypt
  cases hdecrypt

/-- A header whose user PIN was replaced. -/
theorem opensOnly_replaceUserPin {newPin pub priv : Bytes} {random : HeaderRandom}
    {replacement : Header}
    (h : replaceUserPin crypto store header newPin pub priv random = .ok replacement) :
    OpensOnly (loginHeader crypto store) (some replacement) (some (some newPin)) := by
  obtain ⟨generation, -, h⟩ := bind_eq_ok.mp h
  obtain ⟨wrappedPublic, hpublic, h⟩ := bind_eq_ok.mp h
  obtain ⟨wrappedPrivate, -, h⟩ := bind_eq_ok.mp h
  cases h
  rintro pin keys hlogin _ ⟨⟩
  obtain ⟨-, -, hlogin⟩ := bind_eq_ok.mp hlogin
  obtain ⟨key, hunwrap, -⟩ := bind_eq_ok.mp hlogin
  rw [unwrapMasterKey_wrapMasterKey hsealed rfl hpublic hunwrap]

/-- A header whose security officer has a new PIN. -/
theorem opensOnly_newSoPin {newPin masterKey salt nonce : Bytes} {generation : ℕ}
    {soPublic : WrappedMasterKey} (hsame : header.soPublic = soPublic)
    (h : wrapMasterKey crypto store .soPublic generation newPin masterKey salt nonce = .ok soPublic) :
    OpensOnly (loginSoHeader crypto store) (some header) (some (some newPin)) := by
  subst hsame
  rintro pin keys hlogin _ ⟨⟩
  obtain ⟨-, -, hlogin⟩ := bind_eq_ok.mp hlogin
  rw [unwrapMasterKey_wrapMasterKey hsealed rfl h hlogin]

/-- **No call leaves the previous user PIN valid.** -/
theorem opensOnly_userPin (current : Option Header) (known : Option (Option Bytes))
    (call : HeaderCall) (header : Header) (h : applyCall crypto store current call = .ok header)
    (hknown : OpensOnly (loginHeader crypto store) current known) :
    OpensOnly (loginHeader crypto store) (some header) (userPinAfter known call) := by
  obtain ⟨keys, -, h⟩ := bind_eq_ok.mp h
  cases call with
  | changePin oldPin newPin random =>
    cases current with
    | none => cases h
    | some previous => exact opensOnly_replaceUserPin hsealed h
  | changeSoPin oldPin newPin random =>
    cases current with
    | none => cases h
    | some previous =>
      obtain ⟨generation, -, h⟩ := bind_eq_ok.mp h
      obtain ⟨soPublic, -, h⟩ := bind_eq_ok.mp h
      cases h
      exact hknown
  | initUserPin newPin publicMasterKey random =>
    obtain ⟨-, -, h⟩ := bind_eq_ok.mp h
    cases current with
    | none => cases h
    | some previous => exact opensOnly_replaceUserPin hsealed (guard_eq_ok.mp h).2
  | initToken soPin label random =>
    obtain ⟨-, -, h⟩ := bind_eq_ok.mp h
    obtain ⟨generation, -, h⟩ := bind_eq_ok.mp h
    obtain ⟨discoveryPublic, -, h⟩ := bind_eq_ok.mp h
    obtain ⟨soPublic, -, h⟩ := bind_eq_ok.mp h
    cases h
    intro pin keys hlogin
    obtain ⟨-, -, hlogin⟩ := bind_eq_ok.mp hlogin
    cases hlogin

/-- **No call leaves the previous PIN of the security officer valid.** -/
theorem opensOnly_soPin (current : Option Header) (known : Option (Option Bytes))
    (call : HeaderCall) (header : Header) (h : applyCall crypto store current call = .ok header)
    (hknown : OpensOnly (loginSoHeader crypto store) current known) :
    OpensOnly (loginSoHeader crypto store) (some header) (soPinAfter known call) := by
  obtain ⟨keys, -, h⟩ := bind_eq_ok.mp h
  cases call with
  | changePin oldPin newPin random =>
    cases current with
    | none => cases h
    | some previous => exact hknown.of_soPublic_eq (replaceUserPin_soPublic h)
  | changeSoPin oldPin newPin random =>
    cases current with
    | none => cases h
    | some previous =>
      obtain ⟨generation, -, h⟩ := bind_eq_ok.mp h
      obtain ⟨soPublic, hso, h⟩ := bind_eq_ok.mp h
      cases h
      exact opensOnly_newSoPin hsealed rfl hso
  | initUserPin newPin publicMasterKey random =>
    obtain ⟨-, -, h⟩ := bind_eq_ok.mp h
    cases current with
    | none => cases h
    | some previous => exact hknown.of_soPublic_eq (replaceUserPin_soPublic (guard_eq_ok.mp h).2)
  | initToken soPin label random =>
    obtain ⟨-, -, h⟩ := bind_eq_ok.mp h
    obtain ⟨generation, -, h⟩ := bind_eq_ok.mp h
    obtain ⟨discoveryPublic, -, h⟩ := bind_eq_ok.mp h
    obtain ⟨soPublic, hso, h⟩ := bind_eq_ok.mp h
    cases h
    exact opensOnly_newSoPin hsealed rfl hso

end

/-! ## Undisturbed steps -/

/-- The phase goes wrong if this generation is removed now. -/
def reliesOn (old : ℕ) : HeaderPhase → Prop
  | .listing .. => True
  | .opening _ generation => old = generation + 1
  | .prepared header | .linking header => old = header.generation
  | _ => False

instance (old : ℕ) (phase : HeaderPhase) : Decidable (reliesOn old phase) := by
  cases phase <;> unfold reliesOn <;> infer_instance

/-- A step that does not disturb another call, and a second read that confirms the login. -/
def Undisturbed (crypto : HeaderCrypto) (store : TokenStore) (s : HeaderSystem)
    (event : ℕ × HeaderAction) : Prop :=
  ∀ proc, s.processes event.1 = some proc →
    (∀ generation old remaining, event.2 = .remove →
      proc.phase = .removing generation (old :: remaining) →
      ∀ q other, q ≠ event.1 → s.processes q = some other → ¬ reliesOn old other.phase) ∧
    (∀ keys generation header, event.2 = .read → proc.phase = .opening (some keys) generation →
      List.lookup generation s.files = some header →
      authorize crypto store (some header) proc.call = .ok keys)

/-! ## The invariant -/

/-- A listing in progress, while nothing is removed: what it will return as the newest is the
newest, or the generation after it is there. -/
structure Window (files : HeaderFiles) (throughout sometime : List ℕ) : Prop where
  present : ∀ g ∈ throughout, g ∈ files.generations
  sometime_iff : ∀ g, g ∈ sometime ↔ g ∈ files.generations
  newest_or_next : ∀ g ∈ files.generations, (∀ t ∈ throughout, t ≤ g) →
    Newest files.generations g ∨ g + 1 ∈ files.generations
  empty_or_first : throughout = [] → files = [] ∨ 1 ∈ files.generations

/-- The call has made its link. -/
def HasLinked (s : HeaderSystem) (p : ℕ) (call : HeaderCall) : Prop :=
  ∃ header, (⟨p, call, header⟩ : LinkRecord) ∈ s.log

/-- Some present generation is at least this one. -/
def Reached (files : HeaderFiles) (generation : ℕ) : Prop :=
  ∃ newer ∈ files.generations, generation ≤ newer

/-- The keys of a read for the replacement by a call without login. -/
def KeysFit (call : HeaderCall) (keys : Option (Bytes × Bytes)) : Prop :=
  call.logsIn = false → keys = some ([], [])

/-- The replacement of a call that is going to link: computed from the current header, or its
name is taken. -/
def Replaces (crypto : HeaderCrypto) (store : TokenStore) (files : HeaderFiles) (call : HeaderCall)
    (header : Header) : Prop :=
  ∃ base, applyCall crypto store base call = .ok header ∧
    (BaseCurrent files base ∨ header.generation ∈ files.generations)

/-- What holds of a process, by phase. -/
def ProcessInvariant (crypto : HeaderCrypto) (store : TokenStore) (s : HeaderSystem) (p : ℕ)
    (call : HeaderCall) : HeaderPhase → Prop
  | .listing keys throughout sometime => Window s.files throughout sometime ∧ KeysFit call keys
  | .opening keys generation => (Newest s.files.generations generation ∨
      generation + 1 ∈ s.files.generations) ∧ KeysFit call keys
  | .authorized _ => call.logsIn = true
  | .prepared header | .linking header => Replaces crypto store s.files call header
  | .linked generation | .cleaning generation _ _ =>
    HasLinked s p call ∧ Reached s.files generation
  | .removing generation remaining => HasLinked s p call ∧ Reached s.files generation ∧
      ∀ old ∈ remaining, old < generation
  | .done result => result = .ok () → HasLinked s p call

/-- The invariant of undisturbed runs that start with the header `start`. -/
structure HeaderInvariant (crypto : HeaderCrypto) (store : TokenStore) (start : Option Header)
    (s : HeaderSystem) : Prop where
  history : Sequential crypto store start s.log (currentHeader s.files)
  processes : ∀ p proc, s.processes p = some proc →
    ProcessInvariant crypto store s p proc.call proc.phase

section

variable {crypto : HeaderCrypto} {store : TokenStore} {start : Option Header} {s : HeaderSystem}

/-- A step that moves only one process. -/
theorem HeaderInvariant.setPhase (h : HeaderInvariant crypto store start s)
    (hphase : ProcessInvariant crypto store s p call phase) :
    HeaderInvariant crypto store start (s.setPhase p call phase) := by
  refine ⟨h.history, ?_⟩
  intro q proc hq
  by_cases hqp : q = p
  · subst hqp
    simp only [setPhase, Function.update_self, Option.some.injEq] at hq
    subst hq
    exact hphase
  · simp only [HeaderSystem.setPhase, ne_eq, hqp, not_false_eq_true, Function.update_of_ne] at hq
    exact h.processes q proc hq

/-- A listing that begins now. -/
theorem window_begin (files : HeaderFiles) : Window files files.generations files.generations where
  present _ hg := hg
  sometime_iff _ := Iff.rfl
  newest_or_next _ hg hle := .inl ⟨hg, hle⟩
  empty_or_first h := .inl (List.map_eq_nil_iff.mp h)

/-- A listing that returns. -/
theorem Window.returns {throughout sometime : List ℕ} (h : Window files throughout sometime)
    (hnames : listingReturns throughout sometime names = true) :
    (names = [] → files = [] ∨ 1 ∈ files.generations) ∧
      ∀ g, Newest names g → Newest files.generations g ∨ g + 1 ∈ files.generations := by
  simp only [listingReturns, Bool.and_eq_true, List.all_eq_true, decide_eq_true_eq] at hnames
  obtain ⟨hall, hsome⟩ := hnames
  constructor
  · rintro rfl
    apply h.empty_or_first
    exact List.eq_nil_iff_forall_not_mem.mpr fun g hg => by simpa using hall g hg
  · intro g hg
    apply h.newest_or_next g ((h.sometime_iff g).mp (hsome g hg.1))
    exact fun t ht => hg.2 t (hall t ht)

/-- The generation a call links after it read `current`. -/
def linkTarget : Option Header → ℕ
  | some header => header.generation + 1
  | none => 1

/-- A call makes the next generation. -/
theorem applyCall_generation (h : applyCall crypto store current call = .ok header) :
    header.generation = linkTarget current := by
  obtain ⟨keys, -, hprepare⟩ := bind_eq_ok.mp h
  rw [prepare_generation hprepare]
  cases current <;> rfl

/-- What a call does with the header it read. -/
theorem afterRead_invariant {keys : Option (Bytes × Bytes)} (hfit : KeysFit call keys)
    (hauth : ∀ k header, keys = some k → prepare crypto store k current call = .ok header →
      authorize crypto store current call = .ok k)
    (hbase : BaseCurrent s.files current ∨ linkTarget current ∈ s.files.generations) :
    ProcessInvariant crypto store s p call
      (afterRead crypto store call keys current) := by
  unfold afterRead
  cases keys with
  | none =>
    dsimp only
    split
    · exact fun h => by cases h
    · show call.logsIn = true
      by_contra hlogs
      cases hfit (by simpa using hlogs)
  | some k =>
    dsimp only
    split
    · exact fun h => by cases h
    next header hprepare =>
      have happly : applyCall crypto store current call = .ok header := by
        rw [applyCall, hauth k header rfl hprepare]
        exact hprepare
      refine ⟨current, happly, ?_⟩
      rw [applyCall_generation happly]
      exact hbase

/-! ## Linking -/

/-- A link of the generation that follows the newest one. -/
structure LinksNext (files : HeaderFiles) (n : ℕ) : Prop where
  above : ∀ g ∈ files.generations, g < n
  next : ∀ g, Newest files.generations g → n = g + 1
  first : files = [] → n = 1

/-- The next generation is new. -/
theorem BaseCurrent.linksNext (h : BaseCurrent files base) : LinksNext files (linkTarget base) := by
  cases base with
  | none =>
    obtain rfl : files = [] := h
    exact ⟨fun g hg => absurd hg List.not_mem_nil, fun g hg => absurd hg.1 List.not_mem_nil,
      fun _ => rfl⟩
  | some header =>
    refine ⟨fun g hg => Nat.lt_succ_of_le (h.1.2 g hg), fun g hg => ?_, ?_⟩
    · rw [hg.unique h.1]
      rfl
    · rintro rfl
      exact absurd h.1.1 List.not_mem_nil

/-- A larger name is the newest one. -/
theorem newest_cons {n : ℕ} (h : ∀ g ∈ names, g < n) : Newest (n :: names) n := by
  refine ⟨List.mem_cons_self, fun g hg => ?_⟩
  rcases List.mem_cons.mp hg with rfl | hg
  · exact le_refl _
  · exact (h g hg).le

/-- The generation a process waits for, once another process links. -/
theorem LinksNext.newest_or_next {n : ℕ} (h : LinksNext files n)
    (hg : Newest files.generations g ∨ g + 1 ∈ files.generations) :
    g + 1 ∈ n :: files.generations := by
  rcases hg with hg | hg
  · rw [h.next g hg]
    exact List.mem_cons_self
  · exact List.mem_cons_of_mem _ hg

/-- A link happens while a directory is listed. -/
theorem Window.observeLink {throughout sometime : List ℕ} (h : Window files throughout sometime)
    (hnext : LinksNext files header.generation) :
    Window ((header.generation, header) :: files) throughout
      (header.generation :: sometime) where
  present g hg := List.mem_cons_of_mem _ (h.present g hg)
  sometime_iff g := by
    show g ∈ header.generation :: sometime ↔ g ∈ header.generation :: files.generations
    rw [List.mem_cons, List.mem_cons, h.sometime_iff]
  newest_or_next g hg hle := by
    rcases List.mem_cons.mp hg with rfl | hg
    · exact .inl (newest_cons hnext.above)
    · exact .inr (hnext.newest_or_next (h.newest_or_next g hg hle))
  empty_or_first hempty := by
    right
    rcases h.empty_or_first hempty with hfiles | hone
    · rw [← hnext.first hfiles]
      exact List.mem_cons_self
    · exact List.mem_cons_of_mem _ hone

/-- What holds of a process still holds when another process links the next generation. -/
theorem ProcessInvariant.observeLink (h : ProcessInvariant crypto store s p call phase)
    (hnext : LinksNext s.files header.generation)
    (hfiles : s'.files = (header.generation, header) :: s.files) (hlog : s'.log = s.log ++ [record])
    : ProcessInvariant crypto store s' p call (phase.observeLink header.generation) := by
  have hgens : s'.files.generations = header.generation :: s.files.generations := by
    rw [hfiles]
    rfl
  have hlinked : HasLinked s p call → HasLinked s' p call := by
    rintro ⟨header', hmem⟩
    exact ⟨header', by rw [hlog]; exact List.mem_append_left _ hmem⟩
  have hreached (g : ℕ) : Reached s.files g → Reached s'.files g := by
    rintro ⟨newer, hmem, hle⟩
    exact ⟨newer, by rw [hgens]; exact List.mem_cons_of_mem _ hmem, hle⟩
  have hreplaces (header' : Header) : Replaces crypto store s.files call header' →
      Replaces crypto store s'.files call header' := by
    rintro ⟨base, happly, hbase⟩
    refine ⟨base, happly, .inr ?_⟩
    rw [hgens]
    rcases hbase with hbase | hbase
    · -- both calls link the same generation
      have hsame : header.generation = linkTarget base := by
        cases base with
        | none => exact hnext.first hbase
        | some b => exact hnext.next _ hbase.1
      rw [applyCall_generation happly, hsame]
      exact List.mem_cons_self
    · exact List.mem_cons_of_mem _ hbase
  cases phase with
  | listing keys throughout sometime =>
    refine ⟨?_, h.2⟩
    rw [hfiles]
    exact h.1.observeLink hnext
  | opening keys generation =>
    refine ⟨.inr ?_, h.2⟩
    rw [hgens]
    exact hnext.newest_or_next h.1
  | authorized keys => exact h
  | prepared header' => exact hreplaces header' h
  | linking header' => exact hreplaces header' h
  | linked | cleaning => exact ⟨hlinked h.1, hreached _ h.2⟩
  | removing generation remaining => exact ⟨hlinked h.1, hreached _ h.2.1, h.2.2⟩
  | done result => exact fun hok => hlinked (h hok)

/-! ## Removing -/

/-- The generations after a removal. -/
theorem mem_generations_filter :
    g ∈ HeaderFiles.generations (files.filter (·.1 ≠ old)) ↔ g ∈ files.generations ∧ g ≠ old := by
  simp [HeaderFiles.generations]

/-- The other files stay. -/
theorem lookup_filter_ne (files : HeaderFiles) (h : g ≠ old) :
    List.lookup g (files.filter (·.1 ≠ old)) = List.lookup g files := by
  induction files with
  | nil => rfl
  | cons file files ih =>
    obtain ⟨name, header⟩ := file
    by_cases hname : name = old
    · subst hname
      have hne : (g == name) = false := by simpa using h
      rw [List.lookup_cons, hne]
      simpa using ih
    · rw [List.filter_cons_of_pos (by simpa using hname)]
      rw [List.lookup_cons, List.lookup_cons, ih]

/-- A generation that is not the newest is removed. -/
structure RemovesOld (files : HeaderFiles) (old : ℕ) : Prop where
  newer : ∃ g ∈ files.generations, old < g

section

variable (h : RemovesOld files old)

include h

/-- An old file is not the newest one. -/
theorem RemovesOld.newest (hg : Newest files.generations g) :
    g ≠ old ∧ Newest (HeaderFiles.generations (files.filter (·.1 ≠ old))) g := by
  obtain ⟨newer, hmem, hlt⟩ := h.newer
  have hne : g ≠ old := by
    have := hg.2 newer hmem
    omega
  refine ⟨hne, mem_generations_filter.mpr ⟨hg.1, hne⟩, fun other hother => ?_⟩
  exact hg.2 other (mem_generations_filter.mp hother).1

/-- The current header stays. -/
theorem RemovesOld.baseCurrent (hbase : BaseCurrent files base) :
    BaseCurrent (files.filter (·.1 ≠ old)) base := by
  cases base with
  | none =>
    obtain rfl : files = [] := hbase
    rfl
  | some header =>
    obtain ⟨hne, hnewest⟩ := h.newest hbase.1
    exact ⟨hnewest, (lookup_filter_ne files hne).trans hbase.2⟩

/-- Removing an old header does not change the current one. -/
theorem RemovesOld.currentHeader :
    currentHeader (files.filter (·.1 ≠ old)) = currentHeader files := by
  cases hcurrent : currentGeneration files.generations with
  | none =>
    obtain ⟨newer, hmem, -⟩ := h.newer
    rw [currentGeneration_eq_none_iff.mp hcurrent] at hmem
    exact absurd hmem List.not_mem_nil
  | some g =>
    obtain ⟨hne, hnewest⟩ := h.newest (currentGeneration_eq_some_iff.mp hcurrent)
    simp only [Model.currentHeader, hcurrent, currentGeneration_eq_some_iff.mpr hnewest,
      Option.bind_some]
    exact lookup_filter_ne files hne

/-- A generation stays reached. -/
theorem RemovesOld.reached (hg : Reached files g) : Reached (files.filter (·.1 ≠ old)) g := by
  obtain ⟨m, hmem, hle⟩ := hg
  obtain ⟨newer, hnewer, hlt⟩ := h.newer
  by_cases hm : m = old
  · exact ⟨newer, mem_generations_filter.mpr ⟨hnewer, by omega⟩, by omega⟩
  · exact ⟨m, mem_generations_filter.mpr ⟨hmem, hm⟩, hle⟩

end

/-- What holds of a process still holds when another process removes an old header on which the
first does not rely. -/
theorem ProcessInvariant.observeRemove (h : ProcessInvariant crypto store s p call phase)
    (hold : RemovesOld s.files old) (hrelies : ¬ reliesOn old phase)
    (hfiles : s'.files = s.files.filter (·.1 ≠ old)) (hlog : s'.log = s.log) :
    ProcessInvariant crypto store s' p call (phase.observeRemove old) := by
  have hlinked : HasLinked s p call → HasLinked s' p call := by
    rintro ⟨header, hmem⟩
    exact ⟨header, hlog ▸ hmem⟩
  have hreached (g : ℕ) (hg : Reached s.files g) : Reached s'.files g := hfiles ▸ hold.reached hg
  have hreplaces (header : Header) (hne : old ≠ header.generation) :
      Replaces crypto store s.files call header → Replaces crypto store s'.files call header := by
    rintro ⟨base, happly, hbase⟩
    refine ⟨base, happly, ?_⟩
    rw [hfiles]
    rcases hbase with hbase | hbase
    · exact .inl (hold.baseCurrent hbase)
    · exact .inr (mem_generations_filter.mpr ⟨hbase, hne.symm⟩)
  cases phase with
  | listing keys throughout sometime => exact absurd trivial hrelies
  | opening keys generation =>
    refine ⟨?_, h.2⟩
    rw [hfiles]
    rcases h.1 with hnewest | hnext
    · exact .inl (hold.newest hnewest).2
    · exact .inr (mem_generations_filter.mpr ⟨hnext, fun heq => hrelies heq.symm⟩)
  | authorized keys => exact h
  | prepared header => exact hreplaces header hrelies h
  | linking header => exact hreplaces header hrelies h
  | linked | cleaning => exact ⟨hlinked h.1, hreached _ h.2⟩
  | removing generation remaining => exact ⟨hlinked h.1, hreached _ h.2.1, h.2.2⟩
  | done result => exact fun hok => hlinked (h hok)

/-! ## Steps and runs -/

section

variable (h : HeaderInvariant crypto store start s)

include h

section

variable (hphase : ProcessInvariant crypto store s p call phase)

include hphase

/-- A listing returns. -/
theorem HeaderInvariant.list
    (hstep : stepProcess crypto store s p call phase (.list names) = some s') :
    HeaderInvariant crypto store start s' := by
  cases phase with
  | listing keys throughout sometime =>
    simp only [stepProcess] at hstep
    split at hstep
    next hreturns =>
      obtain ⟨hempty, hnewest⟩ := hphase.1.returns hreturns
      cases hcurrent : currentGeneration names with
      | none =>
        rw [hcurrent] at hstep
        cases hstep
        refine h.setPhase (afterRead_invariant hphase.2 ?_ ?_)
        · -- without a header only a call without login prepares one
          intro k header hkeys hprepare
          cases call with
          | changePin | changeSoPin => cases hprepare
          | initUserPin | initToken =>
            cases hkeys.symm.trans (hphase.2 rfl)
            rfl
        · exact hempty (currentGeneration_eq_none_iff.mp hcurrent)
      | some generation =>
        rw [hcurrent] at hstep
        cases hstep
        exact h.setPhase ⟨hnewest generation (currentGeneration_eq_some_iff.mp hcurrent), hphase.2⟩
    next => cases hstep
  | cleaning generation throughout sometime =>
    simp only [stepProcess] at hstep
    split at hstep
    · cases hstep
      refine h.setPhase ⟨hphase.1, hphase.2, fun old hold => ?_⟩
      simpa using (List.mem_filter.mp hold).2
    · cases hstep
  | _ => cases hstep

/-- A file is read. -/
theorem HeaderInvariant.read
    (hconfirmed : ∀ keys generation header, phase = .opening (some keys) generation →
      List.lookup generation s.files = some header →
      authorize crypto store (some header) call = .ok keys)
    (hstep : stepProcess crypto store s p call phase .read = some s') :
    HeaderInvariant crypto store start s' := by
  cases phase with
  | opening keys generation =>
    simp only [stepProcess] at hstep
    split at hstep
    · cases hstep
      exact h.setPhase fun hok => by cases hok
    next header hlookup =>
      split at hstep
      · cases hstep
        exact h.setPhase fun hok => by cases hok
      next hgeneration =>
        cases hstep
        obtain rfl : header.generation = generation := not_not.mp hgeneration
        refine h.setPhase (afterRead_invariant hphase.2 ?_ ?_)
        · rintro k _ rfl -
          exact hconfirmed k header.generation header rfl hlookup
        · rcases hphase.1 with hnewest | hnext
          · exact .inl ⟨hnewest, hlookup⟩
          · exact .inr hnext
  | _ => cases hstep

/-- A link is made or refused. -/
theorem HeaderInvariant.link (hstep : stepProcess crypto store s p call phase .link = some s') :
    HeaderInvariant crypto store start s' := by
  cases phase with
  | linking header =>
    simp only [stepProcess] at hstep
    split at hstep
    · cases hstep
      exact h.setPhase fun hok => by cases hok
    next hfree =>
      cases hstep
      obtain ⟨base, happly, hbase⟩ := hphase
      have hcurrent : BaseCurrent s.files base := hbase.resolve_right hfree
      have hnext : LinksNext s.files header.generation := by
        rw [applyCall_generation happly]
        exact hcurrent.linksNext
      -- the state with the link made, before the process itself moves
      set linked : HeaderSystem := observe
        { s with
          files := (header.generation, header) :: s.files
          log := s.log ++ [⟨p, call, header⟩] } (·.observeLink header.generation) with hlinked
      have hinv : HeaderInvariant crypto store start linked := by
        refine ⟨?_, ?_⟩
        · have hnew : BaseCurrent linked.files (some header) := by
            refine ⟨newest_cons hnext.above, ?_⟩
            simp [hlinked, observe]
          rw [hnew.currentHeader_eq]
          refine h.history.concat ?_
          rw [hcurrent.currentHeader_eq]
          exact happly
        · intro q other hq
          simp only [hlinked, observe, Option.map_eq_some_iff] at hq
          obtain ⟨before, hbefore, rfl⟩ := hq
          exact (h.processes q before hbefore).observeLink hnext rfl rfl
      refine hinv.setPhase ⟨⟨header, ?_⟩, header.generation, List.mem_cons_self, le_refl _⟩
      exact List.mem_append_right _ (List.mem_singleton_self _)
  | _ => cases hstep

end

/-- An old header is removed. -/
theorem HeaderInvariant.remove (hproc : s.processes p = some ⟨call, phase⟩)
    (hothers : ∀ generation old remaining, phase = .removing generation (old :: remaining) →
      ∀ q other, q ≠ p → s.processes q = some other → ¬ reliesOn old other.phase)
    (hstep : stepProcess crypto store s p call phase .remove = some s') :
    HeaderInvariant crypto store start s' := by
  have hphase := h.processes p _ hproc
  cases phase with
  | removing generation remaining =>
    cases remaining with
    | nil => cases hstep
    | cons old remaining =>
      simp only [stepProcess] at hstep
      split at hstep
      next hpresent =>
        cases hstep
        obtain ⟨hlinked, ⟨newer, hnewer, hle⟩, hremaining⟩ := hphase
        have hold : RemovesOld s.files old := by
          have := hremaining old List.mem_cons_self
          exact ⟨newer, hnewer, by omega⟩
        set removed : HeaderSystem := observe
          { s with files := s.files.filter (·.1 ≠ old) } (·.observeRemove old) with hremoved
        have hinv : HeaderInvariant crypto store start removed := by
          refine ⟨?_, ?_⟩
          · have hsame := hold.currentHeader
            simp only [hremoved, observe, hsame]
            exact h.history
          · intro q other hq
            simp only [hremoved, observe, Option.map_eq_some_iff] at hq
            obtain ⟨before, hbefore, rfl⟩ := hq
            refine (h.processes q before hbefore).observeRemove hold ?_ rfl rfl
            by_cases hqp : q = p
            · subst hqp
              cases hproc.symm.trans hbefore
              exact id
            · exact hothers generation old remaining rfl q before hqp hbefore
        refine hinv.setPhase ⟨hlinked, hold.reached ⟨newer, hnewer, hle⟩, fun x hx => ?_⟩
        exact hremaining x (List.mem_cons_of_mem _ hx)
      next =>
        cases hstep
        exact h.setPhase fun hok => by cases hok
  | _ => cases hstep

/-- **One undisturbed step** keeps the invariant. -/
theorem HeaderInvariant.step {event : ℕ × HeaderAction}
    (hundisturbed : Undisturbed crypto store s event) (hstep : step crypto store s event = some s') :
    HeaderInvariant crypto store start s' := by
  obtain ⟨p, action⟩ := event
  cases hproc : s.processes p with
  | none =>
    simp only [HeaderSystem.step, hproc] at hstep
    cases action with
    | start call =>
      cases hstep
      refine h.setPhase ⟨window_begin s.files, fun hlogs => ?_⟩
      simp [hlogs]
    | _ => cases hstep
  | some proc =>
    obtain ⟨call, phase⟩ := proc
    have hphase := h.processes p _ hproc
    obtain ⟨hremove, hread⟩ := hundisturbed _ hproc
    simp only [HeaderSystem.step, hproc] at hstep
    cases action with
    | start call' => cases hstep
    | list names => exact h.list hphase hstep
    | read =>
      refine h.read hphase (fun keys generation header hopening hlookup => ?_) hstep
      exact hread keys generation header rfl hopening hlookup
    | relist =>
      cases phase with
      | authorized keys =>
        cases hstep
        refine h.setPhase ⟨window_begin s.files, fun hlogs => ?_⟩
        have hlogged : call.logsIn = true := hphase
        rw [hlogged] at hlogs
        cases hlogs
      | _ => cases hstep
    | write =>
      cases phase with
      | prepared header =>
        cases hstep
        exact h.setPhase hphase
      | _ => cases hstep
    | link => exact h.link hphase hstep
    | clean =>
      cases phase with
      | linked generation =>
        cases hstep
        exact h.setPhase hphase
      | _ => cases hstep
    | remove =>
      refine h.remove hproc (fun generation old remaining hremoving => ?_) hstep
      exact hremove generation old remaining rfl hremoving
    | finish =>
      cases phase with
      | removing generation remaining =>
        cases remaining with
        | nil =>
          cases hstep
          exact h.setPhase fun _ => hphase.1
        | cons old remaining => cases hstep
      | _ => cases hstep
    | fail =>
      have hfailed : HeaderInvariant crypto store start
          (s.setPhase p call ioError) := h.setPhase fun hok => by cases hok
      cases phase with
      | done result => cases hstep
      | _ =>
        cases hstep
        exact hfailed

end

end

/-- A sealing that only compares the PIN. -/
def plainHeaderCrypto : HeaderCrypto where
  deriveWrappingKey pin _ := .ok pin
  encrypt key _ _ plaintext :=
    if plaintext.length = masterKeyLength then .ok (plaintext ++ key) else .error .deviceError
  decrypt key _ _ ciphertext :=
    if ciphertext.drop masterKeyLength = key then .ok (ciphertext.take masterKeyLength)
    else .error .encryptedDataInvalid

/-- A key that is written down opens only under itself. -/
theorem sealedByPin_plainHeaderCrypto : SealedByPin plainHeaderCrypto := by
  rintro pin other salt key otherKey nonce aad plaintext ciphertext ⟨⟩ ⟨⟩ hencrypt hne
  obtain ⟨hlength, hencrypt⟩ := require_eq_ok.mp hencrypt
  cases hencrypt
  have hdrop : (plaintext ++ pin).drop masterKeyLength = pin := by
    rw [← hlength, List.drop_left]
  exact if_neg fun h => hne (h.symm.trans hdrop)

def sampleStore : TokenStore := ⟨[], none⟩

def samplePin (c : UInt8) : Bytes := List.replicate 8 c

def sampleRandom : HeaderRandom := ⟨[], [], [], [], List.replicate 32 9, samplePin 0⟩

/-- The header whose user PIN is `samplePin 1`. -/
def sampleHeader : Header where
  generation := 1
  label := []
  discoveryPublic := ⟨1, [], [], List.replicate 32 9 ++ samplePin 0⟩
  soPublic := ⟨1, [], [], List.replicate 32 9 ++ samplePin 0⟩
  user := some ⟨⟨1, [], [], List.replicate 32 9 ++ samplePin 1⟩,
    ⟨1, [], [], List.replicate 32 9 ++ samplePin 1⟩⟩

/-- A process starts to change a PIN and logs in on the header that `names` lists. -/
def loginEvents (p : ℕ) (old new : UInt8) (names : List ℕ) : List (ℕ × HeaderAction) :=
  [(p, .start (.changePin (samplePin old) (samplePin new) sampleRandom)), (p, .list names),
    (p, .read)]

/-- It reads the header again. -/
def rereadEvents (p : ℕ) (names : List ℕ) : List (ℕ × HeaderAction) :=
  [(p, .relist), (p, .list names), (p, .read)]

/-- It publishes the replacement and removes `count` old headers. -/
def publishEvents (p : ℕ) (names : List ℕ) (count : ℕ) : List (ℕ × HeaderAction) :=
  [(p, .write), (p, .link), (p, .clean), (p, .list names)] ++
    List.replicate count (p, .remove) ++ [(p, .finish)]

/-- The call of a process has returned `CKR_OK`. -/
def returnedOk (s : HeaderSystem) (p : ℕ) : Bool :=
  match s.processes p with
  | some ⟨_, .done (.ok ())⟩ => true
  | _ => false

/-- The PIN opens the current header. -/
def pinAccepted (s : HeaderSystem) (c : UInt8) : Bool :=
  (loginHeader plainHeaderCrypto sampleStore (samplePin c) (currentHeader s.files)).isOk

/-- Both processes have read the first header twice and go on with generation 2.  Process 0 makes the link
and removes generation 1, and process 1 loses its link. -/
def overlappingEvents : List (ℕ × HeaderAction) :=
  loginEvents 0 1 2 [1] ++ loginEvents 1 1 3 [1] ++ rereadEvents 1 [1] ++ rereadEvents 0 [1] ++
    [(1, .write), (0, .write), (0, .link), (0, .clean), (0, .list [1, 2]), (0, .remove), (1, .link),
      (0, .finish)]

/-- `Undisturbed` for two processes. -/
def undisturbedPair (s : HeaderSystem) (event : ℕ × HeaderAction) : Bool :=
  decide (event.1 < 2) &&
    match s.processes event.1, event.2 with
    | some ⟨_, .removing _ (old :: _)⟩, .remove =>
      (s.processes (1 - event.1)).all fun other => !decide (reliesOn old other.phase)
    | some ⟨call, .opening (some keys) generation⟩, .read =>
      (List.lookup generation s.files).all fun header =>
        decide (authorize plainHeaderCrypto sampleStore (some header) call = .ok keys)
    | _, _ => true

/-- A step starts no process but its own. -/
theorem step_processes_none {event : ℕ × HeaderAction} {s s' : HeaderSystem} {q : ℕ}
    (hstep : HeaderSystem.step crypto store s event = some s') (hq : q ≠ event.1)
    (hnone : s.processes q = none) : s'.processes q = none := by
  obtain ⟨p, action⟩ := event
  have hset : ∀ (s : HeaderSystem) call phase, s.processes q = none →
      (s.setPhase p call phase).processes q = none := by
    intro s call phase h
    exact (Function.update_of_ne hq _ _).trans h
  have hobserve : ∀ (s : HeaderSystem) f, s.processes q = none → (s.observe f).processes q = none := by
    intro s f h
    simp only [observe, h, Option.map_none]
  cases hproc : s.processes p with
  | none =>
    simp only [HeaderSystem.step, hproc] at hstep
    cases action <;> grind
  | some proc =>
    obtain ⟨call, phase⟩ := proc
    simp only [HeaderSystem.step, hproc] at hstep
    cases phase with
    | removing generation remaining => cases remaining <;> cases action <;> grind [stepProcess]
    | _ => cases action <;> grind [stepProcess]

/-- The checked steps of two processes are undisturbed. -/
theorem undisturbed_of_pair {s : HeaderSystem} {event : ℕ × HeaderAction}
    (hothers : ∀ q, 2 ≤ q → s.processes q = none) (hcheck : undisturbedPair s event = true) :
    Undisturbed plainHeaderCrypto sampleStore s event := by
  obtain ⟨p, action⟩ := event
  rintro ⟨call, phase⟩ hproc
  simp only [undisturbedPair, hproc, Bool.and_eq_true, decide_eq_true_eq] at hcheck
  obtain ⟨hp, hcheck⟩ := hcheck
  refine ⟨?_, ?_⟩
  · rintro generation old remaining rfl rfl q other hq hother
    have hlt : q < 2 := by
      by_contra hge
      rw [hothers q (by omega)] at hother
      cases hother
    obtain rfl : q = 1 - p := by omega
    simpa [hother] using hcheck
  · rintro keys generation header rfl rfl hlookup
    simpa [hlookup] using hcheck

/-- Process 0 has prepared generation 2; process 1 publishes generation 2; process 2 publishes
generation 3 and removes generation 2; process 0 links generation 2. -/
def reusedNameEvents : List (ℕ × HeaderAction) :=
  loginEvents 0 1 2 [1] ++ rereadEvents 0 [1] ++
    loginEvents 1 1 3 [1] ++ rereadEvents 1 [1] ++ publishEvents 1 [1, 2] 1 ++
    loginEvents 2 3 4 [2] ++ rereadEvents 2 [2] ++ publishEvents 2 [2, 3] 1 ++
    publishEvents 0 [2, 3] 0

/-- Process 0 has logged in with the first PIN; process 1 changes the PIN; process 0 reads the new
header and replaces it. -/
def staleLoginEvents : List (ℕ × HeaderAction) :=
  loginEvents 0 1 2 [1] ++
    loginEvents 1 1 3 [1] ++ rereadEvents 1 [1] ++ publishEvents 1 [1, 2] 1 ++
    rereadEvents 0 [2] ++ publishEvents 0 [2, 3] 1

end Pkcs11rs.Analysis
