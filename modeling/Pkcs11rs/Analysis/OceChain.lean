import Pkcs11rs.Model.OceChain

/-!
# What an outgoing certificate chain is

The loop of `oce_chain` ends for every graph of certificates: each pass adds a certificate that the chain
does not have, and the chain is never longer than the intermediates by more than one.
-/

set_option autoImplicit false

namespace Pkcs11rs.Analysis

open Pkcs11rs.Library Pkcs11rs.Model CertificateReader

variable {next : Option Bytes}

section

variable {χ : Type} (reader : CertificateReader χ) (now : ℕ) (intermediates : List Bytes)

/-- The names, the key identifiers and the signature fit. -/
def Fits (der candidate : Bytes) : Prop :=
  ∃ current issuer aki parsed ski, reader.parse der = .ok current ∧ reader.issuer der = .ok issuer ∧
    reader.authorityKeyIdentifier current = .ok aki ∧ reader.subject candidate = .ok issuer ∧
    reader.parse candidate = .ok parsed ∧ reader.subjectKeyIdentifier parsed = .ok ski ∧
    ¬ (∃ a ∈ aki, ∃ s ∈ ski, a ≠ s) ∧ reader.verifySignature current parsed = true

/-- The signature of the certificate is verified by the next one. -/
def Issues (der next : Bytes) : Prop :=
  ∃ current parsed, reader.parse der = .ok current ∧ reader.parse next = .ok parsed ∧
    reader.verifySignature current parsed = true

/-- A certificate that is sent: valid, not self-issued, and with one issuer at most. -/
structure Sendable (der : Bytes) : Prop where
  parsed : ∃ current, reader.parse der = .ok current ∧ reader.isValidAt current now = true ∧
    reader.isSelfIssued current = false
  unambiguous : ∀ a ∈ intermediates, ∀ b ∈ intermediates, Fits reader der a → Fits reader der b → a = b

/-- A certificate that is added: an intermediate that is a valid CA. -/
structure Added (der : Bytes) : Prop where
  mem : der ∈ intermediates
  authority : ∃ parsed, reader.parse der = .ok parsed ∧ reader.isValidAt parsed now = true ∧
    reader.ca parsed = .ok (some true) ∧ reader.keyCertSign parsed ≠ .ok (some false)

variable {reader now intermediates}

/-! ## One pass -/

/-- The candidates are the intermediates that fit. -/
theorem candidates_spec {current : χ} {issuer : Bytes} {aki : Option Bytes} {ders : List Bytes}
    {found : List (Bytes × χ)} (h : reader.candidates current issuer aki ders = .ok found) :
    (∀ der parsed, (der, parsed) ∈ found → der ∈ ders ∧ reader.parse der = .ok parsed ∧
      reader.verifySignature current parsed = true) ∧
    ∀ der ∈ ders, ∀ parsed ski, reader.subject der = .ok issuer → reader.parse der = .ok parsed →
      reader.subjectKeyIdentifier parsed = .ok ski → ¬ (∃ a ∈ aki, ∃ s ∈ ski, a ≠ s) →
      reader.verifySignature current parsed = true → (der, parsed) ∈ found := by
  induction ders generalizing found with
  | nil =>
    cases h
    simp
  | cons der rest ih =>
    obtain ⟨subject, hsubject, h⟩ := bind_eq_ok.mp h
    split_ifs at h with hname
    · grind
    · obtain ⟨parsed, hparse, h⟩ := bind_eq_ok.mp h
      obtain ⟨ski, hski, h⟩ := bind_eq_ok.mp h
      split_ifs at h with hfits
      · grind
      · obtain ⟨others, hothers, h⟩ := bind_eq_ok.mp h
        cases h
        grind

/-- What an accepted issuer is. -/
theorem checkIssuer_spec {der : Bytes} {parsed : χ} (hmem : der ∈ intermediates)
    (hparse : reader.parse der = .ok parsed) (h : reader.checkIssuer now der parsed = .ok next) :
    ∀ added, next = some added → added = der ∧ Added reader now intermediates der := by
  obtain ⟨hvalid, h⟩ := guard_eq_ok.mp h
  obtain ⟨ca, hca, h⟩ := bind_eq_ok.mp h
  obtain ⟨htrue, h⟩ := guard_eq_ok.mp h
  obtain ⟨usage, husage, h⟩ := bind_eq_ok.mp h
  obtain ⟨hsign, h⟩ := guard_eq_ok.mp h
  cases h
  intro added hadded
  split_ifs at hadded
  cases hadded
  rw [not_not] at hvalid htrue
  refine ⟨rfl, hmem, parsed, hparse, hvalid, htrue ▸ hca, fun hfalse => hsign ?_⟩
  exact Except.ok.inj (husage.symm.trans hfalse)

/-- What the next certificate is. -/
theorem nextIssuer_spec {last : Bytes} (h : reader.nextIssuer now intermediates last = .ok next) :
    Sendable reader now intermediates last ∧
      ∀ der, next = some der → Issues reader last der ∧ Added reader now intermediates der := by
  obtain ⟨current, hparse, h⟩ := bind_eq_ok.mp h
  obtain ⟨hcurrent, h⟩ := guard_eq_ok.mp h
  rw [not_or, not_not, Bool.not_eq_true] at hcurrent
  obtain ⟨issuer, hissuer, h⟩ := bind_eq_ok.mp h
  obtain ⟨aki, haki, h⟩ := bind_eq_ok.mp h
  obtain ⟨found, hfound, h⟩ := bind_eq_ok.mp h
  obtain ⟨hsound, hcomplete⟩ := candidates_spec hfound
  have hfits : ∀ a ∈ intermediates, Fits reader last a → ∃ parsed, (a, parsed) ∈ found := by
    rintro a ha ⟨current', issuer', aki', parsed, ski, hparse', hissuer', haki', hsubject, hcandidate,
      hski, hkeys, hverify⟩
    cases hparse.symm.trans hparse'
    cases hissuer.symm.trans hissuer'
    cases haki.symm.trans haki'
    exact ⟨parsed, hcomplete a ha parsed ski hsubject hcandidate hski hkeys hverify⟩
  refine ⟨⟨⟨current, hparse, hcurrent⟩, fun a ha b hb hfa hfb => ?_⟩, fun der hder => ?_⟩
  · obtain ⟨parsed, hmem⟩ := hfits a ha hfa
    rcases found with _ | ⟨first, _ | ⟨second, rest⟩⟩
    · cases hmem
    · grind
    · cases h
  · rcases found with _ | ⟨⟨candidate, parsed⟩, _ | ⟨second, rest⟩⟩
    · cases h
      cases hder
    · obtain ⟨hmem, hcandidate, hverify⟩ := hsound candidate parsed (by simp)
      obtain ⟨rfl, hadded⟩ := checkIssuer_spec hmem hcandidate h der hder
      exact ⟨⟨current, parsed, hparse, hcandidate, hverify⟩, hadded⟩
    · cases h

/-! ## The loop -/

/-- The certificates from one of the chain on. -/
structure SoundPart (reader : CertificateReader χ) (now : ℕ) (intermediates part : List Bytes) :
    Prop where
  links : part.IsChain (Issues reader)
  sendable : ∀ der ∈ part, Sendable reader now intermediates der
  added : ∀ der ∈ part.tail, Added reader now intermediates der

/-- What the loop returns. -/
theorem oceChainFrom_spec (earlier : List Bytes) (last : Bytes) {chain : List Bytes}
    (hnodup : (earlier ++ [last]).Nodup) (hlength : earlier.length ≤ intermediates.length)
    (h : reader.oceChainFrom now intermediates earlier last = .ok chain) :
    chain.Nodup ∧ chain.length ≤ intermediates.length + 1 ∧
      ∃ added, chain = earlier ++ last :: added ∧
        SoundPart reader now intermediates (last :: added) := by
  -- the measure is what the chain may still grow by
  induction earlier, last using oceChainFrom.induct reader now intermediates with
  | case1 earlier last error hnext =>
    rw [oceChainFrom, hnext] at h
    cases h
  | case2 earlier last hnext =>
    rw [oceChainFrom, hnext] at h
    cases h
    obtain ⟨hsendable, -⟩ := nextIssuer_spec hnext
    refine ⟨hnodup, by simpa using hlength, [], rfl, ?_⟩
    exact ⟨.singleton _, by simpa using hsendable, by simp⟩
  | case3 earlier last der hnext hstop =>
    rw [oceChainFrom, hnext] at h
    simp only [if_pos hstop] at h
    cases h
  | case4 earlier last der hnext hgo ih =>
    rw [oceChainFrom, hnext] at h
    simp only [if_neg hgo] at h
    obtain ⟨hnew, hroom⟩ := not_or.mp hgo
    obtain ⟨hsendable, hissuer⟩ := nextIssuer_spec hnext
    obtain ⟨hissues, hadded⟩ := hissuer der rfl
    obtain ⟨hchain, hbound, added, rfl, hpart⟩ :=
      ih (hnodup.append (by simp) (by simpa using hnew)) (Nat.le_of_not_lt hroom) h
    refine ⟨hchain, hbound, der :: added, by simp, ?_⟩
    constructor
    · exact .cons_cons hissues hpart.links
    · exact List.forall_mem_cons.mpr ⟨hsendable, hpart.sendable⟩
    · exact List.forall_mem_cons.mpr ⟨hadded, hpart.added⟩

/-- **Outgoing chains.**  For every leaf and every list of intermediates `oceChain` returns, by the
recursion of its loop; a chain that it returns starts with the leaf, has no certificate twice and at most
one more certificate than there are intermediates, every certificate is valid, not self-issued and verified
by the next, each added one is an intermediate that is a valid CA, and no certificate of it has two
different intermediates that fit as its issuer. -/
theorem oce_chain_sound (reader : CertificateReader χ) (now : ℕ) (leaf : Bytes)
    (intermediates chain : List Bytes) (h : reader.oceChain now intermediates leaf = .ok chain) :
    chain.head? = some leaf ∧ chain.Nodup ∧ chain.length ≤ intermediates.length + 1 ∧
      SoundPart reader now intermediates chain := by
  obtain ⟨hnodup, hlength, added, rfl, hpart⟩ := oceChainFrom_spec [] leaf (by simp) (by simp) h
  exact ⟨rfl, hnodup, hlength, hpart⟩

end

/-- Certificates of four bytes: a name, the name of the issuer, a key and the key of the signature. -/
def tinyReader : CertificateReader Bytes where
  parse der := .ok der
  issuer der := .ok ((der.drop 1).take 1)
  subject der := .ok (der.take 1)
  isValidAt _ _ := true
  isSelfIssued der := der.take 1 = (der.drop 1).take 1
  authorityKeyIdentifier _ := .ok none
  subjectKeyIdentifier _ := .ok none
  ca _ := .ok (some true)
  keyCertSign _ := .ok none
  verifySignature der issuer := der.drop 3 = (issuer.drop 2).take 1

/-- Two certificates below a root, which is not sent.  Another issuer of the same name is refused, since its
key has not signed the leaf. -/
theorem oce_chain_sound_two :
    SoundPart tinyReader 0 [[2, 4, 21, 40], [3, 3, 30, 30], [2, 3, 20, 30]]
      [[1, 2, 10, 20], [2, 3, 20, 30]] :=
  (oce_chain_sound tinyReader 0 [1, 2, 10, 20] [[2, 4, 21, 40], [3, 3, 30, 30], [2, 3, 20, 30]]
    [[1, 2, 10, 20], [2, 3, 20, 30]] (by
      simp [oceChain, oceChainFrom, nextIssuer, candidates, checkIssuer, tinyReader, bind,
        Except.bind])).2.2.2

end Pkcs11rs.Analysis
