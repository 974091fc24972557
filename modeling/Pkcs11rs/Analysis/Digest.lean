import Pkcs11rs.Library.Runs
import Pkcs11rs.Model.Digest

/-!
# A digest does not depend on how its input is cut

`digest_split_exact`: after any calls that leave the operation active, `C_DigestFinal` answers
what `C_Digest` answers on a new operation for the concatenation of what `C_DigestUpdate` and
`C_DigestKey` absorbed.  The invariant is `Absorbed`: the running hash continues as the new
hash does after the data so far.

Length queries and short buffers leave the operation as it was.  Of the other errors, those of
`EndsOnError` end it.  The rest are found before the operation is touched: the session is not
reached, the call is `C_DigestKey` or `C_DigestInit`, or `digest_len` is misaligned.
-/

set_option autoImplicit false

namespace Pkcs11rs.Analysis

open Pkcs11rs.Library Pkcs11rs.Model

variable {κ : Type} (core : HashCore κ)

/-- The operation that an active one becomes; `none` if the call ends it. -/
def digestNext (operation : DigestOperation κ) (event : DigestEvent) :
    Option (DigestOperation κ) :=
  (digestCall core (some operation) event).1

/-- What a call adds to the message. -/
def digestContribution (mechanism : MechanismType) : DigestEvent → Bytes
  | ⟨none, .update (some part)⟩ => part
  | ⟨none, .key loggedIn resolved⟩ =>
    match digestKeyValue mechanism loggedIn resolved with
    | .ok value => value
    | .error _ => []
  | _ => []

/-- The caller asks for the length of the digest. -/
def IsLengthQuery : DigestEvent → Prop
  | ⟨none, .digest _ (some (.buffer out))⟩ | ⟨none, .final (some (.buffer out))⟩ =>
    out.null = true
  | _ => False

/-- The calls whose errors, `CKR_BUFFER_TOO_SMALL` apart, end the operation. -/
def EndsOnError (operation : DigestOperation κ) : DigestEvent → Prop
  | ⟨none, .digest data out⟩ =>
    operation.multipart = true ∨ data = none ∨ out ≠ some .misaligned
  | ⟨none, .update _⟩ => True
  | ⟨none, .final out⟩ => out ≠ some .misaligned
  | _ => False

/-- The running hash has taken exactly these data. -/
structure Absorbed (mechanism : MechanismType) (algorithm : MessageDigest) (data : Bytes)
    (operation : DigestOperation κ) : Prop where
  mechanism_eq : operation.mechanism = mechanism
  algorithm_eq : operation.algorithm = algorithm
  update_eq : ∀ more : Bytes,
    core.update operation.state more = core.update (core.new algorithm) (data ++ more)

variable {core} {mechanism : MechanismType} {algorithm : MessageDigest} {data : Bytes}
  {operation operation' : DigestOperation κ} {event : DigestEvent}

variable (core operation event) in
/-- **What a call can do to an active operation**, with the return value it answers. -/
inductive DigestOutcome : Option (DigestOperation κ) × CallResult → Prop
  | kept (result : CallResult) (hnone : digestContribution operation.mechanism event = [])
      (hcause : result.rv = .ok ∨ result.rv = .bufferTooSmall ∨ ¬ EndsOnError operation event) :
      DigestOutcome (some operation, result)
  | absorbed (hquery : ¬ IsLengthQuery event) :
      DigestOutcome (some (operation.absorb core (digestContribution operation.mechanism event)),
        .bare .ok)
  | ended (result : CallResult) (hquery : result.rv = .ok → ¬ IsLengthQuery event)
      (hshort : result.rv ≠ .bufferTooSmall)
      (hcause : result.rv = .ok ∨ EndsOnError operation event) :
      DigestOutcome (none, result)

/-- The outcome of `copy_digest`. -/
theorem outcome_copyDigest {input : Bytes} {out : DigestOutput}
    (hnone : digestContribution operation.mechanism event = [])
    (hquery : ∀ buffer, out = .buffer buffer → IsLengthQuery event → buffer.null = true)
    (hends : out = .misaligned → ¬ EndsOnError operation event) :
    DigestOutcome core operation event (copyDigest core (some operation) input out) := by
  cases out with
  | buffer out =>
    simp only [copyDigest]
    split_ifs with hnull hshort
    · exact .kept _ hnone (.inl rfl)
    · exact .kept _ hnone (.inr (.inl rfl))
    · exact .ended _ (fun _ hq => hnull (hquery out rfl hq)) nofun (.inl rfl)
  | misaligned => exact .kept _ hnone (.inr (.inr (hends rfl)))

/-- `C_Digest` on an operation without earlier parts. -/
theorem digestCall_digest (hparts : operation.multipart = false) (input : Bytes)
    (out : DigestOutput) :
    digestCall core (some operation) ⟨none, .digest (some input) (some out)⟩ =
      copyDigest core (some operation) input out := by
  simp only [digestCall, hparts, Bool.false_eq_true, if_false]

/-- The outcome of a call on an active operation. -/
theorem digestCall_outcome :
    DigestOutcome core operation event (digestCall core (some operation) event) := by
  obtain ⟨refusal, call⟩ := event
  cases refusal with
  | some rv =>
    cases call with
    | digest input out => cases out <;> exact .kept _ rfl (.inr (.inr id))
    | final out => cases out <;> exact .kept _ rfl (.inr (.inr id))
    | _ => exact .kept _ rfl (.inr (.inr id))
  | none =>
    cases call with
    | init argument =>
      cases argument with
      | null => exact .ended _ (fun _ => id) nofun (.inl rfl)
      | _ => exact .kept _ rfl (.inr (.inr id))
    | update part =>
      cases part with
      | none => exact .ended _ nofun nofun (.inr trivial)
      | some part => exact .absorbed id
    | key loggedIn resolved =>
      have hkey : DigestOutcome core operation ⟨none, .key loggedIn resolved⟩ _ := .absorbed id
      simp only [digestCall]
      cases hvalue : digestKeyValue operation.mechanism loggedIn resolved with
      | error rv => exact .kept _ (by simp only [digestContribution, hvalue]) (.inr (.inr id))
      | ok value => simpa only [digestContribution, hvalue] using hkey
    | digest input out =>
      cases out with
      | none => exact .ended _ nofun nofun (.inr (.inr (.inr nofun)))
      | some out =>
        by_cases hparts : operation.multipart = true
        · simp only [digestCall, if_pos hparts]
          exact .ended _ nofun nofun (.inr (.inl hparts))
        · cases input with
          | none =>
            simp only [digestCall, if_neg hparts]
            exact .ended _ nofun nofun (.inr (.inr (.inl rfl)))
          | some input =>
            rw [digestCall_digest (Bool.eq_false_iff.mpr hparts)]
            refine outcome_copyDigest rfl ?_ ?_
            · rintro buffer rfl hquery
              exact hquery
            · rintro rfl hends
              simp [EndsOnError, hparts] at hends
    | final out =>
      cases out with
      | none => exact .ended _ nofun nofun (.inr nofun)
      | some out =>
        refine outcome_copyDigest rfl ?_ ?_
        · rintro buffer rfl hquery
          exact hquery
        · rintro rfl hends
          exact hends rfl

section

variable (h : Absorbed core mechanism algorithm data operation)

include h

/-- A piece is absorbed. -/
theorem Absorbed.absorb (piece : Bytes) :
    Absorbed core mechanism algorithm (data ++ piece) (operation.absorb core piece) where
  mechanism_eq := h.mechanism_eq
  algorithm_eq := h.algorithm_eq
  update_eq more := by
    calc core.update (core.update operation.state piece) more
        = core.update operation.state (piece ++ more) := core.update_append _ _ _
      _ = core.update (core.new algorithm) (data ++ (piece ++ more)) := h.update_eq _
      _ = core.update (core.new algorithm) (data ++ piece ++ more) := by rw [List.append_assoc]

/-- A call absorbs what it contributes. -/
theorem Absorbed.next (hnext : digestNext core operation event = some operation') :
    Absorbed core mechanism algorithm (data ++ digestContribution mechanism event)
      operation' := by
  obtain rfl := h.mechanism_eq
  have houtcome : DigestOutcome core operation event _ := digestCall_outcome
  rw [digestNext] at hnext
  generalize digestCall core (some operation) event = answer at houtcome hnext
  cases houtcome with
  | kept result hnone =>
    obtain rfl := Option.some.inj hnext
    rwa [hnone, List.append_nil]
  | absorbed =>
    obtain rfl := Option.some.inj hnext
    exact h.absorb _
  | ended => cases hnext

/-- The message of a whole run. -/
theorem Absorbed.run {events : List DigestEvent}
    (hrun : Library.run (digestNext core) operation events = some operation') :
    Absorbed core mechanism algorithm
      (data ++ events.flatMap (digestContribution mechanism)) operation' := by
  induction events generalizing data operation with
  | nil =>
    cases hrun
    simpa using h
  | cons event events ih =>
    obtain ⟨next, hnext, hrest⟩ := Option.bind_eq_some_iff.mp hrun
    simpa [List.append_assoc] using ih (h.next hnext) hrest

end

/-- A new operation. -/
theorem absorbed_of_init {argument : MechanismArgument}
    (h : (digestInit core none argument).1 = some operation) :
    Absorbed core operation.mechanism operation.algorithm [] operation ∧
      operation.multipart = false := by
  cases argument with
  | null | misaligned => cases h
  | value mechanism hasParameter slot =>
    simp only [digestInit, Option.isSome_none, Bool.false_eq_true, if_false] at h
    split at h
    all_goals cases h
    exact ⟨⟨rfl, rfl, fun _ => rfl⟩, rfl⟩

/-- The results of two operations agree when their hashes do. -/
theorem copyDigest_result_congr {input input' : Bytes} (out : DigestOutput)
    (hsize : operation.algorithm = operation'.algorithm)
    (hhash : core.update operation.state input = core.update operation'.state input') :
    (copyDigest core (some operation) input out).2 =
      (copyDigest core (some operation') input' out).2 := by
  cases out with
  | buffer out =>
    simp only [copyDigest, hsize, hhash]
    split_ifs <;> rfl
  | _ => rfl

/-- A hash whose digest is the message. -/
def echoHash : HashCore Bytes where
  new _ := []
  update context bytes := context ++ bytes
  finalize context := context
  update_append := List.append_assoc

/-- **Digests do not depend on the split**, for every run of calls on an operation. -/
theorem digest_split_exact (core : HashCore κ) :
    (∀ mechanism ∈ softwareDigestMechanisms, ∃ algorithm,
      digestInit core none (.value mechanism false (.ok ())) =
        (some ⟨mechanism, algorithm, core.new algorithm, false⟩, .bare .ok)) ∧
    (∀ (argument : MechanismArgument) (started : DigestOperation κ),
      (digestInit core none argument).1 = some started →
      ∀ (events : List DigestEvent) (operation : DigestOperation κ),
        run (digestNext core) started events = some operation →
        ∀ out : Option DigestOutput,
          (digestCall core (some operation) ⟨none, .final out⟩).2 =
            (digestCall core (some started) ⟨none, .digest
              (some (events.flatMap (digestContribution started.mechanism))) out⟩).2 ∧
          ∀ buffer, out = some (.buffer buffer) → buffer.null = false →
            started.algorithm.size ≤ buffer.capacity →
            (digestCall core (some operation) ⟨none, .final out⟩).2 =
              ⟨.ok, started.algorithm.size, core.finalize (core.update
                (core.new started.algorithm)
                (events.flatMap (digestContribution started.mechanism)))⟩) ∧
    ∀ (operation : DigestOperation κ) (event : DigestEvent),
      let rv := (digestCall core (some operation) event).2.rv
      (∀ value, event = ⟨none, .update (some value)⟩ ∨
          (∃ loggedIn resolved, event = ⟨none, .key loggedIn resolved⟩ ∧
            digestKeyValue operation.mechanism loggedIn resolved = .ok value) →
        rv = .ok ∧ digestNext core operation event = some (operation.absorb core value)) ∧
      (IsLengthQuery event ∧ rv = .ok ∨ rv = .bufferTooSmall →
        digestNext core operation event = some operation) ∧
      (rv ≠ .ok → rv ≠ .bufferTooSmall →
        (EndsOnError operation event → digestNext core operation event = none) ∧
        (¬ EndsOnError operation event → digestNext core operation event = some operation)) := by
  refine ⟨?_, ?_, ?_⟩
  · intro mechanism hmechanism
    simp only [softwareDigestMechanisms, List.mem_cons, List.not_mem_nil, or_false] at hmechanism
    rcases hmechanism with rfl | rfl | rfl | rfl | rfl | rfl | rfl | rfl | rfl
    all_goals exact ⟨_, rfl⟩
  · intro argument started hstart events operation hrun out
    obtain ⟨hnew, hparts⟩ := absorbed_of_init hstart
    have hend := hnew.run hrun
    have hhash : core.update operation.state [] = core.update started.state
        (events.flatMap (digestContribution started.mechanism)) := by
      rw [hend.update_eq, hnew.update_eq, List.append_nil]
    refine ⟨?_, ?_⟩
    · cases out with
      | none => rfl
      | some out =>
        rw [digestCall_digest hparts]
        exact copyDigest_result_congr out hend.algorithm_eq hhash
    · rintro buffer rfl hnull hroom
      simp only [digestCall, copyDigest, hnull, hend.algorithm_eq, Nat.not_lt.mpr hroom, if_false,
        Bool.false_eq_true]
      rw [hhash, hnew.update_eq, List.nil_append]
  · intro operation event rv
    refine ⟨?_, ?_, ?_⟩
    · rintro value (rfl | ⟨loggedIn, resolved, rfl, hvalue⟩)
      · exact ⟨rfl, rfl⟩
      · simp [rv, digestNext, digestCall, hvalue, CallResult.bare]
    all_goals
      have houtcome : DigestOutcome core operation event _ := digestCall_outcome
      simp only [rv, digestNext]
      generalize digestCall core (some operation) event = answer at houtcome
    · cases houtcome with
      | kept => exact fun _ => rfl
      | absorbed hquery => exact fun h => absurd (h.resolve_right nofun).1 hquery
      | ended result hquery hshort =>
        exact fun h => absurd (h.resolve_right hshort).1 (hquery (h.resolve_right hshort).2)
    · intro hrv hshort
      cases houtcome with
      | kept result hnone hcause =>
        exact ⟨fun hends => absurd hends ((hcause.resolve_left hrv).resolve_left hshort),
          fun _ => rfl⟩
      | absorbed => exact absurd rfl hrv
      | ended result hquery _ hcause =>
        exact ⟨fun _ => rfl, fun hends => absurd (hcause.resolve_left hrv) hends⟩

/-- SHA-256 with two parts around a length query and a key, against the digest of the whole. -/
theorem digest_split_exact_sha256 :
    let key : TokenObject :=
      { class_ := Cko.secretKey, keyType := 16, material := .secret [7, 8] }
    let started : DigestOperation Bytes := ⟨592, .sha256, [], false⟩
    let events : List DigestEvent := [⟨none, .update (some [1])⟩,
      ⟨none, .final (some (.buffer ⟨true, 0⟩))⟩, ⟨none, .key false (.ok (some key))⟩,
      ⟨none, .final (some (.buffer ⟨false, 31⟩))⟩, ⟨none, .update (some [2, 3])⟩]
    (digestCall echoHash (some ⟨592, .sha256, [1, 7, 8, 2, 3], true⟩)
        ⟨none, .final (some (.buffer ⟨false, 32⟩))⟩).2 =
      (digestCall echoHash (some started)
        ⟨none, .digest (some (events.flatMap (digestContribution 592)))
          (some (.buffer ⟨false, 32⟩))⟩).2 := by
  intro key started events
  exact ((digest_split_exact echoHash).2.1 (.value 592 false (.ok ())) started rfl events _ rfl _).1

/-- A key handle without an object is refused, and the operation goes on. -/
theorem digest_key_refused_continues :
    let operation : DigestOperation Bytes := ⟨592, .sha256, [1], true⟩
    digestCall echoHash (some operation) ⟨none, .key true (.ok none)⟩ =
        (some operation, .bare .keyHandleInvalid) ∧
      (digestCall echoHash (some operation) ⟨none, .final (some (.buffer ⟨false, 32⟩))⟩).2 =
        ⟨.ok, 32, [1]⟩ :=
  ⟨rfl, rfl⟩

end Pkcs11rs.Analysis
