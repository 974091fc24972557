import Pkcs11rs.Analysis.RecordRoundTrip

/-!
# Logging in to a software token

What a login loads after any number of `put_object` and `delete_object` calls, some of which
fail.  Beside the files, a run records the object that each file was made from (`origins`) and
the objects whose `put_object` succeeded and that were not deleted since (`ledger`).

`put_object` writes the file first and reads it back afterwards, and only `load_objects` looks at
`MAX_RECORD_LENGTH`.  So a login can meet a file that it does not accept, and then fails as a
whole; `login_iff_loadable` says that this is the only way in which it does not load the ledger.
-/

set_option autoImplicit false

namespace Pkcs11rs.Analysis

open Pkcs11rs.Library Pkcs11rs.Model List

variable {references : List ContentReference} {objects : List TokenObject} {masterKey : Bytes}
  {slotId : Ulong}

/-! ## The storage provider -/

section Provider

variable {env : StoreEnv} {records records' : Records} {reference : ContentReference}
  {encoded : Bytes} {ioError : Option Rv}

/-- When a file is read. -/
theorem readVerified_eq_some_iff {object : Bytes} :
    readVerified env records reference = .ok (some object) ↔
      mapGet records reference = some object ∧ env.isCborObject object = true ∧
        env.digest object = reference := by
  unfold readVerified
  grind

/-- What `put` does when it succeeds: the file is there already, or it is written. -/
theorem putRecord_ok (h : putRecord env ioError records encoded = .ok (reference, records')) :
    env.isCborObject encoded = true ∧ env.digest encoded = reference ∧
      ((mapGet records reference = some encoded ∧ records' = records) ∨
        (mapGet records reference = none ∧ records' = mapInsert records reference encoded)) := by
  obtain ⟨hcbor, h⟩ := guard_eq_ok.mp h
  obtain ⟨existing, hexisting, h⟩ := bind_eq_ok.mp h
  refine ⟨by simpa using hcbor, ?_⟩
  cases existing with
  | some found =>
    obtain ⟨rfl, h⟩ := require_eq_ok.mp h
    cases h
    exact ⟨rfl, .inl ⟨(readVerified_eq_some_iff.mp hexisting).1, rfl⟩⟩
  | none =>
    cases ioError with
    | some error => cases h
    | none =>
      cases h
      exact ⟨rfl, .inr ⟨by grind [readVerified], rfl⟩⟩

/-- When all files are good. -/
theorem verifyRecords_eq_ok_iff : verifyRecords env records references = .ok () ↔
      ∀ reference ∈ references, ∃ object,
        readVerified env records reference = .ok (some object) := by
  induction references with
  | nil => simp [verifyRecords]
  | cons reference rest ih =>
    rw [verifyRecords, bind_eq_ok, forall_mem_cons, ← ih]
    constructor
    · rintro ⟨_, hverify, hrest⟩
      obtain ⟨object, hobject, h⟩ := bind_eq_ok.mp hverify
      cases object with
      | none => cases h
      | some object => exact ⟨⟨object, hobject⟩, hrest⟩
    · rintro ⟨⟨object, hobject⟩, hrest⟩
      exact ⟨(), bind_eq_ok.mpr ⟨some object, hobject, rfl⟩, hrest⟩

/-- The references that `list` gives back. -/
def listed (records : Records) : List ContentReference :=
  ((keys records).insertionSort (· ≤ ·)).dedup

/-- Every file is listed. -/
theorem listed_perm (h : (keys records).Nodup) : (listed records).Perm (keys records) := by
  grind [perm_insertionSort, listed, dedup_eq_self]

/-- When the files are listed. -/
theorem listRecords_eq_ok_iff : listRecords env records = .ok references ↔
      (∀ reference ∈ keys records, ∃ object,
        readVerified env records reference = .ok (some object)) ∧ references = listed records := by
  rw [listRecords, bind_eq_ok, ← verifyRecords_eq_ok_iff]
  constructor
  · rintro ⟨_, hverify, h⟩
    cases h
    exact ⟨hverify, rfl⟩
  · rintro ⟨hverify, rfl⟩
    exact ⟨(), hverify, rfl⟩

/-- The files after a `put`, by reference. -/
theorem mapGet_putRecord {records records' : Records}
    (h : putRecord env ioError records encoded = .ok (reference, records'))
    (other : ContentReference) :
    mapGet records' other = if other = reference then some encoded else mapGet records other := by
  obtain ⟨-, -, ⟨hsame, rfl⟩ | ⟨-, rfl⟩⟩ := putRecord_ok h
  · by_cases hother : other = reference
    · rw [if_pos hother, hother, hsame]
    · rw [if_neg hother]
  · exact mapGet_mapInsert _ _ _ _

/-- A put keeps the names apart. -/
theorem nodup_keys_putRecord {records records' : Records} (hnodup : (keys records).Nodup)
    (h : putRecord env ioError records encoded = .ok (reference, records')) :
    (keys records').Nodup := by
  obtain ⟨-, -, ⟨-, rfl⟩ | ⟨-, rfl⟩⟩ := putRecord_ok h
  · exact hnodup
  · exact nodup_keys_mapInsert hnodup _ _

variable {name : Bytes} [CborCodec]

/-- The first file and the others. -/
theorem loadEach_cons_eq_ok_iff {rest : List ContentReference} :
    loadEach env name slotId masterKey records (reference :: rest) = .ok objects ↔
      ∃ object others, loadObject env name slotId masterKey records reference = .ok object ∧
        loadEach env name slotId masterKey records rest = .ok others ∧
        object :: others = objects := by
  simp only [loadEach, bind_eq_ok, Except.ok.injEq, exists_and_left]

/-- The loop succeeds exactly if every file can be loaded. -/
theorem exists_loadEach_iff :
    (∃ objects, loadEach env name slotId masterKey records references = .ok objects) ↔
      ∀ reference ∈ references, ∃ object,
        loadObject env name slotId masterKey records reference = .ok object := by
  induction references with
  | nil => simp [loadEach]
  | cons reference rest ih =>
    rw [forall_mem_cons, ← ih]
    simp only [loadEach_cons_eq_ok_iff]
    constructor
    · rintro ⟨objects, object, others, hobject, hothers, -⟩
      exact ⟨⟨object, hobject⟩, others, hothers⟩
    · rintro ⟨⟨object, hobject⟩, others, hothers⟩
      exact ⟨_, object, others, hobject, hothers, rfl⟩

/-- Every listed file is loaded. -/
theorem loadEach_eq_filterMap {f : ContentReference → Option TokenObject}
    (hf : ∀ reference ∈ references, ∀ object,
      loadObject env name slotId masterKey records reference = .ok object →
        f reference = some object)
    (h : loadEach env name slotId masterKey records references = .ok objects) :
    objects = references.filterMap f := by
  induction references generalizing objects with
  | nil =>
    cases h
    rfl
  | cons reference rest ih =>
    obtain ⟨hhead, hrest⟩ := forall_mem_cons.mp hf
    obtain ⟨object, others, hobject, hothers, rfl⟩ := loadEach_cons_eq_ok_iff.mp h
    rw [filterMap_cons_some (hhead object hobject), ← ih hrest hothers]

end Provider

/-! ## Runs -/

/-- A call on the store. -/
inductive StoreCall where
  | put (random : Option Nonce) (ioError : Option Rv) (object : TokenObject)
  | delete (ioError : Option Rv) (reference : ContentReference)

/-- The files, and what a run of calls has made of them. -/
structure StoreRun where
  records : Records := []
  /-- The object that each file was made from. -/
  origins : List (ContentReference × TokenObject) := []
  /-- The objects whose `put_object` succeeded and that were not deleted since. -/
  ledger : List (ContentReference × TokenObject) := []

section Runs

variable [CborCodec] (env : StoreEnv) (name masterKey : Bytes) (slotId : Ulong)

/-- The file that `put_object` leaves for an object. -/
def origin (random : Option Nonce) (ioError : Option Rv) (records : Records)
    (object : TokenObject) : Option ContentReference :=
  match encodeRecord env.toRecordEnv name masterKey random object with
  | .error _ => none
  | .ok encoded => (putRecord env ioError records encoded).toOption.map (·.1)

def StoreRun.step (s : StoreRun) : StoreCall → StoreRun
  | .put random ioError object =>
    let result := putObject env name slotId masterKey random ioError s.records object
    { records := result.2
      origins := match origin env name masterKey random ioError s.records object with
        | some reference => mapInsert s.origins reference object
        | none => s.origins
      ledger := match result.1 with
        | .ok (stored, reference) => mapInsert s.ledger reference stored
        | .error _ => s.ledger }
  | .delete ioError reference =>
    let result := deleteObject ioError s.records reference
    match result.1 with
    | .ok _ =>
      { records := result.2
        origins := mapRemove s.origins reference
        ledger := mapRemove s.ledger reference }
    | .error _ => { s with records := result.2 }

/-- The calls one after the other, on a token without objects. -/
def StoreRun.after (calls : List StoreCall) : StoreRun :=
  calls.foldl (StoreRun.step env name masterKey slotId) {}

/-- The key that a call stores is one that the key core can write and read. -/
def StoreCall.HoldsCoreKey : StoreCall → Prop
  | .put _ _ object =>
    ∀ key, object.material = .softwarePrivate key → KeyCoreLaws env.core env.der key
  | .delete _ _ => True

/-- A file and the object that it was made from. -/
structure FileOf (reference : ContentReference) (encoded : Bytes) (object : TokenObject) :
    Prop where
  cbor : env.isCborObject encoded = true
  digest : env.digest encoded = reference
  encode : ∃ random, encodeRecord env.toRecordEnv name masterKey random object = .ok encoded
  core : ∀ key, object.material = .softwarePrivate key → KeyCoreLaws env.core env.der key

/-- What holds after every call. -/
structure StoreInvariant (s : StoreRun) : Prop where
  records_nodup : (keys s.records).Nodup
  origins_nodup : (keys s.origins).Nodup
  ledger_nodup : (keys s.ledger).Nodup
  /-- Every file was made from an object. -/
  file : ∀ reference encoded, mapGet s.records reference = some encoded →
    ∃ object, mapGet s.origins reference = some object ∧
      FileOf env name masterKey reference encoded object
  origin_file : ∀ reference object, mapGet s.origins reference = some object →
    ∃ encoded, mapGet s.records reference = some encoded
  /-- The ledger has the objects that can be read from the files. -/
  ledger : ∀ reference stored, mapGet s.ledger reference = some stored ↔
    ∃ encoded, mapGet s.records reference = some encoded ∧
      decodeRecord env.toRecordEnv name slotId (recordUniqueId reference) masterKey encoded =
        .ok stored

end Runs

section Steps

variable [CborCodec] {env : StoreEnv} {name masterKey : Bytes} {slotId : Ulong} {s : StoreRun}
  {random : Option Nonce} {ioError : Option Rv} {object : TokenObject}
  {reference : ContentReference} {encoded : Bytes}

/-- A `put_object` that leaves no file changes nothing. -/
theorem step_put_of_origin_none
    (h : origin env name masterKey random ioError s.records object = none) :
    s.step env name masterKey slotId (.put random ioError object) = s := by
  unfold StoreRun.step
  simp only [h, putObject]
  unfold origin at h
  cases hencode : encodeRecord env.toRecordEnv name masterKey random object with
  | error error => rfl
  | ok encoded =>
    simp only [hencode] at h
    cases hrecord : putRecord env ioError s.records encoded with
    | error error => simp only [hrecord]
    | ok result =>
      rw [hrecord] at h
      cases h

/-- A `put_object` that leaves a file. -/
theorem origin_eq_some_iff :
    origin env name masterKey random ioError s.records object = some reference ↔
      ∃ encoded records', encodeRecord env.toRecordEnv name masterKey random object = .ok encoded ∧
        putRecord env ioError s.records encoded = .ok (reference, records') := by
  unfold origin
  cases encodeRecord env.toRecordEnv name masterKey random object with
  | error error => simp
  | ok encoded =>
    cases hrecord : putRecord env ioError s.records encoded with
    | error error => simp [hrecord, Except.toOption]
    | ok result => simp [hrecord, Except.toOption, Prod.ext_iff]

/-- A put that writes a file. -/
theorem step_put {records' : Records}
    (hencode : encodeRecord env.toRecordEnv name masterKey random object = .ok encoded)
    (hrecord : putRecord env ioError s.records encoded = .ok (reference, records')) :
    s.step env name masterKey slotId (.put random ioError object) =
      { records := records'
        origins := mapInsert s.origins reference object
        ledger := match decodeRecord env.toRecordEnv name slotId (recordUniqueId reference)
            masterKey encoded with
          | .ok stored => mapInsert s.ledger reference stored
          | .error _ => s.ledger } := by
  have horigin : origin env name masterKey random ioError s.records object = some reference :=
    origin_eq_some_iff.mpr ⟨encoded, records', hencode, hrecord⟩
  unfold StoreRun.step
  simp only [horigin, putObject, hencode, hrecord]
  cases decodeRecord env.toRecordEnv name slotId (recordUniqueId reference) masterKey encoded with
  | ok | error => rfl

/-- A `delete_object` fails and changes nothing, or forgets the file. -/
theorem step_delete : s.step env name masterKey slotId (.delete ioError reference) = s ∨
      s.step env name masterKey slotId (.delete ioError reference) =
        { records := mapRemove s.records reference
          origins := mapRemove s.origins reference
          ledger := mapRemove s.ledger reference } := by
  unfold StoreRun.step
  cases ioError with
  | some error => exact .inl rfl
  | none =>
    cases hhas : mapHas s.records reference with
    | false =>
      left
      simp only [deleteObject, hhas, Bool.false_eq_true, if_false]
    | true =>
      right
      simp only [deleteObject, hhas, if_true]

/-- A call keeps the invariant. -/
theorem StoreInvariant.step (hs : StoreInvariant env name masterKey slotId s) (call : StoreCall)
    (hcore : call.HoldsCoreKey env) :
    StoreInvariant env name masterKey slotId (s.step env name masterKey slotId call) := by
  cases call with
  | put random ioError object =>
    cases horigin : origin env name masterKey random ioError s.records object with
    | none =>
      rw [step_put_of_origin_none horigin]
      exact hs
    | some reference =>
      obtain ⟨encoded, records', hencode, hrecord⟩ := origin_eq_some_iff.mp horigin
      obtain ⟨hcbor, hdigest, -⟩ := putRecord_ok hrecord
      have hget := mapGet_putRecord hrecord
      rw [step_put hencode hrecord]
      refine ⟨nodup_keys_putRecord hs.records_nodup hrecord,
        nodup_keys_mapInsert hs.origins_nodup _ _, ?_, fun other found hfound => ?_,
        fun other found hfound => ?_, fun other stored => ?_⟩
      · split
        · exact nodup_keys_mapInsert hs.ledger_nodup _ _
        · exact hs.ledger_nodup
      · rw [hget] at hfound
        rw [mapGet_mapInsert]
        by_cases hother : other = reference
        · rw [if_pos hother] at hfound ⊢
          cases hfound
          exact ⟨object, rfl, hcbor, hdigest.trans hother.symm, ⟨random, hencode⟩, hcore⟩
        · rw [if_neg hother] at hfound ⊢
          exact hs.file other found hfound
      · rw [mapGet_mapInsert] at hfound
        rw [hget]
        by_cases hother : other = reference
        · exact ⟨encoded, if_pos hother⟩
        · rw [if_neg hother] at hfound ⊢
          exact hs.origin_file other found hfound
      · -- a record that was there before is decoded as it was before
        simp only [hget]
        by_cases hother : other = reference
        · subst hother
          simp only [if_true, Option.some.injEq, exists_eq_left']
          cases hdecode : decodeRecord env.toRecordEnv name slotId (recordUniqueId other)
              masterKey encoded with
          | ok stored' => simp [mapGet_mapInsert]
          | error error =>
            simp only [reduceCtorEq, iff_false]
            intro hledger
            obtain ⟨found, hfound, hstored⟩ := (hs.ledger other stored).mp hledger
            grind [putRecord_ok]
        · simp only [if_neg hother]
          rw [← hs.ledger other stored]
          grind [mapGet_mapInsert]
  | delete ioError reference =>
    rcases @step_delete _ env name masterKey slotId s ioError reference with hstep | hstep
    · rw [hstep]
      exact hs
    · rw [hstep]
      refine ⟨nodup_keys_mapRemove hs.records_nodup _, nodup_keys_mapRemove hs.origins_nodup _,
        nodup_keys_mapRemove hs.ledger_nodup _, fun other found hfound => ?_,
        fun other found hfound => ?_, fun other stored => ?_⟩
      · rw [mapGet_mapRemove] at hfound ⊢
        split_ifs at hfound ⊢
        exact hs.file other found hfound
      · rw [mapGet_mapRemove] at hfound ⊢
        split_ifs at hfound ⊢
        exact hs.origin_file other found hfound
      · simp only [mapGet_mapRemove]
        by_cases hother : other = reference
        · simp [hother]
        · simp only [if_neg hother]
          exact hs.ledger other stored

/-- A token without objects. -/
theorem storeInvariant_empty : StoreInvariant env name masterKey slotId {} := by
  refine ⟨nodup_nil, nodup_nil, nodup_nil, ?_, ?_, ?_⟩ <;> simp [mapGet]

/-- **Every run** keeps the invariant. -/
theorem storeInvariant_after {calls : List StoreCall}
    (hcore : ∀ call ∈ calls, call.HoldsCoreKey env) :
    StoreInvariant env name masterKey slotId (StoreRun.after env name masterKey slotId calls) := by
  have hrun : ∀ (calls : List StoreCall) (s : StoreRun),
      StoreInvariant env name masterKey slotId s → (∀ call ∈ calls, call.HoldsCoreKey env) →
        StoreInvariant env name masterKey slotId
          (calls.foldl (StoreRun.step env name masterKey slotId) s) := by
    intro calls
    induction calls with
    | nil => exact fun s hs _ => hs
    | cons call rest ih =>
      intro s hs hcore
      exact ih _ (hs.step call (hcore call mem_cons_self))
        fun other hother => hcore other (mem_cons_of_mem _ hother)
  exact hrun calls _ storeInvariant_empty hcore

end Steps

/-! ## Loading -/

/-- The files that `load_objects` accepts. -/
def Loadable (env : StoreEnv) (s : StoreRun) : Prop :=
  ∀ reference object encoded, mapGet s.origins reference = some object →
    mapGet s.records reference = some encoded →
      Recoverable env.objects object ∧ encoded.length ≤ maxRecordLength

section Load

variable {env : StoreEnv} {name masterKey : Bytes} {slotId : Ulong} {s : StoreRun}
  {reference : ContentReference}

/-- The object as it is seen in a slot. -/
def inSlot (slotId : Ulong) (object : TokenObject) : TokenObject :=
  { object with slotId := some slotId }

/-- A restored object in a slot. -/
theorem inSlot_restored (slotId slotId' : Ulong) (uniqueId : String) (object : TokenObject) :
    inSlot slotId' (restored slotId uniqueId object) = restored slotId' uniqueId object := by
  unfold inSlot restored
  split <;> rfl

variable [CborCodec]

/-- What `load_objects` makes of one file. -/
theorem loadObject_eq_ok_iff (haead : AeadLaws env.toRecordEnv) (hder : DerLaws env.der)
    {encoded : Bytes} {object loaded : TokenObject}
    (hget : mapGet s.records reference = some encoded)
    (hfile : FileOf env name masterKey reference encoded object) (slotId' : Ulong) :
    loadObject env name slotId' masterKey s.records reference = .ok loaded ↔
      (Recoverable env.objects object ∧ encoded.length ≤ maxRecordLength) ∧
        loaded = restored slotId' (recordUniqueId reference) object := by
  obtain ⟨random, hencode⟩ := hfile.encode
  have hread : readVerified env s.records reference = .ok (some encoded) :=
    readVerified_eq_some_iff.mpr ⟨hget, hfile.cbor, hfile.digest⟩
  have hload : loadObject env name slotId' masterKey s.records reference = .ok loaded ↔
      encoded.length ≤ maxRecordLength ∧
        decodeRecord env.toRecordEnv name slotId' (recordUniqueId reference) masterKey encoded =
          .ok loaded := by
    unfold loadObject
    rw [hread, ← not_lt]
    exact guard_eq_ok
  rw [hload, decodeRecord_eq_ok_iff haead hder hfile.core hencode]
  tauto

section

variable (hs : StoreInvariant env name masterKey slotId s)

include hs

/-- The object in the ledger is the one that a login loads, but for its slot. -/
theorem StoreInvariant.loaded (haead : AeadLaws env.toRecordEnv) (hder : DerLaws env.der)
    {loaded : TokenObject} {slotId' : Ulong} (hmem : reference ∈ keys s.records)
    (h : loadObject env name slotId' masterKey s.records reference = .ok loaded) :
    (mapGet s.ledger reference).map (inSlot slotId') = some loaded := by
  obtain ⟨encoded, hget⟩ : ∃ encoded, mapGet s.records reference = some encoded := by
    cases hget : mapGet s.records reference with
    | none => exact absurd hmem (mapGet_eq_none_iff.mp hget)
    | some encoded => exact ⟨encoded, rfl⟩
  obtain ⟨object, -, hfile⟩ := hs.file reference encoded hget
  obtain ⟨⟨hrecoverable, -⟩, rfl⟩ := (loadObject_eq_ok_iff haead hder hget hfile slotId').mp h
  obtain ⟨random, hencode⟩ := hfile.encode
  have hledger : mapGet s.ledger reference =
      some (restored slotId (recordUniqueId reference) object) :=
    (hs.ledger reference _).mpr ⟨encoded, hget,
      (decodeRecord_eq_ok_iff haead hder hfile.core hencode).mpr ⟨hrecoverable, rfl⟩⟩
  rw [hledger, Option.map_some, inSlot_restored]

/-- Every file is loaded exactly if all are acceptable. -/
theorem StoreInvariant.forall_loadObject_iff (haead : AeadLaws env.toRecordEnv)
    (hder : DerLaws env.der) (slotId' : Ulong) : (∀ reference ∈ keys s.records, ∃ loaded,
      loadObject env name slotId' masterKey s.records reference = .ok loaded) ↔ Loadable env s := by
  constructor
  · intro h reference object encoded horigin hget
    obtain ⟨object', horigin', hfile⟩ := hs.file reference encoded hget
    cases horigin.symm.trans horigin'
    obtain ⟨loaded, hloaded⟩ := h reference (mem_keys_of_mem (mapGet_mem hget))
    exact ((loadObject_eq_ok_iff haead hder hget hfile slotId').mp hloaded).1
  · intro h reference hmem
    cases hget : mapGet s.records reference with
    | none => exact absurd hmem (mapGet_eq_none_iff.mp hget)
    | some encoded =>
      obtain ⟨object, horigin, hfile⟩ := hs.file reference encoded hget
      exact ⟨_, (loadObject_eq_ok_iff haead hder hget hfile slotId').mpr
        ⟨h reference object encoded horigin hget, rfl⟩⟩

/-- Every file is good. -/
theorem StoreInvariant.readVerified : ∀ reference ∈ keys s.records, ∃ object,
      readVerified env s.records reference = .ok (some object) := by
  intro reference hmem
  cases hget : mapGet s.records reference with
  | none => exact absurd hmem (mapGet_eq_none_iff.mp hget)
  | some encoded =>
    obtain ⟨object, -, hfile⟩ := hs.file reference encoded hget
    exact ⟨encoded, readVerified_eq_some_iff.mpr ⟨hget, hfile.cbor, hfile.digest⟩⟩

/-- `load_objects` gives the ledger if it gives anything. -/
theorem StoreInvariant.loadObjects_perm (haead : AeadLaws env.toRecordEnv) (hder : DerLaws env.der)
    {slotId' : Ulong} {references : List (String × ContentReference)}
    (h : loadObjects env name slotId' masterKey s.records = .ok (objects, references)) :
    objects.Perm (s.ledger.map fun entry => inSlot slotId' entry.2) := by
  obtain ⟨listed', hlisted, h⟩ := bind_eq_ok.mp h
  obtain ⟨loaded, hloaded, h⟩ := bind_eq_ok.mp h
  cases h
  obtain ⟨-, rfl⟩ := listRecords_eq_ok_iff.mp hlisted
  have hperm := listed_perm hs.records_nodup
  have hvalues : ∀ reference ∈ listed s.records, ∀ object,
      loadObject env name slotId' masterKey s.records reference = .ok object →
        (mapGet s.ledger reference).map (inSlot slotId') = some object :=
    fun reference hmem object => hs.loaded haead hder (hperm.subset hmem)
  -- a file that is not in the ledger would not have been loaded
  have hkeys : (listed s.records).Perm (keys s.ledger) := by
    refine (perm_ext_iff_of_nodup (hperm.nodup_iff.mpr hs.records_nodup)
      hs.ledger_nodup).mpr fun reference => ⟨fun hmem => ?_, fun hmem => ?_⟩
    · obtain ⟨object, hobject⟩ := exists_loadEach_iff.mp ⟨loaded, hloaded⟩ reference hmem
      grind [mapGet_eq_none_iff]
    · obtain ⟨stored, hstored⟩ := mem_keys.mp hmem
      obtain ⟨encoded, hget, -⟩ :=
        (hs.ledger reference stored).mp ((mapGet_eq_some_iff hs.ledger_nodup).mpr hstored)
      exact hperm.symm.subset (mem_keys_of_mem (mapGet_mem hget))
  refine (perm_insertionSort _ _).trans ?_
  rw [loadEach_eq_filterMap hvalues hloaded, ← filterMap_keys hs.ledger_nodup]
  exact hkeys.filterMap _

end

/-- **Logging in after any calls.**  With the right PIN, a login succeeds and loads the objects
that were stored and not deleted exactly if every file of the token is acceptable. -/
theorem login_iff_loadable {crypto : HeaderCrypto} {store : TokenStore} {header : Option Header}
    {pin pub : Bytes} {calls : List StoreCall} (haead : AeadLaws env.toRecordEnv)
    (hder : DerLaws env.der) (hcore : ∀ call ∈ calls, call.HoldsCoreKey env)
    (hlogin : loginHeader crypto store pin header = .ok (pub, masterKey)) :
    let s := StoreRun.after env store.name masterKey slotId calls
    (∃ objects references,
      slotLogin env crypto store header s.records pin =
        .ok ((pub, masterKey), objects, references) ∧
      objects.Perm (s.ledger.map fun entry => inSlot 0 entry.2)) ↔
      Loadable env s := by
  intro s
  have hs : StoreInvariant env store.name masterKey slotId s := storeInvariant_after hcore
  have hpin : validateSoftwarePin pin = .ok () := by
    obtain ⟨_, hvalid, -⟩ := bind_eq_ok.mp hlogin
    exact hvalid
  have hslot : ∀ objects references,
      slotLogin env crypto store header s.records pin = .ok ((pub, masterKey), objects, references) ↔
        loadObjects env store.name 0 masterKey s.records = .ok (objects, references) := by
    intro objects references
    simp only [slotLogin, hpin, hlogin, bind_eq_ok, Except.ok.injEq, exists_eq_left',
      Prod.mk.injEq, true_and]
    constructor
    · rintro ⟨_, loaded, hloaded, rfl⟩
      exact hloaded
    · exact fun h => ⟨(), _, h, rfl⟩
  rw [← hs.forall_loadObject_iff haead hder 0]
  constructor
  · rintro ⟨objects, references, hlogin, -⟩ reference hmem
    obtain ⟨listed', hlisted, h⟩ := bind_eq_ok.mp ((hslot _ _).mp hlogin)
    obtain ⟨loaded, hloaded, -⟩ := bind_eq_ok.mp h
    obtain ⟨-, rfl⟩ := listRecords_eq_ok_iff.mp hlisted
    exact exists_loadEach_iff.mp ⟨loaded, hloaded⟩ reference
      ((listed_perm hs.records_nodup).symm.subset hmem)
  · intro h
    obtain ⟨loaded, hloaded⟩ : ∃ loaded,
        loadEach env store.name 0 masterKey s.records (listed s.records) = .ok loaded :=
      exists_loadEach_iff.mpr fun reference hmem =>
        h reference ((listed_perm hs.records_nodup).subset hmem)
    obtain ⟨objects, references, hobjects⟩ : ∃ objects references,
        loadObjects env store.name 0 masterKey s.records = .ok (objects, references) :=
      ⟨_, _, bind_eq_ok.mpr ⟨listed s.records,
        listRecords_eq_ok_iff.mpr ⟨hs.readVerified, rfl⟩,
        bind_eq_ok.mpr ⟨loaded, hloaded, rfl⟩⟩⟩
    exact ⟨objects, references, (hslot _ _).mpr hobjects, hs.loadObjects_perm haead hder hobjects⟩

end Load

/-! ## Instances -/

/-- A key derivation and an encryption that do nothing. -/
def sampleHeaderCrypto : HeaderCrypto where
  deriveWrappingKey := fun _ salt => .ok salt
  encrypt := fun _ _ _ plaintext => .ok plaintext
  decrypt := fun _ _ _ ciphertext => .ok ciphertext

def sampleTokenStore : TokenStore := ⟨[], none⟩

def sampleMasterKey : Bytes := List.replicate 32 0

def storePin : Bytes := List.replicate 8 0x31

def storeHeader : Header where
  generation := 1
  label := []
  discoveryPublic := ⟨1, [], [], sampleMasterKey⟩
  soPublic := ⟨1, [], [], sampleMasterKey⟩
  user := some ⟨⟨1, [], [], sampleMasterKey⟩, ⟨1, [], [], sampleMasterKey⟩⟩

/-- The PIN of the example is accepted. -/
theorem loginHeader_sample :
    loginHeader sampleHeaderCrypto sampleTokenStore storePin (some storeHeader) =
      .ok (sampleMasterKey, sampleMasterKey) := by
  decide

/-- The token after the sample key was stored. -/
def sampleStoreRun : StoreRun where
  records := [([1], sampleRecord false)]
  origins := [([1], sampleObject false)]
  ledger := [([1], restored 0 (recordUniqueId [1]) (sampleObject false))]

/-- The sample key is stored and deleted, storing it once more fails, and then it is stored again. -/
def sampleCalls : List StoreCall :=
  [.put (some sampleNonce) none (sampleObject false), .delete none [1],
    .put (some sampleNonce) (some .deviceError) (sampleObject false),
    .put (some sampleNonce) none (sampleObject false)]

/-- The sample key is stored in an empty token. -/
theorem step_putSample : StoreRun.step sampleStoreEnv sampleTokenStore.name sampleMasterKey 0 {}
      (.put (some sampleNonce) none (sampleObject false)) = sampleStoreRun := by
  have hdecode : decodeRecord sampleStoreEnv.toRecordEnv sampleTokenStore.name 0
      (recordUniqueId [1]) sampleMasterKey (sampleRecord false) =
        .ok (restored 0 (recordUniqueId [1]) (sampleObject false)) :=
    (decodeRecord_eq_ok_iff aeadLaws_sampleStoreEnv derLaws_sampleDer keyCoreLaws_sampleObject
      (encodeRecord_sampleObject _ _ false)).mpr ⟨recoverable_sampleObject false, rfl⟩
  have hrecord : putRecord sampleStoreEnv none [] (sampleRecord false) =
      .ok ([1], [([1], sampleRecord false)]) := rfl
  have hstep := @step_put _ sampleStoreEnv sampleTokenStore.name sampleMasterKey 0 {}
    (some sampleNonce) none (sampleObject false) [1] (sampleRecord false)
    [([1], sampleRecord false)] (encodeRecord_sampleObject _ _ false) hrecord
  rw [hdecode] at hstep
  exact hstep

/-- The key is left at the end. -/
theorem after_sampleCalls : StoreRun.after sampleStoreEnv sampleTokenStore.name sampleMasterKey 0
      sampleCalls = sampleStoreRun := by
  have hdelete : StoreRun.step sampleStoreEnv sampleTokenStore.name sampleMasterKey 0 sampleStoreRun
      (.delete none [1]) = {} := rfl
  have hfailed : StoreRun.step sampleStoreEnv sampleTokenStore.name sampleMasterKey 0 {}
      (.put (some sampleNonce) (some .deviceError) (sampleObject false)) = {} := by
    refine step_put_of_origin_none ?_
    unfold origin
    rw [encodeRecord_sampleObject]
    rfl
  simp only [StoreRun.after, sampleCalls, List.foldl_cons, List.foldl_nil, step_putSample, hdelete,
    hfailed]

/-- The key can be loaded. -/
theorem loadable_sampleStoreRun : Loadable sampleStoreEnv sampleStoreRun := by
  intro reference object encoded horigin hget
  have horigin := mapGet_mem horigin
  have hget := mapGet_mem hget
  simp only [sampleStoreRun, mem_singleton, Prod.mk.injEq] at horigin hget
  rw [horigin.2, hget.2]
  exact ⟨recoverable_sampleObject false, by decide +kernel⟩

/-- After the calls the login loads the key that is left. -/
theorem login_after_sampleCalls :
    ∃ objects references,
      slotLogin sampleStoreEnv sampleHeaderCrypto sampleTokenStore (some storeHeader)
        (StoreRun.after sampleStoreEnv sampleTokenStore.name sampleMasterKey 0 sampleCalls).records
          storePin = .ok ((sampleMasterKey, sampleMasterKey), objects, references) ∧
      objects.Perm ((StoreRun.after sampleStoreEnv sampleTokenStore.name sampleMasterKey 0
        sampleCalls).ledger.map fun entry => inSlot 0 entry.2) := by
  refine (login_iff_loadable aeadLaws_sampleStoreEnv derLaws_sampleDer ?_
    loginHeader_sample).mpr ?_
  · intro call hcall
    simp only [sampleCalls, mem_cons, not_mem_nil, or_false] at hcall
    rcases hcall with rfl | rfl | rfl | rfl
    · exact keyCoreLaws_sampleObject
    · trivial
    · exact keyCoreLaws_sampleObject
    · exact keyCoreLaws_sampleObject
  · rw [after_sampleCalls]
    exact loadable_sampleStoreRun

/-- A private data object. -/
def sampleData (value : Bytes) : TokenObject where
  slotId := none
  uniqueId := ""
  class_ := Cko.data
  keyType := Ckk.genericSecret
  label := ""
  id := []
  token := true
  isPrivate := true
  extractable := true
  material := .data ⟨List.replicate 16 0, rfl⟩ [] [] value

section LargeObject

variable {value : Bytes} (hvalue : value.length = maxRecordLength)

/-- What the record of the data object encrypts. -/
def dataPlaintext (value : Bytes) : Bytes :=
  (dataObjectFields (sampleData value) ⟨⟨List.replicate 16 0, rfl⟩, [], [], value⟩).flatten

/-- The record of the data object. -/
def dataRecord (value : Bytes) : Bytes :=
  encodeRecordEnvelope dataRecordSchema sampleNonce
    (dataPlaintext value ++ List.replicate tagLength 0)

include hvalue

/-- The data object is longer than a record may be. -/
theorem length_dataPlaintext : (dataPlaintext value).length = maxRecordLength + 51 := by
  have hhead : (DefiniteLength.itemHead 2 maxRecordLength).length = 5 := by decide
  have hrest : (cborArray 10 ++ cborText dataObjectSchema ++ cborUint 1 ++ cborUint Cko.data ++
      cborText "" ++ cborBytes [] ++ cborBool true ++ cborBytes [] ++ cborBytes [] ++
      cborBytes (replicate 16 0)).length = 46 := by decide
  simp only [length_append] at hrest
  have hlength : (cborBytes value).length = 5 + maxRecordLength := by
    have hbytes : cborBytes value = DefiniteLength.itemHead 2 value.length ++ value := rfl
    rw [hbytes, length_append, hvalue, hhead]
  simp only [dataPlaintext, dataObjectFields, sampleData, flatten_cons, flatten_nil,
    length_append, length_nil, hlength]
  omega

/-- Its record. -/
theorem encodeRecord_sampleData (name masterKey : Bytes) :
    encodeRecord sampleStoreEnv.toRecordEnv name masterKey (some sampleNonce) (sampleData value) =
      .ok (dataRecord value) := by
  have hplaintext : recordPlaintext sampleStoreEnv.toRecordEnv (sampleData value) =
      .ok (dataRecordSchema, dataPlaintext value) := rfl
  have hencrypt : sampleStoreEnv.encrypt masterKey sampleNonce (recordAad name dataRecordSchema)
      (dataPlaintext value) = .ok (dataPlaintext value ++ replicate tagLength 0) := by
    refine if_pos ?_
    rw [length_dataPlaintext hvalue, maxRecordLength]
    decide
  have htoken : ¬ (sampleData value).token = false := Bool.noConfusion
  unfold encodeRecord
  rw [if_neg htoken, hplaintext]
  simp only [Bind.bind, Except.bind, hencrypt, dataRecord]

/-- The record is too long. -/
theorem maxRecordLength_lt_length_dataRecord : maxRecordLength < (dataRecord value).length := by
  have hplaintext := length_dataPlaintext hvalue
  have hbytes := length_le_cborBytes (dataPlaintext value ++ replicate tagLength 0)
  rw [length_append] at hbytes
  simp only [dataRecord, encodeRecordEnvelope, flatten_cons, flatten_nil, length_append, length_nil]
  omega

/-- It is stored all the same. -/
theorem putObject_sampleData :
    putObject sampleStoreEnv sampleTokenStore.name 0 sampleMasterKey (some sampleNonce) none []
        (sampleData value) =
      (.ok (restored 0 (recordUniqueId [1]) (sampleData value), [1]),
        [([1], dataRecord value)]) := by
  have hcore : ∀ key, (sampleData value).material = .softwarePrivate key →
      KeyCoreLaws sampleStoreEnv.core sampleStoreEnv.der key := by
    intro key hkey
    cases hkey
  have hrecoverable : Recoverable sampleStoreEnv.objects (sampleData value) := by
    intro inst certificate hmaterial
    cases hmaterial
  have hdecode : decodeRecord sampleStoreEnv.toRecordEnv sampleTokenStore.name 0
      (recordUniqueId [1]) sampleMasterKey (dataRecord value) =
        .ok (restored 0 (recordUniqueId [1]) (sampleData value)) := by
    have hencode := encodeRecord_sampleData hvalue sampleTokenStore.name sampleMasterKey
    rw [decodeRecord_eq_ok_iff aeadLaws_sampleStoreEnv derLaws_sampleDer hcore hencode]
    exact ⟨hrecoverable, rfl⟩
  exact putObject_eq (encodeRecord_sampleData hvalue _ _) rfl hdecode

/-- The login fails on it. -/
theorem slotLogin_dataRecord :
    slotLogin sampleStoreEnv sampleHeaderCrypto sampleTokenStore (some storeHeader)
      [([1], dataRecord value)] storePin = .error .dataInvalid := by
  have hread : readVerified sampleStoreEnv [([1], dataRecord value)] [1] =
      .ok (some (dataRecord value)) := rfl
  have hload : loadObject sampleStoreEnv sampleTokenStore.name 0 sampleMasterKey
      [([1], dataRecord value)] [1] = .error .dataInvalid := by
    have hlong := maxRecordLength_lt_length_dataRecord hvalue
    simp only [loadObject, hread, Bind.bind, Except.bind, if_pos hlong]
  have hlist : listRecords sampleStoreEnv [([1], dataRecord value)] = .ok [[1]] := rfl
  have hpin : validateSoftwarePin storePin = .ok () := by decide
  simp only [slotLogin, hpin, loginHeader_sample, loadObjects, hlist, loadEach, hload, Bind.bind,
    Except.bind]

end LargeObject

/-- **A large object locks the token.**  `put_object` accepts a data object of `MAX_RECORD_LENGTH`
bytes, and the login with the right PIN fails after that. -/
theorem login_fails_after_putLarge :
    ∃ object stored records, putObject sampleStoreEnv sampleTokenStore.name 0 sampleMasterKey
        (some sampleNonce) none [] object = (.ok (stored, [1]), records) ∧
      loginHeader sampleHeaderCrypto sampleTokenStore storePin (some storeHeader) =
        .ok (sampleMasterKey, sampleMasterKey) ∧
      slotLogin sampleStoreEnv sampleHeaderCrypto sampleTokenStore (some storeHeader) records
        storePin = .error .dataInvalid := by
  have hvalue : (List.replicate maxRecordLength (0 : UInt8)).length = maxRecordLength :=
    List.length_replicate
  exact ⟨_, _, _, putObject_sampleData hvalue, loginHeader_sample, slotLogin_dataRecord hvalue⟩

end Pkcs11rs.Analysis
