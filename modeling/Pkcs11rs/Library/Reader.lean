import Mathlib.Data.List.Basic
import Pkcs11rs.Library.Fallible

/-!
# Readers of byte strings

A `Reader` takes a value off the front of a byte string, or fails.  `Reads p bytes a` says that
the reader takes the value `a` off `bytes` whatever follows, and it is what the rules compose:
a record is written as the `flatten` of the encodings of its fields, and `Reads.field` and
`Reads.check` follow a decoder through them.  `ReadsIf p bytes C a` is for a decoder that also
refuses some of what its encoder writes: it takes `a` off `bytes` if the condition `C` holds, and
fails otherwise.
-/

set_option autoImplicit false

namespace Pkcs11rs.Library

variable {ε α β : Type} {bytes bytes' : List UInt8} {condition : Bool}

/-- A reader of a value from the front of a byte string. -/
def Reader (ε α : Type) := List UInt8 → Except ε (α × List UInt8)

variable {p : Reader ε α} {x : Except ε α} {error : ε}

namespace Reader

/-- Read nothing. -/
def pure (a : α) : Reader ε α := fun bytes => .ok (a, bytes)

/-- Read one value after the other. -/
def bind (p : Reader ε α) (f : α → Reader ε β) : Reader ε β := fun bytes =>
  p bytes >>= fun result => f result.1 result.2

instance : Monad (Reader ε) where
  pure := pure
  bind := bind

/-- Fail. -/
def fail (error : ε) : Reader ε α := fun _ => .error error

/-- Go on if the condition holds. -/
def require (condition : Bool) (error : ε) : Reader ε Unit := fun bytes =>
  if condition then .ok ((), bytes) else .error error

/-- Make a computation that does not read. -/
def lift (x : Except ε α) : Reader ε α := fun bytes => x >>= fun a => .ok (a, bytes)

/-- Read a number of values with one reader. -/
def times (p : Reader ε α) : ℕ → Reader ε (List α)
  | 0 => pure []
  | n + 1 => p >>= fun a => times p n >>= fun rest => pure (a :: rest)

/-! ### How a reader succeeds -/

/-- One reader after the other. -/
theorem bind_ok_iff {f : α → Reader ε β} {result : β × List UInt8} : (p >>= f) bytes = .ok result ↔
      ∃ first, p bytes = .ok first ∧ f first.1 first.2 = .ok result :=
  bind_eq_ok

/-- A reader that takes nothing. -/
theorem pure_ok_iff {a : α} {result : α × List UInt8} :
    (Pure.pure a : Reader ε α) bytes = .ok result ↔ result = (a, bytes) := by
  have hpure : (Pure.pure a : Reader ε α) bytes = .ok (a, bytes) := rfl
  rw [hpure, Except.ok.injEq, eq_comm]

/-- A check of what has been read. -/
theorem lift_ok_iff {result : α × List UInt8} :
    lift x bytes = .ok result ↔ x = .ok result.1 ∧ result.2 = bytes := by
  grind [lift, bind_eq_ok]

/-- A condition on what has been read. -/
theorem require_ok_iff {result : Unit × List UInt8} :
    require condition error bytes = .ok result ↔ condition = true ∧ result = ((), bytes) := by
  unfold require
  rw [require_eq_ok, Except.ok.injEq, eq_comm (a := ((), bytes))]

end Reader

/-- The reader takes the value off the bytes, whatever follows. -/
def Reads (p : Reader ε α) (bytes : List UInt8) (a : α) : Prop :=
  ∀ rest, p (bytes ++ rest) = .ok (a, rest)

namespace Reads

variable {p : Reader ε α} {f : α → Reader ε β} {bytes : List UInt8} {fields : List (List UInt8)}
  {a : α} {b : β}

/-- A byte string that is read to its end. -/
theorem run (h : Reads p bytes a) : p bytes = .ok (a, []) := by
  have hrun := h []
  rwa [List.append_nil] at hrun

/-- Nothing is read. -/
theorem pure (a : α) : Reads (Pure.pure a : Reader ε α) [] a := fun _ => rfl

section

variable (hp : Reads p bytes a)

include hp

/-- Two items are read. -/
theorem bind (hf : Reads (f a) bytes' b) : Reads (p >>= f) (bytes ++ bytes') b := by
  intro rest
  have hbind : (p >>= f) (bytes ++ bytes' ++ rest) =
      p (bytes ++ bytes' ++ rest) >>= fun result => f result.1 result.2 := rfl
  rw [hbind, List.append_assoc, hp]
  exact hf rest

/-- The last value that is read. -/
theorem last (hf : Reads (f a) [] b) : Reads (p >>= f) bytes b := by
  have hread : Reads (p >>= f) (bytes ++ []) b := hp.bind hf
  rwa [List.append_nil] at hread

/-- A value that is read and then converted. -/
theorem map (g : α → β) : Reads (p >>= fun a => Pure.pure (g a)) bytes (g a) :=
  hp.last (pure _)

/-- The first field of a record. -/
theorem field (hf : Reads (f a) fields.flatten b) : Reads (p >>= f) (bytes :: fields).flatten b :=
  hp.bind hf

end

/-- A check between two fields. -/
theorem check {f : Unit → Reader ε β} (hcondition : condition = true) (hf : Reads (f ()) bytes b) :
    Reads (Reader.require condition error >>= f) bytes b := by
  have hrequire : Reads (Reader.require condition error : Reader ε Unit) [] () := by
    intro rest
    simp [Reader.require, hcondition]
  exact hrequire.bind hf

/-- A computation between two fields. -/
theorem lift (hx : x = .ok a) (hf : Reads (f a) bytes b) : Reads (Reader.lift x >>= f) bytes b := by
  have hlift : Reads (Reader.lift x) [] a := by
    intro rest
    rw [hx]
    rfl
  exact hlift.bind hf

/-- The last value is computed. -/
theorem result (a : α) : Reads (Pure.pure a : Reader ε α) (List.flatten []) a := pure a

/-- Values that are written one after the other. -/
theorem times {encode : α → List UInt8} {values : List α}
    (h : ∀ value ∈ values, Reads p (encode value) value) :
    Reads (p.times values.length) (values.flatMap encode) values := by
  induction values with
  | nil => exact pure []
  | cons value values ih =>
    have htail := ih fun value hvalue => h value (List.mem_cons_of_mem _ hvalue)
    exact (h value List.mem_cons_self).bind (htail.map fun rest => value :: rest)

end Reads

/-- The reader takes the value off the bytes if the condition holds, and fails if not. -/
def ReadsIf (p : Reader ε α) (bytes : List UInt8) (C : Prop) (a : α) : Prop :=
  ∀ rest result, p (bytes ++ rest) = .ok result ↔ C ∧ result = (a, rest)

/-- A reader without a condition. -/
theorem Reads.readsIf {a : α} (h : Reads p bytes a) : ReadsIf p bytes True a := by
  intro rest result
  rw [h rest, Except.ok.injEq, true_and, eq_comm]

namespace ReadsIf

variable {p : Reader ε α} {f : α → Reader ε β} {bytes : List UInt8} {fields : List (List UInt8)}
  {a : α} {b : β} {C D : Prop}

/-- A byte string that is read to its end. -/
theorem run_iff (h : ReadsIf p bytes C a) {result : α × List UInt8} :
    p bytes = .ok result ↔ C ∧ result = (a, []) := by
  have hrun := h [] result
  rwa [List.append_nil] at hrun

/-- Nothing is read, without a condition. -/
theorem pure (a : α) : ReadsIf (Pure.pure a : Reader ε α) [] True a := by
  intro rest result
  rw [Reader.pure_ok_iff, List.nil_append, true_and]

/-- Two items under their conditions. -/
theorem bind (hp : ReadsIf p bytes C a) (hf : ReadsIf (f a) bytes' D b) :
    ReadsIf (p >>= f) (bytes ++ bytes') (C ∧ D) b := by
  intro rest result
  rw [Reader.bind_ok_iff, List.append_assoc]
  constructor
  · rintro ⟨first, hfirst, hresult⟩
    obtain ⟨hC, rfl⟩ := (hp _ _).mp hfirst
    obtain ⟨hD, hresult⟩ := (hf _ _).mp hresult
    exact ⟨⟨hC, hD⟩, hresult⟩
  · rintro ⟨⟨hC, hD⟩, hresult⟩
    exact ⟨_, (hp _ _).mpr ⟨hC, rfl⟩, (hf _ _).mpr ⟨hD, hresult⟩⟩

/-- The first field of a record. -/
theorem field (hp : Reads p bytes a) (hf : ReadsIf (f a) fields.flatten D b) :
    ReadsIf (p >>= f) (bytes :: fields).flatten D b := by
  intro rest result
  rw [Reader.bind_ok_iff, List.flatten_cons, List.append_assoc, hp]
  simp only [Except.ok.injEq, exists_eq_left']
  exact hf rest result

/-- The last value that is read. -/
theorem last (hp : Reads p bytes a) (hf : ReadsIf (f a) [] D b) : ReadsIf (p >>= f) bytes D b := by
  have hread : ReadsIf (p >>= f) [bytes].flatten D b := field hp hf
  rwa [List.flatten_singleton] at hread

/-- A check between two fields. -/
theorem check {f : Unit → Reader ε β} (hcondition : condition = true)
    (hf : ReadsIf (f ()) bytes D b) : ReadsIf (Reader.require condition error >>= f) bytes D b := by
  intro rest result
  simp only [Reader.bind_ok_iff, Reader.require_ok_iff, hcondition, true_and, exists_eq_left]
  exact hf rest result

/-- A value that is computed. -/
theorem computed (hx : ∀ a', x = .ok a' ↔ C ∧ a' = a) : ReadsIf (Reader.lift x) [] C a := by
  intro rest result
  rw [Reader.lift_ok_iff, hx, and_assoc, List.nil_append, Prod.ext_iff]

/-- A computation between two fields. -/
theorem lift (hx : x = .ok a) (hf : ReadsIf (f a) bytes D b) :
    ReadsIf (Reader.lift x >>= f) bytes D b := by
  intro rest result
  rw [Reader.bind_ok_iff]
  constructor
  · rintro ⟨first, hfirst, hresult⟩
    obtain ⟨hfirst, hrest⟩ := Reader.lift_ok_iff.mp hfirst
    rw [hx] at hfirst
    rw [← Except.ok.inj hfirst, hrest] at hresult
    exact (hf rest result).mp hresult
  · intro hresult
    exact ⟨(a, bytes ++ rest), Reader.lift_ok_iff.mpr ⟨hx, rfl⟩, (hf rest result).mpr hresult⟩

end ReadsIf

/-! ## Canonical encodings -/

/-- Read a value to the end of the bytes, and accept only its canonical encoding. -/
def readCanonical (error : ε) (p : Reader ε α) (encode : α → Except ε (List UInt8))
    (bytes : List UInt8) : Except ε α :=
  p bytes >>= fun result =>
    if result.2 ≠ [] then .error error
    else
      encode result.1 >>= fun canonical =>
        if canonical ≠ bytes then .error error else .ok result.1

section Canonical

variable {error : ε} {p : Reader ε α} {encode : α → Except ε (List UInt8)} {bytes : List UInt8}
  {a b : α} {C : Prop}

/-- A canonical string is the one that is written. -/
theorem readCanonical_ok (h : readCanonical error p encode bytes = .ok a) :
    p bytes = .ok (a, []) ∧ encode a = .ok bytes := by
  obtain ⟨⟨a', rest⟩, hresult, h⟩ := bind_eq_ok.mp h
  obtain ⟨hrest, h⟩ := guard_eq_ok.mp h
  obtain ⟨canonical, hcanonical, h⟩ := bind_eq_ok.mp h
  grind

/-- What an encoder writes is accepted exactly if its reader accepts it. -/
theorem readCanonical_eq_ok_iff (hp : ReadsIf p bytes C a) (hencode : encode a = .ok bytes) :
    readCanonical error p encode bytes = .ok b ↔ C ∧ b = a := by
  constructor
  · intro h
    obtain ⟨hC, hresult⟩ := hp.run_iff.mp (readCanonical_ok h).1
    exact ⟨hC, (Prod.mk.inj hresult).1⟩
  · rintro ⟨hC, rfl⟩
    refine bind_eq_ok.mpr ⟨_, hp.run_iff.mpr ⟨hC, rfl⟩, ?_⟩
    refine guard_eq_ok.mpr ⟨fun h => h rfl, bind_eq_ok.mpr ⟨bytes, hencode, ?_⟩⟩
    exact guard_eq_ok.mpr ⟨fun h => h rfl, rfl⟩

end Canonical

end Pkcs11rs.Library
