import Mathlib.Data.List.Basic
import Mathlib.Data.Nat.Digits.Lemmas
import Mathlib.Tactic.Ring

/-!
# Big-endian byte strings

Numbers as byte strings of a fixed width, most significant byte first.

* `beBytes w n` writes `n` in `w` bytes and `beValue` reads a byte string; they are inverse
  on numbers below `256 ^ w` and on strings of width `w`.
* `beMinimal` writes a number in as few bytes as it takes.
* `increment` adds one in place, as a loop from the last byte that stops at the first byte
  that does not wrap.  Its value is the successor modulo `256 ^ w` (`beValue_increment`), so
  the first `256 ^ w` iterates of a string are distinct (`increment_iterate_ne`).
-/

set_option autoImplicit false

namespace Pkcs11rs.Library

/-- The number written in `w` bytes. -/
def beBytes : ℕ → ℕ → List UInt8
  | 0, _ => []
  | w + 1, n => beBytes w (n / 256) ++ [UInt8.ofNat (n % 256)]

variable (l : List UInt8)

/-- The number read off a byte string. -/
def beValue : ℕ := Nat.ofDigits 256 (l.reverse.map UInt8.toNat)

/-- The width is the length. -/
@[simp] theorem length_beBytes (w n : ℕ) : (beBytes w n).length = w := by
  induction w generalizing n with
  | zero => rfl
  | succ w ih => simp [beBytes, ih]

/-- No bytes are zero. -/
@[simp] theorem beValue_nil : beValue [] = 0 := rfl

/-- The last byte. -/
@[simp] theorem beValue_concat (b : UInt8) : beValue (l ++ [b]) = b.toNat + 256 * beValue l := by
  simp [beValue, Nat.ofDigits_cons]

/-- The first byte. -/
theorem beValue_cons (b : UInt8) : beValue (b :: l) = b.toNat * 256 ^ l.length + beValue l := by
  simp [beValue, Nat.ofDigits_append]
  ring

/-- The bound of a value. -/
theorem beValue_lt : beValue l < 256 ^ l.length := by
  have h := Nat.ofDigits_lt_base_pow_length (b := 256) (l := l.reverse.map UInt8.toNat)
    (by decide) (by
      intro x hx
      obtain ⟨b, -, rfl⟩ := List.mem_map.mp hx
      exact b.toNat_lt)
  simpa [beValue] using h

/-- A number is read back. -/
theorem beValue_beBytes {w n : ℕ} (h : n < 256 ^ w) : beValue (beBytes w n) = n := by
  induction w generalizing n with
  | zero =>
    simp [beBytes]
    omega
  | succ w ih =>
    have hdiv : n / 256 < 256 ^ w := by
      rw [Nat.div_lt_iff_lt_mul (by decide)]
      simpa [pow_succ] using h
    have hbyte : (UInt8.ofNat (n % 256)).toNat = n % 256 :=
      UInt8.toNat_ofNat_of_lt' (Nat.mod_lt _ (by decide))
    rw [beBytes, beValue_concat, ih hdiv, hbyte]
    omega

/-- Bytes of one length have different values. -/
theorem beValue_injective {a b : List UInt8} (hlen : a.length = b.length)
    (h : beValue a = beValue b) : a = b := by
  induction a using List.reverseRecOn generalizing b with
  | nil =>
    symm
    simpa using hlen.symm
  | append_singleton a x ih =>
    cases b using List.reverseRecOn with
    | nil => simp at hlen
    | append_singleton b y =>
      simp only [beValue_concat] at h
      have hx := x.toNat_lt
      have hy := y.toNat_lt
      have hxy : x = y := UInt8.toNat_inj.mp (by omega)
      have hab : a = b := ih (by simpa using hlen) (by omega)
      rw [hab, hxy]

/-- Bytes are written back. -/
theorem beBytes_beValue {w : ℕ} {l : List UInt8} (h : l.length = w) : beBytes w (beValue l) = l :=
  beValue_injective (by simp [h]) (beValue_beBytes (h ▸ beValue_lt l))

/-! ## The shortest string -/

/-- The digits of `n`, with `fuel` bounding their number. -/
def beMinimalFrom : ℕ → ℕ → List UInt8
  | 0, _ => []
  | fuel + 1, n =>
    if n < 256 then [UInt8.ofNat n]
    else beMinimalFrom fuel (n / 256) ++ [UInt8.ofNat (n % 256)]

/-- The shortest nonempty string with the value `n`. -/
def beMinimal (n : ℕ) : List UInt8 := beMinimalFrom (n + 1) n

/-- The shortest bytes of a number. -/
theorem beMinimalFrom_spec {fuel n : ℕ} (h : n < fuel) : beValue (beMinimalFrom fuel n) = n ∧
    (n ≠ 0 → 256 ^ (beMinimalFrom fuel n).length ≤ 256 * n) := by
  induction fuel generalizing n with
  | zero => exact absurd h (Nat.not_lt_zero n)
  | succ fuel ih =>
    unfold beMinimalFrom
    split_ifs with hbyte
    · have hvalue : beValue [UInt8.ofNat n] = n := by simp [beValue, Nat.mod_eq_of_lt hbyte]
      exact ⟨hvalue, fun hn => by simpa using Nat.one_le_iff_ne_zero.mpr hn⟩
    · obtain ⟨hvalue, hlow⟩ := ih (n := n / 256) (by omega)
      have hlow := hlow (by omega)
      rw [beValue_concat, hvalue, List.length_append, List.length_singleton, pow_succ]
      exact ⟨by simp; omega, fun _ => by omega⟩

/-- No shorter string has the value. -/
theorem beMinimal_spec (n : ℕ) :
    beValue (beMinimal n) = n ∧ (n ≠ 0 → 256 ^ (beMinimal n).length ≤ 256 * n) :=
  beMinimalFrom_spec (Nat.lt_succ_self n)

/-! ## Incrementing in place -/

/-- The loop over the bytes from the least significant one. -/
def incrementReversed : List UInt8 → List UInt8
  | [] => []
  | b :: bs => if b + 1 ≠ 0 then (b + 1) :: bs else (b + 1) :: incrementReversed bs

/-- Add one to a big-endian byte string, wrapping around. -/
def increment : List UInt8 := (incrementReversed l.reverse).reverse

/-- Incrementing keeps the length. -/
theorem length_incrementReversed : (incrementReversed l).length = l.length := by
  induction l with
  | nil => rfl
  | cons b bs ih =>
    unfold incrementReversed
    split <;> simp [ih]

/-- Incrementing keeps the length. -/
@[simp] theorem length_increment : (increment l).length = l.length := by
  simp [increment, length_incrementReversed]

/-- The value from the lowest digit on. -/
theorem ofDigits_incrementReversed : Nat.ofDigits 256 ((incrementReversed l).map UInt8.toNat) =
      (Nat.ofDigits 256 (l.map UInt8.toNat) + 1) % 256 ^ l.length := by
  induction l with
  | nil => rfl
  | cons b bs ih =>
    have hb := b.toNat_lt
    have hbs : Nat.ofDigits 256 (bs.map UInt8.toNat) < 256 ^ bs.length := by
      have := beValue_lt bs.reverse
      simpa [beValue] using this
    have hsucc : (b + 1).toNat = (b.toNat + 1) % 256 := by
      rfl
    unfold incrementReversed
    split
    next hne =>
      -- no carry: the rest stays
      have hlt : b.toNat + 1 < 256 := by
        by_contra hge
        apply hne
        apply UInt8.toNat_inj.mp
        rw [hsucc, show b.toNat + 1 = 256 by omega]
        rfl
      rw [List.map_cons, List.map_cons, Nat.ofDigits_cons, Nat.ofDigits_cons, hsucc,
        List.length_cons, pow_succ, Nat.mod_eq_of_lt hlt, Nat.mod_eq_of_lt (by omega)]
      omega
    next hne =>
      -- carry into the rest
      have hzero : b + 1 = 0 := not_not.mp hne
      have h255 : b.toNat = 255 := by
        have h0 := hsucc
        rw [hzero] at h0
        have : (0 : UInt8).toNat = 0 := rfl
        omega
      rw [List.map_cons, List.map_cons, Nat.ofDigits_cons, Nat.ofDigits_cons, ih, hzero, h255,
        List.length_cons, pow_succ]
      have hcarry : 255 + 256 * Nat.ofDigits 256 (bs.map UInt8.toNat) + 1 =
          (Nat.ofDigits 256 (bs.map UInt8.toNat) + 1) * 256 := by ring
      rw [hcarry, Nat.mul_mod_mul_right]
      simp [Nat.mul_comm]

/-- Incrementing adds one. -/
theorem beValue_increment : beValue (increment l) = (beValue l + 1) % 256 ^ l.length := by
  have h := ofDigits_incrementReversed l.reverse
  simpa [beValue, increment] using h

/-- The length after some steps. -/
theorem length_increment_iterate (k : ℕ) (l : List UInt8) :
    (increment^[k] l).length = l.length := by
  induction k generalizing l with
  | zero => rfl
  | succ k ih => rw [Function.iterate_succ_apply, ih, length_increment]

/-- The value after some steps. -/
theorem beValue_increment_iterate (k : ℕ) (l : List UInt8) :
    beValue (increment^[k] l) = (beValue l + k) % 256 ^ l.length := by
  induction k with
  | zero => exact (Nat.mod_eq_of_lt (beValue_lt l)).symm
  | succ k ih =>
    rw [Function.iterate_succ_apply', beValue_increment, length_increment_iterate, ih,
      Nat.mod_add_mod, Nat.add_assoc]

/-- The iterates repeat with period `256 ^ w`. -/
theorem increment_iterate_period : increment^[256 ^ l.length] l = l := by
  apply beValue_injective (length_increment_iterate _ _)
  rw [beValue_increment_iterate, Nat.add_mod_right, Nat.mod_eq_of_lt (beValue_lt l)]

/-- Within one period the iterates are distinct. -/
theorem increment_iterate_ne {i j : ℕ} (l : List UInt8) (hij : i < j)
    (hwidth : j - i < 256 ^ l.length) : increment^[i] l ≠ increment^[j] l := by
  intro h
  have hvalue := congrArg beValue h
  rw [beValue_increment_iterate, beValue_increment_iterate] at hvalue
  have hmod : (beValue l + i) ≡ (beValue l + j) [MOD 256 ^ l.length] := hvalue
  have hdvd := (Nat.modEq_iff_dvd' (by omega)).mp hmod
  have hle := Nat.le_of_dvd (by omega) hdvd
  omega

/-- A property of all bytes from its 256 cases. -/
theorem forall_byte {P : UInt8 → Prop} (h : ∀ n < 256, P (UInt8.ofNat n)) (b : UInt8) : P b := by
  have hb := h b.toNat b.toNat_lt
  rwa [UInt8.ofNat_toNat] at hb

end Pkcs11rs.Library
