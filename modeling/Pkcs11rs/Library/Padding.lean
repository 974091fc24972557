import Mathlib.Data.List.Basic
import Mathlib.Data.Nat.Basic

/-!
# Block padding

Two reversible paddings of byte strings to a whole number of blocks.

* `pkcs7Pad` appends `p` copies of the byte `p`, with `1 ≤ p ≤ n`; `pkcs7Unpad` checks and
  removes them.  Both look only at the last block (`pkcs7Pad_append`,
  `pkcs7Unpad_append`), so padding commutes with cutting off leading blocks.
* `iso7816Pad` appends `0x80` and as many zero bytes as complete a block;
  `iso7816Unpad` removes trailing zeros and the marker.
-/

set_option autoImplicit false

namespace Pkcs11rs.Library

variable (n : ℕ) (data : List UInt8)

/-- PKCS #7 padding to blocks of `n` bytes. -/
def pkcs7Pad : List UInt8 :=
  data ++ List.replicate (n - data.length % n) (UInt8.ofNat (n - data.length % n))

/-- Check and remove PKCS #7 padding. -/
def pkcs7Unpad : Option (List UInt8) :=
  match data.getLast? with
  | none => none
  | some last =>
    let p := last.toNat
    if data.length % n = 0 ∧ 1 ≤ p ∧ p ≤ n ∧
        data.drop (data.length - p) = List.replicate p last then
      some (data.take (data.length - p))
    else none

/-- The padding completes a block. -/
theorem dvd_length_pkcs7Pad (hn : 0 < n) (data : List UInt8) : n ∣ (pkcs7Pad n data).length := by
  have hmod := Nat.mod_lt data.length hn
  have hdiv := Nat.div_add_mod data.length n
  refine ⟨data.length / n + 1, ?_⟩
  simp only [pkcs7Pad, List.length_append, List.length_replicate]
  rw [Nat.mul_add, Nat.mul_one]
  omega

/-- It adds one block at most. -/
theorem length_pkcs7Pad_le : (pkcs7Pad n data).length ≤ data.length + n := by
  simp only [pkcs7Pad, List.length_append, List.length_replicate]
  omega

/-- Removing it does not add bytes. -/
theorem length_pkcs7Unpad_le {n : ℕ} {data result : List UInt8}
    (h : pkcs7Unpad n data = some result) : result.length ≤ data.length := by grind [pkcs7Unpad]

/-- Unpadding looks only at the last block. -/
theorem pkcs7Unpad_append (lead data : List UInt8) (hlead : n ∣ lead.length) (hdata : data ≠ [])
    (hlen : n ≤ data.length) :
    pkcs7Unpad n (lead ++ data) = (pkcs7Unpad n data).map (lead ++ ·) := by
  obtain ⟨last, hlast⟩ : ∃ last, data.getLast? = some last :=
    ⟨data.getLast hdata, List.getLast?_eq_some_getLast hdata⟩
  have hlast' : (lead ++ data).getLast? = some last := by
    rw [List.getLast?_append, hlast]; rfl
  obtain ⟨k, hk⟩ := hlead
  have hmod : (lead ++ data).length % n = data.length % n := by
    rw [List.length_append, hk, Nat.mul_add_mod]
  simp only [pkcs7Unpad, hlast, hlast', hmod]
  by_cases hp : last.toNat ≤ n
  · have hcut : (lead ++ data).length - last.toNat = lead.length + (data.length - last.toNat) := by
      simp only [List.length_append]; omega
    simp_all [List.drop_append, List.take_append, List.drop_eq_nil_of_le, List.nil_append,
      List.take_of_length_le]
  · simp [hp]

/-- ISO 7816-4 padding to blocks of `n` bytes. -/
def iso7816Pad : List UInt8 :=
  data ++ 0x80 :: List.replicate (n - 1 - data.length % n) 0

/-- Remove the trailing zeros and the marker of ISO 7816-4 padding. -/
def iso7816Unpad : Option (List UInt8) :=
  match data.reverse.dropWhile (· = 0) with
  | [] => none
  | marker :: rest => if marker = 0x80 then some rest.reverse else none

/-- The length after ISO 7816 padding. -/
theorem length_iso7816Pad (hn : 0 < n) (data : List UInt8) :
    (iso7816Pad n data).length = (data.length + 1 + (n - 1)) / n * n := by
  have hmod := Nat.mod_lt data.length hn
  have hdiv := Nat.div_add_mod data.length n
  have hquot : (data.length + 1 + (n - 1)) / n = data.length / n + 1 := by
    rw [show data.length + 1 + (n - 1) = data.length + n by omega, Nat.add_div_right _ hn]
  rw [hquot, Nat.add_mul, Nat.one_mul, Nat.mul_comm]
  simp only [iso7816Pad, List.length_append, List.length_cons, List.length_replicate]
  omega

/-- ISO 7816 padding is removed. -/
theorem iso7816Unpad_iso7816Pad :
    iso7816Unpad (iso7816Pad n data) = some data := by simp [iso7816Pad, iso7816Unpad]

end Pkcs11rs.Library
