import Pkcs11rs.Model.TokenHeader
import Pkcs11rs.Model.TokenRecords

/-!
# The associated data of the storage

Header and record contexts are read off their associated data: the text before the first zero byte is the
schema, and in a header the last eight bytes are the generation and the text between the last two zero
bytes before them is the role.  The name may be any byte string.
-/

set_option autoImplicit false

namespace Pkcs11rs.Analysis

open Pkcs11rs.Library Pkcs11rs.Model List

/-- What a wrapped master key or a record is bound to. -/
inductive AadContext where
  | header (name : Bytes) (role : PinRole) (generation : ℕ)
  | record (name : Bytes) (schema : String)
  deriving DecidableEq

namespace AadContext

def aad : AadContext → Bytes
  | header name role generation => headerAad ⟨name, none⟩ role generation
  | record name schema => recordAad name schema

/-- The generation is 64 bits wide; a schema has no zero byte and is not that of the header. -/
def Valid : AadContext → Prop
  | header _ _ generation => generation < 2 ^ 64
  | record _ schema => 0 ∉ utf8 schema ∧ utf8 schema ≠ "pkcs11rs-software-token-key".toUTF8.toList

end AadContext

/-- A ciphertext is accepted under one associated data at most. -/
def Authentic (decrypt : Bytes → Bytes → Bytes → Bytes → Except Rv Bytes) : Prop :=
  ∀ key nonce ciphertext aad aad' plaintext plaintext',
    decrypt key nonce aad ciphertext = .ok plaintext →
    decrypt key nonce aad' ciphertext = .ok plaintext' → aad = aad'

variable {a a' b b' name name' : Bytes} {role role' : PinRole} {generation generation' : ℕ}
  {schema schema' : String} {c c' : AadContext}

/-- The part before the first zero byte. -/
theorem first_part (ha : 0 ∉ a) (ha' : 0 ∉ a') (h : a ++ 0 :: b = a' ++ 0 :: b') :
    a = a' ∧ b = b' := by
  rcases append_eq_append_iff.mp h with ⟨more, rfl, hrest⟩ | ⟨more, rfl, hrest⟩
  · cases more <;> simp_all
  · cases more <;> simp_all

/-- The part after the last zero byte. -/
theorem last_part (hb : 0 ∉ b) (hb' : 0 ∉ b') (h : a ++ 0 :: b = a' ++ 0 :: b') :
    a = a' ∧ b = b' := by
  have hreverse := congrArg reverse h
  simp only [reverse_append, reverse_cons, append_assoc, singleton_append] at hreverse
  obtain ⟨hpart, hrest⟩ := first_part (by simpa using hb) (by simpa using hb') hreverse
  exact ⟨reverse_injective hrest, reverse_injective hpart⟩

/-- Roles have different labels. -/
theorem aadLabel_injective (h : role.aadLabel = role'.aadLabel) : role = role' := by
  cases role <;> cases role' <;> first | rfl | exact absurd h (by decide +kernel)

/-- Texts have different bytes. -/
theorem utf8_injective (h : utf8 schema = utf8 schema') : schema = schema' := by
  have hread := fromUtf8_utf8 schema
  rw [h, fromUtf8_utf8] at hread
  exact (Option.some.inj hread).symm

/-- The associated data of headers are unambiguous. -/
theorem headerAad_injective (hlt : generation < 2 ^ 64) (hlt' : generation' < 2 ^ 64)
    (h : headerAad ⟨name, none⟩ role generation = headerAad ⟨name', none⟩ role' generation') :
    name = name' ∧ role = role' ∧ generation = generation' := by
  have hlabel : ∀ role : PinRole, 0 ∉ role.aadLabel := by
    intro role
    cases role <;> decide +kernel
  obtain ⟨hfront, hnumber⟩ := append_inj' h (by simp only [length_beBytes])
  have hvalue := congrArg beValue hnumber
  rw [beValue_beBytes hlt, beValue_beBytes hlt'] at hvalue
  have hback := append_cancel_right hfront
  rw [append_assoc, append_assoc _ _ role'.aadLabel] at hback
  obtain ⟨hname, hrole⟩ := last_part (hlabel role) (hlabel role') hback
  exact ⟨append_cancel_left hname, aadLabel_injective hrole, hvalue⟩

/-- Those of records are unambiguous. -/
theorem recordAad_injective (hschema : 0 ∉ utf8 schema) (hschema' : 0 ∉ utf8 schema')
    (h : recordAad name schema = recordAad name' schema') : name = name' ∧ schema = schema' := by
  simp only [recordAad, append_assoc, singleton_append] at h
  obtain ⟨htext, hrest⟩ := first_part hschema hschema' h
  obtain rfl := utf8_injective htext
  exact ⟨append_cancel_right hrest, rfl⟩

/-- Headers and records have different ones. -/
theorem headerAad_ne_recordAad (hvalid : (AadContext.record name schema).Valid) (store : TokenStore) :
    headerAad store role generation ≠ recordAad name schema := by
  intro h
  simp only [headerAad, recordAad, append_assoc, singleton_append] at h
  exact hvalid.2 (first_part (by decide +kernel) hvalid.1 h).1.symm

/-- Contexts with the same associated data are the same. -/
theorem aad_injective (hc : c.Valid) (hc' : c'.Valid) (h : c.aad = c'.aad) : c = c' := by
  cases c with
  | header name role generation =>
    cases c' with
    | header name' role' generation' =>
      obtain ⟨rfl, rfl, rfl⟩ := headerAad_injective hc hc' h
      rfl
    | record name' schema => exact absurd h (headerAad_ne_recordAad hc' _)
  | record name schema =>
    cases c' with
    | header name' role generation => exact absurd h.symm (headerAad_ne_recordAad hc _)
    | record name' schema' =>
      obtain ⟨rfl, rfl⟩ := recordAad_injective hc.1 hc'.1 h
      rfl

/-- The schemas of the source are valid. -/
theorem record_valid (name : Bytes)
    (h : schema ∈ [recordSchema, secretRecordSchema, dataRecordSchema]) :
    (AadContext.record name schema).Valid := by
  simp only [mem_cons, not_mem_nil, or_false] at h
  rcases h with rfl | rfl | rfl <;> exact ⟨by decide +kernel, by decide +kernel⟩

/-- **Contexts are told apart.**  Contexts with the same associated data are the same, whatever the names, so
what is accepted under one context is not accepted under another; the schemas of the records are valid. -/
theorem associated_data_unambiguous {c c' : AadContext} (hc : c.Valid) (hc' : c'.Valid) :
    (c.aad = c'.aad → c = c') ∧
    (∀ decrypt, Authentic decrypt → ∀ key nonce ciphertext plaintext plaintext',
      decrypt key nonce c.aad ciphertext = .ok plaintext →
      decrypt key nonce c'.aad ciphertext = .ok plaintext' → c = c') ∧
    ∀ name, ∀ schema ∈ [recordSchema, secretRecordSchema, dataRecordSchema],
      (AadContext.record name schema).Valid := by
  refine ⟨aad_injective hc hc', ?_, fun name schema => record_valid name⟩
  intro decrypt hauthentic key nonce ciphertext plaintext plaintext' haccepted haccepted'
  exact aad_injective hc hc' (hauthentic _ _ _ _ _ _ _ haccepted haccepted')

/-- The key that is wrapped for the officer of a token is not taken for a record of the token. -/
theorem associated_data_unambiguous_key :
    (AadContext.header [0x61] .soPublic 1).aad ≠ (AadContext.record [0x61] recordSchema).aad := by
  intro h
  have hc : (AadContext.header [0x61] .soPublic 1).Valid := show 1 < 2 ^ 64 by decide
  have hc' : (AadContext.record [0x61] recordSchema).Valid := record_valid [0x61] (by simp)
  exact nomatch (associated_data_unambiguous hc hc').1 h

end Pkcs11rs.Analysis
