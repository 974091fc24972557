import Pkcs11rs.Model.ReturnValue

/-!
# Outgoing OCE certificate chains

`oce_chain` (`ccid_auth.rs:219-290`) follows the issuers of a certificate among the intermediates of the
caller.  What is read from certificates is a parameter.
-/

set_option autoImplicit false

namespace Pkcs11rs.Model

open Pkcs11rs.Library

/-- `ParsedCertificate`, the name accessors and the extensions of `x509_cert`. -/
structure CertificateReader (χ : Type) where
  parse : Bytes → Except Rv χ
  issuer : Bytes → Except Rv Bytes
  subject : Bytes → Except Rv Bytes
  isValidAt : χ → ℕ → Bool
  isSelfIssued : χ → Bool
  authorityKeyIdentifier : χ → Except Rv (Option Bytes)
  subjectKeyIdentifier : χ → Except Rv (Option Bytes)
  /-- `BasicConstraints::ca`. -/
  ca : χ → Except Rv (Option Bool)
  /-- `KeyUsage::key_cert_sign`. -/
  keyCertSign : χ → Except Rv (Option Bool)
  verifySignature : χ → χ → Bool

namespace CertificateReader

variable {χ : Type} (reader : CertificateReader χ) (now : ℕ) (intermediates : List Bytes)

/-- The intermediates that fit as the issuer. -/
def candidates (current : χ) (issuer : Bytes) (aki : Option Bytes) :
    List Bytes → Except Rv (List (Bytes × χ))
  | [] => .ok []
  | der :: rest =>
    reader.subject der >>= fun subject =>
    if subject ≠ issuer then candidates current issuer aki rest
    else
      reader.parse der >>= fun candidate =>
      reader.subjectKeyIdentifier candidate >>= fun ski =>
      if (∃ a ∈ aki, ∃ s ∈ ski, a ≠ s) ∨ ¬ reader.verifySignature current candidate then
        candidates current issuer aki rest
      else candidates current issuer aki rest >>= fun found => .ok ((der, candidate) :: found)

/-- What is asked of an issuer; a root is not added. -/
def checkIssuer (der : Bytes) (candidate : χ) : Except Rv (Option Bytes) :=
  if ¬ reader.isValidAt candidate now then .error .argumentsBad
  else
    reader.ca candidate >>= fun ca =>
    if ca ≠ some true then .error .argumentsBad
    else
      reader.keyCertSign candidate >>= fun usage =>
      if usage = some false then .error .argumentsBad
      else .ok (if reader.isSelfIssued candidate then none else some der)

/-- One pass of the loop: the certificate to add, if any. -/
def nextIssuer (last : Bytes) : Except Rv (Option Bytes) :=
  reader.parse last >>= fun current =>
  if ¬ reader.isValidAt current now ∨ reader.isSelfIssued current then .error .argumentsBad
  else
    reader.issuer last >>= fun issuer =>
    reader.authorityKeyIdentifier current >>= fun aki =>
    reader.candidates current issuer aki intermediates >>= fun
      | [] => .ok none
      | [(der, candidate)] => reader.checkIssuer now der candidate
      | _ => .error .templateInconsistent

/-- The loop, with the chain `earlier ++ [last]`. -/
def oceChainFrom (earlier : List Bytes) (last : Bytes) : Except Rv (List Bytes) :=
  match reader.nextIssuer now intermediates last with
  | .error error => .error error
  | .ok none => .ok (earlier ++ [last])
  | .ok (some der) =>
    if der ∈ earlier ++ [last] ∨ (earlier ++ [last]).length > intermediates.length then
      .error .argumentsBad
    else oceChainFrom (earlier ++ [last]) der
termination_by intermediates.length - earlier.length
decreasing_by
  simp_all
  omega

def oceChain (leaf : Bytes) : Except Rv (List Bytes) :=
  reader.oceChainFrom now intermediates [] leaf

end CertificateReader

end Pkcs11rs.Model
