import Pkcs11rs.Library.BigEndian
import Pkcs11rs.Library.Cbor

/-!
# Return values and byte strings

The PKCS #11 return values that the modelled functions produce.  A fallible function
of the source (`Result<T, Error>`) is an `Except Rv T` here; the `CKR_` prefix is dropped.
-/

set_option autoImplicit false

namespace Pkcs11rs.Model

/-- Byte strings (`Vec<u8>`, `&[u8]`). -/
abbrev Bytes := List UInt8

instance : LawfulBEq Bytes := inferInstance

/-- PKCS #11 return values (`CK_RV`). -/
inductive Rv where
  | ok
  | actionProhibited
  | argumentsBad
  | attributeReadOnly
  | attributeSensitive
  | attributeTypeInvalid
  | attributeValueInvalid
  | bufferTooSmall
  | dataInvalid
  | dataLenRange
  | deviceError
  | deviceMemory
  | deviceRemoved
  | encryptedDataInvalid
  | encryptedDataLenRange
  | functionFailed
  | functionNotSupported
  | functionRejected
  | hostMemory
  | keyFunctionNotPermitted
  | keyHandleInvalid
  | keyIndigestible
  | keyNotWrappable
  | keySizeRange
  | keyTypeInconsistent
  | keyUnextractable
  | mechanismInvalid
  | mechanismParamInvalid
  | objectHandleInvalid
  | operationActive
  | operationNotInitialized
  | pinIncorrect
  | pinLenRange
  | pinLocked
  | publicKeyInvalid
  | sessionAsyncNotSupported
  | sessionClosed
  | sessionCount
  | sessionExists
  | sessionHandleInvalid
  | sessionParallelNotSupported
  | sessionReadOnly
  | sessionReadOnlyExists
  | sessionReadWriteSoExists
  | signatureInvalid
  | signatureLenRange
  | slotIdInvalid
  | templateIncomplete
  | templateInconsistent
  | tokenNotInitialized
  | tokenNotPresent
  | tokenWriteProtected
  | userAlreadyLoggedIn
  | userAnotherAlreadyLoggedIn
  | userNotLoggedIn
  | userPinNotInitialized
  deriving DecidableEq, Repr

end Pkcs11rs.Model
