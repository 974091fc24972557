import Pkcs11rs.Model.ReturnValue

/-!
# Command and response APDUs

The APDU codec of the smart card transports (`scp03.rs:61-271`).  A command has a header, data, the
expected length of the response and the wish to be sent in the extended form; the lengths decide whether
the extended form is needed anyway.
-/

set_option autoImplicit false

namespace Pkcs11rs.Model

open Pkcs11rs.Library

def maxShortDataLength : ℕ := 255

def maxExtendedDataLength : ℕ := 65535

def maxShortExpectedLength : ℕ := 256

def maxExtendedExpectedLength : ℕ := 65536

def responseOk : UInt16 := 0x9000

structure CommandApdu where
  cla : UInt8
  ins : UInt8
  p1 : UInt8
  p2 : UInt8
  data : Bytes
  le : Option ℕ
  extended : Bool
  deriving DecidableEq

variable (command : CommandApdu)

namespace CommandApdu

/-- The expected length in a short `Le`. -/
def shortLe (le : UInt8) : ℕ := if le = 0 then 256 else le.toNat

/-- The expected length in an extended `Le`. -/
def extendedLe (le : Bytes) : ℕ := if beValue le = 0 then 65536 else beValue le

def decode : Bytes → Except Rv CommandApdu
  | cla :: ins :: p1 :: p2 :: body =>
    match body with
    | [] => .ok { cla, ins, p1, p2, data := [], le := none, extended := false }
    | [le] =>
      .ok { cla, ins, p1, p2, data := [], le := some (shortLe le), extended := false }
    | length :: second :: rest =>
      if length ≠ 0 then
        if body.length = length.toNat + 1 then
          .ok { cla, ins, p1, p2, data := second :: rest, le := none, extended := false }
        else if body.length = length.toNat + 2 then
          .ok { cla, ins, p1, p2, data := (second :: rest).take length.toNat,
                le := some (shortLe ((second :: rest).getD length.toNat 0)),
                extended := false }
        else .error .argumentsBad
      else
        match rest with
        | [] => .error .argumentsBad
        | [third] =>
          .ok { cla, ins, p1, p2, data := [], le := some (extendedLe [second, third]),
                extended := true }
        | third :: tail =>
          let dataLength := beValue [second, third]
          if body.length = dataLength + 3 then
            .ok { cla, ins, p1, p2, data := tail, le := none, extended := true }
          else if body.length = dataLength + 5 then
            .ok { cla, ins, p1, p2, data := tail.take dataLength,
                  le := some (extendedLe (tail.drop dataLength)), extended := true }
          else .error .argumentsBad
  | _ => .error .argumentsBad

def usesExtendedLength (dataLength : ℕ) : Except Rv Bool :=
  if dataLength > maxExtendedDataLength ∨
      command.le.any (fun le => le == 0 || decide (le > maxExtendedExpectedLength)) then
    .error .dataLenRange
  else
    .ok (command.extended || decide (dataLength > maxShortDataLength) ||
      command.le.any fun le => decide (le > maxShortExpectedLength))

/-- `encode_header_and_data`: the length may count bytes that are not there yet. -/
def encodeHeaderAndData (encodedDataLength : ℕ) : Except Rv Bytes :=
  if encodedDataLength < command.data.length ∨ encodedDataLength > maxExtendedDataLength then
    .error .dataLenRange
  else
    match command.usesExtendedLength encodedDataLength with
    | .error error => .error error
    | .ok extended =>
      let header := [command.cla, command.ins, command.p1, command.p2]
      if encodedDataLength = 0 then .ok header
      else if extended then .ok (header ++ 0 :: beBytes 2 encodedDataLength ++ command.data)
      else .ok (header ++ UInt8.ofNat encodedDataLength :: command.data)

def encodeLe (extended : Bool) : Bytes :=
  match command.le with
  | none => []
  | some le =>
    if extended then
      (if command.data = [] then [0] else []) ++
        beBytes 2 (if le = maxExtendedExpectedLength then 0 else le)
    else [UInt8.ofNat (if le = maxShortExpectedLength then 0 else le)]

def encode : Except Rv Bytes :=
  match command.usesExtendedLength command.data.length with
  | .error error => .error error
  | .ok extended =>
    match command.encodeHeaderAndData command.data.length with
    | .error error => .error error
    | .ok encoded => .ok (encoded ++ command.encodeLe extended)

end CommandApdu

structure ResponseApdu where
  data : Bytes
  status : UInt16
  deriving DecidableEq

namespace ResponseApdu

def encode (response : ResponseApdu) : Bytes := response.data ++ beBytes 2 response.status.toNat

def parse (encoded : Bytes) : Except Rv ResponseApdu :=
  if encoded.length < 2 then .error .deviceError
  else
    .ok { data := encoded.take (encoded.length - 2)
          status := UInt16.ofNat (beValue (encoded.drop (encoded.length - 2))) }

end ResponseApdu

end Pkcs11rs.Model
