import Pkcs11rs.Analysis.ApduCodec

/-!
# Chains of commands and of responses

What `transmit_command` and `collect_response_chain` put on the wire, for every card.  A recorded
transport keeps each APDU with its answer.

A command goes as one APDU or as a chain whose data fields make up the data of the command
(`ChainOf`).  The chain goes on exactly as long as its segments are acknowledged (`ChainSent`): this is
the invariant of the loop over the segments.  The loop over the response pieces has the number of pieces
that may still come as its measure (`Collected`).
-/

set_option autoImplicit false

namespace Pkcs11rs.Analysis

open Pkcs11rs.Library Pkcs11rs.Model ApduTransport CommandApdu List

variable {le : ℕ}

/-! ### The record -/

/-- An APDU on the wire and what came back. -/
structure ApduExchange where
  frame : Bytes
  reply : Except Rv Bytes

/-- The answer as the module reads it. -/
def ApduExchange.response (exchange : ApduExchange) : Except Rv ResponseApdu :=
  exchange.reply.bind ResponseApdu.parse

section Record

variable {ε : Type} (transport : ApduTransport ε)

/-- The transport with a record of what went through it. -/
def recorded : ApduTransport (List ApduExchange × ε) where
  capabilities := transport.capabilities
  send frame s :=
    let (reply, t) := transport.send frame s.2
    (reply, s.1 ++ [{ frame, reply }], t)

/-- One APDU adds one exchange to the record. -/
theorem transmitApdu_recorded {command : CommandApdu} {frame : Bytes}
    (hencode : command.encode = .ok frame) (log : List ApduExchange) (t : ε) :
    ∃ exchange t', exchange.frame = frame ∧
      (recorded transport).transmitApdu command (log, t) =
        (exchange.response, log ++ [exchange], t') ∧
      transport.transmitApdu command t = (exchange.response, t') := by
  refine ⟨⟨frame, (transport.send frame t).1⟩, (transport.send frame t).2, rfl, ?_, ?_⟩
  · simp only [transmitApdu, hencode, recorded, ApduExchange.response]
    cases (transport.send frame t).1 with
    | error | ok => rfl
  · simp only [transmitApdu, hencode, ApduExchange.response]
    rcases transport.send frame t with ⟨_ | _, t'⟩ <;> rfl

end Record

/-! ### The segments of a command -/

/-- The answer that lets a chain go on. -/
def acknowledged : ResponseApdu := { data := [], status := responseOk }

/-- The APDUs of a chain. -/
def segmentApdus (command : CommandApdu) : List Bytes → List CommandApdu
  | [] => []
  | [data] => [{ command with data, extended := false }]
  | data :: segments =>
    { command with
      cla := command.cla ||| commandChainingCla, data, le := none, extended := false } ::
      segmentApdus command segments

/-- The lengths of an APDU are within the limits of its form. -/
def FitsForm (apdu : CommandApdu) : Prop :=
  if apdu.extended then
    apdu.data.length ≤ maxExtendedDataLength ∧ ∀ le ∈ apdu.le, 0 < le ∧ le ≤ maxExtendedExpectedLength
  else apdu.data.length ≤ maxShortDataLength ∧ ∀ le ∈ apdu.le, 0 < le ∧ le ≤ maxShortExpectedLength

/-- The APDUs carry the command. -/
structure ChainOf (command : CommandApdu) (apdus : List CommandApdu) : Prop where
  nonempty : apdus ≠ []
  data : (apdus.map CommandApdu.data).flatten = command.data
  header : ∀ apdu ∈ apdus, apdu.ins = command.ins ∧ apdu.p1 = command.p1 ∧ apdu.p2 = command.p2
  earlier : ∀ apdu ∈ apdus.dropLast, apdu.cla &&& commandChainingCla ≠ 0 ∧
    apdu.cla = command.cla ||| commandChainingCla ∧ apdu.le = none
  last : ∀ apdu ∈ apdus.getLast?, apdu.cla = command.cla ∧ apdu.le = command.le
  unchained : 1 < apdus.length → command.cla &&& commandChainingCla = 0
  form : ∀ apdu ∈ apdus, FitsForm apdu

/-- The record is of a first part of the APDUs, which goes on exactly while they are acknowledged. -/
structure ChainSent (apdus : List CommandApdu) (result : Except Rv ResponseApdu)
    (log : List ApduExchange) : Prop where
  sent : List.Forall₂ (fun apdu exchange => CommandApdu.decode exchange.frame = .ok apdu)
    (apdus.take log.length) log
  stops : ∀ exchange ∈ log.dropLast, exchange.response = .ok acknowledged
  whole : (∀ exchange ∈ log.take (apdus.length - 1), exchange.response = .ok acknowledged) →
    log.length = apdus.length ∧ ∃ exchange ∈ log.getLast?, result = exchange.response
  cut : log.length < apdus.length → ∃ error, result = .error error

section Chain

variable {command apdu : CommandApdu} {apdus : List CommandApdu} {exchange : ApduExchange}
  {result : Except Rv ResponseApdu} {log : List ApduExchange}

section

variable (hdecode : decode exchange.frame = .ok apdu)

include hdecode

/-- The last APDU of a chain. -/
theorem ChainSent.single : ChainSent [apdu] exchange.response [exchange] := by
  constructor
  · simpa using hdecode
  · simp
  · simp
  · simp

/-- A segment that is not acknowledged ends the chain. -/
theorem ChainSent.stopped (hapdus : apdus ≠ []) (hrefused : exchange.response ≠ .ok acknowledged)
    (error : Rv) : ChainSent (apdu :: apdus) (.error error) [exchange] := by
  obtain ⟨next, rest, rfl⟩ := exists_cons_of_ne_nil hapdus
  constructor
  · simpa using hdecode
  · simp
  · intro hall
    exact absurd (hall exchange (by simp)) hrefused
  · exact fun _ => ⟨error, rfl⟩

/-- After an acknowledged segment the rest of the chain follows. -/
theorem ChainSent.cons (hacknowledged : exchange.response = .ok acknowledged) (hlog : log ≠ [])
    (hapdus : apdus ≠ []) (h : ChainSent apdus result log) :
    ChainSent (apdu :: apdus) result (exchange :: log) := by
  obtain ⟨next, rest, rfl⟩ := exists_cons_of_ne_nil hapdus
  obtain ⟨entry, entries, rfl⟩ := exists_cons_of_ne_nil hlog
  constructor
  · exact .cons hdecode h.sent
  · intro x hx
    rw [dropLast_cons_cons, mem_cons] at hx
    rcases hx with rfl | hx
    · exact hacknowledged
    · exact h.stops x hx
  · intro hall
    have hrest := h.whole fun x hx => hall x (by
      simp only [length_cons, Nat.add_sub_cancel, take_succ_cons, mem_cons] at hx ⊢
      exact .inr hx)
    refine ⟨by simpa using hrest.1, ?_⟩
    exact hrest.2
  · intro hlt
    exact h.cut (by simpa using hlt)

end

/-- Segments give APDUs. -/
theorem segmentApdus_ne_nil {segments : List Bytes} (h : segments ≠ []) :
    segmentApdus command segments ≠ [] := by
  match segments with
  | [] => exact absurd rfl h
  | [data] => simp [segmentApdus]
  | data :: next :: segments => simp [segmentApdus]

/-- A segment is read back by the card as it is. -/
theorem decode_segment (segment : CommandApdu) (hshort : segment.extended = false)
    (hform : FitsForm segment) :
    ∃ frame, segment.encode = .ok frame ∧ decode frame = .ok segment := by
  rw [FitsForm, hshort, if_neg (by simp)] at hform
  apply decode_encode
  · refine ⟨hform.1.trans (by decide), fun le hmem => ?_⟩
    obtain ⟨hpos, hmax⟩ := hform.2 le hmem
    exact ⟨hpos, hmax.trans (by decide)⟩
  · rw [hshort, needsExtended, decide_eq_false (by omega), Bool.false_or]
    cases hle : segment.le with
    | none => rfl
    | some le => simpa using (hform.2 le hle).2

end Chain

section Commands

variable {ε : Type} (transport : ApduTransport ε) {command : CommandApdu}

/-- The loop over the segments. -/
theorem transmitSegments_delivered (hle : ShortLe command)
    (segments : List Bytes) (hsegments : ∀ data ∈ segments, data.length ≤ maxShortDataLength)
    (hne : segments ≠ []) (log : List ApduExchange) (t : ε) : ∃ result sent t', sent ≠ [] ∧
      (recorded transport).transmitSegments command segments (log, t) = (result, log ++ sent, t') ∧
      transport.transmitSegments command segments t = (result, t') ∧
      ChainSent (segmentApdus command segments) result sent := by
  induction segments generalizing log t with
  | nil => exact absurd rfl hne
  | cons data segments ih =>
    have hdata := hsegments data mem_cons_self
    cases segments with
    | nil =>
      obtain ⟨frame, hencode, hdecode⟩ :=
        decode_segment { command with data, extended := false } rfl
          (by simpa [FitsForm] using ⟨hdata, hle⟩)
      obtain ⟨exchange, t', rfl, hrecord, hplain⟩ :=
        transmitApdu_recorded transport hencode log t
      exact ⟨_, [exchange], t', by simp, hrecord, hplain, ChainSent.single hdecode⟩
    | cons next segments =>
      obtain ⟨frame, hencode, hdecode⟩ :=
        decode_segment { command with
          cla := command.cla ||| commandChainingCla, data, le := none, extended := false } rfl
          (by simpa [FitsForm] using hdata)
      obtain ⟨exchange, t', rfl, hrecord, hplain⟩ :=
        transmitApdu_recorded transport hencode log t
      simp only [transmitSegments, hrecord, hplain]
      have hrest : segmentApdus command (next :: segments) ≠ [] := segmentApdus_ne_nil (by simp)
      cases hresponse : exchange.response with
      | error error =>
        exact ⟨.error error, [exchange], t', by simp, rfl, rfl,
          ChainSent.stopped hdecode hrest (by simp [hresponse]) error⟩
      | ok response =>
        simp only [Outcome.andThen]
        by_cases hgo : response = acknowledged
        · -- the loop goes on with the next segment
          obtain ⟨result, sent, t'', hsent, hrecord', hplain', hdelivered⟩ :=
            ih (fun data hmem => hsegments data (mem_cons_of_mem _ hmem)) (by simp)
              (log ++ [exchange]) t'
          have hguard : ¬ (response.status ≠ responseOk ∨ response.data ≠ []) := by
            simp [hgo, acknowledged]
          rw [if_neg hguard, if_neg hguard]
          refine ⟨result, exchange :: sent, t'', by simp, ?_, hplain', ?_⟩
          · rw [hrecord', append_assoc, singleton_append]
          · exact ChainSent.cons hdecode (by rw [hresponse, hgo]) hsent hrest hdelivered
        · have hguard : response.status ≠ responseOk ∨ response.data ≠ [] := by
            by_contra hboth
            push Not at hboth
            apply hgo
            obtain ⟨bytes, status⟩ := response
            obtain ⟨rfl, rfl⟩ := hboth
            rfl
          rw [if_pos hguard, if_pos hguard]
          refine ⟨_, [exchange], t', by simp, rfl, rfl, ?_⟩
          exact ChainSent.stopped hdecode hrest (by simpa [hresponse] using hgo) _

variable (capabilities : ApduCapabilities)

/-- The commands that are refused before anything is sent. -/
def Refused (command : CommandApdu) : Prop :=
  if ApduTransport.needsExtended command = false ∨ capabilities.extended then
    ¬ ValidLengths command
  else (∃ le ∈ command.le, le > maxShortExpectedLength) ∨ capabilities.commandChaining = false ∨
    command.cla &&& commandChainingCla ≠ 0

/-- One APDU carries a command whose lengths are in range. -/
theorem chainOf_single (extended : Bool) (hform : FitsForm { command with extended }) :
    ChainOf command [{ command with extended }] := by
  constructor <;> simp_all

/-- The segments carry the data. -/
theorem chainOf_segments (hle : ShortLe command)
    (hcla : command.cla &&& commandChainingCla = 0) (segments : List Bytes)
    (hsegments : ∀ data ∈ segments, data.length ≤ maxShortDataLength) (hne : segments ≠ []) :
    ChainOf { command with data := segments.flatten } (segmentApdus command segments) := by
  induction segments with
  | nil => exact absurd rfl hne
  | cons data segments ih =>
    have hdata := hsegments data mem_cons_self
    cases segments with
    | nil =>
      have hform : FitsForm { command with data, extended := false } := by
        simpa [FitsForm] using ⟨hdata, hle⟩
      constructor <;> simp_all [segmentApdus]
    | cons next segments =>
      have hrest := ih (fun data hmem => hsegments data (mem_cons_of_mem _ hmem)) (by simp)
      obtain ⟨apdu, apdus, hapdus⟩ := exists_cons_of_ne_nil hrest.nonempty
      rw [hapdus] at hrest
      have hform : FitsForm { command with
          cla := command.cla ||| commandChainingCla, data, le := none, extended := false } := by
        simpa [FitsForm] using hdata
      rw [segmentApdus, hapdus]
      · constructor
        case nonempty => simp
        case data =>
          have hdata := hrest.data
          simp only [map_cons, flatten_cons] at hdata ⊢
          rw [hdata]
        case header => simpa using hrest.header
        case earlier =>
          intro x hx
          rw [dropLast_cons_cons, mem_cons] at hx
          rcases hx with rfl | hx
          · exact ⟨(chaining_cleared _ hcla).2.2, rfl, rfl⟩
          · exact hrest.earlier x hx
        case last =>
          exact hrest.last
        case unchained => exact fun _ => hcla
        case form =>
          intro x hx
          rcases mem_cons.mp hx with rfl | hx
          · exact hform
          · exact hrest.form x hx
      · simp

/-- A command that is not refused reaches the card whole, in one APDU or in a chain. -/
theorem transmitCommand_delivered (hrefused : ¬ Refused capabilities command)
    (hzero : command.le ≠ some 0) (t : ε) :
    ∃ apdus result log t', ChainOf command apdus ∧ ChainSent apdus result log ∧
      (recorded transport).transmitCommand capabilities command ([], t) = (result, log, t') ∧
      transport.transmitCommand capabilities command t = (result, t') := by
  unfold Refused at hrefused
  by_cases hone : needsExtended command = false ∨ capabilities.extended = true
  · rw [if_pos hone, not_not] at hrefused
    rw [transmitCommand_one hone, transmitCommand_one hone]
    have hvalid : ValidLengths { command with extended := needsExtended command } :=
      ⟨hrefused.data, hrefused.le⟩
    obtain ⟨frame, hencode, hdecode⟩ := decode_encode hvalid rfl
    obtain ⟨exchange, t', rfl, hrecord, hplain⟩ := transmitApdu_recorded transport hencode [] t
    refine ⟨_, _, _, t', chainOf_single _ ?_, ChainSent.single hdecode, hrecord, hplain⟩
    cases hneeds : needsExtended command with
    | true => exact ⟨hrefused.data, hrefused.le⟩
    | false =>
      simp only [needsExtended, Bool.or_eq_false_iff, decide_eq_false_iff_not, not_lt] at hneeds
      refine ⟨hneeds.1, fun le hmem => ⟨(hrefused.le le hmem).1, ?_⟩⟩
      have hle := hneeds.2
      rw [Option.mem_def.mp hmem] at hle
      simpa using hle
  · rw [if_neg hone] at hrefused
    push Not at hrefused
    obtain ⟨hshort, hchaining, hcla⟩ := hrefused
    have hle : ShortLe command := by
      intro le hmem
      refine ⟨Nat.pos_of_ne_zero fun h => hzero ?_, hshort le hmem⟩
      rw [← h]
      exact hmem
    obtain ⟨hne, hpieces, hchained⟩ :=
      transmitCommand_chained hone hle (by simpa using hchaining) hcla
    rw [hchained, hchained]
    obtain ⟨result, sent, t', -, hrecord, hplain, hdelivered⟩ :=
      transmitSegments_delivered transport hle _ hpieces hne [] t
    have hchain := chainOf_segments hle hcla _ hpieces hne
    rw [flatten_chunks] at hchain
    exact ⟨_, result, sent, t', hchain, hdelivered, hrecord, hplain⟩

/-- An APDU whose lengths are out of range is not sent. -/
theorem encode_of_not_validLengths (command : CommandApdu) (h : ¬ ValidLengths command) :
    command.encode = .error .dataLenRange := by
  have hrange : command.data.length > maxExtendedDataLength ∨
      command.le.any (fun le => le == 0 || decide (le > maxExtendedExpectedLength)) = true := by
    by_contra hnot
    push Not at hnot
    refine h ⟨hnot.1, fun le hle => ?_⟩
    grind
  simp only [encode, usesExtendedLength, if_pos hrange]

/-- A refused command sends nothing. -/
theorem transmitCommand_refused (hrefused : Refused capabilities command) (t : ε) :
    ∃ error, transport.transmitCommand capabilities command t = (.error error, t) := by
  unfold transmitCommand
  unfold Refused at hrefused
  split_ifs at hrefused with hone
  · have hencode := encode_of_not_validLengths { command with
        extended := needsExtended command && capabilities.extended }
      fun hvalid => hrefused ⟨hvalid.data, hvalid.le⟩
    exact ⟨.dataLenRange, by simp only [if_pos hone, transmitApdu, hencode]⟩
  · rw [if_neg hone]
    rcases hrefused with ⟨le, hmem, hle⟩ | hrefused
    · exact ⟨.dataLenRange, if_pos (by simp [Option.mem_def.mp hmem, hle])⟩
    · split
      · exact ⟨_, rfl⟩
      · exact ⟨.argumentsBad, if_pos (by tauto)⟩

/-- **Command chaining.**  Whatever the card answers, a command is refused with nothing sent, or its
data goes whole through one APDU or a chain: the chaining bit on all segments but the last, which has the
class byte and the `Le` of the command; the chain stops at the first segment that is not acknowledged. -/
theorem command_chaining_lossless (command : CommandApdu) (hzero : command.le ≠ some 0) (t : ε) :
    (Refused capabilities command ∧ ∃ error,
      (recorded transport).transmitCommand capabilities command ([], t) = (.error error, [], t)) ∨
    (¬ Refused capabilities command ∧ ∃ apdus result log t',
      ChainOf command apdus ∧ ChainSent apdus result log ∧
      (recorded transport).transmitCommand capabilities command ([], t) = (result, log, t') ∧
      transport.transmitCommand capabilities command t = (result, t')) := by
  by_cases hrefused : Refused capabilities command
  · exact .inl ⟨hrefused, transmitCommand_refused _ capabilities hrefused _⟩
  · exact .inr ⟨hrefused, transmitCommand_delivered transport capabilities hrefused hzero t⟩

end Commands

/-- A card that acknowledges everything. -/
def acknowledgingCard : ApduTransport Unit where
  capabilities := .shortOnly
  send _ t := (.ok acknowledged.encode, t)

/-- A command of `length` bytes of data. -/
def putData (length : ℕ) : CommandApdu :=
  ⟨0, 0xdb, 0x3f, 0xff, List.replicate length 7, some 256, false⟩

set_option maxRecDepth 4000 in
/-- On a card with short APDUs 300 bytes go in a chain of two. -/
theorem command_chaining_lossless_short :
    ∃ apdus result log t', ChainOf (putData 300) apdus ∧ ChainSent apdus result log ∧
      (recorded acknowledgingCard).transmitCommand .shortOnly (putData 300) ([], ()) =
        (result, log, t') ∧
      acknowledgingCard.transmitCommand .shortOnly (putData 300) () = (result, t') ∧
      apdus.length = 2 ∧ log.length = 2 ∧ result = .ok acknowledged := by
  have hrefused : ¬ Refused .shortOnly (putData 300) := by
    rw [Refused, if_neg (by decide)]
    rintro (⟨le, hmem, hle⟩ | hchaining | hcla)
    · cases hmem
      exact absurd hle (by decide)
    · exact absurd hchaining (by decide)
    · exact hcla rfl
  obtain ⟨-, apdus, result, log, t', hchain, hsent, hrecord, hplain⟩ :=
    (command_chaining_lossless acknowledgingCard .shortOnly (putData 300) (by decide) ()).resolve_left
      fun h => hrefused h.1
  have hresult : result = .ok acknowledged := (congrArg Prod.fst hplain).symm
  have hlog : log.length = 2 := congrArg (fun outcome => outcome.2.1.length) hrecord.symm
  refine ⟨apdus, result, log, t', hchain, hsent, hrecord, hplain, ?_, hlog, hresult⟩
  -- a chain that is cut ends with an error, and the record has no more than the chain
  have hle : apdus.length ≤ log.length := by
    by_contra hlt
    obtain ⟨error, herror⟩ := hsent.cut (by omega)
    rw [hresult] at herror
    cases herror
  have hge := hsent.sent.length_eq
  rw [length_take] at hge
  omega

/-- A card that acknowledges everything, with a byte of data. -/
def answeringCard : ApduTransport Unit where
  capabilities := .shortOnly
  send _ t := (.ok (ResponseApdu.encode ⟨[7], responseOk⟩), t)

set_option maxRecDepth 4000 in
/-- A first segment that is answered `9000`, but with data, stops the chain.  An `Le` of zero stops it
before the last segment.  The class byte of a command that fits one APDU is not looked at, so the bit of the
caller is on the last APDU. -/
theorem acknowledged_segment_stops_chain :
    (∃ exchange apdu, (recorded answeringCard).transmitCommand .shortOnly (putData 300) ([], ()) =
          (.error .deviceError, [exchange], ()) ∧
      exchange.response = .ok ⟨[7], responseOk⟩ ∧
      CommandApdu.decode exchange.frame = .ok apdu ∧ apdu.data.length = 255) ∧
    (∃ exchange apdu, (recorded acknowledgingCard).transmitCommand .shortOnly
        { putData 300 with le := some 0 } ([], ()) = (.error .dataLenRange, [exchange], ()) ∧
      CommandApdu.decode exchange.frame = .ok apdu ∧ apdu.data.length = 255) ∧
    ∃ exchange apdu, (recorded acknowledgingCard).transmitCommand .shortOnly
        { putData 1 with cla := 0x10 } ([], ()) = (.ok acknowledged, [exchange], ()) ∧
      CommandApdu.decode exchange.frame = .ok apdu ∧ apdu.cla &&& commandChainingCla ≠ 0 :=
  ⟨⟨_, _, rfl, rfl, rfl, rfl⟩, ⟨_, _, rfl, rfl, rfl⟩, ⟨_, _, rfl, rfl, by decide⟩⟩

/-! ### The pieces of a response -/

variable {exchange : ApduExchange}

section Responses

variable {ε : Type} (transport : ApduTransport ε)

/-- More data follows a response. -/
def MoreFollows (response : ResponseApdu) : Prop := response.status &&& 0xff00 = 0x6100

/-- The command for the piece that a response announces. -/
def pieceRequest (instruction : UInt8) (response : ResponseApdu) : CommandApdu :=
  let available := (response.status &&& 0xff).toNat
  { cla := 0, ins := instruction, p1 := 0, p2 := 0, data := []
    le := some (if available = 0 then maxShortExpectedLength else available), extended := false }

/-- The exchanges after a response: each one follows a response that announces more, and asks for the
length that it announces. -/
def Asked (instruction : UInt8) : ResponseApdu → List ApduExchange → Prop
  | _, [] => True
  | response, exchange :: log =>
    MoreFollows response ∧ CommandApdu.decode exchange.frame = .ok (pieceRequest instruction response) ∧
      match exchange.response with
      | .ok next => Asked instruction next log
      | .error _ => log = []

/-- Why a collection fails with the last of its pieces. -/
def Unacceptable (bound : ℕ) (continued : Bool) (data : Bytes) (log : List ApduExchange)
    (last : ResponseApdu) : Prop :=
  maxResponseLength < data.length ∨
    MoreFollows last ∧ (log.length = bound ∨ (continued ∨ log ≠ []) ∧ last.data = [])

/-- What was collected from the first answer and the exchanges after it. -/
structure Collected (instruction : UInt8) (bound : ℕ) (continued : Bool) (collected : Bytes)
    (response : ResponseApdu) (result : Except Rv ResponseApdu) (log : List ApduExchange) : Prop where
  bounded : log.length ≤ bound
  asked : Asked instruction response log
  ended : (∃ error, result = .error error ∧
      ∃ exchange ∈ log.getLast?, exchange.response = .error error) ∨
    ∃ pieces last, log.map ApduExchange.response = pieces.map .ok ∧
      (response :: pieces).getLast? = some last ∧
      let data := collected ++ ((response :: pieces).map ResponseApdu.data).flatten
      (result = .ok ⟨data, last.status⟩ ∧ ¬ MoreFollows last ∧ data.length ≤ maxResponseLength) ∨
        result = .error .deviceError ∧ Unacceptable bound continued data log last

/-- The `GET RESPONSE` command for a piece. -/
theorem decode_pieceRequest (instruction : UInt8) (response : ResponseApdu) :
    ∃ frame, (pieceRequest instruction response).encode = .ok frame ∧
      decode frame = .ok (pieceRequest instruction response) := by
  have havailable : (response.status &&& 0xff).toNat ≤ 255 := Nat.and_le_right
  refine decode_segment _ rfl ?_
  simp only [FitsForm, pieceRequest, maxShortExpectedLength]
  grind

section Pieces

variable {instruction : UInt8} {bound : ℕ} {continued : Bool} {collected : Bytes}
  {response : ResponseApdu} {log : List ApduExchange}

/-- A collection that fails where it stands. -/
theorem Collected.failed
    (h : Unacceptable bound continued (collected ++ response.data) [] response) :
    Collected instruction bound continued collected response (.error .deviceError) [] := by
  refine ⟨Nat.zero_le _, trivial, .inr ⟨[], response, rfl, rfl, .inr ⟨rfl, ?_⟩⟩⟩
  simpa using h

/-- The last piece. -/
theorem Collected.done (hlast : ¬ MoreFollows response)
    (hlength : collected.length + response.data.length ≤ maxResponseLength) :
    Collected instruction bound continued collected response
      (.ok { data := collected ++ response.data, status := response.status }) [] := by
  refine ⟨Nat.zero_le _, trivial, .inr ⟨[], response, rfl, rfl, .inl ⟨?_, hlast, ?_⟩⟩⟩
  · simp
  · simpa using hlength

section

variable (hmore : MoreFollows response)
  (hframe : decode exchange.frame = .ok (pieceRequest instruction response))

include hmore hframe

/-- A `GET RESPONSE` that is not answered. -/
theorem Collected.unanswered {error : Rv} (herror : exchange.response = .error error) :
    Collected instruction (bound + 1) continued collected response (.error error) [exchange] := by
  refine ⟨by simp, ⟨hmore, hframe, by simp [herror]⟩, .inl ⟨error, rfl, exchange, rfl, herror⟩⟩

/-- One more piece in front. -/
theorem Collected.cons {next : ResponseApdu} {result : Except Rv ResponseApdu}
    (hnext : exchange.response = .ok next)
    (h : Collected instruction bound true (collected ++ response.data) next result log) :
    Collected instruction (bound + 1) continued collected response result (exchange :: log) := by
  refine ⟨by simpa using h.bounded, ⟨hmore, hframe, by simpa [hnext] using h.asked⟩, ?_⟩
  rcases h.ended with ⟨error, rfl, last, hlast, herror⟩ | ⟨pieces, last, hpieces, hlast, hend⟩
  · refine .inl ⟨error, rfl, last, ?_, herror⟩
    obtain ⟨entry, entries, rfl⟩ := exists_cons_of_ne_nil (show log ≠ [] by rintro rfl; cases hlast)
    exact hlast
  · refine .inr ⟨next :: pieces, last, ?_, hlast, ?_⟩
    · rw [map_cons, map_cons, hnext, hpieces]
    · simpa [Unacceptable, append_assoc] using hend

end

end Pieces

/-- The loop over the pieces. -/
theorem collectSegments_collected (instruction : UInt8) (remaining : ℕ) (continued : Bool)
    (collected : Bytes) (response : ResponseApdu) (log : List ApduExchange) (t : ε) :
    ∃ result sent t',
      (recorded transport).collectSegments instruction remaining continued collected response
        (log, t) = (result, log ++ sent, t') ∧
      transport.collectSegments instruction remaining continued collected response t =
        (result, t') ∧
      Collected instruction remaining continued collected response result sent := by
  induction remaining generalizing continued collected response log t with
  | zero =>
    unfold collectSegments
    dsimp only
    split_ifs with hmore hlength
    · exact ⟨_, [], t, by simp, rfl, .failed (.inr ⟨hmore, .inl rfl⟩)⟩
    · exact ⟨_, [], t, by simp, rfl, .failed (.inl (by simpa using hlength))⟩
    · exact ⟨_, [], t, by simp, rfl, .done hmore (Nat.le_of_not_lt ‹_›)⟩
  | succ remaining ih =>
    unfold collectSegments
    split_ifs with hmore hempty hlength hlast
    · exact ⟨_, [], t, by simp, rfl, .failed (.inr ⟨hmore, .inr ⟨.inl hempty.1, hempty.2⟩⟩)⟩
    · exact ⟨_, [], t, by simp, rfl, .failed (.inl (by simpa using hlength))⟩
    · obtain ⟨frame, hencode, hdecode⟩ := decode_pieceRequest instruction response
      obtain ⟨exchange, t', rfl, hrecord, hplain⟩ :=
        transmitApdu_recorded transport hencode log t
      simp only [pieceRequest] at hrecord hplain
      simp only [hrecord, hplain]
      cases hnext : exchange.response with
      | error error => exact ⟨_, [exchange], t', rfl, rfl, .unanswered hmore hdecode hnext⟩
      | ok next =>
        obtain ⟨result, sent, t'', hrecord', hplain', hcollected⟩ :=
          ih true (collected ++ response.data) next (log ++ [exchange]) t'
        refine ⟨result, exchange :: sent, t'', ?_, hplain', .cons hmore hdecode hnext hcollected⟩
        simp only [Outcome.andThen, hrecord', append_assoc, singleton_append]
    · exact ⟨_, [], t, by simp, rfl, .failed (.inl (by simpa using hlast))⟩
    · exact ⟨_, [], t, by simp, rfl, .done hmore (Nat.le_of_not_lt ‹_›)⟩

/-- **Response collection.**  For every card the collection ends after at most `maxResponseSegments`
`GET RESPONSE` commands, each of which follows an answer `61xx` and asks for the announced length.  It
returns the data of all answers in their order, at most `maxResponseLength` bytes, with the status of the
last one, which announces no more; or it fails, with the error of the transport or because of what the last
answer is. -/
theorem response_collection_bounded (instruction : UInt8) (response : ResponseApdu) (t : ε) :
    ∃ result log t',
      (recorded transport).collectResponseChain instruction response ([], t) = (result, log, t') ∧
      transport.collectResponseChain instruction response t = (result, t') ∧
      Collected instruction maxResponseSegments false [] response result log :=
  collectSegments_collected transport instruction maxResponseSegments false [] response [] t

end Responses

end Pkcs11rs.Analysis
