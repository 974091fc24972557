import Pkcs11rs.Analysis.ApduCodec
import Pkcs11rs.Library.Runs
import Pkcs11rs.Model.Scp03Card

/-!
# Host and card in step

An SCP03 session protects a command once, and the layer below decides how it goes to the card: in one
short or extended APDU, as a chain of segments, or again with another expected length.  The card computes
the MAC over what it has put together.

`transmitCommand_card` says what of this the card sees: exactly one whole command, in the form that its
lengths need.  From there on it is a matter of the two sides computing the same MAC input.  They do unless
the caller has asked for the extended form of a command that does not need it, since the session takes
that wish into the MAC and the layer below drops it.  A card that answers `6Cxx` after it has verified the
command gets the same APDU a second time.
-/

set_option autoImplicit false

namespace Pkcs11rs.Analysis

open Pkcs11rs.Library Pkcs11rs.Model ApduTransport Scp03Card Outcome Scp03Session

variable {command : CommandApdu} {data : Bytes} {le : Option ℕ}

/-! ### Class bytes and status words -/

/-- The class byte under the MAC. -/
theorem normalized_cla : ∀ cla : UInt8,
    cla &&& commandChainingCla = 0 ∧ cla &&& 0x40 = 0 ∧ cla &&& 0x03 = 0 →
      (cla &&& 0xf3 ||| 0x04) &&& commandChainingCla = 0 ∧ (cla &&& 0xf3 ||| 0x04) &&& 0x04 ≠ 0 :=
  forall_byte (by decide +kernel)

/-- `61xx` is not `6Cxx`. -/
theorem continued_ne_wrongLength : ∀ n < 256,
    (0x6100 ||| UInt16.ofNat n) &&& (0xff00 : UInt16) ≠ 0x6c00 := by
  decide +kernel

/-- The status `6Cxx`. -/
theorem wrongLength_status : ∀ length : UInt8,
    (0x6c00 ||| length.toUInt16) &&& (0xff00 : UInt16) = 0x6c00 ∧
      (0x6c00 ||| length.toUInt16).toUInt8 = length :=
  forall_byte (by decide +kernel)

/-! ### What the card gets -/

section Transport

variable {κ α : Type} (core : Scp03Core κ) (behaviour : CardBehaviour α)
  (capabilities : ApduCapabilities)

/-- An APDU in the form that its lengths need reaches the card. -/
theorem transmitApdu_card (hvalid : ValidLengths command)
    (hform : command.extended = needsExtended command) (card : Scp03Card κ α) :
    (transport core behaviour capabilities).transmitApdu command card =
      (.ok (card.take core behaviour capabilities command).1,
        (card.take core behaviour capabilities command).2) := by
  obtain ⟨encoded, hencode, hdecode⟩ := decode_encode hvalid hform
  simp only [transmitApdu, hencode, transport, receive, hdecode, andThen, parse_encode]

variable {card : Scp03Card κ α}

/-- A command without the chaining bit is whole. -/
theorem take_whole (hextended : command.extended = true → capabilities.extended = true)
    (hcla : command.cla &&& commandChainingCla = 0)
    (hget : ¬ (command.cla = 0 ∧ command.ins = getResponseIns)) :
    card.take core behaviour capabilities command =
      card.complete core behaviour (card.join command) := by grind [take]

/-- A segment is kept. -/
theorem take_segment (hchaining : capabilities.commandChaining = true)
    (hshort : command.extended = false) (hcla : command.cla &&& commandChainingCla ≠ 0) :
    card.take core behaviour capabilities command = (⟨[], responseOk⟩, card.collect command) := by
  unfold take
  rw [if_neg (by simp [hshort]), if_neg, if_pos hcla, if_neg (by simp [hchaining])]
  rintro ⟨hzero, -⟩
  rw [hzero] at hcla
  exact hcla rfl

variable {command : CommandApdu}

/-- A segment goes in a short APDU. -/
theorem transmitApdu_segment {segment : CommandApdu} (hle : ShortLe segment)
    (hdata : segment.data.length ≤ maxShortDataLength) (hshort : segment.extended = false)
    (card : Scp03Card κ α) : (transport core behaviour capabilities).transmitApdu segment card =
      (.ok (card.take core behaviour capabilities segment).1,
        (card.take core behaviour capabilities segment).2) := by
  refine transmitApdu_card core behaviour capabilities ⟨?_, fun le hmem => ?_⟩ ?_ card
  · exact hdata.trans (by decide)
  · exact ⟨(hle le hmem).1, (hle le hmem).2.trans (by decide)⟩
  · simp [needsExtended, not_any_of_shortLe, *]

/-- The card has collected the bytes of a chain of the command. -/
def Collects (card : Scp03Card κ α) (command : CommandApdu) (collected : Bytes) : Prop :=
  match card.chain with
  | none => collected = []
  | some chain => chain.data = collected ∧ chain.cla = command.cla ∧ chain.ins = command.ins ∧
      chain.p1 = command.p1 ∧ chain.p2 = command.p2

section

variable {collected : Bytes} (hcollects : Collects card command collected)
  (hcla : command.cla &&& commandChainingCla = 0)

include hcollects hcla

/-- The last segment completes the command. -/
theorem join_collected (hdata : data.length ≤ maxShortDataLength) :
    card.join { command with data, extended := false } = { command with
      data := collected ++ data
      extended := decide ((collected ++ data).length > maxShortDataLength) } := by
  obtain ⟨hkeep, -, -⟩ := chaining_cleared command.cla hcla
  unfold Collects at hcollects
  unfold join
  cases hchain : card.chain with
  | none =>
    rw [hchain] at hcollects
    simp [show collected = [] from hcollects, hdata]
  | some chain =>
    rw [hchain] at hcollects
    obtain ⟨rfl, hsame, hheader⟩ := hcollects
    have hcontinues : Scp03Card.Continues chain { command with data, extended := false } :=
      ⟨hsame.trans hkeep.symm, hheader⟩
    simp only [if_pos hcontinues, Bool.false_or]

/-- A segment is collected. -/
theorem collect_collected : Collects (card.collect { command with
      cla := command.cla ||| commandChainingCla, data, le := none, extended := false })
      command (collected ++ data) := by
  obtain ⟨-, hback, -⟩ := chaining_cleared command.cla hcla
  refine ⟨?_, hback, rfl, rfl, rfl⟩
  unfold Collects at hcollects
  cases hchain : card.chain with
  | none =>
    rw [hchain] at hcollects
    simp [show collected = [] from hcollects]
  | some chain =>
    rw [hchain] at hcollects
    obtain ⟨rfl, hsame, hheader⟩ := hcollects
    have hcontinues : Scp03Card.Continues chain { command with
        cla := command.cla ||| commandChainingCla, data, le := none, extended := false } :=
      ⟨hsame.trans hback.symm, hheader⟩
    simp only [if_pos hcontinues]

/-- The card joins the segments with what it has collected. -/
theorem transmitSegments_card (hchaining : capabilities.commandChaining = true)
    (hget : ¬ (command.cla = 0 ∧ command.ins = getResponseIns)) (hle : ShortLe command)
    (segments : List Bytes) (hsegments : ∀ data ∈ segments, data.length ≤ maxShortDataLength)
    (hne : segments ≠ []) :
    let whole := { command with
      data := collected ++ segments.flatten
      extended := decide ((collected ++ segments.flatten).length > maxShortDataLength) }
    (transport core behaviour capabilities).transmitSegments command segments card =
      (.ok (card.complete core behaviour whole).1, (card.complete core behaviour whole).2) := by
  induction segments generalizing card collected with
  | nil => exact absurd rfl hne
  | cons data segments ih =>
    have hdata := hsegments data List.mem_cons_self
    cases segments with
    | nil =>
      have hlast : ShortLe { command with data, extended := false } := hle
      have htake : card.take core behaviour capabilities
          { command with data, extended := false } = _ :=
        take_whole core behaviour capabilities (by simp) hcla hget
      rw [transmitSegments, transmitApdu_segment core behaviour capabilities hlast hdata rfl,
        htake, join_collected hcollects hcla hdata, List.flatten_singleton]
    | cons next segments =>
      have hnone : ShortLe { command with
          cla := command.cla ||| commandChainingCla, data, le := none, extended := false } :=
        nofun
      rw [transmitSegments,
        transmitApdu_segment core behaviour capabilities hnone hdata rfl,
        take_segment core behaviour capabilities hchaining rfl (chaining_cleared command.cla hcla).2.2]
      · simp only [andThen, ne_eq, not_true_eq_false, or_self, if_false]
        rw [ih (collect_collected hcollects hcla)
          (fun d hd => hsegments d (List.mem_cons_of_mem _ hd)) (by simp)]
        simp only [List.append_assoc, List.flatten_cons]
        -- what a card has collected does not matter to a whole command
        rfl
      · simp

end

/-- **One command at the card.**  However `transmit_command` sends a command, the card gets it whole, in
the form that its lengths need. -/
theorem transmitCommand_card (hvalid : ValidLengths command)
    (hcla : command.cla &&& commandChainingCla = 0)
    (hget : ¬ (command.cla = 0 ∧ command.ins = getResponseIns))
    (hfits : needsExtended command = false ∨ capabilities.extended = true ∨
      capabilities.commandChaining = true ∧ ShortLe command)
    (card : Scp03Card κ α) (hchain : card.chain = none) :
    let whole := { command with extended := needsExtended command }
    (transport core behaviour capabilities).transmitCommand capabilities command card =
      (.ok (card.complete core behaviour whole).1, (card.complete core behaviour whole).2) := by
  intro whole
  by_cases hone : needsExtended command = false ∨ capabilities.extended = true
  · have hwhole : whole.extended = true → capabilities.extended = true := by
      intro hext
      rcases hone with hshort | hextended
      · exact absurd hext (by simp [whole, hshort])
      · exact hextended
    have hvalid' : ValidLengths whole := ⟨hvalid.data, hvalid.le⟩
    rw [transmitCommand_one hone, transmitApdu_card core behaviour capabilities hvalid' rfl,
      take_whole core behaviour capabilities hwhole hcla hget]
    have hjoin : card.join whole = whole := by simp [join, hchain]
    rw [hjoin]
  · obtain ⟨hchaining, hle⟩ : capabilities.commandChaining = true ∧ ShortLe command := by
      rw [← or_assoc] at hfits
      exact hfits.resolve_left hone
    obtain ⟨hne, hpieces, hchained⟩ := transmitCommand_chained hone hle hchaining hcla
    have hnothing : Collects card command [] := by simp [Collects, hchain]
    have hwhole : { command with
        data := command.data
        extended := decide (command.data.length > maxShortDataLength) } = whole := by
      simp [whole, needsExtended, not_any_of_shortLe hle]
    rw [hchained, transmitSegments_card core behaviour capabilities hnothing hcla hchaining hget hle _
      hpieces hne, List.nil_append, flatten_chunks, hwhole]

/-- A part of a response that is handed out. -/
theorem reply_pending (card : Scp03Card κ α) (parts : List Bytes) (status : UInt16) :
    ∃ pending, (card.reply parts status).2 = { card with pending } := by
  unfold reply
  split
  · exact ⟨_, rfl⟩
  · exact ⟨_, rfl⟩
  · exact ⟨_, rfl⟩

/-- Fetching a response leaves the secure channel of the card as it is. -/
theorem collectSegments_card (remaining : ℕ) (continued : Bool) (data : Bytes)
    (response : ResponseApdu) (card : Scp03Card κ α) :
    ∃ pending, ((transport core behaviour capabilities).collectSegments getResponseIns
      remaining continued data response card).2 = { card with pending } := by
  induction remaining generalizing continued data response card with
  | zero =>
    unfold collectSegments
    split
    · exact ⟨_, rfl⟩
    · split
      · exact ⟨_, rfl⟩
      · exact ⟨_, rfl⟩
  | succ remaining ih =>
    unfold collectSegments
    split
    · dsimp only
      split
      · exact ⟨_, rfl⟩
      split
      · exact ⟨_, rfl⟩
      have hshort : ShortLe
          { cla := 0, ins := getResponseIns, p1 := 0, p2 := 0, data := []
            le := some (if (response.status &&& 0xff).toNat = 0 then maxShortExpectedLength
              else (response.status &&& 0xff).toNat)
            extended := false } := by
        intro le hle
        obtain rfl := Option.some.inj hle
        grind [UInt16.toNat_and, Nat.and_le_right, maxShortExpectedLength]
      rw [transmitApdu_segment core behaviour capabilities hshort (by simp) rfl]
      have htake : ∀ le, card.take core behaviour capabilities
          { cla := 0, ins := getResponseIns, p1 := 0, p2 := 0, data := [], le,
            extended := false } = card.reply card.pending.1 card.pending.2 := by
        intro le
        unfold take
        rw [if_neg (by simp), if_pos ⟨rfl, rfl⟩]
      obtain ⟨pending, hpending⟩ := reply_pending card card.pending.1 card.pending.2
      obtain ⟨pending', hpending'⟩ := ih true (data ++ response.data)
        (card.reply card.pending.1 card.pending.2).1 (card.reply card.pending.1 card.pending.2).2
      refine ⟨pending', ?_⟩
      rw [htake]
      simp only [andThen]
      rw [hpending', hpending]
    · split
      · exact ⟨_, rfl⟩
      · exact ⟨_, rfl⟩

/-- The status is not changed. -/
theorem wrapResponse_status {response sealed : ResponseApdu}
    (hsealed : card.wrapResponse core response = some sealed) :
    sealed.status = response.status := by
  unfold wrapResponse at hsealed
  split at hsealed
  · cases hsealed
    rfl
  · obtain ⟨data, -, hrest⟩ := Option.bind_eq_some_iff.mp hsealed
    obtain ⟨data', -, rfl⟩ := Option.map_eq_some_iff.mp hrest
    rfl

/-- What a whole command that is verified leaves behind. -/
theorem complete_verified {opened : Scp03Card κ α} {whole clear : CommandApdu}
    {entry : ReceivedCommand} (hlength : behaviour.wrongLength card.application whole = none)
    (hverified : unwrap core { card with chain := none, pending := ([], 0) } whole =
      some (clear, entry, opened)) :
    (∃ pending application, (card.complete core behaviour whole).2 =
      { opened with pending, application, received := opened.received ++ [entry] }) ∧
    ((card.complete core behaviour whole).1.status &&& 0xff00 = 0x6c00 →
      (behaviour.run opened.application clear).1.status &&& 0xff00 = 0x6c00) := by
  unfold complete
  dsimp only
  rw [hlength]
  rw [hverified]
  dsimp only
  set answered : Scp03Card κ α := { opened with
    application := (behaviour.run opened.application clear).2
    received := opened.received ++ [entry] }
  split
  · refine ⟨⟨_, _, rfl⟩, fun h => ?_⟩
    exact absurd (show (0x6f00 : UInt16) &&& 0xff00 = 0x6c00 from h) (by decide)
  · rename_i sealed hsealed
    obtain ⟨pending, hpending⟩ :=
      reply_pending answered (behaviour.parts sealed.data) sealed.status
    refine ⟨⟨pending, _, hpending⟩, ?_⟩
    rw [← wrapResponse_status core hsealed]
    unfold reply
    split
    · exact id
    · exact id
    · intro h
      refine absurd h (continued_ne_wrongLength _ ?_)
      split
      · assumption
      · decide

end Transport

/-! ### One command under the keys of the session -/

section Sealing

variable {κ α : Type} (core : Scp03Core κ)

/-- Host and card have the same keys, level, chaining value and counter, and the card waits for a
command. -/
structure InStep (session : Scp03Session κ) (card : Scp03Card κ α) : Prop where
  sEnc : card.sEnc = session.sEnc
  sMac : card.sMac = session.sMac
  sRmac : card.sRmac = session.sRmac
  securityLevel : card.securityLevel = session.securityLevel
  macChainingValue : card.macChainingValue = session.macChainingValue
  encryptionCounter : card.encryptionCounter = session.encryptionCounter
  isOpen : card.isOpen = true
  chain : card.chain = none

/-- The session with the counter of its next command. -/
def counted (session : Scp03Session κ) : Scp03Session κ :=
  { session with encryptionCounter := session.encryptionCounter + 1 }

/-- The command as the host has protected it: what the card has to receive, the MAC input and the
initialization vector that the host has used. -/
def protectedRecord (session : Scp03Session κ) (command : CommandApdu) :
    Except Rv ReceivedCommand :=
  if session.securityLevel = 0 then
    .ok { cla := command.cla, ins := command.ins, p1 := command.p1, p2 := command.p2,
          data := command.data, macInput := none, iv := none }
  else do
    let cla ← normalizeScp03Cla command.cla
    let data ← (counted session).encryptData core command
    let input ← (counted session).macInput { command with cla, data }
    let iv ← (counted session).commandIv core false
    .ok { cla, ins := command.ins, p1 := command.p1, p2 := command.p2, data := command.data,
          macInput := some input,
          iv := if session.Encrypts command then some iv else none }

/-- The number of data bytes of the command on its way. -/
def protectedLength (session : Scp03Session κ) (command : CommandApdu) : ℕ :=
  if session.securityLevel = 0 then command.data.length
  else if session.Encrypts command then (command.data.length / 16 + 1) * 16 + macLength
  else command.data.length + macLength

/-- A command of the given length goes in the extended form. -/
def sentExtended (length : ℕ) (le : Option ℕ) : Bool :=
  decide (length > maxShortDataLength) || le.any fun le => decide (le > maxShortExpectedLength)

/-- The form of the length that the host takes into the MAC. -/
def macExtended (session : Scp03Session κ) (command : CommandApdu) : Bool :=
  command.extended || sentExtended (protectedLength session command) command.le

variable {core} {session : Scp03Session κ} {command : CommandApdu}

/-- The data under C-ENC, and back. -/
theorem encryptData_spec (hcore : core.Lawful) (hlevel : session.securityLevel ≠ 0)
    (command : CommandApdu) : ∃ data iv, (counted session).encryptData core command = .ok data ∧
      (counted session).commandIv core false = .ok iv ∧
      data.length + macLength = protectedLength session command ∧
      (session.Encrypts command → data ≠ [] ∧
        core.aesCbc session.sEnc iv data false = .ok (core.pad command.data)) ∧
      (¬ session.Encrypts command → data = command.data) := by
  obtain ⟨iv, hiv⟩ := hcore.aesBlock session.sEnc
    (counterBlock (counted session).encryptionCounter false)
  have hiv' : (counted session).commandIv core false = .ok iv := hiv
  by_cases hencrypts : session.Encrypts command
  · have hpad := hcore.length_pad command.data
    obtain ⟨data, hdata, hlength, hback⟩ := hcore.aesCbc session.sEnc iv (core.pad command.data)
      (by rw [hpad]; omega)
    refine ⟨data, iv, ?_, hiv', ?_, fun _ => ⟨?_, hback⟩, fun h => absurd hencrypts h⟩
    · have hencrypts' : (counted session).Encrypts command := hencrypts
      unfold encryptData
      rw [if_pos hencrypts', hiv']
      exact hdata
    · unfold protectedLength
      rw [if_neg hlevel, if_pos hencrypts, hlength, hpad]
    · intro hnil
      rw [hnil, hpad] at hlength
      simp at hlength
  · refine ⟨command.data, iv, ?_, hiv', ?_, fun h => absurd h hencrypts, fun _ => rfl⟩
    · have hencrypts' : ¬ (counted session).Encrypts command := hencrypts
      unfold encryptData
      rw [if_neg hencrypts']
    · unfold protectedLength
      rw [if_neg hlevel, if_neg hencrypts]

/-- The MAC input of the host: the length field counts the MAC. -/
theorem macInput_spec (cla : UInt8)
    (hle : ∀ le, command.le = some le → 0 < le ∧ le ≤ maxExtendedExpectedLength)
    (hlength : data.length + macLength = protectedLength session command)
    (hmax : protectedLength session command ≤ maxExtendedDataLength) :
    (counted session).macInput { command with cla, data } = .ok
      (session.macChainingValue.val ++ [cla, command.ins, command.p1, command.p2] ++
        lengthField (macExtended session command) (protectedLength session command) ++ data) := by
  have hpos : protectedLength session command ≠ 0 := by
    rw [← hlength]
    simp [macLength]
  have hvalid : ValidLengths { command with cla, data } := ⟨by dsimp only; omega, hle⟩
  have huses := usesExtendedLength_eq hvalid hmax
  unfold Scp03Session.macInput CommandApdu.encodeHeaderAndData
  dsimp only
  rw [hlength, huses, if_neg (by omega), if_neg (by omega)]
  dsimp only
  unfold lengthField macExtended sentExtended
  rw [if_neg hpos, ← Bool.or_assoc]
  split
  · simp [counted, bind, Except.bind]
  · simp [counted, bind, Except.bind]

/-- Protection does not shorten. -/
theorem length_le_protectedLength (session : Scp03Session κ) (command : CommandApdu) :
    command.data.length ≤ protectedLength session command := by
  unfold protectedLength
  split
  · exact le_rfl
  split
  · omega
  · omega

/-- The session accepts the command, and it is one whole command for a card. -/
structure Protectable (session : Scp03Session κ) (command : CommandApdu) : Prop where
  counter : session.encryptionCounter + 1 < 2 ^ 128
  /-- Secure messaging is on the basic logical channel. -/
  channel : session.securityLevel ≠ 0 → command.cla &&& 0x40 = 0 ∧ command.cla &&& 0x03 = 0
  /-- The caller does not chain commands. -/
  unchained : command.cla &&& commandChainingCla = 0
  /-- `GET RESPONSE` in clear belongs to the transport. -/
  notGetResponse : session.securityLevel = 0 →
    ¬ (command.cla = 0 ∧ command.ins = getResponseIns)
  le : ∀ le, command.le = some le → 0 < le ∧ le ≤ maxExtendedExpectedLength
  length : protectedLength session command ≤ maxExtendedDataLength

/-- `protect_command` has made `sealed` of the command.  A card in step finds the command in it, with any
expected length, if it sees the length in the form that the host has taken into the MAC. -/
structure Sealed (core : Scp03Core κ) (session session' : Scp03Session κ)
    (command sealed : CommandApdu) (record : ReceivedCommand) : Prop where
  protect : session.protectCommand core command = (.ok sealed, session')
  level : session'.securityLevel = session.securityLevel
  recorded : protectedRecord core session command = .ok record
  length : sealed.data.length = protectedLength session command
  le : sealed.le = command.le
  unchained : sealed.cla &&& commandChainingCla = 0
  notGetResponse : ¬ (sealed.cla = 0 ∧ sealed.ins = getResponseIns)
  /-- The card finds the command. -/
  found : ∀ {α : Type} (card : Scp03Card κ α) (le : Option ℕ), InStep session card →
    (session.securityLevel = 0 ∨
      macExtended session command = sentExtended (protectedLength session command) le) →
    ∃ opened, card.unwrap core
        { sealed with le, extended := sentExtended (protectedLength session command) le } =
      some ({ sealed with
          data := command.data, le,
          extended := sentExtended (protectedLength session command) le }, record, opened) ∧
      InStep session' opened ∧ opened.application = card.application ∧
      opened.received = card.received

/-- Without secure messaging the command goes as it is. -/
theorem sealed_of_levelZero (hzero : session.securityLevel = 0) (h : Protectable session command) :
    Sealed core session (counted session) command command
      { cla := command.cla, ins := command.ins, p1 := command.p1, p2 := command.p2,
        data := command.data, macInput := none, iv := none } where
  protect := by
    unfold protectCommand protectedCla
    rw [if_pos hzero]
    dsimp only
    rw [if_neg (not_le.mpr h.counter), if_pos hzero]
    rfl
  level := rfl
  recorded := by
    unfold protectedRecord
    rw [if_pos hzero]
  length := by
    unfold protectedLength
    rw [if_pos hzero]
  le := rfl
  unchained := h.unchained
  notGetResponse := h.notGetResponse hzero
  found := by
    intro α card le hin _
    refine ⟨{ card with encryptionCounter := card.encryptionCounter + 1 }, ?_, ?_, rfl, rfl⟩
    · unfold unwrap
      rw [if_pos (hin.securityLevel.trans hzero)]
    · exact { hin with encryptionCounter := congrArg (· + 1) hin.encryptionCounter }

/-- A card in step verifies and decrypts data with the MAC of the host. -/
theorem unwrap_sealed (hcore : core.Lawful) (hnonzero : session.securityLevel ≠ 0)
    {card : Scp03Card κ α} (hin : InStep session card) {cla : UInt8} (hcla : cla &&& 0x04 ≠ 0)
    {iv mac : AesBlock} {le : Option ℕ} {extended : Bool}
    (hiv : (counted session).commandIv core false = .ok iv)
    (hlength : data.length + macLength = protectedLength session command)
    (hdecrypt : session.Encrypts command → data ≠ [] ∧
      core.aesCbc session.sEnc iv data false = .ok (core.pad command.data))
    (hplain : ¬ session.Encrypts command → data = command.data) (hmac : core.aesCmac session.sMac
      (session.macChainingValue.val ++ [cla, command.ins, command.p1, command.p2] ++
        lengthField extended (protectedLength session command) ++ data) = .ok mac) :
    card.unwrap core { command with cla, data := data ++ mac.val.take macLength, le, extended } =
      some ({ command with cla, le, extended },
        { cla, ins := command.ins, p1 := command.p1, p2 := command.p2, data := command.data
          macInput := some
            (session.macChainingValue.val ++ [cla, command.ins, command.p1, command.p2] ++
              lengthField extended (protectedLength session command) ++ data)
          iv := if session.Encrypts command then some iv else none },
        { card with
          encryptionCounter := card.encryptionCounter + 1
          macChainingValue := mac }) := by
  have htag : (mac.val.take macLength).length = macLength := by
    rw [List.length_take, mac.property]
    decide
  have htotal : (data ++ mac.val.take macLength).length = protectedLength session command := by
    rw [List.length_append, htag, hlength]
  have hbody : (data ++ mac.val.take macLength).take
      ((data ++ mac.val.take macLength).length - macLength) = data := by
    rw [List.length_append, htag, Nat.add_sub_cancel, List.take_left]
  have hrest : (data ++ mac.val.take macLength).drop
      ((data ++ mac.val.take macLength).length - macLength) = mac.val.take macLength := by
    rw [List.length_append, htag, Nat.add_sub_cancel, List.drop_left]
  have hinput : card.macInput
      { command with cla, data := data ++ mac.val.take macLength, le, extended } =
      session.macChainingValue.val ++ [cla, command.ins, command.p1, command.p2] ++
        lengthField extended (protectedLength session command) ++ data := by
    unfold Scp03Card.macInput
    rw [hbody, htotal, hin.macChainingValue]
  have hsame : card.Decrypts data ↔ session.Encrypts command := by
    unfold Scp03Card.Decrypts Scp03Session.Encrypts
    rw [hin.securityLevel]
    constructor
    · rintro ⟨hbit, hne⟩
      refine ⟨hbit, fun hnil => hne ?_⟩
      rw [hplain (by simp [Scp03Session.Encrypts, hnil]), hnil]
    · intro hencrypts
      exact ⟨hencrypts.1, (hdecrypt hencrypts).1⟩
  have hclear : card.decryptCommand core iv data = some command.data := by
    unfold decryptCommand
    by_cases hencrypts : session.Encrypts command
    · rw [if_pos (hsame.mpr hencrypts), hin.sEnc, (hdecrypt hencrypts).2]
      simp [Except.toOption, hcore.unpad_pad]
    · rw [if_neg (mt hsame.mp hencrypts), hplain hencrypts]
  have hiv' : core.aesBlock card.sEnc (counterBlock (card.encryptionCounter + 1) false) =
      .ok iv := by
    rw [hin.sEnc, hin.encryptionCounter]
    exact hiv
  unfold unwrap
  rw [if_neg (by rw [hin.securityLevel]; exact hnonzero), if_neg, hinput, hin.sMac, hmac, hbody,
    hrest]
  · simp only [Except.toOption, Option.bind_some, ne_eq, not_true_eq_false, if_false, hiv', hclear,
      Option.map_some, hsame]
  · rw [htotal]
    simp [hin.isOpen, hcla]
    omega

/-- With secure messaging. -/
theorem sealed_of_secured (hcore : core.Lawful) (hnonzero : session.securityLevel ≠ 0)
    (hlevel : session.securityLevel &&& securityCMac ≠ 0) (h : Protectable session command) :
    ∃ session' sealed record, Sealed core session session' command sealed record := by
  obtain ⟨hlogical, hbasic⟩ := h.channel hnonzero
  obtain ⟨hunchained, hsm⟩ := normalized_cla command.cla ⟨h.unchained, hlogical, hbasic⟩
  have hcla : normalizeScp03Cla command.cla = .ok (command.cla &&& 0xf3 ||| 0x04) := by
    unfold normalizeScp03Cla
    rw [if_neg (by simp [hlogical, hbasic])]
  generalize (command.cla &&& 0xf3 ||| 0x04) = cla at hunchained hsm hcla
  obtain ⟨data, iv, hdata, hiv, hlength, hdecrypt, hplain⟩ :=
    encryptData_spec hcore hnonzero command
  have hinput := macInput_spec cla h.le hlength h.length
  set input := session.macChainingValue.val ++ [cla, command.ins, command.p1, command.p2] ++
    lengthField (macExtended session command) (protectedLength session command) ++ data
  obtain ⟨mac, hmac⟩ := hcore.aesCmac session.sMac input
  refine ⟨{ counted session with macChainingValue := mac },
    { command with cla, data := data ++ mac.val.take macLength },
    { cla, ins := command.ins, p1 := command.p1, p2 := command.p2, data := command.data
      macInput := some input
      iv := if session.Encrypts command then some iv else none },
    ⟨?_, rfl, ?_, ?_, rfl, hunchained, ?_, ?_⟩⟩
  · have hvalid : ValidLengths command :=
      ⟨(length_le_protectedLength session command).trans h.length, h.le⟩
    unfold protectCommand protectedCla
    rw [if_neg hnonzero, hcla]
    dsimp only
    rw [if_neg (not_le.mpr h.counter), if_neg hnonzero, usesExtendedLength_eq hvalid hvalid.data]
    have hdata' : encryptData core { session with
        encryptionCounter := session.encryptionCounter + 1 } command = .ok data := hdata
    rw [hdata']
    unfold appendMac
    have hinput' : macInput { session with
        encryptionCounter := session.encryptionCounter + 1 } { command with cla, data } =
        .ok input := hinput
    dsimp only
    rw [if_pos hlevel, hinput']
    dsimp only
    rw [hmac]
    rfl
  · simp [protectedRecord, bind, Except.bind, *]
  · rw [List.length_append, ← hlength, List.length_take, mac.property]
    rfl
  · rintro ⟨hzero, -⟩
    exact hsm (by rw [show cla = 0 from hzero]; rfl)
  · intro α card le hin hform
    rcases hform with hzero | hform
    · exact absurd hzero hnonzero
    · rw [← hform]
      refine ⟨_, unwrap_sealed hcore hnonzero hin hsm hiv hlength hdecrypt hplain hmac, ?_, rfl, rfl⟩
      exact { hin with
        macChainingValue := rfl
        encryptionCounter := congrArg (· + 1) hin.encryptionCounter }

end Sealing

/-! ### Exchanges -/

section Exchanges

variable {κ α : Type} (core : Scp03Core κ) (behaviour : CardBehaviour α)
  (capabilities : ApduCapabilities)

/-- The command that the card gets with an expected length. -/
def attempt (session : Scp03Session κ) (command : CommandApdu) (le : Option ℕ) : CommandApdu :=
  match session.protectCommand core command with
  | (.ok sealed, _) => { sealed with le, extended := sentExtended sealed.data.length le }
  | (.error _, _) => command

/-- The card sees the length in the form that the host has taken into the MAC. -/
def SameForm (session : Scp03Session κ) (command : CommandApdu) (le : Option ℕ) : Prop :=
  session.securityLevel = 0 ∨
    macExtended session command = sentExtended (protectedLength session command) le

/-- The command can be sent as the card is able to take it, and the card does not answer `6Cxx` after it
has verified the command.  If it refuses the expected length before, it takes the one it asks for. -/
structure Admissible (session : Scp03Session κ) (card : Scp03Card κ α) (command : CommandApdu) :
    Prop extends Protectable session command where
  fits : sentExtended (protectedLength session command) command.le = false ∨
    capabilities.extended = true ∨ capabilities.commandChaining = true ∧ ShortLe command
  answered :
    (behaviour.wrongLength card.application (attempt core session command command.le) = none ∧
      SameForm session command command.le ∧
      (behaviour.run card.application { attempt core session command command.le with
        data := command.data }).1.status &&& 0xff00 ≠ 0x6c00) ∨
    ∃ length,
      behaviour.wrongLength card.application (attempt core session command command.le) =
        some length ∧
      behaviour.wrongLength card.application (attempt core session command
        (some (ApduTransport.requestedLength length.toUInt16))) = none ∧
      SameForm session command (some (ApduTransport.requestedLength length.toUInt16))

variable {core behaviour capabilities} {session session' : Scp03Session κ}
  {card : Scp03Card κ α} {command sealed : CommandApdu} {record : ReceivedCommand}

/-- The length that `6Cxx` asks for. -/
theorem requestedLength_wrongLength (length : UInt8) :
    requestedLength (0x6c00 ||| length.toUInt16) =
      requestedLength length.toUInt16 := by
  unfold requestedLength
  simp

/-- It is a short length. -/
theorem requestedLength_short (status : UInt16) : 0 < requestedLength status ∧
      requestedLength status ≤ maxShortExpectedLength := by
  unfold requestedLength maxShortExpectedLength
  split
  · decide
  · rename_i hne
    have hpos : status.toUInt8.toNat ≠ 0 := fun hzero => hne (UInt8.toNat_inj.mp hzero)
    have hlt := status.toUInt8.toNat_lt
    omega

/-- The card has verified the command and answers; the rest of the exchange fetches the response. -/
theorem complete_sealed (hseal : Sealed core session session' command sealed record)
    (hin : InStep session card) (hform : SameForm session command le)
    (hlength : behaviour.wrongLength card.application (attempt core session command le) = none) :
    let out := card.complete core behaviour (attempt core session command le)
    InStep session' out.2 ∧ out.2.received = card.received ++ [record] ∧
      (out.1.status &&& 0xff00 = 0x6c00 →
        (behaviour.run card.application { attempt core session command le with
          data := command.data }).1.status &&& 0xff00 = 0x6c00) := by
  intro out
  have hattempt : attempt core session command le = { sealed with
      le, extended := sentExtended (protectedLength session command) le } := by
    simp only [attempt, hseal.protect, hseal.length]
  have hcleared : InStep session { card with chain := none, pending := ([], 0) } :=
    { hin with chain := rfl }
  obtain ⟨opened, hunwrap, hin', happlication, hreceived⟩ := hseal.found _ le hcleared hform
  rw [← hattempt] at hunwrap
  obtain ⟨⟨pending, application, hout⟩, hstatus⟩ :=
    complete_verified core behaviour hlength hunwrap
  refine ⟨?_, ?_, fun h => ?_⟩
  · rw [show out.2 = _ from hout]
    exact { hin' with }
  · rw [show out.2 = _ from hout, hreceived]
  · have hrun := hstatus h
    rw [happlication] at hrun
    rw [hattempt]
    exact hrun

/-- The sealed command with an expected length reaches the card as the attempt with it. -/
theorem transmitCommand_attempt (behaviour : CardBehaviour α) (capabilities : ApduCapabilities)
    (hseal : Sealed core session session' command sealed record)
    (h : Protectable session command) (hchain : card.chain = none) (le : Option ℕ)
    (hle : ∀ length, le = some length → 0 < length ∧ length ≤ maxExtendedExpectedLength)
    (hfits : sentExtended (protectedLength session command) le = false ∨
      capabilities.extended = true ∨
      capabilities.commandChaining = true ∧ ShortLe { sealed with le }) :
    (transport core behaviour capabilities).transmitCommand capabilities { sealed with le } card =
      (.ok (card.complete core behaviour (attempt core session command le)).1,
        (card.complete core behaviour (attempt core session command le)).2) := by
  have hvalid : ValidLengths { sealed with le } := ⟨hseal.length.trans_le h.length, hle⟩
  have hneeds : needsExtended { sealed with le } =
      sentExtended (protectedLength session command) le := by
    rw [← hseal.length]
    rfl
  have hattempt : { sealed with le, extended := needsExtended { sealed with le } } =
      attempt core session command le := by
    simp only [attempt, hseal.protect, hneeds, hseal.length]
  rw [transmitCommand_card core behaviour capabilities hvalid hseal.unchained hseal.notGetResponse
    (by rw [hneeds]; exact hfits) card hchain]
  simp only [hattempt]

/-- A command whose expected length the card refuses changes nothing in its secure channel. -/
theorem complete_refused (hin : InStep session card) {whole : CommandApdu} {length : UInt8}
    (hlength : behaviour.wrongLength card.application whole = some length) :
    card.complete core behaviour whole =
      (⟨[], 0x6c00 ||| length.toUInt16⟩, { card with pending := ([], 0) }) := by
  unfold complete
  dsimp only
  rw [hlength, ← hin.chain]

/-- What an exchange leaves behind: the two sides are in step, and the card has got the command. -/
def Delivered (session' : Scp03Session κ) (card card' : Scp03Card κ α) (record : ReceivedCommand) :
    Prop :=
  InStep session' card' ∧ card'.received = card.received ++ [record]

/-- The answer is collected. -/
theorem Delivered.collect {card' : Scp03Card κ α} (h : Delivered session' card card' record)
    (response : ResponseApdu) :
    Delivered session' card ((transport core behaviour capabilities).collectResponseChain
      getResponseIns response card').2 record := by
  obtain ⟨pending, hpending⟩ := collectSegments_card core behaviour capabilities
    maxResponseSegments false [] response card'
  unfold collectResponseChain
  rw [hpending]
  exact ⟨{ h.1 with }, h.2⟩

/-- The layer below delivers a sealed command once, also when the card asks for another expected
length first. -/
theorem transmitWithCapabilities_delivers
    (hseal : Sealed core session session' command sealed record) (hin : InStep session card)
    (h : Admissible core behaviour capabilities session card command) : Delivered session' card
      ((transport core behaviour capabilities).transmitWithCapabilities capabilities
        sealed card).2 record := by
  have hfirst := transmitCommand_attempt behaviour capabilities hseal h.toProtectable hin.chain
    command.le h.le h.fits
  have hsame : { sealed with le := command.le } = sealed := by rw [← hseal.le]
  rw [hsame] at hfirst
  unfold transmitWithCapabilities
  rw [hfirst]
  simp only [andThen]
  rcases h.answered with ⟨hlength, hform, hrun⟩ | ⟨length, hrefused, hlength, hform⟩
  · obtain ⟨hin', hreceived, hstatus⟩ := complete_sealed hseal hin hform hlength
    rw [if_neg (mt hstatus hrun)]
    have hdelivered : Delivered session' card _ record := ⟨hin', hreceived⟩
    exact hdelivered.collect _
  · have hin₁ : InStep session { card with pending := ([], 0) } := { hin with }
    have hshort := requestedLength_short length.toUInt16
    have hsecond := transmitCommand_attempt behaviour capabilities hseal h.toProtectable hin₁.chain
      (some (requestedLength length.toUInt16))
      (by rintro _ ⟨⟩; exact ⟨hshort.1, hshort.2.trans (by decide)⟩) ?_
    · rw [complete_refused hin hrefused, if_pos (wrongLength_status length).1,
        requestedLength_wrongLength]
      rw [hsecond]
      obtain ⟨hin', hreceived, -⟩ := complete_sealed hseal hin₁ hform hlength
      have hdelivered : Delivered session' card _ record := ⟨hin', hreceived⟩
      exact hdelivered.collect _
    · rcases h.fits with hfits | hfits | ⟨hchaining, -⟩
      · grind [sentExtended]
      · exact .inr (.inl hfits)
      · exact .inr (.inr ⟨hchaining, by rintro _ ⟨⟩; exact hshort⟩)

/-! ### Whole runs -/

/-- A protectable command is sealed. -/
theorem exists_sealed (hcore : core.Lawful)
    (hlevel : validateSecurityLevel session.securityLevel = .ok ())
    (h : Protectable session command) :
    ∃ session' sealed record, Sealed core session session' command sealed record := by
  by_cases hzero : session.securityLevel = 0
  · exact ⟨_, _, _, sealed_of_levelZero hzero h⟩
  · refine sealed_of_secured hcore hzero ?_ h
    unfold validateSecurityLevel at hlevel
    split at hlevel
    · rename_i hmem
      simp only [List.mem_cons, List.not_mem_nil, or_false] at hmem
      rcases hmem with hmem | hmem | hmem | hmem | hmem | hmem
      · exact absurd hmem hzero
      all_goals
        rw [hmem]
        decide
    · cases hlevel

variable (core behaviour capabilities) in
/-- A command of a run: the states of the two sides after `Scp03Session::transmit`. -/
def transmitStep (s : Scp03Session κ × Scp03Card κ α) (command : CommandApdu) :
    Option (Scp03Session κ × Scp03Card κ α) :=
  some (s.1.transmit core (Scp03Card.transport core behaviour capabilities) command s.2).2

/-- **One exchange.** -/
theorem transmit_delivers (hcore : core.Lawful)
    (hlevel : validateSecurityLevel session.securityLevel = .ok ()) (hin : InStep session card)
    (h : Admissible core behaviour capabilities session card command) :
    ∃ record, protectedRecord core session command = .ok record ∧
      ∃ session' card', transmitStep core behaviour capabilities (session, card) command =
          some (session', card') ∧
        session'.securityLevel = session.securityLevel ∧ Delivered session' card card' record := by
  obtain ⟨session', sealed, record, hseal⟩ := exists_sealed hcore hlevel h.toProtectable
  refine ⟨record, hseal.recorded, session', _, ?_, hseal.level,
    transmitWithCapabilities_delivers hseal hin h⟩
  simp only [transmitStep, transmit, Scp03Session.exchange, hseal.protect, transport]

/-- The condition along a run. -/
def AdmissibleStep (core : Scp03Core κ) (behaviour : CardBehaviour α)
    (capabilities : ApduCapabilities) (s : Scp03Session κ × Scp03Card κ α)
    (command : CommandApdu) : Prop :=
  Admissible core behaviour capabilities s.1 s.2 command

/-- The two sides of a run after it. -/
def Lockstep (s : Scp03Session κ × Scp03Card κ α) : Prop :=
  validateSecurityLevel s.1.securityLevel = .ok () ∧ InStep s.1 s.2

/-- **One command** keeps both sides in step. -/
theorem transmitStep_lockstep (hcore : core.Lawful) (s : Scp03Session κ × Scp03Card κ α)
    (command : CommandApdu) (s' : Scp03Session κ × Scp03Card κ α) (hs : Lockstep s)
    (h : AdmissibleStep core behaviour capabilities s command)
    (hstep : transmitStep core behaviour capabilities s command = some s') : Lockstep s' := by
  obtain ⟨record, -, session', card', hmade, hlevel, hin, -⟩ :=
    transmit_delivers hcore hs.1 hs.2 h
  have hs' : (session', card') = s' := Option.some.inj (hmade.symm.trans hstep)
  subst hs'
  exact ⟨by rw [hlevel]; exact hs.1, hin⟩

/-- **Host and card stay in step.**  In every run of commands that meet the condition, at every command the
card gets exactly the command that the host has protected, once, with the MAC input and the
initialization vector of the host, and afterwards counter and chaining value are the same on both
sides. -/
theorem host_and_card_in_step (hcore : core.Lawful) (s : Scp03Session κ × Scp03Card κ α)
    (hs : Lockstep s) (before after : List CommandApdu) (command : CommandApdu)
    (h : Along (transmitStep core behaviour capabilities)
      (AdmissibleStep core behaviour capabilities) s (before ++ command :: after)) :
    ∃ s₁ s₂ record, run (transmitStep core behaviour capabilities) s before = some s₁ ∧
      transmitStep core behaviour capabilities s₁ command = some s₂ ∧
      protectedRecord core s₁.1 command = .ok record ∧
      s₂.2.received = s₁.2.received ++ [record] ∧
      s₂.2.encryptionCounter = s₂.1.encryptionCounter ∧
      s₂.2.macChainingValue = s₂.1.macChainingValue := by
  obtain ⟨hbefore, hrest⟩ := along_append.mp h
  obtain ⟨s₁, hrun⟩ := @exists_run _ _ (transmitStep core behaviour capabilities)
    (fun _ _ => ⟨_, rfl⟩) s before
  have hs₁ := run_induction Lockstep (transmitStep_lockstep hcore) before s s₁ hs hbefore hrun
  obtain ⟨hcommand, -⟩ := hrest s₁ hrun
  obtain ⟨record, hrecord, session', card', hmade, -, hin, hreceived⟩ :=
    transmit_delivers hcore hs₁.1 hs₁.2 hcommand
  exact ⟨s₁, _, record, hrun, hmade, hrecord, hreceived, hin.encryptionCounter,
    hin.macChainingValue⟩

end Exchanges

/-! ### A core and a card to run -/

/-- The padding of the specification. -/
def padBlock (data : Bytes) : Bytes :=
  data ++ 0x80 :: List.replicate (15 - data.length % 16) 0

/-- Cut the padding off. -/
def unpadBlock (data : Bytes) : Except Rv Bytes :=
  match data.reverse.dropWhile (· == 0) with
  | 0x80 :: rest => .ok rest.reverse
  | _ => .error .encryptedDataInvalid

/-- Padding is removed. -/
theorem unpadBlock_padBlock (data : Bytes) : unpadBlock (padBlock data) = .ok data := by
  have hzeros : ∀ n, (List.replicate n (0 : UInt8) ++ 0x80 :: data.reverse).dropWhile (· == 0) =
      0x80 :: data.reverse := by
    intro n
    induction n with
    | zero => rfl
    | succ n ih =>
      exact ih
  unfold unpadBlock padBlock
  simp

/-- The sum of the first two blocks: the chaining value and the start of the command. -/
def sumMac (data : Bytes) : AesBlock :=
  let padded := data ++ List.replicate 32 0
  ⟨List.zipWith (· + ·) (padded.take 16) ((padded.drop 16).take 16), by simp [padded]⟩

/-- A core that encrypts nothing. -/
def clearCore : Scp03Core Unit where
  aesBlock _ block := .ok block
  aesCbc _ _ data _ := .ok data
  aesCmac _ data := .ok (sumMac data)
  pad := padBlock
  unpad := unpadBlock

/-- The core of the example is lawful. -/
theorem clearCore_lawful : clearCore.Lawful where
  aesBlock _ block := ⟨block, rfl⟩
  aesCbc _ _ data _ := ⟨data, rfl, rfl, rfl⟩
  aesCmac _ _ := ⟨_, rfl⟩
  length_pad data := by
    change (padBlock data).length = _
    simp only [padBlock, List.length_append, List.length_cons, List.length_replicate]
    omega
  unpad_pad := unpadBlock_padBlock

/-- An application that answers with a status, and takes no other expected length than 16. -/
def statusCard (status : UInt16) : CardBehaviour Unit where
  wrongLength _ command := if command.le.any (· ≠ 16) then some 16 else none
  run _ _ := (⟨[], status⟩, ())
  parts data := [data]
  flatten_parts := by simp

def zeroBlock : AesBlock := ⟨List.replicate 16 0, by simp⟩

/-- Both sides after the handshake. -/
def openedSides (level : UInt8) : Scp03Session Unit × Scp03Card Unit Unit :=
  ({ sEnc := (), sMac := (), sRmac := (), macChainingValue := zeroBlock, encryptionCounter := 0,
     securityLevel := level },
   { sEnc := (), sMac := (), sRmac := (), securityLevel := level, macChainingValue := zeroBlock,
     encryptionCounter := 0, isOpen := true, chain := none, pending := ([], 0), application := (),
     received := [] })

/-- A command with one byte of data. -/
def byteCommand (le : Option ℕ) (extended : Bool) : CommandApdu :=
  { cla := 0, ins := 1, p1 := 0, p2 := 0, data := [7], le, extended }

/-- The command of the example can be protected. -/
theorem byteCommand_protectable {session : Scp03Session Unit}
    (hcounter : session.encryptionCounter ≤ 1)
    (hle : ∀ length, le = some length → 0 < length ∧ length ≤ maxExtendedExpectedLength) :
    Protectable session (byteCommand le false) where
  counter := by omega
  channel _ := by simp [byteCommand]
  unchained := by simp [byteCommand]
  notGetResponse _ := by simp [byteCommand, getResponseIns]
  le := hle
  length := by
    unfold protectedLength
    split
    · simp [byteCommand, maxExtendedDataLength]
    split
    · simp [byteCommand, maxExtendedDataLength, macLength]
    · simp [byteCommand, maxExtendedDataLength, macLength]

/-- GET CHALLENGE for more bytes than a short APDU can ask for. -/
def longChallenge : CommandApdu :=
  { cla := 0, ins := 0x84, p1 := 0, p2 := 0, data := [], le := some 300, extended := false }

/-- The card answers `6C10`.  If it does so before it verifies a command with a long `Le`, the command is sent
again in the short form under a MAC over a length of three bytes; if it does so after it has verified the
command, the same sealed command is sent a second time.  Either way the card ends the session, and in the
first case it has not received the command. -/
theorem wrong_length_ends_session :
    clearCore.Lawful ∧ Lockstep (openedSides 0x01) ∧
      (transmitStep clearCore (statusCard 0x9000) ⟨true, true⟩ (openedSides 0x01) longChallenge).map
        (fun s => (s.2.received.length, s.2.isOpen, s.1.encryptionCounter, s.2.encryptionCounter)) =
          some (0, false, 1, 0) ∧
      (transmitStep clearCore (statusCard 0x6c10) ⟨true, true⟩ (openedSides 0x01)
        (byteCommand (some 16) false)).map
        (fun s => (s.2.received.length, s.2.isOpen)) = some (1, false) := by
  refine ⟨clearCore_lawful, ⟨rfl, ⟨rfl, rfl, rfl, rfl, rfl, rfl, rfl, rfl⟩⟩, ?_, ?_⟩
  · decide +kernel
  · decide +kernel

/-- The second of two commands under full protection, the first of which is sent again after `6C10`. -/
theorem host_and_card_in_step_second_command :
    ∃ s₁ s₂ record, run (transmitStep clearCore (statusCard 0x9000) ⟨true, true⟩)
        (openedSides 0x33) [byteCommand (some 5) false] = some s₁ ∧
      transmitStep clearCore (statusCard 0x9000) ⟨true, true⟩ s₁ (byteCommand none false) =
        some s₂ ∧
      protectedRecord clearCore s₁.1 (byteCommand none false) = .ok record ∧
      s₂.2.received = s₁.2.received ++ [record] ∧
      s₂.2.encryptionCounter = s₂.1.encryptionCounter ∧
      s₂.2.macChainingValue = s₂.1.macChainingValue := by
  apply host_and_card_in_step clearCore_lawful (openedSides 0x33)
    ⟨rfl, ⟨rfl, rfl, rfl, rfl, rfl, rfl, rfl, rfl⟩⟩ [byteCommand (some 5) false] []
  refine ⟨⟨byteCommand_protectable (by decide) ?_, .inl (by decide), .inr ⟨16, ?_, ?_, .inr ?_⟩⟩, ?_⟩
  · rintro _ ⟨⟩
    decide
  · decide +kernel
  · decide +kernel
  · decide
  · intro s₁ hs₁
    have hs := Option.some.inj hs₁
    subst hs
    refine ⟨⟨byteCommand_protectable ?_ (by rintro _ ⟨⟩), .inl (by decide +kernel),
      .inl ⟨?_, .inr ?_, by decide⟩⟩, fun _ _ => trivial⟩
    · decide +kernel
    · decide +kernel
    · decide +kernel

end Pkcs11rs.Analysis
