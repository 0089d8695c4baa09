import BiBeam.Tun.MssClamp

namespace BiBeam

/-- A byte stored at an index, which must be inside the packet. -/
def storeAt (packet : List UInt8) (i : Nat) (byte : UInt8) : Option (List UInt8) :=
  if i < packet.length then some (packet.set i byte) else none

/-- The rewriting with every access to the packet checked. -/
def rewriteMssChecked (packet : List UInt8) (currentMss targetMss : UInt16) (cursor : Nat) : Option (List UInt8) := do
  let checkHigh ← packet[tcpChecksumOffset]?
  let checkLow ← packet[tcpChecksumOffset + 1]?
  let newCheck := incrementalUpdate (u16FromBeBytes checkHigh checkLow) currentMss targetMss
  let packet ← storeAt packet (cursor + 2) (highByte targetMss)
  let packet ← storeAt packet (cursor + 3) (lowByte targetMss)
  let packet ← storeAt packet tcpChecksumOffset (highByte newCheck)
  storeAt packet (tcpChecksumOffset + 1) (lowByte newCheck)

/-- The walk with every access to the packet checked; it is nothing where one
falls outside. -/
def walkOptionsChecked (packet : List UInt8) (targetMss : UInt16) (headerLen cursor : Nat) :
    Option (Except TunError Bool × List UInt8) :=
  if cursor < headerLen then do
    let kind ← packet[cursor]?
    if kind = tcpOptEol then
      some (.ok false, packet)
    else if kind = tcpOptNop then
      walkOptionsChecked packet targetMss headerLen (cursor + 1)
    else if headerLen ≤ cursor + 1 then
      some (.error (.packet "TCP option missing length byte"), packet)
    else do
      let length ← packet[cursor + 1]?
      let optLen := length.toNat
      if optLen < 2 ∨ headerLen < cursor + optLen then
        some (.error (.packet s!"TCP option length {optLen} overruns options region"), packet)
      else if kind = tcpOptMss then
        if optLen ≠ tcpOptMssLen.toNat then
          some (.error (.packet s!"TCP MSS option has wrong length {optLen}"), packet)
        else do
          let high ← packet[cursor + 2]?
          let low ← packet[cursor + 3]?
          let currentMss := u16FromBeBytes high low
          if currentMss ≤ targetMss then
            some (.ok false, packet)
          else do
            let rewritten ← rewriteMssChecked packet currentMss targetMss cursor
            some (.ok true, rewritten)
      else
        walkOptionsChecked packet targetMss headerLen (cursor + optLen)
  else
    some (.ok false, packet)
termination_by headerLen - cursor
decreasing_by all_goals omega

/-- The call with every access to the packet checked. -/
def clampTcpMssChecked (packet : List UInt8) (targetMss : UInt16) : Option (Except TunError Bool × List UInt8) :=
  if packet.length < tcpMinHeaderLen then
    some (.error (.packet s!"TCP segment too short ({packet.length} < {tcpMinHeaderLen})"), packet)
  else do
    let flags ← packet[tcpFlagsOffset]?
    if flags &&& tcpFlagSyn = 0 then
      some (.ok false, packet)
    else do
      let dataOffset ← packet[tcpDataOffsetByte]?
      let dataOffsetWords := (dataOffset >>> 4).toNat
      let headerLen := dataOffsetWords * 4
      if headerLen < tcpMinHeaderLen ∨ packet.length < headerLen then
        some (.error (.packet s!"TCP data-offset {dataOffsetWords} (= {headerLen} bytes) out of range for segment of {packet.length} bytes"),
          packet)
      else
        walkOptionsChecked packet targetMss headerLen tcpMinHeaderLen

section

variable {packet : List UInt8} {targetMss : UInt16} {headerLen cursor : Nat}

theorem getElem?_eq_byteAt {i : Nat} (inside : i < packet.length) : packet[i]? = some (byteAt packet i) := by
  rw [byteAt, List.getD_eq_getElem?_getD, List.getElem?_eq_getElem inside, Option.getD_some]

theorem storeAt_eq {i : Nat} (byte : UInt8) (inside : i < packet.length) :
    storeAt packet i byte = some (packet.set i byte) :=
  if_pos inside

theorem rewriteMssChecked_eq (long : tcpMinHeaderLen ≤ packet.length) (inside : cursor + 4 ≤ packet.length) :
    rewriteMssChecked packet (u16FromBeBytes (byteAt packet (cursor + 2)) (byteAt packet (cursor + 3))) targetMss cursor =
      some (rewriteMss packet targetMss cursor) := by
  have header : tcpMinHeaderLen = 20 := rfl
  have checksum : tcpChecksumOffset = 16 := rfl
  rw [rewriteMssChecked, getElem?_eq_byteAt (by omega), getElem?_eq_byteAt (by omega)]
  simp only [Option.bind_eq_bind, Option.bind_some]
  rw [storeAt_eq _ (by omega), Option.bind_some, storeAt_eq _ (by rw [List.length_set]; omega), Option.bind_some,
    storeAt_eq _ (by rw [List.length_set, List.length_set]; omega), Option.bind_some,
    storeAt_eq _ (by rw [List.length_set, List.length_set, List.length_set]; omega)]
  rfl

/-- No access of the walk falls outside the packet. -/
theorem walkOptionsChecked_eq (long : tcpMinHeaderLen ≤ packet.length) (fits : headerLen ≤ packet.length) :
    walkOptionsChecked packet targetMss headerLen cursor =
      some (walkOptions packet targetMss headerLen cursor) := by
  fun_induction walkOptions packet targetMss headerLen cursor with
  | case1 cursor inside kind isEol =>
    rw [walkOptionsChecked, if_pos inside, getElem?_eq_byteAt (by omega), Option.bind_eq_bind, Option.bind_some,
      if_pos isEol]
  | case2 cursor inside kind notEol isNop ih =>
    rw [walkOptionsChecked, if_pos inside, getElem?_eq_byteAt (by omega), Option.bind_eq_bind, Option.bind_some,
      if_neg notEol, if_pos isNop, ih]
  | case3 cursor inside kind notEol notNop noLength =>
    rw [walkOptionsChecked, if_pos inside, getElem?_eq_byteAt (by omega), Option.bind_eq_bind, Option.bind_some,
      if_neg notEol, if_neg notNop, if_pos noLength]
  | case4 cursor inside kind notEol notNop hasLength optLen overruns =>
    rw [walkOptionsChecked, if_pos inside, getElem?_eq_byteAt (by omega), Option.bind_eq_bind, Option.bind_some,
      if_neg notEol, if_neg notNop, if_neg hasLength, getElem?_eq_byteAt (by omega), Option.bind_some,
      if_pos overruns]
  | case5 cursor inside kind notEol notNop hasLength optLen fitting isMss missized =>
    rw [walkOptionsChecked, if_pos inside, getElem?_eq_byteAt (by omega), Option.bind_eq_bind, Option.bind_some,
      if_neg notEol, if_neg notNop, if_neg hasLength, getElem?_eq_byteAt (by omega), Option.bind_some,
      if_neg fitting, if_pos isMss, if_pos missized]
  | case6 cursor inside kind notEol notNop hasLength optLen fitting isMss sized current small =>
    have four : optLen = 4 := not_not.mp sized
    rw [walkOptionsChecked, if_pos inside, getElem?_eq_byteAt (by omega), Option.bind_eq_bind, Option.bind_some,
      if_neg notEol, if_neg notNop, if_neg hasLength, getElem?_eq_byteAt (by omega), Option.bind_some,
      if_neg fitting, if_pos isMss, if_neg sized, getElem?_eq_byteAt (by omega), Option.bind_some,
      getElem?_eq_byteAt (by omega), Option.bind_some, if_pos small]
  | case7 cursor inside kind notEol notNop hasLength optLen fitting isMss sized current large =>
    have four : optLen = 4 := not_not.mp sized
    rw [walkOptionsChecked, if_pos inside, getElem?_eq_byteAt (by omega), Option.bind_eq_bind, Option.bind_some,
      if_neg notEol, if_neg notNop, if_neg hasLength, getElem?_eq_byteAt (by omega), Option.bind_some,
      if_neg fitting, if_pos isMss, if_neg sized, getElem?_eq_byteAt (by omega), Option.bind_some,
      getElem?_eq_byteAt (by omega), Option.bind_some, if_neg large,
      rewriteMssChecked_eq long (by omega), Option.bind_eq_bind, Option.bind_some]
  | case8 cursor inside kind notEol notNop hasLength optLen fitting notMss ih =>
    rw [walkOptionsChecked, if_pos inside, getElem?_eq_byteAt (by omega), Option.bind_eq_bind, Option.bind_some,
      if_neg notEol, if_neg notNop, if_neg hasLength, getElem?_eq_byteAt (by omega), Option.bind_some,
      if_neg fitting, if_neg notMss, ih]
  | case9 cursor done => rw [walkOptionsChecked, if_neg done]

theorem clampTcpMssChecked_eq (packet : List UInt8) (targetMss : UInt16) :
    clampTcpMssChecked packet targetMss = some (clampTcpMss packet targetMss) := by
  have header : tcpMinHeaderLen = 20 := rfl
  have flagsOffset : tcpFlagsOffset = 13 := rfl
  have dataOffset : tcpDataOffsetByte = 12 := rfl
  rw [clampTcpMssChecked, clampTcpMss]
  by_cases short : packet.length < tcpMinHeaderLen
  · rw [if_pos short, if_pos short]
  · rw [if_neg short, if_neg short, getElem?_eq_byteAt (by omega), Option.bind_eq_bind, Option.bind_some]
    dsimp only
    by_cases notSyn : byteAt packet tcpFlagsOffset &&& tcpFlagSyn = 0
    · rw [if_pos notSyn, if_pos notSyn]
    · rw [if_neg notSyn, if_neg notSyn, getElem?_eq_byteAt (by omega), Option.bind_some]
      by_cases outOfRange : (byteAt packet tcpDataOffsetByte >>> 4).toNat * 4 < tcpMinHeaderLen ∨
          packet.length < (byteAt packet tcpDataOffsetByte >>> 4).toNat * 4
      · rw [if_pos outOfRange, if_pos outOfRange]
      · rw [if_neg outOfRange, if_neg outOfRange]
        exact walkOptionsChecked_eq (by omega) (by omega)

end

/-- The option area of a segment, as long as the data offset tells. -/
def tcpOptions (packet : List UInt8) : List UInt8 :=
  optionsFrom packet (tcpHeaderLen packet) tcpMinHeaderLen

def IsSyn (packet : List UInt8) : Prop :=
  byteAt packet tcpFlagsOffset &&& tcpFlagSyn ≠ 0

def HeaderFits (packet : List UInt8) : Prop :=
  tcpMinHeaderLen ≤ tcpHeaderLen packet ∧ tcpHeaderLen packet ≤ packet.length

/-- A segment that is too short for a header, or a SYN whose header or whose
options are not well formed. -/
def Rejected (packet : List UInt8) : Prop :=
  packet.length < tcpMinHeaderLen ∨ IsSyn packet ∧ (¬ HeaderFits packet ∨ Malformed (tcpOptions packet))

/-- A SYN whose first MSS option stands at an offset with a value above the target. -/
structure MssAbove (packet : List UInt8) (targetMss : UInt16) (offset : Nat) (value : UInt16) : Prop where
  syn : IsSyn packet
  fits : HeaderFits packet
  reading : MssAt (tcpOptions packet) offset value
  above : targetMss < value

namespace MssAt

variable {area : List UInt8} {offset : Nat} {value : UInt16}

theorem inside (reading : MssAt area offset value) : offset + 4 ≤ area.length := by
  induction reading with
  | here => simp
  | nop _ ih => rw [List.length_cons]; omega
  | option _ _ _ size _ ih =>
    rw [List.length_cons, List.length_cons, List.length_append]
    omega

/-- Other bytes for the value of the first MSS option. -/
theorem set (reading : MssAt area offset value) (high low : UInt8) :
    MssAt ((area.set (offset + 2) high).set (offset + 3) low) offset (u16FromBeBytes high low) := by
  induction reading with
  | here => exact .here
  | nop _ ih => exact .nop ih
  | @option kind length body area offset value notEol notNop notMss size _ ih =>
    have first : offset + length.toNat + 2 = offset + 2 + body.length + 2 := by omega
    have second : offset + length.toNat + 3 = offset + 3 + body.length + 2 := by omega
    rw [first, second, List.set_cons_succ, List.set_cons_succ, List.set_cons_succ, List.set_cons_succ,
      List.set_append_right _ _ (by omega), Nat.add_sub_cancel, List.set_append_right _ _ (by omega),
      Nat.add_sub_cancel]
    exact .option notEol notNop notMss size ih

end MssAt

theorem u16FromBeBytes_bytes (word : UInt16) : u16FromBeBytes (highByte word) (lowByte word) = word := by
  apply UInt16.toNat_inj.mp
  rw [u16FromBeBytes_toNat, highByte_toNat, lowByte_toNat]
  omega

section Rewritten

variable {packet : List UInt8} {targetMss value : UInt16} {headerLen cursor offset : Nat}

theorem optionsFrom_set_before {i : Nat} (byte : UInt8) (before : i < cursor) :
    optionsFrom (packet.set i byte) headerLen cursor = optionsFrom packet headerLen cursor := by
  rw [optionsFrom, optionsFrom, List.take_set, List.drop_set, if_pos before]

theorem optionsFrom_set (packet : List UInt8) (headerLen cursor i : Nat) (byte : UInt8) :
    optionsFrom (packet.set (cursor + i) byte) headerLen cursor = (optionsFrom packet headerLen cursor).set i byte := by
  rw [optionsFrom, optionsFrom, List.take_set, List.drop_set, if_neg (by omega), Nat.add_sub_cancel_left]

theorem optionsFrom_rewriteMss :
    optionsFrom (rewriteMss packet targetMss (tcpMinHeaderLen + offset)) headerLen tcpMinHeaderLen =
      ((optionsFrom packet headerLen tcpMinHeaderLen).set (offset + 2) (highByte targetMss)).set (offset + 3)
        (lowByte targetMss) := by
  rw [rewriteMss, optionsFrom_set_before _ (by decide), optionsFrom_set_before _ (by decide), Nat.add_assoc,
    Nat.add_assoc, optionsFrom_set, optionsFrom_set]

theorem length_rewriteMss : (rewriteMss packet targetMss cursor).length = packet.length := by
  rw [rewriteMss, List.length_set, List.length_set, List.length_set, List.length_set]

/-- The header bytes that steer the call are not rewritten. -/
theorem rewriteMss_header (behind : tcpMinHeaderLen ≤ cursor) :
    byteAt (rewriteMss packet targetMss cursor) tcpFlagsOffset = byteAt packet tcpFlagsOffset ∧
      byteAt (rewriteMss packet targetMss cursor) tcpDataOffsetByte = byteAt packet tcpDataOffsetByte := by
  have header : tcpMinHeaderLen = 20 := rfl
  have flagsOffset : tcpFlagsOffset = 13 := rfl
  have dataOffset : tcpDataOffsetByte = 12 := rfl
  exact ⟨byteAt_rewriteMss (by omega) (by decide), byteAt_rewriteMss (by omega) (by decide)⟩

/-- Afterwards the first MSS option stands where it stood and holds the target. -/
theorem MssAbove.rewritten (large : MssAbove packet targetMss offset value) :
    IsSyn (rewriteMss packet targetMss (tcpMinHeaderLen + offset)) ∧
      HeaderFits (rewriteMss packet targetMss (tcpMinHeaderLen + offset)) ∧
      MssAt (tcpOptions (rewriteMss packet targetMss (tcpMinHeaderLen + offset))) offset targetMss := by
  obtain ⟨flags, dataOffset⟩ := @rewriteMss_header packet targetMss (tcpMinHeaderLen + offset) (Nat.le_add_right _ _)
  have headerLen : tcpHeaderLen (rewriteMss packet targetMss (tcpMinHeaderLen + offset)) = tcpHeaderLen packet := by
    rw [tcpHeaderLen, tcpHeaderLen, dataOffset]
  refine ⟨?_, ?_, ?_⟩
  · rw [IsSyn, flags]
    exact large.syn
  · rw [HeaderFits, headerLen, length_rewriteMss]
    exact large.fits
  · have written := large.reading.set (highByte targetMss) (lowByte targetMss)
    rw [u16FromBeBytes_bytes] at written
    rw [tcpOptions, headerLen, optionsFrom_rewriteMss]
    exact written

end Rewritten

/-- All that a call can do. -/
inductive ClampResult (packet : List UInt8) (targetMss : UInt16) : Except TunError Bool × List UInt8 → Prop
  | rejects {err} : Rejected packet → ClampResult packet targetMss (.error err, packet)
  | passes : ¬ Rejected packet → (∀ offset value, ¬ MssAbove packet targetMss offset value) →
      ClampResult packet targetMss (.ok false, packet)
  | rewrites {offset value} : MssAbove packet targetMss offset value →
      ClampResult packet targetMss (.ok true, rewriteMss packet targetMss (tcpMinHeaderLen + offset))

section

variable {packet : List UInt8} {targetMss value found : UInt16} {offset other : Nat}

theorem MssAbove.unique (large : MssAbove packet targetMss offset value)
    (again : MssAbove packet targetMss other found) : offset = other ∧ value = found :=
  large.reading.unique again.reading

theorem MssAbove.not_rejected (large : MssAbove packet targetMss offset value) : ¬ Rejected packet := by
  rintro (short | ⟨_, misfits | bad⟩)
  · have long := large.fits.1.trans large.fits.2
    omega
  · exact misfits large.fits
  · exact large.reading.not_malformed bad

end

theorem clampTcpMss_result (packet : List UInt8) (targetMss : UInt16) :
    ClampResult packet targetMss (clampTcpMss packet targetMss) := by
  rw [clampTcpMss]
  by_cases short : packet.length < tcpMinHeaderLen
  · rw [if_pos short]
    exact .rejects (Or.inl short)
  · rw [if_neg short]
    dsimp only
    by_cases notSyn : byteAt packet tcpFlagsOffset &&& tcpFlagSyn = 0
    · rw [if_pos notSyn]
      refine .passes ?_ fun offset value large => large.syn notSyn
      rintro (tooShort | ⟨syn, _⟩)
      · exact short tooShort
      · exact syn notSyn
    · rw [if_neg notSyn]
      by_cases outOfRange : (byteAt packet tcpDataOffsetByte >>> 4).toNat * 4 < tcpMinHeaderLen ∨
          packet.length < (byteAt packet tcpDataOffsetByte >>> 4).toNat * 4
      · rw [if_pos outOfRange]
        refine .rejects (Or.inr ⟨notSyn, Or.inl fun fits => ?_⟩)
        obtain ⟨lower, upper⟩ := fits
        rw [tcpHeaderLen] at lower upper
        omega
      · rw [if_neg outOfRange]
        have fits : HeaderFits packet := by
          rw [HeaderFits, tcpHeaderLen]
          omega
        have walked := @walkOptions_result packet targetMss (tcpHeaderLen packet) tcpMinHeaderLen fits.2
        rw [tcpHeaderLen] at walked
        generalize walkOptions packet targetMss _ tcpMinHeaderLen = result at walked ⊢
        cases walked with
        | fails bad => exact .rejects (Or.inr ⟨notSyn, Or.inr bad⟩)
        | clear formed small =>
          refine .passes ?_ fun offset value large => ?_
          · rintro (tooShort | ⟨_, misfits | bad⟩)
            · exact short tooShort
            · exact misfits fits
            · exact formed bad
          · exact absurd (small offset value large.reading) (UInt16.not_le.mpr large.above)
        | rewrites inside reading above => exact .rewrites ⟨notSyn, fits, reading, above⟩

/-- What a call owes: it fails on exactly the rejected segments and rewrites
exactly the values above the target, and after a call that did not fail there is
nothing left to do. -/
structure ClampsExactly (packet : List UInt8) (targetMss : UInt16) (result : Except TunError Bool × List UInt8) :
    Prop where
  fails : (∃ err, result.1 = .error err) ↔ Rejected packet
  failed : ∀ err, result.1 = .error err → result.2 = packet
  rewrites : result.1 = .ok true ↔ ∃ offset value, MssAbove packet targetMss offset value
  rewritten : ∀ offset value, MssAbove packet targetMss offset value →
    MssAt (tcpOptions result.2) offset targetMss ∧ result.2.length = packet.length ∧
      ∀ i, i ≠ tcpMinHeaderLen + offset + 2 → i ≠ tcpMinHeaderLen + offset + 3 → i ≠ tcpChecksumOffset →
        i ≠ tcpChecksumOffset + 1 → result.2[i]? = packet[i]?
  passes : ¬ Rejected packet → (∀ offset value, ¬ MssAbove packet targetMss offset value) →
    result = (.ok false, packet)
  settled : ∀ found, result.1 = .ok found → clampTcpMss result.2 targetMss = (.ok false, result.2)

theorem rewriteMss_getElem? {packet : List UInt8} {targetMss : UInt16} {cursor i : Nat} (notHigh : i ≠ cursor + 2)
    (notLow : i ≠ cursor + 3) (notCheckHigh : i ≠ tcpChecksumOffset) (notCheckLow : i ≠ tcpChecksumOffset + 1) :
    (rewriteMss packet targetMss cursor)[i]? = packet[i]? := by
  rw [rewriteMss, List.getElem?_set_ne notCheckLow.symm, List.getElem?_set_ne notCheckHigh.symm,
    List.getElem?_set_ne notLow.symm, List.getElem?_set_ne notHigh.symm]

/-- A call on a segment that needs no change. -/
theorem clampTcpMss_passes {packet : List UInt8} {targetMss : UInt16} (accepted : ¬ Rejected packet)
    (small : ∀ offset value, ¬ MssAbove packet targetMss offset value) :
    clampTcpMss packet targetMss = (.ok false, packet) := by
  have result := clampTcpMss_result packet targetMss
  generalize clampTcpMss packet targetMss = made at result ⊢
  cases result with
  | rejects rejected => exact absurd rejected accepted
  | passes => rfl
  | rewrites large => exact absurd large (small _ _)

/-- A rewritten segment needs no change. -/
theorem clampTcpMss_rewritten {packet : List UInt8} {targetMss value : UInt16} {offset : Nat}
    (large : MssAbove packet targetMss offset value) :
    clampTcpMss (rewriteMss packet targetMss (tcpMinHeaderLen + offset)) targetMss =
      (.ok false, rewriteMss packet targetMss (tcpMinHeaderLen + offset)) := by
  obtain ⟨_, fits, reading⟩ := large.rewritten
  apply clampTcpMss_passes
  · rintro (short | ⟨_, misfits | bad⟩)
    · have long := fits.1.trans fits.2
      omega
    · exact misfits fits
    · exact reading.not_malformed bad
  · intro other found again
    obtain ⟨_, rfl⟩ := reading.unique again.reading
    exact absurd again.above (UInt16.lt_irrefl _)

theorem clampTcpMss_clampsExactly (packet : List UInt8) (targetMss : UInt16) :
    ClampsExactly packet targetMss (clampTcpMss packet targetMss) := by
  have result := clampTcpMss_result packet targetMss
  generalize made : clampTcpMss packet targetMss = first at result ⊢
  cases result with
  | @rejects err rejected =>
    have small (offset : Nat) (value : UInt16) (large : MssAbove packet targetMss offset value) : False :=
      large.not_rejected rejected
    constructor
    case fails => exact iff_of_true ⟨err, rfl⟩ rejected
    case failed => exact fun _ _ => rfl
    case rewrites => exact iff_of_false nofun fun ⟨offset, value, large⟩ => small offset value large
    case rewritten => exact fun offset value large => (small offset value large).elim
    case passes => exact fun accepted => absurd rejected accepted
    case settled => exact fun found answer => by cases answer
  | passes accepted small =>
    constructor
    case fails => exact iff_of_false nofun accepted
    case failed => exact fun err answer => by cases answer
    case rewrites => exact iff_of_false (by simp) fun ⟨offset, value, large⟩ => small offset value large
    case rewritten => exact fun offset value large => absurd large (small offset value)
    case passes => exact fun _ _ => rfl
    case settled => exact fun _ _ => made
  | @rewrites offset value large =>
    constructor
    case fails => exact iff_of_false nofun large.not_rejected
    case failed => exact fun err answer => by cases answer
    case rewrites => exact iff_of_true rfl ⟨offset, value, large⟩
    case rewritten =>
      intro other found again
      obtain ⟨rfl, rfl⟩ := again.unique large
      exact ⟨large.rewritten.2.2, length_rewriteMss, fun i => rewriteMss_getElem?⟩
    case passes => exact fun _ small => absurd large (small offset value)
    case settled => exact fun _ _ => clampTcpMss_rewritten large

/-- The call touches no byte outside the buffer and does exactly what the
grammar of the options asks. -/
theorem clampTcpMss_exact (packet : List UInt8) (targetMss : UInt16) :
    clampTcpMssChecked packet targetMss = some (clampTcpMss packet targetMss) ∧
      ClampsExactly packet targetMss (clampTcpMss packet targetMss) :=
  ⟨clampTcpMssChecked_eq packet targetMss, clampTcpMss_clampsExactly packet targetMss⟩

/-- A segment that is rejected is rejected again. -/
theorem clampTcpMss_again_rejects :
    clampTcpMss (clampTcpMss [] 1280).2 1280 ≠ (.ok false, (clampTcpMss [] 1280).2) := by
  decide

end BiBeam
