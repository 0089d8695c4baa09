import BiBeam.Tun.TcpOptions

namespace BiBeam

/-- The options from a cursor to the end of the header. -/
def optionsFrom (packet : List UInt8) (headerLen cursor : Nat) : List UInt8 :=
  (packet.take headerLen).drop cursor

section Walk

variable {packet : List UInt8} {targetMss : UInt16} {headerLen cursor : Nat}

theorem optionsFrom_cons (fits : headerLen ≤ packet.length) (inside : cursor < headerLen) :
    optionsFrom packet headerLen cursor = byteAt packet cursor :: optionsFrom packet headerLen (cursor + 1) := by
  have long : cursor < (packet.take headerLen).length := by
    rw [List.length_take]
    omega
  rw [optionsFrom, List.drop_eq_getElem_cons long, List.getElem_take, byteAt, List.getD_eq_getElem?_getD,
    List.getElem?_eq_getElem (by omega), Option.getD_some]
  rfl

theorem optionsFrom_end (done : headerLen ≤ cursor) : optionsFrom packet headerLen cursor = [] := by
  rw [optionsFrom, List.drop_eq_nil_iff, List.length_take]
  omega

/-- A stretch of the options is cut off the rest. -/
theorem optionsFrom_add (length : Nat) : optionsFrom packet headerLen cursor =
    (optionsFrom packet headerLen cursor).take length ++ optionsFrom packet headerLen (cursor + length) := by
  have later : optionsFrom packet headerLen (cursor + length) = (optionsFrom packet headerLen cursor).drop length := by
    rw [optionsFrom, optionsFrom, List.drop_drop]
  rw [later, List.take_append_drop]

theorem length_optionsFrom (fits : headerLen ≤ packet.length) :
    (optionsFrom packet headerLen cursor).length = headerLen - cursor := by
  rw [optionsFrom, List.length_drop, List.length_take]
  omega

/-- An MSS option at the cursor with its four bytes. -/
theorem optionsFrom_mss (fits : headerLen ≤ packet.length) (inside : cursor + 4 ≤ headerLen)
    (isMss : byteAt packet cursor = tcpOptMss) (sized : (byteAt packet (cursor + 1)).toNat = tcpOptMssLen.toNat) :
    optionsFrom packet headerLen cursor = tcpOptMss :: tcpOptMssLen :: byteAt packet (cursor + 2) ::
      byteAt packet (cursor + 3) :: optionsFrom packet headerLen (cursor + 4) := by
  rw [optionsFrom_cons fits (by omega), isMss, optionsFrom_cons fits (by omega), UInt8.toNat_inj.mp sized,
    optionsFrom_cons fits (by omega), optionsFrom_cons fits (by omega)]

/-- Any other option at the cursor with the bytes that its length covers. -/
theorem optionsFrom_option (fits : headerLen ≤ packet.length) (long : 2 ≤ (byteAt packet (cursor + 1)).toNat)
    (inside : cursor + (byteAt packet (cursor + 1)).toNat ≤ headerLen) :
    ∃ body, (byteAt packet (cursor + 1)).toNat = body.length + 2 ∧ optionsFrom packet headerLen cursor =
      byteAt packet cursor :: byteAt packet (cursor + 1) ::
        (body ++ optionsFrom packet headerLen (cursor + (byteAt packet (cursor + 1)).toNat)) := by
  refine ⟨(optionsFrom packet headerLen (cursor + 2)).take ((byteAt packet (cursor + 1)).toNat - 2), ?_, ?_⟩
  · rw [List.length_take, length_optionsFrom fits]
    omega
  · have rest := @optionsFrom_add packet headerLen (cursor + 2) ((byteAt packet (cursor + 1)).toNat - 2)
    have next : cursor + 2 + ((byteAt packet (cursor + 1)).toNat - 2) = cursor + (byteAt packet (cursor + 1)).toNat := by
      omega
    rw [next] at rest
    rw [optionsFrom_cons fits (by omega), optionsFrom_cons fits (by omega), ← rest]

/-- All that a walk over the options can do: it fails at a malformed area, it
finds no option that is too large, or it rewrites the first MSS option. -/
inductive WalkResult (packet : List UInt8) (targetMss : UInt16) (headerLen cursor : Nat) :
    Except TunError Bool × List UInt8 → Prop
  | fails {err} : Malformed (optionsFrom packet headerLen cursor) →
      WalkResult packet targetMss headerLen cursor (.error err, packet)
  | clear : ¬ Malformed (optionsFrom packet headerLen cursor) →
      (∀ offset value, MssAt (optionsFrom packet headerLen cursor) offset value → value ≤ targetMss) →
      WalkResult packet targetMss headerLen cursor (.ok false, packet)
  | rewrites {offset} : cursor + offset + 4 ≤ headerLen →
      MssAt (optionsFrom packet headerLen cursor) offset
        (u16FromBeBytes (byteAt packet (cursor + offset + 2)) (byteAt packet (cursor + offset + 3))) →
      targetMss < u16FromBeBytes (byteAt packet (cursor + offset + 2)) (byteAt packet (cursor + offset + 3)) →
      WalkResult packet targetMss headerLen cursor (.ok true, rewriteMss packet targetMss (cursor + offset))

/-- An option that the walk skips changes nothing but offsets. -/
theorem WalkResult.skip {length : Nat} {result : Except TunError Bool × List UInt8}
    (walked : WalkResult packet targetMss headerLen (cursor + length) result)
    (bad : Malformed (optionsFrom packet headerLen cursor) ↔
      Malformed (optionsFrom packet headerLen (cursor + length)))
    (push : ∀ offset value, MssAt (optionsFrom packet headerLen (cursor + length)) offset value →
      MssAt (optionsFrom packet headerLen cursor) (offset + length) value)
    (pop : ∀ offset value, MssAt (optionsFrom packet headerLen cursor) offset value →
      ∃ before, MssAt (optionsFrom packet headerLen (cursor + length)) before value) :
    WalkResult packet targetMss headerLen cursor result := by
  cases walked with
  | fails malformed => exact .fails (bad.mpr malformed)
  | clear formed small =>
    refine .clear (mt bad.mp formed) fun offset value reading => ?_
    obtain ⟨before, later⟩ := pop offset value reading
    exact small before value later
  | @rewrites offset inside reading above =>
    have same : cursor + length + offset = cursor + (offset + length) := by omega
    rw [same] at inside reading above ⊢
    exact .rewrites inside (push _ _ reading) above

theorem walkOptions_result (fits : headerLen ≤ packet.length) :
    WalkResult packet targetMss headerLen cursor (walkOptions packet targetMss headerLen cursor) := by
  fun_induction walkOptions packet targetMss headerLen cursor with
  | case1 cursor inside kind isEol =>
    have area := optionsFrom_cons fits inside
    rw [show byteAt packet cursor = tcpOptEol from isEol] at area
    refine .clear ?_ fun offset value reading => ?_
    · rw [area]
      exact Malformed.not_eol
    · rw [area] at reading
      exact absurd reading MssAt.not_eol
  | case2 cursor inside kind notEol isNop ih =>
    have area := optionsFrom_cons fits inside
    rw [show byteAt packet cursor = tcpOptNop from isNop] at area
    refine ih.skip ?_ (fun offset value reading => ?_) fun offset value reading => ?_
    · rw [area, Malformed.nop_iff]
    · rw [area]
      exact .nop reading
    · rw [area] at reading
      obtain ⟨before, _, later⟩ := reading.of_nop
      exact ⟨before, later⟩
  | case3 cursor inside kind notEol notNop noLength =>
    refine .fails ?_
    rw [optionsFrom_cons fits inside, optionsFrom_end noLength]
    exact .cut notEol notNop
  | case4 cursor inside kind notEol notNop hasLength optLen overruns =>
    refine .fails ?_
    rw [optionsFrom_cons fits inside, optionsFrom_cons fits (by omega)]
    rcases overruns with small | large
    · exact .short notEol notNop small
    · refine .overrun notEol notNop ?_
      rw [length_optionsFrom fits]
      omega
  | case5 cursor inside kind notEol notNop hasLength optLen fitting isMss missized =>
    refine .fails ?_
    rw [optionsFrom_cons fits inside, optionsFrom_cons fits (by omega),
      show byteAt packet cursor = tcpOptMss from isMss]
    exact .mss fun same => missized (congrArg UInt8.toNat same)
  | case6 cursor inside kind notEol notNop hasLength optLen fitting isMss sized current small =>
    have four : optLen = 4 := not_not.mp sized
    have area := optionsFrom_mss fits (by omega) isMss (not_not.mp sized)
    refine .clear ?_ fun offset value reading => ?_
    · rw [area]
      exact Malformed.not_mss
    · rw [area] at reading
      rwa [reading.of_mss.2]
  | case7 cursor inside kind notEol notNop hasLength optLen fitting isMss sized current large =>
    have four : optLen = 4 := not_not.mp sized
    refine @WalkResult.rewrites packet targetMss headerLen cursor 0 (by omega) ?_ (UInt16.not_le.mp large)
    rw [optionsFrom_mss fits (by omega) isMss (not_not.mp sized)]
    exact .here
  | case8 cursor inside kind notEol notNop hasLength optLen fitting notMss ih =>
    obtain ⟨body, size, area⟩ := @optionsFrom_option packet headerLen cursor fits (by omega) (by omega)
    refine ih.skip ?_ (fun offset value reading => ?_) fun offset value reading => ?_
    · rw [area, Malformed.option_iff notEol notNop notMss size]
    · rw [area]
      exact .option notEol notNop notMss size reading
    · rw [area] at reading
      obtain ⟨before, _, later⟩ := reading.of_option notNop notMss size
      exact ⟨before, later⟩
  | case9 cursor done =>
    have area := @optionsFrom_end packet headerLen cursor (Nat.le_of_not_lt done)
    refine .clear ?_ fun offset value reading => ?_
    · rw [area]
      exact Malformed.not_nil
    · rw [area] at reading
      exact absurd reading MssAt.not_nil

end Walk

end BiBeam
