import BiBeam.Tun.Mtu

namespace BiBeam

/-- The first MSS option of an option area stands at an offset and holds a
value: before it stand no-operations and other options of any length. -/
inductive MssAt : List UInt8 → Nat → UInt16 → Prop
  | here {high low rest} : MssAt (tcpOptMss :: tcpOptMssLen :: high :: low :: rest) 0 (u16FromBeBytes high low)
  | nop {area offset value} : MssAt area offset value → MssAt (tcpOptNop :: area) (offset + 1) value
  | option {kind length body area offset value} : kind ≠ tcpOptEol → kind ≠ tcpOptNop → kind ≠ tcpOptMss →
      length.toNat = body.length + 2 → MssAt area offset value →
      MssAt (kind :: length :: (body ++ area)) (offset + length.toNat) value

namespace MssAt

variable {area : List UInt8} {offset other : Nat} {value found : UInt16}

theorem not_nil : ¬ MssAt [] offset value := by
  intro reading
  cases reading

theorem not_eol : ¬ MssAt (tcpOptEol :: area) offset value := by
  intro reading
  generalize whole : tcpOptEol :: area = all at reading
  cases reading with
  | here => cases whole
  | nop => cases whole
  | option apart => exact apart (List.cons.inj whole).1.symm

theorem of_nop (reading : MssAt (tcpOptNop :: area) offset value) :
    ∃ before, offset = before + 1 ∧ MssAt area before value := by
  generalize whole : tcpOptNop :: area = all at reading
  cases reading with
  | here => cases whole
  | nop later => exact ⟨_, rfl, (List.cons.inj whole).2 ▸ later⟩
  | option _ apart => exact absurd (List.cons.inj whole).1.symm apart

theorem of_mss {high low length : UInt8} {rest : List UInt8}
    (reading : MssAt (tcpOptMss :: length :: high :: low :: rest) offset value) :
    offset = 0 ∧ value = u16FromBeBytes high low := by
  generalize whole : tcpOptMss :: length :: high :: low :: rest = all at reading
  cases reading with
  | here =>
    simp only [List.cons.injEq] at whole
    obtain ⟨_, _, rfl, rfl, _⟩ := whole
    exact ⟨rfl, rfl⟩
  | nop => cases whole
  | option _ _ apart => exact absurd (List.cons.inj whole).1.symm apart

theorem of_option {kind length : UInt8} {body : List UInt8} (notNop : kind ≠ tcpOptNop) (notMss : kind ≠ tcpOptMss)
    (size : length.toNat = body.length + 2) (reading : MssAt (kind :: length :: (body ++ area)) offset value) :
    ∃ before, offset = before + length.toNat ∧ MssAt area before value := by
  generalize whole : kind :: length :: (body ++ area) = all at reading
  cases reading with
  | here => exact absurd (List.cons.inj whole).1 notMss
  | nop => exact absurd (List.cons.inj whole).1 notNop
  | option _ _ _ sameSize later =>
    simp only [List.cons.injEq] at whole
    obtain ⟨rfl, rfl, tail⟩ := whole
    obtain ⟨_, rfl⟩ := List.append_inj tail (by omega)
    exact ⟨_, rfl, later⟩

theorem unique (reading : MssAt area offset value) (again : MssAt area other found) : offset = other ∧ value = found := by
  induction reading generalizing other with
  | here =>
    obtain ⟨rfl, rfl⟩ := again.of_mss
    exact ⟨rfl, rfl⟩
  | nop _ ih =>
    obtain ⟨before, rfl, later⟩ := again.of_nop
    exact (ih later).imp_left (congrArg (· + 1))
  | option _ notNop notMss size _ ih =>
    obtain ⟨before, rfl, later⟩ := again.of_option notNop notMss size
    exact (ih later).imp_left (congrArg (· + _))

end MssAt

/-- An option without a valid length, or an MSS option of another length than
four, is reached before the list ends or a well-formed MSS option is found. -/
inductive Malformed : List UInt8 → Prop
  | cut {kind} : kind ≠ tcpOptEol → kind ≠ tcpOptNop → Malformed [kind]
  | short {kind length rest} : kind ≠ tcpOptEol → kind ≠ tcpOptNop → length.toNat < 2 →
      Malformed (kind :: length :: rest)
  | overrun {kind length rest} : kind ≠ tcpOptEol → kind ≠ tcpOptNop → rest.length + 2 < length.toNat →
      Malformed (kind :: length :: rest)
  | mss {length rest} : length ≠ tcpOptMssLen → Malformed (tcpOptMss :: length :: rest)
  | nop {area} : Malformed area → Malformed (tcpOptNop :: area)
  | option {kind length body area} : kind ≠ tcpOptEol → kind ≠ tcpOptNop → kind ≠ tcpOptMss →
      length.toNat = body.length + 2 → Malformed area → Malformed (kind :: length :: (body ++ area))

namespace Malformed

variable {area : List UInt8} {offset : Nat} {value : UInt16}

theorem not_nil : ¬ Malformed [] := by
  intro bad
  cases bad

theorem not_eol : ¬ Malformed (tcpOptEol :: area) := by
  intro bad
  generalize whole : tcpOptEol :: area = all at bad
  cases bad with
  | cut apart | short apart | overrun apart | option apart => exact apart (List.cons.inj whole).1.symm
  | mss | nop => cases whole

theorem nop_iff : Malformed (tcpOptNop :: area) ↔ Malformed area := by
  refine ⟨fun bad => ?_, .nop⟩
  generalize whole : tcpOptNop :: area = all at bad
  cases bad with
  | cut _ apart | short _ apart | overrun _ apart | option _ apart => exact absurd (List.cons.inj whole).1.symm apart
  | mss => cases whole
  | nop later => exact (List.cons.inj whole).2 ▸ later

theorem not_mss {high low : UInt8} {rest : List UInt8} :
    ¬ Malformed (tcpOptMss :: tcpOptMssLen :: high :: low :: rest) := by
  intro bad
  generalize whole : tcpOptMss :: tcpOptMssLen :: high :: low :: rest = all at bad
  cases bad with
  | cut => cases whole
  | short _ _ small =>
    simp only [List.cons.injEq] at whole
    rw [← whole.2.1] at small
    exact absurd small (by decide)
  | overrun _ _ large =>
    simp only [List.cons.injEq] at whole
    rw [← whole.2.1, ← whole.2.2, tcpOptMssLen] at large
    exact absurd large (by simp)
  | mss apart => exact apart (List.cons.inj (List.cons.inj whole).2).1.symm
  | nop => cases whole
  | option _ _ apart => exact apart (List.cons.inj whole).1.symm

theorem option_iff {kind length : UInt8} {body : List UInt8} (notEol : kind ≠ tcpOptEol) (notNop : kind ≠ tcpOptNop)
    (notMss : kind ≠ tcpOptMss) (size : length.toNat = body.length + 2) :
    Malformed (kind :: length :: (body ++ area)) ↔ Malformed area := by
  refine ⟨fun bad => ?_, .option notEol notNop notMss size⟩
  generalize whole : kind :: length :: (body ++ area) = all at bad
  cases bad with
  | cut => cases whole
  | short _ _ small =>
    simp only [List.cons.injEq] at whole
    obtain ⟨_, rfl, _⟩ := whole
    omega
  | overrun _ _ large =>
    simp only [List.cons.injEq] at whole
    obtain ⟨_, rfl, rfl⟩ := whole
    rw [List.length_append] at large
    omega
  | mss => exact absurd (List.cons.inj whole).1 notMss
  | nop => exact absurd (List.cons.inj whole).1 notNop
  | option _ _ _ sameSize later =>
    simp only [List.cons.injEq] at whole
    obtain ⟨rfl, rfl, tail⟩ := whole
    obtain ⟨_, rfl⟩ := List.append_inj tail (by omega)
    exact later

end Malformed

/-- No option before the first MSS option of an area is in the way. -/
theorem MssAt.not_malformed {area : List UInt8} {offset : Nat} {value : UInt16} (reading : MssAt area offset value) :
    ¬ Malformed area := by
  induction reading with
  | here => exact Malformed.not_mss
  | nop _ ih => rwa [Malformed.nop_iff]
  | option notEol notNop notMss size _ ih => rwa [Malformed.option_iff notEol notNop notMss size]

end BiBeam
