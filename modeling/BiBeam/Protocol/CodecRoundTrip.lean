import BiBeam.Protocol.Codec

namespace BiBeam

/-- The address holds nothing that its wire form leaves out. -/
def SocketAddr.Plain : SocketAddr → Prop
  | .v4 _ _ => True
  | .v6 _ _ flowinfo scopeId => flowinfo = 0 ∧ scopeId = 0

def MultiHopAssignment.Plain (assignment : MultiHopAssignment) : Prop :=
  (∀ lease ∈ assignment.forwarderChain, lease.allowedSrc.Plain ∧ lease.allowedDst.Plain) ∧
    assignment.clientWgConfig.peerEndpoint.Plain

def ControlMessage.Survives : ControlMessage → Prop
  | .register hello => hello.addrHint.Plain
  | .matchResponse (.multiHopAssignment assignment) => assignment.forwarderChain ≠ [] ∧ assignment.Plain
  | _ => True

/-- The frames that come back as they were sent: no empty chain, and no flow
information or scope in an address. -/
def Frame.Survives : Frame → Prop
  | .control message => message.Survives
  | _ => True

theorem socketAddr_keeps_iff (addr : SocketAddr) : socketAddr.Keeps addr ↔ addr.Plain := by
  cases addr with
  | v4 ip port => exact ⟨fun _ => trivial, fun _ => rfl⟩
  | v6 ip port flowinfo scopeId =>
    change Except.ok (SocketAddr.v6 ip port 0 0) = Except.ok (.v6 ip port flowinfo scopeId) ↔ _
    rw [Except.ok.injEq, SocketAddr.v6.injEq]
    constructor
    · rintro ⟨_, _, rfl, rfl⟩
      exact ⟨rfl, rfl⟩
    · rintro ⟨rfl, rfl⟩
      exact ⟨rfl, rfl, rfl, rfl⟩

theorem socketAddr_back (addr : SocketAddr) : ∃ back, socketAddr.back addr = .ok back := by
  cases addr <;> exact ⟨_, rfl⟩

theorem ipNet_keeps (block : IpNet) : ipNet.Keeps block := by
  cases block <;> rfl

theorem wgPeerConfig_keeps_iff (config : WgPeerConfig) : wgPeerConfig.Keeps config ↔ config.peerEndpoint.Plain := by
  have blocks : (postcard.sequence ipNet).Keeps config.allowedIps :=
    postcard.sequence_keeps_iff.mpr fun block _ => ipNet_keeps block
  rw [wgPeerConfig, Wire.as_keeps_iff (fun _ => rfl) (fun _ => rfl)]
  simp only [Wire.pair_keeps_iff, socketAddr_keeps_iff]
  exact ⟨fun keeps => keeps.2.2.1, fun plain => ⟨rfl, rfl, plain, blocks, rfl⟩⟩

namespace WireTexts

variable (texts : WireTexts)

theorem forwarderLease_keeps_iff (lease : ForwarderLease) :
    texts.forwarderLease.Keeps lease ↔ lease.allowedSrc.Plain ∧ lease.allowedDst.Plain := by
  rw [forwarderLease, Wire.as_keeps_iff (fun _ => rfl) (fun _ => rfl)]
  simp only [Wire.pair_keeps_iff, socketAddr_keeps_iff]
  exact ⟨fun keeps => ⟨keeps.2.2.1, keeps.2.2.2.1⟩, fun plain => ⟨rfl, rfl, plain.1, plain.2, rfl⟩⟩

theorem register_keeps_iff (register : Register) : texts.register.Keeps register ↔ register.addrHint.Plain := by
  rw [WireTexts.register, Wire.as_keeps_iff (fun _ => rfl) (fun _ => rfl)]
  simp only [Wire.pair_keeps_iff, socketAddr_keeps_iff]
  exact ⟨fun keeps => keeps.2.1, fun plain => ⟨rfl, plain, rfl, rfl, rfl⟩⟩

theorem nodeIds_keep (ids : List NodeId) : (postcard.sequence texts.nodeId).Keeps ids :=
  postcard.sequence_keeps_iff.mpr fun _ _ => rfl

theorem singleHopMatch_keeps (single : SingleHopMatch) : texts.singleHopMatch.Keeps single := by
  rw [singleHopMatch, Wire.as_keeps_iff (fun _ => rfl) (fun _ => rfl)]
  simp only [Wire.pair_keeps_iff]
  exact ⟨rfl, texts.nodeIds_keep _, rfl, rfl⟩

theorem cohortLive_keeps (live : CohortLive) : texts.cohortLive.Keeps live := by
  have members : (postcard.sequence texts.peerId).Keeps live.members :=
    postcard.sequence_keeps_iff.mpr fun _ _ => rfl
  rw [cohortLive, Wire.as_keeps_iff (fun _ => rfl) (fun _ => rfl)]
  simp only [Wire.pair_keeps_iff]
  exact ⟨rfl, members, texts.nodeIds_keep _, rfl, rfl⟩

/-- The twin of an assignment on the wire. -/
def twin (assignment : MultiHopAssignment) : MultiHopAssignmentWire :=
  ⟨assignment.exit, assignment.forwarderChain, assignment.clientWgConfig⟩

theorem twin_keeps_iff (assignment : MultiHopAssignment) :
    texts.multiHopAssignmentWire.Keeps (twin assignment) ↔ assignment.Plain := by
  rw [multiHopAssignmentWire, Wire.as_keeps_iff (fun _ => rfl) (fun _ => rfl)]
  simp only [Wire.pair_keeps_iff, Postcard.sequence_keeps_iff, forwarderLease_keeps_iff, wgPeerConfig_keeps_iff]
  exact ⟨fun keeps => keeps.2, fun plain => ⟨rfl, plain⟩⟩

theorem tryFrom_eq_ok_iff {wire : MultiHopAssignmentWire} {assignment : MultiHopAssignment} :
    MultiHopAssignment.tryFrom wire = .ok assignment ↔ wire = twin assignment ∧ assignment.forwarderChain ≠ [] := by
  rw [MultiHopAssignment.tryFrom]
  split
  · rename_i empty
    refine ⟨fun same => ?_, fun both => ?_⟩
    · cases same
    · rw [both.1] at empty
      exact absurd (List.isEmpty_iff.mp empty) both.2
  · rename_i some
    constructor
    · intro same
      cases Except.ok.inj same
      exact ⟨rfl, fun empty => some (List.isEmpty_iff.mpr empty)⟩
    · rintro ⟨rfl, _⟩
      rfl

theorem multiHopAssignment_keeps_iff (assignment : MultiHopAssignment) :
    texts.multiHopAssignment.Keeps assignment ↔ assignment.forwarderChain ≠ [] ∧ assignment.Plain := by
  have accepts : ∀ wire, (MultiHopAssignment.tryFrom wire).mapError (fun _ => postcard.deCustom) = .ok assignment ↔
      MultiHopAssignment.tryFrom wire = .ok assignment := by
    intro wire
    cases MultiHopAssignment.tryFrom wire with
    | error err => exact ⟨fun same => (by cases same), fun same => (by cases same)⟩
    | ok found => exact ⟨fun same => congrArg Except.ok (Except.ok.inj same),
        fun same => congrArg Except.ok (Except.ok.inj same)⟩
  change (texts.multiHopAssignmentWire.back (twin assignment) >>= fun wire =>
    (MultiHopAssignment.tryFrom wire).mapError fun _ => postcard.deCustom) = .ok assignment ↔ _
  simp only [Except.bind_eq_ok_iff, accepts, tryFrom_eq_ok_iff]
  rw [← texts.twin_keeps_iff]
  constructor
  · rintro ⟨wire, back, rfl, long⟩
    exact ⟨long, back⟩
  · exact fun both => ⟨twin assignment, both.2, rfl, both.1⟩

theorem matchResponse_keeps_iff (response : MatchResponse) : texts.matchResponse.Keeps response ↔
    ∀ assignment, response = .multiHopAssignment assignment → assignment.forwarderChain ≠ [] ∧ assignment.Plain := by
  cases response with
  | singleHop single =>
    have keeps : texts.matchResponse.Keeps (.singleHop single) ↔ texts.singleHopMatch.Keeps single :=
      postcard.enumeration_keeps_iff rfl rfl fun _ => by rw [MatchResponse.singleHop.injEq]
    exact keeps.trans ⟨fun _ _ same => (by cases same), fun _ => texts.singleHopMatch_keeps single⟩
  | multiHopAssignment assignment =>
    have keeps : texts.matchResponse.Keeps (.multiHopAssignment assignment) ↔
        texts.multiHopAssignment.Keeps assignment :=
      postcard.enumeration_keeps_iff rfl rfl fun _ => by rw [MatchResponse.multiHopAssignment.injEq]
    rw [keeps, multiHopAssignment_keeps_iff]
    exact ⟨fun both other same => MatchResponse.multiHopAssignment.inj same ▸ both, fun both => both assignment rfl⟩

theorem controlMessage_keeps_iff (message : ControlMessage) :
    texts.controlMessage.Keeps message ↔ message.Survives := by
  cases message with
  | register register =>
    have keeps : texts.controlMessage.Keeps (.register register) ↔ texts.register.Keeps register :=
      postcard.enumeration_keeps_iff rfl rfl fun _ => by rw [ControlMessage.register.injEq]
    exact keeps.trans (texts.register_keeps_iff register)
  | matchResponse response =>
    have keeps : texts.controlMessage.Keeps (.matchResponse response) ↔ texts.matchResponse.Keeps response :=
      postcard.enumeration_keeps_iff rfl rfl fun _ => by rw [ControlMessage.matchResponse.injEq]
    rw [keeps, matchResponse_keeps_iff]
    cases response with
    | singleHop single => exact ⟨fun _ => trivial, fun _ _ same => (by cases same)⟩
    | multiHopAssignment assignment =>
      exact ⟨fun both => both assignment rfl, fun both other same => MatchResponse.multiHopAssignment.inj same ▸ both⟩
  | registerAck | matchRequest | heartbeat | disconnect => exact ⟨fun _ => trivial, fun _ => rfl⟩

theorem cohortMessage_keeps (message : CohortMessage) : texts.cohortMessage.Keeps message := by
  cases message with
  | live live =>
    have keeps : texts.cohortMessage.Keeps (.live live) ↔ texts.cohortLive.Keeps live :=
      postcard.enumeration_keeps_iff rfl rfl fun _ => by rw [CohortMessage.live.injEq]
    exact keeps.mpr (texts.cohortLive_keeps live)
  | admit_ | rotate => rfl

theorem frame_keeps_iff (frame : Frame) : texts.frame.Keeps frame ↔ frame.Survives := by
  cases frame with
  | control message =>
    have keeps : texts.frame.Keeps (.control message) ↔ texts.controlMessage.Keeps message :=
      postcard.enumeration_keeps_iff rfl rfl fun _ => by rw [Frame.control.injEq]
    exact keeps.trans (texts.controlMessage_keeps_iff message)
  | cohort message =>
    have keeps : texts.frame.Keeps (.cohort message) ↔ texts.cohortMessage.Keeps message :=
      postcard.enumeration_keeps_iff rfl rfl fun _ => by rw [Frame.cohort.injEq]
    exact keeps.trans ⟨fun _ => trivial, fun _ => texts.cohortMessage_keeps message⟩
  | tunnel => exact ⟨fun _ => trivial, fun _ => rfl⟩

/-- The twin is read back whatever its addresses hold, and with as long a chain. -/
theorem twin_back_of_empty {assignment : MultiHopAssignment} (empty : assignment.forwarderChain = []) :
    ∃ wire, texts.multiHopAssignmentWire.back (twin assignment) = .ok wire ∧ wire.forwarderChain = [] := by
  obtain ⟨endpoint, there⟩ := socketAddr_back assignment.clientWgConfig.peerEndpoint
  have blocks : (postcard.sequence ipNet).back assignment.clientWgConfig.allowedIps = .ok _ :=
    postcard.sequence_keeps_iff.mpr fun block _ => ipNet_keeps block
  have chain : (postcard.sequence texts.forwarderLease).back assignment.forwarderChain = .ok [] := by
    rw [empty]
    rfl
  have config : wgPeerConfig.back assignment.clientWgConfig =
      .ok { assignment.clientWgConfig with peerEndpoint := endpoint } :=
    Wire.as_back (Wire.pair_back rfl (Wire.pair_back rfl (Wire.pair_back there (Wire.pair_back blocks rfl))))
  exact ⟨_, Wire.as_back (Wire.pair_back rfl (Wire.pair_back chain config)), rfl⟩

theorem emptyChain_back {assignment : MultiHopAssignment} (empty : assignment.forwarderChain = []) :
    texts.frame.back (.control (.matchResponse (.multiHopAssignment assignment))) = .error postcard.deCustom := by
  obtain ⟨wire, back, none⟩ := texts.twin_back_of_empty empty
  change ((((texts.multiHopAssignmentWire.back (twin assignment) >>= fun wire =>
    (MultiHopAssignment.tryFrom wire).mapError fun _ => postcard.deCustom) >>= fun found =>
    Except.ok (MatchResponse.multiHopAssignment found)) >>= fun found =>
    Except.ok (ControlMessage.matchResponse found)) >>= fun found => Except.ok (Frame.control found)) = _
  have refused : MultiHopAssignment.tryFrom wire = .error .emptyChain := by
    rw [MultiHopAssignment.tryFrom, none]
    rfl
  rw [back]
  change (((((MultiHopAssignment.tryFrom wire).mapError fun _ => postcard.deCustom) >>= fun found =>
    Except.ok (MatchResponse.multiHopAssignment found)) >>= fun found =>
    Except.ok (ControlMessage.matchResponse found)) >>= fun found => Except.ok (Frame.control found)) = _
  rw [refused]
  rfl

end WireTexts

variable {texts : WireTexts}

theorem decode_framed (payload : List UInt8) : decode texts (magic ++ version :: payload) =
    ((texts.frame.read payload).map Prod.fst).mapError ProtocolError.codec := by
  have long : ¬ (magic ++ version :: payload).length < prefixLength := by
    simp [magic, prefixLength]
  have starts : ¬ (magic ++ version :: payload).take magic.length ≠ magic := by
    rw [List.take_left', not_not]
    rfl
  rw [decode, if_neg long, if_neg starts]
  have rest : (magic ++ version :: payload).drop prefixLength = payload := rfl
  rw [rest]
  cases texts.frame.read payload <;> rfl

/-- Whatever is accepted begins with the magic and the version. -/
theorem framed_of_decode {buf : List UInt8} {frame : Frame} (accepted : decode texts buf = .ok frame) :
    buf = magic ++ version :: buf.drop prefixLength := by
  rw [decode] at accepted
  split at accepted
  · cases accepted
  rename_i long
  split at accepted
  · cases accepted
  rename_i starts
  dsimp only at accepted
  split at accepted
  · cases accepted
  rename_i versioned
  have enough : magic.length < buf.length := by
    rw [prefixLength] at long
    omega
  have front := List.take_append_drop magic.length buf
  rw [not_not, List.getD_eq_getElem?_getD, List.getElem?_eq_getElem enough, Option.getD_some] at versioned
  rw [List.drop_eq_getElem_cons enough, not_not.mp starts, versioned] at front
  exact front.symm

theorem decode_eq_ok_iff {buf : List UInt8} {frame : Frame} : decode texts buf = .ok frame ↔
    ∃ payload rest, buf = magic ++ version :: payload ∧ texts.frame.read payload = .ok (frame, rest) := by
  constructor
  · intro accepted
    have framed := framed_of_decode accepted
    rw [framed, decode_framed] at accepted
    cases run : texts.frame.read (buf.drop prefixLength) with
    | error error =>
      rw [run] at accepted
      cases accepted
    | ok found =>
      rw [run] at accepted
      exact ⟨_, found.2, framed, by rw [run, ← Except.ok.inj accepted]⟩
  · rintro ⟨payload, rest, rfl, run⟩
    rw [decode_framed, run]
    rfl

theorem encode_eq_ok_iff {frame : Frame} {bytes : List UInt8} : encode texts frame = .ok bytes ↔
    ∃ payload, texts.frame.write frame = .ok payload ∧ bytes = magic ++ version :: payload := by
  rw [encode, Except.bind_eq_ok_iff]
  exact exists_congr fun payload => and_congr_right fun _ =>
    ⟨fun same => (Except.ok.inj same).symm, fun same => congrArg Except.ok same.symm⟩

/-- What an encoded frame decodes to. -/
theorem decode_encode {frame : Frame} {bytes : List UInt8} (encoded : encode texts frame = .ok bytes) :
    decode texts bytes = (texts.frame.back frame).mapError ProtocolError.codec := by
  obtain ⟨payload, written, rfl⟩ := encode_eq_ok_iff.mp encoded
  have back := texts.frame.returns written []
  rw [List.append_nil] at back
  rw [decode_framed, back]
  cases texts.frame.back frame <;> rfl

/-- A frame that encodes comes back as it was sent exactly when it holds no
empty chain and no V6 flow information or scope; an empty chain is refused. -/
theorem decode_encode_iff (texts : WireTexts) (frame : Frame) (bytes : List UInt8)
    (encoded : encode texts frame = .ok bytes) :
    (decode texts bytes = .ok frame ↔ frame.Survives) ∧
      ∀ assignment, frame = .control (.matchResponse (.multiHopAssignment assignment)) →
        assignment.forwarderChain = [] → decode texts bytes = .error (.codec (.other "SerdeDeCustom")) := by
  refine ⟨?_, fun assignment isAssignment empty => ?_⟩
  · rw [decode_encode encoded, ← texts.frame_keeps_iff, Wire.Keeps]
    cases texts.frame.back frame with
    | error error => exact ⟨fun same => (by cases same), fun same => (by cases same)⟩
    | ok found => exact ⟨fun same => congrArg Except.ok (Except.ok.inj same),
        fun same => congrArg Except.ok (Except.ok.inj same)⟩
  · rw [decode_encode encoded, isAssignment, texts.emptyChain_back empty]
    rfl

/-- The text forms of the zero identifier and of the Unix epoch. -/
def zeroTexts : WireTexts where
  ulid := TextForm.only 0 "00000000000000000000000000" (by decide)
  rfc3339 := epochText

def epochHeartbeat : Frame :=
  .control (.heartbeat ⟨⟨0⟩, 0⟩)

theorem decode_encode_iff_heartbeat :
    ∃ bytes, encode zeroTexts epochHeartbeat = .ok bytes ∧ decode zeroTexts bytes = .ok epochHeartbeat :=
  ⟨_, rfl, (decode_encode_iff zeroTexts epochHeartbeat _ rfl).1.mpr trivial⟩

/-- An assignment with no forwarders. -/
def emptyChain : Frame :=
  .control (.matchResponse (.multiHopAssignment
    ⟨⟨0⟩, [], ⟨⟨.replicate 32 0⟩, ⟨.replicate 32 0⟩, .v4 0 0, [], 0⟩⟩))

theorem emptyChain_not_decoded :
    ∃ bytes, encode zeroTexts emptyChain = .ok bytes ∧ decode zeroTexts bytes ≠ .ok emptyChain := by
  have encoded : encode zeroTexts emptyChain = .ok _ := rfl
  refine ⟨_, encoded, fun same => ?_⟩
  rw [decode_encode encoded, emptyChain, zeroTexts.emptyChain_back rfl] at same
  cases same

/-- No proper prefix and no proper extension of the buffer is accepted. -/
structure ExactLength (texts : WireTexts) (buf : List UInt8) : Prop where
  truncated : ∀ start, start <+: buf → start ≠ buf → ∀ frame, decode texts start ≠ .ok frame
  extended : ∀ extra, extra ≠ [] → ∀ frame, decode texts (buf ++ extra) ≠ .ok frame

/-- An accepted buffer is accepted, as the same frame, with any bytes behind
it, so its length is never exact; cutting it is always noticed exactly when
the frame takes the whole buffer. -/
theorem decode_not_exactLength (texts : WireTexts) (buf : List UInt8) (frame : Frame)
    (accepted : decode texts buf = .ok frame) :
    ¬ ExactLength texts buf ∧ (∀ extra, decode texts (buf ++ extra) = .ok frame) ∧
      ((∀ start, start <+: buf → start ≠ buf → ∀ other, decode texts start ≠ .ok other) ↔
        texts.frame.read (buf.drop prefixLength) = .ok (frame, [])) := by
  obtain ⟨payload, rest, rfl, run⟩ := decode_eq_ok_iff.mp accepted
  have longer : ∀ extra, decode texts ((magic ++ version :: payload) ++ extra) = .ok frame := fun extra =>
    decode_eq_ok_iff.mpr ⟨payload ++ extra, rest ++ extra, List.append_assoc .., Wire.read_append run extra⟩
  refine ⟨fun exactly => exactly.extended [0] (List.cons_ne_nil _ _) frame (longer [0]), longer, ?_⟩
  change _ ↔ texts.frame.read payload = _
  constructor
  · intro truncated
    obtain ⟨taken, rfl, again⟩ := texts.frame.decides run
    have short : decode texts (magic ++ version :: taken) = .ok frame :=
      decode_eq_ok_iff.mpr ⟨taken, [], rfl, by rw [← again [], List.append_nil]⟩
    have whole : rest = [] := by
      by_contra more
      refine truncated (magic ++ version :: taken) ⟨rest, by simp⟩ (fun same => more ?_) frame short
      simpa using same
    rw [run, whole]
  · intro whole start cut shorter other startAccepted
    obtain ⟨early, left, rfl, runEarly⟩ := decode_eq_ok_iff.mp startAccepted
    have inside : early <+: payload := by
      obtain ⟨missing, same⟩ := cut
      rw [List.append_assoc, List.append_cancel_left_eq, List.cons_append] at same
      exact ⟨missing, (List.cons.inj same).2⟩
    exact shorter (by rw [Wire.eq_of_read_prefix whole inside runEarly])

theorem decode_not_exactLength_heartbeat :
    ∃ bytes, encode zeroTexts epochHeartbeat = .ok bytes ∧ ¬ ExactLength zeroTexts bytes := by
  have encoded : encode zeroTexts epochHeartbeat = .ok _ := rfl
  have accepted := (decode_encode encoded).trans rfl
  exact ⟨_, encoded, (decode_not_exactLength zeroTexts _ epochHeartbeat accepted).1⟩

/-- A byte behind an encoded heartbeat goes unnoticed. -/
theorem epochHeartbeat_extended :
    ∃ bytes, encode zeroTexts epochHeartbeat = .ok bytes ∧ decode zeroTexts bytes = .ok epochHeartbeat ∧
      decode zeroTexts (bytes ++ [0]) = .ok epochHeartbeat := by
  have encoded : encode zeroTexts epochHeartbeat = .ok _ := rfl
  have accepted := (decode_encode encoded).trans rfl
  obtain ⟨payload, rest, same, run⟩ := decode_eq_ok_iff.mp accepted
  refine ⟨_, encoded, accepted, decode_eq_ok_iff.mpr ⟨payload ++ [0], rest ++ [0], ?_, Wire.read_append run [0]⟩⟩
  rw [same, List.append_assoc, List.cons_append]

end BiBeam
