import BiBeam.Discovery.InviteValidator

namespace BiBeam

/-- What a signature over an invite is meant to bind. -/
structure Invite where
  code : InviteCode
  issuedAt : OffsetDateTime
  expiresAt : Option OffsetDateTime
deriving DecidableEq

namespace Invite

def payload (rfc3339 : TextForm OffsetDateTime) (invite : Invite) : List UInt8 :=
  signingPayload rfc3339 invite.code invite.issuedAt invite.expiresAt

/-- The times that go into the payload have a text. -/
def Dated (rfc3339 : TextForm OffsetDateTime) (invite : Invite) : Prop :=
  (rfc3339.print invite.issuedAt).isSome ∧
    (rfc3339.print (invite.expiresAt.getD neverExpiresPayloadMarker)).isSome

/-- The fields are equal as the source compares them: times by their instants. -/
def SameFields (first second : Invite) : Prop :=
  first.code = second.code ∧ first.issuedAt.instant = second.issuedAt.instant ∧
    first.expiresAt.map OffsetDateTime.instant = second.expiresAt.map OffsetDateTime.instant

/-- The ways to call invites equal: as they are stored, or as the source compares them. -/
inductive Equality : (Invite → Invite → Prop) → Prop
  | stored : Equality Eq
  | compared : Equality SameFields

/-- The invites differ only in that one never expires and the other at the epoch,
written in UTC. -/
def Twins (first second : Invite) : Prop :=
  first.code = second.code ∧ first.issuedAt = second.issuedAt ∧
    (first.expiresAt = none ∧ second.expiresAt = some neverExpiresPayloadMarker ∨
      first.expiresAt = some neverExpiresPayloadMarker ∧ second.expiresAt = none)

/-- The invite as the holder of a signature presents it. -/
def signed (invite : Invite) (issuer : IdentityPublicKey) (signature : List UInt8) : SignedInvite :=
  ⟨invite.code, issuer, invite.issuedAt, invite.expiresAt, signature⟩

/-- The same invite without an expiry. -/
def neverExpiring (invite : Invite) : Invite :=
  { invite with expiresAt := none }

/-- The tuple that is encoded. -/
def tuple (invite : Invite) : String × Vector UInt8 16 × OffsetDateTime × OffsetDateTime :=
  (inviteSigningDomain, invite.code.bytes, invite.issuedAt, invite.expiresAt.getD neverExpiresPayloadMarker)

variable {rfc3339 : TextForm OffsetDateTime} {first second invite : Invite} {agree : Invite → Invite → Prop}

theorem dated_iff : invite.Dated rfc3339 ↔ (payloadWire rfc3339).Writes invite.tuple := by
  have domain : postcard.text.Writes inviteSigningDomain := postcard.text_writes (by decide)
  have code : (postcard.byteArray 16).Writes invite.code.bytes :=
    ⟨invite.code.bytes.toList, if_pos invite.code.bytes.length_toList⟩
  simp only [payloadWire, Wire.pair_writes_iff, Postcard.printed_writes_iff, Dated, tuple]
  exact ⟨fun dated => ⟨domain, code, dated⟩, fun writes => writes.2.2⟩

theorem payload_of_not_dated (undated : ¬ invite.Dated rfc3339) : invite.payload rfc3339 = [] := by
  rw [dated_iff] at undated
  change (((payloadWire rfc3339).write invite.tuple).toOption.getD []) = []
  cases run : (payloadWire rfc3339).write invite.tuple with
  | error error => rfl
  | ok bytes => exact absurd ⟨bytes, run⟩ undated

/-- An encoded payload is what the format writes, and it is not empty. -/
theorem payload_of_dated (dated : invite.Dated rfc3339) :
    (payloadWire rfc3339).write invite.tuple = .ok (invite.payload rfc3339) ∧ invite.payload rfc3339 ≠ [] := by
  obtain ⟨bytes, run⟩ := dated_iff.mp dated
  have same : invite.payload rfc3339 = bytes := by
    change (((payloadWire rfc3339).write invite.tuple).toOption.getD []) = bytes
    rw [run]
    rfl
  rw [same]
  refine ⟨run, fun empty => ?_⟩
  obtain ⟨front, domain, run⟩ := Except.of_bind_ok run
  obtain ⟨behind, _, run⟩ := Except.of_bind_ok run
  rw [← Except.ok.inj run] at empty
  have none := (List.append_eq_nil_iff.mp empty).1
  rw [none] at domain
  cases Except.ok.inj domain

/-- Encoded payloads agree exactly when the encoded tuples do. -/
theorem tuple_eq_of_payload_eq (datedFirst : first.Dated rfc3339) (datedSecond : second.Dated rfc3339)
    (same : first.payload rfc3339 = second.payload rfc3339) : first.tuple = second.tuple := by
  have keeps : ∀ tuple, (payloadWire rfc3339).Keeps tuple := fun _ => rfl
  have writeFirst := (payload_of_dated datedFirst).1
  rw [same] at writeFirst
  exact (keeps _).write_inj (keeps _) writeFirst (payload_of_dated datedSecond).1

theorem eq_or_twins_of_tuple_eq (same : first.tuple = second.tuple) : first = second ∨ Twins first second := by
  obtain ⟨⟨code⟩, issued, expiry⟩ := first
  obtain ⟨⟨code'⟩, issued', expiry'⟩ := second
  simp only [tuple, Prod.mk.injEq, true_and] at same
  obtain ⟨rfl, rfl, marker⟩ := same
  cases expiry with
  | none =>
    cases expiry' with
    | none => exact Or.inl rfl
    | some time => exact Or.inr ⟨rfl, rfl, Or.inl ⟨rfl, congrArg some (show neverExpiresPayloadMarker = time from marker).symm⟩⟩
  | some time =>
    cases expiry' with
    | none => exact Or.inr ⟨rfl, rfl, Or.inr ⟨congrArg some (show time = neverExpiresPayloadMarker from marker), rfl⟩⟩
    | some time' =>
      have here : time = time' := marker
      exact Or.inl (by rw [here])

theorem Twins.payload_eq (twins : Twins first second) : first.payload rfc3339 = second.payload rfc3339 := by
  obtain ⟨code, issued, ⟨never, atEpoch⟩ | ⟨atEpoch, never⟩⟩ := twins <;>
    rw [payload, payload, code, issued, never, atEpoch] <;> rfl

theorem Equality.refl (equality : Equality agree) (invite : Invite) : agree invite invite := by
  cases equality with
  | stored => rfl
  | compared => exact ⟨rfl, rfl, rfl⟩

/-- Equal invites both expire or both never do. -/
theorem Equality.expires (equality : Equality agree) (same : agree first second) :
    first.expiresAt.isSome = second.expiresAt.isSome := by
  cases equality with
  | stored => rw [same]
  | compared =>
    have instants := congrArg Option.isSome same.2.2
    rwa [Option.isSome_map, Option.isSome_map] at instants

theorem Twins.differ (equality : Equality agree) (twins : Twins first second) : ¬ agree first second := by
  intro same
  have both := equality.expires same
  obtain ⟨_, _, ⟨never, atEpoch⟩ | ⟨atEpoch, never⟩⟩ := twins <;> rw [never, atEpoch] at both <;> cases both

/-- The invites are not twins, and if they differ then one of them encodes. -/
def Apart (agree : Invite → Invite → Prop) (rfc3339 : TextForm OffsetDateTime) (first second : Invite) : Prop :=
  ¬ (¬ agree first second ∧ ¬ first.Dated rfc3339 ∧ ¬ second.Dated rfc3339) ∧ ¬ Twins first second

theorem payload_inj_iff (equality : Equality agree) :
    (first.payload rfc3339 = second.payload rfc3339 → agree first second) ↔ Apart agree rfc3339 first second := by
  constructor
  · intro injective
    refine ⟨fun ⟨differ, undatedFirst, undatedSecond⟩ => differ (injective ?_), fun twins =>
      twins.differ equality (injective twins.payload_eq)⟩
    rw [payload_of_not_dated undatedFirst, payload_of_not_dated undatedSecond]
  · rintro ⟨encode, apart⟩ same
    by_contra differ
    by_cases datedFirst : first.Dated rfc3339
    · by_cases datedSecond : second.Dated rfc3339
      · rcases eq_or_twins_of_tuple_eq (tuple_eq_of_payload_eq datedFirst datedSecond same) with rfl | twins
        · exact differ (equality.refl first)
        · exact apart twins
      · rw [payload_of_not_dated datedSecond] at same
        exact (payload_of_dated datedFirst).2 same
    · by_cases datedSecond : second.Dated rfc3339
      · rw [payload_of_not_dated datedFirst] at same
        exact (payload_of_dated datedSecond).2 same.symm
      · exact encode ⟨differ, datedFirst, datedSecond⟩

end Invite

/-- What a signed invite says. -/
def SignedInvite.invite (signed : SignedInvite) : Invite :=
  ⟨signed.code, signed.issuedAt, signed.expiresAt⟩

/-- The same signature under an invite that never expires. -/
def SignedInvite.neverExpiring (signed : SignedInvite) : SignedInvite :=
  { signed with expiresAt := none }

section Verification

variable {libs : InviteLibs} {key : IdentityPublicKey} {now : Timestamp} {signed : SignedInvite}

/-- The trusted key signed these very fields. -/
def Genuine (libs : InviteLibs) (key : IdentityPublicKey) (signed : SignedInvite) : Prop :=
  signed.issuer = key ∧ ∃ signature, decodeSignatureBytes signed.signature = .ok signature ∧
    libs.verifies key (signed.invite.payload libs.rfc3339) signature = true

/-- The letter after the seventh, by which the refusals are told apart. -/
def tag (text : String) : Option Char :=
  text.toList[7]?

theorem tag_append {front behind : String} {letter : Char} (here : tag front = some letter) :
    tag (front ++ behind) = some letter := by
  obtain ⟨inside, _⟩ := List.getElem?_eq_some_iff.mp here
  rw [tag, String.toList_append, List.getElem?_append_left inside]
  exact here

theorem inviteExpired_tag (expiresAt : OffsetDateTime) :
    ∃ text, inviteExpired libs expiresAt (.utc now) = .url text ∧ tag text = some 'e' :=
  ⟨_, rfl, tag_append (tag_append (tag_append (by decide)))⟩

/-- An invite of the trusted key is judged by its expiry alone. -/
theorem verifyInvite_of_genuine (genuine : Genuine libs key signed) : verifyInvite libs now signed key =
    match signed.expiresAt with
    | none => .ok ()
    | some expiresAt =>
      if expiresAt.instant ≤ now then .error (inviteExpired libs expiresAt (.utc now)) else .ok () := by
  obtain ⟨issuer, signature, decoded, verified⟩ := genuine
  have identity : identityVerify libs key (signingPayload libs.rfc3339 signed.code signed.issuedAt signed.expiresAt)
      signature = .ok () := if_pos verified
  rw [verifyInvite, if_neg (not_not.mpr issuer), decoded]
  dsimp only [bind, Except.bind, pure, Except.pure]
  rewrite [identity]
  rfl

theorem decodeSignatureBytes_cases (bytes : List UInt8) : (∃ signature, decodeSignatureBytes bytes = .ok signature) ∨
    ∃ text, decodeSignatureBytes bytes = .error (.url text) ∧ tag text = some 's' := by
  rw [decodeSignatureBytes]
  split
  · exact Or.inl ⟨_, rfl⟩
  · exact Or.inr ⟨_, rfl, tag_append (by decide)⟩

/-- Every other invite is refused before its expiry is looked at. -/
theorem verifyInvite_of_not_genuine (forged : ¬ Genuine libs key signed) :
    ∃ text letter, verifyInvite libs now signed key = .error (.url text) ∧ tag text = some letter ∧ letter ≠ 'e' := by
  by_cases issuer : signed.issuer = key
  · obtain ⟨signature, decoded⟩ | ⟨text, decoded, letter⟩ := decodeSignatureBytes_cases signed.signature
    · have identity : identityVerify libs key (signingPayload libs.rfc3339 signed.code signed.issuedAt signed.expiresAt)
          signature = .error "Ed25519 signature did not verify" :=
        if_neg (fun verified => forged ⟨issuer, signature, decoded, verified⟩)
      have front : tag "invite signature: " = some 's' := by decide
      refine ⟨"invite signature: " ++ "Ed25519 signature did not verify", 's', ?_, tag_append front, by decide⟩
      rw [verifyInvite, if_neg (not_not.mpr issuer), decoded]
      dsimp only [bind, Except.bind, pure, Except.pure]
      rw [identity]
      rfl
    · refine ⟨text, 's', ?_, letter, by decide⟩
      rw [verifyInvite, if_neg (not_not.mpr issuer), decoded]
      rfl
  · refine ⟨"invite issuer: claimed issuer does not match trusted coordinator key", 'i', ?_, by decide, by decide⟩
    rw [verifyInvite, if_pos issuer]
    rfl

/-- The signed invite is refused because it has expired. -/
def RefusedAsExpired (libs : InviteLibs) (now : Timestamp) (signed : SignedInvite) (key : IdentityPublicKey) : Prop :=
  ∃ expiresAt, verifyInvite libs now signed key = .error (inviteExpired libs expiresAt (.utc now))

theorem RefusedAsExpired.genuine (refused : RefusedAsExpired libs now signed key) :
    Genuine libs key signed ∧ signed.expiresAt ≠ none := by
  obtain ⟨expiresAt, refused⟩ := refused
  obtain ⟨expired, written, letter⟩ := @inviteExpired_tag libs now expiresAt
  by_cases genuine : Genuine libs key signed
  · refine ⟨genuine, fun never => ?_⟩
    rw [verifyInvite_of_genuine genuine, never] at refused
    cases refused
  · obtain ⟨text, other, run, here, apart⟩ := @verifyInvite_of_not_genuine libs key now signed genuine
    have same : expired = text := by
      rw [run, written] at refused
      exact (DiscoveryError.url.inj (Except.error.inj refused)).symm
    rw [← same, letter] at here
    exact absurd (Option.some.inj here).symm apart

/-- A presented invite that never expires is accepted when its key signed it. -/
theorem verifyInvite_neverExpiring_iff : verifyInvite libs now signed.neverExpiring key = .ok () ↔
    Genuine libs key signed.neverExpiring := by
  constructor
  · intro accepted
    by_contra forged
    obtain ⟨text, letter, refused, _⟩ := @verifyInvite_of_not_genuine libs key now _ forged
    rw [refused] at accepted
    cases accepted
  · exact verifyInvite_of_genuine

/-- The invites that one signature cannot tell apart are exactly those that
are not `Apart`, whether it is checked alone or with the expiry. -/
theorem signature_binds_iff_apart (libs : InviteLibs) (key : IdentityPublicKey)
    (binding : ∀ message other signature, libs.verifies key message signature = true →
      libs.verifies key other signature = true → message = other)
    (agree : Invite → Invite → Prop) (equality : Invite.Equality agree) :
    (∀ first second : Invite, (first.payload libs.rfc3339 = second.payload libs.rfc3339 → agree first second) ↔
      Invite.Apart agree libs.rfc3339 first second) ∧
    (∀ (first second : Invite) (signature : Signature),
      libs.verifies key (first.payload libs.rfc3339) signature = true →
      ((libs.verifies key (second.payload libs.rfc3339) signature = true → agree first second) ↔
        Invite.Apart agree libs.rfc3339 first second)) ∧
    (∀ (signed : SignedInvite) (now later : Timestamp), RefusedAsExpired libs now signed key →
      (verifyInvite libs later signed.neverExpiring key ≠ .ok () ↔
        Invite.Apart agree libs.rfc3339 signed.invite signed.neverExpiring.invite)) := by
  have checked : ∀ (first second : Invite) (signature : Signature),
      libs.verifies key (first.payload libs.rfc3339) signature = true →
      (libs.verifies key (second.payload libs.rfc3339) signature = true ↔
        first.payload libs.rfc3339 = second.payload libs.rfc3339) := by
    intro first second signature verified
    constructor
    · exact fun again => binding _ _ signature verified again
    · intro same
      rwa [← same]
  refine ⟨fun first second => Invite.payload_inj_iff equality, ?_, ?_⟩
  · intro first second signature verified
    rw [checked first second signature verified]
    exact Invite.payload_inj_iff equality
  · intro signed now later refused
    obtain ⟨⟨issuer, signature, decoded, verified⟩, dated⟩ := refused.genuine
    have differ : ¬ agree signed.invite signed.neverExpiring.invite := fun same =>
      dated (Option.isSome_eq_false_iff.mp (equality.expires same) |> Option.isNone_iff_eq_none.mp)
    have genuine : Genuine libs key signed.neverExpiring ↔
        libs.verifies key (signed.neverExpiring.invite.payload libs.rfc3339) signature = true := by
      constructor
      · rintro ⟨_, other, decodedOther, verifiedOther⟩
        rwa [← Except.ok.inj (decoded.symm.trans decodedOther)] at verifiedOther
      · exact fun again => ⟨issuer, signature, decoded, again⟩
    rw [ne_eq, verifyInvite_neverExpiring_iff, genuine, checked _ _ signature verified, ← Invite.payload_inj_iff equality]
    exact ⟨fun apart same => absurd same apart, fun injective same => differ (injective same)⟩

end Verification

section Epoch

/-- An invite that expires at the Unix epoch, with its signature. -/
def epochInvite : SignedInvite :=
  ⟨⟨Vector.replicate 16 171⟩, ⟨Vector.replicate 32 1⟩, .unixEpoch, some .unixEpoch, List.replicate 64 0⟩

/-- Libraries that know one time and one signature. -/
def epochLibs : InviteLibs where
  verifies _ message signature := decide (message = epochInvite.invite.payload unixEpochText ∧ signature = ⟨Vector.replicate 64 0⟩)
  rfc3339 := unixEpochText
  debugTimestamp _ := "Timestamp(1970-01-01 0:00:00.0 +00:00:00)"

theorem epochLibs_verifies {key : IdentityPublicKey} {message : List UInt8} {signature : Signature} :
    epochLibs.verifies key message signature = true ↔
      message = epochInvite.invite.payload unixEpochText ∧ signature = ⟨Vector.replicate 64 0⟩ :=
  decide_eq_true_iff

theorem epochLibs_binding : ∀ message other signature,
    epochLibs.verifies epochInvite.issuer message signature = true →
    epochLibs.verifies epochInvite.issuer other signature = true → message = other := by
  intro message other signature verified again
  exact (epochLibs_verifies.mp verified).1.trans (epochLibs_verifies.mp again).1.symm

theorem epochInvite_genuine : Genuine epochLibs epochInvite.issuer epochInvite :=
  ⟨rfl, ⟨Vector.replicate 64 0⟩, rfl, epochLibs_verifies.mpr ⟨rfl, rfl⟩⟩

theorem epochInvite_refused : RefusedAsExpired epochLibs 0 epochInvite epochInvite.issuer :=
  ⟨.unixEpoch, verifyInvite_of_genuine epochInvite_genuine⟩

theorem signature_binds_iff_apart_epoch :
    RefusedAsExpired epochLibs 0 epochInvite epochInvite.issuer ∧
      (verifyInvite epochLibs 1 epochInvite.neverExpiring epochInvite.issuer ≠ .ok () ↔
        Invite.Apart Invite.SameFields unixEpochText epochInvite.invite epochInvite.neverExpiring.invite) :=
  ⟨epochInvite_refused, (signature_binds_iff_apart epochLibs epochInvite.issuer epochLibs_binding Invite.SameFields
    .compared).2.2 epochInvite 0 1 epochInvite_refused⟩

/-- The text forms of the Unix epoch in UTC and an hour to the east of it. -/
def eastText : TextForm OffsetDateTime :=
  unixEpochText.insert ⟨0, 3600⟩ "1970-01-01T01:00:00+01:00" rfl (by decide)

/-- An expiry at the epoch that is written with another offset does not collide. -/
example : { epochInvite.invite with expiresAt := some ⟨0, 3600⟩ }.payload eastText ≠
    epochInvite.neverExpiring.invite.payload eastText := by
  decide

/-- Refused as expired, then accepted with the same signature. -/
theorem epochInvite_represented :
    ¬ epochInvite.invite.SameFields epochInvite.neverExpiring.invite ∧
      epochInvite.invite.payload unixEpochText = epochInvite.neverExpiring.invite.payload unixEpochText ∧
      RefusedAsExpired epochLibs 0 epochInvite epochInvite.issuer ∧
      verifyInvite epochLibs 0 epochInvite.neverExpiring epochInvite.issuer = .ok () :=
  ⟨fun same => (nomatch same.2.2), rfl, epochInvite_refused, verifyInvite_neverExpiring_iff.mpr epochInvite_genuine⟩

end Epoch

end BiBeam
