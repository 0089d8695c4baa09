import BiBeam.Coordinator.Admission
import BiBeam.Discovery.BootstrapSafety
import BiBeam.Node.Registration

namespace BiBeam

/-- A token shown to a verifier for a peer, while the clock of the verifier reads a time. -/
structure Showing where
  now : Timestamp
  token : String
  peerId : PeerId
deriving DecidableEq

/-- What happens to session tokens: the coordinator admits a peer to a cohort,
and the registrar of a node or the bootstrap of a client verifies a token. -/
inductive TokenEvent (libs : PasetoLibs) (public_ : libs.Public)
  | admitted (peerId : PeerId) (cohortId : CohortId) (cohort : CohortRecord) (now : Timestamp)
      (result : Except AdmissionError String)
  | node (now : Timestamp) (unverified : UnverifiedRegistrationToken) (expectedPeer : PeerId)
      (result : Except TokenVerifyError (VerifiedRegistrationToken (PasetoVerifier.at_ libs public_ now)))
  | client (now : Timestamp) (ack : RegisterAck) (peerId : PeerId)
      (result : Except DiscoveryError (String × SessionClaims))

namespace TokenEvent

variable {libs : PasetoLibs} {public_ : libs.Public}

def mint? : TokenEvent libs public_ → Option Mint
  | admitted peerId cohortId cohort now result =>
    result.toOption.map fun token => ⟨peerId, cohortId, cohort, now, token⟩
  | node .. => none
  | client .. => none

def shown? (boot : BootstrapLibs) : TokenEvent libs public_ → Option Showing
  | admitted .. => none
  | node now unverified expectedPeer _ => some ⟨now, unverified.pasetoToken, expectedPeer⟩
  | client now ack peerId _ => (parseSessionToken boot ack.sessionToken).toOption.map fun token => ⟨now, token, peerId⟩

/-- The token that the verifier takes, with the claims it finds. -/
def granted? : TokenEvent libs public_ → Option (String × SessionClaims)
  | admitted .. => none
  | node _ _ _ result => result.toOption.map fun token => (token.pasetoToken, token.claims)
  | client _ _ _ result => result.toOption

end TokenEvent

/-- The tokens that the coordinator has issued. -/
structure TokenWorld where
  minted : List Mint

/-- A text that goes round has been issued before, or the key does not open it. -/
def TokenWorld.Circulates (libs : PasetoLibs) (public_ : libs.Public) (world : TokenWorld) (token : String) : Prop :=
  (∃ mint ∈ world.minted, mint.token = token) ∨ libs.Forged public_ token

/-- Every party reads a clock of its own, so that the readings come in any order. -/
inductive TokenWorld.Step {libs : PasetoLibs} (boot : BootstrapLibs) (admissioner : Admissioner libs)
    (public_ : libs.Public) : TokenWorld → TokenEvent libs public_ → TokenWorld → Prop
  | mint {world peerId cohortId cohort created now result} :
      admissioner.issue created now peerId cohortId cohort = result →
      Step boot admissioner public_ world (.admitted peerId cohortId cohort now result)
        ⟨world.minted ++ (result.toOption.map fun token => Mint.mk peerId cohortId cohort now token).toList⟩
  | verify {world now unverified expectedPeer} : world.Circulates libs public_ unverified.pasetoToken →
      Step boot admissioner public_ world (.node now unverified expectedPeer
        (unverified.verify (PasetoVerifier.at_ libs public_ now) expectedPeer)) world
  | bootstrap {world now ack peerId} :
      (∀ token, parseSessionToken boot ack.sessionToken = .ok token → world.Circulates libs public_ token) →
      Step boot admissioner public_ world (.client now ack peerId
        (SessionBootstrap.verifiedToken boot (PasetoVerifier.at_ libs public_ now) peerId ack)) world

/-- What session tokens authorise, whoever shows them to whom. -/
structure Authorises {libs : PasetoLibs} {public_ : libs.Public} (boot : BootstrapLibs)
    (events : List (TokenEvent libs public_)) : Prop where
  /-- A token is taken for the peer that was admitted with it, to what it was admitted to, before the cohort rotates. -/
  earned : ∀ before event after, events = before ++ event :: after → ∀ token claims,
    event.granted? = some (token, claims) → ∃ mint ∈ before.filterMap TokenEvent.mint?, ∃ now,
      event.shown? boot = some ⟨now, token, mint.peerId⟩ ∧ mint.token = token ∧ claims = mint.claims ∧
        mint.issued ≤ now ∧ now ≤ mint.cohort.rotationDeadline
  honoured : ∀ before event after, events = before ++ event :: after → ∀ mint ∈ before.filterMap TokenEvent.mint?,
    ∀ now peerId, event.shown? boot = some ⟨now, mint.token, peerId⟩ → mint.issued ≤ now →
      now < mint.cohort.rotationDeadline →
      event.granted? = if peerId = mint.peerId then some (mint.token, mint.claims) else none
  lapsed : ∀ before event after, events = before ++ event :: after → ∀ mint ∈ before.filterMap TokenEvent.mint?,
    ∀ now peerId, event.shown? boot = some ⟨now, mint.token, peerId⟩ →
      now < mint.issued ∨ mint.cohort.rotationDeadline < now → event.granted? = none
  /-- A token says the same to everyone who takes it. -/
  steady : ∀ first ∈ events, ∀ second ∈ events, ∀ token claims claims', first.granted? = some (token, claims) →
    second.granted? = some (token, claims') → claims = claims'
  /-- The path ends in an exit of the cohort. -/
  exits : ∀ event ∈ events, ∀ token claims, event.granted? = some (token, claims) → claims.exitSet ≠ [] →
    ∃ exit ∈ claims.exitSet, claims.path = [exit]

namespace TokenWorld

variable {libs : PasetoLibs} {secret : libs.Secret} {public_ : libs.Public} {boot : BootstrapLibs}
  {world next : TokenWorld} {event : TokenEvent libs public_} {events : List (TokenEvent libs public_)}

theorem verify_eq_ok_iff {verifier : PasetoVerifier} {unverified : UnverifiedRegistrationToken} {expectedPeer : PeerId}
    {token : VerifiedRegistrationToken verifier} : unverified.verify verifier expectedPeer = .ok token ↔
      unverified.pasetoToken = token.pasetoToken ∧ token.subject = expectedPeer := by
  refine ⟨RegistrarWorld.verify_ok, fun ⟨same, own⟩ => ?_⟩
  obtain ⟨pasetoToken, claims, vouched⟩ := token
  obtain ⟨text, expiresAt⟩ := unverified
  dsimp only [VerifiedRegistrationToken.subject] at same own
  subst same
  unfold UnverifiedRegistrationToken.verify
  split
  · rename_i error refused
    cases refused.symm.trans vouched
  · rename_i found here
    obtain rfl := Except.ok.inj (here.symm.trans vouched)
    rw [if_neg (not_not.mpr own)]

/-- A verifier takes a token exactly where the key opens it to the peer it is shown for. -/
theorem Step.granted_iff {admissioner : Admissioner libs} (stepped : Step boot admissioner public_ world event next)
    {token : String} {claims : SessionClaims} : event.granted? = some (token, claims) ↔
      ∃ now, event.shown? boot = some ⟨now, token, claims.sub⟩ ∧
        PasetoVerifier.verify libs public_ now token = .ok claims := by
  cases stepped with
  | mint => exact ⟨nofun, nofun⟩
  | @verify now unverified expectedPeer =>
    simp only [TokenEvent.granted?, TokenEvent.shown?, Option.map_eq_some_iff, Except.toOption_eq_some_iff]
    constructor
    · rintro ⟨taken, ok, same⟩
      obtain ⟨text, own⟩ := verify_eq_ok_iff.mp ok
      obtain ⟨rfl, rfl⟩ := Prod.mk.inj same
      exact ⟨now, by rw [text, ← own]; rfl, PasetoVerifier.at_eq_ok_iff.mp taken.vouched⟩
    · rintro ⟨now', shown, verified⟩
      cases shown
      exact ⟨⟨_, claims, PasetoVerifier.at_eq_ok_iff.mpr verified⟩, verify_eq_ok_iff.mpr ⟨rfl, rfl⟩, rfl⟩
  | @bootstrap now ack peerId =>
    simp only [TokenEvent.granted?, TokenEvent.shown?, Option.map_eq_some_iff, Except.toOption_eq_some_iff,
      verifiedToken_eq_ok_iff, Verified, PasetoVerifier.at_eq_ok_iff]
    constructor
    · rintro ⟨parsed, verified, rfl⟩
      exact ⟨now, ⟨token, parsed, rfl⟩, verified⟩
    · rintro ⟨now', ⟨found, parsed, same⟩, verified⟩
      cases same
      exact ⟨parsed, verified, rfl⟩

theorem Step.circulates {admissioner : Admissioner libs} (stepped : Step boot admissioner public_ world event next)
    {now : Timestamp} {token : String} {peerId : PeerId} (shown : event.shown? boot = some ⟨now, token, peerId⟩) :
    world.Circulates libs public_ token := by
  cases stepped with
  | mint => cases shown
  | verify known =>
    cases shown
    exact known
  | @bootstrap now' ack peerId' known =>
    simp only [TokenEvent.shown?, Option.map_eq_some_iff, Except.toOption_eq_some_iff] at shown
    obtain ⟨found, parsed, same⟩ := shown
    cases same
    exact known token parsed

section Sealed

variable {admissioner : Admissioner libs} {token : String} {issued : Timestamp} {claims found : SessionClaims}

theorem Step.granted_sealed (stepped : Step boot admissioner public_ world event next)
    (sealed : Seals libs public_ token issued claims) (granted : event.granted? = some (token, found)) :
    found = claims ∧ ∃ now, event.shown? boot = some ⟨now, token, claims.sub⟩ ∧ issued ≤ now ∧ now ≤ claims.exp := by
  obtain ⟨now, shown, verified⟩ := stepped.granted_iff.mp granted
  obtain ⟨rfl, started, live⟩ := sealed.only now found verified
  exact ⟨rfl, now, shown, started, live⟩

/-- A token is not taken for another peer than it seals, nor outside of its lifetime. -/
theorem Step.not_granted (stepped : Step boot admissioner public_ world event next)
    (sealed : Seals libs public_ token issued claims) {now : Timestamp} {peerId : PeerId}
    (shown : event.shown? boot = some ⟨now, token, peerId⟩)
    (apart : ¬ (peerId = claims.sub ∧ issued ≤ now ∧ now ≤ claims.exp)) : event.granted? = none := by
  cases granted : event.granted? with
  | none => rfl
  | some grant =>
    obtain ⟨held, found⟩ := grant
    obtain ⟨reading, here, _⟩ := stepped.granted_iff.mp granted
    cases shown.symm.trans here
    obtain ⟨rfl, reading', again, started, live⟩ := stepped.granted_sealed sealed granted
    cases shown.symm.trans again
    exact absurd ⟨rfl, started, live⟩ apart

end Sealed

/-- The tokens issued so far, each of which seals what its peer was admitted to. -/
structure Kept (libs : PasetoLibs) (public_ : libs.Public) (events : List (TokenEvent libs public_))
    (world : TokenWorld) : Prop where
  minted : world.minted = events.filterMap TokenEvent.mint?
  seals : ∀ mint ∈ world.minted, Seals libs public_ mint.token mint.issued mint.claims

theorem Kept.unminted (kept : Kept libs public_ events world) (quiet : event.mint? = none) :
    Kept libs public_ (events ++ [event]) world := by
  refine ⟨?_, kept.seals⟩
  rw [Reach.filterMap_snoc, quiet, Option.toList_none, List.append_nil]
  exact kept.minted

theorem Kept.step (laws : PasetoLaws libs secret public_) (kept : Kept libs public_ events world)
    (stepped : Step boot ⟨⟨secret⟩⟩ public_ world event next) : Kept libs public_ (events ++ [event]) next := by
  cases stepped with
  | @mint peerId cohortId cohort created now result issued =>
    constructor
    · rw [kept.minted, Reach.filterMap_snoc]
      rfl
    · intro mint member
      rcases List.mem_append.mp member with earlier | here
      · exact kept.seals mint earlier
      · rw [Option.mem_toList, Option.map_eq_some_iff] at here
        obtain ⟨token, ok, rfl⟩ := here
        rw [Except.toOption_eq_some_iff, ← issued] at ok
        exact Admissioner.issue_seals laws ok
  | verify => exact kept.unminted rfl
  | bootstrap => exact kept.unminted rfl

theorem kept_of_reach (laws : PasetoLaws libs secret public_)
    (run : Reach (Step boot ⟨⟨secret⟩⟩ public_) ⟨[]⟩ events world) : Kept libs public_ events world := by
  induction run with
  | start => exact ⟨rfl, fun mint member => absurd member List.not_mem_nil⟩
  | next _ stepped ih => exact ih.step laws stepped

/-- Over any admissions and any showings of tokens: whoever verifies a token
takes it for one peer alone, to what the coordinator admitted that peer to,
from the issue until the cohort rotates. -/
theorem run_authorises (laws : PasetoLaws libs secret public_)
    (run : Reach (Step boot ⟨⟨secret⟩⟩ public_) ⟨[]⟩ events world) : Authorises boot events := by
  have steps : ∀ before event after, events = before ++ event :: after → ∃ middle next,
      Kept libs public_ before middle ∧ Step boot ⟨⟨secret⟩⟩ public_ middle event next := by
    rintro before event after rfl
    obtain ⟨middle, next, early, stepped, _⟩ := run.step_at
    exact ⟨middle, next, kept_of_reach laws early, stepped⟩
  have earned : ∀ before event after, events = before ++ event :: after → ∀ token claims,
      event.granted? = some (token, claims) → ∃ mint ∈ before.filterMap TokenEvent.mint?, ∃ now,
        event.shown? boot = some ⟨now, token, mint.peerId⟩ ∧ mint.token = token ∧ claims = mint.claims ∧
          mint.issued ≤ now ∧ now ≤ mint.cohort.rotationDeadline ∧
            Seals libs public_ token mint.issued mint.claims := by
    intro before event after whole token claims granted
    obtain ⟨middle, next, kept, stepped⟩ := steps before event after whole
    obtain ⟨now, shown, verified⟩ := stepped.granted_iff.mp granted
    rcases stepped.circulates shown with ⟨mint, minted, rfl⟩ | forged
    · obtain ⟨rfl, started, live⟩ := (kept.seals mint minted).only now claims verified
      exact ⟨mint, kept.minted ▸ minted, now, shown, rfl, rfl, started, live, kept.seals mint minted⟩
    · exact absurd verified (forged_refused forged)
  refine ⟨?_, ?_, ?_, ?_, ?_⟩
  · intro before event after whole token claims granted
    obtain ⟨mint, member, now, shown, same, told, started, live, _⟩ :=
      earned before event after whole token claims granted
    exact ⟨mint, member, now, shown, same, told, started, live⟩
  · intro before event after whole mint member now peerId shown started live
    obtain ⟨middle, next, kept, stepped⟩ := steps before event after whole
    have sealed := kept.seals mint (kept.minted ▸ member)
    by_cases own : peerId = mint.peerId
    · subst own
      rw [if_pos rfl]
      exact stepped.granted_iff.mpr ⟨now, shown, sealed.current now started live⟩
    · rw [if_neg own]
      exact stepped.not_granted sealed shown fun all => own all.1
  · intro before event after whole mint member now peerId shown outside
    obtain ⟨middle, next, kept, stepped⟩ := steps before event after whole
    refine stepped.not_granted (kept.seals mint (kept.minted ▸ member)) shown fun ⟨_, started, live⟩ => ?_
    rcases outside with early | late
    · exact absurd started (not_le_of_gt early)
    · exact absurd live (not_le_of_gt late)
  · intro first firstIn second secondIn token claims claims' granted granted'
    obtain ⟨before, after, whole⟩ := List.append_of_mem firstIn
    obtain ⟨before', after', whole'⟩ := List.append_of_mem secondIn
    obtain ⟨mint, _, _, _, _, rfl, _, _, sealed⟩ := earned before first after whole token claims granted
    obtain ⟨_, _, _, stepped⟩ := steps before' second after' whole'
    exact (stepped.granted_sealed sealed granted').1.symm
  · intro event member token claims granted roster
    obtain ⟨before, after, whole⟩ := List.append_of_mem member
    obtain ⟨mint, _, _, _, _, rfl, _⟩ := earned before event after whole token claims granted
    exact mint.path_exit roster

def firstMinute : Timestamp := Duration.minutes 1

/-- The text forms of the Unix epoch and of the minute after it. -/
def minuteText : TextForm Timestamp :=
  epochText.insert firstMinute "1970-01-01T00:01:00Z" rfl (by decide)

structure DatedClaims where
  iat : Option Timestamp
  nbf : Option Timestamp
  exp : Option Timestamp
  inside : List (String × SessionClaims)
deriving DecidableEq

def DatedClaims.dated (set : Timestamp → DatedClaims) (text : String) : Except String DatedClaims :=
  ((minuteText.parse text).map set).elim (.error "not RFC 3339") .ok

def minuteCohort : CohortRecord :=
  ⟨[⟨7⟩], [⟨3⟩, ⟨4⟩], firstMinute, ""⟩

def minutePayload : DatedClaims :=
  ⟨some 0, some 0, some firstMinute, [(sessionClaimKey, Admissioner.claims ⟨7⟩ ⟨1⟩ minuteCohort)]⟩

/-- A key that has signed for one peer, admitted at the epoch to a cohort that rotates a minute later. -/
def minutePaseto : PasetoLibs where
  Secret := Unit
  Public := Unit
  Claims := DatedClaims
  Untrusted := Unit
  Value := SessionClaims
  rfc3339 := minuteText
  formatError _ := "no text"
  claimsNew created := .ok ⟨some created, some created, some (created + Duration.minutes 60), []⟩
  issuedAt claims := DatedClaims.dated fun moment => { claims with iat := some moment }
  notBefore claims := DatedClaims.dated fun moment => { claims with nbf := some moment }
  expiration claims := DatedClaims.dated fun moment => { claims with exp := some moment }
  addAdditional claims key value := .ok { claims with inside := (key, value) :: claims.inside }
  getClaim claims key := claims.inside.lookup key
  timeOf claims
    | .iat => claims.iat
    | .nbf => claims.nbf
    | .exp => claims.exp
  toValue := .ok
  fromValue := .ok
  sign _ claims := if claims = minutePayload then .ok "v4.public.minute" else .error "no signature"
  tryFrom token := if token = "v4.public.minute" then .ok () else .error "not a token"
  verify now _ _ := if 0 ≤ now ∧ now ≤ firstMinute then .ok (some minutePayload) else .error "claims do not stand"

theorem DatedClaims.dated_ok {set : Timestamp → DatedClaims} {text : String} {next : DatedClaims}
    (ok : dated set text = .ok next) : ∃ moment, minuteText.parse text = some moment ∧ set moment = next :=
  Option.map_eq_some_iff.mp (Except.elim_eq_ok_iff.mp ok)

theorem minutePaseto_opens : minutePaseto.Opens () "v4.public.minute" minutePayload := by
  constructor
  · intro issued notBefore expires now iat _ exp started _ live
    cases iat
    cases exp
    exact ⟨(), rfl, if_pos ⟨started, le_of_lt live⟩⟩
  · intro now untrusted trusted _ verified
    simp only [minutePaseto] at verified
    split at verified
    · rename_i stands
      cases verified
      refine ⟨rfl, ?_, ?_, ?_⟩
      · intro issued iat
        cases iat
        exact stands.1
      · intro notBefore nbf
        cases nbf
        exact stands.1
      · intro expires exp
        cases exp
        exact stands.2
    · cases verified

theorem minutePaseto_laws : PasetoLaws minutePaseto () () where
  issuedAt claims text next set := by
    obtain ⟨moment, parsed, rfl⟩ := DatedClaims.dated_ok set
    refine ⟨parsed.symm, fun other apart => ?_⟩
    cases other with
    | iat => exact absurd rfl apart
    | nbf | exp => rfl
  notBefore claims text next set := by
    obtain ⟨moment, parsed, rfl⟩ := DatedClaims.dated_ok set
    refine ⟨parsed.symm, fun other apart => ?_⟩
    cases other with
    | nbf => exact absurd rfl apart
    | iat | exp => rfl
  expiration claims text next set := by
    obtain ⟨moment, parsed, rfl⟩ := DatedClaims.dated_ok set
    refine ⟨parsed.symm, fun other apart => ?_⟩
    cases other with
    | exp => exact absurd rfl apart
    | iat | nbf => rfl
  additional claims key value next added := by
    cases added
    exact ⟨List.lookup_cons_self, fun claim => by cases claim <;> rfl⟩
  json claims value told := by
    cases told
    rfl
  signed claims token signed := by
    simp only [minutePaseto] at signed
    split at signed
    · rename_i same
      cases signed
      rw [same]
      exact minutePaseto_opens
    · cases signed

def minuteBoot : BootstrapLibs where
  verifies _ _ _ := false
  rfc3339 := unixEpochText
  debugTimestamp _ := ""
  utf8Error _ := ""
  debugPeerId _ := ""

/-- A token shown to two nodes, of which one registers the peer it was issued
to and the other another peer, and shown again when it is too late. -/
theorem run_authorises_shared : ∃ token : VerifiedRegistrationToken (PasetoVerifier.at_ minutePaseto () 30),
    token.claims = Admissioner.claims ⟨7⟩ ⟨1⟩ minuteCohort ∧
      Authorises minuteBoot ([.admitted ⟨7⟩ ⟨1⟩ minuteCohort 0 (.ok "v4.public.minute"),
        .node 30 ⟨"v4.public.minute", 0⟩ ⟨7⟩ (.ok token),
        .node 40 ⟨"v4.public.minute", 0⟩ ⟨8⟩ (.error (.subjectMismatch ⟨7⟩ ⟨8⟩)),
        .node (Duration.minutes 2) ⟨"v4.public.minute", 0⟩ ⟨7⟩
          (.error (.paseto "PASETO operation failed: claims do not stand"))] : List (TokenEvent minutePaseto ())) := by
  have issued : (Admissioner.mk ⟨()⟩ : Admissioner minutePaseto).issue 0 0 ⟨7⟩ ⟨1⟩ minuteCohort =
      .ok "v4.public.minute" := rfl
  have admitted : Reach (Step minuteBoot (Admissioner.mk ⟨()⟩ : Admissioner minutePaseto) ()) ⟨[]⟩
      [.admitted ⟨7⟩ ⟨1⟩ minuteCohort 0 (.ok "v4.public.minute")] _ := Reach.start.next (.mint issued)
  have round : TokenWorld.Circulates minutePaseto () ⟨[⟨⟨7⟩, ⟨1⟩, minuteCohort, 0, "v4.public.minute"⟩]⟩
      "v4.public.minute" := Or.inl ⟨_, List.mem_singleton_self _, rfl⟩
  have own := admitted.next (@Step.verify _ minuteBoot _ _ _ 30 ⟨"v4.public.minute", 0⟩ ⟨7⟩ round)
  have other := own.next (@Step.verify _ minuteBoot _ _ _ 40 ⟨"v4.public.minute", 0⟩ ⟨8⟩ round)
  have late := other.next (@Step.verify _ minuteBoot _ _ _ (Duration.minutes 2) ⟨"v4.public.minute", 0⟩ ⟨7⟩ round)
  exact ⟨⟨"v4.public.minute", _, rfl⟩, rfl, run_authorises minutePaseto_laws late⟩

end TokenWorld

end BiBeam
