import BiBeam.Discovery.Bootstrap
import BiBeam.Lib.Except

namespace BiBeam

inductive TokenError
  | paseto (error : String)
  | serde (error : String)
  | missingSessionClaim
  | badExpiry (error : String)
deriving DecidableEq

def TokenError.text : TokenError → String
  | paseto error => s!"PASETO operation failed: {error}"
  | serde error => s!"session claim serde error: {error}"
  | missingSessionClaim => "verified PASETO token is missing the bibeam_session claim"
  | badExpiry error => s!"session expiry could not be formatted as RFC 3339: {error}"

/-- The claims of a token that name a time. -/
inductive TimeClaim
  | iat
  | nbf
  | exp
deriving DecidableEq

/-- What tokens take from the libraries: PASETO with its claim sets, RFC 3339 and JSON. -/
structure PasetoLibs where
  Secret : Type
  Public : Type
  Claims : Type
  Untrusted : Type
  Value : Type
  rfc3339 : TextForm Timestamp
  /-- Why a time has no text. -/
  formatError : Timestamp → String
  claimsNew : Timestamp → Except String Claims
  issuedAt : Claims → String → Except String Claims
  notBefore : Claims → String → Except String Claims
  expiration : Claims → String → Except String Claims
  addAdditional : Claims → String → Value → Except String Claims
  getClaim : Claims → String → Option Value
  /-- The time that a claim tells a validation. -/
  timeOf : Claims → TimeClaim → Option Timestamp
  toValue : SessionClaims → Except String Value
  fromValue : Value → Except String SessionClaims
  sign : Secret → Claims → Except String String
  tryFrom : String → Except String Untrusted
  /-- Verify under the default rules at a reading of the clock. -/
  verify : Timestamp → Public → Untrusted → Except String (Option Claims)

def PasetoLibs.format (libs : PasetoLibs) (moment : Timestamp) : Except String String :=
  (libs.rfc3339.print moment).elim (.error (libs.formatError moment)) .ok

/-- The custom claim that the session claims are sealed under. -/
def sessionClaimKey : String := "bibeam_session"

structure PasetoIssuer (libs : PasetoLibs) where
  secret : libs.Secret

/-- Issue a token. The clock is read twice: once for a new set of claims and once for its times. -/
def PasetoIssuer.issue {libs : PasetoLibs} (self : PasetoIssuer libs) (created now : Timestamp)
    (claims : SessionClaims) : Except TokenError String := do
  let pasetoClaims ← (libs.claimsNew created).mapError .paseto
  let now ← (libs.format now).mapError .paseto
  let pasetoClaims ← (libs.issuedAt pasetoClaims now).mapError .paseto
  let pasetoClaims ← (libs.notBefore pasetoClaims now).mapError .paseto
  let exp ← (libs.format claims.exp).mapError .badExpiry
  let pasetoClaims ← (libs.expiration pasetoClaims exp).mapError .paseto
  let payload ← (libs.toValue claims).mapError .serde
  let pasetoClaims ← (libs.addAdditional pasetoClaims sessionClaimKey payload).mapError .paseto
  (libs.sign self.secret pasetoClaims).mapError .paseto

namespace PasetoVerifier

def verify (libs : PasetoLibs) (public_ : libs.Public) (now : Timestamp) (token : String) :
    Except TokenError SessionClaims := do
  let untrusted ← (libs.tryFrom token).mapError .paseto
  let trusted ← (libs.verify now public_ untrusted).mapError .paseto
  let claims ← trusted.elim (.error .missingSessionClaim) .ok
  let value ← (libs.getClaim claims sessionClaimKey).elim (.error .missingSessionClaim) .ok
  (libs.fromValue value).mapError .serde

/-- The verifier of a public key while the clock reads one time. -/
def at_ (libs : PasetoLibs) (public_ : libs.Public) (now : Timestamp) : PasetoVerifier :=
  fun token => (verify libs public_ now token).mapError TokenError.text

variable {libs : PasetoLibs} {public_ : libs.Public} {now : Timestamp} {token : String} {claims : SessionClaims}

theorem at_eq_ok_iff : at_ libs public_ now token = .ok claims ↔ verify libs public_ now token = .ok claims :=
  Except.mapError_eq_ok_iff

theorem verify_eq_ok_iff : verify libs public_ now token = .ok claims ↔ ∃ untrusted payload value,
    libs.tryFrom token = .ok untrusted ∧ libs.verify now public_ untrusted = .ok (some payload) ∧
      libs.getClaim payload sessionClaimKey = some value ∧ libs.fromValue value = .ok claims := by
  simp only [verify, Except.bind_eq_ok_iff, Except.mapError_eq_ok_iff, Except.elim_eq_ok_iff]
  constructor
  · rintro ⟨untrusted, formed, trusted, opened, payload, rfl, value, session, told⟩
    exact ⟨untrusted, payload, value, formed, opened, session, told⟩
  · rintro ⟨untrusted, payload, value, formed, opened, session, told⟩
    exact ⟨untrusted, formed, some payload, opened, payload, rfl, value, session, told⟩

end PasetoVerifier

/-- Setting a claim to a text gives it the time of the text, and leaves the other times. -/
def PasetoLibs.Sets (libs : PasetoLibs) (setter : libs.Claims → String → Except String libs.Claims)
    (claim : TimeClaim) : Prop :=
  ∀ claims text next, setter claims text = .ok next →
    libs.timeOf next claim = libs.rfc3339.parse text ∧
      ∀ other ≠ claim, libs.timeOf next other = libs.timeOf claims other

/-- The token opens to these claims, from its first moment until its expiry. -/
structure PasetoLibs.Opens (libs : PasetoLibs) (public_ : libs.Public) (token : String) (claims : libs.Claims) :
    Prop where
  current : ∀ issued notBefore expires now, libs.timeOf claims .iat = some issued →
    libs.timeOf claims .nbf = some notBefore → libs.timeOf claims .exp = some expires →
    issued ≤ now → notBefore ≤ now → now < expires →
    ∃ untrusted, libs.tryFrom token = .ok untrusted ∧ libs.verify now public_ untrusted = .ok (some claims)
  only : ∀ now untrusted trusted, libs.tryFrom token = .ok untrusted → libs.verify now public_ untrusted = .ok trusted →
    trusted = some claims ∧ (∀ issued, libs.timeOf claims .iat = some issued → issued ≤ now) ∧
      (∀ notBefore, libs.timeOf claims .nbf = some notBefore → notBefore ≤ now) ∧
      ∀ expires, libs.timeOf claims .exp = some expires → now ≤ expires

/-- What issuer and verifier rely on: claims read back as they are set, JSON
gives back what it was made from, and what is signed opens under the public key. -/
structure PasetoLaws (libs : PasetoLibs) (secret : libs.Secret) (public_ : libs.Public) : Prop where
  issuedAt : libs.Sets libs.issuedAt .iat
  notBefore : libs.Sets libs.notBefore .nbf
  expiration : libs.Sets libs.expiration .exp
  additional : ∀ claims key value next, libs.addAdditional claims key value = .ok next →
    libs.getClaim next key = some value ∧ ∀ claim, libs.timeOf next claim = libs.timeOf claims claim
  json : ∀ claims value, libs.toValue claims = .ok value → libs.fromValue value = .ok claims
  signed : ∀ claims token, libs.sign secret claims = .ok token → libs.Opens public_ token claims

/-- A text that the key does not open at any time. -/
def PasetoLibs.Forged (libs : PasetoLibs) (public_ : libs.Public) (token : String) : Prop :=
  ∀ now untrusted, libs.tryFrom token = .ok untrusted → ∃ error, libs.verify now public_ untrusted = .error error

/-- What a token comes to for its verifiers: the session claims sealed in it,
between the time it was issued at and its expiry. -/
structure Seals (libs : PasetoLibs) (public_ : libs.Public) (token : String) (issued : Timestamp)
    (claims : SessionClaims) : Prop where
  current : ∀ now, issued ≤ now → now < claims.exp → PasetoVerifier.verify libs public_ now token = .ok claims
  only : ∀ now found, PasetoVerifier.verify libs public_ now token = .ok found →
    found = claims ∧ issued ≤ now ∧ now ≤ claims.exp

section Spec

variable {libs : PasetoLibs} {secret : libs.Secret} {public_ : libs.Public} {created now : Timestamp}
  {claims : SessionClaims} {token : String}

theorem parse_of_format {moment : Timestamp} {text : String} (printed : libs.format moment = .ok text) :
    libs.rfc3339.parse text = some moment :=
  libs.rfc3339.parse_print (Except.elim_eq_ok_iff.mp printed)

/-- An issued token opens to a set of claims with the session claims among
them, dated from the issue to their expiry. -/
theorem issue_opens (laws : PasetoLaws libs secret public_)
    (issued : (PasetoIssuer.mk secret).issue created now claims = .ok token) :
    ∃ payload value, libs.Opens public_ token payload ∧ libs.timeOf payload .iat = some now ∧
      libs.timeOf payload .nbf = some now ∧ libs.timeOf payload .exp = some claims.exp ∧
      libs.getClaim payload sessionClaimKey = some value ∧ libs.fromValue value = .ok claims := by
  simp only [PasetoIssuer.issue, Except.bind_eq_ok_iff, Except.mapError_eq_ok_iff] at issued
  obtain ⟨blank, _, nowText, nowPrinted, dated, atIssued, started, atStart, expText, expPrinted, ended, atEnd, value,
    json, payload, atSession, signed⟩ := issued
  have iat := laws.issuedAt _ _ _ atIssued
  have nbf := laws.notBefore _ _ _ atStart
  have exp := laws.expiration _ _ _ atEnd
  have session := laws.additional _ _ _ _ atSession
  refine ⟨payload, value, laws.signed _ _ signed, ?_, ?_, ?_, session.1, laws.json _ _ json⟩
  · rw [session.2, exp.2 _ (by decide), nbf.2 _ (by decide), iat.1, parse_of_format nowPrinted]
  · rw [session.2, exp.2 _ (by decide), nbf.1, parse_of_format nowPrinted]
  · rw [session.2, exp.1, parse_of_format expPrinted]

theorem issue_seals (laws : PasetoLaws libs secret public_)
    (issued : (PasetoIssuer.mk secret).issue created now claims = .ok token) : Seals libs public_ token now claims := by
  obtain ⟨payload, value, opens, iat, nbf, exp, session, json⟩ := issue_opens laws issued
  constructor
  · intro reading started live
    obtain ⟨untrusted, formed, opened⟩ := opens.current _ _ _ reading iat nbf exp started started live
    exact PasetoVerifier.verify_eq_ok_iff.mpr ⟨untrusted, payload, value, formed, opened, session, json⟩
  · intro reading found verified
    obtain ⟨untrusted, inside, sealed, formed, opened, claimed, told⟩ := PasetoVerifier.verify_eq_ok_iff.mp verified
    obtain ⟨same, started, _, live⟩ := opens.only _ _ _ formed opened
    obtain rfl := Option.some.inj same
    obtain rfl := Option.some.inj (session.symm.trans claimed)
    exact ⟨Except.ok.inj (told.symm.trans json), started _ iat, live _ exp⟩

theorem forged_refused (forged : libs.Forged public_ token) :
    PasetoVerifier.verify libs public_ now token ≠ .ok claims := by
  intro verified
  obtain ⟨untrusted, _, _, formed, opened, _⟩ := PasetoVerifier.verify_eq_ok_iff.mp verified
  obtain ⟨error, refused⟩ := forged now untrusted formed
  cases refused.symm.trans opened

end Spec

end BiBeam
