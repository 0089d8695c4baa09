import BiBeam.Coordinator.Cohorts
import BiBeam.Crypto.Token

namespace BiBeam

inductive AdmissionError
  | token (error : TokenError)
deriving DecidableEq

/-- The coordinator's minter of session tokens. -/
structure Admissioner (libs : PasetoLibs) where
  issuer : PasetoIssuer libs

/-- What a peer is authorised to in a cohort. The path is a single hop: the first exit. -/
def Admissioner.claims (peerId : PeerId) (cohortId : CohortId) (cohort : CohortRecord) : SessionClaims :=
  ⟨peerId, cohortId, cohort.rotationDeadline, cohort.exits, cohort.exits.take 1⟩

def Admissioner.issue {libs : PasetoLibs} (self : Admissioner libs) (created now : Timestamp) (peerId : PeerId)
    (cohortId : CohortId) (cohort : CohortRecord) : Except AdmissionError String :=
  (self.issuer.issue created now (claims peerId cohortId cohort)).mapError .token

/-- A token with the admission that it was issued for. -/
structure Mint where
  peerId : PeerId
  cohortId : CohortId
  cohort : CohortRecord
  issued : Timestamp
  token : String

def Mint.claims (self : Mint) : SessionClaims :=
  Admissioner.claims self.peerId self.cohortId self.cohort

theorem Admissioner.issue_seals {libs : PasetoLibs} {secret : libs.Secret} {public_ : libs.Public}
    (laws : PasetoLaws libs secret public_) {created now : Timestamp} {peerId : PeerId} {cohortId : CohortId}
    {cohort : CohortRecord} {token : String}
    (issued : (Admissioner.mk ⟨secret⟩).issue created now peerId cohortId cohort = .ok token) :
    Seals libs public_ token now (claims peerId cohortId cohort) :=
  BiBeam.issue_seals laws (Except.mapError_eq_ok_iff.mp issued)

/-- The path ends in an exit of the cohort. -/
theorem Mint.path_exit (self : Mint) (roster : self.claims.exitSet ≠ []) :
    ∃ exit ∈ self.claims.exitSet, self.claims.path = [exit] := by
  obtain ⟨exit, rest, exits⟩ := List.exists_cons_of_ne_nil roster
  refine ⟨exit, ?_, ?_⟩
  · rw [exits]
    exact List.mem_cons_self
  · have first : self.claims.path = self.claims.exitSet.take 1 := rfl
    rw [first, exits, List.take_succ_cons, List.take_zero]

end BiBeam
