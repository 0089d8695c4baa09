import BiBeam.Discovery.Bootstrap

namespace BiBeam

variable {C : Type}

namespace CoordinatorCall

def isMatch : CoordinatorCall C → Bool
  | register _ _ _ => false
  | match_ _ _ _ _ => true

/-- The coordinator refused to register the peer or could not be reached. -/
def Failed (call : CoordinatorCall C) : Prop :=
  ∃ client request err, call = .register client request (.error err)

end CoordinatorCall

/-- The token of a registration verifies and is the peer's own. -/
def Verified (libs : BootstrapLibs) (verifier : PasetoVerifier) (peerId : PeerId) (ack : RegisterAck) (token : String)
    (claims : SessionClaims) : Prop :=
  parseSessionToken libs ack.sessionToken = .ok token ∧ verifier token = .ok claims ∧ claims.sub = peerId

theorem verifiedToken_eq_ok_iff {libs : BootstrapLibs} {verifier : PasetoVerifier} {peerId : PeerId} {ack : RegisterAck}
    {token : String} {claims : SessionClaims} :
    SessionBootstrap.verifiedToken libs verifier peerId ack = .ok (token, claims) ↔
      Verified libs verifier peerId ack token claims := by
  rw [SessionBootstrap.verifiedToken, Except.bind_eq_ok_iff]
  constructor
  · rintro ⟨found, parsed, run⟩
    cases sealed : verifier found with
    | error text =>
      rw [sealed] at run
      cases run
    | ok inside =>
      rw [sealed] at run
      dsimp only at run
      split at run
      · cases run
      · rename_i own
        cases run
        exact ⟨parsed, sealed, not_not.mp own⟩
  · rintro ⟨parsed, sealed, own⟩
    refine ⟨token, parsed, ?_⟩
    rw [sealed]
    dsimp only
    rw [if_neg (not_not.mpr own)]
    rfl

/-- What a bootstrap can do: it is refused by the invite, by every
coordinator, or by the token of the one that registered the peer; or it asks
that one for a match. -/
inductive Bootstrapped (libs : BootstrapLibs) (verifier : PasetoVerifier) (peerId : PeerId) (refused : Prop) :
    List (CoordinatorCall C) → Except DiscoveryError BootstrappedSession → Prop
  | uninvited {err} : refused → Bootstrapped libs verifier peerId refused [] (.error err)
  | unregistered {front client request err} : ¬ refused → (∀ call ∈ front, call.Failed) →
      Bootstrapped libs verifier peerId refused (front ++ [.register client request (.error err)]) (.error err)
  | unverified {front client request ack err} : ¬ refused → (∀ call ∈ front, call.Failed) →
      (∀ token claims, ¬ Verified libs verifier peerId ack token claims) →
      Bootstrapped libs verifier peerId refused (front ++ [.register client request (.ok ack)]) (.error err)
  | matched {front client request ack token claims matchRequest answer live} : ¬ refused →
      (∀ call ∈ front, call.Failed) → Verified libs verifier peerId ack token claims →
      Bootstrapped libs verifier peerId refused
        (front ++ [.register client request (.ok ack)] ++ [.match_ client matchRequest token answer])
        (answer.bind (sessionOf live token claims))

theorem bootstrap_spec (libs : BootstrapLibs) (clock : BootstrapClock) (coordinators : CoordinatorClient C)
    (self : SessionBootstrap C) (signedInvite : SignedInvite) (profile : PeerProfile) (verifier : PasetoVerifier) :
    Bootstrapped libs verifier profile.peerId
      (verifyInvite libs.toInviteLibs clock.verify signedInvite self.coordPubkey ≠ .ok ())
      (self.bootstrap libs clock coordinators signedInvite profile verifier).calls
      (self.bootstrap libs clock coordinators signedInvite profile verifier).result := by
  unfold SessionBootstrap.bootstrap
  cases invited : verifyInvite libs.toInviteLibs clock.verify signedInvite self.coordPubkey with
  | error err => exact .uninvited fun same => by cases same
  | ok =>
    dsimp only
    generalize Register.mk profile.peerId profile.addrHint profile.canExit profile.capacityHint clock.register = register
    obtain ⟨front, last, calls, failing, result⟩ := self.pool.tryEach_split fun client => do
      let ack ← coordinators.register client register
      return (client, ack)
    have allowed : ¬ (Except.ok () : Except DiscoveryError Unit) ≠ .ok () := not_not.mpr rfl
    let registered := fun client => CoordinatorCall.register client register (coordinators.register client register)
    have failed : ∀ call ∈ front.map registered, call.Failed := by
      intro call member
      obtain ⟨client, inFront, rfl⟩ := List.mem_map.mp member
      obtain ⟨err, outcome⟩ := failing client inFront
      refine ⟨client, register, err, ?_⟩
      cases answer : coordinators.register client register with
      | error other =>
        rw [answer] at outcome
        cases outcome
        exact congrArg (CoordinatorCall.register client register) answer
      | ok ack =>
        rw [answer] at outcome
        cases outcome
    rw [calls, result, List.map_append, List.map_singleton]
    cases answer : coordinators.register last register with
    | error err => exact .unregistered allowed failed
    | ok ack =>
      dsimp only [bind, Except.bind, pure, Except.pure]
      cases token : SessionBootstrap.verifiedToken libs verifier profile.peerId ack with
      | error err =>
        refine .unverified allowed failed fun sessionToken claims verified => ?_
        rw [verifiedToken_eq_ok_iff.mpr verified] at token
        cases token
      | ok verified => exact .matched allowed failed (verifiedToken_eq_ok_iff.mp token)

/-- What the requests of a bootstrap and its result always satisfy. -/
structure BootstrapSafe (libs : BootstrapLibs) (verifier : PasetoVerifier) (peerId : PeerId) (refused : Prop)
    (calls : List (CoordinatorCall C)) (result : Except DiscoveryError BootstrappedSession) : Prop where
  uninvited : refused → calls = []
  matchOnce : calls.countP CoordinatorCall.isMatch ≤ 1
  /-- Right before a match its coordinator registered the peer, with a token that verified. -/
  matchBound : ∀ before client request token answer after, calls = before ++ .match_ client request token answer :: after →
    ∃ earlier register ack claims, before = earlier ++ [.register client register (.ok ack)] ∧
      Verified libs verifier peerId ack token claims
  matchLast : ∀ before client request token answer after, calls = before ++ .match_ client request token answer :: after →
    after = []
  unverifiedLast : ∀ before client request ack after, calls = before ++ .register client request (.ok ack) :: after →
    (∀ token claims, ¬ Verified libs verifier peerId ack token claims) → after = []
  session : ∀ session, result = .ok session → ∃ earlier client register ack request single,
    calls = earlier ++ [.register client register (.ok ack)] ++
        [.match_ client request session.sessionToken (.ok (.singleHop single))] ∧
      Verified libs verifier peerId ack session.sessionToken session.claims ∧
      session.cohortLive.cohort = single.cohort ∧ session.cohortLive.exits = single.exitSet

variable {libs : BootstrapLibs} {verifier : PasetoVerifier} {peerId : PeerId} {refused : Prop}
  {front : List (CoordinatorCall C)}

theorem count_failed (failed : ∀ call ∈ front, call.Failed) : front.countP CoordinatorCall.isMatch = 0 := by
  rw [List.countP_eq_zero]
  intro call member
  obtain ⟨client, request, err, rfl⟩ := failed call member
  exact Bool.false_ne_true

theorem match_notMem_failed (failed : ∀ call ∈ front, call.Failed) {client : C} {request : MatchRequest} {token : String}
    {answer : Except DiscoveryError MatchResponse} : CoordinatorCall.match_ client request token answer ∉ front := by
  intro member
  obtain ⟨_, _, _, same⟩ := failed _ member
  cases same

theorem registered_notMem_failed (failed : ∀ call ∈ front, call.Failed) {client : C} {request : Register}
    {ack : RegisterAck} : CoordinatorCall.register client request (.ok ack) ∉ front := by
  intro member
  obtain ⟨_, _, _, same⟩ := failed _ member
  cases same

/-- A run whose last registration goes no further sends no match. -/
theorem BootstrapSafe.of_register {client : C} {request : Register} {answer : Except DiscoveryError RegisterAck}
    {err : DiscoveryError} (invited : ¬ refused) (failed : ∀ call ∈ front, call.Failed) :
    BootstrapSafe libs verifier peerId refused (front ++ [.register client request answer]) (.error err) := by
  have noMatch : ∀ before client' request' token answer' after,
      front ++ [.register client request answer] ≠ before ++ .match_ client' request' token answer' :: after := by
    intro before client' request' token answer' after split
    have member : CoordinatorCall.match_ client' request' token answer' ∈
        before ++ .match_ client' request' token answer' :: after := List.mem_append_right before List.mem_cons_self
    rw [← split, List.mem_append, List.mem_singleton] at member
    rcases member with inFront | same
    · exact match_notMem_failed failed inFront
    · cases same
  refine ⟨fun isRefused => absurd isRefused invited, ?_, ?_, ?_, ?_, ?_⟩
  · rw [List.countP_append, count_failed failed]
    exact Nat.zero_le 1
  · exact fun before client' request' token answer' after split => absurd split (noMatch _ _ _ _ _ _)
  · exact fun before client' request' token answer' after split => absurd split (noMatch _ _ _ _ _ _)
  · intro before client' request' ack after split _
    have parts := (List.append_cons_inj_of_notMem (registered_notMem_failed failed) List.not_mem_nil).mp split
    exact parts.2.2.symm
  · intro session answered
    cases answered

theorem Bootstrapped.safe {calls : List (CoordinatorCall C)} {result : Except DiscoveryError BootstrappedSession}
    (run : Bootstrapped libs verifier peerId refused calls result) :
    BootstrapSafe libs verifier peerId refused calls result := by
  cases run with
  | uninvited isRefused =>
    refine ⟨fun _ => rfl, Nat.zero_le 1, ?_, ?_, ?_, ?_⟩
    · exact fun before _ _ _ _ after split => absurd split.symm (by simp)
    · exact fun before _ _ _ _ after split => absurd split.symm (by simp)
    · exact fun before _ _ _ after split => absurd split.symm (by simp)
    · intro session answered
      cases answered
  | unregistered invited failed => exact .of_register invited failed
  | unverified invited failed _ => exact .of_register invited failed
  | @matched front client request ack token claims matchRequest answer live invited failed verified =>
    have matchAt : ∀ before client' request' token' answer' after, front ++ [.register client request (.ok ack)] ++
        [.match_ client matchRequest token answer] = before ++ .match_ client' request' token' answer' :: after →
        before = front ++ [.register client request (.ok ack)] ∧ client' = client ∧ token' = token ∧ after = [] := by
      intro before client' request' token' answer' after split
      have inFront : CoordinatorCall.match_ client' request' token' answer' ∉
          front ++ [.register client request (.ok ack)] := by
        rw [List.mem_append, not_or, List.mem_singleton]
        exact ⟨match_notMem_failed failed, fun same => by cases same⟩
      obtain ⟨rfl, same, rfl⟩ := (List.append_cons_inj_of_notMem inFront List.not_mem_nil).mp split
      cases same
      exact ⟨rfl, rfl, rfl, rfl⟩
    refine ⟨fun isRefused => absurd isRefused invited, ?_, ?_, ?_, ?_, ?_⟩
    · rw [List.countP_append, List.countP_append, count_failed failed]
      exact Nat.le_refl 1
    · intro before client' request' token' answer' after split
      obtain ⟨rfl, rfl, rfl, _⟩ := matchAt _ _ _ _ _ _ split
      exact ⟨front, request, ack, claims, rfl, verified⟩
    · intro before client' request' token' answer' after split
      exact (matchAt _ _ _ _ _ _ split).2.2.2
    · intro before client' request' ack' after split unverified
      have member : CoordinatorCall.register client' request' (.ok ack') ∈
          before ++ .register client' request' (.ok ack') :: after := List.mem_append_right before List.mem_cons_self
      rw [← split, List.mem_append, List.mem_append, List.mem_singleton, List.mem_singleton] at member
      rcases member with (inFront | same) | same
      · exact absurd inFront (registered_notMem_failed failed)
      · cases same
        exact absurd verified (unverified token claims)
      · cases same
    · intro session answered
      cases answer with
      | error err => cases answered
      | ok response =>
        cases response with
        | singleHop single =>
          cases answered
          exact ⟨front, client, request, ack, matchRequest, single, rfl, verified, rfl, rfl⟩
        | multiHopAssignment assignment => cases answered

/-- Whatever the pool, the invite, the verifier and the answers of the
coordinators are, a bootstrap keeps to its protocol. -/
theorem bootstrap_safe (libs : BootstrapLibs) (clock : BootstrapClock) (coordinators : CoordinatorClient C)
    (self : SessionBootstrap C) (signedInvite : SignedInvite) (profile : PeerProfile) (verifier : PasetoVerifier) :
    BootstrapSafe libs verifier profile.peerId
      (verifyInvite libs.toInviteLibs clock.verify signedInvite self.coordPubkey ≠ .ok ())
      (self.bootstrap libs clock coordinators signedInvite profile verifier).calls
      (self.bootstrap libs clock coordinators signedInvite profile verifier).result :=
  (bootstrap_spec libs clock coordinators self signedInvite profile verifier).safe

end BiBeam
