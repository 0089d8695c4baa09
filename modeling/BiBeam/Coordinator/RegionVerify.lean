import BiBeam.Coordinator.Audit
import BiBeam.Coordinator.InviteBudget
import BiBeam.Lib.AddressBlock
import BiBeam.Protocol.Multihop
import BiBeam.Runtime.RedactionLayer

namespace BiBeam

def IpNet.contains : IpNet → IpAddr → Bool
  | .v4 addr prefixLen, .v4 ip => AddressBlock.contains addr prefixLen ip
  | .v6 addr prefixLen, .v6 ip => AddressBlock.contains addr prefixLen ip
  | _, _ => false

/-- The address is of the block's family and begins with its prefix. -/
def IpNet.Covers : IpNet → IpAddr → Prop
  | .v4 addr prefixLen, .v4 ip => AddressBlock.SamePrefix prefixLen addr ip
  | .v6 addr prefixLen, .v6 ip => AddressBlock.SamePrefix prefixLen addr ip
  | _, _ => False

theorem IpNet.contains_iff {net : IpNet} {ip : IpAddr} : net.contains ip = true ↔ net.Covers ip := by
  cases net with
  | v4 addr prefixLen =>
    cases ip with
    | v4 ip => exact AddressBlock.contains_iff (Nat.le_of_lt_succ prefixLen.isLt)
    | v6 ip => exact iff_of_false Bool.false_ne_true id
  | v6 addr prefixLen =>
    cases ip with
    | v4 ip => exact iff_of_false Bool.false_ne_true id
    | v6 ip => exact AddressBlock.contains_iff (Nat.le_of_lt_succ prefixLen.isLt)

structure AllowlistCidrs where
  nets : List IpNet

namespace AllowlistCidrs

/-- Malformed entries are dropped. -/
def parse (parseIpNet : String → Option IpNet) (raw : List String) : AllowlistCidrs :=
  ⟨raw.filterMap parseIpNet⟩

def contains (self : AllowlistCidrs) (observedIp : IpAddr) : Bool :=
  self.nets.any fun net => net.contains observedIp

/-- One well-formed entry of the operator's list covers the address. -/
def Allows (parseIpNet : String → Option IpNet) (raw : List String) (ip : IpAddr) : Prop :=
  ∃ entry ∈ raw, ∃ net, parseIpNet entry = some net ∧ net.Covers ip

theorem contains_parse {parseIpNet : String → Option IpNet} {raw : List String} {ip : IpAddr} :
    (parse parseIpNet raw).contains ip = true ↔ Allows parseIpNet raw ip := by
  rw [contains, List.any_eq_true, parse, Allows]
  constructor
  · rintro ⟨net, member, inside⟩
    obtain ⟨entry, listed, parsed⟩ := List.mem_filterMap.mp member
    exact ⟨entry, listed, net, parsed, IpNet.contains_iff.mp inside⟩
  · rintro ⟨entry, listed, net, parsed, covers⟩
    exact ⟨net, List.mem_filterMap.mpr ⟨entry, listed, parsed⟩, IpNet.contains_iff.mpr covers⟩

end AllowlistCidrs

/-- A database of countries: the code for an address, none, or a failure. -/
abbrev CountryLookup := IpAddr → Except String (Option String)

structure CrossCheckRequest where
  lookup : Option CountryLookup
  declaredRegion : String
  observedIp : IpAddr
  allowlist : AllowlistCidrs
  peerId : PeerId

inductive LookupSite
  | register
  | heartbeat
deriving DecidableEq

namespace RegionVerify

inductive Outcome
  | match_
  | skipped
  | mismatch (declared observed : String)
  | lookupFailed
deriving DecidableEq

inductive CountryOrSkip
  | country (code : String)
  | shortCircuit (outcome : Outcome)

def toAsciiLowercase (text : String) : List Char :=
  text.toList.map Char.toLower

def regionMatchesCountry (declaredRegion countryCode : String) : Bool :=
  let region := toAsciiLowercase declaredRegion
  let country := toAsciiLowercase countryCode
  if !country.isPrefixOf region then
    false
  else
    let rest := region.drop country.length
    rest.isEmpty || rest.head? == some '-'

def pullObservedCountry (request : CrossCheckRequest) : CountryOrSkip :=
  match request.lookup with
  | none => .shortCircuit .skipped
  | some reader =>
    if request.declaredRegion.isEmpty then
      .shortCircuit .skipped
    else if request.allowlist.contains request.observedIp then
      .shortCircuit .skipped
    else
      match reader request.observedIp with
      | .ok (some country) => .country country
      | .ok none => .shortCircuit .skipped
      | .error _ => .shortCircuit .lookupFailed

end RegionVerify

def AuditLog.recordRegionMismatch (libs : AdmissionLibs) (key : RedactionKey) (log : AuditLog) (peerId : PeerId)
    (sourceIp : IpAddr) (declared observed : String) : Except StoreError Unit × AuditLog :=
  log.append {
    capturedAt := (log.appends log.calls).1
    kind := .regionMismatch declared observed
    peerToken := some (redactPeerId libs key peerId)
    ipToken := some (redactIp libs key sourceIp)
    detailJson := "" }

namespace RegionVerify

variable (libs : AdmissionLibs) (key : RedactionKey)

/-- The check of one site at the time `now`. A failed append is logged and nothing else. -/
def dispatch (log : AuditLog) (request : CrossCheckRequest) (site : LookupSite) (now : Timestamp) :
    (Outcome × Option Timestamp) × AuditLog :=
  match pullObservedCountry request with
  | .shortCircuit outcome => ((outcome, none), log)
  | .country observedCountry =>
    if regionMatchesCountry request.declaredRegion observedCountry then
      let verifiedAt :=
        match site with
        | .register => none
        | .heartbeat => some now
      ((.match_, verifiedAt), log)
    else
      ((.mismatch request.declaredRegion observedCountry, none),
        (log.recordRegionMismatch libs key request.peerId request.observedIp request.declaredRegion observedCountry).2)

def crossCheckOnRegister (log : AuditLog) (request : CrossCheckRequest) : Outcome × AuditLog :=
  let told := dispatch libs key log request .register 0
  (told.1.1, told.2)

def crossCheckOnHeartbeat (log : AuditLog) (request : CrossCheckRequest) (now : Timestamp) :
    (Outcome × Option Timestamp) × AuditLog :=
  dispatch libs key log request .heartbeat now

/-- A check as a caller makes it. -/
structure Check where
  request : CrossCheckRequest
  site : LookupSite
  now : Timestamp

def perform (log : AuditLog) (check : Check) : (Outcome × Option Timestamp) × AuditLog :=
  match check.site with
  | .register =>
    let (outcome, log) := crossCheckOnRegister libs key log check.request
    ((outcome, none), log)
  | .heartbeat => crossCheckOnHeartbeat libs key log check.request check.now

/-- Checks one after the other on one log, with what each told. -/
def crossChecks (log : AuditLog) : List Check → List (Check × (Outcome × Option Timestamp)) × AuditLog
  | [] => ([], log)
  | check :: rest =>
    let (told, log) := perform libs key log check
    let (results, log) := crossChecks log rest
    ((check, told) :: results, log)

/-- The region lies in the country: it is the country's code, or begins with it
and a dash, in whatever case. -/
def Places (region country : String) : Prop :=
  toAsciiLowercase region = toAsciiLowercase country ∨
    ∃ rest, toAsciiLowercase region = toAsciiLowercase country ++ '-' :: rest

/-- The check gets as far as the database: it is configured, a region was
declared and the address is not on the list. -/
structure Looks (parseIpNet : String → Option IpNet) (raw : List String) (request : CrossCheckRequest)
    (reader : CountryLookup) : Prop where
  configured : request.lookup = some reader
  declared : request.declaredRegion ≠ ""
  unlisted : ¬ AllowlistCidrs.Allows parseIpNet raw request.observedIp

/-- A mismatch that a check has told of. -/
def mismatch? (step : Check × (Outcome × Option Timestamp)) : Option (CrossCheckRequest × String × String) :=
  match step.2.1 with
  | .mismatch declared observed => some (step.1.request, declared, observed)
  | _ => none

/-- The row of the n-th append to the log, unless the append failed. -/
def rowOf (appends : Nat → Timestamp × Option StoreError) :
    (CrossCheckRequest × String × String) × Nat → Option AuditEntry
  | ((request, declared, observed), n) =>
    if (appends n).2.isNone then
      some ⟨(appends n).1, .regionMismatch declared observed, some (redactPeerId libs key request.peerId),
        some (redactIp libs key request.observedIp), ""⟩
    else
      none

/-- What the checks tell and what they leave in the log. -/
structure CrossChecked (parseIpNet : String → Option IpNet) (raw : List String) (log : AuditLog)
    (results : List (Check × (Outcome × Option Timestamp))) (final : AuditLog) : Prop where
  mismatched : ∀ check outcome verifiedAt, (check, outcome, verifiedAt) ∈ results → ∀ declared observed,
    outcome = .mismatch declared observed ↔ declared = check.request.declaredRegion ∧
      ∃ reader, Looks parseIpNet raw check.request reader ∧ reader check.request.observedIp = .ok (some observed) ∧
        ¬ Places check.request.declaredRegion observed
  failed : ∀ check outcome verifiedAt, (check, outcome, verifiedAt) ∈ results → (outcome = .lookupFailed ↔
    ∃ reader error, Looks parseIpNet raw check.request reader ∧ reader check.request.observedIp = .error error)
  verified : ∀ check outcome verifiedAt, (check, outcome, verifiedAt) ∈ results → ∀ time,
    verifiedAt = some time ↔ check.site = .heartbeat ∧ time = check.now ∧ ∃ reader country,
      Looks parseIpNet raw check.request reader ∧ reader check.request.observedIp = .ok (some country) ∧
        Places check.request.declaredRegion country
  rows : final.rows = log.rows ++ ((results.filterMap mismatch?).zipIdx log.calls).filterMap (rowOf libs key log.appends)
  counted : final.calls = log.calls + (results.filterMap mismatch?).length

variable {libs key} {parseIpNet : String → Option IpNet} {raw : List String}

theorem regionMatchesCountry_iff {region country : String} :
    regionMatchesCountry region country = true ↔ Places region country := by
  unfold regionMatchesCountry Places
  dsimp only
  cases begins : (toAsciiLowercase country).isPrefixOf (toAsciiLowercase region) with
  | false =>
    rw [if_pos (by rfl)]
    refine iff_of_false Bool.false_ne_true ?_
    have apart : ¬ toAsciiLowercase country <+: toAsciiLowercase region := by
      rw [← List.isPrefixOf_iff_prefix, begins]
      exact Bool.false_ne_true
    rintro (same | ⟨rest, same⟩)
    · exact apart (same ▸ List.prefix_rfl)
    · exact apart ⟨_, same.symm⟩
  | true =>
    rw [if_neg (by simp)]
    obtain ⟨rest, same⟩ := List.isPrefixOf_iff_prefix.mp begins
    rw [← same, List.drop_left, Bool.or_eq_true, List.isEmpty_iff, beq_iff_eq]
    constructor
    · rintro (rfl | dash)
      · exact Or.inl (List.append_nil _)
      · obtain ⟨tail, rfl⟩ := List.head?_eq_some_iff.mp dash
        exact Or.inr ⟨tail, rfl⟩
    · rintro (whole | ⟨tail, behind⟩)
      · exact Or.inl (List.append_cancel_left (whole.trans (List.append_nil _).symm))
      · rw [List.append_cancel_left behind]
        exact Or.inr rfl

/-- The four ways in which a check gets past or as far as the database. -/
theorem pullObservedCountry_looks {request : CrossCheckRequest} {reader : CountryLookup}
    (shared : request.allowlist = AllowlistCidrs.parse parseIpNet raw) (looks : Looks parseIpNet raw request reader) :
    pullObservedCountry request =
      match reader request.observedIp with
      | .ok (some country) => .country country
      | .ok none => .shortCircuit .skipped
      | .error _ => .shortCircuit .lookupFailed := by
  have declared : request.declaredRegion.isEmpty = false := by
    rw [← Bool.not_eq_true, String.isEmpty_iff]
    exact looks.declared
  have unlisted : request.allowlist.contains request.observedIp = false := by
    rw [← Bool.not_eq_true, shared, AllowlistCidrs.contains_parse]
    exact looks.unlisted
  rw [pullObservedCountry, looks.configured]
  simp only [declared, unlisted, Bool.false_eq_true, if_false]

theorem pullObservedCountry_blind {request : CrossCheckRequest}
    (shared : request.allowlist = AllowlistCidrs.parse parseIpNet raw)
    (blind : ∀ reader, ¬ Looks parseIpNet raw request reader) :
    pullObservedCountry request = .shortCircuit .skipped := by
  rw [pullObservedCountry]
  cases configured : request.lookup with
  | none => rfl
  | some reader =>
    by_cases declared : request.declaredRegion.isEmpty = true
    · simp only [declared, if_true]
    · have listed : request.allowlist.contains request.observedIp = true := by
        by_contra unlisted
        rw [shared, AllowlistCidrs.contains_parse] at unlisted
        rw [String.isEmpty_iff] at declared
        exact blind reader ⟨configured, declared, unlisted⟩
      simp only [declared, listed, Bool.false_eq_true, if_false, if_true]

/-- What one check comes to. -/
inductive Dispatched (libs : AdmissionLibs) (key : RedactionKey) (parseIpNet : String → Option IpNet) (raw : List String)
    (log : AuditLog) (check : Check) : Outcome × Option Timestamp → AuditLog → Prop
  | skipped : (∀ reader, Looks parseIpNet raw check.request reader → reader check.request.observedIp = .ok none) →
      Dispatched libs key parseIpNet raw log check (.skipped, none) log
  | failed {reader error} : Looks parseIpNet raw check.request reader → reader check.request.observedIp = .error error →
      Dispatched libs key parseIpNet raw log check (.lookupFailed, none) log
  | matched {reader country} : Looks parseIpNet raw check.request reader →
      reader check.request.observedIp = .ok (some country) → Places check.request.declaredRegion country →
      Dispatched libs key parseIpNet raw log check
        (.match_, if check.site = .heartbeat then some check.now else none) log
  | mismatched {reader country} : Looks parseIpNet raw check.request reader →
      reader check.request.observedIp = .ok (some country) → ¬ Places check.request.declaredRegion country →
      Dispatched libs key parseIpNet raw log check (.mismatch check.request.declaredRegion country, none)
        (log.recordRegionMismatch libs key check.request.peerId check.request.observedIp check.request.declaredRegion
          country).2

theorem perform_eq (libs : AdmissionLibs) (key : RedactionKey) (log : AuditLog) (check : Check) :
    perform libs key log check = dispatch libs key log check.request check.site check.now := by
  unfold perform
  cases check.site with
  | heartbeat => rfl
  | register =>
    dsimp only [crossCheckOnRegister, dispatch]
    cases pullObservedCountry check.request with
    | shortCircuit outcome => rfl
    | country code =>
      dsimp only
      split <;> rfl

theorem dispatch_dispatched (libs : AdmissionLibs) (key : RedactionKey) (log : AuditLog) {check : Check}
    (shared : check.request.allowlist = AllowlistCidrs.parse parseIpNet raw) :
    Dispatched libs key parseIpNet raw log check (dispatch libs key log check.request check.site check.now).1
      (dispatch libs key log check.request check.site check.now).2 := by
  by_cases looks : ∃ reader, Looks parseIpNet raw check.request reader
  · obtain ⟨reader, looks⟩ := looks
    have pulled := pullObservedCountry_looks shared looks
    cases answer : reader check.request.observedIp with
    | error error =>
      rw [answer] at pulled
      simp only [dispatch, pulled]
      exact .failed looks answer
    | ok found =>
      cases found with
      | none =>
        rw [answer] at pulled
        simp only [dispatch, pulled]
        refine .skipped fun other also => ?_
        obtain rfl : reader = other := Option.some.inj (looks.configured.symm.trans also.configured)
        exact answer
      | some country =>
        rw [answer] at pulled
        by_cases places : Places check.request.declaredRegion country
        · have told : Dispatched libs key parseIpNet raw log check
              (.match_, if check.site = .heartbeat then some check.now else none) log :=
            .matched looks answer places
          simp only [dispatch, pulled, regionMatchesCountry_iff.mpr places, if_true]
          cases site : check.site <;> simpa [site] using told
        · have differs : regionMatchesCountry check.request.declaredRegion country = false := by
            rw [← Bool.not_eq_true, regionMatchesCountry_iff]
            exact places
          simp only [dispatch, pulled, differs, Bool.false_eq_true, if_false]
          exact .mismatched looks answer places
  · have pulled := pullObservedCountry_blind shared fun reader looks' => looks ⟨reader, looks'⟩
    simp only [dispatch, pulled]
    exact .skipped fun reader looks' => absurd ⟨reader, looks'⟩ looks

section Dispatched

variable {log next : AuditLog} {check : Check} {told : Outcome × Option Timestamp}

theorem Looks.unique {request : CrossCheckRequest} {reader other : CountryLookup} (looks : Looks parseIpNet raw request reader)
    (also : Looks parseIpNet raw request other) : reader = other :=
  Option.some.inj (looks.configured.symm.trans also.configured)

theorem Dispatched.mismatched_iff (dispatched : Dispatched libs key parseIpNet raw log check told next)
    (declared observed : String) : told.1 = .mismatch declared observed ↔ declared = check.request.declaredRegion ∧
      ∃ reader, Looks parseIpNet raw check.request reader ∧ reader check.request.observedIp = .ok (some observed) ∧
        ¬ Places check.request.declaredRegion observed := by
  cases dispatched with
  | skipped none =>
    refine iff_of_false nofun fun ⟨_, reader, looks, answer, _⟩ => ?_
    rw [none reader looks] at answer
    cases answer
  | failed looks answer =>
    refine iff_of_false nofun fun ⟨_, reader, also, found, _⟩ => ?_
    rw [looks.unique also, found] at answer
    cases answer
  | matched looks answer places =>
    refine iff_of_false nofun fun ⟨_, reader, also, found, apart⟩ => ?_
    rw [looks.unique also, found] at answer
    cases answer
    exact apart places
  | @mismatched reader country looks answer apart =>
    constructor
    · intro same
      cases same
      exact ⟨rfl, reader, looks, answer, apart⟩
    · rintro ⟨rfl, other, also, found, _⟩
      rw [looks.unique also, found] at answer
      cases answer
      rfl

theorem Dispatched.failed_iff (dispatched : Dispatched libs key parseIpNet raw log check told next) :
    told.1 = .lookupFailed ↔
      ∃ reader error, Looks parseIpNet raw check.request reader ∧ reader check.request.observedIp = .error error := by
  cases dispatched with
  | skipped none =>
    refine iff_of_false nofun fun ⟨reader, _, looks, answer⟩ => ?_
    rw [none reader looks] at answer
    cases answer
  | @failed reader error looks answer => exact iff_of_true rfl ⟨reader, error, looks, answer⟩
  | matched looks answer =>
    refine iff_of_false nofun fun ⟨reader, _, also, broken⟩ => ?_
    rw [looks.unique also, broken] at answer
    cases answer
  | mismatched looks answer =>
    refine iff_of_false nofun fun ⟨reader, _, also, broken⟩ => ?_
    rw [looks.unique also, broken] at answer
    cases answer

theorem Dispatched.verified_iff (dispatched : Dispatched libs key parseIpNet raw log check told next) (time : Timestamp) :
    told.2 = some time ↔ check.site = .heartbeat ∧ time = check.now ∧ ∃ reader country,
      Looks parseIpNet raw check.request reader ∧ reader check.request.observedIp = .ok (some country) ∧
        Places check.request.declaredRegion country := by
  cases dispatched with
  | skipped none =>
    refine iff_of_false nofun fun ⟨_, _, reader, _, looks, answer, _⟩ => ?_
    rw [none reader looks] at answer
    cases answer
  | failed looks answer =>
    refine iff_of_false nofun fun ⟨_, _, reader, _, also, found, _⟩ => ?_
    rw [looks.unique also, found] at answer
    cases answer
  | @matched reader country looks answer places =>
    constructor
    · intro same
      rcases Option.ite_none_right_eq_some.mp same with ⟨beat, now⟩
      exact ⟨beat, (Option.some.inj now).symm, reader, country, looks, answer, places⟩
    · rintro ⟨beat, rfl, _⟩
      exact if_pos beat
  | mismatched looks answer apart =>
    refine iff_of_false nofun fun ⟨_, _, reader, _, also, found, places⟩ => ?_
    rw [looks.unique also, found] at answer
    cases answer
    exact apart places

/-- The log grows by the row of the mismatch that was told of, if there is one and its append succeeds. -/
theorem Dispatched.logs (dispatched : Dispatched libs key parseIpNet raw log check told next) :
    next.appends = log.appends ∧ next.calls = log.calls + (mismatch? (check, told)).toList.length ∧
      next.rows = log.rows ++ (((mismatch? (check, told)).toList).zipIdx log.calls).filterMap (rowOf libs key log.appends) := by
  cases dispatched with
  | skipped => exact ⟨rfl, rfl, (List.append_nil _).symm⟩
  | failed => exact ⟨rfl, rfl, (List.append_nil _).symm⟩
  | matched => exact ⟨rfl, rfl, (List.append_nil _).symm⟩
  | mismatched =>
    simp only [mismatch?, Option.toList_some, List.zipIdx_singleton, List.length_singleton, AuditLog.recordRegionMismatch,
      AuditLog.append]
    cases failure : (log.appends log.calls).2 with
    | some err => exact ⟨rfl, rfl, by simp [rowOf, failure]⟩
    | none => exact ⟨rfl, rfl, by simp [rowOf, failure]⟩

end Dispatched

/-- Every check lets its caller go on; what it leaves behind is one row for each
region that the database contradicts, with the tokens of the peer and the
address and never these themselves. -/
theorem crossChecks_told (libs : AdmissionLibs) (key : RedactionKey) (parseIpNet : String → Option IpNet)
    (raw : List String) (log : AuditLog) (checks : List Check)
    (shared : ∀ check ∈ checks, check.request.allowlist = AllowlistCidrs.parse parseIpNet raw) :
    CrossChecked libs key parseIpNet raw log (crossChecks libs key log checks).1 (crossChecks libs key log checks).2 := by
  induction checks generalizing log with
  | nil =>
    refine ⟨?_, ?_, ?_, (List.append_nil _).symm, rfl⟩ <;> exact fun _ _ _ member => absurd member List.not_mem_nil
  | cons check checks ih =>
    have here := dispatch_dispatched libs key log (shared check List.mem_cons_self)
    have later := ih (dispatch libs key log check.request check.site check.now).2
      fun other member => shared other (List.mem_cons_of_mem _ member)
    rw [crossChecks, perform_eq]
    dsimp only
    generalize dispatch libs key log check.request check.site check.now = told at here later
    obtain ⟨⟨outcome, verifiedAt⟩, middle⟩ := told
    dsimp only at here later ⊢
    obtain ⟨appends, calls, rows⟩ := here.logs
    have parts (results : List (Check × (Outcome × Option Timestamp))) :
        ((check, outcome, verifiedAt) :: results).filterMap mismatch? =
          (mismatch? (check, outcome, verifiedAt)).toList ++ results.filterMap mismatch? := by
      cases found : mismatch? (check, outcome, verifiedAt) with
      | none => rw [List.filterMap_cons_none found]; rfl
      | some row => rw [List.filterMap_cons_some found]; rfl
    refine ⟨fun other found verified member => ?_, fun other found verified member => ?_,
      fun other found verified member => ?_, ?_, ?_⟩
    · rcases List.mem_cons.mp member with same | behind
      · cases same
        exact here.mismatched_iff
      · exact later.mismatched other found verified behind
    · rcases List.mem_cons.mp member with same | behind
      · cases same
        exact here.failed_iff
      · exact later.failed other found verified behind
    · rcases List.mem_cons.mp member with same | behind
      · cases same
        exact here.verified_iff
      · exact later.verified other found verified behind
    · rw [parts, List.zipIdx_append, List.filterMap_append, ← List.append_assoc, ← rows, ← calls, ← appends]
      exact later.rows
    · rw [parts, List.length_append, ← Nat.add_assoc, ← calls]
      exact later.counted

def germanAddress : CountryLookup := fun _ => .ok (some "de")

def declares (region : String) : CrossCheckRequest :=
  ⟨some germanAddress, region, .v4 0xcb007104, ⟨[]⟩, ⟨7⟩⟩

/-- A register whose region the database contradicts, a heartbeat whose region
it confirms, and one contradicted whose row is lost. -/
theorem crossChecks_told_lost :
    ∃ row, CrossChecked codeLibs ⟨Vector.replicate 32 0⟩ (fun _ => none) ["10.0.0.0/33"]
      ⟨[], 0, fun n => (n, if n = 1 then some (.redb "disk full") else none)⟩
      [(⟨declares "us-east", .register, 3⟩, .mismatch "us-east" "de", none),
        (⟨declares "DE-by", .heartbeat, 4⟩, .match_, some 4),
        (⟨declares "dex", .heartbeat, 5⟩, .mismatch "dex" "de", none)]
      ⟨[row], 2, fun n => (n, if n = 1 then some (.redb "disk full") else none)⟩ := by
  refine ⟨_, crossChecks_told codeLibs _ (fun _ => none) ["10.0.0.0/33"] ⟨[], 0, fun n => (n, _)⟩
    [⟨declares "us-east", .register, 3⟩, ⟨declares "DE-by", .heartbeat, 4⟩, ⟨declares "dex", .heartbeat, 5⟩] ?_⟩
  intro check member
  simp only [List.mem_cons, List.not_mem_nil, or_false] at member
  rcases member with rfl | rfl | rfl <;> rfl

end RegionVerify

end BiBeam
