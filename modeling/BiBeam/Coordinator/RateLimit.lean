import BiBeam.Lib.Except
import BiBeam.Lib.KeyedCells
import BiBeam.Node.RateLimit

namespace BiBeam

inductive Route
  | register
  | match_
  | heartbeat
  | disconnect
deriving DecidableEq

def Route.text : Route → String
  | .register => "register"
  | .match_ => "match"
  | .heartbeat => "heartbeat"
  | .disconnect => "disconnect"

structure LimitConfig where
  perIpRegister : UInt32
  perIpMatch : UInt32
  perIpHeartbeat : UInt32
  perIpDisconnect : UInt32
  perPeerMatch : UInt32
  perPeerHeartbeat : UInt32

structure RateLimitDenied where
  route : String
  scope : String
deriving DecidableEq

def quotaPerMinute (rate : UInt32) (field : String) : Except RateLimitConfigError Quota :=
  if positive : 0 < rate.toNat then .ok ⟨rate.toNat, 60000000000, positive⟩ else .error (.zeroBudget field)

/-- The keyed limiters of the rate-limit library. -/
structure Governor where
  ip : KeyedCells IpAddr Quota Timestamp
  peer : KeyedCells PeerId Quota Timestamp

/-- What is asked of a route: whether an address or a peer may use it now. -/
inductive RouteScope
  | ip (sourceIp : IpAddr)
  | peer (peerId : PeerId)
deriving DecidableEq

structure RouteLimiter (governor : Governor) where
  routeName : String
  ip : governor.ip.Store
  peer : Option governor.peer.Store

structure RouteLimits (governor : Governor) where
  register : RouteLimiter governor
  match_ : RouteLimiter governor
  heartbeat : RouteLimiter governor
  disconnect : RouteLimiter governor

open KeyedCells (rowsAt rowsAt_cons rowsAt_map)

namespace RouteLimiter

variable {governor : Governor} (ipText : IpAddr → String) (text : Ulid → String)

def new (governor : Governor) (routeName : String) (perIpPerMinute : UInt32) (perPeerPerMinute : Option UInt32) :
    Except RateLimitConfigError (RouteLimiter governor) := do
  let ipQuota ← quotaPerMinute perIpPerMinute "per_ip_per_minute"
  match perPeerPerMinute with
  | some rate =>
    let quota ← quotaPerMinute rate "per_peer_per_minute"
    return ⟨routeName, governor.ip.keyed ipQuota, some (governor.peer.keyed quota)⟩
  | none => return ⟨routeName, governor.ip.keyed ipQuota, none⟩

/-- What a check gives back, by the answer of the limiter at its key. -/
def checked (routeName scope : String) (admitted : Bool) : Except RateLimitDenied Unit :=
  if admitted then .ok () else .error ⟨routeName, scope⟩

def checkIp (route : RouteLimiter governor) (sourceIp : IpAddr) (now : Timestamp) :
    Except RateLimitDenied Unit × RouteLimiter governor :=
  let answer := governor.ip.checkKey route.ip sourceIp now
  (checked route.routeName ("ip:" ++ ipText sourceIp) answer.1, { route with ip := answer.2 })

/-- A route without a cap for peers passes every one of them. -/
def checkPeer (route : RouteLimiter governor) (peerId : PeerId) (now : Timestamp) :
    Except RateLimitDenied Unit × RouteLimiter governor :=
  match route.peer with
  | none => (.ok (), route)
  | some store =>
    let answer := governor.peer.checkKey store peerId now
    (checked route.routeName ("peer:" ++ text peerId.ulid) answer.1, { route with peer := some answer.2 })

def check (route : RouteLimiter governor) (now : Timestamp) :
    RouteScope → Except RateLimitDenied Unit × RouteLimiter governor
  | .ip sourceIp => route.checkIp ipText sourceIp now
  | .peer peerId => route.checkPeer text peerId now

/-- Checks of one route, with what each gave back. -/
def checks : RouteLimiter governor → List (RouteScope × Timestamp) →
    List (RouteScope × Timestamp × Except RateLimitDenied Unit)
  | _, [] => []
  | route, (scope, now) :: rest =>
    (scope, now, (route.check ipText text now scope).1) :: checks (route.check ipText text now scope).2 rest

def scopeText : RouteScope → String
  | .ip sourceIp => "ip:" ++ ipText sourceIp
  | .peer peerId => "peer:" ++ text peerId.ulid

/-- The cap that a route limiter is built with for an address or a peer. -/
def capOf (perIpPerMinute : UInt32) (perPeerPerMinute : Option UInt32) : RouteScope → Option UInt32
  | .ip _ => some perIpPerMinute
  | .peer _ => perPeerPerMinute

section Rows

variable {β : Type}

/-- What a list of rows says of addresses. -/
def ipRows (rows : List (RouteScope × β)) : List (IpAddr × β) :=
  rows.filterMap fun
    | (.ip sourceIp, row) => some (sourceIp, row)
    | (.peer _, _) => none

def peerRows (rows : List (RouteScope × β)) : List (PeerId × β) :=
  rows.filterMap fun
    | (.peer peerId, row) => some (peerId, row)
    | (.ip _, _) => none

theorem rowsAt_ip (sourceIp : IpAddr) (rows : List (RouteScope × β)) :
    rowsAt (.ip sourceIp) rows = rowsAt sourceIp (ipRows rows) := by
  induction rows with
  | nil => rfl
  | cons row rest ih =>
    obtain ⟨scope, value⟩ := row
    rw [rowsAt_cons, ih]
    cases scope with
    | ip addr =>
      change _ = rowsAt sourceIp ((addr, value) :: ipRows rest)
      rw [rowsAt_cons]
      by_cases same : addr = sourceIp
      · rw [if_pos same, if_pos (congrArg RouteScope.ip same)]
      · rw [if_neg same, if_neg fun eq => same (RouteScope.ip.inj eq)]
    | peer peerId => exact if_neg nofun

theorem rowsAt_peer (peerId : PeerId) (rows : List (RouteScope × β)) :
    rowsAt (.peer peerId) rows = rowsAt peerId (peerRows rows) := by
  induction rows with
  | nil => rfl
  | cons row rest ih =>
    obtain ⟨scope, value⟩ := row
    rw [rowsAt_cons, ih]
    cases scope with
    | peer asked =>
      change _ = rowsAt peerId ((asked, value) :: peerRows rest)
      rw [rowsAt_cons]
      by_cases same : asked = peerId
      · rw [if_pos same, if_pos (congrArg RouteScope.peer same)]
      · rw [if_neg same, if_neg fun eq => same (RouteScope.peer.inj eq)]
    | ip addr => exact if_neg nofun

end Rows

variable {ipText text} {route : RouteLimiter governor} {quota : Quota}

theorem quotaPerMinute_ok {rate : UInt32} {field : String} (ok : quotaPerMinute rate field = .ok quota) :
    quota.maxBurst = rate.toNat ∧ quota.period = 60000000000 := by
  rw [quotaPerMinute] at ok
  split at ok
  · cases ok
    exact ⟨rfl, rfl⟩
  · cases ok

/-- A route limiter as it is built, by its caps. -/
structure Fresh (routeName : String) (perIpPerMinute : UInt32) (perPeerPerMinute : Option UInt32)
    (route : RouteLimiter governor) : Prop where
  name : route.routeName = routeName
  ip : ∃ quota : Quota, quota.maxBurst = perIpPerMinute.toNat ∧ quota.period = 60000000000 ∧
    route.ip = governor.ip.keyed quota
  capped : ∀ rate, perPeerPerMinute = some rate → ∃ quota : Quota, quota.maxBurst = rate.toNat ∧
    quota.period = 60000000000 ∧ route.peer = some (governor.peer.keyed quota)
  uncapped : perPeerPerMinute = none → route.peer = none

theorem new_fresh {routeName : String} {perIpPerMinute : UInt32} {perPeerPerMinute : Option UInt32}
    (built : new governor routeName perIpPerMinute perPeerPerMinute = .ok route) :
    route.Fresh routeName perIpPerMinute perPeerPerMinute := by
  rw [new] at built
  obtain ⟨ipQuota, ipOk, rest⟩ := Except.of_bind_ok built
  obtain ⟨ipBurst, ipPeriod⟩ := quotaPerMinute_ok ipOk
  cases perPeerPerMinute with
  | none =>
    cases rest
    exact ⟨rfl, ⟨ipQuota, ipBurst, ipPeriod, rfl⟩, nofun, fun _ => rfl⟩
  | some rate =>
    obtain ⟨quota, ok, built⟩ := Except.of_bind_ok rest
    obtain ⟨burst, period⟩ := quotaPerMinute_ok ok
    cases built
    refine ⟨rfl, ⟨ipQuota, ipBurst, ipPeriod, rfl⟩, fun other cap => ?_, nofun⟩
    cases cap
    exact ⟨quota, burst, period, rfl⟩

/-- The addresses' checks go to the addresses' store, whatever the peers ask. -/
theorem ipRows_checks (asked : List (RouteScope × Timestamp)) :
    ipRows (route.checks ipText text asked) = (governor.ip.told route.ip (ipRows asked)).map fun row =>
      (row.1, row.2.1, checked route.routeName ("ip:" ++ ipText row.1) row.2.2) := by
  induction asked generalizing route with
  | nil => rfl
  | cons row rest ih =>
    obtain ⟨scope, now⟩ := row
    cases scope with
    | ip sourceIp => exact congrArg _ ih
    | peer peerId =>
      have left : (route.checkPeer text peerId now).2.ip = route.ip ∧
          (route.checkPeer text peerId now).2.routeName = route.routeName := by
        rw [checkPeer]
        cases route.peer <;> exact ⟨rfl, rfl⟩
      change ipRows ((route.checkPeer text peerId now).2.checks ipText text rest) = _
      rw [ih, left.1, left.2]
      rfl

theorem peerRows_checks {store : governor.peer.Store} (capped : route.peer = some store)
    (asked : List (RouteScope × Timestamp)) :
    peerRows (route.checks ipText text asked) = (governor.peer.told store (peerRows asked)).map fun row =>
      (row.1, row.2.1, checked route.routeName ("peer:" ++ text row.1.ulid) row.2.2) := by
  induction asked generalizing route store with
  | nil => rfl
  | cons row rest ih =>
    obtain ⟨scope, now⟩ := row
    cases scope with
    | ip sourceIp => exact ih capped
    | peer peerId =>
      have told : route.checkPeer text peerId now =
          (checked route.routeName ("peer:" ++ text peerId.ulid) (governor.peer.checkKey store peerId now).1,
            { route with peer := some (governor.peer.checkKey store peerId now).2 }) := by
        rw [checkPeer, capped]
      change (peerId, now, (route.checkPeer text peerId now).1) ::
        peerRows ((route.checkPeer text peerId now).2.checks ipText text rest) = _
      rw [told]
      exact congrArg _ (ih rfl)

theorem peerRows_checks_uncapped (uncapped : route.peer = none) (asked : List (RouteScope × Timestamp)) :
    peerRows (route.checks ipText text asked) = (peerRows asked).map fun row => (row.1, row.2, .ok ()) := by
  induction asked generalizing route with
  | nil => rfl
  | cons row rest ih =>
    obtain ⟨scope, now⟩ := row
    cases scope with
    | ip sourceIp => exact ih uncapped
    | peer peerId =>
      have told : route.checkPeer text peerId now = (.ok (), route) := by rw [checkPeer, uncapped]
      change (peerId, now, (route.checkPeer text peerId now).1) ::
        peerRows ((route.checkPeer text peerId now).2.checks ipText text rest) = _
      rw [told]
      exact congrArg _ (ih uncapped)

/-- At a cap an address or a peer of a new route is told what a limiter of its
own, with that cap, would tell it. -/
theorem Fresh.told {σ : Type} {limiter : Quota → Cell σ Timestamp} {routeName : String} {perIpPerMinute : UInt32}
    {perPeerPerMinute : Option UInt32} (perIp : governor.ip.PerKey limiter) (perPeer : governor.peer.PerKey limiter)
    (fresh : route.Fresh routeName perIpPerMinute perPeerPerMinute) {scope : RouteScope} {rate : UInt32}
    (cap : capOf perIpPerMinute perPeerPerMinute scope = some rate) (asked : List (RouteScope × Timestamp)) :
    ∃ quota : Quota, quota.maxBurst = rate.toNat ∧ quota.period = 60000000000 ∧
      rowsAt scope (route.checks ipText text asked) =
        ((limiter quota).answers (rowsAt scope asked)).map
          (Prod.map id (checked routeName (scopeText ipText text scope))) := by
  obtain ⟨rfl, ⟨ipQuota, ipBurst, ipPeriod, atIp⟩, capped, _⟩ := fresh
  cases scope with
  | ip sourceIp =>
    cases cap
    refine ⟨ipQuota, ipBurst, ipPeriod, ?_⟩
    rw [rowsAt_ip, rowsAt_ip, ipRows_checks, atIp, ← perIp ipQuota sourceIp (ipRows asked)]
    exact rowsAt_map (fun addr (row : Timestamp × Bool) => (row.1, checked route.routeName ("ip:" ++ ipText addr) row.2)) sourceIp _
  | peer peerId =>
    obtain ⟨quota, burst, period, atPeer⟩ := capped rate cap
    refine ⟨quota, burst, period, ?_⟩
    rw [rowsAt_peer, rowsAt_peer, peerRows_checks atPeer, ← perPeer quota peerId (peerRows asked)]
    exact rowsAt_map (fun peer (row : Timestamp × Bool) => (row.1, checked route.routeName ("peer:" ++ text peer.ulid) row.2)) peerId _

theorem Fresh.told_uncapped {routeName : String} {perIpPerMinute : UInt32} {perPeerPerMinute : Option UInt32}
    (fresh : route.Fresh routeName perIpPerMinute perPeerPerMinute) {scope : RouteScope}
    (cap : capOf perIpPerMinute perPeerPerMinute scope = none) (asked : List (RouteScope × Timestamp)) :
    rowsAt scope (route.checks ipText text asked) = (rowsAt scope asked).map fun now => (now, .ok ()) := by
  cases scope with
  | ip sourceIp => cases cap
  | peer peerId =>
    rw [rowsAt_peer, rowsAt_peer, peerRows_checks_uncapped (fresh.uncapped cap)]
    exact rowsAt_map (fun _ now => (now, Except.ok ())) peerId _

end RouteLimiter

namespace RouteLimits

variable {governor : Governor} (ipText : IpAddr → String) (text : Ulid → String)

def custom (governor : Governor) (config : LimitConfig) : Except RateLimitConfigError (RouteLimits governor) := do
  let register ← RouteLimiter.new governor "register" config.perIpRegister none
  let match_ ← RouteLimiter.new governor "match" config.perIpMatch (some config.perPeerMatch)
  let heartbeat ← RouteLimiter.new governor "heartbeat" config.perIpHeartbeat (some config.perPeerHeartbeat)
  let disconnect ← RouteLimiter.new governor "disconnect" config.perIpDisconnect none
  return ⟨register, match_, heartbeat, disconnect⟩

def route (limits : RouteLimits governor) : Route → RouteLimiter governor
  | .register => limits.register
  | .match_ => limits.match_
  | .heartbeat => limits.heartbeat
  | .disconnect => limits.disconnect

def setRoute (limits : RouteLimits governor) (changed : RouteLimiter governor) : Route → RouteLimits governor
  | .register => { limits with register := changed }
  | .match_ => { limits with match_ := changed }
  | .heartbeat => { limits with heartbeat := changed }
  | .disconnect => { limits with disconnect := changed }

def check (limits : RouteLimits governor) (name : Route) (scope : RouteScope) (now : Timestamp) :
    Except RateLimitDenied Unit × RouteLimits governor :=
  let (result, changed) := (limits.route name).check ipText text now scope
  (result, limits.setRoute changed name)

/-- Checks one after the other, from the handlers of all routes, with what each gave back. -/
def checks : RouteLimits governor → List ((Route × RouteScope) × Timestamp) →
    List ((Route × RouteScope) × Timestamp × Except RateLimitDenied Unit)
  | _, [] => []
  | limits, ((name, scope), now) :: rest =>
    ((name, scope), now, (limits.check ipText text name scope now).1) ::
      checks (limits.check ipText text name scope now).2 rest

/-- What a list of rows says of one route. -/
def routeRows {β : Type} (name : Route) (rows : List ((Route × RouteScope) × β)) : List (RouteScope × β) :=
  rows.filterMap fun row => if row.1.1 = name then some (row.1.2, row.2) else none

theorem routeRows_cons {β : Type} (name other : Route) (scope : RouteScope) (row : β)
    (rest : List ((Route × RouteScope) × β)) :
    routeRows name (((other, scope), row) :: rest) =
      if other = name then (scope, row) :: routeRows name rest else routeRows name rest := by
  by_cases same : other = name
  · rw [if_pos same]
    exact List.filterMap_cons_some (if_pos same)
  · rw [if_neg same]
    exact List.filterMap_cons_none (if_neg same)

theorem rowsAt_route {β : Type} (name : Route) (scope : RouteScope) (rows : List ((Route × RouteScope) × β)) :
    rowsAt (name, scope) rows = rowsAt scope (routeRows name rows) := by
  induction rows with
  | nil => rfl
  | cons row rest ih =>
    obtain ⟨⟨other, asked⟩, value⟩ := row
    rw [rowsAt_cons, routeRows_cons, ih]
    by_cases same : other = name
    · rw [if_pos same, rowsAt_cons]
      by_cases here : asked = scope
      · rw [if_pos here, if_pos (Prod.ext same here)]
      · rw [if_neg here, if_neg fun eq => here (Prod.mk.inj eq).2]
    · rw [if_neg same, if_neg fun eq => same (Prod.mk.inj eq).1]

variable {ipText text} {limits : RouteLimits governor}

theorem route_setRoute (limits : RouteLimits governor) (changed : RouteLimiter governor) (name other : Route) :
    (limits.setRoute changed name).route other = if other = name then changed else limits.route other := by
  cases name <;> cases other <;> rfl

/-- What is told at a route is what the route tells on its own. -/
theorem routeRows_checks (name : Route) (asked : List ((Route × RouteScope) × Timestamp)) :
    routeRows name (limits.checks ipText text asked) = (limits.route name).checks ipText text (routeRows name asked) := by
  induction asked generalizing limits with
  | nil => rfl
  | cons row rest ih =>
    obtain ⟨⟨other, scope⟩, now⟩ := row
    rw [checks, routeRows_cons, routeRows_cons, ih, check]
    dsimp only
    rw [route_setRoute]
    by_cases same : other = name
    · subst same
      rw [if_pos rfl, if_pos rfl, if_pos rfl]
      rfl
    · rw [if_neg same, if_neg same, if_neg (Ne.symm same)]

/-- The cap of the configuration for an address or peer at a route; at two of
the routes peers have none. -/
def cap (config : LimitConfig) : Route × RouteScope → Option UInt32
  | (.register, scope) => RouteLimiter.capOf config.perIpRegister none scope
  | (.match_, scope) => RouteLimiter.capOf config.perIpMatch (some config.perPeerMatch) scope
  | (.heartbeat, scope) => RouteLimiter.capOf config.perIpHeartbeat (some config.perPeerHeartbeat) scope
  | (.disconnect, scope) => RouteLimiter.capOf config.perIpDisconnect none scope

/-- Every route is built with its caps, and has the name that its denials carry. -/
theorem custom_fresh {config : LimitConfig} (built : custom governor config = .ok limits) (name : Route) :
    ∃ perIp perPeer, (limits.route name).Fresh name.text perIp perPeer ∧
      ∀ scope, cap config (name, scope) = RouteLimiter.capOf perIp perPeer scope := by
  rw [custom] at built
  obtain ⟨register, first, built⟩ := Except.of_bind_ok built
  obtain ⟨match_, second, built⟩ := Except.of_bind_ok built
  obtain ⟨heartbeat, third, built⟩ := Except.of_bind_ok built
  obtain ⟨disconnect, last, built⟩ := Except.of_bind_ok built
  cases built
  cases name with
  | register => exact ⟨_, _, RouteLimiter.new_fresh first, fun _ => rfl⟩
  | match_ => exact ⟨_, _, RouteLimiter.new_fresh second, fun _ => rfl⟩
  | heartbeat => exact ⟨_, _, RouteLimiter.new_fresh third, fun _ => rfl⟩
  | disconnect => exact ⟨_, _, RouteLimiter.new_fresh last, fun _ => rfl⟩

/-- What any order of checks is told, address by address and peer by peer. -/
structure Separates {σ : Type} (limiter : Quota → Cell σ Timestamp) (ipText : IpAddr → String) (text : Ulid → String)
    (config : LimitConfig) (asked : List ((Route × RouteScope) × Timestamp))
    (told : List ((Route × RouteScope) × Timestamp × Except RateLimitDenied Unit)) : Prop where
  capped : ∀ bucket rate, cap config bucket = some rate → ∃ quota : Quota, quota.maxBurst = rate.toNat ∧
    quota.period = 60000000000 ∧ rowsAt bucket told = ((limiter quota).answers (rowsAt bucket asked)).map
      (Prod.map id (RouteLimiter.checked bucket.1.text (RouteLimiter.scopeText ipText text bucket.2)))
  uncapped : ∀ bucket, cap config bucket = none →
    rowsAt bucket told = (rowsAt bucket asked).map fun now => (now, .ok ())

/-- A flood at one route, from one address or of one peer, spends no other
budget, when the library's stores keep their keys apart. -/
theorem checks_separate {σ : Type} (limiter : Quota → Cell σ Timestamp) (governor : Governor)
    (perIp : governor.ip.PerKey limiter) (perPeer : governor.peer.PerKey limiter) (ipText : IpAddr → String)
    (text : Ulid → String) (config : LimitConfig) (limits : RouteLimits governor)
    (asked : List ((Route × RouteScope) × Timestamp)) (built : custom governor config = .ok limits) :
    Separates limiter ipText text config asked (limits.checks ipText text asked) := by
  constructor
  · rintro ⟨name, scope⟩ rate capped
    obtain ⟨ipCap, peerCap, fresh, caps⟩ := custom_fresh built name
    rw [caps] at capped
    rw [rowsAt_route, rowsAt_route, routeRows_checks]
    exact fresh.told perIp perPeer capped _
  · rintro ⟨name, scope⟩ uncapped
    obtain ⟨ipCap, peerCap, fresh, caps⟩ := custom_fresh built name
    rw [caps] at uncapped
    rw [rowsAt_route, rowsAt_route, routeRows_checks]
    exact fresh.told_uncapped uncapped _

/-- A library with a cell for each key. -/
def cellGovernor : Governor :=
  ⟨.ofCells NodeRateLimiter.emission, .ofCells NodeRateLimiter.emission⟩

/-- One cap of one each: the second match of an address is denied, its heartbeat is not. -/
theorem checks_separate_flood :
    Separates NodeRateLimiter.emission (fun _ => "a") (fun _ => "p") ⟨1, 1, 1, 1, 1, 1⟩
      [((.match_, .ip (.v4 1)), 0), ((.match_, .ip (.v4 1)), 1), ((.heartbeat, .ip (.v4 1)), 2)]
      [((.match_, .ip (.v4 1)), 0, .ok ()), ((.match_, .ip (.v4 1)), 1, .error ⟨"match", "ip:a"⟩),
        ((.heartbeat, .ip (.v4 1)), 2, .ok ())] :=
  checks_separate _ cellGovernor (KeyedCells.ofCells_perKey _) (KeyedCells.ofCells_perKey _) _ _ ⟨1, 1, 1, 1, 1, 1⟩ _ _ rfl

end RouteLimits

end BiBeam
