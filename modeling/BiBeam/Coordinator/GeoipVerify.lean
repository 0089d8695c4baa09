import BiBeam.Coordinator.RegionVerify
import BiBeam.Lib.RwLock

namespace BiBeam

/-- What the reader of country databases takes from the libraries. -/
structure GeoipLibs where
  Reader : Type
  Found : Type
  /-- Open a database from what a path holds, if it holds anything. -/
  openReadfile : Option (List UInt8) → Except String Reader
  lookup : Reader → IpAddr → Except String Found
  /-- The record, if there is one, with its ISO code, if it has one. -/
  decode : Found → Except String (Option (Option String))
  ipText : IpAddr → String

namespace GeoipReader

/-- What the paths of the file system hold. -/
abbrev Files := String → Option (List UInt8)

/-- Reading the file may fail whatever the path holds. -/
def openReader (libs : GeoipLibs) (files : Files) (fault : Option String) (path : String) :
    Except String libs.Reader :=
  let opened : Except String libs.Reader := match fault with
    | some err => .error err
    | none => libs.openReadfile (files path)
  opened.mapError fun err => s!"open {path} failed: {err}"

/-- The country of an address under a database, in lower case. -/
def countryCode (libs : GeoipLibs) (reader : libs.Reader) : CountryLookup := fun ip => do
  let ipText := libs.ipText ip
  let result ← (libs.lookup reader ip).mapError fun err => s!"lookup failed for {ipText}: {err}"
  let decoded ← (libs.decode result).mapError fun err => s!"decode failed for {ipText}: {err}"
  return decoded.bind fun isoCode => isoCode.map fun code => String.ofList (RegionVerify.toAsciiLowercase code)

/-- Where a call stands: a lookup asks, takes its guard and answers, a reload opens the file and swaps it in. -/
inductive Call (libs : GeoipLibs)
  | idle
  | asked (ip : IpAddr)
  | guarded (ip : IpAddr)
  | opened (fresh : libs.Reader)
  | done

inductive Event (libs : GeoipLibs)
  | published (path : String) (contents : Option (List UInt8))
  | asked (id : Nat) (ip : IpAddr)
  | guarded (id : Nat)
  | answered (id : Nat) (result : Except String (Option String))
  | opened (id : Nat) (path : String)
  | failed (id : Nat) (path : String) (fault : Option String) (error : String)
  | swapped (id : Nat) (fresh : libs.Reader)

namespace Event

variable {libs : GeoipLibs}

def lock? : Event libs → Option (RwLock.Event libs.Reader)
  | guarded id => some (.read id)
  | answered id _ => some (.release id)
  | swapped _ fresh => some (.write fresh)
  | _ => none

/-- The call that the event is a part of. -/
def caller? : Event libs → Option Nat
  | published .. => none
  | asked id _ => some id
  | guarded id => some id
  | answered id _ => some id
  | opened id _ => some id
  | failed id _ _ _ => some id
  | swapped id _ => some id

def asks? : Event libs → Option Nat
  | asked id _ => some id
  | _ => none

def publish (files : Files) : Event libs → Files
  | published path contents => Function.update files path contents
  | _ => files

end Event

/-- The reader that the coordinator shares, with the calls on it and the files that others write. -/
structure World (libs : GeoipLibs) where
  files : Files
  inner : RwLock libs.Reader
  calls : Nat → Call libs

namespace World

variable {libs : GeoipLibs}

def start (files : Files) (first : libs.Reader) : World libs :=
  ⟨files, .new first, fun _ => .idle⟩

inductive Step : World libs → Event libs → World libs → Prop
  | publish {world path contents} :
      Step world (.published path contents) { world with files := Function.update world.files path contents }
  | ask {world id ip} : world.calls id = .idle →
      Step world (.asked id ip) { world with calls := Function.update world.calls id (.asked ip) }
  | guard {world id ip} : world.calls id = .asked ip →
      Step world (.guarded id) { world with
        inner := { world.inner with guards := id :: world.inner.guards }
        calls := Function.update world.calls id (.guarded ip) }
  | answer {world id ip} : world.calls id = .guarded ip →
      Step world (.answered id (countryCode libs world.inner.value ip)) { world with
        inner := { world.inner with guards := world.inner.guards.erase id }
        calls := Function.update world.calls id .done }
  | open_ {world id path fresh} : world.calls id = .idle → openReader libs world.files none path = .ok fresh →
      Step world (.opened id path) { world with calls := Function.update world.calls id (.opened fresh) }
  | fail {world id path fault error} : world.calls id = .idle → openReader libs world.files fault path = .error error →
      Step world (.failed id path fault error) { world with calls := Function.update world.calls id .done }
  | swap {world id fresh} : world.calls id = .opened fresh → world.inner.guards = [] →
      Step world (.swapped id fresh) { world with
        inner := { world.inner with value := fresh }
        calls := Function.update world.calls id .done }

end World

variable {libs : GeoipLibs}

/-- The database in use after some events: the one swapped in last. -/
def served (first : libs.Reader) (events : List (Event libs)) : libs.Reader :=
  RwLock.latest first (events.filterMap Event.lock?)

def filesAfter (files : Files) (events : List (Event libs)) : Files :=
  events.foldl Event.publish files

/-- Every call acts at one moment between its start and its end. -/
structure Linearises (files : Files) (first : libs.Reader) (events : List (Event libs)) (world : World libs) :
    Prop where
  /-- The database in use is the one swapped in last. -/
  inUse : world.inner.value = served first events
  /-- A lookup answers from the database in use when it took its guard, which stays in use until it answers. -/
  answered : ∀ before id result after, events = before ++ .answered id result :: after →
    ∃ early ip middle late, before = early ++ .asked id ip :: (middle ++ .guarded id :: late) ∧
      result = countryCode libs (served first (early ++ .asked id ip :: middle)) ip ∧
      served first before = served first (early ++ .asked id ip :: middle)
  /-- A reload that succeeds swaps in what its path held when it opened it. -/
  swapped : ∀ before id fresh after, events = before ++ .swapped id fresh :: after →
    ∃ early path late, before = early ++ .opened id path :: late ∧
      openReader libs (filesAfter files early) none path = .ok fresh
  failed : ∀ before id path fault error after, events = before ++ .failed id path fault error :: after →
    openReader libs (filesAfter files before) fault path = .error error
  /-- A lookup that starts after a reload has ended answers from its database or from a later one. -/
  current : ∀ before id fresh middle other ip result after,
    events = before ++ .swapped id fresh :: (middle ++ .answered other result :: after) → .asked other ip ∈ middle →
    ∃ reader, (reader = fresh ∨ ∃ later, .swapped later reader ∈ middle) ∧ result = countryCode libs reader ip

variable {files : Files} {first : libs.Reader} {events : List (Event libs)} {event : Event libs}
  {world next : World libs}

theorem filesAfter_concat (files : Files) (events : List (Event libs)) (event : Event libs) :
    filesAfter files (events ++ [event]) = event.publish (filesAfter files events) :=
  List.foldl_concat ..

/-- What has happened in a call so far, as far as it is still to come into play. -/
def Traced (files : Files) (events : List (Event libs)) (guards : List Nat) (id : Nat) : Call libs → Prop
  | .idle => id ∉ events.filterMap Event.asks? ∧ .guarded id ∉ events
  | .asked ip => .asked id ip ∈ events ∧ .guarded id ∉ events
  | .guarded ip => id ∈ guards ∧ ∀ before after, events = before ++ .guarded id :: after → .asked id ip ∈ before
  | .opened fresh => ∃ before path after, events = before ++ .opened id path :: after ∧
      openReader libs (filesAfter files before) none path = .ok fresh
  | .done => True

theorem guarded_notMem {id : Nat} (apart : event.caller? ≠ some id) (never : .guarded id ∉ events) :
    .guarded id ∉ events ++ [event] := by
  intro member
  rcases List.mem_append.mp member with earlier | here
  · exact never earlier
  · rw [← List.mem_singleton.mp here] at apart
    exact apart rfl

/-- What another call does leaves the trace of a call. -/
theorem Traced.other {guards guards' : List Nat} {id : Nat} {call : Call libs}
    (traced : Traced files events guards id call) (apart : event.caller? ≠ some id)
    (kept : id ∈ guards → id ∈ guards') : Traced files (events ++ [event]) guards' id call := by
  cases call with
  | idle =>
    refine ⟨?_, guarded_notMem apart traced.2⟩
    rw [Reach.filterMap_snoc, List.mem_append, not_or]
    refine ⟨traced.1, fun here => apart ?_⟩
    cases event with
    | asked other ip => exact Option.mem_toList.mp here
    | _ => cases here
  | asked ip => exact ⟨List.mem_append_left _ traced.1, guarded_notMem apart traced.2⟩
  | guarded ip =>
    refine ⟨kept traced.1, fun before after parts => ?_⟩
    obtain rfl | ⟨front, last, rfl⟩ := List.eq_nil_or_concat' after
    · have same := (List.append_inj' parts rfl).2
      rw [List.singleton_inj.mp same] at apart
      exact absurd rfl apart
    · rw [← List.cons_append, ← List.append_assoc] at parts
      exact traced.2 before front (List.append_inj' parts rfl).1
  | opened fresh =>
    obtain ⟨before, path, after, rfl, opened⟩ := traced
    exact ⟨before, path, after ++ [event], by rw [List.append_assoc, List.cons_append], opened⟩
  | done => trivial

structure Kept (files : Files) (first : libs.Reader) (events : List (Event libs)) (world : World libs) : Prop where
  disk : world.files = filesAfter files events
  inner : Reach RwLock.Step (.new first) (events.filterMap Event.lock?) world.inner
  asks : (events.filterMap Event.asks?).Nodup
  traced : ∀ id, Traced files events world.inner.guards id (world.calls id)

/-- The call of an event goes on, and the others stay where they are. -/
theorem Kept.goes {id : Nat} {guards : List Nat} {call : Call libs} (kept : Kept files first events world)
    (caller : event.caller? = some id) (guarded : ∀ other ≠ id, other ∈ world.inner.guards → other ∈ guards)
    (traced : Traced files (events ++ [event]) guards id call) (other : Nat) :
    Traced files (events ++ [event]) guards other (Function.update world.calls id call other) := by
  by_cases same : other = id
  · subst same
    rwa [Function.update_self]
  · rw [Function.update_of_ne same]
    refine (kept.traced other).other (fun also => same ?_) (guarded other same)
    exact Option.some.inj (also.symm.trans caller)

section Labels

variable (kept : Kept files first events world)

include kept

theorem Kept.idleLock (quiet : event.lock? = none) :
    Reach RwLock.Step (.new first) ((events ++ [event]).filterMap Event.lock?) world.inner := by
  rw [Reach.filterMap_snoc, quiet, Option.toList_none, List.append_nil]
  exact kept.inner

theorem Kept.worksLock {label : RwLock.Event libs.Reader} {inner : RwLock libs.Reader}
    (named : event.lock? = some label) (stepped : RwLock.Step world.inner label inner) :
    Reach RwLock.Step (.new first) ((events ++ [event]).filterMap Event.lock?) inner := by
  rw [Reach.filterMap_snoc, named]
  exact kept.inner.next stepped

theorem Kept.noAsk (quiet : event.asks? = none) : ((events ++ [event]).filterMap Event.asks?).Nodup := by
  rw [Reach.filterMap_snoc, quiet, Option.toList_none, List.append_nil]
  exact kept.asks

end Labels

theorem Kept.step (kept : Kept files first events world) (stepped : World.Step world event next) :
    Kept files first (events ++ [event]) next := by
  have disk := filesAfter_concat files events event
  rw [← kept.disk] at disk
  cases stepped with
  | publish =>
    exact ⟨disk.symm, kept.idleLock rfl, kept.noAsk rfl, fun id => (kept.traced id).other nofun fun held => held⟩
  | @ask id ip idle =>
    have trace := kept.traced id
    rw [idle] at trace
    refine ⟨disk.symm, kept.idleLock rfl, ?_, kept.goes rfl (fun _ _ held => held) ⟨?_, ?_⟩⟩
    · rw [Reach.filterMap_snoc]
      refine List.nodup_append.mpr ⟨kept.asks, List.nodup_singleton _, fun other member _ here same => ?_⟩
      rw [same, List.mem_singleton.mp here] at member
      exact trace.1 member
    · exact List.mem_append_right _ (List.mem_singleton_self _)
    · intro member
      rcases List.mem_append.mp member with earlier | here
      · exact trace.2 earlier
      · cases List.mem_singleton.mp here
  | @guard id ip asked =>
    have trace := kept.traced id
    rw [asked] at trace
    refine ⟨disk.symm, kept.worksLock rfl .read, kept.noAsk rfl,
      kept.goes rfl (fun _ _ held => List.mem_cons_of_mem _ held) ⟨List.mem_cons_self, fun before after parts => ?_⟩⟩
    obtain rfl | ⟨front, last, rfl⟩ := List.eq_nil_or_concat' after
    · rw [← (List.append_inj' parts rfl).1]
      exact trace.1
    · rw [← List.cons_append, ← List.append_assoc] at parts
      have earlier : .guarded id ∈ events := by
        rw [(List.append_inj' parts rfl).1]
        exact List.mem_append_right _ List.mem_cons_self
      exact absurd earlier trace.2
  | @answer id ip guarded =>
    exact ⟨disk.symm, kept.worksLock rfl .release, kept.noAsk rfl,
      kept.goes rfl (fun other apart held => (List.mem_erase_of_ne apart).mpr held) trivial⟩
  | @open_ id path fresh idle opened =>
    refine ⟨disk.symm, kept.idleLock rfl, kept.noAsk rfl,
      kept.goes rfl (fun _ _ held => held) ⟨events, path, [], rfl, ?_⟩⟩
    rwa [← kept.disk]
  | @fail id path fault error idle failed =>
    exact ⟨disk.symm, kept.idleLock rfl, kept.noAsk rfl, kept.goes rfl (fun _ _ held => held) trivial⟩
  | @swap id fresh opened free =>
    exact ⟨disk.symm, kept.worksLock rfl (.write free), kept.noAsk rfl,
      kept.goes rfl (fun _ _ held => held) trivial⟩

theorem kept_of_reach (run : Reach World.Step (World.start files first) events world) :
    Kept files first events world := by
  induction run with
  | start => exact ⟨rfl, .start, List.nodup_nil, fun id => ⟨List.not_mem_nil, List.not_mem_nil⟩⟩
  | next _ stepped ih => exact ih.step stepped

theorem eq_guarded {id : Nat} (named : event.lock? = some (.read id)) : event = .guarded id := by
  cases event with
  | guarded other =>
    cases named
    rfl
  | _ => cases named

theorem eq_swapped {reader : libs.Reader} (named : event.lock? = some (.write reader)) :
    ∃ id, event = .swapped id reader := by
  cases event with
  | swapped id fresh =>
    cases named
    exact ⟨id, rfl⟩
  | _ => cases named

/-- Lookups and reloads of one shared reader, however they interleave. -/
theorem run_linearises (files : Files) (first : libs.Reader)
    (run : Reach World.Step (World.start files first) events world) : Linearises files first events world := by
  have steps : ∀ before event after, events = before ++ event :: after → ∃ middle next,
      Kept files first before middle ∧ World.Step middle event next := by
    rintro before event after rfl
    obtain ⟨middle, next, early, stepped, _⟩ := run.step_at
    exact ⟨middle, next, kept_of_reach early, stepped⟩
  have answered : ∀ before id result after, events = before ++ .answered id result :: after →
      ∃ early ip middle late, before = early ++ .asked id ip :: (middle ++ .guarded id :: late) ∧
        result = countryCode libs (served first (early ++ .asked id ip :: middle)) ip ∧
        served first before = served first (early ++ .asked id ip :: middle) := by
    intro before id result after whole
    obtain ⟨here, next, kept, stepped⟩ := steps before _ after whole
    cases stepped with
    | @answer _ ip guarded =>
      have trace := kept.traced id
      rw [guarded] at trace
      obtain ⟨front, label, late, rfl, read, _, value⟩ := RwLock.held_value kept.inner trace.1
      obtain rfl := eq_guarded read
      obtain ⟨early, middle, rfl⟩ := List.append_of_mem (trace.2 front late rfl)
      refine ⟨early, ip, middle, late, by rw [List.append_assoc, List.cons_append], by rw [value, served], ?_⟩
      rw [served, ← RwLock.value_eq kept.inner, value, served]
  refine ⟨RwLock.value_eq (kept_of_reach run).inner, answered, ?_, ?_, ?_⟩
  · intro before id fresh after whole
    obtain ⟨here, next, kept, stepped⟩ := steps before _ after whole
    cases stepped with
    | swap opened free =>
      have trace := kept.traced id
      rw [opened] at trace
      obtain ⟨early, path, late, parts, read⟩ := trace
      exact ⟨early, path, late, parts, read⟩
  · intro before id path fault error after whole
    obtain ⟨here, next, kept, stepped⟩ := steps before _ after whole
    cases stepped with
    | fail idle failed => rwa [← kept.disk]
  · intro before id fresh middle other ip result after whole asked
    have whole' : events = (before ++ .swapped id fresh :: middle) ++ .answered other result :: after := by
      rw [whole, List.append_assoc, List.cons_append]
    obtain ⟨early, ip', between, late, parts, rfl, _⟩ := answered _ other result after whole'
    obtain ⟨m, m', rfl⟩ := List.append_of_mem asked
    rw [← List.cons_append, ← List.append_assoc] at parts
    have asks := (kept_of_reach run).asks
    rw [whole', List.filterMap_append, ← List.cons_append, ← List.append_assoc] at asks
    obtain ⟨rfl, same, rfl⟩ := Reach.place_unique parts (List.nodup_append.mp asks).1 rfl rfl
    cases same
    have behind : ((before ++ .swapped id fresh :: m) ++ .asked other ip :: between).filterMap Event.lock? =
        before.filterMap Event.lock? ++ .write fresh :: (m ++ .asked other ip :: between).filterMap Event.lock? := by
      have swap : (Event.swapped id fresh).lock? = some (.write fresh) := rfl
      rw [List.append_assoc, List.cons_append, List.filterMap_append, List.filterMap_cons_some swap]
    refine ⟨_, ?_, rfl⟩
    rw [served, behind]
    refine (RwLock.latest_behind _ fresh _).imp_right fun later => ?_
    obtain ⟨event, member, named⟩ := List.mem_filterMap.mp later
    obtain ⟨later, rfl⟩ := eq_swapped named
    refine ⟨later, ?_⟩
    rw [← List.cons_append, ← List.append_assoc]
    exact List.mem_append_left _ member

/-- Two databases, which the files of one byte hold, of one address. -/
def oneAddress : GeoipLibs where
  Reader := IpAddr → Option String
  Found := Option String
  openReadfile
    | some [1] => .ok fun _ => some "US"
    | some [2] => .ok fun _ => some "DE"
    | _ => .error "no such file"
  lookup reader ip := .ok (reader ip)
  decode found := .ok (found.map some)
  ipText _ := "203.0.113.4"

/-- A lookup that a reload waits for, a lookup behind it, a reload of a path
that holds nothing and one whose file cannot be read. -/
theorem run_linearises_reload : ∃ world, world.inner.value = (fun _ => some "DE") ∧
    Linearises (fun _ => none) (fun _ => some "US") ([.published "geo.mmdb" (some [2]), .asked 0 (.v4 0xcb007104),
      .guarded 0, .opened 1 "geo.mmdb", .answered 0 (.ok (some "us")), .swapped 1 fun _ => some "DE",
      .asked 2 (.v4 0xcb007104), .failed 3 "old.mmdb" none "open old.mmdb failed: no such file", .guarded 2,
      .answered 2 (.ok (some "de")), .failed 4 "geo.mmdb" (some "Input/output error")
        "open geo.mmdb failed: Input/output error"] : List (Event oneAddress)) world := by
  have published : Reach World.Step (World.start (fun _ => none) fun _ => some "US") _ _ :=
    Reach.start.next (@World.Step.publish oneAddress _ "geo.mmdb" (some [2]))
  have asked := published.next (@World.Step.ask oneAddress _ 0 (.v4 0xcb007104) rfl)
  have guarded := asked.next (@World.Step.guard oneAddress _ 0 (.v4 0xcb007104) rfl)
  have opened := guarded.next (@World.Step.open_ oneAddress _ 1 "geo.mmdb" (fun _ => some "DE") rfl rfl)
  have answered := opened.next (@World.Step.answer oneAddress _ 0 (.v4 0xcb007104) rfl)
  have swapped := answered.next (@World.Step.swap oneAddress _ 1 (fun _ => some "DE") rfl rfl)
  have asked' := swapped.next (@World.Step.ask oneAddress _ 2 (.v4 0xcb007104) rfl)
  have failed := asked'.next
    (@World.Step.fail oneAddress _ 3 "old.mmdb" none "open old.mmdb failed: no such file" rfl rfl)
  have guarded' := failed.next (@World.Step.guard oneAddress _ 2 (.v4 0xcb007104) rfl)
  have answered' := guarded'.next (@World.Step.answer oneAddress _ 2 (.v4 0xcb007104) rfl)
  have unreadable := answered'.next (@World.Step.fail oneAddress _ 4 "geo.mmdb" (some "Input/output error")
    "open geo.mmdb failed: Input/output error" rfl rfl)
  exact ⟨_, rfl, run_linearises _ _ unreadable⟩

end GeoipReader

end BiBeam
