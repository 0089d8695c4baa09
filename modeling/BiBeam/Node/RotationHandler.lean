import Mathlib.Data.List.Perm.Basic
import BiBeam.Lib.Reach
import BiBeam.Lib.Saturating
import BiBeam.Protocol.Frame

namespace BiBeam

structure RotationHandler where
  activeCohort : CohortLive
  rotations : UInt64

namespace RotationHandler

def new (initial : CohortLive) : RotationHandler :=
  ⟨initial, 0⟩

def currentCohort (handler : RotationHandler) : CohortLive :=
  handler.activeCohort

def rotationCount (handler : RotationHandler) : UInt64 :=
  handler.rotations

/-- The first half of `swap_to`. -/
def store (handler : RotationHandler) (new : CohortLive) : RotationHandler :=
  { handler with activeCohort := new }

/-- The second half of `swap_to`, which hands out the count before it. -/
def fetchAdd (handler : RotationHandler) : UInt64 × RotationHandler :=
  (handler.rotations, { handler with rotations := handler.rotations + 1 })

end RotationHandler

/-- A line of the log: the cohort that a swap applied, and its number. -/
structure RotationLine where
  cohort : CohortId
  rotations : UInt64
deriving DecidableEq

/-- The handler, the metric beside it, and the calls of `swap_to` that are under
way, by what each of them does next. -/
structure RotationWorld where
  handler : RotationHandler
  nodeCohortRotationsTotal : Nat
  counting : List CohortLive
  metering : List RotationLine
  logging : List RotationLine

inductive SwapEvent
  | read (cohort : CohortLive)
  | asked (rotations : UInt64)
  | stored (cohort : CohortLive)
  | counted (cohort : CohortLive)
  | metered
  | logged (line : RotationLine)
deriving DecidableEq

namespace SwapEvent

def stored? : SwapEvent → Option CohortLive
  | .stored cohort => some cohort
  | _ => none

def counted? : SwapEvent → Option CohortLive
  | .counted cohort => some cohort
  | _ => none

def logged? : SwapEvent → Option RotationLine
  | .logged line => some line
  | _ => none

end SwapEvent

namespace RotationWorld

open SwapEvent

def start (initial : CohortLive) : RotationWorld :=
  ⟨.new initial, 0, [], [], []⟩

/-- A swap that has learnt the count before it writes this line. -/
def lineOf (cohort : CohortLive) (prior : UInt64) : RotationLine :=
  ⟨cohort.cohort, prior.saturatingAdd 1⟩

/-- Each step is one atomic access; any number of swaps and reads may be under way. -/
inductive Step : RotationWorld → SwapEvent → RotationWorld → Prop
  | read {world} : Step world (.read world.handler.currentCohort) world
  | ask {world} : Step world (.asked world.handler.rotationCount) world
  | store {world} (cohort) : Step world (.stored cohort)
      { world with handler := world.handler.store cohort, counting := cohort :: world.counting }
  | count {world cohort} : cohort ∈ world.counting → Step world (.counted cohort)
      { world with
        handler := world.handler.fetchAdd.2
        counting := world.counting.erase cohort
        metering := lineOf cohort world.handler.fetchAdd.1 :: world.metering }
  | meter {world line} : line ∈ world.metering → Step world .metered
      { world with
        nodeCohortRotationsTotal := world.nodeCohortRotationsTotal + 1
        metering := world.metering.erase line
        logging := line :: world.logging }
  | log {world line} : line ∈ world.logging → Step world (.logged line)
      { world with logging := world.logging.erase line }

/-- The cohort that was stored last, or the one the handler began with. -/
def lastStored (initial : CohortLive) (events : List SwapEvent) : CohortLive :=
  ((events.filterMap stored?).getLast?).getD initial

/-- The lines of swaps that were counted in this order. -/
def numbered (cohorts : List CohortLive) : List RotationLine :=
  cohorts.zipIdx.map fun counted => lineOf counted.1 (UInt64.ofNat counted.2)

def Idle (world : RotationWorld) : Prop :=
  world.counting = [] ∧ world.metering = [] ∧ world.logging = []

/-- What readers and operators are told in a run. A read sees the cohort that was
stored last; every swap is counted once and logs its own cohort; with no swap
under way the counts are right and the lines are numbered from 1, each number once. -/
structure Rotates (initial : CohortLive) (events : List SwapEvent) (world : RotationWorld) : Prop where
  reads : ∀ before cohort after, events = before ++ .read cohort :: after → cohort = lastStored initial before
  asks : ∀ before rotations after, events = before ++ .asked rotations :: after →
    rotations = UInt64.ofNat (before.filterMap counted?).length
  counts : (events.filterMap stored?).Perm (world.counting ++ events.filterMap counted?)
  lines : (numbered (events.filterMap counted?)).Perm (world.metering ++ world.logging ++ events.filterMap logged?)
  settled : world.Idle → world.handler.rotations = UInt64.ofNat (events.filterMap stored?).length ∧
    world.nodeCohortRotationsTotal = (events.filterMap stored?).length ∧
    ((events.filterMap logged?).map RotationLine.cohort).Perm ((events.filterMap stored?).map CohortLive.cohort)
  numbers : world.Idle → (events.filterMap stored?).length < 2 ^ 64 →
    ((events.filterMap logged?).map fun line => line.rotations.toNat).Perm
      (List.range' 1 (events.filterMap stored?).length)

/-- What a run keeps between its events and the world. -/
structure Kept (initial : CohortLive) (events : List SwapEvent) (world : RotationWorld) : Prop where
  active : world.handler.activeCohort = lastStored initial events
  count : world.handler.rotations = UInt64.ofNat (events.filterMap counted?).length
  counts : (events.filterMap stored?).Perm (world.counting ++ events.filterMap counted?)
  metric : world.nodeCohortRotationsTotal + world.metering.length = (events.filterMap counted?).length
  lines : (numbered (events.filterMap counted?)).Perm (world.metering ++ world.logging ++ events.filterMap logged?)

theorem numbered_snoc (cohorts : List CohortLive) (cohort : CohortLive) :
    numbered (cohorts ++ [cohort]) = numbered cohorts ++ [lineOf cohort (UInt64.ofNat cohorts.length)] := by
  rw [numbered, List.zipIdx_append, List.map_append, numbered]
  simp only [List.zipIdx_cons, List.zipIdx_nil, List.map_cons, List.map_nil, Nat.zero_add]

theorem cohort_numbered (cohorts : List CohortLive) :
    (numbered cohorts).map RotationLine.cohort = cohorts.map CohortLive.cohort := by
  induction cohorts using List.reverseRecOn with
  | nil => rfl
  | append_singleton cohorts cohort ih => rw [numbered_snoc, List.map_append, List.map_append, ih]; rfl

theorem numbers_numbered {cohorts : List CohortLive} (few : cohorts.length < 2 ^ 64) :
    (numbered cohorts).map (fun line => line.rotations.toNat) = List.range' 1 cohorts.length := by
  induction cohorts using List.reverseRecOn with
  | nil => rfl
  | append_singleton cohorts cohort ih =>
    rw [List.length_append, List.length_singleton] at few
    have number : ((UInt64.ofNat cohorts.length).saturatingAdd 1).toNat = 1 + cohorts.length := by
      rw [UInt64.toNat_saturatingAdd, UInt64.toNat_ofNat', Nat.mod_eq_of_lt (by omega)]
      show min (cohorts.length + 1) (2 ^ 64 - 1) = 1 + cohorts.length
      omega
    rw [numbered_snoc, List.map_append, List.map_singleton, ih (by omega), List.length_append, List.length_singleton,
      List.range'_1_concat, lineOf, number]

variable {initial : CohortLive} {events : List SwapEvent} {world next : RotationWorld} {event : SwapEvent}

theorem Kept.start (initial : CohortLive) : Kept initial [] (start initial) :=
  ⟨rfl, rfl, .refl _, rfl, .refl _⟩

/-- What has to be said of a step: what becomes active, and how the swaps move on. -/
theorem Kept.after (kept : Kept initial events world)
    (active : next.handler.activeCohort = (stored? event).getD world.handler.activeCohort)
    (count : next.handler.rotations = world.handler.rotations + UInt64.ofNat (counted? event).toList.length)
    (counts : ((stored? event).toList ++ world.counting).Perm (next.counting ++ (counted? event).toList))
    (metric : next.nodeCohortRotationsTotal + next.metering.length =
      world.nodeCohortRotationsTotal + world.metering.length + (counted? event).toList.length)
    (lines : (((counted? event).toList.map fun cohort => lineOf cohort world.handler.rotations) ++
      (world.metering ++ world.logging)).Perm (next.metering ++ next.logging ++ (logged? event).toList)) :
    Kept initial (events ++ [event]) next := by
  refine ⟨?_, ?_, ?_, ?_, ?_⟩
  · rw [active, lastStored, Reach.filterMap_snoc]
    cases stored? event with
    | none => rw [Option.toList_none, List.append_nil, Option.getD_none, kept.active, lastStored]
    | some cohort => rw [Option.toList_some, List.getLast?_concat, Option.getD_some, Option.getD_some]
  · rw [count, kept.count, Reach.filterMap_snoc, List.length_append, UInt64.ofNat_add]
  · rw [List.perm_iff_count]
    intro cohort
    have before := kept.counts.count_eq cohort
    have moved := counts.count_eq cohort
    simp only [Reach.filterMap_snoc, List.count_append] at before moved ⊢
    omega
  · rw [metric, kept.metric, Reach.filterMap_snoc, List.length_append]
  · have more : (numbered (events ++ [event] |>.filterMap counted?)).Perm (numbered (events.filterMap counted?) ++
        ((counted? event).toList.map fun cohort => lineOf cohort world.handler.rotations)) := by
      rw [Reach.filterMap_snoc, kept.count]
      cases counted? event with
      | none => rw [Option.toList_none, List.append_nil, List.map_nil, List.append_nil]
      | some cohort => rw [Option.toList_some, numbered_snoc, List.map_singleton]
    rw [List.perm_iff_count]
    intro line
    have here := more.count_eq line
    have before := kept.lines.count_eq line
    have moved := lines.count_eq line
    simp only [Reach.filterMap_snoc, List.count_append] at here before moved ⊢
    omega

theorem Kept.step (kept : Kept initial events world) (stepped : Step world event next) :
    Kept initial (events ++ [event]) next := by
  have stays {α : Type} (bag : List α) : bag.Perm (bag ++ []) := .of_eq (List.append_nil bag).symm
  have moves {α : Type} [DecidableEq α] {bag : List α} {moved : α} (member : moved ∈ bag) :
      bag.Perm (bag.erase moved ++ [moved]) :=
    (List.perm_cons_erase member).trans (List.perm_append_singleton moved _).symm
  cases stepped with
  | read => exact kept.after rfl (UInt64.add_zero _).symm (stays _) rfl (stays _)
  | ask => exact kept.after rfl (UInt64.add_zero _).symm (stays _) rfl (stays _)
  | store cohort => exact kept.after rfl (UInt64.add_zero _).symm (stays _) rfl (stays _)
  | @count cohort waiting => exact kept.after rfl rfl (moves waiting) (Nat.add_assoc _ _ 1).symm (stays _)
  | @meter line waiting =>
    have shorter := List.length_erase_of_mem waiting
    have positive := List.length_pos_of_mem waiting
    refine kept.after rfl (UInt64.add_zero _).symm (stays _) ?_ ?_
    · simp only [counted?, Option.toList_none, List.length_nil]
      omega
    · exact (((List.perm_cons_erase waiting).append_right _).trans List.perm_middle.symm).trans (stays _)
  | @log line waiting =>
    refine kept.after rfl (UInt64.add_zero _).symm (stays _) rfl ?_
    exact ((moves waiting).append_left _).trans (.of_eq (List.append_assoc ..).symm)

theorem kept_of_reach (run : Reach Step (start initial) events world) : Kept initial events world := by
  induction run with
  | start => exact .start initial
  | next _ stepped ih => exact ih.step stepped

theorem run_rotates (initial : CohortLive) (events : List SwapEvent) (world : RotationWorld)
    (run : Reach Step (start initial) events world) : Rotates initial events world := by
  have kept := kept_of_reach run
  have idleCounts (idle : world.Idle) : (events.filterMap stored?).Perm (events.filterMap counted?) := by
    simpa [idle.1] using kept.counts
  have idleLines (idle : world.Idle) : (numbered (events.filterMap counted?)).Perm (events.filterMap logged?) := by
    simpa [idle.2.1, idle.2.2] using kept.lines
  refine ⟨?_, ?_, kept.counts, kept.lines, fun idle => ⟨?_, ?_, ?_⟩, fun idle few => ?_⟩
  · rintro before cohort after rfl
    obtain ⟨middle, _, early, stepped, _⟩ := run.step_at
    cases stepped with
    | read => exact (kept_of_reach early).active
  · rintro before rotations after rfl
    obtain ⟨middle, _, early, stepped, _⟩ := run.step_at
    cases stepped with
    | ask => exact (kept_of_reach early).count
  · rw [kept.count, (idleCounts idle).length_eq]
  · have metric := kept.metric
    rw [idle.2.1, List.length_nil, Nat.add_zero] at metric
    rw [metric, (idleCounts idle).length_eq]
  · have logged := (idleLines idle).map RotationLine.cohort
    rw [cohort_numbered] at logged
    exact logged.symm.trans ((idleCounts idle).map CohortLive.cohort).symm
  · rw [(idleCounts idle).length_eq] at few ⊢
    rw [← numbers_numbered few]
    exact (idleLines idle).symm.map _

def bareCohort (cohort : CohortId) : CohortLive :=
  ⟨cohort, [], [], ∅, 0⟩

/-- Two swaps that overlap: the line with the highest number is not about the
cohort that stays active. -/
theorem run_rotates_overlapping :
    ∃ world : RotationWorld, world.Idle ∧ world.handler.activeCohort.cohort = ⟨3⟩ ∧
      Rotates (bareCohort ⟨1⟩) [.stored (bareCohort ⟨2⟩), .stored (bareCohort ⟨3⟩), .read (bareCohort ⟨3⟩),
        .counted (bareCohort ⟨3⟩), .counted (bareCohort ⟨2⟩), .metered, .metered, .logged ⟨⟨3⟩, 1⟩,
        .logged ⟨⟨2⟩, 2⟩] world := by
  have first : Reach Step (start (bareCohort ⟨1⟩)) [.stored (bareCohort ⟨2⟩)] _ := Reach.start.next (.store _)
  have second : Reach Step _ [.stored (bareCohort ⟨2⟩), .stored (bareCohort ⟨3⟩)] _ := first.next (.store _)
  have seen : Reach Step _ [.stored (bareCohort ⟨2⟩), .stored (bareCohort ⟨3⟩), .read (bareCohort ⟨3⟩)] _ :=
    second.next .read
  have counted : Reach Step _ [.stored (bareCohort ⟨2⟩), .stored (bareCohort ⟨3⟩), .read (bareCohort ⟨3⟩),
      .counted (bareCohort ⟨3⟩)] _ := seen.next (.count List.mem_cons_self)
  have countedBoth : Reach Step _ [.stored (bareCohort ⟨2⟩), .stored (bareCohort ⟨3⟩), .read (bareCohort ⟨3⟩),
      .counted (bareCohort ⟨3⟩), .counted (bareCohort ⟨2⟩)] _ := counted.next (.count (by simp [RotationWorld.start]))
  have metered : Reach Step _ [.stored (bareCohort ⟨2⟩), .stored (bareCohort ⟨3⟩), .read (bareCohort ⟨3⟩),
      .counted (bareCohort ⟨3⟩), .counted (bareCohort ⟨2⟩), .metered] _ :=
    countedBoth.next (@Step.meter _ ⟨⟨3⟩, 1⟩ (by decide))
  have meteredBoth : Reach Step _ [.stored (bareCohort ⟨2⟩), .stored (bareCohort ⟨3⟩), .read (bareCohort ⟨3⟩),
      .counted (bareCohort ⟨3⟩), .counted (bareCohort ⟨2⟩), .metered, .metered] _ :=
    metered.next (@Step.meter _ ⟨⟨2⟩, 2⟩ (by decide))
  have logged : Reach Step _ [.stored (bareCohort ⟨2⟩), .stored (bareCohort ⟨3⟩), .read (bareCohort ⟨3⟩),
      .counted (bareCohort ⟨3⟩), .counted (bareCohort ⟨2⟩), .metered, .metered, .logged ⟨⟨3⟩, 1⟩] _ :=
    meteredBoth.next (.log (by decide))
  exact ⟨_, ⟨by simp [RotationWorld.start], by decide, by decide⟩, rfl,
    run_rotates (bareCohort ⟨1⟩) _ _ (logged.next (@Step.log _ ⟨⟨2⟩, 2⟩ (by decide)))⟩

end RotationWorld

end BiBeam
