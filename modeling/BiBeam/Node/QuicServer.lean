import BiBeam.Lib.Reach
import Mathlib.Data.List.Perm.Basic
import Mathlib.Data.List.Perm.Lattice

namespace BiBeam

inductive QuicServerError
  | endpointClosed
deriving DecidableEq

inductive HandlerError
  | handler (text : String)
deriving DecidableEq

/-- Where the accept loop stands: before or after it looked at the
cancellation, waiting for a connection or for a permit for one. -/
inductive AcceptPhase (α : Type)
  | selecting
  | polled
  | awaiting (incoming : α)
  | acquiring (incoming : α)
  | returned (outcome : Except QuicServerError Unit)
deriving DecidableEq

inductive ConnectionStage
  | handshaking
  | handling
deriving DecidableEq

/-- The loop, the permits nobody holds, and one task for each permit held. -/
structure NodeQuicServer (α : Type) where
  phase : AcceptPhase α
  availablePermits : Nat
  tasks : List (α × ConnectionStage)
  cancelled : Bool

inductive QuicEvent (α : Type)
  | cancel
  | polled
  | pending
  | accepted (incoming : α)
  | spawned (incoming : α)
  | stopped
  | dropped (incoming : α)
  | endpointClosed
  | handshakeFailed (incoming : α) (text : String)
  | handed (incoming : α)
  | handled (incoming : α) (result : Except HandlerError Unit)
deriving DecidableEq

namespace QuicEvent

variable {α : Type}

def accepted? : QuicEvent α → Option α
  | .accepted incoming => some incoming
  | _ => none

def spawned? : QuicEvent α → Option α
  | .spawned incoming => some incoming
  | _ => none

def dropped? : QuicEvent α → Option α
  | .dropped incoming => some incoming
  | _ => none

def handed? : QuicEvent α → Option α
  | .handed incoming => some incoming
  | _ => none

/-- The task of a connection ends, after its handshake failed or its handler returned. -/
def finished? : QuicEvent α → Option α
  | .handshakeFailed incoming _ => some incoming
  | .handled incoming _ => some incoming
  | _ => none

def handled? : QuicEvent α → Option α
  | .handled incoming _ => some incoming
  | _ => none

/-- The event is a turn of the accept loop. -/
def ofLoop : QuicEvent α → Bool
  | .cancel => false
  | .handshakeFailed _ _ => false
  | .handed _ => false
  | .handled _ _ => false
  | _ => true

end QuicEvent

namespace NodeQuicServer

open QuicEvent

variable {α : Type}

def defaultMaxConcurrentConnections : Nat := 1024

def withMaxConcurrentConnections (α : Type) (maxConcurrentConnections : Nat) : NodeQuicServer α :=
  ⟨.selecting, max maxConcurrentConnections 1, [], false⟩

def new (α : Type) : NodeQuicServer α :=
  withMaxConcurrentConnections α defaultMaxConcurrentConnections

/-- One permit moves into the task of the connection. -/
def spawnHandler (server : NodeQuicServer α) (incoming : α) : NodeQuicServer α :=
  { server with
    phase := .selecting
    availablePermits := server.availablePermits - 1
    tasks := (incoming, .handshaking) :: server.tasks }

/-- The task ends, whatever it ended with, and its permit is dropped. -/
def finish [DecidableEq α] (server : NodeQuicServer α) (task : α × ConnectionStage) : NodeQuicServer α :=
  { server with availablePermits := server.availablePermits + 1, tasks := server.tasks.erase task }

def handOver [DecidableEq α] (server : NodeQuicServer α) (incoming : α) : NodeQuicServer α :=
  { server with tasks := (incoming, .handling) :: server.tasks.erase (incoming, .handshaking) }

/-- The turns of the loop, of the connections' tasks and of whoever cancels. A
select looks at the cancellation first, and may see it come only afterwards. -/
inductive Step [DecidableEq α] : NodeQuicServer α → QuicEvent α → NodeQuicServer α → Prop
  | cancel {server} : Step server .cancel { server with cancelled := true }
  | poll {server} : server.phase = .selecting → server.cancelled = false →
      Step server .polled { server with phase := .polled }
  | stop {server} : server.phase = .selecting → server.cancelled = true →
      Step server .stopped { server with phase := .returned (.ok ()) }
  | pending {server} : server.phase = .polled → Step server .pending { server with phase := .selecting }
  | accept {server incoming} : server.phase = .polled →
      Step server (.accepted incoming) { server with phase := .awaiting incoming }
  | closed {server} : server.phase = .polled →
      Step server .endpointClosed { server with phase := .returned (.error .endpointClosed) }
  | pollPermit {server incoming} : server.phase = .awaiting incoming → server.cancelled = false →
      Step server .polled { server with phase := .acquiring incoming }
  | stopAwaiting {server incoming} : server.phase = .awaiting incoming → server.cancelled = true →
      Step server (.dropped incoming) { server with phase := .returned (.ok ()) }
  | pendingPermit {server incoming} : server.phase = .acquiring incoming →
      Step server .pending { server with phase := .awaiting incoming }
  | spawn {server incoming} : server.phase = .acquiring incoming → 0 < server.availablePermits →
      Step server (.spawned incoming) (server.spawnHandler incoming)
  | handshakeFailed {server incoming text} : (incoming, .handshaking) ∈ server.tasks →
      Step server (.handshakeFailed incoming text) (server.finish (incoming, .handshaking))
  | hand {server incoming} : (incoming, .handshaking) ∈ server.tasks →
      Step server (.handed incoming) (server.handOver incoming)
  | handled {server incoming result} : (incoming, .handling) ∈ server.tasks →
      Step server (.handled incoming result) (server.finish (incoming, .handling))

/-- The connection that waits for a permit. -/
def held : AcceptPhase α → List α
  | .awaiting incoming => [incoming]
  | .acquiring incoming => [incoming]
  | _ => []

/-- The connections whose tasks are at this stage. -/
def inFlight (server : NodeQuicServer α) (stage : ConnectionStage) : List α :=
  (server.tasks.filter (·.2 = stage)).map Prod.fst

/-- The turns that the loop can still take once it is cancelled. -/
def turnsLeft : AcceptPhase α → Nat
  | .returned _ => 0
  | .selecting => 1
  | .awaiting _ => 1
  | .polled => 2
  | .acquiring _ => 2

theorem turnsLeft_le (phase : AcceptPhase α) : turnsLeft phase ≤ 2 := by
  cases phase <;> simp [turnsLeft]

/-- What a run keeps between the events and the tasks. -/
structure TasksKept (permits : Nat) (events : List (QuicEvent α)) (server : NodeQuicServer α) : Prop where
  budget : server.availablePermits + server.tasks.length = permits
  served : (events.filterMap spawned?).Perm (server.tasks.map Prod.fst ++ events.filterMap finished?)
  handed : (events.filterMap handed?).Perm (server.inFlight .handling ++ events.filterMap handled?)

/-- What a run keeps between the events and the loop. -/
structure LoopKept (events : List (QuicEvent α)) (server : NodeQuicServer α) : Prop where
  accounted : events.filterMap accepted? = events.filterMap spawned? ++ held server.phase ++ events.filterMap dropped?
  cancelled : server.cancelled = true ↔ .cancel ∈ events
  ok : server.phase = .returned (.ok ()) → server.cancelled = true
  error : server.phase = .returned (.error .endpointClosed) ↔ .endpointClosed ∈ events
  live : (∀ outcome, server.phase ≠ .returned outcome) → events.filterMap dropped? = []

variable {permits : Nat} {events : List (QuicEvent α)} {server next : NodeQuicServer α} {event : QuicEvent α}
  {incoming : α}

theorem TasksKept.new (cap : Nat) : TasksKept (max cap 1) [] (withMaxConcurrentConnections α cap) :=
  ⟨rfl, .refl _, .refl _⟩

theorem LoopKept.new (cap : Nat) : LoopKept [] (withMaxConcurrentConnections α cap) :=
  ⟨rfl, ⟨nofun, nofun⟩, nofun, ⟨nofun, nofun⟩, fun _ => rfl⟩

/-- A turn that neither accepts, spawns nor drops only moves the phase. -/
theorem LoopKept.quiet (kept : LoopKept events server) (unaccepted : accepted? event = none)
    (unspawned : spawned? event = none) (undropped : dropped? event = none)
    (cancelled : next.cancelled = true ↔ server.cancelled = true ∨ event = .cancel)
    (ok : next.phase = .returned (.ok ()) → next.cancelled = true)
    (error : next.phase = .returned (.error .endpointClosed) ↔
      server.phase = .returned (.error .endpointClosed) ∨ event = .endpointClosed)
    (same : held next.phase = held server.phase)
    (live : (∀ outcome, next.phase ≠ .returned outcome) → ∀ outcome, server.phase ≠ .returned outcome) :
    LoopKept (events ++ [event]) next := by
  refine ⟨?_, ?_, ok, ?_, fun running => ?_⟩
  · rw [Reach.filterMap_snoc, Reach.filterMap_snoc, Reach.filterMap_snoc, unaccepted, unspawned, undropped, same]
    simpa using kept.accounted
  · rw [cancelled, kept.cancelled]
    simp [eq_comm]
  · rw [error, kept.error]
    simp [eq_comm]
  · rw [Reach.filterMap_snoc, undropped, kept.live (live running)]
    rfl

/-- A turn of the loop that spawns nothing leaves the tasks alone. -/
theorem TasksKept.quiet (kept : TasksKept permits events server) (unspawned : spawned? event = none)
    (unfinished : finished? event = none) (unhanded : handed? event = none) (unhandled : handled? event = none)
    (samePermits : next.availablePermits = server.availablePermits) (sameTasks : next.tasks = server.tasks) :
    TasksKept permits (events ++ [event]) next := by
  refine ⟨by rw [samePermits, sameTasks]; exact kept.budget, ?_, ?_⟩
  · rw [Reach.filterMap_snoc, Reach.filterMap_snoc, unspawned, unfinished, sameTasks]
    simpa using kept.served
  · rw [Reach.filterMap_snoc, Reach.filterMap_snoc, unhanded, unhandled, inFlight, sameTasks]
    simpa [inFlight] using kept.handed

theorem TasksKept.spawn (kept : TasksKept permits events server) (room : 0 < server.availablePermits) :
    TasksKept permits (events ++ [.spawned incoming]) (server.spawnHandler incoming) := by
  have budget := kept.budget
  refine ⟨?_, ?_, ?_⟩
  · rw [spawnHandler, List.length_cons]
    dsimp only
    omega
  · rw [Reach.filterMap_snoc, Reach.filterMap_snoc]
    simpa [spawned?, finished?, spawnHandler] using (List.perm_append_singleton incoming _).trans (kept.served.cons incoming)
  · rw [Reach.filterMap_snoc, Reach.filterMap_snoc]
    simpa [handed?, handled?, spawnHandler, inFlight] using kept.handed

variable [DecidableEq α]

theorem length_erase_task {tasks : List (α × ConnectionStage)} {task : α × ConnectionStage} (member : task ∈ tasks) :
    (tasks.erase task).length + 1 = tasks.length := by
  have positive := List.length_pos_of_mem member
  rw [List.length_erase_of_mem member]
  omega

/-- A task that ends gives its permit back and is counted as finished. -/
theorem TasksKept.finish {stage : ConnectionStage} (kept : TasksKept permits events server)
    (member : (incoming, stage) ∈ server.tasks) (unspawned : spawned? event = none) (unhanded : handed? event = none)
    (finished : finished? event = some incoming)
    (handled : handled? event = if stage = .handling then some incoming else none) :
    TasksKept permits (events ++ [event]) (server.finish (incoming, stage)) := by
  have budget := kept.budget
  have fewer := length_erase_task member
  have same := List.perm_cons_erase member
  refine ⟨?_, ?_, ?_⟩
  · rw [NodeQuicServer.finish]
    dsimp only
    omega
  · rw [Reach.filterMap_snoc, Reach.filterMap_snoc, unspawned, finished]
    have moved := kept.served.trans ((same.map Prod.fst).append_right _)
    rw [List.map_cons, List.cons_append] at moved
    simpa [NodeQuicServer.finish] using moved.trans (List.perm_append_singleton _ _).symm
  · rw [Reach.filterMap_snoc, Reach.filterMap_snoc, unhanded, handled]
    have moved := kept.handed.trans (((same.filter (·.2 = ConnectionStage.handling)).map Prod.fst).append_right _)
    cases stage with
    | handshaking => simpa [NodeQuicServer.finish, inFlight] using moved
    | handling =>
      rw [List.filter_cons_of_pos (by simp), List.map_cons, List.cons_append] at moved
      simpa [NodeQuicServer.finish, inFlight] using moved.trans (List.perm_append_singleton _ _).symm

theorem TasksKept.hand (kept : TasksKept permits events server) (member : (incoming, .handshaking) ∈ server.tasks) :
    TasksKept permits (events ++ [.handed incoming]) (server.handOver incoming) := by
  have budget := kept.budget
  have fewer := length_erase_task member
  have same := List.perm_cons_erase member
  refine ⟨?_, ?_, ?_⟩
  · rw [handOver, List.length_cons]
    dsimp only
    omega
  · rw [Reach.filterMap_snoc, Reach.filterMap_snoc]
    simpa [spawned?, finished?, handOver] using kept.served.trans ((same.map Prod.fst).append_right _)
  · rw [Reach.filterMap_snoc, Reach.filterMap_snoc]
    have moved := kept.handed.trans (((same.filter (·.2 = ConnectionStage.handling)).map Prod.fst).append_right _)
    rw [List.filter_cons_of_neg (by simp)] at moved
    simpa [handed?, handled?, handOver, inFlight] using
      (List.perm_append_singleton incoming _).trans (moved.cons incoming)

theorem TasksKept.step (kept : TasksKept permits events server) (stepped : Step server event next) :
    TasksKept permits (events ++ [event]) next := by
  cases stepped with
  | spawn _ room => exact kept.spawn room
  | handshakeFailed member => exact kept.finish member rfl rfl rfl rfl
  | hand member => exact kept.hand member
  | handled member => exact kept.finish member rfl rfl rfl rfl
  | cancel => exact kept.quiet rfl rfl rfl rfl rfl rfl
  | poll => exact kept.quiet rfl rfl rfl rfl rfl rfl
  | stop => exact kept.quiet rfl rfl rfl rfl rfl rfl
  | pending => exact kept.quiet rfl rfl rfl rfl rfl rfl
  | accept => exact kept.quiet rfl rfl rfl rfl rfl rfl
  | closed => exact kept.quiet rfl rfl rfl rfl rfl rfl
  | pollPermit => exact kept.quiet rfl rfl rfl rfl rfl rfl
  | stopAwaiting => exact kept.quiet rfl rfl rfl rfl rfl rfl
  | pendingPermit => exact kept.quiet rfl rfl rfl rfl rfl rfl

theorem LoopKept.step (kept : LoopKept events server) (stepped : Step server event next) :
    LoopKept (events ++ [event]) next := by
  have accounted := kept.accounted
  have error := kept.error
  cases stepped with
  | cancel =>
    exact kept.quiet rfl rfl rfl (by simp) (fun _ => rfl) (by simp) rfl id
  | poll selecting fresh =>
    exact kept.quiet rfl rfl rfl (by simp) nofun (by simp [selecting]) (by rw [selecting]; rfl)
      fun _ outcome => by simp [selecting]
  | stop selecting fired =>
    exact kept.quiet rfl rfl rfl (by simp) (fun _ => fired) (by simp [selecting]) (by rw [selecting]; rfl)
      fun _ outcome => by simp [selecting]
  | pending polled =>
    exact kept.quiet rfl rfl rfl (by simp) nofun (by simp [polled]) (by rw [polled]; rfl)
      fun _ outcome => by simp [polled]
  | closed polled =>
    exact kept.quiet rfl rfl rfl (by simp) nofun (by simp) (by rw [polled]; rfl) fun _ outcome => by simp [polled]
  | pollPermit awaiting fresh =>
    exact kept.quiet rfl rfl rfl (by simp) nofun (by simp [awaiting]) (by rw [awaiting]; rfl)
      fun _ outcome => by simp [awaiting]
  | pendingPermit acquiring =>
    exact kept.quiet rfl rfl rfl (by simp) nofun (by simp [acquiring]) (by rw [acquiring]; rfl)
      fun _ outcome => by simp [acquiring]
  | handshakeFailed => exact kept.quiet rfl rfl rfl (by simp [finish]) kept.ok (by simp [finish]) rfl id
  | hand => exact kept.quiet rfl rfl rfl (by simp [handOver]) kept.ok (by simp [handOver]) rfl id
  | handled => exact kept.quiet rfl rfl rfl (by simp [finish]) kept.ok (by simp [finish]) rfl id
  | @accept incoming polled =>
    rw [polled] at accounted error
    have none := kept.live fun outcome => by simp [polled]
    refine ⟨?_, kept.cancelled.trans (by simp), nofun, ⟨nofun, fun member => ?_⟩, fun _ => ?_⟩
    · rw [Reach.filterMap_snoc, Reach.filterMap_snoc, Reach.filterMap_snoc, accounted, none]
      simp [accepted?, spawned?, dropped?, held]
    · exact absurd (error.mpr (by simpa using member)) nofun
    · rw [Reach.filterMap_snoc, none]
      rfl
  | @stopAwaiting incoming awaiting fired =>
    rw [awaiting] at accounted error
    have none := kept.live fun outcome => by simp [awaiting]
    refine ⟨?_, kept.cancelled.trans (by simp), fun _ => fired, ⟨nofun, fun member => ?_⟩, fun running => ?_⟩
    · rw [Reach.filterMap_snoc, Reach.filterMap_snoc, Reach.filterMap_snoc, accounted, none]
      simp [accepted?, spawned?, dropped?, held]
    · exact absurd (error.mpr (by simpa using member)) nofun
    · exact absurd rfl (running (.ok ()))
  | @spawn incoming acquiring room =>
    rw [acquiring] at accounted error
    have none := kept.live fun outcome => by simp [acquiring]
    refine ⟨?_, kept.cancelled.trans (by simp), nofun, ⟨nofun, fun member => ?_⟩, fun _ => ?_⟩
    · rw [Reach.filterMap_snoc, Reach.filterMap_snoc, Reach.filterMap_snoc, accounted, none]
      simp [accepted?, spawned?, dropped?, held, spawnHandler]
    · exact absurd (error.mpr (by simpa using member)) nofun
    · rw [Reach.filterMap_snoc, none]
      rfl

theorem kept_of_reach {cap : Nat} (run : Reach Step (withMaxConcurrentConnections α cap) events server) :
    TasksKept (max cap 1) events server ∧ LoopKept events server := by
  induction run with
  | start => exact ⟨.new cap, .new cap⟩
  | next _ stepped ih => exact ⟨ih.1.step stepped, ih.2.step stepped⟩

/-- Once cancelled, every turn of the loop brings it closer to its return. -/
theorem turnsLeft_step (cancelled : server.cancelled = true) (stepped : Step server event next) :
    next.cancelled = true ∧ turnsLeft next.phase + (if event.ofLoop then 1 else 0) ≤ turnsLeft server.phase := by
  cases stepped with
  | cancel => exact ⟨rfl, Nat.le_refl _⟩
  | poll _ fresh =>
    rw [cancelled] at fresh
    cases fresh
  | pollPermit _ fresh =>
    rw [cancelled] at fresh
    cases fresh
  | stop selecting => exact ⟨cancelled, by rw [selecting]; exact Nat.le_refl 1⟩
  | pending polled => exact ⟨cancelled, by rw [polled]; exact Nat.le_refl _⟩
  | accept polled => exact ⟨cancelled, by rw [polled]; exact Nat.le_refl _⟩
  | closed polled => exact ⟨cancelled, by rw [polled]; exact Nat.le_succ 1⟩
  | stopAwaiting awaiting => exact ⟨cancelled, by rw [awaiting]; exact Nat.le_refl _⟩
  | pendingPermit acquiring => exact ⟨cancelled, by rw [acquiring]; exact Nat.le_refl _⟩
  | spawn acquiring => exact ⟨cancelled, by rw [acquiring]; exact Nat.le_refl _⟩
  | handshakeFailed => exact ⟨cancelled, Nat.le_refl _⟩
  | hand => exact ⟨cancelled, Nat.le_refl _⟩
  | handled => exact ⟨cancelled, Nat.le_refl _⟩

/-- The turns of the loop among these events. -/
def loopTurns (events : List (QuicEvent α)) : List (QuicEvent α) :=
  events.filter (·.ofLoop)

theorem loopTurns_after (cancelled : server.cancelled = true) (run : Reach Step server events next) :
    next.cancelled = true ∧ turnsLeft next.phase + (loopTurns events).length ≤ turnsLeft server.phase := by
  induction run with
  | start => exact ⟨cancelled, Nat.le_refl _⟩
  | @next events middle event last _ stepped ih =>
    obtain ⟨still, before⟩ := ih
    obtain ⟨fired, fewer⟩ := turnsLeft_step still stepped
    refine ⟨fired, ?_⟩
    rw [loopTurns, List.filter_append, List.length_append]
    rw [loopTurns] at before
    cases turn : event.ofLoop with
    | false =>
      rw [turn, if_neg Bool.false_ne_true] at fewer
      rw [List.filter_cons_of_neg (by simp [turn]), List.filter_nil, List.length_nil]
      omega
    | true =>
      rw [turn, if_pos rfl] at fewer
      rw [List.filter_cons_of_pos turn, List.filter_nil, List.length_singleton]
      omega

/-- A loop that was cancelled and has not returned can take a turn. -/
theorem turn_of_cancelled (cancelled : server.cancelled = true) (running : ∀ outcome, server.phase ≠ .returned outcome) :
    ∃ event next, Step server event next ∧ event.ofLoop = true := by
  cases phase : server.phase with
  | returned outcome => exact absurd phase (running outcome)
  | selecting => exact ⟨_, _, .stop phase cancelled, rfl⟩
  | awaiting incoming => exact ⟨_, _, .stopAwaiting phase cancelled, rfl⟩
  | polled => exact ⟨_, _, .pending phase, rfl⟩
  | acquiring incoming => exact ⟨_, _, .pendingPermit phase, rfl⟩

/-- What the accept loop keeps to in every interleaving with its tasks. The
last two say that a shutdown never hangs: a cancelled loop that has not
returned can go on, and takes two more turns at most. -/
structure Serves (cap : Nat) (events : List (QuicEvent α)) (server : NodeQuicServer α) : Prop where
  bounded : server.tasks.length ≤ max cap 1
  inOrder : events.filterMap accepted? = events.filterMap spawned? ++ held server.phase ++ events.filterMap dropped?
  once : (events.filterMap spawned?).Perm (server.tasks.map Prod.fst ++ events.filterMap finished?)
  handed : (events.filterMap handed?).Perm (server.inFlight .handling ++ events.filterMap handled?)
  released : server.tasks = [] → server.availablePermits = max cap 1
  ok : server.phase = .returned (.ok ()) → .cancel ∈ events
  error : server.phase = .returned (.error .endpointClosed) ↔ .endpointClosed ∈ events
  goesOn : .cancel ∈ events → (∀ outcome, server.phase ≠ .returned outcome) →
    ∃ event next, Step server event next ∧ event.ofLoop = true
  prompt : ∀ before after, events = before ++ .cancel :: after → (loopTurns after).length ≤ 2

/-- The accept loop over every order of arrivals, handshakes, handler results
and the cancellation: never more tasks than permits, each connection handled at
most once, and no failure of a task ends the loop. -/
theorem run_serves (cap : Nat) (events : List (QuicEvent α)) (server : NodeQuicServer α)
    (run : Reach Step (withMaxConcurrentConnections α cap) events server) : Serves cap events server := by
  obtain ⟨tasks, loop⟩ := kept_of_reach run
  have budget := tasks.budget
  refine ⟨by omega, loop.accounted, tasks.served, tasks.handed, fun idle => ?_, fun done => loop.cancelled.mp (loop.ok done),
    loop.error, fun fired running => turn_of_cancelled (loop.cancelled.mpr fired) running, ?_⟩
  · rwa [idle, List.length_nil, Nat.add_zero] at budget
  · rintro before after rfl
    obtain ⟨middle, second, early, stepped, rest⟩ := run.step_at
    cases stepped with
    | cancel =>
      have bound := (loopTurns_after rfl rest).2
      have most := turnsLeft_le middle.phase
      dsimp only at bound
      omega

/-- Two connections for one permit: the first one fails its handshake while the
second one waits, and the cancellation then comes before a permit is asked for again. -/
theorem run_serves_saturated :
    Serves 0 [.polled, .accepted 1, .polled, .spawned 1, .polled, .accepted 2, .handshakeFailed 1 "timed out",
        .cancel, .dropped 2] (⟨.returned (.ok ()), 1, [], true⟩ : NodeQuicServer Nat) := by
  have spawned : Reach Step (withMaxConcurrentConnections Nat 0) [.polled, .accepted 1, .polled, .spawned 1] _ :=
    (((Reach.start.next (.poll rfl rfl)).next (.accept rfl)).next (.pollPermit rfl rfl)).next (.spawn rfl (by decide))
  have waiting : Reach Step _ [.polled, .accepted 1, .polled, .spawned 1, .polled, .accepted 2] _ :=
    (spawned.next (.poll rfl rfl)).next (.accept rfl)
  have failed : Reach Step _ [.polled, .accepted 1, .polled, .spawned 1, .polled, .accepted 2,
      .handshakeFailed 1 "timed out"] _ := waiting.next (.handshakeFailed (by decide))
  exact run_serves 0 _ _ ((failed.next .cancel).next (.stopAwaiting rfl rfl))

end NodeQuicServer

end BiBeam
