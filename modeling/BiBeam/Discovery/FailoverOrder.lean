import BiBeam.Discovery.Failover
import BiBeam.Lib.Reach
import BiBeam.Lib.RoundRobin

namespace BiBeam

/-- What the coordinators asked, by position and oldest first, say of a call's order. -/
structure FailsOver {O : Type} (poolLen start : Nat) (asked : List (Nat × Except DiscoveryError O))
    (result : Except DiscoveryError O) : Prop where
  cyclic : asked.map Prod.fst = (List.range asked.length).map (RoundRobin.turn poolLen start)
  once : (asked.map Prod.fst).Nodup
  passed : ∀ earlier ∈ asked.dropLast, ∃ error, earlier.2 = .error error ∧ error.isRetriable = true
  returned : asked.getLast?.map Prod.snd = some result
  stopped : settles result = true ∨ asked.length = poolLen

/-- A call under way or, with its result, returned; the loop is at `offset`. -/
structure FailoverCall (O : Type) where
  start : Nat
  offset : Nat
  asked : List (Nat × Except DiscoveryError O)
  lastError : Option DiscoveryError
  result : Option (Except DiscoveryError O)

namespace FailoverCall

variable {O : Type}

def begin_ (start : Nat) : FailoverCall O :=
  ⟨start, 0, [], none, none⟩

/-- One turn of the loop, with the outcome of the operation at the coordinator it is at. -/
def answer (poolLen : Nat) (call : FailoverCall O) (outcome : Except DiscoveryError O) : FailoverCall O :=
  let asked := call.asked ++ [((call.start + call.offset) % poolLen, outcome)]
  match outcome with
  | .ok value => { call with asked, result := some (.ok value) }
  | .error error =>
    if error.isRetriable then
      { call with asked, offset := call.offset + 1, lastError := some error }
    else
      { call with asked, result := some (.error error) }

/-- The end of the loop. -/
def exhaust (call : FailoverCall O) : FailoverCall O :=
  { call with result := some (.error
      (call.lastError.getD (.url "coordinator pool exhausted with no error captured"))) }

end FailoverCall

/-- All calls made on a pool and its clones, which share the cursor, in the
order in which they took it. -/
structure FailoverWorld (O : Type) where
  cursor : UInt64
  calls : List (FailoverCall O)

inductive FailoverEvent (O : Type)
  | begin_
  | answer (call : Nat) (outcome : Except DiscoveryError O)
  | exhaust (call : Nat)

namespace FailoverWorld

variable {O : Type}

def init (cursor : UInt64) : FailoverWorld O :=
  ⟨cursor, []⟩

/-- The calls proceed in any interleaving, each at its own pace. -/
inductive Step (poolLen : Nat) : FailoverWorld O → FailoverEvent O → FailoverWorld O → Prop
  | begin_ {world} : Step poolLen world .begin_
      ⟨world.cursor + 1, world.calls ++ [.begin_ (world.cursor.toNat % poolLen)]⟩
  | answer {world k call outcome} : world.calls[k]? = some call → call.result = none →
      call.offset < poolLen → Step poolLen world (.answer k outcome)
        { world with calls := world.calls.set k (call.answer poolLen outcome) }
  | exhaust {world k call} : world.calls[k]? = some call → call.result = none →
      call.offset = poolLen → Step poolLen world (.exhaust k)
        { world with calls := world.calls.set k call.exhaust }

end FailoverWorld

namespace FailoverCall

variable {O : Type} {poolLen : Nat} {call : FailoverCall O}

/-- Every coordinator asked so far was passed over. -/
structure Underway (poolLen : Nat) (call : FailoverCall O) : Prop where
  inside : call.offset ≤ poolLen
  counted : call.asked.length = call.offset
  cyclic : call.asked.map Prod.fst = (List.range call.offset).map (RoundRobin.turn poolLen call.start)
  passed : ∀ earlier ∈ call.asked, ∃ error, earlier.2 = .error error ∧ error.isRetriable = true
  remembers : call.asked.getLast?.map Prod.snd = call.lastError.map .error

/-- What is true of a call all along. -/
inductive Sound (poolLen : Nat) (call : FailoverCall O) : Prop
  | underway : call.result = none → call.Underway poolLen → Sound poolLen call
  | returned {result} : call.result = some result → FailsOver poolLen call.start call.asked result →
      Sound poolLen call

theorem sound_begin (poolLen start : Nat) : (begin_ start : FailoverCall O).Sound poolLen :=
  .underway rfl ⟨Nat.zero_le _, rfl, rfl, List.forall_mem_nil _, rfl⟩

theorem start_answer (call : FailoverCall O) (outcome : Except DiscoveryError O) :
    (call.answer poolLen outcome).start = call.start := by
  unfold answer
  cases outcome with
  | ok value => rfl
  | error error => cases retriable : error.isRetriable <;> simp [retriable]

/-- The next coordinator in turn is asked. -/
theorem Underway.ask (underway : call.Underway poolLen) (outcome : Except DiscoveryError O) :
    (call.asked ++ [((call.start + call.offset) % poolLen, outcome)]).map Prod.fst =
      (List.range (call.offset + 1)).map (RoundRobin.turn poolLen call.start) := by
  rw [List.map_append, underway.cyclic, List.range_succ, List.map_append]
  rfl

/-- An outcome that ends the call. -/
theorem Underway.settle (underway : call.Underway poolLen) (room : call.offset < poolLen)
    {outcome : Except DiscoveryError O} (settled : settles outcome = true) :
    FailsOver poolLen call.start (call.asked ++ [((call.start + call.offset) % poolLen, outcome)]) outcome where
  cyclic := by rw [underway.ask, List.length_append, underway.counted, List.length_singleton]
  once := by
    rw [underway.ask]
    exact RoundRobin.nodup_turns room
  passed := by
    rw [List.dropLast_concat]
    exact underway.passed
  returned := by rw [List.getLast?_concat, Option.map_some]
  stopped := .inl settled

theorem Underway.pass (underway : call.Underway poolLen) (room : call.offset < poolLen) {error : DiscoveryError}
    (retriable : error.isRetriable = true) :
    (call.answer poolLen (.error error)).Underway poolLen := by
  rw [answer, if_pos retriable]
  constructor
  case inside => exact room
  case counted => rw [List.length_append, underway.counted, List.length_singleton]
  case cyclic => exact underway.ask _
  case passed =>
    intro earlier member
    rcases List.mem_append.mp member with before | here
    · exact underway.passed earlier before
    · rw [List.mem_singleton.mp here]
      exact ⟨error, rfl, retriable⟩
  case remembers => rw [List.getLast?_concat, Option.map_some, Option.map_some]

theorem Underway.answer (underway : call.Underway poolLen) (room : call.offset < poolLen)
    (running : call.result = none) (outcome : Except DiscoveryError O) :
    (call.answer poolLen outcome).Sound poolLen := by
  cases outcome with
  | ok value => exact .returned rfl (underway.settle room rfl)
  | error error =>
    cases retriable : error.isRetriable with
    | true =>
      refine .underway ?_ (underway.pass room retriable)
      rw [FailoverCall.answer, if_pos retriable]
      exact running
    | false =>
      have settled : settles (.error error : Except DiscoveryError O) = true := by simp [settles, retriable]
      have ended := underway.settle room settled
      rw [FailoverCall.answer, if_neg (by simp [retriable])]
      exact .returned rfl ended

theorem Underway.last_error (underway : call.Underway poolLen) (begun : 0 < call.offset) :
    ∃ error, call.lastError = some error ∧ call.asked.getLast?.map Prod.snd = some (.error error) := by
  have something : call.asked ≠ [] := List.length_pos_iff.mp (underway.counted ▸ begun)
  obtain ⟨front, last, split⟩ := List.eq_nil_or_concat' call.asked |>.resolve_left something
  obtain ⟨error, failed, _⟩ := underway.passed last (by simp [split])
  have atLast : call.asked.getLast?.map Prod.snd = some (.error error) := by
    rw [split, List.getLast?_concat, Option.map_some, failed]
  have remembers := underway.remembers
  rw [atLast] at remembers
  obtain ⟨kept, same, equal⟩ := Option.map_eq_some_iff.mp remembers.symm
  exact ⟨error, by rw [same, Except.error.inj equal], atLast⟩

/-- A call that went through the whole pool returns the last error. -/
theorem Underway.exhaust (underway : call.Underway poolLen) (pos : 0 < poolLen) (round : call.offset = poolLen) :
    call.exhaust.Sound poolLen := by
  obtain ⟨error, remembered, atLast⟩ := underway.last_error (round ▸ pos)
  have result : call.exhaust.result = some (.error error) := by
    rw [FailoverCall.exhaust, remembered, Option.getD_some]
  refine .returned result ?_
  constructor
  case cyclic =>
    have cyclic := underway.cyclic
    rwa [← underway.counted] at cyclic
  case once =>
    change (call.asked.map Prod.fst).Nodup
    rw [underway.cyclic]
    exact RoundRobin.nodup_turns underway.inside
  case passed => exact fun earlier member => underway.passed earlier (List.dropLast_subset _ member)
  case returned => exact atLast
  case stopped => exact .inr (underway.counted.trans round)

end FailoverCall

namespace FailoverWorld

variable {O : Type} {poolLen : Nat} {cursor : UInt64}

/-- Each call starts where the cursor stood when it took it, and keeps to the order. -/
structure Invariant (poolLen : Nat) (cursor : UInt64) (world : FailoverWorld O) : Prop where
  taken : world.cursor = cursor + UInt64.ofNat world.calls.length
  starts : world.calls.map FailoverCall.start =
    (List.range world.calls.length).map fun i => (cursor + UInt64.ofNat i).toNat % poolLen
  sound : ∀ call ∈ world.calls, call.Sound poolLen

theorem Invariant.set {world : FailoverWorld O} (invariant : world.Invariant poolLen cursor) {k : Nat}
    {before after : FailoverCall O} (atCall : world.calls[k]? = some before)
    (start : after.start = before.start) (sound : after.Sound poolLen) :
    Invariant poolLen cursor { world with calls := world.calls.set k after } where
  taken := by
    rw [List.length_set]
    exact invariant.taken
  starts := by
    have same : (world.calls.map FailoverCall.start)[k]? = some before.start := by
      rw [List.getElem?_map, atCall, Option.map_some]
    obtain ⟨inside, value⟩ := List.getElem?_eq_some_iff.mp same
    rw [List.length_set, List.map_set, start, ← value, List.set_getElem_self]
    exact invariant.starts
  sound := by
    intro call member
    rcases List.mem_or_eq_of_mem_set member with old | rfl
    · exact invariant.sound call old
    · exact sound

theorem Invariant.step (pos : 0 < poolLen) {world next : FailoverWorld O} {event : FailoverEvent O}
    (invariant : world.Invariant poolLen cursor) (step : Step poolLen world event next) :
    next.Invariant poolLen cursor := by
  cases step with
  | begin_ =>
    constructor
    case taken =>
      rw [invariant.taken, List.length_append, List.length_singleton, UInt64.ofNat_add]
      exact UInt64.add_assoc _ _ _
    case starts =>
      rw [List.map_append, invariant.starts, List.length_append, List.length_singleton, List.range_succ,
        List.map_append, invariant.taken]
      rfl
    case sound =>
      intro call member
      rcases List.mem_append.mp member with old | new
      · exact invariant.sound call old
      · rw [List.mem_singleton.mp new]
        exact FailoverCall.sound_begin _ _
  | answer atCall running room =>
    refine invariant.set atCall (FailoverCall.start_answer _ _) ?_
    cases invariant.sound _ (List.mem_of_getElem? atCall) with
    | underway _ underway => exact underway.answer room running _
    | returned done _ => exact absurd (running.symm.trans done) nofun
  | exhaust atCall running round =>
    refine invariant.set atCall rfl ?_
    cases invariant.sound _ (List.mem_of_getElem? atCall) with
    | underway _ underway => exact underway.exhaust pos round
    | returned done _ => exact absurd (running.symm.trans done) nofun

theorem invariant_of_reach (pos : 0 < poolLen) {events : List (FailoverEvent O)} {world : FailoverWorld O}
    (reach : Reach (Step poolLen) (init cursor) events world) : world.Invariant poolLen cursor := by
  induction reach with
  | start => exact ⟨(UInt64.add_zero cursor).symm, rfl, List.forall_mem_nil _⟩
  | next _ stepped ih => exact ih.step pos stepped

/-- While the cursor does not wrap, the starts go round the pool. -/
theorem Invariant.start_eq {world : FailoverWorld O} (invariant : world.Invariant poolLen cursor)
    (unwrapped : cursor.toNat + world.calls.length ≤ 2 ^ 64) {i : Nat}
    (inside : i < (world.calls.map FailoverCall.start).length) :
    (world.calls.map FailoverCall.start)[i] = RoundRobin.turn poolLen cursor.toNat i := by
  have bound : i < world.calls.length := by rwa [List.length_map] at inside
  have whole : (cursor + UInt64.ofNat i).toNat = cursor.toNat + i := by
    rw [UInt64.toNat_add, UInt64.toNat_ofNat']
    omega
  simp only [invariant.starts, List.getElem_map, List.getElem_range, whole, RoundRobin.turn]

end FailoverWorld

namespace CoordinatorPool

open FailoverWorld

variable {C O : Type}

/-- The coordinator at the position was called, with this outcome. -/
def Asks (pool : CoordinatorPool C) (operation : C → Except DiscoveryError O)
    (ask : Nat × Except DiscoveryError O) (client : C) : Prop :=
  pool.coordinators[ask.1]? = some client ∧ ask.2 = operation client

theorem asks_clientAt (pool : CoordinatorPool C) (operation : C → Except DiscoveryError O) (start offset : Nat) :
    pool.Asks operation ((start + offset) % pool.coordinators.length, operation (pool.clientAt start offset))
      (pool.clientAt start offset) :=
  ⟨List.getElem?_eq_getElem (Nat.mod_lt _ pool.length_pos), rfl⟩

/-- A call that nothing interrupts takes the steps of the loop that it has left. -/
theorem tryOffsets_run (pool : CoordinatorPool C) (operation : C → Except DiscoveryError O) {cursor : UInt64}
    {remaining : Nat} {call : FailoverCall O} (running : call.result = none)
    (left : call.offset + remaining = pool.coordinators.length) :
    ∃ events final more, Reach (Step pool.coordinators.length) ⟨cursor, [call]⟩ events ⟨cursor, [final]⟩ ∧
      final.start = call.start ∧ final.asked = call.asked ++ more ∧
      List.Forall₂ (pool.Asks operation) more
        (pool.tryOffsets operation call.start (List.range' call.offset remaining) call.lastError).1 ∧
      final.result =
        some (pool.tryOffsets operation call.start (List.range' call.offset remaining) call.lastError).2 := by
  induction remaining generalizing call with
  | zero =>
    have ended : Step pool.coordinators.length ⟨cursor, [call]⟩ (.exhaust 0) ⟨cursor, [call.exhaust]⟩ :=
      .exhaust rfl running (by omega)
    exact ⟨_, _, [], .single ended, rfl, (List.append_nil _).symm, .nil, rfl⟩
  | succ remaining ih =>
    have asks := pool.asks_clientAt operation call.start call.offset
    have answered : Step pool.coordinators.length ⟨cursor, [call]⟩
        (.answer 0 (operation (pool.clientAt call.start call.offset)))
        ⟨cursor, [call.answer _ (operation (pool.clientAt call.start call.offset))]⟩ :=
      .answer rfl running (by omega)
    rw [List.range'_succ, tryOffsets]
    cases outcome : operation (pool.clientAt call.start call.offset) with
    | ok value =>
      rw [outcome] at asks answered
      exact ⟨_, _, _, .single answered, rfl, rfl, .cons asks .nil, rfl⟩
    | error error =>
      rw [outcome] at asks answered
      rw [FailoverCall.answer] at answered
      cases retriable : error.isRetriable with
      | false =>
        rw [if_neg (by simp [retriable])] at answered
        simp only [retriable, Bool.false_eq_true, if_false]
        exact ⟨_, _, _, .single answered, rfl, rfl, .cons asks .nil, rfl⟩
      | true =>
        rw [if_pos retriable] at answered
        simp only [retriable, if_true]
        let asked := call.asked ++ [((call.start + call.offset) % pool.coordinators.length, .error error)]
        obtain ⟨events, final, more, run, start, all, calls, result⟩ :=
          @ih ⟨call.start, call.offset + 1, asked, some error, call.result⟩ running (by simp only; omega)
        refine ⟨_, final, _ :: more, (Reach.single answered).trans run, start, ?_, .cons asks calls, result⟩
        rw [all, List.append_assoc]
        rfl

/-- `tryEach` is what a call does that nothing interrupts. -/
theorem tryEach_run (pool : CoordinatorPool C) (operation : C → Except DiscoveryError O) :
    ∃ events call, Reach (Step pool.coordinators.length) (init pool.cursor) events
        ⟨(pool.tryEach operation).pool.cursor, [call]⟩ ∧
      call.start = pool.cursor.toNat % pool.coordinators.length ∧
      List.Forall₂ (pool.Asks operation) call.asked (pool.tryEach operation).calls ∧
      call.result = some (pool.tryEach operation).result := by
  have taken : Step pool.coordinators.length (init pool.cursor) (.begin_ : FailoverEvent O)
      ⟨pool.cursor + 1, [.begin_ (pool.cursor.toNat % pool.coordinators.length)]⟩ := .begin_
  obtain ⟨events, final, more, run, start, all, calls, result⟩ := @tryOffsets_run C O pool operation
    (pool.cursor + 1) pool.coordinators.length (.begin_ (pool.cursor.toNat % pool.coordinators.length)) rfl
    (Nat.zero_add _)
  refine ⟨_, final, (Reach.single taken).trans run, start, ?_, ?_⟩
  · rw [all, tryEach, List.range_eq_range']
    exact calls
  · rw [result, tryEach, List.range_eq_range']
    rfl

theorem tryEach_failsOver (pool : CoordinatorPool C) (operation : C → Except DiscoveryError O) :
    ∃ asked, List.Forall₂ (pool.Asks operation) asked (pool.tryEach operation).calls ∧
      FailsOver pool.coordinators.length (pool.cursor.toNat % pool.coordinators.length) asked
        (pool.tryEach operation).result := by
  obtain ⟨events, call, run, start, calls, result⟩ := pool.tryEach_run operation
  refine ⟨call.asked, calls, ?_⟩
  rw [← start]
  cases (invariant_of_reach pool.length_pos run).sound call (List.mem_singleton_self _) with
  | underway running _ => exact absurd (running.symm.trans result) nofun
  | returned done failsOver =>
    rw [Option.some.inj (result.symm.trans done)]
    exact failsOver

/-- A call by itself goes round the pool from the cursor; any number of calls
that share the cursor, however they interleave, each go round it too, and as
many of them in a row as there are coordinators all start at different ones. -/
theorem tryEach_order (pool : CoordinatorPool C) :
    (∀ operation : C → Except DiscoveryError O,
      ∃ asked, List.Forall₂ (pool.Asks operation) asked (pool.tryEach operation).calls ∧
        FailsOver pool.coordinators.length (pool.cursor.toNat % pool.coordinators.length) asked
          (pool.tryEach operation).result) ∧
    ∀ (events : List (FailoverEvent O)) (world : FailoverWorld O),
      Reach (Step pool.coordinators.length) (init pool.cursor) events world →
      pool.cursor.toNat + world.calls.length ≤ 2 ^ 64 →
      (∀ call ∈ world.calls, call.start < pool.coordinators.length ∧
        ∀ result, call.result = some result →
          FailsOver pool.coordinators.length call.start call.asked result) ∧
      ∀ first, (((world.calls.map FailoverCall.start).drop first).take pool.coordinators.length).Nodup := by
  refine ⟨pool.tryEach_failsOver, fun events world run unwrapped => ⟨fun call member => ⟨?_, ?_⟩, ?_⟩⟩
  · have invariant := invariant_of_reach pool.length_pos run
    have listed : call.start ∈ world.calls.map FailoverCall.start := List.mem_map_of_mem member
    rw [invariant.starts] at listed
    obtain ⟨i, _, same⟩ := List.mem_map.mp listed
    exact same ▸ Nat.mod_lt _ pool.length_pos
  · intro result done
    cases (invariant_of_reach pool.length_pos run).sound call member with
    | underway running _ => exact absurd (running.symm.trans done) nofun
    | returned same failsOver =>
      rw [Option.some.inj (done.symm.trans same)]
      exact failsOver
  · have invariant := invariant_of_reach pool.length_pos run
    exact RoundRobin.nodup_window fun i inside => invariant.start_eq unwrapped inside

def pair : CoordinatorPool Nat :=
  ⟨[10, 20], List.cons_ne_nil _ _, 0⟩

/-- Of two calls of which the second one is answered first. -/
theorem tryEach_order_pair :
    FailsOver 2 1 [(1, .ok ())] (.ok ()) ∧ ∀ first, (([0, 1].drop first).take 2).Nodup := by
  have run : Reach (Step 2) (init 0) [.begin_, .begin_, .answer 1 (.ok ())]
      ⟨2, [.begin_ 0, (FailoverCall.begin_ 1).answer 2 (.ok ())]⟩ :=
    ((Reach.start.next .begin_).next .begin_).next (.answer rfl rfl Nat.two_pos)
  obtain ⟨kept, apart⟩ := (tryEach_order pair).2 _ _ run (by decide)
  exact ⟨(kept _ (List.mem_cons_of_mem _ (List.mem_singleton_self _))).2 _ rfl, apart⟩

end CoordinatorPool

end BiBeam
