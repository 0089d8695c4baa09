import BiBeam.Lib.Reach
import BiBeam.Lib.Saturating

namespace BiBeam

def rotationByteCap : UInt64 := 500 * 1024 * 1024

inductive RotationCause
  | wallClock
  | byteCap
deriving DecidableEq

/-- Where the rotation loop stands. Between two phases the data plane may
add bytes; a stopped loop keeps its result, an error with its contexts. -/
inductive LoopPhase
  | selecting
  | ticked
  | rotating (cause : RotationCause) (observed : UInt64)
  | loading (observed : UInt64)
  | subtracting (observed current : UInt64)
  | stopped (result : Except (List String) Unit)

structure LoopState where
  counter : UInt64
  phase : LoopPhase

inductive LoopEvent
  | fetchAdd (previous bytes : UInt64)
  | cancel
  | tick
  | loadObserved
  | poll
  | callbackOk
  | callbackErr (text : String)
  | load
  | exchanged (observed : UInt64)
  | exchangeFailed

/-- The steps of the loop on the shared counter, and those of the data plane. -/
inductive LoopStep : LoopState → LoopEvent → LoopState → Prop
  | fetchAdd {counter phase bytes} :
      LoopStep ⟨counter, phase⟩ (.fetchAdd counter bytes) ⟨counter + bytes, phase⟩
  | cancel {counter} : LoopStep ⟨counter, .selecting⟩ .cancel ⟨counter, .stopped (.ok ())⟩
  | tick {counter} : LoopStep ⟨counter, .selecting⟩ .tick ⟨counter, .ticked⟩
  | loadObserved {counter} : LoopStep ⟨counter, .ticked⟩ .loadObserved ⟨counter, .rotating .wallClock counter⟩
  | poll {counter} : LoopStep ⟨counter, .selecting⟩ .poll
      ⟨counter, if rotationByteCap ≤ counter then .rotating .byteCap counter else .selecting⟩
  | callbackOk {counter cause observed} :
      LoopStep ⟨counter, .rotating cause observed⟩ .callbackOk ⟨counter, .loading observed⟩
  | callbackErr {counter cause observed text} :
      LoopStep ⟨counter, .rotating cause observed⟩ (.callbackErr text)
        ⟨counter, .stopped (.error ["rotation failed", text])⟩
  | load {counter observed} : LoopStep ⟨counter, .loading observed⟩ .load ⟨counter, .subtracting observed counter⟩
  | exchanged {counter observed} : LoopStep ⟨counter, .subtracting observed counter⟩ (.exchanged observed)
      ⟨counter.saturatingSub observed, .selecting⟩
  /-- The exchange may fail although the counter is as expected. -/
  | exchangeFailed {counter observed current} :
      LoopStep ⟨counter, .subtracting observed current⟩ .exchangeFailed ⟨counter, .subtracting observed counter⟩

/-- The loop as it starts on a counter. -/
def loopStart (counter : UInt64) : LoopState :=
  ⟨counter, .selecting⟩

/-- What the data plane added. -/
def addedBytes (events : List LoopEvent) : Nat :=
  (events.map fun event =>
    match event with
    | .fetchAdd _ bytes => bytes.toNat
    | _ => 0).sum

/-- What the completed rotations observed. -/
def rotatedBytes (events : List LoopEvent) : Nat :=
  (events.map fun event =>
    match event with
    | .exchanged observed => observed.toNat
    | _ => 0).sum

/-- No addition wraps around. -/
def NoWrap (events : List LoopEvent) : Prop :=
  ∀ previous bytes, .fetchAdd previous bytes ∈ events → previous.toNat + bytes.toNat < 2 ^ 64

/-- What the loop has observed or read is still in the counter. -/
def LoopPhase.Covered (counter : UInt64) : LoopPhase → Prop
  | selecting => True
  | ticked => True
  | rotating _ observed => observed ≤ counter
  | loading observed => observed ≤ counter
  | subtracting observed current => observed ≤ current ∧ observed ≤ counter
  | stopped _ => True

theorem LoopPhase.Covered.mono {counter larger : UInt64} {phase : LoopPhase} (covered : phase.Covered counter)
    (grown : counter ≤ larger) : phase.Covered larger := by
  cases phase with
  | selecting => trivial
  | ticked => trivial
  | rotating cause observed => exact UInt64.le_trans covered grown
  | loading observed => exact UInt64.le_trans covered grown
  | subtracting observed current => exact ⟨covered.1, UInt64.le_trans covered.2 grown⟩
  | stopped result => trivial

/-- The counter and what was rotated away balance the bytes that came in. -/
structure Accounted (initial : UInt64) (events : List LoopEvent) (s : LoopState) : Prop where
  balance : s.counter.toNat + rotatedBytes events = initial.toNat + addedBytes events
  covered : s.phase.Covered s.counter

theorem addedBytes_append (front : List LoopEvent) (event : LoopEvent) :
    addedBytes (front ++ [event]) = addedBytes front + addedBytes [event] := by
  simp [addedBytes]

theorem rotatedBytes_append (front : List LoopEvent) (event : LoopEvent) :
    rotatedBytes (front ++ [event]) = rotatedBytes front + rotatedBytes [event] := by
  simp [rotatedBytes]

/-- A step that moves no bytes keeps the balance. -/
theorem Accounted.silent {initial : UInt64} {events : List LoopEvent} {s t : LoopState} {event : LoopEvent}
    (accounted : Accounted initial events s) (same : t.counter = s.counter) (added : addedBytes [event] = 0)
    (rotated : rotatedBytes [event] = 0) (covered : t.phase.Covered t.counter) :
    Accounted initial (events ++ [event]) t := by
  refine ⟨?_, covered⟩
  rw [addedBytes_append, rotatedBytes_append, added, rotated, same]
  exact accounted.balance

theorem LoopStep.accounted {initial : UInt64} {events : List LoopEvent} {s t : LoopState} {event : LoopEvent}
    (stepped : LoopStep s event t) (accounted : Accounted initial events s) (fits : NoWrap [event]) :
    Accounted initial (events ++ [event]) t := by
  cases stepped with
  | @fetchAdd counter phase bytes =>
    have noWrap := fits counter bytes List.mem_cons_self
    have sum : (counter + bytes).toNat = counter.toNat + bytes.toNat := by
      rw [UInt64.toNat_add]
      exact Nat.mod_eq_of_lt noWrap
    have grown : counter ≤ counter + bytes := by
      rw [UInt64.le_iff_toNat_le, sum]
      exact Nat.le_add_right _ _
    have balance := accounted.balance
    refine ⟨?_, accounted.covered.mono grown⟩
    rw [addedBytes_append, rotatedBytes_append]
    dsimp only at balance ⊢
    rw [sum]
    change counter.toNat + bytes.toNat + (rotatedBytes events + 0) = initial.toNat + (addedBytes events + (bytes.toNat + 0))
    omega
  | cancel => exact accounted.silent rfl rfl rfl trivial
  | tick => exact accounted.silent rfl rfl rfl trivial
  | loadObserved => exact accounted.silent rfl rfl rfl (UInt64.le_refl _)
  | poll =>
    refine accounted.silent rfl rfl rfl ?_
    dsimp only
    split
    · exact UInt64.le_refl _
    · trivial
  | callbackOk => exact accounted.silent rfl rfl rfl accounted.covered
  | callbackErr => exact accounted.silent rfl rfl rfl trivial
  | load => exact accounted.silent rfl rfl rfl ⟨accounted.covered, accounted.covered⟩
  | @exchanged counter observed =>
    have enough : observed.toNat ≤ counter.toNat := UInt64.le_iff_toNat_le.mp accounted.covered.2
    have balance := accounted.balance
    refine ⟨?_, trivial⟩
    rw [addedBytes_append, rotatedBytes_append]
    dsimp only at balance ⊢
    rw [UInt64.toNat_saturatingSub]
    change counter.toNat - observed.toNat + (rotatedBytes events + (observed.toNat + 0)) =
      initial.toNat + (addedBytes events + 0)
    omega
  | exchangeFailed => exact accounted.silent rfl rfl rfl ⟨accounted.covered.2, accounted.covered.2⟩

theorem NoWrap.front {events : List LoopEvent} {event : LoopEvent} (fits : NoWrap (events ++ [event])) :
    NoWrap events ∧ NoWrap [event] :=
  ⟨fun previous bytes member => fits previous bytes (List.mem_append_left _ member),
    fun previous bytes member => fits previous bytes (List.mem_append_right _ member)⟩

theorem LoopStep.accounted_run {initial : UInt64} {events : List LoopEvent} {s : LoopState}
    (run : Reach LoopStep (loopStart initial) events s) (fits : NoWrap events) : Accounted initial events s := by
  induction run with
  | start => exact ⟨rfl, trivial⟩
  | next _ stepped ih => exact stepped.accounted (ih fits.front.1) fits.front.2

/-- In every run without wrap-around the counter holds what was added less
what the completed rotations observed; no subtraction clamps, and a failed
callback leaves the counter. -/
theorem rotation_accounts_bytes (initial : UInt64) (events : List LoopEvent) (s : LoopState)
    (run : Reach LoopStep (loopStart initial) events s) (fits : NoWrap events) :
    s.counter.toNat = initial.toNat + addedBytes events - rotatedBytes events ∧
      rotatedBytes events ≤ initial.toNat + addedBytes events ∧
      (∀ observed current, s.phase = .subtracting observed current →
        (current.saturatingSub observed).toNat + observed.toNat = current.toNat) ∧
      ∀ text t, LoopStep s (.callbackErr text) t → t.counter = s.counter := by
  have accounted := LoopStep.accounted_run run fits
  have balance := accounted.balance
  refine ⟨by omega, by omega, fun observed current phase => ?_, fun text t stepped => ?_⟩
  · have covered := accounted.covered
    rw [phase] at covered
    have enough := UInt64.le_iff_toNat_le.mp covered.1
    rw [UInt64.toNat_saturatingSub]
    omega
  · cases stepped
    rfl

/-- A rotation during which the data plane adds bytes and one exchange fails. -/
def concurrentRotation : List LoopEvent :=
  [.fetchAdd 0 100, .tick, .loadObserved, .fetchAdd 100 7, .callbackOk, .load, .exchangeFailed, .exchanged 100]

theorem rotation_accounts_bytes_concurrent :
    Reach LoopStep (loopStart 0) concurrentRotation ⟨7, .selecting⟩ ∧
      (7 : UInt64).toNat = (0 : UInt64).toNat + addedBytes concurrentRotation - rotatedBytes concurrentRotation := by
  have run : Reach LoopStep (loopStart 0) concurrentRotation ⟨7, .selecting⟩ :=
    (((((((Reach.start.next .fetchAdd).next .tick).next .loadObserved).next .fetchAdd).next .callbackOk).next .load).next
      .exchangeFailed).next .exchanged
  have fits : NoWrap concurrentRotation := by
    intro previous bytes member
    have values : previous = 0 ∧ bytes = 100 ∨ previous = 100 ∧ bytes = 7 := by
      simpa [concurrentRotation] using member
    rcases values with ⟨rfl, rfl⟩ | ⟨rfl, rfl⟩ <;> decide
  exact ⟨run, (rotation_accounts_bytes 0 concurrentRotation _ run fits).1⟩

end BiBeam
