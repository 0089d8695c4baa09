import Mathlib.Data.List.Rotate
import BiBeam.Lib.InTurn

namespace BiBeam

/-- What the HTTP client library tells about a failed request. -/
structure ReqwestError where
  isTimeout : Bool
  isConnect : Bool
  isRequest : Bool
deriving DecidableEq

/-- The WebSocket failures that the program tells apart. -/
inductive WsError
  | connectionClosed
  | alreadyClosed
  | io
  | tls
  | http (status : UInt16)
  | other (message : String)
deriving DecidableEq

inductive DiscoveryError
  | httpTransport (error : ReqwestError)
  | httpStatus (status : UInt16) (body : String)
  | json (message : String)
  | ws (error : WsError)
  | url (message : String)
deriving DecidableEq

def isTransportRetriable (error : ReqwestError) : Bool :=
  error.isTimeout || error.isConnect || error.isRequest

def isWsRetriable : WsError → Bool
  | .io => true
  | .tls => true
  | _ => false

def DiscoveryError.isRetriable : DiscoveryError → Bool
  | httpTransport error => isTransportRetriable error
  | httpStatus status _ => decide (500 ≤ status)
  | ws error => isWsRetriable error
  | json _ => false
  | url _ => false

structure CoordinatorPool (C : Type) where
  coordinators : List C
  nonempty : coordinators ≠ []
  cursor : UInt64

/-- One call of `tryEach`: the coordinators called, the result and the pool it leaves. -/
structure Attempt (C O : Type) where
  calls : List C
  result : Except DiscoveryError O
  pool : CoordinatorPool C

/-- An outcome after which no other coordinator is called. -/
def settles {O : Type} : Except DiscoveryError O → Bool
  | .ok _ => true
  | .error error => !error.isRetriable

namespace CoordinatorPool

variable {C O : Type}

def new (clients : List C) : Except DiscoveryError (CoordinatorPool C) :=
  if empty : clients = [] then
    .error (.url "coordinator pool must hold at least one client")
  else
    .ok ⟨clients, empty, 0⟩

theorem length_pos (pool : CoordinatorPool C) : 0 < pool.coordinators.length :=
  List.length_pos_iff.mpr pool.nonempty

/-- The coordinator an offset away from the start, wrapping around. -/
def clientAt (pool : CoordinatorPool C) (start offset : Nat) : C :=
  pool.coordinators.get ⟨(start + offset) % pool.coordinators.length, Nat.mod_lt _ pool.length_pos⟩

def tryOffsets (pool : CoordinatorPool C) (operation : C → Except DiscoveryError O) (start : Nat) :
    List Nat → Option DiscoveryError → List C × Except DiscoveryError O
  | [], lastError => ([], .error (lastError.getD (.url "coordinator pool exhausted with no error captured")))
  | offset :: rest, _ =>
    let client := pool.clientAt start offset
    match operation client with
    | .ok value => ([client], .ok value)
    | .error error =>
      if error.isRetriable then
        let (calls, result) := pool.tryOffsets operation start rest (some error)
        (client :: calls, result)
      else
        ([client], .error error)

def tryEach (pool : CoordinatorPool C) (operation : C → Except DiscoveryError O) : Attempt C O :=
  let poolLen := pool.coordinators.length
  let start := pool.cursor.toNat % poolLen
  let (calls, result) := pool.tryOffsets operation start (List.range poolLen) none
  ⟨calls, result, { pool with cursor := pool.cursor + 1 }⟩

/-- The coordinators in the order in which a call goes through them. -/
def order (pool : CoordinatorPool C) : List C :=
  pool.coordinators.rotate pool.cursor.toNat

theorem mem_order {pool : CoordinatorPool C} {coordinator : C} :
    coordinator ∈ pool.order ↔ coordinator ∈ pool.coordinators :=
  List.mem_rotate

theorem map_clientAt (pool : CoordinatorPool C) :
    (List.range pool.coordinators.length).map (pool.clientAt (pool.cursor.toNat % pool.coordinators.length)) =
      pool.order := by
  rw [order, ← List.rotate_mod]
  apply List.ext_getElem
  · rw [List.length_map, List.length_range, List.length_rotate]
  · intro offset _ _
    rw [List.getElem_map, List.getElem_range, List.getElem_rotate, clientAt, List.get_eq_getElem]
    simp only [Nat.add_comm]

theorem tryOffsets_calls (pool : CoordinatorPool C) (operation : C → Except DiscoveryError O) (start : Nat)
    (offsets : List Nat) (lastError : Option DiscoveryError) :
    (pool.tryOffsets operation start offsets lastError).1 =
      InTurn.asked (fun client => settles (operation client)) (offsets.map (pool.clientAt start)) := by
  induction offsets generalizing lastError with
  | nil => rfl
  | cons offset rest ih =>
    rw [List.map_cons, InTurn.asked, tryOffsets]
    cases outcome : operation (pool.clientAt start offset) with
    | ok value => rfl
    | error error =>
      cases retriable : error.isRetriable with
      | true => simp [settles, retriable, ih]
      | false => simp [settles, retriable]

/-- The result is the outcome at the coordinator called last. -/
theorem tryOffsets_result (pool : CoordinatorPool C) (operation : C → Except DiscoveryError O) (start : Nat)
    (offsets : List Nat) (nonempty : offsets ≠ []) (lastError : Option DiscoveryError) :
    (pool.tryOffsets operation start offsets lastError).1.getLast?.map operation =
      some (pool.tryOffsets operation start offsets lastError).2 := by
  induction offsets generalizing lastError with
  | nil => exact absurd rfl nonempty
  | cons offset rest ih =>
    rw [tryOffsets]
    cases outcome : operation (pool.clientAt start offset) with
    | ok value => simp [outcome]
    | error error =>
      cases retriable : error.isRetriable with
      | false => simp [outcome, retriable]
      | true =>
        cases rest with
        | nil => simp [tryOffsets, outcome, retriable]
        | cons next others =>
          have later := ih (List.cons_ne_nil _ _) (some error)
          obtain ⟨last, atLast, same⟩ := Option.map_eq_some_iff.mp later
          simp only [retriable, if_true, List.getLast?_cons, atLast, Option.getD_some, Option.map_some, same]

theorem tryEach_calls (pool : CoordinatorPool C) (operation : C → Except DiscoveryError O) :
    (pool.tryEach operation).calls = InTurn.asked (fun client => settles (operation client)) pool.order := by
  rw [← map_clientAt]
  exact pool.tryOffsets_calls operation _ _ none

theorem tryEach_result (pool : CoordinatorPool C) (operation : C → Except DiscoveryError O) :
    (pool.tryEach operation).calls.getLast?.map operation = some (pool.tryEach operation).result := by
  have nonempty : List.range pool.coordinators.length ≠ [] := by
    rw [Ne, List.range_eq_nil]
    exact pool.length_pos.ne'
  exact pool.tryOffsets_result operation _ _ nonempty none

/-- Every coordinator called but the last has failed, and the last one's outcome is the result. -/
theorem tryEach_split (pool : CoordinatorPool C) (operation : C → Except DiscoveryError O) :
    ∃ front last, (pool.tryEach operation).calls = front ++ [last] ∧
      (∀ client ∈ front, ∃ err, operation client = .error err) ∧ (pool.tryEach operation).result = operation last := by
  have listed : pool.order ≠ [] := by
    rw [order, Ne, List.rotate_eq_nil_iff]
    exact pool.nonempty
  obtain ⟨front, last, same, unsettled⟩ := @InTurn.asked_split _ (fun client => settles (operation client)) _ listed
  rw [← tryEach_calls] at same
  have result := pool.tryEach_result operation
  rw [same, List.getLast?_concat] at result
  refine ⟨front, last, same, fun client member => ?_, (Option.some.inj result).symm⟩
  have failed := unsettled client member
  cases outcome : operation client with
  | ok value =>
    rw [outcome] at failed
    cases failed
  | error err => exact ⟨err, rfl⟩

/-- If one coordinator of the pool settles the call, the one called last does. -/
theorem settles_of_getLast {pool : CoordinatorPool C} {operation : C → Except DiscoveryError O} {client last : C}
    (member : client ∈ pool.coordinators) (settled : settles (operation client) = true)
    (atLast : (pool.tryEach operation).calls.getLast? = some last) : settles (operation last) = true := by
  rw [tryEach_calls] at atLast
  exact InTurn.settles_of_getLast_asked (fun client => settles (operation client)) (mem_order.mpr member)
    settled atLast

end CoordinatorPool

end BiBeam
