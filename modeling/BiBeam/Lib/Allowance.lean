import Mathlib.Logic.Function.Basic
import BiBeam.Lib.Reach

universe u

namespace Allowance

variable {K : Type u}

/-- What one call does to the allowances: it grants a key an amount anew,
draws one unit and tells what is left, finds nothing left, or does nothing. -/
inductive Event (K : Type u)
  | grant (key : K) (amount : Nat)
  | drawn (key : K) (left : Nat)
  | refused (key : K)
  | silent

variable [DecidableEq K]

inductive Step : (K → Nat) → Event K → (K → Nat) → Prop
  | grant {s key amount} : Step s (.grant key amount) (Function.update s key amount)
  | drawn {s key left} : s key = left + 1 → Step s (.drawn key left) (Function.update s key left)
  | refused {s key} : s key = 0 → Step s (.refused key) s
  | silent {s} : Step s .silent s

namespace Event

/-- What is left of a key's allowance after a unit of it was drawn. -/
def left? (key : K) : Event K → Option Nat
  | drawn other left => if other = key then some left else none
  | _ => none

/-- A unit of a key's allowance was asked for, with or without success. -/
def asks (key : K) : Event K → Bool
  | drawn other _ => other = key
  | refused other => other = key
  | _ => false

end Event

/-- What was left after each unit drawn from a key, oldest first. -/
def draws (key : K) (events : List (Event K)) : List Nat :=
  events.filterMap (Event.left? key)

def asked (key : K) (events : List (Event K)) : Nat :=
  events.countP (Event.asks key)

/-- Nothing is granted to the key anew. -/
def Ungranted (key : K) (events : List (Event K)) : Prop :=
  ∀ amount, .grant key amount ∉ events

variable {s t : K → Nat} {key : K} {events : List (Event K)}

theorem draws_append (key : K) (front behind : List (Event K)) :
    draws key (front ++ behind) = draws key front ++ draws key behind :=
  List.filterMap_append

theorem asked_append (key : K) (front behind : List (Event K)) :
    asked key (front ++ behind) = asked key front + asked key behind :=
  List.countP_append

/-- What one more unit, taken or refused, adds to a countdown. -/
theorem countdown_succ {amount taken left : Nat} (room : amount - taken = left + 1) :
    (List.range (min (taken + 1) amount)).map (amount - 1 - ·) =
      (List.range (min taken amount)).map (amount - 1 - ·) ++ [left] := by
  rw [Nat.min_eq_left (by omega), Nat.min_eq_left (by omega), List.range_succ, List.map_append,
    List.map_singleton, show amount - 1 - taken = left by omega]

theorem Step.granted {amount : Nat} (stepped : Step s (.grant key amount) t) : t key = amount := by
  cases stepped
  exact Function.update_self ..

theorem Step.other {event : Event K} (stepped : Step s event t) (ungranted : ∀ amount, event ≠ .grant key amount)
    (silent : event.asks key = false) : event.left? key = none ∧ t key = s key := by
  cases stepped with
  | @grant key' amount =>
    have apart : key ≠ key' := fun same => ungranted amount (by rw [same])
    exact ⟨rfl, Function.update_of_ne apart ..⟩
  | @drawn key' left =>
    have apart : key' ≠ key := of_decide_eq_false silent
    exact ⟨if_neg apart, Function.update_of_ne apart.symm ..⟩
  | refused => exact ⟨rfl, rfl⟩
  | silent => exact ⟨rfl, rfl⟩

/-- Between two grants to a key its units are drawn one by one until none is
left, and every later request is refused. -/
theorem draws_eq_countdown (run : Reach Step s events t) (ungranted : Ungranted key events) :
    draws key events = (List.range (min (asked key events) (s key))).map (s key - 1 - ·) ∧
      t key = s key - asked key events := by
  induction run with
  | start => exact ⟨by simp [draws, asked], rfl⟩
  | @next events before event after _ stepped ih =>
    obtain ⟨drawn, left⟩ := ih fun amount member => ungranted amount (List.mem_append_left _ member)
    have last : ∀ amount, event ≠ .grant key amount := by
      rintro amount rfl
      exact ungranted amount (List.mem_append_right _ List.mem_cons_self)
    rw [draws_append, asked_append]
    cases asks : event.asks key with
    | false =>
      obtain ⟨nothing, same⟩ := stepped.other last asks
      have noDraw : draws key [event] = [] := List.filterMap_cons_none nothing
      have noCount : asked key [event] = 0 := List.countP_eq_zero.mpr (by simp [asks])
      rw [noDraw, noCount, List.append_nil, Nat.add_zero, same]
      exact ⟨drawn, left⟩
    | true =>
      have counted : asked key [event] = 1 := by simp [asked, asks]
      rw [counted]
      cases stepped with
      | grant => cases asks
      | silent => cases asks
      | @drawn other rest room =>
        obtain rfl : other = key := of_decide_eq_true asks
        have here : draws other [.drawn other rest] = [rest] := by simp [draws, Event.left?]
        rw [left] at room
        rw [here, drawn, countdown_succ room, Function.update_self]
        exact ⟨rfl, by omega⟩
      | @refused other empty =>
        obtain rfl : other = key := of_decide_eq_true asks
        rw [left] at empty
        have here : draws other [.refused other] = [] := rfl
        rw [here, List.append_nil, drawn, Nat.min_eq_right (by omega), Nat.min_eq_right (by omega), left]
        exact ⟨rfl, by omega⟩

end Allowance
