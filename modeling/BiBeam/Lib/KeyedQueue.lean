import Mathlib.Data.Set.Card

universe u v w

namespace KeyedQueue

variable {α : Type u} {κ : Type v} [DecidableEq κ] (key : α → κ)

/-- The first item under a key. -/
def find (queue : List α) (k : κ) : Option α :=
  queue.find? fun item => key item = k

/-- Replace whatever is queued under the item's key by the item, at the back. -/
def put (queue : List α) (item : α) : List α :=
  (queue.filter fun prior => key prior ≠ key item) ++ [item]

theorem find_filter (keep : κ → Bool) (queue : List α) (k : κ) :
    find key (queue.filter fun item => keep (key item)) k = if keep k then find key queue k else none := by
  rw [find, List.find?_filter]
  by_cases kept : keep k
  · rw [if_pos kept]
    refine congrArg (List.find? · queue) (funext fun item => ?_)
    by_cases here : key item = k <;> simp [here, kept]
  · rw [if_neg kept]
    refine List.find?_eq_none.mpr fun item _ => ?_
    by_cases here : key item = k <;> simp [here, kept]

variable {key}

theorem find_put (queue : List α) (item : α) (k : κ) :
    find key (put key queue item) k = if k = key item then some item else find key queue k := by
  have others := find_filter key (fun other => decide (other ≠ key item)) queue k
  unfold find at others ⊢
  rw [put, List.find?_append, others]
  by_cases here : k = key item
  · simp [here]
  · simp [here, Ne.symm here]

theorem find_isSome_iff {queue : List α} {k : κ} : find key queue k ≠ none ↔ k ∈ queue.map key := by
  simp [find]

/-- With distinct keys, at most one item sits under each key. -/
theorem filter_eq_find {queue : List α} (distinct : (queue.map key).Nodup) (k : κ) :
    (queue.filter fun item => key item = k) = (find key queue k).toList := by
  induction queue with
  | nil => rfl
  | cons item rest ih =>
    rw [List.map_cons, List.nodup_cons] at distinct
    have others := ih distinct.2
    by_cases here : key item = k
    · have none : find key rest k = none := by
        by_contra present
        rw [here] at distinct
        exact distinct.1 (find_isSome_iff.mp present)
      rw [none] at others
      simp [find, here, others]
    · simpa [find, here] using others

/-- Seen under a coarser key, the queue stays free of repeats just when a put
replaces every item it meets under that coarser key. -/
theorem nodup_put_coarse {ν : Type w} (coarse : κ → ν) {queue : List α}
    (distinct : (queue.map (coarse ∘ key)).Nodup) (item : α) :
    ((put key queue item).map (coarse ∘ key)).Nodup ↔
      ∀ prior ∈ queue, coarse (key prior) = coarse (key item) → key prior = key item := by
  rw [put, List.map_append, List.map_singleton, List.nodup_append]
  constructor
  · intro ⟨_, _, apart⟩ prior member same
    by_contra differ
    have kept : prior ∈ queue.filter fun prior => key prior ≠ key item :=
      List.mem_filter.mpr ⟨member, decide_eq_true differ⟩
    exact apart _ (List.mem_map_of_mem kept) _ (List.mem_singleton_self _) same
  · intro replaced
    have kept := distinct.sublist
      ((List.filter_sublist (p := fun prior => key prior ≠ key item)).map (coarse ∘ key))
    refine ⟨kept, List.nodup_singleton _, fun k member k' alone same => ?_⟩
    obtain ⟨prior, inside, rfl⟩ := List.mem_map.mp member
    obtain ⟨waits, apart⟩ := List.mem_filter.mp inside
    rw [List.mem_singleton] at alone
    rw [alone] at same
    exact of_decide_eq_true apart (replaced prior waits same)

theorem nodup_put {queue : List α} (distinct : (queue.map key).Nodup) (item : α) :
    ((put key queue item).map key).Nodup :=
  (nodup_put_coarse id distinct item).mpr fun _ _ same => same

omit [DecidableEq κ] in
theorem nodup_filter {queue : List α} (distinct : (queue.map key).Nodup) (keep : α → Bool) :
    ((queue.filter keep).map key).Nodup :=
  distinct.sublist (List.filter_sublist.map key)

/-- A stamp that grows with every arrival stays increasing along the queue. -/
theorem pairwise_put {stamp : α → Nat} {queue : List α} {item : α}
    (ordered : queue.Pairwise fun first second => stamp first < stamp second)
    (newest : ∀ prior ∈ queue, stamp prior < stamp item) :
    (put key queue item).Pairwise fun first second => stamp first < stamp second := by
  rw [put, List.pairwise_append]
  refine ⟨ordered.filter _, List.pairwise_singleton .., fun prior member last alone => ?_⟩
  rw [List.mem_singleton] at alone
  rw [alone]
  exact newest prior (List.mem_of_mem_filter member)

omit [DecidableEq κ] in
/-- A list with pairwise distinct keys is as long as its set of keys. -/
theorem length_eq_ncard {queue : List α} (distinct : (queue.map key).Nodup) {keys : Set κ}
    (same : ∀ k, k ∈ queue.map key ↔ k ∈ keys) : queue.length = keys.ncard := by
  classical
  have asFinset : keys = ((queue.map key).toFinset : Set κ) := by
    ext k
    rw [← same k, List.coe_toFinset, Set.mem_ofPred_eq]
  rw [asFinset, Set.ncard_coe_finset, List.toFinset_card_of_nodup distinct, List.length_map]

end KeyedQueue
