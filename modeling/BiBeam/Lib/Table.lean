import Mathlib.Data.List.AList

universe u v w

/-- Rows that satisfy one of two predicates that exclude each other. -/
theorem List.length_filter_split {α : Type u} {whole first second : α → Bool}
    (covers : ∀ a, whole a = (first a || second a)) (apart : ∀ a, first a = true → second a = false)
    (rows : List α) : (rows.filter first).length + (rows.filter second).length = (rows.filter whole).length := by
  induction rows with
  | nil => rfl
  | cons row rest ih =>
    rw [List.filter_cons, List.filter_cons, List.filter_cons, covers]
    cases atFirst : first row with
    | true =>
      simp only [apart row atFirst, Bool.or_false, if_true, Bool.false_eq_true, if_false, List.length_cons]
      omega
    | false =>
      simp only [Bool.false_or, Bool.false_eq_true, if_false]
      split
      · simp only [List.length_cons]
        omega
      · exact ih

namespace AList

variable {α : Type u} {β : α → Type v}

/-- The rows that satisfy `keep`, in their old order. -/
def retain (keep : ∀ key, β key → Bool) (t : AList β) : AList β :=
  ⟨t.entries.filter fun row => keep row.1 row.2, t.nodupKeys.sublist List.filter_sublist⟩

/-- The same keys with every value rewritten. -/
def mapVals {γ : α → Type w} (f : ∀ key, β key → γ key) (t : AList β) : AList γ :=
  ⟨t.entries.map fun row => ⟨row.1, f row.1 row.2⟩, t.nodupKeys.map₂ f⟩

theorem mem_retain {keep : ∀ key, β key → Bool} {t : AList β} {row : Sigma β} :
    row ∈ (t.retain keep).entries ↔ row ∈ t.entries ∧ keep row.1 row.2 = true := by
  simp only [retain, List.mem_filter]

/-- Retaining splits the number of rows exactly. -/
theorem length_retain (drop : ∀ key, β key → Bool) (t : AList β) :
    (t.retain fun key value => !drop key value).entries.length +
      (t.entries.filter fun row => drop row.1 row.2).length = t.entries.length := by
  have split := List.length_eq_length_filter_add (l := t.entries) fun row => drop row.1 row.2
  rw [split, Nat.add_comm]
  rfl

variable [DecidableEq α]

/-- Remove a list of keys one after the other. -/
def eraseAll (keys : List α) (t : AList β) : AList β :=
  keys.foldl (fun rest key => rest.erase key) t

theorem mem_entries_iff {t : AList β} {key : α} {value : β key} :
    ⟨key, value⟩ ∈ t.entries ↔ t.lookup key = some value :=
  (mem_lookup_iff (s := t)).symm

theorem lookup_eq_of_mem_iff {t : AList β} {key : α} {found : Option (β key)}
    (same : ∀ value, ⟨key, value⟩ ∈ t.entries ↔ found = some value) : t.lookup key = found := by
  cases atKey : t.lookup key with
  | some value => exact ((same value).mp (mem_entries_iff.mpr atKey)).symm
  | none =>
    cases found with
    | none => rfl
    | some value =>
      have present := mem_entries_iff.mp ((same value).mpr rfl)
      rw [atKey] at present
      exact present

@[simp] theorem lookup_retain (keep : ∀ key, β key → Bool) (t : AList β) (key : α) :
    (t.retain keep).lookup key = (t.lookup key).filter (keep key) := by
  apply lookup_eq_of_mem_iff
  intro value
  rw [mem_retain, mem_entries_iff, Option.filter_eq_some_iff]

@[simp] theorem lookup_mapVals {γ : α → Type w} (f : ∀ key, β key → γ key) (t : AList β) (key : α) :
    (t.mapVals f).lookup key = (t.lookup key).map (f key) := by
  apply lookup_eq_of_mem_iff
  intro value
  simp only [mapVals, List.mem_map, Option.map_eq_some_iff]
  constructor
  · rintro ⟨row, member, same⟩
    cases same
    exact ⟨row.2, mem_entries_iff.mp member, rfl⟩
  · rintro ⟨old, atKey, same⟩
    exact ⟨⟨key, old⟩, mem_entries_iff.mpr atKey, by rw [same]⟩

theorem entries_erase (t : AList β) (key : α) :
    (t.erase key).entries = t.entries.filter fun row => row.1 ≠ key := by
  obtain ⟨rows, distinct⟩ := t
  change List.kerase key rows = rows.filter fun row => row.1 ≠ key
  induction rows with
  | nil => rfl
  | cons row rest ih =>
    rw [List.nodupKeys_cons] at distinct
    by_cases same : key = row.1
    · subst same
      rw [List.kerase_cons_eq rfl, List.filter_cons_of_neg (by simp)]
      refine (List.filter_eq_self.mpr fun other member => ?_).symm
      have apart := List.ne_key.mp distinct.1 other member
      simpa using apart.symm
    · rw [List.kerase_cons_ne same, List.filter_cons_of_pos (by simpa using Ne.symm same), ih distinct.2]

theorem mapVals_erase {γ : α → Type w} (f : ∀ key, β key → γ key) (t : AList β) (key : α) :
    (t.erase key).mapVals f = (t.mapVals f).erase key := by
  apply AList.ext
  rw [entries_erase]
  change ((t.erase key).entries.map fun row => ⟨row.1, f row.1 row.2⟩) =
    (t.entries.map fun row => ⟨row.1, f row.1 row.2⟩ : List (Sigma γ)).filter fun row => row.1 ≠ key
  rw [entries_erase, List.filter_map]
  rfl

theorem mapVals_insert {γ : α → Type w} (f : ∀ key, β key → γ key) (t : AList β) (key : α) (value : β key) :
    (t.insert key value).mapVals f = (t.mapVals f).insert key (f key value) := by
  apply AList.ext
  have rest := congrArg AList.entries (mapVals_erase f t key)
  exact congrArg (⟨key, f key value⟩ :: ·) rest

theorem entries_eraseAll (keys : List α) (t : AList β) :
    (t.eraseAll keys).entries = t.entries.filter fun row => row.1 ∉ keys := by
  induction keys generalizing t with
  | nil => simp [eraseAll]
  | cons key keys ih =>
    have rest := ih (t.erase key)
    simp only [eraseAll, List.foldl_cons] at rest ⊢
    rw [rest, entries_erase, List.filter_filter]
    refine List.filter_congr fun row _ => ?_
    simp [not_or, Bool.and_comm]

/-- Collecting the keys of the unwanted rows and then removing them one by
one is the same as retaining the other rows. -/
theorem eraseAll_collected (drop : ∀ key, β key → Bool) (t : AList β) :
    t.eraseAll ((t.entries.filter fun row => drop row.1 row.2).map Sigma.fst) =
      t.retain fun key value => !drop key value := by
  apply AList.ext
  rw [entries_eraseAll]
  refine List.filter_congr fun row member => ?_
  have collected : row.1 ∈ (t.entries.filter fun row => drop row.1 row.2).map Sigma.fst ↔
      drop row.1 row.2 = true := by
    simp only [List.mem_map, List.mem_filter]
    constructor
    · rintro ⟨other, ⟨otherMember, dropped⟩, sameKey⟩
      rwa [t.nodupKeys.eq_of_fst_eq otherMember member sameKey] at dropped
    · exact fun dropped => ⟨row, ⟨member, dropped⟩, rfl⟩
  cases dropped : drop row.1 row.2 <;> simp [collected, dropped]

/-- A present row can be pulled to the front. -/
theorem entries_perm_erase {t : AList β} {key : α} {value : β key} (atKey : t.lookup key = some value) :
    t.entries.Perm (⟨key, value⟩ :: (t.erase key).entries) := by
  have nodup : t.entries.Nodup := t.nodupKeys.nodup
  have absent : (⟨key, value⟩ : Sigma β) ∉ (t.erase key).entries := by
    rw [entries_erase]
    simp
  refine (List.perm_ext_iff_of_nodup nodup (List.nodup_cons.mpr ⟨absent, (t.erase key).nodupKeys.nodup⟩)).mpr ?_
  intro row
  rw [List.mem_cons, entries_erase, List.mem_filter]
  constructor
  · intro member
    by_cases same : row.1 = key
    · exact Or.inl (t.nodupKeys.eq_of_fst_eq member (mem_entries_iff.mpr atKey) same)
    · exact Or.inr ⟨member, by simpa using same⟩
  · rintro (rfl | ⟨member, _⟩)
    · exact mem_entries_iff.mpr atKey
    · exact member

theorem erase_of_lookup_none {t : AList β} {key : α} (absent : t.lookup key = none) : t.erase key = t :=
  AList.ext (List.kerase_of_notMem_keys (lookup_eq_none.mp absent))

/-- Put a row last, in place of an earlier one with the same key. -/
def insertLast (t : AList β) (row : Sigma β) : AList β where
  entries := (t.erase row.1).entries ++ [row]
  nodupKeys := (List.perm_nodupKeys (List.perm_append_singleton row _)).mpr (t.insert row.1 row.2).nodupKeys

/-- A map from rows that arrive one after the other: a later row replaces an
earlier one with the same key. -/
def collect (rows : List (Sigma β)) : AList β :=
  rows.foldl insertLast ∅

theorem entries_insertLast {t : AList β} {row : Sigma β} (fresh : row.1 ∉ t.entries.map Sigma.fst) :
    (t.insertLast row).entries = t.entries ++ [row] := by
  have absent : t.erase row.1 = t := erase_of_lookup_none (lookup_eq_none.mpr fresh)
  change (t.erase row.1).entries ++ [row] = _
  rw [absent]

/-- Rows with distinct keys arrive unchanged. -/
theorem entries_foldl_insertLast (rows : List (Sigma β)) (t : AList β) (distinct : (t.entries ++ rows).NodupKeys) :
    (rows.foldl insertLast t).entries = t.entries ++ rows := by
  induction rows generalizing t with
  | nil => rw [List.foldl_nil, List.append_nil]
  | cons row rows ih =>
    have fresh : row.1 ∉ t.entries.map Sigma.fst := by
      intro member
      rw [List.NodupKeys, List.keys, List.map_append, List.nodup_append] at distinct
      exact distinct.2.2 row.1 member row.1 List.mem_cons_self rfl
    have here := entries_insertLast fresh
    have step := ih (t.insertLast row) (by rw [here, List.append_assoc]; exact distinct)
    rw [List.foldl_cons, step, here, List.append_assoc, List.singleton_append]

theorem collect_entries (t : AList β) : collect t.entries = t := by
  apply AList.ext
  exact entries_foldl_insertLast t.entries ∅ t.nodupKeys

end AList

/-- A finite map with pairwise distinct keys; the order of its rows carries no meaning. -/
abbrev Table (K : Type u) (V : Type v) := AList fun _ : K => V
