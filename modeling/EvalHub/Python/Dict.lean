import Mathlib.Data.List.Nodup

/-!
# `EvalHub.Python.Dict`: the insertion-ordered `dict`

`ModelService` keeps its two registries in Python dictionaries, and its listings read
them back with `.values()`. The order of those listings is the dictionaries' insertion
order, so the model keeps it: a `PyDict` is the list of its items in insertion order,
with each key once (the field `nodup`).

The three writes the service makes are the ones CPython defines:

* `d[k] = v` (`setItem`) replaces the value in place when `k` is present, and appends
  the item otherwise;
* `del d[k]` (`delItem`) drops the item, and the others keep their order;
* `d.clear()` and a fresh `{}` are `empty`.

`get?` is `d.get(k)` and `contains` is `k in d`. The lemmas below describe every write
through `get?` and `keys`, so that the service proofs never unfold a write.
-/

set_option autoImplicit false

namespace EvalHub.Python

/-- A Python `dict`: its items in insertion order, each key once. -/
structure PyDict (α β : Type) where
  entries : List (α × β)
  nodup : (entries.map Prod.fst).Nodup
deriving DecidableEq, Repr

namespace PyDict

variable {α β : Type}

/-- `list(d.keys())`. -/
def keys (d : PyDict α β) : List α := d.entries.map Prod.fst

/-- `list(d.values())`. -/
def values (d : PyDict α β) : List β := d.entries.map Prod.snd

/-- `{}`, and what `d.clear()` leaves. -/
def empty : PyDict α β := ⟨[], List.nodup_nil⟩

@[simp] theorem keys_empty : (empty : PyDict α β).keys = [] := rfl

@[simp] theorem values_empty : (empty : PyDict α β).values = [] := rfl

theorem mem_keys {d : PyDict α β} {k : α} : k ∈ d.keys ↔ ∃ v, (k, v) ∈ d.entries := by
  simp [keys]

variable [DecidableEq α]

/-- `d.get(k)`: the value stored under `k`, if any. -/
def get? (d : PyDict α β) (k : α) : Option β := d.entries.lookup k

/-- `k in d`. -/
def contains (d : PyDict α β) (k : α) : Bool := decide (k ∈ d.keys)

/-- The item list after `d[k] = v` on a present key: the value is replaced in place. -/
def replaceAt (es : List (α × β)) (k : α) (v : β) : List (α × β) :=
  es.map fun e => if e.1 = k then (k, v) else e

theorem map_fst_replaceAt (es : List (α × β)) (k : α) (v : β) :
    (replaceAt es k v).map Prod.fst = es.map Prod.fst := by
  induction es with
  | nil => rfl
  | cons e es ih =>
    simp only [replaceAt, List.map_cons] at ih ⊢
    rw [ih]
    split <;> simp_all

/-- `d[k] = v`: in place when `k` is present, appended otherwise. -/
def setItem (d : PyDict α β) (k : α) (v : β) : PyDict α β :=
  if h : k ∈ d.keys then
    ⟨replaceAt d.entries k v, by rw [map_fst_replaceAt]; exact d.nodup⟩
  else
    ⟨d.entries ++ [(k, v)], by
      rw [List.map_append, List.nodup_append]
      exact ⟨d.nodup, List.nodup_singleton _, by simpa [keys] using h⟩⟩

/-- `del d[k]`. The service deletes only present keys. -/
def delItem (d : PyDict α β) (k : α) : PyDict α β :=
  ⟨d.entries.filter (fun e => e.1 ≠ k),
    d.nodup.sublist ((List.filter_sublist d.entries).map Prod.fst)⟩

/-! ### Lookups -/

@[simp] theorem contains_eq {d : PyDict α β} {k : α} : d.contains k = decide (k ∈ d.keys) :=
  rfl

/-- `lookup` on a cons, as an `if`. -/
theorem lookup_cons_ite (k₀ : α) (v₀ : β) (es : List (α × β)) (k : α) :
    ((k₀, v₀) :: es).lookup k = if k = k₀ then some v₀ else es.lookup k := by
  by_cases h : k = k₀
  · simp [h]
  · have hb : (k == k₀) = false := by simpa using h
    simp [List.lookup_cons, hb, h]

/-- With distinct keys, `lookup` finds exactly the listed pairs. -/
theorem lookup_eq_some_iff_mem {es : List (α × β)} (h : (es.map Prod.fst).Nodup) {k : α}
    {v : β} : es.lookup k = some v ↔ (k, v) ∈ es := by
  induction es with
  | nil => simp
  | cons e es ih =>
    obtain ⟨k₀, v₀⟩ := e
    simp only [List.map_cons, List.nodup_cons, List.mem_map] at h
    rw [lookup_cons_ite]
    by_cases hk : k = k₀
    · subst hk
      have hnot : (k, v) ∉ es := fun hm => h.1 ⟨(k, v), hm, rfl⟩
      simp [hnot, eq_comm]
    · simp [hk, ih h.2]

theorem get?_eq_some_iff {d : PyDict α β} {k : α} {v : β} :
    d.get? k = some v ↔ (k, v) ∈ d.entries :=
  lookup_eq_some_iff_mem d.nodup

theorem get?_eq_none_iff {d : PyDict α β} {k : α} : d.get? k = none ↔ k ∉ d.keys := by
  rw [← Option.not_isSome_iff_eq_none, mem_keys]
  simp [get?, keys, List.lookup_isSome_iff]

theorem mem_keys_iff_get? {d : PyDict α β} {k : α} : k ∈ d.keys ↔ ∃ v, d.get? k = some v := by
  simp only [mem_keys, get?_eq_some_iff]

theorem mem_values {d : PyDict α β} {v : β} : v ∈ d.values ↔ ∃ k, d.get? k = some v := by
  simp [values, get?_eq_some_iff]

@[simp] theorem get?_empty (k : α) : (empty : PyDict α β).get? k = none := rfl

/-! ### Writes -/

theorem lookup_replaceAt (es : List (α × β)) (k k' : α) (v : β) :
    (replaceAt es k v).lookup k' =
      if k' = k then (es.lookup k').map fun _ => v else es.lookup k' := by
  induction es with
  | nil => simp [replaceAt]
  | cons e es ih =>
    obtain ⟨k₀, v₀⟩ := e
    simp only [replaceAt, List.map_cons] at ih ⊢
    by_cases h₀ : k₀ = k
    · subst h₀
      simp only [if_true, lookup_cons_ite, ih]
      split <;> simp
    · simp only [h₀, if_false, lookup_cons_ite, ih]
      split <;> split <;> simp_all

@[simp] theorem get?_setItem (d : PyDict α β) (k k' : α) (v : β) :
    (d.setItem k v).get? k' = if k' = k then some v else d.get? k' := by
  unfold setItem get?
  split
  · rename_i h
    rw [lookup_replaceAt]
    split
    · subst_vars
      obtain ⟨w, hw⟩ := mem_keys_iff_get?.mp h
      simp only [get?] at hw
      simp [hw]
    · rfl
  · rename_i h
    rw [List.lookup_append]
    have hn : d.entries.lookup k = none := get?_eq_none_iff.mpr h
    split
    · subst_vars; simp [hn]
    · cases d.entries.lookup k' <;> simp_all [lookup_cons_ite]

theorem keys_setItem (d : PyDict α β) (k : α) (v : β) :
    (d.setItem k v).keys = if k ∈ d.keys then d.keys else d.keys ++ [k] := by
  unfold setItem keys
  split <;> simp [map_fst_replaceAt]

@[simp] theorem get?_delItem (d : PyDict α β) (k k' : α) :
    (d.delItem k).get? k' = if k' = k then none else d.get? k' := by
  split
  · subst_vars
    rw [get?_eq_none_iff]
    simp [keys, delItem]
  · rename_i hk
    cases h : d.get? k' with
    | none =>
      rw [get?_eq_none_iff] at h ⊢
      simp_all [keys, delItem]
    | some v =>
      rw [get?_eq_some_iff] at h ⊢
      simp [delItem, h, hk]

theorem keys_delItem (d : PyDict α β) (k : α) : (d.delItem k).keys = d.keys.erase k := by
  simp only [keys, delItem]
  rw [d.nodup.erase_eq_filter, List.filter_map]
  exact congrArg _ (List.filter_congr fun e _ => by by_cases h : e.1 = k <;> simp [h])

/-- Writing back the value a key already has changes nothing. -/
theorem setItem_of_get? {d : PyDict α β} {k : α} {v : β} (h : d.get? k = some v) :
    d.setItem k v = d := by
  have hk : k ∈ d.keys := mem_keys_iff_get?.mpr ⟨v, h⟩
  obtain ⟨es, hn⟩ := d
  simp only [setItem, dif_pos hk, mk.injEq, replaceAt]
  conv_rhs => rw [← List.map_id es]
  refine List.map_congr_left fun e he => ?_
  split
  · rename_i he₁
    have hv : (⟨es, hn⟩ : PyDict α β).get? e.1 = some e.2 := get?_eq_some_iff.mpr he
    rw [he₁, h, Option.some.injEq] at hv
    rw [hv, ← he₁]
    rfl
  · rfl

theorem replaceAt_replaceAt (es : List (α × β)) (k : α) (v v' : β) :
    replaceAt (replaceAt es k v) k v' = replaceAt es k v' := by
  simp only [replaceAt, List.map_map]
  exact List.map_congr_left fun e _ => by by_cases h : e.1 = k <;> simp [h]

theorem replaceAt_of_not_mem {es : List (α × β)} {k : α} (h : k ∉ es.map Prod.fst) (v : β) :
    replaceAt es k v = es := by
  conv_rhs => rw [← List.map_id es]
  exact List.map_congr_left fun e he =>
    if_neg fun (hk : e.1 = k) => h (hk ▸ List.mem_map_of_mem Prod.fst he)

/-- A second write to a key replaces the first, in the place the first gave the key. -/
theorem setItem_setItem (d : PyDict α β) (k : α) (v v' : β) :
    (d.setItem k v).setItem k v' = d.setItem k v' := by
  have hk : k ∈ (d.setItem k v).keys := by
    rw [keys_setItem]
    split
    · assumption
    · exact List.mem_append_right _ (List.mem_singleton_self k)
  obtain ⟨es, hn⟩ := d
  rw [setItem, dif_pos hk]
  by_cases h : k ∈ (⟨es, hn⟩ : PyDict α β).keys
  · simp only [setItem, dif_pos h, replaceAt_replaceAt]
  · simp only [setItem, dif_neg h, mk.injEq, replaceAt, List.map_append, List.map_cons,
      List.map_nil, if_pos]
    rw [← replaceAt, replaceAt_of_not_mem h]

/-- Deleting a key that a write has just added restores the dictionary, order
included. -/
theorem delItem_setItem_of_not_mem {d : PyDict α β} {k : α} (h : k ∉ d.keys) (v : β) :
    (d.setItem k v).delItem k = d := by
  obtain ⟨es, hn⟩ := d
  simp only [setItem, delItem, dif_neg h, mk.injEq, List.filter_append]
  have hes : es.filter (fun e => decide (e.1 ≠ k)) = es :=
    List.filter_eq_self.mpr fun e he => decide_eq_true fun hk =>
      h (hk ▸ List.mem_map_of_mem Prod.fst he)
  rw [hes]
  simp

/-- `d[k] = v` for each item in turn. -/
def setItems (d : PyDict α β) (items : List (α × β)) : PyDict α β :=
  items.foldl (fun d kv => d.setItem kv.1 kv.2) d

end PyDict

end EvalHub.Python
