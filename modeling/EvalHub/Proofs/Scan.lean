import EvalHub.Proofs.Pattern

/-!
# `EvalHub.Proofs.Scan`: what the environment scan builds

`_load_runtime_models` loops over `os.environ.items()`. A name that starts with
`EVAL_HUB_MODEL_` and ends with `_URL` goes to `re.match(r'EVAL_HUB_MODEL_(.+)_URL', ...)`,
and the lowercased group becomes the key of an entry. A later name with the same key
overwrites the entry.

The pattern is `EvalHub.Proofs.Pattern`'s. A name with no newline that starts with the
prefix and ends with the suffix matches exactly when it is at least 20 characters long,
and its group is then the slice `seg`, `name[15:len(name)-4]`
(`matchModelUrl_of_no_newline`). A newline stops `.`, so a name whose segment holds one
either fails to match or yields a shorter group; `loadRuntimeModels_skips_newline_name`
runs the scan on such a name.

Then the loop. The scan reads the clock twice for every entry it builds, `created_at`
and then `updated_at`, so the items with a key are numbered in iteration order
(`scanItems`), and the `j`-th is stamped with the readings `2j` and `2j + 1`
(`scanEntry`). `loadRuntimeModel_eq` says what one pass writes (`scanWrite`), and
`loadRuntimeModels_eq` gives the scan in closed form: it raises when the validators
reject one of the written records, and otherwise it is the fold of the writes.
`loadRuntimeModels_get?` reads every key of the result off the environment: the entry
under `k` comes from the last name the loop writes under `k`, and it is `specEntry`,
the record as the spec describes it, with the readings of its place.

Last, the order of the environment (`loadRuntimeModels_perm`). Reordering it keeps the
keys, and every entry whose key only one name produces, up to the timestamps: a name
moves to another place in the loop and takes other readings. Whether the scan raises is
kept too when the clock gives one fixed reading or the validators do not read the
timestamps. Two names that differ only in case produce one key, and then the last of them
in iteration order wins (`loadRuntimeModels_order_dependent`).
-/

set_option autoImplicit false

namespace EvalHub.Proofs

open EvalHub.Python EvalHub.Models EvalHub.Services

/-! ### The entries the spec describes -/

/-- When only one item satisfies `p`, the last item satisfying `p` is that one, in any
order. -/
theorem find?_reverse_of_filter {α : Type} {p : α → Bool} {l : List α} {a : α}
    (h : l.filter p = [a]) : l.reverse.find? p = some a := by
  rw [← List.filter_head?, List.filter_reverse, h]
  rfl

theorem except_ok_bind {ε α β : Type} (a : α) (f : α → Except ε β) :
    (Except.ok a >>= f) = f a := rfl

theorem except_map_ok {ε α β : Type} (f : α → β) (a : α) :
    (Except.ok a : Except ε α).map f = .ok (f a) := rfl

section Loop

variable [PyCase] [ModelSchema]

/-- The runtime entry the spec describes for an ID segment `group` and a stripped URL
`baseUrl`, stamped with the clock readings `createdAt` and `updatedAt`. The key is
`lower(group)`. The name comes from `_NAME`, or is `Runtime Model <ID>`. The kind is the
member the lowercased `_TYPE` names, or `openai-compatible` when `_TYPE` is missing or
names none. The path comes from `_PATH`. Every entry requires an API key, is active and
carries the one tag `runtime`. -/
def specEntry (w : World) (group baseUrl : String) (createdAt updatedAt : Nat) : Model :=
  let sibling (suffix : String) := w.environ.getenv ("EVAL_HUB_MODEL_" ++ group ++ suffix)
  let modelName := (sibling "_NAME").getD ("Runtime Model " ++ upper (lower group))
  { modelId := lower group
    modelName
    description := some ("Runtime-specified model: " ++ modelName)
    modelType := ((sibling "_TYPE").bind fun t => ModelType.ofValue (lower t)).getD
      .openaiCompatible
    baseUrl
    apiKeyRequired := true
    modelPath := sibling "_PATH"
    capabilities := {}
    config := {}
    status := .active
    tags := ["runtime"]
    createdAt
    updatedAt }

/-- The code's default `_TYPE` string lands on `openai-compatible` whatever the members
of `ModelType` are: it is its own `lower()`, and a member with its value is that kind. -/
theorem ofValue_lower_default :
    (ModelType.ofValue (lower "openai-compatible")).getD .openaiCompatible
      = .openaiCompatible := by
  rw [lower_eq_self _ (by decide) (by decide)]
  cases h : ModelType.ofValue "openai-compatible" with
  | none => rfl
  | some t => exact ModelType.ext (ModelType.value_of_ofValue h)

/-- The record the loop builds after `n` readings is the one the spec describes, stamped
with the readings `n` and `n + 1`. -/
theorem runtimeModel_eq_specEntry (w : World) (n : Nat) (group baseUrl : String) :
    runtimeModel w n group baseUrl =
      specEntry w group baseUrl (w.clock n) (w.clock (n + 1)) := by
  unfold runtimeModel specEntry
  dsimp only
  cases w.environ.getenv ("EVAL_HUB_MODEL_" ++ group ++ "_TYPE") with
  | none => rw [Option.getD_none, Option.none_bind, Option.getD_none, ofValue_lower_default]
  | some t => rfl

/-- The key the scan gives an item, by the spec: the lowercased group of a name that
starts with `EVAL_HUB_MODEL_`, ends with `_URL` and matches the pattern, when its value
is not blank. -/
def scanKey (item : String × String) : Option String :=
  if startswith item.1 "EVAL_HUB_MODEL_" && endswith item.1 "_URL" && strip item.2 != "" then
    (matchModelUrl item.1).map lower
  else none

/-- The items of `items` that the scan builds an entry for, the items with a key, in
iteration order and numbered from `j`. -/
def scanItemsFrom (j : Nat) (items : List (String × String)) :
    List (Nat × (String × String)) :=
  (items.filter fun item => (scanKey item).isSome).enumFrom j

/-- The items of the environment the scan builds an entry for, numbered from `0`. -/
def scanItems (w : World) : List (Nat × (String × String)) :=
  scanItemsFrom 0 w.environ.vars.entries

/-- The spec's entry of the `j`-th item the scan builds. Each entry built before it took
two clock readings, so its `created_at` is the reading `2j` and its `updated_at` the
reading `2j + 1`. -/
def scanEntry (w : World) (p : Nat × (String × String)) : Option Model :=
  (matchModelUrl p.2.1).map fun group =>
    specEntry w group (strip p.2.2) (w.clock (2 * p.1)) (w.clock (2 * p.1 + 1))

/-- What the spec has the scan write for a numbered item: its key and its entry. -/
def scanWrite (w : World) (p : Nat × (String × String)) : Option (String × Model) :=
  (scanKey p.2).bind fun k => (scanEntry w p).map fun e => (k, e)

theorem scanEntry_of_scanKey (w : World) (p : Nat × (String × String)) {k : String}
    (h : scanKey p.2 = some k) : ∃ e, scanEntry w p = some e := by
  unfold scanKey at h
  unfold scanEntry
  split at h
  · cases hm : matchModelUrl p.2.1 <;> simp_all
  · cases h

theorem scanWrite_eq_some {w : World} {p : Nat × (String × String)} {k : String} {e : Model} :
    scanWrite w p = some (k, e) ↔ scanKey p.2 = some k ∧ scanEntry w p = some e := by
  unfold scanWrite
  cases scanKey p.2 <;> cases scanEntry w p <;> simp [eq_comm]

theorem scanWrite_eq_none {w : World} {p : Nat × (String × String)} :
    scanWrite w p = none ↔ scanKey p.2 = none := by
  unfold scanWrite
  cases hk : scanKey p.2 with
  | none => simp
  | some k => obtain ⟨e, he⟩ := scanEntry_of_scanKey w p hk; simp [he]

omit [ModelSchema] in
/-- A numbered item of `scanItemsFrom` is an item with a key. -/
theorem mem_scanItemsFrom {j : Nat} {items : List (String × String)}
    {p : Nat × (String × String)} (hp : p ∈ scanItemsFrom j items) :
    p.2 ∈ items ∧ (scanKey p.2).isSome := by
  have hmem : p.2 ∈ items.filter fun item => (scanKey item).isSome := by
    rw [← List.enumFrom_map_snd j (items.filter _)]
    exact List.mem_map_of_mem Prod.snd hp
  simpa using hmem

omit [ModelSchema] in
/-- Every item with a key has its place among the items the scan builds. -/
theorem exists_mem_scanItemsFrom {j : Nat} {items : List (String × String)}
    {item : String × String} (hi : item ∈ items) (hk : (scanKey item).isSome) :
    ∃ n, (n, item) ∈ scanItemsFrom j items := by
  have hmem : item ∈ (scanItemsFrom j items).map Prod.snd := by
    rw [scanItemsFrom, List.enumFrom_map_snd]
    exact List.mem_filter.mpr ⟨hi, hk⟩
  obtain ⟨⟨n, item'⟩, hp, rfl⟩ := List.mem_map.mp hmem
  exact ⟨n, hp⟩

/-! ### The loop -/

/-- One pass of the loop, at the `j`-th item the scan builds, with `2j` readings taken:
nothing for an item with no key, and otherwise the spec's write, once the validators
accept its record, with two more readings taken. -/
theorem loadRuntimeModel_eq (w : World) (acc : PyDict String Model) (j : Nat)
    (item : String × String) :
    loadRuntimeModel w (acc, 2 * j) item = match scanWrite w (j, item) with
      | none => .ok (acc, 2 * j)
      | some (k, e) => (Model.new e).map fun m => (acc.setItem k m, 2 * (j + 1)) := by
  unfold loadRuntimeModel scanWrite scanKey scanEntry
  by_cases hps : startswith item.1 "EVAL_HUB_MODEL_" && endswith item.1 "_URL"
  · cases hm : matchModelUrl item.1 with
    | none => simp [hps]
    | some g =>
      by_cases hb : strip item.2 = ""
      · simp [hps, hb]
      · simp [hps, hb, runtimeModel_eq_specEntry]
        rfl
  · simp [hps]

omit [ModelSchema] in
theorem scanItemsFrom_cons_of_none {j : Nat} {item : String × String}
    {items : List (String × String)} (h : scanKey item = none) :
    scanItemsFrom j (item :: items) = scanItemsFrom j items := by
  simp [scanItemsFrom, h]

omit [ModelSchema] in
theorem scanItemsFrom_cons_of_some {j : Nat} {item : String × String}
    {items : List (String × String)} {k : String} (h : scanKey item = some k) :
    scanItemsFrom j (item :: items) = (j, item) :: scanItemsFrom (j + 1) items := by
  simp [scanItemsFrom, h]

/-- The loop in closed form, from the `j`-th entry on: it raises when the validators
reject one of the records it writes, and otherwise it performs the spec's writes in
order and takes two readings for each. -/
theorem foldlM_loadRuntimeModel (w : World) (items : List (String × String))
    (acc : PyDict String Model) (j : Nat) :
    items.foldlM (loadRuntimeModel w) (acc, 2 * j) =
      if ((scanItemsFrom j items).filterMap (scanWrite w)).all (ModelSchema.validate ·.2) then
        .ok (acc.setItems ((scanItemsFrom j items).filterMap (scanWrite w)),
          2 * (j + (scanItemsFrom j items).length))
      else .error .validationError := by
  induction items generalizing acc j with
  | nil => rfl
  | cons item items ih =>
    rw [List.foldlM_cons, loadRuntimeModel_eq]
    cases h : scanWrite w (j, item) with
    | none =>
      rw [scanItemsFrom_cons_of_none (scanWrite_eq_none.mp h)]
      exact ih acc j
    | some kv =>
      obtain ⟨k, m⟩ := kv
      rw [scanItemsFrom_cons_of_some (scanWrite_eq_some.mp h).1, List.filterMap_cons, h]
      simp only [List.all_cons, Model.new, List.length_cons]
      by_cases hv : ModelSchema.validate m
      · have hlen : j + 1 + (scanItemsFrom (j + 1) items).length =
            j + ((scanItemsFrom (j + 1) items).length + 1) := by omega
        simp only [hv, if_true, except_map_ok, except_ok_bind, Bool.true_and, ih, PyDict.setItems,
          List.foldl_cons, hlen]
      · simp only [hv]; rfl

/-- The writes of the whole scan, in iteration order. -/
def scanWrites (w : World) : List (String × Model) :=
  (scanItems w).filterMap (scanWrite w)

theorem loadRuntimeModels_eq (w : World) :
    loadRuntimeModels w =
      if (scanWrites w).all (ModelSchema.validate ·.2) then .ok (PyDict.empty.setItems (scanWrites w))
      else .error .validationError := by
  unfold loadRuntimeModels runtimeScan scanWrites scanItems
  rw [show ((PyDict.empty, 0) : PyDict String Model × Nat) = (.empty, 2 * 0) from rfl,
    foldlM_loadRuntimeModel]
  split <;> rfl

/-! ### The scan -/

/-- The writes of a list of numbered items, read back: the entry under `k` is the spec's
entry of the last item with key `k`. -/
theorem get?_setItems_scanWrite (w : World) (items : List (Nat × (String × String)))
    (k : String) :
    (PyDict.empty.setItems (items.filterMap (scanWrite w))).get? k =
      (items.reverse.find? (scanKey ·.2 = some k)).bind (scanEntry w) := by
  induction items using List.reverseRecOn with
  | nil => rfl
  | append_singleton items p ih =>
    simp only [PyDict.setItems] at ih
    simp only [List.filterMap_append, List.filterMap_cons, List.filterMap_nil, PyDict.setItems,
      List.foldl_append, List.reverse_append, List.reverse_singleton, List.singleton_append,
      List.find?_cons]
    cases hw : scanWrite w p with
    | none =>
      rw [scanWrite_eq_none.mp hw]
      simpa using ih
    | some kv =>
      obtain ⟨k', e⟩ := kv
      obtain ⟨hk, he⟩ := scanWrite_eq_some.mp hw
      by_cases hkk : k = k'
      · subst hkk; simp [hk, he]
      · simp [hk, hkk, ih, Ne.symm hkk]

/-- The scan succeeds exactly when the validators accept the spec's entry of every item
it builds. -/
theorem loadRuntimeModels_ok_iff (w : World) :
    (∃ m, loadRuntimeModels w = .ok m) ↔
      ∀ p ∈ scanItems w, ∀ e ∈ scanEntry w p, ModelSchema.validate e := by
  rw [loadRuntimeModels_eq]
  constructor
  · rintro ⟨m, hm⟩ p hp e he
    split at hm
    · rename_i hall
      obtain ⟨k, hk⟩ := Option.isSome_iff_exists.mp (mem_scanItemsFrom hp).2
      exact List.all_eq_true.mp hall (k, e)
        (List.mem_filterMap.mpr ⟨p, hp, scanWrite_eq_some.mpr ⟨hk, he⟩⟩)
    · cases hm
  · intro h
    refine ⟨_, if_pos (List.all_eq_true.mpr fun ⟨k, e⟩ hkv => ?_)⟩
    obtain ⟨p, hp, hw⟩ := List.mem_filterMap.mp hkv
    exact h p hp e (scanWrite_eq_some.mp hw).2

/-- A completed scan holds, under each key `k`, the spec's entry of the last item with key
`k`, stamped with the readings of its place. -/
theorem loadRuntimeModels_get? {w : World} {m : PyDict String Model}
    (h : loadRuntimeModels w = .ok m) (k : String) :
    m.get? k = ((scanItems w).reverse.find? (scanKey ·.2 = some k)).bind (scanEntry w) := by
  rw [loadRuntimeModels_eq] at h
  split at h
  · cases h
    exact get?_setItems_scanWrite w _ k
  · cases h

/-- What the scan builds, for every environment. Number the items that have a key, in
iteration order, from `0`. When the scan completes, the entry under each key `k` is the
spec's entry of the last of them with key `k`, and its timestamps are the readings `2j`
and `2j + 1` of its number `j`; there is no entry under a key no item has. The scan
completes exactly when the validators accept the spec's entry of every numbered item. And
the key of a name with no newline is the lowercased slice `name[15:len(name)-4]`, for
names of at least 20 characters. -/
theorem loadRuntimeModels_spec (w : World) :
    (∀ m, loadRuntimeModels w = .ok m → ∀ k,
      m.get? k = ((scanItems w).reverse.find? (scanKey ·.2 = some k)).bind (scanEntry w)) ∧
    ((∃ m, loadRuntimeModels w = .ok m) ↔
      ∀ p ∈ scanItems w, ∀ e ∈ scanEntry w p, ModelSchema.validate e) ∧
    (∀ envVar, startswith envVar "EVAL_HUB_MODEL_" → endswith envVar "_URL" →
      '\n' ∉ envVar.data →
        matchModelUrl envVar = if 20 ≤ envVar.length then some (seg envVar) else none) :=
  ⟨fun _ h => loadRuntimeModels_get? h, loadRuntimeModels_ok_iff w, matchModelUrl_of_no_newline⟩

end Loop

open EvalHub.Sample in
/-- A name whose segment holds a newline. It starts with the prefix, ends with `_URL`,
has 22 characters and a URL, and yet the scan builds no entry for it: the pattern's `.`
stops at the newline, and no `_URL` comes before it. -/
theorem loadRuntimeModels_skips_newline_name :
    startswith "EVAL_HUB_MODEL_A\nB_URL" "EVAL_HUB_MODEL_" ∧
      endswith "EVAL_HUB_MODEL_A\nB_URL" "_URL" ∧ 20 ≤ "EVAL_HUB_MODEL_A\nB_URL".length ∧
      strip "http://x" ≠ "" ∧
      (loadRuntimeModels ⟨⟨⟨[("EVAL_HUB_MODEL_A\nB_URL", "http://x")], by decide⟩, by decide⟩,
        fun _ => 0⟩).map PyDict.keys = .ok [] :=
  ⟨by decide, by decide, by decide, by decide, rfl⟩

/-! ### The order of the environment -/

/-- A model with both timestamps cleared: what two entries that differ only in their
clock readings have in common. -/
def withoutStamps (m : Model) : Model := { m with createdAt := 0, updatedAt := 0 }

section Order

variable [PyCase] [ModelSchema]

/-- The spec's entry reads the environment through `getenv` only, so reordering the
environment changes nothing in it. -/
theorem specEntry_eq_of_perm {w₁ w₂ : World}
    (h : w₁.environ.vars.entries.Perm w₂.environ.vars.entries) (group baseUrl : String)
    (t t' : Nat) : specEntry w₁ group baseUrl t t' = specEntry w₂ group baseUrl t t' := by
  simp [specEntry, Environ.getenv_eq_of_perm h]

theorem withoutStamps_specEntry (w : World) (group baseUrl : String) (t t' : Nat) :
    withoutStamps (specEntry w group baseUrl t t') = specEntry w group baseUrl 0 0 := rfl

/-- The spec's entries of one item, at any two places of two reorderings of an
environment, differ at most in their timestamps. When both clocks give one fixed reading
they are equal. -/
theorem scanEntry_eq_of_perm {w₁ w₂ : World}
    (h : w₁.environ.vars.entries.Perm w₂.environ.vars.entries) (item : String × String)
    (j₁ j₂ : Nat) :
    (scanEntry w₁ (j₁, item)).map withoutStamps = (scanEntry w₂ (j₂, item)).map withoutStamps ∧
      ((∀ k, w₁.clock k = w₂.now ∧ w₂.clock k = w₂.now) →
        scanEntry w₁ (j₁, item) = scanEntry w₂ (j₂, item)) := by
  refine ⟨?_, fun hc => ?_⟩
  · simp only [scanEntry, Option.map_map, Function.comp_def, withoutStamps_specEntry,
      specEntry_eq_of_perm h]
  · simp only [scanEntry, specEntry_eq_of_perm h, fun k => (hc k).1, fun k => (hc k).2]

/-- The keys of a completed scan are the keys of the items. -/
theorem mem_keys_of_loadRuntimeModels {w : World} {m : PyDict String Model}
    (h : loadRuntimeModels w = .ok m) (k : String) :
    k ∈ m.keys ↔ ∃ item ∈ w.environ.vars.entries, scanKey item = some k := by
  rw [PyDict.mem_keys_iff_get?, loadRuntimeModels_get? h k]
  constructor
  · rintro ⟨e, he⟩
    obtain ⟨p, hp, -⟩ := Option.bind_eq_some.mp he
    exact ⟨p.2, (mem_scanItemsFrom (List.mem_reverse.mp (List.mem_of_find?_eq_some hp))).1,
      by simpa using List.find?_some hp⟩
  · rintro ⟨item, hi, hk⟩
    obtain ⟨n, hn⟩ : ∃ n, (n, item) ∈ scanItems w := exists_mem_scanItemsFrom hi (by simp [hk])
    obtain ⟨found, hf⟩ := Option.isSome_iff_exists.mp
      ((List.find?_isSome (p := (scanKey ·.2 = some k))).mpr
        ⟨(n, item), List.mem_reverse.mpr hn, by simpa using hk⟩)
    obtain ⟨e, he⟩ := scanEntry_of_scanKey (k := k) w found (by simpa using List.find?_some hf)
    exact ⟨e, by rw [hf, Option.some_bind, he]⟩

omit [ModelSchema] in
/-- The numbered items with key `k` are the items with key `k`, each with its number. -/
theorem map_snd_filter_scanItemsFrom (j : Nat) (items : List (String × String)) (k : String) :
    ((scanItemsFrom j items).filter (scanKey ·.2 = some k)).map Prod.snd =
      items.filter (scanKey · = some k) := by
  have hcomp := List.filter_map (p := fun item : String × String => decide (scanKey item = some k))
    Prod.snd (scanItemsFrom j items)
  rw [scanItemsFrom, List.enumFrom_map_snd, List.filter_filter] at hcomp
  refine hcomp.symm.trans (List.filter_congr fun item _ => ?_)
  cases scanKey item <;> simp

omit [ModelSchema] in
/-- The last numbered item with key `k`, when only one item has key `k`. -/
theorem find?_scanItems_of_unique {w : World} {k : String} {item : String × String}
    (h : w.environ.vars.entries.filter (scanKey · = some k) = [item]) :
    ∃ j, (scanItems w).reverse.find? (scanKey ·.2 = some k) = some (j, item) := by
  have hmap := map_snd_filter_scanItemsFrom 0 w.environ.vars.entries k
  rw [h] at hmap
  obtain ⟨⟨j, item'⟩, l, hl, rfl, hnil⟩ := List.map_eq_cons_iff.mp hmap
  rw [List.map_eq_nil_iff.mp hnil] at hl
  exact ⟨j, find?_reverse_of_filter hl⟩

/-- The validators' verdict on each item the scan builds does not depend on its place
when they ignore the timestamps, or when the clock gives one fixed reading. -/
theorem scanValid_congr {w₁ w₂ : World}
    (h : w₁.environ.vars.entries.Perm w₂.environ.vars.entries)
    (hv : (∀ m, ModelSchema.validate m = ModelSchema.validate (withoutStamps m)) ∨
      (∀ k, w₁.clock k = w₂.now ∧ w₂.clock k = w₂.now)) (item : String × String) (j₁ j₂ : Nat) :
    (∀ e ∈ scanEntry w₁ (j₁, item), ModelSchema.validate e) ↔
      ∀ e ∈ scanEntry w₂ (j₂, item), ModelSchema.validate e := by
  obtain ⟨hstamps, hfixed⟩ := scanEntry_eq_of_perm h item j₁ j₂
  rcases hv with hv | hc
  · cases h₁ : scanEntry w₁ (j₁, item) <;> cases h₂ : scanEntry w₂ (j₂, item) <;>
      simp only [h₁, h₂, Option.map_some', Option.map_none', reduceCtorEq,
        Option.some.injEq] at hstamps
    · simp
    · simp only [Option.mem_def, Option.some.injEq, forall_eq']
      rw [hv, hstamps, ← hv]
  · rw [hfixed hc]

/-- Reordering the environment. When both scans complete, they have the same keys, and
under a key that only one item produces they hold the same entry, the timestamps aside.
When the two scans read one fixed clock reading, or the validators ignore the
timestamps, one completes exactly when the other does. -/
theorem loadRuntimeModels_perm (w₁ w₂ : World)
    (h : w₁.environ.vars.entries.Perm w₂.environ.vars.entries) :
    (∀ m₁ m₂, loadRuntimeModels w₁ = .ok m₁ → loadRuntimeModels w₂ = .ok m₂ →
      (∀ k, k ∈ m₁.keys ↔ k ∈ m₂.keys) ∧
      ∀ k, (w₁.environ.vars.entries.filter (scanKey · = some k)).length = 1 →
        (m₁.get? k).map withoutStamps = (m₂.get? k).map withoutStamps) ∧
    ((∀ m, ModelSchema.validate m = ModelSchema.validate (withoutStamps m)) ∨
        (∀ k, w₁.clock k = w₂.now ∧ w₂.clock k = w₂.now) →
      ((∃ m, loadRuntimeModels w₁ = .ok m) ↔ ∃ m, loadRuntimeModels w₂ = .ok m)) := by
  refine ⟨fun m₁ m₂ h₁ h₂ => ⟨fun k => ?_, fun k hk => ?_⟩, fun hv => ?_⟩
  · rw [mem_keys_of_loadRuntimeModels h₁, mem_keys_of_loadRuntimeModels h₂]
    exact exists_congr fun item => and_congr_left fun _ => h.mem_iff
  · obtain ⟨item, hitem⟩ := List.length_eq_one.mp hk
    have hitem₂ := ((h.filter _).symm.trans (List.Perm.of_eq hitem)).eq_singleton
    obtain ⟨j₁, hj₁⟩ := find?_scanItems_of_unique hitem
    obtain ⟨j₂, hj₂⟩ := find?_scanItems_of_unique hitem₂
    rw [loadRuntimeModels_get? h₁, loadRuntimeModels_get? h₂, hj₁, hj₂, Option.some_bind,
      Option.some_bind]
    exact (scanEntry_eq_of_perm h item j₁ j₂).1
  · rw [loadRuntimeModels_ok_iff, loadRuntimeModels_ok_iff]
    constructor
    · rintro hall ⟨j₂, item⟩ hp₂
      obtain ⟨hi, hk⟩ := mem_scanItemsFrom hp₂
      obtain ⟨j₁, hp₁⟩ := exists_mem_scanItemsFrom (j := 0) (h.mem_iff.mpr hi) hk
      exact (scanValid_congr h hv item j₁ j₂).mp (hall _ hp₁)
    · rintro hall ⟨j₁, item⟩ hp₁
      obtain ⟨hi, hk⟩ := mem_scanItemsFrom hp₁
      obtain ⟨j₂, hp₂⟩ := exists_mem_scanItemsFrom (j := 0) (h.mem_iff.mp hi) hk
      exact (scanValid_congr h hv item j₁ j₂).mpr (hall _ hp₂)

end Order

open EvalHub.Sample in
/-- Two names that differ only in case give one key, and the last of them in iteration
order supplies its entry. The two orders of this environment put different URLs under
`a`. -/
theorem loadRuntimeModels_order_dependent :
    [("EVAL_HUB_MODEL_A_URL", "http://a"), ("EVAL_HUB_MODEL_a_URL", "http://b")].Perm
      [("EVAL_HUB_MODEL_a_URL", "http://b"), ("EVAL_HUB_MODEL_A_URL", "http://a")] ∧
    (loadRuntimeModels ⟨⟨⟨[("EVAL_HUB_MODEL_A_URL", "http://a"),
        ("EVAL_HUB_MODEL_a_URL", "http://b")], by decide⟩, by decide⟩, fun _ => 0⟩).map
      (fun m => (m.get? "a").map Model.baseUrl) = .ok (some "http://b") ∧
    (loadRuntimeModels ⟨⟨⟨[("EVAL_HUB_MODEL_a_URL", "http://b"),
        ("EVAL_HUB_MODEL_A_URL", "http://a")], by decide⟩, by decide⟩, fun _ => 0⟩).map
      (fun m => (m.get? "a").map Model.baseUrl) = .ok (some "http://a") :=
  ⟨by decide, by rfl, by rfl⟩

end EvalHub.Proofs

namespace EvalHub.Sample

open EvalHub.Python EvalHub.Services

/-- The environment `EVAL_HUB_MODEL_A_URL=http://a`, `EVAL_HUB_MODEL_B_URL=http://b`. -/
def worldAB : World :=
  ⟨⟨⟨[("EVAL_HUB_MODEL_A_URL", "http://a"), ("EVAL_HUB_MODEL_B_URL", "http://b")], by decide⟩,
    by decide⟩, fun k => k⟩

/-- The environment of `worldAB` in the other order. -/
def worldBA : World :=
  ⟨⟨⟨[("EVAL_HUB_MODEL_B_URL", "http://b"), ("EVAL_HUB_MODEL_A_URL", "http://a")], by decide⟩,
    by decide⟩, fun k => k⟩

end EvalHub.Sample

namespace EvalHub.Proofs

open EvalHub.Python EvalHub.Models EvalHub.Services EvalHub.Sample

/-- The two orders of an environment that names `a` and `b`, read with a clock that moves
on at every reading, so that `a` and `b` swap their timestamps. -/
theorem loadRuntimeModels_perm_twoNames :
    worldAB.environ.vars.entries.Perm worldBA.environ.vars.entries ∧
    ((∀ m₁ m₂, loadRuntimeModels worldAB = .ok m₁ → loadRuntimeModels worldBA = .ok m₂ →
      (∀ k, k ∈ m₁.keys ↔ k ∈ m₂.keys) ∧
      ∀ k, (worldAB.environ.vars.entries.filter (scanKey · = some k)).length = 1 →
        (m₁.get? k).map withoutStamps = (m₂.get? k).map withoutStamps) ∧
    ((∀ m, ModelSchema.validate m = ModelSchema.validate (withoutStamps m)) ∨
        (∀ k, worldAB.clock k = worldBA.now ∧ worldBA.clock k = worldBA.now) →
      ((∃ m, loadRuntimeModels worldAB = .ok m) ↔ ∃ m, loadRuntimeModels worldBA = .ok m))) :=
  ⟨by decide, loadRuntimeModels_perm worldAB worldBA (by decide)⟩

end EvalHub.Proofs
