import EvalHub.Proofs.Scan
import EvalHub.Proofs.Search

/-!
# `EvalHub.Proofs.Invariants`: the shape of every reachable state

Two invariants of the service, each proved by one step lemma over `call` and the run
lemma `reachable_invariant`.

`WellFormed` holds in every reachable state. Each entry sits under its own `model_id`,
and each runtime entry is active, requires an API key and carries the one tag `runtime`.
The scan writes its entries under `lower(group)` with that ID. `register_model` writes
under the request's ID. `update_model` writes back under the ID it read, and none of its
ten assignments touches `model_id`. As a consequence, `get_active_models()` and
`get_all_models(include_inactive=False)` list the same IDs (`reachable_wellFormed`), and
`get_model_by_id(i)` returns the first of the stored models that `get_all_models()`
summarizes whose ID is `i` (`getModelById_agrees_with_listing`).

`RegistriesDisjoint`, no ID in both maps, is the invariant `register_model` protects with
its two membership tests. Every call but `reload_runtime_models` keeps it: a call adds an
ID only through a registration, which checks the runtime map that `_initialize` left,
and a service that runs a first scan has nothing registered (`RegisteredAfterInit`). A
reload rebuilds the runtime map with no test against the registry. It keeps the
invariant exactly when its scan yields no registered ID (`registriesDisjoint_reload_iff`),
and `registriesDisjoint_lost_on_reload` runs one that does not: the service then reads
the ID from the registry, refuses to update or delete it as a runtime ID, and lists it
twice. On a run whose reloads
all avoid the registered IDs, the listings name every ID once and the three ID methods
agree on the map that owns an ID (`registriesDisjoint_of_reloadsAvoidRegistered`).
-/

set_option autoImplicit false

namespace EvalHub.Proofs

open EvalHub.Python EvalHub.Models EvalHub.Services

/-! ### Keys and `model_id` -/

/-- Every entry of the map is stored under its own `model_id`. -/
def KeyedByModelId (d : PyDict String Model) : Prop :=
  ∀ k m, d.get? k = some m → m.modelId = k

/-- The fields `_load_runtime_models` fixes for every entry it builds. -/
def IsRuntimeEntry (m : Model) : Prop :=
  m.status = .active ∧ m.apiKeyRequired = true ∧ m.tags = ["runtime"]

theorem keyedByModelId_empty : KeyedByModelId .empty := fun _ _ h => nomatch h

theorem keyedByModelId_setItem {d : PyDict String Model} (h : KeyedByModelId d) {k : String}
    {m : Model} (hm : m.modelId = k) : KeyedByModelId (d.setItem k m) := by
  intro k' m' h'
  rw [PyDict.get?_setItem] at h'
  split at h'
  · rename_i hk
    cases h'
    rw [hk]
    exact hm
  · exact h k' m' h'

theorem keyedByModelId_delItem {d : PyDict String Model} (h : KeyedByModelId d) (k : String) :
    KeyedByModelId (d.delItem k) := by
  intro k' m' h'
  rw [PyDict.get?_delItem] at h'
  split at h'
  · cases h'
  · exact h k' m' h'

/-- The `model_id`s of a keyed map, in order, are its keys. -/
theorem values_map_modelId {d : PyDict String Model} (h : KeyedByModelId d) :
    d.values.map Model.modelId = d.keys := by
  simp only [PyDict.values, PyDict.keys, List.map_map]
  exact List.map_congr_left fun e he => h e.1 e.2 (PyDict.get?_eq_some_iff.mpr he)

/-- In a list of entries keyed by `model_id`, the first value with `model_id` `i` is the
value `lookup` finds under `i`. -/
theorem find?_map_snd_modelId {es : List (String × Model)} (h : ∀ e ∈ es, e.2.modelId = e.1)
    (i : String) : (es.map Prod.snd).find? (fun m => m.modelId == i) = es.lookup i := by
  induction es with
  | nil => rfl
  | cons e es ih =>
    obtain ⟨k, m⟩ := e
    have hm : m.modelId = k := h _ (List.mem_cons_self _ _)
    rw [List.map_cons, List.find?_cons, List.lookup_cons, hm,
      ih fun e he => h e (List.mem_cons_of_mem _ he)]
    by_cases hk : k = i
    · subst hk
      simp
    · rw [beq_false_of_ne hk, beq_false_of_ne (Ne.symm hk)]

theorem find?_values_modelId {d : PyDict String Model} (h : KeyedByModelId d) (i : String) :
    d.values.find? (fun m => m.modelId == i) = d.get? i :=
  find?_map_snd_modelId (fun e he => h e.1 e.2 (PyDict.get?_eq_some_iff.mpr he)) i

/-! ### The shape invariant -/

/-- The shape of every reachable state: each entry sits under its own `model_id`, and
each runtime entry has the fields the scan fixes. -/
structure WellFormed (s : ModelService) : Prop where
  registered_keyed : KeyedByModelId s.registeredModels
  runtime_keyed : KeyedByModelId s.runtimeModels
  runtime_entries : ∀ m ∈ s.runtimeModels.values, IsRuntimeEntry m

theorem wellFormed_new : WellFormed ModelService.new :=
  ⟨keyedByModelId_empty, keyedByModelId_empty, fun _ h => nomatch h⟩

/-- No ID is a key of both maps. -/
def RegistriesDisjoint (s : ModelService) : Prop :=
  ∀ k ∈ s.registeredModels.keys, k ∉ s.runtimeModels.keys

theorem registriesDisjoint_new : RegistriesDisjoint ModelService.new := fun _ h => by cases h

/-- With disjoint maps keyed by `model_id`, the two maps together name every ID once. -/
theorem modelIds_nodup {s : ModelService} (hd : RegistriesDisjoint s) (hw : WellFormed s) :
    ((s.registeredModels.values ++ s.runtimeModels.values).map Model.modelId).Nodup := by
  rw [List.map_append, values_map_modelId hw.registered_keyed,
    values_map_modelId hw.runtime_keyed]
  exact List.nodup_append.mpr ⟨s.registeredModels.nodup, s.runtimeModels.nodup,
    fun k hk hk' => hd k hk hk'⟩

variable [PyCase] [ModelSchema]

/-- The spec's entry of an item sits under the item's key and has the runtime fields. -/
theorem scanEntry_keyed {w : World} {p : Nat × (String × String)} {k : String} {m : Model}
    (hk : scanKey p.2 = some k) (hm : scanEntry w p = some m) :
    m.modelId = k ∧ IsRuntimeEntry m := by
  unfold scanKey at hk
  split at hk
  · obtain ⟨g, hg, rfl⟩ := Option.map_eq_some'.mp hk
    simp only [scanEntry, hg, Option.map_some', Option.some.injEq] at hm
    subst hm
    exact ⟨rfl, rfl, rfl, rfl⟩
  · cases hk

/-- A completed scan is keyed by `model_id`, and its entries have the runtime fields. -/
theorem wellFormed_loadRuntimeModels {w : World} {rt : PyDict String Model}
    (h : loadRuntimeModels w = .ok rt) :
    KeyedByModelId rt ∧ ∀ m ∈ rt.values, IsRuntimeEntry m := by
  have hentry : ∀ k m, rt.get? k = some m → m.modelId = k ∧ IsRuntimeEntry m := by
    intro k m hm
    rw [loadRuntimeModels_get? h] at hm
    obtain ⟨p, hp, he⟩ := Option.bind_eq_some.mp hm
    exact scanEntry_keyed (by simpa using List.find?_some hp) he
  refine ⟨fun k m hm => (hentry k m hm).1, fun m hm => ?_⟩
  obtain ⟨k, hk⟩ := PyDict.mem_values.mp hm
  exact (hentry k m hk).2

theorem wellFormed_initializeOnce {s : ModelService} (h : WellFormed s) (w : World) :
    WellFormed (s.initializeOnce w).2 := by
  unfold ModelService.initializeOnce
  split
  · exact h
  · split
    · have hrt := wellFormed_loadRuntimeModels (loadRuntimeModels_eq_ok.mpr ⟨_, ‹_›⟩)
      exact ⟨h.registered_keyed, hrt.1, hrt.2⟩
    · exact h

/-- Every write a call makes to `_registered_models` stores an entry under its own
`model_id`. -/
theorem keyedByModelId_call {s : ModelService} (h : KeyedByModelId s.registeredModels)
    (w : World) (op : Op) : KeyedByModelId (s.call w op).2.registeredModels := by
  rw [registeredModels_call]
  generalize hres : (s.call w op).1 = res
  unfold registryWrite
  split
  · obtain ⟨n, -, hm, -⟩ := call_registerModel_ok s w hres
    cases hm
    exact keyedByModelId_setItem h rfl
  · obtain ⟨n, -, -, old, hold, rfl⟩ := call_updateModel_some s w hres
    exact keyedByModelId_setItem h (h _ old hold)
  · exact keyedByModelId_delItem h _
  · exact h

theorem wellFormed_call {s : ModelService} (h : WellFormed s) (w : World) (op : Op) :
    WellFormed (s.call w op).2 := by
  by_cases hop : op = .reloadRuntimeModels
  · subst hop
    rw [call_reload_state]
    split
    · have hrt := wellFormed_loadRuntimeModels ‹_›
      exact ⟨h.registered_keyed, hrt.1, hrt.2⟩
    · exact ⟨h.registered_keyed, keyedByModelId_empty, fun _ h => nomatch h⟩
  · have hi := wellFormed_initializeOnce h w
    rw [call_eq_initializeOnce s w op hop]
    exact ⟨keyedByModelId_call h.registered_keyed w op, hi.runtime_keyed, hi.runtime_entries⟩

theorem wellFormed_of_reachable {s : ModelService} (hs : Reachable s) : WellFormed s :=
  reachable_invariant wellFormed_new (fun _ w op h => wellFormed_call h w op) hs

/-- On a well-formed service, `get_active_models()` and
`get_all_models(include_inactive=False)` list the same IDs in the same order, or raise
the same exception: the registered entries are filtered on the same status, and every
runtime entry is active. -/
theorem activeIds_eq_allIds {s : ModelService} (h : WellFormed s) (w : World) :
    (s.getActiveModels w).1.map (List.map Model.modelId) =
      (s.getAllModels w false).1.map fun r => r.models.map ModelSummary.modelId := by
  have hi := wellFormed_initializeOnce h w
  rw [ModelService.getActiveModels, searchModels_eq, getAllModels_eq]
  split
  · have hrt : (s.initializeOnce w).2.runtimeModels.values.filter
        (ModelService.searchKeeps none (some .active) none) =
          (s.initializeOnce w).2.runtimeModels.values :=
      List.filter_eq_self.mpr fun m hm => by
        rw [searchKeeps_active, (hi.runtime_entries m hm).1]; rfl
    have hreg : s.registeredModels.values.filter
        (ModelService.searchKeeps none (some .active) none) =
          s.registeredModels.values.filter fun m => false || m.status == .active :=
      List.filter_congr fun m _ => by rw [searchKeeps_active, Bool.false_or]
    simp only [List.filter_append, hrt, hreg, Except.map, List.map_append, List.map_map]
    rfl
  · rfl

/-- Every reachable state is well formed: each entry of either map sits under its own
`model_id`, and each runtime entry is active, requires an API key and has the tags
`['runtime']`. So `get_active_models()` and `get_all_models(include_inactive=False)`
list the same IDs in the same order. -/
theorem reachable_wellFormed {s : ModelService} (hs : Reachable s) :
    WellFormed s ∧ ∀ w, (s.getActiveModels w).1.map (List.map Model.modelId) =
      (s.getAllModels w false).1.map fun r => r.models.map ModelSummary.modelId :=
  ⟨wellFormed_of_reachable hs, activeIds_eq_allIds (wellFormed_of_reachable hs)⟩

/-- The two read paths agree. On every reachable service, `get_all_models()` and
`get_model_by_id(i)` raise exactly when their `_initialize` raises. Otherwise
`get_all_models()` lists the summaries of the stored models, the registered ones and then
the runtime ones, and `get_model_by_id(i)` returns the first of those same models whose
`model_id` is `i`, or `None` when there is none. Both read the registry before the
runtime map, and both maps are keyed by `model_id`. -/
theorem getModelById_agrees_with_listing {s : ModelService} (hs : Reachable s) (w : World)
    (i : String) :
    (s.getAllModels w true).1.map (·.models) = (s.initializeOnce w).1.map (fun _ =>
      ((s.initializeOnce w).2.registeredModels.values ++
        (s.initializeOnce w).2.runtimeModels.values).map ModelService.summary) ∧
    (s.getModelById w i).1 = (s.initializeOnce w).1.map (fun _ =>
      ((s.initializeOnce w).2.registeredModels.values ++
        (s.initializeOnce w).2.runtimeModels.values).find? (·.modelId == i)) := by
  have hw := wellFormed_of_reachable hs
  have hi := wellFormed_initializeOnce hw w
  rw [getModelById_eq, getAllModels_eq, registeredModels_initializeOnce]
  rcases (s.initializeOnce w).1 with e | n
  · exact ⟨rfl, rfl⟩
  · refine ⟨by simp [Except.map], ?_⟩
    simp only [Except.map, List.find?_append, find?_values_modelId hw.registered_keyed,
      find?_values_modelId hi.runtime_keyed]

/-! ### Disjoint registries -/

/-- The runs the disjointness needs: every `reload_runtime_models` of the run scans no ID
that is registered when it runs. A reload whose scan raises leaves `{}`, which is
disjoint from anything. -/
def reloadsAvoidRegistered : ModelService → List (World × Op) → Bool
  | _, [] => true
  | s, (w, op) :: ops =>
    (op != .reloadRuntimeModels || match loadRuntimeModels w with
      | .ok rt => rt.keys.all fun k => !s.registeredModels.contains k
      | .error _ => true) && reloadsAvoidRegistered (s.call w op).2 ops

theorem registriesDisjoint_initializeOnce {s : ModelService} (hd : RegistriesDisjoint s)
    (ha : RegisteredAfterInit s) (w : World) : RegistriesDisjoint (s.initializeOnce w).2 := by
  cases hi : s.initialized
  · intro k hk
    rw [registeredModels_initializeOnce, ha hi] at hk
    cases hk
  · rwa [initializeOnce_of_initialized hi]

/-- An ID registered after a call was registered before it, or was added by a
registration that found it in neither map of the service `_initialize` left. -/
theorem mem_keys_call {s : ModelService} {w : World} {op : Op} {k : String}
    (hk : k ∈ (s.call w op).2.registeredModels.keys) :
    k ∈ s.registeredModels.keys ∨
      ((∃ n, (s.initializeOnce w).1 = .ok n) ∧ k ∉ (s.initializeOnce w).2.runtimeModels.keys) := by
  rw [registeredModels_call] at hk
  generalize hres : (s.call w op).1 = res at hk
  unfold registryWrite at hk
  split at hk
  · obtain ⟨n, hi, -, -, hrt⟩ := call_registerModel_ok s w hres
    rw [PyDict.keys_setItem] at hk
    split at hk
    · exact .inl hk
    · rcases List.mem_append.mp hk with hk | hk
      · exact .inl hk
      · rw [List.mem_singleton.mp hk]
        exact .inr ⟨⟨n, hi⟩, hrt⟩
  · obtain ⟨n, -, -, old, hold, -⟩ := call_updateModel_some s w hres
    rw [PyDict.keys_setItem, if_pos (PyDict.mem_keys_iff_get?.mpr ⟨old, hold⟩)] at hk
    exact .inl hk
  · rw [PyDict.keys_delItem] at hk
    exact .inl (List.mem_of_mem_erase hk)
  · exact .inl hk

/-- Every call but a reload keeps the maps disjoint. -/
theorem registriesDisjoint_call {s : ModelService} (hd : RegistriesDisjoint s)
    (ha : RegisteredAfterInit s) (w : World) (op : Op) (hop : op ≠ .reloadRuntimeModels) :
    RegistriesDisjoint (s.call w op).2 := by
  have hi := registriesDisjoint_initializeOnce hd ha w
  have hrt : (s.call w op).2.runtimeModels = (s.initializeOnce w).2.runtimeModels := by
    rw [call_eq_initializeOnce s w op hop]
  intro k hk
  rw [hrt]
  rcases mem_keys_call hk with hk | ⟨-, hk⟩
  · exact hi k (by rwa [registeredModels_initializeOnce])
  · exact hk

/-- A reload keeps the maps disjoint exactly when its scan raises or yields no
registered ID. -/
theorem registriesDisjoint_reload_iff (s : ModelService) (w : World) :
    RegistriesDisjoint (s.call w .reloadRuntimeModels).2 ↔ match loadRuntimeModels w with
      | .ok rt => ∀ k ∈ s.registeredModels.keys, k ∉ rt.keys
      | .error _ => True := by
  rw [call_reload_state]
  cases loadRuntimeModels w with
  | ok rt => exact Iff.rfl
  | error e => exact iff_true_intro fun _ _ h => nomatch h

/-- The test `reloadsAvoidRegistered` makes at a reload. -/
theorem reloadTest_iff (s : ModelService) (w : World) :
    (match loadRuntimeModels w with
      | .ok rt => rt.keys.all fun k => !s.registeredModels.contains k
      | .error _ => true) = true ↔ match loadRuntimeModels w with
      | .ok rt => ∀ k ∈ s.registeredModels.keys, k ∉ rt.keys
      | .error _ => True := by
  cases loadRuntimeModels w with
  | ok rt =>
    simp only [List.all_eq_true, PyDict.contains_eq, Bool.not_eq_true', decide_eq_false_iff_not]
    exact ⟨fun h k hk hk' => h k hk' hk, fun h k hk' hk => h k hk hk'⟩
  | error e => exact iff_true_intro rfl

theorem registriesDisjoint_run :
    ∀ (ops : List (World × Op)) {s : ModelService}, RegistriesDisjoint s →
      RegisteredAfterInit s → reloadsAvoidRegistered s ops = true →
        RegistriesDisjoint (s.run ops)
  | [], _, hd, _, _ => hd
  | (w, op) :: ops, s, hd, ha, h => by
    rw [reloadsAvoidRegistered, Bool.and_eq_true] at h
    refine registriesDisjoint_run ops ?_ (registeredAfterInit_call ha w op) h.2
    by_cases hop : op = .reloadRuntimeModels
    · subst hop
      exact (registriesDisjoint_reload_iff s w).mpr ((reloadTest_iff s w).mp (by simpa using h.1))
    · exact registriesDisjoint_call hd ha w op hop

/-- What disjoint maps give the callers of the service `s` in the world `w`. The listings
name every ID once. `get_model_by_id`, `update_model` and `delete_model` agree on the map
that owns an ID: a runtime ID is read from the runtime map and cannot be updated or
deleted, and a registered ID is read from the registry and can be. -/
structure OwnershipAgrees (s : ModelService) (w : World) : Prop where
  listing_nodup : ∀ b resp, (s.getAllModels w b).1 = .ok resp →
    (resp.models.map ModelSummary.modelId).Nodup
  search_nodup : ∀ modelType status tags models,
    (s.searchModels w modelType status tags).1 = .ok models → (models.map Model.modelId).Nodup
  runtime_owned : ∀ i r n, (s.initializeOnce w).1 = .ok n →
    i ∈ (s.initializeOnce w).2.runtimeModels.keys →
      (s.getModelById w i).1 = .ok ((s.initializeOnce w).2.runtimeModels.get? i) ∧
      (s.updateModel w i r).1 =
        .error (.valueError "Cannot update runtime models specified via environment variables") ∧
      (s.deleteModel w i).1 =
        .error (.valueError "Cannot delete runtime models specified via environment variables")
  registered_owned : ∀ i r, i ∈ s.registeredModels.keys →
    (s.getModelById w i).1 = .ok (s.registeredModels.get? i) ∧
    (∃ m, (s.updateModel w i r).1 = .ok (some m)) ∧ (s.deleteModel w i).1 = .ok true

/-- When the maps `_initialize` leaves name every ID once, so do the listings. -/
theorem listings_nodup {s : ModelService} {w : World}
    (hn : ((s.registeredModels.values ++
      (s.initializeOnce w).2.runtimeModels.values).map Model.modelId).Nodup) :
    (∀ b resp, (s.getAllModels w b).1 = .ok resp →
      (resp.models.map ModelSummary.modelId).Nodup) ∧
    (∀ modelType status tags models, (s.searchModels w modelType status tags).1 = .ok models →
      (models.map Model.modelId).Nodup) := by
  refine ⟨fun b resp h => ?_, fun t st g ms h => ?_⟩
  · rw [getAllModels_eq] at h
    split at h
    · cases h
      rw [List.map_append] at hn
      simp only [List.map_append, List.map_map]
      exact hn.sublist (((List.filter_sublist _).map _).append (List.Sublist.refl _))
    · cases h
  · rw [searchModels_eq] at h
    split at h
    · cases h
      exact hn.sublist ((List.filter_sublist _).map _)
    · cases h

/-- A runtime ID that no registration shadows is read from the runtime map, and
`update_model` and `delete_model` refuse it. -/
theorem runtime_owned_of_disjoint {s : ModelService} {w : World} {i : String} {n : Nat}
    (hd : ∀ k ∈ s.registeredModels.keys, k ∉ (s.initializeOnce w).2.runtimeModels.keys)
    (hi : (s.initializeOnce w).1 = .ok n) (hrt : i ∈ (s.initializeOnce w).2.runtimeModels.keys)
    (r : ModelUpdateRequest) :
    (s.getModelById w i).1 = .ok ((s.initializeOnce w).2.runtimeModels.get? i) ∧
    (s.updateModel w i r).1 =
      .error (.valueError "Cannot update runtime models specified via environment variables") ∧
    (s.deleteModel w i).1 =
      .error (.valueError "Cannot delete runtime models specified via environment variables") := by
  have hnreg : s.registeredModels.get? i = none :=
    PyDict.get?_eq_none_iff.mpr fun h => hd i h hrt
  have ht := initialized_initializeOnce_of_ok hi
  have hupd : s.updateModel w i r = (s.initializeOnce w).2.updateModel (w.after n) i r :=
    initThen_of_ok s w hi _
  have hdel : s.deleteModel w i = (s.initializeOnce w).2.deleteModel (w.after n) i :=
    initThen_of_ok s w hi _
  exact ⟨by rw [getModelById_eq, hi, hnreg]; rfl,
    by rw [hupd, updateModel_of_runtime _ ht hrt], by rw [hdel, deleteModel_of_runtime _ ht hrt]⟩

/-- On an initialized service, a registered ID that is not a runtime ID is read from the
registry, and `update_model` and `delete_model` act on it. -/
theorem registered_owned_of_disjoint {s : ModelService} {w : World} {i : String}
    (hinit : s.initialized = true) (hreg : i ∈ s.registeredModels.keys)
    (hrt : i ∉ s.runtimeModels.keys) (r : ModelUpdateRequest) :
    (s.getModelById w i).1 = .ok (s.registeredModels.get? i) ∧
    (∃ m, (s.updateModel w i r).1 = .ok (some m)) ∧ (s.deleteModel w i).1 = .ok true := by
  obtain ⟨m, hm⟩ := PyDict.mem_keys_iff_get?.mp hreg
  exact ⟨by rw [getModelById_eq, initializeOnce_of_initialized hinit, hm]; rfl,
    ⟨_, by rw [updateModel_of_registered w hinit hrt hm r]⟩,
    by rw [deleteModel_of_registered w hinit hrt hreg]⟩

theorem ownershipAgrees_of_disjoint {s : ModelService} (hd : RegistriesDisjoint s)
    (ha : RegisteredAfterInit s) (hw : WellFormed s) (w : World) : OwnershipAgrees s w := by
  have hd₁ := registriesDisjoint_initializeOnce hd ha w
  have hn := modelIds_nodup hd₁ (wellFormed_initializeOnce hw w)
  rw [registeredModels_initializeOnce] at hn
  rw [RegistriesDisjoint, registeredModels_initializeOnce] at hd₁
  obtain ⟨hlist, hsearch⟩ := listings_nodup hn
  exact ⟨hlist, hsearch, fun i r _ hi hrt => runtime_owned_of_disjoint hd₁ hi hrt r,
    fun i r hreg => registered_owned_of_disjoint (initialized_of_registered ha hreg) hreg
      (hd i hreg) r⟩

/-- The maps are disjoint after every run whose reloads scan no registered ID, and then
the listings name every ID once and the three ID methods agree on the owner of each ID.
The proviso on reloads cannot go: from any state, a reload keeps the maps disjoint
exactly when its scan raises or yields no registered ID. -/
theorem registriesDisjoint_of_reloadsAvoidRegistered (ops : List (World × Op))
    (h : reloadsAvoidRegistered ModelService.new ops = true) :
    RegistriesDisjoint (ModelService.new.run ops) ∧
      (∀ w, OwnershipAgrees (ModelService.new.run ops) w) ∧
      ∀ (s : ModelService) w, RegistriesDisjoint (s.call w .reloadRuntimeModels).2 ↔
        match loadRuntimeModels w with
        | .ok rt => ∀ k ∈ s.registeredModels.keys, k ∉ rt.keys
        | .error _ => True := by
  have hd := registriesDisjoint_run ops registriesDisjoint_new registeredAfterInit_new h
  have ha : RegisteredAfterInit (ModelService.new.run ops) :=
    run_invariant (P := RegisteredAfterInit) (fun _ w op h => registeredAfterInit_call h w op) ops
      registeredAfterInit_new
  have hw : WellFormed (ModelService.new.run ops) :=
    run_invariant (P := WellFormed) (fun _ w op h => wellFormed_call h w op) ops wellFormed_new
  exact ⟨hd, ownershipAgrees_of_disjoint hd ha hw, registriesDisjoint_reload_iff⟩

end EvalHub.Proofs

namespace EvalHub.Proofs

open EvalHub.Python EvalHub.Models EvalHub.Services EvalHub.Sample

/-- A run of the proviso: `a` is registered, and a reload then scans only `b`. -/
theorem registriesDisjoint_registerThenReloadB :
    reloadsAvoidRegistered ModelService.new
        [(worldEmpty, .registerModel requestA), (worldB, .reloadRuntimeModels)] = true ∧
      (RegistriesDisjoint (ModelService.new.run
        [(worldEmpty, .registerModel requestA), (worldB, .reloadRuntimeModels)]) ∧
      (∀ w, OwnershipAgrees (ModelService.new.run
        [(worldEmpty, .registerModel requestA), (worldB, .reloadRuntimeModels)]) w) ∧
      ∀ (s : ModelService) w, RegistriesDisjoint (s.call w .reloadRuntimeModels).2 ↔
        match loadRuntimeModels w with
        | .ok rt => ∀ k ∈ s.registeredModels.keys, k ∉ rt.keys
        | .error _ => True) :=
  ⟨by rfl, registriesDisjoint_of_reloadsAvoidRegistered _ (by rfl)⟩

/-- A reload does not test the registry. After `a` is registered, a reload in an
environment that names `a` puts `a` in both maps. The service then contradicts itself on
`a`: `get_model_by_id("a")` returns the registered entry, `update_model("a")` and
`delete_model("a")` raise the runtime-model `ValueError`, and `get_all_models()` lists `a`
twice. -/
theorem registriesDisjoint_lost_on_reload :
    "a" ∈ (ModelService.new.run [(worldEmpty, .registerModel requestA),
      (worldA, .reloadRuntimeModels)]).registeredModels.keys ∧
    "a" ∈ (ModelService.new.run [(worldEmpty, .registerModel requestA),
      (worldA, .reloadRuntimeModels)]).runtimeModels.keys ∧
    ((ModelService.new.run [(worldEmpty, .registerModel requestA),
      (worldA, .reloadRuntimeModels)]).getModelById worldA "a").1 =
        .ok ((ModelService.new.run [(worldEmpty, .registerModel requestA),
          (worldA, .reloadRuntimeModels)]).registeredModels.get? "a") ∧
    ((ModelService.new.run [(worldEmpty, .registerModel requestA),
      (worldA, .reloadRuntimeModels)]).updateModel worldA "a" {}).1 =
        .error (.valueError "Cannot update runtime models specified via environment variables") ∧
    ((ModelService.new.run [(worldEmpty, .registerModel requestA),
      (worldA, .reloadRuntimeModels)]).deleteModel worldA "a").1 =
        .error (.valueError "Cannot delete runtime models specified via environment variables") ∧
    ((ModelService.new.run [(worldEmpty, .registerModel requestA),
      (worldA, .reloadRuntimeModels)]).getAllModels worldA true).1.map
        (fun r => r.models.map ModelSummary.modelId) = .ok ["a", "a"] :=
  ⟨by decide, by decide, by rfl, by rfl, by rfl, by rfl⟩

/-- The service that registered `a` is reachable and well formed. -/
theorem reachable_wellFormed_registeredA :
    Reachable registeredA ∧ (WellFormed registeredA ∧
      ∀ w, (registeredA.getActiveModels w).1.map (List.map Model.modelId) =
        (registeredA.getAllModels w false).1.map fun r => r.models.map ModelSummary.modelId) :=
  ⟨⟨_, rfl⟩, reachable_wellFormed ⟨_, rfl⟩⟩

/-- On the service that registered `a`, `get_model_by_id("a")` returns the first stored
model with ID `a`, and `get_all_models()` lists the summaries of the stored models. -/
theorem getModelById_agrees_registeredA :
    Reachable registeredA ∧
      ((registeredA.getAllModels worldA true).1.map (·.models) =
        (registeredA.initializeOnce worldA).1.map (fun _ =>
          ((registeredA.initializeOnce worldA).2.registeredModels.values ++
            (registeredA.initializeOnce worldA).2.runtimeModels.values).map
              ModelService.summary) ∧
      (registeredA.getModelById worldA "a").1 = (registeredA.initializeOnce worldA).1.map
        (fun _ => ((registeredA.initializeOnce worldA).2.registeredModels.values ++
          (registeredA.initializeOnce worldA).2.runtimeModels.values).find?
            (·.modelId == "a"))) :=
  ⟨⟨_, rfl⟩, getModelById_agrees_with_listing ⟨_, rfl⟩ worldA "a"⟩

end EvalHub.Proofs
