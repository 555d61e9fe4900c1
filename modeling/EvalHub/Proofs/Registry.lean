import EvalHub.Proofs.Invariants

/-!
# `EvalHub.Proofs.Registry`: the mutable registry is a key-value store

The spec describes the mutable registry as a store keyed by ID. `specWrite` is that store
read off one call and what it returned. A registration that returned stores the model it
created. An update that returned a model applies the request's supplied fields to the
stored entry and stamps the call's clock reading. A delete that returned `True` removes
the ID. Nothing else, and no call that raised, writes. `specRegistry` folds `specWrite`
over the history of a run from the empty store.

`get?_registeredModels_call` is the refinement step: one call moves `_registered_models`
as `specWrite` moves the store. `getModelById_refines` lifts it to every run. So no
registration or update is lost and no deleted model comes back. `get_model_by_id` reads
this store first and the runtime map after it, and it raises exactly when its own
`_initialize` raises. When no reload of the run raised, that runtime map is the map of
the most recent completed scan (`LastCompletedScan`).

The store also has an order. `specOrder` folds the registered IDs over a history:
a registration appends, a delete removes, and an update moves nothing.
`getAllModels_registrationOrder` says `_registered_models` keeps that order, and
`get_all_models` lists it.

`updateModel_registered` is the frame of `update_model` on a registered ID. The module
ends with retries: a second update or delete in the same world changes nothing more, and
a second registration of an ID raises. An update reads the clock after its own
`_initialize`, so the first update of a service that scans stamps a later reading than a
retry in the same world would; on a reachable service that case stamps nothing, because
a service that has not initialized has registered nothing. Two updates of one ID compose:
on an initialized service they do what one update with the merged request does
(`updateModel_updateModel`).
-/

set_option autoImplicit false

namespace EvalHub.Proofs

open EvalHub.Python EvalHub.Models EvalHub.Services

/-! ### The spec's store -/

/-- The spec's store after one call, read off what the call returned. -/
def specWrite (reg : String → Option Model) :
    World × Op × Except PyException Response → String → Option Model
  | (_, .registerModel r, .ok (.model m)) => fun k => if k = r.modelId then some m else reg k
  | (w, .updateModel i r, .ok (.modelOpt (some _))) => fun k =>
    if k = i then (reg i).map fun m => { applyUpdate r m with updatedAt := w.now } else reg k
  | (_, .deleteModel i, .ok (.bool true)) => fun k => if k = i then none else reg k
  | _ => reg

/-- The spec's store after a history of calls, from the empty store. -/
def specRegistry (history : List (World × Op × Except PyException Response)) :
    String → Option Model :=
  history.foldl specWrite fun _ => none

/-- The order of the registered IDs after one call, read off what the call returned. A
registration appends its ID, a delete that returned `True` removes the ID, and nothing
else moves an ID. -/
def specOrder (order : List String) :
    World × Op × Except PyException Response → List String
  | (_, .registerModel r, .ok (.model _)) => order ++ [r.modelId]
  | (_, .deleteModel i, .ok (.bool true)) => order.erase i
  | _ => order

theorem getD_getD_self {α : Type} (o : Option α) (x : α) : o.getD (o.getD x) = o.getD x := by
  cases o <;> rfl

/-- The spec's partial update is idempotent, whatever clock reading it is stamped with. -/
theorem applyUpdate_applyUpdate (r : ModelUpdateRequest) (m : Model) (t : Nat) :
    applyUpdate r { applyUpdate r m with updatedAt := t } =
      { applyUpdate r m with updatedAt := t } := by
  simp only [applyUpdate, getD_getD_self, ← Option.or_assoc, Option.or_self]

/-- Two partial updates read as one request: each field the later request supplies, else
the earlier's. -/
def mergeUpdates (r₁ r₂ : ModelUpdateRequest) : ModelUpdateRequest :=
  { modelName := r₂.modelName.or r₁.modelName
    description := r₂.description.or r₁.description
    modelType := r₂.modelType.or r₁.modelType
    baseUrl := r₂.baseUrl.or r₁.baseUrl
    apiKeyRequired := r₂.apiKeyRequired.or r₁.apiKeyRequired
    modelPath := r₂.modelPath.or r₁.modelPath
    capabilities := r₂.capabilities.or r₁.capabilities
    config := r₂.config.or r₁.config
    status := r₂.status.or r₁.status
    tags := r₂.tags.or r₁.tags }

theorem getD_getD_or {α : Type} (o₁ o₂ : Option α) (x : α) :
    o₂.getD (o₁.getD x) = (o₂.or o₁).getD x := by
  cases o₂ <;> rfl

/-- The spec's partial updates compose: one stamped update over another is the merged
update, stamped with the later clock reading. -/
theorem applyUpdate_mergeUpdates (r₁ r₂ : ModelUpdateRequest) (m : Model) (t₁ t₂ : Nat) :
    { applyUpdate r₂ { applyUpdate r₁ m with updatedAt := t₁ } with updatedAt := t₂ } =
      { applyUpdate (mergeUpdates r₁ r₂) m with updatedAt := t₂ } := by
  simp only [applyUpdate, mergeUpdates, getD_getD_or, ← Option.or_assoc]

variable [PyCase] [ModelSchema]

/-! ### Refinement -/

/-- One call moves `_registered_models` as `specWrite` moves the spec's store, on a
service that has registered nothing before it initialized. An update finds its ID
registered, so the service is initialized and the update reads the call's first clock
reading. -/
theorem get?_registeredModels_call {s : ModelService} (ha : RegisteredAfterInit s) (w : World)
    (op : Op) :
    (s.call w op).2.registeredModels.get? =
      specWrite s.registeredModels.get? (w, op, (s.call w op).1) := by
  rw [registeredModels_call]
  generalize hres : (s.call w op).1 = res
  unfold registryWrite
  split
  · funext k
    simp only [specWrite, PyDict.get?_setItem]
  · obtain ⟨n, hn, -, old, hold, rfl⟩ := call_updateModel_some s w hres
    rw [initializeOnce_of_initialized (initialized_of_registered ha
      (PyDict.mem_keys_iff_get?.mpr ⟨old, hold⟩))] at hn
    cases hn
    funext k
    simp only [specWrite, PyDict.get?_setItem, hold, Option.map_some']
    rfl
  · funext k
    simp only [specWrite, PyDict.get?_delItem]
  · unfold specWrite
    split <;> first | rfl | simp_all

theorem get?_registeredModels_run :
    ∀ (ops : List (World × Op)) {s : ModelService}, RegisteredAfterInit s →
      (s.run ops).registeredModels.get? = (s.history ops).foldl specWrite s.registeredModels.get?
  | [], _, _ => rfl
  | (w, op) :: ops, s, ha => by
    rw [ModelService.run, ModelService.history, List.foldl_cons, ← get?_registeredModels_call ha,
      get?_registeredModels_run ops (registeredAfterInit_call ha w op)]

/-- After every run from a fresh service, `_registered_models` is the spec's store of the
run's history, and `get_model_by_id(i)` raises exactly when its own `_initialize` raises
and otherwise returns the store's entry for `i`, else the entry for `i` in the runtime
map `_initialize` left, else `None`. When no reload of the run raised, that runtime map is
the map of the most recent completed scan, counting the call's own `_initialize`. -/
theorem getModelById_refines (ops : List (World × Op)) (w : World) (i : String) :
    (ModelService.new.run ops).registeredModels.get? = specRegistry (ModelService.new.history ops) ∧
    ((ModelService.new.run ops).getModelById w i).1 =
      (match ((ModelService.new.run ops).initializeOnce w).1 with
      | .ok _ => .ok ((specRegistry (ModelService.new.history ops) i).or
          (((ModelService.new.run ops).initializeOnce w).2.runtimeModels.get? i))
      | .error e => .error e) ∧
    ((∀ p ∈ ops, p.2 = .reloadRuntimeModels → (loadRuntimeModels p.1).isOk) →
      ((ModelService.new.run ops).initializeOnce w).1.isOk →
      LastCompletedScan (ops ++ [(w, .getModelById i)])
        ((ModelService.new.run ops).initializeOnce w).2.runtimeModels) := by
  have hreg : (ModelService.new.run ops).registeredModels.get? =
      specRegistry (ModelService.new.history ops) :=
    get?_registeredModels_run ops registeredAfterInit_new
  refine ⟨hreg, ?_, fun hreload hok => ?_⟩
  · rw [getModelById_eq, ← hreg]
    rcases ((ModelService.new.run ops).initializeOnce w).1 with _ | _ <;> rfl
  · have hstate := call_eq_initializeOnce (ModelService.new.run ops) w (.getModelById i) nofun
    obtain ⟨n, hn⟩ : ∃ n, ((ModelService.new.run ops).initializeOnce w).1 = .ok n := by
      revert hok
      cases ((ModelService.new.run ops).initializeOnce w).1 with
      | ok n => exact fun _ => ⟨n, rfl⟩
      | error e => exact nofun
    have h := runtimeModels_lastCompletedScan (ops ++ [(w, .getModelById i)])
      (fun p hp hr => (List.mem_append.mp hp).elim (hreload p · hr)
        fun hp => by rw [List.mem_singleton.mp hp] at hr; cases hr)
      (by rw [run_snoc, hstate]; exact initialized_initializeOnce_of_ok hn)
    rwa [run_snoc, hstate] at h

/-! ### The order of the registry

A Python dict keeps its keys in insertion order, and the service never rebuilds
`_registered_models`, so `get_all_models` lists the registered models in the order they
were registered. A registration adds an ID that neither map held, so it goes last, and
an update writes an ID that is there, so it stays in place. -/

/-- One call moves the order of `_registered_models` as `specOrder` moves the spec's
order. -/
theorem keys_registeredModels_call (s : ModelService) (w : World) (op : Op) :
    (s.call w op).2.registeredModels.keys =
      specOrder s.registeredModels.keys (w, op, (s.call w op).1) := by
  rw [registeredModels_call]
  generalize hres : (s.call w op).1 = res
  unfold registryWrite
  split
  · obtain ⟨-, -, -, hnew, -⟩ := call_registerModel_ok s w hres
    rw [PyDict.keys_setItem, if_neg hnew]
    rfl
  · obtain ⟨-, -, -, old, hold, -⟩ := call_updateModel_some s w hres
    rw [PyDict.keys_setItem, if_pos (PyDict.mem_keys_iff_get?.mpr ⟨old, hold⟩)]
    rfl
  · exact PyDict.keys_delItem _ _
  · unfold specOrder
    split <;> first | rfl | simp_all

theorem keys_registeredModels_run :
    ∀ (ops : List (World × Op)) (s : ModelService),
      (s.run ops).registeredModels.keys = (s.history ops).foldl specOrder s.registeredModels.keys
  | [], _ => rfl
  | (w, op) :: ops, s => by
    rw [ModelService.run, ModelService.history, List.foldl_cons, ← keys_registeredModels_call,
      keys_registeredModels_run ops]

/-- After every run from a fresh service, the registered IDs are in the order `specOrder`
folds from the run's history. `get_all_models(include_inactive=True)` raises exactly when
its `_initialize` raises, and otherwise lists the registered IDs in that order, then the
runtime IDs in the order of the scan. -/
theorem getAllModels_registrationOrder (ops : List (World × Op)) (w : World) :
    (ModelService.new.run ops).registeredModels.keys =
      (ModelService.new.history ops).foldl specOrder [] ∧
    ((ModelService.new.run ops).getAllModels w true).1.map
        (fun r => r.models.map ModelSummary.modelId) =
      match ((ModelService.new.run ops).initializeOnce w).1 with
      | .ok _ => .ok ((ModelService.new.history ops).foldl specOrder [] ++
          ((ModelService.new.run ops).initializeOnce w).2.runtimeModels.keys)
      | .error e => .error e := by
  have hkeys : (ModelService.new.run ops).registeredModels.keys =
      (ModelService.new.history ops).foldl specOrder [] := keys_registeredModels_run ops _
  have hw := wellFormed_of_reachable ⟨ops, rfl⟩
  have hi := wellFormed_initializeOnce hw w
  refine ⟨hkeys, ?_⟩
  rw [getAllModels_eq, ← hkeys, ← values_map_modelId hw.registered_keyed,
    ← values_map_modelId hi.runtime_keyed]
  rcases ((ModelService.new.run ops).initializeOnce w).1 with e | n
  · rfl
  · simp only [Bool.true_or, List.filter_true, Except.map, List.map_append, List.map_map]
    rfl

/-! ### `update_model` on a registered ID -/

/-- On a reachable service, `update_model` on an ID that is registered and not a runtime
ID returns the stored entry with the request's supplied fields and the call's clock
reading. It writes that entry back in place under the ID, leaves every other entry and
the order of the IDs alone, and changes neither `_runtime_models` nor `_initialized`.
`model_id` and `created_at` keep their values. -/
theorem updateModel_registered {s : ModelService} (hs : Reachable s) {i : String}
    (h₁ : i ∈ s.registeredModels.keys) (h₂ : i ∉ s.runtimeModels.keys) (w : World)
    (r : ModelUpdateRequest) :
    ∃ old, s.registeredModels.get? i = some old ∧
      (s.updateModel w i r).1 = .ok (some { applyUpdate r old with updatedAt := w.now }) ∧
      (s.updateModel w i r).2 = { s with registeredModels :=
        (s.registeredModels.setItem i { applyUpdate r old with updatedAt := w.now }) } ∧
      (s.updateModel w i r).2.registeredModels.get? i =
        some { applyUpdate r old with updatedAt := w.now } ∧
      (∀ k, k ≠ i → (s.updateModel w i r).2.registeredModels.get? k = s.registeredModels.get? k) ∧
      (s.updateModel w i r).2.registeredModels.keys = s.registeredModels.keys ∧
      ({ applyUpdate r old with updatedAt := w.now } : Model).modelId = old.modelId ∧
      ({ applyUpdate r old with updatedAt := w.now } : Model).createdAt = old.createdAt := by
  obtain ⟨old, hold⟩ := PyDict.mem_keys_iff_get?.mp h₁
  have h := updateModel_of_registered w
    (initialized_of_registered (registeredAfterInit_of_reachable hs) h₁) h₂ hold r
  refine ⟨old, hold, by rw [h], by rw [h], by rw [h]; simp, fun k hk => by rw [h]; simp [hk],
    by rw [h, PyDict.keys_setItem, if_pos h₁], rfl, rfl⟩

/-! ### Register, then delete -/

/-- A registration followed by a delete of its ID, in any world, returns `True` and
restores `_registered_models` exactly, order included. -/
theorem registerModel_deleteModel {s : ModelService} {w w' : World}
    {r : ModelRegistrationRequest} {resp : Response}
    (h : (s.call w (.registerModel r)).1 = .ok resp) :
    ((s.call w (.registerModel r)).2.call w' (.deleteModel r.modelId)).1 = .ok (.bool true) ∧
    ((s.call w (.registerModel r)).2.call w' (.deleteModel r.modelId)).2.registeredModels =
      s.registeredModels := by
  obtain ⟨n, hi, rfl, hreg, hrt⟩ := call_registerModel_ok s w h
  have hs := call_eq_initializeOnce s w (.registerModel r) (by simp)
  have hinit : (s.call w (.registerModel r)).2.initialized = true := by
    rw [hs]
    exact initialized_initializeOnce_of_ok hi
  have hrt' : r.modelId ∉ (s.call w (.registerModel r)).2.runtimeModels.keys := by
    rw [hs]
    exact hrt
  have hreg' : (s.call w (.registerModel r)).2.registeredModels =
      s.registeredModels.setItem r.modelId (ModelService.registeredModel r (w.clock n)) := by
    rw [registeredModels_call, h]
    rfl
  generalize (s.call w (.registerModel r)).2 = s₂ at hinit hrt' hreg' ⊢
  have hmem : r.modelId ∈ s₂.registeredModels.keys := by
    rw [hreg', PyDict.keys_setItem, if_neg hreg]
    exact List.mem_append_right _ (List.mem_singleton_self _)
  simp only [ModelService.call, deleteModel_of_registered w' hinit hrt' hmem, Except.map, hreg']
  exact ⟨trivial, PyDict.delItem_setItem_of_not_mem hreg _⟩

/-! ### Retries -/

theorem updateModel_idempotent_of_initialized {t : ModelService} (ht : t.initialized = true)
    (w : World) (i : String) (r : ModelUpdateRequest) :
    (t.updateModel w i r).2.updateModel w i r = t.updateModel w i r := by
  by_cases hrt : i ∈ t.runtimeModels.keys
  · simp only [updateModel_of_runtime w ht hrt]
  cases hold : t.registeredModels.get? i with
  | none => simp only [updateModel_of_not_registered w ht hrt hold]
  | some old =>
    let t' : ModelService := { t with registeredModels :=
      (t.registeredModels.setItem i { applyUpdate r old with updatedAt := w.now }) }
    have hnew : t'.registeredModels.get? i = some { applyUpdate r old with updatedAt := w.now } := by
      simp [t']
    rw [updateModel_of_registered w ht hrt hold r, updateModel_of_registered (s := t') w ht hrt hnew r,
      applyUpdate_applyUpdate, PyDict.setItem_of_get? hnew]

/-- Retrying an update in the same world changes nothing more, on every reachable
service: the second call returns what the first returned, and leaves the service the
first left. A service not yet initialized has registered nothing, so there the first
update stamps no model. -/
theorem updateModel_idempotent {s : ModelService} (hs : Reachable s) (w : World) (i : String)
    (r : ModelUpdateRequest) :
    (s.updateModel w i r).2.updateModel w i r = s.updateModel w i r := by
  cases hinit : s.initialized
  · rcases initializeOnce_cases (s := s) (w := w) with ⟨e, he⟩ | ⟨⟨n, hok⟩, ht⟩
    · have h : s.updateModel w i r = (.error e, s) := initThen_of_error s w he _
      rw [h]
      exact h
    · have hnone : (s.initializeOnce w).2.registeredModels.get? i = none := by
        rw [registeredModels_initializeOnce, PyDict.get?_eq_none_iff,
          registeredAfterInit_of_reachable hs hinit]
        exact List.not_mem_nil i
      rw [show s.updateModel w i r = (s.initializeOnce w).2.updateModel (w.after n) i r from
        initThen_of_ok s w hok _]
      generalize (s.initializeOnce w).2 = t at ht hnone ⊢
      by_cases hrt : i ∈ t.runtimeModels.keys
      · simp only [updateModel_of_runtime _ ht hrt]
      · simp only [updateModel_of_not_registered _ ht hrt hnone]
  · exact updateModel_idempotent_of_initialized hinit w i r

theorem deleteModel_idempotent_of_initialized {t : ModelService} (ht : t.initialized = true)
    (w w' : World) (i : String) :
    ((t.deleteModel w i).2.deleteModel w' i).2 = (t.deleteModel w i).2 ∧
      ((t.deleteModel w i).2.deleteModel w' i).1 = (t.deleteModel w i).1.map fun _ => false := by
  by_cases hrt : i ∈ t.runtimeModels.keys
  · simp only [deleteModel_of_runtime _ ht hrt, Except.map, and_self]
  by_cases hreg : i ∈ t.registeredModels.keys
  · let t' : ModelService := { t with registeredModels := t.registeredModels.delItem i }
    have hgone : i ∉ t'.registeredModels.keys := PyDict.get?_eq_none_iff.mp (by simp [t'])
    simp only [deleteModel_of_registered w ht hrt hreg,
      deleteModel_of_not_registered (s := t') w' ht hrt hgone, Except.map, and_self]
  · simp only [deleteModel_of_not_registered _ ht hrt hreg, Except.map, and_self]

/-- Retrying a delete in the same world changes nothing more. The second call leaves the
service the first left; it returns `False` where the first returned, and raises what the
first raised. -/
theorem deleteModel_idempotent (s : ModelService) (w : World) (i : String) :
    ((s.deleteModel w i).2.deleteModel w i).2 = (s.deleteModel w i).2 ∧
      ((s.deleteModel w i).2.deleteModel w i).1 = (s.deleteModel w i).1.map fun _ => false := by
  rcases initializeOnce_cases (s := s) (w := w) with ⟨e, he⟩ | ⟨⟨n, hok⟩, hinit⟩
  · have h : s.deleteModel w i = (.error e, s) := initThen_of_error s w he _
    rw [h]
    exact ⟨by rw [h], by rw [h]; rfl⟩
  · have h : s.deleteModel w i = (s.initializeOnce w).2.deleteModel (w.after n) i :=
      initThen_of_ok s w hok _
    rw [h]
    exact deleteModel_idempotent_of_initialized hinit _ w i

/-- After a registration that returned, registering the same ID again, in any world,
raises the `ValueError` that names the ID and changes nothing. -/
theorem registerModel_twice {s : ModelService} {w w' : World} {r r' : ModelRegistrationRequest}
    {m : Model} (h : (s.registerModel w r).1 = .ok m) (hid : r'.modelId = r.modelId) :
    (s.registerModel w r).2.registerModel w' r' =
      (.error (.valueError ("Model with ID '" ++ r.modelId ++ "' already exists")),
        (s.registerModel w r).2) := by
  rcases registerModel_cases s w r with ⟨e, -, h₀⟩ | ⟨n, hi, ⟨-, h₀⟩ | ⟨-, -, h₀⟩ |
    ⟨-, -, -, h₀⟩ | ⟨-, -, -, h₀⟩⟩ <;> rw [h₀] at h <;> try cases h
  have h₁ : (s.registerModel w r).2.initialized = true := by
    rw [h₀]
    exact initialized_initializeOnce_of_ok hi
  have h₂ : r'.modelId ∈ (s.registerModel w r).2.registeredModels.keys := by
    rw [h₀, hid, PyDict.mem_keys_iff_get?]
    exact ⟨ModelService.registeredModel r (w.clock n), by simp⟩
  rw [registerModel_of_registered w' h₁ h₂, hid]

/-! ### Composition -/

/-- Two updates of one ID in a row, on an initialized service, do what one update with the
merged request does in the world of the second. The fields the second request supplies
win, the first's fill in, and the clock reading is the second's. The entry keeps its
place, and a runtime or unknown ID gives the same error or `None` as one call. -/
theorem updateModel_updateModel {s : ModelService} (hs : s.initialized = true)
    (w₁ w₂ : World) (i : String) (r₁ r₂ : ModelUpdateRequest) :
    (s.updateModel w₁ i r₁).2.updateModel w₂ i r₂ = s.updateModel w₂ i (mergeUpdates r₁ r₂) := by
  by_cases hrt : i ∈ s.runtimeModels.keys
  · simp only [updateModel_of_runtime _ hs hrt]
  cases hold : s.registeredModels.get? i with
  | none => simp only [updateModel_of_not_registered _ hs hrt hold]
  | some old =>
    let s₁ : ModelService := { s with registeredModels :=
      (s.registeredModels.setItem i { applyUpdate r₁ old with updatedAt := w₁.now }) }
    have hnew : s₁.registeredModels.get? i = some { applyUpdate r₁ old with updatedAt := w₁.now } := by
      simp [s₁]
    rw [updateModel_of_registered w₁ hs hrt hold r₁, updateModel_of_registered (s := s₁) w₂ hs hrt hnew r₂,
      updateModel_of_registered w₂ hs hrt hold, applyUpdate_mergeUpdates]
    simp only [s₁, PyDict.setItem_setItem]

end EvalHub.Proofs

namespace EvalHub.Proofs

open EvalHub.Python EvalHub.Models EvalHub.Services EvalHub.Sample

/-- No model is registered, and yet `get_model_by_id("a")` neither returns the runtime
entry of `a` nor `None`: the validators reject the entry its `_initialize` scans, and
the call raises. -/
theorem getModelById_raises_on_failed_scan :
    ModelService.new.registeredModels.keys = [] ∧
      (ModelService.new.getModelById worldFtp "a").1 = .error .validationError :=
  ⟨rfl, by rfl⟩

/-- Renaming the registered model `a`. -/
theorem updateModel_registered_renameA :
    Reachable registeredA ∧ "a" ∈ registeredA.registeredModels.keys ∧
      "a" ∉ registeredA.runtimeModels.keys ∧
      ∃ old, registeredA.registeredModels.get? "a" = some old ∧
        (registeredA.updateModel worldA "a" { modelName := some "B" }).1 =
          .ok (some { applyUpdate { modelName := some "B" } old with updatedAt := worldA.now }) ∧
        (registeredA.updateModel worldA "a" { modelName := some "B" }).2 =
          { registeredA with registeredModels := (registeredA.registeredModels.setItem "a"
            { applyUpdate { modelName := some "B" } old with updatedAt := worldA.now }) } ∧
        (registeredA.updateModel worldA "a" { modelName := some "B" }).2.registeredModels.get? "a" =
          some { applyUpdate { modelName := some "B" } old with updatedAt := worldA.now } ∧
        (∀ k, k ≠ "a" →
          (registeredA.updateModel worldA "a" { modelName := some "B" }).2.registeredModels.get? k =
            registeredA.registeredModels.get? k) ∧
        (registeredA.updateModel worldA "a" { modelName := some "B" }).2.registeredModels.keys =
          registeredA.registeredModels.keys ∧
        ({ applyUpdate { modelName := some "B" } old with updatedAt := worldA.now } : Model).modelId =
          old.modelId ∧
        ({ applyUpdate { modelName := some "B" } old with updatedAt := worldA.now } : Model).createdAt =
          old.createdAt :=
  ⟨⟨_, rfl⟩, by decide, by decide,
    updateModel_registered ⟨_, rfl⟩ (by decide) (by decide) worldA { modelName := some "B" }⟩

/-- A fresh service retries an update of `a` in an environment that names `a`: the first
call scans, and both raise the runtime-model `ValueError`. -/
theorem updateModel_idempotent_fresh :
    Reachable ModelService.new ∧
      (ModelService.new.updateModel worldA "a" {}).2.updateModel worldA "a" {} =
        ModelService.new.updateModel worldA "a" {} :=
  ⟨⟨[], rfl⟩, updateModel_idempotent ⟨[], rfl⟩ worldA "a" {}⟩

/-- Registering `a` and deleting it, in another environment, restores the empty registry. -/
theorem registerModel_deleteModel_requestA :
    (ModelService.new.call worldEmpty (.registerModel requestA)).1 =
      .ok (.model (ModelService.registeredModel requestA worldEmpty.now)) ∧
    ((ModelService.new.call worldEmpty (.registerModel requestA)).2.call worldA
      (.deleteModel requestA.modelId)).1 = .ok (.bool true) ∧
    ((ModelService.new.call worldEmpty (.registerModel requestA)).2.call worldA
      (.deleteModel requestA.modelId)).2.registeredModels = ModelService.new.registeredModels :=
  ⟨by rfl, registerModel_deleteModel (by rfl)⟩

/-- Registering `a` twice. -/
theorem registerModel_twice_requestA :
    (ModelService.new.registerModel worldEmpty requestA).1 =
      .ok (ModelService.registeredModel requestA worldEmpty.now) ∧
    requestA.modelId = requestA.modelId ∧
    (ModelService.new.registerModel worldEmpty requestA).2.registerModel worldA requestA =
      (.error (.valueError ("Model with ID '" ++ requestA.modelId ++ "' already exists")),
        (ModelService.new.registerModel worldEmpty requestA).2) :=
  ⟨by rfl, rfl, registerModel_twice (by rfl) rfl⟩

/-- Renaming `a` and then tagging it is one update with both fields. -/
theorem updateModel_updateModel_renameThenTag :
    registeredA.initialized = true ∧
    (registeredA.updateModel worldA "a" { modelName := some "B" }).2.updateModel worldEmpty "a"
        { tags := some ["x"] } =
      registeredA.updateModel worldEmpty "a"
        (mergeUpdates { modelName := some "B" } { tags := some ["x"] }) :=
  ⟨by rfl, updateModel_updateModel (by rfl) _ _ _ _ _⟩

end EvalHub.Proofs
