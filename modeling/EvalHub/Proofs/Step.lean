import EvalHub.Services.ModelService

/-!
# `EvalHub.Proofs.Step`: what one call does

Every public method but `reload_runtime_models` runs `_initialize` first and then
touches `_registered_models` only. This module says so once per method, and the later
modules cite these lemmas instead of unfolding a method.

* `_initialize` has three results (`initializeOnce_of_initialized`, `initializeOnce_of_ok`,
  `initializeOnce_of_error`), and none of them touches `_registered_models`. It returns
  the number of clock readings its scan took, and the rest of the method reads the clock
  after them (`initThen_eq`); on an initialized service it takes none.
* `call_eq_initializeOnce`: after a call other than `reload_runtime_models`, the service
  is the one `_initialize` left, with `_registered_models` replaced.
* `registeredModels_call`: that replacement, read off what the call returned. A
  successful registration stores what it returned under the request's ID. An update
  that returned a model stores it under its ID. A delete that returned `True` removes
  the ID. Everything else leaves the map alone.
* `call_registerModel_ok` and `call_updateModel_some` say what a successful write implies
  about the service before it.
* On an initialized service `_initialize` returns at once, and each outcome of a method
  is one equation (`updateModel_of_registered` and its siblings).
* `call_reload`: `reload_runtime_models` replaces `_runtime_models` with the scan, or
  with `{}` when the scan raises, and touches nothing else.
-/

set_option autoImplicit false

namespace EvalHub.Proofs

open EvalHub.Python EvalHub.Models EvalHub.Services

/-! ### The fields `update_model` writes -/

/-- The spec's partial update: each field the request supplies replaces the model's,
and every other field stays (no null-out by omission). -/
def applyUpdate (r : ModelUpdateRequest) (m : Model) : Model :=
  { m with
    modelName := r.modelName.getD m.modelName
    description := r.description.or m.description
    modelType := r.modelType.getD m.modelType
    baseUrl := r.baseUrl.getD m.baseUrl
    apiKeyRequired := r.apiKeyRequired.getD m.apiKeyRequired
    modelPath := r.modelPath.or m.modelPath
    capabilities := r.capabilities.getD m.capabilities
    config := r.config.getD m.config
    status := r.status.getD m.status
    tags := r.tags.getD m.tags }

/-- A guarded assignment to a plain field writes the supplied value or keeps the field. -/
theorem assignIfNotNone_eq {α : Type} (get : Model → α) (set : Model → α → Model)
    (h : ∀ m, set m (get m) = m) (v : Option α) (m : Model) :
    ModelService.assignIfNotNone v set m = set m (v.getD (get m)) := by
  cases v
  · exact (h m).symm
  · rfl

/-- A guarded assignment to an optional field writes the supplied value or keeps the
field. -/
theorem assignIfNotNone_some_eq {α : Type} (get : Model → Option α)
    (set : Model → Option α → Model) (h : ∀ m, set m (get m) = m) (v : Option α) (m : Model) :
    ModelService.assignIfNotNone v (fun m x => set m (some x)) m = set m (v.or (get m)) := by
  cases v
  · exact (h m).symm
  · rfl

/-- The ten assignments of `update_model` are the spec's partial update. -/
theorem assignFields_eq (r : ModelUpdateRequest) (m : Model) :
    ModelService.assignFields r m = applyUpdate r m := by
  simp only [ModelService.assignFields,
    assignIfNotNone_eq Model.modelName (fun m x => { m with modelName := x }) fun _ => rfl,
    assignIfNotNone_some_eq Model.description (fun m x => { m with description := x })
      fun _ => rfl,
    assignIfNotNone_eq Model.modelType (fun m x => { m with modelType := x }) fun _ => rfl,
    assignIfNotNone_eq Model.baseUrl (fun m x => { m with baseUrl := x }) fun _ => rfl,
    assignIfNotNone_eq Model.apiKeyRequired (fun m x => { m with apiKeyRequired := x })
      fun _ => rfl,
    assignIfNotNone_some_eq Model.modelPath (fun m x => { m with modelPath := x }) fun _ => rfl,
    assignIfNotNone_eq Model.capabilities (fun m x => { m with capabilities := x }) fun _ => rfl,
    assignIfNotNone_eq Model.config (fun m x => { m with config := x }) fun _ => rfl,
    assignIfNotNone_eq Model.status (fun m x => { m with status := x }) fun _ => rfl,
    assignIfNotNone_eq Model.tags (fun m x => { m with tags := x }) fun _ => rfl]
  rfl

variable [PyCase] [ModelSchema]

/-! ### `_initialize` -/

section Initialize

variable {s : ModelService} {w : World}

theorem loadRuntimeModels_eq_ok {rt : PyDict String Model} :
    loadRuntimeModels w = .ok rt ↔ ∃ n, runtimeScan w = .ok (rt, n) := by
  unfold loadRuntimeModels
  rcases runtimeScan w with e | ⟨rt', n⟩
  · exact ⟨nofun, fun ⟨_, h⟩ => nomatch h⟩
  · exact ⟨fun h => ⟨n, by cases h; rfl⟩, fun ⟨_, h⟩ => by cases h; rfl⟩

theorem loadRuntimeModels_eq_error {e : PyException} :
    loadRuntimeModels w = .error e ↔ runtimeScan w = .error e := by
  unfold loadRuntimeModels
  rcases runtimeScan w with e' | ⟨rt', n⟩
  · exact ⟨fun h => by cases h; rfl, fun h => by cases h; rfl⟩
  · exact ⟨nofun, nofun⟩

theorem initializeOnce_of_initialized (h : s.initialized = true) :
    s.initializeOnce w = (.ok 0, s) := by
  simp [ModelService.initializeOnce, h]

theorem initializeOnce_of_ok {rt : PyDict String Model} {n : Nat} (h : s.initialized = false)
    (hl : runtimeScan w = .ok (rt, n)) :
    s.initializeOnce w = (.ok n, { s with runtimeModels := rt, initialized := true }) := by
  simp [ModelService.initializeOnce, h, hl]

theorem initializeOnce_of_error {e : PyException} (h : s.initialized = false)
    (hl : loadRuntimeModels w = .error e) : s.initializeOnce w = (.error e, s) := by
  simp [ModelService.initializeOnce, h, loadRuntimeModels_eq_error.mp hl]

/-- On a service not yet initialized, a completed scan becomes `_runtime_models` and
initializes the service. -/
theorem initializeOnce_of_load_ok {rt : PyDict String Model} (h : s.initialized = false)
    (hl : loadRuntimeModels w = .ok rt) :
    (∃ n, (s.initializeOnce w).1 = .ok n) ∧
      (s.initializeOnce w).2 = { s with runtimeModels := rt, initialized := true } := by
  obtain ⟨n, hn⟩ := loadRuntimeModels_eq_ok.mp hl
  rw [initializeOnce_of_ok h hn]
  exact ⟨⟨n, rfl⟩, rfl⟩

@[simp] theorem registeredModels_initializeOnce :
    (s.initializeOnce w).2.registeredModels = s.registeredModels := by
  unfold ModelService.initializeOnce
  split
  · rfl
  · split <;> rfl

/-- `_initialize` raises and leaves the service as it was, or returns and leaves it
initialized. -/
theorem initializeOnce_cases :
    (∃ e, s.initializeOnce w = (.error e, s)) ∨
      ((∃ n, (s.initializeOnce w).1 = .ok n) ∧ (s.initializeOnce w).2.initialized = true) := by
  cases hi : s.initialized
  · cases hl : loadRuntimeModels w with
    | ok rt => exact .inr ⟨(initializeOnce_of_load_ok hi hl).1,
        by rw [(initializeOnce_of_load_ok hi hl).2]⟩
    | error e => exact .inl ⟨e, initializeOnce_of_error hi hl⟩
  · rw [initializeOnce_of_initialized hi]
    exact .inr ⟨⟨0, rfl⟩, hi⟩

/-- After `_initialize` returns, the service is initialized. -/
theorem initialized_initializeOnce_of_ok {n : Nat} (h : (s.initializeOnce w).1 = .ok n) :
    (s.initializeOnce w).2.initialized = true := by
  rcases initializeOnce_cases (s := s) (w := w) with ⟨e, he⟩ | ⟨-, hi⟩
  · rw [he] at h; cases h
  · exact hi

end Initialize

/-! ### The methods -/

section Methods

variable (s : ModelService) (w : World)

/-- `initThen` runs the body on the service `_initialize` left, in the world after
`_initialize`'s readings, or raises with that service. -/
theorem initThen_eq {α : Type} (body : ModelService → World → Outcome α) :
    s.initThen w body = match (s.initializeOnce w).1 with
      | .ok n => body (s.initializeOnce w).2 (w.after n)
      | .error e => (.error e, (s.initializeOnce w).2) := by
  unfold ModelService.initThen
  rcases s.initializeOnce w with ⟨_ | _, _⟩ <;> rfl

/-- A method raises with the service unchanged when `_initialize` does. -/
theorem initThen_of_error {α : Type} {e : PyException} (he : s.initializeOnce w = (.error e, s))
    (body : ModelService → World → Outcome α) : s.initThen w body = (.error e, s) := by
  rw [ModelService.initThen, he]

/-- When `_initialize` returns after `n` readings, a method does what it does on the
service `_initialize` left, which is initialized, in the world after those readings. -/
theorem initThen_of_ok {α : Type} {n : Nat} (h : (s.initializeOnce w).1 = .ok n)
    (body : ModelService → World → Outcome α) :
    s.initThen w body = (s.initializeOnce w).2.initThen (w.after n) body := by
  rw [initThen_eq, h, initThen_eq,
    initializeOnce_of_initialized (initialized_initializeOnce_of_ok h)]
  rfl

/-- The five outcomes of `register_model`: `_initialize` raises; the ID is registered
already; the ID is a runtime model; the validators reject the record; or the record is
stored under the ID and returned. The record reads the clock after the `n` readings of
`_initialize`. -/
theorem registerModel_cases (r : ModelRegistrationRequest) :
    (∃ e, (s.initializeOnce w).1 = .error e ∧
      s.registerModel w r = (.error e, (s.initializeOnce w).2)) ∨
    (∃ n, (s.initializeOnce w).1 = .ok n ∧ (
      (r.modelId ∈ s.registeredModels.keys ∧ s.registerModel w r =
        (.error (.valueError ("Model with ID '" ++ r.modelId ++ "' already exists")),
          (s.initializeOnce w).2)) ∨
      (r.modelId ∉ s.registeredModels.keys ∧
        r.modelId ∈ (s.initializeOnce w).2.runtimeModels.keys ∧ s.registerModel w r =
        (.error (.valueError ("Model with ID '" ++ r.modelId ++
          "' is specified as runtime model via environment variable")), (s.initializeOnce w).2)) ∨
      (r.modelId ∉ s.registeredModels.keys ∧
        r.modelId ∉ (s.initializeOnce w).2.runtimeModels.keys ∧
        ModelSchema.validate (ModelService.registeredModel r (w.clock n)) = false ∧
        s.registerModel w r = (.error .validationError, (s.initializeOnce w).2)) ∨
      (r.modelId ∉ s.registeredModels.keys ∧
        r.modelId ∉ (s.initializeOnce w).2.runtimeModels.keys ∧
        ModelSchema.validate (ModelService.registeredModel r (w.clock n)) = true ∧
        s.registerModel w r = (.ok (ModelService.registeredModel r (w.clock n)),
          { (s.initializeOnce w).2 with registeredModels :=
            (s.registeredModels.setItem r.modelId
              (ModelService.registeredModel r (w.clock n))) })))) := by
  unfold ModelService.registerModel
  rw [initThen_eq]
  rcases hi : (s.initializeOnce w).1 with e | n
  · exact .inl ⟨e, rfl, rfl⟩
  refine .inr ⟨n, rfl, ?_⟩
  simp only [registeredModels_initializeOnce, PyDict.contains_eq, World.now_after]
  by_cases h₁ : r.modelId ∈ s.registeredModels.keys
  · exact .inl ⟨h₁, by simp [h₁]⟩
  by_cases h₂ : r.modelId ∈ (s.initializeOnce w).2.runtimeModels.keys
  · exact .inr (.inl ⟨h₁, h₂, by simp [h₁, h₂]⟩)
  cases hv : ModelSchema.validate (ModelService.registeredModel r (w.clock n))
  · exact .inr (.inr (.inl ⟨h₁, h₂, rfl, by simp [h₁, h₂, Model.new, hv]⟩))
  · exact .inr (.inr (.inr ⟨h₁, h₂, rfl, by simp [h₁, h₂, Model.new, hv]⟩))

/-- The four outcomes of `update_model`: `_initialize` raises; the ID is a runtime
model; the ID is not registered; or the registered entry gets the request's fields and
the clock reading after the `n` readings of `_initialize`, in place. -/
theorem updateModel_cases (i : String) (r : ModelUpdateRequest) :
    (∃ e, (s.initializeOnce w).1 = .error e ∧
      s.updateModel w i r = (.error e, (s.initializeOnce w).2)) ∨
    (∃ n, (s.initializeOnce w).1 = .ok n ∧ (
      (i ∈ (s.initializeOnce w).2.runtimeModels.keys ∧ s.updateModel w i r =
        (.error (.valueError "Cannot update runtime models specified via environment variables"),
          (s.initializeOnce w).2)) ∨
      (i ∉ (s.initializeOnce w).2.runtimeModels.keys ∧ s.registeredModels.get? i = none ∧
        s.updateModel w i r = (.ok none, (s.initializeOnce w).2)) ∨
      (i ∉ (s.initializeOnce w).2.runtimeModels.keys ∧ ∃ model,
        s.registeredModels.get? i = some model ∧ s.updateModel w i r =
          (.ok (some { ModelService.assignFields r model with updatedAt := w.clock n }),
            { (s.initializeOnce w).2 with registeredModels := (s.registeredModels.setItem i
              { ModelService.assignFields r model with updatedAt := w.clock n }) })))) := by
  unfold ModelService.updateModel
  rw [initThen_eq]
  rcases hi : (s.initializeOnce w).1 with e | n
  · exact .inl ⟨e, rfl, rfl⟩
  refine .inr ⟨n, rfl, ?_⟩
  simp only [registeredModels_initializeOnce, PyDict.contains_eq, World.now_after]
  by_cases h₁ : i ∈ (s.initializeOnce w).2.runtimeModels.keys
  · exact .inl ⟨h₁, by simp [h₁]⟩
  cases hg : s.registeredModels.get? i with
  | none => exact .inr (.inl ⟨h₁, rfl, by simp [h₁, hg]⟩)
  | some model => exact .inr (.inr ⟨h₁, model, rfl, by simp [h₁, hg]⟩)

/-- The four outcomes of `delete_model`: `_initialize` raises; the ID is a runtime
model; the ID is registered and is removed; or it is not, and nothing happens. -/
theorem deleteModel_cases (i : String) :
    (∃ e, (s.initializeOnce w).1 = .error e ∧
      s.deleteModel w i = (.error e, (s.initializeOnce w).2)) ∨
    (∃ n, (s.initializeOnce w).1 = .ok n ∧ (
      (i ∈ (s.initializeOnce w).2.runtimeModels.keys ∧ s.deleteModel w i =
        (.error (.valueError "Cannot delete runtime models specified via environment variables"),
          (s.initializeOnce w).2)) ∨
      (i ∉ (s.initializeOnce w).2.runtimeModels.keys ∧ i ∈ s.registeredModels.keys ∧
        s.deleteModel w i = (.ok true,
          { (s.initializeOnce w).2 with registeredModels := s.registeredModels.delItem i })) ∨
      (i ∉ (s.initializeOnce w).2.runtimeModels.keys ∧ i ∉ s.registeredModels.keys ∧
        s.deleteModel w i = (.ok false, (s.initializeOnce w).2)))) := by
  unfold ModelService.deleteModel
  rw [initThen_eq]
  rcases hi : (s.initializeOnce w).1 with e | n
  · exact .inl ⟨e, rfl, rfl⟩
  refine .inr ⟨n, rfl, ?_⟩
  simp only [registeredModels_initializeOnce, PyDict.contains_eq]
  by_cases h₁ : i ∈ (s.initializeOnce w).2.runtimeModels.keys
  · exact .inl ⟨h₁, by simp [h₁]⟩
  by_cases h₂ : i ∈ s.registeredModels.keys
  · exact .inr (.inl ⟨h₁, h₂, by simp [h₁, h₂]⟩)
  · exact .inr (.inr ⟨h₁, h₂, by simp [h₁, h₂]⟩)

/-- `get_model_by_id` reads the service `_initialize` left: the registered entry, else
the runtime one. -/
theorem getModelById_eq (i : String) :
    s.getModelById w i = match (s.initializeOnce w).1 with
      | .ok _ => (.ok ((s.registeredModels.get? i).or
          ((s.initializeOnce w).2.runtimeModels.get? i)), (s.initializeOnce w).2)
      | .error e => (.error e, (s.initializeOnce w).2) := by
  unfold ModelService.getModelById
  rw [initThen_eq]
  split
  · simp only [registeredModels_initializeOnce]
    cases s.registeredModels.get? i <;> rfl
  · rfl

/-- `search_models` filters the registered entries, then the runtime ones, of the service
`_initialize` left. -/
theorem searchModels_eq (t : Option ModelType) (st : Option ModelStatus)
    (tags : Option (List String)) :
    s.searchModels w t st tags = match (s.initializeOnce w).1 with
      | .ok _ => (.ok ((s.registeredModels.values ++
          (s.initializeOnce w).2.runtimeModels.values).filter
            (ModelService.searchKeeps t st tags)), (s.initializeOnce w).2)
      | .error e => (.error e, (s.initializeOnce w).2) := by
  unfold ModelService.searchModels
  rw [initThen_eq]
  split <;> simp

/-- `get_all_models` lists the service `_initialize` left. -/
theorem getAllModels_eq (b : Bool) :
    s.getAllModels w b = match (s.initializeOnce w).1 with
      | .ok _ =>
        let registeredSummaries := (s.registeredModels.values.filter fun model =>
          b || model.status == .active).map ModelService.summary
        let runtimeSummaries := (s.initializeOnce w).2.runtimeModels.values.map
          ModelService.summary
        (.ok { models := registeredSummaries ++ runtimeSummaries,
               totalModels := (registeredSummaries ++ runtimeSummaries).length,
               runtimeModels := runtimeSummaries }, (s.initializeOnce w).2)
      | .error e => (.error e, (s.initializeOnce w).2) := by
  unfold ModelService.getAllModels
  rw [initThen_eq]
  split <;> simp

end Methods

/-! ### On an initialized service

Here `_initialize` returns at once and takes no reading, and each method is its body run
on the service itself, in the world of the call. These are the equations the later
modules cite for a call after the first. -/

section Initialized

variable {s : ModelService} (w : World)

theorem initThen_of_initialized {α : Type} (ht : s.initialized = true)
    (body : ModelService → World → Outcome α) : s.initThen w body = body s w := by
  rw [ModelService.initThen, initializeOnce_of_initialized ht]
  rfl

/-- Registering an ID that is registered already raises the `ValueError` that names it
and changes nothing. -/
theorem registerModel_of_registered (ht : s.initialized = true) {r : ModelRegistrationRequest}
    (h : r.modelId ∈ s.registeredModels.keys) :
    s.registerModel w r =
      (.error (.valueError ("Model with ID '" ++ r.modelId ++ "' already exists")), s) := by
  simp [ModelService.registerModel, initThen_of_initialized w ht, h]

theorem updateModel_of_runtime (ht : s.initialized = true) {i : String}
    (h : i ∈ s.runtimeModels.keys) (r : ModelUpdateRequest) :
    s.updateModel w i r = (.error
      (.valueError "Cannot update runtime models specified via environment variables"), s) := by
  simp [ModelService.updateModel, initThen_of_initialized w ht, h]

theorem updateModel_of_not_registered (ht : s.initialized = true) {i : String}
    (hrt : i ∉ s.runtimeModels.keys) (h : s.registeredModels.get? i = none)
    (r : ModelUpdateRequest) : s.updateModel w i r = (.ok none, s) := by
  simp [ModelService.updateModel, initThen_of_initialized w ht, hrt, h]

/-- Updating a registered ID writes the spec's partial update of its entry, stamped with
the call's clock reading, back in place. -/
theorem updateModel_of_registered (ht : s.initialized = true) {i : String}
    (hrt : i ∉ s.runtimeModels.keys) {old : Model} (h : s.registeredModels.get? i = some old)
    (r : ModelUpdateRequest) :
    s.updateModel w i r = (.ok (some { applyUpdate r old with updatedAt := w.now }),
      { s with registeredModels :=
        s.registeredModels.setItem i { applyUpdate r old with updatedAt := w.now } }) := by
  simp [ModelService.updateModel, initThen_of_initialized w ht, hrt, h, assignFields_eq]

theorem deleteModel_of_runtime (ht : s.initialized = true) {i : String}
    (h : i ∈ s.runtimeModels.keys) :
    s.deleteModel w i = (.error
      (.valueError "Cannot delete runtime models specified via environment variables"), s) := by
  simp [ModelService.deleteModel, initThen_of_initialized w ht, h]

theorem deleteModel_of_registered (ht : s.initialized = true) {i : String}
    (hrt : i ∉ s.runtimeModels.keys) (h : i ∈ s.registeredModels.keys) :
    s.deleteModel w i =
      (.ok true, { s with registeredModels := s.registeredModels.delItem i }) := by
  simp [ModelService.deleteModel, initThen_of_initialized w ht, hrt, h]

theorem deleteModel_of_not_registered (ht : s.initialized = true) {i : String}
    (hrt : i ∉ s.runtimeModels.keys) (h : i ∉ s.registeredModels.keys) :
    s.deleteModel w i = (.ok false, s) := by
  simp [ModelService.deleteModel, initThen_of_initialized w ht, hrt, h]

end Initialized

/-! ### One call -/

/-- The write a call made to `_registered_models`, read off what it returned. -/
def registryWrite (reg : PyDict String Model) :
    Op → Except PyException Response → PyDict String Model
  | .registerModel r, .ok (.model m) => reg.setItem r.modelId m
  | .updateModel i _, .ok (.modelOpt (some m)) => reg.setItem i m
  | .deleteModel i, .ok (.bool true) => reg.delItem i
  | _, _ => reg

section Call

variable (s : ModelService) (w : World)

/-- `reload_runtime_models` replaces `_runtime_models` with the scan, or with `{}` when
the scan raises, and touches nothing else. -/
theorem call_reload :
    s.call w .reloadRuntimeModels = match loadRuntimeModels w with
      | .ok rt => (.ok .none, { s with runtimeModels := rt })
      | .error e => (.error e, { s with runtimeModels := .empty }) := by
  simp only [ModelService.call, ModelService.reloadRuntimeModels]
  cases loadRuntimeModels w <;> rfl

/-- After a call other than `reload_runtime_models`, the service is the one `_initialize`
left, with `_registered_models` replaced. -/
theorem call_eq_initializeOnce (op : Op) (h : op ≠ .reloadRuntimeModels) :
    (s.call w op).2 =
      { (s.initializeOnce w).2 with registeredModels := (s.call w op).2.registeredModels } := by
  cases op with
  | registerModel r =>
    rcases registerModel_cases s w r with ⟨e, -, h⟩ | ⟨n, -, ⟨-, h⟩ | ⟨-, -, h⟩ | ⟨-, -, -, h⟩ |
      ⟨-, -, -, h⟩⟩ <;> simp only [ModelService.call, h]
  | updateModel i r =>
    rcases updateModel_cases s w i r with ⟨e, -, h⟩ | ⟨n, -, ⟨-, h⟩ | ⟨-, -, h⟩ | ⟨-, m, -, h⟩⟩ <;>
      simp only [ModelService.call, h]
  | deleteModel i =>
    rcases deleteModel_cases s w i with ⟨e, -, h⟩ | ⟨n, -, ⟨-, h⟩ | ⟨-, -, h⟩ | ⟨-, -, h⟩⟩ <;>
      simp only [ModelService.call, h]
  | getModelById i => simp only [ModelService.call, getModelById_eq]; split <;> rfl
  | getAllModels b => simp only [ModelService.call, getAllModels_eq]; split <;> rfl
  | searchModels t st g => simp only [ModelService.call, searchModels_eq]; split <;> rfl
  | getActiveModels =>
    simp only [ModelService.call, ModelService.getActiveModels, searchModels_eq]; split <;> rfl
  | reloadRuntimeModels => exact absurd rfl h

/-- The mutable registry after any call: the write the call's result names. -/
theorem registeredModels_call (op : Op) :
    (s.call w op).2.registeredModels = registryWrite s.registeredModels op (s.call w op).1 := by
  cases op with
  | registerModel r =>
    rcases registerModel_cases s w r with ⟨e, -, h⟩ | ⟨n, -, ⟨-, h⟩ | ⟨-, -, h⟩ | ⟨-, -, -, h⟩ |
      ⟨-, -, -, h⟩⟩ <;> simp [ModelService.call, h, registryWrite, Except.map]
  | updateModel i r =>
    rcases updateModel_cases s w i r with ⟨e, -, h⟩ | ⟨n, -, ⟨-, h⟩ | ⟨-, -, h⟩ | ⟨-, m, -, h⟩⟩ <;>
      simp [ModelService.call, h, registryWrite, Except.map]
  | deleteModel i =>
    rcases deleteModel_cases s w i with ⟨e, -, h⟩ | ⟨n, -, ⟨-, h⟩ | ⟨-, -, h⟩ | ⟨-, -, h⟩⟩ <;>
      simp [ModelService.call, h, registryWrite, Except.map]
  | getModelById i =>
    simp only [ModelService.call, getModelById_eq]; split <;> simp [registryWrite, Except.map]
  | getAllModels b =>
    simp only [ModelService.call, getAllModels_eq]; split <;> simp [registryWrite, Except.map]
  | searchModels t st g =>
    simp only [ModelService.call, searchModels_eq]; split <;> simp [registryWrite, Except.map]
  | getActiveModels =>
    simp only [ModelService.call, ModelService.getActiveModels, searchModels_eq]
    split <;> simp [registryWrite, Except.map]
  | reloadRuntimeModels => rw [call_reload]; split <;> simp [registryWrite, Except.map]

/-- When `_initialize` raises, every call but `reload_runtime_models` raises the same
exception and leaves the service as `_initialize` left it. -/
theorem call_of_initializeOnce_error {e : PyException} (he : (s.initializeOnce w).1 = .error e)
    (op : Op) (h : op ≠ .reloadRuntimeModels) :
    s.call w op = (.error e, (s.initializeOnce w).2) := by
  cases op <;> first
    | exact absurd rfl h
    | simp only [ModelService.call, ModelService.registerModel, ModelService.updateModel,
        ModelService.deleteModel, ModelService.getModelById, ModelService.getAllModels,
        ModelService.getActiveModels, ModelService.searchModels, initThen_eq, he]; rfl

/-- A registration that returned went past `_initialize`, which took `n` readings, and
both membership tests, and returned the record it built with the next reading. -/
theorem call_registerModel_ok {r : ModelRegistrationRequest} {resp : Response}
    (h : (s.call w (.registerModel r)).1 = .ok resp) :
    ∃ n, (s.initializeOnce w).1 = .ok n ∧
      resp = .model (ModelService.registeredModel r (w.clock n)) ∧
      r.modelId ∉ s.registeredModels.keys ∧
      r.modelId ∉ (s.initializeOnce w).2.runtimeModels.keys := by
  rcases registerModel_cases s w r with ⟨e, -, h'⟩ | ⟨n, hi, ⟨-, h'⟩ | ⟨-, -, h'⟩ |
    ⟨-, -, -, h'⟩ | ⟨h₁, h₂, -, h'⟩⟩ <;> simp [ModelService.call, h', Except.map] at h
  exact ⟨n, hi, h.symm, h₁, h₂⟩

/-- An update that returned a model went past `_initialize`, which took `n` readings, and
the runtime test, found the ID registered, and returned the spec's partial update of the
entry, stamped with the next reading. -/
theorem call_updateModel_some {i : String} {r : ModelUpdateRequest} {m : Model}
    (h : (s.call w (.updateModel i r)).1 = .ok (.modelOpt (some m))) :
    ∃ n, (s.initializeOnce w).1 = .ok n ∧ i ∉ (s.initializeOnce w).2.runtimeModels.keys ∧
      ∃ old, s.registeredModels.get? i = some old ∧
        m = { applyUpdate r old with updatedAt := w.clock n } := by
  rcases updateModel_cases s w i r with ⟨e, -, h'⟩ | ⟨n, hi, ⟨-, h'⟩ | ⟨-, -, h'⟩ |
    ⟨h₁, old, hold, h'⟩⟩ <;> simp [ModelService.call, h', Except.map] at h
  exact ⟨n, hi, h₁, old, hold, by rw [← h, assignFields_eq]⟩

end Call

/-! ### Runs -/

theorem run_append (s : ModelService) (xs ys : List (World × Op)) :
    s.run (xs ++ ys) = (s.run xs).run ys := by
  induction xs generalizing s with
  | nil => rfl
  | cons p xs ih => exact ih _

theorem run_snoc (s : ModelService) (xs : List (World × Op)) (w : World) (op : Op) :
    s.run (xs ++ [(w, op)]) = ((s.run xs).call w op).2 := by
  rw [run_append]
  rfl

/-- A property that every call keeps holds after every run. -/
theorem run_invariant {P : ModelService → Prop}
    (hstep : ∀ s w op, P s → P (s.call w op).2) :
    ∀ (ops : List (World × Op)) {s : ModelService}, P s → P (s.run ops)
  | [], _, h => h
  | (w, op) :: ops, s, h => run_invariant hstep ops (hstep s w op h)

/-- A property of the fresh service that every call keeps holds in every reachable
state. -/
theorem reachable_invariant {P : ModelService → Prop} (h₀ : P ModelService.new)
    (hstep : ∀ s w op, P s → P (s.call w op).2) {s : ModelService} (hs : Reachable s) : P s := by
  obtain ⟨ops, rfl⟩ := hs
  exact run_invariant hstep ops h₀

end EvalHub.Proofs
