import EvalHub.Proofs.Lifecycle

/-!
# `EvalHub.Proofs.Search`: what `search_models` returns

`search_models` joins `list(_registered_models.values())` and
`list(_runtime_models.values())` and drops a model when one of three `continue` tests
fires. Each test starts with the filter itself (`if model_type and ...`), so a filter
that is `None`, or an empty tag list, never fires. An enum member is truthy because its
value is a non-empty tag, so a supplied kind or status always takes part.

`MatchesFilters` is the spec's reading of the three filters, and `searchKeeps_iff` says
the code's tests keep exactly the models it accepts. `searchModels_spec` gives the
whole result. `search_models` reads the two maps after its own `_initialize`: on a
service not yet initialized that is a fresh scan, so the result is not read off the maps
the service held before the call (`searchModels_scans_first`).
-/

set_option autoImplicit false

namespace EvalHub.Proofs

open EvalHub.Python EvalHub.Models EvalHub.Services

/-- The spec's filter: the kind is `None` or the model's kind, the status is `None` or the
model's status, and the tag list is `None` or empty or shares a tag with the model. -/
def MatchesFilters (modelType : Option ModelType) (status : Option ModelStatus)
    (tags : Option (List String)) (m : Model) : Prop :=
  (modelType = none ∨ modelType = some m.modelType) ∧
  (status = none ∨ status = some m.status) ∧
  (tags = none ∨ tags = some [] ∨ ∃ tag ∈ tags.getD [], tag ∈ m.tags)

instance (modelType : Option ModelType) (status : Option ModelStatus)
    (tags : Option (List String)) : DecidablePred (MatchesFilters modelType status tags) :=
  fun _ => inferInstanceAs (Decidable (_ ∧ _ ∧ _))

/-- An optional filter compared with `!=` never fires exactly when it is `None` or equal. -/
theorem any_bne_eq_false_iff {α : Type} [DecidableEq α] (o : Option α) (a : α) :
    o.any (a != ·) = false ↔ o = none ∨ o = some a := by
  cases o with
  | none => simp
  | some b => simpa using eq_comm

/-- The tag test never fires exactly when the tag list is `None`, empty, or shares a tag
with the model. -/
theorem tagTest_eq_false_iff (tags : Option (List String)) (modelTags : List String) :
    tags.any (fun tags => !tags.isEmpty && !tags.any (modelTags.contains ·)) = false ↔
      tags = none ∨ tags = some [] ∨ ∃ tag ∈ tags.getD [], tag ∈ modelTags := by
  rcases tags with _ | _ | ⟨t, ts⟩ <;> simp [imp_iff_not_or]

/-- The three `continue` tests of `search_models` keep exactly the models the spec's
filter accepts. -/
theorem searchKeeps_iff (modelType : Option ModelType) (status : Option ModelStatus)
    (tags : Option (List String)) (m : Model) :
    ModelService.searchKeeps modelType status tags m = true ↔
      MatchesFilters modelType status tags m := by
  rw [MatchesFilters, ← any_bne_eq_false_iff, ← any_bne_eq_false_iff, ← tagTest_eq_false_iff]
  unfold ModelService.searchKeeps
  split_ifs <;> simp_all

/-- `get_active_models` keeps the active models. -/
theorem searchKeeps_active (m : Model) :
    ModelService.searchKeeps none (some .active) none m = (m.status == .active) := by
  unfold ModelService.searchKeeps
  cases h : m.status == ModelStatus.active <;> simp_all

variable [PyCase] [ModelSchema]

/-- `search_models` raises when its `_initialize` raises. Otherwise it returns the models
of `list(_registered_models.values()) + list(_runtime_models.values())`, of the service as
`_initialize` left it and in that order, that the spec's filter accepts. On an
initialized service these are the service's own maps, and the call changes nothing. On a
service not yet initialized the runtime map is a fresh scan of the call's environment:
when it completes, the call filters the registry and that scan and leaves the service
initialized with the scan; when it raises, the call raises with the service unchanged. -/
theorem searchModels_spec (s : ModelService) (w : World) (modelType : Option ModelType)
    (status : Option ModelStatus) (tags : Option (List String)) :
    s.searchModels w modelType status tags = (match (s.initializeOnce w).1 with
      | .ok _ => .ok (((s.initializeOnce w).2.registeredModels.values ++
          (s.initializeOnce w).2.runtimeModels.values).filter
            fun m => decide (MatchesFilters modelType status tags m))
      | .error e => .error e, (s.initializeOnce w).2) ∧
    (s.initialized = true → s.searchModels w modelType status tags =
      (.ok ((s.registeredModels.values ++ s.runtimeModels.values).filter
        fun m => decide (MatchesFilters modelType status tags m)), s)) ∧
    (s.initialized = false → match loadRuntimeModels w with
      | .ok rt => s.searchModels w modelType status tags =
        (.ok ((s.registeredModels.values ++ rt.values).filter
          fun m => decide (MatchesFilters modelType status tags m)),
          { s with runtimeModels := rt, initialized := true })
      | .error e => s.searchModels w modelType status tags = (.error e, s)) := by
  have hkeep : ModelService.searchKeeps modelType status tags =
      fun m => decide (MatchesFilters modelType status tags m) :=
    funext fun m => Bool.eq_iff_iff.mpr ((searchKeeps_iff _ _ _ m).trans decide_eq_true_iff.symm)
  refine ⟨?_, fun h => ?_, fun h => ?_⟩
  · rw [searchModels_eq, registeredModels_initializeOnce, hkeep]
    rcases (s.initializeOnce w).1 with _ | _ <;> rfl
  · rw [searchModels_eq, initializeOnce_of_initialized h, hkeep]
  · rw [searchModels_eq, hkeep]
    split
    · rename_i rt hl
      obtain ⟨⟨n, hn⟩, hs⟩ := initializeOnce_of_load_ok h hl
      rw [hn, hs]
    · rename_i e hl
      rw [initializeOnce_of_error h hl]

end EvalHub.Proofs

namespace EvalHub.Proofs

open EvalHub.Python EvalHub.Models EvalHub.Services EvalHub.Sample

/-- On the fresh service both maps are empty, and yet a search in an environment that
names `a` returns the model `a`: the search scans first. -/
theorem searchModels_scans_first :
    ModelService.new.registeredModels.values ++ ModelService.new.runtimeModels.values = [] ∧
      (ModelService.new.searchModels worldA none none none).1.map (List.map Model.modelId) =
        .ok ["a"] :=
  ⟨rfl, by rfl⟩

end EvalHub.Proofs
