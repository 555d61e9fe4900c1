import EvalHub.Proofs.Step

/-!
# `EvalHub.Proofs.Lifecycle`: `_initialized` and `_runtime_models` over a run

`_initialized` and `_runtime_models` form a small state machine, and this module gives
all of its transitions.

* Every public method but `reload_runtime_models` starts with `_initialize`. On a service
  not yet initialized this scans the environment. A completed scan becomes
  `_runtime_models` and sets `_initialized`. A scan that raises leaves the service as it
  was, and the method raises too (`call_of_not_initialized`).
* On an initialized service, no call clears `_initialized`, and no call but
  `reload_runtime_models` writes `_runtime_models` (`call_of_initialized`).
* `reload_runtime_models` clears `_runtime_models` and then scans. It neither calls
  `_initialize` nor sets `_initialized` (`call_reload_state`). So a reload made before any
  other call does not stop the next call from scanning again
  (`runtimeModels_rescan_after_first_reload`), and a reload whose scan raises leaves
  `_runtime_models` empty (`reloadRuntimeModels_empties_on_failed_scan`).

`runtimeModels_lifecycle` collects these transitions and adds what they give over a run.
Since each transition keeps the map, empties it, or puts one completed scan in its place,
the map is never a mixture: in every reachable state it is `{}` or, whole, the scan of
the environment of one call (`runtimeModels_single_scan`).
Without a reload that raises, the map is more than one scan: once the service is
initialized it is the map of the most recent completed scan (`LastCompletedScan`,
`runtimeModels_lastCompletedScan`), where a call completes a scan when it is a reload, or
meets a service not yet initialized, and its scan does not raise.
`RegisteredAfterInit` is the invariant the later modules need from the lifecycle: a
service that has not initialized has registered nothing, because `register_model`
initializes first.
-/

set_option autoImplicit false

namespace EvalHub.Proofs

open EvalHub.Python EvalHub.Models EvalHub.Services

/-- A service that has not initialized has registered nothing. -/
def RegisteredAfterInit (s : ModelService) : Prop :=
  s.initialized = false → s.registeredModels.keys = []

theorem registeredAfterInit_new : RegisteredAfterInit ModelService.new := fun _ => rfl

/-- A service with a registered ID is initialized. -/
theorem initialized_of_registered {s : ModelService} (h : RegisteredAfterInit s) {i : String}
    (hi : i ∈ s.registeredModels.keys) : s.initialized = true := by
  cases hs : s.initialized
  · rw [h hs] at hi; cases hi
  · rfl

variable [PyCase] [ModelSchema]

/-! ### One call -/

section Call

variable (s : ModelService) (w : World)

/-- `reload_runtime_models` leaves the scan in `_runtime_models`, or `{}` when the scan
raises, and changes nothing else. -/
theorem call_reload_state :
    (s.call w .reloadRuntimeModels).2 = { s with runtimeModels := match loadRuntimeModels w with
      | .ok rt => rt
      | .error _ => .empty } := by
  rw [call_reload]
  cases loadRuntimeModels w <;> rfl

/-- On an initialized service, every call keeps `_initialized`, and every call but
`reload_runtime_models` keeps `_runtime_models`. -/
theorem call_of_initialized (h : s.initialized = true) (op : Op) :
    (s.call w op).2.initialized = true ∧
      (op ≠ .reloadRuntimeModels → (s.call w op).2.runtimeModels = s.runtimeModels) := by
  by_cases hop : op = .reloadRuntimeModels
  · subst hop
    rw [call_reload_state]
    exact ⟨h, fun h' => absurd rfl h'⟩
  · rw [call_eq_initializeOnce s w op hop, initializeOnce_of_initialized h]
    exact ⟨h, fun _ => rfl⟩

/-- On a service not yet initialized, a call other than `reload_runtime_models` scans. A
completed scan becomes `_runtime_models` and initializes the service; a scan that raises
leaves the service as it was, and the call raises. -/
theorem call_of_not_initialized (h : s.initialized = false) (op : Op)
    (hop : op ≠ .reloadRuntimeModels) :
    match loadRuntimeModels w with
    | .ok rt => (s.call w op).2.initialized = true ∧ (s.call w op).2.runtimeModels = rt
    | .error e => s.call w op = (.error e, s) := by
  split
  · rename_i rt hl
    rw [call_eq_initializeOnce s w op hop, (initializeOnce_of_load_ok h hl).2]
    exact ⟨rfl, rfl⟩
  · rename_i e hl
    rw [call_of_initializeOnce_error s w (by rw [initializeOnce_of_error h hl]) op hop,
      initializeOnce_of_error h hl]

end Call

/-! ### Runs -/

/-- Every call keeps `RegisteredAfterInit`: a call that leaves the service uninitialized
is a reload, which writes no registration, or a call whose scan raised, which changed
nothing. -/
theorem registeredAfterInit_call {s : ModelService} (h : RegisteredAfterInit s) (w : World)
    (op : Op) : RegisteredAfterInit (s.call w op).2 := by
  intro hu
  by_cases hop : op = .reloadRuntimeModels
  · subst hop
    rw [call_reload_state] at hu ⊢
    exact h hu
  cases hi : s.initialized
  · have := call_of_not_initialized s w hi op hop
    split at this
    · exact absurd this.1 (by rw [hu]; decide)
    · rw [this]; exact h hi
  · exact absurd (call_of_initialized s w hi op).1 (by rw [hu]; decide)

theorem registeredAfterInit_of_reachable {s : ModelService} (hs : Reachable s) :
    RegisteredAfterInit s :=
  reachable_invariant registeredAfterInit_new (fun _ w op h => registeredAfterInit_call h w op) hs

/-- Every call leaves `_runtime_models` as it was, empty, or the completed scan of the
call's own environment. -/
theorem runtimeModels_call_cases (s : ModelService) (w : World) (op : Op) :
    (s.call w op).2.runtimeModels = s.runtimeModels ∨ (s.call w op).2.runtimeModels = .empty ∨
      loadRuntimeModels w = .ok (s.call w op).2.runtimeModels := by
  by_cases hop : op = .reloadRuntimeModels
  · subst hop
    rw [call_reload_state]
    cases hl : loadRuntimeModels w
    · exact .inr (.inl rfl)
    · exact .inr (.inr rfl)
  cases hi : s.initialized
  · have hc := call_of_not_initialized s w hi op hop
    split at hc
    · exact .inr (.inr (by rw [hc.2]; assumption))
    · rw [hc]
      exact .inl rfl
  · exact .inl ((call_of_initialized s w hi op).2 hop)

/-- Over a run, `_runtime_models` stays as it was, or ends empty, or ends as the completed
scan of the environment of one call of the run. -/
theorem runtimeModels_run_cases :
    ∀ (ops : List (World × Op)) (s : ModelService),
      (s.run ops).runtimeModels = s.runtimeModels ∨ (s.run ops).runtimeModels = .empty ∨
        ∃ p ∈ ops, loadRuntimeModels p.1 = .ok (s.run ops).runtimeModels
  | [], _ => .inl rfl
  | (w, op) :: ops, s => by
    rw [ModelService.run]
    rcases runtimeModels_run_cases ops (s.call w op).2 with h | h | ⟨p, hp, h⟩
    · rw [h]
      rcases runtimeModels_call_cases s w op with h' | h' | h'
      · exact .inl h'
      · exact .inr (.inl h')
      · exact .inr (.inr ⟨(w, op), List.mem_cons_self _ _, h'⟩)
    · exact .inr (.inl h)
    · exact .inr (.inr ⟨p, List.mem_cons_of_mem _ hp, h⟩)

/-- `_runtime_models` is never a mixture of scans. In every reachable state it is `{}`,
or it is, whole, the completed scan of the environment of one call of the run. -/
theorem runtimeModels_single_scan (ops : List (World × Op)) :
    (ModelService.new.run ops).runtimeModels = .empty ∨
      ∃ p ∈ ops, loadRuntimeModels p.1 = .ok (ModelService.new.run ops).runtimeModels :=
  (runtimeModels_run_cases ops ModelService.new).elim .inl id

/-! ### The most recent completed scan -/

/-- The call `op`, made in the world `w` after the calls `pre` of a run from a fresh
service, scanned the environment and the scan completed. A reload always scans; any other
call scans when it meets a service not yet initialized. -/
def CompletedScan (pre : List (World × Op)) (w : World) (op : Op) : Prop :=
  (op = .reloadRuntimeModels ∨ (ModelService.new.run pre).initialized = false) ∧
    (loadRuntimeModels w).isOk

/-- `rt` is the map of the most recent completed scan of the run `ops`: a call of the run
completed a scan with the map `rt`, and no later call completed one. -/
def LastCompletedScan (ops : List (World × Op)) (rt : PyDict String Model) : Prop :=
  ∃ pre w op post, ops = pre ++ (w, op) :: post ∧ CompletedScan pre w op ∧
    loadRuntimeModels w = .ok rt ∧
    ∀ pre' w' op' post', post = pre' ++ (w', op') :: post' →
      ¬ CompletedScan (pre ++ (w, op) :: pre') w' op'

omit [PyCase] [ModelSchema] in
/-- The last element of `l ++ [x]`, cut as `pre ++ y :: post`, is `y` or lies in `post`. -/
theorem append_singleton_eq_append_cons {α : Type} {l pre post : List α} {x y : α}
    (h : l ++ [x] = pre ++ y :: post) :
    (pre = l ∧ y = x ∧ post = []) ∨ ∃ post', post = post' ++ [x] ∧ l = pre ++ y :: post' := by
  rcases List.eq_nil_or_concat post with rfl | ⟨post', z, rfl⟩
  · obtain ⟨h₁, h₂⟩ := List.append_inj' h rfl
    exact .inl ⟨h₁.symm, (List.singleton_inj.mp h₂).symm, rfl⟩
  · rw [List.concat_eq_append, ← List.cons_append, ← List.append_assoc] at h
    obtain ⟨h₁, h₂⟩ := List.append_inj' h rfl
    exact .inr ⟨post', by rw [List.singleton_inj.mp h₂, List.concat_eq_append], h₁⟩

/-- A call that scans, and whose scan completes, leaves that scan in `_runtime_models`. -/
theorem runtimeModels_call_of_scan {s : ModelService} {w : World} {op : Op}
    {rt : PyDict String Model} (hscan : op = .reloadRuntimeModels ∨ s.initialized = false)
    (hl : loadRuntimeModels w = .ok rt) : (s.call w op).2.runtimeModels = rt := by
  by_cases hop : op = .reloadRuntimeModels
  · rw [hop, call_reload_state, hl]
  · have hc := call_of_not_initialized s w (hscan.resolve_left hop) op hop
    rw [hl] at hc
    exact hc.2

/-- A call that completes no scan and leaves the service initialized found it initialized
and left `_runtime_models` alone, unless it is a reload whose scan raised. -/
theorem call_of_not_scan {s : ModelService} {w : World} {op : Op}
    (hscan : ¬ ((op = .reloadRuntimeModels ∨ s.initialized = false) ∧ (loadRuntimeModels w).isOk))
    (hreload : op = .reloadRuntimeModels → (loadRuntimeModels w).isOk)
    (hinit : (s.call w op).2.initialized = true) :
    s.initialized = true ∧ (s.call w op).2.runtimeModels = s.runtimeModels := by
  have hop : op ≠ .reloadRuntimeModels := fun hop => hscan ⟨.inl hop, hreload hop⟩
  cases hi : s.initialized
  · have hc := call_of_not_initialized s w hi op hop
    split at hc
    · rename_i hl
      exact absurd ⟨.inr hi, by rw [hl]; rfl⟩ hscan
    · rw [hc, hi] at hinit
      cases hinit
  · exact ⟨rfl, (call_of_initialized s w hi op).2 hop⟩

/-- On a run from a fresh service in which no reload raises, once the service is
initialized `_runtime_models` is the map of the most recent completed scan. -/
theorem runtimeModels_lastCompletedScan (ops : List (World × Op))
    (hreload : ∀ p ∈ ops, p.2 = .reloadRuntimeModels → (loadRuntimeModels p.1).isOk)
    (hinit : (ModelService.new.run ops).initialized = true) :
    LastCompletedScan ops (ModelService.new.run ops).runtimeModels := by
  induction ops using List.reverseRecOn with
  | nil => cases hinit
  | append_singleton ops p ih =>
    obtain ⟨w, op⟩ := p
    have hlast := hreload (w, op) (List.mem_append_right _ (List.mem_singleton_self _))
    rw [run_snoc] at hinit ⊢
    by_cases hc : CompletedScan ops w op
    · obtain ⟨rt, hl⟩ : ∃ rt, loadRuntimeModels w = .ok rt := by
        cases hl : loadRuntimeModels w with
        | ok rt => exact ⟨rt, rfl⟩
        | error e => exact absurd hc.2 (by rw [hl]; nofun)
      refine ⟨ops, w, op, [], rfl, hc, by rw [runtimeModels_call_of_scan hc.1 hl, hl],
        fun pre' w' op' post' h => absurd h.symm (by simp)⟩
    · obtain ⟨hprev, hrt⟩ := call_of_not_scan hc hlast hinit
      obtain ⟨pre, w₀, op₀, post, rfl, hc₀, hl₀, hlater⟩ :=
        ih (fun p hp => hreload p (List.mem_append_left _ hp)) hprev
      rw [hrt]
      refine ⟨pre, w₀, op₀, post ++ [(w, op)], by simp, hc₀, hl₀, fun pre' w' op' post' h => ?_⟩
      rcases append_singleton_eq_append_cons h with ⟨rfl, hwop, rfl⟩ | ⟨post'', rfl, hpost⟩
      · cases hwop
        exact hc
      · exact hlater pre' w' op' post'' hpost

end EvalHub.Proofs

/-! ### Concrete runs -/

namespace EvalHub.Sample

open EvalHub.Python EvalHub.Models EvalHub.Services

/-- The environment `EVAL_HUB_MODEL_A_URL=http://a`, which names the runtime model `a`. -/
def worldA : World :=
  ⟨⟨⟨[("EVAL_HUB_MODEL_A_URL", "http://a")], by decide⟩, by decide⟩, fun _ => 0⟩

/-- The environment `EVAL_HUB_MODEL_B_URL=http://b`, which names the runtime model `b`. -/
def worldB : World :=
  ⟨⟨⟨[("EVAL_HUB_MODEL_B_URL", "http://b")], by decide⟩, by decide⟩, fun _ => 0⟩

/-- The environment `EVAL_HUB_MODEL_A_URL=ftp://a`: the validators of `httpSchema` reject
the entry it names. -/
def worldFtp : World :=
  ⟨⟨⟨[("EVAL_HUB_MODEL_A_URL", "ftp://a")], by decide⟩, by decide⟩, fun _ => 0⟩

/-- An empty environment. -/
def worldEmpty : World := ⟨⟨⟨[], List.nodup_nil⟩, fun _ h => nomatch h⟩, fun _ => 0⟩

/-- A registration of the model `a` at `http://a`, which the validators of `httpSchema`
accept. -/
def requestA : ModelRegistrationRequest :=
  { modelId := "a", modelName := "A", description := none, modelType := .openaiCompatible,
    baseUrl := "http://a", apiKeyRequired := false, modelPath := none, capabilities := none,
    config := none, status := .active, tags := [] }

/-- The service after registering `requestA` in the empty environment. -/
def registeredA : ModelService := ModelService.new.run [(worldEmpty, .registerModel requestA)]

end EvalHub.Sample

namespace EvalHub.Proofs

open EvalHub.Python EvalHub.Models EvalHub.Services EvalHub.Sample

/-- A reload made before any other call does not initialize the service, so the next
call scans again. A reload in an environment that names `a` leaves `_runtime_models`
holding `a` and `_initialized` false. A listing in an environment that names `b` then
rescans, and `_runtime_models` holds `b` instead of the scan of the most recent reload. -/
theorem runtimeModels_rescan_after_first_reload :
    (ModelService.new.run [(worldA, .reloadRuntimeModels)]).runtimeModels.keys = ["a"] ∧
      (ModelService.new.run [(worldA, .reloadRuntimeModels)]).initialized = false ∧
      (ModelService.new.run [(worldA, .reloadRuntimeModels), (worldB, .getAllModels true)]
        ).runtimeModels.keys = ["b"] :=
  ⟨by rfl, rfl, by rfl⟩

/-- A reload whose scan raises leaves `_runtime_models` empty. A service that listed its
models in an environment naming `a` holds `a` at runtime; a reload in an environment
whose entry for `a` the validators reject raises, and afterwards `_runtime_models` is
`{}`, while `_registered_models` is unchanged. -/
theorem reloadRuntimeModels_empties_on_failed_scan :
    (ModelService.new.run [(worldA, .getAllModels true)]).runtimeModels.keys = ["a"] ∧
      ((ModelService.new.run [(worldA, .getAllModels true)]).call worldFtp
        .reloadRuntimeModels).1 = .error .validationError ∧
      ((ModelService.new.run [(worldA, .getAllModels true)]).call worldFtp
        .reloadRuntimeModels).2.runtimeModels.keys = [] ∧
      ((ModelService.new.run [(worldA, .getAllModels true)]).call worldFtp
        .reloadRuntimeModels).2.registeredModels =
        (ModelService.new.run [(worldA, .getAllModels true)]).registeredModels :=
  ⟨by rfl, by rfl, by rfl, by rfl⟩

end EvalHub.Proofs
