import EvalHub.Proofs.Lifecycle

/-!
# `EvalHub.Proofs.Isolation`: clients on different model IDs do not interfere

`ModelService` holds no lock, and the service serves several clients. Their calls reach
it interleaved, one whole call after another. This module shows that on an initialized
service the interleaving is invisible to a client whose calls all name model IDs that no
other client names.

Four public methods name one model ID (`modelKey`): `register_model` names the request's
`model_id`, and `update_model`, `delete_model` and `get_model_by_id` name their argument.
Two facts about one call give the result.

* Confinement (`get?_call_of_ne`): a call writes `_registered_models` at most under the ID
  it names. The listings and `search_models` name none and write nothing.
* Locality (`call_congr_of_get?_eq`): on an initialized service, a call that names `k`
  reads only the entry under `k` and `_runtime_models`. Two initialized services that
  agree on those give the same result and leave the same entry under `k`.

A schedule is a list of calls, each tagged with the client (`true` or `false`) that made
it, in the order the service ran them. `clientHistory` is what one client saw: its calls
and their results, in its own order. `calls_on_disjoint_ids_isolated` is the theorem.
Suppose no call of the schedule is a reload, every call of client `c` names an ID, and no
call of the other client names one of those IDs. Then `c` sees exactly the history of its
own calls run alone, and leaves every ID it named with the entry it would leave alone. The
other client may list and search meanwhile.

The service must be initialized. The first call of a fresh service scans the environment
of that call, so on a fresh service the client that calls first decides `_runtime_models`
for both. A reload changes `_runtime_models` for both clients, and it is excluded.

Confinement also says what a reload that scans a registered ID leaves behind. The ID is
then in both maps. Registering it raises because it is registered, and updating or
deleting it raises because it is a runtime ID. So until the next reload no call changes
its registered entry, which `get_model_by_id` still returns
(`shadowed_registration_frozen`).
-/

set_option autoImplicit false

namespace EvalHub.Proofs

open EvalHub.Python EvalHub.Models EvalHub.Services

/-- The model ID a call names: the request's `model_id` for `register_model`, the argument
of `update_model`, `delete_model` and `get_model_by_id`, and none for the others. -/
def modelKey : Op → Option String
  | .registerModel r => some r.modelId
  | .updateModel i _ => some i
  | .deleteModel i => some i
  | .getModelById i => some i
  | _ => none

/-- The calls client `c` made in a schedule, in its own order. -/
def clientCalls (c : Bool) (sched : List (Bool × World × Op)) : List (World × Op) :=
  sched.filterMap fun p => if p.1 = c then some p.2 else none

@[simp] theorem clientCalls_nil (c : Bool) : clientCalls c [] = [] := rfl

@[simp] theorem clientCalls_cons (c c' : Bool) (p : World × Op)
    (sched : List (Bool × World × Op)) :
    clientCalls c ((c', p) :: sched) =
      if c' = c then p :: clientCalls c sched else clientCalls c sched := by
  unfold clientCalls
  by_cases h : c' = c <;> simp [h]

variable [PyCase] [ModelSchema]

/-! ### One call -/

/-- Confinement: a call writes `_registered_models` at most under the ID it names. -/
theorem get?_call_of_ne (s : ModelService) (w : World) (op : Op) {k : String}
    (hk : modelKey op ≠ some k) :
    (s.call w op).2.registeredModels.get? k = s.registeredModels.get? k := by
  rw [registeredModels_call]
  generalize (s.call w op).1 = res
  unfold registryWrite
  split <;> simp_all [modelKey, eq_comm]

/-- Locality: on an initialized service, a call that names `k` reads only the entry under
`k` and `_runtime_models`. -/
theorem call_congr_of_get?_eq {s t : ModelService} (hs : s.initialized = true)
    (ht : t.initialized = true) (hrt : s.runtimeModels = t.runtimeModels) (w : World)
    {op : Op} {k : String} (hk : modelKey op = some k)
    (he : s.registeredModels.get? k = t.registeredModels.get? k) :
    (s.call w op).1 = (t.call w op).1 ∧
      (s.call w op).2.registeredModels.get? k = (t.call w op).2.registeredModels.get? k := by
  have hmem : (k ∈ s.registeredModels.keys) = (k ∈ t.registeredModels.keys) := by
    simp only [PyDict.mem_keys_iff_get?, he]
  cases op <;> simp only [modelKey, reduceCtorEq, Option.some.injEq] at hk <;> subst hk <;>
    simp only [ModelService.call, ModelService.registerModel, ModelService.updateModel,
      ModelService.deleteModel, ModelService.getModelById, initThen_of_initialized w hs,
      initThen_of_initialized w ht, PyDict.contains_eq, hmem, hrt, he]
  case registerModel r =>
    split_ifs
    · exact ⟨rfl, he⟩
    · exact ⟨rfl, he⟩
    · cases Model.new (ModelService.registeredModel r w.now) <;> simp [he]
  case updateModel i r =>
    split_ifs
    · exact ⟨rfl, he⟩
    · cases t.registeredModels.get? i <;> simp [he]
  case deleteModel i =>
    split_ifs <;> simp [he]
  case getModelById i =>
    cases t.registeredModels.get? i <;> exact ⟨rfl, he⟩

/-! ### Schedules -/

/-- What client `c` saw when the service ran a schedule: its calls and their results, in
its own order. -/
def clientHistory (c : Bool) :
    ModelService → List (Bool × World × Op) → List (World × Op × Except PyException Response)
  | _, [] => []
  | s, (c', w, op) :: sched =>
    if c' = c then (w, op, (s.call w op).1) :: clientHistory c (s.call w op).2 sched
    else clientHistory c (s.call w op).2 sched

section Agree

variable (c : Bool) (K : String → Prop)

/-- One call of the schedule keeps the two services in step on the IDs of `K`. The service
`t` runs the schedule and `u` runs the calls of `c` alone. A call of `c` names an ID of
`K`, and both services make it; a call of the other client names none, and only `t`
makes it. -/
theorem agree_call {t u : ModelService} (ht : t.initialized = true)
    (hu : u.initialized = true) (hrt : t.runtimeModels = u.runtimeModels)
    (hK : ∀ k, K k → t.registeredModels.get? k = u.registeredModels.get? k) (w : World)
    {op : Op} {k₀ : String} (hk₀ : K k₀) (hkey : modelKey op = some k₀) :
    (t.call w op).1 = (u.call w op).1 ∧ ∀ k, K k →
      (t.call w op).2.registeredModels.get? k = (u.call w op).2.registeredModels.get? k := by
  obtain ⟨hres, hentry⟩ := call_congr_of_get?_eq ht hu hrt w hkey (hK k₀ hk₀)
  refine ⟨hres, fun k hk => ?_⟩
  by_cases hkk : k = k₀
  · exact hkk ▸ hentry
  · have hne : modelKey op ≠ some k := by
      rw [hkey]
      exact mt Option.some.inj (Ne.symm hkk)
    rw [get?_call_of_ne t w op hne, get?_call_of_ne u w op hne]
    exact hK k hk

/-- The induction of the isolation theorem: the service `t` runs the schedule, `u` runs
the calls of client `c` alone, and they agree on the IDs of `K` and on
`_runtime_models`. -/
theorem clientHistory_eq_of_agree (sched : List (Bool × World × Op)) :
    ∀ {t u : ModelService},
      t.initialized = true → u.initialized = true → t.runtimeModels = u.runtimeModels →
      (∀ k, K k → t.registeredModels.get? k = u.registeredModels.get? k) →
      (∀ p ∈ sched, p.2.2 ≠ .reloadRuntimeModels) →
      (∀ p ∈ sched, p.1 = c → ∃ k, K k ∧ modelKey p.2.2 = some k) →
      (∀ p ∈ sched, p.1 ≠ c → ∀ k, K k → modelKey p.2.2 ≠ some k) →
        clientHistory c t sched = u.history (clientCalls c sched) ∧
        ∀ k, K k → (t.run (sched.map Prod.snd)).registeredModels.get? k =
          (u.run (clientCalls c sched)).registeredModels.get? k := by
  induction sched with
  | nil => exact fun _ _ _ hK _ _ _ => ⟨rfl, hK⟩
  | cons p sched ih =>
    obtain ⟨c', w, op⟩ := p
    intro t u ht hu hrt hK hnr hown hother
    obtain ⟨hop, hnr⟩ := List.forall_mem_cons.mp hnr
    obtain ⟨hown₀, hown⟩ := List.forall_mem_cons.mp hown
    obtain ⟨hother₀, hother⟩ := List.forall_mem_cons.mp hother
    obtain ⟨ht', hrt'⟩ := call_of_initialized t w ht op
    by_cases hc : c' = c
    · subst hc
      obtain ⟨k₀, hk₀, hkey⟩ := hown₀ rfl
      obtain ⟨hu', hru'⟩ := call_of_initialized u w hu op
      obtain ⟨hres, hK'⟩ := agree_call K ht hu hrt hK w hk₀ hkey
      obtain ⟨ihh, ihK⟩ := ih ht' hu' (by rw [hrt' hop, hru' hop, hrt]) hK' hnr hown hother
      rw [clientHistory, if_pos rfl, clientCalls_cons, if_pos rfl, ModelService.history, hres,
        ihh]
      exact ⟨rfl, ihK⟩
    · have hK' : ∀ k, K k → (t.call w op).2.registeredModels.get? k = u.registeredModels.get? k :=
        fun k hk => (get?_call_of_ne t w op (hother₀ hc k hk)).trans (hK k hk)
      obtain ⟨ihh, ihK⟩ := ih ht' hu (by rw [hrt' hop, hrt]) hK' hnr hown hother
      rw [clientHistory, if_neg hc, clientCalls_cons, if_neg hc]
      exact ⟨ihh, ihK⟩

end Agree

/-- Clients on disjoint model IDs are isolated. Take an initialized service and a
schedule with no reload, in which every call of client `c` names a model ID and no call of
the other client names one of those IDs. Then `c` sees the calls it made with the results
they would have had run alone, in its own order, and every ID it named ends with the entry
it would have alone. -/
theorem calls_on_disjoint_ids_isolated {s : ModelService} (hs : s.initialized = true)
    (sched : List (Bool × World × Op)) (c : Bool)
    (hnr : ∀ p ∈ sched, p.2.2 ≠ .reloadRuntimeModels)
    (hkeyed : ∀ p ∈ sched, p.1 = c → modelKey p.2.2 ≠ none)
    (hdisj : ∀ p ∈ sched, ∀ q ∈ sched, p.1 ≠ q.1 → modelKey p.2.2 ≠ modelKey q.2.2) :
    clientHistory c s sched = s.history (clientCalls c sched) ∧
      ∀ p ∈ sched, p.1 = c → ∀ k, modelKey p.2.2 = some k →
        (s.run (sched.map Prod.snd)).registeredModels.get? k =
          (s.run (clientCalls c sched)).registeredModels.get? k := by
  obtain ⟨hhist, hK⟩ := clientHistory_eq_of_agree c
    (fun k => ∃ q ∈ sched, q.1 = c ∧ modelKey q.2.2 = some k) sched hs hs rfl
    (fun _ _ => rfl) hnr
    (fun p hp hc => (Option.ne_none_iff_exists'.mp (hkeyed p hp hc)).imp
      fun k hk => ⟨⟨p, hp, hc, hk⟩, hk⟩)
    (fun p hp hc k ⟨q, hq, hqc, hqk⟩ => hqk ▸ hdisj p hp q hq (hqc ▸ hc))
  exact ⟨hhist, fun p hp hc k hk => hK k ⟨p, hp, hc, hk⟩⟩

/-! ### Shadowed registrations -/

/-- A call leaves the entry of an ID that is both registered and a runtime ID alone, on an
initialized service. A registration of it raises because it is registered, an update or
a delete raises because it is a runtime ID, a read writes nothing, and a call on another
ID writes elsewhere. -/
theorem get?_call_of_shadowed {t : ModelService} (ht : t.initialized = true) {i : String}
    (hreg : i ∈ t.registeredModels.keys) (hrt : i ∈ t.runtimeModels.keys) (w : World)
    (op : Op) : (t.call w op).2.registeredModels.get? i = t.registeredModels.get? i := by
  by_cases hk : modelKey op = some i
  · cases op <;> simp only [modelKey, reduceCtorEq, Option.some.injEq] at hk <;> subst hk
    · simp only [ModelService.call, registerModel_of_registered w ht hreg]
    · simp only [ModelService.call, updateModel_of_runtime w ht hrt]
    · simp only [ModelService.call, deleteModel_of_runtime w ht hrt]
    · simp only [ModelService.call, ModelService.getModelById, initThen_of_initialized w ht]
      split <;> rfl
  · exact get?_call_of_ne t w op hk

theorem shadowed_run {s : ModelService} {i : String} (hreg : i ∈ s.registeredModels.keys) :
    ∀ (ops : List (World × Op)) {t : ModelService}, t.initialized = true →
      t.runtimeModels = s.runtimeModels → t.registeredModels.get? i = s.registeredModels.get? i →
      i ∈ s.runtimeModels.keys → (∀ p ∈ ops, p.2 ≠ .reloadRuntimeModels) →
        (t.run ops).initialized = true ∧ (t.run ops).runtimeModels = s.runtimeModels ∧
          (t.run ops).registeredModels.get? i = s.registeredModels.get? i
  | [], _, ht, hrt, he, _, _ => ⟨ht, hrt, he⟩
  | (w, op) :: ops, t, ht, hrt, he, hi, hnr => by
    obtain ⟨hop, hnr⟩ := List.forall_mem_cons.mp hnr
    obtain ⟨ht', hrt'⟩ := call_of_initialized t w ht op
    have hreg' : i ∈ t.registeredModels.keys := by
      rw [PyDict.mem_keys_iff_get?, he]
      exact PyDict.mem_keys_iff_get?.mp hreg
    exact shadowed_run hreg ops ht' (by rw [hrt' hop, hrt])
      (by rw [get?_call_of_shadowed ht hreg' (hrt ▸ hi) w op, he]) hi hnr

/-- A registration that a reload has shadowed is frozen until the next reload. Take an
initialized service on which `i` is both a registered and a runtime ID, as a reload that
scans a registered ID leaves it. Every run with no reload keeps `i` in both maps and keeps
its registered entry, which `get_model_by_id(i)` still returns. In every state of it
`update_model(i)` and `delete_model(i)` raise the runtime-model `ValueError`, and
`register_model` of `i` raises the `ValueError` that says `i` already exists. -/
theorem shadowed_registration_frozen {s : ModelService} (hs : s.initialized = true)
    {i : String} (hreg : i ∈ s.registeredModels.keys) (hrt : i ∈ s.runtimeModels.keys)
    (ops : List (World × Op)) (hnr : ∀ p ∈ ops, p.2 ≠ .reloadRuntimeModels) :
    (s.run ops).registeredModels.get? i = s.registeredModels.get? i ∧
    (s.run ops).runtimeModels = s.runtimeModels ∧
    ∀ w r q, ((s.run ops).getModelById w i).1 = .ok (s.registeredModels.get? i) ∧
      ((s.run ops).updateModel w i r).1 =
        .error (.valueError "Cannot update runtime models specified via environment variables") ∧
      ((s.run ops).deleteModel w i).1 =
        .error (.valueError "Cannot delete runtime models specified via environment variables") ∧
      (q.modelId = i → ((s.run ops).registerModel w q).1 =
        .error (.valueError ("Model with ID '" ++ i ++ "' already exists"))) := by
  obtain ⟨ht, hrt', he⟩ := shadowed_run hreg ops hs rfl rfl hrt hnr
  obtain ⟨m, hm⟩ := PyDict.mem_keys_iff_get?.mp hreg
  have hrun : i ∈ (s.run ops).runtimeModels.keys := hrt' ▸ hrt
  have hregrun : i ∈ (s.run ops).registeredModels.keys :=
    PyDict.mem_keys_iff_get?.mpr ⟨m, he.trans hm⟩
  refine ⟨he, hrt', fun w r q => ⟨?_, by rw [updateModel_of_runtime w ht hrun],
    by rw [deleteModel_of_runtime w ht hrun], fun hq => ?_⟩⟩
  · rw [getModelById_eq, initializeOnce_of_initialized ht, he, hm]
    rfl
  · subst hq
    rw [registerModel_of_registered w ht hregrun]

end EvalHub.Proofs

namespace EvalHub.Sample

open EvalHub.Python EvalHub.Models EvalHub.Services

/-- Two clients on `registeredA`: client `true` renames `a` and reads it back, while
client `false` lists the models and deletes `b`. -/
def twoClients : List (Bool × World × Op) :=
  [(true, worldEmpty, .updateModel "a" { modelName := some "B" }),
   (false, worldEmpty, .getAllModels true),
   (false, worldEmpty, .deleteModel "b"),
   (true, worldEmpty, .getModelById "a")]

/-- `a` registered, then shadowed by a reload in an environment that names `a`. -/
def shadowedA : ModelService :=
  ModelService.new.run [(worldEmpty, .registerModel requestA), (worldA, .reloadRuntimeModels)]

/-- Two later calls on `a`: a rename and a second registration. -/
def callsOnA : List (World × Op) :=
  [(worldA, .updateModel "a" { modelName := some "B" }), (worldA, .registerModel requestA)]

end EvalHub.Sample

namespace EvalHub.Proofs

open EvalHub.Python EvalHub.Models EvalHub.Services EvalHub.Sample

/-- `twoClients` on `registeredA` meets the hypotheses of the isolation theorem. -/
theorem calls_isolated_twoClients :
    registeredA.initialized = true ∧
    (∀ p ∈ twoClients, p.2.2 ≠ .reloadRuntimeModels) ∧
    (∀ p ∈ twoClients, p.1 = true → modelKey p.2.2 ≠ none) ∧
    (∀ p ∈ twoClients, ∀ q ∈ twoClients, p.1 ≠ q.1 → modelKey p.2.2 ≠ modelKey q.2.2) ∧
    (clientHistory true registeredA twoClients =
        registeredA.history (clientCalls true twoClients) ∧
      ∀ p ∈ twoClients, p.1 = true → ∀ k, modelKey p.2.2 = some k →
        (registeredA.run (twoClients.map Prod.snd)).registeredModels.get? k =
          (registeredA.run (clientCalls true twoClients)).registeredModels.get? k) :=
  ⟨by rfl, by decide, by decide, by decide,
    calls_on_disjoint_ids_isolated (by rfl) twoClients true (by decide) (by decide) (by decide)⟩

/-- The shadowed registration of `a` survives a rename and a second registration. -/
theorem shadowed_registration_frozen_shadowedA :
    shadowedA.initialized = true ∧ "a" ∈ shadowedA.registeredModels.keys ∧
    "a" ∈ shadowedA.runtimeModels.keys ∧ (∀ p ∈ callsOnA, p.2 ≠ .reloadRuntimeModels) ∧
    ((shadowedA.run callsOnA).registeredModels.get? "a" = shadowedA.registeredModels.get? "a" ∧
      (shadowedA.run callsOnA).runtimeModels = shadowedA.runtimeModels ∧
      ∀ w r q, ((shadowedA.run callsOnA).getModelById w "a").1 =
          .ok (shadowedA.registeredModels.get? "a") ∧
        ((shadowedA.run callsOnA).updateModel w "a" r).1 = .error (.valueError
          "Cannot update runtime models specified via environment variables") ∧
        ((shadowedA.run callsOnA).deleteModel w "a").1 = .error (.valueError
          "Cannot delete runtime models specified via environment variables") ∧
        (q.modelId = "a" → ((shadowedA.run callsOnA).registerModel w q).1 =
          .error (.valueError ("Model with ID '" ++ "a" ++ "' already exists")))) :=
  ⟨by rfl, by decide, by decide, by decide,
    shadowed_registration_frozen (by rfl) (by decide) (by decide) callsOnA (by decide)⟩

end EvalHub.Proofs
