import Mathlib.Data.List.Chain
import Mathlib.Order.Monotone.Basic
import EvalHub.Proofs.Scan
import EvalHub.Proofs.Lifecycle

/-!
# `EvalHub.Proofs.Timestamps`: `created_at` and `updated_at` over a run

Every model the service stores carries two clock readings. `register_model` reads the
clock once, `now = datetime.utcnow()`, and stamps both fields with it. `_load_runtime_models`
calls `datetime.utcnow()` for each field of each entry, `created_at` first, so the `j`-th
entry of a scan carries the readings `2j` and `2j + 1` of its call. `update_model` keeps
`created_at` and stamps `updated_at` with its own reading, which comes after those its
`_initialize` took.

`StampsBy c s` says that every stored model of `s` has `created_at ≤ updated_at`, and an
`updated_at` no later than some reading of the clock `c`. A call whose readings never
decrease, and all of whose readings come after every reading of `c` (`ReadsBefore`),
keeps it with its own clock as the new `c` (`stampsBy_call`). So over a run on a clock
that never goes back, every stored model was created no later than it was last updated,
and no timestamp lies after a bound of the run's readings (`timestamps_ordered`).

`datetime.utcnow()` is wall-clock time, and wall-clock time can go back. The proviso
cannot go: an update whose reading is earlier than the registration stamps an
`updated_at` before the model's `created_at`.
-/

set_option autoImplicit false

namespace EvalHub.Proofs

open EvalHub.Python EvalHub.Models EvalHub.Services

/-! ### One map -/

/-- Every reading of the clock `c` comes no later than the first reading of the clock `c'`:
two calls of a run one after the other, on a clock that never goes back. -/
def ReadsBefore (c c' : Nat → Nat) : Prop := ∀ k, c k ≤ c' 0

/-- Every model of the map was created no later than its last update, and its last update
is no later than some reading of the clock `c`. -/
def StampedBy (c : Nat → Nat) (d : PyDict String Model) : Prop :=
  ∀ m ∈ d.values, m.createdAt ≤ m.updatedAt ∧ ∃ k, m.updatedAt ≤ c k

section StampedBy

variable {c : Nat → Nat} {d : PyDict String Model}

theorem stampedBy_empty (c : Nat → Nat) : StampedBy c .empty := fun _ h => nomatch h

theorem StampedBy.mono (hd : StampedBy c d) {c' : Nat → Nat} (h : ReadsBefore c c') :
    StampedBy c' d := fun m hm =>
  let ⟨hle, k, hk⟩ := hd m hm
  ⟨hle, 0, hk.trans (h k)⟩

theorem StampedBy.setItem (hd : StampedBy c d) (k : String) {m : Model}
    (hm : m.createdAt ≤ m.updatedAt ∧ ∃ k, m.updatedAt ≤ c k) : StampedBy c (d.setItem k m) := by
  intro m' hm'
  obtain ⟨k', hk'⟩ := PyDict.mem_values.mp hm'
  rw [PyDict.get?_setItem] at hk'
  split at hk'
  · cases hk'
    exact hm
  · exact hd m' (PyDict.mem_values.mpr ⟨k', hk'⟩)

theorem StampedBy.delItem (hd : StampedBy c d) (k : String) : StampedBy c (d.delItem k) := by
  intro m hm
  obtain ⟨k', hk'⟩ := PyDict.mem_values.mp hm
  rw [PyDict.get?_delItem] at hk'
  split at hk'
  · cases hk'
  · exact hd m (PyDict.mem_values.mpr ⟨k', hk'⟩)

end StampedBy

/-! ### The service -/

/-- Both maps of the service are stamped in order, and by readings of the clock `c`. -/
structure StampsBy (c : Nat → Nat) (s : ModelService) : Prop where
  registered : StampedBy c s.registeredModels
  runtime : StampedBy c s.runtimeModels

theorem stampsBy_new (c : Nat → Nat) : StampsBy c ModelService.new :=
  ⟨stampedBy_empty c, stampedBy_empty c⟩

variable [PyCase] [ModelSchema]

/-- A completed scan on a clock that never goes back stamps each entry with two readings
of its own, `created_at` first. -/
theorem stampedBy_loadRuntimeModels {w : World} (hw : Monotone w.clock)
    {rt : PyDict String Model} (h : loadRuntimeModels w = .ok rt) : StampedBy w.clock rt := by
  intro m hm
  obtain ⟨k, hk⟩ := PyDict.mem_values.mp hm
  rw [loadRuntimeModels_get? h] at hk
  obtain ⟨⟨j, item⟩, -, he⟩ := Option.bind_eq_some.mp hk
  obtain ⟨g, -, rfl⟩ := Option.map_eq_some'.mp he
  exact ⟨hw (Nat.le_succ _), 2 * j + 1, le_rfl⟩

/-- A call whose readings never decrease and come after every reading of `c` keeps the
stamps in order, with its own clock as the new bound. A registration stores a record
stamped with one reading, an update keeps `created_at` and stamps `updated_at` with a
reading after every stamp before it, and a scan stamps each entry with two readings. -/
theorem stampsBy_call {c : Nat → Nat} {s : ModelService} (h : StampsBy c s) {w : World}
    (hc : ReadsBefore c w.clock) (hw : Monotone w.clock) (op : Op) :
    StampsBy w.clock (s.call w op).2 := by
  refine ⟨?_, ?_⟩
  · rw [registeredModels_call]
    generalize hres : (s.call w op).1 = res
    unfold registryWrite
    split
    · obtain ⟨n, -, hm, -⟩ := call_registerModel_ok s w hres
      cases hm
      exact (h.registered.mono hc).setItem _ ⟨le_rfl, n, le_rfl⟩
    · obtain ⟨n, -, -, old, hold, rfl⟩ := call_updateModel_some s w hres
      obtain ⟨hold₁, k, hold₂⟩ := h.registered old (PyDict.mem_values.mpr ⟨_, hold⟩)
      have hnow : old.createdAt ≤ w.clock n :=
        calc old.createdAt ≤ old.updatedAt := hold₁
          _ ≤ c k := hold₂
          _ ≤ w.clock 0 := hc k
          _ ≤ w.clock n := hw (Nat.zero_le n)
      exact (h.registered.mono hc).setItem _ ⟨hnow, n, le_rfl⟩
    · exact (h.registered.mono hc).delItem _
    · exact h.registered.mono hc
  · rcases runtimeModels_call_cases s w op with hrt | hrt | hrt
    · rw [hrt]
      exact h.runtime.mono hc
    · rw [hrt]
      exact stampedBy_empty _
    · exact stampedBy_loadRuntimeModels hw hrt

/-- Over a run whose calls read the clock after `c`, one after the other, each on a clock
that never goes back, the stamps stay in order and each lies below a reading of `c` or
of the clock of one call of the run. -/
theorem stampsBy_run :
    ∀ (ops : List (World × Op)) {c : Nat → Nat} {s : ModelService}, StampsBy c s →
      List.Chain ReadsBefore c (ops.map fun p => p.1.clock) →
      (∀ p ∈ ops, Monotone p.1.clock) →
        ∃ c', (c' = c ∨ ∃ p ∈ ops, c' = p.1.clock) ∧ StampsBy c' (s.run ops)
  | [], c, _, h, _, _ => ⟨c, .inl rfl, h⟩
  | (w, op) :: ops, _, s, h, hchain, hmono => by
    rw [List.map_cons, List.chain_cons] at hchain
    obtain ⟨hw, hmono⟩ := List.forall_mem_cons.mp hmono
    obtain ⟨c', hc', h'⟩ := stampsBy_run ops (stampsBy_call h hchain.1 hw op) hchain.2 hmono
    refine ⟨c', ?_, h'⟩
    rcases hc' with rfl | ⟨p, hp, rfl⟩
    · exact .inr ⟨(w, op), List.mem_cons_self _ _, rfl⟩
    · exact .inr ⟨p, List.mem_cons_of_mem _ hp, rfl⟩

/-- On a run from a fresh service whose clock never goes back, every stored model was
created no later than it was last updated, and no `updated_at` lies after a bound of the
clock readings of the run. The clock never goes back when each call's readings never
decrease and every reading of a call comes before the first reading of the next. -/
theorem timestamps_ordered (ops : List (World × Op))
    (hmono : ∀ p ∈ ops, Monotone p.1.clock)
    (hclock : List.Chain' ReadsBefore (ops.map fun p => p.1.clock)) :
    ∀ m ∈ (ModelService.new.run ops).registeredModels.values ++
        (ModelService.new.run ops).runtimeModels.values,
      m.createdAt ≤ m.updatedAt ∧ ∀ T, (∀ p ∈ ops, ∀ k, p.1.clock k ≤ T) → m.updatedAt ≤ T := by
  have hchain : List.Chain ReadsBefore (fun _ => 0) (ops.map fun p => p.1.clock) :=
    hclock.cons' fun c _ _ => Nat.zero_le (c 0)
  obtain ⟨c, hc, hs⟩ := stampsBy_run ops (stampsBy_new _) hchain hmono
  intro m hm
  obtain ⟨hle, k, hk⟩ : m.createdAt ≤ m.updatedAt ∧ ∃ k, m.updatedAt ≤ c k := by
    rcases List.mem_append.mp hm with hm | hm
    · exact hs.registered m hm
    · exact hs.runtime m hm
  refine ⟨hle, fun T hT => hk.trans ?_⟩
  rcases hc with rfl | ⟨p, hp, rfl⟩
  · exact Nat.zero_le T
  · exact hT p hp k

end EvalHub.Proofs

/-! ### Concrete runs -/

namespace EvalHub.Sample

open EvalHub.Services

/-- The empty environment on a clock that reads `3`, `4`, and so on. -/
def worldEmptyFrom3 : World := { worldEmpty with clock := fun k => 3 + k }

/-- `a` registered at reading `0`, then updated at reading `3`. -/
def registerThenUpdate : List (World × Op) :=
  [(worldEmpty, .registerModel requestA), (worldEmptyFrom3, .updateModel "a" {})]

end EvalHub.Sample

namespace EvalHub.Proofs

open EvalHub.Python EvalHub.Models EvalHub.Services EvalHub.Sample

-- The proviso on the clock cannot go: `a` registered at reading 5 and updated at reading 0
-- ends with `updated_at` before `created_at`.
example : ((ModelService.new.run [({ worldEmpty with clock := fun _ => 5 }, .registerModel requestA),
      (worldEmpty, .updateModel "a" {})]).registeredModels.get? "a").map
      (fun m => (m.createdAt, m.updatedAt)) = some (5, 0) := by
  rfl

/-- A run on a clock that moves forward: both calls read a clock that never goes back,
and the update reads after the registration. -/
theorem timestamps_ordered_registerThenUpdate :
    (∀ p ∈ registerThenUpdate, Monotone p.1.clock) ∧
    List.Chain' ReadsBefore (registerThenUpdate.map fun p => p.1.clock) ∧
    ∀ m ∈ (ModelService.new.run registerThenUpdate).registeredModels.values ++
        (ModelService.new.run registerThenUpdate).runtimeModels.values,
      m.createdAt ≤ m.updatedAt ∧
        ∀ T, (∀ p ∈ registerThenUpdate, ∀ k, p.1.clock k ≤ T) → m.updatedAt ≤ T :=
  have hmono : ∀ p ∈ registerThenUpdate, Monotone p.1.clock :=
    List.forall_mem_cons.mpr ⟨monotone_const, List.forall_mem_cons.mpr
      ⟨fun _ _ h => Nat.add_le_add_left h 3, fun _ h => nomatch h⟩⟩
  have hchain : List.Chain' ReadsBefore (registerThenUpdate.map fun p => p.1.clock) :=
    .cons (fun _ => Nat.zero_le 3) .nil
  ⟨hmono, hchain, timestamps_ordered _ hmono hchain⟩

end EvalHub.Proofs
