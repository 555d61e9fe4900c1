import EvalHub.Models.Model
import EvalHub.Python.Os

/-!
# `EvalHub.Services.ModelService`: the model registry

`ModelService` (`src/eval_hub/services/model_service.py`) keeps two registries. Calls
to `register_model` fill `_registered_models`, and `update_model` and `delete_model`
change it. A scan of the environment fills `_runtime_models`: `_initialize` runs it on
the first public call, and `reload_runtime_models` runs it again on request.

Each method is a function from the service to an `Outcome`: what the call returned or
raised, and the service after it. A Python `raise` keeps every assignment made before
it. So the service comes back in both cases. A call reads two things from outside:
`os.environ` and the clock. Both are in the `World` it runs in, and the environment
may change from one call to the next. The clock is the list of readings the call's
`datetime.utcnow()`s return, in the order the call makes them. A scan takes two for each
entry it builds, `created_at` and then `updated_at`, so the entries of one scan carry
different readings, and the reading of `register_model` or `update_model` comes after
those its own `_initialize` took.

`ModelService.call` dispatches an `Op`, one of the eight public methods with its
arguments, and `ModelService.run` runs a list of calls. The proofs state what holds
after any run from `ModelService.new`.

Left out: `settings`, which the service stores and never reads, and the log lines.
-/

set_option autoImplicit false

namespace EvalHub.Services

open EvalHub.Python EvalHub.Models

/-- What a call reads besides the service: the environment, and the clock. The call's
`k`-th `datetime.utcnow()`, counting from `0`, returns `clock k`. -/
structure World where
  environ : Environ
  clock : Nat → Nat

/-- The reading the call's first `datetime.utcnow()` returns. -/
def World.now (w : World) : Nat := w.clock 0

/-- The world after `n` readings of the clock: the same environment, and a clock that goes
on from the `n`-th reading. -/
def World.after (w : World) (n : Nat) : World := { w with clock := fun k => w.clock (k + n) }

@[simp] theorem World.after_zero (w : World) : w.after 0 = w := rfl

@[simp] theorem World.environ_after (w : World) (n : Nat) : (w.after n).environ = w.environ :=
  rfl

@[simp] theorem World.now_after (w : World) (n : Nat) : (w.after n).now = w.clock n := by
  simp [World.now, World.after]

/-- The attributes of a `ModelService` that its methods read and write. -/
structure ModelService where
  registeredModels : PyDict String Model
  runtimeModels : PyDict String Model
  initialized : Bool
deriving DecidableEq, Repr

/-- What a call left: its return value or exception, and the service after it. -/
abbrev Outcome (α : Type) := Except PyException α × ModelService

/-- `ModelService(settings)`: both registries empty, not initialized. -/
def ModelService.new : ModelService := ⟨.empty, .empty, false⟩

variable [PyCase] [ModelSchema]

/-! ### The environment scan -/

/-- The greedy `(.+)` of the URL pattern, backtracking: the largest `k ≤ n`, at least
`1`, such that `_URL` follows the first `k` characters of `rest`. -/
def urlGroupEnd (rest : List Char) : Nat → Option Nat
  | 0 => none
  | k + 1 =>
    if "_URL".data.isPrefixOf (rest.drop (k + 1)) then some (k + 1) else urlGroupEnd rest k

/-- `re.match(r'EVAL_HUB_MODEL_(.+)_URL', env_var).group(1)`. `re.match` anchors at the
start only, and `.` stops at a newline: `(.+)` ranges over the text before the first
`\n` after the prefix. -/
def matchModelUrl (envVar : String) : Option String :=
  if startswith envVar "EVAL_HUB_MODEL_" then
    let rest := envVar.data.drop "EVAL_HUB_MODEL_".length
    (urlGroupEnd rest (rest.takeWhile (· ≠ '\n')).length).map fun k => ⟨rest.take k⟩
  else none

/-- The record `_load_runtime_models` builds for the ID segment `group` with the
stripped URL `baseUrl`, reading the sibling variables of the segment. The scan has taken
`readings` clock readings before it: `created_at` is the next one, and `updated_at` the
one after. -/
def runtimeModel (w : World) (readings : Nat) (group baseUrl : String) : Model :=
  let modelId := lower group
  let modelName := (w.environ.getenv ("EVAL_HUB_MODEL_" ++ group ++ "_NAME")).getD
    ("Runtime Model " ++ upper modelId)
  let modelTypeStr := (w.environ.getenv ("EVAL_HUB_MODEL_" ++ group ++ "_TYPE")).getD
    "openai-compatible"
  let modelPath := w.environ.getenv ("EVAL_HUB_MODEL_" ++ group ++ "_PATH")
  let modelType := (ModelType.ofValue (lower modelTypeStr)).getD .openaiCompatible
  { modelId, modelName
    description := some ("Runtime-specified model: " ++ modelName)
    modelType, baseUrl
    apiKeyRequired := true
    modelPath
    capabilities := {}
    config := {}
    status := .active
    tags := ["runtime"]
    createdAt := w.clock readings
    updatedAt := w.clock (readings + 1) }

/-- One pass of the loop of `_load_runtime_models` over `(env_var, env_value)`, from the
map built so far and the number of clock readings taken so far. A name that does not
match, or an empty URL, is skipped. A match is built into a `Model`, which takes two
readings and may raise, and stored under its lowercased ID. -/
def loadRuntimeModel (w : World) (acc : PyDict String Model × Nat)
    (item : String × String) : Except PyException (PyDict String Model × Nat) :=
  if startswith item.1 "EVAL_HUB_MODEL_" && endswith item.1 "_URL" then
    match matchModelUrl item.1 with
    | none => .ok acc
    | some group =>
      let baseUrl := strip item.2
      if baseUrl = "" then .ok acc
      else (Model.new (runtimeModel w acc.2 group baseUrl)).map
        fun model => (acc.1.setItem (lower group) model, acc.2 + 2)
  else .ok acc

/-- The loop of `_load_runtime_models` from `{}`: the map it builds and the number of clock
readings it takes, or the exception that stopped it. -/
def runtimeScan (w : World) : Except PyException (PyDict String Model × Nat) :=
  w.environ.vars.entries.foldlM (loadRuntimeModel w) (.empty, 0)

/-- `_load_runtime_models` without its final assignment: the map the loop builds, or the
exception that stopped it. -/
def loadRuntimeModels (w : World) : Except PyException (PyDict String Model) :=
  (runtimeScan w).map Prod.fst

/-! ### The lifecycle -/

namespace ModelService

/-- `_initialize`: scan once, and mark the service initialized only when the scan
completes. `_initialize` returns `None`; here it returns the number of clock readings its
scan took, which the readings of the rest of the method follow. -/
def initializeOnce (self : ModelService) (w : World) : Outcome Nat :=
  if self.initialized then (.ok 0, self)
  else match runtimeScan w with
    | .ok (runtimeModels, readings) =>
      (.ok readings, { self with runtimeModels, initialized := true })
    | .error e => (.error e, self)

/-- `self._initialize()` as the first line of a public method, then the rest of it, which
runs on the service `_initialize` left and reads the clock after `_initialize`'s
readings. -/
def initThen {α : Type} (self : ModelService) (w : World)
    (body : ModelService → World → Outcome α) : Outcome α :=
  match self.initializeOnce w with
  | (.ok readings, self) => body self (w.after readings)
  | (.error e, self) => (.error e, self)

/-- `reload_runtime_models`: `self._runtime_models.clear()`, then the scan. It neither
calls `_initialize` nor sets `_initialized`. -/
def reloadRuntimeModels (self : ModelService) (w : World) : Outcome Unit :=
  let self := { self with runtimeModels := .empty }
  match loadRuntimeModels w with
  | .ok runtimeModels => (.ok (), { self with runtimeModels })
  | .error e => (.error e, self)

/-! ### The registry operations -/

/-- The `Model(...)` call of `register_model`. -/
def registeredModel (request : ModelRegistrationRequest) (now : Nat) : Model :=
  { modelId := request.modelId
    modelName := request.modelName
    description := request.description
    modelType := request.modelType
    baseUrl := request.baseUrl
    apiKeyRequired := request.apiKeyRequired
    modelPath := request.modelPath
    capabilities := request.capabilities.getD {}
    config := request.config.getD {}
    status := request.status
    tags := request.tags
    createdAt := now
    updatedAt := now }

/-- `register_model`. -/
def registerModel (self : ModelService) (w : World) (request : ModelRegistrationRequest) :
    Outcome Model :=
  self.initThen w fun self w =>
    if self.registeredModels.contains request.modelId then
      (.error (.valueError ("Model with ID '" ++ request.modelId ++ "' already exists")), self)
    else if self.runtimeModels.contains request.modelId then
      (.error (.valueError ("Model with ID '" ++ request.modelId ++
        "' is specified as runtime model via environment variable")), self)
    else match Model.new (registeredModel request w.now) with
      | .ok model =>
        (.ok model, { self with
          registeredModels := self.registeredModels.setItem request.modelId model })
      | .error e => (.error e, self)

/-- `if value is not None: model.<field> = value`, one line of `update_model`. -/
def assignIfNotNone {α : Type} (value : Option α) (set : Model → α → Model)
    (model : Model) : Model :=
  match value with
  | some v => set model v
  | none => model

/-- The ten conditional assignments of `update_model`, in the source's order. -/
def assignFields (request : ModelUpdateRequest) (model : Model) : Model :=
  model
  |> assignIfNotNone request.modelName (fun m v => { m with modelName := v })
  |> assignIfNotNone request.description (fun m v => { m with description := some v })
  |> assignIfNotNone request.modelType (fun m v => { m with modelType := v })
  |> assignIfNotNone request.baseUrl (fun m v => { m with baseUrl := v })
  |> assignIfNotNone request.apiKeyRequired (fun m v => { m with apiKeyRequired := v })
  |> assignIfNotNone request.modelPath (fun m v => { m with modelPath := some v })
  |> assignIfNotNone request.capabilities (fun m v => { m with capabilities := v })
  |> assignIfNotNone request.config (fun m v => { m with config := v })
  |> assignIfNotNone request.status (fun m v => { m with status := v })
  |> assignIfNotNone request.tags (fun m v => { m with tags := v })

/-- `update_model`. The entry is changed in place, so it keeps its position. -/
def updateModel (self : ModelService) (w : World) (modelId : String)
    (request : ModelUpdateRequest) : Outcome (Option Model) :=
  self.initThen w fun self w =>
    if self.runtimeModels.contains modelId then
      (.error (.valueError "Cannot update runtime models specified via environment variables"),
        self)
    else match self.registeredModels.get? modelId with
      | none => (.ok none, self)
      | some model =>
        let model := { assignFields request model with updatedAt := w.now }
        (.ok (some model), { self with
          registeredModels := self.registeredModels.setItem modelId model })

/-- `delete_model`. -/
def deleteModel (self : ModelService) (w : World) (modelId : String) : Outcome Bool :=
  self.initThen w fun self _ =>
    if self.runtimeModels.contains modelId then
      (.error (.valueError "Cannot delete runtime models specified via environment variables"),
        self)
    else if self.registeredModels.contains modelId then
      (.ok true, { self with registeredModels := self.registeredModels.delItem modelId })
    else (.ok false, self)

/-- `get_model_by_id`: the registered entry, else the runtime one, else `None`. -/
def getModelById (self : ModelService) (w : World) (modelId : String) :
    Outcome (Option Model) :=
  self.initThen w fun self _ =>
    match self.registeredModels.get? modelId with
    | some model => (.ok (some model), self)
    | none => (.ok (self.runtimeModels.get? modelId), self)

/-! ### The listings -/

/-- The `ModelSummary(...)` both loops of `get_all_models` build. -/
def summary (model : Model) : ModelSummary :=
  { modelId := model.modelId
    modelName := model.modelName
    description := model.description
    modelType := model.modelType
    baseUrl := model.baseUrl
    status := model.status
    tags := model.tags
    createdAt := model.createdAt }

/-- `get_all_models`: the registered entries (active ones only, unless
`includeInactive`), then every runtime entry. -/
def getAllModels (self : ModelService) (w : World) (includeInactive : Bool) :
    Outcome ListModelsResponse :=
  self.initThen w fun self _ =>
    let registeredSummaries := (self.registeredModels.values.filter fun model =>
      includeInactive || model.status == .active).map summary
    let runtimeSummaries := self.runtimeModels.values.map summary
    let allSummaries := registeredSummaries ++ runtimeSummaries
    (.ok { models := allSummaries, totalModels := allSummaries.length,
           runtimeModels := runtimeSummaries }, self)

/-- The three `continue` tests of the loop of `search_models`: a model is kept unless
one of them fires. A filter that is `None`, or an empty tag list, is falsy and never
fires. -/
def searchKeeps (modelType : Option ModelType) (status : Option ModelStatus)
    (tags : Option (List String)) (model : Model) : Bool :=
  if modelType.any (model.modelType != ·) then false
  else if status.any (model.status != ·) then false
  else if tags.any (fun tags => !tags.isEmpty && !tags.any (model.tags.contains ·)) then false
  else true

/-- `search_models`. -/
def searchModels (self : ModelService) (w : World) (modelType : Option ModelType)
    (status : Option ModelStatus) (tags : Option (List String)) : Outcome (List Model) :=
  self.initThen w fun self _ =>
    let allModels := self.registeredModels.values ++ self.runtimeModels.values
    (.ok (allModels.filter (searchKeeps modelType status tags)), self)

/-- `get_active_models`. -/
def getActiveModels (self : ModelService) (w : World) : Outcome (List Model) :=
  self.searchModels w none (some .active) none

end ModelService

/-! ### Runs -/

/-- A call of one of the public methods. -/
inductive Op
  | registerModel (request : ModelRegistrationRequest)
  | updateModel (modelId : String) (request : ModelUpdateRequest)
  | deleteModel (modelId : String)
  | getModelById (modelId : String)
  | getAllModels (includeInactive : Bool)
  | searchModels (modelType : Option ModelType) (status : Option ModelStatus)
      (tags : Option (List String))
  | getActiveModels
  | reloadRuntimeModels
deriving DecidableEq, Repr

/-- What a public method returns. -/
inductive Response
  | model (m : Model)
  | modelOpt (m : Option Model)
  | bool (b : Bool)
  | listModels (r : ListModelsResponse)
  | models (ms : List Model)
  | none
deriving DecidableEq, Repr

namespace ModelService

/-- Run one public call in the world `w`. -/
def call (self : ModelService) (w : World) : Op → Outcome Response
  | .registerModel r => let o := self.registerModel w r; (o.1.map .model, o.2)
  | .updateModel i r => let o := self.updateModel w i r; (o.1.map .modelOpt, o.2)
  | .deleteModel i => let o := self.deleteModel w i; (o.1.map .bool, o.2)
  | .getModelById i => let o := self.getModelById w i; (o.1.map .modelOpt, o.2)
  | .getAllModels b => let o := self.getAllModels w b; (o.1.map .listModels, o.2)
  | .searchModels t s g => let o := self.searchModels w t s g; (o.1.map .models, o.2)
  | .getActiveModels => let o := self.getActiveModels w; (o.1.map .models, o.2)
  | .reloadRuntimeModels => let o := self.reloadRuntimeModels w; (o.1.map fun _ => .none, o.2)

/-- The service after a list of calls, each in its own world. -/
def run (self : ModelService) : List (World × Op) → ModelService
  | [] => self
  | (w, op) :: rest => (self.call w op).2.run rest

/-- Each call of a run with what it returned or raised. -/
def history (self : ModelService) :
    List (World × Op) → List (World × Op × Except PyException Response)
  | [] => []
  | (w, op) :: rest => (w, op, (self.call w op).1) :: (self.call w op).2.history rest

end ModelService

/-- The states a service reaches from `ModelService(settings)`. -/
def Reachable (s : ModelService) : Prop := ∃ ops, ModelService.new.run ops = s

end EvalHub.Services
