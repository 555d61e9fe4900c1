import EvalHub.Python.Str

/-!
# `EvalHub.Models.Model`: the records the service stores

`model_service.py` imports its records from `eval_hub.models.model`, which is not under
`src/`. This module keeps what the service reads and writes of them, and no more.

* `ModelType` and `ModelStatus` are Python enums. A member is named by its value, so
  the model represents a member by that value. The values are non-empty tags, so every
  member is truthy, also when the enum mixes in `str`. `search_models` relies on this in
  its `if model_type and ...` tests.
* `ModelCapabilities` and `ModelConfig` are stored and copied, never inspected. Their
  field values stand in for them, and `{}` is the default instance.
* `Model(...)` runs the pydantic validators of `Model`. They are not in `src/`, so they
  enter through the class `ModelSchema` as a check that accepts the fields as given or
  raises. `ModelSchema` also lists the members of `ModelType`, which
  `ModelType(value)` searches.
* The two `datetime.utcnow()` fields hold clock readings as natural numbers.
-/

set_option autoImplicit false

namespace EvalHub.Models

/-- Modelled from the spec: a member of the enum `ModelType`, the kind of a model, named
by its value (a non-empty tag such as `"openai-compatible"`). -/
@[ext] structure ModelType where
  value : String
  value_ne : value ≠ ""
deriving DecidableEq, Repr

/-- Modelled from the spec: `ModelType.OPENAI_COMPATIBLE`, the kind the scan falls back
to. Its value is the default string `_load_runtime_models` passes to `ModelType`. -/
def ModelType.openaiCompatible : ModelType := ⟨"openai-compatible", by decide⟩

/-- Modelled from the spec: a member of the enum `ModelStatus`, named by its value. -/
structure ModelStatus where
  value : String
  value_ne : value ≠ ""
deriving DecidableEq, Repr

/-- Modelled from the spec: `ModelStatus.ACTIVE`. -/
def ModelStatus.active : ModelStatus := ⟨"active", by decide⟩

/-- `ModelCapabilities`, kept as its field values. -/
structure ModelCapabilities where
  fields : List (String × String) := []
deriving DecidableEq, Repr

/-- `ModelConfig`, kept as its field values. -/
structure ModelConfig where
  fields : List (String × String) := []
deriving DecidableEq, Repr

/-- A `Model` record, as `register_model` and `_load_runtime_models` build it. -/
structure Model where
  modelId : String
  modelName : String
  description : Option String
  modelType : ModelType
  baseUrl : String
  apiKeyRequired : Bool
  modelPath : Option String
  capabilities : ModelCapabilities
  config : ModelConfig
  status : ModelStatus
  tags : List String
  createdAt : Nat
  updatedAt : Nat
deriving DecidableEq, Repr

/-- A `ModelSummary`: the listing fields of a `Model`. -/
structure ModelSummary where
  modelId : String
  modelName : String
  description : Option String
  modelType : ModelType
  baseUrl : String
  status : ModelStatus
  tags : List String
  createdAt : Nat
deriving DecidableEq, Repr

/-- A `ListModelsResponse`. -/
structure ListModelsResponse where
  models : List ModelSummary
  totalModels : Nat
  runtimeModels : List ModelSummary
deriving DecidableEq, Repr

/-- A `ModelRegistrationRequest`. -/
structure ModelRegistrationRequest where
  modelId : String
  modelName : String
  description : Option String
  modelType : ModelType
  baseUrl : String
  apiKeyRequired : Bool
  modelPath : Option String
  capabilities : Option ModelCapabilities
  config : Option ModelConfig
  status : ModelStatus
  tags : List String
deriving DecidableEq, Repr

/-- A `ModelUpdateRequest`: every field optional, `None` when not supplied. -/
structure ModelUpdateRequest where
  modelName : Option String := none
  description : Option String := none
  modelType : Option ModelType := none
  baseUrl : Option String := none
  apiKeyRequired : Option Bool := none
  modelPath : Option String := none
  capabilities : Option ModelCapabilities := none
  config : Option ModelConfig := none
  status : Option ModelStatus := none
  tags : Option (List String) := none
deriving DecidableEq, Repr

/-- The exceptions the service raises or lets through. -/
inductive PyException
  /-- `ValueError(msg)`, raised by the service itself. -/
  | valueError (msg : String)
  /-- pydantic's `ValidationError`, raised by `Model(...)`. -/
  | validationError
deriving DecidableEq, Repr

/-- Modelled from the spec: what the service takes from `eval_hub.models.model` beyond
the record shapes. -/
class ModelSchema where
  /-- The members of `ModelType`, in declaration order. -/
  modelTypes : List ModelType
  /-- The validators of `Model`: `true` when they accept the fields. -/
  validate : Model → Bool

variable [ModelSchema]

/-- `ModelType(value)`: the member with this value. Python raises `ValueError` when
there is none; here that is `none`. -/
def ModelType.ofValue (value : String) : Option ModelType :=
  ModelSchema.modelTypes.find? (·.value = value)

/-- `ModelType(value)` returns a member with that value. -/
theorem ModelType.value_of_ofValue {value : String} {t : ModelType}
    (h : ModelType.ofValue value = some t) : t.value = value := by
  simpa using List.find?_some h

/-- `Model(...)` on the fields of `m`: the record, or the validators' error. -/
def Model.new (m : Model) : Except PyException Model :=
  if ModelSchema.validate m then .ok m else .error .validationError

end EvalHub.Models

namespace EvalHub.Sample

open EvalHub.Python EvalHub.Models

/-- A `ModelSchema` for concrete runs: `ModelType` has the one member
`openai-compatible`, and the validators accept a model whose base URL starts with
`http://` or `https://`. -/
scoped instance httpSchema : ModelSchema where
  modelTypes := [.openaiCompatible]
  validate m := startswith m.baseUrl "http://" || startswith m.baseUrl "https://"

end EvalHub.Sample
