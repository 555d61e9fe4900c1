import EvalHub.Python.Dict
import EvalHub.Python.Str
import EvalHub.Python.Os
import EvalHub.Models.Model
import EvalHub.Services.ModelService
import EvalHub.Proofs.Pattern
import EvalHub.Proofs.Scan
import EvalHub.Proofs.Step
import EvalHub.Proofs.Lifecycle
import EvalHub.Proofs.Search
import EvalHub.Proofs.Invariants
import EvalHub.Proofs.Registry
import EvalHub.Proofs.Isolation
import EvalHub.Proofs.Timestamps
