import EvalHub.Python.Dict
import Mathlib.Data.List.Perm.Basic

/-!
# `EvalHub.Python.Os`: the process environment

`os.environ` is a mapping from names to values, iterated in its own order. `Environ`
is that mapping as a `PyDict`, and it carries what POSIX asks of a name: no `=` and no
NUL. `getenv` is `os.getenv(name)`, the default applied by the caller.

Names and values are Lean strings, so the model leaves out the lone surrogates CPython
uses to carry bytes that are not UTF-8.

Two environments that hold the same pairs in another order answer every `getenv` the
same way (`getenv_eq_of_perm`): that is the fact behind the order questions about the
runtime scan.
-/

set_option autoImplicit false

namespace EvalHub.Python

/-- `os.environ`: its items in iteration order, each name legal. -/
structure Environ where
  vars : PyDict String String
  legal : ∀ n ∈ vars.keys, '=' ∉ n.data ∧ '\x00' ∉ n.data

namespace Environ

/-- `os.getenv(name)`: the value of `name`, or `None`. -/
def getenv (env : Environ) (name : String) : Option String := env.vars.get? name

/-- Reordering the environment changes no `getenv`. -/
theorem getenv_eq_of_perm {e₁ e₂ : Environ} (h : e₁.vars.entries.Perm e₂.vars.entries)
    (name : String) : e₁.getenv name = e₂.getenv name := by
  unfold getenv
  cases h₁ : e₁.vars.get? name with
  | none =>
    rw [PyDict.get?_eq_none_iff, PyDict.keys, (h.map Prod.fst).mem_iff] at h₁
    exact (PyDict.get?_eq_none_iff.mpr h₁).symm
  | some v =>
    rw [PyDict.get?_eq_some_iff, h.mem_iff] at h₁
    exact (PyDict.get?_eq_some_iff.mpr h₁).symm

end Environ

end EvalHub.Python
