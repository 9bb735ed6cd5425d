import Builtins.Function.Descriptor

/-!
# Registries

A registry keeps valid descriptors under their names. The first one under a name stays.

* `Registry.register` adds a descriptor.
* `Registry.resolve` finds the overload for a name and kinds; nothing is converted.
* `Registry.dispatch` calls it, and reports a failure once.
* `Registry.registerAll` adds several descriptors and tells which were not added.
-/

namespace Builtins

/-- Valid descriptors under their names. -/
structure Registry where
  functions : Table Descriptor

namespace Registry

def empty : Registry := ⟨Table.empty⟩

def descriptor? (r : Registry) (name : String) : Option Descriptor := r.functions.get? name

/-- The names of the functions in increasing order. -/
def names (r : Registry) : List String := r.functions.keys

def size (r : Registry) : Nat := r.functions.size

/-- Adds a descriptor, if it is valid and its name is free. -/
def register (r : Registry) (d : Descriptor) : Except Fault Registry :=
  match d.check with
  | .error fault => .error fault
  | .ok () =>
    if r.functions.contains d.name then .error (.nameTaken d.name)
    else .ok ⟨r.functions.insert d.name d⟩

/-- After a registration its name answers the descriptor, and every other name what it did. -/
theorem descriptor?_of_register {r r' : Registry} {d : Descriptor} (h : r.register d = .ok r')
    (name : String) : r'.descriptor? name = if name = d.name then some d else r.descriptor? name := by
  unfold register at h
  split at h
  · cases h
  · split at h
    · cases h
    · cases h
      exact r.functions.get?_insert d.name name d

/-- The overload of the function `name` for exactly these kinds. -/
def resolve (r : Registry) (name : String) (kinds : List Kind) : Except Fault Overload :=
  match r.descriptor? name with
  | none => .error (.unknownFunction name)
  | some d =>
    if kinds.length ≠ d.arity then .error (.wrongArity name d.arity kinds.length)
    else
      match d.overload? kinds with
      | some o => .ok o
      | none => .error (.wrongKinds name kinds d.describe)

/-- Finds the overload for the kinds of the arguments and calls it. -/
def invoke (r : Registry) (name : String) (args : List Value) : Call Value := do
  let o ← Call.ofExcept (r.resolve name (args.map Value.kind))
  o.body args

/-- Calls a function, and reports a failure once. -/
def dispatch (r : Registry) (name : String) (args : List Value) : Call Value :=
  tryCatch (r.invoke name args) fun fault => do
    Call.note (.failure fault)
    throw fault

/-- A failure is told after all else that the call told, and changes nothing more. -/
theorem outcome_dispatch (r : Registry) (name : String) (args : List Value) (h : Host)
    (w : Workspace) :
    (r.dispatch name args).outcome h w =
      match (r.invoke name args).outcome h w with
      | (.ok v, w) => (.ok v, w)
      | (.error fault, w) => (.error fault, { w with notices := .failure fault :: w.notices }) := by
  rw [dispatch, Call.outcome_tryCatch]
  rcases (r.invoke name args).outcome h w with ⟨_ | _, _⟩ <;> simp [Call.outcome_bind]

/-- Adds each descriptor that can be added. Gives the failures with the names in order. -/
def registerAll (r : Registry) : List Descriptor → Registry × List (String × Fault)
  | [] => (r, [])
  | d :: rest =>
    match r.register d with
    | .ok r => r.registerAll rest
    | .error fault =>
      let (r, failures) := r.registerAll rest
      (r, (d.name, fault) :: failures)

end Registry

end Builtins
