import Builtins.Disk.Basic
import Builtins.Environment
import Builtins.Settings.Basic
import Builtins.Standard

/-!
# Runs

A run owns a registry, a way to find files, a workspace and a snapshot of the environment. Its calls
share the workspace; the disk may change between them.

* `RunPlan` collects what a run is started with.
* `Run.call` makes a call.
* `Run.readVariable` and `Run.writeVariable` access the environment.
-/

namespace Builtins

/-- How a run finds files: in source roots, or all under one path. -/
inductive FileLookup where
  | roots (rs : List DiskPath)
  | fixed (path : DiskPath)
deriving DecidableEq, Repr

def FileLookup.resolve (l : FileLookup) (d : Disk) (name : String) : Except Fault DiskPath :=
  match l with
  | roots rs => findInRoots d rs name
  | fixed path => .ok path

/-- What a run is started with. -/
structure RunPlan where
  sourceRoots : List DiskPath
  verbose : Bool
deriving DecidableEq, Repr

namespace RunPlan

def empty : RunPlan := ⟨[], false⟩

/-- Adds source roots behind those there are. -/
def withRoots (p : RunPlan) (roots : List DiskPath) : RunPlan :=
  { p with sourceRoots := p.sourceRoots ++ roots }

def withVerbose (p : RunPlan) (verbose : Bool) : RunPlan := { p with verbose }

/-- Takes stored settings over: their roots come behind those there are, and their verbosity
replaces the one there is. -/
def withSettings (p : RunPlan) (s : Settings) : RunPlan :=
  (p.withRoots (s.sourceRoots.map DiskPath.ofText)).withVerbose s.verbose

end RunPlan

/-- A run between two calls. -/
structure Run where
  registry : Registry
  lookup : FileLookup
  verbose : Bool
  environment : Environment
  workspace : Workspace

namespace Run

def start (registry : Registry) (lookup : FileLookup) (verbose : Bool)
    (environment : Environment) : Run :=
  ⟨registry, lookup, verbose, environment, Workspace.fresh⟩

/-- What a run offers to a call while the disk is `d`. -/
def host (r : Run) (d : Disk) : Host where
  resolve := r.lookup.resolve d
  read := d.read
  verbose := r.verbose

/-- Makes a computation in the workspace of a run. -/
def perform {α : Type} (r : Run) (d : Disk) (c : Call α) : Except Fault α × Run :=
  let (result, workspace) := c.outcome (r.host d) r.workspace
  (result, { r with workspace })

def call (r : Run) (d : Disk) (name : String) (args : List Value) : Except Fault Value × Run :=
  r.perform d (r.registry.dispatch name args)

def readVariable (r : Run) (key : String) : Except Fault Value := r.environment.read key

/-- No variable can be written. -/
def writeVariable (r : Run) (key : String) (value : Value) : Except Fault Unit :=
  r.environment.write key value

end Run

end Builtins
