import Builtins.Disk.Path
import Builtins.Resource.Cache

/-!
# Calls

A call reads what its host offers, changes the workspace of its run, and gives a value or fails. What
it did to the workspace before it fails stays done.

* `Host` is what a call may use of its surroundings; it may differ from call to call.
* `Workspace` is what the calls of a run share.
* `Call` is a computation in both, `Call.outcome` its result and the workspace after it.
* `outcome_bind` and its companions give the outcome of each way to make a call.
-/

namespace Builtins

/-- What a call may use of its surroundings: how files are found and read, and whether it should
tell what it does. -/
structure Host where
  resolve : String → Except Fault DiskPath
  read : DiskPath → Except ReadFault Bytes
  verbose : Bool

/-- What is told about the calls of a run. -/
inductive Notice where
  /-- A message of a call that tells what it does. -/
  | message (text : String)
  /-- A call that failed. -/
  | failure (fault : Fault)
  /-- An attempt of a loader to load a document. -/
  | load (loader : String) (path : DiskPath) (succeeded : Bool)
deriving DecidableEq

/-- What the calls of a run share: the cache, the uid for the next container, and the notices with
the latest first. -/
structure Workspace where
  cache : Cache
  nextUid : UInt64
  notices : List Notice

namespace Workspace

/-- The workspace of a run that has made no call. -/
def fresh : Workspace := ⟨Table.empty, 1, []⟩

end Workspace

/-- A computation of a call. -/
abbrev Call := ReaderT Host (ExceptT Fault (StateM Workspace))

namespace Call

variable {α β : Type}

/-- The result of a call, and the workspace after it. -/
def outcome (c : Call α) (h : Host) (w : Workspace) : Except Fault α × Workspace :=
  (ReaderT.run c h).run.run w

@[simp]
theorem outcome_pure (a : α) (h : Host) (w : Workspace) :
    (pure a : Call α).outcome h w = (.ok a, w) := rfl

@[simp]
theorem outcome_throw (fault : Fault) (h : Host) (w : Workspace) :
    (throw fault : Call α).outcome h w = (.error fault, w) := rfl

/-- What follows a call runs in the workspace that the call leaves behind, unless the call failed. -/
theorem outcome_bind (c : Call α) (f : α → Call β) (h : Host) (w : Workspace) :
    (c >>= f).outcome h w =
      match c.outcome h w with
      | (.ok a, w) => (f a).outcome h w
      | (.error fault, w) => (.error fault, w) := by
  show (ExceptT.bind (c h) fun a => f a h).run.run w = _
  simp only [outcome, ReaderT.run, ExceptT.bind, ExceptT.run, ExceptT.mk, StateT.run, bind,
    StateT.bind]
  rcases c h w with ⟨_ | _, _⟩ <;> rfl

/-- What handles a failure runs in the workspace that the failed call leaves behind. -/
theorem outcome_tryCatch (c : Call α) (f : Fault → Call α) (h : Host) (w : Workspace) :
    (tryCatch c f).outcome h w =
      match c.outcome h w with
      | (.ok a, w) => (.ok a, w)
      | (.error fault, w) => (f fault).outcome h w := by
  show (ExceptT.tryCatch (c h) fun e => f e h).run.run w = _
  simp only [outcome, ReaderT.run, ExceptT.tryCatch, ExceptT.run, ExceptT.mk, StateT.run, bind,
    StateT.bind]
  rcases c h w with ⟨_ | _, _⟩ <;> rfl

@[simp]
theorem outcome_read (h : Host) (w : Workspace) : (read : Call Host).outcome h w = (.ok h, w) := rfl

@[simp]
theorem outcome_get (h : Host) (w : Workspace) :
    (get : Call Workspace).outcome h w = (.ok w, w) := rfl

@[simp]
theorem outcome_modify (f : Workspace → Workspace) (h : Host) (w : Workspace) :
    (modify f : Call Unit).outcome h w = (.ok (), f w) := rfl

def ofExcept (r : Except Fault α) : Call α :=
  match r with
  | .ok a => pure a
  | .error fault => throw fault

@[simp]
theorem outcome_ofExcept (r : Except Fault α) (h : Host) (w : Workspace) :
    (ofExcept r).outcome h w = (r, w) := by cases r <;> rfl

def lookup (key : String) : Call (Option Resource) := do
  return (← get).cache.get? key

@[simp]
theorem outcome_lookup (key : String) (h : Host) (w : Workspace) :
    (lookup key).outcome h w = (.ok (w.cache.get? key), w) := rfl

def isCached (key : String) : Call Bool := do
  return (← lookup key).isSome

@[simp]
theorem outcome_isCached (key : String) (h : Host) (w : Workspace) :
    (isCached key).outcome h w = (.ok (w.cache.get? key).isSome, w) := rfl

def expect (handle : String) (kinds : List ResourceKind) : Call Container := do
  ofExcept ((← get).cache.expect handle kinds)

@[simp]
theorem outcome_expect (handle : String) (kinds : List ResourceKind) (h : Host) (w : Workspace) :
    (expect handle kinds).outcome h w = (Cache.expect w.cache handle kinds, w) := by
  simp only [expect, outcome_bind, outcome_get, outcome_ofExcept]

def store (key : String) (r : Resource) : Call Unit :=
  modify fun w => { w with cache := w.cache.insert key r }

@[simp]
theorem outcome_store (key : String) (r : Resource) (h : Host) (w : Workspace) :
    (store key r).outcome h w = (.ok (), { w with cache := w.cache.insert key r }) := rfl

def takeUid : Call UInt64 := do
  let uid := (← get).nextUid
  modify fun w => { w with nextUid := uid + 1 }
  return uid

@[simp]
theorem outcome_takeUid (h : Host) (w : Workspace) :
    takeUid.outcome h w = (.ok w.nextUid, { w with nextUid := w.nextUid + 1 }) := rfl

def note (n : Notice) : Call Unit :=
  modify fun w => { w with notices := n :: w.notices }

@[simp]
theorem outcome_note (n : Notice) (h : Host) (w : Workspace) :
    (note n).outcome h w = (.ok (), { w with notices := n :: w.notices }) := rfl

/-- Tells what the call does, if that is wanted. -/
def tell (text : String) : Call Unit := do
  if (← read).verbose then note (.message text)

@[simp]
theorem outcome_tell (text : String) (h : Host) (w : Workspace) :
    (tell text).outcome h w =
      (.ok (), if h.verbose then { w with notices := .message text :: w.notices } else w) := by
  simp only [tell, outcome_bind, outcome_read]
  split <;> rfl

def resolve (name : String) : Call DiskPath := do
  ofExcept ((← read).resolve name)

@[simp]
theorem outcome_resolve (name : String) (h : Host) (w : Workspace) :
    (resolve name).outcome h w = (h.resolve name, w) := by
  simp only [resolve, outcome_bind, outcome_read, outcome_ofExcept]

def readFile (role : FileRole) (path : DiskPath) : Call Bytes := do
  match (← read).read path with
  | .ok content => return content
  | .error reason => throw (.unreadable role path.display reason)

@[simp]
theorem outcome_readFile (role : FileRole) (path : DiskPath) (h : Host) (w : Workspace) :
    (readFile role path).outcome h w =
      ((h.read path).mapError (Fault.unreadable role path.display), w) := by
  simp only [readFile, outcome_bind, outcome_read]
  cases h.read path <;> rfl

end Call

end Builtins
