import Builtins.Proofs.Run.Outcome
import Builtins.Run

/-!
# Histories of runs

A run answers one request after the other in the workspace that the last one left behind.  What its
surroundings offer may change with every request: files come and go, and a name may lead elsewhere.

* `Registry.reply` — the answer to one request; `Run.call` is one of these (`call_eq_reply`);
* `Registry.Runs` — the runs of a registry on a fresh workspace, with all answers so far;
* `growth_reply`, `touches_reply` — what an answer does to the workspace;
* `reply_of_offers`, `reply_of_error`, `reply_standard` — what it is for a request that is an
  operation, for one that reaches no body, and for any request for a standard function;
* `Runs.plain` — a run of such requests does not depend on what else is registered;
* `nextUid_of_runs` — the next uid, as long as the counter has not gone round.
-/

namespace Builtins

/-- A request to call a function, with what the surroundings offer to the call. -/
structure Request where
  host : Host
  name : String
  args : List Value

/-- The request for an operation. -/
def Operation.request (op : Operation) (h : Host) : Request := ⟨h, op.function, op.arguments⟩

/-- A request is for one operation only. -/
theorem Operation.request_inj {op op' : Operation} {h h' : Host}
    (heq : op.request h = op'.request h') : op = op' ∧ h = h' := by
  obtain ⟨hhost, hname, hargs⟩ := Request.mk.inj heq
  refine ⟨?_, hhost⟩
  cases op <;> cases op' <;> simp [function] at hname <;> simpa [arguments] using hargs

/-- Whether a request is for a standard function, with whatever arguments. -/
def Request.IsStandard (q : Request) : Prop := ∃ op : Operation, op.function = q.name

/-- A request that was answered: the workspace before it, its result, and the workspace after it. -/
structure Reply where
  request : Request
  before : Workspace
  result : Except Fault Value
  after : Workspace

namespace Reply

/-- What was told during the call, the latest first. -/
def told (e : Reply) : List Notice :=
  e.after.notices.take (e.after.notices.length - e.before.notices.length)

/-- How far the call moved the counter of uids. -/
def uidsTaken (e : Reply) : Nat := (e.after.nextUid - e.before.nextUid).toNat

/-- The document that the call loaded from a path, if it did. -/
def loaded? (loader : Loader) (path : DiskPath) (e : Reply) : Option Document :=
  if Notice.load loader.label path true ∈ e.told then
    (loader.load e.request.host path).toOption
  else none

/-- The notices of a call are those in front of the older ones. -/
theorem told_eq {e : Reply} {ns : List Notice} (h : e.after.notices = ns ++ e.before.notices) :
    e.told = ns := by
  rw [told, h, List.length_append, Nat.add_sub_cancel, List.take_left]

end Reply

/-- The answer of a registry to a request. -/
def Registry.reply (r : Registry) (w : Workspace) (q : Request) : Reply :=
  let outcome := (r.dispatch q.name q.args).outcome q.host w
  ⟨q, w, outcome.1, outcome.2⟩

/-- A call of a run is an answer of its registry, with what the disk offers at that time. -/
theorem Run.call_eq_reply (run : Run) (d : Disk) (name : String) (args : List Value) :
    run.call d name args =
      let e := run.registry.reply run.workspace ⟨run.host d, name, args⟩
      (e.result, { run with workspace := e.after }) := rfl

/-- The runs of a registry that start fresh: their answers in order, and the workspace they came
to. -/
inductive Registry.Runs (r : Registry) : List Reply → Workspace → Prop
  | fresh : r.Runs [] Workspace.fresh
  | call {history : List Reply} {w : Workspace} (q : Request) :
      r.Runs history w → r.Runs (history ++ [r.reply w q]) (r.reply w q).after

/-- How many uids the calls of a history took in all. -/
def uidsTaken : List Reply → Nat
  | [] => 0
  | e :: history => e.uidsTaken + uidsTaken history

/-- The document of the first successful load of a path. -/
def firstLoad? (loader : Loader) (history : List Reply) (path : DiskPath) : Option Document :=
  history.findSome? (Reply.loaded? loader path)

/-- The document of the first successful load of a path that is shown as a text. -/
def LoadedAs (loader : Loader) (history : List Reply) (shown : String) (d : Document) : Prop :=
  ∃ path : DiskPath, path.display = shown ∧ firstLoad? loader history path = some d

theorem uidsTaken_append (xs ys : List Reply) :
    uidsTaken (xs ++ ys) = uidsTaken xs + uidsTaken ys := by
  induction xs with
  | nil => exact (Nat.zero_add _).symm
  | cons e xs ih => rw [List.cons_append, uidsTaken, uidsTaken, ih, Nat.add_assoc]

theorem uidsTaken_singleton (e : Reply) : uidsTaken [e] = e.uidsTaken := by
  rw [uidsTaken, uidsTaken, Nat.add_zero]

/-- A load stays the first one, whatever is loaded later. -/
theorem firstLoad?_append {loader : Loader} {history later : List Reply} {path : DiskPath}
    {d : Document} (h : firstLoad? loader history path = some d) :
    firstLoad? loader (history ++ later) path = some d := by
  rw [firstLoad?, List.findSome?_append]
  rw [firstLoad?] at h
  rw [h, Option.some_or]

theorem firstLoad?_concat (loader : Loader) (history : List Reply) (e : Reply) (path : DiskPath) :
    firstLoad? loader (history ++ [e]) path =
      (firstLoad? loader history path).or (e.loaded? loader path) := by
  rw [firstLoad?, List.findSome?_append]
  simp [firstLoad?]

namespace Registry

variable {r : Registry} {loader : Loader} {free : String → Prop}

/-! ### Runs and their parts -/

/-- Every start of a run is a run. -/
theorem Runs.of_append {xs ys : List Reply} {w : Workspace} (h : r.Runs (xs ++ ys) w) :
    ∃ w', r.Runs xs w' := by
  generalize hz : xs ++ ys = zs at h
  induction h generalizing ys with
  | fresh =>
    obtain ⟨rfl, -⟩ := List.append_eq_nil_iff.1 hz
    exact ⟨_, .fresh⟩
  | @call history w q hrun ih =>
    rcases List.eq_nil_or_concat ys with rfl | ⟨ys', y, rfl⟩
    · rw [List.append_nil] at hz
      subst hz
      exact ⟨_, .call q hrun⟩
    · rw [List.concat_eq_append, ← List.append_assoc] at hz
      exact ih (List.append_inj_left' hz rfl)

/-- The last answer of a run is given in the workspace that the run before it came to. -/
theorem Runs.of_concat {xs : List Reply} {e : Reply} {w : Workspace} (h : r.Runs (xs ++ [e]) w) :
    ∃ w' q, r.Runs xs w' ∧ e = r.reply w' q ∧ w = e.after := by
  generalize hz : xs ++ [e] = zs at h
  cases h with
  | fresh => simp at hz
  | @call history w q hrun =>
    obtain ⟨rfl, hlast⟩ := List.append_inj' hz rfl
    have he : e = r.reply w q := (List.cons.inj hlast).1
    exact ⟨w, q, hrun, he, by rw [he]⟩

/-- Every answer in a run was given in the workspace of some earlier time. -/
theorem Runs.exists_reply {history : List Reply} {e : Reply} (h : r.Runs history w)
    (he : e ∈ history) : ∃ w₀ q, e = r.reply w₀ q := by
  obtain ⟨before, after, rfl⟩ := List.append_of_mem he
  have hsplit : before ++ e :: after = (before ++ [e]) ++ after := by simp
  rw [hsplit] at h
  obtain ⟨w₁, hrun⟩ := h.of_append
  obtain ⟨w₀, q, -, hreply, -⟩ := hrun.of_concat
  exact ⟨w₀, q, hreply⟩

/-- The next uid after a run in which the counter did not go round. -/
theorem nextUid_of_runs {history : List Reply} {w : Workspace} (h : r.Runs history w)
    (hfew : uidsTaken history < UInt64.size - 1) : w.nextUid.toNat = 1 + uidsTaken history := by
  induction h with
  | fresh => rfl
  | @call history w q hrun ih =>
    rw [uidsTaken_append, uidsTaken_singleton] at hfew ⊢
    have hw : w.nextUid.toNat = 1 + uidsTaken history := ih (by omega)
    have hsum : (r.reply w q).after.nextUid =
        w.nextUid + ((r.reply w q).after.nextUid - w.nextUid) := by
      rw [UInt64.add_comm, UInt64.sub_add_cancel]
    have htaken : ((r.reply w q).after.nextUid - w.nextUid).toNat = (r.reply w q).uidsTaken := rfl
    have hsize : UInt64.size = 18446744073709551616 := rfl
    rw [hsum, UInt64.toNat_add, hw, htaken]
    omega

/-! ### What an answer does -/

/-- The workspace after a failure was told. -/
def closed (result : Except Fault Value) (w : Workspace) : Workspace :=
  match result with
  | .ok _ => w
  | .error fault => w.noteAll [.failure fault]

theorem reply_of_offers (hr : r.Offers loader) (op : Operation) (h : Host) (w : Workspace) :
    (r.reply w (op.request h)).result = ((op.body loader).outcome h w).1 ∧
      (r.reply w (op.request h)).after =
        closed ((op.body loader).outcome h w).1 ((op.body loader).outcome h w).2 := by
  have hd := outcome_dispatch r op.function op.arguments h w
  rw [invoke_of_offers hr] at hd
  simp only [reply, Operation.request, hd]
  rcases (op.body loader).outcome h w with ⟨_ | _, _⟩ <;> exact ⟨rfl, rfl⟩

/-- The whole answer to an operation. -/
theorem reply_eq_of_offers (hr : r.Offers loader) (op : Operation) (h : Host) (w : Workspace) :
    r.reply w (op.request h) =
      ⟨op.request h, w, ((op.body loader).outcome h w).1,
        closed ((op.body loader).outcome h w).1 ((op.body loader).outcome h w).2⟩ := by
  obtain ⟨hresult, hafter⟩ := reply_of_offers hr op h w
  rw [← hafter, ← hresult]
  rfl

theorem reply_operation (hr : r.Hosts loader free) (op : Operation) (h : Host) (w : Workspace) :
    (r.reply w (op.request h)).result = ((op.body loader).outcome h w).1 ∧
      (r.reply w (op.request h)).after =
        closed ((op.body loader).outcome h w).1 ((op.body loader).outcome h w).2 :=
  reply_of_offers hr.offers op h w

/-- A request that reaches no body is told as a failure. -/
theorem reply_of_error {q : Request} {fault : Fault}
    (h : r.resolve q.name (q.args.map Value.kind) = .error fault) (w : Workspace) :
    r.reply w q = ⟨q, w, .error fault, w.noteAll [.failure fault]⟩ := by
  have hinvoke : (r.invoke q.name q.args).outcome q.host w = (.error fault, w) := by
    rw [invoke, Call.outcome_bind, Call.outcome_ofExcept, h]
  have hd := outcome_dispatch r q.name q.args q.host w
  rw [hinvoke] at hd
  simp only [reply, hd]
  rfl

/-- A request for a standard function is an operation, or it reaches no body. -/
theorem reply_standard (hr : r.Offers loader) {q : Request} (hq : q.IsStandard) (w : Workspace) :
    (∃ op : Operation, q = op.request q.host) ∨
      ∃ fault, r.reply w q = ⟨q, w, .error fault, w.noteAll [.failure fault]⟩ := by
  obtain ⟨op, hop⟩ := hq
  rcases operation_or_error hr op q.args with ⟨op', hname, hargs⟩ | ⟨fault, hres⟩
  · exact .inl ⟨op', by rw [Operation.request, hname, hargs, hop]⟩
  · exact .inr ⟨fault, reply_of_error (hop ▸ hres) w⟩

/-- A request for a standard function is answered as if there were no other function. -/
theorem reply_plain (hr : r.Offers loader) {q : Request} (hq : q.IsStandard) (w : Workspace) :
    r.reply w q = (plain loader).reply w q := by
  obtain ⟨op, hop⟩ := hq
  rw [reply, reply, ← hop, dispatch_of_offers hr (hosts_plain loader fun _ => True).offers]

/-- So a run of such requests is one of the registry that has no other. -/
theorem Runs.plain (hr : r.Offers loader) {history : List Reply} {w : Workspace}
    (h : r.Runs history w) (hstandard : ∀ e ∈ history, e.request.IsStandard) :
    (plain loader).Runs history w := by
  induction h with
  | fresh => exact .fresh
  | @call history w q hrun ih =>
    have hq : q.IsStandard := hstandard (r.reply w q) (by simp)
    rw [reply_plain hr hq]
    exact .call q (ih fun e he => hstandard e (List.mem_append_left _ he))

/-- The answer to an operation grows the workspace as the operation does. -/
theorem growth_of_offers (hr : r.Offers loader) (op : Operation) (h : Host) (w : Workspace) :
    Growth loader h w op (r.reply w (op.request h)).result (r.reply w (op.request h)).after := by
  obtain ⟨hresult, hafter⟩ := reply_of_offers hr op h w
  rw [hresult, hafter]
  generalize hg : (op.body loader).outcome h w = outcome
  have hgrow := growth_operation loader h w op
  rw [hg] at hgrow
  obtain ⟨result, w'⟩ := outcome
  cases result with
  | ok v => exact hgrow
  | error fault =>
    cases hgrow with
    | quiet notices hload => exact .quiet (.failure fault :: notices) (by simpa using hload)

theorem growth_reply (hr : r.Hosts loader free) (op : Operation) (h : Host) (w : Workspace) :
    Growth loader h w op (r.reply w (op.request h)).result (r.reply w (op.request h)).after :=
  growth_of_offers hr.offers op h w

/-- The answer to any other request only touches the workspace. -/
theorem touches_reply (hr : r.Hosts loader free) (q : Request) (w : Workspace)
    (hno : ∀ op h, q ≠ Operation.request op h) : Touches free w (r.reply w q).after := by
  have hno' : ∀ op : Operation, op.function = q.name → op.arguments ≠ q.args := by
    intro op hname hargs
    exact hno op q.host (by rw [Operation.request, hname, hargs])
  have ht := invoke_other hr q.name q.args hno' q.host w
  have hd := outcome_dispatch r q.name q.args q.host w
  simp only [reply, hd]
  rcases ho : (r.invoke q.name q.args).outcome q.host w with ⟨fault | v, w'⟩ <;> rw [ho] at ht
  · exact .failure fault ht
  · exact ht

end Registry

/-- What only touches a workspace tells of no load. -/
theorem Touches.notices {free : String → Prop} {w w' : Workspace} (h : Touches free w w') :
    ∃ ns, w'.notices = ns ++ w.notices ∧ ∀ label path, Notice.load label path true ∉ ns := by
  induction h with
  | refl => exact ⟨[], rfl, by simp⟩
  | takeUid _ ih => exact ih
  | store key text _ _ ih => exact ih
  | message text _ ih =>
    obtain ⟨ns, hns, hload⟩ := ih
    exact ⟨.message text :: ns, by simp [hns], by simpa using hload⟩
  | failure fault _ ih =>
    obtain ⟨ns, hns, hload⟩ := ih
    exact ⟨.failure fault :: ns, by simp [hns], by simpa using hload⟩

end Builtins
