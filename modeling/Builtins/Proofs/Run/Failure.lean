import Builtins.Proofs.Run.History
import Mathlib.Data.List.Forall2

/-!
# Failed calls

A call that fails leaves nothing behind but the notice of its failure.  Nobody who calls can tell later
that it was made: what was told is for those outside, and no function can listen.

* `Call.Tells` — a call that does not listen to what was told before, and what it tells itself;
* `Operation.tells` — a standard function does not listen, and leaves it to others to report failures;
* `Registry.replies` — the answers to requests that come one after the other;
* `Registry.FailsCleanly` — what a registry owes to those whose calls fail;
* `failsCleanly_of_offers` — every registry with the standard functions owes it and pays.
-/

namespace Builtins

/-! ### What is reported -/

/-- The fault that a notice reports, if it reports one. -/
def Notice.fault? : Notice → Option Fault
  | failure fault => some fault
  | _ => none

/-- Whether a notice reports no failure. -/
def Notice.IsRemark (n : Notice) : Prop := n.fault? = none

/-- The faults that notices report, in the order in which they were told. -/
def reported (notices : List Notice) : List Fault := (notices.filterMap Notice.fault?).reverse

theorem reported_append (later earlier : List Notice) :
    reported (later ++ earlier) = reported earlier ++ reported later := by
  rw [reported, List.filterMap_append, List.reverse_append]
  rfl

theorem reported_remarks {notices : List Notice} (h : ∀ n ∈ notices, n.IsRemark) :
    reported notices = [] := by
  rw [reported, List.filterMap_eq_nil_iff.2 h]
  rfl

/-! ### Calls that do not listen -/

/-- A call that does not listen: what it gives and does is the same whatever was told before, and it
only tells notices of which `P` holds. -/
def Call.Tells {α : Type} (P : Notice → Prop) (c : Call α) : Prop :=
  ∀ h cache uid, ∃ result cache' uid' told, (∀ n ∈ told, P n) ∧
    ∀ notices, c.outcome h ⟨cache, uid, notices⟩ = (result, ⟨cache', uid', told ++ notices⟩)

namespace Call.Tells

variable {α β : Type} {P Q : Notice → Prop} {c : Call α}

theorem mono (hc : c.Tells P) (hPQ : ∀ n, P n → Q n) : c.Tells Q := by
  intro h cache uid
  obtain ⟨result, cache', uid', told, htold, hout⟩ := hc h cache uid
  exact ⟨result, cache', uid', told, fun n hn => hPQ n (htold n hn), hout⟩

/-- A call whose outcome is the same whatever was told, and that tells nothing. -/
theorem silent (hc : ∀ h cache uid, ∃ result cache' uid', ∀ notices,
    c.outcome h ⟨cache, uid, notices⟩ = (result, ⟨cache', uid', notices⟩)) : c.Tells P := by
  intro h cache uid
  obtain ⟨result, cache', uid', hout⟩ := hc h cache uid
  refine ⟨result, cache', uid', [], ?_, hout⟩
  intro n hn
  cases hn

theorem pure (a : α) : (Pure.pure a : Call α).Tells P :=
  silent fun _ cache uid => ⟨.ok a, cache, uid, fun _ => rfl⟩

theorem read : (MonadReader.read : Call Host).Tells P :=
  silent fun h cache uid => ⟨.ok h, cache, uid, fun _ => rfl⟩

theorem ofExcept (result : Except Fault α) : (Call.ofExcept result).Tells P :=
  silent fun _ cache uid => ⟨result, cache, uid, fun _ => outcome_ofExcept _ _ _⟩

theorem throw (fault : Fault) : (MonadExcept.throw fault : Call α).Tells P :=
  silent fun _ cache uid => ⟨.error fault, cache, uid, fun _ => rfl⟩

theorem isCached (key : String) : (Call.isCached key).Tells P :=
  silent fun _ cache uid => ⟨.ok (cache.get? key).isSome, cache, uid, fun _ => rfl⟩

theorem expect (handle : String) (kinds : List ResourceKind) : (Call.expect handle kinds).Tells P :=
  silent fun _ cache uid => ⟨cache.expect handle kinds, cache, uid, fun _ => outcome_expect _ _ _ _⟩

theorem store (key : String) (resource : Resource) : (Call.store key resource).Tells P :=
  silent fun _ cache uid => ⟨.ok (), cache.insert key resource, uid, fun _ => rfl⟩

theorem takeUid : Call.takeUid.Tells P :=
  silent fun _ cache uid => ⟨.ok uid, cache, uid + 1, fun _ => rfl⟩

theorem resolve (name : String) : (Call.resolve name).Tells P :=
  silent fun h cache uid => ⟨h.resolve name, cache, uid, fun _ => outcome_resolve _ _ _⟩

theorem readFile (role : FileRole) (path : DiskPath) : (Call.readFile role path).Tells P :=
  silent fun h cache uid =>
    ⟨(h.read path).mapError (Fault.unreadable role path.display), cache, uid,
      fun _ => outcome_readFile _ _ _ _⟩

theorem note {n : Notice} (hn : P n) : (Call.note n).Tells P := by
  intro h cache uid
  refine ⟨.ok (), cache, uid, [n], ?_, fun notices => rfl⟩
  simpa using hn

theorem tell {text : String} (hmessage : P (.message text)) : (Call.tell text).Tells P := by
  intro h cache uid
  cases hv : h.verbose with
  | false => exact ⟨.ok (), cache, uid, [], by simp, fun _ => by simp [hv]⟩
  | true => exact ⟨.ok (), cache, uid, [.message text], by simpa using hmessage, fun _ => by simp [hv]⟩

/-- What follows a call is told after it. -/
theorem bind {f : α → Call β} (hc : c.Tells P) (hf : ∀ a, (f a).Tells P) : (c >>= f).Tells P := by
  intro h cache uid
  obtain ⟨result, cache₁, uid₁, told₁, htold₁, hout₁⟩ := hc h cache uid
  cases result with
  | error fault =>
    exact ⟨.error fault, cache₁, uid₁, told₁, htold₁, fun notices => by rw [outcome_bind, hout₁]⟩
  | ok a =>
    obtain ⟨result, cache₂, uid₂, told₂, htold₂, hout₂⟩ := hf a h cache₁ uid₁
    refine ⟨result, cache₂, uid₂, told₂ ++ told₁, ?_, fun notices => ?_⟩
    · intro n hn
      rcases List.mem_append.1 hn with hn | hn
      · exact htold₂ n hn
      · exact htold₁ n hn
    · rw [outcome_bind, hout₁, List.append_assoc]
      exact hout₂ _

theorem map {f : α → β} (hc : c.Tells P) : (f <$> c).Tells P := by
  rw [← bind_pure_comp]
  exact hc.bind fun a => .pure (f a)

/-- A handle that is there is given at once. -/
theorem unlessCached {key : String} {make : Call String} (hmake : make.Tells P) :
    (do if ← Call.isCached key then return key else make : Call String).Tells P := by
  refine .bind (.isCached key) fun cached => ?_
  cases cached with
  | true => exact .pure key
  | false => exact hmake

end Call.Tells

/-! ### The standard functions do not listen -/

theorem tells_run (loader : Loader) (path : DiskPath) :
    (loader.run path).Tells Notice.IsRemark :=
  .bind .read fun h => .bind (.note rfl) fun _ => .ofExcept (loader.load h path)

theorem tells_openDocument (loader : Loader) (name : String) :
    (openDocument loader name).Tells Notice.IsRemark :=
  .bind (.resolve name) fun path => .unlessCached <|
    .bind (.tell rfl) fun _ => .bind (tells_run loader path) fun _ =>
      .bind .takeUid fun _ => .bind .takeUid fun _ =>
        .bind (.store _ _) fun _ => .bind (.store _ _) fun _ => .pure _

section Silent

variable {P : Notice → Prop}

theorem tells_documentRoot (handle : String) : (documentRoot handle).Tells P :=
  .bind (.expect handle _) fun _ => .unlessCached <|
    .bind (.ofExcept _) fun _ => .bind .takeUid fun _ => .bind (.store _ _) fun _ => .pure _

theorem tells_elementsByTag (handle tag : String) : (elementsByTag handle tag).Tells P :=
  .bind (.expect handle _) fun _ => .unlessCached <|
    .bind (.ofExcept _) fun _ => .bind .takeUid fun _ => .bind (.store _ _) fun _ => .pure _

theorem tells_nodeList (handle : String) : (nodeList handle).Tells P := by
  refine .bind (.expect handle _) fun c => ?_
  cases c.nodes? with
  | some ns => exact .pure _
  | none => exact .throw _

theorem tells_listElement (handle : String) (index : Int64) :
    (listElement handle index).Tells P := by
  refine .bind (tells_nodeList handle) fun found => ?_
  obtain ⟨c, ns⟩ := found
  dsimp only
  split
  · exact .throw _
  · exact .unlessCached <| .bind .takeUid fun _ => .bind (.store _ _) fun _ => .pure _

theorem tells_elementAt (handle : String) : (elementAt handle).Tells P :=
  .bind (.expect handle _) fun _ => .bind (.ofExcept _) fun _ => .pure _

theorem tells_embedFile (name token : String)
    (hP : ∀ shown : String, P (.message s!"loading content of bin file '{shown}'")) :
    (embedFile name token).Tells P :=
  .bind (.ofExcept _) fun _ => .bind (.resolve name) fun path => .bind (.tell (hP path.display)) fun _ =>
    .bind (.readFile _ _) fun _ => .pure _

/-- Apart from opening documents, a standard function tells of nothing but files that it embeds. -/
theorem Operation.tells_of_ne (loader : Loader) {op : Operation}
    (hop : ∀ name, op ≠ .openDocument name)
    (hP : ∀ shown : String, P (.message s!"loading content of bin file '{shown}'")) :
    (op.body loader).Tells P := by
  cases op with
  | openDocument name => exact absurd rfl (hop name)
  | documentRoot handle => exact (tells_documentRoot handle).map
  | elementsByTag handle tag => exact (tells_elementsByTag handle tag).map
  | listSize handle => exact .bind (.bind (tells_nodeList handle) fun _ => .pure _) fun _ => .pure _
  | listElement handle index => exact (tells_listElement handle index).map
  | elementName handle => exact .bind (tells_elementAt handle) fun _ => .pure _
  | elementText handle => exact .bind (tells_elementAt handle) fun _ => .pure _
  | elementAttribute handle key => exact .bind (tells_elementAt handle) fun _ => .pure _
  | embedFile name token => exact tells_embedFile name token hP

end Silent

/-- A standard function does not listen, and leaves it to others to report its failure. -/
theorem Operation.tells (loader : Loader) (op : Operation) :
    (op.body loader).Tells Notice.IsRemark := by
  by_cases hop : ∃ name, op = .openDocument name
  · obtain ⟨name, rfl⟩ := hop
    exact (tells_openDocument loader name).map
  · exact op.tells_of_ne loader (fun name h => hop ⟨name, h⟩) fun _ => rfl

/-! ### One answer after the other -/

/-- A registry whose other functions do not listen, and tell only notices of which `P` holds. -/
def Registry.OthersTell (r : Registry) (P : Notice → Prop) : Prop :=
  ∀ name d, r.descriptor? name = some d → (∀ op : Operation, op.function ≠ name) →
    ∀ o ∈ d.overloads, ∀ args, (o.body args).Tells P

/-- Whether a registry finds no body for a request. -/
def Registry.Refuses (r : Registry) (q : Request) : Prop :=
  ∃ fault, r.resolve q.name (q.args.map Value.kind) = .error fault

/-- The answers to requests that come one after the other, the first one in a given workspace. -/
def Registry.replies (r : Registry) (w : Workspace) : List Request → List Reply
  | [] => []
  | q :: rest => r.reply w q :: r.replies (r.reply w q).after rest

/-- The workspace that these answers leave behind. -/
def Registry.afterAll (r : Registry) (w : Workspace) : List Request → Workspace
  | [] => w
  | q :: rest => r.afterAll (r.reply w q).after rest

namespace Reply

/-- The fault that a call returned, if it failed. -/
def fault? (e : Reply) : Option Fault :=
  match e.result with
  | .ok _ => none
  | .error fault => some fault

theorem fault?_eq_some {e : Reply} {fault : Fault} :
    e.fault? = some fault ↔ e.result = .error fault := by
  rw [fault?]
  cases e.result <;> simp

/-- Two answers that nobody can tell apart: to the same request, with the same result, with the same
notices, and with the same cache and counter after them. -/
structure Alike (e e' : Reply) : Prop where
  request : e.request = e'.request
  result : e.result = e'.result
  told : e.told = e'.told
  cache : e.after.cache = e'.after.cache
  nextUid : e.after.nextUid = e'.after.nextUid

end Reply

namespace Registry

variable {r : Registry} {loader : Loader} {P : Notice → Prop}

/-- No body listens, neither of a standard function nor of another one. -/
theorem tells_invoke (hr : r.Offers loader) (hothers : r.OthersTell P)
    (hremarks : ∀ n : Notice, n.IsRemark → P n) (name : String) (args : List Value) :
    (r.invoke name args).Tells P := by
  cases hres : r.resolve name (args.map Value.kind) with
  | error fault =>
    exact .silent fun _ cache uid => ⟨.error fault, cache, uid, fun _ => by
      rw [invoke, Call.outcome_bind, Call.outcome_ofExcept, hres]⟩
  | ok o =>
    by_cases hname : ∃ op : Operation, op.function = name
    · obtain ⟨op, rfl⟩ := hname
      rcases operation_or_error hr op args with ⟨op', hop, rfl⟩ | ⟨fault, hfault⟩
      · rw [← hop, invoke_of_offers hr]
        exact (op'.tells loader).mono hremarks
      · rw [hres] at hfault
        cases hfault
    · obtain ⟨d, hd, ho, -⟩ := resolve_ok hres
      rw [invoke, hres]
      exact hothers name d hd (fun op hop => hname ⟨op, hop⟩) o ho args

/-- An answer is the same whatever was told before it, and tells of its own failure last. -/
theorem reply_of_tells {q : Request} (ht : (r.invoke q.name q.args).Tells P) (cache : Cache)
    (uid : UInt64) :
    ∃ result cache' uid' told, (∀ n ∈ told, P n) ∧ ∀ notices,
      r.reply ⟨cache, uid, notices⟩ q =
        ⟨q, ⟨cache, uid, notices⟩, result, closed result ⟨cache', uid', told ++ notices⟩⟩ := by
  obtain ⟨result, cache', uid', told, htold, hout⟩ := ht q.host cache uid
  refine ⟨result, cache', uid', told, htold, fun notices => ?_⟩
  have hd := outcome_dispatch r q.name q.args q.host ⟨cache, uid, notices⟩
  rw [hout] at hd
  simp only [reply, hd]
  cases result <;> rfl

/-- Answers in two workspaces that differ in what was told are alike. -/
theorem alike_replies (ht : ∀ name args, (r.invoke name args).Tells P) (qs : List Request) :
    ∀ {w w' : Workspace}, w.cache = w'.cache → w.nextUid = w'.nextUid →
      List.Forall₂ Reply.Alike (r.replies w qs) (r.replies w' qs) := by
  induction qs with
  | nil =>
    intro w w' _ _
    exact .nil
  | cons q rest ih =>
    intro w w' hcache huid
    obtain ⟨cache, uid, notices⟩ := w
    obtain ⟨cache', uid', notices'⟩ := w'
    obtain rfl : cache = cache' := hcache
    obtain rfl : uid = uid' := huid
    obtain ⟨result, cache', uid', told, -, hreply⟩ := reply_of_tells (ht q.name q.args) cache uid
    have halike : (r.reply ⟨cache, uid, notices⟩ q).Alike (r.reply ⟨cache, uid, notices'⟩ q) := by
      rw [hreply, hreply]
      cases result with
      | ok v => exact ⟨rfl, rfl, by rw [Reply.told_eq rfl, Reply.told_eq rfl], rfl, rfl⟩
      | error fault =>
        refine ⟨rfl, rfl, ?_, rfl, rfl⟩
        rw [@Reply.told_eq _ (.failure fault :: told) rfl, @Reply.told_eq _ (.failure fault :: told) rfl]
    exact .cons halike (ih halike.cache halike.nextUid)

/-- A failure is reported once, by the answer itself, and a success is not reported. -/
theorem reported_reply {q : Request} (ht : (r.invoke q.name q.args).Tells Notice.IsRemark)
    (w : Workspace) :
    (r.reply w q).after.notices = (r.reply w q).told ++ w.notices ∧
      reported (r.reply w q).told = (r.reply w q).fault?.toList := by
  obtain ⟨cache, uid, notices⟩ := w
  obtain ⟨result, cache', uid', told, htold, hreply⟩ := reply_of_tells ht cache uid
  have hnone : reported told = [] := reported_remarks htold
  rw [hreply]
  cases result with
  | ok v =>
    rw [Reply.told_eq rfl]
    exact ⟨rfl, hnone⟩
  | error fault =>
    rw [@Reply.told_eq _ ([.failure fault] ++ told) rfl, reported_append, hnone]
    exact ⟨rfl, rfl⟩

/-- What is reported in a run is what its calls returned as faults, in the same order. -/
theorem reported_afterAll (ht : ∀ name args, (r.invoke name args).Tells Notice.IsRemark)
    (qs : List Request) : ∀ w : Workspace,
      reported (r.afterAll w qs).notices =
        reported w.notices ++ (r.replies w qs).filterMap Reply.fault? := by
  induction qs with
  | nil =>
    intro w
    exact (List.append_nil _).symm
  | cons q rest ih =>
    intro w
    obtain ⟨hnotices, hreported⟩ := reported_reply (ht q.name q.args) w
    have hcons : (r.replies w (q :: rest)).filterMap Reply.fault? =
        (r.reply w q).fault?.toList ++ (r.replies (r.reply w q).after rest).filterMap Reply.fault? := by
      rw [replies, List.filterMap_cons]
      cases (r.reply w q).fault? <;> rfl
    rw [afterAll, ih, hnotices, reported_append, hreported, hcons, List.append_assoc]

/-- An answer among the answers to requests is the answer to one of them. -/
theorem exists_reply_of_mem {e : Reply} {qs : List Request} : ∀ {w : Workspace},
    e ∈ r.replies w qs → ∃ w' q, e = r.reply w' q := by
  induction qs with
  | nil =>
    intro w he
    cases he
  | cons q rest ih =>
    intro w he
    rcases List.mem_cons.1 he with rfl | he
    · exact ⟨w, q, rfl⟩
    · exact ih he

/-- A standard function that fails, or a request that reaches no body, leaves cache and counter as
they were. -/
theorem unchanged_of_error (hr : r.Offers loader) {w : Workspace} {q : Request} {fault : Fault}
    (hfault : (r.reply w q).result = .error fault) (hq : q.IsStandard ∨ r.Refuses q) :
    (r.reply w q).after.cache = w.cache ∧ (r.reply w q).after.nextUid = w.nextUid := by
  have hrefused : ∀ {fault' notices}, r.reply w q = ⟨q, w, .error fault', w.noteAll notices⟩ →
      (r.reply w q).after.cache = w.cache ∧ (r.reply w q).after.nextUid = w.nextUid := by
    intro fault' notices hreply
    rw [hreply]
    exact ⟨rfl, rfl⟩
  rcases hq with hstandard | ⟨fault', hres⟩
  · rcases reply_standard hr hstandard w with ⟨op, hop⟩ | ⟨fault', hreply⟩
    · -- Whatever an operation adds, it adds when it succeeds.
      have hgrow := growth_of_offers hr op q.host w
      rw [← hop, hfault] at hgrow
      generalize (r.reply w q).after = w' at hgrow ⊢
      cases hgrow with
      | quiet notices _ => exact ⟨rfl, rfl⟩
    · exact hrefused hreply
  · exact hrefused (reply_of_error hres w)

end Registry

/-! ### What is owed -/

/-- What a registry owes to those whose calls fail. -/
structure Registry.FailsCleanly (r : Registry) : Prop where
  /-- In whatever workspace, a standard function that fails leaves cache and counter as they were, and
  so does a call that reaches no body. -/
  unchanged : ∀ {w q fault}, (r.reply w q).result = .error fault → q.IsStandard ∨ r.Refuses q →
    (r.reply w q).after.cache = w.cache ∧ (r.reply w q).after.nextUid = w.nextUid
  /-- Whatever is called later, the answers are as if that call had not been made. -/
  forgotten : r.OthersTell (fun _ => True) → ∀ {w q fault} (later : List Request),
    (r.reply w q).result = .error fault → q.IsStandard ∨ r.Refuses q →
      List.Forall₂ Reply.Alike (r.replies (r.reply w q).after later) (r.replies w later)
  /-- What is reported in a run is what its calls returned as faults, each once and in the same order;
  a call that succeeds reports nothing. -/
  reported : r.OthersTell Notice.IsRemark → ∀ w qs,
    reported (r.afterAll w qs).notices =
        reported w.notices ++ (r.replies w qs).filterMap Reply.fault? ∧
      ∀ e ∈ r.replies w qs, reported e.told = e.fault?.toList

/-- Every registry with the standard functions fails cleanly, whatever else it has. -/
theorem failsCleanly_of_offers {r : Registry} {loader : Loader} (hr : r.Offers loader) :
    r.FailsCleanly where
  unchanged := Registry.unchanged_of_error hr
  forgotten hothers := by
    intro w q fault later hfault hq
    obtain ⟨hcache, huid⟩ := Registry.unchanged_of_error hr hfault hq
    exact Registry.alike_replies (Registry.tells_invoke hr hothers fun _ _ => trivial) later hcache huid
  reported hothers w qs := by
    have ht := Registry.tells_invoke hr hothers fun _ hn => hn
    refine ⟨Registry.reported_afterAll ht qs w, fun e he => ?_⟩
    obtain ⟨w', q, rfl⟩ := Registry.exists_reply_of_mem he
    exact (Registry.reported_reply (ht q.name q.args) w').2

/-- A document is opened, and then one that ends too early. -/
theorem failsCleanly_unclosed :
    let host : Host :=
      ⟨fun name => .ok name, fun path => .ok (utf8 (if path = "a" then "<a/>" else "<b>")), true⟩
    let fault := Fault.malformed (.unclosedElement "b") "b"
    let w := (Registry.standard.reply Workspace.fresh ((Operation.openDocument "a").request host)).after
    let e := Registry.standard.reply w ((Operation.openDocument "b").request host)
    e.result = .error fault ∧ e.after.cache = w.cache ∧ e.after.nextUid = w.nextUid ∧
      reported e.told = [fault] := by
  intro host fault w e
  have hfails := failsCleanly_of_offers (hosts_standard fun _ => True).offers
  have hfault : e.fault? = some fault := by decide +kernel
  have hresult : e.result = .error fault := Reply.fault?_eq_some.1 hfault
  obtain ⟨hcache, huid⟩ := hfails.unchanged hresult (.inl ⟨.openDocument "b", rfl⟩)
  have hothers : Registry.standard.OthersTell Notice.IsRemark := by
    intro name d hd hno
    obtain ⟨op, hop⟩ := Registry.standard_of_plain hd
    exact absurd hop (hno op)
  have hreported := (hfails.reported hothers w [(Operation.openDocument "b").request host]).2 e
    List.mem_cons_self
  rw [hfault] at hreported
  exact ⟨hresult, hcache, huid, hreported⟩

end Builtins
