import Builtins.Proofs.Run.Backing

/-!
# What can be asked of a handle

Any text can be given to a navigation function. Whether it answers is settled by what is under that
text in the cache, and a call that fails names the first reason why it cannot answer.

* `Shaped` — resources that wrap what their kind says; `shaped_of_runs` — no others come about,
  whatever is stored beside them;
* `Query.kinds`, `Query.Fits` — what has to be under a handle for a question about it;
* `Query.Refused` — why a question is refused; `Query.Refused.not_fits`, `Query.Refused.unique` — for
  one reason only, and only where it does not fit;
* `answers_or_refused` — there is no third outcome;
* `answersExactly_of_runs` — the outcome of every question at every time.
-/

namespace Builtins

/-! ### Resources and what they wrap -/

namespace Resource

/-- Whether a resource wraps what its kind says: a list if it is a node list, and one node if it is a
document or an element. -/
def Shaped : Resource → Prop
  | document c => c.node?.isSome
  | element c => c.node?.isSome
  | nodeList c => c.nodes?.isSome
  | other _ => True

/-- The number of nodes in a node list. -/
def size (r : Resource) : Nat := ((r.container?.bind Container.nodes?).getD []).length

theorem Shaped.exists_node {r : Resource} (hr : r.Shaped) (hk : r.kind ∈ nodeHandles) :
    ∃ c n, r.container? = some c ∧ c.node? = some n := by
  cases r with
  | document c => exact ⟨c, _, rfl, Option.eq_some_of_isSome hr⟩
  | element c => exact ⟨c, _, rfl, Option.eq_some_of_isSome hr⟩
  | nodeList c => simp [kind, nodeHandles] at hk
  | other text => simp [kind, nodeHandles] at hk

theorem Shaped.exists_nodes {r : Resource} (hr : r.Shaped) (hk : r.kind ∈ [ResourceKind.nodeList]) :
    ∃ c ns, r = .nodeList c ∧ c.wrapped = .nodes ns ∧ r.size = ns.length := by
  cases r with
  | nodeList c =>
    obtain ⟨uid, wrapped⟩ := c
    cases wrapped with
    | node n => cases hr
    | nodes ns => exact ⟨_, ns, rfl, rfl, rfl⟩
  | document c => simp [kind] at hk
  | element c => simp [kind] at hk
  | other text => simp [kind] at hk

end Resource

/-- Whether all resources of a cache wrap what their kinds say. -/
def Cache.Shaped (cache : Cache) : Prop := ∀ key r, cache.get? key = some r → r.Shaped

namespace Cache.Shaped

variable {cache : Cache} {w w' : Workspace}

theorem insert (hc : cache.Shaped) (key : String) {r : Resource} (hr : r.Shaped) :
    Cache.Shaped (Table.insert cache key r) := by
  intro key' r' hget
  rw [Table.get?_insert] at hget
  split at hget
  · cases hget
    exact hr
  · exact hc key' r' hget

theorem fresh : Workspace.fresh.cache.Shaped := by
  intro key r hget
  cases hget

/-- Nothing that is stored beside navigation wraps anything. -/
theorem touches {free : String → Prop} (hw : w.cache.Shaped) (ht : Touches free w w') :
    w'.cache.Shaped := by
  induction ht with
  | refl => exact hw
  | takeUid _ ih => exact ih
  | store key text _ _ ih => exact ih.insert key trivial
  | message text _ ih => exact ih
  | failure fault _ ih => exact ih

/-- What navigation stores wraps what its kind says. -/
theorem growth {loader : Loader} {h : Host} {op : Operation} {result : Except Fault Value}
    (hw : w.cache.Shaped) (hg : Growth loader h w op result w') : w'.cache.Shaped := by
  cases hg with
  | quiet notices _ => exact hw
  | opened _ _ _ =>
    apply insert
    · exact hw.insert _ rfl
    · rfl
  | rooted _ _ _ => exact hw.insert _ rfl
  | listed _ _ _ => exact hw.insert _ rfl
  | picked _ _ _ => exact hw.insert _ rfl

end Cache.Shaped

/-- Whatever the other functions of a registry store, and under whatever keys. -/
theorem shaped_of_runs {r : Registry} {loader : Loader} {free : String → Prop}
    (hr : r.Hosts loader free) {history : List Reply} {w : Workspace} (h : r.Runs history w) :
    w.cache.Shaped := by
  induction h with
  | fresh => exact .fresh
  | @call history w q hrun ih =>
    by_cases hop : ∃ op h, q = Operation.request op h
    · obtain ⟨op, host, rfl⟩ := hop
      exact ih.growth (Registry.growth_reply hr op host w)
    · exact ih.touches (Registry.touches_reply hr q w fun op host he => hop ⟨op, host, he⟩)

/-! ### What fits and what is refused -/

namespace Query

/-- The kinds of resources of which a question can be asked. -/
def kinds : Query → List ResourceKind
  | root => [.document]
  | list _ => nodeHandles
  | size => [.nodeList]
  | get _ => [.nodeList]
  | name => nodeHandles
  | text => nodeHandles
  | attr _ => nodeHandles

/-- Whether a question can be asked of a resource: an index has to be one of the list. -/
def Fits (q : Query) (r : Resource) : Prop :=
  r.kind ∈ q.kinds ∧ ∀ index, q = get index → 0 ≤ index.toInt ∧ index.toInt < r.size

/-- Why a question about a handle is refused. -/
inductive Refused (cache : Cache) (handle : String) : Query → Fault → Prop
  | unknown {q : Query} : cache.get? handle = none → Refused cache handle q (.unknownHandle handle)
  | wrongKind {q : Query} {r : Resource} :
      cache.get? handle = some r → r.kind ∉ q.kinds →
        Refused cache handle q (.wrongResource handle r.kind q.kinds)
  | outOfRange {index : Int64} {r : Resource} :
      cache.get? handle = some r → r.kind = .nodeList →
        ¬ (0 ≤ index.toInt ∧ index.toInt < r.size) →
          Refused cache handle (get index) (.indexOutOfRange index handle r.size)

variable {cache : Cache} {handle : String} {q : Query} {fault : Fault}

/-- A question that fits is not refused. -/
theorem Refused.not_fits (h : Refused cache handle q fault) {r : Resource}
    (hget : cache.get? handle = some r) : ¬ q.Fits r := by
  intro hfits
  cases h with
  | unknown hnone =>
    rw [hget] at hnone
    cases hnone
  | wrongKind hget' hk =>
    rw [hget] at hget'
    cases hget'
    exact hk hfits.1
  | outOfRange hget' _ hrange =>
    rw [hget] at hget'
    cases hget'
    exact hrange (hfits.2 _ rfl)

/-- There is one reason for which a question is refused. -/
theorem Refused.unique {fault' : Fault} (h : Refused cache handle q fault)
    (h' : Refused cache handle q fault') : fault = fault' := by
  cases h with
  | unknown hnone =>
    cases h' with
    | unknown _ => rfl
    | wrongKind hget _ => simp [hnone] at hget
    | outOfRange hget _ _ => simp [hnone] at hget
  | wrongKind hget hk =>
    cases h' with
    | unknown hnone => simp [hnone] at hget
    | wrongKind hget' _ =>
      rw [hget] at hget'
      cases hget'
      rfl
    | outOfRange hget' hk' _ =>
      rw [hget] at hget'
      cases hget'
      exact absurd (by simp [hk', kinds]) hk
  | outOfRange hget hk _ =>
    cases h' with
    | unknown hnone => simp [hnone] at hget
    | wrongKind hget' hk' =>
      rw [hget] at hget'
      cases hget'
      exact absurd (by simp [hk, kinds]) hk'
    | outOfRange hget' _ _ =>
      rw [hget] at hget'
      cases hget'
      rfl

end Query

/-! ### Every outcome -/

section Outcomes

variable {loader : Loader} {h : Host} {w : Workspace} {s : String}

/-- A resource of a kind that is not expected is refused, whether it wraps anything or not. -/
theorem expect_of_kind_not_mem {r : Resource} {kinds : List ResourceKind}
    (hget : w.cache.get? s = some r) (hk : r.kind ∉ kinds) :
    Cache.expect w.cache s kinds = .error (.wrongResource s r.kind kinds) := by
  cases hc : r.container? with
  | some c => exact Cache.expect_wrong hget hc hk
  | none => rw [Cache.expect, hget]; simp only [hc]

/-- What is found under the handle comes first, whatever is asked. -/
theorem outcome_of_expect_error {q : Query} {fault : Fault}
    (he : Cache.expect w.cache s q.kinds = .error fault) :
    (((q.on s).body loader).outcome h w).1 = .error fault := by
  have hlist : q.kinds = [.nodeList] → Cache.listAt w.cache s = .error fault := by
    intro hk
    rw [hk] at he
    rw [Cache.listAt, he]
  have helement : q.kinds = nodeHandles → Cache.elementAt w.cache s = .error fault := by
    intro hk
    rw [hk] at he
    rw [Cache.elementAt, he]
  cases q with
  | root =>
    simp only [Query.on, Operation.body, Call.outcome_map, outcome_documentRoot]
    rw [show Cache.expect w.cache s [.document] = .error fault from he]
    rfl
  | list tag =>
    simp only [Query.on, Operation.body, Call.outcome_map, outcome_elementsByTag]
    rw [show Cache.expect w.cache s nodeHandles = .error fault from he]
    rfl
  | size =>
    simp only [Query.on, Operation.body, Call.outcome_bind, outcome_listSize, hlist rfl]
    rfl
  | get index =>
    simp only [Query.on, Operation.body, Call.outcome_map, outcome_listElement, hlist rfl]
    rfl
  | name =>
    simp only [Query.on, Operation.body, Call.outcome_bind, outcome_elementAt, helement rfl]
  | text =>
    simp only [Query.on, Operation.body, Call.outcome_bind, outcome_elementAt, helement rfl]
  | attr key =>
    simp only [Query.on, Operation.body, Call.outcome_bind, outcome_elementAt, helement rfl]

theorem nodeAt?_isSome {ns : List Node} {index : Int64} :
    (nodeAt? ns index).isSome ↔ 0 ≤ index.toInt ∧ index.toInt < ns.length := by
  rw [nodeAt?]
  split
  · simp only [Option.isSome_none, Bool.false_eq_true, false_iff]
    omega
  · rw [isSome_getElem?]
    omega

theorem Resource.Shaped.singleNode {r : Resource} (hr : r.Shaped) {kinds : List ResourceKind}
    (hget : w.cache.get? s = some r) (hk : r.kind ∈ kinds) (hnode : r.kind ∈ nodeHandles) :
    ∃ c n, Cache.expect w.cache s kinds = .ok c ∧ Builtins.singleNode c s = .ok n := by
  obtain ⟨c, n, hc, hn⟩ := hr.exists_node hnode
  exact ⟨c, n, Cache.expect_ok.2 ⟨r, hget, hc, hk⟩, by rw [Builtins.singleNode, hn]⟩

theorem Resource.Shaped.listAt {r : Resource} (hr : r.Shaped) (hget : w.cache.get? s = some r)
    (hk : r.kind ∈ [ResourceKind.nodeList]) :
    ∃ c ns, Cache.listAt w.cache s = .ok (c, ns) ∧ r.size = ns.length := by
  obtain ⟨c, ns, rfl, hwrapped, hsize⟩ := hr.exists_nodes hk
  exact ⟨c, ns, Cache.listAt_ok.2 ⟨hget, hwrapped⟩, hsize⟩

/-- A question that fits is answered. -/
theorem outcome_of_fits (hw : w.cache.Shaped) {q : Query} {r : Resource}
    (hget : w.cache.get? s = some r) (hfits : q.Fits r) :
    ∃ v, (((q.on s).body loader).outcome h w).1 = .ok v := by
  obtain ⟨hk, hrange⟩ := hfits
  have hr : r.Shaped := hw s r hget
  have helement : r.kind ∈ nodeHandles → ∃ n, Cache.elementAt w.cache s = .ok n := by
    intro hnode
    obtain ⟨c, n, hc, hn⟩ := hr.singleNode hget hnode hnode
    exact ⟨_, by rw [Cache.elementAt, hc]; simp only [hn]; rfl⟩
  cases q with
  | root =>
    obtain ⟨c, n, hc, hn⟩ := hr.singleNode hget hk (by simp_all [Query.kinds, nodeHandles])
    simp only [Query.on, Operation.body, Call.outcome_map, outcome_documentRoot]
    rw [show Cache.expect w.cache s [.document] = .ok c from hc]
    simp only [hn]
    split <;> exact ⟨_, rfl⟩
  | list tag =>
    obtain ⟨c, n, hc, hn⟩ := hr.singleNode hget hk hk
    simp only [Query.on, Operation.body, Call.outcome_map, outcome_elementsByTag]
    rw [show Cache.expect w.cache s nodeHandles = .ok c from hc]
    simp only [hn]
    split <;> exact ⟨_, rfl⟩
  | size =>
    obtain ⟨c, ns, hns, -⟩ := hr.listAt hget hk
    simp only [Query.on, Operation.body, Call.outcome_bind, outcome_listSize, hns]
    exact ⟨_, rfl⟩
  | get index =>
    obtain ⟨c, ns, hns, hsize⟩ := hr.listAt hget hk
    obtain ⟨n, hn⟩ := Option.isSome_iff_exists.1
      (nodeAt?_isSome.2 (hsize ▸ hrange index rfl : 0 ≤ index.toInt ∧ index.toInt < ns.length))
    simp only [Query.on, Operation.body, Call.outcome_map, outcome_listElement, hns, hn]
    split <;> exact ⟨_, rfl⟩
  | name =>
    obtain ⟨n, hn⟩ := helement hk
    simp only [Query.on, Operation.body, Call.outcome_bind, outcome_elementAt, hn]
    exact ⟨_, rfl⟩
  | text =>
    obtain ⟨n, hn⟩ := helement hk
    simp only [Query.on, Operation.body, Call.outcome_bind, outcome_elementAt, hn]
    exact ⟨_, rfl⟩
  | attr key =>
    obtain ⟨n, hn⟩ := helement hk
    simp only [Query.on, Operation.body, Call.outcome_bind, outcome_elementAt, hn]
    exact ⟨_, rfl⟩

/-- An index that is none of the list is refused. -/
theorem outcome_out_of_range (hw : w.cache.Shaped) {index : Int64} {r : Resource}
    (hget : w.cache.get? s = some r) (hk : r.kind ∈ [ResourceKind.nodeList])
    (hrange : ¬ (0 ≤ index.toInt ∧ index.toInt < r.size)) :
    ((((Query.get index).on s).body loader).outcome h w).1 =
      .error (.indexOutOfRange index s r.size) := by
  obtain ⟨c, ns, hns, hsize⟩ := (hw s r hget).listAt hget hk
  have hnone : nodeAt? ns index = none := by
    rw [← Option.not_isSome_iff_eq_none, nodeAt?_isSome, ← hsize]
    exact hrange
  simp only [Query.on, Operation.body, Call.outcome_map, outcome_listElement, hns, hnone, hsize]
  rfl

/-- A question is answered where it fits, and else it is refused for a reason. -/
theorem answers_or_refused (hw : w.cache.Shaped) (loader : Loader) (h : Host) (s : String)
    (q : Query) :
    (∃ r v, w.cache.get? s = some r ∧ q.Fits r ∧
        (((q.on s).body loader).outcome h w).1 = .ok v) ∨
      ∃ fault, q.Refused w.cache s fault ∧
        (((q.on s).body loader).outcome h w).1 = .error fault := by
  cases hget : w.cache.get? s with
  | none =>
    exact .inr ⟨_, .unknown hget, outcome_of_expect_error (by rw [Cache.expect, hget])⟩
  | some r =>
    by_cases hk : r.kind ∈ q.kinds
    · by_cases hfits : q.Fits r
      · obtain ⟨v, hv⟩ := @outcome_of_fits loader h w s hw q r hget hfits
        exact .inl ⟨r, v, rfl, hfits, hv⟩
      · -- Of the right kind, so it is the index.
        have hindex : ∃ index, q = .get index ∧ ¬ (0 ≤ index.toInt ∧ index.toInt < r.size) := by
          by_contra hno
          refine hfits ⟨hk, fun index hq => ?_⟩
          by_contra hrange
          exact hno ⟨index, hq, hrange⟩
        obtain ⟨index, rfl, hrange⟩ := hindex
        exact .inr ⟨_, .outOfRange hget (List.mem_singleton.1 hk) hrange,
          outcome_out_of_range hw hget hk hrange⟩
    · exact .inr ⟨_, .wrongKind hget hk,
        outcome_of_expect_error (expect_of_kind_not_mem hget hk)⟩

end Outcomes

/-! ### Questions in a run -/

/-- The outcomes of all questions to a registry in a workspace, whatever the surroundings offer. -/
structure Registry.AnswersExactly (r : Registry) (w : Workspace) : Prop where
  /-- A question is answered where there is something that it fits. -/
  answered : ∀ host handle (q : Query),
    (∃ v, (r.reply w ((q.on handle).request host)).result = .ok v) ↔
      ∃ resource, w.cache.get? handle = some resource ∧ q.Fits resource
  /-- It fails with the reason for which it is refused. -/
  refused : ∀ host handle (q : Query) fault,
    (r.reply w ((q.on handle).request host)).result = .error fault ↔
      q.Refused w.cache handle fault
  /-- What is under a handle wraps what its kind says, so that no question finds the contrary. -/
  shaped : ∀ host handle (q : Query) handle',
    (r.reply w ((q.on handle).request host)).result ≠ .error (.holdsNodeList handle') ∧
      (r.reply w ((q.on handle).request host)).result ≠ .error (.holdsNoNodeList handle')
  /-- The category of a fault tells what was found under the handle. -/
  code : ∀ host handle (q : Query) fault,
    (r.reply w ((q.on handle).request host)).result = .error fault →
      (fault.code = .unknownHandle ∧ w.cache.get? handle = none) ∨
      ∃ resource, w.cache.get? handle = some resource ∧
        ((fault.code = .typeMismatch ∧ resource.kind ∉ q.kinds) ∨
          (fault.code = .indexOutOfRange ∧ resource.kind = .nodeList ∧ ∃ index, q = .get index ∧
            ¬ (0 ≤ index.toInt ∧ index.toInt < resource.size)))

/-- No question has another outcome in any run, whatever the other functions of the registry store. -/
theorem answersExactly_of_runs {r : Registry} {loader : Loader} {free : String → Prop}
    (hr : r.Hosts loader free) {history : List Reply} {w : Workspace} (h : r.Runs history w) :
    r.AnswersExactly w := by
  have hw : w.cache.Shaped := shaped_of_runs hr h
  have hresult : ∀ host handle (q : Query), (r.reply w ((q.on handle).request host)).result =
      (((q.on handle).body loader).outcome host w).1 := fun host handle q =>
    (Registry.reply_of_offers hr.offers (q.on handle) host w).1
  have hrefused : ∀ host handle (q : Query) fault,
      (r.reply w ((q.on handle).request host)).result = .error fault ↔
        q.Refused w.cache handle fault := by
    intro host handle q fault
    rw [hresult]
    rcases answers_or_refused hw loader host handle q with
      ⟨resource, v, hget, hfits, hv⟩ | ⟨fault', hfault, hout⟩
    · rw [hv]
      exact ⟨fun he => (by cases he), fun hfault => absurd hfits (hfault.not_fits hget)⟩
    · rw [hout]
      exact ⟨fun he => (by cases he; exact hfault), fun hfault' => by rw [hfault.unique hfault']⟩
  constructor
  case answered =>
    intro host handle q
    rw [hresult]
    rcases answers_or_refused hw loader host handle q with
      ⟨resource, v, hget, hfits, hv⟩ | ⟨fault, hfault, hout⟩
    · exact ⟨fun _ => ⟨resource, hget, hfits⟩, fun _ => ⟨v, hv⟩⟩
    · rw [hout]
      constructor
      · rintro ⟨v, hv⟩
        cases hv
      · rintro ⟨resource, hget, hfits⟩
        exact absurd hfits (hfault.not_fits hget)
  case refused => exact hrefused
  case shaped =>
    intro host handle q handle'
    constructor
    · intro he
      cases (hrefused host handle q _).1 he
    · intro he
      cases (hrefused host handle q _).1 he
  case code =>
    intro host handle q fault he
    cases (hrefused host handle q fault).1 he with
    | unknown hnone => exact .inl ⟨rfl, hnone⟩
    | wrongKind hget hk => exact .inr ⟨_, hget, .inl ⟨rfl, hk⟩⟩
    | outOfRange hget hk hrange => exact .inr ⟨_, hget, .inr ⟨rfl, hk, _, rfl, hrange⟩⟩

/-- A function that stores an opaque resource under a key. -/
def depositFunction : Descriptor :=
  ofStrings "put" "store a text under a key" .string fun key text => do
    Call.store key (.other (some text))
    return .string key

/-- The registry with the standard functions and the one that stores opaque resources. -/
def Registry.depositing (loader : Loader) : Registry :=
  (installStandard ⟨Registry.empty.functions.insert "put" depositFunction⟩ loader).1

theorem hosts_depositing (loader : Loader) :
    (Registry.depositing loader).Hosts loader fun _ => True := by
  have hfree : ∀ d ∈ standardFunctions loader, Registry.descriptor?
      ⟨Registry.empty.functions.insert "put" depositFunction⟩ d.name = none := by
    intro d hd
    have hname : d.name ∈ (standardFunctions loader).map (·.name) := List.mem_map.2 ⟨d, hd, rfl⟩
    have hput : d.name ≠ "put" := by
      rintro he
      rw [he, Registry.names_standard] at hname
      revert hname
      decide
    rw [Registry.descriptor?, Table.get?_insert_of_ne _ _ hput]
    rfl
  refine Registry.hosts_of_installStandard (Registry.installStandard_of_free loader hfree)
    fun name d hd o ho args h w => ?_
  rw [Registry.descriptor?, Table.get?_insert] at hd
  split at hd
  · cases hd
    obtain rfl := List.mem_singleton.1 ho
    exact .store _ _ trivial .refl
  · cases hd

/-- A document is opened, and then its root element is overwritten. -/
theorem answersExactly_of_overwritten_root :
    let host : Host := ⟨fun name => .ok name, fun _ => .ok (utf8 "<a><b/></a>"), false⟩
    let r := Registry.depositing (Loader.parsing "standard")
    let e := r.reply Workspace.fresh ((Operation.openDocument "a").request host)
    let e' := r.reply e.after ⟨host, "put", [.string "xml_elem_root_a", .string "b"]⟩
    (e'.after.cache.get? "xml_elem_root_a").map Resource.kind = some .other ∧
      r.AnswersExactly e'.after := by
  intro host r e e'
  exact ⟨by decide +kernel, answersExactly_of_runs (hosts_depositing _) (.call _ (.call _ .fresh))⟩

end Builtins
