import Builtins.Proofs.Run.Coherence
import Builtins.Proofs.Run.Meaning
import Builtins.Proofs.Xml.Axes
import Mathlib.Data.List.Forall2

/-!
# Meanings in a cache

A coherent cache has under a handle what is needed to answer every question about it.

* `Represents`, `Backs` — what a cache has under a handle stands for a meaning; there is one such
  meaning at most (`Backs.unique`);
* `Backs.root`, `Backs.list`, `Backs.get` — what is under the keys that are made from a handle;
* `answer_of_backs` — an operation answers a question about a handle as the tree functions do.
-/

namespace Builtins

/-! ### What the cache has under a handle -/

/-- A cached node is the place under whose path there is the load of the node. -/
def Represents (cache : Cache) (n : Node) (p : Place) : Prop :=
  n.document = p.document ∧ n.index = p.index ∧
    cache.get? (Key.document p.shown).text =
      some (.document ⟨n.load, .node (Node.ofDocument n.load n.document)⟩)

/-- What the cache has under a handle stands for a meaning. -/
def Backs (cache : Cache) (handle : String) : Meaning → Prop
  | .node p => ∃ r uid n, cache.get? handle = some r ∧ r.container? = some ⟨uid, .node n⟩ ∧
      r.kind = (if p.index = 0 then .document else .element) ∧ Represents cache n p
  | .list ps => ∃ uid ns, cache.get? handle = some (.nodeList ⟨uid, .nodes ns⟩) ∧
      List.Forall₂ (Represents cache) ns ps ∧ ∀ p ∈ ps, p.index ≠ 0

/-- What stands for a node is a document or an element. -/
theorem kind_of_index (i : Nat) :
    (if i = 0 then ResourceKind.document else .element) ∈ nodeHandles ∧
      (if i = 0 then ResourceKind.document else .element) ∉ [ResourceKind.nodeList] := by
  by_cases hi : i = 0
  · rw [if_pos hi]
    decide
  · rw [if_neg hi]
    decide

theorem Represents.moved {cache : Cache} {n : Node} {p : Place} (h : Represents cache n p)
    (i : Nat) : Represents cache (n.moved i) (p.moved i) :=
  ⟨h.1, rfl, h.2.2⟩

theorem Represents.content {cache : Cache} {n : Node} {p : Place} (h : Represents cache n p) :
    n.content = p.content := by
  rw [Node.content, Place.content, h.1, h.2.1]

/-- A node represents one place only, since a load lies under one key only. -/
theorem Represents.unique {w : Workspace} (hw : Coherent w) {n : Node} {p p' : Place}
    (h : Represents w.cache n p) (h' : Represents w.cache n p') : p = p' := by
  obtain ⟨hd, hi, hkey⟩ := h
  obtain ⟨hd', hi', hkey'⟩ := h'
  have htext : (Key.document p.shown).text = (Key.document p'.shown).text :=
    hw.uid_inj ⟨_, hkey, rfl⟩ ⟨_, hkey', rfl⟩ rfl
  have hshown : p.shown = p'.shown := Key.document.inj (Key.text_injective htext)
  obtain ⟨shown, d, i⟩ := p
  obtain ⟨shown', d', i'⟩ := p'
  subst hshown
  subst hd
  subst hi
  rw [Place.mk.injEq]
  exact ⟨rfl, hd', hi'⟩

theorem forall₂_getElem? {α β : Type} {R : α → β → Prop} {xs : List α} {ys : List β}
    (h : List.Forall₂ R xs ys) {i : Nat} {x : α} {y : β} (hx : xs[i]? = some x)
    (hy : ys[i]? = some y) : R x y := by
  induction h generalizing i with
  | nil => simp at hx
  | cons hab _ ih =>
    cases i with
    | zero =>
      cases hx
      cases hy
      exact hab
    | succ i => exact ih hx hy

/-- What a tag query finds is below the node, so it is not the document itself. -/
theorem Document.ne_zero_of_mem_elementsByTag {d : Document} {i j : Nat} {tag : String}
    (h : j ∈ d.elementsByTag i tag) : j ≠ 0 :=
  Nat.ne_zero_of_lt (lt_of_encloses (mem_elementsByTag.1 h).1)

theorem Place.getElem?_of_at? {ps : List Place} {index : Int64} {p : Place}
    (h : Place.at? ps index = some p) : ps[index.toInt.toNat]? = some p := by
  rw [at?] at h
  split at h
  · cases h
  · exact h

namespace Backs

variable {w : Workspace} {s : String}

/-- What is under a handle stands for one thing only. -/
theorem unique (hw : Coherent w) {m m' : Meaning} (h : Backs w.cache s m)
    (h' : Backs w.cache s m') : m = m' := by
  cases m with
  | node p =>
    obtain ⟨r, uid, n, hr, hc, hkind, hrep⟩ := h
    cases m' with
    | node p' =>
      obtain ⟨r', uid', n', hr', hc', -, hrep'⟩ := h'
      rw [hr] at hr'
      cases hr'
      rw [hc] at hc'
      cases hc'
      rw [hrep.unique hw hrep']
    | list ps' =>
      obtain ⟨uid', ns', hr', -⟩ := h'
      rw [hr] at hr'
      cases hr'
      cases hc
  | list ps =>
    obtain ⟨uid, ns, hr, hrep, -⟩ := h
    cases m' with
    | node p' =>
      obtain ⟨r', uid', n', hr', hc', -⟩ := h'
      rw [hr] at hr'
      cases hr'
      cases hc'
    | list ps' =>
      obtain ⟨uid', ns', hr', hrep', -⟩ := h'
      rw [hr] at hr'
      cases hr'
      rw [List.right_unique_forall₂' (fun _ _ _ h h' => h.unique hw h') hrep hrep']

/-- A document stands for itself. -/
theorem top {shown : String} {uid : UInt64} {d : Document}
    (h : w.cache.get? (Key.document shown).text =
      some (.document ⟨uid, .node (Node.ofDocument uid d)⟩)) :
    Backs w.cache (Key.document shown).text (.node (.top shown d)) :=
  ⟨_, uid, Node.ofDocument uid d, h, rfl, rfl, rfl, rfl, h⟩

theorem stored {m : Meaning} (h : Backs w.cache s m) : ∃ c, Stored w.cache s c := by
  cases m with
  | node p =>
    obtain ⟨r, uid, n, hr, hc, -⟩ := h
    exact ⟨_, r, hr, hc⟩
  | list ps =>
    obtain ⟨uid, ns, hr, -⟩ := h
    exact ⟨_, _, hr, rfl⟩

/-- A container of one node stands for one place. -/
theorem exists_node {m : Meaning} (h : Backs w.cache s m) {c : Container}
    (hs : Stored w.cache s c) {n : Node} (hn : c.node? = some n) : ∃ p, m = .node p := by
  cases m with
  | node p => exact ⟨p, rfl⟩
  | list ps =>
    obtain ⟨uid, ns, hr, -⟩ := h
    obtain rfl := hs.unique ⟨_, hr, rfl⟩
    cases hn

/-- A list of nodes stands for a list of places, one for each node. -/
theorem exists_list {m : Meaning} (h : Backs w.cache s m) {uid : UInt64} {ns : List Node}
    (hs : Stored w.cache s ⟨uid, .nodes ns⟩) :
    ∃ ps, m = .list ps ∧ List.Forall₂ (Represents w.cache) ns ps := by
  cases m with
  | node p =>
    obtain ⟨r, uid', n, hr, hc, -⟩ := h
    cases hs.unique ⟨r, hr, hc⟩
  | list ps =>
    obtain ⟨uid', ns', hr, hrep, -⟩ := h
    cases hs.unique ⟨_, hr, rfl⟩
    exact ⟨ps, rfl, hrep⟩

/-- Only a document itself is stored as one. -/
theorem index_of_document {p : Place} (h : Backs w.cache s (.node p)) {c : Container}
    (hdoc : w.cache.get? s = some (.document c)) : p.index = 0 := by
  obtain ⟨r, uid, n, hr, -, hkind, -⟩ := h
  rw [hdoc] at hr
  cases hr
  by_contra hne
  rw [if_neg hne] at hkind
  cases hkind

/-- Beside a document there is its root element. -/
theorem root (hw : Coherent w) {p : Place} (h : Backs w.cache s (.node p)) (hp : p.index = 0) :
    Backs w.cache (rootKey s) (.node p.root) := by
  obtain ⟨r, uid, n, hr, hc, hkind, hrep⟩ := h
  rw [if_pos hp] at hkind
  cases r with
  | document c =>
    cases hc
    obtain ⟨path, d, rfl, hwrap, hroot⟩ := hw.document_key hr
    have hn : n = Node.ofDocument uid d := Wrapped.node.inj hwrap
    subst hn
    exact ⟨_, _, _, hroot, rfl, rfl, hrep.moved Document.rootIndex⟩
  | _ => cases hkind

/-- Under the handle of a list there are the places that the tag query finds. -/
theorem list (hw : Coherent w) {p : Place} (h : Backs w.cache s (.node p)) {c c' : Container}
    (hs : Stored w.cache s c) {tag : String} (hkey : Stored w.cache (listKey c.uid tag) c') :
    Backs w.cache (listKey c.uid tag) (.list (p.elementsByTag tag)) := by
  obtain ⟨r, uid, n, hr, hc, -, hrep⟩ := h
  obtain rfl := hs.unique ⟨r, hr, hc⟩
  obtain ⟨r', hr', hc'⟩ := hkey
  -- The container that the key names is the only one with this uid.
  obtain ⟨own, n', rfl, -, parent, hparent⟩ := hw.holds (k := .list uid tag) hr'
  cases hw.eq_of_uid_eq hparent ⟨r, hr, hc⟩ rfl
  refine ⟨own, _, hr', ?_, ?_⟩
  · rw [Node.elementsByTag, Place.elementsByTag, hrep.1, hrep.2.1]
    refine List.forall₂_map_left_iff.2 (List.forall₂_map_right_iff.2 ?_)
    exact List.forall₂_same.2 fun i _ => hrep.moved i
  · intro q hq
    obtain ⟨i, hi, rfl⟩ := List.mem_map.1 hq
    exact Document.ne_zero_of_mem_elementsByTag hi

/-- Under the handle of an element there is the place in the list. -/
theorem get (hw : Coherent w) {ps : List Place} (h : Backs w.cache s (.list ps))
    {c c' : Container} (hs : Stored w.cache s c) {index : Int64}
    (hkey : Stored w.cache (elementKey c.uid index.toInt.toNat) c') {p : Place}
    (hp : Place.at? ps index = some p) :
    Backs w.cache (elementKey c.uid index.toInt.toNat) (.node p) := by
  obtain ⟨uid, ns, hr, hrep, hindex⟩ := h
  obtain rfl := hs.unique ⟨_, hr, rfl⟩
  obtain ⟨r', hr', hc'⟩ := hkey
  obtain ⟨own, n, rfl, -, parent, ns', hparent, hn⟩ := hw.holds (k := .element uid _) hr'
  cases hw.eq_of_uid_eq ⟨_, hparent, rfl⟩ ⟨_, hr, rfl⟩ rfl
  have hat : ps[index.toInt.toNat]? = some p := Place.getElem?_of_at? hp
  have hne : p.index ≠ 0 := hindex p (List.mem_of_getElem? hat)
  exact ⟨_, own, n, hr', rfl, (if_neg hne).symm, forall₂_getElem? hrep hn hat⟩

end Backs

/-! ### Answers -/

namespace Cache

variable {cache : Cache} {s : String}

/-- A container of a kind that is not expected is refused. -/
theorem expect_wrong {r : Resource} {c : Container} {kinds : List ResourceKind}
    (hr : cache.get? s = some r) (hc : r.container? = some c) (hk : r.kind ∉ kinds) :
    Cache.expect cache s kinds = .error (.wrongResource s r.kind kinds) := by
  rw [expect, hr]
  simp [hc, hk]

theorem listAt_wrong {r : Resource} {c : Container} (hr : cache.get? s = some r)
    (hc : r.container? = some c) (hk : r.kind ∉ [ResourceKind.nodeList]) :
    Cache.listAt cache s = .error (.wrongResource s r.kind [.nodeList]) := by
  rw [listAt, expect_wrong hr hc hk]

theorem elementAt_wrong {r : Resource} {c : Container} (hr : cache.get? s = some r)
    (hc : r.container? = some c) (hk : r.kind ∉ nodeHandles) :
    Cache.elementAt cache s = .error (.wrongResource s r.kind nodeHandles) := by
  rw [elementAt, expect_wrong hr hc hk]

end Cache

section Answers

variable {loader : Loader} {h : Host} {w : Workspace} {s : String}

/-- The element under a handle is the one that its place means. -/
theorem elementAt_of_backs {p : Place} (hb : Backs w.cache s (.node p)) :
    ∃ n, Cache.elementAt w.cache s = .ok n ∧ Represents w.cache n p.element := by
  obtain ⟨r, uid, n, hr, hc, hkind, hrep⟩ := hb
  have hk : r.kind ∈ nodeHandles := hkind ▸ (kind_of_index p.index).1
  have hcontent : n.kind = p.content.kind := congrArg Content.kind hrep.content
  refine ⟨if n.kind = .document then n.ownerRoot else n, ?_, ?_⟩
  · rw [Cache.elementAt, Cache.expect_ok.2 ⟨r, hr, hc, hk⟩]
    rfl
  · rw [Place.element, hcontent]
    split
    · exact hrep.moved Document.rootIndex
    · exact hrep

/-- A question about a node is answered from what is under its handle. -/
theorem answer_node (hw : Coherent w) {p : Place} (hb : Backs w.cache s (.node p)) (q : Query) :
    ((Meaning.node p).answer q).Given (fun _ _ => True)
      (((q.on s).body loader).outcome h w).1 := by
  have hb' := hb
  obtain ⟨r, uid, n, hr, hc, hkind, hrep⟩ := hb
  have hlist : r.kind ∉ [ResourceKind.nodeList] := hkind ▸ (kind_of_index p.index).2
  -- Whatever is asked of an element is asked of the node that stands for it.
  obtain ⟨m, hm, hrepm⟩ := elementAt_of_backs hb'
  have hvalue : ∀ f : Node → Value,
      ((do return f (← elementAt s) : Call Value).outcome h w).1 = .ok (f m) := by
    intro f
    rw [Call.outcome_bind, outcome_elementAt, hm]
    rfl
  cases q with
  | root =>
    simp only [Query.on, Operation.body, Call.outcome_map, outcome_documentRoot, Meaning.answer]
    by_cases hp : p.index = 0
    · rw [if_pos hp] at hkind
      obtain ⟨r', uid', n', hroot, -⟩ := hb'.root hw hp
      rw [if_pos hp, Cache.expect_ok.2 ⟨r, hr, hc, by simp [hkind]⟩, hroot]
      exact ⟨_, rfl, trivial⟩
    · rw [if_neg hp] at hkind
      rw [if_neg hp, Cache.expect_wrong hr hc (by simp [hkind])]
      exact ⟨_, rfl, rfl⟩
  | list tag =>
    simp only [Query.on, Operation.body, Call.outcome_map, outcome_elementsByTag, Meaning.answer]
    have hk : r.kind ∈ nodeHandles := hkind ▸ (kind_of_index p.index).1
    rw [Cache.expect_ok.2 ⟨r, hr, hc, hk⟩]
    by_cases hkey : (w.cache.get? (listKey uid tag)).isSome
    · simp only [if_pos hkey]
      exact ⟨_, rfl, trivial⟩
    · simp only [if_neg hkey]
      exact ⟨_, rfl, trivial⟩
  | size =>
    simp only [Query.on, Operation.body, Call.outcome_bind, outcome_listSize, Meaning.answer]
    rw [Cache.listAt_wrong hr hc hlist]
    exact ⟨_, rfl, rfl⟩
  | get index =>
    simp only [Query.on, Operation.body, Call.outcome_map, outcome_listElement, Meaning.answer]
    rw [Cache.listAt_wrong hr hc hlist]
    exact ⟨_, rfl, rfl⟩
  | name =>
    rw [Meaning.answer, Answer.Given, ← hrepm.content]
    exact hvalue fun n => .string (n.name?.getD "")
  | text =>
    rw [Meaning.answer, Answer.Given, Place.textContent, ← hrepm.1, ← hrepm.2.1]
    exact hvalue fun n => .string n.textContent
  | attr key =>
    rw [Meaning.answer, Answer.Given, ← hrepm.content]
    exact hvalue fun n => .string ((n.attribute? key).getD "")

theorem nodeAt?_of_at? {cache : Cache} {ns : List Node} {ps : List Place}
    (hrep : List.Forall₂ (Represents cache) ns ps) (index : Int64) :
    (nodeAt? ns index).isSome = (Place.at? ps index).isSome := by
  rw [nodeAt?, Place.at?]
  split
  · rfl
  · have hlen := hrep.length_eq
    by_cases hi : index.toInt.toNat < ns.length
    · rw [List.getElem?_eq_getElem hi, List.getElem?_eq_getElem (hlen ▸ hi)]
      rfl
    · rw [List.getElem?_eq_none (by omega), List.getElem?_eq_none (by omega)]
      rfl

/-- A question about a list is answered from what is under its handle. -/
theorem answer_list {ps : List Place} (hb : Backs w.cache s (.list ps)) (q : Query) :
    ((Meaning.list ps).answer q).Given (fun _ _ => True)
      (((q.on s).body loader).outcome h w).1 := by
  obtain ⟨uid, ns, hr, hrep, -⟩ := hb
  have hlist : Cache.listAt w.cache s = .ok (⟨uid, .nodes ns⟩, ns) := Cache.listAt_ok.2 ⟨hr, rfl⟩
  have hnode : (Resource.nodeList ⟨uid, .nodes ns⟩).kind ∉ nodeHandles := by
    simp [Resource.kind, nodeHandles]
  -- Whatever is asked of an element is refused before it is looked at.
  have hrefused : ∀ f : Node → Value, (Answer.refused .typeMismatch).Given (fun _ _ => True)
      ((do return f (← elementAt s) : Call Value).outcome h w).1 := by
    intro f
    rw [Call.outcome_bind, outcome_elementAt, Cache.elementAt_wrong hr rfl hnode]
    exact ⟨_, rfl, rfl⟩
  cases q with
  | root =>
    simp only [Query.on, Operation.body, Call.outcome_map, outcome_documentRoot, Meaning.answer]
    rw [Cache.expect_wrong hr rfl (by simp [Resource.kind])]
    exact ⟨_, rfl, rfl⟩
  | list tag =>
    simp only [Query.on, Operation.body, Call.outcome_map, outcome_elementsByTag, Meaning.answer]
    rw [Cache.expect_wrong hr rfl hnode]
    exact ⟨_, rfl, rfl⟩
  | size =>
    simp only [Query.on, Operation.body, Call.outcome_bind, outcome_listSize, Meaning.answer, hlist]
    show Except.ok (Value.int (Int64.ofNat (min ns.length _))) = _
    rw [hrep.length_eq]
  | get index =>
    simp only [Query.on, Operation.body, Call.outcome_map, outcome_listElement, Meaning.answer,
      hlist]
    have hsome := nodeAt?_of_at? hrep index
    cases hn : nodeAt? ns index with
    | none =>
      rw [hn] at hsome
      have hp : Place.at? ps index = none := by simpa using hsome
      rw [hp]
      exact ⟨_, rfl, rfl⟩
    | some n =>
      rw [hn] at hsome
      obtain ⟨p, hp⟩ := Option.isSome_iff_exists.1 hsome.symm
      rw [hp]
      by_cases hkey : (w.cache.get? (elementKey uid index.toInt.toNat)).isSome
      · simp only [if_pos hkey]
        exact ⟨_, rfl, trivial⟩
      · simp only [if_neg hkey]
        exact ⟨_, rfl, trivial⟩
  | name => exact hrefused fun n => .string (n.name?.getD "")
  | text => exact hrefused fun n => .string n.textContent
  | attr key => exact hrefused fun n => .string ((n.attribute? key).getD "")

end Answers

/-- An operation answers a question about a handle from what is under it. -/
theorem answer_of_backs {loader : Loader} {h : Host} {w : Workspace} {s : String} {m : Meaning}
    (hw : Coherent w) (hb : Backs w.cache s m) (q : Query) :
    (m.answer q).Given (fun _ _ => True) (((q.on s).body loader).outcome h w).1 := by
  cases m with
  | node p => exact answer_node hw hb q
  | list ps => exact answer_list hb q

end Builtins
