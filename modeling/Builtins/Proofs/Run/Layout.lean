import Builtins.Proofs.Run.Tracking
import Builtins.Proofs.Xml.Axes
import Builtins.Proofs.Xml.Parsed

/-!
# Layout of the cache

What lies under each key of a run, said without the calls that put it there.

* `Loader.Parses` — a loader whose documents come from a parser;
* `Layout` — a document beside its root element, a list of elements under the uid of what it was asked
  from, an element of a list under the uid of the list, and no uid twice;
* `layout_of_runs` — every run that takes few uids has this layout.
-/

namespace Builtins

/-! ### Nodes that are found -/

/-- What a tag query finds is an element of the same load. -/
theorem Node.of_mem_elementsByTag {n m : Node} {tag : String} (h : m ∈ n.elementsByTag tag) :
    m.kind = .element ∧ m.load = n.load ∧ m.document = n.document := by
  obtain ⟨i, hi, rfl⟩ := List.mem_map.1 h
  exact ⟨(Document.mem_elementsByTag.1 hi).2.1, rfl, rfl⟩

/-! ### Documents that were loaded -/

/-- A loader whose documents come from a parser; there is no other way to make one. -/
def Loader.Parses (loader : Loader) : Prop :=
  ∀ h path d, loader.load h path = .ok d → ∃ bytes, parseDocument bytes = .ok d

theorem Loader.parses_parsing (label : String) : (parsing label).Parses := by
  intro h path d hload
  simp only [parsing] at hload
  split at hload
  · cases hload
  · rename_i bytes _
    split at hload
    · cases hload
    · rename_i document hparse
      cases hload
      exact ⟨bytes, hparse⟩

/-- A document that a history loaded was given by the loader at some time. -/
theorem exists_load_of_firstLoad? {loader : Loader} {history : List Reply} {path : DiskPath}
    {d : Document} (h : firstLoad? loader history path = some d) :
    ∃ e ∈ history, loader.load e.request.host path = .ok d := by
  obtain ⟨e, hmem, he⟩ := List.exists_of_findSome?_eq_some h
  rw [Reply.loaded?] at he
  split at he
  · cases hload : loader.load e.request.host path with
    | error fault => rw [hload] at he; cases he
    | ok d' => rw [hload] at he; cases he; exact ⟨e, hmem, hload⟩
  · cases he

/-- A document in the cache of a run is a tree. -/
theorem Tracks.exists_tree {loader : Loader} {history : List Reply} {w : Workspace}
    (ht : Tracks loader history w) (hparses : loader.Parses) {shown : String} {uid : UInt64}
    {d : Document} (hget : w.cache.get? (Key.document shown).text =
      some (.document ⟨uid, .node (Node.ofDocument uid d)⟩)) : ∃ t : Tree, d.Holds t := by
  obtain ⟨path, -, hfirst⟩ := (ht.loaded shown d).2 ⟨uid, hget⟩
  obtain ⟨e, -, hload⟩ := exists_load_of_firstLoad? hfirst
  obtain ⟨bytes, hbytes⟩ := hparses e.request.host path d hload
  exact holds_of_parse hbytes

/-! ### The layout -/

/-- What a cache looks like: which keys there are, and what is under them. -/
structure Layout (w : Workspace) : Prop where
  /-- Containers differ in their uids, which count from one and were all taken. -/
  uid_inj : ∀ {key key' c c'}, Stored w.cache key c → Stored w.cache key' c' → c.uid = c'.uid →
    key = key'
  uid_pos : ∀ {key c}, Stored w.cache key c → 1 ≤ c.uid
  uid_lt : ∀ {key c}, Stored w.cache key c → c.uid < w.nextUid
  /-- Containers are under keys that navigation makes, and nothing else is under texts that start like
  one. -/
  keyed : ∀ {key r}, w.cache.get? key = some r → r.container?.isSome ∨ IsReserved key →
    r.container?.isSome ∧ ∃ k : Key, key = k.text
  /-- A document is there exactly when its root element is. -/
  paired : ∀ path : DiskPath, (w.cache.get? (documentKey path)).isSome ↔
    (w.cache.get? (rootKey (documentKey path))).isSome
  /-- Beside a document there is the only child of its node, under the next uid. -/
  document : ∀ {path : DiskPath} {r}, w.cache.get? (documentKey path) = some r → ∃ uid uid' n m,
    r = .document ⟨uid, .node n⟩ ∧ n.index = 0 ∧ n.kind = .document ∧
      w.cache.get? (rootKey (documentKey path)) = some (.element ⟨uid', .node m⟩) ∧
        n.children = [m] ∧ m.kind = .element ∧ uid'.toNat = uid.toNat + 1
  /-- The uid in the key of a list is that of an older document or element, from which all elements of
  the list are. -/
  list : ∀ {uid tag r}, w.cache.get? (listKey uid tag) = some r → ∃ own ns,
    r = .nodeList ⟨own, .nodes ns⟩ ∧ uid < own ∧ ∃ parent r' n,
      w.cache.get? parent = some r' ∧ r'.kind ∈ nodeHandles ∧
        r'.container? = some ⟨uid, .node n⟩ ∧ ns = n.elementsByTag tag ∧
          ∀ m ∈ ns, m.kind = .element ∧ m.load = n.load ∧ m.document = n.document
  /-- The uid in the key of an element of a list is that of the list, which is older, and the number
  behind it is where the element is. -/
  element : ∀ {uid i r}, w.cache.get? (elementKey uid i) = some r → ∃ own m,
    r = .element ⟨own, .node m⟩ ∧ m.kind = .element ∧ uid < own ∧ ∃ parent ns,
      w.cache.get? parent = some (.nodeList ⟨uid, .nodes ns⟩) ∧ i < ns.length ∧ ns[i]? = some m

namespace Coherent

variable {w : Workspace}

/-- A node list holds what a tag query found. -/
theorem exists_query (hw : Coherent w) {key : String} {uid : UInt64} {ns : List Node}
    (hr : w.cache.get? key = some (.nodeList ⟨uid, .nodes ns⟩)) :
    ∃ (n : Node) (tag : String), ns = n.elementsByTag tag := by
  obtain ⟨k, rfl, hk⟩ := hw.key_of_container hr rfl
  cases k with
  | list uid' tag =>
    obtain ⟨own, n, hlist, -⟩ := hk
    cases hlist
    exact ⟨n, tag, rfl⟩
  | document shown => obtain ⟨_, _, hne, -⟩ := hk; cases hne
  | root shown => obtain ⟨_, _, hne, -⟩ := hk; cases hne
  | element uid' index => obtain ⟨_, _, hne, -⟩ := hk; cases hne

/-- The root element of a document has the next uid. -/
theorem toNat_root_uid (hw : Coherent w) {key : String} {uid : UInt64} {wrapped : Wrapped}
    (h : Stored w.cache key ⟨uid + 1, wrapped⟩) : (uid + 1).toNat = uid.toNat + 1 := by
  have hpos : 0 < (uid + 1).toNat := hw.uid_pos h
  have hlt := uid.toNat_lt
  have hone : (1 : UInt64).toNat = 1 := rfl
  rw [UInt64.toNat_add, hone] at hpos ⊢
  omega

theorem paired (hw : Coherent w) (path : DiskPath) :
    (w.cache.get? (documentKey path)).isSome ↔
      (w.cache.get? (rootKey (documentKey path))).isSome := by
  rw [Option.isSome_iff_exists, Option.isSome_iff_exists]
  constructor
  · intro hdoc
    obtain ⟨r, hr⟩ := hdoc
    obtain ⟨uid, d, -, hroot⟩ := hw.holds (k := .document path.display) hr
    exact ⟨_, hroot⟩
  · intro hroot
    obtain ⟨r, hr⟩ := hroot
    obtain ⟨uid, d, -, hdoc⟩ := hw.holds (k := .root path.display) hr
    exact ⟨_, hdoc⟩

end Coherent

/-- Every run that takes few uids has this layout, whatever its calls are and whatever its files and
its other functions do in between. -/
theorem layout_of_runs {r : Registry} {loader : Loader} (hr : r.Hosts loader (¬ IsReserved ·))
    (hparses : loader.Parses) {history : List Reply} {w : Workspace} (h : r.Runs history w)
    (hfew : uidsTaken history < UInt64.size - 1) : Layout w := by
  have ht := tracks_of_runs hr h hfew
  have hw := ht.coherent
  constructor
  case uid_inj => exact hw.uid_inj
  case uid_pos =>
    intro key c hc
    exact UInt64.le_iff_toNat_le.2 (hw.uid_pos hc)
  case uid_lt =>
    intro key c hc
    exact UInt64.lt_iff_toNat_lt.2 (hw.uid_lt hc)
  case keyed =>
    intro key r hget hkey
    rcases hw.entry hget with ⟨hfree, hnone⟩ | ⟨k, rfl, -⟩
    · rcases hkey with hsome | hreserved
      · rw [hnone] at hsome
        cases hsome
      · exact absurd hreserved hfree
    · obtain ⟨c, r', hget', hc⟩ := hw.stored_of_isSome (k := k) (by rw [hget]; rfl)
      rw [hget] at hget'
      cases hget'
      exact ⟨by rw [hc]; rfl, k, rfl⟩
  case paired => exact hw.paired
  case document =>
    intro path r hget
    obtain ⟨uid, d, rfl, hroot⟩ := hw.holds (k := .document path.display) hget
    obtain ⟨t, htree⟩ := ht.exists_tree hparses hget
    exact ⟨uid, uid + 1, _, _, rfl, rfl, htree.kind uid, hroot, htree.children uid,
      htree.root_kind uid, hw.toNat_root_uid ⟨_, hroot, rfl⟩⟩
  case list =>
    intro uid tag r hget
    obtain ⟨own, n, rfl, hlt, parent, r', hr', hc⟩ := hw.holds (k := .list uid tag) hget
    exact ⟨own, _, rfl, hlt, parent, r', n, hr', hw.kind_of_node hr' hc, hc, rfl,
      fun m hm => Node.of_mem_elementsByTag hm⟩
  case element =>
    intro uid i r hget
    obtain ⟨own, m, rfl, hlt, parent, ns, hparent, hm⟩ := hw.holds (k := .element uid i) hget
    obtain ⟨n, tag, hns⟩ := hw.exists_query hparent
    have hmem : m ∈ n.elementsByTag tag := hns ▸ List.mem_of_getElem? hm
    obtain ⟨hi, -⟩ := List.getElem?_eq_some_iff.1 hm
    exact ⟨own, m, rfl, (Node.of_mem_elementsByTag hmem).1, hlt, parent, ns, hparent, hi, hm⟩

/-- A document is opened, its elements are listed, and one of them is taken. -/
theorem layout_of_taken_element :
    let host : Host := ⟨fun name => .ok name, fun _ => .ok (utf8 "<a><b/></a>"), false⟩
    let e := Registry.standard.reply Workspace.fresh ((Operation.openDocument "a").request host)
    let e' := Registry.standard.reply e.after
      ((Operation.elementsByTag "xml_doc_a" "b").request host)
    let e'' := Registry.standard.reply e'.after
      ((Operation.listElement "xml_list_1_b" 0).request host)
    e''.after.cache.keys =
        ["xml_doc_a", "xml_elem_3_0", "xml_elem_root_a", "xml_list_1_b"] ∧
      Layout e''.after := by
  intro host e e' e''
  exact ⟨by decide +kernel, layout_of_runs (hosts_standard _) (Loader.parses_parsing _)
    (.call _ (.call _ (.call _ .fresh))) (by decide +kernel)⟩

end Builtins
