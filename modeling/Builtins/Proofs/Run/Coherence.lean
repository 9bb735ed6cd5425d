import Builtins.Proofs.Resource.Key
import Builtins.Proofs.Run.History

/-!
# Coherence of the cache

What is stored under a key agrees with what the key says: a list lies under the uid of the container
it was asked from, an element under the uid of its list, and a document beside its root element.

* `Key.Holds` — what has to be under a key, in terms of what else is in the cache;
* `Coherent` — every resource is under a key that holds it, or is of no kind that navigation knows,
  and no two containers share a uid;
* `Coherent.growth`, `Coherent.touches` — an operation keeps coherence, and so does every other
  function, as long as the counter of uids does not go round;
* `coherent_of_runs` — so every run keeps it.
-/

namespace Builtins

/-! ### What lies under a key -/

/-- A container lies under a key. -/
def Stored (cache : Cache) (key : String) (c : Container) : Prop :=
  ∃ r, cache.get? key = some r ∧ r.container? = some c

/-- There is one container under a key. -/
theorem Stored.unique {cache : Cache} {key : String} {c c' : Container} (h : Stored cache key c)
    (h' : Stored cache key c') : c = c' := by
  obtain ⟨r, hr, hc⟩ := h
  obtain ⟨r', hr', hc'⟩ := h'
  rw [hr] at hr'
  cases hr'
  rw [hc] at hc'
  exact Option.some.inj hc'

/-- What a resource under a key has to be. -/
def Key.Holds (cache : Cache) (r : Resource) : Key → Prop
  | document shown => ∃ uid d,
      r = .document ⟨uid, .node (Node.ofDocument uid d)⟩ ∧
        cache.get? (root shown).text = some (.element ⟨uid + 1, .node (Node.rootOf uid d)⟩)
  | root shown => ∃ uid d,
      r = .element ⟨uid + 1, .node (Node.rootOf uid d)⟩ ∧
        cache.get? (document shown).text = some (.document ⟨uid, .node (Node.ofDocument uid d)⟩)
  | list uid tag => ∃ own n,
      r = .nodeList ⟨own, .nodes (n.elementsByTag tag)⟩ ∧ uid < own ∧
        ∃ parent, Stored cache parent ⟨uid, .node n⟩
  | element uid index => ∃ own n,
      r = .element ⟨own, .node n⟩ ∧ uid < own ∧
        ∃ parent ns, cache.get? parent = some (.nodeList ⟨uid, .nodes ns⟩) ∧ ns[index]? = some n

/-- Every resource is under a key that holds it, or of no kind that navigation knows and under no such
key; the uids of containers are distinct, and below the next one. -/
structure Coherent (w : Workspace) : Prop where
  next_pos : 0 < w.nextUid.toNat
  entry : ∀ {key r}, w.cache.get? key = some r →
    (¬ IsReserved key ∧ r.container? = none) ∨ ∃ k : Key, key = k.text ∧ k.Holds w.cache r
  uid_pos : ∀ {key c}, Stored w.cache key c → 0 < c.uid.toNat
  uid_lt : ∀ {key c}, Stored w.cache key c → c.uid.toNat < w.nextUid.toNat
  uid_inj : ∀ {key key' c c'}, Stored w.cache key c → Stored w.cache key' c' → c.uid = c'.uid →
    key = key'

/-- A cache that has all containers of another one. -/
def Keeps (cache cache' : Cache) : Prop :=
  ∀ {key r}, cache.get? key = some r → r.container?.isSome → cache'.get? key = some r

theorem Keeps.refl (cache : Cache) : Keeps cache cache := fun h _ => h

theorem Keeps.stored {cache cache' : Cache} (hk : Keeps cache cache') {key : String} {c : Container}
    (h : Stored cache key c) : Stored cache' key c := by
  obtain ⟨r, hr, hc⟩ := h
  exact ⟨r, hk hr (by rw [hc]; rfl), hc⟩

theorem Keeps.insert {cache : Cache} {key : String} (hfree : cache.get? key = none) (r : Resource) :
    Keeps cache (cache.insert key r) := by
  intro key' r' hget _
  have hne : key' ≠ key := fun he => by simp [he, hfree] at hget
  rw [cache.get?_insert_of_ne r hne, hget]

/-- What holds a resource holds it also when there are more containers. -/
theorem Key.Holds.mono {cache cache' : Cache} (hk : Keeps cache cache') {r : Resource} {k : Key}
    (h : k.Holds cache r) : k.Holds cache' r := by
  cases k with
  | document shown =>
    obtain ⟨uid, d, hr, hroot⟩ := h
    exact ⟨uid, d, hr, hk hroot rfl⟩
  | root shown =>
    obtain ⟨uid, d, hr, hdoc⟩ := h
    exact ⟨uid, d, hr, hk hdoc rfl⟩
  | list uid tag =>
    obtain ⟨own, n, hr, hlt, parent, hparent⟩ := h
    exact ⟨own, n, hr, hlt, parent, hk.stored hparent⟩
  | element uid index =>
    obtain ⟨own, n, hr, hlt, parent, ns, hparent, hn⟩ := h
    exact ⟨own, n, hr, hlt, parent, ns, hk hparent rfl, hn⟩

namespace Coherent

variable {w w' : Workspace}

theorem fresh : Coherent Workspace.fresh where
  next_pos := by decide
  entry h := by cases h
  uid_pos h := by obtain ⟨r, hr, -⟩ := h; cases hr
  uid_lt h := by obtain ⟨r, hr, -⟩ := h; cases hr
  uid_inj h := by obtain ⟨r, hr, -⟩ := h; cases hr

/-- Under a key there is what the key says. -/
theorem holds (hw : Coherent w) {k : Key} {r : Resource} (h : w.cache.get? k.text = some r) :
    k.Holds w.cache r := by
  rcases hw.entry h with ⟨hfree, -⟩ | ⟨k', hk, hholds⟩
  · exact absurd (Key.isReserved_text k) hfree
  · rwa [Key.text_injective hk]

/-- A container lies under a key that holds it. -/
theorem key_of_container (hw : Coherent w) {key : String} {r : Resource}
    (h : w.cache.get? key = some r) (hc : r.container?.isSome) :
    ∃ k : Key, key = k.text ∧ k.Holds w.cache r := by
  rcases hw.entry h with ⟨-, hnone⟩ | hk
  · simp [hnone] at hc
  · exact hk

/-- A document lies under the key of a path, beside its root element. -/
theorem document_key (hw : Coherent w) {key : String} {c : Container}
    (h : w.cache.get? key = some (.document c)) :
    ∃ (path : DiskPath) (d : Document), key = documentKey path ∧ c.wrapped = .node (Node.ofDocument c.uid d) ∧
      w.cache.get? (rootKey (documentKey path)) =
        some (.element ⟨c.uid + 1, .node (Node.rootOf c.uid d)⟩) := by
  obtain ⟨k, rfl, hk⟩ := hw.key_of_container h rfl
  cases k with
  | document shown =>
    obtain ⟨uid, d, hr, hroot⟩ := hk
    cases hr
    refine ⟨shown, d, (documentKey_ofText shown).symm, rfl, ?_⟩
    rw [documentKey_ofText]
    exact hroot
  | root shown => obtain ⟨uid, d, hr, -⟩ := hk; cases hr
  | list uid tag => obtain ⟨own, n, hr, -⟩ := hk; cases hr
  | element uid index => obtain ⟨own, n, hr, -⟩ := hk; cases hr

/-- A container of one node is that of a document or an element. -/
theorem kind_of_node (hw : Coherent w) {key : String} {r : Resource} {uid : UInt64} {n : Node}
    (hr : w.cache.get? key = some r) (hc : r.container? = some ⟨uid, .node n⟩) :
    r.kind ∈ nodeHandles := by
  obtain ⟨k, rfl, hk⟩ := hw.key_of_container hr (by rw [hc]; rfl)
  cases k with
  | document shown => obtain ⟨_, _, rfl, -⟩ := hk; simp [Resource.kind, nodeHandles]
  | root shown => obtain ⟨_, _, rfl, -⟩ := hk; simp [Resource.kind, nodeHandles]
  | list uid tag => obtain ⟨_, _, rfl, -⟩ := hk; cases hc
  | element uid index => obtain ⟨_, _, rfl, -⟩ := hk; simp [Resource.kind, nodeHandles]

/-- Containers with the same uid are the same. -/
theorem eq_of_uid_eq (hw : Coherent w) {key key' : String} {c c' : Container}
    (h : Stored w.cache key c) (h' : Stored w.cache key' c') (huid : c.uid = c'.uid) : c = c' := by
  have hkey : key = key' := hw.uid_inj h h' huid
  subst hkey
  exact h.unique h'

/-! ### Additions -/

/-- A container that came into being between two workspaces, under a key that holds it. -/
def IsNew (w w' : Workspace) (key : String) (c : Container) : Prop :=
  w.nextUid.toNat ≤ c.uid.toNat ∧ c.uid.toNat < w'.nextUid.toNat ∧
    ∃ (k : Key) (r : Resource),
      key = k.text ∧ w'.cache.get? key = some r ∧ r.container? = some c ∧ k.Holds w'.cache r

/-- Coherence lasts while all containers are kept and those that are new have new uids. -/
theorem grow (hw : Coherent w) (hkeeps : Keeps w.cache w'.cache)
    (hround : w.nextUid.toNat ≤ w'.nextUid.toNat)
    (hnew : ∀ {key r}, w'.cache.get? key = some r →
      w.cache.get? key = some r ∨ (¬ IsReserved key ∧ r.container? = none) ∨
        ∃ c, r.container? = some c ∧ IsNew w w' key c)
    (hdistinct : ∀ {key key' c c'}, IsNew w w' key c → IsNew w w' key' c' → c.uid = c'.uid →
      key = key') : Coherent w' := by
  -- A container of the later workspace is an old one, or a new one.
  have hcases : ∀ {key c}, Stored w'.cache key c → Stored w.cache key c ∨ IsNew w w' key c := by
    intro key c hstored
    obtain ⟨r, hr, hc⟩ := hstored
    rcases hnew hr with hold | ⟨-, hnone⟩ | ⟨c', hc', hn⟩
    · exact .inl ⟨r, hold, hc⟩
    · simp [hnone] at hc
    · rw [hc] at hc'
      cases hc'
      exact .inr hn
  refine ⟨Nat.lt_of_lt_of_le hw.next_pos hround, ?_, ?_, ?_, ?_⟩
  · intro key r hr
    rcases hnew hr with hold | hfree | ⟨c, hc, -, -, k, r', hk, hr', -, hholds⟩
    · rcases hw.entry hold with hfree | ⟨k, hk, hholds⟩
      · exact .inl hfree
      · exact .inr ⟨k, hk, hholds.mono hkeeps⟩
    · exact .inl hfree
    · rw [hr] at hr'
      cases hr'
      exact .inr ⟨k, hk, hholds⟩
  · intro key c hc
    rcases hcases hc with hold | ⟨hle, -⟩
    · exact hw.uid_pos hold
    · exact Nat.lt_of_lt_of_le hw.next_pos hle
  · intro key c hc
    rcases hcases hc with hold | ⟨-, hlt, -⟩
    · exact Nat.lt_of_lt_of_le (hw.uid_lt hold) hround
    · exact hlt
  · intro key key' c c' hc hc' huid
    rcases hcases hc with hold | hn <;> rcases hcases hc' with hold' | hn'
    · exact hw.uid_inj hold hold' huid
    · have hlt := hw.uid_lt hold
      have hle := hn'.1
      rw [huid] at hlt
      omega
    · have hlt := hw.uid_lt hold'
      have hle := hn.1
      rw [huid] at hle
      omega
    · exact hdistinct hn hn' huid

theorem noteAll (hw : Coherent w) (notices : List Notice) : Coherent (w.noteAll notices) :=
  ⟨hw.next_pos, hw.entry, hw.uid_pos, hw.uid_lt, hw.uid_inj⟩

/-- The next number, if the counter does not go round. -/
theorem toNat_succ {u : UInt64} (h : u.toNat ≤ (u + 1).toNat) : (u + 1).toNat = u.toNat + 1 := by
  have hu := u.toNat_lt
  rw [UInt64.toNat_add] at h ⊢
  have hone : (1 : UInt64).toNat = 1 := rfl
  omega

theorem toNat_succ_succ {u : UInt64} (h : u.toNat ≤ (u + 1 + 1).toNat) :
    (u + 1).toNat = u.toNat + 1 ∧ (u + 1 + 1).toNat = u.toNat + 2 := by
  have hu := u.toNat_lt
  have hone : (1 : UInt64).toNat = 1 := rfl
  have hfirst : (u + 1).toNat = (u.toNat + 1) % 2 ^ 64 := by rw [UInt64.toNat_add, hone]
  have hsecond : (u + 1 + 1).toNat = ((u + 1).toNat + 1) % 2 ^ 64 := by rw [UInt64.toNat_add, hone]
  omega

theorem get?_add (w : Workspace) (key key' : String) (resource : UInt64 → Resource) :
    (w.add key resource).cache.get? key' =
      if key' = key then some (resource w.nextUid) else w.cache.get? key' :=
  w.cache.get?_insert key key' _

/-- A new container under a free key that holds it keeps coherence. -/
theorem add (hw : Coherent w) {k : Key} {resource : UInt64 → Resource} {wrapped : Wrapped}
    (hfree : w.cache.get? k.text = none)
    (hres : (resource w.nextUid).container? = some ⟨w.nextUid, wrapped⟩)
    (hholds : k.Holds w.cache (resource w.nextUid))
    (hround : w.nextUid.toNat ≤ (w.nextUid + 1).toNat) : Coherent (w.add k.text resource) := by
  have hkeeps : Keeps w.cache (w.add k.text resource).cache := Keeps.insert hfree _
  -- What is new lies under this key.
  have honly : ∀ {key c}, IsNew w (w.add k.text resource) key c → key = k.text := by
    intro key c hnew
    obtain ⟨hle, -, -, r, -, hr, hc, -⟩ := hnew
    rw [get?_add] at hr
    split at hr
    · assumption
    · have hlt : c.uid.toNat < w.nextUid.toNat := hw.uid_lt ⟨r, hr, hc⟩
      omega
  refine hw.grow hkeeps hround (fun {key r} hr => ?_) fun h h' _ => (honly h).trans (honly h').symm
  have hr' := hr
  rw [get?_add] at hr
  split at hr
  · rename_i hkey
    cases hr
    refine .inr (.inr ⟨_, hres, Nat.le_refl _, ?_, k, _, hkey, hr', hres, hholds.mono hkeeps⟩)
    show w.nextUid.toNat < (w.nextUid + 1).toNat
    rw [toNat_succ hround]
    exact Nat.lt_succ_self _
  · exact .inl hr

/-- The key of a root element is free as long as the key of its document is. -/
theorem root_free (hw : Coherent w) {path : DiskPath}
    (h : w.cache.get? (documentKey path) = none) :
    w.cache.get? (rootKey (documentKey path)) = none := by
  cases hr : w.cache.get? (rootKey (documentKey path)) with
  | none => rfl
  | some r =>
    obtain ⟨uid, d, -, hdoc⟩ := hw.holds (k := .root path.display) hr
    have hdoc' : w.cache.get? (documentKey path) = _ := hdoc
    rw [h] at hdoc'
    cases hdoc'

theorem get?_addDocument (w : Workspace) (path : DiskPath) (key : String) (d : Document) :
    (w.addDocument path d).cache.get? key =
      if key = documentKey path then
        some (.document ⟨w.nextUid, .node (Node.ofDocument w.nextUid d)⟩)
      else if key = rootKey (documentKey path) then
        some (.element ⟨w.nextUid + 1, .node (Node.rootOf w.nextUid d)⟩)
      else w.cache.get? key := by
  rw [Workspace.addDocument, Table.get?_insert, Table.get?_insert]

theorem root_ne_document (path : DiskPath) : rootKey (documentKey path) ≠ documentKey path := by
  intro h
  cases @Key.text_injective (.root path.display) (.document path.display) h

theorem keeps_addDocument (hw : Coherent w) {path : DiskPath}
    (hfree : w.cache.get? (documentKey path) = none) (d : Document) :
    Keeps w.cache (w.addDocument path d).cache := by
  intro key r hr _
  have hdoc : key ≠ documentKey path := fun he => by simp [he, hfree] at hr
  have hroot : key ≠ rootKey (documentKey path) := fun he => by simp [he, hw.root_free hfree] at hr
  rw [get?_addDocument, if_neg hdoc, if_neg hroot, hr]

/-- A document under a free key keeps coherence together with its root element. -/
theorem addDocument (hw : Coherent w) {path : DiskPath}
    (hfree : w.cache.get? (documentKey path) = none) (d : Document)
    (hround : w.nextUid.toNat ≤ (w.nextUid + 1 + 1).toNat) : Coherent (w.addDocument path d) := by
  obtain ⟨hone, htwo⟩ := toNat_succ_succ hround
  have hnext : (w.addDocument path d).nextUid = w.nextUid + 1 + 1 := rfl
  have hdoc : (w.addDocument path d).cache.get? (documentKey path) =
      some (.document ⟨w.nextUid, .node (Node.ofDocument w.nextUid d)⟩) := by
    rw [get?_addDocument, if_pos rfl]
  have hroot : (w.addDocument path d).cache.get? (rootKey (documentKey path)) =
      some (.element ⟨w.nextUid + 1, .node (Node.rootOf w.nextUid d)⟩) := by
    rw [get?_addDocument, if_neg (root_ne_document path), if_pos rfl]
  -- What is new is the document with the first uid, or the root element with the second.
  have honly : ∀ {key c}, IsNew w (w.addDocument path d) key c →
      (key = documentKey path ∧ c.uid = w.nextUid) ∨
        (key = rootKey (documentKey path) ∧ c.uid = w.nextUid + 1) := by
    intro key c hnew
    obtain ⟨hle, -, -, r, -, hr, hc, -⟩ := hnew
    rw [get?_addDocument] at hr
    split at hr
    · rename_i hkey
      cases hr
      cases hc
      exact .inl ⟨hkey, rfl⟩
    · split at hr
      · rename_i hkey
        cases hr
        cases hc
        exact .inr ⟨hkey, rfl⟩
      · have hlt : c.uid.toNat < w.nextUid.toNat := hw.uid_lt ⟨r, hr, hc⟩
        omega
  have hne : w.nextUid ≠ w.nextUid + 1 := by
    intro he
    rw [← he] at hone
    omega
  refine hw.grow (hw.keeps_addDocument hfree d) (by rw [hnext]; exact hround)
    (fun {key r} hr => ?_) fun h h' huid => ?_
  · have hr' := hr
    rw [get?_addDocument] at hr
    split at hr
    · rename_i hkey
      cases hr
      refine .inr (.inr ⟨_, rfl, Nat.le_refl _, ?_, .document path.display, _, hkey, hr', rfl, _, _, rfl,
        hroot⟩)
      rw [hnext, htwo]
      show w.nextUid.toNat < w.nextUid.toNat + 2
      omega
    · split at hr
      · rename_i hkey
        cases hr
        refine .inr (.inr ⟨_, rfl, ?_, ?_, .root path.display, _, hkey, hr', rfl, _, _, rfl, hdoc⟩)
        · show w.nextUid.toNat ≤ (w.nextUid + 1).toNat
          omega
        · show (w.nextUid + 1).toNat < (w.nextUid + 1 + 1).toNat
          omega
      · exact .inl hr
  · rcases honly h with ⟨hkey, hu⟩ | ⟨hkey, hu⟩ <;> rcases honly h' with ⟨hkey', hu'⟩ | ⟨hkey', hu'⟩
    · rw [hkey, hkey']
    · exact absurd (hu.symm.trans (huid.trans hu')) hne
    · exact absurd (hu'.symm.trans (huid.symm.trans hu)) hne
    · rw [hkey, hkey']

end Coherent

/-! ### Containers that are found -/

namespace Cache

variable {cache : Cache} {handle : String} {c : Container}

theorem expect_ok {kinds : List ResourceKind} :
    Cache.expect cache handle kinds = .ok c ↔
      ∃ r, cache.get? handle = some r ∧ r.container? = some c ∧ r.kind ∈ kinds := by
  rw [expect]
  cases hr : cache.get? handle with
  | none => simp
  | some r =>
    simp only [Option.some.injEq, exists_eq_left']
    cases hc : r.container? with
    | none => simp
    | some c' => by_cases hk : r.kind ∈ kinds <;> simp [hk]

/-- A list is found where a node list wraps it. -/
theorem listAt_ok {ns : List Node} :
    Cache.listAt cache handle = .ok (c, ns) ↔
      cache.get? handle = some (.nodeList c) ∧ c.wrapped = .nodes ns := by
  rw [listAt]
  constructor
  · intro h
    split at h
    · cases h
    · rename_i c' hc'
      obtain ⟨r, hr, hcont, hk⟩ := expect_ok.1 hc'
      obtain ⟨uid, wrapped⟩ := c'
      cases wrapped with
      | node n => cases h
      | nodes ns' =>
        cases h
        cases r with
        | nodeList c'' =>
          cases hcont
          exact ⟨hr, rfl⟩
        | _ => simp [Resource.kind] at hk
  · intro hlist
    obtain ⟨hr, hw⟩ := hlist
    rw [expect_ok.2 ⟨_, hr, rfl, by simp [Resource.kind]⟩]
    simp [Container.nodes?, hw]

/-- A document is found under its handle. -/
theorem expect_document :
    Cache.expect cache handle [.document] = .ok c ↔ cache.get? handle = some (.document c) := by
  rw [expect_ok]
  constructor
  · intro hexpect
    obtain ⟨r, hr, hc, hk⟩ := hexpect
    cases r with
    | document c' =>
      cases hc
      exact hr
    | _ => simp [Resource.kind] at hk
  · intro hr
    exact ⟨_, hr, rfl, by simp [Resource.kind]⟩

end Cache

theorem Container.eq_of_node? {c : Container} {n : Node} (h : c.node? = some n) :
    c = ⟨c.uid, .node n⟩ := by
  obtain ⟨uid, wrapped⟩ := c
  cases wrapped with
  | node m =>
    cases h
    rfl
  | nodes ns => cases h

theorem getElem?_of_nodeAt? {ns : List Node} {index : Int64} {n : Node}
    (h : nodeAt? ns index = some n) : ns[index.toInt.toNat]? = some n := by
  rw [nodeAt?] at h
  split at h
  · cases h
  · exact h

/-! ### Coherence of runs -/

/-- What only touches a workspace changes no resource, but for those of no kind under free keys. -/
theorem Touches.get? {free : String → Prop} {w w' : Workspace} (h : Touches free w w')
    (key : String) :
    w'.cache.get? key = w.cache.get? key ∨
      (free key ∧ ∃ text, w'.cache.get? key = some (.other text)) := by
  induction h with
  | refl => exact .inl rfl
  | takeUid _ ih => exact ih
  | store other text hfree _ ih =>
    by_cases he : key = other
    · subst he
      exact .inr ⟨hfree, text, Table.get?_insert_self _ _ _⟩
    · rw [Table.get?_insert_of_ne _ _ he]
      exact ih
  | message _ _ ih => exact ih
  | failure _ _ ih => exact ih

namespace Coherent

variable {w w' : Workspace}

/-- What touches only free keys keeps all containers. -/
theorem keeps_touches (hw : Coherent w) (ht : Touches (¬ IsReserved ·) w w') :
    Keeps w.cache w'.cache := by
  intro key r hr hc
  rcases ht.get? key with hsame | ⟨hfree, -⟩
  · rw [hsame, hr]
  · obtain ⟨k, rfl, -⟩ := hw.key_of_container hr hc
    exact absurd (Key.isReserved_text k) hfree

theorem touches (hw : Coherent w) (ht : Touches (¬ IsReserved ·) w w')
    (hround : w.nextUid.toNat ≤ w'.nextUid.toNat) : Coherent w' := by
  -- There is no new container at all.
  have hold : ∀ {key r}, w'.cache.get? key = some r →
      w.cache.get? key = some r ∨ (¬ IsReserved key ∧ r.container? = none) := by
    intro key r hr
    rcases ht.get? key with hsame | ⟨hfree, text, hother⟩
    · exact .inl (hsame ▸ hr)
    · rw [hr] at hother
      cases hother
      exact .inr ⟨hfree, rfl⟩
  have hnone : ∀ {key c}, ¬ IsNew w w' key c := by
    intro key c hnew
    obtain ⟨hle, -, -, r, -, hr, hc, -⟩ := hnew
    rcases hold hr with hr | ⟨-, hno⟩
    · have hlt : c.uid.toNat < w.nextUid.toNat := hw.uid_lt ⟨r, hr, hc⟩
      omega
    · rw [hno] at hc
      cases hc
  refine hw.grow (hw.keeps_touches ht) hround (fun hr => ?_) fun h => absurd h hnone
  rcases hold hr with hr | hfree
  · exact .inl hr
  · exact .inr (.inl hfree)

/-- An operation keeps coherence and all containers. -/
theorem growth {loader : Loader} {h : Host} {op : Operation} {result : Except Fault Value}
    (hw : Coherent w) (hg : Growth loader h w op result w')
    (hround : w.nextUid.toNat ≤ w'.nextUid.toNat) : Coherent w' ∧ Keeps w.cache w'.cache := by
  cases hg with
  | quiet notices _ => exact ⟨hw.noteAll notices, Keeps.refl _⟩
  | opened _ hfree _ =>
    exact ⟨(hw.noteAll _).addDocument hfree _ hround, (hw.noteAll _).keeps_addDocument hfree _⟩
  | @rooted handle c n hc hn hfree =>
    -- The root element came with the document, so there is nothing to add.
    obtain ⟨path, d, rfl, -, hroot⟩ := hw.document_key (Cache.expect_document.1 hc)
    rw [hfree] at hroot
    cases hroot
  | @listed handle tag c n hc hn hfree =>
    obtain ⟨r, hr, hcont, -⟩ := Cache.expect_ok.1 hc
    have hlt : c.uid < w.nextUid := UInt64.lt_iff_toNat_lt.2 (hw.uid_lt ⟨r, hr, hcont⟩)
    rw [Container.eq_of_node? hn] at hcont
    exact ⟨hw.add (k := .list c.uid tag) hfree rfl ⟨_, n, rfl, hlt, handle, r, hr, hcont⟩ hround,
      Keeps.insert hfree _⟩
  | @picked handle index c ns n hl hn hfree =>
    obtain ⟨hr, hwrap⟩ := Cache.listAt_ok.1 hl
    have hlt : c.uid < w.nextUid := UInt64.lt_iff_toNat_lt.2 (hw.uid_lt ⟨_, hr, rfl⟩)
    have hlist : c = ⟨c.uid, .nodes ns⟩ := by rw [← hwrap]
    rw [hlist] at hr
    exact ⟨hw.add (k := .element c.uid index.toInt.toNat) hfree rfl
      ⟨_, n, rfl, hlt, handle, ns, hr, getElem?_of_nodeAt? hn⟩ hround, Keeps.insert hfree _⟩

end Coherent

namespace Registry

variable {r : Registry} {loader : Loader}

/-- One answer keeps coherence and all containers. -/
theorem coherent_reply (hr : r.Hosts loader (¬ IsReserved ·)) {w : Workspace} (hw : Coherent w)
    (q : Request) (hround : w.nextUid.toNat ≤ (r.reply w q).after.nextUid.toNat) :
    Coherent (r.reply w q).after ∧ Keeps w.cache (r.reply w q).after.cache := by
  by_cases hq : ∃ op h, q = Operation.request op h
  · obtain ⟨op, h, rfl⟩ := hq
    exact hw.growth (growth_reply hr op h w) hround
  · have ht := touches_reply hr q w fun op h he => hq ⟨op, h, he⟩
    exact ⟨hw.touches ht hround, hw.keeps_touches ht⟩

/-- The counter of uids does not go back in a run that takes few. -/
theorem Runs.round {history : List Reply} {w : Workspace} (h : r.Runs history w) (q : Request)
    (hfew : uidsTaken (history ++ [r.reply w q]) < UInt64.size - 1) :
    w.nextUid.toNat ≤ (r.reply w q).after.nextUid.toNat := by
  have hafter := nextUid_of_runs (h.call q) hfew
  rw [uidsTaken_append] at hafter hfew
  have hbefore := nextUid_of_runs h (by omega)
  omega

/-- Every run that takes few uids keeps coherence. -/
theorem coherent_of_runs (hr : r.Hosts loader (¬ IsReserved ·)) {history : List Reply}
    {w : Workspace} (h : r.Runs history w) (hfew : uidsTaken history < UInt64.size - 1) :
    Coherent w := by
  induction h with
  | fresh => exact .fresh
  | @call history w q hrun ih =>
    have hround := hrun.round q hfew
    rw [uidsTaken_append] at hfew
    exact (coherent_reply hr (ih (by omega)) q hround).1

end Registry

end Builtins
