import Builtins.Proofs.Run.Stability

/-!
# Origins of handles

A handle holds uids, so it depends on all that was called before.  Where it came from does not: it was
reached from the path of a document by asking one question after the other.

* `Origin` — a path, as it is shown, and the questions asked from there;
* `Names` — the key under which a cache has what was reached in that way;
* `Names.unique`, `Names.origin_unique` — there is one key for each origin, and one origin for each key;
* `Names.mono`, `Names.child` — origins keep their keys, and how a call gives the next one.
-/

namespace Builtins

/-- A document, or what a question about something else gave. -/
inductive Origin where
  | document (shown : String)
  | asked (o : Origin) (q : Query)
deriving DecidableEq

/-- The key of what was reached in some way. Only documents have root elements, and only the indices of
a list lead to its elements. -/
inductive Names (cache : Cache) : Origin → Key → Prop
  | document (shown : String) : Names cache (.document shown) (.document shown)
  | root (shown : String) : Names cache (.asked (.document shown) .root) (.root shown)
  | list {o : Origin} {k : Key} {c : Container} (tag : String) :
      Names cache o k → Stored cache k.text c →
        Names cache (.asked o (.list tag)) (.list c.uid tag)
  | get {o : Origin} {k : Key} {c : Container} (index : Int64) :
      Names cache o k → Stored cache k.text c → ¬ index.toInt < 0 →
        Names cache (.asked o (.get index)) (.element c.uid index.toInt.toNat)

/-- Two indices that are not below zero are the same if they are the same natural number. -/
theorem index_inj {i j : Int64} (hi : ¬ i.toInt < 0) (hj : ¬ j.toInt < 0)
    (h : i.toInt.toNat = j.toInt.toNat) : i = j :=
  Int64.toInt_inj.1 (by omega)

namespace Names

variable {cache cache' : Cache} {w : Workspace} {o o' : Origin} {k k' : Key}

/-- There is one key for each origin. -/
theorem unique (h : Names cache o k) (h' : Names cache o k') : k = k' := by
  induction h generalizing k' with
  | document shown => cases h'; rfl
  | root shown => cases h'; rfl
  | list tag _ hc ih =>
    cases h' with
    | list _ hn' hc' =>
      obtain rfl := ih hn'
      rw [hc.unique hc']
  | get index _ hc _ ih =>
    cases h' with
    | get _ hn' hc' _ =>
      obtain rfl := ih hn'
      rw [hc.unique hc']

/-- There is one origin for each key, since the uid in a key belongs to one container. -/
theorem origin_unique (hw : Coherent w) (h : Names w.cache o k) (h' : Names w.cache o' k) :
    o = o' := by
  induction h generalizing o' with
  | document shown => cases h'; rfl
  | root shown => cases h'; rfl
  | @list o k c tag _ hc ih =>
    generalize hkey : Key.list c.uid tag = key at h'
    cases h' with
    | list tag' hn' hc' =>
      obtain ⟨huid, rfl⟩ := Key.list.inj hkey
      obtain rfl := Key.text_injective (hw.uid_inj hc hc' huid)
      rw [ih hn']
    | _ => cases hkey
  | @get o k c index _ hc hindex ih =>
    generalize hkey : Key.element c.uid index.toInt.toNat = key at h'
    cases h' with
    | get index' hn' hc' hindex' =>
      obtain ⟨huid, hnat⟩ := Key.element.inj hkey
      obtain rfl := Key.text_injective (hw.uid_inj hc hc' huid)
      rw [ih hn', index_inj hindex hindex' hnat]
    | _ => cases hkey

/-- Origins keep their keys while all containers are kept. -/
theorem mono (hk : Keeps cache cache') (h : Names cache o k) : Names cache' o k := by
  induction h with
  | document shown => exact .document shown
  | root shown => exact .root shown
  | list tag _ hc ih => exact .list tag ih (hk.stored hc)
  | get index _ hc hindex ih => exact .get index ih (hk.stored hc) hindex

/-- What a question about a handle gives has its own origin. -/
theorem child {loader : Loader} {h : Host} {w' : Workspace} {c : Container} {q : Query} {s : String}
    (hw : Coherent w) (hn : Names w.cache o k) (hs : Stored w.cache k.text c)
    (hkeeps : Keeps w.cache w'.cache) (hq : (q.on k.text).GivesHandle)
    (ho : ((q.on k.text).body loader).outcome h w = (.ok (.string s), w')) :
    ∃ k', s = Key.text k' ∧ Names w'.cache (.asked o q) k' := by
  have hkept := kept_outcome hw ho
  cases q with
  | root =>
    obtain ⟨c', rfl, hdoc⟩ := hkept
    obtain ⟨r, hr, hc⟩ := hs
    have hr' := hkeeps hr (by rw [hc]; rfl)
    rw [hdoc] at hr'
    cases hr'
    obtain ⟨path, d, hkey, -⟩ := hw.document_key hr
    obtain rfl : k = .document path.display := Key.text_injective hkey
    cases hn
    exact ⟨.root path.display, rfl, .root path.display⟩
  | list tag =>
    obtain ⟨c', -, rfl, hc', -⟩ := hkept
    exact ⟨.list c'.uid tag, rfl, .list tag (hn.mono hkeeps) hc'⟩
  | get index =>
    obtain ⟨hindex, -⟩ := picked_outcome ho
    obtain ⟨c', -, rfl, hc', -⟩ := hkept
    exact ⟨.element c'.uid index.toInt.toNat, rfl, .get index (hn.mono hkeeps) hc' hindex⟩
  | _ => cases hq

end Names

end Builtins
