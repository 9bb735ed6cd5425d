import Builtins.Proofs.Run.Failure
import Builtins.Proofs.Run.Transparency

/-!
# Stability of handles

As long as only standard functions are called, nothing in the cache is ever overwritten, and a handle
that was given once is given again without anything being done.

* `Adds`, `Provides` — the only ways in which a cache grows, with one uid for each new entry;
* `opened_outcome`, `listed_outcome`, `picked_outcome` — how handles come into being;
* `outcome_again` — a call whose handle is kept gives it again and leaves the workspace as it is;
* `Steady` — what a run owes to those who keep handles;
* `steady_of_runs` — every run that takes few uids is steady.
-/

namespace Builtins

/-! ### Growing caches -/

/-- New entries under these keys, with one uid for each, and no other change of cache or counter. -/
structure Adds (w w' : Workspace) (keys : List String) : Prop where
  distinct : keys.Nodup
  absent : ∀ key ∈ keys, w.cache.get? key = none
  present : ∀ key ∈ keys, (w'.cache.get? key).isSome
  others : ∀ key, key ∉ keys → w'.cache.get? key = w.cache.get? key
  size : w'.cache.size = w.cache.size + keys.length
  nextUid : w'.nextUid = w.nextUid + UInt64.ofNat keys.length

/-- The key is there and nothing changes, or it is added with what belongs to it. -/
def Provides (w w' : Workspace) (key : String) (keys : List String) : Prop :=
  (w.cache.get? key).isSome ∧ w' = w ∨ Adds w w' keys

theorem Adds.kept {w w' : Workspace} {keys : List String} (h : Adds w w' keys) {key : String}
    {r : Resource} (hget : w.cache.get? key = some r) : w'.cache.get? key = some r := by
  have hnew : key ∉ keys := by
    intro hmem
    rw [h.absent key hmem] at hget
    cases hget
  rw [h.others key hnew, hget]

theorem adds_add {w : Workspace} {key : String} (hfree : w.cache.get? key = none)
    (resource : UInt64 → Resource) : Adds w (w.add key resource) [key] where
  distinct := by simp
  absent other hmem := by
    obtain rfl := List.mem_singleton.1 hmem
    exact hfree
  present other hmem := by
    obtain rfl := List.mem_singleton.1 hmem
    rw [Coherent.get?_add, if_pos rfl]
    rfl
  others other hnot := by
    rw [Coherent.get?_add, if_neg fun he => hnot (by simp [he])]
  size := Table.size_insert _ hfree _
  nextUid := rfl

theorem adds_addDocument {w : Workspace} (hw : Coherent w) {path : DiskPath}
    (hfree : w.cache.get? (documentKey path) = none) (d : Document) :
    Adds w (w.addDocument path d) [documentKey path, rootKey (documentKey path)] where
  distinct := by simp [(Coherent.root_ne_document path).symm]
  absent key hmem := by
    simp only [List.mem_cons, List.not_mem_nil, or_false] at hmem
    rcases hmem with rfl | rfl
    · exact hfree
    · exact hw.root_free hfree
  present key hmem := by
    simp only [List.mem_cons, List.not_mem_nil, or_false] at hmem
    rcases hmem with rfl | rfl
    · rw [Coherent.get?_addDocument, if_pos rfl]
      rfl
    · rw [Coherent.get?_addDocument, if_neg (Coherent.root_ne_document path), if_pos rfl]
      rfl
  others key hnot := by
    simp only [List.mem_cons, List.not_mem_nil, or_false, not_or] at hnot
    rw [Coherent.get?_addDocument, if_neg hnot.1, if_neg hnot.2]
  size := by
    have hdoc : ∀ r, (w.cache.insert (rootKey (documentKey path)) r).get? (documentKey path) = none :=
      fun r => (w.cache.get?_insert_of_ne r (Coherent.root_ne_document path).symm).trans hfree
    rw [Workspace.addDocument, Table.size_insert _ (hdoc _), Table.size_insert _ (hw.root_free hfree)]
    rfl
  nextUid := UInt64.add_assoc w.nextUid 1 1

/-- What is told beside it does not matter. -/
theorem Adds.of_noteAll {w w' : Workspace} {notices : List Notice} {keys : List String}
    (h : Adds (w.noteAll notices) w' keys) : Adds w w' keys :=
  ⟨h.distinct, h.absent, h.present, h.others, h.size, h.nextUid⟩

/-! ### Where handles come from -/

section Outcomes

variable {loader : Loader} {h h' : Host} {w w' : Workspace} {v : Value}

theorem opened_outcome (hw : Coherent w) {name : String}
    (ho : ((Operation.openDocument name).body loader).outcome h w = (.ok v, w')) :
    ∃ path, h.resolve name = .ok path ∧ v = .string (documentKey path) ∧
      Provides w w' (documentKey path) [documentKey path, rootKey (documentKey path)] := by
  simp only [Operation.body, Call.outcome_map, outcome_openDocument] at ho
  cases hp : h.resolve name with
  | error fault => simp [hp, Except.map] at ho
  | ok path =>
    simp only [hp] at ho
    split at ho
    · rename_i hkey
      cases ho
      exact ⟨path, rfl, rfl, .inl ⟨hkey, rfl⟩⟩
    · rename_i hkey
      cases hl : loader.load h path with
      | error fault => simp [hl, Except.map] at ho
      | ok d =>
        simp only [hl] at ho
        cases ho
        have hfree : w.cache.get? (documentKey path) = none := by simpa using hkey
        exact ⟨path, rfl, rfl, .inr (adds_addDocument (hw.noteAll _) hfree d).of_noteAll⟩

theorem listed_outcome {parent tag : String}
    (ho : ((Operation.elementsByTag parent tag).body loader).outcome h w = (.ok v, w')) :
    ∃ key, v = .string key ∧ Provides w w' key [key] := by
  simp only [Operation.body, Call.outcome_map, outcome_elementsByTag] at ho
  cases hc : Cache.expect w.cache parent nodeHandles with
  | error fault => simp [hc, Except.map] at ho
  | ok c =>
    simp only [hc] at ho
    split at ho
    · rename_i hkey
      cases ho
      exact ⟨_, rfl, .inl ⟨hkey, rfl⟩⟩
    · rename_i hkey
      cases hn : singleNode c parent with
      | error fault => simp [hn, Except.map] at ho
      | ok n =>
        simp only [hn] at ho
        cases ho
        have hfree : w.cache.get? (listKey c.uid tag) = none := by simpa using hkey
        exact ⟨_, rfl, .inr (adds_add hfree _)⟩

theorem picked_outcome {parent : String} {index : Int64}
    (ho : ((Operation.listElement parent index).body loader).outcome h w = (.ok v, w')) :
    ¬ index.toInt < 0 ∧ ∃ key, v = .string key ∧ Provides w w' key [key] := by
  simp only [Operation.body, Call.outcome_map, outcome_listElement] at ho
  cases hl : Cache.listAt w.cache parent with
  | error fault => simp [hl, Except.map] at ho
  | ok found =>
    obtain ⟨c, ns⟩ := found
    simp only [hl] at ho
    cases hn : nodeAt? ns index with
    | none => simp [hn, Except.map] at ho
    | some n =>
      have hindex : ¬ index.toInt < 0 := by
        intro hneg
        rw [nodeAt?, if_pos hneg] at hn
        cases hn
      simp only [hn] at ho
      split at ho
      · rename_i hkey
        cases ho
        exact ⟨hindex, _, rfl, .inl ⟨hkey, rfl⟩⟩
      · rename_i hkey
        cases ho
        have hfree : w.cache.get? (elementKey c.uid index.toInt.toNat) = none := by simpa using hkey
        exact ⟨hindex, _, rfl, .inr (adds_add hfree fun uid => .element ⟨uid, .node n⟩)⟩

/-- No other operation adds anything, for the root element of a document is there already. -/
theorem Growth.unchanged {op : Operation} {result : Except Fault Value} (hw : Coherent w)
    (hg : Growth loader h w op result w') (hop : op.function ∉ ["xml_open", "xml_list", "xml_get"]) :
    w'.cache = w.cache ∧ w'.nextUid = w.nextUid := by
  cases hg with
  | quiet notices _ => exact ⟨rfl, rfl⟩
  | opened _ _ _ => simp [Operation.function] at hop
  | rooted hc _ hfree =>
    obtain ⟨path, d, rfl, -, hroot⟩ := hw.document_key (Cache.expect_document.1 hc)
    rw [hfree] at hroot
    cases hroot
  | listed _ _ _ => simp [Operation.function] at hop
  | picked _ _ _ => simp [Operation.function] at hop

/-! ### Handles that are given again -/

/-- Whether an operation gives its handle again when `h` offers what `h'` does now: a document is found
as long as its name leads to the same path. -/
def Operation.Recurs (h h' : Host) : Operation → Prop
  | openDocument name => h'.resolve name = h.resolve name
  | documentRoot _ => True
  | elementsByTag _ _ => True
  | listElement _ _ => True
  | _ => False

theorem Operation.Recurs.givesHandle {op : Operation} (hop : op.Recurs h h') : op.GivesHandle := by
  cases op with
  | openDocument name => trivial
  | documentRoot parent => trivial
  | elementsByTag parent tag => trivial
  | listElement parent index => trivial
  | _ => cases hop

/-- The parent of a list is the document or the element that the list was asked from. -/
theorem Coherent.expect_parent (hw : Coherent w) {parent tag : String} {c c' : Container}
    (hc : Stored w.cache parent c) (hkey : Stored w.cache (listKey c.uid tag) c') :
    Cache.expect w.cache parent nodeHandles = .ok c := by
  obtain ⟨r', hr', -⟩ := hkey
  obtain ⟨own, n, -, -, parent', hparent⟩ := hw.holds (k := .list c.uid tag) hr'
  have hnode : ⟨c.uid, .node n⟩ = c := hw.eq_of_uid_eq hparent hc rfl
  obtain ⟨r, hr, hcont⟩ := hc
  exact Cache.expect_ok.2 ⟨r, hr, hcont, hw.kind_of_node hr (hcont.trans (congrArg some hnode.symm))⟩

/-- The parent of an element of a list is that list. -/
theorem Coherent.listAt_parent (hw : Coherent w) {parent : String} {i : Nat} {c c' : Container}
    (hc : Stored w.cache parent c) (hkey : Stored w.cache (elementKey c.uid i) c') :
    ∃ ns n, Cache.listAt w.cache parent = .ok (c, ns) ∧ ns[i]? = some n := by
  obtain ⟨r', hr', -⟩ := hkey
  obtain ⟨own, n, -, -, parent', ns, hparent, hn⟩ := hw.holds (k := .element c.uid i) hr'
  obtain rfl := hw.uid_inj ⟨_, hparent, rfl⟩ hc rfl
  have hlist : ⟨c.uid, .nodes ns⟩ = c := Stored.unique ⟨_, hparent, rfl⟩ hc
  rw [hlist] at hparent
  exact ⟨ns, n, Cache.listAt_ok.2 ⟨hparent, congrArg Container.wrapped hlist.symm⟩, hn⟩

theorem Stored.isSome {cache : Cache} {key : String} {c : Container} (hs : Stored cache key c) :
    (cache.get? key).isSome := by
  obtain ⟨r, hr, -⟩ := hs
  rw [hr]
  rfl

/-- A call whose handle is kept gives it again and leaves the workspace as it is.  That it succeeded
before tells that its index was none below zero, which the cache does not know. -/
theorem outcome_again (hw : Coherent w) {op : Operation} {s : String} (hk : Kept w.cache h s op)
    (hop : op.Recurs h h') {w₀ w₁ : Workspace}
    (ho : (op.body loader).outcome h w₀ = (.ok (.string s), w₁)) :
    (op.body loader).outcome h' w = (.ok (.string s), w) := by
  cases op with
  | openDocument name =>
    obtain ⟨path, c, hpath, rfl, hc⟩ := hk
    have hpath' : h'.resolve name = .ok path := Eq.trans hop hpath
    simp only [Operation.body, Call.outcome_map, outcome_openDocument, hpath', if_pos hc.isSome]
    rfl
  | documentRoot parent =>
    obtain ⟨c, rfl, hdoc⟩ := hk
    obtain ⟨path, d, rfl, -, hroot⟩ := hw.document_key hdoc
    simp only [Operation.body, Call.outcome_map, outcome_documentRoot, Cache.expect_document.2 hdoc,
      hroot, Option.isSome_some, if_true]
    rfl
  | elementsByTag parent tag =>
    obtain ⟨c, c', rfl, hc, hc'⟩ := hk
    simp only [Operation.body, Call.outcome_map, outcome_elementsByTag, hw.expect_parent hc hc',
      if_pos hc'.isSome]
    rfl
  | listElement parent index =>
    obtain ⟨hindex, -⟩ := picked_outcome ho
    obtain ⟨c, c', rfl, hc, hc'⟩ := hk
    obtain ⟨ns, n, hlist, hn⟩ := hw.listAt_parent hc hc'
    have hat : nodeAt? ns index = some n := by rw [nodeAt?, if_neg hindex, hn]
    simp only [Operation.body, Call.outcome_map, outcome_listElement, hlist, hat, if_pos hc'.isSome]
    rfl
  | _ => cases hop

end Outcomes

/-! ### Answers to requests for standard functions -/

namespace Registry

variable {r : Registry} {loader : Loader} {w : Workspace}

/-- A call that succeeds leaves behind what its operation does. -/
theorem outcome_of_reply (hr : r.Offers loader) {op : Operation} {h : Host} {v : Value}
    (hv : (r.reply w (op.request h)).result = .ok v) :
    (op.body loader).outcome h w = (.ok v, (r.reply w (op.request h)).after) := by
  obtain ⟨hresult, hafter⟩ := reply_of_offers hr op h w
  rw [hv] at hresult
  rw [← hresult] at hafter
  exact Prod.ext hresult.symm hafter.symm

/-- The functions that only use what is there. -/
def readers : List String := ["xml_root", "xml_size", "xml_name", "xml_text", "xml_attr", "binfile"]

/-- They leave cache and counter as they were. -/
theorem unchanged_of_reader (hr : r.Offers loader) (hw : Coherent w) {q : Request}
    (hq : q.name ∈ readers) :
    (r.reply w q).after.cache = w.cache ∧ (r.reply w q).after.nextUid = w.nextUid := by
  have hstandard : q.IsStandard := by
    simp only [readers, List.mem_cons, List.not_mem_nil, or_false] at hq
    rcases hq with hq | hq | hq | hq | hq | hq
    · exact ⟨.documentRoot "", hq.symm⟩
    · exact ⟨.listSize "", hq.symm⟩
    · exact ⟨.elementName "", hq.symm⟩
    · exact ⟨.elementText "", hq.symm⟩
    · exact ⟨.elementAttribute "" "", hq.symm⟩
    · exact ⟨.embedFile "" "", hq.symm⟩
  rcases reply_standard hr hstandard w with ⟨op, hop⟩ | ⟨fault, hreply⟩
  · have hname : op.function = q.name := by rw [hop]; rfl
    have hother : op.function ∉ ["xml_open", "xml_list", "xml_get"] := by
      rw [hname]
      intro hmem
      simp only [readers, List.mem_cons, List.not_mem_nil, or_false] at hq hmem
      rcases hmem with he | he | he <;> rw [he] at hq <;> simp at hq
    rw [hop]
    exact (growth_of_offers hr op q.host w).unchanged hw hother
  · rw [hreply]
    exact ⟨rfl, rfl⟩

/-- Every standard function leaves cache and counter as they were, or adds entries. -/
theorem adds_or_unchanged (hr : r.Offers loader) (hw : Coherent w) {q : Request}
    (hq : q.IsStandard) :
    ((r.reply w q).after.cache = w.cache ∧ (r.reply w q).after.nextUid = w.nextUid) ∨
      ∃ keys, keys.length ≤ 2 ∧ Adds w (r.reply w q).after keys := by
  cases hres : (r.reply w q).result with
  | error fault => exact .inl (unchanged_of_error hr hres (.inl hq))
  | ok v =>
    have hprovides : ∀ {w' key keys}, keys.length ≤ 2 → Provides w w' key keys →
        (w'.cache = w.cache ∧ w'.nextUid = w.nextUid) ∨
          ∃ keys, keys.length ≤ 2 ∧ Adds w w' keys := by
      intro w' key keys hlen hp
      rcases hp with ⟨-, rfl⟩ | hadds
      · exact .inl ⟨rfl, rfl⟩
      · exact .inr ⟨keys, hlen, hadds⟩
    rcases reply_standard hr hq w with ⟨op, hop⟩ | ⟨fault, hreply⟩
    · rw [hop] at hres ⊢
      have ho := outcome_of_reply hr hres
      cases op with
      | openDocument name =>
        obtain ⟨path, -, -, hp⟩ := opened_outcome hw ho
        exact hprovides (by simp) hp
      | elementsByTag parent tag =>
        obtain ⟨key, -, hp⟩ := listed_outcome ho
        exact hprovides (by simp) hp
      | listElement parent index =>
        obtain ⟨-, key, -, hp⟩ := picked_outcome ho
        exact hprovides (by simp) hp
      | _ => exact .inl (unchanged_of_reader hr hw (by simp [Operation.request, Operation.function,
          readers]))
    · rw [hreply] at hres
      cases hres

/-- What is in the cache stays there. -/
theorem kept_reply (hr : r.Offers loader) (hw : Coherent w) {q : Request} (hq : q.IsStandard)
    {key : String} {resource : Resource} (hget : w.cache.get? key = some resource) :
    (r.reply w q).after.cache.get? key = some resource := by
  rcases adds_or_unchanged hr hw hq with ⟨hcache, -⟩ | ⟨keys, -, hadds⟩
  · rw [hcache, hget]
  · exact hadds.kept hget

/-- There is one new entry for each uid that is taken. -/
theorem size_reply (hr : r.Offers loader) (hw : Coherent w) {q : Request} (hq : q.IsStandard) :
    (r.reply w q).after.cache.size = w.cache.size + (r.reply w q).uidsTaken := by
  have htaken : (r.reply w q).uidsTaken = ((r.reply w q).after.nextUid - w.nextUid).toNat := rfl
  rcases adds_or_unchanged hr hw hq with ⟨hcache, huid⟩ | ⟨keys, hlen, hadds⟩
  · rw [htaken, hcache, huid, UInt64.sub_self]
    rfl
  · rw [htaken, hadds.size, hadds.nextUid, UInt64.add_comm, UInt64.add_sub_cancel,
      UInt64.toNat_ofNat_of_lt' (Nat.lt_of_le_of_lt hlen (by decide))]

/-- So a run that takes few uids has one entry for each of them. -/
theorem Runs.size (hr : r.Offers loader) {history : List Reply} (h : r.Runs history w)
    (hstandard : ∀ e ∈ history, e.request.IsStandard)
    (hfew : uidsTaken history < UInt64.size - 1) : w.cache.size = uidsTaken history := by
  induction h with
  | fresh => rfl
  | @call history w q hrun ih =>
    rw [uidsTaken_append, uidsTaken_singleton] at hfew ⊢
    have hbefore : ∀ e ∈ history, e.request.IsStandard := fun e he =>
      hstandard e (List.mem_append_left _ he)
    have hw := coherent_of_runs (hosts_plain loader _) (hrun.plain hr hbefore) (by omega)
    have hq : q.IsStandard := hstandard (r.reply w q) (by simp)
    rw [size_reply hr hw hq, ih hbefore (by omega)]

/-- An addition under a key of navigation. -/
theorem isReserved_of_add {key other : String} {resource : UInt64 → Resource} {r' : Resource}
    (hw : ∀ {key resource}, w.cache.get? key = some resource → IsReserved key)
    (hkey : IsReserved other) (hget : (w.add other resource).cache.get? key = some r') :
    IsReserved key := by
  rw [Coherent.get?_add] at hget
  split at hget
  · rename_i he
    exact he ▸ hkey
  · exact hw hget

/-- A standard function adds nothing under other keys than those of navigation. -/
theorem isReserved_reply (hr : r.Offers loader) {q : Request} (hq : q.IsStandard)
    (hw : ∀ {key resource}, w.cache.get? key = some resource → IsReserved key) {key : String}
    {resource : Resource} (hget : (r.reply w q).after.cache.get? key = some resource) :
    IsReserved key := by
  rcases reply_standard hr hq w with ⟨op, hop⟩ | ⟨fault, hreply⟩
  · rw [hop] at hget
    have hgrow := growth_of_offers hr op q.host w
    generalize (r.reply w (op.request q.host)).result = result at hgrow
    generalize (r.reply w (op.request q.host)).after = w' at hgrow hget
    cases hgrow with
    | quiet notices _ => exact hw hget
    | @opened name path d _ _ _ =>
      rw [Coherent.get?_addDocument] at hget
      split at hget
      · rename_i he
        exact he ▸ Key.isReserved_text (.document path.display)
      · split at hget
        · rename_i he
          exact he ▸ Key.isReserved_text (.root path.display)
        · exact hw hget
    | @rooted handle _ _ _ _ _ =>
      refine isReserved_of_add hw (.inr (.inl ?_)) hget
      rw [rootKey, String.toList_append, String.toList_append, List.append_assoc]
      exact List.prefix_append _ _
    | @listed _ tag c _ _ _ _ =>
      exact isReserved_of_add hw (Key.isReserved_text (.list c.uid tag)) hget
    | @picked _ index c _ _ _ _ _ =>
      exact isReserved_of_add hw (Key.isReserved_text (.element c.uid index.toInt.toNat)) hget
  · rw [hreply] at hget
    exact hw hget

/-- So in a run of standard functions every text in the cache starts like a key. -/
theorem Runs.isReserved (hr : r.Offers loader) {history : List Reply} (h : r.Runs history w)
    (hstandard : ∀ e ∈ history, e.request.IsStandard) {key : String} {resource : Resource}
    (hget : w.cache.get? key = some resource) : IsReserved key := by
  induction h generalizing key resource with
  | fresh => cases hget
  | @call history w q hrun ih =>
    have hq : q.IsStandard := hstandard (r.reply w q) (by simp)
    exact isReserved_reply hr hq (ih fun e he => hstandard e (List.mem_append_left _ he)) hget

/-- What is new in the cache is the handle that a call gives, or the root element of a document that it
opens. -/
theorem new_key (hr : r.Offers loader) (hw : Coherent w) {op : Operation} {h : Host} {key : String}
    {resource : Resource}
    (hget : (r.reply w (op.request h)).after.cache.get? key = some resource) :
    w.cache.get? key = some resource ∨ op.GivesHandle ∧
      ∃ s, (r.reply w (op.request h)).result = .ok (.string s) ∧
        (key = s ∨ ∃ name, op = .openDocument name ∧ key = rootKey s) := by
  -- What is found is not new, and what is added is one of these keys.
  have hprovides : ∀ {w' : Workspace} {s keys}, w'.cache.get? key = some resource →
      Provides w w' s keys → w.cache.get? key = some resource ∨ key ∈ keys := by
    intro w' s keys hlater hp
    rcases hp with ⟨-, rfl⟩ | hadds
    · exact .inl hlater
    · by_cases hkey : key ∈ keys
      · exact .inr hkey
      · exact .inl (hadds.others key hkey ▸ hlater)
  cases hres : (r.reply w (op.request h)).result with
  | error fault =>
    rw [(unchanged_of_error hr hres (.inl ⟨op, rfl⟩)).1] at hget
    exact .inl hget
  | ok v =>
    have ho := outcome_of_reply hr hres
    cases op with
    | openDocument name =>
      obtain ⟨path, -, rfl, hp⟩ := opened_outcome hw ho
      rcases hprovides hget hp with hold | hnew
      · exact .inl hold
      · simp only [List.mem_cons, List.not_mem_nil, or_false] at hnew
        rcases hnew with hdoc | hroot
        · exact .inr ⟨trivial, _, rfl, .inl hdoc⟩
        · exact .inr ⟨trivial, _, rfl, .inr ⟨name, rfl, hroot⟩⟩
    | elementsByTag parent tag =>
      obtain ⟨s, rfl, hp⟩ := listed_outcome ho
      rcases hprovides hget hp with hold | hnew
      · exact .inl hold
      · exact .inr ⟨trivial, s, rfl, .inl (List.mem_singleton.1 hnew)⟩
    | listElement parent index =>
      obtain ⟨-, s, rfl, hp⟩ := picked_outcome ho
      rcases hprovides hget hp with hold | hnew
      · exact .inl hold
      · exact .inr ⟨trivial, s, rfl, .inl (List.mem_singleton.1 hnew)⟩
    | _ =>
      rw [(unchanged_of_reader hr hw (by simp [Operation.request, Operation.function, readers])).1]
        at hget
      exact .inl hget

end Registry

/-! ### What is owed -/

/-- What a run owes to those who keep handles, whatever standard function is called next. -/
structure Steady (r : Registry) (history : List Reply) (w : Workspace) : Prop where
  /-- What is in the cache stays there, whether the call succeeds or not. -/
  kept : ∀ {q key resource}, q.IsStandard → w.cache.get? key = some resource →
    (r.reply w q).after.cache.get? key = some resource
  /-- A document that is opened was there, or it is added with its root element. -/
  opened : ∀ {name h e v}, e = r.reply w ((Operation.openDocument name).request h) →
    e.result = .ok v → ∃ path, h.resolve name = .ok path ∧ v = .string (documentKey path) ∧
      Provides w e.after (documentKey path) [documentKey path, rootKey (documentKey path)]
  /-- A list that is given was there, or it is all that is added. -/
  listed : ∀ {parent tag h e v}, e = r.reply w ((Operation.elementsByTag parent tag).request h) →
    e.result = .ok v → ∃ key, v = .string key ∧ Provides w e.after key [key]
  /-- So is an element of a list. -/
  picked : ∀ {parent index h e v}, e = r.reply w ((Operation.listElement parent index).request h) →
    e.result = .ok v → ∃ key, v = .string key ∧ Provides w e.after key [key]
  /-- All else leaves cache and counter as they were, whether it succeeds or not. -/
  read : ∀ {q}, q.name ∈ Registry.readers →
    (r.reply w q).after.cache = w.cache ∧ (r.reply w q).after.nextUid = w.nextUid
  /-- A handle that was given is given again, and nothing is done for it. -/
  again : ∀ {e op h h' v}, e ∈ history → e.request = Operation.request op h → e.result = .ok v →
    op.Recurs h h' → (r.reply w (op.request h')).result = .ok v ∧
      (r.reply w (op.request h')).after = w
  /-- There is one entry for each uid that was taken. -/
  counted : w.cache.size = uidsTaken history

/-- A run of calls of standard functions is steady, whatever its files do in between. -/
theorem steady_of_runs {r : Registry} {loader : Loader} (hr : r.Offers loader)
    {history : List Reply} {w : Workspace} (h : r.Runs history w)
    (hstandard : ∀ e ∈ history, e.request.IsStandard)
    (hfew : uidsTaken history < UInt64.size - 1) : Steady r history w := by
  have hplain := Registry.hosts_plain loader (¬ IsReserved ·)
  have ht := tracks_of_runs hplain (h.plain hr hstandard) hfew
  have hw := ht.coherent
  constructor
  case kept =>
    intro q key resource hq hget
    exact Registry.kept_reply hr hw hq hget
  case opened =>
    intro name host e v he hv
    subst he
    exact opened_outcome hw (Registry.outcome_of_reply hr hv)
  case listed =>
    intro parent tag host e v he hv
    subst he
    exact listed_outcome (Registry.outcome_of_reply hr hv)
  case picked =>
    intro parent index host e v he hv
    subst he
    exact (picked_outcome (Registry.outcome_of_reply hr hv)).2
  case read => exact Registry.unchanged_of_reader hr hw
  case again =>
    intro e op host host' v he hreq hv hop
    obtain ⟨w₀, q, rfl⟩ := h.exists_reply he
    obtain rfl : q = op.request host := hreq
    have ho := Registry.outcome_of_reply hr hv
    obtain ⟨s, rfl⟩ := exists_string_of_givesHandle hop.givesHandle (congrArg Prod.fst ho)
    have hagain := outcome_again hw (ht.kept _ he op host s rfl hv) hop ho
    obtain ⟨hresult, hafter⟩ := Registry.reply_of_offers hr op host' w
    rw [hagain] at hresult hafter
    exact ⟨hresult, hafter⟩
  case counted => exact h.size hr hstandard hfew

/-- A document is opened, and so is another one that is not there. -/
theorem steady_of_missing_file :
    let host : Host :=
      ⟨fun name => .ok name, fun path => if path = "a" then .ok (utf8 "<a/>") else .error .absent, false⟩
    let e := Registry.standard.reply Workspace.fresh ((Operation.openDocument "a").request host)
    let e' := Registry.standard.reply e.after ((Operation.openDocument "b").request host)
    Steady Registry.standard [e, e'] e'.after := by
  intro host e e'
  refine steady_of_runs (hosts_standard fun _ => True).offers (.call _ (.call _ .fresh)) ?_
    (by decide +kernel)
  intro q hq
  simp only [List.mem_cons, List.not_mem_nil, or_false] at hq
  rcases hq with rfl | rfl
  · exact ⟨.openDocument "a", rfl⟩
  · exact ⟨.openDocument "b", rfl⟩

end Builtins
