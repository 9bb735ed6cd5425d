import Builtins.Proofs.Run.Coherence
import Builtins.Proofs.Run.Failure

/-!
# Loads of documents

A document is loaded when it is opened for the first time, and again only as long as that fails.  This
needs no bound on the uids: what counts is under which keys documents are.

* `Reply.loads`, `loadsOf` — the loads during a call, and during a run;
* `Reply.Loading` — a call loads nothing and keeps the documents, or it opens a document that is not
  there, whatever comes of it; `loading_reply` — there is nothing else;
* `LoadedLike` — a path, or one that is shown like it, was loaded with success;
* `Documents` — a cache whose documents are those that were loaded, kept by every call;
* `Disk.LeadsTo`, `Finds` — names of files that lead to a place, through links and source roots;
* `loadsOnce_of_runs` — every path is loaded with success at most once, whatever its names, and what
  is told of it.
-/

namespace Builtins

/-! ### Loads and what is told of them -/

namespace Notice

/-- The path of a load that is noted, and whether it went well. -/
def load? : Notice → Option (DiskPath × Bool)
  | load _ path succeeded => some (path, succeeded)
  | _ => none

/-- What a message starts with when a document is parsed. -/
def parsingStart : String := "parsing XML document"

/-- A message that a document is parsed. -/
def parsing? : Notice → Option String
  | message text => if parsingStart.toList.isPrefixOf text.toList then some text else none
  | _ => none

/-- Whether a notice tells of no load. -/
def IsSilent (n : Notice) : Prop := n.load? = none ∧ n.parsing? = none

theorem parsing?_parsing (shown : String) :
    (message s!"parsing XML document '{shown}'").parsing? =
      some s!"parsing XML document '{shown}'" := by
  have htext : s!"parsing XML document '{shown}'" = "parsing XML document '" ++ shown ++ "'" := rfl
  rw [parsing?, if_pos]
  rw [htext, String.toList_append, String.toList_append]
  simp [parsingStart]

theorem isSilent_embedding (shown : String) :
    (message s!"loading content of bin file '{shown}'").IsSilent := by
  have htext : s!"loading content of bin file '{shown}'" =
    "loading content of bin file '" ++ shown ++ "'" := rfl
  refine ⟨rfl, ?_⟩
  rw [parsing?, if_neg]
  rw [htext, String.toList_append, String.toList_append]
  simp [parsingStart]

end Notice

namespace Reply

/-- The loads during the call, in order: the path, and whether the load went well. -/
def loads (e : Reply) : List (DiskPath × Bool) := (e.told.filterMap Notice.load?).reverse

/-- The messages during the call that a document is parsed, in order. -/
def parsings (e : Reply) : List String := (e.told.filterMap Notice.parsing?).reverse

/-- A call that opens a document whose name leads to a path. -/
def Opens (e : Reply) (name : String) (path : DiskPath) : Prop :=
  e.request = (Operation.openDocument name).request e.request.host ∧
    e.request.host.resolve name = .ok path

theorem silent_of_notices {e : Reply} {ns : List Notice}
    (h : e.after.notices = ns ++ e.before.notices) (hsilent : ∀ n ∈ ns, n.IsSilent) :
    e.loads = [] ∧ e.parsings = [] := by
  rw [loads, parsings, told_eq h, List.filterMap_eq_nil_iff.2 fun n hn => (hsilent n hn).1,
    List.filterMap_eq_nil_iff.2 fun n hn => (hsilent n hn).2]
  exact ⟨rfl, rfl⟩

/-- What is told when a document is opened tells of one load. -/
theorem loads_of_opening {e : Reply} {loader : Loader} {h : Host} {path : DiskPath} {ns : List Notice}
    (hnotices : e.after.notices = ns ++ (openingNotices loader h path ++ e.before.notices))
    (hsilent : ∀ n ∈ ns, n.IsSilent) :
    e.loads = [(path, (loader.load h path).isOk)] ∧
      e.parsings = if h.verbose then [s!"parsing XML document '{path.display}'"] else [] := by
  rw [← List.append_assoc] at hnotices
  rw [loads, parsings, told_eq hnotices, List.filterMap_append, List.filterMap_append,
    List.filterMap_eq_nil_iff.2 fun n hn => (hsilent n hn).1,
    List.filterMap_eq_nil_iff.2 fun n hn => (hsilent n hn).2, openingNotices]
  cases h.verbose with
  | false => exact ⟨rfl, rfl⟩
  | true =>
    refine ⟨rfl, ?_⟩
    rw [if_pos rfl, if_pos rfl, List.nil_append, List.filterMap_cons_none rfl,
      List.filterMap_cons_some (Notice.parsing?_parsing path.display)]
    rfl

end Reply

/-- The loads of a history, in order. -/
def loadsOf (history : List Reply) : List (DiskPath × Bool) := history.flatMap Reply.loads

theorem loadsOf_concat (history : List Reply) (e : Reply) :
    loadsOf (history ++ [e]) = loadsOf history ++ e.loads := by
  rw [loadsOf, List.flatMap_append, List.flatMap_singleton]
  rfl

/-! ### Documents in a cache -/

/-- Whether a path was loaded with success, or one that is shown like it. -/
def LoadedLike (loads : List (DiskPath × Bool)) (path : DiskPath) : Prop :=
  ∃ other : DiskPath, other.display = path.display ∧ (other, true) ∈ loads

/-- A cache whose documents are those of the paths that were loaded with success. -/
structure Documents (loads : List (DiskPath × Bool)) (cache : Cache) : Prop where
  keyed : ∀ {key c}, cache.get? key = some (.document c) → ∃ path : DiskPath, key = documentKey path
  stored : ∀ {path}, LoadedLike loads path → ∃ c, cache.get? (documentKey path) = some (.document c)
  free : ∀ {path}, ¬ LoadedLike loads path → cache.get? (documentKey path) = none

/-- A cache that goes on with the same documents, if they are all under keys of documents. -/
def KeepsDocuments (cache cache' : Cache) : Prop :=
  (∀ {key c}, cache.get? key = some (.document c) → ∃ path : DiskPath, key = documentKey path) →
    (∀ path : DiskPath, cache'.get? (documentKey path) = cache.get? (documentKey path)) ∧
      ∀ {key c}, cache'.get? key = some (.document c) → cache.get? key = some (.document c)

theorem KeepsDocuments.refl (cache : Cache) : KeepsDocuments cache cache :=
  fun _ => ⟨fun _ => rfl, id⟩

/-- A resource of another kind under another key changes no document. -/
theorem keepsDocuments_add {w : Workspace} {key : String} {resource : UInt64 → Resource}
    (hkey : ∀ path : DiskPath, documentKey path ≠ key) (hkind : ∀ uid c, resource uid ≠ .document c) :
    KeepsDocuments w.cache (w.add key resource).cache := by
  intro _
  refine ⟨fun path => ?_, fun {key' c} h => ?_⟩
  · rw [Coherent.get?_add, if_neg (hkey path)]
  · rw [Coherent.get?_add] at h
    split at h
    · exact absurd (Option.some.inj h) (hkind _ c)
    · exact h

/-- The root of a document is under a key of its own. -/
theorem keepsDocuments_root {w : Workspace} {handle : String} {c : Container}
    (hc : w.cache.get? handle = some (.document c)) (resource : UInt64 → Resource)
    (hkind : ∀ uid c, resource uid ≠ .document c) :
    KeepsDocuments w.cache (w.add (rootKey handle) resource).cache := by
  intro hkeyed
  obtain ⟨path, rfl⟩ := hkeyed hc
  exact keepsDocuments_add (fun other => document_ne_root other path) hkind hkeyed

/-! ### What a call does -/

/-- What a call does to the documents: nothing, or it opens one that is not there. -/
inductive Reply.Loading (loader : Loader) (e : Reply) : Prop
  | idle : e.loads = [] → e.parsings = [] → KeepsDocuments e.before.cache e.after.cache →
      Loading loader e
  | failed {name : String} {path : DiskPath} {fault : Fault} : e.Opens name path →
      e.before.cache.get? (documentKey path) = none →
        loader.load e.request.host path = .error fault → e.loads = [(path, false)] →
          e.parsings = (if e.request.host.verbose then [s!"parsing XML document '{path.display}'"] else []) →
            e.after.cache = e.before.cache → Loading loader e
  | loaded {name : String} {path : DiskPath} {d : Document} : e.Opens name path →
      e.before.cache.get? (documentKey path) = none →
        loader.load e.request.host path = .ok d → e.loads = [(path, true)] →
          e.parsings = (if e.request.host.verbose then [s!"parsing XML document '{path.display}'"] else []) →
            e.after.cache = (e.before.addDocument path d).cache → Loading loader e

namespace Reply.Loading

variable {loader : Loader} {e : Reply}

theorem idle_of_notices {ns : List Notice} (h : e.after.notices = ns ++ e.before.notices)
    (hsilent : ∀ n ∈ ns, n.IsSilent) (hkeeps : KeepsDocuments e.before.cache e.after.cache) :
    e.Loading loader :=
  .idle (silent_of_notices h hsilent).1 (silent_of_notices h hsilent).2 hkeeps

/-- A load is that of a document that is opened and is not there. -/
theorem loads_eq (h : e.Loading loader) : e.loads = [] ∨ ∃ name path, e.Opens name path ∧
    e.before.cache.get? (documentKey path) = none ∧
      e.loads = [(path, (loader.load e.request.host path).isOk)] := by
  cases h with
  | idle hloads _ _ => exact .inl hloads
  | failed hopens hfree hload hloads _ _ =>
    exact .inr ⟨_, _, hopens, hfree, by rw [hloads, hload]; rfl⟩
  | loaded hopens hfree hload hloads _ _ =>
    exact .inr ⟨_, _, hopens, hfree, by rw [hloads, hload]; rfl⟩

/-- A document that was loaded was opened. -/
theorem opens_of_loaded? (h : e.Loading loader) {path : DiskPath} {d : Document}
    (hload : e.loaded? loader path = some d) : ∃ name, e.Opens name path := by
  rw [Reply.loaded?] at hload
  split at hload
  · rename_i htold
    have hmem : (path, true) ∈ e.loads := List.mem_reverse.2 (List.mem_filterMap.2 ⟨_, htold, rfl⟩)
    rcases h.loads_eq with hnone | ⟨name, path', hopens, -, hloads⟩
    · rw [hnone] at hmem
      cases hmem
    · rw [hloads, List.mem_singleton] at hmem
      obtain rfl := (Prod.mk.inj hmem).1
      exact ⟨name, hopens⟩
  · cases hload

/-- What is told of parsing tells of the loads, if it is wanted. -/
theorem parsings_eq (h : e.Loading loader) : e.parsings =
    if e.request.host.verbose then e.loads.map fun l => s!"parsing XML document '{l.1.display}'" else [] := by
  cases h with
  | idle hloads hparsings _ => rw [hloads, hparsings, List.map_nil, ite_self]
  | failed _ _ _ hloads hparsings _ => rw [hloads, hparsings]; rfl
  | loaded _ _ _ hloads hparsings _ => rw [hloads, hparsings]; rfl

end Reply.Loading

namespace Registry

variable {r : Registry} {loader : Loader}

/-- An answer that opens a document, by what its host and the cache say to the name. -/
theorem reply_openDocument (hr : r.Offers loader) (name : String) (h : Host) (w : Workspace) :
    r.reply w ((Operation.openDocument name).request h) =
      let q := (Operation.openDocument name).request h
      match h.resolve name with
      | .error fault => ⟨q, w, .error fault, w.noteAll [.failure fault]⟩
      | .ok path =>
        if (w.cache.get? (documentKey path)).isSome then
          ⟨q, w, .ok (.string (documentKey path)), w⟩
        else
          match loader.load h path with
          | .error fault =>
            ⟨q, w, .error fault, (w.noteAll (openingNotices loader h path)).noteAll [.failure fault]⟩
          | .ok d =>
            ⟨q, w, .ok (.string (documentKey path)),
              (w.noteAll (openingNotices loader h path)).addDocument path d⟩ := by
  rw [reply_eq_of_offers hr]
  simp only [Operation.body, Call.outcome_map, outcome_openDocument]
  cases h.resolve name with
  | error fault => rfl
  | ok path =>
    simp only
    split
    · rfl
    · cases loader.load h path <;> rfl

/-- A failure is no load. -/
theorem isSilent_failure (fault : Fault) : ∀ n ∈ [Notice.failure fault], n.IsSilent := by
  intro n hn
  rw [List.mem_singleton.1 hn]
  exact ⟨rfl, rfl⟩

/-- A document that is there is given, and nothing happens. -/
theorem reply_of_cached (hr : r.Offers loader) {name : String} {path : DiskPath} {h : Host} {w : Workspace}
    (hpath : h.resolve name = .ok path) (hcached : (w.cache.get? (documentKey path)).isSome) :
    r.reply w ((Operation.openDocument name).request h) =
      ⟨(Operation.openDocument name).request h, w, .ok (.string (documentKey path)), w⟩ := by
  have hreply := reply_openDocument hr name h w
  simp only [hpath, if_pos hcached] at hreply
  exact hreply

/-- A document that is not there is loaded, and this is told once. -/
theorem loads_of_free (hr : r.Offers loader) {name : String} {path : DiskPath} {h : Host} {w : Workspace}
    (hpath : h.resolve name = .ok path) (hfree : w.cache.get? (documentKey path) = none) :
    let e := r.reply w ((Operation.openDocument name).request h)
    e.loads = [(path, (loader.load h path).isOk)] ∧
      e.parsings = (if h.verbose then [s!"parsing XML document '{path.display}'"] else []) ∧
        e.result = ((loader.load h path).map fun _ => .string (documentKey path)) ∧
          e.after.cache = match loader.load h path with
            | .error _ => w.cache
            | .ok d => (w.addDocument path d).cache := by
  intro e
  have hreply : e = _ := reply_openDocument hr name h w
  simp only [hpath, hfree, Option.isSome_none, Bool.false_eq_true, if_false] at hreply
  cases hload : loader.load h path with
  | error fault =>
    simp only [hload] at hreply
    have hnotices : e.after.notices =
        [.failure fault] ++ (openingNotices loader h path ++ e.before.notices) := by
      rw [hreply]
      rfl
    obtain ⟨hloads, hparsings⟩ := Reply.loads_of_opening hnotices (isSilent_failure fault)
    rw [hload] at hloads
    exact ⟨hloads, hparsings, by rw [hreply]; rfl, by rw [hreply]; rfl⟩
  | ok d =>
    simp only [hload] at hreply
    have hnotices : e.after.notices = [] ++ (openingNotices loader h path ++ e.before.notices) := by
      rw [hreply]
      rfl
    obtain ⟨hloads, hparsings⟩ := Reply.loads_of_opening hnotices (by simp)
    rw [hload] at hloads
    exact ⟨hloads, hparsings, by rw [hreply]; rfl, by rw [hreply]; rfl⟩

theorem loading_openDocument (hr : r.Offers loader) (name : String) (h : Host) (w : Workspace) :
    (r.reply w ((Operation.openDocument name).request h)).Loading loader := by
  cases hpath : h.resolve name with
  | error fault =>
    have hreply := reply_openDocument hr name h w
    rw [hpath] at hreply
    rw [hreply]
    exact .idle_of_notices rfl (isSilent_failure fault) (.refl _)
  | ok path =>
    cases hget : w.cache.get? (documentKey path) with
    | some resource =>
      rw [reply_of_cached hr hpath (by rw [hget]; rfl)]
      exact .idle_of_notices (List.nil_append _).symm (by simp) (.refl _)
    | none =>
      obtain ⟨hloads, hparsings, -, hcache⟩ := loads_of_free hr hpath hget
      cases hload : loader.load h path with
      | error fault =>
        rw [hload] at hloads hcache
        exact .failed ⟨rfl, hpath⟩ hget hload hloads hparsings hcache
      | ok d =>
        rw [hload] at hloads hcache
        exact .loaded ⟨rfl, hpath⟩ hget hload hloads hparsings hcache

/-- All other operations load nothing, and keep the documents. -/
theorem loading_of_ne (hr : r.Offers loader) {op : Operation} (hop : ∀ name, op ≠ .openDocument name)
    (h : Host) (w : Workspace) : (r.reply w (op.request h)).Loading loader := by
  have htells : (r.invoke op.function op.arguments).Tells Notice.IsSilent := by
    rw [invoke_of_offers hr]
    exact op.tells_of_ne loader hop Notice.isSilent_embedding
  obtain ⟨ns, hnotices, hsilent⟩ : ∃ ns, (r.reply w (op.request h)).after.notices = ns ++ w.notices ∧
      ∀ n ∈ ns, n.IsSilent := by
    obtain ⟨result, cache, uid, told, htold, hreply⟩ :=
      @reply_of_tells _ _ (op.request h) htells w.cache w.nextUid
    have hreply := hreply w.notices
    cases result with
    | ok v => exact ⟨told, by rw [hreply]; rfl, htold⟩
    | error fault =>
      refine ⟨[.failure fault] ++ told, by rw [hreply]; rfl, fun n hn => ?_⟩
      exact (List.mem_append.1 hn).elim (isSilent_failure fault n) (htold n)
  have hgrow := growth_of_offers hr op h w
  refine .idle_of_notices hnotices hsilent ?_
  show KeepsDocuments w.cache _
  generalize (r.reply w (op.request h)).result = result at hgrow
  generalize (r.reply w (op.request h)).after = w' at hgrow ⊢
  cases hgrow with
  | quiet notices _ => exact .refl _
  | opened _ _ _ => exact absurd rfl (hop _)
  | rooted hc _ _ =>
    exact keepsDocuments_root (Cache.expect_document.1 hc) _ fun _ _ => Resource.noConfusion
  | listed _ _ _ =>
    exact keepsDocuments_add (fun path => document_ne_list path _ _) fun _ _ => Resource.noConfusion
  | picked _ _ _ =>
    exact keepsDocuments_add (fun path => document_ne_element path _ _)
      fun _ _ => Resource.noConfusion

/-- Every call of a standard function does one of these things to the documents. -/
theorem loading_reply (hr : r.Offers loader) {q : Request} (hq : q.IsStandard) (w : Workspace) :
    (r.reply w q).Loading loader := by
  rcases reply_standard hr hq w with ⟨op, hop⟩ | ⟨fault, hreply⟩
  · rw [hop]
    by_cases hopen : ∃ name, op = .openDocument name
    · obtain ⟨name, rfl⟩ := hopen
      exact loading_openDocument hr name q.host w
    · exact loading_of_ne hr (fun name h => hopen ⟨name, h⟩) q.host w
  · rw [hreply]
    exact .idle_of_notices rfl (isSilent_failure fault) (.refl _)

end Registry

/-! ### Runs -/

namespace Documents

variable {loads : List (DiskPath × Bool)} {cache : Cache} {path : DiskPath}

theorem fresh : Documents [] Workspace.fresh.cache where
  keyed h := by cases h
  stored h := by
    obtain ⟨_, -, hmem⟩ := h
    cases hmem
  free _ := rfl

theorem get?_eq_none_iff (h : Documents loads cache) :
    cache.get? (documentKey path) = none ↔ ¬ LoadedLike loads path := by
  refine ⟨fun hnone hmem => ?_, h.free⟩
  obtain ⟨c, hc⟩ := h.stored hmem
  rw [hnone] at hc
  cases hc

/-- A call keeps the documents in step with the loads. -/
theorem call {loader : Loader} {e : Reply} (h : Documents loads e.before.cache)
    (he : e.Loading loader) : Documents (loads ++ e.loads) e.after.cache := by
  cases he with
  | idle hloads _ hkeeps =>
    obtain ⟨hsame, hold⟩ := hkeeps h.keyed
    rw [hloads, List.append_nil]
    constructor
    · exact fun hget => h.keyed (hold hget)
    · intro path hmem
      rw [hsame]
      exact h.stored hmem
    · intro path hmem
      rw [hsame]
      exact h.free hmem
  | @failed _ tried _ _ _ _ hloads _ hcache =>
    have hlike : ∀ path, LoadedLike (loads ++ [(tried, false)]) path ↔ LoadedLike loads path := by
      simp [LoadedLike]
    rw [hloads, hcache]
    exact ⟨h.keyed, fun hpath => h.stored ((hlike _).1 hpath),
      fun hpath => h.free fun hold => hpath ((hlike _).2 hold)⟩
  | @loaded _ opened _ _ _ _ hloads _ hcache =>
    have hlike : ∀ path, LoadedLike (loads ++ [(opened, true)]) path ↔
        LoadedLike loads path ∨ opened.display = path.display := by
      simp [LoadedLike, and_or_left, exists_or]
    rw [hloads, hcache]
    constructor
    · intro key c hget
      rw [Coherent.get?_addDocument] at hget
      split at hget
      · exact ⟨_, ‹_›⟩
      · split at hget
        · cases hget
        · exact h.keyed hget
    · intro path hpath
      rw [Coherent.get?_addDocument]
      split
      · exact ⟨_, rfl⟩
      · rename_i hne
        rw [if_neg (document_ne_root path opened)]
        rcases (hlike path).1 hpath with hold | hshown
        · exact h.stored hold
        · exact absurd (documentKey_eq_iff.2 hshown.symm) hne
    · intro path hpath
      rw [hlike, not_or] at hpath
      rw [Coherent.get?_addDocument,
        if_neg fun heq => hpath.2 (documentKey_eq_iff.1 heq).symm,
        if_neg (document_ne_root path opened)]
      exact h.free hpath.1

end Documents

/-- Loads of which none comes after a successful one of the same path. -/
def OnceEach (loads : List (DiskPath × Bool)) : Prop :=
  loads.Pairwise fun earlier later => earlier ≠ (later.1, true)

theorem OnceEach.count_le_one {loads : List (DiskPath × Bool)} (h : OnceEach loads) (path : DiskPath) :
    loads.count (path, true) ≤ 1 := by
  induction loads with
  | nil => exact Nat.zero_le 1
  | cons load rest ih =>
    obtain ⟨hfirst, hrest⟩ := List.pairwise_cons.1 h
    by_cases hload : load = (path, true)
    · subst hload
      have hnone : rest.count (path, true) = 0 :=
        List.count_eq_zero.2 fun hmem => hfirst _ hmem rfl
      exact Nat.le_of_eq (List.count_cons_self.trans (congrArg (· + 1) hnone))
    · rw [List.count_cons_of_ne hload]
      exact ih hrest

section Runs

variable {r : Registry} {loader : Loader} {history : List Reply} {w : Workspace}

/-- The documents of a run are those that it loaded, each with success once. -/
theorem documents_of_runs (hr : r.Offers loader) (h : r.Runs history w)
    (hstandard : ∀ e ∈ history, e.request.IsStandard) :
    Documents (loadsOf history) w.cache ∧ OnceEach (loadsOf history) := by
  induction h with
  | fresh => exact ⟨.fresh, .nil⟩
  | @call history w q _ ih =>
    obtain ⟨hdocuments, honce⟩ := ih fun e he => hstandard e (List.mem_append_left _ he)
    have hq : q.IsStandard := hstandard (r.reply w q) (by simp)
    have hloading := Registry.loading_reply hr hq w
    rw [loadsOf_concat]
    refine ⟨hdocuments.call hloading, List.pairwise_append.2 ⟨honce, ?_, ?_⟩⟩
    · rcases hloading.loads_eq with hloads | ⟨name, path, -, -, hloads⟩
      · rw [hloads]
        exact .nil
      · rw [hloads]
        exact List.pairwise_singleton _ _
    · intro earlier hearlier later hlater heq
      rcases hloading.loads_eq with hloads | ⟨name, path, -, hfree, hloads⟩
      · rw [hloads] at hlater
        cases hlater
      · rw [hloads, List.mem_singleton] at hlater
        subst hlater
        exact hdocuments.get?_eq_none_iff.1 hfree ⟨path, rfl, heq ▸ hearlier⟩

end Runs

/-! ### Names of files -/

/-- A path that leads to a file at a place, through whatever links and detours. -/
def Disk.LeadsTo (d : Disk) (path : DiskPath) (place : List Bytes) : Prop :=
  ∃ content, d.locate path = .ok (place, some (.file content))

/-- A name that source roots find at a place: an absolute one by itself, and any other in the first
root in which it leads to a file. -/
def Finds (d : Disk) (roots : List DiskPath) (name : String) (place : List Bytes) : Prop :=
  if isAbsolutePath name then d.LeadsTo name place
  else ∃ before root after, roots = before ++ root :: after ∧
    (∀ other ∈ before, ∀ elsewhere, ¬ d.LeadsTo (joinPath other name) elsewhere) ∧
      d.LeadsTo (joinPath root name) place

theorem Disk.canonicalFile?_eq_some_iff {d : Disk} {path canonical : DiskPath} :
    d.canonicalFile? path = some canonical ↔
      ∃ place, d.LeadsTo path place ∧ canonical = pathOf place := by
  rw [canonicalFile?]
  constructor
  · intro h
    split at h
    · rename_i place content hlocate
      cases h
      exact ⟨place, ⟨content, hlocate⟩, rfl⟩
    · cases h
  · rintro ⟨place, ⟨content, hlocate⟩, rfl⟩
    rw [hlocate]

theorem Disk.canonicalFile?_eq_none_iff {d : Disk} {path : DiskPath} :
    d.canonicalFile? path = none ↔ ∀ place, ¬ d.LeadsTo path place := by
  rw [Option.eq_none_iff_forall_ne_some]
  constructor
  · intro h place hleads
    exact h _ (canonicalFile?_eq_some_iff.2 ⟨place, hleads, rfl⟩)
  · intro h canonical hfound
    obtain ⟨place, hleads, -⟩ := canonicalFile?_eq_some_iff.1 hfound
    exact h place hleads

theorem finds_iff {d : Disk} {roots : List DiskPath} {name : String} {path : DiskPath} :
    (if isAbsolutePath name then d.canonicalFile? name
      else roots.findSome? fun root => d.canonicalFile? (joinPath root name)) = some path ↔
        ∃ place, Finds d roots name place ∧ path = pathOf place := by
  by_cases habsolute : isAbsolutePath name = true
  · simp only [Finds, if_pos habsolute, Disk.canonicalFile?_eq_some_iff]
  · simp only [Finds, if_neg habsolute, List.findSome?_eq_some_iff,
      Disk.canonicalFile?_eq_some_iff, Disk.canonicalFile?_eq_none_iff]
    constructor
    · rintro ⟨before, root, after, rfl, ⟨place, hleads, rfl⟩, hbefore⟩
      exact ⟨place, ⟨before, root, after, rfl, hbefore, hleads⟩, rfl⟩
    · rintro ⟨place, ⟨before, root, after, rfl, hbefore, hleads⟩, rfl⟩
      exact ⟨before, root, after, rfl, ⟨place, hleads, rfl⟩, hbefore⟩

/-- What source roots find is a file at a place, and its path depends on the place only. -/
theorem findInRoots_eq_ok_iff {d : Disk} {roots : List DiskPath} {name : String} {path : DiskPath} :
    findInRoots d roots name = .ok path ↔
      ∃ place, Finds d roots name place ∧ path = pathOf place := by
  rw [← finds_iff, findInRoots]
  generalize (if isAbsolutePath name then d.canonicalFile? name
    else roots.findSome? fun root => d.canonicalFile? (joinPath root name)) = found
  cases found with
  | none => simp
  | some canonical => simp

/-! ### At most one load of each path -/

/-- A run that loads each path with success at most once. -/
structure LoadsOnce (r : Registry) (loader : Loader) (history : List Reply) (w : Workspace) :
    Prop where
  /-- A call loads nothing, or it opens a document and loads the path that the name leads to. -/
  asked : ∀ e ∈ history, e.loads = [] ∨ ∃ name path, e.Opens name path ∧
    e.loads = [(path, (loader.load e.request.host path).isOk)]
  /-- Where no load is noted, no loader is at work: any other one would do. -/
  unasked : ∀ e ∈ history, ∀ op h, e.request = Operation.request op h → e.loads = [] →
    ∀ (r' : Registry) (loader' : Loader), r'.Offers loader' → r'.reply e.before e.request = e
  /-- After a load with success there is no other load of the path, with success or not. -/
  once : OnceEach (loadsOf history)
  single : ∀ path, (loadsOf history).count (path, true) ≤ 1
  /-- The documents in the cache are those of the paths that were loaded with success. -/
  documents : ∀ key, (∃ c, w.cache.get? key = some (.document c)) ↔
    ∃ path : DiskPath, key = documentKey path ∧ (path, true) ∈ loadsOf history
  /-- What was loaded with success is given when it is opened next. -/
  given : ∀ {name h path}, h.resolve name = .ok path → (path, true) ∈ loadsOf history →
    let e := r.reply w ((Operation.openDocument name).request h)
    e.loads = [] ∧ e.result = .ok (.string (documentKey path))
  /-- What was not, whether it was tried or not, is loaded when it is opened next, if no path that is
  shown like it was loaded. -/
  tried : ∀ {name h path}, h.resolve name = .ok path → ¬ LoadedLike (loadsOf history) path →
    let e := r.reply w ((Operation.openDocument name).request h)
    e.loads = [(path, (loader.load h path).isOk)] ∧
      e.result = (loader.load h path).map fun _ => .string (documentKey path)
  /-- The same path gives the same handle, and paths that are shown otherwise give others. -/
  handle : ∀ e ∈ history, ∀ e' ∈ history, ∀ {name name' path path' v v'}, e.Opens name path →
    e'.Opens name' path' → e.result = .ok v → e'.result = .ok v' →
      (path = path' → v = v') ∧ (v = v' → path.display = path'.display)
  /-- With source roots, names that lead to the same place give the same handle, even if files come
  and go in between. -/
  found : ∀ e ∈ history, ∀ e' ∈ history, ∀ {name name' d d' roots roots' place v v'},
    e.request = (Operation.openDocument name).request e.request.host →
    e'.request = (Operation.openDocument name').request e'.request.host →
    e.request.host.resolve name = findInRoots d roots name → Finds d roots name place →
    e'.request.host.resolve name' = findInRoots d' roots' name' → Finds d' roots' name' place →
    e.result = .ok v → e'.result = .ok v' → v = v'
  /-- It is told that a document is parsed once for each load, if that is wanted. -/
  told : ∀ e ∈ history, e.parsings = if e.request.host.verbose then
    e.loads.map fun l => s!"parsing XML document '{l.1.display}'" else []

namespace Registry

variable {r : Registry} {loader : Loader}

theorem result_of_opens (hr : r.Offers loader) {w : Workspace} {q : Request} {name : String}
    {path : DiskPath} (hopens : (r.reply w q).Opens name path) {v : Value} (hv : (r.reply w q).result = .ok v) :
    v = .string (documentKey path) := by
  have hq : q = (Operation.openDocument name).request q.host := hopens.1
  have hpath : q.host.resolve name = .ok path := hopens.2
  rw [hq] at hv
  cases hget : w.cache.get? (documentKey path) with
  | some resource =>
    rw [reply_of_cached hr hpath (by rw [hget]; rfl)] at hv
    cases hv
    rfl
  | none =>
    obtain ⟨-, -, hresult, -⟩ := loads_of_free hr hpath hget
    rw [hv] at hresult
    cases hload : loader.load q.host path with
    | error fault =>
      rw [hload] at hresult
      cases hresult
    | ok d =>
      rw [hload] at hresult
      cases hresult
      rfl

/-- Where no load is noted, the answer is the same with any loader. -/
theorem reply_of_no_load (hr : r.Offers loader) {r' : Registry} {loader' : Loader}
    (hr' : r'.Offers loader') {op : Operation} {h : Host} {w : Workspace}
    (hloads : (r.reply w (op.request h)).loads = []) :
    r'.reply w (op.request h) = r.reply w (op.request h) := by
  by_cases hopen : ∃ name, op = .openDocument name
  · obtain ⟨name, rfl⟩ := hopen
    cases hpath : h.resolve name with
    | error fault => rw [reply_openDocument hr, reply_openDocument hr', hpath]
    | ok path =>
      cases hget : w.cache.get? (documentKey path) with
      | some resource =>
        have hcached : (w.cache.get? (documentKey path)).isSome := by rw [hget]; rfl
        rw [reply_of_cached hr hpath hcached, reply_of_cached hr' hpath hcached]
      | none =>
        have hload := (loads_of_free hr hpath hget).1
        rw [hloads] at hload
        cases hload
  · have hbody : op.body loader' = op.body loader := by
      cases op with
      | openDocument name => exact absurd ⟨name, rfl⟩ hopen
      | _ => rfl
    rw [reply_eq_of_offers hr, reply_eq_of_offers hr', hbody]

end Registry

/-- Every run of calls of standard functions loads each path with success at most once, whatever the
resolver and the loader answer over time. -/
theorem loadsOnce_of_runs {r : Registry} {loader : Loader} (hr : r.Offers loader)
    {history : List Reply} {w : Workspace} (h : r.Runs history w)
    (hstandard : ∀ e ∈ history, e.request.IsStandard) : LoadsOnce r loader history w := by
  obtain ⟨hdocuments, honce⟩ := documents_of_runs hr h hstandard
  have hloading : ∀ e ∈ history, e.Loading loader := by
    intro e he
    obtain ⟨w₀, q, rfl⟩ := h.exists_reply he
    exact Registry.loading_reply hr (hstandard _ he) w₀
  have hgiven : ∀ e ∈ history, ∀ {name path v}, e.Opens name path → e.result = .ok v →
      v = .string (documentKey path) := by
    intro e he name path v hopens hv
    obtain ⟨w₀, q, rfl⟩ := h.exists_reply he
    exact Registry.result_of_opens hr hopens hv
  constructor
  case asked =>
    intro e he
    rcases (hloading e he).loads_eq with hnone | ⟨name, path, hopens, -, hloads⟩
    · exact .inl hnone
    · exact .inr ⟨name, path, hopens, hloads⟩
  case unasked =>
    intro e he op host hreq hloads r' loader' hr'
    obtain ⟨w₀, q, rfl⟩ := h.exists_reply he
    obtain rfl : q = op.request host := hreq
    exact Registry.reply_of_no_load hr hr' hloads
  case once => exact honce
  case single => exact honce.count_le_one
  case documents =>
    intro key
    constructor
    · rintro ⟨c, hc⟩
      obtain ⟨path, rfl⟩ := hdocuments.keyed hc
      have hlike : LoadedLike (loadsOf history) path := Classical.byContradiction fun hno => by
        rw [hdocuments.free hno] at hc
        cases hc
      obtain ⟨other, hshown, hmem⟩ := hlike
      exact ⟨other, documentKey_eq_iff.2 hshown.symm, hmem⟩
    · rintro ⟨path, rfl, hmem⟩
      exact hdocuments.stored ⟨path, rfl, hmem⟩
  case given =>
    intro name host path hpath hmem
    obtain ⟨c, hc⟩ := hdocuments.stored ⟨path, rfl, hmem⟩
    rw [Registry.reply_of_cached hr hpath (by rw [hc]; rfl)]
    obtain ⟨hloads, -⟩ := @Reply.silent_of_notices
      ⟨(Operation.openDocument name).request host, w, .ok (.string (documentKey path)), w⟩ [] rfl
      (by simp)
    exact ⟨hloads, rfl⟩
  case tried =>
    intro name host path hpath hlike
    obtain ⟨hloads, -, hresult, -⟩ := Registry.loads_of_free hr hpath (hdocuments.free hlike)
    exact ⟨hloads, hresult⟩
  case handle =>
    intro e he e' he' name name' path path' v v' hopens hopens' hv hv'
    rw [hgiven e he hopens hv, hgiven e' he' hopens' hv']
    constructor
    · rintro rfl
      rfl
    · intro heq
      exact documentKey_eq_iff.1 (Value.string.inj heq)
  case found =>
    intro e he e' he' name name' d d' roots roots' place v v' hreq hreq' hres hfinds hres' hfinds'
      hv hv'
    rw [findInRoots_eq_ok_iff.2 ⟨place, hfinds, rfl⟩] at hres
    rw [findInRoots_eq_ok_iff.2 ⟨place, hfinds', rfl⟩] at hres'
    rw [hgiven e he ⟨hreq, hres⟩ hv, hgiven e' he' ⟨hreq', hres'⟩ hv']
  case told => exact fun e he => (hloading e he).parsings_eq

/-- A file is not there at first; then it is, and it is opened by two names. -/
theorem loadsOnce_of_retry :
    let path : DiskPath := "/a"
    let missing : Host := ⟨fun _ => .ok path, fun _ => .error .absent, true⟩
    let present : Host := ⟨fun _ => .ok path, fun _ => .ok (utf8 "<a/>"), true⟩
    let e := Registry.standard.reply Workspace.fresh ((Operation.openDocument "a").request missing)
    let e' := Registry.standard.reply e.after ((Operation.openDocument "a").request present)
    let e'' := Registry.standard.reply e'.after ((Operation.openDocument "b/../a").request present)
    loadsOf [e, e', e''] = [(path, false), (path, true)] ∧
      LoadsOnce Registry.standard (Loader.parsing "standard") [e, e', e''] e''.after := by
  intro path missing present e e' e''
  refine ⟨by decide +kernel, loadsOnce_of_runs (hosts_standard fun _ => True).offers
    (.call _ (.call _ (.call _ .fresh))) ?_⟩
  intro q hq
  simp only [List.mem_cons, List.not_mem_nil, or_false] at hq
  rcases hq with rfl | rfl | rfl
  · exact ⟨.openDocument "a", rfl⟩
  · exact ⟨.openDocument "a", rfl⟩
  · exact ⟨.openDocument "b/../a", rfl⟩

/-- A document cannot be parsed, and its file is gone when it is opened next: nothing is tried again.
And of two paths that are shown alike, one cannot be parsed; when it is opened again after the other was
loaded, the document of the other is given, and nothing is tried again either. -/
theorem not_retried_without_file_nor_when_shown_alike :
    let path : DiskPath := "/a"
    let broken : Host := ⟨fun _ => .ok path, fun _ => .ok (utf8 "<r>"), true⟩
    let gone : Host := ⟨fun name => .error (.fileNotFound name), fun _ => .error .absent, true⟩
    let e := Registry.standard.reply Workspace.fresh ((Operation.openDocument "a").request broken)
    let e' := Registry.standard.reply e.after ((Operation.openDocument "a").request gone)
    let first : DiskPath := ⟨[0x2F, 0xFF]⟩
    let second : DiskPath := ⟨[0x2F, 0xFE]⟩
    let files : Host := ⟨fun name => .ok (if name = "a" then first else second),
      fun path => .ok (utf8 (if path = first then "<r>" else "<r/>")), true⟩
    let i := Registry.standard.reply Workspace.fresh ((Operation.openDocument "a").request files)
    let i' := Registry.standard.reply i.after ((Operation.openDocument "b").request files)
    let i'' := Registry.standard.reply i'.after ((Operation.openDocument "a").request files)
    (loadsOf [e, e'] = [(path, false)] ∧ e'.result = .error (.fileNotFound "a")) ∧
      loadsOf [i, i', i''] = [(first, false), (second, true)] ∧
      i''.result = .ok (.string "xml_doc_/\uFFFD") := by
  decide +kernel

end Builtins
