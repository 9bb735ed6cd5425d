import Builtins.Proofs.Run.Backing

/-!
# Cache and history in step

The cache of a run holds what its history says, and no more.

* `Kept` — what the cache keeps of a call that gave a handle;
* `Settles` — what a call does to the paths that are shown alike: nothing, or the first load of one;
* `Tracks` — under a path there is the first load of a path that is shown like it, every call is kept,
  and everything in the cache has a meaning;
* `Tracks.denotes_iff` — a handle stands for what is under it;
* `Tracks.call`, `tracks_of_runs` — one answer keeps cache and history in step, and so does every run.
-/

namespace Builtins

/-! ### What is kept of a call -/

/-- What the cache keeps of a call that gave a handle. -/
def Kept (cache : Cache) (h : Host) (s : String) : Operation → Prop
  | .openDocument name => ∃ path c,
      h.resolve name = .ok path ∧ s = documentKey path ∧ Stored cache s c
  | .documentRoot parent => ∃ c, s = rootKey parent ∧ cache.get? parent = some (.document c)
  | .elementsByTag parent tag => ∃ c c',
      s = listKey c.uid tag ∧ Stored cache parent c ∧ Stored cache s c'
  | .listElement parent index => ∃ c c',
      s = elementKey c.uid index.toInt.toNat ∧ Stored cache parent c ∧ Stored cache s c'
  | _ => True

theorem Kept.mono {cache cache' : Cache} (hk : Keeps cache cache') {h : Host} {s : String}
    {op : Operation} (hkept : Kept cache h s op) : Kept cache' h s op := by
  cases op with
  | openDocument name =>
    obtain ⟨path, c, hpath, hs, hc⟩ := hkept
    exact ⟨path, c, hpath, hs, hk.stored hc⟩
  | documentRoot parent =>
    obtain ⟨c, hs, hc⟩ := hkept
    exact ⟨c, hs, hk hc rfl⟩
  | elementsByTag parent tag =>
    obtain ⟨c, c', hs, hc, hc'⟩ := hkept
    exact ⟨c, c', hs, hk.stored hc, hk.stored hc'⟩
  | listElement parent index =>
    obtain ⟨c, c', hs, hc, hc'⟩ := hkept
    exact ⟨c, c', hs, hk.stored hc, hk.stored hc'⟩
  | _ => trivial

/-- Under the key of a handle there is a container, if there is anything. -/
theorem Coherent.stored_of_isSome {w : Workspace} (hw : Coherent w) {k : Key}
    (h : (w.cache.get? k.text).isSome) : ∃ c, Stored w.cache k.text c := by
  obtain ⟨r, hr⟩ := Option.isSome_iff_exists.1 h
  have hholds := hw.holds hr
  cases k with
  | document shown => obtain ⟨uid, d, rfl, -⟩ := hholds; exact ⟨_, _, hr, rfl⟩
  | root shown => obtain ⟨uid, d, rfl, -⟩ := hholds; exact ⟨_, _, hr, rfl⟩
  | list uid tag => obtain ⟨own, n, rfl, -⟩ := hholds; exact ⟨_, _, hr, rfl⟩
  | element uid index => obtain ⟨own, n, rfl, -⟩ := hholds; exact ⟨_, _, hr, rfl⟩

/-- A new container is there, and the old ones still are. -/
theorem stored_add {w : Workspace} {key : String} {resource : UInt64 → Resource} {c : Container}
    (hres : (resource w.nextUid).container? = some c) :
    Stored (w.add key resource).cache key c :=
  ⟨_, Table.get?_insert_self _ _ _, hres⟩

theorem Stored.add {w : Workspace} {key other : String} {c : Container}
    (hs : Stored w.cache other c) (hfree : w.cache.get? key = none)
    (resource : UInt64 → Resource) : Stored (w.add key resource).cache other c :=
  Keeps.stored (Keeps.insert hfree _) hs

theorem kept_outcome {loader : Loader} {h : Host} {w w' : Workspace} {op : Operation} {s : String}
    (hw : Coherent w) (ho : (op.body loader).outcome h w = (.ok (.string s), w')) :
    Kept w'.cache h s op := by
  cases op with
  | openDocument name =>
    simp only [Operation.body, Call.outcome_map, outcome_openDocument] at ho
    cases hp : h.resolve name with
    | error fault => simp [hp, Except.map] at ho
    | ok path =>
      simp only [hp] at ho
      split at ho
      · rename_i hkey
        cases ho
        obtain ⟨c, hc⟩ := hw.stored_of_isSome (k := .document path.display) hkey
        exact ⟨path, c, hp, rfl, hc⟩
      · cases hl : loader.load h path with
        | error fault => simp [hl, Except.map] at ho
        | ok d =>
          simp only [hl] at ho
          cases ho
          refine ⟨path, _, hp, rfl, _, Coherent.get?_addDocument .. |>.trans (if_pos rfl), rfl⟩
  | documentRoot parent =>
    simp only [Operation.body, Call.outcome_map, outcome_documentRoot] at ho
    cases hc : Cache.expect w.cache parent [.document] with
    | error fault => simp [hc, Except.map] at ho
    | ok c =>
      have hdoc := Cache.expect_document.1 hc
      obtain ⟨path, d, rfl, -, hroot⟩ := hw.document_key hdoc
      simp only [hc, hroot, Option.isSome_some, if_true] at ho
      cases ho
      exact ⟨c, rfl, hdoc⟩
  | elementsByTag parent tag =>
    simp only [Operation.body, Call.outcome_map, outcome_elementsByTag] at ho
    cases hc : Cache.expect w.cache parent nodeHandles with
    | error fault => simp [hc, Except.map] at ho
    | ok c =>
      obtain ⟨r, hr, hcont, -⟩ := Cache.expect_ok.1 hc
      simp only [hc] at ho
      split at ho
      · rename_i hkey
        cases ho
        obtain ⟨c', hc'⟩ := hw.stored_of_isSome (k := .list c.uid tag) hkey
        exact ⟨c, c', rfl, ⟨r, hr, hcont⟩, hc'⟩
      · rename_i hkey
        cases hn : singleNode c parent with
        | error fault => simp [hn, Except.map] at ho
        | ok n =>
          simp only [hn] at ho
          cases ho
          have hfree : w.cache.get? (listKey c.uid tag) = none := by simpa using hkey
          exact ⟨c, _, rfl, Stored.add ⟨r, hr, hcont⟩ hfree _, stored_add rfl⟩
  | listElement parent index =>
    simp only [Operation.body, Call.outcome_map, outcome_listElement] at ho
    cases hl : Cache.listAt w.cache parent with
    | error fault => simp [hl, Except.map] at ho
    | ok found =>
      obtain ⟨c, ns⟩ := found
      have hs : Stored w.cache parent c := ⟨_, (Cache.listAt_ok.1 hl).1, rfl⟩
      simp only [hl] at ho
      cases hn : nodeAt? ns index with
      | none => simp [hn, Except.map] at ho
      | some n =>
        simp only [hn] at ho
        split at ho
        · rename_i hkey
          cases ho
          obtain ⟨c', hc'⟩ := hw.stored_of_isSome (k := .element c.uid _) hkey
          exact ⟨c, c', rfl, hs, hc'⟩
        · rename_i hkey
          cases ho
          have hfree : w.cache.get? (elementKey c.uid index.toInt.toNat) = none := by
            simpa using hkey
          exact ⟨c, _, rfl, hs.add hfree _, stored_add rfl⟩
  | _ => trivial

/-! ### What a call does to the documents -/

/-- What a call does to the paths that are shown alike: it loads nothing from them and leaves what is
there, or it loads a document from one of them and puts it where nothing was. -/
def Settles (loader : Loader) (e : Reply) (shown : String) : Prop :=
  ((∀ path : DiskPath, path.display = shown → e.loaded? loader path = none) ∧
    e.after.cache.get? (Key.document shown).text = e.before.cache.get? (Key.document shown).text) ∨
  (e.before.cache.get? (Key.document shown).text = none ∧ ∃ path uid d,
    path.display = shown ∧ e.loaded? loader path = some d ∧
      (∀ other : DiskPath, other ≠ path → e.loaded? loader other = none) ∧
        e.after.cache.get? (Key.document shown).text =
          some (.document ⟨uid, .node (Node.ofDocument uid d)⟩))

theorem loaded?_eq_none {loader : Loader} {e : Reply} {path : DiskPath} {ns : List Notice}
    (h : e.after.notices = ns ++ e.before.notices)
    (hno : Notice.load loader.label path true ∉ ns) : e.loaded? loader path = none := by
  rw [Reply.loaded?, Reply.told_eq h, if_neg hno]

/-- What is told when a document is opened tells of one load. -/
theorem loaded?_opened {loader : Loader} {e : Reply} {path : DiskPath} {d : Document}
    (hload : loader.load e.request.host path = .ok d)
    (htold : e.told = openingNotices loader e.request.host path) (other : DiskPath) :
    e.loaded? loader other = if other = path then some d else none := by
  have hmem : Notice.load loader.label other true ∈ e.told ↔ other = path := by
    rw [htold, openingNotices, hload]
    split <;> simp [Except.isOk, Except.toBool]
  rw [Reply.loaded?]
  by_cases hother : other = path
  · rw [if_pos (hmem.2 hother), if_pos hother, hother, hload]
    rfl
  · rw [if_neg fun h => hother (hmem.1 h), if_neg hother]

theorem settles_opened {loader : Loader} {e : Reply} {path : DiskPath} {d : Document}
    (hfree : e.before.cache.get? (documentKey path) = none)
    (hload : loader.load e.request.host path = .ok d)
    (hafter : e.after =
      (e.before.noteAll (openingNotices loader e.request.host path)).addDocument path d)
    (shown : String) : Settles loader e shown := by
  have hloaded := loaded?_opened hload (Reply.told_eq (by rw [hafter]; rfl))
  have hget := Coherent.get?_addDocument
    (e.before.noteAll (openingNotices loader e.request.host path)) path (Key.document shown).text d
  rw [← hafter] at hget
  by_cases hshown : path.display = shown
  · subst hshown
    refine .inr ⟨hfree, path, _, d, rfl, ?_, fun other hother => ?_, hget.trans (if_pos rfl)⟩
    · rw [hloaded, if_pos rfl]
    · rw [hloaded, if_neg hother]
  · have hne : (Key.document shown).text ≠ documentKey path := fun h =>
      hshown (Key.document.inj (@Key.text_injective (.document shown) (.document path.display) h)).symm
    have hroot : (Key.document shown).text ≠ rootKey (documentKey path) := fun h =>
      nomatch @Key.text_injective (.document shown) (.root path.display) h
    rw [if_neg hne, if_neg hroot] at hget
    refine .inl ⟨fun other hother => ?_, hget⟩
    rw [hloaded, if_neg]
    rintro rfl
    exact hshown hother

/-- An operation settles every path. -/
theorem settles_growth {loader : Loader} {q : Request} {op : Operation} {w w' : Workspace}
    {result : Except Fault Value} (hw : Coherent w) (hg : Growth loader q.host w op result w')
    (shown : String) : Settles loader ⟨q, w, result, w'⟩ shown := by
  cases hg with
  | quiet notices hload => exact .inl ⟨fun path _ => loaded?_eq_none rfl (hload path), rfl⟩
  | opened _ hfree hload => exact settles_opened hfree hload rfl shown
  | rooted hc _ hfree =>
    obtain ⟨_, _, rfl, -, hroot⟩ := hw.document_key (Cache.expect_document.1 hc)
    rw [hfree] at hroot
    cases hroot
  | @listed _ tag c _ _ _ _ =>
    have hne : (Key.document shown).text ≠ listKey c.uid tag := fun h =>
      nomatch @Key.text_injective (.document shown) (.list c.uid tag) h
    exact .inl ⟨fun path _ => loaded?_eq_none (List.nil_append _).symm (by simp),
      Table.get?_insert_of_ne _ _ hne⟩
  | @picked _ index c _ _ _ _ _ =>
    have hne : (Key.document shown).text ≠ elementKey c.uid index.toInt.toNat := fun h =>
      nomatch @Key.text_injective (.document shown) (.element c.uid index.toInt.toNat) h
    exact .inl ⟨fun path _ => loaded?_eq_none (List.nil_append _).symm (by simp),
      Table.get?_insert_of_ne _ _ hne⟩

/-- Every answer settles every path. -/
theorem settles_reply {r : Registry} {loader : Loader} (hr : r.Hosts loader (¬ IsReserved ·))
    {w : Workspace} (hw : Coherent w) (q : Request) (shown : String) :
    Settles loader (r.reply w q) shown := by
  by_cases hq : ∃ op h, q = Operation.request op h
  · obtain ⟨op, h, rfl⟩ := hq
    exact settles_growth hw (Registry.growth_reply hr op h w) shown
  · have ht := Registry.touches_reply hr q w fun op h he => hq ⟨op, h, he⟩
    obtain ⟨ns, hns, hload⟩ := ht.notices
    refine .inl ⟨fun path _ => loaded?_eq_none hns (hload _ _), ?_⟩
    rcases ht.get? (Key.document shown).text with hsame | ⟨hfree, -⟩
    · exact hsame
    · exact absurd (Key.isReserved_text (.document shown)) hfree

/-! ### Cache and history in step -/

/-- Cache and history are in step. -/
structure Tracks (loader : Loader) (history : List Reply) (w : Workspace) : Prop where
  coherent : Coherent w
  loaded : ∀ shown d, LoadedAs loader history shown d ↔ ∃ uid,
    w.cache.get? (Key.document shown).text = some (.document ⟨uid, .node (Node.ofDocument uid d)⟩)
  kept : ∀ e ∈ history, ∀ op h s, e.request = Operation.request op h →
    e.result = .ok (.string s) → Kept w.cache h s op
  named : ∀ key c, Stored w.cache key c → ∃ m, Denotes loader history key m

namespace Tracks

variable {r : Registry} {loader : Loader} {history : List Reply} {w : Workspace}

theorem fresh : Tracks loader [] Workspace.fresh where
  coherent := .fresh
  loaded shown d := by
    constructor
    · intro h
      obtain ⟨path, -, hload⟩ := h
      cases hload
    · intro h
      obtain ⟨uid, huid⟩ := h
      cases huid
  kept e he := by cases he
  named key c h := by
    obtain ⟨r, hr, -⟩ := h
    cases hr

/-- What was loaded is under the key of its path. -/
theorem exists_document (ht : Tracks loader history w) {path : DiskPath} {d : Document}
    (hload : firstLoad? loader history path = some d) : ∃ uid, w.cache.get? (documentKey path) =
      some (.document ⟨uid, .node (Node.ofDocument uid d)⟩) :=
  (ht.loaded path.display d).1 ⟨path, rfl, hload⟩

/-- Where nothing is, nothing was loaded. -/
theorem firstLoad?_of_free (ht : Tracks loader history w) {path : DiskPath}
    (hfree : w.cache.get? (documentKey path) = none) : firstLoad? loader history path = none := by
  cases hfirst : firstLoad? loader history path with
  | none => rfl
  | some d =>
    obtain ⟨uid, hget⟩ := ht.exists_document hfirst
    rw [hfree] at hget
    cases hget

/-- What a handle stands for after a history is what the cache has under it. -/
theorem backs (ht : Tracks loader history w) {s : String} {m : Meaning}
    (h : Denotes loader history s m) : Backs w.cache s m := by
  have hw := ht.coherent
  induction h with
  | @opened e h name s path d hmem hreq hres hpath hload =>
    obtain ⟨path', c, hpath', rfl, -⟩ := ht.kept e hmem _ _ _ hreq hres
    rw [hpath] at hpath'
    cases hpath'
    obtain ⟨uid, hget⟩ := ht.exists_document hload
    exact .top hget
  | @root e h parent s p hmem hreq hres _ ih =>
    obtain ⟨c, rfl, hdoc⟩ := ht.kept e hmem _ _ _ hreq hres
    exact ih.root hw (ih.index_of_document hdoc)
  | @list e h parent s tag p hmem hreq hres _ ih =>
    obtain ⟨c, c', rfl, hc, hc'⟩ := ht.kept e hmem _ _ _ hreq hres
    exact ih.list hw hc hc'
  | @get e h parent s index ps p hmem hreq hres _ hat ih =>
    obtain ⟨c, c', rfl, hc, hc'⟩ := ht.kept e hmem _ _ _ hreq hres
    exact ih.get hw hc hc' hat
  | unasked _ hindex ih => exact ih.root hw hindex

/-- What a handle stands for is what the cache has under it, and the other way round. -/
theorem denotes_iff (ht : Tracks loader history w) {s : String} {m : Meaning} :
    Denotes loader history s m ↔ Backs w.cache s m := by
  constructor
  · exact ht.backs
  · intro hb
    obtain ⟨c, hc⟩ := hb.stored
    obtain ⟨m', hm'⟩ := ht.named s c hc
    rw [hb.unique ht.coherent (ht.backs hm')]
    exact hm'

/-! ### One more call -/

/-- A load is the first one of its path when the path is settled and was free. -/
theorem loaded_concat (ht : Tracks loader history w) {e : Reply} (he : e.before = w)
    {shown : String} (hs : Settles loader e shown) (d : Document) :
    LoadedAs loader (history ++ [e]) shown d ↔ ∃ uid, e.after.cache.get? (Key.document shown).text =
      some (.document ⟨uid, .node (Node.ofDocument uid d)⟩) := by
  subst he
  rcases hs with ⟨hnone, hsame⟩ | ⟨hfree, path, uid, d', hshown, hload, hother, hdoc⟩
  · rw [hsame, ← ht.loaded]
    refine exists_congr fun path => and_congr_right fun hpath => ?_
    rw [firstLoad?_concat, hnone path hpath, Option.or_none]
  · subst hshown
    -- Nothing was loaded from any of these paths before.
    have hconcat : ∀ other : DiskPath, other.display = path.display →
        firstLoad? loader (history ++ [e]) other = e.loaded? loader other := by
      intro other hsame
      rw [firstLoad?_concat, ht.firstLoad?_of_free (documentKey_eq_iff.2 hsame ▸ hfree),
        Option.none_or]
    rw [hdoc]
    constructor
    · rintro ⟨other, hsame, hfirst⟩
      rw [hconcat other hsame] at hfirst
      by_cases heq : other = path
      · rw [heq, hload] at hfirst
        cases hfirst
        exact ⟨uid, rfl⟩
      · rw [hother other heq] at hfirst
        cases hfirst
    · rintro ⟨uid', heq⟩
      cases heq
      exact ⟨path, rfl, (hconcat path rfl).trans hload⟩

/-- A document that is opened where nothing was is the first load of its path. -/
theorem firstLoad?_opened (ht : Tracks loader history w) {h : Host} {op : Operation}
    {result : Except Fault Value} {path : DiskPath} {d : Document}
    (hfree : w.cache.get? (documentKey path) = none) (hload : loader.load h path = .ok d) :
    firstLoad? loader (history ++ [⟨op.request h, w, result,
      (w.noteAll (openingNotices loader h path)).addDocument path d⟩]) path = some d := by
  rw [firstLoad?_concat, ht.firstLoad?_of_free hfree, Option.none_or,
    loaded?_opened hload (Reply.told_eq rfl), if_pos rfl]

/-- What an operation adds to the cache has a meaning. -/
theorem named_growth (ht : Tracks loader history w) {q : Request} {op : Operation} {h : Host}
    {result : Except Fault Value} {w' : Workspace} (hreq : q = op.request h)
    (hg : Growth loader h w op result w') {key : String} {c : Container} (hs : Stored w'.cache key c) :
    ∃ m, Denotes loader (history ++ [⟨q, w, result, w'⟩]) key m := by
  -- What was there before has its meaning from before.
  have hold : ∀ {key r}, w.cache.get? key = some r → r.container?.isSome →
      ∃ m, Denotes loader (history ++ [⟨q, w, result, w'⟩]) key m := by
    intro key r hr hc
    obtain ⟨c, hc⟩ := Option.isSome_iff_exists.1 hc
    obtain ⟨m, hm⟩ := ht.named key c ⟨r, hr, hc⟩
    exact ⟨m, hm.append _⟩
  have hmem : (⟨q, w, result, w'⟩ : Reply) ∈ history ++ [⟨q, w, result, w'⟩] := by simp
  obtain ⟨r, hr, hc⟩ := hs
  have hsome : r.container?.isSome := by rw [hc]; rfl
  cases hg with
  | quiet notices _ => exact hold hr hsome
  | @opened name path d hpath hfree hl =>
    subst hreq
    have hopen : Denotes loader (history ++ [_]) (documentKey path) (.node (.top path.display d)) :=
      .opened hmem rfl rfl hpath (ht.firstLoad?_opened hfree hl)
    rw [Coherent.get?_addDocument] at hr
    split at hr
    · rename_i hkey
      rw [hkey]
      exact ⟨_, hopen⟩
    · split at hr
      · rename_i hkey
        rw [hkey]
        exact ⟨_, .unasked hopen rfl⟩
      · exact hold hr hsome
  | rooted hexpect _ hfree =>
    obtain ⟨_, _, rfl, -, hroot⟩ := ht.coherent.document_key (Cache.expect_document.1 hexpect)
    rw [hfree] at hroot
    cases hroot
  | @listed parent tag c' n hexpect hn hfree =>
    rw [Coherent.get?_add] at hr
    split at hr
    · rename_i hkey
      obtain ⟨r', hr', hc', -⟩ := Cache.expect_ok.1 hexpect
      obtain ⟨m, hm⟩ := ht.named parent c' ⟨r', hr', hc'⟩
      obtain ⟨p, rfl⟩ := (ht.backs hm).exists_node ⟨r', hr', hc'⟩ hn
      rw [hkey]
      exact ⟨_, .list hmem hreq rfl (hm.append _)⟩
    · exact hold hr hsome
  | @picked parent index c' ns n hl hn hfree =>
    rw [Coherent.get?_add] at hr
    split at hr
    · rename_i hkey
      obtain ⟨hr', hwrap⟩ := Cache.listAt_ok.1 hl
      have hs : Stored w.cache parent ⟨c'.uid, .nodes ns⟩ := by
        rw [← hwrap]
        exact ⟨_, hr', rfl⟩
      obtain ⟨m, hm⟩ := ht.named parent _ hs
      obtain ⟨ps, rfl, hrep⟩ := (ht.backs hm).exists_list hs
      have hsome' := nodeAt?_of_at? hrep index
      rw [hn] at hsome'
      obtain ⟨p, hp⟩ := Option.isSome_iff_exists.1 hsome'.symm
      rw [hkey]
      exact ⟨_, .get hmem hreq rfl (hm.append _) hp⟩
    · exact hold hr hsome

/-- One answer keeps cache and history in step. -/
theorem call (hr : r.Hosts loader (¬ IsReserved ·)) (ht : Tracks loader history w) (q : Request)
    (hround : w.nextUid.toNat ≤ (r.reply w q).after.nextUid.toNat) :
    Tracks loader (history ++ [r.reply w q]) (r.reply w q).after := by
  have hw := ht.coherent
  obtain ⟨hw', hkeeps⟩ := Registry.coherent_reply hr hw q hround
  have hloaded := fun shown => ht.loaded_concat rfl (settles_reply hr hw q shown)
  refine ⟨hw', hloaded, ?_, ?_⟩
  · intro e he op h s hreq hres
    rcases List.mem_append.1 he with hold | hnew
    · exact (ht.kept e hold op h s hreq hres).mono hkeeps
    · obtain rfl := List.mem_singleton.1 hnew
      have hq : q = op.request h := hreq
      subst hq
      obtain ⟨hresult, hafter⟩ := Registry.reply_operation hr op h w
      rw [hres] at hresult
      rw [← hresult, Registry.closed] at hafter
      rw [hafter]
      exact kept_outcome hw (Prod.ext hresult.symm rfl)
  · intro key c hs
    by_cases hq : ∃ op h, q = Operation.request op h
    · obtain ⟨op, h, hreq⟩ := hq
      exact named_growth ht hreq (hreq ▸ Registry.growth_reply hr op h w) hs
    · have htouch := Registry.touches_reply hr q w fun op h he => hq ⟨op, h, he⟩
      obtain ⟨r', hr', hc⟩ := hs
      rcases htouch.get? key with hsame | ⟨-, text, hother⟩
      · obtain ⟨m, hm⟩ := ht.named key c ⟨r', hsame ▸ hr', hc⟩
        exact ⟨m, hm.append _⟩
      · rw [hr'] at hother
        cases hother
        cases hc

end Tracks

/-- Every run that takes few uids keeps cache and history in step. -/
theorem tracks_of_runs {r : Registry} {loader : Loader} (hr : r.Hosts loader (¬ IsReserved ·))
    {history : List Reply} {w : Workspace} (h : r.Runs history w)
    (hfew : uidsTaken history < UInt64.size - 1) : Tracks loader history w := by
  induction h with
  | fresh => exact .fresh
  | @call history w q hrun ih =>
    have hround := hrun.round q hfew
    rw [uidsTaken_append] at hfew
    exact (ih (by omega)).call hr q hround

end Builtins
