import Builtins.Proofs.Run.Tracking

/-!
# Transparency of the cache

Nobody who uses handles can see that there is a cache: files may change and calls may be repeated in
any order, a handle keeps its meaning, and questions about it are answered from that meaning alone.

* `Transparent` — what a history owes to those who use handles;
* `transparent_of_runs` — every run that takes few uids is transparent.
-/

namespace Builtins

/-! ### What is owed -/

/-- The operations that give handles. -/
def Operation.GivesHandle : Operation → Prop
  | .openDocument _ => True
  | .documentRoot _ => True
  | .elementsByTag _ _ => True
  | .listElement _ _ => True
  | _ => False

/-- What a history owes to those who use handles. -/
structure Transparent (loader : Loader) (history : List Reply) : Prop where
  /-- Opening a path that was loaded before gives what was loaded first, whatever is there now, and
  does nothing else. -/
  reopened : ∀ {before e after name h path d}, history = before ++ e :: after →
    e.request = (Operation.openDocument name).request h → h.resolve name = .ok path →
      firstLoad? loader before path = some d →
        (Answer.handle (.node (.top path.display d))).Given (Denotes loader before) e.result ∧
          e.after = e.before
  /-- Opening a path gives what is loaded at that time, or fails as the load does, if nothing was loaded
  from a path that is shown like it. -/
  opened : ∀ {before e after name h path}, history = before ++ e :: after →
    e.request = (Operation.openDocument name).request h → h.resolve name = .ok path →
      (∀ d, ¬ LoadedAs loader before path.display d) →
        match loader.load h path with
        | .ok d => (Answer.handle (.node (.top path.display d))).Given
          (Denotes loader (before ++ [e])) e.result
        | .error fault => e.result = .error fault
  /-- Every handle that is given stands for something. -/
  given : ∀ {before e after op h v}, history = before ++ e :: after →
    e.request = Operation.request op h → op.GivesHandle → e.result = .ok v →
      ∃ s m, v = .string s ∧ Denotes loader (before ++ [e]) s m
  /-- What a handle stands for at some time it stands for ever after, and for nothing else. -/
  lasting : ∀ {before after s m}, history = before ++ after → Denotes loader before s m →
    ∀ m', Denotes loader history s m' ↔ m' = m
  /-- Whatever is asked of a handle is answered as the tree functions do. -/
  answered : ∀ {before e after q s h m}, history = before ++ e :: after →
    e.request = (Query.on s q).request h → Denotes loader before s m →
      (m.answer q).Given (Denotes loader (before ++ [e])) e.result

/-! ### Every run is transparent -/

section Runs

variable {r : Registry} {loader : Loader}

/-- Around a call of a run, cache and history are in step. -/
theorem tracks_around (hr : r.Hosts loader (¬ IsReserved ·)) {before after : List Reply} {e : Reply}
    {w : Workspace} (h : r.Runs (before ++ e :: after) w)
    (hfew : uidsTaken (before ++ e :: after) < UInt64.size - 1) :
    ∃ w' q, e = r.reply w' q ∧ Tracks loader before w' ∧ Tracks loader (before ++ [e]) e.after := by
  have hsplit : before ++ e :: after = (before ++ [e]) ++ after := by simp
  rw [hsplit] at h hfew
  rw [uidsTaken_append] at hfew
  obtain ⟨w₁, hrun⟩ := h.of_append
  have htracks := tracks_of_runs hr hrun (by omega)
  obtain ⟨w', q, hbefore, he, rfl⟩ := hrun.of_concat
  rw [uidsTaken_append] at hfew
  exact ⟨w', q, he, tracks_of_runs hr hbefore (by omega), htracks⟩

/-- The handle that answers a question stands for what the answer says. -/
theorem Denotes.of_answer {history : List Reply} {e : Reply} {h : Host} {parent s : String}
    {m m' : Meaning} {q : Query} (hm : Denotes loader history parent m) (he : e ∈ history)
    (hreq : e.request = (q.on parent).request h) (hres : e.result = .ok (.string s))
    (hanswer : m.answer q = .handle m') : Denotes loader history s m' := by
  cases m with
  | node p =>
    cases q with
    | root =>
      rw [Meaning.answer] at hanswer
      split at hanswer <;> cases hanswer
      exact .root he hreq hres hm
    | list tag =>
      cases hanswer
      exact .list he hreq hres hm
    | _ => cases hanswer
  | list ps =>
    cases q with
    | get index =>
      rw [Meaning.answer] at hanswer
      split at hanswer <;> cases hanswer
      rename_i p hp
      exact .get he hreq hres hm hp
    | _ => cases hanswer

/-- Whatever gives a handle gives a text. -/
theorem exists_string_of_givesHandle {op : Operation} {h : Host} {w : Workspace} {v : Value}
    (hop : op.GivesHandle) (hv : ((op.body loader).outcome h w).1 = .ok v) : ∃ s, v = .string s := by
  have htext : ∀ {c : Call String}, ((Value.string <$> c).outcome h w).1 = .ok v →
      ∃ s, v = .string s := by
    intro c hc
    rw [Call.outcome_map] at hc
    cases hs : (c.outcome h w).1 with
    | error fault => rw [hs] at hc; cases hc
    | ok s => rw [hs] at hc; cases hc; exact ⟨s, rfl⟩
  cases op with
  | openDocument name => exact htext hv
  | documentRoot parent => exact htext hv
  | elementsByTag parent tag => exact htext hv
  | listElement parent index => exact htext hv
  | _ => cases hop

/-- Under a handle that is kept there is a container. -/
theorem stored_of_kept {w : Workspace} (hw : Coherent w) {op : Operation} {h : Host} {s : String}
    (hop : op.GivesHandle) (hk : Kept w.cache h s op) : ∃ c, Stored w.cache s c := by
  cases op with
  | openDocument name => obtain ⟨path, c, -, -, hc⟩ := hk; exact ⟨c, hc⟩
  | documentRoot parent =>
    obtain ⟨c, rfl, hdoc⟩ := hk
    obtain ⟨path, d, rfl, -, hroot⟩ := hw.document_key hdoc
    exact ⟨_, _, hroot, rfl⟩
  | elementsByTag parent tag => obtain ⟨c, c', -, -, hc'⟩ := hk; exact ⟨c', hc'⟩
  | listElement parent index => obtain ⟨c, c', -, -, hc'⟩ := hk; exact ⟨c', hc'⟩
  | _ => cases hop

/-- Where nothing was loaded from a path that is shown alike, nothing is under the key. -/
theorem Tracks.free_of_not_loadedAs {history : List Reply} {w : Workspace} {path : DiskPath}
    (ht : Tracks loader history w) (h : ∀ d, ¬ LoadedAs loader history path.display d) :
    w.cache.get? (documentKey path) = none := by
  cases hget : w.cache.get? (documentKey path) with
  | none => rfl
  | some r =>
    obtain ⟨uid, d, rfl, -⟩ := ht.coherent.holds (k := .document path.display) hget
    exact absurd ((ht.loaded path.display d).2 ⟨uid, hget⟩) (h d)

/-- Every run that takes few uids is transparent, whatever its files and its other functions do in
between. -/
theorem transparent_of_runs (hr : r.Hosts loader (¬ IsReserved ·)) {history : List Reply}
    {w : Workspace} (h : r.Runs history w) (hfew : uidsTaken history < UInt64.size - 1) :
    Transparent loader history where
  reopened := by
    intro before e after name host path d hhistory hreq hpath hload
    subst hhistory
    obtain ⟨w', q, rfl, ht, -⟩ := tracks_around hr h hfew
    obtain rfl : q = _ := hreq
    obtain ⟨uid, hget⟩ := ht.exists_document hload
    obtain ⟨hresult, hafter⟩ := Registry.reply_operation hr (.openDocument name) host w'
    rw [Operation.body, Call.outcome_map, outcome_openDocument] at hresult hafter
    simp only [hpath, hget, Option.isSome_some, if_true] at hresult hafter
    exact ⟨⟨documentKey path, hresult, ht.denotes_iff.2 (.top hget)⟩, hafter⟩
  opened := by
    intro before e after name host path hhistory hreq hpath hnone
    subst hhistory
    obtain ⟨w', q, rfl, ht, ht'⟩ := tracks_around hr h hfew
    obtain rfl : q = _ := hreq
    have hfree := ht.free_of_not_loadedAs hnone
    obtain ⟨hresult, hafter⟩ := Registry.reply_operation hr (.openDocument name) host w'
    rw [Operation.body, Call.outcome_map, outcome_openDocument] at hresult hafter
    simp only [hpath, hfree, Option.isSome_none, if_false, Bool.false_eq_true] at hresult hafter
    cases hload : loader.load host path with
    | error fault =>
      rw [hload] at hresult
      exact hresult
    | ok d =>
      rw [hload] at hresult hafter
      have hget : (r.reply w' ((Operation.openDocument name).request host)).after.cache.get?
          (documentKey path) = some (.document ⟨w'.nextUid, .node (.ofDocument w'.nextUid d)⟩) := by
        rw [hafter]
        exact (Coherent.get?_addDocument ..).trans (if_pos rfl)
      exact ⟨documentKey path, hresult, ht'.denotes_iff.2 (.top hget)⟩
  given := by
    intro before e after op host v hhistory hreq hop hv
    subst hhistory
    obtain ⟨w', q, rfl, ht, ht'⟩ := tracks_around hr h hfew
    have hq : q = op.request host := hreq
    have hresult := (Registry.reply_operation hr op host w').1
    rw [← hq, hv] at hresult
    obtain ⟨s, rfl⟩ := exists_string_of_givesHandle hop hresult.symm
    have hkept := ht'.kept (r.reply w' q) (by simp) op host s hreq hv
    obtain ⟨c, hc⟩ := stored_of_kept ht'.coherent hop hkept
    obtain ⟨m, hm⟩ := ht'.named s c hc
    exact ⟨s, m, rfl, hm⟩
  lasting := by
    intro before after s m hhistory hm m'
    subst hhistory
    have ht := tracks_of_runs hr h hfew
    have hlater := hm.append after
    constructor
    · intro hm'
      exact (ht.backs hm').unique ht.coherent (ht.backs hlater)
    · intro he
      rw [he]
      exact hlater
  answered := by
    intro before e after q s host m hhistory hreq hm
    subst hhistory
    obtain ⟨w', q', rfl, ht, ht'⟩ := tracks_around hr h hfew
    have hq : q' = (q.on s).request host := hreq
    have hgiven := @answer_of_backs loader host _ _ _ ht.coherent (ht.backs hm) q
    rw [← (Registry.reply_operation hr (q.on s) host w').1, ← hq] at hgiven
    have hlater := hm.append [r.reply w' q']
    cases hanswer : m.answer q with
    | value v => rwa [hanswer] at hgiven
    | refused code => rwa [hanswer] at hgiven
    | handle m' =>
      rw [hanswer] at hgiven
      obtain ⟨s', hs', -⟩ := hgiven
      exact ⟨s', hs', hlater.of_answer (by simp) hreq hs' hanswer⟩

end Runs

/-- A document is opened, its file is removed, and it is opened again. -/
theorem transparent_of_removed_file :
    let present : Host := ⟨fun name => .ok name, fun _ => .ok (utf8 "<a><b/></a>"), false⟩
    let removed : Host := ⟨fun name => .ok name, fun _ => .error .absent, false⟩
    let e := Registry.standard.reply Workspace.fresh ((Operation.openDocument "a").request present)
    let e' := Registry.standard.reply e.after ((Operation.openDocument "a").request removed)
    Transparent (Loader.parsing "standard") [e, e'] :=
  transparent_of_runs (hosts_standard _) (.call _ (.call _ .fresh)) (by decide +kernel)

/-- The handle of a document is answered for its root element, though the document itself has no name.
And of two paths that are shown alike, the document of the first is given for both: nothing is loaded
from the second. -/
theorem root_answers_and_paths_shown_alike :
    let present : Host := ⟨fun name => .ok name, fun _ => .ok (utf8 "<r/>"), false⟩
    let e := Registry.standard.reply Workspace.fresh ((Operation.openDocument "a").request present)
    let e' := Registry.standard.reply e.after ((Query.name.on "xml_doc_a").request present)
    let first : DiskPath := ⟨[0xFF]⟩
    let second : DiskPath := ⟨[0xFE]⟩
    let files : Host := ⟨fun name => .ok (if name = "a" then first else second),
      fun path => .ok (utf8 (if path = first then "<x/>" else "<y/>")), false⟩
    let i := Registry.standard.reply Workspace.fresh ((Operation.openDocument "a").request files)
    let i' := Registry.standard.reply i.after ((Operation.openDocument "b").request files)
    let i'' := Registry.standard.reply i'.after ((Query.name.on "xml_doc_\uFFFD").request files)
    (e.result = .ok (.string "xml_doc_a") ∧
        (firstLoad? (Loader.parsing "standard") [e] "a").map
          (fun d => (Place.top "a" d).content.name?) = some none ∧
        e'.result = .ok (.string "r")) ∧
      i'.result = .ok (.string "xml_doc_\uFFFD") ∧
      firstLoad? (Loader.parsing "standard") [i, i'] second = none ∧
      ((Loader.parsing "standard").load files second).toOption.map
        (fun d => (Place.top second.display d).root.content.name?) = some (some "y") ∧
      i''.result = .ok (.string "x") := by
  decide +kernel

end Builtins
