import Builtins.Proofs.Run.Operation

/-!
# Outcomes of operations

What each operation gives and what it leaves behind, as an equation between outcomes.  Nobody needs to
unfold a computation after this.

* `Workspace.noteAll`, `Workspace.add`, `Workspace.addDocument` — the only changes there are;
* `outcome_openDocument` and its companions — one equation for each operation;
* `Growth`, `growth_operation` — an operation leaves cache and uids alone, or makes one of four
  additions, each under a key that was free.
-/

namespace Builtins

/-! ### Changes of a workspace -/

namespace Workspace

/-- The workspace after more notices, the latest first. -/
def noteAll (w : Workspace) (notices : List Notice) : Workspace :=
  { w with notices := notices ++ w.notices }

/-- The workspace after taking a uid for a new resource. -/
def add (w : Workspace) (key : String) (resource : UInt64 → Resource) : Workspace :=
  { w with cache := w.cache.insert key (resource w.nextUid), nextUid := w.nextUid + 1 }

/-- The workspace after storing a loaded document, with two uids. -/
def addDocument (w : Workspace) (path : DiskPath) (d : Document) : Workspace :=
  { w with
    cache := (w.cache.insert (rootKey (documentKey path))
        (.element ⟨w.nextUid + 1, .node (Node.rootOf w.nextUid d)⟩)).insert (documentKey path)
      (.document ⟨w.nextUid, .node (Node.ofDocument w.nextUid d)⟩)
    nextUid := w.nextUid + 1 + 1 }

end Workspace

namespace Call

theorem outcome_map {α β : Type} (f : α → β) (c : Call α) (h : Host) (w : Workspace) :
    (f <$> c).outcome h w = ((c.outcome h w).1.map f, (c.outcome h w).2) := by
  rw [← bind_pure_comp, outcome_bind]
  rcases c.outcome h w with ⟨_ | _, _⟩ <;> rfl

end Call

/-! ### One equation for each operation -/

/-- What is told when a document is opened. -/
def openingNotices (loader : Loader) (h : Host) (path : DiskPath) : List Notice :=
  .load loader.label path (loader.load h path).isOk ::
    if h.verbose then [.message s!"parsing XML document '{path.display}'"] else []

theorem outcome_openDocument (loader : Loader) (name : String) (h : Host) (w : Workspace) :
    (openDocument loader name).outcome h w =
      match h.resolve name with
      | .error fault => (.error fault, w)
      | .ok path =>
        if (w.cache.get? (documentKey path)).isSome then (.ok (documentKey path), w)
        else
          match loader.load h path with
          | .error fault => (.error fault, w.noteAll (openingNotices loader h path))
          | .ok d =>
            (.ok (documentKey path),
              (w.noteAll (openingNotices loader h path)).addDocument path d) := by
  simp only [openDocument, Call.outcome_bind, Call.outcome_resolve]
  cases h.resolve name with
  | error fault => rfl
  | ok path =>
    simp only [Call.outcome_isCached]
    split
    · rfl
    · simp only [Call.outcome_bind, Call.outcome_tell, Loader.run, Call.outcome_read,
        Call.outcome_note, Call.outcome_ofExcept]
      cases hl : loader.load h path <;> cases hv : h.verbose <;>
        simp [openingNotices, hl, hv, Workspace.noteAll, Workspace.addDocument, Except.isOk,
          Except.toBool]

theorem outcome_documentRoot (handle : String) (h : Host) (w : Workspace) :
    (documentRoot handle).outcome h w =
      match Cache.expect w.cache handle [.document] with
      | .error fault => (.error fault, w)
      | .ok c =>
        if (w.cache.get? (rootKey handle)).isSome then (.ok (rootKey handle), w)
        else
          match singleNode c handle with
          | .error fault => (.error fault, w)
          | .ok n =>
            (.ok (rootKey handle),
              w.add (rootKey handle) fun uid => .element ⟨uid, .node n.ownerRoot⟩) := by
  simp only [documentRoot, Call.outcome_bind, Call.outcome_expect]
  cases Cache.expect w.cache handle [.document] with
  | error fault => rfl
  | ok c =>
    simp only [Call.outcome_isCached]
    split
    · rfl
    · simp only [Call.outcome_bind, Call.outcome_ofExcept]
      cases singleNode c handle <;> simp [Workspace.add]

theorem outcome_elementsByTag (handle tag : String) (h : Host) (w : Workspace) :
    (elementsByTag handle tag).outcome h w =
      match Cache.expect w.cache handle nodeHandles with
      | .error fault => (.error fault, w)
      | .ok c =>
        if (w.cache.get? (listKey c.uid tag)).isSome then (.ok (listKey c.uid tag), w)
        else
          match singleNode c handle with
          | .error fault => (.error fault, w)
          | .ok n =>
            (.ok (listKey c.uid tag),
              w.add (listKey c.uid tag) fun uid =>
                .nodeList ⟨uid, .nodes (n.elementsByTag tag)⟩) := by
  simp only [elementsByTag, Call.outcome_bind, Call.outcome_expect]
  cases Cache.expect w.cache handle nodeHandles with
  | error fault => rfl
  | ok c =>
    simp only [Call.outcome_isCached]
    split
    · rfl
    · simp only [Call.outcome_bind, Call.outcome_ofExcept]
      cases singleNode c handle <;> simp [Workspace.add]

/-- The node list under a handle, with its container. -/
def Cache.listAt (cache : Cache) (handle : String) : Except Fault (Container × List Node) :=
  match Cache.expect cache handle [.nodeList] with
  | .error fault => .error fault
  | .ok c =>
    match c.nodes? with
    | some ns => .ok (c, ns)
    | none => .error (.holdsNoNodeList handle)

/-- The element that a handle stands for; a document stands for its root element. -/
def Cache.elementAt (cache : Cache) (handle : String) : Except Fault Node :=
  match Cache.expect cache handle nodeHandles with
  | .error fault => .error fault
  | .ok c => (singleNode c handle).map fun n => if n.kind = .document then n.ownerRoot else n

/-- The node of a list at an index, if the index is one of the list. -/
def nodeAt? (ns : List Node) (index : Int64) : Option Node :=
  if index.toInt < 0 then none else ns[index.toInt.toNat]?

@[simp]
theorem outcome_nodeList (handle : String) (h : Host) (w : Workspace) :
    (nodeList handle).outcome h w = (Cache.listAt w.cache handle, w) := by
  simp only [nodeList, Cache.listAt, Call.outcome_bind, Call.outcome_expect]
  cases Cache.expect w.cache handle [.nodeList] with
  | error fault => rfl
  | ok c =>
    simp only
    cases c.nodes? <;> rfl

@[simp]
theorem outcome_listSize (handle : String) (h : Host) (w : Workspace) :
    (listSize handle).outcome h w = ((Cache.listAt w.cache handle).map fun p => p.2.length, w) := by
  simp only [listSize, Call.outcome_bind, outcome_nodeList]
  cases Cache.listAt w.cache handle <;> rfl

theorem outcome_listElement (handle : String) (index : Int64) (h : Host) (w : Workspace) :
    (listElement handle index).outcome h w =
      match Cache.listAt w.cache handle with
      | .error fault => (.error fault, w)
      | .ok (c, ns) =>
        match nodeAt? ns index with
        | none => (.error (.indexOutOfRange index handle ns.length), w)
        | some n =>
          if (w.cache.get? (elementKey c.uid index.toInt.toNat)).isSome then
            (.ok (elementKey c.uid index.toInt.toNat), w)
          else
            (.ok (elementKey c.uid index.toInt.toNat),
              w.add (elementKey c.uid index.toInt.toNat) fun uid => .element ⟨uid, .node n⟩) := by
  simp only [listElement, Call.outcome_bind, outcome_nodeList]
  rcases Cache.listAt w.cache handle with fault | ⟨c, ns⟩
  · rfl
  · simp only [nodeAt?]
    cases if index.toInt < 0 then none else ns[index.toInt.toNat]? with
    | none => rfl
    | some n =>
      simp only [Call.outcome_bind, Call.outcome_isCached]
      split <;> rfl

@[simp]
theorem outcome_elementAt (handle : String) (h : Host) (w : Workspace) :
    (elementAt handle).outcome h w = (Cache.elementAt w.cache handle, w) := by
  simp only [elementAt, Cache.elementAt, Call.outcome_bind, Call.outcome_expect]
  cases Cache.expect w.cache handle nodeHandles with
  | error fault => rfl
  | ok c =>
    simp only [Call.outcome_ofExcept]
    cases singleNode c handle <;> rfl

/-- What is told when a file is embedded. -/
def embeddingNotices (h : Host) (path : DiskPath) : List Notice :=
  if h.verbose then [.message s!"loading content of bin file '{path.display}'"] else []

theorem outcome_embedFile (name token : String) (h : Host) (w : Workspace) :
    (embedFile name token).outcome h w =
      match EncodeOptions.parse token with
      | .error fault => (.error fault, w)
      | .ok options =>
        match h.resolve name with
        | .error fault => (.error fault, w)
        | .ok path =>
          (((h.read path).mapError (Fault.unreadable .binary path.display)).map fun data =>
            .string (encode data options lineEnding), w.noteAll (embeddingNotices h path)) := by
  simp only [embedFile, Call.outcome_bind, Call.outcome_ofExcept]
  cases EncodeOptions.parse token with
  | error fault => rfl
  | ok options =>
    simp only [Call.outcome_resolve]
    cases h.resolve name with
    | error fault => rfl
    | ok path =>
      simp only [Call.outcome_tell, Call.outcome_readFile, embeddingNotices]
      cases h.read path <;> cases h.verbose <;> rfl

/-! ### What operations add -/

/-- What an operation does to the cache and the uids: nothing, or one of four additions. -/
inductive Growth (loader : Loader) (h : Host) (w : Workspace) :
    Operation → Except Fault Value → Workspace → Prop
  | quiet {op : Operation} {result : Except Fault Value} (notices : List Notice) :
      (∀ path, Notice.load loader.label path true ∉ notices) →
        Growth loader h w op result (w.noteAll notices)
  | opened {name : String} {path : DiskPath} {d : Document} :
      h.resolve name = .ok path → w.cache.get? (documentKey path) = none →
        loader.load h path = .ok d →
          Growth loader h w (.openDocument name) (.ok (.string (documentKey path)))
            ((w.noteAll (openingNotices loader h path)).addDocument path d)
  | rooted {handle : String} {c : Container} {n : Node} :
      Cache.expect w.cache handle [.document] = .ok c → c.node? = some n →
        w.cache.get? (rootKey handle) = none →
          Growth loader h w (.documentRoot handle) (.ok (.string (rootKey handle)))
            (w.add (rootKey handle) fun uid => .element ⟨uid, .node n.ownerRoot⟩)
  | listed {handle tag : String} {c : Container} {n : Node} :
      Cache.expect w.cache handle nodeHandles = .ok c → c.node? = some n →
        w.cache.get? (listKey c.uid tag) = none →
          Growth loader h w (.elementsByTag handle tag) (.ok (.string (listKey c.uid tag)))
            (w.add (listKey c.uid tag) fun uid => .nodeList ⟨uid, .nodes (n.elementsByTag tag)⟩)
  | picked {handle : String} {index : Int64} {c : Container} {ns : List Node} {n : Node} :
      Cache.listAt w.cache handle = .ok (c, ns) → nodeAt? ns index = some n →
        w.cache.get? (elementKey c.uid index.toInt.toNat) = none →
          Growth loader h w (.listElement handle index)
            (.ok (.string (elementKey c.uid index.toInt.toNat)))
            (w.add (elementKey c.uid index.toInt.toNat) fun uid => .element ⟨uid, .node n⟩)

namespace Growth

variable {loader : Loader} {h : Host} {w : Workspace} {op : Operation}
  {result : Except Fault Value}

/-- An outcome with the workspace as it was. -/
theorem same : Growth loader h w op result w := quiet [] (by simp)

end Growth

theorem singleNode_ok {c : Container} {handle : String} {n : Node}
    (h : singleNode c handle = .ok n) : c.node? = some n := by
  unfold singleNode at h
  split at h
  · rename_i m hm
    cases h
    exact hm
  · cases h

theorem growth_openDocument (loader : Loader) (h : Host) (w : Workspace) (name : String) :
    Growth loader h w (.openDocument name)
      (((Operation.openDocument name).body loader).outcome h w).1
      (((Operation.openDocument name).body loader).outcome h w).2 := by
  simp only [Operation.body, Call.outcome_map, outcome_openDocument]
  cases hp : h.resolve name with
  | error fault => exact .same
  | ok path =>
    simp only
    split
    · exact .same
    · rename_i hkey
      cases hl : loader.load h path with
      | error fault =>
        refine .quiet _ fun other hmem => ?_
        rw [openingNotices, hl] at hmem
        split at hmem <;> simp [Except.isOk, Except.toBool] at hmem
      | ok d => exact .opened hp (by simpa using hkey) hl

theorem growth_embedFile (loader : Loader) (h : Host) (w : Workspace) (name token : String) :
    Growth loader h w (.embedFile name token)
      (((Operation.embedFile name token).body loader).outcome h w).1
      (((Operation.embedFile name token).body loader).outcome h w).2 := by
  simp only [Operation.body, outcome_embedFile]
  cases EncodeOptions.parse token with
  | error fault => exact .same
  | ok options =>
    simp only
    cases h.resolve name with
    | error fault => exact .same
    | ok path =>
      refine .quiet _ fun other hmem => ?_
      rw [embeddingNotices] at hmem
      split at hmem <;> simp at hmem

/-- Every operation grows the workspace in one of these ways. -/
theorem growth_operation (loader : Loader) (h : Host) (w : Workspace) (op : Operation) :
    Growth loader h w op ((op.body loader).outcome h w).1 ((op.body loader).outcome h w).2 := by
  cases op with
  | openDocument name => exact growth_openDocument loader h w name
  | documentRoot handle =>
    simp only [Operation.body, Call.outcome_map, outcome_documentRoot]
    cases hc : Cache.expect w.cache handle [.document] with
    | error fault => exact .same
    | ok c =>
      simp only
      split
      · exact .same
      · rename_i hkey
        cases hn : singleNode c handle with
        | error fault => exact .same
        | ok n => exact .rooted hc (singleNode_ok hn) (by simpa using hkey)
  | elementsByTag handle tag =>
    simp only [Operation.body, Call.outcome_map, outcome_elementsByTag]
    cases hc : Cache.expect w.cache handle nodeHandles with
    | error fault => exact .same
    | ok c =>
      simp only
      split
      · exact .same
      · rename_i hkey
        cases hn : singleNode c handle with
        | error fault => exact .same
        | ok n => exact .listed hc (singleNode_ok hn) (by simpa using hkey)
  | listElement handle index =>
    simp only [Operation.body, Call.outcome_map, outcome_listElement]
    rcases hc : Cache.listAt w.cache handle with fault | ⟨c, ns⟩
    · exact .same
    · simp only
      cases hn : nodeAt? ns index with
      | none => exact .same
      | some n =>
        simp only
        split
        · exact .same
        · rename_i hkey
          exact .picked hc hn (by simpa using hkey)
  | listSize handle =>
    simp only [Operation.body, Call.outcome_bind, outcome_listSize]
    cases Cache.listAt w.cache handle <;> exact .same
  | elementName handle =>
    simp only [Operation.body, Call.outcome_bind, outcome_elementAt]
    cases Cache.elementAt w.cache handle <;> exact .same
  | elementText handle =>
    simp only [Operation.body, Call.outcome_bind, outcome_elementAt]
    cases Cache.elementAt w.cache handle <;> exact .same
  | elementAttribute handle key =>
    simp only [Operation.body, Call.outcome_bind, outcome_elementAt]
    cases Cache.elementAt w.cache handle <;> exact .same
  | embedFile name token => exact growth_embedFile loader h w name token

end Builtins
