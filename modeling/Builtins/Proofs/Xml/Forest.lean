import Builtins.Xml.Document

/-!
# Forests and their numbering

An outline lists nodes with their depths.  The tree that is meant has its nodes one below the other;
numbered in document order, each has a parent and children by number.

* `Forest`, `Tree` — elements and texts that follow one another, and a single element;
* `Forest.entries` — the outline of a forest;
* `Forest.arena`, `Tree.arena` — its nodes in document order, with the numbers of parent and children;
* `Document.arena` — the same, as the axes of a document give it;
* `arena_of_entries` — the document with the outline of a tree has the arena of the tree.
-/

namespace Builtins

/-! ### Forests -/

/-- Nodes that follow one another. -/
inductive Forest where
  | nil
  | text (s : String) (rest : Forest)
  | element (name : String) (attributes : List Attribute) (below rest : Forest)
deriving DecidableEq

/-- An element with what is in it. -/
structure Tree where
  name : String
  attributes : List Attribute
  below : Forest
deriving DecidableEq

/-- A node with the numbers of its parent and of its children. -/
structure ArenaNode where
  content : Content
  parent : Option Nat
  children : List Nat
deriving DecidableEq

namespace Forest

/-- The number of nodes. -/
def size : Forest → Nat
  | nil => 0
  | text _ rest => rest.size + 1
  | element _ _ below rest => below.size + rest.size + 1

/-- The outline, with the first level at a given depth. -/
def entries (depth : Nat) : Forest → List Entry
  | nil => []
  | text s rest => ⟨depth, .text s⟩ :: rest.entries depth
  | element name attributes below rest =>
    ⟨depth, .element name attributes⟩ :: (below.entries (depth + 1) ++ rest.entries depth)

/-- The numbers of the nodes on the first level, when the first one has a given number. -/
def roots (first : Nat) : Forest → List Nat
  | nil => []
  | text _ rest => first :: rest.roots (first + 1)
  | element _ _ below rest => first :: rest.roots (first + 1 + below.size)

/-- The nodes in document order, when the first one has a given number, below a given parent. -/
def arena (parent first : Nat) : Forest → List ArenaNode
  | nil => []
  | text s rest => ⟨.text s, some parent, []⟩ :: rest.arena parent (first + 1)
  | element name attributes below rest =>
    ⟨.element name attributes, some parent, below.roots (first + 1)⟩ ::
      (below.arena first (first + 1) ++ rest.arena parent (first + 1 + below.size))

theorem length_entries (f : Forest) : ∀ depth, (f.entries depth).length = f.size := by
  induction f with
  | nil => intro depth; rfl
  | text s rest ih =>
    intro depth
    rw [entries, List.length_cons, ih, size]
  | element name attributes below rest ihb ihr =>
    intro depth
    rw [entries, List.length_cons, List.length_append, ihb, ihr, size]

/-- No node of an outline is above its first level. -/
theorem le_depth (f : Forest) : ∀ depth, ∀ e ∈ f.entries depth, depth ≤ e.depth := by
  induction f with
  | nil =>
    intro depth e he
    cases he
  | text s rest ih =>
    intro depth e he
    rcases List.mem_cons.1 he with rfl | hrest
    · exact Nat.le_refl _
    · exact ih depth e hrest
  | element name attributes below rest ihb ihr =>
    intro depth e he
    rcases List.mem_cons.1 he with rfl | hmem
    · exact Nat.le_refl _
    · rcases List.mem_append.1 hmem with hbelow | hrest
      · exact Nat.le_of_succ_le (ihb (depth + 1) e hbelow)
      · exact ihr depth e hrest

/-- What follows an outline does not belong below it. -/
def Ends (depth : Nat) (post : List Entry) : Prop := ∀ e ∈ post.head?, e.depth ≤ depth

theorem ends_nil (depth : Nat) : Ends depth [] := by simp [Ends]

theorem Ends.succ {depth : Nat} {post : List Entry} (h : Ends depth post) : Ends (depth + 1) post :=
  fun e he => Nat.le_succ_of_le (h e he)

/-- The outline of a forest ends what is below the node before it. -/
theorem ends_entries (f : Forest) {depth : Nat} {post : List Entry} (h : Ends depth post) :
    Ends depth (f.entries depth ++ post) := by
  cases f with
  | nil => exact h
  | text s rest =>
    intro e he
    cases he
    exact Nat.le_refl _
  | element name attributes below rest =>
    intro e he
    cases he
    exact Nat.le_refl _

/-- Deeper nodes are taken up to where they end. -/
theorem takeWhile_deeper {depth n : Nat} {deep post : List Entry}
    (hdeep : ∀ e ∈ deep, depth < e.depth) (hpost : Ends depth post) :
    ((deep ++ post).zipIdx n).takeWhile (fun e => depth < e.1.depth) = deep.zipIdx n := by
  rw [List.zipIdx_append, List.takeWhile_append_of_pos]
  · cases post with
    | nil => simp
    | cons e rest =>
      have he : ¬ depth < e.depth := Nat.not_lt.2 (hpost e rfl)
      rw [List.zipIdx_cons, List.takeWhile_cons_of_neg (by simpa using he), List.append_nil]
  · intro x hx
    have hmem : x.1 ∈ deep := List.fst_mem_of_mem_zipIdx hx
    simpa using hdeep x.1 hmem

/-- An outline can be cut in one way only where its deeper nodes end. -/
theorem cut_unique {depth : Nat} {deep deep' post post' : List Entry}
    (hdeep : ∀ e ∈ deep, depth < e.depth) (hdeep' : ∀ e ∈ deep', depth < e.depth)
    (hpost : Ends depth post) (hpost' : Ends depth post') (h : deep ++ post = deep' ++ post') :
    deep = deep' ∧ post = post' := by
  have htake := takeWhile_deeper (n := 0) hdeep hpost
  rw [h, takeWhile_deeper hdeep' hpost'] at htake
  have hfirst : deep' = deep := by simpa using congrArg (List.map Prod.fst) htake
  subst hfirst
  exact ⟨rfl, List.append_cancel_left h⟩

/-- A forest has an outline of its own. -/
theorem entries_injective (f : Forest) : ∀ {depth : Nat} {g : Forest},
    f.entries depth = g.entries depth → f = g := by
  induction f with
  | nil =>
    intro depth g h
    cases g with
    | nil => rfl
    | text s rest => cases h
    | element name attributes below rest => cases h
  | text s rest ih =>
    intro depth g h
    cases g with
    | nil => cases h
    | text s' rest' =>
      obtain ⟨hhead, htail⟩ := List.cons.inj h
      cases hhead
      rw [ih htail]
    | element name attributes below rest' => cases (List.cons.inj h).1
  | element name attributes below rest ihb ihr =>
    intro depth g h
    cases g with
    | nil => cases h
    | text s' rest' => cases (List.cons.inj h).1
    | element name' attributes' below' rest' =>
      obtain ⟨hhead, htail⟩ := List.cons.inj h
      cases hhead
      have hends : ∀ f : Forest, Ends depth (f.entries depth) := by
        intro f
        have hf := ends_entries f (ends_nil depth)
        rwa [List.append_nil] at hf
      obtain ⟨hbelow, hrest⟩ := cut_unique (fun e he => le_depth below _ e he)
        (fun e he => le_depth below' _ e he) (hends rest) (hends rest') htail
      rw [ihb hbelow, ihr hrest]

/-- Among the nodes of an outline those on the first level are the roots. -/
theorem filter_entries (f : Forest) : ∀ depth first,
    (((f.entries depth).zipIdx first).filter fun e => e.1.depth == depth).map (·.2) =
      f.roots first := by
  induction f with
  | nil => intro depth first; rfl
  | text s rest ih =>
    intro depth first
    rw [entries, List.zipIdx_cons, List.filter_cons_of_pos (by simp), List.map_cons, ih, roots]
  | element name attributes below rest ihb ihr =>
    intro depth first
    have hbelow : ((below.entries (depth + 1)).zipIdx (first + 1)).filter
        (fun e => e.1.depth == depth) = [] := by
      refine List.filter_eq_nil_iff.2 fun x hx => ?_
      have hle := le_depth below (depth + 1) x.1 (List.fst_mem_of_mem_zipIdx hx)
      simp only [beq_iff_eq]
      omega
    rw [entries, List.zipIdx_cons, List.filter_cons_of_pos (by simp), List.zipIdx_append,
      List.filter_append, hbelow, List.nil_append, List.map_cons, ihr, length_entries, roots]

end Forest

/-- A forest of one element. -/
def Tree.alone (t : Tree) : Forest := .element t.name t.attributes t.below .nil

/-- The nodes of a document that has only this element, numbered in document order. -/
def Tree.arena (t : Tree) : List ArenaNode := ⟨.document, none, [1]⟩ :: t.alone.arena 0 1

/-- The outline of a document that has only this element. -/
def Tree.entries (t : Tree) : List Entry := ⟨0, .document⟩ :: t.alone.entries 1

theorem Tree.entries_injective {t t' : Tree} (h : t.entries = t'.entries) : t = t' := by
  obtain ⟨name, attributes, below⟩ := t
  obtain ⟨name', attributes', below'⟩ := t'
  cases Forest.entries_injective _ (List.cons.inj h).2
  rfl

/-! ### Documents by their axes -/

namespace Document

/-- A node of a document, by the axes. -/
def node (d : Document) (i : Nat) : ArenaNode :=
  ⟨(d.entry i).content, d.parent? i, d.children i⟩

/-- All nodes of a document in document order, by the axes. -/
def arena (d : Document) : List ArenaNode := (List.range d.entries.size).map d.node

variable {d : Document} {pre post : List Entry}

theorem entry_of_split {e : Entry} (h : d.entries.toList = pre ++ e :: post) :
    d.entry pre.length = e := by
  rw [entry, Array.getD_eq_getD_getElem?, ← Array.getElem?_toList, h,
    List.getElem?_append_right (Nat.le_refl _)]
  simp

theorem positioned_of_split {e : Entry} (h : d.entries.toList = pre ++ e :: post) :
    d.positioned = pre.zipIdx ++ (e, pre.length) :: post.zipIdx (pre.length + 1) := by
  rw [positioned, h, List.zipIdx_append, List.zipIdx_cons, Nat.zero_add]

/-- What is below a node, by what comes after it. -/
theorem below_of_split {e : Entry} (h : d.entries.toList = pre ++ e :: post) :
    d.below pre.length =
      (post.zipIdx (pre.length + 1)).takeWhile fun x => e.depth < x.1.depth := by
  have hdrop : d.positioned.drop (pre.length + 1) = post.zipIdx (pre.length + 1) := by
    rw [positioned_of_split h, ← List.drop_drop, List.drop_left' List.length_zipIdx]
    rfl
  rw [below, hdrop, entry_of_split h]

/-- A node by what comes before it and what comes after it. -/
theorem node_of_split {depth : Nat} {c : Content}
    (h : d.entries.toList = pre ++ ⟨depth, c⟩ :: post) :
    d.node pre.length =
      ⟨c, (pre.zipIdx.reverse.find? fun x => x.1.depth < depth).map (·.2),
        (((post.zipIdx (pre.length + 1)).takeWhile fun x => depth < x.1.depth).filter
          fun x => x.1.depth == depth + 1).map (·.2)⟩ := by
  have htake : d.positioned.take pre.length = pre.zipIdx := by
    rw [positioned_of_split h]
    exact List.take_left' List.length_zipIdx
  rw [node, parent?, htake, children, below_of_split h, entry_of_split h]

/-- The last node above a level, which is the parent of what comes next on this level. -/
def Parent (pre : List Entry) (depth p : Nat) : Prop :=
  (pre.zipIdx.reverse.find? fun x => x.1.depth < depth).map (·.2) = some p

/-- Nodes on the level, or deeper, leave the parent as it is. -/
theorem Parent.append {depth p : Nat} (h : Parent pre depth p) {deep : List Entry}
    (hdeep : ∀ e ∈ deep, depth ≤ e.depth) : Parent (pre ++ deep) depth p := by
  have hnone : (deep.zipIdx pre.length).reverse.find? (fun x => x.1.depth < depth) = none := by
    refine List.find?_eq_none.2 fun x hx => ?_
    have hmem : x.1 ∈ deep := List.fst_mem_of_mem_zipIdx (List.mem_reverse.1 hx)
    have hle := hdeep x.1 hmem
    simp only [decide_eq_true_eq]
    omega
  rw [Parent, List.zipIdx_append, Nat.zero_add, List.reverse_append, List.find?_append, hnone,
    Option.none_or]
  exact h

/-- A node is the parent of what comes next one level down. -/
theorem Parent.self (pre : List Entry) (depth : Nat) (c : Content) :
    Parent (pre ++ [⟨depth, c⟩]) (depth + 1) pre.length := by
  rw [Parent, List.zipIdx_append, Nat.zero_add, List.reverse_append]
  simp

/-- The nodes of a forest within an outline are numbered as they should be. -/
theorem nodes_of_split (f : Forest) : ∀ {pre post : List Entry} {depth p : Nat},
    d.entries.toList = pre ++ (f.entries depth ++ post) → Forest.Ends depth post →
      Parent pre depth p →
        (List.range' pre.length f.size).map d.node = f.arena p pre.length := by
  induction f with
  | nil =>
    intro pre post depth p _ _ _
    rfl
  | text s rest ih =>
    intro pre post depth p h hends hparent
    have hsplit : d.entries.toList = pre ++ ⟨depth, .text s⟩ :: (rest.entries depth ++ post) := h
    have hnode := node_of_split hsplit
    have hbelow : ((rest.entries depth ++ post).zipIdx (pre.length + 1)).takeWhile
        (fun x => depth < x.1.depth) = [] :=
      @Forest.takeWhile_deeper depth _ [] _ (by simp) (rest.ends_entries hends)
    rw [hparent, hbelow] at hnode
    have hrest := @ih (pre ++ [⟨depth, .text s⟩]) post depth p (by rw [h]; simp [Forest.entries])
      hends (hparent.append (by simp))
    rw [List.length_append, List.length_singleton] at hrest
    rw [Forest.size, List.range'_succ, List.map_cons, hnode, hrest]
    rfl
  | element name attributes below rest ihb ihr =>
    intro pre post depth p h hends hparent
    have hsplit : d.entries.toList = pre ++ ⟨depth, .element name attributes⟩ ::
        (below.entries (depth + 1) ++ (rest.entries depth ++ post)) := by
      rw [h]
      simp [Forest.entries]
    have hends' := rest.ends_entries hends
    have hnode := node_of_split hsplit
    rw [Forest.takeWhile_deeper (fun e he => below.le_depth _ e he) hends', hparent,
      below.filter_entries] at hnode
    have hbelow := @ihb (pre ++ [⟨depth, .element name attributes⟩]) (rest.entries depth ++ post)
      (depth + 1) pre.length (by rw [hsplit]; simp) hends'.succ (Parent.self pre depth _)
    have hrest := @ihr (pre ++ [⟨depth, .element name attributes⟩] ++ below.entries (depth + 1)) post
      depth p (by rw [hsplit]; simp) hends ((hparent.append (by simp)).append fun e he =>
        Nat.le_of_succ_le (below.le_depth _ e he))
    rw [List.length_append, List.length_singleton] at hbelow
    rw [List.length_append, List.length_append, List.length_singleton, below.length_entries] at hrest
    rw [Forest.size, List.range'_succ, List.map_cons, hnode, List.range'_append_1.symm, List.map_append,
      hbelow, hrest]
    rfl

/-- A document with the outline of a tree has the nodes of the tree. -/
theorem arena_of_entries {t : Tree} (h : d.entries.toList = t.entries) : d.arena = t.arena := by
  have hsize : d.entries.size = t.alone.size + 1 := by
    rw [← Array.length_toList, h, Tree.entries, List.length_cons, Forest.length_entries]
  -- The document node is followed by the nodes of the root element, all of them deeper.
  have htop := @node_of_split d [] _ 0 .document h
  have hall := @Forest.takeWhile_deeper 0 1 (t.alone.entries 1) []
    (fun e he => Forest.le_depth _ 1 e he) (Forest.ends_nil 0)
  rw [List.append_nil] at hall
  rw [List.length_nil, Nat.zero_add, hall, Forest.filter_entries] at htop
  have hroot := @nodes_of_split d t.alone [⟨0, .document⟩] [] 1 0
    (by rw [h, List.append_nil]; rfl) (Forest.ends_nil 1) rfl
  rw [List.length_singleton] at hroot
  rw [arena, hsize, List.range_eq_range', List.range'_succ, List.map_cons, htop, Nat.zero_add, hroot]
  rfl

end Document

end Builtins
