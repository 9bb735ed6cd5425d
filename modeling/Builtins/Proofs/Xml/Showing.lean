import Builtins.Proofs.Xml.Forest

/-!
# What the nodes of a document show

The nodes of a document are known by the answers they give: their kind, their name, their attributes,
their text and their children.

* `Forest.textContent` — the text of a forest;
* `Shows` — nodes that answer like the nodes of a forest;
* `Document.Holds` — a document that is a tree in this sense, numbered in document order;
* `Document.holds_of_entries` — a document with the outline of a tree holds it.
-/

namespace Builtins

/-! ### Texts -/

namespace Forest

/-- The text of all nodes, in document order. -/
def textContent : Forest → String
  | nil => ""
  | text s rest => s ++ rest.textContent
  | element _ _ below rest => below.textContent ++ rest.textContent

theorem join_ownText (f : Forest) : ∀ depth,
    String.join ((f.entries depth).map (·.content.ownText)) = f.textContent := by
  induction f with
  | nil =>
    intro depth
    exact String.join_nil
  | text s rest ih =>
    intro depth
    rw [entries, List.map_cons, String.join_cons, ih, textContent]
    rfl
  | element name attributes below rest ihb ihr =>
    intro depth
    rw [entries, List.map_cons, List.map_append, String.join_cons, String.join_append, ihb, ihr,
      textContent]
    exact String.empty_append

end Forest

/-! ### Answers -/

/-- Nodes that follow one another and answer like those of a forest. -/
inductive Shows : List Node → Forest → Prop
  | nil : Shows [] .nil
  | text {n : Node} {nodes : List Node} {s : String} {rest : Forest} :
      n.kind = .text → n.name? = none → (∀ key, n.attribute? key = none) → n.textContent = s →
        n.children = [] → Shows nodes rest → Shows (n :: nodes) (.text s rest)
  | element {n : Node} {nodes : List Node} {name : String} {attributes : List Attribute}
      {below rest : Forest} :
      n.kind = .element → n.name? = some name →
        (∀ key, n.attribute? key = (attributes.find? (·.key == key)).map (·.value)) →
          n.textContent = below.textContent → Shows n.children below → Shows nodes rest →
            Shows (n :: nodes) (.element name attributes below rest)

section Answers

variable {d : Document} {pre post : List Entry} (load : UInt64)

/-- What is below a node, when a forest and then no deeper node comes after it. -/
theorem below_of_forest {depth : Nat} {c : Content} (f : Forest)
    (h : d.entries.toList = pre ++ ⟨depth, c⟩ :: (f.entries (depth + 1) ++ post))
    (hends : Forest.Ends depth post) :
    d.below pre.length = (f.entries (depth + 1)).zipIdx (pre.length + 1) := by
  have hbelow := Document.below_of_split h
  rwa [Forest.takeWhile_deeper (fun e he => f.le_depth _ e he) hends] at hbelow

theorem children_of_forest {depth : Nat} {c : Content} (f : Forest)
    (h : d.entries.toList = pre ++ ⟨depth, c⟩ :: (f.entries (depth + 1) ++ post))
    (hends : Forest.Ends depth post) : d.children pre.length = f.roots (pre.length + 1) := by
  rw [Document.children, below_of_forest f h hends, Document.entry_of_split h, f.filter_entries]

theorem textContent_of_forest {depth : Nat} {c : Content} (f : Forest)
    (h : d.entries.toList = pre ++ ⟨depth, c⟩ :: (f.entries (depth + 1) ++ post))
    (hends : Forest.Ends depth post) :
    d.textContent pre.length = c.ownText ++ f.textContent := by
  have htexts : ((f.entries (depth + 1)).zipIdx (pre.length + 1)).map
      (fun e => e.1.content.ownText) = (f.entries (depth + 1)).map (·.content.ownText) := by
    have hfst := List.zipIdx_map_fst (pre.length + 1) (f.entries (depth + 1))
    rw [← congrArg (List.map fun e : Entry => e.content.ownText) hfst, List.map_map]
    rfl
  rw [Document.textContent, Document.entry_of_split h, below_of_forest f h hends, htexts,
    f.join_ownText]

/-- The nodes of a forest within an outline answer as they should. -/
theorem shows_of_split (f : Forest) : ∀ {pre post : List Entry} {depth : Nat},
    d.entries.toList = pre ++ (f.entries depth ++ post) → Forest.Ends depth post →
      Shows ((f.roots pre.length).map fun i => ⟨load, d, i⟩) f := by
  induction f with
  | nil =>
    intro pre post depth _ _
    exact .nil
  | text s rest ih =>
    intro pre post depth h hends
    have hsplit : d.entries.toList = pre ++ ⟨depth, .text s⟩ :: (rest.entries depth ++ post) := h
    have hentry := Document.entry_of_split hsplit
    have hends' := rest.ends_entries hends
    have hcontent : (Node.mk load d pre.length).content = .text s := by rw [Node.content, hentry]
    have htext := textContent_of_forest .nil hsplit hends'
    have hchildren := children_of_forest .nil hsplit hends'
    have hrest := @ih (pre ++ [⟨depth, .text s⟩]) post depth (by rw [hsplit]; simp) hends
    rw [List.length_append, List.length_singleton] at hrest
    rw [Forest.roots, List.map_cons]
    refine .text ?_ ?_ ?_ ?_ ?_ hrest
    · rw [Node.kind, hcontent]
      rfl
    · rw [Node.name?, hcontent]
      rfl
    · intro key
      rw [Node.attribute?, hcontent]
      rfl
    · rw [Node.textContent, htext]
      exact String.append_empty
    · rw [Node.children, hchildren]
      rfl
  | element name attributes below rest ihb ihr =>
    intro pre post depth h hends
    have hsplit : d.entries.toList = pre ++ ⟨depth, .element name attributes⟩ ::
        (below.entries (depth + 1) ++ (rest.entries depth ++ post)) := by
      rw [h]
      simp [Forest.entries]
    have hentry := Document.entry_of_split hsplit
    have hends' := rest.ends_entries hends
    have hcontent : (Node.mk load d pre.length).content = .element name attributes := by
      rw [Node.content, hentry]
    have htext := textContent_of_forest below hsplit hends'
    have hchildren := children_of_forest below hsplit hends'
    have hbelow := @ihb (pre ++ [⟨depth, .element name attributes⟩]) (rest.entries depth ++ post)
      (depth + 1) (by rw [hsplit]; simp) hends'.succ
    have hrest := @ihr (pre ++ [⟨depth, .element name attributes⟩] ++ below.entries (depth + 1)) post
      depth (by rw [hsplit]; simp) hends
    rw [List.length_append, List.length_singleton] at hbelow
    rw [List.length_append, List.length_append, List.length_singleton, below.length_entries] at hrest
    rw [Forest.roots, List.map_cons]
    refine .element ?_ ?_ ?_ ?_ ?_ hrest
    · rw [Node.kind, hcontent]
      rfl
    · rw [Node.name?, hcontent]
      rfl
    · intro key
      rw [Node.attribute?, hcontent]
      rfl
    · rw [Node.textContent, htext]
      exact String.empty_append
    · rw [Node.children, hchildren]
      exact hbelow

end Answers

/-- A document that holds a tree and nothing else: its nodes answer like those of the tree, whichever
load they are of, and they are numbered in document order. -/
structure Document.Holds (d : Document) (t : Tree) : Prop where
  kind : ∀ load, (Node.ofDocument load d).kind = .document
  children : ∀ load, (Node.ofDocument load d).children = [Node.rootOf load d]
  root : ∀ load, Shows [Node.rootOf load d] t.alone
  numbered : d.arena = t.arena

/-- A document with the outline of a tree holds it. -/
theorem Document.holds_of_entries {d : Document} {t : Tree} (h : d.entries.toList = t.entries) :
    d.Holds t := by
  have hsplit : d.entries.toList = [] ++ ⟨0, .document⟩ :: (t.alone.entries (0 + 1) ++ []) := by
    rw [h, List.append_nil]
    rfl
  have hentry : d.entry 0 = ⟨0, .document⟩ := Document.entry_of_split hsplit
  have hchildren : d.children 0 = [1] := children_of_forest t.alone hsplit (Forest.ends_nil 0)
  constructor
  · intro load
    show (d.entry 0).content.kind = _
    rw [hentry]
    rfl
  · intro load
    show (d.children 0).map _ = _
    rw [hchildren]
    rfl
  · intro load
    exact @shows_of_split d load t.alone [⟨0, .document⟩] [] 1 (by rw [hsplit]; rfl)
      (Forest.ends_nil 1)
  · exact Document.arena_of_entries h

end Builtins
