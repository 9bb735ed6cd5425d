import Builtins.Proofs.Xml.Axes
import Builtins.Proofs.Xml.Parsed

/-!
# Queries of a document

A document that is read is a tree: what is below a node is its children, each followed by what is
below it.  So a query that runs through the positions below a node, a recursion over its children and
a loop with a stack of nodes all visit the same nodes, in document order.

* `Document.Bears`, `Document.Stands` — a node with the forest below it, and a forest within a
  document;
* `Document.Nests` — a document that is a tree in the sense above, by which `children_induction`
  reaches every node from its children;
* `Document.search`, `Document.Walk` — the recursion and the loop;
* `findsTag_of_parse` — what a tag query finds in a document that is read;
* `showsText_of_parse` — the text of a node of a document that is read.
-/

namespace Builtins

namespace Document

variable {d : Document} {first i j : Nat}

/-! ### Forests within a document -/

/-- A node whose descendants are a forest. -/
def Bears (d : Document) (i : Nat) (f : Forest) : Prop :=
  ∃ pre post depth c, pre.length = i ∧
    d.entries.toList = pre ++ ⟨depth, c⟩ :: (f.entries (depth + 1) ++ post) ∧
      Forest.Ends depth post

/-- A forest that stands at a position of a document, all of it on one level. -/
def Stands (d : Document) (first : Nat) (f : Forest) : Prop :=
  ∃ pre post depth, pre.length = first ∧ d.entries.toList = pre ++ (f.entries depth ++ post) ∧
    Forest.Ends depth post

namespace Bears

variable {f : Forest}

theorem under (h : d.Bears i f) : d.under i = List.range' (i + 1) f.size := by
  obtain ⟨pre, post, depth, c, rfl, hsplit, hends⟩ := h
  rw [Document.under, below_of_forest f hsplit hends, List.zipIdx_map_snd, f.length_entries]

theorem children (h : d.Bears i f) : d.children i = f.roots (i + 1) := by
  obtain ⟨pre, post, depth, c, rfl, hsplit, hends⟩ := h
  exact children_of_forest f hsplit hends

theorem stands (h : d.Bears i f) : d.Stands (i + 1) f := by
  obtain ⟨pre, post, depth, c, rfl, hsplit, hends⟩ := h
  exact ⟨pre ++ [⟨depth, c⟩], post, depth + 1, List.length_append, by rw [hsplit]; simp, hends.succ⟩

end Bears

namespace Stands

variable {rest below : Forest} {s name : String} {attributes : List Attribute}

theorem of_text (h : d.Stands first (.text s rest)) :
    d.Bears first .nil ∧ d.Stands (first + 1) rest := by
  obtain ⟨pre, post, depth, rfl, hsplit, hends⟩ := h
  exact ⟨⟨pre, rest.entries depth ++ post, depth, _, rfl, hsplit, rest.ends_entries hends⟩,
    pre ++ [⟨depth, .text s⟩], post, depth, List.length_append, by rw [hsplit]; simp [Forest.entries],
    hends⟩

theorem of_element (h : d.Stands first (.element name attributes below rest)) :
    d.Bears first below ∧ d.Stands (first + 1 + below.size) rest := by
  obtain ⟨pre, post, depth, rfl, hsplit, hends⟩ := h
  refine ⟨⟨pre, rest.entries depth ++ post, depth, .element name attributes, rfl, ?_,
    rest.ends_entries hends⟩, pre ++ ⟨depth, .element name attributes⟩ :: below.entries (depth + 1),
    post, depth, ?_, ?_, hends⟩
  · rw [hsplit]
    simp [Forest.entries]
  · rw [List.length_append, List.length_cons, below.length_entries]
    omega
  · rw [hsplit]
    simp [Forest.entries]

end Stands

/-- Every node of a forest within a document bears a forest. -/
theorem Stands.exists_bears {f : Forest} : ∀ {first : Nat}, d.Stands first f →
    ∀ j ∈ List.range' first f.size, ∃ g, d.Bears j g := by
  induction f with
  | nil =>
    intro first _ j hj
    cases hj
  | text s rest ih =>
    intro first h j hj
    obtain ⟨hbears, hrest⟩ := h.of_text
    rw [Forest.size, List.range'_succ] at hj
    rcases List.mem_cons.1 hj with rfl | hj
    · exact ⟨_, hbears⟩
    · exact ih hrest j hj
  | element name attributes below rest ihb ihr =>
    intro first h j hj
    obtain ⟨hbears, hrest⟩ := h.of_element
    rw [Forest.size, List.range'_succ, ← List.range'_append_1] at hj
    rcases List.mem_cons.1 hj with rfl | hj
    · exact ⟨_, hbears⟩
    · rcases List.mem_append.1 hj with hj | hj
      · exact ihb hbears.stands j hj
      · exact ihr hrest j hj

/-- The nodes of a forest are its roots, each followed by what is below it. -/
theorem Stands.range'_eq {f : Forest} : ∀ {first : Nat}, d.Stands first f →
    List.range' first f.size = (f.roots first).flatMap fun c => c :: d.under c := by
  induction f with
  | nil => intro first _; rfl
  | text s rest ih =>
    intro first h
    obtain ⟨hbears, hrest⟩ := h.of_text
    rw [Forest.size, List.range'_succ, Forest.roots, List.flatMap_cons, hbears.under, ih hrest]
    rfl
  | element name attributes below rest ihb ihr =>
    intro first h
    obtain ⟨hbears, hrest⟩ := h.of_element
    rw [Forest.size, List.range'_succ, ← List.range'_append_1, Forest.roots, List.flatMap_cons,
      hbears.under, ihr hrest]
    rfl

/-! ### Documents that are trees -/

/-- A document in which what is below a node is its children, each followed by what is below it. -/
def Nests (d : Document) : Prop :=
  ∀ i < d.entries.size, d.under i = (d.children i).flatMap fun c => c :: d.under c

theorem bears_zero {t : Tree} (h : d.entries.toList = t.entries) : d.Bears 0 t.alone :=
  ⟨[], [], 0, .document, rfl, by rw [h, List.append_nil]; rfl, Forest.ends_nil 0⟩

/-- A document with the outline of a tree is a tree. -/
theorem nests_of_entries {t : Tree} (h : d.entries.toList = t.entries) : d.Nests := by
  intro i hi
  have hsize : d.entries.size = t.alone.size + 1 := by
    rw [← Array.length_toList, h, Tree.entries, List.length_cons, Forest.length_entries]
  have hroot := bears_zero h
  obtain ⟨f, hf⟩ : ∃ f, d.Bears i f := by
    rcases Nat.eq_zero_or_pos i with rfl | hpos
    · exact ⟨_, hroot⟩
    · exact hroot.stands.exists_bears i (List.mem_range'_1.2 ⟨hpos, by omega⟩)
  rw [hf.under, hf.children, hf.stands.range'_eq]

/-- What holds of a node as soon as it holds of its children holds of every node. -/
theorem children_induction {motive : Nat → Prop}
    (h : ∀ i < d.entries.size, (∀ c ∈ d.children i, motive c) → motive i) :
    ∀ i < d.entries.size, motive i := by
  intro i
  induction hn : d.entries.size - i using Nat.strongRecOn generalizing i with
  | ind n ih =>
    intro hi
    refine h i hi fun c hc => ?_
    obtain ⟨hlt, hsize⟩ := lt_of_mem_children hc
    exact ih _ (by omega) c rfl hsize

/-! ### The recursion and the loop -/

/-- The elements below a node that a tag query finds, by the children from left to right: each one
before those below it. -/
def search (d : Document) (tag : String) (i : Nat) : List Nat :=
  (d.children i).attach.flatMap fun c =>
    if (d.entry c.1).content.matchesTag tag then c.1 :: d.search tag c.1 else d.search tag c.1
termination_by d.entries.size - i
decreasing_by
  all_goals
    obtain ⟨hlt, hsize⟩ := lt_of_mem_children c.2
    omega

theorem search_eq (hd : d.Nests) (tag : String) :
    ∀ i < d.entries.size, d.search tag i = d.elementsByTag i tag := by
  refine children_induction fun i hi ih => ?_
  rw [search, elementsByTag_eq, hd i hi, List.filter_flatMap,
    ← List.attach_map_subtype_val (d.children i), List.flatMap_map, List.attach_map_subtype_val]
  refine congrArg (List.flatMap · _) (funext fun c => ?_)
  rw [ih c.1 c.2, elementsByTag_eq, List.filter_cons]

/-- The loop over a stack of nodes, by the nodes that it visits: the node on top is visited, and its
children take its place, the first one on top.  The loop ends when no node is left. -/
inductive Walk (d : Document) : List Nat → List Nat → Prop
  | done : Walk d [] []
  | visit {i : Nat} {stack visited : List Nat} :
      Walk d (d.children i ++ stack) visited → Walk d (i :: stack) (i :: visited)

/-- Nodes on the stack that the loop goes through one by one. -/
theorem Walk.append {stack visited : List Nat} (hwalk : d.Walk stack visited) {nodes : List Nat}
    (h : ∀ c ∈ nodes, ∀ {stack visited}, d.Walk stack visited →
      d.Walk (c :: stack) (c :: d.under c ++ visited)) :
    d.Walk (nodes ++ stack) ((nodes.flatMap fun c => c :: d.under c) ++ visited) := by
  induction nodes with
  | nil => exact hwalk
  | cons c rest ih =>
    have hrest := ih fun c' hc' => h c' (List.mem_cons_of_mem _ hc')
    rw [List.flatMap_cons, List.append_assoc]
    exact h c List.mem_cons_self hrest

/-- The loop visits the node on top and all that is below it before the rest of the stack. -/
theorem Walk.node (hd : d.Nests) : ∀ i < d.entries.size, ∀ {stack visited : List Nat},
    d.Walk stack visited → d.Walk (i :: stack) (i :: d.under i ++ visited) := by
  refine children_induction fun i hi ih stack visited hwalk => ?_
  refine .visit ?_
  rw [hd i hi]
  exact hwalk.append fun c hc _ _ => ih c hc

/-- From the children of a node the loop visits what is below the node. -/
theorem walk_children (hd : d.Nests) (hi : i < d.entries.size) :
    d.Walk (d.children i) (d.under i) := by
  have h := @Walk.append d [] [] .done (d.children i) fun c hc =>
    Walk.node hd c (lt_of_mem_children hc).2
  rwa [List.append_nil, List.append_nil, ← hd i hi] at h

end Document

/-! ### Tag queries -/

/-- What a tag query finds from a node: the elements below it with this name, or all of them for the
star, each once and in document order. -/
structure Document.FindsTag (d : Document) (i : Nat) (tag : String) : Prop where
  found : ∀ j, j ∈ d.elementsByTag i tag ↔ d.Encloses i j ∧ (d.entry j).content.kind = .element ∧
    (tag = "*" ∨ (d.entry j).content.name? = some tag)
  ordered : (d.elementsByTag i tag).Pairwise (· < ·)
  proper : i ∉ d.elementsByTag i tag
  /-- The query is the recursion over the children from left to right. -/
  recursive : d.elementsByTag i tag = d.search tag i
  /-- The loop that starts with the children comes to an end, and what it collects is found. -/
  walked : ∃ visited, d.Walk (d.children i) visited ∧
    d.elementsByTag i tag = visited.filter fun j => (d.entry j).content.matchesTag tag
  /-- What is found from a node further down stands together. -/
  within : ∀ j, d.Encloses i j → d.elementsByTag j tag <:+: d.elementsByTag i tag

/-- Tag queries from any node of a document that is read. -/
theorem findsTag_of_parse {bytes : Bytes} {d : Document} (h : parseDocument bytes = .ok d) {i : Nat}
    (hi : i < d.entries.size) (tag : String) : d.FindsTag i tag := by
  obtain ⟨t, ht⟩ := exists_entries_of_parse h
  have hd := Document.nests_of_entries ht
  constructor
  case found => exact fun j => Document.mem_elementsByTag
  case ordered =>
    rw [Document.elementsByTag_eq]
    exact (d.under_pairwise i).filter _
  case proper =>
    intro hmem
    exact Nat.lt_irrefl i (Document.lt_of_encloses (Document.mem_elementsByTag.1 hmem).1)
  case recursive => exact (Document.search_eq hd tag i hi).symm
  case walked => exact ⟨_, Document.walk_children hd hi, Document.elementsByTag_eq tag⟩
  case within =>
    intro j hj
    rw [Document.elementsByTag_eq, Document.elementsByTag_eq]
    exact (List.infix_cons (List.infix_refl _)).trans (Document.under_infix hj) |>.filter _

/-- An element is found below its twin and once more further down. -/
theorem findsTag_of_twins :
    let d : Document := ⟨#[⟨0, .document⟩, ⟨1, .element "a" []⟩, ⟨2, .element "b" []⟩,
      ⟨2, .text "x"⟩, ⟨2, .element "c" []⟩, ⟨3, .element "b" []⟩]⟩
    parseDocument (utf8 "<a><b/>x<c><b/></c></a>") = .ok d ∧ d.elementsByTag 1 "b" = [2, 5] ∧
      d.FindsTag 1 "b" := by
  intro d
  have hparse : parseDocument (utf8 "<a><b/>x<c><b/></c></a>") = .ok d := by rfl
  exact ⟨hparse, by decide +kernel, findsTag_of_parse hparse (by decide) "b"⟩

/-! ### Texts -/

theorem join_flatMap {α : Type} (f : α → List String) (l : List α) :
    String.join (l.flatMap f) = String.join (l.map fun x => String.join (f x)) := by
  induction l with
  | nil => rfl
  | cons x rest ih => rw [List.flatMap_cons, String.join_append, List.map_cons, String.join_cons, ih]

theorem Content.ownText_of_kind_ne {c : Content} (h : c.kind ≠ .text) : c.ownText = "" := by
  cases c with
  | document => rfl
  | element name attributes => rfl
  | text s => exact absurd rfl h

namespace Document

variable {d : Document} {i j : Nat}

/-- The texts of a list of nodes, one after the other. -/
def textsOf (d : Document) (nodes : List Nat) : String :=
  String.join (nodes.map fun j => (d.entry j).content.ownText)

theorem textsOf_cons (nodes : List Nat) :
    d.textsOf (i :: nodes) = (d.entry i).content.ownText ++ d.textsOf nodes := by
  rw [textsOf, List.map_cons, String.join_cons, textsOf]

theorem textsOf_append (nodes nodes' : List Nat) :
    d.textsOf (nodes ++ nodes') = d.textsOf nodes ++ d.textsOf nodes' := by
  rw [textsOf, List.map_append, String.join_append, textsOf, textsOf]

/-- Nodes that are no texts add nothing. -/
theorem textsOf_filter (nodes : List Nat) :
    d.textsOf (nodes.filter fun j => (d.entry j).content.kind = .text) = d.textsOf nodes := by
  induction nodes with
  | nil => rfl
  | cons j rest ih =>
    by_cases hj : (d.entry j).content.kind = .text
    · rw [List.filter_cons_of_pos (by simpa using hj), textsOf_cons, textsOf_cons, ih]
    · rw [List.filter_cons_of_neg (by simpa using hj), textsOf_cons, ih,
        Content.ownText_of_kind_ne hj, String.empty_append]

theorem textContent_eq_textsOf : d.textContent i = d.textsOf (i :: d.under i) := textContent_eq

/-- The text of a node is its own, then the texts of its children. -/
theorem textContent_eq_children (hd : d.Nests) (hi : i < d.entries.size) : d.textContent i =
    (d.entry i).content.ownText ++ String.join ((d.children i).map d.textContent) := by
  rw [textContent_eq_textsOf, textsOf_cons, hd i hi, textsOf, List.map_flatMap, join_flatMap]
  congr 2
  exact List.map_congr_left fun c _ => textContent_eq.symm

/-- The text of a node: that of the text nodes among it and what is below it, in document order. -/
structure ShowsText (d : Document) (i : Nat) : Prop where
  texts : ∃ nodes : List Nat, nodes.Pairwise (· < ·) ∧
    (∀ j, j ∈ nodes ↔ (j = i ∨ d.Encloses i j) ∧ (d.entry j).content.kind = .text) ∧
      d.textContent i = d.textsOf nodes
  children : (d.entry i).content.kind ≠ .text →
    d.textContent i = String.join ((d.children i).map d.textContent)
  /-- The text of the document is that of its root element. -/
  root : d.textContent 0 = d.textContent rootIndex
  /-- The text of a node further down stands together. -/
  within : ∀ j, d.Encloses i j →
    ∃ before after, d.textContent i = before ++ d.textContent j ++ after
  /-- The loop that starts with the node comes to an end, and what it collects is the text. -/
  walked : ∃ visited, d.Walk [i] visited ∧ d.textContent i = d.textsOf visited

end Document

/-- The text of any node of a document that is read. -/
theorem showsText_of_parse {bytes : Bytes} {d : Document} (h : parseDocument bytes = .ok d) {i : Nat}
    (hi : i < d.entries.size) : d.ShowsText i := by
  obtain ⟨t, ht⟩ := exists_entries_of_parse h
  have hd := Document.nests_of_entries ht
  have hpart : ∀ i < d.entries.size, (d.entry i).content.kind ≠ .text →
      d.textContent i = String.join ((d.children i).map d.textContent) := by
    intro i hi hkind
    rw [Document.textContent_eq_children hd hi, Content.ownText_of_kind_ne hkind,
      String.empty_append]
  constructor
  case texts =>
    refine ⟨(i :: d.under i).filter fun j => (d.entry j).content.kind = .text, ?_, ?_, ?_⟩
    · refine List.Pairwise.filter _ (List.pairwise_cons.2 ⟨fun j hj => ?_, d.under_pairwise i⟩)
      exact (Document.mem_under_iff.1 hj).1
    · intro j
      rw [List.mem_filter, List.mem_cons, Document.mem_under, decide_eq_true_iff]
    · rw [Document.textsOf_filter, Document.textContent_eq_textsOf]
  case children => exact hpart i hi
  case root =>
    have hentry : d.entry 0 = ⟨0, .document⟩ := @Document.entry_of_split d [] _ _ ht
    have hchildren : d.children 0 = [Document.rootIndex] := (Document.bears_zero ht).children
    rw [hpart 0 (by omega) (by rw [hentry]; exact NodeKind.noConfusion), hchildren]
    rw [List.map_singleton, String.join_cons, String.join_nil, String.append_empty]
  case within =>
    intro j hj
    obtain ⟨before, after, hunder⟩ := Document.under_infix hj
    refine ⟨d.textsOf (i :: before), d.textsOf after, ?_⟩
    rw [Document.textContent_eq_textsOf, Document.textContent_eq_textsOf, ← hunder,
      ← Document.textsOf_append, ← Document.textsOf_append]
    rfl
  case walked =>
    refine ⟨_, Document.Walk.node hd i hi .done, ?_⟩
    rw [List.append_nil, Document.textContent_eq_textsOf]

/-- Texts between and within elements, and a text node by itself. -/
theorem showsText_of_mixed :
    let d : Document := ⟨#[⟨0, .document⟩, ⟨1, .element "p" []⟩, ⟨2, .text "x"⟩,
      ⟨2, .element "b" []⟩, ⟨3, .text "y"⟩, ⟨2, .text "z"⟩]⟩
    parseDocument (utf8 "<p>x<b>y</b>z</p>") = .ok d ∧ d.textContent 1 = "xyz" ∧
      d.ShowsText 1 := by
  intro d
  have hparse : parseDocument (utf8 "<p>x<b>y</b>z</p>") = .ok d := by rfl
  exact ⟨hparse, by decide +kernel, showsText_of_parse hparse (by decide)⟩

end Builtins
