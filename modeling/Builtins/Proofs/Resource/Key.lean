import Builtins.Resource.Handle

/-!
# Keys of the resource cache

Everything that navigation stores lies in one flat namespace of texts. A `Key` is what such a text is
made of, `Key.text` the text.

* `IsReserved` — the texts that start like a key;
* `text_injective` — a text is made in one way only, whatever the paths and tags in it hold;
* `documentKey_eq_iff` — so documents share a key exactly when their paths are shown alike, and share it
  with nothing else;
* `keys_injective_disjoint` — what is made of texts, uids and indices has a key of its own.
-/

namespace Builtins

/-- What the key of a stored resource is made of. Of a path there is only the text that shows it. -/
inductive Key where
  | document (shown : String)
  | root (shown : String)
  | list (uid : UInt64) (tag : String)
  | element (uid : UInt64) (index : Nat)
deriving DecidableEq

/-- Whether a text starts like the keys that navigation makes. -/
def IsReserved (key : String) : Prop :=
  documentStart.toList <+: key.toList ∨ elementStart.toList <+: key.toList ∨
    listStart.toList <+: key.toList

instance (key : String) : Decidable (IsReserved key) :=
  inferInstanceAs (Decidable (_ ∨ _ ∨ _))

namespace Key

/-- The text of a key. -/
def text : Key → String
  | document shown => documentStart ++ shown
  | root shown => rootKey (documentStart ++ shown)
  | list uid tag => listKey uid tag
  | element uid index => elementKey uid index

/-! ### The characters of a key -/

theorem pathOfKey_append (shown : String) : pathOfKey (documentStart ++ shown) = shown := by
  have h : dropStart? documentStart.toList (documentStart ++ shown).toList = some shown.toList := by
    rw [String.toList_append]
    exact dropStart?_append _ _
  rw [pathOfKey, h]
  exact String.ofList_toList

theorem toList_toString (n : Nat) : (toString n).toList = Nat.toDigits 10 n :=
  String.toList_ofList

theorem toList_document (shown : String) :
    (document shown).text.toList = "xml_doc_".toList ++ shown.toList := String.toList_append

theorem toList_root (shown : String) :
    (root shown).text.toList = "xml_elem_".toList ++ ("root_".toList ++ shown.toList) := by
  rw [text, rootKey, pathOfKey_append, String.toList_append, String.toList_append,
    List.append_assoc]
  rfl

theorem toList_list (uid : UInt64) (tag : String) :
    (list uid tag).text.toList =
      "xml_list_".toList ++ (Nat.toDigits 10 uid.toNat ++ '_' :: tag.toList) := by
  rw [text, listKey, String.toList_append, String.toList_append, String.toList_append,
    toList_toString, List.append_assoc, List.append_assoc]
  rfl

theorem toList_element (uid : UInt64) (index : Nat) :
    (element uid index).text.toList =
      "xml_elem_".toList ++ (Nat.toDigits 10 uid.toNat ++ '_' :: Nat.toDigits 10 index) := by
  rw [text, elementKey, String.toList_append, String.toList_append, String.toList_append,
    toList_toString, toList_toString, List.append_assoc, List.append_assoc]
  rfl

/-- Every key starts like one. -/
theorem isReserved_text (k : Key) : IsReserved k.text := by
  cases k with
  | document shown => exact .inl ⟨_, (toList_document shown).symm⟩
  | root shown => exact .inr (.inl ⟨_, (toList_root shown).symm⟩)
  | list uid tag => exact .inr (.inr ⟨_, (toList_list uid tag).symm⟩)
  | element uid index => exact .inr (.inl ⟨_, (toList_element uid index).symm⟩)

/-! ### Numbers in keys -/

theorem toDigits_inj {m n : Nat} (h : Nat.toDigits 10 m = Nat.toDigits 10 n) : m = n := by
  rw [← Nat.ofDigitChars_ten_toDigits (n := m), h, Nat.ofDigitChars_ten_toDigits]

/-- The first underscore of a text is where it is, whatever follows. -/
theorem split_underscore {xs ys xs' ys' : List Char} (hx : '_' ∉ xs) (hy : '_' ∉ ys)
    (h : xs ++ '_' :: xs' = ys ++ '_' :: ys') : xs = ys ∧ xs' = ys' := by
  induction xs generalizing ys with
  | nil =>
    cases ys with
    | nil => exact ⟨rfl, (List.cons.inj h).2⟩
    | cons y ys => exact absurd (List.cons.inj h).1 fun he => hy (he ▸ List.mem_cons_self)
  | cons x xs ih =>
    cases ys with
    | nil => exact absurd (List.cons.inj h).1.symm fun he => hx (he ▸ List.mem_cons_self)
    | cons y ys =>
      obtain ⟨rfl, hrest⟩ := List.cons.inj h
      obtain ⟨rfl, heq⟩ := ih (fun hm => hx (by simp [hm])) (fun hm => hy (by simp [hm])) hrest
      exact ⟨rfl, heq⟩

/-- A number ends at the first underscore behind it, so it can be told from what follows. -/
theorem digits_append_inj {u v : UInt64} {xs ys : List Char}
    (h : Nat.toDigits 10 u.toNat ++ '_' :: xs = Nat.toDigits 10 v.toNat ++ '_' :: ys) :
    u = v ∧ xs = ys := by
  obtain ⟨hdigits, hrest⟩ :=
    split_underscore Nat.underscore_not_in_toDigits Nat.underscore_not_in_toDigits h
  exact ⟨UInt64.toNat_inj.1 (toDigits_inj hdigits), hrest⟩

/-- A number does not start like the key of a root element. -/
theorem root_append_ne_digits (u : UInt64) (xs ys : List Char) :
    "root_".toList ++ xs ≠ Nat.toDigits 10 u.toNat ++ '_' :: ys := by
  intro h
  cases hd : Nat.toDigits 10 u.toNat with
  | nil => exact absurd hd Nat.toDigits_ne_nil
  | cons c rest =>
    rw [hd] at h
    have hc : c.isDigit = true :=
      Nat.isDigit_of_mem_toDigits (b := 10) (by decide) (by decide) (by rw [hd]; simp)
    have hr : 'r' = c := (List.cons.inj h).1
    rw [← hr] at hc
    exact absurd hc (by decide)

/-! ### Injectivity -/

/-- Two keys with the same text are made of the same parts. -/
theorem text_injective : Function.Injective text := by
  intro a b h
  have hl : a.text.toList = b.text.toList := congrArg String.toList h
  cases a <;> cases b <;>
    simp only [toList_document, toList_root, toList_list, toList_element] at hl
  case document.document p q =>
    rw [String.toList_inj.1 (List.append_cancel_left hl)]
  case root.root p q =>
    rw [String.toList_inj.1 (List.append_cancel_left (List.append_cancel_left hl))]
  case list.list u t v s =>
    obtain ⟨hu, ht⟩ := digits_append_inj (List.append_cancel_left hl)
    rw [hu, String.toList_inj.1 ht]
  case element.element u i v j =>
    obtain ⟨hu, hi⟩ := digits_append_inj (List.append_cancel_left hl)
    rw [hu, toDigits_inj hi]
  case root.element p u i =>
    exact absurd (List.append_cancel_left hl) (root_append_ne_digits u _ _)
  case element.root u i p =>
    exact absurd (List.append_cancel_left hl).symm (root_append_ne_digits u _ _)
  -- The other texts differ in the word behind `xml_`.
  all_goals simp at hl

end Key

/-! ### Keys of documents -/

/-- Documents share a key exactly when their paths are shown alike. -/
theorem documentKey_eq_iff {path path' : DiskPath} :
    documentKey path = documentKey path' ↔ path.display = path'.display := by
  constructor
  · intro h
    exact Key.document.inj (@Key.text_injective (.document path.display) (.document path'.display) h)
  · intro h
    rw [documentKey, documentKey, h]

theorem document_ne_list (path : DiskPath) (uid : UInt64) (tag : String) :
    documentKey path ≠ listKey uid tag := by
  intro h
  cases @Key.text_injective (.document path.display) (.list uid tag) h

theorem document_ne_element (path : DiskPath) (uid : UInt64) (index : Nat) :
    documentKey path ≠ elementKey uid index := by
  intro h
  cases @Key.text_injective (.document path.display) (.element uid index) h

theorem document_ne_root (path path' : DiskPath) :
    documentKey path ≠ rootKey (documentKey path') := by
  intro h
  cases @Key.text_injective (.document path.display) (.root path'.display) h

/-! ### All keys -/

theorem documentKey_ofText (s : String) : documentKey s = (Key.document s).text := by
  rw [documentKey, DiskPath.display_ofText, Key.text]

/-- Each of the four keys tells what it was made of, and no two of them are ever the same. -/
theorem keys_injective_disjoint (path path' tag tag' : String) (uid uid' : UInt64)
    (index index' : Nat) :
    (documentKey path = documentKey path' ↔ path = path') ∧
    (rootKey (documentKey path) = rootKey (documentKey path') ↔ path = path') ∧
    (listKey uid tag = listKey uid' tag' ↔ uid = uid' ∧ tag = tag') ∧
    (elementKey uid index = elementKey uid' index' ↔ uid = uid' ∧ index = index') ∧
    documentKey path ≠ rootKey (documentKey path') ∧
    documentKey path ≠ listKey uid tag ∧
    documentKey path ≠ elementKey uid index ∧
    rootKey (documentKey path) ≠ listKey uid tag ∧
    rootKey (documentKey path) ≠ elementKey uid index ∧
    listKey uid tag ≠ elementKey uid' index := by
  have same : ∀ k k' : Key, k.text = k'.text ↔ k = k' := fun _ _ => Key.text_injective.eq_iff
  have root : ∀ s : String, rootKey (documentKey s) = (Key.root s).text := fun s => by
    rw [documentKey_ofText, Key.text, Key.text]
  rw [root, root, documentKey_ofText, documentKey_ofText]
  refine ⟨?_, ?_, ?_, ?_, ?_, ?_, ?_, ?_, ?_, ?_⟩
  · exact (same (.document path) (.document path')).trans (by rw [Key.document.injEq])
  · exact (same (.root path) (.root path')).trans (by rw [Key.root.injEq])
  · exact (same (.list uid tag) (.list uid' tag')).trans (by rw [Key.list.injEq])
  · exact (same (.element uid index) (.element uid' index')).trans (by rw [Key.element.injEq])
  · exact fun h => nomatch (same (.document path) (.root path')).1 h
  · exact fun h => nomatch (same (.document path) (.list uid tag)).1 h
  · exact fun h => nomatch (same (.document path) (.element uid index)).1 h
  · exact fun h => nomatch (same (.root path) (.list uid tag)).1 h
  · exact fun h => nomatch (same (.root path) (.element uid index)).1 h
  · exact fun h => nomatch (same (.list uid tag) (.element uid' index)).1 h

/-- A tag may look like another key, and the start of a key may be met again in a path. -/
example : listKey 1 "2_a" = "xml_list_1_2_a" ∧ listKey 12 "a" = "xml_list_12_a" ∧
    rootKey (documentKey "xml_doc_a") = "xml_elem_root_xml_doc_a" := by
  decide +kernel

end Builtins
