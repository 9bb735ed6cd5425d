import Builtins.Proofs.Encoding.Faithful
import Builtins.Proofs.Xml.Nesting
import Mathlib.Data.List.Nodup

/-!
# Attributes that are found

Keys are compared as bytes while a tag is scanned, and as texts when an attribute is asked for. Where an
encoding reads different bytes as the same text, a key may occur again, and the first attribute stands in
the way of the others.

* `AttrScan.Distinct` — keys that differ, an invariant of the scanner that checks them;
* `AttrScan.run_unchecked` — where no key repeats, the check changes nothing;
* `Reader.tag_eq_ok` — what a tag that is read says of the element;
* `Reader.Shows`, `Reader.shows_of_tag` — an element that shows the first attribute with each key and, where
  no two keys are read alike, every attribute of its tag;
* `ShowsAttributes`, `showsAttributes_of_parse` — so does every element of a document that is read, with
  the encoding that was in force at its tag.
-/

namespace Builtins

/-! ### Keys that repeat -/

/-- The key that a scanner has accepted and still has no value for. -/
def AttrMode.accepted? : AttrMode → Option Bytes
  | .afterEquals accepted => some accepted
  | .value accepted _ _ => some accepted
  | _ => none

namespace AttrScan

variable {s : AttrScan} {b : UInt8} {bytes : Bytes}

/-- The keys of the attributes so far. -/
def keys (s : AttrScan) : List Bytes := s.found.map (·.1)

/-- A scanner that checks the keys has found none twice, and the one it has accepted is new. -/
structure Distinct (s : AttrScan) : Prop where
  checked : s.distinct = true
  nodup : s.keys.Nodup
  fresh : ∀ key, s.mode.accepted? = some key → key ∉ s.keys

/-- A scanner that has no accepted key is as distinct as its keys. -/
theorem Distinct.withMode (h : s.Distinct) {mode : AttrMode} (hmode : mode.accepted? = none) :
    Distinct { s with mode } :=
  ⟨h.checked, h.nodup, fun key hkey => by rw [hmode] at hkey; cases hkey⟩

theorem Distinct.withKey (h : s.Distinct) (key : Bytes) :
    (s.withKey key (.afterEquals key)).Distinct := by
  rw [AttrScan.withKey]
  split
  · exact h.withMode rfl
  · rename_i hnew
    rw [h.checked, Bool.true_and] at hnew
    refine ⟨h.checked, h.nodup, fun other hother hmem => hnew ?_⟩
    cases hother
    obtain ⟨pair, hpair, hkey⟩ := List.mem_map.1 hmem
    exact List.any_eq_true.2 ⟨pair, hpair, beq_iff_eq.2 hkey⟩

/-- One more byte leaves the keys distinct. -/
theorem Distinct.step (h : s.Distinct) (b : UInt8) : (s.step b).Distinct := by
  rw [AttrScan.step]
  split
  · split
    · exact h
    · exact h.withMode rfl
  · split
    · exact h.withKey _
    · split
      · exact h.withMode rfl
      · exact h.withMode rfl
  · split
    · exact h.withKey _
    · split
      · exact h
      · exact h.withMode rfl
  · rename_i key hmode
    have hkey : s.mode.accepted? = some key := by rw [hmode]; rfl
    split
    · exact ⟨h.checked, h.nodup, fun other hother => h.fresh other (hkey.trans hother)⟩
    · split
      · exact h
      · exact h.withMode rfl
  · rename_i key quote run hmode
    have hkey : s.mode.accepted? = some key := by rw [hmode]; rfl
    split
    · exact ⟨h.checked, List.nodup_cons.2 ⟨h.fresh key hkey, h.nodup⟩, fun _ hother => by cases hother⟩
    · exact ⟨h.checked, h.nodup, fun other hother => h.fresh other (hkey.trans hother)⟩
  · exact h

theorem Distinct.run (h : s.Distinct) (bytes : Bytes) : (s.run bytes).Distinct := by
  induction bytes generalizing s with
  | nil => exact h
  | cons b bytes ih => exact ih (h.step b)

/-- The scanner that does not look for keys that repeat. -/
def unchecked (s : AttrScan) : AttrScan := { s with distinct := false }

/-- A scanner that has failed reads on without a change. -/
theorem run_failed {fault : AttributeFault} (h : s.mode = .failed fault) (bytes : Bytes) :
    s.run bytes = s := by
  induction bytes with
  | nil => rfl
  | cons b bytes ih =>
    have hstep : s.step b = s := by rw [AttrScan.step, h]
    rw [run_cons, hstep, ih]

theorem withKey_unchecked (s : AttrScan) (key : Bytes) (next : AttrMode) :
    (s.withKey key next).mode = .failed .repeatedKey ∨
      s.unchecked.withKey key next = (s.withKey key next).unchecked := by
  rw [withKey]
  split
  · exact .inl rfl
  · exact .inr rfl

/-- The check makes a difference for a byte only if it fails. -/
theorem step_unchecked (s : AttrScan) (b : UInt8) :
    (s.step b).mode = .failed .repeatedKey ∨ s.unchecked.step b = (s.step b).unchecked := by
  have hmode : s.unchecked.mode = s.mode := rfl
  rw [step, step, hmode]
  split
  · right
    split <;> rfl
  · split
    · exact withKey_unchecked s _ _
    · right
      split <;> rfl
  · split
    · exact withKey_unchecked s _ _
    · right
      split <;> rfl
  · right
    split
    · rfl
    · split <;> rfl
  · right
    split <;> rfl
  · exact .inr rfl

/-- Where no key repeats, the check changes nothing. -/
theorem run_unchecked (s : AttrScan) (bytes : Bytes) :
    (s.run bytes).mode = .failed .repeatedKey ∨ s.unchecked.run bytes = (s.run bytes).unchecked := by
  induction bytes generalizing s with
  | nil => exact .inr rfl
  | cons b bytes ih =>
    rcases s.step_unchecked b with hfailed | hstep
    · left
      rw [run_cons, run_failed hfailed, hfailed]
    · rw [run_cons, run_cons, hstep]
      exact ih (s.step b)

end AttrScan

/-- The attributes that a tag writes, undecoded. -/
def writtenAttributes (content : Bytes) : List (Bytes × Bytes) :=
  (scanAttributes false (tagRest content)).1

/-- A list of attributes without a fault has different keys, and would be read the same without the check. -/
theorem scanAttributes_of_sound {bytes : Bytes} {pairs : List (Bytes × Bytes)}
    (h : scanAttributes true bytes = (pairs, none)) :
    (pairs.map (·.1)).Nodup ∧ scanAttributes false bytes = (pairs, none) := by
  have hstart : AttrScan.Distinct ⟨true, .gap, []⟩ := ⟨rfl, List.nodup_nil, fun _ hkey => by cases hkey⟩
  have hpairs : ((⟨true, .gap, []⟩ : AttrScan).run bytes).found.reverse = pairs := congrArg Prod.fst h
  have hfault : ((⟨true, .gap, []⟩ : AttrScan).run bytes).finish.2 = none := congrArg Prod.snd h
  constructor
  · rw [← hpairs, List.map_reverse, List.nodup_reverse]
    exact (hstart.run bytes).nodup
  · rcases AttrScan.run_unchecked ⟨true, .gap, []⟩ bytes with hfailed | hrun
    · rw [AttrScan.finish, hfailed] at hfault
      cases hfault
    · rw [scanAttributes]
      show (AttrScan.run (AttrScan.unchecked ⟨true, .gap, []⟩) bytes).finish = _
      rw [hrun]
      exact h

/-! ### One tag -/

namespace Reader

variable {r r' : Reader} {content : Bytes} {name : String} {attributes : List Attribute}

theorem decode_eq_ok {bytes : Bytes} {s : String} :
    r.decode bytes = .ok s ↔ r.encoding.decode? bytes = some s := by
  rw [decode]
  cases r.encoding.decode? bytes with
  | none => simp
  | some t => simp

/-- An attribute of an element, and what the tag wrote for it. -/
structure Renders (r : Reader) (pair : Bytes × Bytes) (a : Attribute) : Prop where
  key : r.encoding.decode? pair.1 = some a.key
  value : ∃ raw, r.encoding.decode? pair.2 = some raw ∧ a.value = (unescape? raw).getD raw

theorem renders_of_readAttribute {key value : Bytes} {a : Attribute}
    (h : r.readAttribute key value = .ok a) : r.Renders (key, value) a := by
  obtain ⟨k, hkey, h⟩ := bind_eq_ok h
  obtain ⟨raw, hraw, h⟩ := bind_eq_ok h
  cases h
  exact ⟨decode_eq_ok.1 hkey, raw, decode_eq_ok.1 hraw, rfl⟩

theorem renders_of_mapM {pairs : List (Bytes × Bytes)}
    (h : pairs.mapM (fun p => r.readAttribute p.1 p.2) = .ok attributes) :
    List.Forall₂ r.Renders pairs attributes := by
  induction pairs generalizing attributes with
  | nil =>
    cases h
    exact .nil
  | cons pair pairs ih =>
    rw [List.mapM_cons] at h
    obtain ⟨a, ha, h⟩ := bind_eq_ok h
    obtain ⟨rest, hrest, h⟩ := bind_eq_ok h
    cases h
    exact .cons (renders_of_readAttribute ha) (ih hrest)

/-- A tag that is read has attributes without a fault, and each of them is one of the element. -/
theorem tag_eq_ok (h : r.tag content = .ok (name, attributes)) :
    r.encoding.decode? (tagName content) = some name ∧
      ((writtenAttributes content).map (·.1)).Nodup ∧
        List.Forall₂ r.Renders (writtenAttributes content) attributes := by
  obtain ⟨name', hname, h⟩ := bind_eq_ok h
  obtain ⟨attributes', hattributes, h⟩ := bind_eq_ok h
  split at h
  · cases h
  · rename_i hfault
    cases h
    obtain ⟨hnodup, hwritten⟩ := scanAttributes_of_sound (Prod.ext rfl hfault)
    rw [writtenAttributes, hwritten]
    exact ⟨decode_eq_ok.1 hname, hnodup, renders_of_mapM hattributes⟩

/-- What is in one of two related lists has its counterpart in the other. -/
theorem exists_of_forall₂ {α β : Type} {related : α → β → Prop} {xs : List α} {ys : List β}
    (h : List.Forall₂ related xs ys) {x : α} (hx : x ∈ xs) : ∃ y ∈ ys, related x y := by
  induction h with
  | nil => cases hx
  | cons hhead _ ih =>
    rcases List.mem_cons.1 hx with rfl | hx
    · exact ⟨_, List.mem_cons_self, hhead⟩
    · obtain ⟨y, hy, hrelated⟩ := ih hx
      exact ⟨y, List.mem_cons_of_mem _ hy, hrelated⟩

/-- The keys of a tag as they are read. -/
def readKeys (r : Reader) (content : Bytes) : List (Option String) :=
  (writtenAttributes content).map fun pair => r.encoding.decode? pair.1

theorem map_key_of_renders {pairs : List (Bytes × Bytes)} (h : List.Forall₂ r.Renders pairs attributes) :
    pairs.map (fun pair => r.encoding.decode? pair.1) = (attributes.map (·.key)).map some := by
  induction h with
  | nil => rfl
  | cons hpair _ ih => rw [List.map_cons, List.map_cons, List.map_cons, hpair.key, ih]

/-- Keys that differ are read as different texts in an encoding that tells them apart. -/
theorem nodup_readKeys (he : r.encoding.TellsApart) (h : List.Forall₂ r.Renders (writtenAttributes content)
    attributes) (hnodup : ((writtenAttributes content).map (·.1)).Nodup) : (r.readKeys content).Nodup := by
  refine List.Nodup.map_on (fun pair hpair other hother hsame => ?_) (List.Nodup.of_map _ hnodup)
  obtain ⟨a, -, ha⟩ := exists_of_forall₂ h hpair
  refine List.inj_on_of_nodup_map hnodup hpair hother ?_
  exact Encoding.decode?_injective he ha.key (hsame ▸ ha.key)

/-- An element that shows the attributes of its tag. Each is read, and the first with its key is found under
the key with its value; nothing is found under another name. The keys of the element differ exactly if no two
keys of the tag are read alike, and then every attribute is found. -/
structure Shows (r : Reader) (content : Bytes) (n : Node) : Prop where
  named : n.name? = r.encoding.decode? (tagName content)
  distinct : ∃ name attributes, n.content = .element name attributes ∧
    ((attributes.map (·.key)).Nodup ↔ (r.readKeys content).Nodup)
  apart : r.encoding.TellsApart → (r.readKeys content).Nodup
  first : ∀ before key value after, writtenAttributes content = before ++ (key, value) :: after →
    ∃ k raw, r.encoding.decode? key = some k ∧ r.encoding.decode? value = some raw ∧
      ((∀ pair ∈ before, r.encoding.decode? pair.1 ≠ some k) →
        n.attribute? k = some ((unescape? raw).getD raw))
  found : (r.readKeys content).Nodup → ∀ key value, (key, value) ∈ writtenAttributes content →
    ∃ k raw, r.encoding.decode? key = some k ∧ r.encoding.decode? value = some raw ∧
      n.attribute? k = some ((unescape? raw).getD raw)
  others : ∀ k, (∀ key value, (key, value) ∈ writtenAttributes content →
    r.encoding.decode? key ≠ some k) → n.attribute? k = none

/-- The first attribute with a key is found under it. -/
theorem find?_of_renders {before after : List (Bytes × Bytes)} {key value : Bytes}
    (h : List.Forall₂ r.Renders (before ++ (key, value) :: after) attributes) :
    ∃ a, r.Renders (key, value) a ∧ ((∀ pair ∈ before, r.encoding.decode? pair.1 ≠ some a.key) →
      attributes.find? (·.key == a.key) = some a) := by
  induction before generalizing attributes with
  | nil =>
    obtain ⟨a, rest, ha, -, rfl⟩ := List.forall₂_cons_left_iff.1 h
    exact ⟨a, ha, fun _ => by rw [List.find?_cons_of_pos (by simp)]⟩
  | cons pair before ih =>
    obtain ⟨other, rest, hother, hrest, rfl⟩ := List.forall₂_cons_left_iff.1 h
    obtain ⟨a, ha, hfind⟩ := ih hrest
    refine ⟨a, ha, fun hbefore => ?_⟩
    obtain ⟨hpair, hbefore⟩ := List.forall_mem_cons.1 hbefore
    have hne : other.key ≠ a.key := fun he => hpair (he ▸ hother.key)
    rw [List.find?_cons_of_neg (by simpa using hne), hfind hbefore]

/-- No two keys of a tag are read alike, so that each is the first with its text. -/
theorem key_ne_of_nodup {before after : List (Bytes × Bytes)} {key value : Bytes} {k : String}
    (hnodup : (r.readKeys content).Nodup)
    (hwritten : writtenAttributes content = before ++ (key, value) :: after)
    (hk : r.encoding.decode? key = some k) : ∀ pair ∈ before, r.encoding.decode? pair.1 ≠ some k := by
  intro pair hpair he
  rw [readKeys, hwritten, List.map_append, List.map_cons] at hnodup
  exact (List.nodup_append.1 hnodup).2.2 _ (List.mem_map_of_mem hpair) _ List.mem_cons_self (he.trans hk.symm)

/-- The element of a tag that is read shows the attributes of the tag. -/
theorem shows_of_tag {n : Node} (h : r.tag content = .ok (name, attributes))
    (hn : n.content = .element name attributes) : r.Shows content n := by
  obtain ⟨hname, hwritten, hrenders⟩ := tag_eq_ok h
  have hfirst : ∀ before key value after, writtenAttributes content = before ++ (key, value) :: after →
      ∃ k raw, r.encoding.decode? key = some k ∧ r.encoding.decode? value = some raw ∧
        ((∀ pair ∈ before, r.encoding.decode? pair.1 ≠ some k) →
          n.attribute? k = some ((unescape? raw).getD raw)) := by
    intro before key value after hsplit
    rw [hsplit] at hrenders
    obtain ⟨a, ha, hfind⟩ := find?_of_renders hrenders
    obtain ⟨raw, hraw, hvalue⟩ := ha.value
    refine ⟨a.key, raw, ha.key, hraw, fun hbefore => ?_⟩
    rw [Node.attribute?, hn, Content.attribute?, hfind hbefore, Option.map_some, hvalue]
  constructor
  case named => rw [Node.name?, hn, hname, Content.name?]
  case distinct =>
    refine ⟨name, attributes, hn, ?_⟩
    rw [readKeys, map_key_of_renders hrenders]
    exact (List.nodup_map_iff fun _ _ => Option.some.inj).symm
  case apart => exact fun he => nodup_readKeys he hrenders hwritten
  case first => exact hfirst
  case found =>
    intro hnodup key value hmem
    obtain ⟨before, after, hsplit⟩ := List.append_of_mem hmem
    obtain ⟨k, raw, hk, hraw, hvalue⟩ := hfirst before key value after hsplit
    exact ⟨k, raw, hk, hraw, hvalue (key_ne_of_nodup hnodup hsplit hk)⟩
  case others =>
    intro k hk
    rw [Node.attribute?, hn, Content.attribute?, Option.map_eq_none_iff, List.find?_eq_none]
    intro a ha hkey
    obtain ⟨pair, hpair, hread⟩ := exists_of_forall₂ hrenders.flip ha
    exact hk pair.1 pair.2 hpair (hread.key.trans (congrArg some (beq_iff_eq.1 hkey)))

end Reader

/-! ### Whole documents -/

section Readers

variable {bytes : Bytes} {done : List Token} {r : Reader}

/-- A token only adds nodes. -/
theorem Reader.Takes.nodes {r' : Reader} {token : Token} (h : r.Takes r' token) :
    ∃ more, r'.nodes = r.nodes ++ more := by
  cases h with
  | other _ hstays => exact ⟨[], by rw [hstays.nodes, List.append_nil]⟩
  | empty hmakes _ _ =>
    obtain ⟨texts, -, hnodes, -⟩ := hmakes.nodes
    exact ⟨_, by rw [hnodes, List.append_assoc]⟩
  | start hmakes _ _ =>
    obtain ⟨texts, -, hnodes, -⟩ := hmakes.nodes
    exact ⟨_, by rw [hnodes, List.append_assoc]⟩
  | close _ _ hnodes _ => exact ⟨_, hnodes⟩

/-- Every start tag among the tokens has made its element. -/
theorem made_of_startTag (hr : ReadsTo bytes done r) {j : Nat} {content : Bytes} {selfClosing : Bool}
    (htag : done[j]? = some (.startTag content selfClosing)) :
    ∃ i, Made bytes done r.nodes j (tagName content) selfClosing i := by
  induction done using List.reverseRecOn generalizing r with
  | nil => cases htag
  | append_singleton done token ih =>
    obtain ⟨r₁, hr₁, hstep⟩ := hr.of_concat
    have htakes := Reader.takes hstep
    rcases Nat.lt_or_ge j done.length with hj | hj
    · rw [List.getElem?_append_left hj] at htag
      obtain ⟨i, hmade⟩ := ih hr₁ htag
      obtain ⟨more, hnodes⟩ := htakes.nodes
      exact ⟨i, hnodes ▸ hmade.mono more⟩
    · rw [List.getElem?_append_right hj, List.getElem?_singleton] at htag
      split at htag
      · have hj : j = done.length := by omega
        cases htag
        subst hj
        cases htakes with
        | other hnot _ => cases hnot
        | empty hmakes _ _ => exact ⟨_, .latest hr₁ hstep hmakes⟩
        | start hmakes _ _ => exact ⟨_, .latest hr₁ hstep hmakes⟩
      · cases htag

/-- A start tag among the tokens of a text, the reader that came to it, and the node that it made. -/
structure TagOf (bytes : Bytes) (tokens : List Token) (d : Document) (j : Nat) (content : Bytes)
    (r : Reader) (i : Nat) : Prop where
  reader : ReadsTo bytes (tokens.take j) r
  made : ∃ selfClosing, tokens[j]? = some (.startTag content selfClosing) ∧
    Made bytes tokens d.entries.toList j (tagName content) selfClosing i

theorem Made.tagOf {tokens : List Token} {d : Document} {j i : Nat} {name : Bytes} {selfClosing : Bool}
    (h : Made bytes tokens d.entries.toList j name selfClosing i) :
    ∃ content r, TagOf bytes tokens d j content r i := by
  have hmade := h
  obtain ⟨content, r, r', e, htag, rfl, hr, -⟩ := h
  exact ⟨content, r, hr, selfClosing, htag, hmade⟩

/-- The element of a tag shows its attributes, as the reader at the tag decodes them. -/
theorem TagOf.shows {tokens : List Token} {d : Document} {j i : Nat} {content : Bytes}
    (h : TagOf bytes tokens d j content r i) (load : UInt64) : r.Shows content ⟨load, d, i⟩ := by
  obtain ⟨selfClosing, htag, content', r', r₁, e, htag', -, hr', -, hmakes, hnode⟩ := h.made
  rw [htag] at htag'
  cases htag'
  cases h.reader.unique hr'
  obtain ⟨name, attributes, hread, rfl⟩ := hmakes.element
  have hcontent : (Node.content ⟨load, d, i⟩) = .element name attributes := by
    rw [Node.content, Document.entry, Array.getD_eq_getD_getElem?, ← Array.getElem?_toList, hnode]
    rfl
  exact Reader.shows_of_tag hread hcontent

end Readers

/-- A document whose attributes are shown: every element comes from a start tag, every start tag has made an
element, and the element shows the attributes of the tag. -/
structure ShowsAttributes (bytes : Bytes) (tokens : List Token) (d : Document) : Prop where
  elements : ∀ i < d.entries.size, (d.entry i).content.kind = .element →
    ∃ j content r, TagOf bytes tokens d j content r i
  tags : ∀ (j : Nat) content selfClosing, tokens[j]? = some (.startTag content selfClosing) →
    ∃ r i, TagOf bytes tokens d j content r i
  shown : ∀ j content r i, TagOf bytes tokens d j content r i → ∀ load, r.Shows content ⟨load, d, i⟩

/-- A document that is read shows its attributes. -/
theorem showsAttributes_of_parse {bytes : Bytes} {d : Document} (h : parseDocument bytes = .ok d) :
    ∃ source tokens, sourceOf bytes = .ok source ∧ scan source.bytes = (tokens, none) ∧
      ShowsAttributes bytes tokens d := by
  obtain ⟨source, tokens, r, hsource, hscan, hr, hfinish⟩ := readsTo_of_parse h
  obtain ⟨-, hentries⟩ := Builder.entries_of_finish hfinish
  refine ⟨source, tokens, hsource, hscan, ?_⟩
  constructor
  case elements =>
    intro i hi helement
    obtain ⟨-, hclosed⟩ := closed_of_finish hr hfinish
    obtain ⟨j, name, selfClosing, hmade, -⟩ := hclosed i hi helement
    exact ⟨j, hmade.tagOf⟩
  case tags =>
    intro j content selfClosing htag
    obtain ⟨i, hmade⟩ := made_of_startTag hr htag
    rw [Reader.nodes, ← hentries] at hmade
    obtain ⟨content', r', htagOf⟩ := hmade.tagOf
    obtain ⟨selfClosing', htag', -⟩ := htagOf.made
    rw [htag] at htag'
    cases htag'
    exact ⟨r', i, htagOf⟩
  case shown => exact fun j content r i htagOf load => htagOf.shows load

/-- Keys beyond ASCII, before and after a declaration in the middle of a document. -/
theorem showsAttributes_of_parse_koi8 :
    ∃ bytes d, bytes = utf8 "<r а=\"1\" b='2'><?xml encoding='koi8-r'?><e " ++
        [0xC1, 0x3D, 0x27, 0xC2, 0x27, 0xC2, 0x3D, 0x27, 0x27] ++ utf8 "/></r>" ∧
      parseDocument bytes = .ok d ∧ (d.entry 1).content.attribute? "а" = some "1" ∧
      (d.entry 2).content.attribute? "а" = some "б" ∧
      (d.entry 2).content.attribute? "б" = some "" ∧
      (d.entry 2).content.attribute? "b" = none ∧
      ∃ source tokens, sourceOf bytes = .ok source ∧ scan source.bytes = (tokens, none) ∧
        ShowsAttributes bytes tokens d :=
  have h : parseDocument (utf8 "<r а=\"1\" b='2'><?xml encoding='koi8-r'?><e " ++
      [0xC1, 0x3D, 0x27, 0xC2, 0x27, 0xC2, 0x3D, 0x27, 0x27] ++ utf8 "/></r>") =
        .ok ⟨#[⟨0, .document⟩, ⟨1, .element "r" [⟨"а", "1"⟩, ⟨"b", "2"⟩]⟩,
          ⟨2, .element "e" [⟨"а", "б"⟩, ⟨"б", ""⟩]⟩]⟩ := by
    decide +kernel
  ⟨_, _, rfl, h, by decide, by decide, by decide, by decide, showsAttributes_of_parse h⟩

/-- Two keys that Shift_JIS reads alike hide the second attribute. -/
theorem hidden_attribute_shiftJis :
    ∃ bytes d, bytes = utf8 "<?xml version=\"1.0\" encoding=\"Shift_JIS\"?><r " ++ [0x81, 0xE6] ++
        utf8 "=\"1\" " ++ [0x87, 0x9A] ++ utf8 "=\"2\"/>" ∧
      parseDocument bytes = .ok d ∧
      (d.entry 1).content = .element "r" [⟨"∵", "1"⟩, ⟨"∵", "2"⟩] ∧
      (d.entry 1).content.attribute? "∵" = some "1" ∧
      ∀ k, (d.entry 1).content.attribute? k ≠ some "2" :=
  have h : parseDocument (utf8 "<?xml version=\"1.0\" encoding=\"Shift_JIS\"?><r " ++ [0x81, 0xE6] ++
      utf8 "=\"1\" " ++ [0x87, 0x9A] ++ utf8 "=\"2\"/>") =
        .ok ⟨#[⟨0, .document⟩, ⟨1, .element "r" [⟨"∵", "1"⟩, ⟨"∵", "2"⟩]⟩]⟩ := by
    decide +kernel
  ⟨_, _, rfl, h, rfl, rfl, fun k hk => by
    rw [show (Document.entry ⟨#[⟨0, .document⟩, ⟨1, .element "r" [⟨"∵", "1"⟩, ⟨"∵", "2"⟩]⟩]⟩ 1).content =
      .element "r" [⟨"∵", "1"⟩, ⟨"∵", "2"⟩] from rfl, Content.attribute?] at hk
    by_cases hkey : "∵" = k
    · subst hkey
      exact absurd hk (by decide)
    · simp [hkey] at hk⟩

end Builtins
