import Builtins.Proofs.Xml.Tags
import Mathlib.Data.List.Forall2
import Mathlib.Data.List.Induction

/-!
# Tags that match

The names of end tags are compared by the reader; the builder closes whatever element is innermost.
Both agree all along, whatever the bytes are: the open names and the open elements come from the same
start tags.

* `openTags` — the start tags that are open after some tokens;
* `ReadsTo` — a reader that has taken some of the tokens of a text;
* `Made`, `Ended` — the element that a tag made, and the end tag that ended it;
* `Lockstep` — open names and open elements that go together, and `lockstep_of_readsTo`;
* `nestsTags` — the open elements are those of the open names, each end tag closes the element of the
  same name, and in a document that is read every element is closed.
-/

namespace Builtins

/-! ### Open start tags -/

/-- Open start tags, by their places among the tokens and their names, after one more token. -/
def openTagsAfter (tags : List (Nat × Bytes)) : Token × Nat → List (Nat × Bytes)
  | (.startTag content false, j) => (j, tagName content) :: tags
  | (.endTag _, _) => tags.tail
  | _ => tags

/-- The start tags that are open after some tokens, by their places and names, the innermost first. -/
def openTags (tokens : List Token) : List (Nat × Bytes) := tokens.zipIdx.foldl openTagsAfter []

theorem openTags_concat (done : List Token) (token : Token) :
    openTags (done ++ [token]) = openTagsAfter (openTags done) (token, done.length) := by
  rw [openTags, List.zipIdx_append, List.foldl_append, Nat.zero_add]
  rfl

theorem openTagsAfter_of_isTag {token : Token} (h : token.isTag = false) (tags : List (Nat × Bytes))
    (j : Nat) : openTagsAfter tags (token, j) = tags := by
  cases token with
  | startTag content selfClosing => cases h
  | endTag content => cases h
  | _ => rfl

/-! ### Readers at work -/

/-- The reader that has taken some of the tokens of a text. -/
def ReadsTo (bytes : Bytes) (done : List Token) (r : Reader) : Prop :=
  ∃ source, sourceOf bytes = .ok source ∧ done <+: (scan source.bytes).1 ∧
    done.foldlM Reader.step (Reader.start source) = .ok r

section Readers

variable {bytes : Bytes} {done : List Token} {r r' : Reader} {token : Token}

theorem ReadsTo.of_nil (h : ReadsTo bytes [] r) : ∃ source, r = Reader.start source := by
  obtain ⟨source, -, -, hfold⟩ := h
  cases hfold
  exact ⟨source, rfl⟩

theorem ReadsTo.unique (h : ReadsTo bytes done r) (h' : ReadsTo bytes done r') : r = r' := by
  obtain ⟨source, hsource, -, hfold⟩ := h
  obtain ⟨source', hsource', -, hfold'⟩ := h'
  rw [hsource] at hsource'
  cases hsource'
  rw [hfold] at hfold'
  exact Except.ok.inj hfold'

theorem ReadsTo.of_concat (h : ReadsTo bytes (done ++ [token]) r') :
    ∃ r, ReadsTo bytes done r ∧ r.step token = .ok r' := by
  obtain ⟨source, hsource, hscan, hfold⟩ := h
  rw [List.foldlM_append] at hfold
  obtain ⟨r, hr, hstep⟩ := bind_eq_ok hfold
  rw [List.foldlM_cons] at hstep
  obtain ⟨r₁, hstep, hlast⟩ := bind_eq_ok hstep
  cases hlast
  exact ⟨r, ⟨source, hsource, (List.prefix_append _ _).trans hscan, hr⟩, hstep⟩

/-! ### Elements and their tags -/

/-- A node that the start tag at a place among the tokens made when the reader came to it, and that is
still there. -/
def Made (bytes : Bytes) (done : List Token) (nodes : List Entry) (j : Nat) (name : Bytes)
    (selfClosing : Bool) (i : Nat) : Prop :=
  ∃ content r r' e, done[j]? = some (.startTag content selfClosing) ∧ tagName content = name ∧
    ReadsTo bytes (done.take j) r ∧ r.step (.startTag content selfClosing) = .ok r' ∧
      r.Makes r' content i e ∧ nodes[i]? = some e

/-- An end tag that came when a start tag of the same name was the innermost open one, and a node the
innermost open element. -/
def Ended (bytes : Bytes) (done : List Token) (j : Nat) (name : Bytes) (i : Nat) : Prop :=
  ∃ k content r, done[k]? = some (.endTag content) ∧ endTagName content = name ∧
    (openTags (done.take k)).head? = some (j, name) ∧ ReadsTo bytes (done.take k) r ∧
      r.builder.path.head? = some i

variable {nodes : List Entry} {j i : Nat} {name : Bytes} {selfClosing : Bool}

theorem take_concat_of_getElem? {t : Token} (h : done[j]? = some t) :
    (done ++ [token])[j]? = some t ∧ (done ++ [token]).take j = done.take j := by
  obtain ⟨hlt, -⟩ := List.getElem?_eq_some_iff.1 h
  rw [List.getElem?_append_left hlt, List.take_append_of_le_length (Nat.le_of_lt hlt)]
  exact ⟨h, rfl⟩

/-- Nodes stay where they are when others come after them. -/
theorem Made.mono (h : Made bytes done nodes j name selfClosing i) (more : List Entry) :
    Made bytes (done ++ [token]) (nodes ++ more) j name selfClosing i := by
  obtain ⟨content, r, r', e, htag, hname, hr, hstep, hmakes, hnode⟩ := h
  obtain ⟨htag', htake⟩ := take_concat_of_getElem? htag
  refine ⟨content, r, r', e, htag', hname, by rwa [htake], hstep, hmakes, ?_⟩
  rw [List.getElem?_append_left (List.getElem?_eq_some_iff.1 hnode).1, hnode]

theorem Ended.mono (h : Ended bytes done j name i) : Ended bytes (done ++ [token]) j name i := by
  obtain ⟨k, content, r, htag, hname, hopen, hr, hpath⟩ := h
  obtain ⟨htag', htake⟩ := take_concat_of_getElem? htag
  exact ⟨k, content, r, htag', hname, by rwa [htake], by rwa [htake], hpath⟩

/-- A tag makes one node only. -/
theorem Made.unique {nodes' : List Entry} {name' : Bytes} {selfClosing' : Bool} {i' : Nat}
    (h : Made bytes done nodes j name selfClosing i)
    (h' : Made bytes done nodes' j name' selfClosing' i') : i = i' := by
  obtain ⟨content, r, r', e, htag, -, hr, hstep, hmakes, -⟩ := h
  obtain ⟨content', s, s', e', htag', -, hs, hstep', hmakes', -⟩ := h'
  rw [htag] at htag'
  cases htag'
  cases hr.unique hs
  rw [hstep] at hstep'
  cases hstep'
  exact Nat.succ.inj (hmakes.length_eq.symm.trans hmakes'.length_eq)

/-- The latest token is a tag that made a node. -/
theorem Made.latest {content : Bytes} {e : Entry} (hr : ReadsTo bytes done r)
    (hstep : r.step (.startTag content selfClosing) = .ok r') (hmakes : r.Makes r' content i e) :
    Made bytes (done ++ [.startTag content selfClosing]) r'.nodes done.length (tagName content)
      selfClosing i :=
  ⟨content, r, r', e, by simp, rfl, by simpa using hr, hstep, hmakes, hmakes.getElem?⟩

/-! ### Names and elements in lockstep -/

/-- Open names and open elements that go together: they are those of the open start tags. -/
structure Lockstep (bytes : Bytes) (done : List Token) (r : Reader) : Prop where
  names : r.names = (openTags done).map (·.2)
  path : List.Forall₂ (fun tag i => Made bytes done r.nodes tag.1 tag.2 false i) (openTags done)
    r.builder.path

/-- What a token does to the open names it does to the open elements. -/
theorem Lockstep.step (h : Lockstep bytes done r) (hr : ReadsTo bytes done r)
    (hstep : r.step token = .ok r') : Lockstep bytes (done ++ [token]) r' := by
  have hkept : ∀ more, List.Forall₂
      (fun tag i => Made bytes (done ++ [token]) (r.nodes ++ more) tag.1 tag.2 false i)
      (openTags done) r.builder.path := fun more => h.path.imp fun tag i hmade => hmade.mono more
  cases Reader.takes hstep with
  | other htoken hstays =>
    have hopen := openTags_concat done token
    rw [openTagsAfter_of_isTag htoken] at hopen
    constructor
    · rw [hopen, hstays.names, h.names]
    · rw [hopen, hstays.path, hstays.nodes, ← List.append_nil r.nodes]
      exact hkept []
  | empty hmakes hnames hpath =>
    obtain ⟨texts, -, hnodes, -⟩ := hmakes.nodes
    constructor
    · rw [openTags_concat, hnames, h.names]
      rfl
    · rw [openTags_concat, hpath, hnodes, List.append_assoc]
      exact hkept _
  | start hmakes hnames hpath =>
    obtain ⟨texts, -, hnodes, -⟩ := hmakes.nodes
    constructor
    · rw [openTags_concat, hnames, h.names]
      rfl
    · have hlatest := Made.latest hr hstep hmakes
      rw [openTags_concat, hpath]
      refine .cons hlatest ?_
      rw [hnodes, List.append_assoc]
      exact hkept _
  | @close _ _ texts hnames hpath hnodes _ =>
    have htail := hkept texts
    rw [← hnodes, hpath] at htail
    constructor
    · rw [openTags_concat]
      show r'.names = (openTags done).tail.map (·.2)
      rw [List.map_tail, ← h.names, hnames]
      rfl
    · rw [openTags_concat]
      show List.Forall₂ _ (openTags done).tail _
      cases hopen : openTags done with
      | nil =>
        rw [hopen] at htail
        cases htail
      | cons tag tags =>
        rw [hopen] at htail
        cases htail with
        | cons _ hrest => exact hrest

/-- The reader of a text is in lockstep with its builder after every token. -/
theorem lockstep_of_readsTo (h : ReadsTo bytes done r) : Lockstep bytes done r := by
  induction done using List.reverseRecOn generalizing r with
  | nil =>
    obtain ⟨source, rfl⟩ := h.of_nil
    exact ⟨rfl, .nil⟩
  | append_singleton done token ih =>
    obtain ⟨r₁, hr₁, hstep⟩ := h.of_concat
    exact (ih hr₁).step hr₁ hstep

/-- Names and elements in lockstep are equally many. -/
theorem Lockstep.length_eq (h : Lockstep bytes done r) :
    r.names.length = r.builder.path.length := by
  rw [h.names, List.length_map, h.path.length_eq]

/-- No prefix of the tokens of a text brings the builder to an end without a start. -/
theorem avoids_foldlM {source : Source} (hsource : sourceOf bytes = .ok source)
    (hscan : done <+: (scan source.bytes).1) :
    Avoids (done.foldlM Reader.step (Reader.start source)) := by
  induction done using List.reverseRecOn with
  | nil => exact .ok _
  | append_singleton done token ih =>
    have hbefore := (List.prefix_append done [token]).trans hscan
    rw [List.foldlM_append]
    refine (ih hbefore).bind fun r hr => ?_
    have hlock := lockstep_of_readsTo ⟨source, hsource, hbefore, hr⟩
    rw [List.foldlM_cons]
    refine Avoids.bind (Reader.avoids_step fun hnames hpath => hnames ?_) fun _ _ => .ok _
    have hlength := hlock.length_eq
    rw [hpath] at hlength
    exact List.length_eq_zero_iff.1 hlength

/-- An end tag that is taken has the name of the innermost open start tag. -/
theorem Lockstep.head?_of_endTag (h : Lockstep bytes done r) {content : Bytes} {names : List Bytes}
    (hnames : r.names = endTagName content :: names) :
    ∃ j, (openTags done).head? = some (j, endTagName content) := by
  have hopen := h.names
  rw [hnames] at hopen
  cases htags : openTags done with
  | nil =>
    rw [htags] at hopen
    cases hopen
  | cons tag tags =>
    rw [htags] at hopen
    exact ⟨tag.1, congrArg some (Prod.ext rfl (List.cons.inj hopen).1.symm)⟩

/-- The end tag that is taken next closes the element of the innermost open start tag. -/
theorem Lockstep.closing (h : Lockstep bytes done r) {content : Bytes}
    (hstep : r.step (.endTag content) = .ok r') :
    ∃ j i, (openTags done).head? = some (j, endTagName content) ∧
      Made bytes done r.nodes j (endTagName content) false i ∧
        r.names = endTagName content :: r'.names ∧ r.builder.path = i :: r'.builder.path := by
  cases Reader.takes hstep with
  | other htoken _ => cases htoken
  | @close _ i _ hnames hpath _ _ =>
    obtain ⟨j, hhead⟩ := h.head?_of_endTag hnames
    have hpaired := h.path
    rw [← List.cons_head?_tail hhead, hpath] at hpaired
    cases hpaired with
    | cons hmade _ => exact ⟨j, i, hhead, hmade, hnames, hpath⟩

/-! ### Elements that are closed -/

/-- A tag that is open stays so until it is ended together with its element. -/
theorem Lockstep.open_or_ended (h : Lockstep bytes done r) (hr : ReadsTo bytes done r)
    (hstep : r.step token = .ok r') (hmade : Made bytes done nodes j name selfClosing i)
    (hopen : (j, name) ∈ openTags done) :
    (j, name) ∈ openTags (done ++ [token]) ∨ Ended bytes (done ++ [token]) j name i := by
  rw [openTags_concat]
  cases Reader.takes hstep with
  | other htoken _ =>
    rw [openTagsAfter_of_isTag htoken]
    exact .inl hopen
  | empty => exact .inl hopen
  | start => exact .inl (List.mem_cons_of_mem _ hopen)
  | @close content =>
    obtain ⟨j', i', hhead, hmade', -, hpath⟩ := h.closing hstep
    rw [← List.cons_head?_tail hhead] at hopen
    rcases List.mem_cons.1 hopen with heq | htail
    · cases heq
      cases hmade.unique hmade'
      exact .inr ⟨done.length, content, r, by simp, rfl, by simpa using hhead, by simpa using hr,
        by rw [hpath]; rfl⟩
    · exact .inl htail

/-- Every element was made by a tag, and the tag closes itself, is open, or has been ended. -/
def Accounted (bytes : Bytes) (done : List Token) (r : Reader) : Prop :=
  ∀ i e, r.nodes[i]? = some e → e.content.kind = .element →
    ∃ j name selfClosing, Made bytes done r.nodes j name selfClosing i ∧
      (selfClosing = true ∨ (j, name) ∈ openTags done ∨ Ended bytes done j name i)

/-- Elements that are accounted for stay so. -/
theorem Accounted.mono (h : Accounted bytes done r) (hr : ReadsTo bytes done r)
    (hstep : r.step token = .ok r') {more : List Entry} (hnodes : r'.nodes = r.nodes ++ more) {e : Entry}
    (hnode : r.nodes[i]? = some e) (he : e.content.kind = .element) :
    ∃ j name selfClosing, Made bytes (done ++ [token]) r'.nodes j name selfClosing i ∧
      (selfClosing = true ∨ (j, name) ∈ openTags (done ++ [token]) ∨
        Ended bytes (done ++ [token]) j name i) := by
  obtain ⟨j, name, selfClosing, hmade, hstatus⟩ := h i e hnode he
  refine ⟨j, name, selfClosing, hnodes ▸ hmade.mono more, ?_⟩
  rcases hstatus with hself | hopen | hended
  · exact .inl hself
  · exact .inr ((lockstep_of_readsTo hr).open_or_ended hr hstep hmade hopen)
  · exact .inr (.inr hended.mono)

theorem Accounted.step (h : Accounted bytes done r) (hr : ReadsTo bytes done r)
    (hstep : r.step token = .ok r') : Accounted bytes (done ++ [token]) r' := by
  intro i e hnode he
  cases Reader.takes hstep with
  | other _ hstays =>
    have hnodes : r'.nodes = r.nodes ++ [] := by rw [hstays.nodes, List.append_nil]
    exact h.mono hr hstep hnodes (hstays.nodes ▸ hnode) he
  | empty hmakes _ _ =>
    rcases hmakes.old_or_new hnode he with hold | rfl
    · obtain ⟨texts, -, hnodes, -⟩ := hmakes.nodes
      rw [List.append_assoc] at hnodes
      exact h.mono hr hstep hnodes hold he
    · exact ⟨_, _, _, .latest hr hstep hmakes, .inl rfl⟩
  | start hmakes _ _ =>
    rcases hmakes.old_or_new hnode he with hold | rfl
    · obtain ⟨texts, -, hnodes, -⟩ := hmakes.nodes
      rw [List.append_assoc] at hnodes
      exact h.mono hr hstep hnodes hold he
    · refine ⟨_, _, _, .latest hr hstep hmakes, .inr (.inl ?_)⟩
      rw [openTags_concat]
      exact List.mem_cons_self
  | close _ _ hnodes htexts =>
    exact h.mono hr hstep hnodes (Reader.old_of_texts htexts (hnodes ▸ hnode) he) he

theorem accounted_of_readsTo (h : ReadsTo bytes done r) : Accounted bytes done r := by
  induction done using List.reverseRecOn generalizing r with
  | nil =>
    obtain ⟨source, rfl⟩ := h.of_nil
    intro i e hnode he
    cases List.mem_singleton.1 (List.mem_of_getElem? hnode)
    cases he
  | append_singleton done token ih =>
    obtain ⟨r₁, hr₁, hstep⟩ := h.of_concat
    exact (ih hr₁).step hr₁ hstep

end Readers

/-! ### Whole texts -/

/-- What ends well has no open element, and adds no node. -/
theorem Builder.entries_of_finish {b : Builder} {d : Document} (h : b.finish = .ok d) :
    b.path = [] ∧ d.entries = b.entries := by
  obtain ⟨b₁, hflush, h⟩ := bind_eq_ok h
  split at h
  · cases h
  · rename_i hpath
    rw [path_of_flush hflush] at hpath
    rw [flush_outside hpath] at hflush
    split at hflush
    · cases hflush
      split at h
      · cases h
        exact ⟨hpath, Array.append_empty⟩
      · cases h
    · cases hflush

/-- When a document ends well, no tag is open and every element is closed. -/
theorem closed_of_finish {bytes : Bytes} {tokens : List Token} {r : Reader} {d : Document}
    (hr : ReadsTo bytes tokens r) (h : r.builder.finish = .ok d) :
    openTags tokens = [] ∧ ∀ i < d.entries.size, (d.entry i).content.kind = .element →
      ∃ j name selfClosing, Made bytes tokens d.entries.toList j name selfClosing i ∧
        (selfClosing = true ∨ Ended bytes tokens j name i) := by
  obtain ⟨hpath, hentries⟩ := Builder.entries_of_finish h
  have hclosed : openTags tokens = [] := by
    have hlength := (lockstep_of_readsTo hr).path.length_eq
    rw [hpath, List.length_nil] at hlength
    exact List.length_eq_zero_iff.1 hlength
  refine ⟨hclosed, fun i hi he => ?_⟩
  have hnode : r.nodes[i]? = some (d.entry i) := by
    rw [Reader.nodes, ← hentries, Array.getElem?_toList, Document.entry,
      Array.getD_eq_getD_getElem?, Array.getElem?_eq_getElem hi]
    rfl
  obtain ⟨j, name, selfClosing, hmade, hstatus⟩ := accounted_of_readsTo hr i _ hnode he
  rw [hclosed] at hstatus
  refine ⟨j, name, selfClosing, by rwa [hentries], ?_⟩
  rcases hstatus with hself | hopen | hended
  · exact .inl hself
  · cases hopen
  · exact .inr hended

/-- A document that is read comes from a reader that has taken all tokens. -/
theorem readsTo_of_parse {bytes : Bytes} {d : Document} (h : parseDocument bytes = .ok d) :
    ∃ source tokens r, sourceOf bytes = .ok source ∧ scan source.bytes = (tokens, none) ∧
      ReadsTo bytes tokens r ∧ r.builder.finish = .ok d := by
  obtain ⟨source, hsource, h⟩ := bind_eq_ok h
  obtain ⟨r, hfold, h⟩ := bind_eq_ok h
  split at h
  · cases h
  · rename_i hfault
    exact ⟨source, _, r, hsource, Prod.ext rfl hfault, ⟨source, hsource, List.prefix_refl _, hfold⟩, h⟩

theorem avoids_sourceOf (bytes : Bytes) : Avoids (sourceOf bytes) := by
  rw [sourceOf]
  split
  · exact .ok _
  · split
    · exact .ok _
    · exact .error XmlFault.noConfusion

theorem avoids_parseDocument (bytes : Bytes) : Avoids (parseDocument bytes) := by
  refine (avoids_sourceOf bytes).bind fun source hsource => ?_
  refine Avoids.bind (avoids_foldlM hsource (List.prefix_refl _)) fun r _ => ?_
  split
  · exact .error XmlFault.noConfusion
  · exact r.builder.avoids_finish

/-- Tags that match in a text, whatever its bytes are. -/
structure NestsTags (bytes : Bytes) : Prop where
  /-- After every token the open elements are as many as the open names. -/
  sameLength : ∀ done r, ReadsTo bytes done r → r.names.length = r.builder.path.length
  /-- Position by position, an open element was made by the start tag whose name is open. -/
  lockstep : ∀ done r, ReadsTo bytes done r → Lockstep bytes done r
  /-- An end tag closes the element of the innermost open start tag, which has the same name. -/
  closing : ∀ done content r', ReadsTo bytes (done ++ [.endTag content]) r' →
    ∃ r j i, ReadsTo bytes done r ∧ (openTags done).head? = some (j, endTagName content) ∧
      Made bytes done r.nodes j (endTagName content) false i ∧
        r.names = endTagName content :: r'.names ∧ r.builder.path = i :: r'.builder.path
  /-- In a document that is read, every element has a tag that closes itself or an end tag. -/
  closed : ∀ d, parseDocument bytes = .ok d → ∃ source tokens r, sourceOf bytes = .ok source ∧
    scan source.bytes = (tokens, none) ∧ ReadsTo bytes tokens r ∧ openTags tokens = [] ∧
      ∀ i < d.entries.size, (d.entry i).content.kind = .element →
        ∃ j name selfClosing, Made bytes tokens d.entries.toList j name selfClosing i ∧
          (selfClosing = true ∨ Ended bytes tokens j name i)
  /-- The builder never meets an end without a start. -/
  opened : parseDocument bytes ≠ .error .unopenedEnd

/-- Tags match in every text. -/
theorem nestsTags (bytes : Bytes) : NestsTags bytes := by
  constructor
  case sameLength => exact fun done r hr => (lockstep_of_readsTo hr).length_eq
  case lockstep => exact fun done r hr => lockstep_of_readsTo hr
  case closing =>
    intro done content r' hr'
    obtain ⟨r, hr, hstep⟩ := hr'.of_concat
    obtain ⟨j, i, hhead, hmade, hnames, hpath⟩ := (lockstep_of_readsTo hr).closing hstep
    exact ⟨r, j, i, hr, hhead, hmade, hnames, hpath⟩
  case closed =>
    intro d h
    obtain ⟨source, tokens, r, hsource, hscan, hr, hfinish⟩ := readsTo_of_parse h
    obtain ⟨hclosed, helements⟩ := closed_of_finish hr hfinish
    exact ⟨source, tokens, r, hsource, hscan, hr, hclosed, helements⟩
  case opened => exact avoids_parseDocument bytes

end Builtins
