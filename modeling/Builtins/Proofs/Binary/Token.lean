import Builtins.Binary.Options
import Builtins.Proofs.Text.Blank
import Builtins.Proofs.Text.Lowercase
import Mathlib.Data.List.Forall2

/-!
# The grammar of encoding tokens

A token is lower-cased as a whole before it is compared with the names of the forms. What it says can be
told from its own letters all the same.

* `BinaryForm.Opens` — a text starts with the name of a form, in small or capital letters;
* `BinaryForm.Opens.unique` — which form that is, and what follows its name, is settled;
* `EncodeOptions.Written` — the form and the flags that a text without outer white space writes;
* `EncodeOptions.parse_eq_ok_iff` — a token is read exactly as what it writes;
* `Alike`, `EncodeOptions.written_congr` — neither the case of an ASCII letter nor which character beyond
  ASCII stands in a place makes a difference;
* `EncodeOptions.ReadsToken`, `EncodeOptions.readsToken` — the whole grammar, for every token.
-/

namespace Builtins

namespace BinaryForm

/-- A text starts with the name of a form up to the case of ASCII letters, and goes on with `rest`. -/
def Opens (form : BinaryForm) (cs rest : List Char) : Prop :=
  ∃ start, cs = start ++ rest ∧ start.map Char.toLower = form.token.toList

theorem mem_all (form : BinaryForm) : form ∈ all := by
  cases form with
  | base64 => decide
  | literals form => cases form <;> decide

theorem plain_token (form : BinaryForm) : Plain form.token.toList := by
  cases form with
  | base64 => decide
  | literals form => cases form <;> decide

/-- No name starts with another one. -/
theorem eq_of_token_begins {form form' : BinaryForm}
    (h : form.token.toList <+: form'.token.toList) : form = form' := by
  have hall : ∀ form ∈ all, ∀ form' ∈ all,
      form.token.toList.isPrefixOf form'.token.toList = true → form = form' := by decide
  exact hall form (mem_all form) form' (mem_all form') (List.isPrefixOf_iff_prefix.2 h)

/-- A text starts with one name at most. -/
theorem eq_of_token_append {form form' : BinaryForm} {rest rest' : List Char}
    (h : form.token.toList ++ rest = form'.token.toList ++ rest') : form = form' := by
  have hleft : form.token.toList <+: form.token.toList ++ rest := List.prefix_append _ rest
  have hright : form'.token.toList <+: form.token.toList ++ rest := ⟨rest', h.symm⟩
  rcases List.prefix_or_prefix_of_prefix hleft hright with hprefix | hprefix
  · exact eq_of_token_begins hprefix
  · exact (eq_of_token_begins hprefix).symm

namespace Opens

variable {form form' : BinaryForm} {cs rest rest' : List Char}

theorem map_toLower (h : form.Opens cs rest) :
    cs.map Char.toLower = form.token.toList ++ rest.map Char.toLower := by
  obtain ⟨start, rfl, hstart⟩ := h
  rw [List.map_append, hstart]

/-- Which form a text starts with, and what follows its name, is settled. -/
theorem unique (h : form.Opens cs rest) (h' : form'.Opens cs rest') : form = form' ∧ rest = rest' := by
  have hform : form = form' := eq_of_token_append (h.map_toLower.symm.trans h'.map_toLower)
  subst hform
  obtain ⟨start, rfl, hstart⟩ := h
  obtain ⟨start', he, hstart'⟩ := h'
  have hlength : start.length = start'.length := by
    rw [← List.length_map Char.toLower, hstart, ← hstart', List.length_map]
  exact ⟨rfl, (List.append_inj he hlength).2⟩

end Opens

end BinaryForm

/-! ### Texts that say the same -/

/-- Two characters that are the same letter of ASCII, small or capital, or both beyond ASCII. -/
def Alike (c d : Char) : Prop := c.toLower = d.toLower ∨ Wide c ∧ Wide d

namespace Alike

variable {c d : Char}

theorem symm (h : Alike c d) : Alike d c := by
  rcases h with he | ⟨hc, hd⟩
  · exact .inl he.symm
  · exact .inr ⟨hd, hc⟩

theorem forall₂_symm {cs ds : List Char} (h : List.Forall₂ Alike cs ds) : List.Forall₂ Alike ds cs :=
  List.Forall₂.flip (h.imp fun _ _ => symm)

/-- Characters that are alike are the same if one of them is in ASCII. -/
theorem toLower_eq (h : Alike c d) {x : Char} (hx : ¬ Wide x) (hc : c.toLower = x) : d.toLower = x := by
  rcases h with he | ⟨hwide, -⟩
  · rw [← he, hc]
  · exact absurd (hc ▸ wide_toLower.2 hwide) hx

theorem map_toLower {cs ds start : List Char} (h : List.Forall₂ Alike cs ds)
    (hstart : ∀ x ∈ start, ¬ Wide x) (hcs : cs.map Char.toLower = start) :
    ds.map Char.toLower = start := by
  subst hcs
  induction h with
  | nil => rfl
  | @cons c d cs ds hcd _ ih =>
    have hc : ¬ Wide c.toLower := hstart _ List.mem_cons_self
    rw [List.map_cons, List.map_cons, hcd.toLower_eq hc rfl,
      ih fun x hx => hstart x (List.mem_cons_of_mem _ hx)]

theorem exists_toLower {cs ds : List Char} (h : List.Forall₂ Alike cs ds) {x : Char} (hx : ¬ Wide x) :
    (∃ c ∈ cs, c.toLower = x) ↔ ∃ d ∈ ds, d.toLower = x := by
  induction h with
  | nil => rfl
  | @cons c d cs ds hcd _ ih =>
    have hhead : c.toLower = x ↔ d.toLower = x := ⟨hcd.toLower_eq hx, hcd.symm.toLower_eq hx⟩
    rw [List.exists_mem_cons_iff, List.exists_mem_cons_iff, ih, hhead]

end Alike

namespace EncodeOptions

/-- The options that a text without outer white space writes: it starts with the name of the form, and what
follows holds an `s` where the text is split and a `d` where the content is compressed. -/
def Written (cs : List Char) (options : EncodeOptions) : Prop :=
  ∃ rest, options.form.Opens cs rest ∧ (options.split = true ↔ 's' ∈ rest ∨ 'S' ∈ rest) ∧
    (options.compressed = true ↔ 'd' ∈ rest ∨ 'D' ∈ rest)

/-- A text holds a letter, small or capital. -/
theorem mem_or_mem_iff {cs : List Char} {small capital : Char}
    (hcapital : 65 ≤ capital.toNat ∧ capital.toNat ≤ 90) (hsmall : small.toNat = capital.toNat + 32) :
    small ∈ cs ∨ capital ∈ cs ↔ ∃ c ∈ cs, c.toLower = small := by
  simp only [toLower_eq_iff hcapital hsmall, and_or_left, exists_or, exists_eq_right]

/-- A flag is in the lower-cased rest exactly if it is in the rest, small or capital. -/
theorem flag_iff {before rest : List Char} {small capital : Char} (hplain : Plain [small])
    (hcapital : 65 ≤ capital.toNat ∧ capital.toNat ≤ 90) (hsmall : small.toNat = capital.toNat + 32) :
    (lowerFrom before rest).contains small = true ↔ small ∈ rest ∨ capital ∈ rest := by
  rw [List.contains_iff_mem, mem_lowerFrom_iff hplain, mem_or_mem_iff hcapital hsmall]

/-- The lower-cased text of a token starts with the name of a form exactly if the token does. -/
theorem dropStart?_lowercase {token : String} {form : BinaryForm} {flags : List Char} :
    dropStart? form.token.toList (lowercase (trimBlank token)).toList = some flags ↔
      ∃ start rest, trimBlankList token.toList = start ++ rest ∧
        start.map Char.toLower = form.token.toList ∧ lowerFrom (start.reverse ++ []) rest = flags := by
  rw [dropStart?_eq_some_iff, lowercase, trimBlank, String.toList_ofList, String.toList_ofList]
  exact lowerFrom_eq_append_iff form.plain_token

/-- The first form that fits is the only one, so the order of the forms has no say. -/
theorem parse_of_dropStart? {token : String} {form : BinaryForm} {flags : List Char}
    (h : dropStart? form.token.toList (lowercase (trimBlank token)).toList = some flags) :
    parse token = .ok ⟨form, flags.contains 's', flags.contains 'd'⟩ := by
  unfold parse
  dsimp only
  cases hfound : BinaryForm.all.findSome? fun form =>
      (dropStart? form.token.toList (lowercase (trimBlank token)).toList).map fun flags =>
        (form, flags) with
  | none =>
    have hnone := List.findSome?_eq_none_iff.1 hfound form form.mem_all
    rw [h] at hnone
    cases hnone
  | some found =>
    obtain ⟨other, -, hother⟩ := List.exists_of_findSome?_eq_some hfound
    obtain ⟨rest, hrest, rfl⟩ := Option.map_eq_some_iff.1 hother
    have he := (dropStart?_eq_some_iff.1 h).symm.trans (dropStart?_eq_some_iff.1 hrest)
    obtain rfl := BinaryForm.eq_of_token_append he
    obtain rfl := List.append_cancel_left he
    rfl

/-- A token is refused exactly if it starts with no name, and the fault quotes it as it was given. -/
theorem parse_of_forall {token : String}
    (h : ∀ form : BinaryForm,
      dropStart? form.token.toList (lowercase (trimBlank token)).toList = none) :
    parse token = .error (.unsupportedEncoding token) := by
  unfold parse
  dsimp only
  rw [List.findSome?_eq_none_iff.2 fun form _ => by rw [h form, Option.map_none]]

/-- A token is read exactly as what it writes. -/
theorem parse_eq_ok_iff {token : String} {options : EncodeOptions} :
    parse token = .ok options ↔ Written (trimBlankList token.toList) options := by
  constructor
  · intro h
    by_cases hfits : ∃ form : BinaryForm,
        dropStart? form.token.toList (lowercase (trimBlank token)).toList ≠ none
    · obtain ⟨form, hform⟩ := hfits
      obtain ⟨flags, hflags⟩ := Option.ne_none_iff_exists'.1 hform
      rw [parse_of_dropStart? hflags] at h
      obtain rfl := Except.ok.inj h
      obtain ⟨start, rest, hcs, hstart, rfl⟩ := dropStart?_lowercase.1 hflags
      exact ⟨rest, ⟨start, hcs, hstart⟩, flag_iff (by decide) (by decide) (by decide),
        flag_iff (by decide) (by decide) (by decide)⟩
    · rw [parse_of_forall fun form => by_contra fun hne => hfits ⟨form, hne⟩] at h
      cases h
  · rintro ⟨rest, ⟨start, hcs, hstart⟩, hsplit, hcompressed⟩
    rw [parse_of_dropStart? (dropStart?_lowercase.2 ⟨start, rest, hcs, hstart, rfl⟩)]
    obtain ⟨form, split, compressed⟩ := options
    congr 2
    · exact Bool.eq_iff_iff.2 ((flag_iff (by decide) (by decide) (by decide)).trans hsplit.symm)
    · exact Bool.eq_iff_iff.2 ((flag_iff (by decide) (by decide) (by decide)).trans hcompressed.symm)

/-- Texts that are alike letter by letter hold the same flags. -/
theorem mem_or_mem_congr {cs ds : List Char} (h : List.Forall₂ Alike cs ds) {small capital : Char}
    (hcapital : 65 ≤ capital.toNat ∧ capital.toNat ≤ 90) (hsmall : small.toNat = capital.toNat + 32) :
    small ∈ cs ∨ capital ∈ cs ↔ small ∈ ds ∨ capital ∈ ds := by
  rw [mem_or_mem_iff hcapital hsmall, mem_or_mem_iff hcapital hsmall]
  exact Alike.exists_toLower h (by rw [Wide]; omega)

/-- Texts that are alike letter by letter write the same. -/
theorem written_congr {cs ds : List Char} {options : EncodeOptions} (h : List.Forall₂ Alike cs ds)
    (hwritten : Written cs options) : Written ds options := by
  obtain ⟨rest, ⟨start, rfl, hstart⟩, hsplit, hcompressed⟩ := hwritten
  have hds : List.Forall₂ Alike ds (start ++ rest) := Alike.forall₂_symm h
  have hopen := Alike.forall₂_symm (List.forall₂_take_append ds start rest hds)
  have hrest := Alike.forall₂_symm (List.forall₂_drop_append ds start rest hds)
  refine ⟨ds.drop start.length, ⟨ds.take start.length, (List.take_append_drop _ ds).symm, ?_⟩, ?_, ?_⟩
  · exact Alike.map_toLower hopen options.form.plain_token.ascii hstart
  · exact hsplit.trans (mem_or_mem_congr hrest (by decide) (by decide))
  · exact hcompressed.trans (mem_or_mem_congr hrest (by decide) (by decide))

/-- Tokens that write the same are read alike, but for the quotation in a refusal. -/
theorem toOption_parse_congr {token token' : String}
    (h : ∀ options, Written (trimBlankList token.toList) options ↔
      Written (trimBlankList token'.toList) options) :
    (parse token).toOption = (parse token').toOption := by
  have hok : ∀ options, parse token = .ok options ↔ parse token' = .ok options := fun options => by
    rw [parse_eq_ok_iff, parse_eq_ok_iff, h options]
  cases hparse : parse token with
  | ok options => rw [(hok options).1 hparse]
  | error fault =>
    cases hparse' : parse token' with
    | ok options => rw [(hok options).2 hparse'] at hparse; cases hparse
    | error fault' => rfl

theorem isBlank_toLower (c : Char) : isBlank c.toLower = isBlank c := by
  rw [Bool.eq_iff_iff]
  simp only [isBlank, toNat_toLower, Bool.or_eq_true, Bool.and_eq_true, decide_eq_true_eq, beq_iff_eq]
  split <;> omega

theorem map_toLower_trimBlankList (cs : List Char) :
    (trimBlankList cs).map Char.toLower = trimBlankList (cs.map Char.toLower) := by
  have hblank : isBlank ∘ Char.toLower = isBlank := funext isBlank_toLower
  rw [trimBlankList, trimBlankList, List.dropWhile_map, hblank, ← List.map_reverse, List.dropWhile_map,
    hblank, List.map_reverse]

/-- Texts that differ in the case of ASCII letters are alike once the white space around them is gone. -/
theorem alike_trimBlankList {cs ds : List Char} (h : cs.map Char.toLower = ds.map Char.toLower) :
    List.Forall₂ Alike (trimBlankList cs) (trimBlankList ds) := by
  have htrim : (trimBlankList cs).map Char.toLower = (trimBlankList ds).map Char.toLower := by
    rw [map_toLower_trimBlankList, map_toLower_trimBlankList, h]
  have heq : List.Forall₂ (· = ·) ((trimBlankList cs).map Char.toLower)
      ((trimBlankList ds).map Char.toLower) := List.forall₂_eq_eq_eq ▸ htrim
  rw [List.forall₂_map_left_iff, List.forall₂_map_right_iff] at heq
  exact heq.imp fun _ _ => .inl

/-- The whole grammar of encoding tokens. -/
structure ReadsToken (token : String) : Prop where
  /-- The token is read as some options exactly if it writes them, white space around it put aside. -/
  accepted : ∀ options, parse token = .ok options ↔ ∃ rest,
    options.form.Opens (trimBlankList token.toList) rest ∧
    (options.split = true ↔ 's' ∈ rest ∨ 'S' ∈ rest) ∧
    (options.compressed = true ↔ 'd' ∈ rest ∨ 'D' ∈ rest)
  /-- It starts with the name of one form at most. -/
  unique : ∀ (form form' : BinaryForm) rest rest', form.Opens (trimBlankList token.toList) rest →
    form'.Opens (trimBlankList token.toList) rest' → form = form' ∧ rest = rest'
  /-- If it starts with none, the fault says so and quotes it as it was given. -/
  refused : (∀ (form : BinaryForm) rest, ¬ form.Opens (trimBlankList token.toList) rest) →
    ∃ fault, parse token = .error fault ∧ fault.code = .unsupportedEncoding ∧
      fault.message = "unsupported encode type [" ++ token ++ "]"
  /-- The case of ASCII letters makes no difference. -/
  caseless : ∀ other : String, other.toList.map Char.toLower = token.toList.map Char.toLower →
    (parse other).toOption = (parse token).toOption
  /-- White space around it makes none. -/
  outer : ∀ before after, Blank before → Blank after →
    (parse (before ++ token ++ after)).toOption = (parse token).toOption
  /-- After the name of the form it only matters which flags there are, not in which order, how often, and
  what else there is. -/
  flags : ∀ (other : String) (form : BinaryForm) rest rest', form.Opens (trimBlankList token.toList) rest →
    form.Opens (trimBlankList other.toList) rest' →
    ('s' ∈ rest' ∨ 'S' ∈ rest' ↔ 's' ∈ rest ∨ 'S' ∈ rest) →
    ('d' ∈ rest' ∨ 'D' ∈ rest' ↔ 'd' ∈ rest ∨ 'D' ∈ rest) → parse other = parse token
  /-- The name is written in ASCII. -/
  ascii : ∀ (form : BinaryForm) start rest, trimBlankList token.toList = start ++ rest →
    start.map Char.toLower = form.token.toList → ∀ c ∈ start, ¬ Wide c
  /-- Which character beyond ASCII stands in a place makes no difference. -/
  foreign : ∀ other : String, List.Forall₂ (fun c d => c = d ∨ Wide c ∧ Wide d)
    (trimBlankList other.toList) (trimBlankList token.toList) →
    (parse other).toOption = (parse token).toOption

/-- Tokens that are alike letter by letter are read alike. -/
theorem toOption_parse_of_alike {token token' : String}
    (h : List.Forall₂ Alike (trimBlankList token.toList) (trimBlankList token'.toList)) :
    (parse token).toOption = (parse token').toOption :=
  toOption_parse_congr fun _ => ⟨written_congr h, written_congr (Alike.forall₂_symm h)⟩

/-- What follows the name of the form has a say through the flags that it holds only. -/
theorem parse_congr {token other : String} {form : BinaryForm} {rest rest' : List Char}
    (h : form.Opens (trimBlankList token.toList) rest)
    (h' : form.Opens (trimBlankList other.toList) rest')
    (hsplit : 's' ∈ rest' ∨ 'S' ∈ rest' ↔ 's' ∈ rest ∨ 'S' ∈ rest)
    (hcompressed : 'd' ∈ rest' ∨ 'D' ∈ rest' ↔ 'd' ∈ rest ∨ 'D' ∈ rest) :
    parse other = parse token := by
  let options : EncodeOptions :=
    ⟨form, decide ('s' ∈ rest ∨ 'S' ∈ rest), decide ('d' ∈ rest ∨ 'D' ∈ rest)⟩
  have htoken : Written (trimBlankList token.toList) options :=
    ⟨rest, h, decide_eq_true_iff, decide_eq_true_iff⟩
  have hother : Written (trimBlankList other.toList) options :=
    ⟨rest', h', decide_eq_true_iff.trans hsplit.symm, decide_eq_true_iff.trans hcompressed.symm⟩
  rw [parse_eq_ok_iff.2 htoken, parse_eq_ok_iff.2 hother]

/-- A token that starts with no name is refused in these words. -/
theorem parse_of_not_opens {token : String}
    (h : ∀ (form : BinaryForm) rest, ¬ form.Opens (trimBlankList token.toList) rest) :
    parse token = .error (.unsupportedEncoding token) := by
  refine parse_of_forall fun form => Option.eq_none_iff_forall_ne_some.2 fun flags hflags => ?_
  obtain ⟨start, rest, hcs, hstart, -⟩ := dropStart?_lowercase.1 hflags
  exact h form rest ⟨start, hcs, hstart⟩

/-- Every token is read by this grammar. -/
theorem readsToken (token : String) : ReadsToken token where
  accepted _ := parse_eq_ok_iff
  unique _ _ _ _ h h' := h.unique h'
  refused h := ⟨_, parse_of_not_opens h, rfl, rfl⟩
  caseless _ h := toOption_parse_of_alike (alike_trimBlankList h)
  outer before after hbefore hafter := by
    refine toOption_parse_congr fun options => ?_
    rw [String.toList_append, String.toList_append, trimBlankList_surround token.toList hbefore hafter]
  flags _ _ _ _ h h' hsplit hcompressed := parse_congr h h' hsplit hcompressed
  ascii form start _ _ hstart c hc := by
    rw [← wide_toLower]
    exact form.plain_token.ascii _ (hstart ▸ List.mem_map_of_mem hc)
  foreign _ h := toOption_parse_of_alike (h.imp fun _ _ he => he.imp_left (congrArg Char.toLower))

/-- The Kelvin sign is no letter of a token, and a dotted capital I none of a name. -/
example : (parse "\u0130nt8[]").toOption = none ∧
    parse "\u00a0INT8[]\u212aDxS " = .ok ⟨.literals .signed, true, true⟩ := by
  decide +kernel

end EncodeOptions

end Builtins
