import Builtins.Proofs.Xml.Scanning

/-!
# Tokens are pieces of the text

The scanner makes nothing up: the content of each token stands in the text, and an instruction stands
there with its opening.

* `ScanMode.held` — what a mode remembers of the text, `Token.piece` — what a token shows of it;
* `ScanMode.step_keeps` — a step remembers the end of the text, and gives a piece of it;
* `piece_of_mem_scan` — every token of a scan is a piece of the scanned text;
* `Scan.run_tokens` — the tokens before a text do not change how it is scanned;
* `AttrScan.step_all`, `all_of_mem_scanAttributes` — keys and values have only bytes of the tag.
-/

namespace Builtins

/-! ### What is remembered and what is shown -/

/-- What a token shows of the text. An instruction shows its opening too; comments and declarations
show nothing. -/
def Token.piece : Token → Bytes
  | .text content => content
  | .reference name => name
  | .cdata content => content
  | .startTag content _ => content
  | .endTag content => content
  | .instruction content => 0x3C :: 0x3F :: content
  | .comment => []
  | .doctype => []

namespace ScanMode

/-- What a mode remembers of the text for the token that it is in. -/
def held : ScanMode → Bytes
  | text run => run.reverse
  | reference run => run.reverse
  | opened => [0x3C]
  | declared => []
  | comment _ => []
  | cdata run => run.reverse
  | doctype _ _ => []
  | instruction run => 0x3C :: 0x3F :: run.reverse
  | tag _ run _ => run.reverse
  | failed _ => []

/-- After some text, a mode remembers the end of the text, and the token is a piece of it. -/
structure Keeps (seen : Bytes) (next : ScanMode × Option Token) : Prop where
  held : next.1.held <:+ seen
  piece : ∀ t ∈ next.2, t.piece <:+: seen

variable {seen run : Bytes} {b : UInt8}

theorem Keeps.mono {more : Bytes} {next : ScanMode × Option Token} (h : Keeps seen next)
    (hmore : seen <:+ more) : Keeps more next :=
  ⟨h.held.trans hmore, fun t ht => (h.piece t ht).trans hmore.isInfix⟩

/-- A byte that completes no token leaves a mode that remembers the end of the text. -/
theorem Keeps.silent {m : ScanMode} (h : m.held <:+ seen) : Keeps seen (m, none) :=
  ⟨h, fun t ht => by cases ht⟩

/-- After a token nothing is remembered. -/
theorem Keeps.token {t : Token} (h : t.piece <:+: seen) : Keeps seen (text [], some t) :=
  ⟨List.nil_suffix, fun t ht => by cases ht; exact h⟩

/-- A run that ends in a byte is the run before it, and the byte. -/
theorem reverse_cons_suffix (run : Bytes) (b : UInt8) : (b :: run).reverse <:+ run.reverse ++ [b] :=
  ⟨[], by rw [List.nil_append, List.reverse_cons]⟩

theorem reverse_start (run : Bytes) (b : UInt8) : run.reverse <+: run.reverse ++ [b] :=
  List.prefix_append _ _

/-- Without its latest bytes a run is still a piece of the text. -/
theorem reverse_drop_start (run : Bytes) (n : Nat) : (run.drop n).reverse <+: run.reverse :=
  List.reverse_prefix.2 (List.drop_suffix n run)

theorem textToken_piece {t : Token} (ht : t ∈ textToken run) : t.piece = run.reverse := by
  rw [textToken] at ht
  split at ht
  · cases ht
  · cases ht
    rfl

theorem inTag_keeps (closing : Bool) (run : Bytes) (b : UInt8) :
    Keeps (run.reverse ++ [b]) (inTag closing run b) := by
  have hrun : run.reverse <:+: run.reverse ++ [b] := (reverse_start run b).isInfix
  have htail : run.tail.reverse <:+: run.reverse ++ [b] := by
    rw [← List.drop_one]
    exact (reverse_drop_start run 1).isInfix.trans hrun
  rw [inTag]
  split
  · split
    · exact .token hrun
    · split
      · exact .token htail
      · exact .token hrun
  · exact .silent (reverse_cons_suffix run b)

theorem endCdata_keeps (run : Bytes) (b : UInt8) : Keeps (run.reverse ++ [b]) (endCdata run) := by
  rw [endCdata]
  split
  · refine .token ?_
    show (run.drop 2).reverse.drop 7 <:+: _
    exact (List.drop_suffix _ _).isInfix.trans
      ((reverse_drop_start run 2).trans (reverse_start run b)).isInfix
  · exact .silent List.nil_suffix

theorem endInstruction_keeps (run : Bytes) (b : UInt8) :
    Keeps (0x3C :: 0x3F :: run.reverse ++ [b]) (endInstruction run) := by
  rw [endInstruction]
  split
  · exact .silent List.nil_suffix
  · refine .token ?_
    show 0x3C :: 0x3F :: run.tail.reverse <:+: _
    rw [← List.drop_one]
    have hprefix := (reverse_drop_start run 1).trans (reverse_start run b)
    exact ((List.prefix_cons_inj _).2 ((List.prefix_cons_inj _).2 hprefix)).isInfix

theorem endComment_keeps (seen run : Bytes) : Keeps seen (endComment run) := by
  rw [endComment]
  split
  · exact .token List.nil_infix
  · exact .silent List.nil_suffix

theorem endDoctype_keeps (seen run : Bytes) : Keeps seen (endDoctype run) := by
  simp only [endDoctype]
  split
  · split
    · exact .silent List.nil_suffix
    · exact .token List.nil_infix
  · exact .silent List.nil_suffix

/-- What a step remembers is the end of what has been read, and the token that it gives is a piece
of that. -/
theorem step_keeps (m : ScanMode) (b : UInt8) : Keeps (m.held ++ [b]) (m.step b) := by
  cases m with
  | text run =>
    have htoken : ∀ t ∈ textToken run, t.piece <:+: run.reverse ++ [b] := by
      intro t ht
      rw [textToken_piece ht]
      exact (reverse_start run b).isInfix
    rw [step]
    split
    · rename_i hb
      rw [beq_iff_eq] at hb
      subst hb
      exact ⟨List.suffix_append _ _, htoken⟩
    · split
      · exact ⟨List.nil_suffix, htoken⟩
      · exact .silent (reverse_cons_suffix run b)
  | reference run =>
    rw [step]
    split
    · exact .token (reverse_start run b).isInfix
    · split
      · exact .silent List.nil_suffix
      · exact .silent (reverse_cons_suffix run b)
  | opened =>
    rw [step]
    split
    · exact .silent List.nil_suffix
    · split
      · rename_i hb
        rw [beq_iff_eq] at hb
        subst hb
        exact .silent List.suffix_rfl
      · split
        · exact .silent List.nil_suffix
        · exact (inTag_keeps false [] b).mono (List.suffix_append [0x3C] [b])
  | declared =>
    rw [step]
    split
    · exact .silent List.suffix_rfl
    · split
      · exact .silent List.nil_suffix
      · split
        · exact .silent List.nil_suffix
        · exact .silent List.nil_suffix
  | comment run =>
    rw [step]
    split
    · exact endComment_keeps _ run
    · exact .silent List.nil_suffix
  | cdata run =>
    rw [step]
    split
    · exact endCdata_keeps run b
    · exact .silent (reverse_cons_suffix run b)
  | doctype run depth =>
    rw [step]
    split
    · split
      · exact endDoctype_keeps _ run
      · exact .silent List.nil_suffix
    · split
      · exact .silent List.nil_suffix
      · exact .silent List.nil_suffix
  | instruction run =>
    rw [step]
    split
    · exact endInstruction_keeps run b
    · refine .silent ?_
      show 0x3C :: 0x3F :: (b :: run).reverse <:+ _
      rw [List.reverse_cons]
      exact List.suffix_rfl
  | tag closing run quote =>
    cases quote with
    | none => exact inTag_keeps closing run b
    | some q => exact .silent (reverse_cons_suffix run b)
  | failed fault => exact .silent List.nil_suffix

end ScanMode

/-! ### Whole texts -/

namespace Scan

/-- The scanner remembers the end of the text, and its tokens are pieces of the text. -/
structure Within (s : Scan) (seen : Bytes) : Prop where
  held : s.mode.held <:+ seen
  piece : ∀ t ∈ s.tokens, t.piece <:+: seen

variable {s : Scan} {seen : Bytes}

theorem Within.step (h : s.Within seen) (b : UInt8) : (s.step b).Within (seen ++ [b]) := by
  have hheld : s.mode.held ++ [b] <:+ seen ++ [b] := by
    obtain ⟨before, hbefore⟩ := h.held
    exact ⟨before, by rw [← List.append_assoc, hbefore]⟩
  have hkeeps := (ScanMode.step_keeps s.mode b).mono hheld
  refine ⟨hkeeps.held, fun t ht => ?_⟩
  rcases List.mem_append.1 ht with hnew | hold
  · exact hkeeps.piece t (Option.mem_toList.1 hnew)
  · exact (h.piece t hold).trans (List.prefix_append seen [b]).isInfix

theorem Within.run (bytes : Bytes) : ∀ {s : Scan} {seen : Bytes}, s.Within seen →
    (s.run bytes).Within (seen ++ bytes) := by
  induction bytes with
  | nil =>
    intro s seen h
    rwa [List.append_nil]
  | cons b bytes ih =>
    intro s seen h
    rw [run_cons, List.append_cons]
    exact ih (h.step b)

theorem Within.finish (h : s.Within seen) : ∀ t ∈ s.finish.1, t.piece <:+: seen := by
  intro t ht
  rcases List.mem_append.1 (List.mem_reverse.1 ht) with hlast | hold
  · have hlast := Option.mem_toList.1 hlast
    cases hmode : s.mode with
    | text run =>
      rw [hmode] at hlast
      rw [ScanMode.textToken_piece hlast]
      have hheld := h.held
      rw [hmode] at hheld
      exact hheld.isInfix
    | _ =>
      rw [hmode] at hlast
      cases hlast
  · exact h.piece t hold

/-- The tokens before a text do not change how it is scanned. -/
theorem run_tokens (bytes : Bytes) : ∀ (mode : ScanMode) (tokens before : List Token),
    Scan.run ⟨mode, tokens ++ before⟩ bytes =
      ⟨(Scan.run ⟨mode, tokens⟩ bytes).mode, (Scan.run ⟨mode, tokens⟩ bytes).tokens ++ before⟩ := by
  induction bytes with
  | nil =>
    intro mode tokens before
    rfl
  | cons b bytes ih =>
    intro mode tokens before
    rw [run_cons, run_cons, Scan.step, ← List.append_assoc]
    exact ih _ _ before

end Scan

/-- Every token of a scan is a piece of the scanned text. -/
theorem piece_of_mem_scan {bytes : Bytes} {t : Token} (h : t ∈ (scan bytes).1) :
    t.piece <:+: bytes := by
  have hstart : Scan.start.Within [] := ⟨List.suffix_rfl, fun t ht => by cases ht⟩
  exact (Scan.Within.run bytes hstart).finish t h

/-- A text whose beginning is one token is scanned as this token and the rest. -/
theorem scan_append {first : Bytes} {t : Token}
    (h : Scan.run Scan.start first = ⟨.text [], [t]⟩) (bytes : Bytes) :
    scan (first ++ bytes) = (t :: (scan bytes).1, (scan bytes).2) := by
  show ((Scan.start.run (first ++ bytes)).finish) = _
  rw [Scan.run_append, h]
  have hrun := Scan.run_tokens bytes (.text []) [] [t]
  rw [List.nil_append] at hrun
  rw [hrun]
  show ((_ ++ (_ ++ [t])).reverse, _) = _
  rw [← List.append_assoc, List.reverse_append]
  rfl

/-! ### Attributes -/

/-- The bytes that a mode of the scanner of attributes remembers. -/
def AttrMode.held : AttrMode → Bytes
  | .gap => []
  | .key run => run
  | .afterKey name => name
  | .afterEquals name => name
  | .value name _ run => name ++ run
  | .failed _ => []

namespace AttrScan

/-- All bytes that are remembered, and all bytes of the attributes so far, are of some kind. -/
structure All (P : UInt8 → Prop) (s : AttrScan) : Prop where
  held : ∀ b ∈ s.mode.held, P b
  found : ∀ p ∈ s.found, (∀ b ∈ p.1, P b) ∧ ∀ b ∈ p.2, P b

variable {P : UInt8 → Prop} {s : AttrScan} {b : UInt8}

theorem All.withKey (h : s.All P) (key : Bytes) {next : AttrMode} (hnext : ∀ b ∈ next.held, P b) :
    (s.withKey key next).All P := by
  rw [AttrScan.withKey]
  split
  · exact ⟨fun _ hx => absurd hx List.not_mem_nil, h.found⟩
  · exact ⟨hnext, h.found⟩

theorem step_all (h : s.All P) (hb : P b) : (s.step b).All P := by
  have hheld := h.held
  have hfailed : ∀ fault, AttrScan.All P { s with mode := .failed fault } := by
    intro fault
    exact ⟨fun _ hx => absurd hx List.not_mem_nil, h.found⟩
  rw [AttrScan.step]
  split
  next hmode =>
    split
    · exact h
    · exact ⟨fun x hx => by rwa [List.mem_singleton.1 hx], h.found⟩
  next run hmode =>
    rw [hmode] at hheld
    have hrun : ∀ x ∈ run.reverse, P x := fun x hx => hheld x (List.mem_reverse.1 hx)
    split
    · exact h.withKey _ hrun
    · split
      · exact ⟨hrun, h.found⟩
      · exact ⟨List.forall_mem_cons.2 ⟨hb, hheld⟩, h.found⟩
  next key hmode =>
    rw [hmode] at hheld
    split
    · exact h.withKey _ hheld
    · split
      · exact h
      · exact hfailed _
  next key hmode =>
    rw [hmode] at hheld
    split
    · exact ⟨fun x hx => hheld x (by simpa [AttrMode.held] using hx), h.found⟩
    · split
      · exact h
      · exact hfailed _
  next key quote run hmode =>
    rw [hmode] at hheld
    obtain ⟨hkey, hrun⟩ := List.forall_mem_append.1 hheld
    split
    · refine ⟨fun _ hx => absurd hx List.not_mem_nil, List.forall_mem_cons.2 ⟨⟨hkey, ?_⟩, h.found⟩⟩
      exact fun x hx => hrun x (List.mem_reverse.1 hx)
    · exact ⟨List.forall_mem_append.2 ⟨hkey, List.forall_mem_cons.2 ⟨hb, hrun⟩⟩, h.found⟩
  next => exact h

theorem run_all {bytes : Bytes} (hbytes : ∀ b ∈ bytes, P b) : ∀ {s : AttrScan}, s.All P →
    (s.run bytes).All P := by
  induction bytes with
  | nil =>
    intro s h
    exact h
  | cons b bytes ih =>
    intro s h
    obtain ⟨hb, hbytes⟩ := List.forall_mem_cons.1 hbytes
    rw [run_cons]
    exact ih hbytes (step_all h hb)

end AttrScan

/-- Keys and values have only bytes of the tag. -/
theorem all_of_mem_scanAttributes {P : UInt8 → Prop} {distinct : Bool} {bytes : Bytes}
    (hbytes : ∀ b ∈ bytes, P b) {p : Bytes × Bytes} (hp : p ∈ (scanAttributes distinct bytes).1) :
    (∀ b ∈ p.1, P b) ∧ ∀ b ∈ p.2, P b := by
  have hstart : AttrScan.All P ⟨distinct, .gap, []⟩ :=
    ⟨fun _ hx => absurd hx List.not_mem_nil, fun _ hq => absurd hq List.not_mem_nil⟩
  exact (AttrScan.run_all hbytes hstart).found p (List.mem_reverse.1 hp)

end Builtins
