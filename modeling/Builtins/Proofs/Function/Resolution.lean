import Builtins.Proofs.Function.Registration
import Mathlib.Data.List.Find
import Mathlib.Data.List.Forall2
import Mathlib.Data.List.Nodup

/-!
# Resolution

A name and the kinds of some arguments lead to the one body that is declared for them, or to the first
reason why there is none.  The order in which a function declares its bodies plays no part in this.

* `Descriptor.overload?_eq_some_iff` — a valid descriptor has one body for given kinds at most;
* `Descriptor.Shuffles`, `Enrolment.Shuffles` — the same bodies, declared in another order;
* `Concur` — results that callers cannot tell apart by value or category;
* `Registry.Shuffles.register`, `Registry.Shuffles.enrolAll` — what one request keeps, and a history;
* `Registry.ResolvesExactly`, `Registry.ResolvesLike` — what a registry finds, and that another one
  finds the same;
* `resolvesExactly_of_enrolments` — every registry resolves exactly, and like each one that was offered
  the same bodies in another order.
-/

namespace Builtins

/-! ### One body for given kinds -/

namespace Descriptor

variable {d : Descriptor} {kinds : List Kind} {o o' : Overload}

theorem Valid.length_kinds (h : d.Valid) (ho : o ∈ d.overloads) : o.kinds.length = d.arity :=
  h.length o.kinds (List.mem_map_of_mem ho)

/-- A valid descriptor has one body for given kinds. -/
theorem Valid.eq_of_kinds (h : d.Valid) (ho : o ∈ d.overloads) (ho' : o' ∈ d.overloads)
    (hkinds : o.kinds = o'.kinds) : o = o' :=
  List.inj_on_of_nodup_map h.distinct ho ho' hkinds

theorem mem_of_overload? (h : d.overload? kinds = some o) : o ∈ d.overloads ∧ o.kinds = kinds := by
  rw [overload?] at h
  have hkinds := List.find?_some h
  exact ⟨List.mem_of_find?_eq_some h, eq_of_beq hkinds⟩

theorem overload?_eq_none_iff : d.overload? kinds = none ↔ ∀ o ∈ d.overloads, o.kinds ≠ kinds := by
  rw [overload?, List.find?_eq_none]
  simp only [beq_iff_eq]

/-- The body that a valid descriptor has for given kinds is the one that it declares for them. -/
theorem overload?_eq_some_iff (hd : d.Valid) :
    d.overload? kinds = some o ↔ o ∈ d.overloads ∧ o.kinds = kinds := by
  constructor
  · exact mem_of_overload?
  · rintro ⟨hmem, rfl⟩
    cases hfound : d.overload? o.kinds with
    | none => exact absurd rfl (overload?_eq_none_iff.1 hfound o hmem)
    | some o' =>
      obtain ⟨hmem', hkinds⟩ := mem_of_overload? hfound
      rw [hd.eq_of_kinds hmem' hmem hkinds]

end Descriptor

namespace Registry

variable {r : Registry} {name : String} {kinds : List Kind} {d : Descriptor}

/-- A name that nobody registered. -/
theorem resolve_of_unknown (h : r.descriptor? name = none) :
    r.resolve name kinds = .error (.unknownFunction name) := by
  rw [resolve, h]

/-- Too few arguments, or too many. -/
theorem resolve_of_length (h : r.descriptor? name = some d) (hlength : kinds.length ≠ d.arity) :
    r.resolve name kinds = .error (.wrongArity name d.arity kinds.length) := by
  rw [resolve, h]
  exact if_pos hlength

/-- Where the number of arguments is right, the kinds decide. -/
theorem resolve_of_arity (h : r.descriptor? name = some d) (hlength : kinds.length = d.arity) :
    r.resolve name kinds =
      match d.overload? kinds with
      | some o => .ok o
      | none => .error (.wrongKinds name kinds d.describe) := by
  rw [resolve, h]
  exact if_neg (not_not_intro hlength)

/-- What is found is a body that is declared for just these kinds. -/
theorem resolve_ok_iff (hr : ∀ {name d}, r.descriptor? name = some d → d.Valid) {o : Overload} :
    r.resolve name kinds = .ok o ↔
      ∃ d, r.descriptor? name = some d ∧ o ∈ d.overloads ∧ o.kinds = kinds := by
  constructor
  · intro h
    obtain ⟨d, hd, hmem, hkinds⟩ := resolve_ok h
    exact ⟨d, hd, hmem, hkinds.symm⟩
  · rintro ⟨d, hd, hmem, rfl⟩
    rw [resolve_of_arity hd ((hr hd).length_kinds hmem),
      (Descriptor.overload?_eq_some_iff (hr hd)).2 ⟨hmem, rfl⟩]

end Registry

/-! ### Bodies in another order -/

/-- The same descriptor, but for the order of its overloads. -/
structure Descriptor.Shuffles (d d' : Descriptor) : Prop where
  name : d.name = d'.name
  arity : d.arity = d'.arity
  overloads : d.overloads.Perm d'.overloads
  result : d.result = d'.result
  reference : d.reference = d'.reference

namespace Descriptor.Shuffles

variable {d d' : Descriptor}

theorem refl (d : Descriptor) : d.Shuffles d := ⟨rfl, rfl, .refl _, rfl, rfl⟩

theorem tuples (h : d.Shuffles d') : d.tuples.Perm d'.tuples := h.overloads.map _

/-- The rules for descriptors know no order. -/
theorem valid (h : d.Shuffles d') (hd : d.Valid) : d'.Valid := by
  refine ⟨fun hnil => hd.accepts ?_, fun tuple htuple => ?_, h.tuples.nodup_iff.1 hd.distinct⟩
  · have hperm := h.overloads
    rw [hnil] at hperm
    exact hperm.eq_nil
  · rw [← h.arity]
    exact hd.length tuple (h.tuples.mem_iff.2 htuple)

theorem symm (h : d.Shuffles d') : d'.Shuffles d :=
  ⟨h.name.symm, h.arity.symm, h.overloads.symm, h.result.symm, h.reference.symm⟩

theorem valid_iff (h : d.Shuffles d') : d.Valid ↔ d'.Valid := ⟨h.valid, h.symm.valid⟩

/-- The first match is the only one, so it is found wherever it stands. -/
theorem overload?_eq (h : d.Shuffles d') (hd : d.Valid) (kinds : List Kind) :
    d.overload? kinds = d'.overload? kinds := by
  refine List.find?_eq_find?_of_perm h.overloads ?_
  intro o ho o' ho'
  exact hd.eq_of_kinds ho.1 ho'.1 ((eq_of_beq ho.2).trans (eq_of_beq ho'.2).symm)

end Descriptor.Shuffles

/-- The same request, but for the order of the overloads that are offered. -/
inductive Enrolment.Shuffles : Enrolment → Enrolment → Prop
  | register {d d' : Descriptor} : d.Shuffles d' → Shuffles (.register d) (.register d')
  | installStandard (loader : Loader) : Shuffles (.installStandard loader) (.installStandard loader)

/-- Two results that are the same value, or faults of the same category. -/
def Concur {α : Type} : Except Fault α → Except Fault α → Prop
  | .ok a, .ok b => a = b
  | .error fault, .error fault' => fault.code = fault'.code
  | _, _ => False

/-- Registries with the same names, and under each of them the same function but for the order of its
overloads. -/
def Registry.Shuffles (r r' : Registry) : Prop :=
  ∀ name, Option.Rel Descriptor.Shuffles (r.descriptor? name) (r'.descriptor? name)

/-- Two requests that were refused for the same name and with the same category. -/
def SameRefusal (a b : String × Fault) : Prop := a.1 = b.1 ∧ a.2.code = b.2.code

namespace Registry.Shuffles

variable {r r' : Registry} {d d' : Descriptor}

theorem mem_names (h : r.Shuffles r') (name : String) : name ∈ r.names ↔ name ∈ r'.names := by
  rw [Registry.mem_names, Registry.mem_names]
  have hname := h name
  generalize r.descriptor? name = found at hname ⊢
  generalize r'.descriptor? name = found' at hname ⊢
  cases hname <;> rfl

/-- Both registries take a descriptor, or both refuse it. -/
theorem register (h : r.Shuffles r') (hd : d.Shuffles d') :
    (∃ r₁ r₁', r.register d = .ok r₁ ∧ r'.register d' = .ok r₁' ∧ r₁.Shuffles r₁') ∨
      ∃ fault fault', r.register d = .error fault ∧ r'.register d' = .error fault' ∧
        fault.code = fault'.code := by
  have htaken : d.name ∈ r.names ↔ d'.name ∈ r'.names := hd.name ▸ h.mem_names d.name
  rcases register_cases r d with ⟨fault, hreg, hcode, hinvalid⟩ | ⟨hreg, hvalid, hname⟩ |
    ⟨hreg, hvalid, hfree⟩
  · obtain ⟨fault', hreg', hcode'⟩ := register_of_invalid (r := r') fun hv => hinvalid (hd.valid_iff.2 hv)
    exact .inr ⟨fault, fault', hreg, hreg', hcode.trans hcode'.symm⟩
  · exact .inr ⟨_, _, hreg, register_of_taken (hd.valid hvalid) (htaken.1 hname), rfl⟩
  · have hreg' := register_of_free (hd.valid hvalid) fun hname => hfree (htaken.2 hname)
    refine .inl ⟨_, _, hreg, hreg', fun name => ?_⟩
    rw [descriptor?_of_register hreg, descriptor?_of_register hreg', hd.name]
    by_cases hname : name = d'.name
    · rw [if_pos hname, if_pos hname]
      exact .some hd
    · rw [if_neg hname, if_neg hname]
      exact h name

/-- Several descriptors are taken alike, one after the other. -/
theorem registerAll {ds ds' : List Descriptor} (hds : List.Forall₂ Descriptor.Shuffles ds ds') :
    ∀ {r r' : Registry}, r.Shuffles r' →
      (r.registerAll ds).1.Shuffles (r'.registerAll ds').1 ∧
        List.Forall₂ SameRefusal (r.registerAll ds).2 (r'.registerAll ds').2 := by
  induction hds with
  | nil =>
    intro r r' h
    exact ⟨h, .nil⟩
  | cons hd _ ih =>
    intro r r' h
    rw [Registry.registerAll, Registry.registerAll]
    rcases h.register hd with ⟨r₁, r₁', hreg, hreg', h₁⟩ | ⟨fault, fault', hreg, hreg', hcode⟩
    · rw [hreg, hreg']
      exact ih h₁
    · rw [hreg, hreg']
      obtain ⟨hrest, hrefused⟩ := ih h
      exact ⟨hrest, .cons ⟨hd.name, hcode⟩ hrefused⟩

/-- A request is answered alike, and keeps registries alike. -/
theorem enrol (h : r.Shuffles r') {e e' : Enrolment} (he : e.Shuffles e') :
    (r.enrol e).1.Shuffles (r'.enrol e').1 ∧ Concur (r.enrol e).2 (r'.enrol e').2 := by
  cases he with
  | register hd =>
    rcases h.register hd with ⟨r₁, r₁', hreg, hreg', h₁⟩ | ⟨fault, fault', hreg, hreg', hcode⟩
    · rw [Registry.enrol, Registry.enrol, hreg, hreg']
      exact ⟨h₁, rfl⟩
    · rw [Registry.enrol, Registry.enrol, hreg, hreg']
      exact ⟨h, hcode⟩
  | installStandard loader =>
    have hsame : List.Forall₂ Descriptor.Shuffles (standardFunctions loader)
        (standardFunctions loader) := List.forall₂_same.2 fun d _ => .refl d
    obtain ⟨hrest, hrefused⟩ := registerAll hsame h
    rw [Registry.enrol, Registry.enrol, Builtins.installStandard, Builtins.installStandard]
    generalize r.registerAll (standardFunctions loader) = outcome at hrest hrefused ⊢
    generalize r'.registerAll (standardFunctions loader) = outcome' at hrest hrefused ⊢
    obtain ⟨r₁, failures⟩ := outcome
    obtain ⟨r₁', failures'⟩ := outcome'
    cases hrefused with
    | nil => exact ⟨hrest, rfl⟩
    | cons hfirst _ => exact ⟨hrest, hfirst.2⟩

/-- So whole histories keep registries alike. -/
theorem enrolAll {history history' : List Enrolment}
    (hhistory : List.Forall₂ Enrolment.Shuffles history history') :
    ∀ {r r' : Registry}, r.Shuffles r' → (r.enrolAll history).Shuffles (r'.enrolAll history') := by
  induction hhistory with
  | nil =>
    intro r r' h
    exact h
  | cons he _ ih =>
    intro r r' h
    exact ih (h.enrol he).1

/-- Registries that are alike find the same bodies, and miss them for reasons of the same category. -/
theorem resolve (h : r.Shuffles r') (hr : ∀ {name d}, r.descriptor? name = some d → d.Valid)
    (name : String) (kinds : List Kind) : Concur (r.resolve name kinds) (r'.resolve name kinds) := by
  have hname := h name
  cases hfound : r.descriptor? name with
  | none =>
    rw [hfound] at hname
    cases hfound' : r'.descriptor? name with
    | none =>
      rw [resolve_of_unknown hfound, resolve_of_unknown hfound']
      rfl
    | some d' =>
      rw [hfound'] at hname
      cases hname
  | some d =>
    rw [hfound] at hname
    cases hfound' : r'.descriptor? name with
    | none =>
      rw [hfound'] at hname
      cases hname
    | some d' =>
      rw [hfound'] at hname
      obtain ⟨hd⟩ := hname
      by_cases hlength : kinds.length = d.arity
      · rw [resolve_of_arity hfound hlength, resolve_of_arity hfound' (hlength.trans hd.arity),
          hd.overload?_eq (hr hfound)]
        cases d'.overload? kinds <;> rfl
      · rw [resolve_of_length hfound hlength,
          resolve_of_length hfound' fun he => hlength (he.trans hd.arity.symm)]
        rfl

end Registry.Shuffles

/-! ### What is found -/

namespace Registry

/-- What a registry finds for a name and kinds, and why it finds nothing. -/
structure ResolvesExactly (r : Registry) : Prop where
  /-- A function is found under its own name only. -/
  named : ∀ {name d}, r.descriptor? name = some d → d.name = name
  /-- A body is found just if the function of that name declares it for these kinds. -/
  found : ∀ {name kinds o}, r.resolve name kinds = .ok o ↔
    ∃ d, r.descriptor? name = some d ∧ o ∈ d.overloads ∧ o.kinds = kinds
  /-- No function declares two bodies for the same kinds. -/
  only : ∀ {name d o o'}, r.descriptor? name = some d → o ∈ d.overloads → o' ∈ d.overloads →
    o.kinds = o'.kinds → o = o'
  /-- First of all there has to be a function of that name, -/
  unknown : ∀ {name kinds}, r.descriptor? name = none →
    r.resolve name kinds = .error (.unknownFunction name)
  /-- then it has to take that many arguments, -/
  length : ∀ {name kinds d}, r.descriptor? name = some d → kinds.length ≠ d.arity →
    r.resolve name kinds = .error (.wrongArity name d.arity kinds.length)
  /-- and then arguments of these kinds. -/
  kinds : ∀ {name kinds d}, r.descriptor? name = some d → kinds.length = d.arity →
    (∀ o ∈ d.overloads, o.kinds ≠ kinds) →
      r.resolve name kinds = .error (.wrongKinds name kinds d.describe)

/-- Two registries that find the same bodies and take the same descriptors, or refuse for reasons of the
same category. -/
structure ResolvesLike (r r' : Registry) : Prop where
  resolve : ∀ name kinds, Concur (r.resolve name kinds) (r'.resolve name kinds)
  enrol : ∀ {e e'}, Enrolment.Shuffles e e' → Concur (r.enrol e).2 (r'.enrol e').2

/-- Whatever was registered, a registry resolves exactly, and the order in which overloads were declared
makes no difference to it. -/
theorem resolvesExactly_of_enrolments (history : List Enrolment) :
    (empty.enrolAll history).ResolvesExactly ∧
      ∀ history', List.Forall₂ Enrolment.Shuffles history history' →
        (empty.enrolAll history).ResolvesLike (empty.enrolAll history') := by
  have hvalid : ∀ {name d}, (empty.enrolAll history).descriptor? name = some d → d.Valid :=
    fun hd => (valid_of_enrolled hd).2
  refine ⟨⟨fun hd => (valid_of_enrolled hd).1, resolve_ok_iff hvalid, fun hd => (hvalid hd).eq_of_kinds,
    resolve_of_unknown, resolve_of_length, fun hd hlength hnone => ?_⟩, fun history' hhistory => ?_⟩
  · rw [resolve_of_arity hd hlength, Descriptor.overload?_eq_none_iff.2 hnone]
  · have hshuffles : (empty.enrolAll history).Shuffles (empty.enrolAll history') :=
      Shuffles.enrolAll hhistory fun _ => .none
    exact ⟨hshuffles.resolve hvalid, fun he => (hshuffles.enrol he).2⟩

/-- A function of two bodies, declared in one order and in the other. -/
theorem resolvesExactly_of_two_orders :
    let onString : Overload := ⟨[.string], fun _ => pure (.string "")⟩
    let onInt : Overload := ⟨[.int], fun _ => pure (.int 0)⟩
    let history := [.register ⟨"f", 1, [onString, onInt], .string, ""⟩]
    let history' := [.register ⟨"f", 1, [onInt, onString], .string, ""⟩]
    (empty.enrolAll history).resolve "f" [.int] = .ok onInt ∧
      (empty.enrolAll history').resolve "f" [.int] = .ok onInt ∧
        (empty.enrolAll history).resolve "F" [.int] = .error (.unknownFunction "F") ∧
          Concur ((empty.enrolAll history).resolve "f" [.float])
            ((empty.enrolAll history').resolve "f" [.float]) := by
  intro onString onInt history history'
  obtain ⟨hexactly, hlike⟩ := resolvesExactly_of_enrolments history
  have horder : List.Forall₂ Enrolment.Shuffles history history' :=
    .cons (.register ⟨rfl, rfl, .swap _ _ _, rfl, rfl⟩) .nil
  refine ⟨?_, ?_, hexactly.unknown rfl, (hlike history' horder).resolve "f" [.float]⟩
  · exact hexactly.found.2 ⟨_, rfl, List.mem_cons_of_mem _ List.mem_cons_self, rfl⟩
  · exact (resolvesExactly_of_enrolments history').1.found.2 ⟨_, rfl, List.mem_cons_self, rfl⟩

end Registry

end Builtins
