import Builtins.Proofs.Run.Operation
import Builtins.Proofs.Text.Order

/-!
# Registration

A registry takes descriptors one after the other, and what it holds in the end is decided by what it
was offered: under each name the first valid descriptor.

* `Descriptor.Valid` — the rules for descriptors; `check_eq_ok` — a check finds each breach of them;
* `Enrolment`, `Registry.enrolAll` — descriptors are offered one by one or as the standard functions;
* `descriptor?_registerAll_eq` — the first valid one that is offered under a name stays;
* `Registry.KeepsFirst` — what a registry owes to those who register;
* `keepsFirst_of_enrolments` — it pays, whatever was offered to it.
-/

namespace Builtins

/-! ### Valid descriptors -/

namespace Descriptor

/-- The rules for descriptors: some tuple is accepted, each is as long as the arity says, and none is
declared twice. -/
structure Valid (d : Descriptor) : Prop where
  accepts : d.overloads ≠ []
  length : ∀ tuple ∈ d.tuples, tuple.length = d.arity
  distinct : d.tuples.Nodup

theorem checkTuples_eq_ok {name : String} {arity : Nat} {tuples : List (List Kind)} :
    ∀ {earlier : List (List Kind)}, checkTuples name arity earlier tuples = .ok () ↔
      (∀ t ∈ tuples, t.length = arity) ∧ (∀ t ∈ tuples, t ∉ earlier) ∧ tuples.Nodup := by
  induction tuples with
  | nil =>
    intro earlier
    simp [checkTuples]
  | cons tuple rest ih =>
    intro earlier
    rw [checkTuples]
    by_cases hlength : tuple.length = arity
    · by_cases hearlier : tuple ∈ earlier
      · simp [hlength, hearlier]
      · rw [if_neg (by simpa using hlength), if_neg (by simpa using hearlier), ih,
          List.forall_mem_cons, List.forall_mem_cons, List.nodup_cons]
        constructor
        · rintro ⟨hlengths, hnew, hdistinct⟩
          exact ⟨⟨hlength, hlengths⟩,
            ⟨hearlier, fun t ht hmem => hnew t ht (List.mem_cons_of_mem _ hmem)⟩,
            fun hmem => hnew tuple hmem List.mem_cons_self, hdistinct⟩
        · rintro ⟨⟨-, hlengths⟩, ⟨-, hnew⟩, hself, hdistinct⟩
          refine ⟨hlengths, fun t ht hmem => ?_, hdistinct⟩
          rcases List.mem_cons.1 hmem with rfl | hmem
          · exact hself ht
          · exact hnew t ht hmem
    · rw [if_pos (by simpa using hlength)]
      simp [hlength]

theorem code_of_checkTuples {name : String} {arity : Nat} {tuples : List (List Kind)} {fault : Fault} :
    ∀ {earlier : List (List Kind)}, checkTuples name arity earlier tuples = .error fault →
      fault.code = .invalidDescriptor := by
  induction tuples with
  | nil =>
    intro earlier h
    cases h
  | cons tuple rest ih =>
    intro earlier h
    rw [checkTuples] at h
    split at h
    · cases h
      rfl
    · split at h
      · cases h
        rfl
      · exact ih h

variable {d : Descriptor} {fault : Fault}

/-- A check passes just the valid descriptors. -/
theorem check_eq_ok : d.check = .ok () ↔ d.Valid := by
  rw [check]
  by_cases hempty : d.overloads = []
  · rw [if_pos (by simp [hempty])]
    constructor
    · intro h
      cases h
    · intro h
      exact absurd hempty h.accepts
  · rw [if_neg (by simp [hempty]), checkTuples_eq_ok]
    exact ⟨fun ⟨hlength, _, hdistinct⟩ => ⟨hempty, hlength, hdistinct⟩,
      fun h => ⟨h.length, by simp, h.distinct⟩⟩

theorem code_of_check (h : d.check = .error fault) : fault.code = .invalidDescriptor := by
  rw [check] at h
  split at h
  · cases h
    rfl
  · exact code_of_checkTuples h

theorem valid_iff : d.Valid ↔
    d.overloads.isEmpty = false ∧ (∀ tuple ∈ d.tuples, tuple.length = d.arity) ∧ d.tuples.Nodup := by
  constructor
  · intro h
    exact ⟨List.isEmpty_eq_false_iff.2 h.accepts, h.length, h.distinct⟩
  · rintro ⟨haccepts, hlength, hdistinct⟩
    exact ⟨List.isEmpty_eq_false_iff.1 haccepts, hlength, hdistinct⟩

instance (d : Descriptor) : Decidable d.Valid := decidable_of_iff _ valid_iff.symm

end Descriptor

/-- The first valid descriptor with a name. -/
def firstValid? (name : String) (ds : List Descriptor) : Option Descriptor :=
  ds.find? fun d => d.name = name ∧ d.Valid

/-! ### One descriptor -/

namespace Registry

variable {r : Registry} {d : Descriptor} {name : String}

theorem mem_names : name ∈ r.names ↔ (r.descriptor? name).isSome := r.functions.mem_keys_iff name

theorem register_of_invalid (h : ¬ d.Valid) :
    ∃ fault, r.register d = .error fault ∧ fault.code = .invalidDescriptor := by
  cases hcheck : d.check with
  | ok u => exact absurd (Descriptor.check_eq_ok.1 hcheck) h
  | error fault =>
    refine ⟨fault, ?_, Descriptor.code_of_check hcheck⟩
    rw [register, hcheck]

theorem register_of_taken (h : d.Valid) (htaken : d.name ∈ r.names) :
    r.register d = .error (.nameTaken d.name) := by
  have hcontains : r.functions.contains d.name = true := mem_names.1 htaken
  rw [register, Descriptor.check_eq_ok.2 h, hcontains]
  rfl

theorem register_of_free (h : d.Valid) (hfree : d.name ∉ r.names) :
    r.register d = .ok ⟨r.functions.insert d.name d⟩ := by
  have hcontains : r.functions.contains d.name = false := by
    rw [mem_names, Bool.not_eq_true] at hfree
    exact hfree
  rw [register, Descriptor.check_eq_ok.2 h, hcontains]
  rfl

/-- A descriptor is refused, or it comes to those there are. -/
theorem register_cases (r : Registry) (d : Descriptor) :
    (∃ fault, r.register d = .error fault ∧ fault.code = .invalidDescriptor ∧ ¬ d.Valid) ∨
      (r.register d = .error (.nameTaken d.name) ∧ d.Valid ∧ d.name ∈ r.names) ∨
        (r.register d = .ok ⟨r.functions.insert d.name d⟩ ∧ d.Valid ∧ d.name ∉ r.names) := by
  by_cases hvalid : d.Valid
  · by_cases htaken : d.name ∈ r.names
    · exact .inr (.inl ⟨register_of_taken hvalid htaken, hvalid, htaken⟩)
    · exact .inr (.inr ⟨register_of_free hvalid htaken, hvalid, htaken⟩)
  · obtain ⟨fault, hregister, hcode⟩ := register_of_invalid (r := r) hvalid
    exact .inl ⟨fault, hregister, hcode, hvalid⟩

theorem register_invalid_iff :
    (∃ fault, r.register d = .error fault ∧ fault.code = .invalidDescriptor) ↔ ¬ d.Valid := by
  constructor
  · rintro ⟨fault, hregister, hcode⟩ hvalid
    rcases register_cases r d with ⟨-, -, -, hinvalid⟩ | ⟨htaken, -⟩ | ⟨hfree, -⟩
    · exact hinvalid hvalid
    · rw [htaken] at hregister
      cases hregister
      cases hcode
    · rw [hfree] at hregister
      cases hregister
  · exact register_of_invalid

theorem register_duplicate_iff :
    (∃ fault, r.register d = .error fault ∧ fault.code = .duplicateFunction) ↔
      d.Valid ∧ d.name ∈ r.names := by
  constructor
  · rintro ⟨fault, hregister, hcode⟩
    rcases register_cases r d with ⟨fault', hinvalid, hcode', -⟩ | ⟨-, hvalid, htaken⟩ | ⟨hfree, -⟩
    · rw [hinvalid] at hregister
      cases hregister
      rw [hcode'] at hcode
      cases hcode
    · exact ⟨hvalid, htaken⟩
    · rw [hfree] at hregister
      cases hregister
  · rintro ⟨hvalid, htaken⟩
    exact ⟨_, register_of_taken hvalid htaken, rfl⟩

theorem register_ok_iff : (∃ r', r.register d = .ok r') ↔ d.Valid ∧ d.name ∉ r.names := by
  constructor
  · rintro ⟨r', hregister⟩
    rcases register_cases r d with ⟨fault, hinvalid, -⟩ | ⟨htaken, -⟩ | ⟨-, hvalid, hfree⟩
    · rw [hinvalid] at hregister
      cases hregister
    · rw [htaken] at hregister
      cases hregister
    · exact ⟨hvalid, hfree⟩
  · rintro ⟨hvalid, hfree⟩
    exact ⟨_, register_of_free hvalid hfree⟩

/-! ### Several descriptors -/

/-- How many descriptors are added when they are offered in order. -/
def added (r : Registry) : List Descriptor → Nat
  | [] => 0
  | d :: rest =>
    match r.register d with
    | .ok r' => r'.added rest + 1
    | .error _ => r.added rest

theorem registerAll_of_ok {r' : Registry} (h : r.register d = .ok r') (rest : List Descriptor) :
    (r.registerAll (d :: rest)).1 = (r'.registerAll rest).1 := by
  rw [registerAll, h]

theorem registerAll_of_error {fault : Fault} (h : r.register d = .error fault)
    (rest : List Descriptor) : (r.registerAll (d :: rest)).1 = (r.registerAll rest).1 := by
  rw [registerAll, h]

theorem registerAll_append (xs ys : List Descriptor) : ∀ r : Registry,
    (r.registerAll (xs ++ ys)).1 = ((r.registerAll xs).1.registerAll ys).1 := by
  induction xs with
  | nil =>
    intro r
    rfl
  | cons d xs ih =>
    intro r
    rw [List.cons_append]
    cases hregister : r.register d with
    | ok r' => rw [registerAll_of_ok hregister, registerAll_of_ok hregister, ih]
    | error fault => rw [registerAll_of_error hregister, registerAll_of_error hregister, ih]

/-- Under a name that is free the first valid descriptor stays. -/
theorem descriptor?_registerAll_eq (ds : List Descriptor) (name : String) : ∀ r : Registry,
    (r.registerAll ds).1.descriptor? name = (r.descriptor? name).or (firstValid? name ds) := by
  induction ds with
  | nil =>
    intro r
    exact (Option.or_none).symm
  | cons d rest ih =>
    intro r
    rw [firstValid?, List.find?_cons]
    rcases register_cases r d with ⟨fault, hregister, -, hinvalid⟩ | ⟨hregister, -, htaken⟩ |
      ⟨hregister, hvalid, hfree⟩
    · rw [registerAll_of_error hregister, ih]
      simp [hinvalid, firstValid?]
    · rw [registerAll_of_error hregister, ih]
      by_cases hname : d.name = name
      · obtain ⟨d', hd'⟩ := Option.isSome_iff_exists.1 (mem_names.1 (hname ▸ htaken))
        rw [hd', Option.some_or, Option.some_or]
      · simp [hname, firstValid?]
    · rw [registerAll_of_ok hregister, ih, descriptor?_of_register hregister]
      by_cases hname : d.name = name
      · have hnone : r.descriptor? name = none := by
          rw [← Option.not_isSome_iff_eq_none, ← mem_names, ← hname]
          exact hfree
        simp [hname, hvalid, hnone]
      · simp [hname, Ne.symm hname, firstValid?]

/-- What is added makes a registry larger, and what is refused does not. -/
theorem size_registerAll (ds : List Descriptor) : ∀ r : Registry,
    (r.registerAll ds).1.size = r.size + r.added ds := by
  induction ds with
  | nil =>
    intro r
    rfl
  | cons d rest ih =>
    intro r
    rw [added]
    rcases register_cases r d with ⟨fault, hregister, -⟩ | ⟨hregister, -⟩ | ⟨hregister, -, hfree⟩
    · rw [registerAll_of_error hregister, ih, hregister]
    · rw [registerAll_of_error hregister, ih, hregister]
    · have hnone : r.functions.get? d.name = none := by
        rw [← Option.not_isSome_iff_eq_none]
        exact fun h => hfree (mem_names.2 h)
      have hsize : Registry.size ⟨r.functions.insert d.name d⟩ = r.size + 1 :=
        r.functions.size_insert hnone d
      rw [registerAll_of_ok hregister, ih, hregister, hsize, Nat.add_right_comm]
      rfl

end Registry

/-! ### Histories of a registry -/

/-- A request to a registry: to add a descriptor, or all standard functions. -/
inductive Enrolment where
  | register (d : Descriptor)
  | installStandard (loader : Loader)

/-- The descriptors that a request offers. -/
def Enrolment.offers : Enrolment → List Descriptor
  | register d => [d]
  | installStandard loader => standardFunctions loader

/-- The descriptors that requests offer, in order. -/
def offered (history : List Enrolment) : List Descriptor := history.flatMap Enrolment.offers

namespace Registry

/-- The registry after a request, and the answer to it. -/
def enrol (r : Registry) : Enrolment → Registry × Except Fault Unit
  | .register d =>
    match r.register d with
    | .ok r' => (r', .ok ())
    | .error fault => (r, .error fault)
  | .installStandard loader => Builtins.installStandard r loader

/-- The registry after several requests. -/
def enrolAll (r : Registry) (history : List Enrolment) : Registry :=
  history.foldl (fun r e => (r.enrol e).1) r

theorem enrol_fst (r : Registry) (e : Enrolment) :
    (r.enrol e).1 = (r.registerAll e.offers).1 := by
  cases e with
  | register d =>
    rw [enrol, Enrolment.offers, registerAll]
    cases r.register d <;> rfl
  | installStandard loader =>
    rw [enrol, Enrolment.offers, installStandard]
    rcases r.registerAll (standardFunctions loader) with ⟨r', _ | ⟨failure, failures⟩⟩ <;> rfl

/-- Requests offer their descriptors one after the other. -/
theorem enrolAll_eq (history : List Enrolment) : ∀ r : Registry,
    r.enrolAll history = (r.registerAll (offered history)).1 := by
  induction history with
  | nil =>
    intro r
    rfl
  | cons e history ih =>
    intro r
    have hfold : r.enrolAll (e :: history) = (r.enrol e).1.enrolAll history := rfl
    have hoffered : offered (e :: history) = e.offers ++ offered history := List.flatMap_cons
    rw [hfold, ih, enrol_fst, hoffered, registerAll_append]

/-- A registry that was empty holds the first valid descriptor of each name. -/
theorem descriptor?_enrolAll_empty (history : List Enrolment) (name : String) :
    (Registry.empty.enrolAll history).descriptor? name = firstValid? name (offered history) := by
  rw [enrolAll_eq, descriptor?_registerAll_eq]
  rfl

/-- What it holds is valid, and stands under its own name. -/
theorem valid_of_enrolled {history : List Enrolment} {name : String} {d : Descriptor}
    (hd : (Registry.empty.enrolAll history).descriptor? name = some d) : d.name = name ∧ d.Valid := by
  rw [descriptor?_enrolAll_empty, firstValid?] at hd
  simpa using List.find?_some hd

/-- What a registry owes to those who register, after what it was offered. -/
structure KeepsFirst (r : Registry) (history : List Enrolment) : Prop where
  /-- What it holds is valid, and stands under its own name. -/
  valid : ∀ {name d}, r.descriptor? name = some d → d.name = name ∧ d.Valid
  /-- Under each name it holds the first valid descriptor that was offered. -/
  first : ∀ name, r.descriptor? name = firstValid? name (offered history)
  /-- What it holds it never gives up. -/
  stays : ∀ {name d} (later : List Enrolment), r.descriptor? name = some d →
    (r.enrolAll later).descriptor? name = some d
  /-- A descriptor that is not valid is refused as such, whether or not its name is taken. -/
  invalid : ∀ d, (∃ fault, r.register d = .error fault ∧ fault.code = .invalidDescriptor) ↔ ¬ d.Valid
  /-- A valid one is refused if its name is taken. -/
  duplicate : ∀ d, (∃ fault, r.register d = .error fault ∧ fault.code = .duplicateFunction) ↔
    d.Valid ∧ d.name ∈ r.names
  /-- All others are added. -/
  accepted : ∀ d, (∃ r', r.register d = .ok r') ↔ d.Valid ∧ d.name ∉ r.names
  /-- A refused descriptor leaves the registry as it was. -/
  unchanged : ∀ {d fault}, (r.enrol (.register d)).2 = .error fault →
    (r.enrol (.register d)).1 = r
  /-- There are as many functions as descriptors that were added. -/
  size : r.size = Registry.empty.added (offered history)
  /-- The names come in the order of their bytes. -/
  increasing : r.names.Pairwise fun a b => utf8 a < utf8 b
  /-- They are the names of the valid descriptors that were offered. -/
  names : ∀ name, name ∈ r.names ↔ ∃ d ∈ offered history, d.name = name ∧ d.Valid

/-- A registry that was empty keeps the first valid descriptor of each name, whatever it is offered. -/
theorem keepsFirst_of_enrolments (history : List Enrolment) :
    (Registry.empty.enrolAll history).KeepsFirst history := by
  refine ⟨valid_of_enrolled, descriptor?_enrolAll_empty history, ?_, fun d => register_invalid_iff,
    fun d => register_duplicate_iff, fun d => register_ok_iff, ?_, ?_, ?_, ?_⟩
  · intro name d later hd
    rw [enrolAll_eq later, descriptor?_registerAll_eq, hd, Option.some_or]
  · intro d fault h
    rw [enrol] at h ⊢
    cases hregister : (Registry.empty.enrolAll history).register d with
    | ok r' =>
      rw [hregister] at h
      cases h
    | error fault' => rfl
  · rw [enrolAll_eq, size_registerAll]
    exact Nat.zero_add _
  · exact (Table.keys_pairwise _).imp utf8_lt_utf8
  · intro name
    rw [mem_names, descriptor?_enrolAll_empty, firstValid?, List.find?_isSome]
    simp

/-- A name is offered three times: first with no tuple, then twice as it should be. -/
theorem keepsFirst_of_three_offers :
    let broken : Descriptor := ⟨"f", 1, [], .string, ""⟩
    let first := ofString "f" "first" .string fun s => pure (.string s)
    let second := ofString "f" "second" .string fun _ => pure (.string "")
    let history := [.register broken, .register first, .register second]
    let r := Registry.empty.enrolAll history
    r.descriptor? "f" = some first ∧ r.size = 1 ∧ ¬ broken.Valid ∧
      (r.enrolAll [.register broken, .register second]).descriptor? "f" = some first := by
  intro broken first second history r
  have hkeeps := keepsFirst_of_enrolments history
  have hfirst : r.descriptor? "f" = some first := (hkeeps.first "f").trans rfl
  exact ⟨hfirst, hkeeps.size, (hkeeps.invalid broken).1 ⟨_, rfl, rfl⟩, hkeeps.stays _ hfirst⟩

end Registry

end Builtins
