import Builtins.Proofs.Function.Registration
import Mathlib.Data.List.Nodup

/-!
# Installation beside other functions

A registry to which the standard functions are added may hold functions already, under their names or
under others. What is free is filled in, what is taken stays, and the answer names what was taken.

* `Registry.taken` — the names among some descriptors that a registry holds, in their order;
* `Registry.refusals_registerAll` — these are the ones that are refused, each for its name;
* `Registry.registerAll_of_taken` — where all names are taken nothing is changed;
* `Registry.FillsIn` — what an installation leaves behind and what it answers;
* `Registry.fillsIn_standard` — so it is for every registry.
-/

namespace Builtins

namespace Registry

/-- The names of descriptors that a registry holds already, in the order of the descriptors. -/
def taken (r : Registry) (ds : List Descriptor) : List String :=
  (ds.map (·.name)).filter fun name => name ∈ r.names

variable {r r' : Registry} {d : Descriptor} {ds : List Descriptor}

theorem mem_taken {name : String} : name ∈ r.taken ds ↔ (∃ d ∈ ds, d.name = name) ∧ name ∈ r.names := by
  simp [taken]

theorem taken_eq_nil_iff : r.taken ds = [] ↔ ∀ d ∈ ds, d.name ∉ r.names := by
  rw [List.eq_nil_iff_forall_not_mem]
  constructor
  · intro h d hd hmem
    exact h d.name (mem_taken.2 ⟨⟨d, hd, rfl⟩, hmem⟩)
  · intro h name hname
    obtain ⟨⟨d, hd, rfl⟩, hmem⟩ := mem_taken.1 hname
    exact h d hd hmem

theorem taken_cons_of_mem (h : d.name ∈ r.names) : r.taken (d :: ds) = d.name :: r.taken ds := by
  rw [taken, List.map_cons, List.filter_cons_of_pos (by simpa using h), taken]

theorem taken_cons_of_not_mem (h : d.name ∉ r.names) : r.taken (d :: ds) = r.taken ds := by
  rw [taken, List.map_cons, List.filter_cons_of_neg (by simpa using h), taken]

theorem taken_of_forall_mem (h : ∀ d ∈ ds, d.name ∈ r.names) : r.taken ds = ds.map (·.name) := by
  rw [taken, List.filter_eq_self]
  intro name hname
  obtain ⟨d, hd, rfl⟩ := List.mem_map.1 hname
  exact decide_eq_true (h d hd)

/-- After a registration the other names are taken or free as they were. -/
theorem mem_names_of_register (h : r.register d = .ok r') {name : String} :
    name ∈ r'.names ↔ name = d.name ∨ name ∈ r.names := by
  rw [mem_names, mem_names, descriptor?_of_register h]
  by_cases hname : name = d.name
  · simp [hname]
  · simp [hname]

theorem taken_of_register (h : r.register d = .ok r') (hnew : d.name ∉ ds.map (·.name)) :
    r'.taken ds = r.taken ds := by
  refine List.filter_congr fun name hname => decide_eq_decide.2 ?_
  have hne : name ≠ d.name := fun he => hnew (he ▸ hname)
  rw [mem_names_of_register h, or_iff_right hne]

/-- Of valid descriptors with names of their own, those whose names are taken are refused. -/
theorem refusals_registerAll (hvalid : ∀ d ∈ ds, d.Valid) (hdistinct : (ds.map (·.name)).Nodup) :
    (r.registerAll ds).2 = (r.taken ds).map fun name => (name, .nameTaken name) := by
  induction ds generalizing r with
  | nil => rfl
  | cons d rest ih =>
    obtain ⟨hd, hrest⟩ := List.forall_mem_cons.1 hvalid
    obtain ⟨hnew, hnames⟩ := List.nodup_cons.1 hdistinct
    by_cases htaken : d.name ∈ r.names
    · rw [registerAll, register_of_taken hd htaken, taken_cons_of_mem htaken, List.map_cons,
        ← ih hrest hnames]
    · have hregister := register_of_free hd htaken
      rw [registerAll, hregister, taken_cons_of_not_mem htaken, ← taken_of_register hregister hnew]
      exact ih hrest hnames

/-- Where all names are taken nothing is changed. -/
theorem registerAll_of_taken (hvalid : ∀ d ∈ ds, d.Valid) (htaken : ∀ d ∈ ds, d.name ∈ r.names) :
    (r.registerAll ds).1 = r := by
  induction ds with
  | nil => rfl
  | cons d rest ih =>
    obtain ⟨hd, hrest⟩ := List.forall_mem_cons.1 hvalid
    obtain ⟨htaken, hnames⟩ := List.forall_mem_cons.1 htaken
    rw [registerAll_of_error (register_of_taken hd htaken)]
    exact ih hrest hnames

/-! ### The standard functions -/

variable {loader : Loader}

theorem valid_standard (hd : d ∈ standardFunctions loader) : d.Valid :=
  Descriptor.check_eq_ok.1 (check_standard hd)

theorem nodup_names_standard (loader : Loader) : ((standardFunctions loader).map (·.name)).Nodup := by
  rw [names_standard]
  decide

/-- Each standard function is the first valid one with its name. -/
theorem firstValid?_standard (hd : d ∈ standardFunctions loader) :
    firstValid? d.name (standardFunctions loader) = some d := by
  obtain ⟨found, hfound⟩ : ∃ found, firstValid? d.name (standardFunctions loader) = some found := by
    rw [← Option.isSome_iff_exists, firstValid?, List.find?_isSome]
    exact ⟨d, hd, by simpa using valid_standard hd⟩
  rw [firstValid?] at hfound
  have hname : found.name = d.name ∧ found.Valid := by simpa using List.find?_some hfound
  have hsame := List.inj_on_of_nodup_map (nodup_names_standard loader)
    (List.mem_of_find?_eq_some hfound) hd hname.1
  rw [firstValid?, hfound, hsame]

theorem installStandard_fst (r : Registry) (loader : Loader) :
    (installStandard r loader).1 = (r.registerAll (standardFunctions loader)).1 :=
  enrol_fst r (.installStandard loader)

/-- An installation answers by the names that were taken. -/
theorem installStandard_snd (r : Registry) (loader : Loader) :
    (installStandard r loader).2 =
      match r.taken (standardFunctions loader) with
      | [] => .ok ()
      | name :: rest => .error (.builtinsTaken (.nameTaken name) (name :: rest)) := by
  have hrefusals := @refusals_registerAll r _ (fun d hd => valid_standard hd)
    (nodup_names_standard loader)
  rw [installStandard]
  generalize r.registerAll (standardFunctions loader) = outcome at hrefusals ⊢
  obtain ⟨r', refusals⟩ := outcome
  cases htaken : r.taken (standardFunctions loader) with
  | nil =>
    rw [htaken] at hrefusals
    cases hrefusals
    rfl
  | cons name rest =>
    rw [htaken] at hrefusals
    cases hrefusals
    show Except.error (Fault.builtinsTaken _ (name :: List.map _ (List.map _ rest))) = _
    rw [List.map_map]
    show Except.error (Fault.builtinsTaken _ (name :: List.map id rest)) = _
    rw [List.map_id]

/-- A refused installation: it counts as a double registration, names its cause, and lists names. -/
structure ListsTaken (answer : Except Fault Unit) (names : List String) : Prop where
  refused : ∃ fault, answer = .error fault ∧ fault.code = .duplicateFunction ∧
    fault.message = "builtins not registered: " ++ String.intercalate ", " names ∧
      ∃ first ∈ names.head?, fault.cause? = some (Fault.nameTaken first).report
  /-- Each name is listed once. -/
  once : names.Nodup

theorem listsTaken_standard (h : r.taken (standardFunctions loader) ≠ []) :
    ListsTaken (installStandard r loader).2 (r.taken (standardFunctions loader)) := by
  refine ⟨?_, (nodup_names_standard loader).filter _⟩
  rw [installStandard_snd]
  cases htaken : r.taken (standardFunctions loader) with
  | nil => exact absurd htaken h
  | cons name rest => exact ⟨_, rfl, rfl, rfl, name, rfl, rfl⟩

theorem registered_standard (r : Registry) (hd : d ∈ standardFunctions loader) :
    d.name ∈ (installStandard r loader).1.names := by
  rw [mem_names, installStandard_fst, descriptor?_registerAll_eq, firstValid?_standard hd]
  cases r.descriptor? d.name with
  | none => rfl
  | some d' => rfl

/-- After an installation the names of all standard functions are taken, for the next one too. -/
theorem registered_again (r : Registry) (loader loader' : Loader) (hd : d ∈ standardFunctions loader') :
    d.name ∈ (installStandard r loader).1.names := by
  have hname : d.name ∈ (standardFunctions loader).map (·.name) := by
    rw [names_standard, ← names_standard loader']
    exact List.mem_map_of_mem hd
  obtain ⟨d', hd', hsame⟩ := List.mem_map.1 hname
  rw [← hsame]
  exact registered_standard r hd'

/-- An installation is well exactly if no name was taken. -/
theorem installStandard_eq_ok_iff :
    (installStandard r loader).2 = .ok () ↔ r.taken (standardFunctions loader) = [] := by
  rw [installStandard_snd]
  cases r.taken (standardFunctions loader) with
  | nil => exact iff_of_true rfl rfl
  | cons name rest => exact iff_of_false (fun h => by cases h) (List.cons_ne_nil _ _)

/-- What an installation leaves behind in a registry, and what it answers. -/
structure FillsIn (r : Registry) (loader : Loader) : Prop where
  /-- Every standard function has its name registered. -/
  registered : ∀ d ∈ standardFunctions loader, d.name ∈ (installStandard r loader).1.names
  /-- Whatever was registered stays. -/
  kept : ∀ {name d}, r.descriptor? name = some d →
    (installStandard r loader).1.descriptor? name = some d
  /-- A name that was free has its standard function. -/
  filled : ∀ d ∈ standardFunctions loader, d.name ∉ r.names →
    (installStandard r loader).1.descriptor? d.name = some d
  /-- No other name is added. -/
  noOther : ∀ name ∈ (installStandard r loader).1.names,
    name ∈ r.names ∨ ∃ d ∈ standardFunctions loader, d.name = name
  /-- All is well if and only if none of the names was taken. -/
  accepted : (installStandard r loader).2 = .ok () ↔
    ∀ d ∈ standardFunctions loader, d.name ∉ r.names
  /-- Otherwise the answer lists the names that were taken. -/
  refused : (∃ d ∈ standardFunctions loader, d.name ∈ r.names) →
    ListsTaken (installStandard r loader).2 (r.taken (standardFunctions loader))
  /-- A second installation changes nothing. -/
  unchanged : ∀ loader', (installStandard (installStandard r loader).1 loader').1 =
    (installStandard r loader).1
  /-- Its answer lists all names. -/
  refusedAgain : ∀ loader', ListsTaken (installStandard (installStandard r loader).1 loader').2
    ((standardFunctions loader').map (·.name))

/-- An installation fills in what is free, whatever the registry holds. -/
theorem fillsIn_standard (r : Registry) (loader : Loader) : r.FillsIn loader := by
  have hall : ∀ loader', ∀ d ∈ standardFunctions loader', d.name ∈ (installStandard r loader).1.names :=
    fun loader' _ hd => registered_again r loader loader' hd
  constructor
  case registered => exact fun d hd => registered_standard r hd
  case kept =>
    intro name d hd
    rw [installStandard_fst, descriptor?_registerAll_eq, hd, Option.some_or]
  case filled =>
    intro d hd hfree
    rw [mem_names, Option.not_isSome_iff_eq_none] at hfree
    rw [installStandard_fst, descriptor?_registerAll_eq, hfree, Option.none_or,
      firstValid?_standard hd]
  case noOther =>
    intro name hname
    rw [mem_names, installStandard_fst, descriptor?_registerAll_eq, Option.isSome_or,
      Bool.or_eq_true, ← mem_names] at hname
    refine hname.imp_right fun hfirst => ?_
    obtain ⟨d, hd, hfound⟩ := List.find?_isSome.1 hfirst
    exact ⟨d, hd, (of_decide_eq_true hfound).1⟩
  case accepted => rw [installStandard_eq_ok_iff, taken_eq_nil_iff]
  case refused =>
    rintro ⟨d, hd, hmem⟩
    exact listsTaken_standard fun hnil => taken_eq_nil_iff.1 hnil d hd hmem
  case unchanged =>
    intro loader'
    rw [installStandard_fst _ loader']
    exact registerAll_of_taken (fun d hd => valid_standard hd) (hall loader')
  case refusedAgain =>
    intro loader'
    rw [← taken_of_forall_mem (hall loader')]
    exact listsTaken_standard (by rw [taken_of_forall_mem (hall loader')]; exact List.cons_ne_nil _ _)

end Registry

end Builtins
