import Builtins.Standard

/-!
# Calls of the standard functions

A registry is asked by a name and a list of values.  An `Operation` is such a request when it fits one
of the standard functions.

* `Registry.Offers` — the standard functions are there, whatever else there is;
* `invoke_of_offers`, `operation_or_error` — a request for a standard function runs an operation, or
  it reaches no body; `dispatch_of_offers` — it is answered alike wherever there are these functions;
* `Registry.Hosts` — and every other function only takes uids, tells, and stores resources of its own
  under keys that navigation never makes (`Touches`);
* `invoke_other` — what such a function does on a request, which only touches the workspace;
* `hosts_of_installStandard`, `hosts_plain` — the standard functions are there once they could all be
  installed, as in the registry that has no other.
-/

namespace Builtins

/-! ### Requests that fit -/

/-- A call of a standard function with arguments of its kinds. -/
inductive Operation where
  | openDocument (name : String)
  | documentRoot (handle : String)
  | elementsByTag (handle tag : String)
  | listSize (handle : String)
  | listElement (handle : String) (index : Int64)
  | elementName (handle : String)
  | elementText (handle : String)
  | elementAttribute (handle key : String)
  | embedFile (name token : String)
deriving DecidableEq

namespace Operation

/-- The name of the function that is called. -/
def function : Operation → String
  | openDocument _ => "xml_open"
  | documentRoot _ => "xml_root"
  | elementsByTag _ _ => "xml_list"
  | listSize _ => "xml_size"
  | listElement _ _ => "xml_get"
  | elementName _ => "xml_name"
  | elementText _ => "xml_text"
  | elementAttribute _ _ => "xml_attr"
  | embedFile _ _ => "binfile"

/-- The arguments it is called with. -/
def arguments : Operation → List Value
  | openDocument name => [.string name]
  | documentRoot handle => [.string handle]
  | elementsByTag handle tag => [.string handle, .string tag]
  | listSize handle => [.string handle]
  | listElement handle index => [.string handle, .int index]
  | elementName handle => [.string handle]
  | elementText handle => [.string handle]
  | elementAttribute handle key => [.string handle, .string key]
  | embedFile name token => [.string name, .string token]

/-- What the call does. -/
def body (loader : Loader) : Operation → Call Value
  | openDocument name => .string <$> Builtins.openDocument loader name
  | documentRoot handle => .string <$> Builtins.documentRoot handle
  | elementsByTag handle tag => .string <$> Builtins.elementsByTag handle tag
  | listSize handle => do
    return .int (Int64.ofNat (min (← Builtins.listSize handle) 0x7FFFFFFFFFFFFFFF))
  | listElement handle index => .string <$> Builtins.listElement handle index
  | elementName handle => do return .string ((← elementAt handle).name?.getD "")
  | elementText handle => do return .string (← elementAt handle).textContent
  | elementAttribute handle key => do
    return .string (((← elementAt handle).attribute? key).getD "")
  | embedFile name token => Builtins.embedFile name token

end Operation

theorem args_of_string {args : List Value} (h : args.map Value.kind = [.string]) :
    ∃ s, args = [.string s] := by
  obtain ⟨v, rfl⟩ := List.length_eq_one_iff.1 (by simpa using congrArg List.length h)
  cases v with
  | string s => exact ⟨s, rfl⟩
  | _ => simp [Value.kind] at h

theorem args_of_pair {args : List Value} {k k' : Kind} (h : args.map Value.kind = [k, k']) :
    ∃ a b, args = [a, b] ∧ a.kind = k ∧ b.kind = k' := by
  match args, h with
  | [a, b], h =>
    obtain ⟨ha, hb⟩ := List.cons.inj h
    exact ⟨a, b, rfl, ha, (List.cons.inj hb).1⟩

theorem exists_string {v : Value} (h : v.kind = .string) : ∃ s, v = .string s := by
  cases v with
  | string s => exact ⟨s, rfl⟩
  | _ => cases h

theorem exists_int {v : Value} (h : v.kind = .int) : ∃ i, v = .int i := by
  cases v with
  | int i => exact ⟨i, rfl⟩
  | _ => cases h

theorem args_of_strings {args : List Value} (h : args.map Value.kind = [.string, .string]) :
    ∃ s t, args = [.string s, .string t] := by
  obtain ⟨a, b, rfl, ha, hb⟩ := args_of_pair h
  obtain ⟨s, rfl⟩ := exists_string ha
  obtain ⟨t, rfl⟩ := exists_string hb
  exact ⟨s, t, rfl⟩

/-- Arguments of the kinds that a standard function declares make an operation. -/
theorem operation_of_standard {loader : Loader} {d : Descriptor}
    (hd : d ∈ standardFunctions loader) {o : Overload} (ho : o ∈ d.overloads)
    {args : List Value} (hk : args.map Value.kind = o.kinds) :
    ∃ op : Operation, op.function = d.name ∧ op.arguments = args ∧ o.body args = op.body loader := by
  simp only [standardFunctions, xmlFunctions, List.cons_append, List.nil_append, List.mem_cons,
    List.not_mem_nil, or_false] at hd
  rcases hd with rfl | rfl | rfl | rfl | rfl | rfl | rfl | rfl | rfl <;>
    obtain rfl := List.mem_singleton.1 ho
  · obtain ⟨s, rfl⟩ := args_of_string hk
    exact ⟨.openDocument s, rfl, rfl, rfl⟩
  · obtain ⟨s, rfl⟩ := args_of_string hk
    exact ⟨.documentRoot s, rfl, rfl, rfl⟩
  · obtain ⟨s, t, rfl⟩ := args_of_strings hk
    exact ⟨.elementsByTag s t, rfl, rfl, rfl⟩
  · obtain ⟨s, rfl⟩ := args_of_string hk
    exact ⟨.listSize s, rfl, rfl, rfl⟩
  · obtain ⟨a, b, rfl, ha, hb⟩ := args_of_pair hk
    obtain ⟨s, rfl⟩ := exists_string ha
    obtain ⟨i, rfl⟩ := exists_int hb
    exact ⟨.listElement s i, rfl, rfl, rfl⟩
  · obtain ⟨s, rfl⟩ := args_of_string hk
    exact ⟨.elementName s, rfl, rfl, rfl⟩
  · obtain ⟨s, rfl⟩ := args_of_string hk
    exact ⟨.elementText s, rfl, rfl, rfl⟩
  · obtain ⟨s, t, rfl⟩ := args_of_strings hk
    exact ⟨.elementAttribute s t, rfl, rfl, rfl⟩
  · obtain ⟨s, t, rfl⟩ := args_of_strings hk
    exact ⟨.embedFile s t, rfl, rfl, rfl⟩

/-- Every operation is declared: its function has one overload, for the kinds of its arguments. -/
theorem standard_of_operation (loader : Loader) (op : Operation) :
    ∃ d ∈ standardFunctions loader, ∃ o, d.name = op.function ∧ d.overloads = [o] ∧
      o.kinds = op.arguments.map Value.kind ∧ d.arity = op.arguments.length ∧
      o.body op.arguments = op.body loader := by
  cases op <;>
    simp [standardFunctions, xmlFunctions, binaryFunction, ofString, ofStrings, Operation.function,
      Operation.arguments, Value.kind] <;> rfl

theorem exists_operation {loader : Loader} {d : Descriptor} (hd : d ∈ standardFunctions loader) :
    ∃ op : Operation, op.function = d.name := by
  simp only [standardFunctions, xmlFunctions, List.cons_append, List.nil_append, List.mem_cons,
    List.not_mem_nil, or_false] at hd
  rcases hd with rfl | rfl | rfl | rfl | rfl | rfl | rfl | rfl | rfl
  · exact ⟨.openDocument "", rfl⟩
  · exact ⟨.documentRoot "", rfl⟩
  · exact ⟨.elementsByTag "" "", rfl⟩
  · exact ⟨.listSize "", rfl⟩
  · exact ⟨.listElement "" 0, rfl⟩
  · exact ⟨.elementName "", rfl⟩
  · exact ⟨.elementText "", rfl⟩
  · exact ⟨.elementAttribute "" "", rfl⟩
  · exact ⟨.embedFile "" "", rfl⟩

/-! ### Requests to a registry -/

/-- A way from one workspace to another by taking uids, telling, and storing resources of no kind
that navigation knows, under keys of which `free` holds. -/
inductive Touches (free : String → Prop) (w : Workspace) : Workspace → Prop
  | refl : Touches free w w
  | takeUid {w' : Workspace} :
      Touches free w w' → Touches free w { w' with nextUid := w'.nextUid + 1 }
  | store {w' : Workspace} (key : String) (text : Option String) :
      free key → Touches free w w' →
        Touches free w { w' with cache := w'.cache.insert key (.other text) }
  | message {w' : Workspace} (text : String) :
      Touches free w w' → Touches free w { w' with notices := .message text :: w'.notices }
  | failure {w' : Workspace} (fault : Fault) :
      Touches free w w' → Touches free w { w' with notices := .failure fault :: w'.notices }

/-- A registry with the standard functions and a loader for them, whatever else it has. -/
def Registry.Offers (r : Registry) (loader : Loader) : Prop :=
  ∀ d ∈ standardFunctions loader, r.descriptor? d.name = some d

/-- A registry with the standard functions and a loader for them. Its other functions do no more than
`Touches` allows. -/
structure Registry.Hosts (r : Registry) (loader : Loader) (free : String → Prop) : Prop where
  standard : ∀ d ∈ standardFunctions loader, r.descriptor? d.name = some d
  other : ∀ name d, r.descriptor? name = some d →
    (∀ s ∈ standardFunctions loader, s.name ≠ name) →
      ∀ o ∈ d.overloads, ∀ args h w, Touches free w ((o.body args).outcome h w).2

namespace Registry

variable {r : Registry} {loader : Loader} {free : String → Prop}

theorem resolve_ok {name : String} {kinds : List Kind} {o : Overload}
    (h : r.resolve name kinds = .ok o) :
    ∃ d, r.descriptor? name = some d ∧ o ∈ d.overloads ∧ kinds = o.kinds := by
  unfold resolve at h
  split at h
  · cases h
  · rename_i d hd
    split at h
    · cases h
    · split at h
      · rename_i o' ho
        cases h
        have hk := List.find?_some ho
        exact ⟨d, hd, List.mem_of_find?_eq_some ho, (eq_of_beq hk).symm⟩
      · cases h

theorem Hosts.offers (hr : r.Hosts loader free) : r.Offers loader := hr.standard

/-- A request that is an operation runs its body. -/
theorem invoke_of_offers (hr : r.Offers loader) (op : Operation) :
    r.invoke op.function op.arguments = op.body loader := by
  obtain ⟨d, hd, o, hname, hover, hkinds, harity, hbody⟩ := standard_of_operation loader op
  have hdesc : r.descriptor? op.function = some d := hname ▸ hr d hd
  have hres : r.resolve op.function (op.arguments.map Value.kind) = .ok o := by
    simp [resolve, hdesc, harity, Descriptor.overload?, hover, hkinds]
  rw [invoke, hres]
  exact hbody

/-- Whatever else registries have, those with the same standard functions answer alike when these are
asked for. -/
theorem dispatch_of_offers {r' : Registry} (hr : r.Offers loader) (hr' : r'.Offers loader)
    (op : Operation) (args : List Value) :
    r.dispatch op.function args = r'.dispatch op.function args := by
  obtain ⟨d, hd, -, hname, -⟩ := standard_of_operation loader op
  have hdesc : r.descriptor? op.function = some d := hname ▸ hr d hd
  have hdesc' : r'.descriptor? op.function = some d := hname ▸ hr' d hd
  have hres : ∀ kinds, r.resolve op.function kinds = r'.resolve op.function kinds := by
    intro kinds
    rw [resolve, resolve, hdesc, hdesc']
  rw [dispatch, dispatch, invoke, invoke, hres]

/-- A request for a standard function is an operation, or its arguments do not fit. -/
theorem operation_or_error (hr : r.Offers loader) (op : Operation) (args : List Value) :
    (∃ op' : Operation, op'.function = op.function ∧ op'.arguments = args) ∨
      ∃ fault, r.resolve op.function (args.map Value.kind) = .error fault := by
  cases hres : r.resolve op.function (args.map Value.kind) with
  | error fault => exact .inr ⟨fault, rfl⟩
  | ok o =>
    obtain ⟨d, hd, ho, hk⟩ := resolve_ok hres
    obtain ⟨d', hd', -, hname, -⟩ := standard_of_operation loader op
    have hsame : d' = d := Option.some.inj ((hname ▸ hr d' hd').symm.trans hd)
    subst hsame
    obtain ⟨op', hop', hargs, -⟩ := operation_of_standard hd' ho hk
    exact .inl ⟨op', hop'.trans hname, hargs⟩

/-- Any other request only touches the workspace. -/
theorem invoke_other (hr : r.Hosts loader free) (name : String) (args : List Value)
    (hno : ∀ op : Operation, op.function = name → op.arguments ≠ args) (h : Host) (w : Workspace) :
    Touches free w ((r.invoke name args).outcome h w).2 := by
  rw [invoke, Call.outcome_bind, Call.outcome_ofExcept]
  cases hres : r.resolve name (args.map Value.kind) with
  | error fault => exact .refl
  | ok o =>
    obtain ⟨d, hd, ho, hk⟩ := resolve_ok hres
    refine hr.other name d hd (fun s hs hname => ?_) o ho args h w
    have hsd : s = d := Option.some.inj ((hname ▸ hr.standard s hs).symm.trans hd)
    obtain ⟨op, hop, hargs, -⟩ := operation_of_standard hs (hsd ▸ ho) hk
    exact hno op (hop.trans hname) hargs

/-! ### Registries that host -/

/-- What is registered stays, whatever is added. -/
theorem descriptor?_registerAll {ds : List Descriptor} {r r' : Registry}
    {failures : List (String × Fault)} (h : r.registerAll ds = (r', failures)) {name : String}
    {d : Descriptor} (hd : r.descriptor? name = some d) : r'.descriptor? name = some d := by
  induction ds generalizing r failures with
  | nil =>
    cases h
    exact hd
  | cons d' rest ih =>
    rw [registerAll] at h
    cases hreg : r.register d' with
    | error fault =>
      rw [hreg] at h
      obtain ⟨rfl, -⟩ := Prod.mk.inj h
      exact ih rfl hd
    | ok r₁ =>
      rw [hreg] at h
      refine ih h ?_
      have htaken : name ≠ d'.name := by
        intro he
        subst he
        rw [descriptor?] at hd
        rw [register] at hreg
        split at hreg
        · cases hreg
        · rw [if_pos (by rw [Table.contains, hd]; rfl)] at hreg
          cases hreg
      rw [descriptor?_of_register hreg, if_neg htaken, hd]

/-- When nothing fails, all that was to be added is there, and nothing else is new. -/
theorem descriptor?_of_registerAll {ds : List Descriptor} {r r' : Registry}
    (h : r.registerAll ds = (r', [])) :
    (∀ d ∈ ds, r'.descriptor? d.name = some d) ∧
      ∀ name, (∀ d ∈ ds, d.name ≠ name) → r'.descriptor? name = r.descriptor? name := by
  induction ds generalizing r with
  | nil =>
    cases h
    exact ⟨by simp, fun _ _ => rfl⟩
  | cons d rest ih =>
    rw [registerAll] at h
    cases hreg : r.register d with
    | error fault =>
      rw [hreg] at h
      simp at h
    | ok r₁ =>
      rw [hreg] at h
      obtain ⟨hall, hnew⟩ := ih h
      have hone := descriptor?_of_register hreg
      refine ⟨fun d' hd' => ?_, fun name hname => ?_⟩
      · rcases List.mem_cons.1 hd' with rfl | hrest
        · exact descriptor?_registerAll h (by rw [hone, if_pos rfl])
        · exact hall d' hrest
      · rw [hnew name fun d' hd' => hname d' (List.mem_cons_of_mem _ hd'), hone,
          if_neg (Ne.symm (hname d List.mem_cons_self))]

/-- A registry to which the standard functions could be added hosts them. -/
theorem hosts_of_installStandard {r r' : Registry} (h : installStandard r loader = (r', .ok ()))
    (hother : ∀ name d, r.descriptor? name = some d → ∀ o ∈ d.overloads, ∀ args h w,
      Touches free w ((o.body args).outcome h w).2) : r'.Hosts loader free := by
  rw [installStandard] at h
  split at h
  · rename_i r₁ hall
    cases h
    obtain ⟨hstandard, hrest⟩ := descriptor?_of_registerAll hall
    refine ⟨hstandard, fun name d hd hname => hother name d ?_⟩
    rw [← hrest name hname, hd]
  · cases h

/-- The registry with the standard functions and no other. -/
def plain (loader : Loader) : Registry := (installStandard empty loader).1

/-- Valid descriptors with names of their own can all be added where these names are free. -/
theorem registerAll_snd {ds : List Descriptor} {r : Registry} (hvalid : ∀ d ∈ ds, d.check = .ok ())
    (hfree : ∀ d ∈ ds, r.descriptor? d.name = none) (hdistinct : (ds.map (·.name)).Nodup) :
    (r.registerAll ds).2 = [] := by
  induction ds generalizing r with
  | nil => rfl
  | cons d rest ih =>
    have hname : r.functions.get? d.name = none := hfree d List.mem_cons_self
    obtain ⟨hnew, hrest⟩ := List.nodup_cons.1 hdistinct
    have hreg : r.register d = .ok ⟨r.functions.insert d.name d⟩ := by
      rw [register, hvalid d List.mem_cons_self, Table.contains, hname]
      rfl
    rw [registerAll, hreg]
    refine ih (fun d' hd' => hvalid d' (List.mem_cons_of_mem _ hd')) (fun d' hd' => ?_) hrest
    have hne : d'.name ≠ d.name := fun he =>
      hnew (List.mem_map.2 ⟨d', hd', he⟩)
    rw [descriptor?_of_register hreg, if_neg hne]
    exact hfree d' (List.mem_cons_of_mem _ hd')

theorem check_standard {loader : Loader} {d : Descriptor} (hd : d ∈ standardFunctions loader) :
    d.check = .ok () := by
  simp only [standardFunctions, xmlFunctions, List.cons_append, List.nil_append, List.mem_cons,
    List.not_mem_nil, or_false] at hd
  rcases hd with rfl | rfl | rfl | rfl | rfl | rfl | rfl | rfl | rfl <;> rfl

theorem names_standard (loader : Loader) :
    (standardFunctions loader).map (·.name) =
      ["xml_open", "xml_root", "xml_list", "xml_size", "xml_get", "xml_name", "xml_text", "xml_attr",
        "binfile"] := rfl

/-- The standard functions can all be added where none of their names is taken. -/
theorem installStandard_of_free {r : Registry} (loader : Loader)
    (hfree : ∀ d ∈ standardFunctions loader, r.descriptor? d.name = none) :
    installStandard r loader = ((installStandard r loader).1, .ok ()) := by
  have hdistinct : ((standardFunctions loader).map (·.name)).Nodup := by
    rw [names_standard]
    decide
  have hnone : (r.registerAll (standardFunctions loader)).2 = [] :=
    registerAll_snd (fun _ hd => check_standard hd) hfree hdistinct
  have hall : r.registerAll (standardFunctions loader) =
      ((r.registerAll (standardFunctions loader)).1, []) := Prod.ext rfl hnone
  rw [installStandard, hall]

theorem installStandard_empty (loader : Loader) :
    installStandard empty loader = (plain loader, .ok ()) :=
  installStandard_of_free loader fun _ _ => rfl

theorem hosts_plain (loader : Loader) (free : String → Prop) :
    (plain loader).Hosts loader free := by
  refine hosts_of_installStandard (installStandard_empty loader) fun name d hd => ?_
  cases hd

/-- All its functions are standard ones. -/
theorem standard_of_plain {loader : Loader} {name : String} {d : Descriptor}
    (hd : (plain loader).descriptor? name = some d) : ∃ op : Operation, op.function = name := by
  have hinstall := installStandard_empty loader
  rw [installStandard] at hinstall
  split at hinstall
  · rename_i r hall
    obtain rfl : r = plain loader := congrArg Prod.fst hinstall
    refine Classical.byContradiction fun hno => ?_
    have hrest := (descriptor?_of_registerAll hall).2 name fun d' hd' hname =>
      hno (hname ▸ exists_operation hd')
    rw [hd] at hrest
    cases hrest
  · cases congrArg Prod.snd hinstall

end Registry

/-- The registry that says nothing else hosts the standard functions. -/
theorem hosts_standard (free : String → Prop) :
    Registry.standard.Hosts (Loader.parsing "standard") free :=
  Registry.hosts_plain (Loader.parsing "standard") free

end Builtins
