import Builtins.Proofs.Function.Resolution
import Builtins.Proofs.Run.History

/-!
# Dispatch

A call runs the one body that its function declares for the kinds of the arguments, or none.

* `Registry.Selects` — the body that a call runs; `resolve_eq_ok_iff` — it is the one that is found;
* `Call.Gives` — a call whose results are of one kind, `Descriptor.KeepsWord` — a function of such;
* `Descriptor.keepsWord_standard` — each standard function is one, `Registry.Selects.asInt` — and finds
  the number that it declares;
* `Registry.DispatchesSoundly` — what declared kinds promise to those who call;
* `dispatchesSoundly_of_enrolments` — the promise is kept, whatever was registered.
-/

namespace Builtins

/-! ### The body that is run -/

/-- A call is for this body: its function declares it for exactly the kinds of the arguments, one by
one, and declares no other for them. -/
structure Registry.Selects (r : Registry) (name : String) (args : List Value) (d : Descriptor)
    (o : Overload) : Prop where
  found : r.descriptor? name = some d
  declared : o ∈ d.overloads
  kinds : o.kinds = args.map Value.kind
  count : args.length = d.arity
  only : ∀ o' ∈ d.overloads, o'.kinds = args.map Value.kind → o' = o

namespace Registry

variable {r : Registry} {name : String} {args : List Value}

/-- Where all descriptors are valid, the body that is found is the one that a call is for. -/
theorem resolve_eq_ok_iff (hr : ∀ {name d}, r.descriptor? name = some d → d.Valid) {o : Overload} :
    r.resolve name (args.map Value.kind) = .ok o ↔ ∃ d, r.Selects name args d o := by
  rw [resolve_ok_iff hr]
  constructor
  · rintro ⟨d, hfound, hdeclared, hkinds⟩
    have hvalid := hr hfound
    have hcount : args.length = d.arity := by
      rw [← hvalid.length_kinds hdeclared, hkinds, List.length_map]
    refine ⟨d, hfound, hdeclared, hkinds, hcount, fun o' ho' hkinds' => ?_⟩
    exact hvalid.eq_of_kinds ho' hdeclared (hkinds'.trans hkinds.symm)
  · rintro ⟨d, hfound, hdeclared, hkinds, -⟩
    exact ⟨d, hfound, hdeclared, hkinds⟩

/-- A call that runs a body ends as the body does, and reports its failure. -/
theorem outcome_of_resolve {o : Overload} (h : r.resolve name (args.map Value.kind) = .ok o)
    (host : Host) (w : Workspace) :
    (r.dispatch name args).outcome host w =
      (((o.body args).outcome host w).1,
        closed ((o.body args).outcome host w).1 ((o.body args).outcome host w).2) := by
  have hinvoke : (r.invoke name args).outcome host w = (o.body args).outcome host w := by
    rw [invoke, Call.outcome_bind, Call.outcome_ofExcept, h]
  rw [outcome_dispatch, hinvoke]
  rcases (o.body args).outcome host w with ⟨_ | _, _⟩ <;> rfl

/-- A call that finds no body only reports that. -/
theorem outcome_of_refused {fault : Fault} (h : r.resolve name (args.map Value.kind) = .error fault)
    (host : Host) (w : Workspace) :
    (r.dispatch name args).outcome host w = (.error fault, w.noteAll [.failure fault]) := by
  have hreply := reply_of_error (q := ⟨host, name, args⟩) h w
  exact Prod.ext (congrArg Reply.result hreply) (congrArg Reply.after hreply)

end Registry

/-! ### Bodies that keep their word -/

/-- A call whose results are all of one kind. -/
def Call.Gives (c : Call Value) (k : Kind) : Prop :=
  ∀ h w v w', c.outcome h w = (.ok v, w') → v.kind = k

namespace Call

variable {α : Type} {k : Kind}

theorem gives_pure {v : Value} (hv : v.kind = k) : (pure v : Call Value).Gives k := by
  intro h w v' w' hout
  cases hout
  exact hv

/-- The kind of a result is settled by what comes last. -/
theorem gives_bind {c : Call α} {f : α → Call Value} (hf : ∀ a, (f a).Gives k) :
    (c >>= f).Gives k := by
  intro h w v w' hout
  rw [outcome_bind] at hout
  split at hout
  · exact hf _ _ _ _ _ hout
  · cases hout

theorem gives_string (c : Call String) : (Value.string <$> c).Gives .string := by
  rw [← bind_pure_comp]
  exact gives_bind fun _ => gives_pure rfl

end Call

theorem gives_embedFile (name token : String) : (embedFile name token).Gives .string :=
  Call.gives_bind fun _ => Call.gives_bind fun _ => Call.gives_bind fun _ => Call.gives_bind fun _ =>
    Call.gives_pure rfl

variable {args : List Value}

theorem argument_append {i : Nat} (h : i < args.length) (extra : List Value) :
    argument (args ++ extra) i = argument args i := by
  rw [argument, argument, List.getD_eq_getElem?_getD, List.getElem?_append_left h,
    List.getD_eq_getElem?_getD]

/-- There is an argument wherever one is read that the descriptor declares. -/
theorem getElem?_argument {i : Nat} (h : i < args.length) : args[i]? = some (argument args i) := by
  rw [argument, List.getD_eq_getElem?_getD, List.getElem?_eq_getElem h, Option.getD_some]

namespace Descriptor

/-- The bodies of a function give what its descriptor says, and look at no argument behind those that
it declares: what might follow these makes no difference. -/
structure KeepsWord (d : Descriptor) : Prop where
  gives : ∀ o ∈ d.overloads, ∀ args, (o.body args).Gives d.result
  within : ∀ o ∈ d.overloads, ∀ args extra, args.length = d.arity →
    o.body (args ++ extra) = o.body args

variable {name reference : String} {k : Kind}

theorem keepsWord_ofString {body : String → Call Value} (h : ∀ s, (body s).Gives k) :
    (ofString name reference k body).KeepsWord := by
  constructor
  · intro o ho args
    obtain rfl := List.mem_singleton.1 ho
    exact h _
  · intro o ho args extra hcount
    obtain rfl := List.mem_singleton.1 ho
    have hfirst : 0 < args.length := hcount ▸ Nat.zero_lt_succ 0
    simp only [argument_append hfirst]

theorem keepsWord_ofStrings {body : String → String → Call Value} (h : ∀ s t, (body s t).Gives k) :
    (ofStrings name reference k body).KeepsWord := by
  constructor
  · intro o ho args
    obtain rfl := List.mem_singleton.1 ho
    exact h _ _
  · intro o ho args extra hcount
    obtain rfl := List.mem_singleton.1 ho
    have hfirst : 0 < args.length := hcount ▸ Nat.zero_lt_succ 1
    have hsecond : 1 < args.length := hcount ▸ Nat.lt_succ_self 1
    simp only [argument_append hfirst, argument_append hsecond]

/-- Every standard function keeps its word. -/
theorem keepsWord_standard {loader : Loader} {d : Descriptor} (hd : d ∈ standardFunctions loader) :
    d.KeepsWord := by
  simp only [standardFunctions, xmlFunctions, List.cons_append, List.nil_append, List.mem_cons,
    List.not_mem_nil, or_false] at hd
  rcases hd with rfl | rfl | rfl | rfl | rfl | rfl | rfl | rfl | rfl
  · exact keepsWord_ofString fun _ => Call.gives_string _
  · exact keepsWord_ofString fun _ => Call.gives_string _
  · exact keepsWord_ofStrings fun _ _ => Call.gives_string _
  · exact keepsWord_ofString fun _ => Call.gives_bind fun _ => Call.gives_pure rfl
  · constructor
    · intro o ho args
      obtain rfl := List.mem_singleton.1 ho
      exact Call.gives_bind fun _ => Call.gives_string _
    · intro o ho args extra hcount
      obtain rfl := List.mem_singleton.1 ho
      have hfirst : 0 < args.length := hcount ▸ Nat.zero_lt_succ 1
      have hsecond : 1 < args.length := hcount ▸ Nat.lt_succ_self 1
      simp only [argument_append hfirst, argument_append hsecond]
  · exact keepsWord_ofString fun _ => Call.gives_bind fun _ => Call.gives_pure rfl
  · exact keepsWord_ofString fun _ => Call.gives_bind fun _ => Call.gives_pure rfl
  · exact keepsWord_ofStrings fun _ _ => Call.gives_bind fun _ => Call.gives_pure rfl
  · exact keepsWord_ofStrings gives_embedFile

end Descriptor

/-- The index of an element is an integer whenever its function is called at all. -/
theorem Registry.Selects.asInt {r : Registry} {loader : Loader} {d : Descriptor} {o : Overload}
    (h : r.Selects d.name args d o) (hd : d ∈ standardFunctions loader) (hname : d.name = "xml_get") :
    ∃ i, (argument args 1).asInt = .ok i := by
  obtain ⟨op, hop, rfl, -⟩ := operation_of_standard hd h.declared h.kinds.symm
  rw [hname] at hop
  cases op with
  | listElement handle index => exact ⟨index, rfl⟩
  | _ => simp [Operation.function] at hop

/-! ### What is promised -/

/-- What declared kinds promise to those who call. -/
structure Registry.DispatchesSoundly (r : Registry) : Prop where
  /-- A call runs no body, and then nothing happens but a report; or it runs one that is declared for
  its arguments, and then nothing happens but what that body does, and a report if it fails. -/
  runs : ∀ name args,
    ((∀ d o, ¬ r.Selects name args d o) ∧ ∃ fault, ∀ h w,
      (r.dispatch name args).outcome h w = (.error fault, w.noteAll [.failure fault])) ∨
    ∃ d o, r.Selects name args d o ∧ ∀ h w, (r.dispatch name args).outcome h w =
      (((o.body args).outcome h w).1,
        closed ((o.body args).outcome h w).1 ((o.body args).outcome h w).2)
  /-- Where a standard function reads an argument there is one, and it reads no others. -/
  within : ∀ {loader d o args}, d ∈ standardFunctions loader → r.Selects d.name args d o →
    (∀ i < d.arity, args[i]? = some (argument args i)) ∧
      ∀ extra, o.body (args ++ extra) = o.body args
  /-- The index of an element is an integer. -/
  index : ∀ {loader d o args}, d ∈ standardFunctions loader → d.name = "xml_get" →
    r.Selects d.name args d o → ∃ i, (argument args 1).asInt = .ok i
  /-- A standard function gives results of the kind that it declares. -/
  result : ∀ {loader d args h w v w'}, d ∈ standardFunctions loader →
    r.descriptor? d.name = some d → (r.dispatch d.name args).outcome h w = (.ok v, w') →
      v.kind = d.result

namespace Registry

/-- The promise is kept, whatever was registered. -/
theorem dispatchesSoundly_of_enrolments (history : List Enrolment) :
    (Registry.empty.enrolAll history).DispatchesSoundly := by
  have hvalid : ∀ {name d}, (Registry.empty.enrolAll history).descriptor? name = some d → d.Valid :=
    fun hd => (valid_of_enrolled hd).2
  generalize Registry.empty.enrolAll history = r at hvalid
  have hresolve : ∀ {name args o}, r.resolve name (args.map Value.kind) = .ok o ↔
      ∃ d, r.Selects name args d o := resolve_eq_ok_iff hvalid
  constructor
  · intro name args
    cases hfound : r.resolve name (args.map Value.kind) with
    | error fault =>
      refine .inl ⟨fun d o hselects => ?_, fault, outcome_of_refused hfound⟩
      rw [hresolve.2 ⟨d, hselects⟩] at hfound
      cases hfound
    | ok o =>
      obtain ⟨d, hselects⟩ := hresolve.1 hfound
      exact .inr ⟨d, o, hselects, outcome_of_resolve hfound⟩
  · intro loader d o args hd hselects
    refine ⟨fun i hi => getElem?_argument (hselects.count ▸ hi), fun extra => ?_⟩
    exact (Descriptor.keepsWord_standard hd).within o hselects.declared args extra hselects.count
  · intro loader d o args hd hname hselects
    exact hselects.asInt hd hname
  · intro loader d args h w v w' hd hinstalled hout
    cases hfound : r.resolve d.name (args.map Value.kind) with
    | error fault =>
      rw [outcome_of_refused hfound] at hout
      cases hout
    | ok o =>
      obtain ⟨d', hselects⟩ := hresolve.1 hfound
      obtain rfl : d = d' := Option.some.inj (hinstalled.symm.trans hselects.found)
      rw [outcome_of_resolve hfound] at hout
      have hbody := (Prod.mk.inj hout).1
      exact (Descriptor.keepsWord_standard hd).gives o hselects.declared args h w v _
        (Prod.ext hbody rfl)

/-- The size of an empty list. -/
theorem dispatchesSoundly_size :
    let r := Registry.empty.enrolAll [.installStandard (Loader.parsing "l")]
    let host : Host := ⟨fun name => .ok name, fun _ => .error .absent, false⟩
    let w : Workspace := ⟨Table.empty.insert "l" (.nodeList ⟨1, .nodes []⟩), 2, []⟩
    (∃ d o, r.Selects "xml_size" [.string "l"] d o ∧ o.body [.string "l", .boolean true] =
        o.body [.string "l"]) ∧
      ∃ v, (r.dispatch "xml_size" [.string "l"]).outcome host w = (.ok v, w) ∧ v.kind = .int := by
  intro r host w
  have hsound : r.DispatchesSoundly := dispatchesSoundly_of_enrolments _
  have hout : (r.dispatch "xml_size" [.string "l"]).outcome host w = (.ok (.int 0), w) := rfl
  have hd : ∃ d ∈ standardFunctions (Loader.parsing "l"), d.name = "xml_size" ∧ d.result = .int ∧
      r.descriptor? "xml_size" = some d :=
    ⟨_, .tail _ (.tail _ (.tail _ (.head _))), rfl, rfl, rfl⟩
  obtain ⟨d, hd, hname, hresult, hfound⟩ := hd
  refine ⟨?_, .int 0, hout, ?_⟩
  · rcases hsound.runs "xml_size" [.string "l"] with ⟨-, fault, hfault⟩ | ⟨d', o, hselects, -⟩
    · rw [hfault] at hout
      cases hout
    · obtain rfl : d = d' := Option.some.inj (hfound.symm.trans hselects.found)
      exact ⟨d, o, hselects, (hsound.within hd (hname ▸ hselects)).2 [.boolean true]⟩
  · rw [← hresult]
    exact hsound.result hd (hname ▸ hfound) (hname ▸ hout)

end Registry

end Builtins
