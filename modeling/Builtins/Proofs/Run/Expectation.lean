import Builtins.Proofs.Run.Access
import Builtins.Proofs.Run.Clients
import Builtins.Proofs.Run.Layout
import Builtins.Proofs.Run.Origin

/-!
# What clients can expect

What a step gives is settled by the script and the files: no cache, no uid and no other client has a
say in it.

* `Due`, `Step.due?` — what a step should give, told from what the steps before it should give;
* `expected` — the same for all steps of a script;
* `Due.Given`, `Meets` — that a call gave what was due, with the origin and the meaning of a handle;
* `given_opening`, `given_taking`, `given_asking` — when a call gives what is due;
* `meets_step` — so the next step of a script does, in a run whose surroundings stay fixed.
-/

namespace Builtins

/-! ### What is due -/

/-- What a step should give: a value, a handle of some origin that stands for something, or a
refusal. -/
inductive Due where
  | value (v : Value)
  | handle (o : Origin) (m : Meaning)
  | refused (code : FaultCode)

namespace Due

/-- A document is due if its name leads to a path from which it can be loaded. -/
def opening (loader : Loader) (h : Host) (name : String) : Due :=
  match h.resolve name with
  | .error fault => refused fault.code
  | .ok path =>
    match loader.load h path with
    | .error fault => refused fault.code
    | .ok d => handle (.document path.display) (.node (.top path.display d))

/-- The value or the refusal that a result is. -/
def ofResult : Except Fault Value → Due
  | .ok v => value v
  | .error fault => refused fault.code

/-- A file is embedded in the same way in every workspace. -/
def embedding (h : Host) (name token : String) : Due :=
  ofResult ((embedFile name token).outcome h Workspace.fresh).1

/-- A value that is taken for a handle is refused: it is not one that was given, or no text at all. -/
def taking (v : Value) : Due :=
  refused (if v.kind = .string then .unknownHandle else .argumentTypeMismatch)

/-- A question is answered as the tree functions do. -/
def asking (o : Origin) (m : Meaning) (q : Query) : Due :=
  match m.answer q with
  | .value v => value v
  | .handle m' => handle (.asked o q) m'
  | .refused code => refused code

end Due

/-- A step with what it should give; nothing is due from a step that is to be skipped. -/
structure Expectation where
  step : Step
  due? : Option Due

section Expected

variable (loader : Loader) (h : Host)

/-- What a step should give after others. -/
def Step.due? (earlier : List Expectation) : Step → Option Due
  | openDocument name => some (.opening loader h name)
  | embedFile name token => some (.embedding h name token)
  | ask source q =>
    match earlier[source]?.bind Expectation.due? with
    | some (.handle o m) => some (.asking o m q)
    | some (.value v) => some (.taking v)
    | _ => none

/-- What the steps of a script should give. -/
def expected (steps : List Step) : List Expectation :=
  steps.foldl (fun earlier step => earlier ++ [⟨step, step.due? loader h earlier⟩]) []

theorem expected_concat (steps : List Step) (step : Step) :
    expected loader h (steps ++ [step]) =
      expected loader h steps ++ [⟨step, step.due? loader h (expected loader h steps)⟩] := by
  rw [expected, List.foldl_append]
  rfl

end Expected

section Lemmas

variable {loader : Loader} {h : Host}

/-- Whatever is expected is due from a step. -/
theorem due?_of_mem {steps : List Step} {x : Expectation} (hx : x ∈ expected loader h steps) :
    ∃ earlier, x.due? = x.step.due? loader h earlier := by
  induction steps using List.reverseRecOn with
  | nil => cases hx
  | append_singleton steps step ih =>
    rw [expected_concat] at hx
    rcases List.mem_append.1 hx with hold | hnew
    · exact ih hold
    · obtain rfl := List.mem_singleton.1 hnew
      exact ⟨_, rfl⟩

/-! ### Which steps give handles -/

theorem Meaning.givesHandle_of_answer {m m' : Meaning} {q : Query} (hm : m.answer q = .handle m') :
    q.givesHandle = true := by
  cases q with
  | root => rfl
  | list tag => rfl
  | get index => rfl
  | _ => cases m <;> cases hm

theorem Meaning.not_givesHandle_of_answer {m : Meaning} {q : Query} {v : Value}
    (hm : m.answer q = .value v) : q.givesHandle = false := by
  cases q with
  | root =>
    cases m with
    | node p => rw [answer] at hm; split at hm <;> cases hm
    | list ps => cases hm
  | list tag => cases m <;> cases hm
  | get index =>
    cases m with
    | node p => cases hm
    | list ps => rw [answer] at hm; split at hm <;> cases hm
  | _ => rfl

theorem Due.exists_of_opening {name : String} {o : Origin} {m : Meaning}
    (hdue : opening loader h name = handle o m) :
    ∃ shown d, o = .document shown ∧ m = .node (.top shown d) := by
  rw [opening] at hdue
  split at hdue
  · cases hdue
  · rename_i path _
    split at hdue
    · cases hdue
    · rename_i d _
      cases hdue
      exact ⟨path.display, d, rfl, rfl⟩

/-- Handles are only due from steps that give them. -/
theorem givesHandle_of_due {earlier : List Expectation} {step : Step} {o : Origin} {m : Meaning}
    (hdue : step.due? loader h earlier = some (.handle o m)) : step.givesHandle = true := by
  cases step with
  | openDocument name => rfl
  | embedFile name token =>
    have hresult : Due.ofResult ((embedFile name token).outcome h Workspace.fresh).1 = _ :=
      Option.some.inj hdue
    generalize ((embedFile name token).outcome h Workspace.fresh).1 = result at hresult
    cases result <;> cases hresult
  | ask source q =>
    rw [Step.due?] at hdue
    split at hdue
    · rename_i o' m' _
      have hasked : Due.asking o' m' q = _ := Option.some.inj hdue
      rw [Due.asking] at hasked
      split at hasked
      · cases hasked
      · rename_i hanswer
        exact Meaning.givesHandle_of_answer hanswer
      · cases hasked
    · cases Option.some.inj hdue
    · cases hdue

/-- Values are only due from steps that give no handles. -/
theorem not_givesHandle_of_due {earlier : List Expectation} {step : Step} {v : Value}
    (hdue : step.due? loader h earlier = some (.value v)) : step.givesHandle = false := by
  cases step with
  | openDocument name =>
    have hopened : Due.opening loader h name = _ := Option.some.inj hdue
    rw [Due.opening] at hopened
    split at hopened
    · cases hopened
    · split at hopened <;> cases hopened
  | embedFile name token => rfl
  | ask source q =>
    rw [Step.due?] at hdue
    split at hdue
    · rename_i o' m' _
      have hasked : Due.asking o' m' q = _ := Option.some.inj hdue
      rw [Due.asking] at hasked
      split at hasked
      · rename_i hanswer
        exact Meaning.not_givesHandle_of_answer hanswer
      · cases hasked
      · cases hasked
    · cases Option.some.inj hdue
    · cases hdue

end Lemmas

/-! ### What is given -/

/-- A result is what was due, as far as a history and a cache can tell. -/
inductive Due.Given (loader : Loader) (history : List Reply) (cache : Cache) :
    Except Fault Value → Due → Prop
  | value (v : Value) : Given loader history cache (.ok v) (.value v)
  | handle {o : Origin} {m : Meaning} {k : Key} :
      Denotes loader history k.text m → Names cache o k →
        Given loader history cache (.ok (.string k.text)) (.handle o m)
  | refused (fault : Fault) : Given loader history cache (.error fault) (.refused fault.code)

theorem Due.Given.of_refused {loader : Loader} {history : List Reply} {cache : Cache}
    {result : Except Fault Value} {code : FaultCode}
    (hgiven : (Due.refused code).Given loader history cache result) :
    ∃ fault, result = .error fault ∧ fault.code = code := by
  cases hgiven with
  | refused fault => exact ⟨fault, rfl, rfl⟩

/-- A client saw what it could expect: a step is skipped when nothing is due from it. -/
inductive Meets (loader : Loader) (history : List Reply) (cache : Cache) :
    Expectation → Observation → Prop
  | skipped (step : Step) : Meets loader history cache ⟨step, none⟩ ⟨step, none⟩
  | called (step : Step) {due : Due} {result : Except Fault Value} :
      due.Given loader history cache result →
        Meets loader history cache ⟨step, some due⟩ ⟨step, some result⟩

/-- What was given was given, whatever comes later. -/
theorem Meets.mono {loader : Loader} {history later : List Reply} {cache cache' : Cache}
    {x : Expectation} {o : Observation} (hk : Keeps cache cache')
    (hmeets : Meets loader history cache x o) : Meets loader (history ++ later) cache' x o := by
  cases hmeets with
  | skipped step => exact .skipped step
  | @called step due result hgiven =>
    refine .called step ?_
    cases hgiven with
    | value v => exact .value v
    | refused fault => exact .refused fault
    | handle hm hn => exact .handle (hm.append later) (hn.mono hk)

/-- Observations of the same step that both meet what is expected are alike. -/
theorem Meets.alike {loader : Loader} {h : Host} {history history' : List Reply}
    {cache cache' : Cache} {steps : List Step} {x : Expectation} {o o' : Observation}
    (hx : x ∈ expected loader h steps) (hmeets : Meets loader history cache x o)
    (hmeets' : Meets loader history' cache' x o') : o.Alike o' := by
  obtain ⟨earlier, hdue⟩ := due?_of_mem hx
  cases hmeets with
  | skipped step => cases hmeets'; exact .skipped step
  | @called step due result hgiven =>
    cases hmeets' with
    | @called _ _ result' hgiven' =>
      cases due with
      | value v => cases hgiven; cases hgiven'; exact .value step v
      | handle origin m =>
        cases hgiven
        cases hgiven'
        exact .handle _ _ (givesHandle_of_due hdue.symm)
      | refused code =>
        obtain ⟨fault, rfl, hcode⟩ := hgiven.of_refused
        obtain ⟨fault', rfl, hcode'⟩ := hgiven'.of_refused
        exact .failed step (hcode.trans hcode'.symm)

/-! ### Calls give what is due -/

section Calls

variable {r : Registry} {loader : Loader} {h : Host} {history : List Reply} {w : Workspace}

/-- While what surrounds a run stays fixed, what is loaded is what can be loaded. -/
theorem load_of_firstLoad? (hfixed : ∀ e ∈ history, e.request.host = h) {path : DiskPath}
    {d : Document} (hload : firstLoad? loader history path = some d) :
    loader.load h path = .ok d := by
  obtain ⟨e, hmem, he⟩ := exists_load_of_firstLoad? hload
  rwa [hfixed e hmem] at he

/-- A document that is opened is given if no other path that is shown like its path was loaded. -/
theorem given_opening (hr : r.Hosts loader (¬ IsReserved ·)) (ht : Tracks loader history w)
    (hfixed : ∀ e ∈ history, e.request.host = h) {name : String}
    (hapart : ∀ path, h.resolve name = .ok path → ∀ other d, other.display = path.display →
      firstLoad? loader history other = some d → other = path) :
    let e := r.reply w ((Operation.openDocument name).request h)
    (Due.opening loader h name).Given loader (history ++ [e]) e.after.cache e.result := by
  intro e
  obtain ⟨hresult, hafter⟩ := Registry.reply_operation hr (.openDocument name) h w
  rw [Operation.body, Call.outcome_map, outcome_openDocument] at hresult hafter
  rw [Due.opening]
  cases hp : h.resolve name with
  | error fault =>
    rw [hp] at hresult
    rw [show e.result = .error fault from hresult]
    exact .refused fault
  | ok path =>
    simp only [hp] at hresult hafter ⊢
    -- Whether it was there or is loaded now, the first load of the path is this one.
    have hgiven : ∀ {d}, firstLoad? loader (history ++ [e]) path = some d →
        e.result = .ok (.string (documentKey path)) →
          (Due.handle (.document path.display) (.node (.top path.display d))).Given loader
            (history ++ [e]) e.after.cache e.result := by
      intro d hload hres
      rw [hres]
      exact .handle (k := .document path.display) (.opened (by simp) rfl hres hp hload)
        (.document path.display)
    by_cases hkey : (w.cache.get? (documentKey path)).isSome
    · obtain ⟨res, hget⟩ := Option.isSome_iff_exists.1 hkey
      obtain ⟨uid, d, rfl, -⟩ := ht.coherent.holds (k := .document path.display) hget
      obtain ⟨other, hshown, hload⟩ := (ht.loaded path.display d).2 ⟨uid, hget⟩
      obtain rfl := hapart path hp other d hshown hload
      rw [if_pos hkey] at hresult
      rw [load_of_firstLoad? hfixed hload]
      exact hgiven (firstLoad?_append hload) hresult
    · rw [if_neg hkey] at hresult hafter
      cases hl : loader.load h path with
      | error fault =>
        rw [hl] at hresult
        rw [show e.result = .error fault from hresult]
        exact .refused fault
      | ok d =>
        rw [hl] at hresult hafter
        have htold : e.told = openingNotices loader h path :=
          Reply.told_eq (by rw [hafter]; rfl)
        refine hgiven ?_ hresult
        rw [firstLoad?_concat, ht.firstLoad?_of_free (by simpa using hkey), Option.none_or,
          loaded?_opened hl htold, if_pos rfl]

theorem given_embedding (hr : r.Hosts loader (¬ IsReserved ·)) (history : List Reply) (w : Workspace)
    (name token : String) :
    let e := r.reply w ((Operation.embedFile name token).request h)
    (Due.embedding h name token).Given loader (history ++ [e]) e.after.cache e.result := by
  intro e
  have hresult : e.result = ((embedFile name token).outcome h Workspace.fresh).1 := by
    rw [(Registry.reply_operation hr (.embedFile name token) h w).1, Operation.body,
      outcome_embedFile, outcome_embedFile]
    cases EncodeOptions.parse token with
    | error fault => rfl
    | ok options => cases h.resolve name <;> rfl
  rw [Due.embedding, ← hresult]
  cases e.result with
  | error fault => exact .refused fault
  | ok v => exact .value v

theorem Query.on_givesHandle {q : Query} (hq : q.givesHandle = true) (s : String) :
    (q.on s).GivesHandle := by
  cases q with
  | root => trivial
  | list tag => trivial
  | get index => trivial
  | _ => cases hq

theorem given_asking (hr : r.Hosts loader (¬ IsReserved ·)) (ht : Tracks loader history w) {k : Key}
    {o : Origin} {m : Meaning} (hm : Denotes loader history k.text m) (hn : Names w.cache o k)
    (q : Query) :
    let e := r.reply w ((q.on k.text).request h)
    (Due.asking o m q).Given loader (history ++ [e]) e.after.cache e.result := by
  intro e
  have hw := ht.coherent
  have hb := ht.backs hm
  have hanswered := @answer_of_backs loader h _ _ _ hw hb q
  rw [← (Registry.reply_operation hr (q.on k.text) h w).1] at hanswered
  rw [Due.asking]
  cases hanswer : m.answer q with
  | value v =>
    rw [hanswer] at hanswered
    rw [show e.result = .ok v from hanswered]
    exact .value v
  | refused code =>
    rw [hanswer] at hanswered
    obtain ⟨fault, hfault, rfl⟩ := hanswered
    rw [show e.result = .error fault from hfault]
    exact .refused fault
  | handle m' =>
    rw [hanswer] at hanswered
    obtain ⟨s, hs, -⟩ := hanswered
    have hm' : Denotes loader (history ++ [e]) s m' :=
      (hm.append [e]).of_answer (List.mem_append_right _ (List.mem_singleton_self e)) rfl hs hanswer
    obtain ⟨c, hc⟩ := hb.stored
    have hkeeps : Keeps w.cache e.after.cache := fun hget _ =>
      Registry.kept_reply hr.offers hw ⟨q.on k.text, rfl⟩ hget
    obtain ⟨k', rfl, hn'⟩ := hn.child hw hc hkeeps
      (Query.on_givesHandle (Meaning.givesHandle_of_answer hanswer) _)
      (Registry.outcome_of_reply hr.offers hs)
    rw [show e.result = .ok (.string k'.text) from hs]
    exact .handle hm' hn'

theorem Query.arguments_on (q : Query) (s : String) :
    (q.on s).arguments = .string s :: (q.on s).arguments.tail := by
  cases q <;> rfl

/-- What is no text fits no standard function in the place of a handle. -/
theorem Registry.resolve_of_no_text (hr : r.Offers loader) {v : Value} (hv : v.kind ≠ .string)
    (q : Query) : ∃ fault, fault.code = .argumentTypeMismatch ∧
      r.resolve (q.request v h).name ((q.request v h).args.map Value.kind) = .error fault := by
  obtain ⟨d, hd, o, hname, hover, hkinds, harity, -⟩ := standard_of_operation loader (q.on v.text)
  have hdesc : r.descriptor? (q.request v h).name = some d :=
    show r.descriptor? (q.on v.text).function = some d from hname ▸ hr d hd
  rw [Query.arguments_on, List.map_cons] at hkinds
  rw [Query.arguments_on, List.length_cons] at harity
  have hnone : d.overload? ((q.request v h).args.map Value.kind) = none := by
    rw [Descriptor.overload?, hover, List.find?_eq_none]
    intro o' ho' heq
    rw [List.mem_singleton.1 ho', hkinds] at heq
    exact hv (List.cons.inj (eq_of_beq heq)).1.symm
  refine ⟨.wrongKinds (q.request v h).name ((q.request v h).args.map Value.kind) d.describe, rfl, ?_⟩
  rw [resolve, hdesc]
  simp only [hnone]
  rw [if_neg]
  rw [harity]
  simp [Query.request]

/-- A value that is taken for a handle is refused, unless it is the text of something in the cache. -/
theorem given_taking (hr : r.Offers loader) {v : Value}
    (hfree : ∀ s, v = .string s → w.cache.get? s = none) (q : Query) :
    let e := r.reply w (q.request v h)
    (Due.taking v).Given loader (history ++ [e]) e.after.cache e.result := by
  intro e
  rw [Due.taking]
  by_cases hv : v.kind = .string
  · obtain ⟨s, rfl⟩ := exists_string hv
    have hexpect : Cache.expect w.cache s q.kinds = .error (.unknownHandle s) := by
      rw [Cache.expect, hfree s rfl]
    have hresult : e.result = .error (.unknownHandle s) := by
      rw [← @outcome_of_expect_error loader h w s q _ hexpect,
        ← (Registry.reply_of_offers hr (q.on s) h w).1, ← q.request_string]
    rw [if_pos hv, hresult]
    exact .refused (.unknownHandle s)
  · obtain ⟨fault, hcode, hresolve⟩ := Registry.resolve_of_no_text (h := h) hr hv q
    rw [if_neg hv, ← hcode, show e = _ from Registry.reply_of_error hresolve w]
    exact .refused fault

theorem exists_getElem?_of_forall₂ {α β : Type} {R : α → β → Prop} {xs : List α} {ys : List β}
    (hR : List.Forall₂ R xs ys) {i : Nat} {x : α} (hx : xs[i]? = some x) :
    ∃ y, ys[i]? = some y ∧ R x y := by
  obtain ⟨hi, -⟩ := List.getElem?_eq_some_iff.1 hx
  have hi' : i < ys.length := hR.length_eq ▸ hi
  exact ⟨ys[i], List.getElem?_eq_getElem hi', forall₂_getElem? hR hx (List.getElem?_eq_getElem hi')⟩

/-- After steps that gave what was due, so does the next one: it is skipped if nothing is due, and
otherwise its call gives what is. It has to take no text for a handle that looks like one, and to open no
path that is shown like another one that was loaded. -/
theorem meets_step (hr : r.Hosts loader (¬ IsReserved ·)) (ht : Tracks loader history w)
    (hfixed : ∀ e ∈ history, e.request.host = h)
    (hreserved : ∀ {key resource}, w.cache.get? key = some resource → IsReserved key)
    {steps : List Step} {seen : List Observation}
    (hmet : List.Forall₂ (Meets loader history w.cache) (expected loader h steps) seen) {step : Step}
    (hapart : ∀ name path, step = .openDocument name → h.resolve name = .ok path →
      ∀ other d, other.display = path.display → firstLoad? loader history other = some d →
        other = path)
    (hplain : ∀ source q x s, step = .ask source q → (expected loader h steps)[source]? = some x →
      x.due? = some (.value (.string s)) → ¬ IsReserved s) :
    (step.request? h seen = none ∧ step.due? loader h (expected loader h steps) = none) ∨
      ∃ q due, step.request? h seen = some q ∧
        step.due? loader h (expected loader h steps) = some due ∧
          let e := r.reply w q
          due.Given loader (history ++ [e]) e.after.cache e.result := by
  cases step with
  | openDocument name =>
    exact .inr ⟨_, .opening loader h name, rfl, rfl,
      given_opening hr ht hfixed fun path => hapart name path rfl⟩
  | embedFile name token =>
    exact .inr ⟨_, .embedding h name token, rfl, rfl, given_embedding hr history w name token⟩
  | ask source q =>
    cases hx : (expected loader h steps)[source]? with
    | none =>
      have hseen : seen[source]? = none := by
        rw [List.getElem?_eq_none_iff] at hx ⊢
        rwa [← hmet.length_eq]
      exact .inl ⟨by simp only [Step.request?, hseen]; rfl, by simp only [Step.due?, hx]; rfl⟩
    | some x =>
      -- What the earlier step gave was due.
      obtain ⟨o, ho, hmeets⟩ := exists_getElem?_of_forall₂ hmet hx
      simp only [Step.request?, Step.due?, hx, ho, Option.bind_some]
      cases hmeets with
      | skipped step => exact .inl ⟨rfl, rfl⟩
      | called step hgiven =>
        cases hgiven with
        | refused fault => exact .inl ⟨rfl, rfl⟩
        | value v =>
          refine .inr ⟨_, _, rfl, rfl, given_taking hr.offers (fun s hs => ?_) q⟩
          subst hs
          by_contra hsome
          obtain ⟨resource, hget⟩ := Option.ne_none_iff_exists'.1 hsome
          exact hplain source q _ s rfl hx rfl (hreserved hget)
        | @handle _ _ k hm hn =>
          exact .inr ⟨(q.on k.text).request h, _, congrArg some (q.request_string k.text h), rfl,
            given_asking hr ht hm hn q⟩

end Calls

end Builtins
