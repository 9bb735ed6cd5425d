import Builtins.Proofs.Run.Expectation
import Builtins.Proofs.Run.Loading
import Mathlib.Combinatorics.Enumerative.DoubleCounting

/-!
# Independence of clients

Clients that share a run see what they would see alone, but for the handles themselves.

* `Granted` — the origins of the handles that are due, and of the root elements that come with documents;
* `Session.Sound` — what holds of every session so far;
* `Session.Met`, `Session.Covered` — a client saw what it could expect, and everything in the cache was
  granted to it;
* `Met.turn`, `Covered.turn` — a turn keeps both, even if it takes too many uids;
* `size_le` — a client that is alone fills no more of the cache than when it shares it, so it takes no
  more uids (`follows_run`);
* `alike_of_interleaved` — in every session that takes few uids a client that is discerning sees what it
  sees alone.
-/

namespace Builtins

/-! ### What is granted -/

/-- The origins of the handles that are due; a document comes with its root element. -/
def Granted (xs : List Expectation) (o : Origin) : Prop :=
  ∃ x ∈ xs, ∃ o' m, x.due? = some (.handle o' m) ∧
    (o = o' ∨ ∃ shown d, o' = .document shown ∧ m = .node (.top shown d) ∧ o = .asked o' .root)

theorem Granted.mono {xs ys : List Expectation} {o : Origin} (hsub : ∀ x ∈ xs, x ∈ ys)
    (hg : Granted xs o) : Granted ys o := by
  obtain ⟨x, hx, hdue⟩ := hg
  exact ⟨x, hsub x hx, hdue⟩

/-- What was granted to a client that saw what it could expect is in the cache. -/
theorem exists_names_of_granted {loader : Loader} {history : List Reply} {w : Workspace}
    (ht : Tracks loader history w) {xs : List Expectation} {seen : List Observation}
    (hmet : List.Forall₂ (Meets loader history w.cache) xs seen) {o : Origin} (hg : Granted xs o) :
    ∃ k c, Names w.cache o k ∧ Stored w.cache k.text c := by
  obtain ⟨x, hx, o', m, hdue, ho⟩ := hg
  obtain ⟨i, hi⟩ := List.getElem?_of_mem hx
  obtain ⟨observed, -, hmeets⟩ := exists_getElem?_of_forall₂ hmet hi
  cases hmeets with
  | skipped step => cases hdue
  | called step hgiven =>
    cases hdue
    cases hgiven with
    | @handle _ _ k hm hn =>
      obtain ⟨c, hc⟩ := (ht.backs hm).stored
      rcases ho with rfl | ⟨shown, d, rfl, rfl, rfl⟩
      · exact ⟨k, c, hn, hc⟩
      · cases hn
        obtain ⟨c', hc'⟩ := ((ht.backs hm).root ht.coherent rfl).stored
        exact ⟨.root shown, c', .root shown, hc'⟩

/-! ### What a step requests -/

section Steps

variable {r : Registry} {loader : Loader} {h : Host} {step : Step} {seen : List Observation}
  {q : Request}

/-- Only a step that opens a document does so. -/
theorem step_of_opening {name : String}
    (hq : step.request? h seen = some ((Operation.openDocument name).request h)) :
    step = .openDocument name := by
  cases step with
  | openDocument name' =>
    cases (Operation.request_inj (Option.some.inj hq)).1
    rfl
  | embedFile name' token => cases (Operation.request_inj (Option.some.inj hq)).1
  | ask source q =>
    obtain ⟨v, -, hv⟩ := Option.map_eq_some_iff.1 hq
    have hname : (q.on v.text).function = "xml_open" := congrArg Request.name hv
    cases q <;> simp [Query.on, Operation.function] at hname

/-- A step requests an operation, which gives a handle only if the step does; or what it takes for a
handle is no text, and nothing happens. -/
theorem operation_or_unchanged (hr : r.Offers loader) (hq : step.request? h seen = some q) :
    (∃ op : Operation, q = op.request h ∧ (op.GivesHandle → step.givesHandle = true)) ∨
      ∀ w, (r.reply w q).after.cache = w.cache := by
  cases step with
  | openDocument name => cases hq; exact .inl ⟨_, rfl, fun _ => rfl⟩
  | embedFile name token => cases hq; exact .inl ⟨_, rfl, fun hgives => (by cases hgives)⟩
  | ask source question =>
    obtain ⟨v, -, rfl⟩ := Option.map_eq_some_iff.1 hq
    by_cases hv : v.kind = .string
    · obtain ⟨s, rfl⟩ := exists_string hv
      refine .inl ⟨question.on s, question.request_string s h, fun hgives => ?_⟩
      cases question with
      | root => rfl
      | list tag => rfl
      | get index => rfl
      | _ => cases hgives
    · obtain ⟨fault, -, hresolve⟩ := Registry.resolve_of_no_text (h := h) hr hv question
      refine .inr fun w => ?_
      rw [Registry.reply_of_error hresolve]
      rfl

/-- What a call adds to the cache was granted by what was due. -/
theorem granted_of_new {w : Workspace} (hr : r.Offers loader) (hw : Coherent w)
    {earlier : List Expectation} {due : Due} {history : List Reply}
    (hq : step.request? h seen = some q) (hdue : step.due? loader h earlier = some due)
    (hgiven : due.Given loader history (r.reply w q).after.cache (r.reply w q).result)
    {key : String} {resource : Resource}
    (hget : (r.reply w q).after.cache.get? key = some resource) :
    w.cache.get? key = some resource ∨ ∃ o k, key = Key.text k ∧
      Granted [⟨step, some due⟩] o ∧ Names (r.reply w q).after.cache o k := by
  rcases operation_or_unchanged hr hq with ⟨op, rfl, hop⟩ | hsame
  · rcases Registry.new_key hr hw hget with hold | ⟨hgives, s, hres, hkey⟩
    · exact .inl hold
    · refine .inr ?_
      rw [hres] at hgiven
      generalize hv : (Except.ok (Value.string s) : Except Fault Value) = result at hgiven
      cases hgiven with
      | refused fault => cases hv
      | value v =>
        have hno := not_givesHandle_of_due hdue
        rw [hop hgives] at hno
        cases hno
      | @handle o m k hm hn =>
        obtain rfl : s = k.text := by simpa using hv
        rcases hkey with rfl | ⟨name, rfl, rfl⟩
        · exact ⟨o, k, rfl, ⟨_, List.mem_singleton_self _, o, m, rfl, .inl rfl⟩, hn⟩
        · obtain rfl := step_of_opening hq
          obtain ⟨shown, d, rfl, rfl⟩ := Due.exists_of_opening (Option.some.inj hdue)
          cases hn
          exact ⟨_, .root shown, rfl, ⟨_, List.mem_singleton_self _, _, _, rfl,
            .inr ⟨shown, d, rfl, rfl, rfl⟩⟩, .root shown⟩
  · rw [hsame] at hget
    exact .inl hget

end Steps

/-! ### Sessions so far -/

namespace Session

variable {ι : Type} [DecidableEq ι]

/-- What a client can expect of the steps it has made. -/
def expected (loader : Loader) (h : Host) (scripts : ι → List Step) (s : Session ι) (i : ι) :
    List Expectation :=
  Builtins.expected loader h ((scripts i).take (s.seen i).length)

/-- A client saw what it could expect. -/
def Met (loader : Loader) (h : Host) (scripts : ι → List Step) (s : Session ι) (c : ι) : Prop :=
  List.Forall₂ (Meets loader s.history s.workspace.cache) (s.expected loader h scripts c) (s.seen c)

/-- Everything in the cache was granted to one client. -/
def Covered (loader : Loader) (h : Host) (scripts : ι → List Step) (s : Session ι) (c : ι) : Prop :=
  ∀ {key resource}, s.workspace.cache.get? key = some resource →
    ∃ o k, key = Key.text k ∧ Granted (s.expected loader h scripts c) o ∧ Names s.workspace.cache o k

/-- What holds of every session so far. -/
structure Sound (r : Registry) (loader : Loader) (h : Host) (scripts : ι → List Step)
    (s : Session ι) : Prop where
  runs : r.Runs s.history s.workspace
  tracks : Tracks loader s.history s.workspace
  asks : ∀ e ∈ s.history, Asks h scripts e.request

section Turns

variable {r : Registry} {loader : Loader} {h : Host} {scripts : ι → List Step} {s s' : Session ι}
  {c i : ι}

namespace Sound

omit [DecidableEq ι] in
theorem isReserved (hr : r.Offers loader) (hs : s.Sound r loader h scripts) {key : String}
    {resource : Resource} (hget : s.workspace.cache.get? key = some resource) : IsReserved key :=
  hs.runs.isReserved hr (fun e he => (hs.asks e he).standard.1) hget

omit [DecidableEq ι] in
/-- What was loaded was opened by a client. -/
theorem exists_step (hr : r.Offers loader) (hs : s.Sound r loader h scripts) {path : DiskPath}
    {d : Document} (hload : firstLoad? loader s.history path = some d) :
    ∃ i name, Step.openDocument name ∈ scripts i ∧ h.resolve name = .ok path := by
  obtain ⟨e, hmem, hloaded⟩ := List.exists_of_findSome?_eq_some hload
  obtain ⟨hstandard, hhost⟩ := (hs.asks e hmem).standard
  obtain ⟨i, step, hstep, seen, hreq⟩ := hs.asks e hmem
  have hloading : e.Loading loader := by
    obtain ⟨w₀, q, rfl⟩ := hs.runs.exists_reply hmem
    exact Registry.loading_reply hr hstandard w₀
  obtain ⟨name, hopen, hpath⟩ := hloading.opens_of_loaded? hloaded
  rw [hhost] at hopen hpath
  rw [hopen] at hreq
  obtain rfl := step_of_opening hreq
  exact ⟨i, name, hstep, hpath⟩

omit [DecidableEq ι] in
/-- So no path that a client opens is shown like another one that was loaded. -/
theorem apart (hr : r.Offers loader) (hs : s.Sound r loader h scripts) (hc : ToldApart h scripts c)
    {name : String} (hname : Step.openDocument name ∈ scripts c) {path : DiskPath}
    (hpath : h.resolve name = .ok path) {other : DiskPath} {d : Document}
    (hshown : other.display = path.display) (hload : firstLoad? loader s.history other = some d) :
    other = path := by
  obtain ⟨i, name', hname', hother⟩ := hs.exists_step hr hload
  exact (hc hname hname' hpath hother hshown.symm).symm

end Sound

theorem expected_see_self {o : Observation} {step : Step} (hseen : s'.seen = s.see c o)
    (hstep : (scripts c)[(s.seen c).length]? = some step) :
    s'.expected loader h scripts c = s.expected loader h scripts c ++
      [⟨step, step.due? loader h (s.expected loader h scripts c)⟩] := by
  rw [expected, hseen, see_self, List.length_append, List.length_singleton, List.take_add_one, hstep]
  exact expected_concat loader h _ step

/-- What a turn leaves as it was: the containers, and what was answered before. -/
theorem keeps_turn (hr : r.Offers loader) (hs : s.Sound r loader h scripts) (i : ι) :
    Keeps s.workspace.cache (s.turn r h scripts i).workspace.cache ∧
      ∃ later, (s.turn r h scripts i).history = s.history ++ later := by
  rcases turn_cases r h scripts s i with ⟨-, hturn⟩ | ⟨step, hstep, ⟨-, hturn⟩ | ⟨q, hq, hturn⟩⟩
  · rw [hturn]
    exact ⟨Keeps.refl _, [], (List.append_nil _).symm⟩
  · rw [hturn]
    exact ⟨Keeps.refl _, [], (List.append_nil _).symm⟩
  · rw [hturn]
    exact ⟨fun hget _ => Registry.kept_reply hr hs.tracks.coherent (Asks.of_step hstep hq).standard.1
      hget, _, rfl⟩

/-- The turn of another client changes nothing of what was seen. -/
theorem Met.turn_of_ne (hr : r.Offers loader) (hs : s.Sound r loader h scripts)
    (hmet : s.Met loader h scripts c) (hi : c ≠ i) :
    (s.turn r h scripts i).Met loader h scripts c := by
  obtain ⟨hkeeps, later, hlater⟩ := keeps_turn hr hs i
  have hseen : (s.turn r h scripts i).seen c = s.seen c := seen_turn_of_ne hi
  rw [Met, expected, hseen, hlater]
  exact hmet.imp fun _ _ hmeets => hmeets.mono hkeeps

/-- What the next step of a client needs: it takes no text for a handle that looks like one. -/
def NextPlain (loader : Loader) (h : Host) (scripts : ι → List Step) (s : Session ι) (c : ι) :
    Prop :=
  ∀ source q x t, (scripts c)[(s.seen c).length]? = some (.ask source q) →
    (s.expected loader h scripts c)[source]? = some x → x.due? = some (.value (.string t)) →
      ¬ IsReserved t

omit [DecidableEq ι] in
/-- What the next step of a client gives. -/
theorem meets_next (hr : r.Hosts loader (¬ IsReserved ·)) (hs : s.Sound r loader h scripts)
    (hc : ToldApart h scripts c) (hplain : s.NextPlain loader h scripts c)
    (hmet : s.Met loader h scripts c) {step : Step}
    (hstep : (scripts c)[(s.seen c).length]? = some step) :
    let due? := step.due? loader h (s.expected loader h scripts c)
    (step.request? h (s.seen c) = none ∧ due? = none) ∨
      ∃ q due, step.request? h (s.seen c) = some q ∧ due? = some due ∧
        let e := r.reply s.workspace q
        due.Given loader (s.history ++ [e]) e.after.cache e.result := by
  refine meets_step hr hs.tracks (fun e he => (hs.asks e he).standard.2) (hs.isReserved hr.offers)
    hmet ?_ ?_
  · rintro name path rfl hpath other d
    exact hs.apart hr.offers hc (List.mem_of_getElem? hstep) hpath
  · rintro source q x t rfl
    exact hplain source q x t hstep

/-- A turn of a client keeps it seeing what it can expect. That few uids were taken is only asked of what
came before. -/
theorem Met.turn (hr : r.Hosts loader (¬ IsReserved ·)) (hs : s.Sound r loader h scripts)
    (hc : ToldApart h scripts c) (hplain : s.NextPlain loader h scripts c)
    (hmet : s.Met loader h scripts c) : (s.turn r h scripts c).Met loader h scripts c := by
  obtain ⟨hkeeps, later, hlater⟩ := keeps_turn hr.offers hs c
  rcases turn_cases r h scripts s c with ⟨-, hturn⟩ | ⟨step, hstep, hcase⟩
  · rwa [hturn]
  · -- One more observation is made, and it meets what is due.
    have hextend : ∀ {result?}, (s.turn r h scripts c).seen = s.see c ⟨step, result?⟩ →
        Meets loader (s.turn r h scripts c).history (s.turn r h scripts c).workspace.cache
          ⟨step, step.due? loader h (s.expected loader h scripts c)⟩ ⟨step, result?⟩ →
            (s.turn r h scripts c).Met loader h scripts c := by
      intro result? hseen hmeets
      rw [Met, expected_see_self hseen hstep, hseen, see_self]
      refine List.rel_append ?_ (.cons hmeets .nil)
      rw [hlater]
      exact hmet.imp fun _ _ hold => hold.mono hkeeps
    rcases hcase with ⟨hnone, hturn⟩ | ⟨q, hq, hturn⟩ <;>
      rcases meets_next hr hs hc hplain hmet hstep with ⟨hskip, hdue⟩ | ⟨q', due, hq', hdue, hgiven⟩
    · refine hextend (by rw [hturn]; rfl) ?_
      rw [hdue]
      exact .skipped step
    · rw [hnone] at hq'
      cases hq'
    · rw [hq] at hskip
      cases hskip
    · rw [hq] at hq'
      cases hq'
      refine hextend (by rw [hturn]; rfl) ?_
      rw [hdue, hturn]
      exact .called step hgiven

/-- A turn of a client adds nothing that was not granted to it. -/
theorem Covered.turn (hr : r.Hosts loader (¬ IsReserved ·)) (hs : s.Sound r loader h scripts)
    (hc : ToldApart h scripts c) (hplain : s.NextPlain loader h scripts c)
    (hmet : s.Met loader h scripts c) (hcovered : s.Covered loader h scripts c) :
    (s.turn r h scripts c).Covered loader h scripts c := by
  intro key resource hget
  obtain ⟨hkeeps, -⟩ := keeps_turn hr.offers hs c
  rcases turn_cases r h scripts s c with ⟨-, hturn⟩ | ⟨step, hstep, hcase⟩
  · rw [hturn] at hget ⊢
    exact hcovered hget
  · have hexpected : (s.turn r h scripts c).expected loader h scripts c =
        s.expected loader h scripts c ++
          [⟨step, step.due? loader h (s.expected loader h scripts c)⟩] := by
      rcases hcase with ⟨-, hturn⟩ | ⟨q, -, hturn⟩ <;> exact expected_see_self (by rw [hturn]; rfl) hstep
    have hold : s.workspace.cache.get? key = some resource →
        ∃ o k, key = Key.text k ∧ Granted ((s.turn r h scripts c).expected loader h scripts c) o ∧
          Names (s.turn r h scripts c).workspace.cache o k := by
      intro hbefore
      obtain ⟨o, k, hkey, hg, hn⟩ := hcovered hbefore
      rw [hexpected]
      exact ⟨o, k, hkey, hg.mono fun x hx => List.mem_append_left _ hx, hn.mono hkeeps⟩
    rcases hcase with ⟨-, hturn⟩ | ⟨q, hq, hturn⟩
    · rw [hturn] at hget
      exact hold hget
    · rcases meets_next hr hs hc hplain hmet hstep with ⟨hskip, -⟩ | ⟨q', due, hq', hdue, hgiven⟩
      · rw [hq] at hskip
        cases hskip
      · rw [hq] at hq'
        cases hq'
        have hafter : (s.turn r h scripts c).workspace = (r.reply s.workspace q).after := by
          rw [hturn]
          rfl
        rw [hafter] at hget
        rcases granted_of_new hr.offers hs.tracks.coherent hq hdue hgiven hget with
          hbefore | ⟨o, k, hkey, hg, hn⟩
        · exact hold hbefore
        · rw [hexpected, hdue, hafter]
          exact ⟨o, k, hkey, hg.mono fun x hx => List.mem_append_right _ hx, hn⟩

end Turns

end Session

/-! ### Clients that are alone -/

/-- A table is no larger than another one if each of its keys has one there, and no two have the same. -/
theorem Table.size_le_of_rel {α : Type} {t t' : Table α} (R : String → String → Prop)
    (htotal : ∀ key ∈ t.keys, ∃ key' ∈ t'.keys, R key key')
    (hinj : ∀ {a b key'}, R a key' → R b key' → a = b) : t.size ≤ t'.size := by
  have hcard : ∀ u : Table α, u.keys.toFinset.card = u.size := by
    intro u
    rw [List.toFinset_card_of_nodup u.keys_pairwise.nodup, keys, List.length_map, size]
  rw [← hcard, ← hcard]
  refine Finset.card_le_card_of_forall_subsingleton R (fun key hkey => ?_) fun key' _ => ?_
  · obtain ⟨key', hkey', hR⟩ := htotal key (List.mem_toFinset.1 hkey)
    exact ⟨key', List.mem_toFinset.2 hkey', hR⟩
  · exact fun a ha b hb => hinj ha.2 hb.2

namespace Session

variable {ι : Type} [DecidableEq ι] {r : Registry} {loader : Loader} {h : Host}
  {scripts : ι → List Step} {s : Session ι} {c : ι}

omit [DecidableEq ι] in
/-- A client that is alone fills no more of the cache than when it shares it: what is in the cache was
granted to it, so it is there as well when others are served. -/
theorem size_le {alone : Session ι} (hcovered : alone.Covered loader h scripts c)
    (ht : Tracks loader s.history s.workspace) (hmet : s.Met loader h scripts c)
    (hlen : (alone.seen c).length = (s.seen c).length) :
    alone.workspace.cache.size ≤ s.workspace.cache.size := by
  have hsame : alone.expected loader h scripts c = s.expected loader h scripts c := by
    rw [expected, expected, hlen]
  refine Table.size_le_of_rel
    (fun key key' => ∃ o k k', key = Key.text k ∧ key' = Key.text k' ∧
      Names alone.workspace.cache o k ∧ Names s.workspace.cache o k') (fun key hkey => ?_) ?_
  · obtain ⟨resource, hget⟩ := Option.isSome_iff_exists.1 ((Table.mem_keys_iff _ key).1 hkey)
    obtain ⟨o, k, hkey, hg, hn⟩ := hcovered hget
    obtain ⟨k', c', hn', hc'⟩ := exists_names_of_granted ht hmet (hsame ▸ hg)
    exact ⟨k'.text, (Table.mem_keys_iff _ _).2 hc'.isSome, o, k, k', hkey, rfl, hn, hn'⟩
  · rintro a b key' ⟨o, k, k', rfl, hkey, hn, hn'⟩ ⟨o₂, k₂, k₂', rfl, hkey₂, hn₂, hn₂'⟩
    -- The key in the shared cache tells the origin, and that tells the key in the other one.
    obtain rfl : k' = k₂' := Key.text_injective (hkey.symm.trans hkey₂)
    obtain rfl := hn'.origin_unique ht.coherent hn₂'
    rw [hn.unique hn₂]

theorem length_seen (turns : List ι) (i : ι) :
    ((run r h scripts turns).seen i).length = min (turns.count i) (scripts i).length := by
  have hsteps := congrArg List.length (steps_run r h scripts turns i)
  rwa [List.length_map, List.length_take] at hsteps

/-- A session that takes few uids is sound. -/
theorem sound_run (hr : r.Hosts loader (¬ IsReserved ·)) (turns : List ι)
    (hfew : uidsTaken (run r h scripts turns).history < UInt64.size - 1) :
    (run r h scripts turns).Sound r loader h scripts :=
  ⟨(runs_run r h scripts turns).1, tracks_of_runs hr (runs_run r h scripts turns).1 hfew,
    (runs_run r h scripts turns).2⟩

/-- There is one entry for each uid that was taken. -/
theorem size_run (hr : r.Hosts loader (¬ IsReserved ·)) (turns : List ι)
    (hfew : uidsTaken (run r h scripts turns).history < UInt64.size - 1) :
    (run r h scripts turns).workspace.cache.size = uidsTaken (run r h scripts turns).history :=
  (runs_run r h scripts turns).1.size hr.offers
    (fun e he => ((runs_run r h scripts turns).2 e he).standard.1) hfew

/-- The same after one more turn, however many uids that turn took. -/
theorem size_run_concat (hr : r.Hosts loader (¬ IsReserved ·)) (turns : List ι) (i : ι)
    (hfew : uidsTaken (run r h scripts turns).history < UInt64.size - 1) :
    (run r h scripts (turns ++ [i])).workspace.cache.size =
      uidsTaken (run r h scripts (turns ++ [i])).history := by
  have hsize := size_run hr turns hfew
  rw [run_concat]
  rcases turn_cases r h scripts (run r h scripts turns) i with
    ⟨-, hturn⟩ | ⟨step, hstep, ⟨-, hturn⟩ | ⟨q, hq, hturn⟩⟩
  · rw [hturn]
    exact hsize
  · rw [hturn]
    exact hsize
  · rw [hturn, call, uidsTaken_append, uidsTaken_singleton, ← hsize]
    exact Registry.size_reply hr.offers (sound_run hr turns hfew).tracks.coherent
      (Asks.of_step hstep hq).standard.1

theorem taken_le (turns : List ι) (i : ι) :
    uidsTaken (run r h scripts turns).history ≤
      uidsTaken (run r h scripts (turns ++ [i])).history := by
  rw [run_concat]
  rcases turn_cases r h scripts (run r h scripts turns) i with
    ⟨-, hturn⟩ | ⟨step, -, ⟨-, hturn⟩ | ⟨q, -, hturn⟩⟩
  · rw [hturn]
  · rw [hturn]
    exact Nat.le_refl _
  · rw [hturn, call, uidsTaken_append]
    exact Nat.le_add_right _ _

/-- The session of a client that is alone for some steps. -/
def alone (r : Registry) (h : Host) (scripts : ι → List Step) (c : ι) (n : Nat) : Session ι :=
  run r h scripts (List.replicate n c)

theorem alone_succ (n : Nat) :
    alone r h scripts c (n + 1) = (alone r h scripts c n).turn r h scripts c := by
  rw [alone, List.replicate_succ', run_concat]
  rfl

theorem length_alone (turns : List ι) (c : ι) :
    ((alone r h scripts c (turns.count c)).seen c).length =
      ((run r h scripts turns).seen c).length := by
  rw [alone, length_seen, length_seen, List.count_replicate_self]

/-- What was seen is seen for good. -/
theorem seen_turn (r : Registry) (h : Host) (scripts : ι → List Step) (s : Session ι) (i : ι) :
    ∃ later, (s.turn r h scripts i).seen i = s.seen i ++ later := by
  rcases turn_cases r h scripts s i with ⟨-, hturn⟩ | ⟨step, -, ⟨-, hturn⟩ | ⟨q, -, hturn⟩⟩
  · exact ⟨[], by rw [hturn, List.append_nil]⟩
  · exact ⟨_, by rw [hturn, skip]; exact see_self _⟩
  · exact ⟨_, by rw [hturn, call]; exact see_self _⟩

/-- A client that is discerning takes no text for a handle in its next step that looks like one. -/
theorem nextPlain_of_discerning (hmet : s.Met loader h scripts c)
    (hd : Discerning ((s.turn r h scripts c).seen c)) : s.NextPlain loader h scripts c := by
  intro source q x t hstep hx hdue
  obtain ⟨later, hlater⟩ := seen_turn r h scripts s c
  -- The step is seen in this turn, and its source was seen before.
  have hmem : Step.ask source q ∈ ((s.turn r h scripts c).seen c).map (·.step) := by
    rw [steps_turn hstep]
    exact List.mem_append_right _ (List.mem_singleton_self _)
  obtain ⟨o, ho, hask⟩ := List.mem_map.1 hmem
  obtain ⟨o', ho', hmeets⟩ := exists_getElem?_of_forall₂ hmet hx
  obtain ⟨earlier, hsource⟩ := due?_of_mem (List.mem_of_getElem? hx)
  have hread : o'.read? = some (.string t) := by
    cases hmeets with
    | skipped step => cases hdue
    | called step hgiven =>
      cases hdue
      cases hgiven
      rw [Observation.read?, if_neg (by rw [not_givesHandle_of_due hsource.symm]; decide)]
      rfl
  refine hd o ho t ?_
  rw [Option.mem_def, Observation.taken?, show o.step = .ask source q from hask, hlater]
  simp only [List.getElem?_append_left (List.getElem?_eq_some_iff.1 ho').1, ho', Option.bind_some,
    hread]

/-- A client sees what it can expect, whether it is alone or not, and takes no more uids alone. -/
structure Follows (r : Registry) (loader : Loader) (h : Host) (scripts : ι → List Step)
    (turns : List ι) (c : ι) : Prop where
  shared : (run r h scripts turns).Met loader h scripts c
  alone : (alone r h scripts c (turns.count c)).Met loader h scripts c
  covered : (Session.alone r h scripts c (turns.count c)).Covered loader h scripts c
  taken : uidsTaken (Session.alone r h scripts c (turns.count c)).history ≤
    uidsTaken (run r h scripts turns).history

/-- Every client does that is discerning, if the paths that it opens are told apart. -/
theorem follows_run (hr : r.Hosts loader (¬ IsReserved ·)) (hc : ToldApart h scripts c)
    (turns : List ι) (hd : Discerning ((alone r h scripts c (turns.count c)).seen c))
    (hfew : uidsTaken (run r h scripts turns).history < UInt64.size - 1) :
    Follows r loader h scripts turns c := by
  induction turns using List.reverseRecOn with
  | nil => exact ⟨.nil, .nil, fun hget => (by cases hget), Nat.le_refl _⟩
  | append_singleton turns i ih =>
    have hbefore := Nat.lt_of_le_of_lt (taken_le turns i) hfew
    have hsound := sound_run hr turns hbefore
    by_cases hi : c = i
    · subst hi
      have hcount : (turns ++ [c]).count c = turns.count c + 1 := by
        rw [List.count_append, List.count_singleton_self]
      rw [hcount, alone_succ] at hd
      obtain ⟨later, hlater⟩ := seen_turn r h scripts
        (alone r h scripts c (turns.count c)) c
      obtain ⟨hshared, halone, hcovered, htaken⟩ := ih (hlater ▸ hd).of_append hbefore
      have hfewAlone := Nat.lt_of_le_of_lt htaken hbefore
      have hsoundAlone : (alone r h scripts c (turns.count c)).Sound r loader h scripts :=
        sound_run hr _ hfewAlone
      have hplain := nextPlain_of_discerning halone hd
      have hplainShared : (run r h scripts turns).NextPlain loader h scripts c := by
        rwa [NextPlain, expected, length_alone] at hplain
      have hmet : (run r h scripts (turns ++ [c])).Met loader h scripts c := by
        rw [run_concat]
        exact hshared.turn hr hsound hc hplainShared
      have hcovered' : (alone r h scripts c (turns.count c + 1)).Covered loader h scripts c := by
        rw [alone_succ]
        exact hcovered.turn hr hsoundAlone hc hplain halone
      have hsize := size_le hcovered' (sound_run hr (turns ++ [c]) hfew).tracks hmet
        (hcount ▸ length_alone (turns ++ [c]) c)
      rw [size_run hr _ hfew, alone, List.replicate_succ', size_run_concat hr _ c hfewAlone,
        ← List.replicate_succ'] at hsize
      refine ⟨hmet, ?_, ?_, ?_⟩ <;> rw [hcount]
      · rw [alone_succ]
        exact halone.turn hr hsoundAlone hc hplain
      · exact hcovered'
      · exact hsize
    · have hcount : (turns ++ [i]).count c = turns.count c := by
        rw [List.count_append, List.count_singleton, if_neg (by simpa using Ne.symm hi), Nat.add_zero]
      rw [hcount] at hd
      obtain ⟨hshared, halone, hcovered, htaken⟩ := ih hd hbefore
      refine ⟨?_, hcount ▸ halone, hcount ▸ hcovered,
        hcount ▸ Nat.le_trans htaken (taken_le turns i)⟩
      rw [run_concat]
      exact hshared.turn_of_ne hr.offers hsound hi

end Session

/-! ### Clients see what they see alone -/

theorem forall₂_alike {loader : Loader} {h : Host} {history history' : List Reply}
    {cache cache' : Cache} {steps : List Step} {xs : List Expectation} {seen seen' : List Observation}
    (hxs : ∀ x ∈ xs, x ∈ expected loader h steps)
    (hmet : List.Forall₂ (Meets loader history cache) xs seen)
    (hmet' : List.Forall₂ (Meets loader history' cache') xs seen') :
    List.Forall₂ Observation.Alike seen seen' := by
  induction hmet generalizing seen' with
  | nil =>
    cases hmet'
    exact .nil
  | cons hmeets _ ih =>
    cases hmet' with
    | cons hmeets' hrest' =>
      exact .cons (hmeets.alike (hxs _ List.mem_cons_self) hmeets')
        (ih (fun x hx => hxs x (List.mem_cons_of_mem _ hx)) hrest')

/-- Whatever turns clients take, and whatever their scripts have in common, each of them makes the steps
of its script; and one sees what it sees when it is alone if it takes no text for a handle there that
looks like one, and the paths that it opens are told apart from all others, as long as the files stay as
they are and all clients together take few uids. -/
theorem alike_of_interleaved {ι : Type} [DecidableEq ι] {r : Registry} {loader : Loader}
    (hr : r.Offers loader) (h : Host) (scripts : ι → List Step) (turns : List ι)
    (hfew : uidsTaken (Session.run r h scripts turns).history < UInt64.size - 1) (c : ι)
    (hapart : ToldApart h scripts c)
    (hd : Discerning ((Session.run r h scripts (List.replicate (turns.count c) c)).seen c)) :
    ((Session.run r h scripts turns).seen c).map (·.step) = (scripts c).take (turns.count c) ∧
      List.Forall₂ Observation.Alike
        ((Session.run r h scripts (List.replicate (turns.count c) c)).seen c)
        ((Session.run r h scripts turns).seen c) := by
  refine ⟨Session.steps_run r h scripts turns c, ?_⟩
  have hplain := Registry.hosts_plain loader (¬ IsReserved ·)
  rw [Session.run_plain hr] at hfew hd
  rw [Session.run_plain hr, Session.run_plain hr]
  obtain ⟨hshared, halone, -, -⟩ := Session.follows_run hplain hapart turns hd hfew
  -- As many steps are made, so the same is expected of them.
  rw [Session.Met, Session.expected, Session.length_alone] at halone
  exact forall₂_alike (fun x hx => hx) halone hshared

/-- Two clients read the same document. One of them is given an element that has another handle than
when that client is alone, and asks a question of a text that it read: both times there is no such
handle. -/
theorem alike_of_two_readers :
    let host : Host := ⟨fun name => .ok name, fun _ => .ok (utf8 "<a><b>t</b><c/></a>"), false⟩
    let scripts : Bool → List Step
      | true => [.openDocument "a", .ask 0 (.list "b"), .ask 1 (.get 0), .ask 2 .text, .ask 3 .name]
      | false => [.openDocument "a", .ask 0 (.list "c"), .ask 1 (.get 0)]
    let turns := [false, true, false, false, true, true, true, true]
    let shared := (Session.run Registry.standard host scripts turns).seen true
    let alone :=
      (Session.run Registry.standard host scripts (List.replicate (turns.count true) true)).seen true
    shared.map Observation.value? = [some (.string "xml_doc_a"), some (.string "xml_list_1_b"),
        some (.string "xml_elem_5_0"), some (.string "t"), none] ∧
      alone.map Observation.value? = [some (.string "xml_doc_a"), some (.string "xml_list_1_b"),
        some (.string "xml_elem_3_0"), some (.string "t"), none] ∧
      List.Forall₂ Observation.Alike alone shared := by
  intro host scripts turns shared alone
  have hfew : uidsTaken (Session.run Registry.standard host scripts turns).history <
    UInt64.size - 1 := by decide +kernel
  have hapart : ToldApart host scripts true := by
    intro i name name' path path' _ _ hpath hpath' hshown
    cases hpath
    cases hpath'
    rw [DiskPath.display_ofText, DiskPath.display_ofText] at hshown
    rw [hshown]
  have hd : Discerning alone := by decide +kernel
  obtain ⟨-, halike⟩ := alike_of_interleaved (hosts_standard fun _ => True).offers host scripts turns
    hfew true hapart hd
  exact ⟨by decide +kernel, by decide +kernel, halike⟩

/-- What was read is the same for a client that sees what it sees alone. -/
theorem map_read?_of_alike {seen seen' : List Observation}
    (halike : List.Forall₂ Observation.Alike seen seen') :
    seen.map Observation.read? = seen'.map Observation.read? := by
  induction halike with
  | nil => rfl
  | cons hx _ ih => rw [List.map_cons, List.map_cons, hx.read?_eq, ih]

/-- A client that takes a text for a handle is given the document of another client, if the text is its
handle. And a client that opens a path is given the document of another path that is shown alike, if
that was opened before. -/
theorem not_alike_of_text_taken_nor_of_shown_alike :
    let files : Host := ⟨fun name => .ok name,
      fun path => .ok (utf8 (if path = "a" then "<a>xml_doc_b</a>" else "<b/>")), false⟩
    let scripts : Bool → List Step
      | true => [.openDocument "a", .ask 0 .text, .ask 1 .name]
      | false => [.openDocument "b"]
    let turns := [true, false, true, true]
    let first : DiskPath := ⟨[0xFF]⟩
    let second : DiskPath := ⟨[0xFE]⟩
    let files' : Host := ⟨fun name => .ok (if name = "a" then first else second),
      fun path => .ok (utf8 (if path = first then "<x/>" else "<y/>")), false⟩
    let scripts' : Bool → List Step
      | true => [.openDocument "a", .ask 0 .name]
      | false => [.openDocument "b"]
    let turns' := [false, true, true]
    ¬ List.Forall₂ Observation.Alike
        ((Session.run Registry.standard files scripts
          (List.replicate (turns.count true) true)).seen true)
        ((Session.run Registry.standard files scripts turns).seen true) ∧
      ¬ List.Forall₂ Observation.Alike
        ((Session.run Registry.standard files' scripts'
          (List.replicate (turns'.count true) true)).seen true)
        ((Session.run Registry.standard files' scripts' turns').seen true) := by
  intro files scripts turns first second files' scripts' turns'
  exact ⟨fun halike => absurd (map_read?_of_alike halike) (by decide +kernel),
    fun halike => absurd (map_read?_of_alike halike) (by decide +kernel)⟩

end Builtins
