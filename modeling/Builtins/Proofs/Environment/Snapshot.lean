import Builtins.Proofs.Text.Lowered
import Builtins.Proofs.Text.Order
import Builtins.Run
import Mathlib.Data.List.Dedup
import Mathlib.Data.List.Induction

/-!
# Snapshots of the environment

A snapshot answers as the list of variables of which it was taken: of several variables whose keys have
the same normal form the last one counts, and nothing that is done later makes a difference.

* `LastEntry` — the last entry under a key; `Table.get?_ofList_eq_some_iff` — which a table keeps of a
  list;
* `isNormal_normalForm` — a normal key is made of characters that do not change when it is made normal
  again;
* `Environment.toVariables` — a snapshot as a list of variables, `ofVariables_toVariables` — of which the
  same snapshot is taken;
* `Access`, `Run.after` — what is done in a run, and the run after it; `environment_perform`,
  `environment_after` — no step changes the snapshot, so no number of steps does;
* `Remembers`, `remembers_of_accesses` — what becomes of the variables with which a run is started.
-/

namespace Builtins

universe u

variable {α : Type u}

/-! ### Tables of lists -/

/-- The last of the entries under a key. -/
def LastEntry (l : List (String × α)) (key : String) (value : α) : Prop :=
  ∃ before after, l = before ++ (key, value) :: after ∧ ∀ e ∈ after, e.1 ≠ key

theorem lastEntry_concat {l : List (String × α)} {e : String × α} {key : String} {value : α} :
    LastEntry (l ++ [e]) key value ↔ e = (key, value) ∨ e.1 ≠ key ∧ LastEntry l key value := by
  constructor
  · rintro ⟨before, after, hl, hafter⟩
    rcases List.eq_nil_or_concat after with rfl | ⟨front, last, rfl⟩
    · exact .inl (List.cons.inj (List.append_inj' hl rfl).2).1
    · rw [List.concat_eq_append] at hl hafter
      rw [← List.cons_append, ← List.append_assoc] at hl
      obtain ⟨rfl, hlast⟩ := List.append_inj' hl rfl
      obtain rfl := (List.cons.inj hlast).1
      exact .inr ⟨hafter e (by simp), before, front, rfl, fun x hx => hafter x (by simp [hx])⟩
  · rintro (rfl | ⟨hne, before, after, rfl, hafter⟩)
    · exact ⟨l, [], rfl, by simp⟩
    · refine ⟨before, after ++ [e], by simp, ?_⟩
      intro x hx
      rcases List.mem_append.1 hx with hx | hx
      · exact hafter x hx
      · rw [List.mem_singleton.1 hx]
        exact hne

namespace Table

theorem ofList_concat (l : List (String × α)) (e : String × α) :
    ofList (l ++ [e]) = (ofList l).insert e.1 e.2 := by
  rw [ofList, List.foldl_append]
  rfl

/-- A table keeps the last entry under each key. -/
theorem get?_ofList_eq_some_iff {l : List (String × α)} {key : String} {value : α} :
    (ofList l).get? key = some value ↔ LastEntry l key value := by
  induction l using List.reverseRecOn with
  | nil =>
    constructor
    · intro h
      cases h
    · rintro ⟨before, after, hl, -⟩
      simp at hl
  | append_singleton l e ih =>
    obtain ⟨key', value'⟩ := e
    rw [ofList_concat, get?_insert, lastEntry_concat, ← ih]
    by_cases hkey : key = key'
    · simp [hkey]
    · simp [hkey, Ne.symm hkey]

/-- And none under any other key. -/
theorem get?_ofList_eq_none_iff {l : List (String × α)} {key : String} :
    (ofList l).get? key = none ↔ ∀ e ∈ l, e.1 ≠ key := by
  induction l using List.reverseRecOn with
  | nil => simp [ofList]
  | append_singleton l e ih =>
    rw [ofList_concat, get?_insert, List.forall_mem_append, ← ih, List.forall_mem_singleton]
    by_cases hkey : key = e.1
    · simp [hkey]
    · simp [hkey, Ne.symm hkey]

/-- A table is the table of its own entries. -/
theorem ofList_entries (t : Table α) : ofList t.entries = t := by
  apply ext_get?
  intro key
  cases h : t.get? key with
  | none =>
    rw [get?_ofList_eq_none_iff]
    rintro ⟨k, value⟩ he rfl
    rw [(t.mem_entries_iff k value).1 he] at h
    cases h
  | some value =>
    rw [get?_ofList_eq_some_iff]
    obtain ⟨before, after, hl⟩ := List.append_of_mem ((t.mem_entries_iff key value).2 h)
    refine ⟨before, after, hl, ?_⟩
    intro e he hkey
    have hsorted := t.sorted
    rw [hl, List.pairwise_append, List.pairwise_cons] at hsorted
    have hlt : key < e.1 := hsorted.2.1.1 e he
    exact String.lt_irrefl key (hkey ▸ hlt)

end Table

/-! ### Normal keys -/

/-- The normal form of a key: what stands behind the common start. -/
def normalForm (key : String) : String :=
  String.ofList ((lowercase key).toList.map fun c => if c = ' ' then '_' else c)

theorem namespacedKey_eq (key : String) : namespacedKey key = environmentStart ++ normalForm key := rfl

/-- A text that has its normal form: it has no spaces, it is in lower case, and it is not changed when
it is used as a key. -/
structure IsNormal (m : String) : Prop where
  spaceless : ' ' ∉ m.toList
  lower : lowercase m = m
  namespaced : namespacedKey m = environmentStart ++ m

/-- A normal form has neither spaces nor characters with another lower-case form. -/
theorem lowered_of_mem_normalForm {key : String} {c : Char} (h : c ∈ (normalForm key).toList) :
    Lowered c ∧ c ≠ ' ' := by
  rw [normalForm, String.toList_ofList] at h
  obtain ⟨a, ha, hc⟩ := List.mem_map.1 h
  by_cases hspace : a = ' '
  · rw [if_pos hspace] at hc
    rw [← hc]
    decide
  · rw [if_neg hspace] at hc
    rw [← hc]
    exact ⟨lowered_of_mem_lowercase ha, hspace⟩

/-- A normal form is its own. -/
theorem isNormal_normalForm (key : String) : IsNormal (normalForm key) := by
  have hlower : lowercase (normalForm key) = normalForm key :=
    lowercase_of_lowered fun _ hc => (lowered_of_mem_normalForm hc).1
  have hself : normalForm (normalForm key) = normalForm key := by
    show String.ofList ((lowercase (normalForm key)).toList.map _) = _
    rw [hlower]
    have hmap : (normalForm key).toList.map (fun c => if c = ' ' then '_' else c) =
        (normalForm key).toList.map id :=
      List.map_congr_left fun c hc => if_neg (lowered_of_mem_normalForm hc).2
    rw [hmap, List.map_id, String.ofList_toList]
  refine ⟨fun hmem => (lowered_of_mem_normalForm hmem).2 rfl, hlower, ?_⟩
  rw [namespacedKey_eq, hself]

/-- A sigma is lower-cased for its place in a word, and a dotted capital I leaves its dot behind. -/
example : normalForm "ΟΔΌΣ İ" = "οδός_i\u0307" := by decide +kernel

/-! ### What a snapshot holds -/

/-- Variables under their normal keys. -/
def underNormalKeys (vars : List (String × String)) : List (String × String) :=
  vars.map fun v => (namespacedKey v.1, v.2)

namespace Environment

variable {vars : List (String × String)} {key value : String}

/-- A snapshot keeps the last value of each normal key. -/
theorem get?_eq_some_iff : (ofVariables vars).entries.get? key = some value ↔
    LastEntry (underNormalKeys vars) key value :=
  Table.get?_ofList_eq_some_iff

theorem get?_eq_none_iff :
    (ofVariables vars).entries.get? key = none ↔ ∀ v ∈ vars, namespacedKey v.1 ≠ key := by
  show (Table.ofList (underNormalKeys vars)).get? key = none ↔ _
  rw [Table.get?_ofList_eq_none_iff, underNormalKeys, List.forall_mem_map]

theorem mem_names_iff {name : String} :
    name ∈ (ofVariables vars).names ↔ ∃ v ∈ vars, namespacedKey v.1 = name := by
  show name ∈ (ofVariables vars).entries.keys ↔ _
  rw [Table.mem_keys_iff, ← Option.ne_none_iff_isSome, Ne, get?_eq_none_iff]
  simp

theorem names_ascending (e : Environment) : (e.names.map utf8).Pairwise (· < ·) := by
  rw [List.pairwise_map]
  exact e.entries.keys_pairwise.imp utf8_lt_utf8

theorem size_eq : (ofVariables vars).size = (vars.map fun v => namespacedKey v.1).dedup.length := by
  have hnames : (ofVariables vars).names.Nodup :=
    (ofVariables vars).entries.keys_pairwise.imp String.ne_of_lt
  have hperm : (ofVariables vars).names.Perm (vars.map fun v => namespacedKey v.1).dedup := by
    rw [List.perm_ext_iff_of_nodup hnames (List.nodup_dedup _)]
    intro name
    rw [mem_names_iff, List.mem_dedup, List.mem_map]
  rw [← hperm.length_eq]
  exact (List.length_map _).symm

/-- A name in a snapshot without the common start. -/
def bareKey (name : String) : String :=
  String.ofList (name.toList.drop environmentStart.toList.length)

theorem bareKey_append (m : String) : bareKey (environmentStart ++ m) = m := by
  rw [bareKey, String.toList_append, List.drop_left, String.ofList_toList]

/-- A snapshot as a list of variables: its names without the common start, and their values. -/
def toVariables (e : Environment) : List (String × String) :=
  e.entries.entries.map fun entry => (bareKey entry.1, entry.2)

/-- Every name in a snapshot is the start and a normal form. -/
theorem exists_normal_of_mem {entry : String × String}
    (h : entry ∈ (ofVariables vars).entries.entries) :
    ∃ m, entry.1 = environmentStart ++ m ∧ IsNormal m := by
  have hname : entry.1 ∈ (ofVariables vars).names := List.mem_map_of_mem h
  obtain ⟨v, -, hv⟩ := mem_names_iff.1 hname
  exact ⟨normalForm v.1, hv.symm, isNormal_normalForm v.1⟩

theorem start_append_bareKey {entry : String × String}
    (h : entry ∈ (ofVariables vars).entries.entries) :
    environmentStart ++ bareKey entry.1 = entry.1 := by
  obtain ⟨m, hm, -⟩ := exists_normal_of_mem h
  rw [hm, bareKey_append]

theorem names_toVariables : (ofVariables vars).toVariables.map (fun v => environmentStart ++ v.1) =
    (ofVariables vars).names := by
  rw [toVariables, List.map_map]
  exact List.map_congr_left fun entry he => start_append_bareKey he

theorem read_of_mem_toVariables {v : String × String} (h : v ∈ (ofVariables vars).toVariables) :
    (ofVariables vars).read (environmentStart ++ v.1) = .ok (.string v.2) := by
  obtain ⟨entry, hentry, rfl⟩ := List.mem_map.1 h
  have hget := ((ofVariables vars).entries.mem_entries_iff entry.1 entry.2).1 hentry
  rw [read, start_append_bareKey hentry, hget]

/-- The same snapshot is taken of the variables that it holds. -/
theorem ofVariables_toVariables (vars : List (String × String)) :
    ofVariables (ofVariables vars).toVariables = ofVariables vars := by
  have hentries : underNormalKeys (ofVariables vars).toVariables =
      (ofVariables vars).entries.entries.map id := by
    rw [underNormalKeys, toVariables, List.map_map]
    apply List.map_congr_left
    intro entry he
    obtain ⟨m, hm, hnormal⟩ := exists_normal_of_mem he
    show (namespacedKey (bareKey entry.1), entry.2) = entry
    rw [hm, bareKey_append, hnormal.namespaced, ← hm]
  show (⟨Table.ofList (underNormalKeys (ofVariables vars).toVariables)⟩ : Environment) = _
  rw [hentries, List.map_id, Table.ofList_entries]

end Environment

/-! ### What is done in a run -/

/-- How the variables are accessed: by the snapshot itself, or by the run that has it. -/
inductive Route where
  | snapshot
  | run

/-- What is done in a run: variables are read and written, and functions are called while the disk is in
some state. -/
inductive Access where
  | read (route : Route) (key : String)
  | write (route : Route) (key : String) (value : Value)
  | call (d : Disk) (name : String) (args : List Value)

namespace Access

/-- The answer to an access, with the value that it gives if it gives one, and the run after it. -/
def perform (r : Run) : Access → Except Fault (Option Value) × Run
  | read .snapshot key => ((r.environment.read key).map some, r)
  | read .run key => ((r.readVariable key).map some, r)
  | write .snapshot key value => ((r.environment.write key value).map fun () => none, r)
  | write .run key value => ((r.writeVariable key value).map fun () => none, r)
  | call d name args => ((r.call d name args).1.map some, (r.call d name args).2)

/-- The answers that the variables `vars` promise. -/
inductive Answered (vars : List (String × String)) : Access → Except Fault (Option Value) → Prop
  | value {route : Route} {key value : String} :
      LastEntry (underNormalKeys vars) key value →
        Answered vars (.read route key) (.ok (some (.string value)))
  | undefined {route : Route} {key : String} :
      (∀ v ∈ vars, namespacedKey v.1 ≠ key) →
        Answered vars (.read route key) (.error (.undefinedVariable key))
  | refused {route : Route} {key : String} {value : Value} :
      Answered vars (.write route key value) (.error (.readOnlyVariable key))
  | called {d : Disk} {name : String} {args : List Value} (result : Except Fault (Option Value)) :
      Answered vars (.call d name args) result

/-- No access changes the snapshot. -/
theorem environment_perform (a : Access) (r : Run) : (a.perform r).2.environment = r.environment := by
  cases a with
  | read route key => cases route <;> rfl
  | write route key value => cases route <;> rfl
  | call d name args => rfl

/-- Every access is answered as the variables of the snapshot promise. -/
theorem answered_perform {vars : List (String × String)} {r : Run}
    (hr : r.environment = .ofVariables vars) (a : Access) : Answered vars a (a.perform r).1 := by
  cases a with
  | read route key =>
    have hanswer : ((Access.read route key).perform r).1 =
        ((Environment.ofVariables vars).read key).map some := by
      rw [← hr]
      cases route <;> rfl
    rw [hanswer, Environment.read]
    cases hget : (Environment.ofVariables vars).entries.get? key with
    | some value => exact .value (Environment.get?_eq_some_iff.1 hget)
    | none => exact .undefined (Environment.get?_eq_none_iff.1 hget)
  | write route key value => cases route <;> exact .refused
  | call d name args => exact .called _

end Access

namespace Run

/-- The answers to accesses, each in the run that those before it left behind. -/
def answers (r : Run) : List Access → List (Access × Except Fault (Option Value))
  | [] => []
  | a :: rest => (a, (a.perform r).1) :: (a.perform r).2.answers rest

/-- The run after some accesses. -/
def after (r : Run) (accesses : List Access) : Run := accesses.foldl (fun r a => (a.perform r).2) r

/-- Nothing that is done in a run changes its snapshot. -/
theorem environment_after (r : Run) (accesses : List Access) :
    (r.after accesses).environment = r.environment := by
  induction accesses generalizing r with
  | nil => rfl
  | cons a rest ih =>
    show ((a.perform r).2.after rest).environment = r.environment
    rw [ih, a.environment_perform]

/-- Every access of a run is answered as the variables promise with which the run was started. -/
theorem answered_of_mem {vars : List (String × String)} {r : Run}
    (hr : r.environment = .ofVariables vars) {accesses : List Access}
    {e : Access × Except Fault (Option Value)} (he : e ∈ r.answers accesses) :
    e.1.Answered vars e.2 := by
  induction accesses generalizing r with
  | nil => cases he
  | cons a rest ih =>
    rcases List.mem_cons.1 he with rfl | hrest
    · exact a.answered_perform hr
    · exact ih ((a.environment_perform r).trans hr) hrest

theorem map_fst_answers (r : Run) (accesses : List Access) :
    (r.answers accesses).map Prod.fst = accesses := by
  induction accesses generalizing r with
  | nil => rfl
  | cons a rest ih =>
    show a :: ((a.perform r).2.answers rest).map Prod.fst = a :: rest
    rw [ih]

end Run

/-- What becomes of the variables `vars` in a run that was started with them, after some accesses. -/
structure Remembers (vars : List (String × String)) (r : Run) (accesses : List Access) : Prop where
  /-- Every access gets an answer, and the right one: no write and no call has made a difference. -/
  complete : (r.answers accesses).map Prod.fst = accesses
  answered : ∀ e ∈ r.answers accesses, e.1.Answered vars e.2
  /-- The names are the normal keys, in the order of their bytes and without repetition. -/
  ascending : ((r.after accesses).environment.names.map utf8).Pairwise (· < ·)
  names : ∀ name, name ∈ (r.after accesses).environment.names ↔
    ∃ v ∈ vars, namespacedKey v.1 = name
  size : (r.after accesses).environment.size = (vars.map fun v => namespacedKey v.1).dedup.length
  /-- Every key has a normal form. -/
  normal : ∀ key, ∃ m, namespacedKey key = environmentStart ++ m ∧ IsNormal m
  /-- The names without their start, with the values that they are read as, give the snapshot again. -/
  bare : (r.after accesses).environment.toVariables.map (fun v => environmentStart ++ v.1) =
    (r.after accesses).environment.names
  values : ∀ v ∈ (r.after accesses).environment.toVariables,
    (r.after accesses).environment.read (environmentStart ++ v.1) = .ok (.string v.2)
  rebuilt : Environment.ofVariables (r.after accesses).environment.toVariables =
    (r.after accesses).environment

/-- A run remembers the variables with which it was started, whatever is done in it. -/
theorem remembers_of_accesses (registry : Registry) (lookup : FileLookup) (verbose : Bool)
    (vars : List (String × String)) (accesses : List Access) :
    Remembers vars (Run.start registry lookup verbose (.ofVariables vars)) accesses := by
  generalize hr : Run.start registry lookup verbose (.ofVariables vars) = r
  have hstart : r.environment = .ofVariables vars := by
    rw [← hr]
    rfl
  have hafter : (r.after accesses).environment = .ofVariables vars :=
    (r.environment_after accesses).trans hstart
  constructor
  · exact r.map_fst_answers accesses
  · exact fun e he => Run.answered_of_mem hstart he
  · exact (r.after accesses).environment.names_ascending
  · intro name
    rw [hafter]
    exact Environment.mem_names_iff
  · rw [hafter]
    exact Environment.size_eq
  · exact fun key => ⟨normalForm key, namespacedKey_eq key, isNormal_normalForm key⟩
  · rw [hafter]
    exact Environment.names_toVariables
  · rw [hafter]
    exact fun v hv => Environment.read_of_mem_toVariables hv
  · rw [hafter]
    exact Environment.ofVariables_toVariables vars

end Builtins
