import Builtins.Proofs.Run.Coherence
import Builtins.Proofs.Run.Meaning
import Mathlib.Data.List.Induction
import Mathlib.Logic.Function.Basic

/-!
# Clients of a run

Several clients may share a run.  Each of them follows a script, one step at a time, and asks its
questions of what its own steps gave.

* `Step` — calls that take what an earlier step gave for a handle, whatever that step gave;
* `Session.turn`, `Session.run` — the next step of one client, and a run in which clients take turns in
  any order;
* `Observation.Alike` — what a client cannot tell apart without comparing handles;
* `Discerning`, `ToldApart` — what scripts and files have to be like for clients to be independent;
* `steps_run`, `runs_run` — which steps were taken, and that sessions are runs.
-/

namespace Builtins

/-! ### Scripts -/

/-- Whether the answer to a question is a handle. -/
def Query.givesHandle : Query → Bool
  | root => true
  | list _ => true
  | get _ => true
  | _ => false

/-- The call that takes a value for a handle and asks a question of it. -/
def Query.request (q : Query) (v : Value) (h : Host) : Request :=
  ⟨h, (q.on v.text).function, v :: (q.on v.text).arguments.tail⟩

theorem Query.request_string (q : Query) (s : String) (h : Host) :
    q.request (.string s) h = (q.on s).request h := by
  cases q <;> rfl

/-- A step of a script. A question is asked of what an earlier step gave, told by the number of that
step; everything else is written out. -/
inductive Step where
  | openDocument (name : String)
  | embedFile (name token : String)
  | ask (source : Nat) (q : Query)
deriving DecidableEq

/-- Whether a step gives a handle when it succeeds. -/
def Step.givesHandle : Step → Bool
  | openDocument _ => true
  | embedFile _ _ => false
  | ask _ q => q.givesHandle

/-! ### Sessions -/

/-- What a client saw of one of its steps: the result of the call, or nothing if the step was skipped
because there was nothing to ask. -/
structure Observation where
  step : Step
  result? : Option (Except Fault Value)

/-- The value that was seen, if the call succeeded. -/
def Observation.value? (o : Observation) : Option Value :=
  match o.result? with
  | some (.ok v) => some v
  | _ => none

/-- The call that a step makes after what was seen so far. It is skipped if its question is about a
step that gave nothing. -/
def Step.request? (h : Host) (seen : List Observation) : Step → Option Request
  | openDocument name => some ((Operation.openDocument name).request h)
  | embedFile name token => some ((Operation.embedFile name token).request h)
  | ask source q => (seen[source]?.bind Observation.value?).map fun v => q.request v h

/-- A run that clients share, with what each of them has seen so far. -/
structure Session (ι : Type) where
  workspace : Workspace
  history : List Reply
  seen : ι → List Observation

namespace Session

variable {ι : Type} [DecidableEq ι]

/-- The session in which nobody has made a step. -/
def start : Session ι := ⟨Workspace.fresh, [], fun _ => []⟩

/-- A client sees something. -/
def see (s : Session ι) (i : ι) (o : Observation) : ι → List Observation :=
  Function.update s.seen i (s.seen i ++ [o])

/-- A client skips a step. -/
def skip (s : Session ι) (i : ι) (step : Step) : Session ι :=
  { s with seen := s.see i ⟨step, none⟩ }

/-- A client makes the call of a step. -/
def call (r : Registry) (s : Session ι) (i : ι) (step : Step) (q : Request) : Session ι :=
  let e := r.reply s.workspace q
  ⟨e.after, s.history ++ [e], s.see i ⟨step, some e.result⟩⟩

/-- A client makes the next step of its script, if it has one left. -/
def turn (r : Registry) (h : Host) (scripts : ι → List Step) (s : Session ι) (i : ι) : Session ι :=
  match (scripts i)[(s.seen i).length]? with
  | none => s
  | some step =>
    match step.request? h (s.seen i) with
    | none => s.skip i step
    | some q => s.call r i step q

/-- Clients take turns. -/
def run (r : Registry) (h : Host) (scripts : ι → List Step) (turns : List ι) : Session ι :=
  turns.foldl (turn r h scripts) start

end Session

/-- Two observations of the same step that differ at most in handles and in what messages say: both
times it was skipped, or succeeded, or failed with the same code, and what it gave is the same value
unless it is a handle. -/
inductive Observation.Alike : Observation → Observation → Prop
  | skipped (step : Step) : Alike ⟨step, none⟩ ⟨step, none⟩
  | value (step : Step) (v : Value) : Alike ⟨step, some (.ok v)⟩ ⟨step, some (.ok v)⟩
  | handle {step : Step} (s s' : String) : step.givesHandle →
      Alike ⟨step, some (.ok (.string s))⟩ ⟨step, some (.ok (.string s'))⟩
  | failed (step : Step) {fault fault' : Fault} : fault.code = fault'.code →
      Alike ⟨step, some (.error fault)⟩ ⟨step, some (.error fault')⟩

/-- The value that was seen of a step that gives no handle. -/
def Observation.read? (o : Observation) : Option Value :=
  if o.step.givesHandle then none else o.value?

/-- The text that was taken for a handle though it comes from a step that gives none. -/
def Observation.taken? (seen : List Observation) (o : Observation) : Option String :=
  match o.step with
  | .ask source _ =>
    match seen[source]?.bind read? with
    | some (.string s) => some s
    | _ => none
  | _ => none

/-- A client that takes no text it read for a handle if the text looks like one. -/
def Discerning (seen : List Observation) : Prop :=
  ∀ o ∈ seen, ∀ s ∈ o.taken? seen, ¬ IsReserved s

instance (seen : List Observation) : Decidable (Discerning seen) :=
  inferInstanceAs (Decidable (∀ o ∈ seen, ∀ s ∈ o.taken? seen, ¬ IsReserved s))

/-- What was read is the same for clients that cannot tell what they saw apart. -/
theorem Observation.Alike.read?_eq {o o' : Observation} (h : o.Alike o') : o.read? = o'.read? := by
  cases h with
  | skipped step => rfl
  | value step v => rfl
  | handle s s' hgives => rw [read?, read?, if_pos hgives, if_pos hgives]
  | failed step _ => rfl

/-- A client that was discerning was so before. -/
theorem Discerning.of_append {seen later : List Observation} (hd : Discerning (seen ++ later)) :
    Discerning seen := by
  intro o ho s hs
  refine hd o (List.mem_append_left _ ho) s ?_
  rw [Option.mem_def, Observation.taken?] at hs ⊢
  cases hstep : o.step with
  | ask source q =>
    simp only [hstep] at hs ⊢
    by_cases hlt : source < seen.length
    · rwa [List.getElem?_append_left hlt]
    · rw [List.getElem?_eq_none (Nat.le_of_not_lt hlt)] at hs
      cases hs
  | _ => simp only [hstep] at hs; cases hs

/-- Whether the paths that a client opens are told apart from all that are opened when they are
shown. -/
def ToldApart {ι : Type} (h : Host) (scripts : ι → List Step) (c : ι) : Prop :=
  ∀ {i name name' path path'}, Step.openDocument name ∈ scripts c →
    Step.openDocument name' ∈ scripts i → h.resolve name = .ok path → h.resolve name' = .ok path' →
      path.display = path'.display → path = path'

/-! ### What sessions are -/

namespace Session

variable {ι : Type} [DecidableEq ι] {r : Registry} {h : Host} {scripts : ι → List Step}
  {s : Session ι} {i j : ι}

@[simp]
theorem see_self (o : Observation) : s.see i o i = s.seen i ++ [o] := Function.update_self ..

theorem see_of_ne (o : Observation) (hj : j ≠ i) : s.see i o j = s.seen j :=
  Function.update_of_ne hj ..

/-- What one turn does: nothing, if the script is done; or one step is skipped, or its call is made. -/
theorem turn_cases (r : Registry) (h : Host) (scripts : ι → List Step) (s : Session ι) (i : ι) :
    ((scripts i).length ≤ (s.seen i).length ∧ s.turn r h scripts i = s) ∨
      ∃ step, (scripts i)[(s.seen i).length]? = some step ∧
        ((step.request? h (s.seen i) = none ∧ s.turn r h scripts i = s.skip i step) ∨
          ∃ q, step.request? h (s.seen i) = some q ∧
            s.turn r h scripts i = s.call r i step q) := by
  rw [turn]
  cases hstep : (scripts i)[(s.seen i).length]? with
  | none => exact .inl ⟨List.getElem?_eq_none_iff.1 hstep, rfl⟩
  | some step =>
    refine .inr ⟨step, rfl, ?_⟩
    cases hq : step.request? h (s.seen i) with
    | none => exact .inl ⟨rfl, by simp only [hq]⟩
    | some q => exact .inr ⟨q, rfl, by simp only [hq]⟩

theorem run_concat (turns : List ι) (i : ι) :
    run r h scripts (turns ++ [i]) = (run r h scripts turns).turn r h scripts i := by
  rw [run, List.foldl_append]
  rfl

/-- A turn of one client shows nothing to the others. -/
theorem seen_turn_of_ne (hj : j ≠ i) : (s.turn r h scripts i).seen j = s.seen j := by
  rcases turn_cases r h scripts s i with ⟨-, hturn⟩ | ⟨step, -, ⟨-, hturn⟩ | ⟨q, -, hturn⟩⟩
  · rw [hturn]
  · rw [hturn]
    exact see_of_ne _ hj
  · rw [hturn]
    exact see_of_ne _ hj

/-- A client that has a step left sees that step in its turn. -/
theorem steps_turn {step : Step} (hstep : (scripts i)[(s.seen i).length]? = some step) :
    ((s.turn r h scripts i).seen i).map (·.step) = (s.seen i).map (·.step) ++ [step] := by
  rcases turn_cases r h scripts s i with ⟨hdone, -⟩ | ⟨step', hstep', ⟨-, hturn⟩ | ⟨q, -, hturn⟩⟩
  · rw [List.getElem?_eq_none hdone] at hstep
    cases hstep
  · rw [hstep] at hstep'
    cases hstep'
    rw [hturn, skip]
    simp
  · rw [hstep] at hstep'
    cases hstep'
    rw [hturn, call]
    simp

/-- Clients see the first steps of their scripts, as many as they have had turns. -/
theorem steps_run (r : Registry) (h : Host) (scripts : ι → List Step) (turns : List ι) (i : ι) :
    ((run r h scripts turns).seen i).map (·.step) = (scripts i).take (turns.count i) := by
  induction turns using List.reverseRecOn with
  | nil => rfl
  | append_singleton turns j ih =>
    rw [run_concat, List.count_append]
    by_cases hj : i = j
    · subst hj
      rw [List.count_singleton_self]
      have hlen := congrArg List.length ih
      rw [List.length_map, List.length_take] at hlen
      cases hstep : (scripts i)[((run r h scripts turns).seen i).length]? with
      | none =>
        have hdone := List.getElem?_eq_none_iff.1 hstep
        rw [turn, hstep, ih, List.take_of_length_le (by omega), List.take_of_length_le (by omega)]
      | some step =>
        obtain ⟨hlt, hget⟩ := List.getElem?_eq_some_iff.1 hstep
        have hcount : ((run r h scripts turns).seen i).length = turns.count i := by omega
        rw [steps_turn hstep, ih, List.take_add_one, ← hcount, hstep]
        rfl
    · rw [seen_turn_of_ne hj, ih, List.count_singleton, if_neg (by simpa using Ne.symm hj)]
      rfl

/-- Where the requests of a session come from. -/
def Asks (h : Host) (scripts : ι → List Step) (q : Request) : Prop :=
  ∃ i, ∃ step ∈ scripts i, ∃ seen, step.request? h seen = some q

omit [DecidableEq ι] in
theorem Asks.of_step {step : Step} {seen : List Observation} {q : Request} {n : Nat}
    (hstep : (scripts i)[n]? = some step) (hq : step.request? h seen = some q) :
    Asks h scripts q :=
  ⟨i, step, List.mem_of_getElem? hstep, seen, hq⟩

omit [DecidableEq ι] in
theorem Asks.standard {q : Request} (hq : Asks h scripts q) : q.IsStandard ∧ q.host = h := by
  obtain ⟨i, step, -, seen, hreq⟩ := hq
  cases step with
  | openDocument name => cases hreq; exact ⟨⟨.openDocument name, rfl⟩, rfl⟩
  | embedFile name token => cases hreq; exact ⟨⟨.embedFile name token, rfl⟩, rfl⟩
  | ask source q =>
    obtain ⟨v, -, rfl⟩ := Option.map_eq_some_iff.1 hreq
    exact ⟨⟨q.on v.text, rfl⟩, rfl⟩

/-- A session is a run of what its clients ask. -/
theorem runs_run (r : Registry) (h : Host) (scripts : ι → List Step) (turns : List ι) :
    r.Runs (run r h scripts turns).history (run r h scripts turns).workspace ∧
      ∀ e ∈ (run r h scripts turns).history, Asks h scripts e.request := by
  induction turns using List.reverseRecOn with
  | nil => exact ⟨.fresh, fun e he => nomatch he⟩
  | append_singleton turns i ih =>
    obtain ⟨hruns, hasks⟩ := ih
    rw [run_concat]
    rcases turn_cases r h scripts (run r h scripts turns) i with
      ⟨-, hturn⟩ | ⟨step, hstep, ⟨-, hturn⟩ | ⟨q, hq, hturn⟩⟩
    · rw [hturn]
      exact ⟨hruns, hasks⟩
    · rw [hturn]
      exact ⟨hruns, hasks⟩
    · rw [hturn]
      refine ⟨hruns.call q, fun e he => ?_⟩
      rcases List.mem_append.1 he with hold | hnew
      · exact hasks e hold
      · obtain rfl := List.mem_singleton.1 hnew
        exact .of_step hstep hq

/-- Only the standard functions matter to a session. -/
theorem run_plain {loader : Loader} (hr : r.Offers loader) (turns : List ι) :
    run r h scripts turns = run (Registry.plain loader) h scripts turns := by
  induction turns using List.reverseRecOn with
  | nil => rw [run, run, List.foldl_nil, List.foldl_nil]
  | append_singleton turns i ih =>
    rw [run_concat, run_concat, ← ih, turn, turn]
    cases hstep : (scripts i)[((run r h scripts turns).seen i).length]? with
    | none => rfl
    | some step =>
      simp only
      cases hq : step.request? h ((run r h scripts turns).seen i) with
      | none => rfl
      | some q => simp only [call, Registry.reply_plain hr (Asks.of_step hstep hq).standard.1]

end Session

end Builtins
