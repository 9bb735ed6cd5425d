import Builtins.Proofs.Text.LineEnds
import Builtins.Xml.Reference

/-!
# References between line ends

The name of a known reference has no line end, so the same references are known before and after the line
ends of a text are unified. What a reference stands for is no part of the text, so that it may be a carriage
return, which stays.

* `resolveReference?_unify` — a name is known before and after;
* `UnifiesIf` — what is read before and after, and whether it is the same;
* `unescapeFrom_unify` — a value from any of its characters on;
* `valueOf`, `unifies_valueOf` — whole values.
-/

namespace Builtins

/-! ### Names -/

theorem digit?_line {base : Nat} {c : Char} (h : (digit? base c).isSome) : charEnd.Free c := by
  constructor
  · rintro rfl
    cases h
  · rintro rfl
    cases h

/-- A number that is read is made of digits. -/
theorem free_of_digitsFrom {base n m : Nat} {cs : List Char} (h : digitsFrom base n cs = .ok m) :
    ∀ c ∈ cs, charEnd.Free c := by
  induction cs generalizing n with
  | nil => simp
  | cons c cs ih =>
    rw [digitsFrom] at h
    cases hdigit : digit? base c with
    | none =>
      rw [hdigit] at h
      cases h
    | some d =>
      rw [hdigit] at h
      have hrest : digitsFrom base (n * base + d) cs = .ok m := by
        dsimp only at h
        split at h
        · exact h
        · cases h
      exact List.forall_mem_cons.2 ⟨digit?_line (by rw [hdigit]; rfl), ih hrest⟩

theorem free_of_number {base m : Nat} {cs : List Char} (h : number base cs = .ok m) :
    ∀ c ∈ cs, charEnd.Free c := by
  cases cs with
  | nil => cases h
  | cons c rest =>
    rw [number] at h
    split at h
    · cases h
    · exact free_of_digitsFrom h

/-- The number of a character has no line end. -/
theorem free_of_parseCharRef {cs : List Char} {x : Char} (h : parseCharRef cs = .ok x) :
    ∀ c ∈ cs, charEnd.Free c := by
  have hbind : ∀ {base : Nat} {ds : List Char}, (number base ds >>= charOfNumber) = .ok x →
      ∀ c ∈ ds, charEnd.Free c := by
    intro base ds h
    obtain ⟨n, hn, -⟩ := bind_eq_ok h
    exact free_of_number hn
  unfold parseCharRef at h
  split at h
  · exact List.forall_mem_cons.2 ⟨by decide, hbind h⟩
  · exact hbind h

theorem free_of_predefinedEntity? {name : List Char} {x : Char} (h : predefinedEntity? name = some x) :
    ∀ c ∈ name, charEnd.Free c := by
  unfold predefinedEntity? at h
  repeat' split at h
  case isFalse => cases h
  all_goals
    rename name = _ => hname
    subst hname
    exact LineEnd.free_of_all (by decide)

/-- A name that is known has no line end. -/
theorem free_of_resolveReference? {name : List Char} {x : Char} (h : resolveReference? name = some x) :
    ∀ c ∈ name, charEnd.Free c := by
  unfold resolveReference? at h
  split at h
  · rename_i digits
    refine List.forall_mem_cons.2 ⟨by decide, ?_⟩
    cases hparse : parseCharRef digits with
    | error fault =>
      rw [hparse] at h
      cases h
    | ok y => exact free_of_parseCharRef hparse
  · exact free_of_predefinedEntity? h

/-- What is known only without line ends is known before and after they are unified. -/
theorem squeeze_congr {β : Type} {f : List Char → Option β}
    (hfree : ∀ {name x}, f name = some x → ∀ c ∈ name, charEnd.Free c) (name : List Char) :
    f (charEnd.squeeze name) = f name := by
  cases h : f name with
  | some x => rw [LineEnd.squeeze_of_free (hfree h), h]
  | none =>
    refine Option.eq_none_iff_forall_ne_some.2 fun x hx => ?_
    rw [LineEnd.squeeze_of_free (LineEnd.free_of_squeeze (hfree hx)), h] at hx
    cases hx

theorem resolveReference?_unify (name : List Char) :
    resolveReference? (charEnd.squeeze name) = resolveReference? name :=
  squeeze_congr free_of_resolveReference? name

/-! ### Values -/

/-- What is read before and after: nothing at all, or texts that differ in line ends exactly if there was a
carriage return. -/
inductive UnifiesIf (returns : Prop) : Option (List Char) → Option (List Char) → Prop
  | none : UnifiesIf returns none none
  | some {cs ds : List Char} (h : Unifies cs ds) (heq : ds = cs ↔ ¬ returns) :
    UnifiesIf returns (some cs) (some ds)

namespace UnifiesIf

variable {returns returns' : Prop} {a b : Option (List Char)}

theorem congr (h : UnifiesIf returns a b) (hiff : returns ↔ returns') : UnifiesIf returns' a b := by
  cases h with
  | none => exact .none
  | some h heq => exact .some h (heq.trans (not_congr hiff))

/-- A character in front that is no line end. -/
theorem keep (h : UnifiesIf returns a b) (c : Char) :
    UnifiesIf returns (a.map (c :: ·)) (b.map (c :: ·)) := by
  cases h with
  | none => exact .none
  | some h heq => exact .some (.keep c h) (by rw [List.cons_inj_right, heq])

/-- A carriage return in front, which is unified. -/
theorem single (h : UnifiesIf returns a b) (hreturns : returns') :
    UnifiesIf returns' (a.map ('\r' :: ·)) (b.map ('\n' :: ·)) := by
  cases h with
  | none => exact .none
  | some h _ => exact .some (.single h) (by simpa using hreturns)

theorem pair (h : UnifiesIf returns a b) (hreturns : returns') :
    UnifiesIf returns' ((a.map ('\n' :: ·)).map ('\r' :: ·)) (b.map ('\n' :: ·)) := by
  cases h with
  | none => exact .none
  | some h _ => exact .some (.pair h) (by simpa using hreturns)

end UnifiesIf

/-- A carriage return in the name that has been read, or in what follows. -/
def Returns (name : Option (List Char)) (cs : List Char) : Prop := '\r' ∈ name.getD [] ∨ '\r' ∈ cs

/-- One more character of the name that has been read. -/
theorem returns_push (name : List Char) (c : Char) (cs : List Char) :
    Returns (some (c :: name)) cs ↔ Returns (some name) (c :: cs) := by
  simp only [Returns, Option.getD_some, List.mem_cons]
  tauto

theorem returns_cons {c : Char} (hc : c ≠ '\r') (cs : List Char) :
    Returns none (c :: cs) ↔ Returns none cs := by
  simp [Returns, Ne.symm hc]

section Unescaping

variable {rest : List Char} (hrest : UnifiesIf (Returns none rest) (unescapeFrom none rest)
  (unescapeFrom none (charEnd.squeeze rest)))

include hrest

/-- A character outside of a reference, before what is read the same way. -/
theorem unescapeFrom_outside {c : Char} (hamp : c ≠ '&') :
    UnifiesIf (Returns none (c :: rest)) (unescapeFrom none (c :: rest))
      (unescapeFrom none (charEnd.one c :: charEnd.squeeze rest)) := by
  by_cases hreturn : c = '\r'
  · subst hreturn
    exact hrest.single (.inr List.mem_cons_self)
  · rw [one_of_ne hreturn, unescapeFrom, if_neg hamp, unescapeFrom, if_neg hamp]
    exact (hrest.keep c).congr (returns_cons hreturn rest).symm

/-- The end of a reference. A name that is known has no carriage return, so only what follows may have one. -/
theorem unescapeFrom_close (run : List Char) :
    UnifiesIf (Returns (some run) (';' :: rest)) (unescapeFrom (some run) (';' :: rest))
      (unescapeFrom (some (charEnd.flip.squeeze run)) (';' :: charEnd.squeeze rest)) := by
  rw [unescapeFrom, if_pos rfl, unescapeFrom, if_pos rfl, ← LineEnd.squeeze_reverse,
    resolveReference?_unify]
  cases hresolve : resolveReference? run.reverse with
  | none => exact .none
  | some x =>
    have hfree := free_of_resolveReference? hresolve
    have hno : '\r' ∉ run := fun hmem => (hfree _ (List.mem_reverse.2 hmem)).1 rfl
    refine (hrest.keep x).congr ?_
    simp [Returns, hno]

end Unescaping

/-- A value from any of its characters on, outside of a reference or within its name. The name is held with the
latest character first, and does not end between the two halves of a pair. -/
theorem unescapeFrom_unify (cs : List Char) : ∀ name : Option (List Char),
    (∀ run, name = some run → run.head? = some '\r' → cs.head? ≠ some '\n') →
      UnifiesIf (Returns name cs) (unescapeFrom name cs)
        (unescapeFrom (name.map charEnd.flip.squeeze) (charEnd.squeeze cs)) := by
  induction cs using LineEnd.squeeze_induction (e := charEnd) with
  | nil =>
    intro name _
    cases name with
    | none => exact .some .nil (by simp [Returns])
    | some run => exact .none
  | pair rest ih =>
    intro name _
    rw [LineEnd.squeeze_pair]
    cases name with
    | none => exact (ih none fun _ h => by cases h).pair (.inr List.mem_cons_self)
    | some run =>
      have hrun : charEnd.flip.squeeze ('\n' :: '\r' :: run) = '\n' :: charEnd.flip.squeeze run :=
        LineEnd.squeeze_pair (e := charEnd.flip)
      have hnext := ih (some ('\n' :: '\r' :: run)) fun _ h hhead => by cases h; cases hhead
      rw [Option.map_some, hrun] at hnext
      refine UnifiesIf.congr (a := unescapeFrom (some run) _) hnext ?_
      rw [returns_push, returns_push]
      rfl
  | single c rest hc ih =>
    intro name hname
    have hrest := ih none fun _ h => by cases h
    rw [LineEnd.squeeze_cons hc]
    cases name with
    | none =>
      by_cases hamp : c = '&'
      · subst hamp
        exact (ih (some []) fun _ h hhead => by cases h; cases hhead).congr (by simp [Returns])
      · exact unescapeFrom_outside hrest hamp
    | some run =>
      by_cases hend : c = ';'
      · subst hend
        exact unescapeFrom_close hrest run
      · by_cases hamp : c = '&'
        · subst hamp
          exact .none
        · have hrun : charEnd.flip.squeeze (c :: run) = charEnd.one c :: charEnd.flip.squeeze run := by
            have hnext : c = '\n' → run.head? ≠ some '\r' := fun hfeed hhead =>
              hname run rfl hhead (by rw [hfeed]; rfl)
            rw [LineEnd.squeeze_cons (e := charEnd.flip) hnext, LineEnd.one_flip]
          have hpush := ih (some (c :: run)) fun _ h hhead => by
            cases h
            exact hc (Option.some.inj hhead)
          have hend' : charEnd.one c ≠ ';' := fun he => hend ((LineEnd.one_eq_iff (by decide)).1 he)
          have hamp' : charEnd.one c ≠ '&' := fun he => hamp ((LineEnd.one_eq_iff (by decide)).1 he)
          rw [Option.map_some, unescapeFrom, if_neg hend, if_neg hamp, unescapeFrom, if_neg hend',
            if_neg hamp', ← hrun]
          exact hpush.congr (returns_push run c rest)

/-- The value of an attribute: with its references replaced if all are known. -/
def valueOf (raw : String) : String := (unescape? raw).getD raw

/-- A value with its line ends unified is read as one that differs in line ends exactly if there was a
carriage return. -/
theorem unifies_valueOf (raw : String) :
    Unifies (valueOf raw).toList (valueOf (String.ofList (charEnd.squeeze raw.toList))).toList ∧
      (valueOf (String.ofList (charEnd.squeeze raw.toList)) = valueOf raw ↔ '\r' ∉ raw.toList) := by
  have hvalue := unescapeFrom_unify raw.toList none fun _ h => by cases h
  have hreturns : Returns none raw.toList ↔ '\r' ∈ raw.toList := by simp [Returns]
  simp only [valueOf, unescape?, String.toList_ofList]
  generalize unescapeFrom none raw.toList = a at hvalue
  rw [Option.map_none] at hvalue
  generalize unescapeFrom none (charEnd.squeeze raw.toList) = b at hvalue
  cases hvalue with
  | none =>
    obtain ⟨hunifies, heq⟩ := Unifies.squeeze raw.toList
    refine ⟨by simpa using hunifies, ?_⟩
    rw [← heq]
    exact ⟨fun h => by simpa using congrArg String.toList h, fun h => by simp [h]⟩
  | @some cs ds h heq =>
    refine ⟨by simpa using h, ?_⟩
    rw [← hreturns, ← heq]
    exact String.ofList_inj

end Builtins
