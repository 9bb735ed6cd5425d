/-!
# Tables with text keys

A `Table` keeps its entries in strictly increasing order of their keys, so the keys are pairwise
distinct, a listing of them is already sorted, and two tables with the same contents are equal.

* `Table.get?`, `Table.insert`, `Table.keys`, `Table.size` are the operations.
* `get?_insert`: after a write the key answers the new value and every other key what it did.
* `ext_get?`: a table is determined by its answers.
-/

namespace Builtins

universe u

variable {α : Type u}

/-- Puts `value` at the place of `key` in an increasing list, over an older value of that key. -/
def placeEntry (key : String) (value : α) : List (String × α) → List (String × α)
  | [] => [(key, value)]
  | entry :: rest =>
    if entry.1 < key then entry :: placeEntry key value rest
    else if entry.1 = key then (key, value) :: rest
    else (key, value) :: entry :: rest

theorem mem_placeEntry {key : String} {value : α} {x : String × α} {l : List (String × α)}
    (h : x ∈ placeEntry key value l) : x = (key, value) ∨ x ∈ l := by
  induction l with
  | nil => simpa [placeEntry] using h
  | cons entry rest ih =>
    rw [placeEntry] at h
    split at h
    · rcases List.mem_cons.1 h with h | h
      · exact .inr (by simp [h])
      · rcases ih h with h | h
        · exact .inl h
        · exact .inr (by simp [h])
    · split at h <;> simp only [List.mem_cons] at h ⊢ <;> grind

theorem pairwise_placeEntry (key : String) (value : α) {l : List (String × α)}
    (h : l.Pairwise fun a b => a.1 < b.1) :
    (placeEntry key value l).Pairwise fun a b => a.1 < b.1 := by
  induction l with
  | nil => simp [placeEntry]
  | cons entry rest ih =>
    have hrest := List.pairwise_cons.1 h
    rw [placeEntry]
    split
    · rename_i hlt
      refine List.pairwise_cons.2 ⟨fun x hx => ?_, ih hrest.2⟩
      rcases mem_placeEntry hx with rfl | hx
      · exact hlt
      · exact hrest.1 x hx
    · split
      · rename_i heq
        exact List.pairwise_cons.2 ⟨fun x hx => heq ▸ hrest.1 x hx, hrest.2⟩
      · have hlt : key < entry.1 := by grind
        refine List.pairwise_cons.2 ⟨fun x hx => ?_, h⟩
        rcases List.mem_cons.1 hx with rfl | hx
        · exact hlt
        · exact String.lt_trans hlt (hrest.1 x hx)

/-- The value under `key` in a list of entries. -/
def findEntry (key : String) : List (String × α) → Option α
  | [] => none
  | entry :: rest => if entry.1 = key then some entry.2 else findEntry key rest

/-- Entries under text keys, in strictly increasing order of the keys. -/
structure Table (α : Type u) where
  entries : List (String × α)
  sorted : entries.Pairwise fun a b => a.1 < b.1

namespace Table

def empty : Table α := ⟨[], .nil⟩

instance : EmptyCollection (Table α) := ⟨empty⟩

instance : Inhabited (Table α) := ⟨empty⟩

def get? (t : Table α) (key : String) : Option α := findEntry key t.entries

def contains (t : Table α) (key : String) : Bool := (t.get? key).isSome

/-- Writes `value` under `key`; the last write under a key wins. -/
def insert (t : Table α) (key : String) (value : α) : Table α :=
  ⟨placeEntry key value t.entries, pairwise_placeEntry key value t.sorted⟩

def erase (t : Table α) (key : String) : Table α :=
  ⟨t.entries.filter fun e => e.1 != key, t.sorted.filter _⟩

/-- The keys in increasing order. -/
def keys (t : Table α) : List String := t.entries.map (·.1)

def size (t : Table α) : Nat := t.entries.length

/-- The entries of a list, written from left to right. -/
def ofList (l : List (String × α)) : Table α := l.foldl (fun t e => t.insert e.1 e.2) empty

theorem keys_pairwise (t : Table α) : t.keys.Pairwise (· < ·) := by
  simpa [keys, List.pairwise_map] using t.sorted

@[simp]
theorem get?_empty (key : String) : (empty : Table α).get? key = none := rfl

theorem findEntry_placeEntry (key key' : String) (value : α) (l : List (String × α)) :
    findEntry key' (placeEntry key value l) =
      if key' = key then some value else findEntry key' l := by
  induction l with
  | nil => grind [placeEntry, findEntry]
  | cons entry rest ih =>
    rw [placeEntry]
    split
    · have : entry.1 ≠ key := fun h => String.lt_irrefl key (by simp_all)
      grind [findEntry]
    · split <;> grind [findEntry]

theorem length_placeEntry {key : String} {l : List (String × α)} (h : findEntry key l = none)
    (value : α) : (placeEntry key value l).length = l.length + 1 := by
  induction l with
  | nil => rfl
  | cons entry rest ih =>
    rw [findEntry] at h
    split at h
    · cases h
    · rename_i hne
      rw [placeEntry, if_neg hne]
      split
      · rw [List.length_cons, ih h, List.length_cons]
      · rfl

/-- A new key makes a table longer by one entry. -/
theorem size_insert (t : Table α) {key : String} (h : t.get? key = none) (value : α) :
    (t.insert key value).size = t.size + 1 :=
  length_placeEntry h value

theorem get?_insert (t : Table α) (key key' : String) (value : α) :
    (t.insert key value).get? key' = if key' = key then some value else t.get? key' :=
  findEntry_placeEntry key key' value t.entries

@[simp]
theorem get?_insert_self (t : Table α) (key : String) (value : α) :
    (t.insert key value).get? key = some value := by simp [get?_insert]

theorem get?_insert_of_ne (t : Table α) {key key' : String} (value : α) (h : key' ≠ key) :
    (t.insert key value).get? key' = t.get? key' := by simp [get?_insert, h]

theorem mem_entries_iff (t : Table α) (key : String) (value : α) :
    (key, value) ∈ t.entries ↔ t.get? key = some value := by
  obtain ⟨l, h⟩ := t
  simp only [get?]
  induction l with
  | nil => simp [findEntry]
  | cons entry rest ih =>
    have hrest := List.pairwise_cons.1 h
    rw [List.mem_cons, findEntry, ih hrest.2]
    obtain ⟨k, v⟩ := entry
    by_cases hk : k = key
    · subst hk
      have : findEntry k rest ≠ some value := fun hv =>
        String.lt_irrefl k (hrest.1 (k, value) ((ih hrest.2).2 hv))
      simp [this, eq_comm]
    · simp [hk, Ne.symm hk]

theorem mem_keys_iff (t : Table α) (key : String) : key ∈ t.keys ↔ (t.get? key).isSome := by
  simp only [keys, List.mem_map, Option.isSome_iff_exists]
  constructor
  · rintro ⟨⟨k, v⟩, hmem, rfl⟩
    exact ⟨v, (t.mem_entries_iff k v).1 hmem⟩
  · rintro ⟨v, hv⟩
    exact ⟨(key, v), (t.mem_entries_iff key v).2 hv, rfl⟩

theorem findEntry_eq_none_of_lt {key : String} {l : List (String × α)}
    (h : ∀ x ∈ l, key < x.1) : findEntry key l = none := by
  induction l with
  | nil => rfl
  | cons entry rest ih =>
    have hne : entry.1 ≠ key := fun he =>
      String.lt_irrefl key (by simpa [he] using h entry (by simp))
    rw [findEntry, if_neg hne]
    exact ih fun x hx => h x (by simp [hx])

theorem eq_of_findEntry_eq {l l' : List (String × α)}
    (h : l.Pairwise fun a b => a.1 < b.1) (h' : l'.Pairwise fun a b => a.1 < b.1)
    (heq : ∀ key, findEntry key l = findEntry key l') : l = l' := by
  induction l generalizing l' with
  | nil =>
    cases l' with
    | nil => rfl
    | cons e r => simpa [findEntry] using heq e.1
  | cons e r ih =>
    cases l' with
    | nil => simpa [findEntry] using heq e.1
    | cons e' r' =>
      have hr := List.pairwise_cons.1 h
      have hr' := List.pairwise_cons.1 h'
      have hkey : e.1 = e'.1 := by
        have h1 : ¬ e.1 < e'.1 := fun hlt => by
          have := heq e.1
          rw [findEntry_eq_none_of_lt (l := e' :: r') (by
            intro x hx
            rcases List.mem_cons.1 hx with rfl | hx
            · exact hlt
            · exact String.lt_trans hlt (hr'.1 x hx))] at this
          simp [findEntry] at this
        have h2 : ¬ e'.1 < e.1 := fun hlt => by
          have := heq e'.1
          rw [findEntry_eq_none_of_lt (l := e :: r) (by
            intro x hx
            rcases List.mem_cons.1 hx with rfl | hx
            · exact hlt
            · exact String.lt_trans hlt (hr.1 x hx))] at this
          simp [findEntry] at this
        grind
      have hval : e.2 = e'.2 := by simpa [findEntry, hkey] using heq e.1
      have hrest : r = r' := ih hr.2 hr'.2 fun key => by
        by_cases hk : e.1 = key
        · subst hk
          rw [findEntry_eq_none_of_lt hr.1, findEntry_eq_none_of_lt (hkey ▸ hr'.1)]
        · have := heq key
          rwa [findEntry, findEntry, if_neg hk, if_neg (hkey ▸ hk)] at this
      exact congr (congrArg _ (Prod.ext hkey hval)) hrest

/-- A table is determined by its answers. -/
theorem ext_get? {t t' : Table α} (h : ∀ key, t.get? key = t'.get? key) : t = t' := by
  obtain ⟨l, hl⟩ := t
  obtain ⟨l', hl'⟩ := t'
  have : l = l' := eq_of_findEntry_eq hl hl' h
  subst this
  rfl

end Table

end Builtins
