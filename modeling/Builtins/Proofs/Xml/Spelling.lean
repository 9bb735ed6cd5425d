import Builtins.Proofs.Text.Blank
import Builtins.Proofs.Xml.Forest
import Builtins.Xml.Builder

/-!
# What a sequence of events spells

Events are read like brackets: what stands between a start and its end is below it.  Character content
is one text as long as no tag comes in between, whatever else does.

* `Spells` — the forest that a sequence spells, after some pending characters;
* `Describes` — the tree of a sequence that spells one element, and white space around it;
* `depths`, `topLevel` — the depth of each event, and the events outside of every element;
* `WellFormed` — every end has its start, and outside of the one root there is only white space;
* `exists_spells` — every sequence with matching ends spells a forest;
* `Spells.countP_eventsAt`, `Spells.blank_eventsAt` — the events outside of every element are the
  elements and texts on the first level of the forest.
-/

namespace Builtins

/-! ### Forests as events -/

/-- A text before a forest; no characters are no text. -/
def textThen (s : String) (f : Forest) : Forest := if s.isEmpty then f else .text s f

/-- What events spell when some characters are pending. -/
inductive Spells : String → List Event → Forest → Prop
  | finish (s : String) : Spells s [] (textThen s .nil)
  | characters {s c : String} {events : List Event} {f : Forest} :
      Spells (s ++ c) events f → Spells s (.characters c :: events) f
  | ignorable {s : String} {events : List Event} {f : Forest} :
      Spells s events f → Spells s (.ignorable :: events) f
  | empty {s name : String} {attributes : List Attribute} {events : List Event} {f : Forest} :
      Spells "" events f →
        Spells s (.empty name attributes :: events)
          (textThen s (.element name attributes .nil f))
  | element {s name : String} {attributes : List Attribute} {inner events : List Event}
      {below f : Forest} :
      Spells "" inner below → Spells "" events f →
        Spells s (.start name attributes :: (inner ++ .close :: events))
          (textThen s (.element name attributes below f))

namespace Forest

/-- The elements on the first level. -/
def elements : Forest → List Tree
  | nil => []
  | text _ rest => rest.elements
  | element name attributes below rest => ⟨name, attributes, below⟩ :: rest.elements

/-- The texts on the first level. -/
def texts : Forest → List String
  | nil => []
  | text s rest => s :: rest.texts
  | element _ _ _ rest => rest.texts

theorem entries_textThen (s : String) (f : Forest) (depth : Nat) :
    (textThen s f).entries depth = (textThen s .nil).entries depth ++ f.entries depth := by
  rw [textThen, textThen]
  split <;> rfl

theorem elements_textThen (s : String) (f : Forest) : (textThen s f).elements = f.elements := by
  rw [textThen]
  split <;> rfl

theorem blank_texts_textThen {s : String} {f : Forest} :
    (∀ t ∈ (textThen s f).texts, Blank t) ↔ Blank s ∧ ∀ t ∈ f.texts, Blank t := by
  rw [textThen]
  split
  · rename_i hs
    have hempty : s = "" := String.isEmpty_iff.1 hs
    subst hempty
    exact ⟨fun h => ⟨blank_empty, h⟩, fun h => h.2⟩
  · exact List.forall_mem_cons

end Forest

/-- The tree that a sequence of events describes. -/
def Describes (events : List Event) (t : Tree) : Prop :=
  ∃ f, Spells "" events f ∧ f.elements = [t] ∧ ∀ s ∈ f.texts, Blank s

/-! ### Depths -/

namespace Event

/-- Whether an event opens an element. -/
def isStart : Event → Bool
  | start _ _ => true
  | _ => false

def isClose : Event → Bool
  | close => true
  | _ => false

/-- Whether an event makes an element. -/
def isTag : Event → Bool
  | start _ _ => true
  | empty _ _ => true
  | _ => false

/-- How far an event changes the depth. -/
def rise : Event → Int
  | start _ _ => 1
  | close => -1
  | _ => 0

end Event

/-- Every event with the depth at which it occurs, when the first one occurs at a given depth. -/
def depths (depth : Int) : List Event → List (Event × Int)
  | [] => []
  | e :: events => (e, depth) :: depths (depth + e.rise) events

/-- The events that occur at a depth. -/
def eventsAt (depth : Int) (found : List (Event × Int)) : List Event :=
  (found.filter fun x => x.2 == depth).map (·.1)

/-- The events outside of every element. -/
def topLevel (events : List Event) : List Event := eventsAt 0 (depths 0 events)

/-- Every end has its start, there is one element outside of all others, and the characters outside
of it are white space. -/
structure WellFormed (events : List Event) : Prop where
  nested : ∀ n, (events.take n).countP Event.isClose ≤ (events.take n).countP Event.isStart
  closed : events.countP Event.isClose = events.countP Event.isStart
  oneRoot : (topLevel events).countP Event.isTag = 1
  blank : ∀ s, Event.characters s ∈ topLevel events → Blank s

/-- How far events change the depth in all. -/
def totalRise : List Event → Int
  | [] => 0
  | e :: events => e.rise + totalRise events

theorem totalRise_append (xs ys : List Event) : totalRise (xs ++ ys) = totalRise xs + totalRise ys := by
  induction xs with
  | nil => exact (Int.zero_add _).symm
  | cons e xs ih => rw [List.cons_append, totalRise, totalRise, ih, Int.add_assoc]

theorem depths_append (xs ys : List Event) : ∀ depth,
    depths depth (xs ++ ys) = depths depth xs ++ depths (depth + totalRise xs) ys := by
  induction xs with
  | nil =>
    intro depth
    rw [totalRise, Int.add_zero]
    rfl
  | cons e xs ih =>
    intro depth
    rw [List.cons_append, depths, depths, ih, totalRise, Int.add_assoc, List.cons_append]

/-- A forest ends at the depth where it starts. -/
theorem Spells.totalRise_eq {s : String} {events : List Event} {f : Forest}
    (h : Spells s events f) : totalRise events = 0 := by
  induction h with
  | finish s => rfl
  | characters _ ih =>
    rw [totalRise, ih]
    rfl
  | ignorable _ ih =>
    rw [totalRise, ih]
    rfl
  | empty _ ih =>
    rw [totalRise, ih]
    rfl
  | element _ _ ihi ihe =>
    rw [totalRise, totalRise_append, totalRise, ihi, ihe]
    rfl

/-- An event that changes no depth is at its depth, and the rest as well. -/
theorem depths_cons_flat {e : Event} (he : e.rise = 0) (depth : Int) (events : List Event) :
    depths depth (e :: events) = (e, depth) :: depths depth events := by
  rw [depths, he, Int.add_zero]

/-- What stands in an element is one level down, and so is its end. -/
theorem Spells.depths_element {s name : String} {attributes : List Attribute}
    {inner events : List Event} {below : Forest} (h : Spells s inner below) (depth : Int) :
    depths depth (.start name attributes :: (inner ++ .close :: events)) =
      (.start name attributes, depth) :: (depths (depth + 1) inner ++
        (.close, depth + 1) :: depths depth events) := by
  have hback : depth + 1 + Event.close.rise = depth := by
    simp only [Event.rise]
    omega
  rw [depths, depths_append, h.totalRise_eq, Int.add_zero, depths]
  show _ :: (depths (depth + 1) inner ++
    (Event.close, depth + 1) :: depths (depth + 1 + Event.close.rise) events) = _
  rw [hback]

/-- No event of a forest occurs above it. -/
theorem Spells.le_depth {s : String} {events : List Event} {f : Forest} (h : Spells s events f) :
    ∀ depth, ∀ x ∈ depths depth events, depth ≤ x.2 := by
  induction h with
  | finish s =>
    intro depth x hx
    cases hx
  | characters _ ih =>
    intro depth
    rw [depths_cons_flat rfl]
    exact List.forall_mem_cons.2 ⟨Int.le_refl _, ih depth⟩
  | ignorable _ ih =>
    intro depth
    rw [depths_cons_flat rfl]
    exact List.forall_mem_cons.2 ⟨Int.le_refl _, ih depth⟩
  | empty _ ih =>
    intro depth
    rw [depths_cons_flat rfl]
    exact List.forall_mem_cons.2 ⟨Int.le_refl _, ih depth⟩
  | @element s name attributes inner events below f hi he ihi ihe =>
    intro depth
    rw [hi.depths_element]
    refine List.forall_mem_cons.2 ⟨Int.le_refl _, fun x hx => ?_⟩
    rcases List.mem_append.1 hx with hinner | hclose
    · have hle := ihi (depth + 1) x hinner
      omega
    · rcases List.mem_cons.1 hclose with rfl | hafter
      · show depth ≤ depth + 1
        omega
      · exact ihe depth x hafter

/-! ### The events outside -/

theorem eventsAt_cons_self (e : Event) (depth : Int) (found : List (Event × Int)) :
    eventsAt depth ((e, depth) :: found) = e :: eventsAt depth found := by
  rw [eventsAt, List.filter_cons_of_pos (by simp), List.map_cons]
  rfl

/-- Outside of an element only its start is seen. -/
theorem Spells.eventsAt_element {s name : String} {attributes : List Attribute}
    {inner events : List Event} {below : Forest} (h : Spells s inner below) (depth : Int) :
    eventsAt depth (depths depth (.start name attributes :: (inner ++ .close :: events))) =
      .start name attributes :: eventsAt depth (depths depth events) := by
  have hinner : (depths (depth + 1) inner).filter (fun x => x.2 == depth) = [] := by
    refine List.filter_eq_nil_iff.2 fun x hx => ?_
    have hle := h.le_depth (depth + 1) x hx
    simp only [beq_iff_eq]
    omega
  have hend : ¬ (depth + 1 == depth) = true := by
    simp only [beq_iff_eq]
    omega
  rw [h.depths_element, eventsAt_cons_self, eventsAt, List.filter_append, hinner, List.nil_append,
    List.filter_cons, if_neg hend]
  rfl

/-- The tags outside are the elements on the first level. -/
theorem Spells.countP_eventsAt {s : String} {events : List Event} {f : Forest}
    (h : Spells s events f) (depth : Int) :
    (eventsAt depth (depths depth events)).countP Event.isTag = f.elements.length := by
  induction h with
  | finish s =>
    rw [Forest.elements_textThen]
    rfl
  | characters _ ih =>
    rw [depths_cons_flat rfl, eventsAt_cons_self, List.countP_cons_of_neg (by simp [Event.isTag]), ih]
  | ignorable _ ih =>
    rw [depths_cons_flat rfl, eventsAt_cons_self, List.countP_cons_of_neg (by simp [Event.isTag]), ih]
  | empty _ ih =>
    rw [depths_cons_flat rfl, eventsAt_cons_self, List.countP_cons_of_pos (by simp [Event.isTag]), ih,
      Forest.elements_textThen]
    rfl
  | element hi _ _ ih =>
    rw [hi.eventsAt_element, List.countP_cons_of_pos (by simp [Event.isTag]), ih,
      Forest.elements_textThen]
    rfl

/-- The characters outside are those of the texts on the first level. -/
theorem Spells.blank_eventsAt {s : String} {events : List Event} {f : Forest}
    (h : Spells s events f) (depth : Int) :
    (∀ t ∈ f.texts, Blank t) ↔
      Blank s ∧ ∀ c, Event.characters c ∈ eventsAt depth (depths depth events) → Blank c := by
  induction h with
  | finish s =>
    rw [Forest.blank_texts_textThen]
    simp [Forest.texts, depths, eventsAt]
  | characters _ ih =>
    rw [depths_cons_flat rfl, eventsAt_cons_self, ih, blank_append]
    simp only [List.mem_cons, Event.characters.injEq, forall_eq_or_imp, and_assoc]
  | ignorable _ ih =>
    rw [depths_cons_flat rfl, eventsAt_cons_self, ih]
    simp
  | empty _ ih =>
    rw [depths_cons_flat rfl, eventsAt_cons_self, Forest.blank_texts_textThen]
    simp [Forest.texts, ih, blank_empty]
  | element hi _ _ ih =>
    rw [hi.eventsAt_element, Forest.blank_texts_textThen]
    simp [Forest.texts, ih, blank_empty]

/-! ### Matching ends -/

/-- Events that close some more elements than they start: what stands before each of these ends is a
forest. -/
inductive Levels : Nat → String → List Event → Prop
  | last {s : String} {events : List Event} {f : Forest} : Spells s events f → Levels 0 s events
  | up {k : Nat} {s : String} {inner events : List Event} {f : Forest} :
      Spells s inner f → Levels k "" events → Levels (k + 1) s (inner ++ .close :: events)

/-- Ends that match, up to a number of elements that were open before. -/
def Matched (k : Nat) (events : List Event) : Prop :=
  (∀ n, (events.take n).countP Event.isClose ≤ (events.take n).countP Event.isStart + k) ∧
    events.countP Event.isClose = events.countP Event.isStart + k

/-- After an event the ends match up to one element more if it is a start, and to one less if it is an
end. -/
theorem Matched.tail {j k : Nat} {e : Event} {events : List Event} (h : Matched k (e :: events))
    (hj : j + (if e.isClose then 1 else 0) = k + (if e.isStart then 1 else 0)) :
    Matched j events := by
  obtain ⟨hnested, hclosed⟩ := h
  constructor
  · intro n
    have hn := hnested (n + 1)
    rw [List.take_succ_cons, List.countP_cons, List.countP_cons] at hn
    omega
  · rw [List.countP_cons, List.countP_cons] at hclosed
    omega

/-- An end needs an element that is open. -/
theorem Matched.pos_of_close {k : Nat} {events : List Event} (h : Matched k (.close :: events)) :
    ∃ j, k = j + 1 := by
  have hone : (1 : Nat) ≤ 0 + k := h.1 1
  exact Nat.exists_eq_succ_of_ne_zero (by omega)

/-- Events whose ends match spell a forest on every level. -/
theorem levels_of_matched (events : List Event) : ∀ {k : Nat} {s : String},
    Matched k events → Levels k s events := by
  induction events with
  | nil =>
    intro k s h
    have hk : k = 0 := by simpa using h.2.symm
    subst hk
    exact .last (.finish s)
  | cons e events ih =>
    intro k s h
    cases e with
    | start name attributes =>
      have htail : Matched (k + 1) events := h.tail rfl
      cases ih htail with
      | up hinner hrest =>
        cases hrest with
        | last hf => exact .last (.element hinner hf)
        | up hf hrest =>
          have hup := Levels.up (@Spells.element s name attributes _ _ _ _ hinner hf) hrest
          simpa using hup
    | empty name attributes =>
      have htail : Matched k events := h.tail rfl
      cases ih htail with
      | last hf => exact .last (.empty hf)
      | up hf hrest => exact .up (.empty hf) hrest
    | close =>
      obtain ⟨j, rfl⟩ := h.pos_of_close
      have htail : Matched j events := h.tail rfl
      exact .up (.finish s) (ih htail)
    | characters c =>
      have htail : Matched k events := h.tail rfl
      cases ih htail with
      | last hf => exact .last (.characters hf)
      | up hf hrest => exact .up (.characters hf) hrest
    | ignorable =>
      have htail : Matched k events := h.tail rfl
      cases ih htail with
      | last hf => exact .last (.ignorable hf)
      | up hf hrest => exact .up (.ignorable hf) hrest

/-- Events whose ends match spell a forest. -/
theorem exists_spells {events : List Event} (h : Matched 0 events) : ∃ f, Spells "" events f := by
  cases levels_of_matched events h with
  | last hf => exact ⟨_, hf⟩

end Builtins
