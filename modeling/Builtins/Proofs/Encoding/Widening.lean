import Builtins.Xml.Attribute

/-!
# Bytes written as several bytes

Text in a single-byte code page becomes UTF-8 when each of its bytes is replaced by the bytes of a
character. All that matters to whoever looks for ASCII in the text is said here, without the
characters.

* `Widening` — one or more bytes for each byte, `Widening.widen` — for each byte of a list;
* `Widening.same` — nothing is changed, `Widening.mirror` — for lists with the latest byte first;
* `Widening.take_widen`, `Widening.drop_widen` — ASCII at the start of a list;
* `Widening.Sees` — a test that cannot tell a byte from what stands for it, and `Widening.all_widen`,
  `Widening.takeWhile_widen`, `Widening.dropWhile_widen` — what such a test selects;
* `Transcodes` — widened bytes stand in UTF-8 for what the bytes stand for in an encoding.
-/

namespace Builtins

/-- A byte outside of ASCII is none of ASCII. -/
theorem beq_of_high {a b : UInt8} (hb : 128 ≤ b.toNat) (ha : a.toNat < 128) : (b == a) = false := by
  refine beq_eq_false_iff_ne.2 fun he => ?_
  rw [he] at hb
  omega

/-- A list of ASCII, byte by byte. -/
theorem ascii_of_all {bytes : Bytes} (h : bytes.all (fun b => decide (b.toNat < 128)) = true) :
    ∀ b ∈ bytes, b.toNat < 128 :=
  fun b hb => of_decide_eq_true (List.all_eq_true.1 h b hb)

/-- One or more bytes for each byte. ASCII stays as it is, the rest stays out of ASCII, and lists can
be told apart afterwards. -/
structure Widening where
  byte : UInt8 → Bytes
  ascii : ∀ b : UInt8, b.toNat < 128 → byte b = [b]
  high : ∀ b : UInt8, 128 ≤ b.toNat → byte b ≠ [] ∧ ∀ x ∈ byte b, 128 ≤ x.toNat
  injective : ∀ xs ys : Bytes, xs.flatMap byte = ys.flatMap byte → xs = ys

namespace Widening

/-- A list with each byte replaced. -/
def widen (w : Widening) (bytes : Bytes) : Bytes := bytes.flatMap w.byte

variable (w : Widening)

@[simp]
theorem widen_nil : w.widen [] = [] := rfl

theorem widen_cons (b : UInt8) (bytes : Bytes) :
    w.widen (b :: bytes) = w.byte b ++ w.widen bytes := List.flatMap_cons

theorem widen_cons_ascii {b : UInt8} (hb : b.toNat < 128) (bytes : Bytes) :
    w.widen (b :: bytes) = b :: w.widen bytes := by
  rw [widen_cons, w.ascii b hb, List.singleton_append]

theorem widen_append (xs ys : Bytes) : w.widen (xs ++ ys) = w.widen xs ++ w.widen ys :=
  List.flatMap_append

theorem widen_singleton (b : UInt8) : w.widen [b] = w.byte b := by
  rw [widen_cons, widen_nil, List.append_nil]

theorem widen_inj {xs ys : Bytes} : w.widen xs = w.widen ys ↔ xs = ys :=
  ⟨w.injective xs ys, fun h => by rw [h]⟩

/-- Lists are equal exactly if they are equal with each byte replaced. -/
theorem beq_widen (xs ys : Bytes) : (w.widen xs == w.widen ys) = (xs == ys) := by
  rw [Bool.eq_iff_iff, beq_iff_eq, beq_iff_eq]
  exact w.widen_inj

theorem byte_ne_nil (b : UInt8) : w.byte b ≠ [] := by
  by_cases hb : b.toNat < 128
  · rw [w.ascii b hb]
    exact List.cons_ne_nil _ _
  · exact (w.high b (by omega)).1

theorem isEmpty_widen (bytes : Bytes) : (w.widen bytes).isEmpty = bytes.isEmpty := by
  cases bytes with
  | nil => rfl
  | cons b bytes =>
    rw [widen_cons, List.isEmpty_cons, List.isEmpty_eq_false_iff]
    exact List.append_ne_nil_of_left_ne_nil (w.byte_ne_nil b) _

/-- ASCII stays as it is. -/
theorem widen_ascii {bytes : Bytes} (h : ∀ b ∈ bytes, b.toNat < 128) : w.widen bytes = bytes := by
  induction bytes with
  | nil => rfl
  | cons b bytes ih =>
    obtain ⟨hb, hbytes⟩ := List.forall_mem_cons.1 h
    rw [w.widen_cons_ascii hb, ih hbytes]

theorem length_le_widen (bytes : Bytes) : bytes.length ≤ (w.widen bytes).length := by
  induction bytes with
  | nil => exact Nat.zero_le _
  | cons b bytes ih =>
    have hb : 0 < (w.byte b).length := List.length_pos_iff.2 (w.byte_ne_nil b)
    rw [widen_cons, List.length_append, List.length_cons]
    omega

/-- If what stands for a byte does what the byte does, a widened list does what the list does. -/
theorem foldl_widen {σ : Type} {step : σ → UInt8 → σ} {f : σ → σ} {Sound : σ → Prop}
    (hbyte : ∀ {s b}, Sound s → (w.byte b).foldl step (f s) = f (step s b))
    (hsound : ∀ {s b}, Sound s → Sound (step s b)) (bytes : Bytes) :
    ∀ {s}, Sound s → (w.widen bytes).foldl step (f s) = f (bytes.foldl step s) := by
  induction bytes with
  | nil =>
    intro s _
    rfl
  | cons b bytes ih =>
    intro s h
    rw [w.widen_cons, List.foldl_append, hbyte h, List.foldl_cons]
    exact ih (hsound h)

/-! ### Two widenings -/

/-- Each byte for itself. -/
def same : Widening where
  byte b := [b]
  ascii _ _ := rfl
  high b hb := ⟨List.cons_ne_nil _ _, fun x hx => by rwa [List.mem_singleton.1 hx]⟩
  injective xs ys h := by rwa [List.flatMap_singleton', List.flatMap_singleton'] at h

theorem same_widen (bytes : Bytes) : same.widen bytes = bytes := List.flatMap_singleton' bytes

theorem flatMap_reverse (byte : UInt8 → Bytes) (bytes : Bytes) :
    bytes.flatMap (fun b => (byte b).reverse) = (bytes.reverse.flatMap byte).reverse := by
  rw [List.reverse_flatMap, List.reverse_reverse]
  rfl

/-- The widening for lists that hold the latest byte first. -/
def mirror : Widening where
  byte b := (w.byte b).reverse
  ascii b hb := by rw [w.ascii b hb, List.reverse_singleton]
  high b hb := by
    obtain ⟨hne, hall⟩ := w.high b hb
    exact ⟨fun he => hne (List.reverse_eq_nil_iff.1 he), fun x hx => hall x (List.mem_reverse.1 hx)⟩
  injective xs ys h := by
    rw [flatMap_reverse, flatMap_reverse, List.reverse_inj] at h
    exact List.reverse_inj.1 (w.injective _ _ h)

/-- A list in its order, from one with the latest byte first. -/
theorem reverse_mirror (run : Bytes) : (w.mirror.widen run).reverse = w.widen run.reverse := by
  show (run.flatMap fun b => (w.byte b).reverse).reverse = _
  rw [flatMap_reverse, List.reverse_reverse]
  rfl

/-! ### ASCII at the start of a list -/

/-- A list starts with some ASCII, up to a change that keeps the rest out of ASCII, exactly if it does
so with each byte replaced. -/
theorem map_take_widen_eq {f : UInt8 → UInt8} (hf : ∀ b, 128 ≤ b.toNat → 128 ≤ (f b).toNat)
    {start : Bytes} : (∀ b ∈ start, b.toNat < 128) → ∀ bytes : Bytes,
      ((w.widen bytes).take start.length).map f = start ↔
        (bytes.take start.length).map f = start := by
  induction start with
  | nil =>
    intro _ bytes
    rw [List.length_nil, List.take_zero, List.take_zero]
  | cons a start ih =>
    intro hstart bytes
    obtain ⟨ha, hstart⟩ := List.forall_mem_cons.1 hstart
    cases bytes with
    | nil => rfl
    | cons b bytes =>
      rw [widen_cons, List.length_cons, List.take_succ_cons, List.map_cons]
      by_cases hb : b.toNat < 128
      · rw [w.ascii b hb, List.singleton_append, List.take_succ_cons, List.map_cons, List.cons.injEq,
          List.cons.injEq, ih hstart bytes]
      · -- Neither the byte nor what stands for it can be the first of the start.
        obtain ⟨hne, hall⟩ := w.high b (by omega)
        obtain ⟨x, rest, hbyte⟩ := List.exists_cons_of_ne_nil hne
        have hx : f x ≠ a := fun he => by
          have := hf x (hall x (by rw [hbyte]; exact List.mem_cons_self))
          rw [he] at this
          omega
        have hb : f b ≠ a := fun he => by
          have := hf b (by omega)
          rw [he] at this
          omega
        rw [hbyte, List.cons_append, List.take_succ_cons, List.map_cons, List.cons.injEq,
          List.cons.injEq]
        exact ⟨fun h => absurd h.1 hx, fun h => absurd h.1 hb⟩

theorem map_take_widen {f : UInt8 → UInt8} (hf : ∀ b, 128 ≤ b.toNat → 128 ≤ (f b).toNat)
    {start : Bytes} (hstart : ∀ b ∈ start, b.toNat < 128) (bytes : Bytes) :
    (((w.widen bytes).take start.length).map f == start) =
      ((bytes.take start.length).map f == start) := by
  rw [Bool.eq_iff_iff, beq_iff_eq, beq_iff_eq]
  exact w.map_take_widen_eq hf hstart bytes

/-- A list starts with some ASCII exactly if it does so with each byte replaced. -/
theorem take_widen {start : Bytes} (hstart : ∀ b ∈ start, b.toNat < 128) (bytes : Bytes) :
    ((w.widen bytes).take start.length == start) = (bytes.take start.length == start) := by
  have h := @map_take_widen w id (fun b hb => hb) start hstart bytes
  rwa [List.map_id, List.map_id] at h

theorem head?_widen {a : UInt8} (ha : a.toNat < 128) (bytes : Bytes) :
    ((w.widen bytes).head? == some a) = (bytes.head? == some a) := by
  have htake : ∀ xs : Bytes, (xs.head? == some a) = (xs.take 1 == [a]) := by
    intro xs
    cases xs with
    | nil => rfl
    | cons x xs => simp
  rw [htake, htake]
  exact @take_widen w [a] (fun b hb => by rwa [List.mem_singleton.1 hb]) bytes

/-- Behind ASCII a list can be cut before or after its bytes are replaced. -/
theorem drop_widen {n : Nat} : ∀ {bytes : Bytes}, (∀ b ∈ bytes.take n, b.toNat < 128) →
    (w.widen bytes).drop n = w.widen (bytes.drop n) := by
  induction n with
  | zero =>
    intro bytes _
    rfl
  | succ n ih =>
    intro bytes h
    cases bytes with
    | nil => rfl
    | cons b bytes =>
      rw [List.take_succ_cons, List.forall_mem_cons] at h
      rw [w.widen_cons_ascii h.1, List.drop_succ_cons, List.drop_succ_cons, ih h.2]

theorem tail_widen {a : UInt8} (ha : a.toNat < 128) {bytes : Bytes} (h : bytes.head? = some a) :
    (w.widen bytes).tail = w.widen bytes.tail := by
  obtain ⟨rest, rfl⟩ := List.head?_eq_some_iff.1 h
  rw [w.widen_cons_ascii ha]
  rfl

/-! ### Tests that see through a widening -/

/-- A test that cannot tell a byte from what stands for it. -/
def Sees (p : UInt8 → Bool) : Prop := ∀ b, ∀ x ∈ w.byte b, p x = p b

variable {w} {p : UInt8 → Bool}

/-- It is enough that a test answers the same for all that is not ASCII. -/
theorem sees_of_high {answer : Bool} (h : ∀ b : UInt8, 128 ≤ b.toNat → p b = answer) : w.Sees p := by
  intro b x hx
  by_cases hb : b.toNat < 128
  · rw [w.ascii b hb] at hx
    rw [List.mem_singleton.1 hx]
  · rw [h b (by omega), h x ((w.high b (by omega)).2 x hx)]

theorem sees_isMarkupBlank : w.Sees isMarkupBlank := by
  refine @sees_of_high w _ false fun b hb => ?_
  simp (disch := decide) only [isMarkupBlank, beq_of_high hb, Bool.or_self]

theorem Sees.not (h : w.Sees p) : w.Sees fun b => !p b := by
  intro b x hx
  show (!p x) = !p b
  rw [h b x hx]

theorem all_widen (h : w.Sees p) (bytes : Bytes) : (w.widen bytes).all p = bytes.all p := by
  induction bytes with
  | nil => rfl
  | cons b bytes ih =>
    have hbyte : (w.byte b).all p = p b := by
      obtain ⟨x, rest, hx⟩ := List.exists_cons_of_ne_nil (w.byte_ne_nil b)
      have hall : ∀ y ∈ x :: rest, p y = p b := fun y hy => h b y (by rw [hx]; exact hy)
      rw [hx, Bool.eq_iff_iff, List.all_eq_true]
      constructor
      · intro hp
        rw [← hall x List.mem_cons_self]
        exact hp x List.mem_cons_self
      · intro hp y hy
        rw [hall y hy, hp]
    rw [widen_cons, List.all_append, hbyte, ih, List.all_cons]

/-- A test that fails for a byte fails at the first byte that stands for it. -/
theorem Sees.exists_cons (h : w.Sees p) (b : UInt8) :
    ∃ x rest, w.byte b = x :: rest ∧ p x = p b := by
  obtain ⟨x, rest, hx⟩ := List.exists_cons_of_ne_nil (w.byte_ne_nil b)
  exact ⟨x, rest, hx, h b x (by rw [hx]; exact List.mem_cons_self)⟩

theorem takeWhile_widen (h : w.Sees p) (bytes : Bytes) :
    (w.widen bytes).takeWhile p = w.widen (bytes.takeWhile p) := by
  induction bytes with
  | nil => rfl
  | cons b bytes ih =>
    by_cases hb : p b = true
    · have hbyte : ∀ x ∈ w.byte b, p x = true := fun x hx => by rw [h b x hx, hb]
      rw [widen_cons, List.takeWhile_append_of_pos hbyte, List.takeWhile_cons_of_pos hb, widen_cons,
        ih]
    · obtain ⟨x, rest, hx, hp⟩ := h.exists_cons b
      rw [widen_cons, hx, List.cons_append, List.takeWhile_cons_of_neg (by rwa [hp]),
        List.takeWhile_cons_of_neg hb]
      rfl

theorem dropWhile_widen (h : w.Sees p) (bytes : Bytes) :
    (w.widen bytes).dropWhile p = w.widen (bytes.dropWhile p) := by
  induction bytes with
  | nil => rfl
  | cons b bytes ih =>
    by_cases hb : p b = true
    · have hbyte : ∀ x ∈ w.byte b, p x = true := fun x hx => by rw [h b x hx, hb]
      rw [widen_cons, List.dropWhile_append_of_pos hbyte, List.dropWhile_cons_of_pos hb, ih]
    · obtain ⟨x, rest, hx, hp⟩ := h.exists_cons b
      rw [widen_cons, hx, List.cons_append, List.dropWhile_cons_of_neg (by rwa [hp]),
        List.dropWhile_cons_of_neg hb, widen_cons, hx, List.cons_append]

end Widening

/-- Widened bytes stand in UTF-8 for what the bytes stand for in an encoding. Bytes that stand for
nothing are faults of the same encoding. -/
structure Transcodes (w : Widening) (e : Encoding) (P : UInt8 → Prop) : Prop where
  decode : ∀ bytes : Bytes, (∀ b ∈ bytes, P b) →
    Encoding.utf8.decode? (w.widen bytes) = e.decode? bytes
  fault : ∀ bytes : Bytes, (∀ b ∈ bytes, P b) → e.decode? bytes = none → e = .utf8

end Builtins
