import Mathlib.Data.List.Forall2

/-!
Traversals that stop at the first item without a result, lists cut where a condition first fails,
texts with a separator between them, and results without their errors.
-/

namespace Wayfinding

variable {α β ε : Type} {items : List α} {made : List β}

theorem exists_getElem?_of_forall₂ {R : α → β → Prop} (h : List.Forall₂ R items made) {index : Nat}
    {b : β} (hb : made[index]? = some b) : ∃ item, items[index]? = some item ∧ R item b := by
  induction h generalizing index with
  | nil => simp at hb
  | cons hfirst _ ih =>
      cases index with
      | zero =>
          obtain rfl : _ = b := by simpa using hb
          exact ⟨_, rfl, hfirst⟩
      | succ index => exact ih (by simpa using hb)

theorem mapM_eq_some_iff_forall₂ {f : α → Option β} :
    items.mapM f = some made ↔ List.Forall₂ (fun item b => f item = some b) items made := by
  induction items generalizing made with
  | nil =>
      rw [List.forall₂_nil_left_iff]
      exact ⟨fun h => (Option.some.inj h).symm, fun h => congrArg some h.symm⟩
  | cons item items ih =>
      rw [List.mapM_cons, List.forall₂_cons_left_iff]
      simp only [Option.bind_eq_bind, Option.bind_eq_some_iff, ih]
      constructor
      · rintro ⟨b, hb, rest, hrest, h⟩
        exact ⟨b, rest, hb, hrest, (Option.some.inj h).symm⟩
      · rintro ⟨b, rest, hb, hrest, rfl⟩
        exact ⟨b, hb, rest, hrest, rfl⟩

theorem mem_iff_of_mapM_eq_some {f : α → Option β} (h : items.mapM f = some made) {b : β} :
    b ∈ made ↔ ∃ item ∈ items, f item = some b := by
  rw [mapM_eq_some_iff_forall₂] at h
  induction h with
  | nil => simp
  | cons hfirst _ ih => simp [ih, hfirst, eq_comm]

theorem isSome_mapM_iff {f : α → Option β} :
    (items.mapM f).isSome ↔ ∀ item ∈ items, (f item).isSome := by
  induction items with
  | nil => simp
  | cons item items ih =>
      rw [List.mapM_cons, List.forall_mem_cons, ← ih]
      cases f item with
      | none => simp
      | some b => cases items.mapM f <;> simp

theorem mapM_eq_ok_iff_forall₂ {f : α → Except ε β} :
    items.mapM f = .ok made ↔ List.Forall₂ (fun item b => f item = .ok b) items made := by
  induction items generalizing made with
  | nil =>
      rw [List.forall₂_nil_left_iff]
      exact ⟨fun h => (Except.ok.inj h).symm, fun h => congrArg Except.ok h.symm⟩
  | cons item items ih =>
      rw [List.mapM_cons, List.forall₂_cons_left_iff]
      simp only [← ih]
      cases f item with
      | error e => simp [bind, Except.bind]
      | ok b =>
          cases items.mapM f with
          | error e => simp [bind, Except.bind]
          | ok rest => simp [bind, Except.bind, pure, Except.pure, eq_comm]

theorem isOk_mapM_iff {f : α → Except ε β} :
    (items.mapM f).isOk ↔ ∀ item ∈ items, (f item).isOk := by
  induction items with
  | nil => simp [pure, Except.pure, Except.isOk, Except.toBool]
  | cons item items ih =>
      rw [List.mapM_cons, List.forall_mem_cons, ← ih]
      cases f item with
      | error e => simp [bind, Except.bind, Except.isOk, Except.toBool]
      | ok b =>
          cases items.mapM f <;>
            simp [bind, Except.bind, pure, Except.pure, Except.isOk, Except.toBool]

theorem exists_cons_eq_append_cons_iff {p q : α → Prop} {first : α} :
    (∃ ahead item rest, first :: items = ahead ++ item :: rest ∧ (∀ earlier ∈ ahead, p earlier) ∧
        q item) ↔
      q first ∨ p first ∧ ∃ ahead item rest, items = ahead ++ item :: rest ∧
        (∀ earlier ∈ ahead, p earlier) ∧ q item := by
  constructor
  · rintro ⟨ahead, item, rest, hitems, hahead, hitem⟩
    cases ahead with
    | nil =>
        obtain ⟨rfl, -⟩ := List.cons_eq_cons.mp hitems
        exact .inl hitem
    | cons earlier ahead =>
        obtain ⟨rfl, rfl⟩ := List.cons_eq_cons.mp hitems
        obtain ⟨hfirst, hahead⟩ := List.forall_mem_cons.mp hahead
        exact .inr ⟨hfirst, ahead, item, rest, rfl, hahead, hitem⟩
  · rintro (hfirst | ⟨hfirst, ahead, item, rest, rfl, hahead, hitem⟩)
    · exact ⟨[], first, items, rfl, List.forall_mem_nil _, hfirst⟩
    · exact ⟨first :: ahead, item, rest, rfl, List.forall_mem_cons.mpr ⟨hfirst, hahead⟩, hitem⟩

/-- A traversal fails with the error of the first item that has one. -/
theorem mapM_eq_error_iff {f : α → Except ε β} {error : ε} :
    items.mapM f = .error error ↔ ∃ ahead item rest, items = ahead ++ item :: rest ∧
      (∀ earlier ∈ ahead, (f earlier).isOk) ∧ f item = .error error := by
  induction items with
  | nil => simp [pure, Except.pure]
  | cons first items ih =>
      rw [List.mapM_cons, exists_cons_eq_append_cons_iff, ← ih]
      cases f first with
      | error e => simp [bind, Except.bind, Except.isOk, Except.toBool]
      | ok b =>
          cases items.mapM f <;>
            simp [bind, Except.bind, pure, Except.pure, Except.isOk, Except.toBool]

section Stop

variable {p : α → Bool} {front back : List α} (hfront : ∀ item ∈ front, p item)
  (hback : ∀ item ∈ back.head?, p item = false)

include hfront hback

theorem takeWhile_append_stop : (front ++ back).takeWhile p = front := by
  rw [List.takeWhile_append_of_pos hfront]
  cases back with
  | nil => simp
  | cons item back => simp [hback item rfl]

theorem dropWhile_append_stop : (front ++ back).dropWhile p = back := by
  rw [List.dropWhile_append_of_pos hfront]
  cases back with
  | nil => simp
  | cons item back => simp [hback item rfl]

end Stop

theorem toList_intercalate_cons (separator item : String) (items : List String) :
    (separator.intercalate (item :: items)).toList =
      item.toList ++ items.flatMap (separator.toList ++ ·.toList) := by
  induction items generalizing item with
  | nil => simp
  | cons next items ih =>
      rw [String.intercalate_cons_cons, String.toList_append, String.toList_append, ih]
      simp

theorem notMem_intercalate {c : Char} {separator : String} {items : List String}
    (hseparator : c ∉ separator.toList) (hitems : ∀ item ∈ items, c ∉ item.toList) :
    c ∉ (separator.intercalate items).toList := by
  cases items with
  | nil => simp
  | cons item items =>
      obtain ⟨hitem, hitems⟩ := List.forall_mem_cons.mp hitems
      rw [toList_intercalate_cons, List.mem_append, List.mem_flatMap]
      rintro (hc | ⟨later, hlater, hc⟩)
      · exact hitem hc
      · exact (List.mem_append.mp hc).elim hseparator (hitems later hlater)

variable {x : Except ε α}

theorem ok_bind (a : α) (f : α → Except ε β) : (.ok a >>= f) = f a := rfl

theorem toOption_bind (x : Except ε α) (f : α → Except ε β) :
    (x >>= f).toOption = x.toOption.bind fun a => (f a).toOption := by
  cases x <;> rfl

theorem toOption_map (x : Except ε α) (f : α → β) :
    (x.map f).toOption = x.toOption.map f := by
  cases x <;> rfl

theorem toOption_eq_some_iff {a : α} : x.toOption = some a ↔ x = .ok a := by
  cases x <;> simp [Except.toOption]

theorem toOption_eq_none_iff : x.toOption = none ↔ ∃ e, x = .error e := by
  cases x <;> simp [Except.toOption]

end Wayfinding
