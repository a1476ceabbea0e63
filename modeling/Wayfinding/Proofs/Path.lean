import Wayfinding.Path

/-!
What splitting guarantees. The components of a path hold no delimiter, the last one is not
empty unless it is the only one, and components of that form joined by slashes split into
themselves again.
-/

namespace Wayfinding

theorem Delimiter.ofChar?_eq_some_iff {c : Char} {d : Delimiter} :
    ofChar? c = some d ↔ c = d.toChar := by
  constructor
  · exact eq_toChar_of_ofChar?
  · rintro rfl
    exact ofChar?_toChar d

/-- A text without `/`, `?` and `&`. -/
def IsUndivided (text : List Char) : Prop :=
  ∀ c ∈ text, Delimiter.ofChar? c = none

theorem IsUndivided.slash_notMem {text : List Char} (h : IsUndivided text) : '/' ∉ text := by
  intro hc
  exact absurd (h '/' hc) (by decide)

namespace Delimited

theorem toList_map {α β : Type} (f : α → β) (d : Delimited α) :
    (d.map f).toList = d.toList.map f := by
  simp [toList, map]

theorem map_map {α β γ : Type} (f : α → β) (g : β → γ) (d : Delimited α) :
    (d.map f).map g = d.map (g ∘ f) := by
  simp [map]

theorem undivided_splitAll (text : List Char) :
    ∀ item ∈ (splitAll text).toList, IsUndivided item := by
  induction text with
  | nil => simp [splitAll, toList, IsUndivided]
  | cons c text ih =>
      rw [splitAll_cons]
      cases hc : Delimiter.ofChar? c with
      | none =>
          intro item hitem
          rcases List.mem_cons.mp hitem with rfl | hrest
          · intro x hx
            rcases List.mem_cons.mp hx with rfl | hx
            · exact hc
            · exact ih _ List.mem_cons_self x hx
          · exact ih item (List.mem_cons_of_mem _ hrest)
      | some d =>
          intro item hitem
          rcases List.mem_cons.mp hitem with rfl | hrest
          · intro x hx
            cases hx
          · exact ih item hrest

theorem dropEmptyEnd_cons (item : Delimiter × List Char)
    (items : List (Delimiter × List Char)) :
    dropEmptyEnd (item :: items) =
      if (dropEmptyEnd items).isEmpty && item.2.isEmpty then []
      else item :: dropEmptyEnd items := rfl

theorem dropEmptyEnd_subset (items : List (Delimiter × List Char)) :
    dropEmptyEnd items ⊆ items := by
  induction items with
  | nil => exact List.Subset.refl _
  | cons item items ih =>
      rw [dropEmptyEnd_cons]
      split
      · exact List.nil_subset _
      · exact List.cons_subset_cons item ih

theorem dropEmptyEnd_prefix (items : List (Delimiter × List Char)) :
    dropEmptyEnd items <+: items := by
  induction items with
  | nil => exact List.prefix_rfl
  | cons item items ih =>
      rw [dropEmptyEnd_cons]
      split
      · exact List.nil_prefix
      · exact List.cons_prefix_cons.mpr ⟨rfl, ih⟩

/-- Nothing is dropped from items whose last one is not empty. -/
theorem dropEmptyEnd_eq_self (items : List (Delimiter × List Char))
    (h : ∀ item ∈ items.getLast?, item.2 ≠ []) : dropEmptyEnd items = items := by
  induction items with
  | nil => rfl
  | cons item items ih =>
      rw [dropEmptyEnd_cons]
      cases items with
      | nil => simpa [dropEmptyEnd] using h
      | cons next items =>
          rw [ih (by simpa [List.getLast?_cons_cons] using h)]
          simp

theorem getLast?_dropEmptyEnd (items : List (Delimiter × List Char)) :
    ∀ item ∈ (dropEmptyEnd items).getLast?, item.2 ≠ [] := by
  induction items with
  | nil => simp [dropEmptyEnd]
  | cons item items ih =>
      rw [dropEmptyEnd_cons]
      split
      · simp
      · rename_i hkept
        cases hrest : dropEmptyEnd items with
        | nil => simpa [hrest] using hkept
        | cons next kept =>
            rw [hrest] at ih
            simpa [List.getLast?_cons_cons] using ih

theorem undivided_split (text : List Char) :
    ∀ item ∈ (split text).toList, IsUndivided item := by
  intro item hitem
  apply undivided_splitAll text
  rcases List.mem_cons.mp hitem with rfl | hrest
  · exact List.mem_cons_self
  · obtain ⟨pair, hpair, rfl⟩ := List.mem_map.mp hrest
    exact List.mem_cons_of_mem _
      (List.mem_map.mpr ⟨pair, dropEmptyEnd_subset _ hpair, rfl⟩)

theorem splitAll_append {text : List Char} (h : IsUndivided text) (rest : List Char) :
    splitAll (text ++ rest) =
      ⟨text ++ (splitAll rest).first, (splitAll rest).rest⟩ := by
  induction text with
  | nil => rfl
  | cons c text ih =>
      rw [List.cons_append, splitAll_cons, h c List.mem_cons_self,
        ih fun x hx => h x (List.mem_cons_of_mem _ hx)]
      rfl

theorem splitAll_append_cons (front back : List Char) (d : Delimiter) :
    splitAll (front ++ d.toChar :: back) = ⟨(splitAll front).first,
      (splitAll front).rest ++ (d, (splitAll back).first) :: (splitAll back).rest⟩ := by
  induction front with
  | nil =>
      rw [List.nil_append, splitAll_cons, Delimiter.ofChar?_toChar]
      rfl
  | cons c front ih =>
      rw [List.cons_append, splitAll_cons, splitAll_cons, ih]
      cases Delimiter.ofChar? c <;> rfl

theorem dropEmptyEnd_concat (items : List (Delimiter × List Char)) (d : Delimiter) :
    dropEmptyEnd (items ++ [(d, [])]) = dropEmptyEnd items := by
  induction items with
  | nil => rfl
  | cons item items ih => rw [List.cons_append, dropEmptyEnd_cons, dropEmptyEnd_cons, ih]

/-- A delimiter at the end adds no component. -/
theorem split_concat (text : List Char) (d : Delimiter) :
    split (text ++ [d.toChar]) = split text := by
  have hlast : splitAll [] = ⟨[], []⟩ := rfl
  simp only [split, splitAll_append_cons, hlast, dropEmptyEnd_concat]

theorem splitAll_write (d : Delimited (List Char))
    (h : ∀ item ∈ d.toList, IsUndivided item) : splitAll d.write = d := by
  obtain ⟨first, rest⟩ := d
  induction rest generalizing first with
  | nil =>
      have hsplit := splitAll_append (h first List.mem_cons_self) []
      simpa [write, splitAll] using hsplit
  | cons pair rest ih =>
      obtain ⟨delimiter, item⟩ := pair
      have hrest : splitAll (write ⟨item, rest⟩) = ⟨item, rest⟩ :=
        ih item fun x hx => h x (List.mem_cons_of_mem _ hx)
      have hwrite : write ⟨first, (delimiter, item) :: rest⟩ =
          first ++ delimiter.toChar :: write ⟨item, rest⟩ := by
        simp [write]
      rw [hwrite, splitAll_append (h first List.mem_cons_self), splitAll_cons,
        Delimiter.ofChar?_toChar, hrest]
      simp

theorem split_write (d : Delimited (List Char))
    (hundivided : ∀ item ∈ d.toList, IsUndivided item)
    (hlast : ∀ item ∈ d.rest.getLast?, item.2 ≠ []) : split d.write = d := by
  simp only [split, splitAll_write d hundivided, dropEmptyEnd_eq_self d.rest hlast]

theorem splitAll_map {f : Char → Char} (hf : ∀ c, Delimiter.ofChar? (f c) = Delimiter.ofChar? c)
    (text : List Char) : splitAll (text.map f) = (splitAll text).map (List.map f) := by
  induction text with
  | nil => rfl
  | cons c text ih =>
      rw [List.map_cons, splitAll_cons, splitAll_cons, hf, ih]
      cases Delimiter.ofChar? c <;> rfl

theorem dropEmptyEnd_map {f : List Char → List Char}
    (hf : ∀ item, (f item).isEmpty = item.isEmpty) (items : List (Delimiter × List Char)) :
    dropEmptyEnd (items.map fun (d, item) => (d, f item)) =
      (dropEmptyEnd items).map fun (d, item) => (d, f item) := by
  induction items with
  | nil => rfl
  | cons item items ih =>
      rw [List.map_cons, dropEmptyEnd_cons, dropEmptyEnd_cons, ih, List.isEmpty_map, hf]
      split <;> rfl

/-- Splitting sees nothing of a text but its delimiters. -/
theorem split_map {f : Char → Char} (hf : ∀ c, Delimiter.ofChar? (f c) = Delimiter.ofChar? c)
    (text : List Char) : split (text.map f) = (split text).map (List.map f) := by
  simp only [split, splitAll_map hf]
  exact congrArg (Delimited.mk _) (dropEmptyEnd_map (fun _ => List.isEmpty_map) _)

end Delimited

theorem components_eq_map (path : String) :
    components path = (Delimited.split path.toList).toList.map String.ofList :=
  Delimited.toList_map _ _

theorem map_toList_components (path : String) :
    (components path).map String.toList = (Delimited.split path.toList).toList := by
  simp [components_eq_map]

theorem components_ne_nil (path : String) : components path ≠ [] := by
  simp [components_eq_map, Delimited.toList]

theorem undivided_of_mem_components {path component : String}
    (h : component ∈ components path) : IsUndivided component.toList := by
  apply Delimited.undivided_split path.toList
  rw [← map_toList_components]
  exact List.mem_map_of_mem h

/-- A path's last component is empty only where it is the only one. -/
theorem components_eq_of_getLast?_eq_empty {path : String}
    (h : (components path).getLast? = some "") : components path = [""] := by
  have hlast := Delimited.getLast?_dropEmptyEnd (Delimited.splitAll path.toList).rest
  rw [components_eq_map] at h ⊢
  simp only [Delimited.toList, Delimited.split] at h ⊢
  cases hrest : Delimited.dropEmptyEnd (Delimited.splitAll path.toList).rest with
  | nil => simpa [hrest] using h
  | cons item rest =>
      rw [hrest, List.getLast?_map, Option.map_eq_some_iff] at h
      obtain ⟨last, hmem, hempty⟩ := h
      rw [List.map_cons, List.getLast?_cons_cons, ← List.map_cons, List.getLast?_map,
        Option.map_eq_some_iff] at hmem
      obtain ⟨pair, hpair, rfl⟩ := hmem
      exact absurd (by simpa using hempty) (hlast pair (by simpa [hrest] using hpair))

/-- Writing items that hold no delimiter and end in one that is not empty gives a path with
just these components. -/
theorem components_write (d : Delimited (List Char))
    (hundivided : ∀ item ∈ d.toList, IsUndivided item)
    (hlast : ∀ item ∈ d.rest.getLast?, item.2 ≠ []) :
    components (String.ofList d.write) = d.toList.map String.ofList := by
  rw [components_eq_map, String.toList_ofList, Delimited.split_write d hundivided hlast]

/-- Whatever items that hold no delimiter end in, the path has no other components. -/
theorem components_write_prefix (d : Delimited (List Char))
    (hundivided : ∀ item ∈ d.toList, IsUndivided item) :
    components (String.ofList d.write) <+: d.toList.map String.ofList := by
  rw [components_eq_map, String.toList_ofList, Delimited.split,
    Delimited.splitAll_write d hundivided, Delimited.toList, Delimited.toList]
  exact (List.cons_prefix_cons.mpr
    ⟨rfl, (Delimited.dropEmptyEnd_prefix d.rest).map _⟩).map _

/-- Components with slashes between them. -/
def joined (items : List String) : String :=
  match items with
  | [] => ""
  | first :: rest =>
      String.ofList (Delimited.write
        ⟨first.toList, rest.map fun item => (.slash, item.toList)⟩)

theorem components_joined {items : List String} (hne : items ≠ [])
    (hundivided : ∀ item ∈ items, IsUndivided item.toList)
    (hlast : items.getLast? ≠ some "") : components (joined items) = items := by
  cases items with
  | nil => exact absurd rfl hne
  | cons first rest =>
      rw [joined, components_write]
      · simp [Delimited.toList, Function.comp_def]
      · intro item hitem
        simp only [Delimited.toList, List.map_map, Function.comp_def, List.mem_cons,
          List.mem_map] at hitem
        rcases hitem with rfl | ⟨text, htext, rfl⟩
        · exact hundivided first List.mem_cons_self
        · exact hundivided text (List.mem_cons_of_mem _ htext)
      · intro pair hpair hempty
        simp only [List.getLast?_map, Option.mem_def, Option.map_eq_some_iff] at hpair
        obtain ⟨text, htext, rfl⟩ := hpair
        obtain rfl : text = "" := by simpa using hempty
        exact hlast (by simp [List.getLast?_cons, htext])

end Wayfinding
