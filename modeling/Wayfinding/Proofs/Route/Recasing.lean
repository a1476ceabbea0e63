import Wayfinding.Proofs.Number.Recasing
import Wayfinding.Proofs.Route.Shape
import Wayfinding.Proofs.Route.Token
import Wayfinding.Proofs.Segment

/-!
Matching in either case. A change of case moves no delimiter, so the components of a path change
case one by one; that makes none of them readable or unreadable, and no part takes other blocks.
The same goes for a change of case in the literals of a template.
-/

namespace Wayfinding
open Text

theorem ofChar?_foldCase (c : Char) : Delimiter.ofChar? (foldCase c) = Delimiter.ofChar? c := by
  apply Option.ext
  intro d
  have hcaseless : IsCaseless d.toChar := by
    cases d <;> exact isCaseless_of_lt (by decide) (by decide)
  rw [Delimiter.ofChar?_eq_some_iff, Delimiter.ofChar?_eq_some_iff, hcaseless]

theorem map_folded_components (path : String) :
    (components path).map folded = (Delimited.split (folded path)).toList := by
  rw [components_eq_map, folded, Delimited.split_map ofChar?_foldCase, Delimited.toList_map,
    List.map_map]
  simp [folded, Function.comp_def]

namespace SameLetters

variable {a b : String}

theorem symm (h : SameLetters a b) : SameLetters b a := Eq.symm h

theorem components (h : SameLetters a b) :
    List.Forall₂ SameLetters (components a) (components b) := by
  have hfolded : (Wayfinding.components a).map folded = (Wayfinding.components b).map folded := by
    rw [map_folded_components, map_folded_components, h]
  rwa [← List.forall₂_eq_eq_eq, List.forall₂_map_left_iff, List.forall₂_map_right_iff] at hfolded

end SameLetters

theorem isSome_parse_congr {a b : String} (h : SameLetters a b) (kind : Kind) :
    (kind.parse a).isSome = (kind.parse b).isSome := by
  have hreads : ∀ {a b : String}, SameLetters a b → (kind.parse a).isSome →
      (kind.parse b).isSome := by
    intro a b h hsome
    obtain ⟨v, hv⟩ := Option.isSome_iff_exists.mp hsome
    cases kind with
    | text | flag => rfl
    | integer =>
        obtain ⟨n, hn, rfl⟩ := Kind.parse_integer_eq_some_iff.mp hv
        have hread := Number.readInteger_recased (by decide) h hn
        rw [Kind.parse_integer_eq_some_iff.mpr ⟨n, hread, rfl⟩]
        rfl
    | decimal =>
        obtain ⟨d, hd, rfl⟩ := Kind.parse_decimal_eq_some_iff.mp hv
        rw [Kind.parse_decimal_eq_some_iff.mpr ⟨d, Decimal.read_recased h hd, rfl⟩]
        rfl
  exact Bool.eq_iff_iff.mpr ⟨hreads h, hreads h.symm⟩

theorem ended_congr {items items' : List String} (h : List.Forall₂ SameLetters items items') :
    ended items = ended items' := by
  induction h with
  | nil => rfl
  | cons hletters _ ih => rw [ended_cons, ended_cons, ih, hletters]

theorem IsLiteral.recased {component component' : String} (h : IsLiteral component)
    (hletters : SameLetters component component') : IsLiteral component' := by
  have hmark : ∀ c ∈ ['*', ':'], IsCaseless c := by
    have hcode : ∀ c ∈ ['*', ':'], 0 < c.toNat ∧ c.toNat < 64 := by simp
    exact fun c hc => isCaseless_of_lt (hcode c hc).1 (hcode c hc).2
  refine ⟨?_, ?_⟩
  · rintro rfl
    have hstar : component.toList = "*".toList :=
      eq_of_map_foldCase_eq hletters.symm (by simpa using hmark '*')
    exact h.1 (String.toList_inj.mp hstar)
  · rintro token rfl
    have hfolded : component.toList.map foldCase = ':' :: token.toList.map foldCase := by
      rw [SameLetters, folded, folded, String.toList_append, List.map_append] at hletters
      exact hletters
    obtain ⟨c, rest, htext, hc, -⟩ := List.map_eq_cons_iff.mp hfolded
    obtain rfl := (hmark ':' (by simp) c).mp hc
    refine h.2 (String.ofList rest) ?_
    rw [← String.toList_inj, htext]
    simp

namespace Part

/-- Parts that differ in the case of a literal at most. -/
inductive Recases : Part → Part → Prop where
  | same (part : Part) : Recases part part
  | literal {text text' : String} (h : SameLetters text text') :
      Recases (literal text) (literal text')

theorem Recases.symm {part part' : Part} (h : part.Recases part') : part'.Recases part := by
  cases h with
  | same => exact .same part
  | literal h => exact .literal h.symm

theorem Takes.recased {admits : String → Prop} {part part' : Part} {block : List String}
    (h : part.Takes admits block) (hpart : part.Recases part') : part'.Takes admits block := by
  cases hpart with
  | same => exact h
  | literal hletters =>
      obtain ⟨component, rfl, htakes⟩ := h
      exact ⟨component, rfl, hletters.symm.trans htakes⟩

theorem recases_of_read {component component' : String} {part part' : Part}
    (hletters : SameLetters component component')
    (hliteral : IsLiteral component ∨ component = component')
    (h : read component = .ok part) (h' : read component' = .ok part') : part.Recases part' := by
  rcases hliteral with hliteral | rfl
  · have hread := read_eq_literal_iff.mpr ⟨hliteral, rfl⟩
    have hread' := read_eq_literal_iff.mpr ⟨hliteral.recased hletters, rfl⟩
    obtain rfl := Except.ok.inj (h.symm.trans hread)
    obtain rfl := Except.ok.inj (h'.symm.trans hread')
    exact .literal hletters
  · obtain rfl := Except.ok.inj (h.symm.trans h')
    exact .same part

end Part

theorem Cut.recased {admits : String → Prop} {parts parts' : List Part}
    {blocks : List (List String)} (h : Cut admits parts blocks)
    (hparts : List.Forall₂ Part.Recases parts parts') : Cut admits parts' blocks := by
  induction h generalizing parts' with
  | single h =>
      obtain ⟨part', rest, hpart, hrest, rfl⟩ := List.forall₂_cons_left_iff.mp hparts
      obtain rfl := List.forall₂_nil_left_iff.mp hrest
      exact .single (h.recased hpart)
  | spent h hlast =>
      obtain ⟨part', _, hpart, hrest, rfl⟩ := List.forall₂_cons_left_iff.mp hparts
      obtain ⟨last', _, hlast', hnil, rfl⟩ := List.forall₂_cons_left_iff.mp hrest
      obtain rfl := List.forall₂_nil_left_iff.mp hnil
      refine .spent (h.recased hpart) ?_
      cases hlast' with
      | same => exact hlast
      | literal _ => exact hlast.elim
  | cons h _ ih =>
      obtain ⟨part', rest, hpart, hrest, rfl⟩ := List.forall₂_cons_left_iff.mp hparts
      exact .cons (h.recased hpart) (ih hrest)

namespace Route

theorem SegmentsRead.recased {parts : List Part} {items items' : List String}
    (h : SegmentsRead parts items) (hitems : List.Forall₂ SameLetters items items') :
    SegmentsRead parts items' := by
  intro position name kind hpart
  obtain ⟨text, htext, hsome⟩ := h position name kind hpart
  obtain ⟨text', htext', hletters⟩ := exists_getElem?_of_forall₂ hitems.flip htext
  refine ⟨text', htext', ?_⟩
  rw [← isSome_parse_congr hletters]
  exact hsome

theorem SegmentsRead.of_recased {parts parts' : List Part} {items : List String}
    (h : SegmentsRead parts items) (hparts : List.Forall₂ Part.Recases parts parts') :
    SegmentsRead parts' items := by
  intro position name kind hpart'
  obtain ⟨part, hpart, hrecases⟩ := exists_getElem?_of_forall₂ hparts hpart'
  cases hrecases with
  | same => exact h position name kind hpart

theorem recases_of_reads {items items' : List String} {parts parts' : List Part}
    (hletters : List.Forall₂ SameLetters items items')
    (hliteral : List.Forall₂ (fun item item' => IsLiteral item ∨ item = item') items items')
    (h : Reads items parts) (h' : Reads items' parts') :
    List.Forall₂ Part.Recases parts parts' := by
  induction hletters generalizing parts parts' with
  | nil =>
      obtain rfl := List.forall₂_nil_left_iff.mp h
      obtain rfl := List.forall₂_nil_left_iff.mp h'
      exact .nil
  | cons hfirst _ ih =>
      obtain ⟨hhead, htail⟩ := List.forall₂_cons.mp hliteral
      obtain ⟨part, rest, hread, hreads, rfl⟩ := List.forall₂_cons_left_iff.mp h
      obtain ⟨part', rest', hread', hreads', rfl⟩ := List.forall₂_cons_left_iff.mp h'
      exact .cons (Part.recases_of_read hfirst hhead hread hread') (ih htail hreads hreads')

/-- Templates that differ in the case of letters in literal components at most. -/
def RecasesLiterals (template template' : String) : Prop :=
  SameLetters template template' ∧
    List.Forall₂ (fun component component' => IsLiteral component ∨ component = component')
      (components template) (components template')

variable {template template' path path' : String} {route route' : Route}

theorem accepts_of_sameLetters (h : compile template = .ok route) (hpath : SameLetters path path') :
    route.accepts path = route.accepts path' := by
  have hcomponents := hpath.components
  have hfits : route.fits path = route.fits path' := by
    rw [fits, fits, Pattern.acceptsFolded, Pattern.acceptsFolded, map_foldCase_slashed,
      map_foldCase_slashed, ended_congr hcomponents]
  have hvalidates : route.validates path = route.validates path' := by
    rw [Bool.eq_iff_iff, validates_iff h, validates_iff h]
    exact ⟨fun hread => hread.recased hcomponents, fun hread => hread.recased hpath.symm.components⟩
  rw [accepts, accepts, hfits, hvalidates]

theorem accepts_of_recasesLiterals (h : compile template = .ok route)
    (h' : compile template' = .ok route') (htemplate : RecasesLiterals template template')
    (path : String) : route.accepts path = route'.accepts path := by
  have hparts := recases_of_reads htemplate.1.components htemplate.2 (reads_of_compile h)
    (reads_of_compile h')
  have hparts' : List.Forall₂ Part.Recases route'.parts.toList route.parts.toList :=
    hparts.flip.imp fun _ _ hrecases => hrecases.symm
  have hfits : route.fits path = route'.fits path := by
    rw [Bool.eq_iff_iff, fits_iff h, fits_iff h']
    constructor
    · rintro ⟨blocks, hcut, hflatten⟩
      exact ⟨blocks, hcut.recased hparts, hflatten⟩
    · rintro ⟨blocks, hcut, hflatten⟩
      exact ⟨blocks, hcut.recased hparts', hflatten⟩
  have hvalidates : route.validates path = route'.validates path := by
    rw [Bool.eq_iff_iff, validates_iff h, validates_iff h']
    exact ⟨fun hread => hread.of_recased hparts, fun hread => hread.of_recased hparts'⟩
  rw [accepts, accepts, hfits, hvalidates]

/-- Neither in a path nor in the literals of a template does case matter, nor to what a kind
reads. -/
theorem matching_ignores_case (h : compile template = .ok route) :
    (∀ path path', SameLetters path path' → route.accepts path = route.accepts path') ∧
      (∀ (kind : Kind) (raw raw' : String), SameLetters raw raw' →
        (kind.parse raw).isSome = (kind.parse raw').isSome) ∧
      ∀ template' route', compile template' = .ok route' → RecasesLiterals template template' →
        ∀ path, route.accepts path = route'.accepts path :=
  ⟨fun _ _ => accepts_of_sameLetters h, fun kind _ _ hraw => isSome_parse_congr hraw kind,
    fun _ _ h' htemplate => accepts_of_recasesLiterals h h' htemplate⟩

/-- The letter in the path is the Kelvin sign, and the number has its exponent in both cases. -/
theorem matching_ignores_case_kelvin :
    ∃ route route', compile "k/:n:num" = .ok route ∧ compile "K/:n:num" = .ok route' ∧
      SameLetters "k/1e3" "\u212a/1E3" ∧ RecasesLiterals "k/:n:num" "K/:n:num" ∧
      route.accepts "k/1e3" ∧ route.accepts "\u212a/1E3" ∧ route'.accepts "\u212a/1E3" := by
  have hcompile : compile "k/:n:num" =
      .ok ⟨"k/:n:num", ⟨.literal "k", [(.slash, .named "n" .decimal)]⟩⟩ := by rfl
  have hcompile' : compile "K/:n:num" =
      .ok ⟨"K/:n:num", ⟨.literal "K", [(.slash, .named "n" .decimal)]⟩⟩ := by rfl
  have hpath : SameLetters "k/1e3" "\u212a/1E3" := by decide +kernel
  have hliteral : IsLiteral "k" := (Part.read_eq_literal_iff.mp (by rfl : Part.read "k" = _)).1
  have htemplate : RecasesLiterals "k/:n:num" "K/:n:num" :=
    ⟨by decide, .cons (.inl hliteral) (.cons (.inr rfl) .nil)⟩
  obtain ⟨hpaths, -, htemplates⟩ := matching_ignores_case hcompile
  have haccepts : Route.accepts ⟨"k/:n:num", ⟨.literal "k", [(.slash, .named "n" .decimal)]⟩⟩
      "k/1e3" = true := by decide +kernel
  have hrecased := (hpaths _ _ hpath).symm.trans haccepts
  exact ⟨_, _, hcompile, hcompile', hpath, htemplate, haccepts, hrecased,
    (htemplates _ _ hcompile' htemplate _).symm.trans hrecased⟩

end Route
end Wayfinding
