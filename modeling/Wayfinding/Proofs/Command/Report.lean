import Mathlib.Data.String.Basic
import Wayfinding.Command.Report
import Wayfinding.Proofs.Json.Written
import Wayfinding.Proofs.Route.Access

/-!
What a reader of JSON finds in the lines of the command line. The line for a match is an object
of the template and of the values that the path has, each name once and the names in their order;
the report of a navigation is an object of its path, its templates, the number of its calls and
its address.
-/

namespace Wayfinding

/-- Decimals are told as texts, so that none of their digits is lost. -/
def Value.datum : Value → Json.Datum
  | .text s => .text s
  | .integer n => .number (toString n).toList
  | .decimal d => .text d.text
  | .flag b => .boolean b

theorem Value.datum_toJson (v : Value) : v.toJson.datum = v.datum := by
  cases v <;> rfl

/-- What the report of a navigation says. -/
def Navigation.datum (n : Navigation) : Json.Datum :=
  .object [("path", .text n.path), ("matched", .list (n.matched.map .text)),
    ("invoked", .number (toString n.invoked).toList),
    ("address", n.address.elim .null .text)]

theorem Navigation.datum_report (n : Navigation) : n.report.datum = n.datum := by
  have hmatched : Json.Value.datumItems (n.matched.map .text) = n.matched.map .text := by
    rw [Json.Value.datumItems_eq, List.map_map]
    rfl
  rw [report, datum, ← hmatched]
  cases n.address <;> rfl

theorem Navigation.spells_report (n : Navigation) : Json.Spells n.datum (n.report.pretty "") := by
  rw [Json.Spells, ← n.datum_report]
  exact n.report.spells_pretty (List.forall_mem_nil _)

section

variable {values : List (String × Value)}

/-- The members of an object of values, in the order of their names. -/
def valueMembers (values : List (String × Value)) : List (String × Json.Datum) :=
  (values.mergeSort fun a b => a.1 ≤ b.1).map fun named => (named.1, named.2.datum)

theorem datum_valuesToJson (values : List (String × Value)) :
    (valuesToJson values).datum = .object (valueMembers values) := by
  rw [valuesToJson, Json.Value.datum, Json.Value.datumMembers_eq, List.map_map, valueMembers]
  congr 2
  funext named
  exact congrArg (named.1, ·) named.2.datum_toJson

theorem mem_valueMembers {name : String} {datum : Json.Datum} :
    (name, datum) ∈ valueMembers values ↔ ∃ v, (name, v) ∈ values ∧ v.datum = datum := by
  simp only [valueMembers, List.mem_map, List.mem_mergeSort, Prod.exists, Prod.mk.injEq]
  constructor
  · rintro ⟨_, v, hmem, rfl, hdatum⟩
    exact ⟨v, hmem, hdatum⟩
  · rintro ⟨v, hmem, hdatum⟩
    exact ⟨name, v, hmem, rfl, hdatum⟩

theorem pairwise_valueMembers (h : (values.map (·.1)).Nodup) :
    ((valueMembers values).map (·.1)).Pairwise (· < ·) := by
  let sorted := values.mergeSort fun a b => a.1 ≤ b.1
  have hsorted : sorted.Pairwise (fun a b => decide (a.1 ≤ b.1) = true) := by
    refine List.pairwise_mergeSort ?_ ?_ values
    · intro a b c hab hbc
      exact decide_eq_true (le_trans (of_decide_eq_true hab) (of_decide_eq_true hbc))
    · intro a b
      rw [Bool.or_eq_true, decide_eq_true_eq, decide_eq_true_eq]
      exact le_total a.1 b.1
  have hnames : (sorted.map (·.1)).Nodup :=
    ((List.mergeSort_perm values _).map _).nodup_iff.mpr h
  have hfirst : (valueMembers values).map (·.1) = sorted.map (·.1) := by
    rw [valueMembers, List.map_map]
    rfl
  rw [hfirst, List.pairwise_map]
  rw [List.Nodup, List.pairwise_map] at hnames
  refine (hsorted.and hnames).imp fun hpair => ?_
  exact lt_of_le_of_ne (of_decide_eq_true hpair.1) hpair.2

end

/-- The line says, in one object, which template matches the path and which value each name of
the template has there. -/
structure TellsMatch (route : Route) (path line : String) : Prop where
  oneLine : '\n' ∉ line.toList
  spells : ∃ values : List (String × Json.Datum),
    Json.Spells (.object [("template", .text route.template), ("values", .object values)]) line ∧
    (values.map (·.1)).Pairwise (· < ·) ∧
    ∀ name datum, (name, datum) ∈ values ↔ ∃ v, route.value path name = some v ∧ v.datum = datum

theorem tellsMatch_report {template path : String} {route : Route}
    (h : Route.compile template = .ok route) (haccepts : route.accepts path) :
    TellsMatch route path (Event.report ⟨route, path⟩).compact := by
  obtain ⟨hsome, hnames, hnodup, hmem⟩ := Route.valuesAgree h path
  obtain ⟨values, hvalues⟩ := Option.isSome_iff_exists.mp (hsome.mpr haccepts)
  have hevent : Event.values ⟨route, path⟩ = values := by
    rw [Event.values, hvalues, Option.getD_some]
  have hdatum : (Event.report ⟨route, path⟩).datum =
      .object [("template", .text route.template), ("values", .object (valueMembers values))] := by
    rw [← datum_valuesToJson, ← hevent]
    rfl
  refine ⟨Json.Value.newline_notMem_compact _, valueMembers values, ?_, ?_, fun name datum => ?_⟩
  · rw [Json.Spells, ← hdatum]
    exact Json.Value.spells_compact _
  · rw [← hnames values hvalues] at hnodup
    exact pairwise_valueMembers hnodup
  · rw [mem_valueMembers]
    simp only [hmem values hvalues]

end Wayfinding
