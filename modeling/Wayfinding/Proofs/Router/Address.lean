import Mathlib.Data.List.Basic
import Wayfinding.Proofs.Router.Snapshot
import Wayfinding.Proofs.Text.Spelling

/-!
The address that a navigation pushes. An address spells its path so that reading the URL
gives the path back, for any base URL. A navigation that finds a match and is not cut short
pushes its address last, after all that its listeners have done to the host, so the URL that
it leaves leads to the same path again.
-/

namespace Wayfinding
namespace Router

variable {σ : Type}

theorem pathOf?_eq_some (router : Router σ) (spelling : String) :
    router.pathOf? (router.baseUrl ++ "/" ++ spelling) = some (Text.Percent.decode spelling) := by
  have hstrip : (router.baseUrl ++ "/").toList.isPrefixOf?
      (router.baseUrl ++ "/" ++ spelling).toList = some spelling.toList :=
    List.isPrefixOf?_eq_some_iff_append_eq.mpr (String.toList_append ..).symm
  rw [pathOf?, hstrip, Option.map_some, String.ofList_toList]

theorem pathOf?_eq_none {router : Router σ} {url : String}
    (h : ∀ spelling, url ≠ router.baseUrl ++ "/" ++ spelling) : router.pathOf? url = none := by
  rw [pathOf?, Option.map_eq_none_iff, Option.eq_none_iff_forall_ne_some]
  intro spelling hstrip
  have hsplit := List.isPrefixOf?_eq_some_iff_append_eq.mp hstrip
  refine h (String.ofList spelling) (String.toList_inj.mp ?_)
  rw [String.toList_append, String.toList_ofList, hsplit]

theorem pathOf?_addressFor (router : Router σ) (path : String) :
    router.pathOf? (router.addressFor path) = some path := by
  rw [addressFor, pathOf?_eq_some, Text.Percent.decode_encode]

end Router

namespace Dispatch

variable {σ : Type} {d : Dispatch σ} {policy : FailurePolicy}

theorem failures_ne_nil_of_isAborted (h : d.isAborted policy = true) : d.failures ≠ [] := by
  obtain ⟨round, hround, hlast⟩ := List.any_eq_true.mp h
  obtain ⟨call, hcall, hfailed⟩ := List.any_eq_true.mp hlast
  obtain ⟨failure, hfailure⟩ := Option.isSome_iff_exists.mp (Bool.and_eq_true_iff.mp hfailed).2
  have hmem : failure ∈ d.failures :=
    List.mem_filterMap.mpr ⟨call, List.mem_flatMap.mpr ⟨round, hround, hcall⟩, hfailure⟩
  exact List.ne_nil_of_mem hmem

theorem failures_eq_nil_of_result_eq_ok {address : Option String} {n : Navigation}
    (h : d.result address = .ok n) : d.failures = [] := by
  rw [result] at h
  split at h
  · rename_i hnone
    exact List.isEmpty_iff.mp hnone
  · cases h

end Dispatch

namespace Run

variable {σ : Type} {site site' : Site σ} {navigateTo : Navigator σ} {policy : FailurePolicy}
  {path : String} {number depth : Nat}

/-- Cut short or not, a navigation finds a match exactly if something registered accepts the
path. -/
theorem rounds_eq_nil_iff (entries : List (Registration (Listener σ))) {isFirst : Bool}
    {made : List (Round σ)}
    (h : Yields (rounds navigateTo policy number path isFirst entries) site made site') :
    made = [] ↔ entries.filter (·.route.accepts path) = [] := by
  induction entries generalizing site isFirst made with
  | nil =>
      obtain ⟨rfl, -⟩ := yields_pure.mp h
      simp only [List.filter_nil]
  | cons entry rest ih =>
      cases haccepts : entry.route.accepts path with
      | true =>
          rw [rounds_cons_of_accepts haccepts] at h
          simp only [yields_bind] at h
          obtain ⟨_, _, -, _, _, -, _, _, -, h⟩ := h
          have hmade : made ≠ [] := by
            split at h
            · obtain ⟨rfl, -⟩ := yields_pure.mp h
              exact List.cons_ne_nil _ _
            · simp only [yields_bind, yields_pure] at h
              obtain ⟨_, _, -, rfl, -⟩ := h
              exact List.cons_ne_nil _ _
          simp only [List.filter_cons, haccepts, if_true, hmade, reduceCtorEq]
      | false =>
          rw [rounds_cons_of_not_accepts haccepts] at h
          obtain ⟨_, _, -, h⟩ := yields_bind.mp h
          simp only [List.filter_cons, haccepts, Bool.false_eq_true, if_false]
          exact ih h

theorem rounds_ne_nil_of_dispatch {d : Dispatch σ}
    (hmatching : site.router.registry.matching path ≠ [])
    (h : Yields (dispatch navigateTo path) site (number, d) site') :
    d.path = path ∧ d.rounds ≠ [] := by
  obtain ⟨-, hpath, hrounds⟩ := rounds_of_dispatch h
  refine ⟨hpath, fun hnone => hmatching ?_⟩
  have haccepting := (rounds_eq_nil_iff _ hrounds).mp hnone
  rw [Registry.matching, Registry.accepting, haccepting, List.map_nil]

/-- After a navigation that found a match and was not cut short, the host shows its address,
which leads to its path again. -/
theorem navigate_eq_navigateTo {outcome : Except DispatchError Navigation}
    (hmatching : site.router.registry.matching path ≠ [])
    (hended : site.router.listenerFailure = .collect ∨ ∃ n, outcome = .ok n)
    (h : Yields (Run.navigateTo (depth + 1) path) site outcome site') :
    site'.host.url = site.router.addressFor path ∧
      site'.router.addressFor path = site.router.addressFor path ∧
      site'.router.pathOf? site'.host.url = some path ∧
      ∀ again : Navigator σ,
        (navigate again).run site' = ((·.map some) <$> again path).run site' := by
  have haddress : site'.router.addressFor path = site.router.addressFor path :=
    (changes_navigateTo (depth + 1) h).addressFor_eq path
  have hurl : site'.host.url = site.router.addressFor path := by
    obtain ⟨number, d, between, hdispatch, hends⟩ := dispatch_of_navigateTo h
    have hleads : site.Leads between := leads_of_dispatch (changes_navigateTo depth) hdispatch
    obtain ⟨hpath, hrounds⟩ := rounds_ne_nil_of_dispatch hmatching hdispatch
    rw [hleads.listenerFailure_eq] at hends
    rcases hends with ⟨hnone | haborted, hresult, -⟩ | ⟨-, address, -, hpush⟩
    · exact absurd hnone hrounds
    · -- neither way of ending in full fits a failure that cuts the navigation short
      rcases hended with hpolicy | ⟨n, rfl⟩
      · rw [hpolicy, d.isAborted_collect] at haborted
        exact absurd haborted (by decide)
      · exact absurd (d.failures_eq_nil_of_result_eq_ok hresult.symm)
          (d.failures_ne_nil_of_isAborted haborted)
    · obtain ⟨rfl, hbeside⟩ := beside_of_push hpush
      rw [hbeside.host, hpath, hleads.addressFor_eq]
      rfl
  have hpathOf : site'.router.pathOf? site'.host.url = some path := by
    rw [hurl, ← haddress, Router.pathOf?_addressFor]
  refine ⟨hurl, haddress, hpathOf, ?_⟩
  intro again
  simp [navigate, hpathOf, Functor.map]

/-- The unruly listener leads the host elsewhere, but the address comes last. -/
theorem navigate_eq_navigateTo_unruly :
    ∃ outcome site', Yields (Run.navigateTo 2 "\u212a") unrulySite outcome site' ∧
      site'.host.url = "app/%E2%84%AA" ∧
      (navigate (Run.navigateTo 2)).run site' =
        ((·.map some) <$> Run.navigateTo 2 "\u212a").run site' := by
  have hends : ((Run.navigateTo 2 "\u212a").run unrulySite).isSome = true := by decide +kernel
  obtain ⟨⟨outcome, site'⟩, hyields⟩ := Option.isSome_iff_exists.mp hends
  have hmatching : unrulySite.router.registry.matching "\u212a" ≠ [] := by decide +kernel
  obtain ⟨hurl, -, -, hagain⟩ := navigate_eq_navigateTo hmatching (.inl rfl) hyields
  exact ⟨outcome, site', hyields, hurl.trans (by decide +kernel), hagain _⟩

end Run
end Wayfinding
