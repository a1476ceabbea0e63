import Wayfinding.Proofs.Router.Address
import Wayfinding.Proofs.Router.Moment

/-!
The two failure policies compared. Listeners that leave the router and its host alone cannot
tell which policy is in force, so a navigation makes the same calls under either one until the
first call that fails. Collecting goes on from there and pushes the address in the end;
aborting stops there, and the host never hears of the navigation.
-/

namespace Wayfinding

variable {σ : Type}

namespace Call

def hasFailed (call : Call σ) : Bool := call.failure?.isSome

theorem filterMap_failure?_eq_nil {calls : List (Call σ)} (h : calls.any hasFailed = false) :
    calls.filterMap failure? = [] := by
  rw [List.filterMap_eq_nil_iff]
  intro call hcall
  exact Option.not_isSome_iff_eq_none.mp (List.any_eq_false.mp h call hcall)

theorem any_hasFailed_eq_false_iff {calls : List (Call σ)} :
    calls.any hasFailed = false ↔ ∀ call ∈ calls, call.outcome = .ok () := by
  rw [List.any_eq_false]
  refine forall₂_congr fun call _ => ?_
  rw [hasFailed, failure?]
  cases call.outcome <;> simp

end Call

namespace Site

/-- The router and the host are the same. -/
structure Rests (site site' : Site σ) : Prop where
  router : site'.router = site.router
  host : site'.host = site.host

variable {site between site' : Site σ}

theorem Rests.refl (site : Site σ) : site.Rests site := ⟨rfl, rfl⟩

theorem Rests.trans (h₁ : site.Rests between) (h₂ : between.Rests site') : site.Rests site' :=
  ⟨h₂.router.trans h₁.router, h₂.host.trans h₁.host⟩

/-- The site as the calls for a match find it. -/
def met (site : Site σ) (isFirst : Bool) (number : Nat) (template path : String) : Site σ :=
  let site := site.note (.matched template path)
  if isFirst then (site.setCurrentRoute path).note (.routed number path) else site

end Site

namespace Run

variable {navigateTo : Navigator σ} {path : String} {number depth : Nat}

section

variable {policy : FailurePolicy} {event : Event} {listener : Listener σ}
  {rest : List (Listener σ)} {index : Nat} {outcome : Except String Unit}
  {site between site' : Site σ}

theorem yields_calls_of_not_isLast {later : List (Call σ)}
    (hcall : Yields (program navigateTo (listener event)) site outcome between)
    (hgoes : Call.isLast policy ⟨event.template, index, listener, outcome⟩ = false)
    (hlater : Yields (calls navigateTo policy event (index + 1) rest)
      (between.noteAll ((Call.failure? ⟨event.template, index, listener, outcome⟩).map .failed))
      later site') :
    Yields (calls navigateTo policy event index (listener :: rest)) site
      (⟨event.template, index, listener, outcome⟩ :: later) site' := by
  simp only [calls, yields_bind]
  refine ⟨outcome, between, hcall, (), _, yields_noteAll.mpr rfl, ?_⟩
  rw [if_neg (Bool.eq_false_iff.mp hgoes)]
  simp only [yields_bind, yields_pure]
  exact ⟨later, site', hlater, rfl, rfl⟩

end

section

variable {policy : FailurePolicy} {entry : Registration (Listener σ)}
  {rest : List (Registration (Listener σ))} {isFirst : Bool} {made : List (Call σ)}
  {later : List (Round σ)} {site between site' : Site σ}

theorem yields_rounds_of_not_isLast (haccepts : entry.route.accepts path = true)
    (hcalls : Yields (calls navigateTo policy ⟨entry.route, path⟩ 0 entry.listeners.toList)
      (site.met isFirst number entry.route.template path) made between)
    (hgoes : Round.isLast policy ⟨entry.route.template, made⟩ = false)
    (hlater : Yields (rounds navigateTo policy number path false rest) between later site') :
    Yields (rounds navigateTo policy number path isFirst (entry :: rest)) site
      (⟨entry.route.template, made⟩ :: later) site' := by
  rw [rounds_cons_of_accepts haccepts]
  simp only [yields_bind, yields_note]
  refine ⟨(), _, rfl, (), _, yields_routeIf.mpr rfl, made, between, hcalls, ?_⟩
  rw [if_neg (Bool.eq_false_iff.mp hgoes)]
  simp only [yields_bind, yields_pure]
  exact ⟨later, site', hlater, rfl, rfl⟩

theorem yields_rounds_of_not_accepts (haccepts : entry.route.accepts path = false)
    (hlater : Yields (rounds navigateTo policy number path isFirst rest)
      (site.noteAll ((entry.route.misreading? path).map .misread)) later site') :
    Yields (rounds navigateTo policy number path isFirst (entry :: rest)) site later site' := by
  rw [rounds_cons_of_not_accepts haccepts]
  exact yields_bind.mpr ⟨(), _, yields_noteAll.mpr rfl, hlater⟩

end

theorem yields_dispatch_of_rounds {site site' : Site σ} {made : List (Round σ)}
    (h : Yields (rounds navigateTo site.router.listenerFailure site.navigations path true
      site.router.registry.entries.toList) (site.started path) made site') :
    Yields (dispatch navigateTo path) site (site.navigations, ⟨path, made⟩) site' := by
  simp only [dispatch, yields_bind, yields_get, yields_set, yields_note, yields_pure]
  exact ⟨site, site, ⟨rfl, rfl⟩, (), _, rfl, (), _, rfl, made, site', h, rfl, rfl⟩

theorem yields_navigateTo_of_fruitless {site site' : Site σ} {d : Dispatch σ}
    (h : Yields (dispatch (Run.navigateTo depth) path) site (number, d) site')
    (hends : d.rounds = [] ∨ d.isAborted site'.router.listenerFailure = true) :
    Yields (Run.navigateTo (depth + 1) path) site (d.result none) site' := by
  simp only [Run.navigateTo, yields_bind, yields_get]
  refine ⟨_, site', h, site', site', ⟨rfl, rfl⟩, ?_⟩
  rw [if_pos (by simpa using hends)]
  exact yields_pure.mpr ⟨rfl, rfl⟩

theorem yields_navigateTo_of_arrival {site site' : Site σ} {d : Dispatch σ}
    (h : Yields (dispatch (Run.navigateTo depth) path) site (number, d) site')
    (hrounds : d.rounds ≠ []) (hends : d.isAborted site'.router.listenerFailure = false) :
    Yields (Run.navigateTo (depth + 1) path) site
      (d.result (some (site'.router.addressFor d.path))) (site'.arrived number d) := by
  simp only [Run.navigateTo, yields_bind, yields_get]
  refine ⟨_, site', h, site', site', ⟨rfl, rfl⟩, ?_⟩
  rw [if_neg (by simp [hrounds, hends])]
  simp only [push, yields_bind, yields_get, yields_modify, yields_note, yields_pure]
  exact ⟨_, _, ⟨site', site', ⟨rfl, rfl⟩, (), _, rfl, (), _, rfl, (), _, rfl, rfl, rfl⟩, rfl, rfl⟩

end Run
end Wayfinding
