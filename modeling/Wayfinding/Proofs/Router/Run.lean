import Wayfinding.Router.Dispatch

/-!
Runs taken apart, and what they may change. A run that ends yields an outcome and a site.
Whatever its listeners do, the site it leaves comes from the one it found by a list of
changes out of a few kinds, so a property that no change of these kinds touches holds
before a run exactly if it holds after it.
-/

namespace Wayfinding
namespace Run

variable {σ α β : Type} {site site' : Site σ}

/-- The run ends, yields the outcome and leaves the second site. -/
def Yields (run : Run σ α) (site : Site σ) (outcome : α) (site' : Site σ) : Prop :=
  run.run site = some (outcome, site')

@[simp] theorem yields_pure {a b : α} :
    Yields (pure a) site b site' ↔ a = b ∧ site = site' := by
  simp [Yields]

@[simp] theorem yields_bind {x : Run σ α} {f : α → Run σ β} {b : β} :
    Yields (x >>= f) site b site' ↔
      ∃ a between, Yields x site a between ∧ Yields (f a) between b site' := by
  simp only [Yields, StateT.run_bind, Option.bind_eq_bind, Option.bind_eq_some_iff, Prod.exists]

@[simp] theorem yields_get {now : Site σ} :
    Yields get site now site' ↔ site = now ∧ site = site' := by
  simp [Yields]

@[simp] theorem yields_set {next : Site σ} {u : Unit} :
    Yields (set next) site u site' ↔ next = site' := by
  simp [Yields]

@[simp] theorem yields_modify {f : Site σ → Site σ} {u : Unit} :
    Yields (modify f) site u site' ↔ f site = site' := by
  simp [Yields]

@[simp] theorem yields_modifyGet {f : Site σ → α × Site σ} {a : α} :
    Yields (modifyGet f) site a site' ↔ f site = (a, site') := by
  simp [Yields, Prod.ext_iff]

@[simp] theorem yields_note {occurrence : Occurrence} {u : Unit} :
    Yields (note occurrence) site u site' ↔ site.note occurrence = site' :=
  yields_modify

theorem not_yields_none {a : α} : ¬ Yields (StateT.lift none) site a site' := by
  simp [Yields]

end Run

/-- What happens to a site at a time. -/
inductive Change (σ : Type) where
  | note (occurrence : Occurrence)
  | count
  | route (path : String)
  | push (address : String)
  | setUrl (url : String)
  | remember (state : σ)
  | clear
  | register (templates : List String) (listener : Listener σ)

def Change.apply {σ : Type} (site : Site σ) : Change σ → Site σ
  | .note occurrence => site.note occurrence
  | .count => { site with navigations := site.navigations + 1 }
  | .route path => site.setCurrentRoute path
  | .push address => site.pushAddress address
  | .setUrl url => site.setUrl url
  | .remember state => site.remember state
  | .clear => site.clear
  | .register templates listener => (site.register templates listener).2

namespace Site

variable {σ : Type} {site between site' : Site σ}

/-- The site as the rounds of a navigation find it. -/
def started (site : Site σ) (path : String) : Site σ :=
  note { site with navigations := site.navigations + 1 } (.started site.navigations path)

def after (site : Site σ) (changes : List (Change σ)) : Site σ :=
  changes.foldl Change.apply site

/-- The first site turns into the second one by changes. -/
def Leads (site site' : Site σ) : Prop :=
  ∃ changes, site.after changes = site'

theorem Leads.refl (site : Site σ) : site.Leads site :=
  ⟨[], rfl⟩

theorem Leads.trans (h₁ : site.Leads between) (h₂ : between.Leads site') :
    site.Leads site' := by
  obtain ⟨before, rfl⟩ := h₁
  obtain ⟨later, rfl⟩ := h₂
  exact ⟨before ++ later, List.foldl_append⟩

theorem leads_apply (site : Site σ) (change : Change σ) : site.Leads (change.apply site) :=
  ⟨[change], rfl⟩

/-- What no change touches stays. -/
theorem Leads.stays {α : Type} {f : Site σ → α} (h : site.Leads site')
    (hf : ∀ site change, f (Change.apply site change) = f site) : f site' = f site := by
  obtain ⟨changes, rfl⟩ := h
  induction changes generalizing site with
  | nil => rfl
  | cons change changes ih => exact (@ih (change.apply site)).trans (hf site change)

theorem register_stays {α : Type} (f : Site σ → α) (templates : List String)
    (listener : Listener σ) (hnote : ∀ site occurrence, f (note site occurrence) = f site)
    (hset : ∀ site registry, f (setRegistry site registry) = f site) (site : Site σ) :
    f (site.register templates listener).2 = f site := by
  have hcompiled : ∀ (routes : List Route) (site : Site σ),
      f (routes.foldl (fun site route => site.note (.compiled route)) site) = f site := by
    intro routes
    induction routes with
    | nil => intro site; rfl
    | cons route routes ih =>
        intro site
        rw [List.foldl_cons, ih, hnote]
  simp only [register]
  cases site.router.registry.register templates listener with
  | error error => exact hcompiled _ site
  | ok registry =>
      simp only [hnote, hset]
      exact hcompiled _ site

theorem baseUrl_apply (site : Site σ) (change : Change σ) :
    (change.apply site).router.baseUrl = site.router.baseUrl := by
  cases change with
  | register templates listener =>
      exact register_stays (·.router.baseUrl) templates listener (fun _ _ => rfl)
        (fun _ _ => rfl) site
  | _ => rfl

theorem listenerFailure_apply (site : Site σ) (change : Change σ) :
    (change.apply site).router.listenerFailure = site.router.listenerFailure := by
  cases change with
  | register templates listener =>
      exact register_stays (·.router.listenerFailure) templates listener (fun _ _ => rfl)
        (fun _ _ => rfl) site
  | _ => rfl

theorem Leads.baseUrl_eq (h : site.Leads site') : site'.router.baseUrl = site.router.baseUrl :=
  h.stays (f := (·.router.baseUrl)) baseUrl_apply

theorem Leads.listenerFailure_eq (h : site.Leads site') :
    site'.router.listenerFailure = site.router.listenerFailure :=
  h.stays (f := (·.router.listenerFailure)) listenerFailure_apply

theorem Leads.addressFor_eq (h : site.Leads site') (path : String) :
    site'.router.addressFor path = site.router.addressFor path := by
  rw [Router.addressFor, Router.addressFor, h.baseUrl_eq]

end Site

namespace Run

variable {σ : Type} {site site' : Site σ} {navigateTo : Navigator σ} {policy : FailurePolicy}
  {path : String} {number depth : Nat}

/-- Every run of the navigator is a list of changes. -/
def Changes (navigateTo : Navigator σ) : Prop :=
  ∀ {path site outcome site'}, Yields (navigateTo path) site outcome site' → site.Leads site'

theorem leads_note (site : Site σ) (occurrence : Occurrence) :
    site.Leads (site.note occurrence) :=
  site.leads_apply (.note occurrence)

theorem leads_of_noteAll {occurrence? : Option Occurrence} {u : Unit}
    (h : Yields (noteAll occurrence?) site u site') : site.Leads site' := by
  cases occurrence? with
  | none =>
      obtain ⟨-, rfl⟩ := yields_pure.mp h
      exact .refl _
  | some occurrence =>
      obtain rfl := yields_note.mp h
      exact leads_note site occurrence

theorem leads_of_route {u : Unit} (h : Yields (route number path) site u site') :
    site.Leads site' := by
  simp only [route, yields_bind, yields_modify, yields_note] at h
  obtain ⟨-, -, rfl, rfl⟩ := h
  exact (site.leads_apply (.route path)).trans (leads_note _ _)

theorem yields_navigate_of_outside (navigateTo : Navigator σ)
    (h : site.router.pathOf? site.host.url = none) :
    Yields (navigate navigateTo) site (.ok none)
      (site.note (.outside site.host.url site.router.baseUrl)) := by
  rw [navigate, yields_bind]
  refine ⟨site, site, yields_get.mpr ⟨rfl, rfl⟩, ?_⟩
  rw [h, yields_bind]
  exact ⟨(), _, yields_note.mpr rfl, yields_pure.mpr ⟨rfl, rfl⟩⟩

theorem yields_navigate_of_path {outcome : Except DispatchError Navigation}
    (h : site.router.pathOf? site.host.url = some path)
    (hnavigateTo : Yields (navigateTo path) site outcome site') :
    Yields (navigate navigateTo) site (outcome.map some) site' := by
  rw [navigate, yields_bind]
  refine ⟨site, site, yields_get.mpr ⟨rfl, rfl⟩, ?_⟩
  rw [h, yields_bind]
  exact ⟨outcome, site', hnavigateTo, yields_pure.mpr ⟨rfl, rfl⟩⟩

theorem leads_of_navigate (hnav : Changes navigateTo)
    {outcome : Except DispatchError (Option Navigation)}
    (h : Yields (navigate navigateTo) site outcome site') : site.Leads site' := by
  simp only [navigate, yields_bind, yields_get] at h
  obtain ⟨_, _, ⟨rfl, rfl⟩, h⟩ := h
  cases hpath : site.router.pathOf? site.host.url with
  | none =>
      simp only [hpath, yields_bind, yields_note, yields_pure] at h
      obtain ⟨_, _, rfl, -, rfl⟩ := h
      exact leads_note _ _
  | some path =>
      simp only [hpath, yields_bind, yields_pure] at h
      obtain ⟨_, _, hto, -, rfl⟩ := h
      exact hnav hto

/-- A listener changes a site only in these ways if the navigations that it starts do. -/
theorem leads_of_program (hnav : Changes navigateTo) (listener : Program σ)
    {outcome : Except String Unit} (h : Yields (program navigateTo listener) site outcome site') :
    site.Leads site' := by
  induction listener generalizing site with
  | finish outcome =>
      obtain ⟨-, rfl⟩ := yields_pure.mp h
      exact .refl _
  | view next ih | «recall» next ih =>
      simp only [program, yields_bind, yields_get] at h
      obtain ⟨_, _, ⟨rfl, rfl⟩, h⟩ := h
      exact ih _ h
  | remember state next ih =>
      simp only [program, yields_bind, yields_modify] at h
      obtain ⟨_, _, rfl, h⟩ := h
      exact (site.leads_apply (.remember state)).trans (ih h)
  | print line next ih =>
      simp only [program, yields_bind, yields_note] at h
      obtain ⟨_, _, rfl, h⟩ := h
      exact (leads_note site _).trans (ih h)
  | setUrl url next ih =>
      simp only [program, yields_bind, yields_modify] at h
      obtain ⟨_, _, rfl, h⟩ := h
      exact (site.leads_apply (.setUrl url)).trans (ih h)
  | clear next ih =>
      simp only [program, yields_bind, yields_modify] at h
      obtain ⟨_, _, rfl, h⟩ := h
      exact (site.leads_apply .clear).trans (ih h)
  | register templates listener next _ ih =>
      simp only [program, yields_bind, yields_modifyGet] at h
      obtain ⟨answer, between, hregister, h⟩ := h
      have hleads := site.leads_apply (.register templates listener)
      rw [Change.apply, hregister] at hleads
      exact hleads.trans (ih _ h)
  | navigateTo path next ih =>
      simp only [program, yields_bind] at h
      obtain ⟨_, _, hto, h⟩ := h
      exact (hnav hto).trans (ih _ h)
  | navigate next ih =>
      simp only [program, yields_bind] at h
      obtain ⟨_, _, hnavigate, h⟩ := h
      exact (leads_of_navigate hnav hnavigate).trans (ih _ h)

theorem leads_of_calls (hnav : Changes navigateTo) {event : Event}
    (listeners : List (Listener σ)) {index : Nat} {made : List (Call σ)}
    (h : Yields (calls navigateTo policy event index listeners) site made site') :
    site.Leads site' := by
  induction listeners generalizing site index made with
  | nil =>
      obtain ⟨-, rfl⟩ := yields_pure.mp h
      exact .refl _
  | cons listener rest ih =>
      simp only [calls, yields_bind] at h
      obtain ⟨outcome, _, hprogram, _, _, hnote, h⟩ := h
      refine ((leads_of_program hnav _ hprogram).trans (leads_of_noteAll hnote)).trans ?_
      split at h
      · obtain ⟨-, rfl⟩ := yields_pure.mp h
        exact .refl _
      · simp only [yields_bind, yields_pure] at h
        obtain ⟨_, _, hcalls, -, rfl⟩ := h
        exact ih hcalls

/-- Makes a path the current route if the match is the first. -/
def routeIf (isFirst : Bool) (number : Nat) (path : String) : Run σ Unit :=
  if isFirst then route number path else pure ()

theorem leads_of_routeIf {isFirst : Bool} {u : Unit}
    (h : Yields (routeIf isFirst number path) site u site') : site.Leads site' := by
  cases isFirst with
  | true => exact leads_of_route h
  | false =>
      obtain ⟨-, rfl⟩ := yields_pure.mp h
      exact .refl _

theorem rounds_cons_of_accepts {entry : Registration (Listener σ)}
    (h : entry.route.accepts path = true) (isFirst : Bool)
    (rest : List (Registration (Listener σ))) :
    rounds navigateTo policy number path isFirst (entry :: rest) = (do
      note (.matched entry.route.template path)
      routeIf isFirst number path
      let made ← calls navigateTo policy ⟨entry.route, path⟩ 0 entry.listeners.toList
      let round : Round σ := ⟨entry.route.template, made⟩
      if round.isLast policy then pure [round]
      else do
        let later ← rounds navigateTo policy number path false rest
        pure (round :: later)) := by
  rw [rounds, if_pos h]
  cases isFirst with
  | true => rfl
  | false => simp [routeIf]

theorem rounds_cons_of_not_accepts {entry : Registration (Listener σ)}
    (h : entry.route.accepts path = false) (isFirst : Bool)
    (rest : List (Registration (Listener σ))) :
    rounds navigateTo policy number path isFirst (entry :: rest) = (do
      noteAll ((entry.route.misreading? path).map .misread)
      rounds navigateTo policy number path isFirst rest) := by
  rw [rounds, h]
  rfl

theorem leads_of_rounds (hnav : Changes navigateTo)
    (entries : List (Registration (Listener σ))) {isFirst : Bool} {made : List (Round σ)}
    (h : Yields (rounds navigateTo policy number path isFirst entries) site made site') :
    site.Leads site' := by
  induction entries generalizing site isFirst made with
  | nil =>
      obtain ⟨-, rfl⟩ := yields_pure.mp h
      exact .refl _
  | cons entry rest ih =>
      cases haccepts : entry.route.accepts path with
      | true =>
          rw [rounds_cons_of_accepts haccepts] at h
          simp only [yields_bind, yields_note] at h
          obtain ⟨_, _, rfl, _, _, hroute, _, _, hcalls, h⟩ := h
          refine ((leads_note _ _).trans (leads_of_routeIf hroute)).trans
            ((leads_of_calls hnav _ hcalls).trans ?_)
          split at h
          · obtain ⟨-, rfl⟩ := yields_pure.mp h
            exact .refl _
          · simp only [yields_bind, yields_pure] at h
            obtain ⟨_, _, hrounds, -, rfl⟩ := h
            exact ih hrounds
      | false =>
          rw [rounds_cons_of_not_accepts haccepts] at h
          obtain ⟨_, _, hnote, h⟩ := yields_bind.mp h
          exact (leads_of_noteAll hnote).trans (ih h)

theorem rounds_of_dispatch {d : Dispatch σ}
    (h : Yields (dispatch navigateTo path) site (number, d) site') :
    number = site.navigations ∧ d.path = path ∧
      Yields (rounds navigateTo site.router.listenerFailure number path true
        site.router.registry.entries.toList) (site.started path) d.rounds site' := by
  simp only [dispatch, yields_bind, yields_get, yields_set, yields_note, yields_pure] at h
  obtain ⟨_, _, ⟨rfl, rfl⟩, _, _, rfl, _, _, rfl, made, _, hrounds, heq, rfl⟩ := h
  obtain ⟨rfl, rfl⟩ := Prod.mk.inj heq
  exact ⟨rfl, rfl, hrounds⟩

theorem leads_of_dispatch (hnav : Changes navigateTo) {d : Dispatch σ}
    (h : Yields (dispatch navigateTo path) site (number, d) site') : site.Leads site' := by
  obtain ⟨-, -, hrounds⟩ := rounds_of_dispatch h
  have hstarted : site.Leads (site.started path) :=
    (site.leads_apply .count).trans (leads_note _ _)
  exact hstarted.trans (leads_of_rounds hnav _ hrounds)

theorem eq_of_push {d : Dispatch σ} {address : String}
    (h : Yields (push number d) site address site') :
    address = site.router.addressFor d.path ∧
      site' = ((site.pushAddress address).note (.pushed number address)).note
        (.navigated d.path d.rounds.length d.calls.length) := by
  simp only [push, yields_bind, yields_get, yields_modify, yields_note, yields_pure] at h
  obtain ⟨_, _, ⟨rfl, rfl⟩, _, _, rfl, _, _, rfl, _, _, rfl, rfl, rfl⟩ := h
  exact ⟨rfl, rfl⟩

theorem leads_of_push {d : Dispatch σ} {address : String}
    (h : Yields (push number d) site address site') : site.Leads site' := by
  obtain ⟨-, rfl⟩ := eq_of_push h
  exact ((site.leads_apply (.push address)).trans (leads_note _ _)).trans (leads_note _ _)

/-- A navigation ends after its dispatch if it found no match or was cut short, and else
pushes its address. -/
theorem dispatch_of_navigateTo {result : Except DispatchError Navigation}
    (h : Yields (Run.navigateTo (depth + 1) path) site result site') :
    ∃ number d between, Yields (dispatch (Run.navigateTo depth) path) site (number, d) between ∧
      ((d.rounds = [] ∨ d.isAborted between.router.listenerFailure = true) ∧
          result = d.result none ∧ site' = between ∨
        (d.rounds ≠ [] ∧ d.isAborted between.router.listenerFailure = false) ∧
          ∃ address, result = d.result (some address) ∧
            Yields (push number d) between address site') := by
  simp only [Run.navigateTo, yields_bind, yields_get] at h
  obtain ⟨⟨number, d⟩, between, hdispatch, _, _, ⟨rfl, rfl⟩, h⟩ := h
  refine ⟨number, d, between, hdispatch, ?_⟩
  split at h
  · rename_i hends
    obtain ⟨hresult, hsite⟩ := yields_pure.mp h
    refine .inl ⟨?_, hresult.symm, hsite.symm⟩
    simpa using hends
  · rename_i hends
    simp only [yields_bind, yields_pure] at h
    obtain ⟨address, _, hpush, hresult, rfl⟩ := h
    refine .inr ⟨?_, address, hresult.symm, hpush⟩
    simpa using hends

/-- However deep its navigations nest, a run is a list of changes. -/
theorem changes_navigateTo (depth : Nat) : Changes (Run.navigateTo depth : Navigator σ) := by
  induction depth with
  | zero =>
      intro path site outcome site' h
      exact absurd h not_yields_none
  | succ depth ih =>
      intro path site outcome site' h
      obtain ⟨number, d, between, hdispatch, hends⟩ := dispatch_of_navigateTo h
      have hleads := leads_of_dispatch ih hdispatch
      rcases hends with ⟨-, -, rfl⟩ | ⟨-, address, -, hpush⟩
      · exact hleads
      · exact hleads.trans (leads_of_push hpush)

end Run
end Wayfinding
