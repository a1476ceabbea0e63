import Wayfinding.Proofs.Router.Registrations

/-!
Registrations that are refused. A list of templates is taken as a whole or not at all, and what
refuses it is the first of its templates that does not compile. Templates that are registered
already are not compiled again; that they would compile is what the registry's records say, so
it makes no difference which of the templates are new.
-/

namespace Wayfinding

variable {σ α : Type}

/-- The error of the first template that does not compile. -/
def FirstError (templates : List String) (error : TemplateError) : Prop :=
  ∃ ahead template rest, templates = ahead ++ template :: rest ∧
    (∀ earlier ∈ ahead, (Route.compile earlier).isOk) ∧ Route.compile template = .error error

namespace Registry

variable {r : Registry α} {log : List (Operation α)} {templates : List String} {listener : α}

theorem register_eq_error_iff (h : r.IsIndexed) (listener : α) {error : TemplateError} :
    r.register templates listener = .error error ↔ FirstError templates error := by
  rw [register_eq h, FirstError, ← mapM_eq_error_iff]
  cases templates.mapM Route.compile <;> simp [Except.map]

theorem Records.mem_of_register (h : r.Records log)
    (hok : ∀ template ∈ templates, (Route.compile template).isOk) {template : String}
    (hmem : template ∈ templates) :
    let after := (Operation.register templates listener).apply r
    template ∈ after.templates ∧ listener ∈ after.heard template := by
  have hrecords := h.apply (.register templates listener)
  have hregistration : (Operation.register templates listener).registration? =
      some (templates, listener) := if_pos hok
  refine ⟨?_, ?_⟩
  · rw [hrecords.templates_eq, registrations_concat, hregistration, List.mem_eraseDups]
    simp [hmem]
  · rw [hrecords.heard_eq, sinceClear_concat, Operation.isClear, if_neg Bool.false_ne_true,
      registrations_concat, hregistration]
    simp [List.count_eq_zero, hmem]

end Registry

namespace Site

theorem compiled_eq (routes : List Route) (site : Site σ) :
    let noted := routes.foldl (fun site route => site.note (.compiled route)) site
    noted = { site with journal := noted.journal } := by
  induction routes generalizing site with
  | nil => rfl
  | cons route routes ih => exact ih (site.note (.compiled route))

theorem answer_register (site : Site σ) (templates : List String) (listener : Listener σ) :
    (site.register templates listener).1 =
      (site.router.registry.register templates listener).map fun _ => () := by
  rw [register]
  cases site.router.registry.register templates listener <;> rfl

/-- A refused registration leaves nothing but a trace in the journal. -/
theorem register_of_error {site : Site σ} {templates : List String} {listener : Listener σ}
    {error : TemplateError} (h : (site.register templates listener).1 = .error error) :
    (site.register templates listener).2 =
      { site with journal := (site.register templates listener).2.journal } := by
  rw [answer_register] at h
  rw [register]
  cases hregister : site.router.registry.register templates listener with
  | ok registry =>
      rw [hregister] at h
      cases h
  | error error => exact compiled_eq _ site

end Site

/-- At every moment, inside or outside a navigation, a list of templates is registered exactly if
all of them compile. Otherwise the first that does not gives the error, and the router, its
host and all that listeners keep are as they were. -/
theorem registration_takes_all_or_none {configuration : Configuration} {host : Host} {client : σ}
    {site : Site σ} (hcreate : Site.create configuration host client = .ok site)
    (main : Program σ) :
    let moment := (Moment.first main site).after
    (∀ now templates listener,
      let before := (moment now).site
      let answer := (before.register templates listener).1
      let after := (before.register templates listener).2
      (answer = .ok () ↔ ∀ template ∈ templates, (Route.compile template).isOk) ∧
      (∀ error, answer = .error error ↔ FirstError templates error) ∧
      (∀ error, answer = .error error → after = { before with journal := after.journal }) ∧
      (answer = .ok () → ∀ template ∈ templates,
        template ∈ after.router.registry.templates ∧
          listener ∈ after.router.registry.heard template)) ∧
    ∀ {depth outcome site'},
      Run.Yields (Run.program (Run.navigateTo depth) main) site outcome site' →
        ∃ last trips, moment last = ⟨.program (.finish outcome) trips, [], site'⟩ := by
  intro moment
  obtain ⟨-, hempty, -⟩ := Site.create_eq_ok hcreate
  refine ⟨fun now templates listener => ?_, fun hrun => ?_⟩
  · intro before answer after
    have hrecords : before.router.registry.Records _ :=
      Moment.records_operations (m := Moment.first main site) hempty now
    have hok : answer = .ok () ↔ ∀ template ∈ templates, (Route.compile template).isOk := by
      rw [← isOk_mapM_iff]
      simp only [answer, Site.answer_register, Registry.register_eq hrecords.indexed]
      cases templates.mapM Route.compile <;>
        simp [Except.map, Except.isOk, Except.toBool]
    refine ⟨hok, fun error => ?_, fun error => Site.register_of_error, fun hanswer => ?_⟩
    · rw [← Registry.register_eq_error_iff hrecords.indexed listener]
      simp only [answer, Site.answer_register]
      cases before.router.registry.register templates listener <;> simp [Except.map]
    · intro template hmem
      rw [(before.register_eq templates listener).2]
      exact hrecords.mem_of_register (hok.mp hanswer) hmem
  · obtain ⟨trips, last, hlast⟩ := Run.reaches_of_yields _ main hrun
    exact ⟨last, trips, hlast⟩

/-- `a` and `d` are registered by then. The new template before the one that is refused is not
registered either. -/
theorem registration_takes_all_or_none_enrol :
    Site.create ⟨some "app", .collect⟩ ⟨"app/", "app", none, #[]⟩ () = .ok (newSite .collect) ∧
      let before := ((Moment.first enrol (newSite .collect)).after 4).site
      let refused := before.register ["d", "e", "a", ":n/:n", "::"] fun _ => .finish (.ok ())
      let taken := before.register ["d", "e", "a", "e"] fun _ => .finish (.ok ())
      refused.1 = .error (.duplicate ":n/:n" "n") ∧
        refused.2.router.registry = before.router.registry ∧
        "e" ∉ refused.2.router.registry.templates ∧
        taken.1 = .ok () ∧ "e" ∈ taken.2.router.registry.templates := by
  have hcreate := create_newSite .collect
  obtain ⟨hmoments, -⟩ := registration_takes_all_or_none hcreate enrol
  obtain ⟨-, herror, hrefused, -⟩ :=
    hmoments 4 ["d", "e", "a", ":n/:n", "::"] fun _ => .finish (.ok ())
  obtain ⟨hok, -, -, htaken⟩ := hmoments 4 ["d", "e", "a", "e"] fun _ => .finish (.ok ())
  have hanswer := (herror (.duplicate ":n/:n" "n")).mpr
    ⟨["d", "e", "a"], ":n/:n", ["::"], rfl, by decide +kernel, by decide +kernel⟩
  have htemplates := (Moment.records_operations (m := Moment.first enrol (newSite .collect))
    rfl 4).templates_eq
  refine ⟨hcreate, hanswer, by rw [hrefused _ hanswer], ?_, ?_, ?_⟩
  · rw [hrefused _ hanswer, htemplates]
    decide +kernel
  · exact hok.mpr (by decide +kernel)
  · exact (htaken (hok.mpr (by decide +kernel)) "e" (by decide)).1

end Wayfinding
