import Wayfinding.Proofs.Router.Order

/-!
What gets into the state. Templates are never taken back and their routes never change, so a
path that a registered template accepts is accepted by a registered template for good. A
navigation goes through registrations that were there when it started; it makes its path the
current route and pushes its address only after one of them has accepted the path.
-/

namespace Wayfinding

variable {σ α : Type}

namespace Registry

variable {r r' : Registry α} {route : Route} {path : String}

/-- A registered template accepts the path. -/
def Covers (r : Registry α) (path : String) : Prop :=
  ∃ template ∈ r.templates, ∃ route, Route.compile template = .ok route ∧
    route.accepts path = true

/-- The route is the compilation of a registered template. -/
structure Knows (r : Registry α) (route : Route) : Prop where
  mem_templates : route.template ∈ r.templates
  compile_eq : Route.compile route.template = .ok route

theorem Covers.mono (h : r.Covers path) (hsub : r.templates <+: r'.templates) :
    r'.Covers path := by
  obtain ⟨template, htemplate, haccepts⟩ := h
  exact ⟨template, hsub.subset htemplate, haccepts⟩

theorem Knows.mono (h : r.Knows route) (hsub : r.templates <+: r'.templates) :
    r'.Knows route :=
  ⟨hsub.subset h.mem_templates, h.compile_eq⟩

theorem Knows.covers (h : r.Knows route) (haccepts : route.accepts path = true) :
    r.Covers path :=
  ⟨route.template, h.mem_templates, route, h.compile_eq, haccepts⟩

theorem IsIndexed.knows (h : r.IsIndexed) {entry : Registration α}
    (hentry : entry ∈ r.entries.toList) : r.Knows entry.route := by
  obtain ⟨slot, hslot⟩ := Array.mem_iff_getElem?.mp (Array.mem_toList_iff.mp hentry)
  have hindex := h.index_of_entry slot entry hslot
  obtain ⟨found, hfound, hcompile⟩ := h.entry_of_index _ slot hindex
  obtain rfl : found = entry := Option.some.inj (hfound.symm.trans hslot)
  exact ⟨h.mem_templates_iff.mpr ⟨slot, hindex⟩, hcompile⟩

end Registry

theorem Dispatch.eq_path_of_mem_arrival {policy : FailurePolicy} {d : Dispatch σ} {path : String}
    (h : path ∈ d.arrival policy) : path = d.path ∧ d.rounds ≠ [] := by
  rw [arrival] at h
  split at h
  · cases h
  · rename_i hends
    exact ⟨List.mem_singleton.mp h, fun hrounds => hends (by simp [hrounds])⟩

/-- The registrations still ahead of the navigation are known. -/
def Voyage.IsCharted (r : Registry (Listener σ)) (v : Voyage σ) : Prop :=
  ∀ entry ∈ v.ahead, r.Knows entry.route

/-- A navigation with a match has a path that is covered. -/
def Work.IsGuided (r : Registry (Listener σ)) : Work σ → Prop
  | .program _ _ => True
  | .voyage v => v.IsCharted r ∧ (v.rounds ≠ [] → r.Covers v.path)
  | .turn v _ => v.IsCharted r ∧ r.Covers v.path

def Pause.IsGuided (r : Registry (Listener σ)) (pause : Pause σ) : Prop :=
  pause.voyage.IsCharted r ∧ r.Covers pause.voyage.path

section

variable {r r' : Registry (Listener σ)} (hsub : r.templates <+: r'.templates)

include hsub

theorem Voyage.IsCharted.mono {v : Voyage σ} (h : v.IsCharted r) : v.IsCharted r' :=
  fun entry hentry => (h entry hentry).mono hsub

theorem Work.IsGuided.mono {work : Work σ} (h : work.IsGuided r) : work.IsGuided r' := by
  cases work with
  | program _ _ => trivial
  | voyage v => exact ⟨h.1.mono hsub, fun hrounds => (h.2 hrounds).mono hsub⟩
  | turn v turn => exact ⟨h.1.mono hsub, h.2.mono hsub⟩

theorem Pause.IsGuided.mono {pause : Pause σ} (h : pause.IsGuided r) : pause.IsGuided r' :=
  ⟨h.1.mono hsub, h.2.mono hsub⟩

end

namespace Moment

variable {m : Moment σ} {r : Registry (Listener σ)}

structure IsGuided (r : Registry (Listener σ)) (m : Moment σ) : Prop where
  work : m.work.IsGuided r
  waiting : ∀ pause ∈ m.waiting, pause.IsGuided r

theorem isGuided_program (program : Program σ) (trips : List (Trip σ)) {waiting : List (Pause σ)}
    (hwaiting : ∀ pause ∈ waiting, pause.IsGuided r) (site : Site σ) :
    IsGuided r ⟨.program program trips, waiting, site⟩ :=
  ⟨trivial, hwaiting⟩

theorem isGuided_start {site : Site σ} (hindexed : site.router.registry.IsIndexed) (path : String)
    (resume : Except DispatchError Navigation → Program σ) (earlier : List (Trip σ))
    {waiting : List (Pause σ)}
    (hwaiting : ∀ pause ∈ waiting, pause.IsGuided site.router.registry) :
    (start site path resume earlier waiting).IsGuided site.router.registry :=
  ⟨⟨fun _ hentry => hindexed.knows hentry, fun hrounds => absurd rfl hrounds⟩, hwaiting⟩

theorem isGuided_afterProgram {site : Site σ} (hindexed : site.router.registry.IsIndexed)
    (program : Program σ) (trips : List (Trip σ)) {waiting : List (Pause σ)}
    (hwaiting : ∀ pause ∈ waiting, pause.IsGuided site.router.registry) :
    (afterProgram trips waiting site program).IsGuided site.router.registry := by
  cases program with
  | finish outcome =>
      cases waiting with
      | nil => exact isGuided_program _ _ hwaiting _
      | cons pause waiting =>
          obtain ⟨hpause, hwaiting⟩ := List.forall_mem_cons.mp hwaiting
          exact ⟨hpause, hwaiting⟩
  | navigateTo path next => exact isGuided_start hindexed path next trips hwaiting
  | navigate next =>
      simp only [afterProgram]
      cases site.router.pathOf? site.host.url with
      | none => exact isGuided_program _ _ hwaiting _
      | some path => exact isGuided_start hindexed path _ trips hwaiting
  | _ => exact isGuided_program _ _ hwaiting _

theorem next_of_ahead_eq_nil {v : Voyage σ} (hahead : v.ahead = []) (waiting : List (Pause σ))
    (site : Site σ) :
    ∃ address site', next ⟨.voyage v, waiting, site⟩ = ⟨v.finish address, waiting, site'⟩ ∧
      site'.router = site.router := by
  by_cases hends : v.rounds = [] ∨ v.dispatch.isAborted site.router.listenerFailure = true
  · exact ⟨none, site, next_of_fruitless hahead waiting hends, rfl⟩
  · obtain ⟨hrounds, haborted⟩ := not_or.mp hends
    exact ⟨_, _, next_of_arrival hahead waiting hrounds (Bool.eq_false_iff.mpr haborted), rfl⟩

theorem isGuided_next_voyage {v : Voyage σ} (hwork : (Work.voyage v).IsGuided r)
    {waiting : List (Pause σ)} (hwaiting : ∀ pause ∈ waiting, pause.IsGuided r) (site : Site σ) :
    (next ⟨.voyage v, waiting, site⟩).IsGuided r := by
  obtain ⟨hcharted, hcovers⟩ := hwork
  cases hahead : v.ahead with
  | nil =>
      obtain ⟨address, site', hnext, -⟩ := next_of_ahead_eq_nil hahead waiting site
      rw [hnext]
      exact isGuided_program _ _ hwaiting _
  | cons entry ahead =>
      rw [Voyage.IsCharted, hahead] at hcharted
      obtain ⟨hentry, hrest⟩ := List.forall_mem_cons.mp hcharted
      cases haccepts : entry.route.accepts v.path with
      | true =>
          rw [next_of_accepts hahead haccepts]
          exact ⟨⟨hrest, hentry.covers haccepts⟩, hwaiting⟩
      | false =>
          rw [next_of_not_accepts hahead haccepts]
          exact ⟨⟨hrest, hcovers⟩, hwaiting⟩

theorem isGuided_afterTurn {v : Voyage σ} {turn : Turn σ} (hwork : (Work.turn v turn).IsGuided r)
    {waiting : List (Pause σ)} (hwaiting : ∀ pause ∈ waiting, pause.IsGuided r) (site : Site σ) :
    (afterTurn v turn waiting site).IsGuided r := by
  obtain ⟨hcharted, hcovers⟩ := hwork
  simp only [afterTurn]
  split
  · refine ⟨⟨fun entry hentry => hcharted entry ?_, fun _ => hcovers⟩, hwaiting⟩
    split at hentry
    · cases hentry
    · exact hentry
  · exact ⟨trivial, List.forall_mem_cons.mpr ⟨⟨hcharted, hcovers⟩, hwaiting⟩⟩

theorem IsGuided.next (h : m.IsGuided m.site.router.registry)
    (hindexed : m.site.router.registry.IsIndexed) : m.next.IsGuided m.site.router.registry := by
  obtain ⟨work, waiting, site⟩ := m
  obtain ⟨hwork, hwaiting⟩ := h
  cases work with
  | program program trips => exact isGuided_afterProgram hindexed program trips hwaiting
  | voyage v => exact isGuided_next_voyage hwork hwaiting site
  | turn v turn => exact isGuided_afterTurn hwork hwaiting site

/-- A step leaves the route alone unless a navigation finds its first match. -/
theorem currentRoute_next (h : m.IsGuided r) :
    m.next.site.router.currentRoute = m.site.router.currentRoute ∨
      r.Covers m.next.site.router.currentRoute := by
  obtain ⟨work, waiting, site⟩ := m
  cases work with
  | program program trips =>
      left
      cases program with
      | finish outcome =>
          cases waiting with
          | nil => rfl
          | cons pause waiting => exact (site.abides_noteAll _).currentRoute
      | register templates listener next => exact (site.abides_register _ _).currentRoute
      | navigate next =>
          simp only [Moment.next, afterProgram]
          cases site.router.pathOf? site.host.url <;> rfl
      | _ => rfl
  | voyage v =>
      obtain ⟨hcharted, -⟩ := h.work
      cases hahead : v.ahead with
      | nil =>
          obtain ⟨address, site', hnext, hrouter⟩ := next_of_ahead_eq_nil hahead waiting site
          rw [hnext, hrouter]
          exact .inl rfl
      | cons entry ahead =>
          have hentry : r.Knows entry.route := hcharted entry (hahead ▸ List.mem_cons_self)
          cases haccepts : entry.route.accepts v.path with
          | true =>
              rw [next_of_accepts hahead haccepts]
              simp only [Site.matched]
              split
              · exact .inr (hentry.covers haccepts)
              · exact .inl rfl
          | false =>
              rw [next_of_not_accepts hahead haccepts]
              exact .inl (site.abides_noteAll _).currentRoute
  | turn v turn =>
      left
      simp only [next, afterTurn]
      split <;> rfl

theorem covers_of_mem_arriving (h : m.IsGuided r) {path : String} (hpath : path ∈ m.arriving) :
    r.Covers path := by
  obtain ⟨work, waiting, site⟩ := m
  cases work with
  | program program trips => cases hpath
  | turn v turn => cases hpath
  | voyage v =>
      simp only [arriving] at hpath
      split at hpath
      · obtain ⟨rfl, hrounds⟩ := Dispatch.eq_path_of_mem_arrival hpath
        exact h.work.2 hrounds
      · cases hpath

/-- What the registry says of the route and of every address pushed since the first site. -/
structure Covered (origin : Site σ) (m : Moment σ) : Prop where
  recorded : ∃ log, m.site.router.registry.Records log
  guided : m.IsGuided m.site.router.registry
  currentRoute : m.site.router.currentRoute = "" ∨
    m.site.router.registry.Covers m.site.router.currentRoute
  pushed : ∃ pushed : List String, m.site.host.history.toList =
    origin.host.history.toList ++ pushed.map origin.router.addressFor ∧
      ∀ path ∈ pushed, m.site.router.registry.Covers path

theorem templates_next {log : List (Operation (Listener σ))}
    (h : m.site.router.registry.Records log) :
    (∃ log, m.next.site.router.registry.Records log) ∧
      m.site.router.registry.templates <+: m.next.site.router.registry.templates := by
  rw [registry_next]
  cases m.operation? with
  | none => exact ⟨⟨log, h⟩, List.prefix_rfl⟩
  | some operation => exact ⟨⟨_, h.apply operation⟩, Registry.templates_prefix h operation⟩

theorem Covered.first {origin : Site σ} (hempty : origin.router.registry = .empty)
    (hroute : origin.router.currentRoute = "") (main : Program σ) :
    Covered origin (first main origin) where
  recorded := ⟨[], hempty ▸ .empty⟩
  guided := ⟨trivial, List.forall_mem_nil _⟩
  currentRoute := .inl hroute
  pushed := ⟨[], by simp [Moment.first], List.forall_mem_nil _⟩

theorem Covered.next {origin : Site σ} (h : Covered origin m) (haccords : Accords origin m) :
    Covered origin m.next := by
  obtain ⟨log, hrecords⟩ := h.recorded
  obtain ⟨hrecorded, hsub⟩ := templates_next hrecords
  obtain ⟨pushed, hhistory, hcovers⟩ := h.pushed
  have hguided := h.guided.next hrecords.indexed
  refine ⟨hrecorded, ⟨hguided.work.mono hsub, fun pause hpause =>
    (hguided.waiting pause hpause).mono hsub⟩, ?_, pushed ++ m.arriving, ?_, ?_⟩
  · rcases currentRoute_next h.guided with hsame | hfound
    · rw [hsame]
      exact h.currentRoute.imp_right (·.mono hsub)
    · exact .inr (hfound.mono hsub)
  · rw [haccords.history_next, hhistory, List.map_append, List.append_assoc]
  · intro path hpath
    rcases List.mem_append.mp hpath with hbefore | hnow
    · exact (hcovers path hbefore).mono hsub
    · exact (covers_of_mem_arriving h.guided hnow).mono hsub

theorem covered_after {origin : Site σ} (hempty : origin.router.registry = .empty)
    (hroute : origin.router.currentRoute = "") (main : Program σ) (now : Nat) :
    Covered origin ((first main origin).after now) := by
  induction now with
  | zero => exact .first hempty hroute main
  | succ now ih =>
      rw [after_succ]
      exact ih.next ((Accords.first main origin).after now)

end Moment

/-- At every moment, inside or outside a navigation, the current route is a path that a registered
template accepts, unless there is none yet, and so is the path of every address that the router
has pushed. -/
theorem only_covered_paths_reach_the_site {configuration : Configuration} {host : Host}
    {client : σ} {site : Site σ} (hcreate : Site.create configuration host client = .ok site)
    (main : Program σ) :
    let moment := (Moment.first main site).after
    (∀ now,
      let router := (moment now).site.router
      (router.currentRoute = "" ∨ router.registry.Covers router.currentRoute) ∧
      ∃ pushed : List String, (moment now).site.host.history.toList =
          host.history.toList ++ pushed.map router.addressFor ∧
        ∀ path ∈ pushed, router.registry.Covers path) ∧
    ∀ {depth outcome site'},
      Run.Yields (Run.program (Run.navigateTo depth) main) site outcome site' →
        ∃ last trips, moment last = ⟨.program (.finish outcome) trips, [], site'⟩ := by
  intro moment
  obtain ⟨-, hempty, hroute, hhost, -⟩ := Site.create_eq_ok hcreate
  refine ⟨fun now => ?_, fun hrun => ?_⟩
  · have hcovered := Moment.covered_after hempty hroute main now
    have hbase := ((Moment.Accords.first main site).after now).baseUrl
    have haddress : site.router.addressFor = (moment now).site.router.addressFor := by
      funext path
      rw [Router.addressFor, Router.addressFor, hbase]
    refine ⟨hcovered.currentRoute, ?_⟩
    rw [← haddress, ← hhost]
    exact hcovered.pushed
  · obtain ⟨trips, last, hlast⟩ := Run.reaches_of_yields _ main hrun
    exact ⟨last, trips, hlast⟩

/-- `a` is under way while `b` fails and `c` is visited; `d` is registered nowhere. -/
theorem only_covered_paths_reach_the_site_wander :
    Site.create ⟨some "app", .abort⟩ ⟨"app/", "app", none, #[]⟩ () = .ok (newSite .abort) ∧
      ∃ site', Run.Yields (Run.program (Run.navigateTo 2) Run.wander) (newSite .abort) (.ok ())
          site' ∧
        site'.router.currentRoute = "c" ∧ site'.router.registry.Covers "c" ∧
        ∃ pushed : List String, pushed.map site'.router.addressFor = ["app/c", "app/a"] ∧
          ∀ path ∈ pushed, site'.router.registry.Covers path := by
  have hcreate := create_newSite .abort
  obtain ⟨site', hyields, hroute, hhistory⟩ := Run.yields_wander
  obtain ⟨hmoments, hends⟩ := only_covered_paths_reach_the_site hcreate Run.wander
  obtain ⟨last, trips, hlast⟩ := hends hyields
  obtain ⟨hcurrent, hpushed⟩ := hmoments last
  rw [hlast] at hcurrent hpushed
  simp only [hroute] at hcurrent
  obtain ⟨pushed, hpushed, hcovers⟩ := hpushed
  exact ⟨hcreate, site', hyields, hroute, hcurrent.resolve_left (by decide), pushed,
    hpushed.symm.trans hhistory, hcovers⟩

end Wayfinding
