import Wayfinding.Command.Report
import Wayfinding.Proofs.Route.Access
import Wayfinding.Proofs.Router.Coverage

/-!
What listeners are told. A listener is called in the turn of a registration whose route accepts
the path, and it is told that route and that path, whatever has happened since the turn began.
So an event always has a value for every segment of its route, and the values that stand in for
those of a path that does not match are never seen.
-/

namespace Wayfinding

variable {σ : Type}

/-- A template's route together with a path that it matches. -/
structure Event.IsMatch (event : Event) : Prop where
  compile_eq : Route.compile event.template = .ok event.route
  accepts : event.route.accepts event.path

/-- The values of an event are those of its path, one for every segment of its route. -/
structure Event.IsFull (event : Event) : Prop where
  accepts : event.route.accepts event.path
  values_eq : event.route.values event.path = some event.values
  covers : ∀ segment ∈ event.route.segments, ∃ v, event.value segment.name = some v ∧
    (segment.name, v) ∈ event.values

theorem Event.IsMatch.isFull {event : Event} (h : event.IsMatch) : event.IsFull := by
  obtain ⟨hsome, hnames, -, hmem⟩ := Route.valuesAgree h.compile_eq event.path
  obtain ⟨values, hvalues⟩ := Option.isSome_iff_exists.mp (hsome.mpr h.accepts)
  have hevent : event.values = values := by rw [Event.values, hvalues, Option.getD_some]
  refine ⟨h.accepts, by rw [hevent, hvalues], fun segment hsegment => ?_⟩
  have hname : segment.name ∈ values.map (·.1) := by
    rw [hnames values hvalues]
    exact List.mem_map_of_mem hsegment
  obtain ⟨⟨name, v⟩, hpair, rfl⟩ := List.mem_map.mp hname
  exact ⟨v, (hmem values hvalues _ v).mp hpair, hevent ▸ hpair⟩

theorem Route.report_eq (route : Route) (path : String) :
    ∃ values, route.report path = .object [("matches", .boolean (route.accepts path)),
      ("path", .text path), ("values", values)] ∧ (route.accepts path ↔ values ≠ .null) := by
  refine ⟨_, rfl, ?_⟩
  rw [← isSome_values_iff]
  cases route.values path <;> simp [Json.Value.ofOption, valuesToJson]

/-- The event of the turn at work. -/
def Work.event? : Work σ → Option Event
  | .turn _ now => some now.event
  | .program _ _ | .voyage _ => none

namespace Moment

variable {m m' : Moment σ} {r : Registry (Listener σ)}

/-- What a step has to do with listeners. -/
inductive Engages (m m' : Moment σ) : Prop where
  | nothing (hevent : m'.work.event? = none) (hwaiting : m'.waiting = m.waiting)
  | turns (v : Voyage σ) (entry : Registration (Listener σ)) (hwork : m.work = .voyage v)
      (hentry : entry ∈ v.ahead) (haccepts : entry.route.accepts v.path)
      (hevent : m'.work.event? = some ⟨entry.route, v.path⟩) (hwaiting : m'.waiting = m.waiting)
  | calls (pause : Pause σ) (hevent : m.work.event? = some pause.turn.event)
      (hwork : m'.work = .program (pause.listener pause.turn.event) [])
      (hwaiting : m'.waiting = pause :: m.waiting)
  | answers (pause : Pause σ) (hevent : m'.work.event? = some pause.turn.event)
      (hwaiting : m.waiting = pause :: m'.waiting)

theorem engages_afterProgram (program : Program σ) (trips : List (Trip σ))
    (waiting : List (Pause σ)) (site : Site σ) :
    Engages ⟨.program program trips, waiting, site⟩ (afterProgram trips waiting site program) := by
  cases program with
  | finish outcome =>
      cases waiting with
      | nil => exact .nothing rfl rfl
      | cons pause waiting => exact .answers pause rfl rfl
  | navigate next =>
      simp only [afterProgram]
      cases site.router.pathOf? site.host.url <;> exact .nothing rfl rfl
  | _ => exact .nothing rfl rfl

theorem engages_next_voyage (v : Voyage σ) (waiting : List (Pause σ)) (site : Site σ) :
    Engages ⟨.voyage v, waiting, site⟩ (next ⟨.voyage v, waiting, site⟩) := by
  cases hahead : v.ahead with
  | nil =>
      obtain ⟨address, site', hnext, -⟩ := next_of_ahead_eq_nil hahead waiting site
      rw [hnext]
      exact .nothing rfl rfl
  | cons entry ahead =>
      cases haccepts : entry.route.accepts v.path with
      | true =>
          rw [next_of_accepts hahead haccepts]
          exact .turns v entry rfl (hahead ▸ List.mem_cons_self) haccepts rfl rfl
      | false =>
          rw [next_of_not_accepts hahead haccepts]
          exact .nothing rfl rfl

theorem engages_next (m : Moment σ) : Engages m m.next := by
  obtain ⟨work, waiting, site⟩ := m
  cases work with
  | program program trips => exact engages_afterProgram program trips waiting site
  | voyage v => exact engages_next_voyage v waiting site
  | turn v turn =>
      simp only [next, afterTurn]
      cases turn.rest with
      | nil => exact .nothing rfl rfl
      | cons listener rest => exact .calls _ rfl rfl rfl

/-- Who waits anew is told something at once. -/
theorem work_next_of_waiting {pause : Pause σ} (h : m.next.waiting = pause :: m.waiting) :
    m.next.work = .program (pause.listener pause.turn.event) [] := by
  have hlength := congrArg List.length h
  cases engages_next m with
  | nothing _ hwaiting | turns _ _ _ _ _ _ hwaiting =>
      rw [hwaiting] at hlength
      simp at hlength
  | answers _ _ hwaiting =>
      rw [hwaiting] at hlength
      simp at hlength
      omega
  | calls found hevent hwork hwaiting =>
      obtain ⟨rfl, -⟩ := List.cons_eq_cons.mp (hwaiting.symm.trans h)
      exact hwork

/-- What is being told, or has been told to a listener at work, is a match. -/
structure TellsMatches (m : Moment σ) : Prop where
  work : ∀ event ∈ m.work.event?, event.IsMatch
  waiting : ∀ pause ∈ m.waiting, pause.turn.event.IsMatch

theorem TellsMatches.next (h : m.TellsMatches) (hguided : m.IsGuided r) :
    m.next.TellsMatches := by
  cases engages_next m with
  | nothing hevent hwaiting => exact ⟨by simp [hevent], hwaiting ▸ h.waiting⟩
  | turns v entry hwork hentry haccepts hevent hwaiting =>
      have hguide := hguided.work
      rw [hwork] at hguide
      have hmatch : Event.IsMatch ⟨entry.route, v.path⟩ :=
        ⟨(hguide.1 entry hentry).compile_eq, haccepts⟩
      exact ⟨by simpa [hevent] using hmatch, hwaiting ▸ h.waiting⟩
  | calls pause hevent hwork hwaiting =>
      refine ⟨by simp [hwork, Work.event?], ?_⟩
      rw [hwaiting]
      exact List.forall_mem_cons.mpr ⟨h.work _ hevent, h.waiting⟩
  | answers pause hevent hwaiting =>
      obtain ⟨hpause, hrest⟩ := List.forall_mem_cons.mp (hwaiting ▸ h.waiting)
      exact ⟨by simpa [hevent] using hpause, hrest⟩

theorem tellsMatches_after {origin : Site σ} (hempty : origin.router.registry = .empty)
    (hroute : origin.router.currentRoute = "") (main : Program σ) (now : Nat) :
    ((first main origin).after now).TellsMatches := by
  induction now with
  | zero => exact ⟨by simp [Moment.first, after, Work.event?], List.forall_mem_nil _⟩
  | succ now ih =>
      rw [after_succ]
      exact ih.next (covered_after hempty hroute main now).guided

end Moment

/-- The accessors of a route agree on every path, and a report says of a path that it matches
just when it has values. Every listener that is called is told a match with all its values. -/
theorem accessors_agree_on_paths_and_events :
    (∀ {template : String} {route : Route}, Route.compile template = .ok route → ∀ path,
      (∀ name, route.AccessorsAgree path name) ∧ route.ValuesAgree path ∧
      ∃ values, route.report path = .object [("matches", .boolean (route.accepts path)),
        ("path", .text path), ("values", values)] ∧ (route.accepts path ↔ values ≠ .null)) ∧
    ∀ {configuration : Configuration} {host : Host} {client : σ} {site : Site σ},
      Site.create configuration host client = .ok site → ∀ main,
      let moment := (Moment.first main site).after
      (∀ now pause, (moment (now + 1)).waiting = pause :: (moment now).waiting →
        (moment (now + 1)).work = .program (pause.listener pause.turn.event) [] ∧
          pause.turn.event.IsFull) ∧
      ∀ {depth outcome site'},
        Run.Yields (Run.program (Run.navigateTo depth) main) site outcome site' →
          ∃ last trips, moment last = ⟨.program (.finish outcome) trips, [], site'⟩ := by
  refine ⟨fun hcompile path => ⟨fun name => Route.accessorsAgree hcompile path name,
    Route.valuesAgree hcompile path, Route.report_eq _ path⟩, ?_⟩
  intro configuration host client site hcreate main moment
  obtain ⟨-, hempty, hroute, -⟩ := Site.create_eq_ok hcreate
  refine ⟨fun now pause hwaiting => ?_, fun hrun => ?_⟩
  · have htells := Moment.tellsMatches_after hempty hroute main (now + 1)
    have hmatch := htells.waiting pause (hwaiting ▸ List.mem_cons_self)
    refine ⟨?_, hmatch.isFull⟩
    simp only [moment, Moment.after_succ] at hwaiting ⊢
    exact Moment.work_next_of_waiting hwaiting
  · obtain ⟨trips, last, hlast⟩ := Run.reaches_of_yields _ main hrun
    exact ⟨last, trips, hlast⟩

def userRoute : Route :=
  ⟨"user/:id:int/:name", ⟨.literal "user",
    [(.slash, .named "id" .integer), (.slash, .named "name" .text)]⟩⟩

def greet : Program Unit :=
  .register ["user/:id:int/:name"] (fun _ => .finish (.ok ())) fun _ =>
  .navigateTo "user?7&Ada" fun _ => .finish (.ok ())

/-- The fourth step calls the listener. A path whose number is no number does not match. -/
theorem accessors_agree_on_paths_and_events_greet :
    Route.compile "user/:id:int/:name" = .ok userRoute ∧
      userRoute.getInteger "user/7" "id" = some 7 ∧ userRoute.values "user/seven/Ada" = none ∧
      Site.create ⟨some "app", .abort⟩ ⟨"app/", "app", none, #[]⟩ () = .ok (newSite .abort) ∧
      let moment := (Moment.first greet (newSite .abort)).after
      ∃ pause, (moment 4).waiting = pause :: (moment 3).waiting ∧
        (moment 4).work = .program (pause.listener pause.turn.event) [] ∧
        pause.turn.event = ⟨userRoute, "user?7&Ada"⟩ ∧
        userRoute.values "user?7&Ada" = some [("id", .integer 7), ("name", .text "Ada")] := by
  have hcompile : Route.compile "user/:id:int/:name" = .ok userRoute := by rfl
  have hcreate := create_newSite .abort
  obtain ⟨hpaths, hevents⟩ := accessors_agree_on_paths_and_events (σ := Unit)
  obtain ⟨hcalls, -⟩ := hevents hcreate greet
  let site := (newSite .abort).withEntry userRoute fun _ => .finish (.ok ())
  let main : Program Unit := .navigateTo "user?7&Ada" fun _ => .finish (.ok ())
  have hafter : ∀ steps, (Moment.first greet (newSite .abort)).after (steps + 1) =
      (Moment.first main site).after steps :=
    Moment.after_register_of_none userRoute hcompile Std.HashMap.getElem?_empty _ _
  have hbefore : ((Moment.first main site).after 2).waiting.isEmpty = true := by decide +kernel
  have htold : ((Moment.first main site).after 3).waiting.map (·.turn.event) =
      [⟨userRoute, "user?7&Ada"⟩] := by decide +kernel
  rw [← hafter] at hbefore htold
  obtain ⟨pause, hwaiting, hevent⟩ := List.map_eq_singleton_iff.mp htold
  rw [← List.isEmpty_iff.mp hbefore] at hwaiting
  obtain ⟨hwork, hfull⟩ := hcalls 3 pause hwaiting
  obtain ⟨haccessors, -⟩ := hpaths hcompile "user/7"
  obtain ⟨-, hvalues, -⟩ := hpaths hcompile "user/seven/Ada"
  refine ⟨hcompile, ?_, ?_, hcreate, pause, hwaiting, hwork, hevent, ?_⟩
  · exact ((haccessors "id").getInteger_iff 7).mpr (by rfl)
  · rw [← Option.not_isSome_iff_eq_none, hvalues.isSome_iff]
    decide +kernel
  · have hvalues := hfull.values_eq
    rw [hevent] at hvalues
    exact hvalues.trans (by rfl)

end Wayfinding
