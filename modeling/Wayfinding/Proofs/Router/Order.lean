import Wayfinding.Proofs.Router.Registrations

/-!
Navigations in two orders. A navigation changes the route when it finds its first match and
the history when it ends, so the route follows the order in which navigations start and the
history the order in which they end. One walk over all navigations, ended or under way, gives
both orders: what it says of a navigation stands either before or after what it says of the
navigations that its listeners started. A step takes the walk a little further, and the site
goes along.
-/

namespace Wayfinding

variable {σ β : Type}

mutual

/-- What there is to say of a navigation when it starts and when it ends, with what there is
to say of the nested ones in between. -/
def Trip.walk (enter leave : Nat → Dispatch σ → List β) : Trip σ → List β
  | ⟨number, d, nested⟩ => enter number d ++ Trip.walkAll enter leave nested ++ leave number d

def Trip.walkAll (enter leave : Nat → Dispatch σ → List β) : List (Trip σ) → List β
  | [] => []
  | trip :: rest => trip.walk enter leave ++ Trip.walkAll enter leave rest

end

section

variable (enter leave : Nat → Dispatch σ → List β)

theorem Trip.walkAll_append (trips later : List (Trip σ)) :
    Trip.walkAll enter leave (trips ++ later) =
      Trip.walkAll enter leave trips ++ Trip.walkAll enter leave later := by
  induction trips with
  | nil => rfl
  | cons trip trips ih => rw [List.cons_append, walkAll, walkAll, ih, List.append_assoc]

theorem Trip.walkAll_concat (trips : List (Trip σ)) (trip : Trip σ) :
    Trip.walkAll enter leave (trips ++ [trip]) =
      Trip.walkAll enter leave trips ++ trip.walk enter leave := by
  rw [walkAll_append, walkAll, walkAll, List.append_nil]

/-- The navigation with the round under way counted in. -/
def Voyage.during (v : Voyage σ) (turn : Turn σ) : Voyage σ :=
  { v with rounds := v.rounds ++ [⟨turn.event.template, turn.calls⟩] }

def Voyage.walk (v : Voyage σ) : List β :=
  Trip.walkAll enter leave v.earlier ++ enter v.number v.dispatch ++
    Trip.walkAll enter leave v.nested

def Pause.walkAll : List (Pause σ) → List β
  | [] => []
  | pause :: waiting =>
    Pause.walkAll waiting ++ (pause.voyage.during pause.turn).walk enter leave

def Work.walk : Work σ → List β
  | .program _ trips => Trip.walkAll enter leave trips
  | .voyage v => v.walk enter leave
  | .turn v now => (v.during now).walk enter leave

def Moment.walk (m : Moment σ) : List β :=
  Pause.walkAll enter leave m.waiting ++ m.work.walk enter leave

end

/-- A navigation as it started, and whether it has found a match. -/
structure Departure where
  number : Nat
  path : String
  isMatched : Bool
  deriving DecidableEq

def Dispatch.departure (number : Nat) (d : Dispatch σ) : List Departure :=
  [⟨number, d.path, !d.rounds.isEmpty⟩]

def Trip.departuresAll (trips : List (Trip σ)) : List Departure :=
  Trip.walkAll Dispatch.departure (fun _ _ => []) trips

theorem Voyage.departures_during (v : Voyage σ) (turn : Turn σ) :
    (v.during turn).walk Dispatch.departure (fun _ _ => []) =
      Trip.departuresAll v.earlier ++ ⟨v.number, v.path, true⟩ :: Trip.departuresAll v.nested := by
  simp [walk, during, dispatch, Dispatch.departure, Trip.departuresAll]

/-- The path whose address a navigation pushes. -/
def Dispatch.arrival (policy : FailurePolicy) (d : Dispatch σ) : List String :=
  if d.rounds.isEmpty || d.isAborted policy then [] else [d.path]

theorem Dispatch.arrival_of_fruitless {policy : FailurePolicy} {d : Dispatch σ}
    (hends : d.rounds = [] ∨ d.isAborted policy = true) : d.arrival policy = [] := by
  simp [arrival, hends]

theorem Dispatch.arrival_of_matched {policy : FailurePolicy} {d : Dispatch σ}
    (hrounds : d.rounds ≠ []) (hends : d.isAborted policy = false) :
    d.arrival policy = [d.path] := by
  simp [arrival, hrounds, hends]

/-- The navigation and all that are nested in it, in the order in which they started. -/
def Trip.departures (trip : Trip σ) : List Departure :=
  trip.walk Dispatch.departure fun _ _ => []

/-- The paths whose addresses the navigation and those nested in it pushed, in the order in
which they ended. -/
def Trip.arrivals (policy : FailurePolicy) (trip : Trip σ) : List String :=
  trip.walk (fun _ _ => []) fun _ d => d.arrival policy

def lastMatched? (departures : List Departure) : Option String :=
  (departures.filter (·.isMatched)).getLast?.map (·.path)

theorem lastMatched?_concat (departures : List Departure) (d : Departure) :
    lastMatched? (departures ++ [d]) =
      if d.isMatched then some d.path else lastMatched? departures := by
  cases hmatched : d.isMatched <;> simp [lastMatched?, List.filter_append, hmatched]

namespace Site

/-- The sites are the same but for the registry, the journal and the state that listeners
keep. -/
structure Abides (site site' : Site σ) : Prop where
  baseUrl : site'.router.baseUrl = site.router.baseUrl
  listenerFailure : site'.router.listenerFailure = site.router.listenerFailure
  currentRoute : site'.router.currentRoute = site.router.currentRoute
  navigations : site'.navigations = site.navigations
  host : site'.host = site.host

theorem Abides.refl (site : Site σ) : site.Abides site :=
  ⟨rfl, rfl, rfl, rfl, rfl⟩

theorem abides_noteAll (site : Site σ) (occurrence? : Option Occurrence) :
    site.Abides (site.noteAll occurrence?) := by
  cases occurrence? <;> exact ⟨rfl, rfl, rfl, rfl, rfl⟩

theorem abides_register (site : Site σ) (templates : List String) (listener : Listener σ) :
    site.Abides (site.register templates listener).2 where
  baseUrl := register_stays (·.router.baseUrl) templates listener (fun _ _ => rfl)
    (fun _ _ => rfl) site
  listenerFailure := register_stays (·.router.listenerFailure) templates listener
    (fun _ _ => rfl) (fun _ _ => rfl) site
  currentRoute := register_stays (·.router.currentRoute) templates listener (fun _ _ => rfl)
    (fun _ _ => rfl) site
  navigations := register_stays (·.navigations) templates listener (fun _ _ => rfl)
    (fun _ _ => rfl) site
  host := register_stays (·.host) templates listener (fun _ _ => rfl) (fun _ _ => rfl) site

end Site

namespace Moment

/-- All navigations so far in the order in which they started. -/
def departures (m : Moment σ) : List Departure :=
  m.walk Dispatch.departure fun _ _ => []

def arrivals (policy : FailurePolicy) (m : Moment σ) : List String :=
  m.walk (fun _ _ => []) fun _ d => d.arrival policy

/-- The path whose address is pushed next. Its navigation has nothing more to go through. -/
def arriving (m : Moment σ) : List String :=
  match m.work with
  | .voyage v => if v.ahead.isEmpty then v.dispatch.arrival m.site.router.listenerFailure else []
  | .program _ _ | .turn _ _ => []

/-- A navigation that has found no match has started no other. -/
def NestsLate (m : Moment σ) : Prop :=
  ∀ v, m.work = .voyage v → v.rounds = [] → v.nested = []

/-- What a step does to the navigations and to the site. -/
inductive Advances (policy : FailurePolicy) (m m' : Moment σ) : Prop where
  | stay (hsite : m.site.Abides m'.site) (hdepartures : m'.departures = m.departures)
      (harriving : m.arriving = []) (harrivals : m'.arrivals policy = m.arrivals policy)
  | lead (url : String) (next : Program σ) (trips : List (Trip σ))
      (hwork : m.work = .program (.setUrl url next) trips)
      (hsite : (m.site.setUrl url).Abides m'.site) (hdepartures : m'.departures = m.departures)
      (harriving : m.arriving = []) (harrivals : m'.arrivals policy = m.arrivals policy)
  | depart (path : String) (hsite : (m.site.started path).Abides m'.site)
      (hdepartures : m'.departures = m.departures ++ [⟨m.site.navigations, path, false⟩])
      (harriving : m.arriving = []) (harrivals : m'.arrivals policy = m.arrivals policy)
  | find (early : List Departure) (number : Nat) (path : String)
      (hsite : (m.site.setCurrentRoute path).Abides m'.site)
      (hbefore : m.departures = early ++ [⟨number, path, false⟩])
      (hdepartures : m'.departures = early ++ [⟨number, path, true⟩])
      (harriving : m.arriving = []) (harrivals : m'.arrivals policy = m.arrivals policy)
  | arrive (path : String)
      (hsite : (m.site.pushAddress (m.site.router.addressFor path)).Abides m'.site)
      (hdepartures : m'.departures = m.departures) (harriving : m.arriving = [path])
      (harrivals : m'.arrivals policy = m.arrivals policy ++ [path])

theorem advances_start (policy : FailurePolicy) (site : Site σ) (path : String)
    (program : Program σ) (resume : Except DispatchError Navigation → Program σ)
    (trips : List (Trip σ)) (waiting : List (Pause σ)) :
    Advances policy ⟨.program program trips, waiting, site⟩
      (start site path resume trips waiting) := by
  refine .depart path (.refl _) ?_ rfl ?_
  · simp [departures, walk, start, Work.walk, Voyage.walk, Trip.walkAll, Dispatch.departure,
      Voyage.dispatch]
  · simp [arrivals, walk, start, Work.walk, Voyage.walk, Trip.walkAll]

theorem advances_returned (policy : FailurePolicy) (pause : Pause σ)
    (outcome : Except String Unit) (trips : List (Trip σ)) (waiting : List (Pause σ))
    (site : Site σ) :
    Advances policy ⟨.program (.finish outcome) trips, pause :: waiting, site⟩
      (returned pause outcome trips waiting site) := by
  refine .stay (site.abides_noteAll _) ?_ rfl ?_
  · simp [departures, walk, returned, Work.walk, Pause.walkAll, Voyage.departures_during,
      Trip.departuresAll, Trip.walkAll_append]
  · simp [arrivals, walk, returned, Work.walk, Voyage.walk, Pause.walkAll, Voyage.during,
      Trip.walkAll_append]

theorem advances_afterProgram (policy : FailurePolicy) (program : Program σ)
    (trips : List (Trip σ)) (waiting : List (Pause σ)) (site : Site σ) :
    Advances policy ⟨.program program trips, waiting, site⟩
      (afterProgram trips waiting site program) := by
  cases program with
  | finish outcome =>
      cases waiting with
      | nil => exact .stay (.refl _) rfl rfl rfl
      | cons pause waiting => exact advances_returned policy pause outcome trips waiting site
  | view next | «recall» next => exact .stay (.refl _) rfl rfl rfl
  | remember state next | print line next | clear next =>
      exact .stay ⟨rfl, rfl, rfl, rfl, rfl⟩ rfl rfl rfl
  | setUrl url next => exact .lead url next trips rfl (.refl _) rfl rfl rfl
  | register templates listener next =>
      exact .stay (site.abides_register templates listener) rfl rfl rfl
  | navigateTo path next => exact advances_start policy site path _ next trips waiting
  | navigate next =>
      simp only [afterProgram]
      cases site.router.pathOf? site.host.url with
      | none => exact .stay ⟨rfl, rfl, rfl, rfl, rfl⟩ rfl rfl rfl
      | some path => exact advances_start policy site path _ _ trips waiting

theorem advances_afterTurn (policy : FailurePolicy) (v : Voyage σ) (turn : Turn σ)
    (waiting : List (Pause σ)) (site : Site σ) :
    Advances policy ⟨.turn v turn, waiting, site⟩ (afterTurn v turn waiting site) := by
  simp only [afterTurn]
  cases turn.rest with
  | nil =>
      refine .stay (.refl _) ?_ rfl rfl
      rfl
  | cons listener rest =>
      refine .stay (.refl _) ?_ rfl ?_
      · simp [departures, walk, Work.walk, Pause.walkAll, Voyage.departures_during, Trip.walkAll]
      · simp [arrivals, walk, Work.walk, Pause.walkAll, Voyage.walk, Voyage.during, Trip.walkAll]

theorem walk_finish (enter leave : Nat → Dispatch σ → List β) (v : Voyage σ)
    (address : Option String) (waiting : List (Pause σ)) (site site' : Site σ) :
    walk enter leave ⟨v.finish address, waiting, site'⟩ =
      walk enter leave ⟨.voyage v, waiting, site⟩ ++ leave v.number v.dispatch := by
  simp [walk, Work.walk, Voyage.walk, Voyage.finish, Voyage.trip, Trip.walkAll_concat, Trip.walk]

theorem advances_of_accepts (policy : FailurePolicy) {v : Voyage σ}
    {entry : Registration (Listener σ)} {ahead : List (Registration (Listener σ))}
    (hahead : v.ahead = entry :: ahead) (hnested : v.rounds = [] → v.nested = [])
    (waiting : List (Pause σ)) (site : Site σ) :
    Advances policy ⟨.voyage v, waiting, site⟩
      ⟨.turn { v with ahead := ahead } ⟨⟨entry.route, v.path⟩, [], entry.listeners.toList⟩,
        waiting, site.matched v entry.route.template⟩ := by
  have harriving : arriving ⟨.voyage v, waiting, site⟩ = [] := by simp [arriving, hahead]
  cases hrounds : v.rounds with
  | nil =>
      -- nothing is nested in it yet, so it is the one that started last
      have hsite : (site.setCurrentRoute v.path).Abides (site.matched v entry.route.template) := by
        simp only [Site.matched, hrounds]
        exact ⟨rfl, rfl, rfl, rfl, rfl⟩
      refine .find (Pause.walkAll Dispatch.departure (fun _ _ => []) waiting ++
        Trip.departuresAll v.earlier) v.number v.path hsite ?_ ?_ harriving rfl
      · simp [departures, walk, Work.walk, Voyage.walk, Trip.walkAll, Trip.departuresAll,
          Dispatch.departure, Voyage.dispatch, hrounds, hnested hrounds]
      · simp [departures, walk, Work.walk, Voyage.departures_during, Trip.walkAll,
          Trip.departuresAll, hnested hrounds]
  | cons round rounds =>
      have hsite : site.Abides (site.matched v entry.route.template) := by
        simp only [Site.matched, hrounds]
        exact ⟨rfl, rfl, rfl, rfl, rfl⟩
      refine .stay hsite ?_ harriving rfl
      simp [departures, walk, Work.walk, Voyage.walk, Voyage.during, Dispatch.departure,
        Voyage.dispatch, hrounds]

theorem advances_voyage {policy : FailurePolicy} {v : Voyage σ} {site : Site σ}
    (hpolicy : site.router.listenerFailure = policy) (hnested : v.rounds = [] → v.nested = [])
    (waiting : List (Pause σ)) :
    Advances policy ⟨.voyage v, waiting, site⟩ (next ⟨.voyage v, waiting, site⟩) := by
  cases hahead : v.ahead with
  | nil =>
      have harriving : arriving ⟨.voyage v, waiting, site⟩ = v.dispatch.arrival policy := by
        simp [arriving, hahead, hpolicy]
      by_cases hends : v.rounds = [] ∨ v.dispatch.isAborted policy = true
      · have harrival : v.dispatch.arrival policy = [] :=
          Dispatch.arrival_of_fruitless hends
        rw [next_of_fruitless hahead waiting (hpolicy ▸ hends)]
        refine .stay (.refl _) ?_ (harriving.trans harrival) ?_
        · rw [departures, walk_finish, List.append_nil, departures]
        · rw [arrivals, walk_finish, harrival, List.append_nil, arrivals]
      · obtain ⟨hrounds, haborted⟩ := not_or.mp hends
        have haborted : v.dispatch.isAborted policy = false := Bool.eq_false_iff.mpr haborted
        have harrival : v.dispatch.arrival policy = [v.path] :=
          Dispatch.arrival_of_matched hrounds haborted
        rw [next_of_arrival hahead waiting hrounds (hpolicy ▸ haborted)]
        refine .arrive v.path ⟨rfl, rfl, rfl, rfl, rfl⟩ ?_ (harriving.trans harrival) ?_
        · rw [departures, walk_finish, List.append_nil, departures]
        · rw [arrivals, walk_finish, harrival, arrivals]
  | cons entry ahead =>
      cases haccepts : entry.route.accepts v.path with
      | true =>
          rw [next_of_accepts hahead haccepts]
          exact advances_of_accepts policy hahead hnested waiting site
      | false =>
          rw [next_of_not_accepts hahead haccepts]
          exact .stay (site.abides_noteAll _) rfl (by simp [arriving, hahead]) rfl

theorem advances_next {policy : FailurePolicy} {m : Moment σ}
    (hpolicy : m.site.router.listenerFailure = policy) (hlate : m.NestsLate) :
    Advances policy m m.next := by
  obtain ⟨work, waiting, site⟩ := m
  cases work with
  | program program trips => exact advances_afterProgram policy program trips waiting site
  | voyage v => exact advances_voyage hpolicy (hlate v rfl) waiting
  | turn v turn => exact advances_afterTurn policy v turn waiting site

theorem nestsLate_start (site : Site σ) (path : String)
    (resume : Except DispatchError Navigation → Program σ) (trips : List (Trip σ))
    (waiting : List (Pause σ)) : (start site path resume trips waiting).NestsLate := by
  rintro v hwork -
  cases hwork
  rfl

theorem nestsLate_afterProgram (program : Program σ) (trips : List (Trip σ))
    (waiting : List (Pause σ)) (site : Site σ) :
    (afterProgram trips waiting site program).NestsLate := by
  cases program with
  | finish outcome =>
      cases waiting with
      | nil | cons pause waiting => exact fun v hwork => by cases hwork
  | navigateTo path next => exact nestsLate_start site path next trips waiting
  | navigate next =>
      simp only [afterProgram]
      cases site.router.pathOf? site.host.url with
      | none => exact fun v hwork => by cases hwork
      | some path => exact nestsLate_start site path _ trips waiting
  | _ => exact fun v hwork => by cases hwork

theorem NestsLate.next {m : Moment σ} (h : m.NestsLate) : m.next.NestsLate := by
  obtain ⟨work, waiting, site⟩ := m
  cases work with
  | program program trips => exact nestsLate_afterProgram program trips waiting site
  | voyage v =>
      simp only [Moment.next, afterVoyage]
      split
      · split <;> exact fun now hwork => by cases hwork
      · split
        · exact fun now hwork => by cases hwork
        · rintro now hwork hrounds
          cases hwork
          exact h v rfl hrounds
  | turn v turn =>
      simp only [Moment.next, afterTurn]
      split
      · rintro now hwork hrounds
        cases hwork
        exact absurd hrounds (List.concat_ne_nil _ _)
      · exact fun now hwork => by cases hwork

/-- The site is what the navigations since the first site have made of it. -/
structure Accords (origin : Site σ) (m : Moment σ) : Prop where
  nestsLate : m.NestsLate
  baseUrl : m.site.router.baseUrl = origin.router.baseUrl
  listenerFailure : m.site.router.listenerFailure = origin.router.listenerFailure
  navigations : m.site.navigations = origin.navigations + m.departures.length
  numbers : m.departures.map (·.number) =
    List.range' origin.navigations m.departures.length
  currentRoute : m.site.router.currentRoute =
    (lastMatched? m.departures).getD origin.router.currentRoute
  history : m.site.host.history.toList = origin.host.history.toList ++
    (m.arrivals origin.router.listenerFailure).map origin.router.addressFor

namespace Accords

variable {origin : Site σ} {m : Moment σ}

theorem first (main : Program σ) (origin : Site σ) : Accords origin (first main origin) where
  nestsLate v hwork := by cases hwork
  baseUrl := rfl
  listenerFailure := rfl
  navigations := rfl
  numbers := rfl
  currentRoute := rfl
  history := by simp [arrivals, walk, Moment.first, Work.walk, Pause.walkAll, Trip.walkAll]

theorem next (h : Accords origin m) : Accords origin m.next := by
  have haddress : m.site.router.addressFor = origin.router.addressFor := by
    funext path
    rw [Router.addressFor, Router.addressFor, h.baseUrl]
  cases advances_next h.listenerFailure h.nestsLate with
  | stay hsite hdepartures harriving harrivals
  | lead url next trips hwork hsite hdepartures harriving harrivals =>
      refine ⟨h.nestsLate.next, hsite.baseUrl.trans h.baseUrl,
        hsite.listenerFailure.trans h.listenerFailure, ?_, ?_, ?_, ?_⟩
      · rw [hdepartures, ← h.navigations]
        exact hsite.navigations
      · rw [hdepartures, h.numbers]
      · rw [hdepartures, ← h.currentRoute]
        exact hsite.currentRoute
      · rw [harrivals, ← h.history]
        exact congrArg (·.history.toList) hsite.host
  | depart path hsite hdepartures harriving harrivals =>
      refine ⟨h.nestsLate.next, hsite.baseUrl.trans h.baseUrl,
        hsite.listenerFailure.trans h.listenerFailure, ?_, ?_, ?_, ?_⟩
      · rw [hdepartures, List.length_append, ← Nat.add_assoc, ← h.navigations]
        exact hsite.navigations
      · rw [hdepartures, List.map_append, h.numbers, h.navigations]
        simp [List.range'_concat]
      · rw [hdepartures, lastMatched?_concat, if_neg Bool.false_ne_true, ← h.currentRoute]
        exact hsite.currentRoute
      · rw [harrivals, ← h.history]
        exact congrArg (·.history.toList) hsite.host
  | find early number path hsite hbefore hdepartures harriving harrivals =>
      have hnumbers : m.next.departures.map (·.number) = m.departures.map (·.number) := by
        rw [hdepartures, hbefore, List.map_append, List.map_append]
        rfl
      have hlength : m.next.departures.length = m.departures.length := by
        rw [hdepartures, hbefore, List.length_append, List.length_append]
        rfl
      refine ⟨h.nestsLate.next, hsite.baseUrl.trans h.baseUrl,
        hsite.listenerFailure.trans h.listenerFailure, ?_, ?_, ?_, ?_⟩
      · rw [hlength, ← h.navigations]
        exact hsite.navigations
      · rw [hnumbers, hlength, h.numbers]
      · rw [hdepartures, lastMatched?_concat, if_pos rfl, Option.getD_some]
        exact hsite.currentRoute
      · rw [harrivals, ← h.history]
        exact congrArg (·.history.toList) hsite.host
  | arrive path hsite hdepartures harriving harrivals =>
      refine ⟨h.nestsLate.next, hsite.baseUrl.trans h.baseUrl,
        hsite.listenerFailure.trans h.listenerFailure, ?_, ?_, ?_, ?_⟩
      · rw [hdepartures, ← h.navigations]
        exact hsite.navigations
      · rw [hdepartures, h.numbers]
      · rw [hdepartures, ← h.currentRoute]
        exact hsite.currentRoute
      · rw [harrivals, List.map_append, ← List.append_assoc, ← h.history, hsite.host, haddress]
        exact Array.toList_push

theorem after (h : Accords origin m) (steps : Nat) : Accords origin (m.after steps) := by
  induction steps with
  | zero => exact h
  | succ steps ih =>
      rw [after_succ]
      exact ih.next

/-- The addresses pushed by a step are those of the navigations that end with it. -/
theorem history_next (h : Accords origin m) :
    m.next.site.host.history.toList =
      m.site.host.history.toList ++ m.arriving.map origin.router.addressFor := by
  have harrivals : m.next.arrivals origin.router.listenerFailure =
      m.arrivals origin.router.listenerFailure ++ m.arriving := by
    cases advances_next h.listenerFailure h.nestsLate with
    | arrive path hsite hdepartures harriving harrivals => rw [harrivals, harriving]
    | _ => simp_all
  rw [h.next.history, h.history, harrivals, List.map_append, List.append_assoc]

end Accords
end Moment

namespace Run

variable {site site' : Site σ} {path : String} {depth : Nat}

theorem navigateTo_in_order {result : Except DispatchError Navigation}
    (h : Yields (Run.navigateTo depth path) site result site')
    (resume : Except DispatchError Navigation → Program σ) :
    ∃ trip : Trip σ, trip.IsOf site path result ∧
      (Moment.first (.navigateTo path resume) site).Reaches
        ⟨.program (resume result) [trip], [], site'⟩ ∧
      site'.host.history.toList = site.host.history.toList ++
        (trip.arrivals site.router.listenerFailure).map site.router.addressFor ∧
      site'.router.currentRoute =
        (lastMatched? trip.departures).getD site.router.currentRoute := by
  obtain ⟨trip, hof, hreaches⟩ := stepwise_navigateTo depth h resume [] []
  have hreaches : (Moment.first (.navigateTo path resume) site).Reaches
      ⟨.program (resume result) [trip], [], site'⟩ := .head hreaches
  obtain ⟨steps, hlast⟩ := hreaches
  have haccords := (Moment.Accords.first (.navigateTo path resume) site).after steps
  rw [hlast] at haccords
  have hwalk : ∀ {β : Type} (enter leave : Nat → Dispatch σ → List β),
      Moment.walk enter leave ⟨.program (resume result) [trip], [], site'⟩ =
        trip.walk enter leave := fun enter leave => Trip.walkAll_concat enter leave [] trip
  refine ⟨trip, hof, ⟨steps, hlast⟩, ?_, ?_⟩
  · rw [haccords.history, Moment.arrivals, hwalk, Trip.arrivals]
  · rw [haccords.currentRoute, Moment.departures, hwalk, Trip.departures]

/-- However navigations nest and fail, the route is at every moment that of the last one
started among those with a match, and an address is pushed when a navigation with a match ends
in full, after those nested in it. -/
theorem route_follows_starts_and_history_follows_ends {configuration : Configuration}
    {host : Host} {client : σ} {main : Program σ} {outcome : Except String Unit}
    (hcreate : Site.create configuration host client = .ok site)
    (hrun : Yields (program (Run.navigateTo depth) main) site outcome site') :
    let policy := configuration.listenerFailure
    let address := site.router.addressFor
    let moment := (Moment.first main site).after
    (∃ last trips, moment last = ⟨.program (.finish outcome) trips, [], site'⟩) ∧
    (∀ now,
      (moment now).departures.map (·.number) = List.range (moment now).departures.length ∧
      (moment now).site.router.currentRoute =
        (lastMatched? (moment now).departures).getD "" ∧
      (moment now).site.host.history.toList =
        host.history.toList ++ ((moment now).arrivals policy).map address ∧
      (moment (now + 1)).site.host.history.toList =
        (moment now).site.host.history.toList ++ (moment now).arriving.map address) ∧
    ∀ {depth path} {before after : Site σ} {result : Except DispatchError Navigation}
      (resume : Except DispatchError Navigation → Program σ),
      Yields (Run.navigateTo depth path) before result after →
      ∃ trip : Trip σ, trip.IsOf before path result ∧
        (Moment.first (.navigateTo path resume) before).Reaches
          ⟨.program (resume result) [trip], [], after⟩ ∧
        after.host.history.toList = before.host.history.toList ++
          (trip.arrivals before.router.listenerFailure).map before.router.addressFor ∧
        after.router.currentRoute =
          (lastMatched? trip.departures).getD before.router.currentRoute := by
  intro policy address moment
  obtain ⟨hpolicy, -, hroute, hhost, hnavigations⟩ := Site.create_eq_ok hcreate
  obtain ⟨trips, last, hlast⟩ := reaches_of_yields depth main hrun
  refine ⟨⟨last, trips, hlast⟩, fun now => ?_, fun resume h => navigateTo_in_order h resume⟩
  have haccords := (Moment.Accords.first main site).after now
  refine ⟨?_, ?_, ?_, ?_⟩
  · rw [List.range_eq_range', ← hnavigations]
    exact haccords.numbers
  · rw [← hroute]
    exact haccords.currentRoute
  · have hhistory := haccords.history
    rwa [hpolicy, hhost] at hhistory
  · have hnext : moment (now + 1) = (moment now).next := Moment.after_succ _ now
    rw [hnext]
    exact haccords.history_next

/-- A navigation to `a` whose listener goes to `b`, which fails, and then to `c`. -/
def wander : Program Unit :=
  .register ["a"] (fun _ => .navigateTo "b" fun _ => .navigateTo "c" fun _ => .finish (.ok ()))
    fun _ => .register ["b"] (fun _ => .finish (.error "closed"))
    fun _ => .register ["c"] (fun _ => .finish (.ok ()))
    fun _ => .navigateTo "a" fun _ => .navigateTo "d" fun _ => .finish (.ok ())

theorem yields_wander :
    ∃ site', Yields (program (Run.navigateTo 2) wander) (newSite .abort) (.ok ()) site' ∧
      site'.router.currentRoute = "c" ∧ site'.host.history.toList = ["app/c", "app/a"] := by
  let site := (((newSite .abort).withEntry (plainRoute "a")
    (fun _ => .navigateTo "b" fun _ => .navigateTo "c" fun _ => .finish (.ok ()))).withEntry
    (plainRoute "b") (fun _ => .finish (.error "closed"))).withEntry (plainRoute "c")
    (fun _ => .finish (.ok ()))
  have hrun : ((program (Run.navigateTo 2)
      (.navigateTo "a" fun _ => .navigateTo "d" fun _ => .finish (.ok ()))).run site).map
        (fun done => (done.1.isOk, done.2.router.currentRoute, done.2.host.history.toList)) =
          some (true, "c", ["app/c", "app/a"]) := by decide +kernel
  obtain ⟨site', hyields, hdone⟩ :=
    exists_yields_ok (f := fun site => (site.router.currentRoute, site.host.history.toList)) hrun
  refine ⟨site', ?_, Prod.mk.inj hdone⟩
  refine yields_register_of_none (plainRoute "a") (by decide +kernel) ?_
    (yields_register_of_none (plainRoute "b") (by decide +kernel) ?_
      (yields_register_of_none (plainRoute "c") (by decide +kernel) ?_ hyields))
  · exact Std.HashMap.getElem?_empty
  · rw [Site.index_withEntry, if_neg (by decide)]
    exact Std.HashMap.getElem?_empty
  · rw [Site.index_withEntry, if_neg (by decide), Site.index_withEntry, if_neg (by decide)]
    exact Std.HashMap.getElem?_empty

/-- The route stays at `c` although `a` ends after it, and `b` and `d` leave no address. -/
theorem route_follows_starts_and_history_follows_ends_wander :
    Site.create ⟨some "app", .abort⟩ ⟨"app/", "app", none, #[]⟩ () = .ok (newSite .abort) ∧
      ∃ site', Yields (program (Run.navigateTo 2) wander) (newSite .abort) (.ok ()) site' ∧
        ∃ last : Moment Unit, last.site = site' ∧ last.waiting = [] ∧
          last.departures.map (·.number) = List.range last.departures.length ∧
          lastMatched? last.departures = some "c" ∧
          (last.arrivals .abort).map (newSite .abort).router.addressFor = ["app/c", "app/a"] := by
  have hcreate := create_newSite .abort
  obtain ⟨site', hyields, hroute, hhistory⟩ := yields_wander
  obtain ⟨⟨last, trips, hlast⟩, hmoments, -⟩ :=
    route_follows_starts_and_history_follows_ends hcreate hyields
  obtain ⟨hnumbers, hcurrent, hpushed, -⟩ := hmoments last
  rw [hlast] at hnumbers hcurrent hpushed
  refine ⟨hcreate, site', hyields, _, rfl, rfl, hnumbers, ?_, hpushed.symm.trans hhistory⟩
  have hlast : (lastMatched? (Moment.departures ⟨_, [], site'⟩)).getD "" = "c" :=
    hcurrent.symm.trans hroute
  cases hmatched : lastMatched? (Moment.departures ⟨_, [], site'⟩) with
  | none => simp [hmatched] at hlast
  | some path => simpa [hmatched] using hlast

end Run
end Wayfinding
