import Mathlib.Logic.Function.Iterate
import Wayfinding.Proofs.Router.Run

/-!
Runs taken step by step. A moment says what is at work, which navigations wait for one of
their listeners meanwhile, and what the site is like. Every step is a function of the moment
before, so the moments of a program are one sequence, and a run that ends passes through it up
to the moment at which the program has finished. Navigations that have ended are kept with
those that their listeners started.
-/

namespace Wayfinding

/-- A navigation that has ended, with those that its listeners started. -/
inductive Trip (σ : Type) where
  | mk (number : Nat) (dispatch : Dispatch σ) (nested : List (Trip σ))

namespace Trip

variable {σ : Type}

def number : Trip σ → Nat
  | ⟨number, _, _⟩ => number

def dispatch : Trip σ → Dispatch σ
  | ⟨_, d, _⟩ => d

/-- The trip is the navigation from a site to a path that had the result. -/
structure IsOf (trip : Trip σ) (site : Site σ) (path : String)
    (result : Except DispatchError Navigation) : Prop where
  number_eq : trip.number = site.navigations
  path_eq : trip.dispatch.path = path
  result_eq : ∃ address, result = trip.dispatch.result address

end Trip

structure Voyage (σ : Type) where
  number : Nat
  path : String
  /-- The registrations still to be gone through. -/
  ahead : List (Registration (Listener σ))
  rounds : List (Round σ)
  /-- The navigations that its listeners started. -/
  nested : List (Trip σ)
  /-- The navigations that the program which started it had started before. -/
  earlier : List (Trip σ)
  /-- How that program goes on. -/
  resume : Except DispatchError Navigation → Program σ

structure Turn (σ : Type) where
  event : Event
  calls : List (Call σ)
  rest : List (Listener σ)

inductive Work (σ : Type) where
  /-- A program, with the navigations that it has started. -/
  | program (program : Program σ) (trips : List (Trip σ))
  | voyage (voyage : Voyage σ)
  | turn (voyage : Voyage σ) (turn : Turn σ)

/-- A navigation whose listener is at work. -/
structure Pause (σ : Type) where
  voyage : Voyage σ
  turn : Turn σ
  listener : Listener σ

structure Moment (σ : Type) where
  work : Work σ
  /-- The innermost navigation comes first. -/
  waiting : List (Pause σ)
  site : Site σ

namespace Site

variable {σ : Type}

def noteAll (site : Site σ) : Option Occurrence → Site σ
  | some occurrence => site.note occurrence
  | none => site

theorem listenerFailure_noteAll (site : Site σ) (occurrence? : Option Occurrence) :
    (site.noteAll occurrence?).router.listenerFailure = site.router.listenerFailure := by
  cases occurrence? <;> rfl

theorem create_eq_ok {configuration : Configuration} {host : Host} {client : σ} {site : Site σ}
    (h : create configuration host client = .ok site) :
    site.router.listenerFailure = configuration.listenerFailure ∧
      site.router.registry = .empty ∧ site.router.currentRoute = "" ∧ site.host = host ∧
      site.navigations = 0 := by
  rw [create] at h
  cases hbase : resolveBaseUrl configuration host with
  | error e =>
      rw [hbase] at h
      cases h
  | ok baseUrl =>
      rw [hbase] at h
      obtain rfl := Except.ok.inj h
      exact ⟨rfl, rfl, rfl, rfl, rfl⟩

def matched (site : Site σ) (voyage : Voyage σ) (template : String) : Site σ :=
  let site := site.note (.matched template voyage.path)
  if voyage.rounds.isEmpty then
    (site.setCurrentRoute voyage.path).note (.routed voyage.number voyage.path)
  else site

def arrived (site : Site σ) (number : Nat) (d : Dispatch σ) : Site σ :=
  let address := site.router.addressFor d.path
  ((site.pushAddress address).note (.pushed number address)).note
    (.navigated d.path d.rounds.length d.calls.length)

end Site

namespace Voyage

variable {σ : Type}

def dispatch (v : Voyage σ) : Dispatch σ := ⟨v.path, v.rounds⟩

def trip (v : Voyage σ) : Trip σ := ⟨v.number, v.dispatch, v.nested⟩

/-- The program that started the navigation goes on. -/
def finish (v : Voyage σ) (address : Option String) : Work σ :=
  .program (v.resume (v.dispatch.result address)) (v.earlier ++ [v.trip])

end Voyage

namespace Moment

variable {σ : Type}

def start (site : Site σ) (path : String) (resume : Except DispatchError Navigation → Program σ)
    (earlier : List (Trip σ)) (waiting : List (Pause σ)) : Moment σ where
  work := .voyage {
    number := site.navigations
    path := path
    ahead := site.router.registry.entries.toList
    rounds := []
    nested := []
    earlier := earlier
    resume := resume }
  waiting := waiting
  site := site.started path

def returned (pause : Pause σ) (outcome : Except String Unit) (trips : List (Trip σ))
    (waiting : List (Pause σ)) (site : Site σ) : Moment σ :=
  let turn := pause.turn
  let call : Call σ := ⟨turn.event.template, turn.calls.length, pause.listener, outcome⟩
  { work := .turn { pause.voyage with nested := pause.voyage.nested ++ trips }
      { turn with
        calls := turn.calls ++ [call]
        rest := if call.isLast site.router.listenerFailure then [] else turn.rest }
    waiting := waiting
    site := site.noteAll (call.failure?.map .failed) }

def afterProgram (trips : List (Trip σ)) (waiting : List (Pause σ)) (site : Site σ) :
    Program σ → Moment σ
  | .finish outcome =>
    match waiting with
    | [] => ⟨.program (.finish outcome) trips, [], site⟩
    | pause :: waiting => returned pause outcome trips waiting site
  | .view next => ⟨.program (next site.view) trips, waiting, site⟩
  | .recall next => ⟨.program (next site.client) trips, waiting, site⟩
  | .remember state next => ⟨.program next trips, waiting, site.remember state⟩
  | .print line next => ⟨.program next trips, waiting, site.note (.printed line)⟩
  | .setUrl url next => ⟨.program next trips, waiting, site.setUrl url⟩
  | .clear next => ⟨.program next trips, waiting, site.clear⟩
  | .register templates listener next =>
    let (answer, site) := site.register templates listener
    ⟨.program (next answer) trips, waiting, site⟩
  | .navigateTo path next => start site path next trips waiting
  | .navigate next =>
    match site.router.pathOf? site.host.url with
    | some path => start site path (fun outcome => next (outcome.map some)) trips waiting
    | none => ⟨.program (next (.ok none)) trips, waiting,
        site.note (.outside site.host.url site.router.baseUrl)⟩

def afterVoyage (v : Voyage σ) (waiting : List (Pause σ)) (site : Site σ) : Moment σ :=
  match v.ahead with
  | [] =>
    if v.rounds.isEmpty || v.dispatch.isAborted site.router.listenerFailure then
      ⟨v.finish none, waiting, site⟩
    else
      ⟨v.finish (some (site.router.addressFor v.path)), waiting,
        site.arrived v.number v.dispatch⟩
  | entry :: ahead =>
    if entry.route.accepts v.path then
      ⟨.turn { v with ahead := ahead } ⟨⟨entry.route, v.path⟩, [], entry.listeners.toList⟩,
        waiting, site.matched v entry.route.template⟩
    else
      ⟨.voyage { v with ahead := ahead }, waiting,
        site.noteAll ((entry.route.misreading? v.path).map .misread)⟩

def afterTurn (v : Voyage σ) (turn : Turn σ) (waiting : List (Pause σ)) (site : Site σ) :
    Moment σ :=
  match turn.rest with
  | [] =>
    let round : Round σ := ⟨turn.event.template, turn.calls⟩
    { work := .voyage { v with
        rounds := v.rounds ++ [round]
        ahead := if round.isLast site.router.listenerFailure then [] else v.ahead }
      waiting := waiting
      site := site }
  | listener :: rest =>
    ⟨.program (listener turn.event) [], ⟨v, { turn with rest := rest }, listener⟩ :: waiting, site⟩

/-- The next moment. At the end of the outermost program time stands still. -/
def next (m : Moment σ) : Moment σ :=
  match m.work with
  | .program program trips => afterProgram trips m.waiting m.site program
  | .voyage v => afterVoyage v m.waiting m.site
  | .turn v turn => afterTurn v turn m.waiting m.site

section

variable {v : Voyage σ} {entry : Registration (Listener σ)}
  {ahead : List (Registration (Listener σ))}

theorem next_of_accepts (hahead : v.ahead = entry :: ahead)
    (haccepts : entry.route.accepts v.path = true) (waiting : List (Pause σ)) (site : Site σ) :
    next ⟨.voyage v, waiting, site⟩ =
      ⟨.turn { v with ahead := ahead } ⟨⟨entry.route, v.path⟩, [], entry.listeners.toList⟩,
        waiting, site.matched v entry.route.template⟩ := by
  simp [next, afterVoyage, hahead, haccepts]

theorem next_of_not_accepts (hahead : v.ahead = entry :: ahead)
    (haccepts : entry.route.accepts v.path = false) (waiting : List (Pause σ)) (site : Site σ) :
    next ⟨.voyage v, waiting, site⟩ = ⟨.voyage { v with ahead := ahead }, waiting,
      site.noteAll ((entry.route.misreading? v.path).map .misread)⟩ := by
  simp [next, afterVoyage, hahead, haccepts]

theorem next_of_fruitless (hahead : v.ahead = []) (waiting : List (Pause σ)) {site : Site σ}
    (hends : v.rounds = [] ∨ v.dispatch.isAborted site.router.listenerFailure = true) :
    next ⟨.voyage v, waiting, site⟩ = ⟨v.finish none, waiting, site⟩ := by
  simp [next, afterVoyage, hahead, hends]

theorem next_of_arrival (hahead : v.ahead = []) (waiting : List (Pause σ)) {site : Site σ}
    (hrounds : v.rounds ≠ [])
    (hends : v.dispatch.isAborted site.router.listenerFailure = false) :
    next ⟨.voyage v, waiting, site⟩ = ⟨v.finish (some (site.router.addressFor v.path)), waiting,
      site.arrived v.number v.dispatch⟩ := by
  simp [next, afterVoyage, hahead, hrounds, hends]

end

def after (m : Moment σ) (steps : Nat) : Moment σ := next^[steps] m

theorem after_succ (m : Moment σ) (steps : Nat) : m.after (steps + 1) = (m.after steps).next :=
  Function.iterate_succ_apply' next steps m

def isOver (m : Moment σ) : Bool :=
  match m.work with
  | .program (.finish _) _ => m.waiting.isEmpty
  | _ => false

theorem next_eq_of_isOver {m : Moment σ} (h : m.isOver = true) : m.next = m := by
  obtain ⟨work, waiting, site⟩ := m
  cases work with
  | program program trips =>
      cases program with
      | finish outcome =>
          obtain rfl : waiting = [] := List.isEmpty_iff.mp h
          rfl
      | _ => cases h
  | voyage v => cases h
  | turn v turn => cases h

theorem after_eq_of_isOver {m : Moment σ} {last steps : Nat}
    (h : (m.after last).isOver = true) (hle : last ≤ steps) : m.after steps = m.after last := by
  obtain ⟨more, rfl⟩ := Nat.exists_eq_add_of_le' hle
  rw [after, Function.iterate_add_apply]
  exact Function.iterate_fixed (next_eq_of_isOver h) more

def first (program : Program σ) (site : Site σ) : Moment σ := ⟨.program program [], [], site⟩

def Reaches (m m' : Moment σ) : Prop := ∃ steps, m.after steps = m'

namespace Reaches

variable {m between m' : Moment σ}

theorem refl (m : Moment σ) : m.Reaches m := ⟨0, rfl⟩

theorem trans (h₁ : m.Reaches between) (h₂ : between.Reaches m') : m.Reaches m' := by
  obtain ⟨before, rfl⟩ := h₁
  obtain ⟨later, rfl⟩ := h₂
  exact ⟨later + before, Function.iterate_add_apply next later before m⟩

theorem head (h : m.next.Reaches m') : m.Reaches m' :=
  trans ⟨1, rfl⟩ h

end Reaches

end Moment

namespace Run

variable {σ : Type} {site site' : Site σ} {navigateTo : Navigator σ} {policy : FailurePolicy}
  {path : String} {number depth : Nat}

theorem yields_noteAll {occurrence? : Option Occurrence} {u : Unit} :
    Yields (noteAll occurrence?) site u site' ↔ site.noteAll occurrence? = site' := by
  cases occurrence? with
  | none => exact yields_pure.trans (and_iff_right rfl)
  | some occurrence => exact yields_note

theorem yields_routeIf {isFirst : Bool} {u : Unit} :
    Yields (routeIf isFirst number path) site u site' ↔
      (if isFirst then (site.setCurrentRoute path).note (.routed number path) else site) =
        site' := by
  cases isFirst with
  | true => simp [routeIf, route]
  | false => simp [routeIf]

/-- Each run of the navigator can be taken step by step. -/
def Stepwise (navigateTo : Navigator σ) : Prop :=
  ∀ {path : String} {site site' : Site σ} {result : Except DispatchError Navigation},
    Yields (navigateTo path) site result site' → ∀ resume earlier waiting,
      ∃ trip : Trip σ, trip.IsOf site path result ∧
        (Moment.start site path resume earlier waiting).Reaches
          ⟨.program (resume result) (earlier ++ [trip]), waiting, site'⟩

theorem reaches_of_program (hnav : Stepwise navigateTo) (listener : Program σ)
    {outcome : Except String Unit} (h : Yields (program navigateTo listener) site outcome site')
    (trips : List (Trip σ)) (waiting : List (Pause σ)) :
    ∃ more, Moment.Reaches ⟨.program listener trips, waiting, site⟩
      ⟨.program (.finish outcome) (trips ++ more), waiting, site'⟩ := by
  induction listener generalizing site trips with
  | finish outcome =>
      obtain ⟨rfl, rfl⟩ := yields_pure.mp h
      exact ⟨[], by rw [List.append_nil]; exact .refl _⟩
  | view next ih | «recall» next ih =>
      simp only [program, yields_bind, yields_get] at h
      obtain ⟨_, _, ⟨rfl, rfl⟩, h⟩ := h
      exact (ih _ h trips).imp fun _ => .head
  | remember state next ih =>
      simp only [program, yields_bind, yields_modify] at h
      obtain ⟨_, _, rfl, h⟩ := h
      exact (ih h trips).imp fun _ => .head
  | print line next ih =>
      simp only [program, yields_bind, yields_note] at h
      obtain ⟨_, _, rfl, h⟩ := h
      exact (ih h trips).imp fun _ => .head
  | setUrl url next ih =>
      simp only [program, yields_bind, yields_modify] at h
      obtain ⟨_, _, rfl, h⟩ := h
      exact (ih h trips).imp fun _ => .head
  | clear next ih =>
      simp only [program, yields_bind, yields_modify] at h
      obtain ⟨_, _, rfl, h⟩ := h
      exact (ih h trips).imp fun _ => .head
  | register templates listener next _ ih =>
      simp only [program, yields_bind, yields_modifyGet] at h
      obtain ⟨answer, between, hregister, h⟩ := h
      refine (ih _ h trips).imp fun _ hreaches => .head ?_
      simpa only [Moment.next, Moment.afterProgram, hregister] using hreaches
  | navigateTo path next ih =>
      simp only [program, yields_bind] at h
      obtain ⟨result, _, hto, h⟩ := h
      obtain ⟨trip, -, htrip⟩ := hnav hto next trips waiting
      obtain ⟨more, hmore⟩ := ih result h (trips ++ [trip])
      refine ⟨trip :: more, .head (htrip.trans ?_)⟩
      rwa [List.append_assoc] at hmore
  | navigate next ih =>
      simp only [program, navigate, yields_bind, yields_get] at h
      obtain ⟨outcome, between, ⟨_, _, ⟨rfl, rfl⟩, hnavigate⟩, h⟩ := h
      cases hpath : site.router.pathOf? site.host.url with
      | none =>
          simp only [hpath, yields_bind, yields_note, yields_pure] at hnavigate
          obtain ⟨_, _, rfl, rfl, rfl⟩ := hnavigate
          refine (ih _ h trips).imp fun _ hreaches => .head ?_
          simpa only [Moment.next, Moment.afterProgram, hpath] using hreaches
      | some path =>
          simp only [hpath, yields_bind, yields_pure] at hnavigate
          obtain ⟨result, _, hto, rfl, rfl⟩ := hnavigate
          obtain ⟨trip, -, htrip⟩ :=
            hnav hto (fun outcome => next (outcome.map some)) trips waiting
          obtain ⟨more, hmore⟩ := ih (result.map some) h (trips ++ [trip])
          refine ⟨trip :: more, .head ?_⟩
          rw [List.append_assoc, List.singleton_append] at hmore
          simpa only [Moment.next, Moment.afterProgram, hpath] using htrip.trans hmore

theorem reaches_of_calls (hnav : Stepwise navigateTo) (hchanges : Changes navigateTo)
    {event : Event} (listeners : List (Listener σ)) (called : List (Call σ))
    {made : List (Call σ)} (hpolicy : site.router.listenerFailure = policy)
    (h : Yields (calls navigateTo policy event called.length listeners) site made site')
    (v : Voyage σ) (waiting : List (Pause σ)) :
    ∃ more, Moment.Reaches ⟨.turn v ⟨event, called, listeners⟩, waiting, site⟩
      ⟨.turn { v with nested := v.nested ++ more } ⟨event, called ++ made, []⟩, waiting,
        site'⟩ := by
  induction listeners generalizing site called made v with
  | nil =>
      obtain ⟨rfl, rfl⟩ := yields_pure.mp h
      exact ⟨[], by rw [List.append_nil, List.append_nil]; exact .refl _⟩
  | cons listener rest ih =>
      simp only [calls, yields_bind, yields_noteAll] at h
      obtain ⟨outcome, between, hprogram, _, _, rfl, h⟩ := h
      obtain ⟨trips, hreturns⟩ := reaches_of_program hnav _ hprogram []
        (⟨v, ⟨event, called, rest⟩, listener⟩ :: waiting)
      let call : Call σ := ⟨event.template, called.length, listener, outcome⟩
      let after := between.noteAll (call.failure?.map .failed)
      have hbetween : between.router.listenerFailure = policy :=
        (leads_of_program hchanges _ hprogram).listenerFailure_eq.trans hpolicy
      have hafter : after.router.listenerFailure = policy :=
        (between.listenerFailure_noteAll _).trans hbetween
      have hcall : Moment.Reaches ⟨.turn v ⟨event, called, listener :: rest⟩, waiting, site⟩
          ⟨.turn { v with nested := v.nested ++ trips } ⟨event, called ++ [call],
            if call.isLast policy then [] else rest⟩, waiting, after⟩ := by
        refine .head (hreturns.trans (.head ?_))
        rw [← hbetween]
        exact .refl _
      split at h
      · rename_i hlast
        obtain ⟨rfl, rfl⟩ := yields_pure.mp h
        refine ⟨trips, ?_⟩
        rwa [if_pos hlast] at hcall
      · rename_i hlast
        simp only [yields_bind, yields_pure] at h
        obtain ⟨later, _, hcalls, rfl, rfl⟩ := h
        rw [if_neg hlast] at hcall
        have hlength : called.length + 1 = (called ++ [call]).length := by simp
        rw [hlength] at hcalls
        obtain ⟨more, hmore⟩ := ih (called ++ [call]) hafter hcalls
          { v with nested := v.nested ++ trips }
        refine ⟨trips ++ more, ?_⟩
        simpa only [List.append_assoc, List.singleton_append] using hcall.trans hmore

theorem reaches_of_rounds (hnav : Stepwise navigateTo) (hchanges : Changes navigateTo)
    (entries : List (Registration (Listener σ))) {v : Voyage σ} {made : List (Round σ)}
    (hahead : v.ahead = entries) (hpolicy : site.router.listenerFailure = policy)
    (h : Yields (rounds navigateTo policy v.number v.path v.rounds.isEmpty entries)
      site made site')
    (waiting : List (Pause σ)) :
    ∃ more, Moment.Reaches ⟨.voyage v, waiting, site⟩
      ⟨.voyage { v with ahead := [], rounds := v.rounds ++ made, nested := v.nested ++ more },
        waiting, site'⟩ := by
  induction entries generalizing site made v with
  | nil =>
      obtain ⟨rfl, rfl⟩ := yields_pure.mp h
      refine ⟨[], ?_⟩
      rw [List.append_nil, List.append_nil, ← hahead]
      exact .refl _
  | cons entry rest ih =>
      cases haccepts : entry.route.accepts v.path with
      | true =>
          rw [rounds_cons_of_accepts haccepts] at h
          simp only [yields_bind, yields_note, yields_routeIf] at h
          obtain ⟨_, _, rfl, _, _, rfl, calls, between, hcalls, h⟩ := h
          have hmatched : (site.matched v entry.route.template).router.listenerFailure =
              policy := by
            rw [← hpolicy, Site.matched]
            split <;> rfl
          let now : Voyage σ := { v with ahead := rest }
          obtain ⟨trips, hturn⟩ := reaches_of_calls hnav hchanges _ [] hmatched hcalls now waiting
          have hbetween : between.router.listenerFailure = policy :=
            (leads_of_calls hchanges _ hcalls).listenerFailure_eq.trans hmatched
          let round : Round σ := ⟨entry.route.template, calls⟩
          have hround : Moment.Reaches ⟨.voyage v, waiting, site⟩
              ⟨.voyage { v with
                ahead := if round.isLast policy then [] else rest
                rounds := v.rounds ++ [round]
                nested := v.nested ++ trips }, waiting, between⟩ := by
            refine .head ?_
            rw [Moment.next_of_accepts hahead haccepts]
            refine hturn.trans (.head ?_)
            rw [← hbetween]
            exact .refl _
          split at h
          · rename_i hlast
            obtain ⟨rfl, rfl⟩ := yields_pure.mp h
            refine ⟨trips, ?_⟩
            rwa [if_pos hlast] at hround
          · rename_i hlast
            simp only [yields_bind, yields_pure] at h
            obtain ⟨later, _, hrounds, rfl, rfl⟩ := h
            rw [if_neg hlast] at hround
            -- from here on the voyage has a round, as the recursion knows that it is past the
            -- first match
            let now : Voyage σ := { v with
              ahead := rest
              rounds := v.rounds ++ [round]
              nested := v.nested ++ trips }
            have hempty : now.rounds.isEmpty = false := by simp [now]
            rw [← hempty] at hrounds
            obtain ⟨more, hmore⟩ := ih (v := now) rfl hbetween hrounds
            refine ⟨trips ++ more, ?_⟩
            simpa only [now, List.append_assoc, List.singleton_append] using hround.trans hmore
      | false =>
          rw [rounds_cons_of_not_accepts haccepts] at h
          simp only [yields_bind, yields_noteAll] at h
          obtain ⟨_, _, rfl, h⟩ := h
          let after := site.noteAll ((entry.route.misreading? v.path).map .misread)
          have hafter : after.router.listenerFailure = policy :=
            (site.listenerFailure_noteAll _).trans hpolicy
          obtain ⟨more, hmore⟩ := ih (v := { v with ahead := rest }) rfl hafter h
          refine ⟨more, .head ?_⟩
          rwa [Moment.next_of_not_accepts hahead haccepts]

theorem stepwise_navigateTo (depth : Nat) : Stepwise (Run.navigateTo depth : Navigator σ) := by
  induction depth with
  | zero =>
      intro path site site' result h
      exact absurd h not_yields_none
  | succ depth ih =>
      intro path site site' result h resume earlier waiting
      obtain ⟨number, d, between, hdispatch, hends⟩ := dispatch_of_navigateTo h
      obtain ⟨rfl, rfl, hrounds⟩ := rounds_of_dispatch hdispatch
      let v : Voyage σ := {
        number := site.navigations
        path := d.path
        ahead := site.router.registry.entries.toList
        rounds := []
        nested := []
        earlier := earlier
        resume := resume }
      have hpolicy : (site.started d.path).router.listenerFailure =
          site.router.listenerFailure := rfl
      obtain ⟨nested, hgone⟩ := reaches_of_rounds ih (changes_navigateTo depth) _ (v := v) rfl
        hpolicy hrounds waiting
      rcases hends with ⟨hends, rfl, rfl⟩ | ⟨⟨hmatched, hends⟩, address, rfl, hpush⟩
      · refine ⟨⟨site.navigations, d, nested⟩, ⟨rfl, rfl, none, rfl⟩, hgone.trans (.head ?_)⟩
        rw [Moment.next_of_fruitless rfl waiting hends]
        exact .refl _
      · obtain ⟨rfl, rfl⟩ := eq_of_push hpush
        refine ⟨⟨site.navigations, d, nested⟩, ⟨rfl, rfl, some _, rfl⟩, hgone.trans (.head ?_)⟩
        rw [Moment.next_of_arrival rfl waiting hmatched hends]
        exact .refl _

/-- A run that ends passes through the moments of its program. -/
theorem reaches_of_yields (depth : Nat) (main : Program σ) {outcome : Except String Unit}
    (h : Yields (program (Run.navigateTo depth) main) site outcome site') :
    ∃ trips, (Moment.first main site).Reaches ⟨.program (.finish outcome) trips, [], site'⟩ :=
  reaches_of_program (stepwise_navigateTo depth) main h [] []

end Run
end Wayfinding
