import Wayfinding.Proofs.Router.Moment
import Wayfinding.Proofs.Router.RegistryLog

/-!
The registry while a program runs. A step either issues an operation on the registry or leaves
it alone, so the registry records at every moment what has been issued so far, whether listeners
issued it or the program that navigates.
-/

namespace Wayfinding

variable {σ : Type}

namespace Site

theorem registry_noteAll (site : Site σ) (occurrence? : Option Occurrence) :
    (site.noteAll occurrence?).router.registry = site.router.registry := by
  cases occurrence? <;> rfl

theorem registry_matched (site : Site σ) (v : Voyage σ) (template : String) :
    (site.matched v template).router.registry = site.router.registry := by
  rw [matched]
  split <;> rfl

theorem register_eq (site : Site σ) (templates : List String) (listener : Listener σ) :
    (site.register templates listener).1.isOk =
        (site.router.registry.register templates listener).isOk ∧
      (site.register templates listener).2.router.registry =
        (Operation.register templates listener).apply site.router.registry := by
  have hcompiled : ∀ (routes : List Route) (site : Site σ),
      (routes.foldl (fun site route => site.note (.compiled route)) site).router.registry =
        site.router.registry := by
    intro routes
    induction routes with
    | nil => intro site; rfl
    | cons route routes ih => exact fun site => ih (site.note _)
  rw [register, Operation.apply]
  cases site.router.registry.register templates listener with
  | error error => exact ⟨rfl, hcompiled _ site⟩
  | ok registry => exact ⟨rfl, rfl⟩

/-- The site with a first listener for a new template. -/
def withEntry (site : Site σ) (route : Route) (listener : Listener σ) : Site σ :=
  let registry := site.router.registry
  ((site.note (.compiled route)).setRegistry ⟨registry.entries.push ⟨route, #[listener]⟩,
    registry.index.insert route.template registry.entries.size⟩).note
      (.registered [route.template] (registry.entries.size + 1))

theorem index_withEntry (site : Site σ) (route : Route) (listener : Listener σ)
    (template : String) :
    (site.withEntry route listener).router.registry.index[template]? =
      if route.template == template then some site.router.registry.entries.size
      else site.router.registry.index[template]? :=
  Std.HashMap.getElem?_insert

theorem register_of_none {site : Site σ} {route : Route}
    (hcompile : Route.compile route.template = .ok route)
    (hslot : site.router.registry.index[route.template]? = none) (listener : Listener σ) :
    site.register [route.template] listener = (.ok (), site.withEntry route listener) := by
  have hfind := Registry.find?_eq_none hslot
  have hregister : site.router.registry.register [route.template] listener =
      .ok (site.router.registry.add route listener) := by
    simp [Registry.register, Registry.resolveAll, Registry.resolve, hfind, hcompile, bind,
      Except.bind, pure, Except.pure]
  have hcompiled : site.router.registry.compiledFor [route.template] = [route] := by
    simp [Registry.compiledFor, hfind, hcompile]
  rw [register, hcompiled, hregister, Registry.add_of_none hslot, withEntry]
  simp

end Site

namespace Run

variable {site site' : Site σ}

theorem yields_register_of_none {navigateTo : Navigator σ} (route : Route)
    (hcompile : Route.compile route.template = .ok route)
    (hslot : site.router.registry.index[route.template]? = none) {listener : Listener σ}
    {next : Except TemplateError Unit → Program σ} {outcome : Except String Unit}
    (h : Yields (program navigateTo (next (.ok ()))) (site.withEntry route listener) outcome
      site') :
    Yields (program navigateTo (.register [route.template] listener next)) site outcome site' := by
  simp only [program, yields_bind, yields_modifyGet]
  exact ⟨.ok (), _, Site.register_of_none hcompile hslot listener, h⟩

theorem exists_yields_ok {β : Type} {run : Run σ (Except String Unit)} {f : Site σ → β} {b : β}
    (h : (run.run site).map (fun done => (done.1.isOk, f done.2)) = some (true, b)) :
    ∃ site', Yields run site (.ok ()) site' ∧ f site' = b := by
  obtain ⟨⟨outcome, site'⟩, hyields, hdone⟩ := Option.map_eq_some_iff.mp h
  obtain ⟨hok, hsite⟩ := Prod.mk.inj hdone
  cases outcome with
  | ok u => exact ⟨site', hyields, hsite⟩
  | error e => cases hok

end Run

namespace Moment

theorem after_register_of_none {site : Site σ} (route : Route)
    (hcompile : Route.compile route.template = .ok route)
    (hslot : site.router.registry.index[route.template]? = none) (listener : Listener σ)
    (next : Except TemplateError Unit → Program σ) (steps : Nat) :
    (first (.register [route.template] listener next) site).after (steps + 1) =
      (first (next (.ok ())) (site.withEntry route listener)).after steps := by
  rw [after, Function.iterate_succ_apply]
  simp [first, Moment.next, afterProgram, Site.register_of_none hcompile hslot, after]

/-- The change of the registry that a program is about to make. -/
def operation? (m : Moment σ) : Option (Operation (Listener σ)) :=
  match m.work with
  | .program (.register templates listener _) _ => some (.register templates listener)
  | .program (.clear _) _ => some .clear
  | _ => none

/-- Nothing but these operations touches the registry. -/
theorem registry_next (m : Moment σ) :
    m.next.site.router.registry =
      match m.operation? with
      | some operation => operation.apply m.site.router.registry
      | none => m.site.router.registry := by
  obtain ⟨work, waiting, site⟩ := m
  cases work with
  | program program trips =>
      cases program with
      | finish outcome =>
          cases waiting with
          | nil => rfl
          | cons pause waiting => exact site.registry_noteAll _
      | register templates listener next => exact (site.register_eq templates listener).2
      | navigate next =>
          simp only [Moment.next, afterProgram]
          cases site.router.pathOf? site.host.url <;> rfl
      | _ => rfl
  | voyage v =>
      simp only [next, afterVoyage]
      split
      · split <;> rfl
      · split
        · exact site.registry_matched v _
        · exact site.registry_noteAll _
  | turn v turn =>
      simp only [next, afterTurn]
      split <;> rfl

/-- The operations of the first steps, whether a listener issues them or not. -/
def operations (m : Moment σ) (steps : Nat) : List (Operation (Listener σ)) :=
  (List.range steps).filterMap fun now => (m.after now).operation?

theorem operations_succ (m : Moment σ) (steps : Nat) :
    m.operations (steps + 1) = m.operations steps ++ (m.after steps).operation?.toList := by
  rw [operations, List.range_succ, List.filterMap_append, List.filterMap_cons,
    List.filterMap_nil]
  cases (m.after steps).operation? <;> rfl

theorem records_operations {m : Moment σ} (h : m.site.router.registry = .empty) (steps : Nat) :
    (m.after steps).site.router.registry.Records (m.operations steps) := by
  induction steps with
  | zero =>
      have hempty : (m.after 0).site.router.registry = .empty := h
      rw [hempty]
      exact .empty
  | succ steps ih =>
      rw [operations_succ, after_succ, registry_next]
      cases (m.after steps).operation? with
      | none =>
          rw [Option.toList_none, List.append_nil]
          exact ih
      | some operation => exact ih.apply operation

end Moment

/-- At every moment, inside or outside a navigation, the registry is what the operations so far
make of an empty one. -/
theorem registry_records_operations {configuration : Configuration} {host : Host} {client : σ}
    {site : Site σ} (hcreate : Site.create configuration host client = .ok site)
    (main : Program σ) :
    let moment := (Moment.first main site).after
    let log := (Moment.first main site).operations
    (∀ now, let registry := (moment now).site.router.registry
      registry.Records (log now) ∧ registry.templates.Nodup ∧
      registry.templates <+: (moment (now + 1)).site.router.registry.templates ∧
      (∀ template, registry.listenerCount template = (registry.heard template).length) ∧
      (∀ template, template ∉ registry.templates → registry.listenerCount template = 0) ∧
      (∀ template, template ∈ registry.templates ↔ ∃ slot, registry.index[template]? = some slot) ∧
      ∀ templates listener, ((moment now).site.register templates listener).1.isOk ↔
        (Operation.register templates listener).registration? = some (templates, listener)) ∧
    ∀ {depth outcome site'},
      Run.Yields (Run.program (Run.navigateTo depth) main) site outcome site' →
        ∃ last trips, moment last = ⟨.program (.finish outcome) trips, [], site'⟩ := by
  intro moment log
  obtain ⟨-, hempty, -⟩ := Site.create_eq_ok hcreate
  refine ⟨fun now => ?_, fun hrun => ?_⟩
  · have hrecords := Moment.records_operations (m := Moment.first main site) hempty
    have hnow : (moment now).site.router.registry.Records (log now) := hrecords now
    have hnext : moment (now + 1) = (moment now).next := Moment.after_succ _ now
    refine ⟨hnow, ?_, ?_, Registry.listenerCount_eq _,
      fun template => hnow.indexed.listenerCount_eq_zero,
      fun template => hnow.indexed.mem_templates_iff, fun templates listener => ?_⟩
    · rw [hnow.templates_eq]
      exact nodup_eraseDups _
    · rw [hnext, Moment.registry_next]
      cases (moment now).operation? with
      | none => exact List.prefix_rfl
      | some operation => exact Registry.templates_prefix hnow operation
    · rw [(Site.register_eq ..).1]
      exact Registry.isOk_register_iff hnow.indexed templates listener
  · obtain ⟨trips, last, hlast⟩ := Run.reaches_of_yields _ main hrun
    exact ⟨last, trips, hlast⟩

def newSite (policy : FailurePolicy) : Site Unit where
  router := ⟨"app", policy, .empty, ""⟩
  host := ⟨"app/", "app", none, #[]⟩
  client := ()
  navigations := 0
  journal := #[.created "app"]

theorem create_newSite (policy : FailurePolicy) :
    Site.create ⟨some "app", policy⟩ ⟨"app/", "app", none, #[]⟩ () = .ok (newSite policy) :=
  rfl

/-- The route of a template that is one plain name. -/
def plainRoute (name : String) : Route := ⟨name, ⟨.literal name, []⟩⟩

/-- Registers a template twice at once, then templates one of which does not compile, and a
template again after all listeners have gone. -/
def enrol : Program Unit :=
  .register ["b", "a", "b"] (fun _ => .finish (.ok ())) fun _ =>
  .register ["c", ":n/:n"] (fun _ => .finish (.ok ())) fun _ =>
  .clear (.register ["a", "d", "a"] (fun _ => .finish (.ok ())) fun _ => .finish (.ok ()))

theorem registry_records_operations_enrol :
    Site.create ⟨some "app", .collect⟩ ⟨"app/", "app", none, #[]⟩ () = .ok (newSite .collect) ∧
      let last := ((Moment.first enrol (newSite .collect)).after 4).site.router.registry
      last.templates = ["b", "a", "d"] ∧ last.listenerCount "a" = 2 ∧
        last.listenerCount "b" = 0 ∧ last.listenerCount "c" = 0 := by
  have hcreate := create_newSite .collect
  obtain ⟨hmoments, -⟩ := registry_records_operations hcreate enrol
  obtain ⟨hrecords, -, -, hcount, -⟩ := hmoments 4
  refine ⟨hcreate, hrecords.templates_eq.trans (by decide +kernel), ?_, ?_, ?_⟩
  · rw [hcount, hrecords.heard_eq]
    decide +kernel
  · rw [hcount, hrecords.heard_eq]
    decide +kernel
  · rw [hcount, hrecords.heard_eq]
    decide +kernel

end Wayfinding
