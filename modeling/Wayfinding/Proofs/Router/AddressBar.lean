import Wayfinding.Proofs.Router.Address
import Wayfinding.Proofs.Router.Order

/-!
The URL on show and the current route. As long as nobody else sets the URL, it is the address
of the navigation that was the last one to end with a match. The route is that of the last one
to start among those with a match. The two are one navigation if listeners do not navigate; a
listener that goes elsewhere leaves its own path as the route under the address of the
navigation that called it.
-/

namespace Wayfinding

variable {σ : Type}

theorem Router.addressFor_injective (router : Router σ) :
    Function.Injective router.addressFor := by
  intro path path' heq
  have hpath := router.pathOf?_addressFor path
  rw [heq, Router.pathOf?_addressFor] at hpath
  exact (Option.some.inj hpath).symm

/-- The listeners of the navigation started no other. -/
def Trip.isFlat : Trip σ → Bool
  | ⟨_, _, nested⟩ => nested.isEmpty

def Trip.arrivalsAll (policy : FailurePolicy) (trips : List (Trip σ)) : List String :=
  Trip.walkAll (fun _ _ => []) (fun _ d => d.arrival policy) trips

/-- Navigations that do not nest start and end in one order. -/
theorem Trip.map_path_departuresAll {trips : List (Trip σ)} (h : ∀ trip ∈ trips, trip.isFlat) :
    ((departuresAll trips).filter (·.isMatched)).map (·.path) = arrivalsAll .collect trips := by
  induction trips with
  | nil => rfl
  | cons trip trips ih =>
      obtain ⟨number, d, nested⟩ := trip
      obtain ⟨hflat, hrest⟩ := List.forall_mem_cons.mp h
      obtain rfl : nested = [] := List.isEmpty_iff.mp hflat
      have hrest := ih hrest
      simp only [departuresAll, arrivalsAll] at hrest ⊢
      rw [walkAll, walkAll, List.filter_append, List.map_append, hrest]
      cases hrounds : d.rounds <;>
        simp [walk, walkAll, Dispatch.departure, Dispatch.arrival, hrounds,
          Dispatch.isAborted_collect]

namespace Moment

/-- The program is about to set the URL. -/
def setsUrl (m : Moment σ) : Bool :=
  match m.work with
  | .program (.setUrl _ _) _ => true
  | _ => false

/-- No navigation is under way. -/
def isIdle (m : Moment σ) : Bool :=
  match m.work with
  | .program _ _ => m.waiting.isEmpty
  | _ => false

theorem eq_of_isIdle {m : Moment σ} (h : m.isIdle = true) :
    ∃ program trips, m = ⟨.program program trips, [], m.site⟩ := by
  obtain ⟨work, waiting, site⟩ := m
  cases work with
  | program program trips =>
      obtain rfl : waiting = [] := List.isEmpty_iff.mp h
      exact ⟨program, trips, rfl⟩
  | voyage v => cases h
  | turn v turn => cases h

variable {origin : Site σ} {m : Moment σ}

/-- The URL is the address pushed last. -/
def ShowsLast (origin : Site σ) (m : Moment σ) : Prop :=
  m.site.host.url =
    ((m.arrivals origin.router.listenerFailure).getLast?.map origin.router.addressFor).getD
      origin.host.url

theorem ShowsLast.next (h : ShowsLast origin m) (haccords : Accords origin m)
    (hquiet : m.setsUrl = false) : ShowsLast origin m.next := by
  cases advances_next haccords.listenerFailure haccords.nestsLate with
  | lead url next trips hwork hsite hdepartures harriving harrivals =>
      simp [setsUrl, hwork] at hquiet
  | arrive path hsite hdepartures harriving harrivals =>
      have haddress : m.site.router.addressFor path = origin.router.addressFor path := by
        rw [Router.addressFor, Router.addressFor, haccords.baseUrl]
      rw [ShowsLast, harrivals, List.getLast?_concat, Option.map_some, Option.getD_some,
        hsite.host, ← haddress]
      rfl
  | stay hsite hdepartures harriving harrivals
  | depart path hsite hdepartures harriving harrivals
  | find early number path hsite hbefore hdepartures harriving harrivals =>
      rw [ShowsLast, harrivals, ← h]
      exact congrArg (·.url) hsite.host

theorem showsLast_after {main : Program σ} (now : Nat)
    (hquiet : ∀ earlier < now, ((first main origin).after earlier).setsUrl = false) :
    ShowsLast origin ((first main origin).after now) := by
  induction now with
  | zero => simp [ShowsLast, after, first, arrivals, walk, Pause.walkAll, Work.walk, Trip.walkAll]
  | succ now ih =>
      rw [after_succ]
      exact (ih fun earlier h => hquiet earlier (Nat.lt_succ_of_lt h)).next
        ((Accords.first main origin).after now) (hquiet now (Nat.lt_succ_self now))

end Moment

/-- When no navigation is under way, an address has been pushed and nobody else has set the URL,
the URL is the address of the last navigation to end with a match. It is that of the current
route exactly if that navigation and the last one to start with a match have one path, as they
do if listeners do not navigate. -/
theorem url_eq_addressFor_currentRoute_iff {configuration : Configuration} {host : Host}
    {client : σ} {site : Site σ} (hcreate : Site.create configuration host client = .ok site)
    (hcollect : configuration.listenerFailure = .collect) {main : Program σ} {now : Nat}
    {program : Program σ} {trips : List (Trip σ)} {idle : Site σ}
    (hquiet : ∀ earlier < now, ((Moment.first main site).after earlier).setsUrl = false)
    (hidle : (Moment.first main site).after now = ⟨.program program trips, [], idle⟩)
    (hpushed : host.history.size < idle.host.history.size) :
    ∃ last, (Trip.arrivalsAll .collect trips).getLast? = some last ∧
      idle.host.url = idle.router.addressFor last ∧
      idle.host.lastAddress? = some (idle.router.addressFor last) ∧
      idle.router.currentRoute = (lastMatched? (Trip.departuresAll trips)).getD "" ∧
      (idle.host.url = idle.router.addressFor idle.router.currentRoute ↔
        idle.router.currentRoute = last) ∧
      ((∀ trip ∈ trips, trip.isFlat) → idle.router.currentRoute = last) := by
  obtain ⟨hpolicy, -, hroute, hhost, -⟩ := Site.create_eq_ok hcreate
  have haccords := (Moment.Accords.first main site).after now
  have hshows := Moment.showsLast_after now hquiet
  rw [hidle] at haccords hshows
  have harrivals : Moment.arrivals site.router.listenerFailure
      ⟨.program program trips, [], idle⟩ = Trip.arrivalsAll .collect trips := by
    rw [hpolicy, hcollect]
    rfl
  have haddress : site.router.addressFor = idle.router.addressFor := by
    funext path
    rw [Router.addressFor, Router.addressFor, ← haccords.baseUrl]
  have hhistory : idle.host.history.toList = host.history.toList ++
      (Trip.arrivalsAll .collect trips).map idle.router.addressFor := by
    rw [← harrivals, ← haddress, ← hhost]
    exact haccords.history
  have hcurrent : idle.router.currentRoute =
      (lastMatched? (Trip.departuresAll trips)).getD "" := by
    rw [← hroute]
    exact haccords.currentRoute
  rw [Moment.ShowsLast, harrivals, haddress] at hshows
  cases hlast : (Trip.arrivalsAll .collect trips).getLast? with
  | none =>
      rw [List.getLast?_eq_none_iff.mp hlast, List.map_nil, List.append_nil] at hhistory
      have hsize := congrArg List.length hhistory
      simp only [Array.length_toList] at hsize
      omega
  | some last =>
      have hurl : idle.host.url = idle.router.addressFor last := by
        rw [hshows, hlast, Option.map_some, Option.getD_some]
      refine ⟨last, rfl, hurl, ?_, hcurrent, ?_, fun hflat => ?_⟩
      · rw [Host.lastAddress?, ← Array.getLast?_toList, hhistory, List.getLast?_append,
          List.getLast?_map, hlast, Option.map_some, Option.some_or]
      · rw [hurl]
        exact idle.router.addressFor_injective.eq_iff.trans eq_comm
      · rw [hcurrent, lastMatched?, ← List.getLast?_map, Trip.map_path_departuresAll hflat, hlast,
          Option.getD_some]

def silent : Listener Unit := fun _ => .finish (.ok ())

def visit : Program Unit :=
  .register ["a"] silent fun _ => .navigateTo "a" fun _ => .finish (.ok ())

theorem url_eq_addressFor_currentRoute_iff_visit :
    Site.create ⟨some "app", .collect⟩ ⟨"app/", "app", none, #[]⟩ () = .ok (newSite .collect) ∧
      ∃ now program trips idle,
        (∀ earlier < now,
          ((Moment.first visit (newSite .collect)).after earlier).setsUrl = false) ∧
        (Moment.first visit (newSite .collect)).after now = ⟨.program program trips, [], idle⟩ ∧
        idle.host.url = "app/a" ∧
        (Trip.arrivalsAll .collect trips).getLast? = some idle.router.currentRoute := by
  have hcreate := create_newSite .collect
  let site := (newSite .collect).withEntry (plainRoute "a") silent
  let main : Program Unit := .navigateTo "a" fun _ => .finish (.ok ())
  have hafter : ∀ steps, (Moment.first visit (newSite .collect)).after (steps + 1) =
      (Moment.first main site).after steps :=
    Moment.after_register_of_none (plainRoute "a") (by decide +kernel)
      Std.HashMap.getElem?_empty silent _
  have hquiet : ∀ earlier < 7,
      ((Moment.first visit (newSite .collect)).after earlier).setsUrl = false := by
    have hmain : ∀ earlier < 6, ((Moment.first main site).after earlier).setsUrl = false := by
      decide +kernel
    intro earlier hearlier
    cases earlier with
    | zero => rfl
    | succ earlier =>
        rw [hafter]
        exact hmain earlier (Nat.lt_of_succ_lt_succ hearlier)
  have hdone : let idle := (Moment.first main site).after 6
      idle.isIdle = true ∧ idle.site.host.history.size = 1 ∧ idle.site.host.url = "app/a" ∧
        idle.site.host.url = idle.site.router.addressFor idle.site.router.currentRoute := by
    decide +kernel
  obtain ⟨hidle, hsize, hurl, hshows⟩ := hdone
  obtain ⟨program, trips, hidle⟩ := Moment.eq_of_isIdle hidle
  have hidle := (hafter 6).trans hidle
  have hpushed : 0 < ((Moment.first main site).after 6).site.host.history.size := by
    rw [hsize]
    exact Nat.one_pos
  obtain ⟨last, hlast, -, -, -, hiff, -⟩ :=
    url_eq_addressFor_currentRoute_iff hcreate rfl hquiet hidle hpushed
  exact ⟨hcreate, 7, program, trips, _, hquiet, hidle, hurl, hlast.trans
    (congrArg some (hiff.mp hshows).symm)⟩

/-- Goes to `a` with a listener that goes to `b`. -/
def detour : Program Unit :=
  .register ["a"] (fun _ => .navigateTo "b" fun _ => .finish (.ok ())) fun _ =>
  .register ["b"] silent fun _ => .navigateTo "a" fun _ => .finish (.ok ())

/-- The route is `b` under the address of `a`, which was pushed last. -/
theorem url_ne_addressFor_currentRoute_detour :
    Site.create ⟨some "app", .collect⟩ ⟨"app/", "app", none, #[]⟩ () = .ok (newSite .collect) ∧
      (∀ now, ((Moment.first detour (newSite .collect)).after now).setsUrl = false) ∧
      ∃ site', Run.Yields (Run.program (Run.navigateTo 2) detour) (newSite .collect) (.ok ())
          site' ∧
        site'.host.history = #["app/b", "app/a"] ∧ site'.host.lastAddress? = some "app/a" ∧
        site'.host.url = "app/a" ∧ site'.router.currentRoute = "b" ∧
        site'.host.url ≠ site'.router.addressFor site'.router.currentRoute := by
  let here := (newSite .collect).withEntry (plainRoute "a")
    fun _ => .navigateTo "b" fun _ => .finish (.ok ())
  let site := here.withEntry (plainRoute "b") silent
  let main : Program Unit := .navigateTo "a" fun _ => .finish (.ok ())
  have hslot : here.router.registry.index[(plainRoute "b").template]? = none := by
    rw [Site.index_withEntry, if_neg (by decide)]
    exact Std.HashMap.getElem?_empty
  refine ⟨create_newSite .collect, fun now => ?_, ?_⟩
  · have hafter : ∀ steps, (Moment.first detour (newSite .collect)).after (steps + 2) =
        (Moment.first main site).after steps := fun steps =>
      (Moment.after_register_of_none (plainRoute "a") (by decide +kernel)
        Std.HashMap.getElem?_empty _ _ (steps + 1)).trans
        (Moment.after_register_of_none (plainRoute "b") (by decide +kernel) hslot silent _ steps)
    have hmain : ∀ steps < 15, ((Moment.first main site).after steps).setsUrl = false := by
      decide +kernel
    have hover : ((Moment.first main site).after 14).isOver = true := by decide +kernel
    match now with
    | 0 | 1 => rfl
    | steps + 2 =>
      rw [hafter]
      by_cases hsteps : steps < 15
      · exact hmain steps hsteps
      · rw [Moment.after_eq_of_isOver hover (by omega)]
        exact hmain 14 (by decide)
  · have hrun : ((Run.program (Run.navigateTo 2) main).run site).map (fun done =>
        (done.1.isOk, done.2.host.history, done.2.host.url, done.2.router.baseUrl,
          done.2.router.currentRoute)) =
        some (true, #["app/b", "app/a"], "app/a", "app", "b") := by decide +kernel
    obtain ⟨site', hyields, hdone⟩ := Run.exists_yields_ok
      (f := fun site => (site.host.history, site.host.url, site.router.baseUrl,
        site.router.currentRoute)) hrun
    simp only [Prod.mk.injEq] at hdone
    obtain ⟨hhistory, hurl, hbase, hroute⟩ := hdone
    refine ⟨site', ?_, hhistory, ?_, hurl, hroute, ?_⟩
    · exact Run.yields_register_of_none (plainRoute "a") (by decide +kernel)
        Std.HashMap.getElem?_empty
        (Run.yields_register_of_none (plainRoute "b") (by decide +kernel) hslot hyields)
    · rw [Host.lastAddress?, hhistory]
      rfl
    · rw [hurl, Router.addressFor, hbase, hroute]
      decide +kernel

end Wayfinding
