import Wayfinding.Command.Run
import Wayfinding.Proofs.Command.Report
import Wayfinding.Proofs.Router.Coverage
import Wayfinding.Proofs.Router.Policies

/-!
What the navigate command prints apart from its log. Its one listener prints a line and never
fails, so a navigation goes through every match under either policy and the lines are those of
the matches; the registry has each template once, with the listener as often as the template was
given. Whatever goes wrong does so before the navigation, when nothing has been printed. The
lines of the log are told apart by how they were made, since a text in the log may look like any
other line.
-/

namespace Wayfinding
namespace Command

open Run (Yields calls rounds yields_bind yields_get yields_note yields_pure
  yields_navigate_of_outside yields_navigate_of_path)
open Router (pathOf?_eq_some pathOf?_eq_none)

/-- The text of a line that is not of the log. -/
def Line.plain? : Line → Option String
  | .plain text => some text
  | .log _ _ => none

def Transcript.printed (t : Transcript) : List String :=
  t.lines.filterMap Line.plain?

/-- What a line adds to the output: a line for debugging adds nothing unless the log is verbose. -/
def Line.output (verbose : Bool) : Line → String
  | .plain text => text ++ "\n"
  | .log severity text =>
    if severity = .debug ∧ verbose = false then "" else severity.label ++ " " ++ text ++ "\n"

theorem Line.output_eq (verbose : Bool) (line : Line) :
    line.output verbose = ((line.text? verbose).map (· ++ "\n")).getD "" := by
  cases line with
  | plain text => rfl
  | log severity text => cases severity <;> cases verbose <;> rfl

/-- The output is that of the lines in a row. -/
theorem Transcript.output_outcome (verbose : Bool) (t : Transcript) :
    (t.outcome verbose).output = String.join (t.lines.map (·.output verbose)) := by
  rw [Transcript.outcome]
  induction t.lines with
  | nil => rfl
  | cons line lines ih =>
      rw [List.map_cons, String.join_cons, ← ih, Line.output_eq, List.filterMap_cons]
      cases line.text? verbose with
      | none => exact String.empty_append.symm
      | some text => rw [List.map_cons, String.join_cons, Option.map_some, Option.getD_some]

def printedAt (site : Site Unit) : List String :=
  (journalLines site).filterMap Line.plain?

/-- What an occurrence prints apart from the log. -/
def shown (occurrence : Occurrence) : List String :=
  ((lineOf? occurrence).bind Line.plain?).toList

theorem printedAt_note (site : Site Unit) (occurrence : Occurrence) :
    printedAt (site.note occurrence) = printedAt site ++ shown occurrence := by
  have hlast : ([occurrence].filterMap lineOf?).filterMap Line.plain? = shown occurrence := by
    rw [shown, List.filterMap_cons, List.filterMap_nil]
    cases lineOf? occurrence with
    | none => rfl
    | some line =>
        rw [List.filterMap_cons, Option.bind_some]
        cases line.plain? <;> rfl
  rw [printedAt, journalLines, Site.note, Array.toList_push, List.filterMap_append,
    List.filterMap_append, hlast]
  rfl

/-- Between the sites these lines are printed, and the base URL stays. -/
structure Prints (site : Site Unit) (lines : List String) (site' : Site Unit) : Prop where
  baseUrl : site'.router.baseUrl = site.router.baseUrl
  printed : printedAt site' = printedAt site ++ lines

namespace Prints

variable {site between site' : Site Unit} {lines later : List String}

theorem refl (site : Site Unit) : Prints site [] site :=
  ⟨rfl, (List.append_nil _).symm⟩

theorem trans (h₁ : Prints site lines between) (h₂ : Prints between later site') :
    Prints site (lines ++ later) site' :=
  ⟨h₂.baseUrl.trans h₁.baseUrl, by rw [h₂.printed, h₁.printed, List.append_assoc]⟩

theorem note (site : Site Unit) (occurrence : Occurrence) :
    Prints site (shown occurrence) (site.note occurrence) :=
  ⟨rfl, printedAt_note site occurrence⟩

theorem of_journal_eq (hbaseUrl : site'.router.baseUrl = site.router.baseUrl)
    (hjournal : site'.journal = site.journal) : Prints site [] site' where
  baseUrl := hbaseUrl
  printed := by rw [printedAt, journalLines, hjournal, List.append_nil, printedAt, journalLines]

/-- Most occurrences are for the log alone. -/
theorem silent (site : Site Unit) {occurrence : Occurrence} (h : shown occurrence = []) :
    Prints site [] (site.note occurrence) := by
  rw [← h]
  exact note site occurrence

theorem misread (site : Site Unit) (misreading? : Option Misreading) :
    Prints site [] (site.noteAll (misreading?.map .misread)) := by
  cases misreading? with
  | none => exact refl site
  | some misreading => cases misreading <;> exact silent site rfl

theorem met (site : Site Unit) (isFirst : Bool) (number : Nat) (template path : String) :
    Prints site [] (site.met isFirst number template path) := by
  let matched := site.note (.matched template path)
  have hmatched : Prints site [] matched := silent site rfl
  cases isFirst with
  | false => exact hmatched
  | true =>
      have hrouted : Prints matched [] (matched.setCurrentRoute path) := of_journal_eq rfl rfl
      exact hmatched.trans (hrouted.trans (silent _ rfl))

theorem started (site : Site Unit) (path : String) : Prints site [] (site.started path) := by
  have hcounted : Prints site [] { site with navigations := site.navigations + 1 } :=
    of_journal_eq rfl rfl
  exact hcounted.trans (silent _ rfl)

theorem arrived (site : Site Unit) (number : Nat) (d : Dispatch Unit) :
    Prints site [] (site.arrived number d) := by
  have hpushed : Prints site [] (site.pushAddress (site.router.addressFor d.path)) :=
    of_journal_eq rfl rfl
  exact (hpushed.trans (silent _ rfl)).trans (silent _ rfl)

theorem compiled (site : Site Unit) (routes : List Route) :
    Prints site [] (routes.foldl (fun site route => site.note (.compiled route)) site) := by
  induction routes generalizing site with
  | nil => exact refl site
  | cons route routes ih => exact (silent site rfl).trans (ih _)

end Prints

/-- The line that the listener prints for a match. -/
def matchLine (route : Route) (path : String) : String :=
  (Event.report ⟨route, path⟩).compact

/-- The lines for the routes that match a path, each as often as it has listeners. -/
def matchLines (path : String) (times : Route → Nat) (routes : List Route) : List String :=
  (routes.filter (·.accepts path)).flatMap fun route =>
    List.replicate (times route) (matchLine route path)

def matchedTemplates (path : String) (routes : List Route) : List String :=
  (routes.filter (·.accepts path)).map (·.template)

/-- What a navigation to a path comes to. -/
def arrival (baseUrl path : String) (times : Route → Nat) (routes : List Route) : Navigation where
  path := path
  matched := matchedTemplates path routes
  invoked := (matchLines path times routes).length
  address :=
    if matchedTemplates path routes = [] then none
    else some (baseUrl ++ "/" ++ Text.Percent.encode path)

/-- Every route has the one listener as often as `times` says. -/
def IsReporting (times : Route → Nat) (entries : List (Registration (Listener Unit))) : Prop :=
  ∀ entry ∈ entries, entry.listeners.toList = List.replicate (times entry.route) reporter

section

variable {site : Site Unit} {times : Route → Nat} {path : String}

theorem yields_reporter (navigateTo : Navigator Unit) (event : Event) (site : Site Unit) :
    Yields (Run.program navigateTo (reporter event)) site (.ok ())
      (site.note (.printed event.report.compact)) := by
  rw [reporter, Run.program, yields_bind]
  exact ⟨(), _, yields_note.mpr rfl, yields_pure.mpr ⟨rfl, rfl⟩⟩

theorem isLast_eq_false {call : Call Unit} (h : call.outcome = .ok ()) (policy : FailurePolicy) :
    call.isLast policy = false := by
  rw [Call.isLast, Call.failure?, h]
  exact Bool.and_false _

theorem exists_calls_of_reporter (navigateTo : Navigator Unit) (policy : FailurePolicy)
    (event : Event) (count index : Nat) (site : Site Unit) :
    ∃ made site',
      Yields (calls navigateTo policy event index (List.replicate count reporter)) site made
        site' ∧
      made.length = count ∧ (∀ call ∈ made, call.outcome = .ok ()) ∧
      Prints site (List.replicate count event.report.compact) site' := by
  induction count generalizing index site with
  | zero => exact ⟨[], site, yields_pure.mpr ⟨rfl, rfl⟩, rfl, nofun, .refl site⟩
  | succ count ih =>
      let call : Call Unit := ⟨event.template, index, reporter, .ok ()⟩
      obtain ⟨made, site', hmade, hlength, hok, hprints⟩ :=
        ih (index + 1) (site.note (.printed event.report.compact))
      refine ⟨call :: made, site', ?_, congrArg (· + 1) hlength, ?_, ?_⟩
      · exact Run.yields_calls_of_not_isLast (yields_reporter navigateTo event site)
          (isLast_eq_false rfl policy) hmade
      · exact List.forall_mem_cons.mpr ⟨rfl, hok⟩
      · exact (Prints.note site _).trans hprints

theorem exists_rounds_of_reporter (navigateTo : Navigator Unit) (policy : FailurePolicy)
    (number : Nat) (path : String) {entries : List (Registration (Listener Unit))}
    (h : IsReporting times entries) (isFirst : Bool) (site : Site Unit) :
    ∃ made site', Yields (rounds navigateTo policy number path isFirst entries) site made site' ∧
      made.map (·.template) = matchedTemplates path (entries.map (·.route)) ∧
      (made.flatMap (·.calls)).length = (matchLines path times (entries.map (·.route))).length ∧
      (∀ call ∈ made.flatMap (·.calls), call.outcome = .ok ()) ∧
      Prints site (matchLines path times (entries.map (·.route))) site' := by
  induction entries generalizing isFirst site with
  | nil => exact ⟨[], site, yields_pure.mpr ⟨rfl, rfl⟩, rfl, rfl, nofun, .refl site⟩
  | cons entry entries ih =>
      obtain ⟨hentry, hentries⟩ := List.forall_mem_cons.mp h
      cases haccepts : entry.route.accepts path with
      | false =>
          obtain ⟨made, site', hmade, htemplates, hlength, hok, hprints⟩ :=
            ih hentries isFirst (site.noteAll ((entry.route.misreading? path).map .misread))
          have hlines : matchLines path times ((entry :: entries).map (·.route)) =
              matchLines path times (entries.map (·.route)) := by
            simp [matchLines, haccepts]
          have hmatched : matchedTemplates path ((entry :: entries).map (·.route)) =
              matchedTemplates path (entries.map (·.route)) := by
            simp [matchedTemplates, haccepts]
          rw [hlines, hmatched]
          exact ⟨made, site', Run.yields_rounds_of_not_accepts haccepts hmade, htemplates, hlength,
            hok, (Prints.misread site _).trans hprints⟩
      | true =>
          obtain ⟨called, between, hcalled, hcount, hfine, hshown⟩ :=
            exists_calls_of_reporter navigateTo policy ⟨entry.route, path⟩ (times entry.route) 0
              (site.met isFirst number entry.route.template path)
          obtain ⟨made, site', hmade, htemplates, hlength, hok, hprints⟩ :=
            ih hentries false between
          have hlines : matchLines path times ((entry :: entries).map (·.route)) =
              List.replicate (times entry.route) (matchLine entry.route path) ++
                matchLines path times (entries.map (·.route)) := by
            simp [matchLines, haccepts]
          have hmatched : matchedTemplates path ((entry :: entries).map (·.route)) =
              entry.route.template :: matchedTemplates path (entries.map (·.route)) := by
            simp [matchedTemplates, haccepts]
          have hgoes : Round.isLast policy ⟨entry.route.template, called⟩ = false :=
            List.any_eq_false.mpr fun call hcall =>
              Bool.eq_false_iff.mp (isLast_eq_false (hfine call hcall) policy)
          rw [← hentry] at hcalled
          rw [hlines, hmatched]
          refine ⟨⟨entry.route.template, called⟩ :: made, site',
            Run.yields_rounds_of_not_isLast haccepts hcalled hgoes hmade,
            congrArg (entry.route.template :: ·) htemplates, ?_, ?_, ?_⟩
          · rw [List.flatMap_cons, List.length_append, hcount, hlength, List.length_append,
              List.length_replicate]
          · rw [List.flatMap_cons]
            exact List.forall_mem_append.mpr ⟨hfine, hok⟩
          · exact ((Prints.met site isFirst number _ path).trans hshown).trans hprints

/-- The navigation calls every listener and pushes the address of the path if it matches. -/
theorem exists_navigateTo_of_reporter (depth : Nat) (path : String)
    (h : IsReporting times site.router.registry.entries.toList) :
    let routes := site.router.registry.entries.toList.map (·.route)
    ∃ site', Yields (Run.navigateTo (depth + 1) path) site
        (.ok (arrival site.router.baseUrl path times routes)) site' ∧
      Prints site (matchLines path times routes) site' := by
  intro routes
  obtain ⟨made, between, hmade, htemplates, hlength, hok, hprints⟩ :=
    exists_rounds_of_reporter (Run.navigateTo depth) site.router.listenerFailure site.navigations
      path h true (site.started path)
  let d : Dispatch Unit := ⟨path, made⟩
  have hdispatch := Run.yields_dispatch_of_rounds hmade
  have hprinted : Prints site (matchLines path times routes) between :=
    (Prints.started site path).trans hprints
  have hfailures : d.failures = [] :=
    Call.filterMap_failure?_eq_nil (Call.any_hasFailed_eq_false_iff.mpr hok)
  have hends : d.isAborted between.router.listenerFailure = false :=
    Bool.eq_false_iff.mpr fun haborted => Dispatch.failures_ne_nil_of_isAborted haborted hfailures
  have hresult : ∀ address, d.result address =
      .ok ⟨path, matchedTemplates path routes, (matchLines path times routes).length, address⟩ := by
    intro address
    rw [Dispatch.result, hfailures, ← htemplates, ← hlength]
    rfl
  by_cases hrounds : made = []
  · have hnone : matchedTemplates path routes = [] := by
      rw [← htemplates, hrounds, List.map_nil]
    refine ⟨between, ?_, hprinted⟩
    rw [arrival, if_pos hnone, ← hresult]
    exact Run.yields_navigateTo_of_fruitless hdispatch (.inl hrounds)
  · have hsome : matchedTemplates path routes ≠ [] := by
      rw [← htemplates]
      exact fun hnil => hrounds (List.map_eq_nil_iff.mp hnil)
    have haddress : between.router.addressFor path =
        site.router.baseUrl ++ "/" ++ Text.Percent.encode path := by
      rw [Router.addressFor, hprinted.baseUrl]
    have harrived : Prints site (matchLines path times routes ++ [])
        (between.arrived site.navigations d) := hprinted.trans (.arrived _ _ _)
    refine ⟨between.arrived site.navigations d, ?_, by rwa [List.append_nil] at harrived⟩
    rw [arrival, if_neg hsome, ← haddress, ← hresult]
    exact Run.yields_navigateTo_of_arrival hdispatch hrounds hends

end

/-- The registry that the command makes from the routes of its templates. -/
def reporting (routes : List Route) : Registry (Listener Unit) :=
  routes.foldl (fun r route => r.add route reporter) .empty

/-- Each template has one entry, with the listener as often as the template was given. -/
theorem entries_reporting {templates : List String} {routes : List Route}
    (h : templates.mapM Route.compile = .ok routes) :
    templates.eraseDups.mapM Route.compile =
        .ok ((reporting routes).entries.toList.map (·.route)) ∧
      IsReporting (fun route => templates.count route.template)
        (reporting routes).entries.toList := by
  have hnone : (.empty : Registry (Listener Unit)).templates = ([] : List String).eraseDups := rfl
  obtain ⟨hindexed, htemplates, hheard⟩ :=
    Registry.addAll_eq .empty hnone (mapM_eq_ok_iff_forall₂.mp h) reporter
  refine ⟨?_, fun entry hentry => ?_⟩
  · have hall : List.Forall₂ (fun template route => Route.compile template = .ok route)
        (reporting routes).templates ((reporting routes).entries.toList.map (·.route)) := by
      rw [Registry.templates, List.forall₂_map_left_iff, List.forall₂_map_right_iff,
        List.forall₂_same]
      exact fun entry hentry => (hindexed.knows hentry).compile_eq
    rw [reporting, htemplates] at hall
    exact mapM_eq_ok_iff_forall₂.mpr hall
  · obtain ⟨slot, hslot⟩ := Array.mem_iff_getElem?.mp (Array.mem_toList_iff.mp hentry)
    have hlisteners := Registry.heard_of_entry (hindexed.index_of_entry slot entry hslot) hslot
    rw [← hlisteners, hheard, Registry.heard_of_none (by simp [Registry.empty]), List.nil_append]

theorem register_of_error {site : Site Unit} {templates : List String}
    (hempty : site.router.registry = .empty) {error : TemplateError}
    (h : templates.mapM Route.compile = .error error) :
    ∃ site', site.register templates reporter = (.error error, site') ∧ Prints site [] site' := by
  have hregister : site.router.registry.register templates reporter = .error error := by
    rw [hempty, Registry.register_eq .empty, h]
    rfl
  refine ⟨_, ?_, .compiled site (site.router.registry.compiledFor templates)⟩
  rw [Site.register, hregister]

theorem register_of_ok {site : Site Unit} {templates : List String} {routes : List Route}
    (hempty : site.router.registry = .empty) (h : templates.mapM Route.compile = .ok routes) :
    ∃ site', site.register templates reporter = (.ok (), site') ∧ Prints site [] site' ∧
      site'.host = site.host ∧ site'.router.registry = reporting routes := by
  have hregister : site.router.registry.register templates reporter = .ok (reporting routes) := by
    rw [hempty, Registry.register_eq .empty, h]
    rfl
  let noted := (site.router.registry.compiledFor templates).foldl
    (fun site route => site.note (.compiled route)) site
  have hnoted : Prints site [] noted := .compiled site _
  have hset : Prints noted [] (noted.setRegistry (reporting routes)) := .of_journal_eq rfl rfl
  have hsite : site.register templates reporter =
      (.ok (), (noted.setRegistry (reporting routes)).note
        (.registered templates (reporting routes).entries.size)) := by
    rw [Site.register, hregister]
  have hhost := Site.register_stays (·.host) templates reporter (fun _ _ => rfl) (fun _ _ => rfl)
    site
  rw [hsite] at hhost
  exact ⟨_, hsite, (hnoted.trans hset).trans (.silent _ rfl), hhost, rfl⟩

/-- What the command prints at a URL under or outside its base URL. -/
def expectedAt (baseUrl : String) (times : Route → Nat) (routes : List Route) :
    Option String → List String
  | some path =>
    matchLines path times routes ++ [(arrival baseUrl path times routes).report.pretty ""]
  | none => []

theorem navigateTranscriptAt_of_error {site : Site Unit} {templates : List String}
    (hempty : site.router.registry = .empty) {error : TemplateError}
    (h : templates.mapM Route.compile = .error error) :
    (navigateTranscriptAt site templates).failure.isSome ∧
      (navigateTranscriptAt site templates).printed = printedAt site := by
  obtain ⟨site', hregister, hprints⟩ := register_of_error hempty h
  rw [navigateTranscriptAt, hregister]
  exact ⟨rfl, hprints.printed.trans (List.append_nil _)⟩

theorem navigateTranscriptAt_of_yields {site ready site' : Site Unit} {templates : List String}
    {outcome : Except DispatchError (Option Navigation)}
    (hregister : site.register templates reporter = (.ok (), ready))
    (hyields : Yields Site.navigate ready outcome site') :
    navigateTranscriptAt site templates =
      ⟨journalLines site' ++ (outcomeLines site' outcome).1, (outcomeLines site' outcome).2⟩ := by
  have hrun : StateT.run Site.navigate ready = some (outcome, site') := hyields
  rw [navigateTranscriptAt, hregister]
  simp only [hrun]

theorem plain_outcomeLines_some (site : Site Unit) (n : Navigation) :
    (outcomeLines site (.ok (some n))).1.filterMap Line.plain? = [n.report.pretty ""] := by
  rw [outcomeLines]
  cases n.isMatch <;> rfl

theorem navigateTranscriptAt_of_ok {site : Site Unit} {templates : List String}
    {routes : List Route} (hempty : site.router.registry = .empty)
    (h : templates.mapM Route.compile = .ok routes) :
    (navigateTranscriptAt site templates).failure = none ∧
      (navigateTranscriptAt site templates).printed =
        printedAt site ++ expectedAt site.router.baseUrl
          (fun route => templates.count route.template)
          ((reporting routes).entries.toList.map (·.route))
          (site.router.pathOf? site.host.url) := by
  obtain ⟨ready, hregister, hprints, hhost, hregistry⟩ := register_of_ok hempty h
  have hpath : ready.router.pathOf? ready.host.url = site.router.pathOf? site.host.url := by
    rw [Router.pathOf?, hprints.baseUrl, hhost, Router.pathOf?]
  have hprinted : printedAt ready = printedAt site := hprints.printed.trans (List.append_nil _)
  have hreporting : IsReporting (fun route => templates.count route.template)
      ready.router.registry.entries.toList := hregistry ▸ (entries_reporting h).2
  rw [← hpath, ← hprinted]
  cases hfound : ready.router.pathOf? ready.host.url with
  | none =>
      have houtside : Prints ready [] (ready.note (.outside ready.host.url ready.router.baseUrl)) :=
        .silent ready rfl
      rw [navigateTranscriptAt_of_yields hregister (yields_navigate_of_outside _ hfound)]
      refine ⟨rfl, ?_⟩
      rw [Transcript.printed, List.filterMap_append]
      exact congrArg (· ++ []) (houtside.printed.trans (List.append_nil _))
  | some path =>
      -- the listener does not navigate, so any positive depth would do
      obtain ⟨site', hnavigateTo, hshown⟩ :=
        exists_navigateTo_of_reporter 4095 path hreporting
      rw [navigateTranscriptAt_of_yields hregister (yields_navigate_of_path hfound hnavigateTo)]
      refine ⟨rfl, ?_⟩
      rw [Transcript.printed, List.filterMap_append, Except.map, plain_outcomeLines_some,
        expectedAt, ← List.append_assoc, ← hregistry, ← hprints.baseUrl]
      exact congrArg (· ++ _) hshown.printed

/-- The settings of the document, if there is one; nothing if it cannot be read. -/
def settingsOf? : Option (Except FileFault String) → Option Configuration
  | none => some default
  | some (.ok text) => (Configuration.ofDocument text).toOption
  | some (.error _) => none

/-- A URL through the first place where the application's name occurs in it. -/
def derivedBaseUrl? (url application : String) : Option String :=
  if application.isEmpty then none
  else (throughFirst? application.toList url.toList).map String.ofList

/-- The base URL of the command line, or else of the settings, or else derived. -/
def baseUrlFor? (options : NavigateOptions) (settings : Configuration) : Option String :=
  options.baseUrl <|> settings.baseUrl <|> derivedBaseUrl? options.url options.application

/-- The settings can be read, a base URL is found and every template compiles. -/
def IsReady (options : NavigateOptions) (document : Option (Except FileFault String)) : Prop :=
  ∃ settings baseUrl, settingsOf? document = some settings ∧
    baseUrlFor? options settings = some baseUrl ∧
    ∀ template ∈ options.routes, (Route.compile template).isOk

section

variable {options : NavigateOptions} {document : Option (Except FileFault String)}

theorem toOption_configurationOf (options : NavigateOptions)
    (document : Option (Except FileFault String)) :
    (configurationOf options document).toOption = (settingsOf? document).map fun settings =>
      { settings with baseUrl := options.baseUrl <|> settings.baseUrl } := by
  cases document with
  | none => rfl
  | some content =>
      cases content with
      | error fault => rfl
      | ok text =>
          rw [configurationOf, settingsOf?]
          cases Configuration.ofDocument text <;> rfl

theorem toOption_resolveBaseUrl (settings : Configuration) :
    (resolveBaseUrl { settings with baseUrl := options.baseUrl <|> settings.baseUrl }
      ⟨options.url, options.application, none, #[]⟩).toOption = baseUrlFor? options settings := by
  rw [resolveBaseUrl, baseUrlFor?, derivedBaseUrl?]
  cases options.baseUrl with
  | some url => rfl
  | none =>
      cases settings.baseUrl with
      | some url => rfl
      | none =>
          cases throughFirst? options.application.toList options.url.toList with
          | none => cases options.application.isEmpty <;> rfl
          | some start => cases options.application.isEmpty <;> simp [Except.toOption]

/-- Without a base URL nothing is registered. -/
theorem navigateTranscript_of_none
    (h : (settingsOf? document).bind (baseUrlFor? options) = none) :
    (navigateTranscript options document).failure.isSome ∧
      (navigateTranscript options document).printed = [] := by
  have hconfiguration := toOption_configurationOf options document
  rw [navigateTranscript]
  cases hsettings : settingsOf? document with
  | none =>
      rw [hsettings, Option.map_none, toOption_eq_none_iff] at hconfiguration
      obtain ⟨failure, hfailure⟩ := hconfiguration
      rw [hfailure]
      exact ⟨rfl, rfl⟩
  | some settings =>
      rw [hsettings, Option.bind_some, ← toOption_resolveBaseUrl, toOption_eq_none_iff] at h
      rw [hsettings, Option.map_some, toOption_eq_some_iff] at hconfiguration
      obtain ⟨error, hbaseUrl⟩ := h
      rw [hconfiguration]
      simp only [Site.create, hbaseUrl]
      exact ⟨rfl, rfl⟩

theorem navigateTranscript_of_some {settings : Configuration} {baseUrl : String}
    (hsettings : settingsOf? document = some settings)
    (hbaseUrl : baseUrlFor? options settings = some baseUrl) :
    ∃ site : Site Unit, site.router.baseUrl = baseUrl ∧ site.router.registry = .empty ∧
      site.host.url = options.url ∧ printedAt site = [] ∧
      (navigateTranscript options document).failure =
        (navigateTranscriptAt site options.routes).failure ∧
      (navigateTranscript options document).printed =
        (navigateTranscriptAt site options.routes).printed := by
  have hconfiguration := toOption_configurationOf options document
  rw [hsettings, Option.map_some, toOption_eq_some_iff] at hconfiguration
  rw [← toOption_resolveBaseUrl, toOption_eq_some_iff] at hbaseUrl
  rw [navigateTranscript, hconfiguration]
  simp only [Site.create, hbaseUrl]
  exact ⟨_, rfl, rfl, rfl, rfl, rfl, rfl⟩

theorem isOk_compile_iff_eraseDups {templates : List String} :
    (∀ template ∈ templates, (Route.compile template).isOk) ↔
      ∃ routes, templates.eraseDups.mapM Route.compile = .ok routes := by
  have hall : (∀ template ∈ templates, (Route.compile template).isOk) ↔
      (templates.eraseDups.mapM Route.compile).isOk := by
    simp only [isOk_mapM_iff, List.mem_eraseDups]
  rw [hall]
  cases templates.eraseDups.mapM Route.compile <;> simp [Except.isOk, Except.toBool]

theorem navigateTranscript_of_not_isReady (h : ¬ IsReady options document) :
    (navigateTranscript options document).failure.isSome ∧
      (navigateTranscript options document).printed = [] := by
  cases hsettings : settingsOf? document with
  | none => exact navigateTranscript_of_none (by rw [hsettings, Option.bind_none])
  | some settings =>
      cases hbaseUrl : baseUrlFor? options settings with
      | none => exact navigateTranscript_of_none (by rw [hsettings, Option.bind_some, hbaseUrl])
      | some baseUrl =>
          obtain ⟨site, -, hempty, -, hnone, hfailure, hprinted⟩ :=
            navigateTranscript_of_some hsettings hbaseUrl
          cases hall : options.routes.mapM Route.compile with
          | error error =>
              obtain ⟨hfails, hlines⟩ := navigateTranscriptAt_of_error hempty hall
              exact ⟨hfailure ▸ hfails, hprinted.trans (hlines.trans hnone)⟩
          | ok routes =>
              refine absurd ⟨settings, baseUrl, hsettings, hbaseUrl, isOk_mapM_iff.mp ?_⟩ h
              rw [hall]
              rfl

theorem navigateTranscript_of_compiled {settings : Configuration} {baseUrl : String}
    {routes : List Route} (hsettings : settingsOf? document = some settings)
    (hbaseUrl : baseUrlFor? options settings = some baseUrl)
    (hroutes : options.routes.eraseDups.mapM Route.compile = .ok routes) :
    ∃ router : Router Unit, router.baseUrl = baseUrl ∧
      (navigateTranscript options document).failure = none ∧
      (navigateTranscript options document).printed =
        expectedAt baseUrl (fun route => options.routes.count route.template) routes
          (router.pathOf? options.url) := by
  obtain ⟨site, rfl, hempty, hurl, hnone, hfailure, hprinted⟩ :=
    navigateTranscript_of_some hsettings hbaseUrl
  have hok := isOk_mapM_iff.mpr (isOk_compile_iff_eraseDups.mpr ⟨routes, hroutes⟩)
  cases hall : options.routes.mapM Route.compile with
  | error error =>
      rw [hall] at hok
      cases hok
  | ok compiled =>
      have hsame := (entries_reporting hall).1
      rw [hroutes, Except.ok.injEq] at hsame
      obtain ⟨hsucceeds, hlines⟩ := navigateTranscriptAt_of_ok hempty hall
      rw [hnone, List.nil_append, ← hsame, hurl] at hlines
      exact ⟨site.router, rfl, hfailure.trans hsucceeds, hprinted.trans hlines⟩

theorem failure_eq_none_iff :
    (navigateTranscript options document).failure = none ↔ IsReady options document := by
  constructor
  · intro hnone
    by_contra hready
    have hfails := (navigateTranscript_of_not_isReady hready).1
    rw [hnone] at hfails
    cases hfails
  · rintro ⟨settings, baseUrl, hsettings, hbaseUrl, hall⟩
    obtain ⟨routes, hroutes⟩ := isOk_compile_iff_eraseDups.mp hall
    obtain ⟨-, -, hnone, -⟩ := navigateTranscript_of_compiled hsettings hbaseUrl hroutes
    exact hnone

end

section

variable {templates : List String} {routes : List Route}

theorem map_template_of_mapM_compile (h : templates.mapM Route.compile = .ok routes) :
    routes.map (·.template) = templates := by
  rw [← List.forall₂_eq_eq_eq, List.forall₂_map_left_iff]
  exact (mapM_eq_ok_iff_forall₂.mp h).flip.imp fun _ _ hroute => (Route.compile_eq_ok hroute).1

theorem compile_template_of_mapM_compile (h : templates.mapM Route.compile = .ok routes)
    {route : Route} (hroute : route ∈ routes) : Route.compile route.template = .ok route := by
  obtain ⟨index, hindex⟩ := List.mem_iff_getElem?.mp hroute
  obtain ⟨template, -, hcompile⟩ :=
    exists_getElem?_of_forall₂ (mapM_eq_ok_iff_forall₂.mp h) hindex
  rwa [(Route.compile_eq_ok hcompile).1]

end

/-- The output is a row of lines, of which some are of the log. The command fails, before it has
printed any other line, exactly if the settings cannot be read, no base URL is found or a template
does not compile. Otherwise it prints a line for every listener of every template that matches the
path of the URL, each telling the template and the values, and the report of the navigation. -/
theorem navigate_reports_every_match (options : NavigateOptions)
    (document : Option (Except FileFault String)) (verbose : Bool) :
    let t := navigateTranscript options document
    let outcome := Invocation.outcome document (some (.perform verbose (.navigate options)))
    outcome.output = String.join (t.lines.map (·.output verbose)) ∧
    (outcome.exitCode = 0 ↔ IsReady options document) ∧
    (outcome.exitCode ≠ 0 → outcome.exitCode = 1 ∧ t.printed = []) ∧
    ∀ {settings baseUrl routes}, settingsOf? document = some settings →
      baseUrlFor? options settings = some baseUrl →
      options.routes.eraseDups.mapM Route.compile = .ok routes →
      routes.map (·.template) = options.routes.eraseDups ∧
      ((∀ rest, options.url ≠ baseUrl ++ "/" ++ rest) → t.printed = []) ∧
      ∀ rest, options.url = baseUrl ++ "/" ++ rest →
        let path := Text.Percent.decode rest
        let times := fun route : Route => options.routes.count route.template
        let navigation := arrival baseUrl path times routes
        t.printed = matchLines path times routes ++ [navigation.report.pretty ""] ∧
        (∀ route ∈ routes, route.accepts path →
          TellsMatch route path (matchLine route path)) ∧
        Json.Spells navigation.datum (navigation.report.pretty "") := by
  intro t outcome
  have hexit : outcome.exitCode = if t.failure.isSome then 1 else 0 := rfl
  refine ⟨t.output_outcome verbose, ?_, ?_, ?_⟩
  · rw [hexit, ← failure_eq_none_iff]
    cases t.failure <;> simp
  · intro hfails
    have hready : ¬ IsReady options document := by
      rw [← failure_eq_none_iff]
      intro hnone
      exact hfails (by rw [hexit, hnone]; rfl)
    obtain ⟨hsome, hprinted⟩ := navigateTranscript_of_not_isReady hready
    exact ⟨by rw [hexit, if_pos hsome], hprinted⟩
  · intro settings baseUrl routes hsettings hbaseUrl hroutes
    obtain ⟨router, rfl, -, hprinted⟩ := navigateTranscript_of_compiled hsettings hbaseUrl hroutes
    refine ⟨map_template_of_mapM_compile hroutes, fun houtside => ?_, fun rest hurl => ?_⟩
    · rw [hprinted, pathOf?_eq_none houtside, expectedAt]
    · intro path times navigation
      refine ⟨?_, fun route hroute haccepts => ?_, navigation.spells_report⟩
      · rw [hprinted, hurl, pathOf?_eq_some, expectedAt]
      · exact tellsMatch_report (compile_template_of_mapM_compile hroutes hroute) haccepts

/-- A template given twice, and a URL with an escape. -/
def repeatedOptions : NavigateOptions where
  url := "h/app/a%20b"
  application := "app"
  baseUrl := none
  configuration := some "settings.json"
  routes := [":x", "a b", "z", ":x"]

def namedRoute : Route := ⟨":x", ⟨.named "x" .text, []⟩⟩

def literalRoute : Route := ⟨"a b", ⟨.literal "a b", []⟩⟩

def repeatedRoutes : List Route := [namedRoute, literalRoute, ⟨"z", ⟨.literal "z", []⟩⟩]

theorem matchLine_namedRoute : matchLine namedRoute "a b" =
    "\x7b\"template\":\":x\",\"values\":\x7b\"x\":\"a b\"\x7d\x7d" := by
  have hvalues : Event.values ⟨namedRoute, "a b"⟩ = [("x", .text "a b")] := rfl
  rw [matchLine, Event.report, hvalues, valuesToJson, List.mergeSort_singleton]
  decide +kernel

theorem matchLine_literalRoute : matchLine literalRoute "a b" =
    "\x7b\"template\":\"a b\",\"values\":\x7b\x7d\x7d" := by
  have hvalues : Event.values ⟨literalRoute, "a b"⟩ = [] := rfl
  rw [matchLine, Event.report, hvalues, valuesToJson, List.mergeSort_nil]
  decide +kernel

theorem navigate_reports_every_match_repeated :
    let document : Option (Except FileFault String) := some (.ok "[null,\"abort\"]")
    let elsewhere := { repeatedOptions with baseUrl := some "i" }
    let broken := { repeatedOptions with routes := [":x", ":"] }
    let t := navigateTranscript repeatedOptions document
    (Invocation.outcome document (some (.perform true (.navigate repeatedOptions)))).output =
        String.join (t.lines.map (·.output true)) ∧
      t.printed =
        ["\x7b\"template\":\":x\",\"values\":\x7b\"x\":\"a b\"\x7d\x7d",
          "\x7b\"template\":\":x\",\"values\":\x7b\"x\":\"a b\"\x7d\x7d",
          "\x7b\"template\":\"a b\",\"values\":\x7b\x7d\x7d",
          "\x7b\n  \"path\": \"a b\",\n  \"matched\": [\n    \":x\",\n    \"a b\"\n  ],\n" ++
            "  \"invoked\": 3,\n  \"address\": \"h/app/a%20b\"\n\x7d"] ∧
      TellsMatch namedRoute "a b" (matchLine namedRoute "a b") ∧
      (navigateTranscript elsewhere document).printed = [] ∧
      (navigateTranscript broken document).printed = [] := by
  intro document elsewhere broken t
  have hsettings : settingsOf? document = some ⟨none, .abort⟩ := by decide +kernel
  have hbaseUrl : baseUrlFor? repeatedOptions ⟨none, .abort⟩ = some "h/app" := by decide +kernel
  have hroutes : repeatedOptions.routes.eraseDups.mapM Route.compile = .ok repeatedRoutes := by
    decide +kernel
  have hpath : Text.Percent.decode "a%20b" = "a b" := by decide +kernel
  obtain ⟨houtput, -, -, hready⟩ := navigate_reports_every_match repeatedOptions document true
  obtain ⟨-, -, hunder⟩ := hready hsettings hbaseUrl hroutes
  obtain ⟨hprinted, htells, -⟩ := hunder "a%20b" rfl
  rw [hpath] at hprinted htells
  refine ⟨houtput, ?_, htells namedRoute (by decide) (by decide +kernel), ?_, ?_⟩
  · have hmatching : repeatedRoutes.filter (·.accepts "a b") = [namedRoute, literalRoute] := by
      decide +kernel
    have hlines : matchLines "a b" (fun route => repeatedOptions.routes.count route.template)
        repeatedRoutes = [matchLine namedRoute "a b", matchLine namedRoute "a b",
          matchLine literalRoute "a b"] := by
      rw [matchLines, hmatching]
      rfl
    have harrival : arrival "h/app" "a b"
        (fun route => repeatedOptions.routes.count route.template) repeatedRoutes =
        ⟨"a b", [":x", "a b"], 3, some "h/app/a%20b"⟩ := by decide +kernel
    rw [harrival, hlines, matchLine_namedRoute, matchLine_literalRoute] at hprinted
    rw [hprinted]
    decide +kernel
  · refine ((navigate_reports_every_match elsewhere document false).2.2.2 hsettings rfl
      hroutes).2.1 ?_
    intro rest h
    have hfirst := congrArg (fun url => url.toList.head?) h
    simp [elsewhere, repeatedOptions] at hfirst
  · have hbroken : ¬ IsReady broken document := by
      rintro ⟨_, _, _, _, hall⟩
      have hcompiles : ¬ (Route.compile ":").isOk := by decide +kernel
      exact hcompiles (hall ":" (by decide))
    obtain ⟨-, hexit, hfails, -⟩ := navigate_reports_every_match broken document false
    exact (hfails (mt hexit.mp hbroken)).2

end Command
end Wayfinding
