import Wayfinding.Router.Dispatch
import Wayfinding.Script.Behaviour

/-!
Sessions: a router on a host that is led through steps from outside. Each step answers with
what it returned, what scripted listeners recorded meanwhile, and the state after it.
-/

namespace Wayfinding.Script

inductive Step where
  /-- Registers a listener. With a key, the listener is made at the first step that has the
  key, and later ones register that same listener again. -/
  | register (templates : List String) (behaviour : Behaviour) (key : Option String)
  | navigateTo (path : String)
  | navigate
  | setUrl (url : String)
  | pushAddress (address : String)
  | clear
  | templates
  | listenerCount (template : String)
  | addressFor (path : String)
  | history
  | describe

inductive Answer where
  | nothing
  | registered (outcome : Except TemplateError Unit)
  | navigation (outcome : Except DispatchError (Option Navigation))
  | texts (items : List String)
  | count (n : Nat)
  | text (s : String)

/-- A step's answer, its records and the state after it. -/
structure Report where
  answer : Answer
  records : List Record
  currentRoute : String
  url : String
  lastAddress : Option String
  pushes : Nat

structure Session where
  site : Site Ledger
  /-- The listeners made so far for keys, with their numbers. -/
  shared : List (String × Listener Ledger)

namespace Session

def create (configuration : Configuration) (host : Host) : Except BaseUrlError Session := do
  pure ⟨← Site.create configuration host .empty, []⟩

/-- Makes a listener that no other step shares. -/
def makeListener (session : Session) (behaviour : Behaviour) : Listener Ledger × Session :=
  let ledger := session.site.client
  (behaviour.listener ledger.counts.size,
    { session with site := session.site.remember ledger.enroll })

def listenerFor (session : Session) (behaviour : Behaviour) :
    Option String → Listener Ledger × Session
  | none => session.makeListener behaviour
  | some key =>
    match session.shared.lookup key with
    | some listener => (listener, session)
    | none =>
      let (listener, session) := session.makeListener behaviour
      (listener, { session with shared := (key, listener) :: session.shared })

def run (session : Session) (run : Run Ledger α) (answer : α → Answer) :
    Option (Answer × Session) := do
  let (outcome, site) ← StateT.run run session.site
  pure (answer outcome, { session with site := site })

def take (session : Session) : Step → Option (Answer × Session)
  | .register templates behaviour key =>
    let (listener, session) := session.listenerFor behaviour key
    session.run (modifyGet (·.register templates listener)) .registered
  | .navigateTo path => session.run (Site.navigateTo path) fun outcome =>
    .navigation (outcome.map some)
  | .navigate => session.run Site.navigate .navigation
  | .setUrl url => session.run (modify (·.setUrl url)) fun () => .nothing
  | .pushAddress address => session.run (modify (·.pushAddress address)) fun () => .nothing
  | .clear => session.run (modify Site.clear) fun () => .nothing
  | .templates => some (.texts session.site.router.registry.templates, session)
  | .listenerCount template =>
    some (.count (session.site.router.registry.listenerCount template), session)
  | .addressFor path => some (.text (session.site.router.addressFor path), session)
  | .history => some (.texts session.site.host.history.toList, session)
  | .describe => some (.text session.site.router.describe, session)

/-- Takes a step with no records from earlier ones. -/
def report (session : Session) (step : Step) : Option (Report × Session) := do
  let site := session.site
  let fresh := site.remember { site.client with records := #[] }
  let (answer, session) ← { session with site := fresh }.take step
  let site := session.site
  pure ({
    answer := answer
    records := site.client.records.toList
    currentRoute := site.router.currentRoute
    url := site.host.url
    lastAddress := site.host.lastAddress?
    pushes := site.host.history.size }, session)

/-- The reports of all steps, if none of them nests navigations too deeply. -/
def reports (session : Session) : List Step → Option (List Report)
  | [] => some []
  | step :: rest => do
    let (report, session) ← session.report step
    let reports ← session.reports rest
    pure (report :: reports)

end Session
end Wayfinding.Script
