import Wayfinding.Configuration.Basic
import Wayfinding.Router.Host
import Wayfinding.Router.Program
import Wayfinding.Router.Registry
import Wayfinding.Text.Percent

/-!
A router at work: its own state, its host, the state that listeners keep, and a journal of
what happened. The journal is what the log is written from.
-/

namespace Wayfinding

structure Router (σ : Type) where
  baseUrl : String
  listenerFailure : FailurePolicy
  registry : Registry (Listener σ)
  /-- The path of the navigation that was the last one to find a match. -/
  currentRoute : String

namespace Router

variable {σ : Type}

/-- The address of a path: the base URL, a slash and the path with escapes. -/
def addressFor (router : Router σ) (path : String) : String :=
  router.baseUrl ++ "/" ++ Text.Percent.encode path

/-- The path that a URL spells, if the URL starts with the base URL and a slash. -/
def pathOf? (router : Router σ) (url : String) : Option String :=
  ((router.baseUrl ++ "/").toList.isPrefixOf? url.toList).map fun spelling =>
    Text.Percent.decode (String.ofList spelling)

/-- The router spelled out with some of its fields. -/
def describe (router : Router σ) : String :=
  "Router \x7b base_url: " ++ Text.quoted router.baseUrl ++ ", current_route: " ++
    Text.quoted router.currentRoute ++ ", templates: " ++
    Text.quotedList router.registry.templates ++ ", .. \x7d"

end Router

/-- The text through the first place where `name` occurs in it. -/
def throughFirst? (name : List Char) : List Char → Option (List Char)
  | [] => if name.isEmpty then some [] else none
  | c :: rest =>
    if name.isPrefixOf (c :: rest) then some name
    else (throughFirst? name rest).map (c :: ·)

/-- The configured base URL, or else the one that the host knows, or else the host's URL
through the first place where the application's name occurs. -/
def resolveBaseUrl (configuration : Configuration) (host : Host) : Except BaseUrlError String :=
  match configuration.baseUrl <|> host.cachedBaseUrl with
  | some url => .ok url
  | none =>
    match throughFirst? host.application.toList host.url.toList with
    | some start =>
      if host.application.isEmpty then .error ⟨host.url, host.application⟩
      else .ok (String.ofList start)
    | none => .error ⟨host.url, host.application⟩

/-- Something that happened. Navigations are numbered in the order in which they start. -/
inductive Occurrence where
  | created (baseUrl : String)
  | compiled (route : Route)
  | registered (templates : List String) (routes : Nat)
  | cleared
  | outside (url baseUrl : String)
  | started (number : Nat) (path : String)
  | misread (misreading : Misreading)
  | matched (template path : String)
  /-- The navigation found its first match and made its path the current route. -/
  | routed (number : Nat) (path : String)
  | failed (failure : ListenerFailure)
  | pushed (number : Nat) (address : String)
  | navigated (path : String) (matched invoked : Nat)
  | printed (line : String)
  deriving DecidableEq, Repr

structure Site (σ : Type) where
  router : Router σ
  host : Host
  client : σ
  /-- How many navigations have started. -/
  navigations : Nat
  journal : Array Occurrence

/-- A run at a site. It has no outcome where navigations nest deeper than they may. -/
abbrev Run (σ α : Type) := StateT (Site σ) Option α

/-- A way to navigate to a path. -/
abbrev Navigator (σ : Type) := String → Run σ (Except DispatchError Navigation)

namespace Site

variable {σ : Type}

/-- A new router on a host. -/
def create (configuration : Configuration) (host : Host) (client : σ) :
    Except BaseUrlError (Site σ) := do
  let baseUrl ← resolveBaseUrl configuration host
  pure {
    router := {
      baseUrl := baseUrl
      listenerFailure := configuration.listenerFailure
      registry := .empty
      currentRoute := "" }
    host := host
    client := client
    navigations := 0
    journal := #[.created baseUrl] }

def view (site : Site σ) : View where
  baseUrl := site.router.baseUrl
  currentRoute := site.router.currentRoute
  templates := site.router.registry.templates
  listenerCount := site.router.registry.listenerCount
  url := site.host.url
  history := site.host.history.toList

def note (site : Site σ) (occurrence : Occurrence) : Site σ :=
  { site with journal := site.journal.push occurrence }

def setRegistry (site : Site σ) (registry : Registry (Listener σ)) : Site σ :=
  { site with router := { site.router with registry := registry } }

def setCurrentRoute (site : Site σ) (path : String) : Site σ :=
  { site with router := { site.router with currentRoute := path } }

def setUrl (site : Site σ) (url : String) : Site σ :=
  { site with host := site.host.setUrl url }

def pushAddress (site : Site σ) (address : String) : Site σ :=
  { site with host := site.host.pushAddress address }

def remember (site : Site σ) (client : σ) : Site σ :=
  { site with client := client }

def clear (site : Site σ) : Site σ :=
  (site.setRegistry site.router.registry.clear).note .cleared

/-- Registers a listener under all templates. If one of them does not compile, nothing is
registered. -/
def register (site : Site σ) (templates : List String) (listener : Listener σ) :
    Except TemplateError Unit × Site σ :=
  let registry := site.router.registry
  let site := (registry.compiledFor templates).foldl (fun site route => site.note (.compiled route))
    site
  match registry.register templates listener with
  | .error error => (.error error, site)
  | .ok registry =>
    (.ok (), (site.setRegistry registry).note (.registered templates registry.entries.size))

end Site
end Wayfinding
