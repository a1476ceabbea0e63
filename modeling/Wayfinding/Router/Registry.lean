import Std.Data.HashMap
import Wayfinding.Route.Basic

/-!
Templates in the order of their first registration, each with its route and its listeners in
the order of theirs. An index finds a template's entry. Registering a list of templates takes
all of them or none.
-/

namespace Wayfinding

structure Registration (α : Type) where
  route : Route
  listeners : Array α

structure Registry (α : Type) where
  entries : Array (Registration α)
  index : Std.HashMap String Nat

namespace Registry

variable {α : Type}

def empty : Registry α := ⟨#[], ∅⟩

def find? (r : Registry α) (template : String) : Option (Registration α) := do
  r.entries[← r.index[template]?]?

def templates (r : Registry α) : List String :=
  r.entries.toList.map (·.route.template)

def listenerCount (r : Registry α) (template : String) : Nat :=
  match r.find? template with
  | some entry => entry.listeners.size
  | none => 0

/-- Adds a listener to the entry of a route's template, which is made if there is none. -/
def add (r : Registry α) (route : Route) (listener : α) : Registry α :=
  match r.index[route.template]? with
  | some slot =>
    { r with
      entries := r.entries.modify slot fun entry =>
        { entry with listeners := entry.listeners.push listener } }
  | none =>
    { entries := r.entries.push ⟨route, #[listener]⟩
      index := r.index.insert route.template r.entries.size }

/-- The route of a template, which is compiled unless the template is registered. -/
def resolve (r : Registry α) (template : String) : Except TemplateError Route :=
  match r.find? template with
  | some entry => .ok entry.route
  | none => Route.compile template

def resolveAll (r : Registry α) (templates : List String) : Except TemplateError (List Route) :=
  templates.mapM r.resolve

/-- The routes compiled on the way to resolving templates in order, as far as that goes. -/
def compiledFor (r : Registry α) : List String → List Route
  | [] => []
  | template :: rest =>
    match r.find? template with
    | some _ => r.compiledFor rest
    | none =>
      match Route.compile template with
      | .ok route => route :: r.compiledFor rest
      | .error _ => []

/-- Adds a listener to every one of the templates, as often as the template occurs. -/
def register (r : Registry α) (templates : List String) (listener : α) :
    Except TemplateError (Registry α) := do
  let routes ← r.resolveAll templates
  pure (routes.foldl (fun r route => r.add route listener) r)

/-- Removes every listener and keeps the templates. -/
def clear (r : Registry α) : Registry α :=
  { r with entries := r.entries.map fun entry => { entry with listeners := #[] } }

end Registry
end Wayfinding
