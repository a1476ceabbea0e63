import Wayfinding.Json.Value

/-!
The settings of a router and the document that writes them.
-/

namespace Wayfinding

/-- What a failing listener does to the navigation that called it. -/
inductive FailurePolicy where
  /-- The navigation goes on and reports every failure at its end. -/
  | collect
  /-- The navigation ends at the first failure and pushes no address. -/
  | abort
  deriving DecidableEq, Repr

namespace FailurePolicy

def name : FailurePolicy → String
  | collect => "collect"
  | abort => "abort"

def ofName? : String → Option FailurePolicy
  | "collect" => some collect
  | "abort" => some abort
  | _ => none

theorem ofName?_name (policy : FailurePolicy) : ofName? policy.name = some policy := by
  cases policy <;> rfl

end FailurePolicy

structure Configuration where
  /-- A base URL that takes precedence over the host's. -/
  baseUrl : Option String
  listenerFailure : FailurePolicy
  deriving DecidableEq, Repr

namespace Configuration

instance : Inhabited Configuration := ⟨none, .collect⟩

inductive Field where
  | baseUrl
  | listenerFailure
  deriving DecidableEq, Repr

def Field.name : Field → String
  | .baseUrl => "base_url"
  | .listenerFailure => "listener_failure"

def Field.ofName? : String → Option Field
  | "base_url" => some .baseUrl
  | "listener_failure" => some .listenerFailure
  | _ => none

def toJson (c : Configuration) : Json.Value :=
  .object
    [(Field.baseUrl.name, .ofOption (c.baseUrl.map .text)),
      (Field.listenerFailure.name, .text c.listenerFailure.name)]

/-- The document that writes a configuration. -/
def document (c : Configuration) : String := c.toJson.compact

end Configuration
end Wayfinding
