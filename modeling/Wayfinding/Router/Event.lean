import Wayfinding.Route.Match
import Wayfinding.Text.Quoted

/-!
What a listener is told: the path navigated to and the route that it matches.
-/

namespace Wayfinding

structure Event where
  route : Route
  path : String
  deriving DecidableEq, Repr

namespace Event

def template (event : Event) : String := event.route.template

def value (event : Event) (name : String) : Option Value :=
  event.route.value event.path name

/-- The value of every named segment; none at all if the path does not match. -/
def values (event : Event) : List (String × Value) :=
  (event.route.values event.path).getD []

def toText (event : Event) : String :=
  event.path ++ " -> " ++ event.template

/-- The event spelled out with its fields. -/
def describe (event : Event) : String :=
  "RouteMatchEvent \x7b route: " ++ Text.quoted event.template ++ ", path: " ++
    Text.quoted event.path ++ " \x7d"

end Event
end Wayfinding
