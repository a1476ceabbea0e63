import Wayfinding.Json.Value
import Wayfinding.Router.Program

/-!
Matches and navigations as JSON, for the command line to print.
-/

namespace Wayfinding

def Value.toJson : Value → Json.Value
  | .text s => .text s
  | .integer n => .integer n
  | .decimal d => .text d.text
  | .flag b => .boolean b

/-- Values by name, in the order of the names. -/
def valuesToJson (values : List (String × Value)) : Json.Value :=
  let sorted := values.mergeSort fun a b => a.1 ≤ b.1
  .object (sorted.map fun (name, value) => (name, value.toJson))

/-- Whether a path matches, and its values. -/
def Route.report (route : Route) (path : String) : Json.Value :=
  .object [("matches", .boolean (route.accepts path)), ("path", .text path),
    ("values", .ofOption ((route.values path).map valuesToJson))]

def Event.report (event : Event) : Json.Value :=
  .object [("template", .text event.template), ("values", valuesToJson event.values)]

def Navigation.report (n : Navigation) : Json.Value :=
  .object [("path", .text n.path), ("matched", .list (n.matched.map .text)),
    ("invoked", .integer n.invoked), ("address", .ofOption (n.address.map .text))]

end Wayfinding
