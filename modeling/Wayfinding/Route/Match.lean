import Wayfinding.Route.Basic

/-!
Matching paths against routes. A path matches when its components, joined by slashes, fit
the route's pattern and every named segment reads the component at its own position.
-/

namespace Wayfinding
namespace Route

/-- The components of a path with a slash after each. -/
def slashed (path : String) : List Char :=
  let pieces := Delimited.split path.toList
  pieces.first ++ pieces.rest.flatMap (fun (_, item) => '/' :: item) ++ ['/']

/-- Whether a path has the shape of the template. -/
def fits (route : Route) (path : String) : Bool :=
  route.pattern.acceptsFolded (slashed path)

/-- Whether the pattern accepts a text as it stands, not as a path. -/
def acceptsText (route : Route) (text : String) : Bool :=
  route.pattern.acceptsFolded text.toList

/-- The component at the position of a named segment, whatever its kind. -/
def getText (route : Route) (path name : String) : Option String := do
  let segment ← route.segment? name
  (components path)[segment.position]?

/-- A named segment read as its kind. -/
def value (route : Route) (path name : String) : Option Value := do
  let segment ← route.segment? name
  let raw ← route.getText path name
  segment.kind.parse raw

def valueOfKind (route : Route) (kind : Kind) (path name : String) : Option Value := do
  let segment ← route.segment? name
  if segment.kind = kind then route.value path name else none

def getInteger (route : Route) (path name : String) : Option Int :=
  match route.valueOfKind .integer path name with
  | some (.integer n) => some n
  | _ => none

def getDecimal (route : Route) (path name : String) : Option Decimal :=
  match route.valueOfKind .decimal path name with
  | some (.decimal d) => some d
  | _ => none

def getFlag (route : Route) (path name : String) : Option Bool :=
  match route.valueOfKind .flag path name with
  | some (.flag b) => some b
  | _ => none

/-- Whether every named segment reads its component. -/
def validates (route : Route) (path : String) : Bool :=
  route.segments.all fun segment => (route.value path segment.name).isSome

def accepts (route : Route) (path : String) : Bool :=
  route.fits path && route.validates path

/-- The value of every named segment, if the path matches. -/
def values (route : Route) (path : String) : Option (List (String × Value)) :=
  if route.accepts path then
    route.segments.mapM fun segment => (route.value path segment.name).map (segment.name, ·)
  else none

/-- The component over which a path of the right shape fails to match: that of the first
segment without a value, unless the path is too short to have one. -/
def misreading? (route : Route) (path : String) : Option Misreading := do
  guard (route.fits path)
  let segment ← route.segments.find? fun segment => (route.value path segment.name).isNone
  let raw ← route.getText path segment.name
  match segment.kind.read raw with
  | .error misreading => some misreading
  | .ok _ => none

end Route
end Wayfinding
