import Wayfinding.Path
import Wayfinding.Pattern
import Wayfinding.Route.Part

/-!
Routes: templates whose parts have been read. A template is refused where a named segment is
malformed or declared twice, the leftmost such component being the one reported, or where
its pattern grows too large.
-/

namespace Wayfinding

structure Route where
  template : String
  parts : Delimited Part
  deriving DecidableEq, Repr

inductive TemplateError where
  | malformed (template token : String) (fault : TokenFault)
  | duplicate (template name : String)
  | tooLarge (template : String)
  deriving DecidableEq, Repr

namespace TemplateError

/-- What lies behind a refusal for size. -/
def sizeText : String :=
  "Compiled regex exceeds size limit of " ++ toString Pattern.sizeLimit ++ " bytes."

def detail : TemplateError → String
  | malformed _ token fault => "token `" ++ token ++ "` " ++ fault.reason
  | duplicate _ name => "segment `" ++ name ++ "` is declared twice"
  | tooLarge _ => sizeText

def template : TemplateError → String
  | malformed template _ _ | duplicate template _ | tooLarge template => template

def message (error : TemplateError) : String :=
  "invalid route template `" ++ error.template ++ "`: " ++ error.detail

end TemplateError

namespace Route

/-- Reads a component where the segments `declared` came before. -/
def readPart (template : String) (declared : List String) (component : String) :
    Except TemplateError Part :=
  match Part.read component with
  | .error fault => .error (.malformed template component fault)
  | .ok part =>
    match part.name? with
    | some name =>
      if declared.contains name then .error (.duplicate template name) else .ok part
    | none => .ok part

def readRest (template : String) :
    List String → List (Delimiter × String) → Except TemplateError (List (Delimiter × Part))
  | _, [] => .ok []
  | declared, (delimiter, component) :: rest => do
    let part ← readPart template declared component
    let parts ← readRest template (part.name?.toList ++ declared) rest
    pure ((delimiter, part) :: parts)

def readParts (template : String) : Except TemplateError (Delimited Part) := do
  let pieces := Delimited.ofString template
  let first ← readPart template [] pieces.first
  let rest ← readRest template first.name?.toList pieces.rest
  pure ⟨first, rest⟩

/-- A literal stands for its characters; every other part for a run of any characters, which
may hold slashes. -/
def partPattern : Part → Pattern
  | .literal text => text.toList.map .char
  | .wildcard | .named _ _ => [.anyRun]

/-- The parts with slashes between them, and a slash more if the text has one. -/
def pattern (route : Route) : Pattern :=
  partPattern route.parts.first ++
    route.parts.rest.flatMap (fun (_, part) => .char '/' :: partPattern part) ++
    [.optional '/']

def compile (template : String) : Except TemplateError Route := do
  let route : Route := ⟨template, ← readParts template⟩
  if route.pattern.size ≤ Pattern.sizeLimit then pure route
  else throw (.tooLarge template)

/-- The named segments in the order of the template. -/
def segments (route : Route) : List Segment :=
  route.parts.toList.zipIdx.filterMap fun (part, position) => part.segment? position

def segment? (route : Route) (name : String) : Option Segment :=
  route.segments.find? (·.name == name)

def hasSegments (route : Route) : Bool :=
  !route.segments.isEmpty

/-- What a part becomes in a path, given a text for each named segment. -/
def fillPart (texts : String → Option String) : Part → Option (List Char)
  | .literal text => some text.toList
  | .wildcard => none
  | .named name _ => (texts name).map String.toList

/-- Builds a path from a text for each named segment. There is none for a template with a
wildcard, nor where a segment has no text. -/
def reverse (route : Route) (texts : String → Option String) : Option String := do
  let first ← fillPart texts route.parts.first
  let rest ← route.parts.rest.mapM fun (delimiter, part) =>
    (fillPart texts part).map (delimiter, ·)
  pure (String.ofList (Delimited.write ⟨first, rest⟩))

end Route
end Wayfinding
