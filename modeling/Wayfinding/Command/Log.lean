import Wayfinding.Router.Site
import Wayfinding.Text.Terminal

/-!
The log of the command line: a line for each occurrence that is worth one.
-/

namespace Wayfinding.Command

inductive Severity where
  | debug
  | info
  | warn
  deriving DecidableEq, Repr

/-- The severity in five columns. -/
def Severity.label : Severity → String
  | debug => "DEBUG"
  | info => " INFO"
  | warn => " WARN"

inductive Line where
  | log (severity : Severity) (text : String)
  | plain (text : String)
  deriving DecidableEq, Repr

/-- The text of a line, unless it is for a verbose log only. -/
def Line.text? (verbose : Bool) : Line → Option String
  | .log .debug text => if verbose then some (Severity.debug.label ++ " " ++ text) else none
  | .log severity text => some (severity.label ++ " " ++ text)
  | .plain text => some text

/-- A message, made safe for a terminal, with named fields after it as they are. -/
def withFields (message : String) (fields : List (String × String)) : String :=
  fields.foldl (fun text (name, value) => text ++ " " ++ name ++ "=" ++ value)
    (Text.disarmed message)

def Line.entry (severity : Severity) (message : String) (fields : List (String × String)) :
    Line :=
  .log severity (withFields message fields)

open Text (quoted)

def routeLine (route : Route) : Line :=
  .entry .debug "compiled route"
    [("template", quoted route.template), ("pattern", route.pattern.write),
      ("segments", toString route.segments.length)]

def misreadingLine : Misreading → Line
  | .integer raw fault =>
    .entry .debug "segment is not an integer"
      [("raw", quoted raw), ("error", fault.message)]
  | .decimal raw fault =>
    .entry .debug "segment is not a decimal"
      [("raw", quoted raw), ("error", fault.message)]

def lineOf? : Occurrence → Option Line
  | .created baseUrl => some (.entry .debug "router created" [("base_url", baseUrl)])
  | .compiled route => some (routeLine route)
  | .registered templates routes =>
    some (.entry .info "registered route listener"
      [("templates", toString templates.length), ("routes", toString routes)])
  | .outside url baseUrl =>
    some (.entry .debug "URL outside base URL, ignored" [("url", url), ("base_url", baseUrl)])
  | .misread misreading => some (misreadingLine misreading)
  | .matched template path =>
    some (.entry .debug "route matched" [("template", quoted template), ("path", quoted path)])
  | .failed failure =>
    some (.entry .warn "route listener failed"
      [("template", quoted failure.template), ("index", toString failure.index),
        ("error", failure.error)])
  | .navigated path matched invoked =>
    some (.entry .info "navigated"
      [("path", quoted path), ("matched", toString matched), ("invoked", toString invoked)])
  | .printed line => some (.plain line)
  | .cleared | .started _ _ | .routed _ _ | .pushed _ _ => none

end Wayfinding.Command
