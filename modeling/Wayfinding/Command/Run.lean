import Wayfinding.Command.Arguments
import Wayfinding.Command.FileTree
import Wayfinding.Command.Log
import Wayfinding.Command.Report
import Wayfinding.Configuration.Reader
import Wayfinding.Router.Dispatch

/-!
What the command line prints. `check` matches paths against one template; `navigate`
registers templates on a host that shows a URL, navigates to that URL and prints a line for
every call of a listener and a report at the end.
-/

namespace Wayfinding.Command

/-- An error that ends the program, and what lies behind it. -/
structure Failure where
  message : String
  cause : Option String
  deriving DecidableEq, Repr

namespace Failure

def ofTemplateError (error : TemplateError) : Failure :=
  ⟨error.message, match error with
    | .tooLarge _ => some error.detail
    | .malformed _ _ _ | .duplicate _ _ => none⟩

def ofFault (fault : Configuration.Fault) : Failure :=
  ⟨fault.message, some fault.detail⟩

/-- The text with every line of it indented. -/
def indented (text : String) : String :=
  String.ofList
    (text.toList.flatMap fun c => if c = '\n' then '\n' :: [' ', ' ', ' ', ' '] else [c])

def text (failure : Failure) : String :=
  "Error: " ++ failure.message ++
    match failure.cause with
    | some cause => "\n\nCaused by:\n    " ++ indented cause ++ "\n"
    | none => "\n"

end Failure

/-- The lines printed, and the error at their end, if any. -/
structure Transcript where
  lines : List Line
  failure : Option Failure
  deriving DecidableEq, Repr

def misreadingLines (route : Route) (path : String) : List Line :=
  (route.misreading? path).toList.map misreadingLine

/-- The path is matched twice, once for the answer and once for the values. -/
def checkLines (route : Route) (path : String) : List Line :=
  misreadingLines route path ++ misreadingLines route path ++
    [.plain (route.report path).compact]

def checkTranscript (template : String) (paths : List String) : Transcript :=
  match Route.compile template with
  | .error error => ⟨[], some (.ofTemplateError error)⟩
  | .ok route =>
    ⟨routeLine route :: .entry .info ("Pattern: " ++ route.pattern.write) [] ::
      paths.flatMap (checkLines route), none⟩

/-- Reads the configuration, given the contents of its document, and puts the base URL of
the command line in front of that of the document. -/
def configurationOf (options : NavigateOptions) (document : Option (Except FileFault String)) :
    Except Failure Configuration := do
  let configuration ←
    match document with
    | none => pure default
    | some (.error fault) => throw ⟨fault.message, none⟩
    | some (.ok text) => (Configuration.ofDocument text).mapError .ofFault
  pure { configuration with baseUrl := options.baseUrl <|> configuration.baseUrl }

/-- The listener of every template: it prints the template and the values. -/
def reporter : Listener Unit := fun event =>
  .print event.report.compact (.finish (.ok ()))

def outcomeLines (site : Site Unit) :
    Except DispatchError (Option Navigation) → List Line × Option Failure
  | .error error => ([], some ⟨error.message, none⟩)
  | .ok none =>
    ([.entry .info ("URL is outside " ++ site.router.baseUrl ++ ", nothing to do") []], none)
  | .ok (some n) =>
    (.plain (n.report.pretty "") ::
      if n.isMatch then [] else [.entry .info ("No route matched " ++ n.path) []], none)

def journalLines (site : Site Unit) : List Line :=
  site.journal.toList.filterMap lineOf?

/-- Registers the templates at a new site and navigates to the URL that its host shows. -/
def navigateTranscriptAt (site : Site Unit) (routes : List String) : Transcript :=
  match site.register routes reporter with
  | (.error error, site) => ⟨journalLines site, some (.ofTemplateError error)⟩
  | (.ok (), site) =>
    match StateT.run Site.navigate site with
    | none => ⟨journalLines site, some ⟨"navigations nest too deeply", none⟩⟩
    | some (outcome, site) =>
      let (lines, failure) := outcomeLines site outcome
      ⟨journalLines site ++ lines, failure⟩

def navigateTranscript (options : NavigateOptions) (document : Option (Except FileFault String)) :
    Transcript :=
  match configurationOf options document with
  | .error failure => ⟨[], some failure⟩
  | .ok configuration =>
    match Site.create configuration ⟨options.url, options.application, none, #[]⟩ () with
    | .error error => ⟨[], some ⟨error.message, none⟩⟩
    | .ok site =>
      let found := Line.entry .info ("Base URL: " ++ site.router.baseUrl) []
      let rest := navigateTranscriptAt { site with journal := #[] } options.routes
      { rest with lines := journalLines site ++ found :: rest.lines }

/-- The document that a task reads before anything else. -/
def Task.document? : Task → Option String
  | .check _ _ => none
  | .navigate options => options.configuration

def Task.transcript (document : Option (Except FileFault String)) : Task → Transcript
  | .check template paths => checkTranscript template paths
  | .navigate options => navigateTranscript options document

/-- What a program leaves behind. -/
structure Outcome where
  exitCode : Nat
  output : String
  errors : String
  deriving DecidableEq, Repr

def versionText : String := "oxide-nav 0.1.0\n"

def usageText : String :=
  "Usage: oxide-nav [-v] check TEMPLATE PATH...\n" ++
  "       oxide-nav [-v] navigate -u URL -a APP [-b BASE_URL] [-c CONFIG] -r TEMPLATE...\n"

def Transcript.outcome (verbose : Bool) (t : Transcript) : Outcome where
  exitCode := if t.failure.isSome then 1 else 0
  output := String.join ((t.lines.filterMap (·.text? verbose)).map (· ++ "\n"))
  errors := match t.failure with
    | some failure => failure.text
    | none => ""

/-- What an invocation comes to, given the contents of the document that it names. A command
line that could not be read is a usage error. -/
def Invocation.outcome (document : Option (Except FileFault String)) : Option Invocation → Outcome
  | none => ⟨2, "", usageText⟩
  | some .version => ⟨0, versionText, ""⟩
  | some .help => ⟨0, usageText, ""⟩
  | some (.perform verbose task) => (task.transcript document).outcome verbose

/-- The path of the document that an invocation reads. -/
def Invocation.document? : Option Invocation → Option String
  | some (.perform _ task) => task.document?
  | _ => none

/-- What a command line finds around it. -/
structure Surroundings where
  /-- The application's name from the environment. -/
  application : Option String
  files : FileTree

/-- What a command line comes to in its surroundings. -/
def run (surroundings : Surroundings) (arguments : List String) : Outcome :=
  let invocation := Invocation.read surroundings.application false arguments
  Invocation.outcome ((Invocation.document? invocation).map surroundings.files.read) invocation

end Wayfinding.Command
