/-!
Command lines. An argument is an option, the value of the option before it, or a word. Short
options may stand together behind one dash, and a value may be attached to its option. After
`--` everything is a word.
-/

namespace Wayfinding.Command

inductive Parameter where
  | verbose
  | help
  | version
  | url
  | application
  | baseUrl
  | configuration
  | route
  deriving DecidableEq, Repr

namespace Parameter

def takesValue : Parameter → Bool
  | verbose | help | version => false
  | url | application | baseUrl | configuration | route => true

def ofChar? : Char → Option Parameter
  | 'v' => some verbose
  | 'h' => some help
  | 'V' => some version
  | 'u' => some url
  | 'a' => some application
  | 'b' => some baseUrl
  | 'c' => some configuration
  | 'r' => some route
  | _ => none

def ofName? : String → Option Parameter
  | "verbose" => some verbose
  | "help" => some help
  | "version" => some version
  | "url" => some url
  | "app" => some application
  | "base-url" => some baseUrl
  | "config" => some configuration
  | "route" => some route
  | _ => none

/-- Whether the command line ends where the option stands. -/
def isFinal (p : Parameter) : Bool := p == help || p == version

def mayRepeat (p : Parameter) : Bool := p == route

/-- The path of a configuration is not empty, while every other value may be. -/
def accepts (p : Parameter) (value : String) : Bool := p != configuration || !value.isEmpty

end Parameter

/-- The parts of a command line, which know different options. -/
inductive Level where
  | program
  | check
  | navigate
  deriving DecidableEq, Repr

def Level.knows : Level → Parameter → Bool
  | .program, p => p == .verbose || p == .help || p == .version
  | .check, p => p == .verbose || p == .help
  | .navigate, p => p != .version

inductive Item where
  | flag (p : Parameter)
  | valued (p : Parameter) (value : String)
  | word (s : String)
  deriving DecidableEq, Repr

def isOption (argument : String) : Bool :=
  match argument.toList with
  | '-' :: _ :: _ => true
  | _ => false

/-- Options read from one argument, and the last one if its value is to follow. -/
abbrev Options := List Item × Option Parameter

def readCluster (level : Level) : List Char → Option Options
  | [] => some ([], none)
  | c :: rest => do
    let p ← Parameter.ofChar? c
    guard (level.knows p)
    if p.takesValue then
      match rest with
      | [] => some ([], some p)
      | '=' :: value | value => some ([.valued p (String.ofList value)], none)
    else if p.isFinal then some ([.flag p], none)
    else do
      let (items, awaiting) ← readCluster level rest
      some (.flag p :: items, awaiting)

def readLong (level : Level) (text : List Char) : Option Options := do
  let p ← Parameter.ofName? (String.ofList (text.takeWhile (· != '=')))
  guard (level.knows p)
  match text.dropWhile (· != '='), p.takesValue with
  | [], true => some ([], some p)
  | [], false => some ([.flag p], none)
  | _ :: value, true => some ([.valued p (String.ofList value)], none)
  | _ :: _, false => none

def readOptions (level : Level) (argument : String) : Option Options :=
  match argument.toList with
  | '-' :: '-' :: text => readLong level text
  | '-' :: c :: cluster => readCluster level (c :: cluster)
  | _ => none

def isFinalItem : Item → Bool
  | .flag p => p.isFinal
  | _ => false

/-- The items of the arguments, unless an option is unknown or lacks its value. -/
def readItems (level : Level) : List String → Option (List Item)
  | [] => some []
  | argument :: rest =>
    if argument = "--" then some (rest.map .word)
    else if isOption argument then
      match readOptions level argument with
      | none => none
      | some (items, none) =>
        if items.any isFinalItem then some items
        else (readItems level rest).map (items ++ ·)
      | some (items, some p) =>
        match rest with
        | [] => none
        | value :: rest =>
          if isOption value then none
          else (readItems level rest).map (items ++ .valued p value :: ·)
    else (readItems level rest).map (.word argument :: ·)

structure NavigateOptions where
  url : String
  application : String
  baseUrl : Option String
  /-- The path of a configuration document. -/
  configuration : Option String
  routes : List String
  deriving DecidableEq, Repr

inductive Task where
  | check (template : String) (paths : List String)
  | navigate (options : NavigateOptions)
  deriving DecidableEq, Repr

inductive Invocation where
  | version
  | help
  | perform (verbose : Bool) (task : Task)
  deriving DecidableEq, Repr

def values (p : Parameter) (items : List Item) : List String :=
  items.filterMap fun
    | .valued q value => if q = p then some value else none
    | _ => none

def words (items : List Item) : List String :=
  items.filterMap fun
    | .word s => some s
    | _ => none

/-- Whether an item of a level's items breaks no rule that holds for it whatever else is
missing: an option is not given twice unless it may repeat, its value is one that it accepts,
and only a check takes words. -/
def Level.admits (level : Level) (items : List Item) : Item → Bool
  | .flag p => items.count (.flag p) ≤ 1
  | .valued p value => p.accepts value && (p.mayRepeat || (values p items).length ≤ 1)
  | .word _ => level == .check

def takeCheck (items : List Item) : Option Task :=
  match words items with
  | template :: path :: paths => some (.check template (path :: paths))
  | _ => none

/-- The application's name may come from the environment. Every navigation has a URL, an
application and a route. -/
def takeNavigate (environment : Option String) (items : List Item) : Option Task := do
  let url ← (values .url items).head?
  let application ← (values .application items).head? <|> environment
  let routes := values .route items
  guard !routes.isEmpty
  pure (.navigate
    ⟨url, application, (values .baseUrl items).head?, (values .configuration items).head?, routes⟩)

/-- Reads the arguments after the name of a task. An item that is not admitted is a fault even
if help is asked for after it, while what is missing is then no fault. -/
def readTask (level : Level) (verbose : Bool) (take : List Item → Option Task)
    (arguments : List String) : Option Invocation := do
  let items ← readItems level arguments
  guard (items.all (level.admits items))
  if items.contains (.flag .help) then pure .help
  else pure (.perform (verbose || items.contains (.flag .verbose)) (← take items))

/-- Help may be asked for on one task, or on help itself. -/
def readHelp : List String → Option Invocation
  | [] | ["check"] | ["navigate"] | ["help"] => some .help
  | _ => none

/-- Reads a command line; none is read from one that breaks the rules. -/
def Invocation.read (environment : Option String) (verbose : Bool) :
    List String → Option Invocation
  | [] => none
  | argument :: rest =>
    if argument = "check" then readTask .check verbose takeCheck rest
    else if argument = "navigate" then
      readTask .navigate verbose (takeNavigate environment) rest
    else if argument = "help" then readHelp rest
    else
      match readOptions .program argument with
      | none => none
      | some (items, _) =>
        let count := items.count (.flag .verbose) + if verbose then 1 else 0
        if 1 < count then none
        else if items.contains (.flag .version) then some .version
        else if items.contains (.flag .help) then some .help
        else Invocation.read environment (count == 1) rest

end Wayfinding.Command
