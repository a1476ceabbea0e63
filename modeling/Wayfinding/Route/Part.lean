import Wayfinding.Segment

/-!
The parts of a template, one to a component: `*` is a wildcard, `:name` and `:name:type`
are named segments, and anything else stands for itself.
-/

namespace Wayfinding

inductive Part where
  | literal (text : String)
  | wildcard
  | named (name : String) (kind : Kind)
  deriving DecidableEq, Repr

/-- What is wrong with a component that starts like a named segment. -/
inductive TokenFault where
  | emptyName
  | emptySuffix
  | manySuffixes
  deriving DecidableEq, Repr

def TokenFault.reason : TokenFault → String
  | .emptyName => "has an empty segment name"
  | .emptySuffix => "has an empty type suffix"
  | .manySuffixes => "has more than one type suffix"

namespace Part

/-- Reads what follows the colon of a named segment. An empty name is reported before an
empty suffix, and that before a second suffix. -/
def readToken (token : List Char) : Except TokenFault Part :=
  let name := token.takeWhile (· != ':')
  if name.isEmpty then .error .emptyName
  else
    match token.dropWhile (· != ':') with
    | [] => .ok (.named (String.ofList name) (Kind.ofSuffix none))
    | _ :: suffix =>
      if (suffix.takeWhile (· != ':')).isEmpty then .error .emptySuffix
      else if suffix.contains ':' then .error .manySuffixes
      else .ok (.named (String.ofList name) (Kind.ofSuffix (some (String.ofList suffix))))

def read (component : String) : Except TokenFault Part :=
  match component.toList with
  | ['*'] => .ok .wildcard
  | ':' :: token => readToken token
  | _ => .ok (.literal component)

def name? : Part → Option String
  | named name _ => some name
  | _ => none

def segment? (position : Nat) : Part → Option Segment
  | named name kind => some ⟨position, name, kind⟩
  | _ => none

end Part
end Wayfinding
