/-!
What can go wrong in a router apart from its templates and its configuration.
-/

namespace Wayfinding

/-- The base URL cannot be derived: the application's name is not in the host's URL. -/
structure BaseUrlError where
  url : String
  application : String
  deriving DecidableEq, Repr

def BaseUrlError.message (e : BaseUrlError) : String :=
  "cannot derive base URL: application `" ++ e.application ++ "` does not occur in `" ++ e.url ++
    "`"

/-- A listener's error, with the listener's place in the list of its template. -/
structure ListenerFailure where
  template : String
  index : Nat
  error : String
  deriving DecidableEq, Repr

def ListenerFailure.message (failure : ListenerFailure) : String :=
  "listener #" ++ toString failure.index ++ " of `" ++ failure.template ++ "`: " ++ failure.error

/-- A navigation in which listeners failed, in the order of their calls. -/
structure DispatchError where
  path : String
  failures : List ListenerFailure
  deriving DecidableEq, Repr

def DispatchError.message (e : DispatchError) : String :=
  toString e.failures.length ++ " listener(s) failed while navigating to `" ++ e.path ++ "`"

end Wayfinding
