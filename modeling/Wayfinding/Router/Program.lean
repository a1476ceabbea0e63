import Wayfinding.Router.Error
import Wayfinding.Router.Event

/-!
Listeners as programs. A listener may look at the router and its host, keep state of its own
kind `σ`, print, change the host's URL, register and clear listeners, and navigate, which
calls listeners again; in the end it succeeds or fails with an error. What it does next may
depend on everything it was told so far.
-/

namespace Wayfinding

/-- The outcome of a navigation in which no listener failed. -/
structure Navigation where
  path : String
  /-- The templates that matched, in the order of dispatch. -/
  matched : List String
  invoked : Nat
  /-- The address pushed, if any template matched. -/
  address : Option String
  deriving DecidableEq, Repr

def Navigation.isMatch (n : Navigation) : Bool := !n.matched.isEmpty

/-- What a listener sees of the router and its host. -/
structure View where
  baseUrl : String
  currentRoute : String
  templates : List String
  listenerCount : String → Nat
  url : String
  history : List String

inductive Program (σ : Type) where
  | finish (outcome : Except String Unit)
  | view (next : View → Program σ)
  | recall (next : σ → Program σ)
  | remember (state : σ) (next : Program σ)
  | print (line : String) (next : Program σ)
  | setUrl (url : String) (next : Program σ)
  | clear (next : Program σ)
  | register (templates : List String) (listener : Event → Program σ)
      (next : Except TemplateError Unit → Program σ)
  | navigateTo (path : String) (next : Except DispatchError Navigation → Program σ)
  | navigate (next : Except DispatchError (Option Navigation) → Program σ)

abbrev Listener (σ : Type) := Event → Program σ

end Wayfinding
