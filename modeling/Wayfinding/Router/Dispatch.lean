import Wayfinding.Router.Site

/-!
Navigation. The routes and listeners registered when a navigation starts are the ones it
goes through, whatever its listeners register or clear meanwhile. The first match makes the
path the current route; the address is pushed once, after all listeners have returned.
-/

namespace Wayfinding

/-- A call of a listener that a navigation made itself. -/
structure Call (σ : Type) where
  template : String
  /-- The listener's place in the list of its template. -/
  index : Nat
  listener : Listener σ
  outcome : Except String Unit

namespace Call

variable {σ : Type}

def failure? (call : Call σ) : Option ListenerFailure :=
  match call.outcome with
  | .ok () => none
  | .error error => some ⟨call.template, call.index, error⟩

/-- Whether the navigation ends at the call. -/
def isLast (policy : FailurePolicy) (call : Call σ) : Bool :=
  policy == .abort && call.failure?.isSome

end Call

/-- A template that matched and the calls made for it. -/
structure Round (σ : Type) where
  template : String
  calls : List (Call σ)

/-- Whether the navigation ends in the round. -/
def Round.isLast (policy : FailurePolicy) (round : Round σ) : Bool :=
  round.calls.any (·.isLast policy)

/-- The rounds of one navigation. -/
structure Dispatch (σ : Type) where
  path : String
  rounds : List (Round σ)

namespace Dispatch

variable {σ : Type}

def matched (d : Dispatch σ) : List String :=
  d.rounds.map (·.template)

def calls (d : Dispatch σ) : List (Call σ) :=
  d.rounds.flatMap (·.calls)

def failures (d : Dispatch σ) : List ListenerFailure :=
  d.calls.filterMap Call.failure?

/-- Whether the navigation ended at a failure. -/
def isAborted (policy : FailurePolicy) (d : Dispatch σ) : Bool :=
  d.rounds.any (·.isLast policy)

def navigation (d : Dispatch σ) (address : Option String) : Navigation where
  path := d.path
  matched := d.matched
  invoked := d.calls.length
  address := address

def result (d : Dispatch σ) (address : Option String) : Except DispatchError Navigation :=
  if d.failures.isEmpty then .ok (d.navigation address) else .error ⟨d.path, d.failures⟩

end Dispatch

namespace Run

variable {σ : Type}

def note (occurrence : Occurrence) : Run σ Unit :=
  modify (·.note occurrence)

/-- Notes what there is to note. -/
def noteAll : Option Occurrence → Run σ Unit
  | some occurrence => note occurrence
  | none => pure ()

/-- Makes a path the current route. -/
def route (number : Nat) (path : String) : Run σ Unit := do
  modify (·.setCurrentRoute path)
  note (.routed number path)

/-- Navigates to the host's URL, given how to navigate to a path. -/
def navigate (navigateTo : Navigator σ) : Run σ (Except DispatchError (Option Navigation)) := do
  let site ← get
  match site.router.pathOf? site.host.url with
  | some path => return (← navigateTo path).map some
  | none =>
    note (.outside site.host.url site.router.baseUrl)
    return .ok none

/-- Runs a listener's program, given how to navigate to a path. -/
def program (navigateTo : Navigator σ) : Program σ → Run σ (Except String Unit)
  | .finish outcome => pure outcome
  | .view next => do program navigateTo (next (← get).view)
  | .recall next => do program navigateTo (next (← get).client)
  | .remember state next => do
    modify (·.remember state)
    program navigateTo next
  | .print line next => do
    note (.printed line)
    program navigateTo next
  | .setUrl url next => do
    modify (·.setUrl url)
    program navigateTo next
  | .clear next => do
    modify Site.clear
    program navigateTo next
  | .register templates listener next => do
    program navigateTo (next (← modifyGet (·.register templates listener)))
  | .navigateTo path next => do program navigateTo (next (← navigateTo path))
  | .navigate next => do program navigateTo (next (← navigate navigateTo))

/-- Calls the listeners of a route from the one at `index` on. -/
def calls (navigateTo : Navigator σ) (policy : FailurePolicy) (event : Event) :
    Nat → List (Listener σ) → Run σ (List (Call σ))
  | _, [] => pure []
  | index, listener :: rest => do
    let outcome ← program navigateTo (listener event)
    let call : Call σ := ⟨event.template, index, listener, outcome⟩
    noteAll (call.failure?.map .failed)
    if call.isLast policy then pure [call]
    else do
      let later ← calls navigateTo policy event (index + 1) rest
      pure (call :: later)

/-- Goes through registrations and calls the listeners of those whose route matches. -/
def rounds (navigateTo : Navigator σ) (policy : FailurePolicy) (number : Nat) (path : String) :
    Bool → List (Registration (Listener σ)) → Run σ (List (Round σ))
  | _, [] => pure []
  | isFirst, entry :: rest =>
    if entry.route.accepts path then do
      note (.matched entry.route.template path)
      if isFirst then route number path else pure ()
      let made ← calls navigateTo policy ⟨entry.route, path⟩ 0 entry.listeners.toList
      let round : Round σ := ⟨entry.route.template, made⟩
      if round.isLast policy then pure [round]
      else do
        let later ← rounds navigateTo policy number path false rest
        pure (round :: later)
    else do
      noteAll ((entry.route.misreading? path).map .misread)
      rounds navigateTo policy number path isFirst rest

/-- Numbers the navigation and goes through everything registered now. -/
def dispatch (navigateTo : Navigator σ) (path : String) : Run σ (Nat × Dispatch σ) := do
  let site ← get
  let number := site.navigations
  set { site with navigations := number + 1 }
  note (.started number path)
  let rounds ← rounds navigateTo site.router.listenerFailure number path true
    site.router.registry.entries.toList
  return (number, ⟨path, rounds⟩)

/-- Pushes the address of a navigation that found a match. -/
def push (number : Nat) (d : Dispatch σ) : Run σ String := do
  let address := (← get).router.addressFor d.path
  modify (·.pushAddress address)
  note (.pushed number address)
  note (.navigated d.path d.rounds.length d.calls.length)
  return address

/-- Navigates to a path, with at most `depth` navigations inside one another. -/
def navigateTo : (depth : Nat) → Navigator σ
  | 0, _ => StateT.lift none
  | depth + 1, path => do
    let (number, d) ← dispatch (navigateTo depth) path
    let policy := (← get).router.listenerFailure
    if d.rounds.isEmpty || d.isAborted policy then pure (d.result none)
    else do
      let address ← push number d
      pure (d.result (some address))

/-- Navigations may nest this deep. -/
def depthLimit : Nat := 4096

end Run

namespace Site

variable {σ : Type}

def navigateTo : Navigator σ :=
  Run.navigateTo Run.depthLimit

def navigate : Run σ (Except DispatchError (Option Navigation)) :=
  Run.navigate navigateTo

end Site
end Wayfinding
