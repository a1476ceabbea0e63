import Wayfinding.Router.Program

/-!
Scripted listeners. A behaviour says what a listener does when it is called: it records the
call, and for a limited number of calls, if there is a limit, it then takes its actions in
order until one of them ends the call with an error.
-/

namespace Wayfinding.Script

mutual

inductive Action where
  | fail (error : String)
  /-- Navigates; with `propagate`, a failure of that navigation becomes the listener's own. -/
  | navigateTo (path : String) (propagate : Bool)
  | navigate
  | clear
  | setUrl (url : String)
  /-- Registers a listener of its own making. -/
  | register (templates : List String) (behaviour : Behaviour)

inductive Behaviour where
  | mk (tag : String) (probe : Option String) (times : Option Nat) (actions : List Action)

end

/-- A call of a scripted listener, as the listener saw it. -/
structure Sighting where
  tag : String
  event : Event
  probe : Option Value
  currentRoute : String

inductive Record where
  | called (sighting : Sighting)
  /-- A navigation started by a listener has returned. -/
  | returned (outcome : Except DispatchError (Option Navigation))

/-- What scripted listeners keep: how often each was called, by its number, and the records
of what happened. -/
structure Ledger where
  counts : Array Nat
  records : Array Record

namespace Ledger

def empty : Ledger := ⟨#[], #[]⟩

def write (ledger : Ledger) (entry : Record) : Ledger :=
  { ledger with records := ledger.records.push entry }

/-- Makes room for another listener, whose number is the old count of listeners. -/
def enroll (ledger : Ledger) : Ledger :=
  { ledger with counts := ledger.counts.push 0 }

def countCall (ledger : Ledger) (number : Nat) : Ledger :=
  { ledger with counts := ledger.counts.modify number (· + 1) }

def callsOf (ledger : Ledger) (number : Nat) : Nat :=
  ledger.counts[number]?.getD 0

end Ledger

/-- Adds a record and goes on. -/
def writing (entry : Record) (next : Program Ledger) : Program Ledger :=
  .recall fun ledger => .remember (ledger.write entry) next

mutual

/-- The listener with the given number that behaves as told. -/
def Behaviour.listener : Behaviour → Nat → Listener Ledger
  | .mk tag probe times actions, number => fun event =>
    .view fun view =>
      let sighting : Sighting := ⟨tag, event, probe.bind event.value, view.currentRoute⟩
      writing (.called sighting) <|
        .recall fun ledger =>
          let ledger := ledger.countCall number
          .remember ledger <|
            match times with
            | none => takeActions actions
            | some times =>
              if times < ledger.callsOf number then .finish (.ok ()) else takeActions actions

def takeActions : List Action → Program Ledger
  | [] => .finish (.ok ())
  | .fail error :: _ => .finish (.error error)
  | .navigateTo path propagate :: rest =>
    .navigateTo path fun outcome =>
      writing (.returned (outcome.map some)) <|
        match outcome with
        | .ok _ => takeActions rest
        | .error error =>
          if propagate then .finish (.error error.message) else takeActions rest
  | .navigate :: rest =>
    .navigate fun outcome => writing (.returned outcome) (takeActions rest)
  | .clear :: rest => .clear (takeActions rest)
  | .setUrl url :: rest => .setUrl url (takeActions rest)
  | .register templates behaviour :: rest =>
    .recall fun ledger =>
      .remember ledger.enroll <|
        .register templates (behaviour.listener ledger.counts.size) fun
          | .ok () => takeActions rest
          | .error error => .finish (.error error.message)

end

end Wayfinding.Script
