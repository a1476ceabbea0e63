import Wayfinding.Proofs.Router.Run

/-!
What a navigation calls. The duties of a navigation are fixed when it starts: the listeners
registered then for the templates that accept its path, in order. A run attends to a list of
duties if it calls their listeners one after the other and does no more than keep its books
in between. A listener may rewrite the registry, the host and the state of all listeners, so
everything is said of whatever site the call before has left.
-/

namespace Wayfinding

/-- A call that is due: what the listener is told, and its place in the list of its
template. -/
structure Duty (σ : Type) where
  event : Event
  index : Nat
  listener : Listener σ

def Duty.call {σ : Type} (duty : Duty σ) (outcome : Except String Unit) : Call σ :=
  ⟨duty.event.template, duty.index, duty.listener, outcome⟩

/-- The calls due for listeners whose first one stands at `index`. -/
def dutiesFrom {σ : Type} (event : Event) (index : Nat) (listeners : List (Listener σ)) :
    List (Duty σ) :=
  (listeners.zipIdx index).map fun place => ⟨event, place.2, place.1⟩

def Registration.duties {σ : Type} (entry : Registration (Listener σ)) (path : String) :
    List (Duty σ) :=
  dutiesFrom ⟨entry.route, path⟩ 0 entry.listeners.toList

namespace Registry

variable {σ : Type}

def accepting (r : Registry (Listener σ)) (path : String) : List (Registration (Listener σ)) :=
  r.entries.toList.filter (·.route.accepts path)

/-- The templates that accept a path, in the order of `templates`. -/
def matching (r : Registry (Listener σ)) (path : String) : List String :=
  (r.accepting path).map (·.route.template)

def duties (r : Registry (Listener σ)) (path : String) : List (Duty σ) :=
  (r.accepting path).flatMap (·.duties path)

end Registry

theorem Call.isLast_collect {σ : Type} (call : Call σ) : call.isLast .collect = false := rfl

theorem Round.isLast_collect {σ : Type} (round : Round σ) : round.isLast .collect = false := by
  simp [Round.isLast, Call.isLast_collect]

theorem Dispatch.isAborted_collect {σ : Type} (d : Dispatch σ) :
    d.isAborted .collect = false := by
  simp [Dispatch.isAborted, Round.isLast_collect]

namespace Site

variable {σ : Type} {site between site' : Site σ}

/-- The sites differ at most in the current route, the count of navigations and the
journal. -/
structure Beside (site site' : Site σ) : Prop where
  registry : site'.router.registry = site.router.registry
  baseUrl : site'.router.baseUrl = site.router.baseUrl
  listenerFailure : site'.router.listenerFailure = site.router.listenerFailure
  host : site'.host = site.host
  client : site'.client = site.client

theorem Beside.refl (site : Site σ) : site.Beside site :=
  ⟨rfl, rfl, rfl, rfl, rfl⟩

theorem Beside.trans (h₁ : site.Beside between) (h₂ : between.Beside site') :
    site.Beside site' :=
  ⟨h₂.registry.trans h₁.registry, h₂.baseUrl.trans h₁.baseUrl,
    h₂.listenerFailure.trans h₁.listenerFailure, h₂.host.trans h₁.host,
    h₂.client.trans h₁.client⟩

end Site

namespace Run

variable {σ : Type} {site between site' : Site σ} {navigateTo : Navigator σ} {path : String}
  {number depth : Nat}

/-- The run from the first site to the second calls the listeners of the duties in order,
with the outcomes listed, and between the calls it does no more than `Site.Beside` allows. -/
inductive Attends (navigateTo : Navigator σ) :
    Site σ → List (Duty σ) → List (Except String Unit) → Site σ → Prop where
  | done {site site' : Site σ} (h : site.Beside site') : Attends navigateTo site [] [] site'
  | call {site now later site' : Site σ} {duty : Duty σ} {outcome : Except String Unit}
      {duties : List (Duty σ)} {outcomes : List (Except String Unit)} (h : site.Beside now)
      (hcall : Yields (program navigateTo (duty.listener duty.event)) now outcome later)
      (hrest : Attends navigateTo later duties outcomes site') :
      Attends navigateTo site (duty :: duties) (outcome :: outcomes) site'

namespace Attends

variable {duties duties' : List (Duty σ)} {outcomes outcomes' : List (Except String Unit)}

theorem after_beside (h : site.Beside between)
    (hattends : Attends navigateTo between duties outcomes site') :
    Attends navigateTo site duties outcomes site' := by
  cases hattends with
  | done hbeside => exact .done (h.trans hbeside)
  | call hbeside hcall hrest => exact .call (h.trans hbeside) hcall hrest

theorem append (h₁ : Attends navigateTo site duties outcomes between)
    (h₂ : Attends navigateTo between duties' outcomes' site') :
    Attends navigateTo site (duties ++ duties') (outcomes ++ outcomes') site' := by
  induction h₁ with
  | done hbeside => exact after_beside hbeside h₂
  | call hbeside hcall _ ih => exact .call hbeside hcall (ih h₂)

theorem length_eq (h : Attends navigateTo site duties outcomes site') :
    duties.length = outcomes.length := by
  induction h with
  | done _ => rfl
  | call _ _ _ ih => rw [List.length_cons, List.length_cons, ih]

/-- There is a failure to report exactly if a call failed. -/
theorem failures_eq_nil_iff (h : Attends navigateTo site duties outcomes site') :
    (List.zipWith Duty.call duties outcomes).filterMap Call.failure? = [] ↔
      ∀ outcome ∈ outcomes, outcome = .ok () := by
  induction h with
  | done _ => simp
  | @call _ _ _ _ duty outcome _ _ _ _ _ ih =>
      rw [List.zipWith_cons_cons, List.forall_mem_cons]
      cases outcome with
      | ok u =>
          rw [List.filterMap_cons_none rfl, ih]
          simp
      | error error =>
          have hfailed : (duty.call (.error error)).failure? =
              some ⟨duty.event.template, duty.index, error⟩ := rfl
          rw [List.filterMap_cons_some hfailed]
          simp

end Attends

theorem Attends.result {d : Dispatch σ} {matching : List String} {duties : List (Duty σ)}
    {outcomes : List (Except String Unit)}
    (h : Attends navigateTo site duties outcomes site') (hpath : d.path = path)
    (hmatched : d.matched = matching) (hcalls : d.calls = List.zipWith Duty.call duties outcomes)
    (address : Option String) :
    (∀ outcome ∈ outcomes, outcome = .ok ()) ∧
        d.result address = .ok ⟨path, matching, duties.length, address⟩ ∨
      ¬(∀ outcome ∈ outcomes, outcome = .ok ()) ∧
        d.result address = .error ⟨path,
          (List.zipWith Duty.call duties outcomes).filterMap Call.failure?⟩ := by
  have hlength : d.calls.length = duties.length := by
    rw [hcalls, List.length_zipWith, h.length_eq, Nat.min_self]
  rw [Dispatch.result, Dispatch.navigation, hpath, hmatched, hlength, Dispatch.failures, hcalls,
    ← h.failures_eq_nil_iff]
  split
  · rename_i hnone
    exact .inl ⟨List.isEmpty_iff.mp hnone, rfl⟩
  · rename_i hsome
    exact .inr ⟨fun hnone => hsome (List.isEmpty_iff.mpr hnone), rfl⟩

theorem beside_of_push {d : Dispatch σ} {address : String}
    (h : Yields (push number d) site address site') :
    address = site.router.addressFor d.path ∧ (site.pushAddress address).Beside site' := by
  obtain ⟨haddress, rfl⟩ := eq_of_push h
  exact ⟨haddress, ⟨rfl, rfl, rfl, rfl, rfl⟩⟩

/-- Removes every listener, leads the host astray, navigates to the same path again and
fails. -/
def unruly : Listener Nat := fun event =>
  .clear (.setUrl "elsewhere" (.navigateTo event.path fun _ => .finish (.error "gone")))

/-- Two templates for one path, the unruly listener before one that keeps a mark. -/
def unrulySite : Site Nat where
  router := {
    baseUrl := "app"
    listenerFailure := .collect
    registry := {
      entries := #[⟨⟨"k", ⟨.literal "k", []⟩⟩, #[unruly]⟩,
        ⟨⟨":n", ⟨.named "n" .text, []⟩⟩, #[fun _ => .remember 1 (.finish (.ok ()))]⟩]
      index := ((∅ : Std.HashMap String Nat).insert "k" 0).insert ":n" 1 }
    currentRoute := "" }
  host := ⟨"app/k", "app", none, #[]⟩
  client := 0
  navigations := 0
  journal := #[]

end Run
end Wayfinding
