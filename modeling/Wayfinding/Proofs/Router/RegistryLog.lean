import Mathlib.Data.List.DropRight
import Wayfinding.Proofs.Route.Compiled
import Wayfinding.Proofs.Traversal
import Wayfinding.Router.Registry

/-!
The registry as a log of what was registered and cleared. The entries and the index are kept
apart, so each operation has to keep them in step; that the index finds a template's own entry
is the invariant on which all else rests. The templates are then those named by registrations
that took effect, each where it was named first, and the listeners of a template those
registered for it since the registry was last cleared.
-/

namespace Wayfinding

theorem eraseDups_concat (named : List String) (template : String) :
    (named ++ [template]).eraseDups =
      if template ∈ named then named.eraseDups else named.eraseDups ++ [template] := by
  rw [List.eraseDups_append]
  by_cases h : template ∈ named
  · simp [List.removeAll, h]
  · simp [List.removeAll, h, List.eraseDups_cons]

theorem nodup_eraseDups (named : List String) : named.eraseDups.Nodup := by
  induction named using List.reverseRecOn with
  | nil => exact List.nodup_nil
  | append_singleton named template ih =>
      rw [eraseDups_concat]
      split
      · exact ih
      · rename_i hnew
        rw [← List.concat_eq_append]
        exact ih.concat (by rwa [List.mem_eraseDups])

namespace Registry

variable {α : Type} {r r' : Registry α} {listener : α} {template : String} {route : Route}

/-- The listeners of a template, if it is registered. -/
def heard (r : Registry α) (template : String) : List α :=
  match r.find? template with
  | some entry => entry.listeners.toList
  | none => []

theorem listenerCount_eq (r : Registry α) (template : String) :
    r.listenerCount template = (r.heard template).length := by
  rw [listenerCount, heard]
  cases r.find? template with
  | none => rfl
  | some entry => exact entry.listeners.length_toList.symm

/-- The index has every entry under its template and nothing else, and the routes are
compilations. -/
structure IsIndexed (r : Registry α) : Prop where
  index_of_entry : ∀ (slot : Nat) (entry : Registration α), r.entries[slot]? = some entry →
    r.index[entry.route.template]? = some slot
  entry_of_index : ∀ (template : String) (slot : Nat), r.index[template]? = some slot →
    ∃ entry, r.entries[slot]? = some entry ∧ Route.compile template = .ok entry.route

theorem find?_eq_none (hslot : r.index[template]? = none) : r.find? template = none := by
  simp [find?, hslot]

theorem find?_eq_getElem? {slot : Nat} (hslot : r.index[template]? = some slot) :
    r.find? template = r.entries[slot]? := by
  simp [find?, hslot]

theorem heard_of_none (hslot : r.index[template]? = none) : r.heard template = [] := by
  rw [heard, find?_eq_none hslot]

theorem heard_of_entry {slot : Nat} {entry : Registration α}
    (hslot : r.index[template]? = some slot) (hentry : r.entries[slot]? = some entry) :
    r.heard template = entry.listeners.toList := by
  rw [heard, find?_eq_getElem? hslot, hentry]

namespace IsIndexed

theorem mem_templates_iff (h : r.IsIndexed) :
    template ∈ r.templates ↔ ∃ slot, r.index[template]? = some slot := by
  simp only [templates, List.mem_map, Array.mem_toList_iff, Array.mem_iff_getElem?]
  constructor
  · rintro ⟨entry, ⟨slot, hentry⟩, rfl⟩
    exact ⟨slot, h.index_of_entry slot entry hentry⟩
  · rintro ⟨slot, hslot⟩
    obtain ⟨entry, hentry, hcompile⟩ := h.entry_of_index template slot hslot
    exact ⟨entry, ⟨slot, hentry⟩, (Route.compile_eq_ok hcompile).1⟩

theorem resolve_eq (h : r.IsIndexed) (template : String) :
    r.resolve template = Route.compile template := by
  rw [resolve]
  cases hslot : r.index[template]? with
  | none => rw [find?_eq_none hslot]
  | some slot =>
      obtain ⟨entry, hentry, hcompile⟩ := h.entry_of_index template slot hslot
      rw [find?_eq_getElem? hslot, hentry, hcompile]

theorem empty : (Registry.empty : Registry α).IsIndexed where
  index_of_entry slot entry h := by simp [Registry.empty] at h
  entry_of_index template slot h := by simp [Registry.empty] at h

/-- Only the index and the routes matter. -/
theorem of_routes_eq (h : r.IsIndexed) (hindex : r'.index = r.index)
    (hroutes : ∀ slot : Nat, r'.entries[slot]?.map (·.route) = r.entries[slot]?.map (·.route)) :
    r'.IsIndexed where
  index_of_entry slot entry hentry := by
    have hroute := hroutes slot
    rw [hentry, Option.map_some, eq_comm, Option.map_eq_some_iff] at hroute
    obtain ⟨before, hbefore, heq⟩ := hroute
    rw [hindex, ← heq]
    exact h.index_of_entry slot before hbefore
  entry_of_index template slot hslot := by
    rw [hindex] at hslot
    obtain ⟨before, hbefore, hcompile⟩ := h.entry_of_index template slot hslot
    have hroute := hroutes slot
    rw [hbefore, Option.map_some, Option.map_eq_some_iff] at hroute
    obtain ⟨entry, hentry, heq⟩ := hroute
    exact ⟨entry, hentry, heq ▸ hcompile⟩

theorem push (h : r.IsIndexed) (hcompile : Route.compile route.template = .ok route)
    (hnew : r.index[route.template]? = none) (listeners : Array α) :
    IsIndexed ⟨r.entries.push ⟨route, listeners⟩,
      r.index.insert route.template r.entries.size⟩ where
  index_of_entry slot entry hentry := by
    rw [Array.getElem?_push] at hentry
    rw [Std.HashMap.getElem?_insert]
    split at hentry
    · rename_i hslot
      obtain rfl : (⟨route, listeners⟩ : Registration α) = entry := Option.some.inj hentry
      rw [if_pos (beq_self_eq_true _), hslot]
    · have hindex := h.index_of_entry slot entry hentry
      rw [if_neg, hindex]
      intro heq
      rw [← eq_of_beq heq, hnew] at hindex
      cases hindex
  entry_of_index template slot hslot := by
    rw [Std.HashMap.getElem?_insert] at hslot
    simp only [Array.getElem?_push]
    split at hslot
    · rename_i heq
      obtain rfl : r.entries.size = slot := Option.some.inj hslot
      rw [if_pos rfl, ← eq_of_beq heq]
      exact ⟨_, rfl, hcompile⟩
    · obtain ⟨entry, hentry, hcompile⟩ := h.entry_of_index template slot hslot
      have hlt : slot < r.entries.size := (Array.getElem?_eq_some_iff.mp hentry).1
      rw [if_neg (Nat.ne_of_lt hlt)]
      exact ⟨entry, hentry, hcompile⟩

end IsIndexed

theorem templates_eq_of_routes_eq
    (hroutes : ∀ slot : Nat, r'.entries[slot]?.map (·.route) = r.entries[slot]?.map (·.route)) :
    r'.templates = r.templates := by
  apply List.ext_getElem?
  intro slot
  have hroute := congrArg (·.map Route.template) (hroutes slot)
  simpa [templates, Function.comp_def] using hroute

theorem add_of_none (hslot : r.index[route.template]? = none) (listener : α) :
    r.add route listener = ⟨r.entries.push ⟨route, #[listener]⟩,
      r.index.insert route.template r.entries.size⟩ := by
  simp only [add, hslot]

theorem add_of_slot {slot : Nat} (hslot : r.index[route.template]? = some slot) (listener : α) :
    r.add route listener = { r with
      entries := r.entries.modify slot fun entry =>
        { entry with listeners := entry.listeners.push listener } } := by
  simp only [add, hslot]

theorem routes_modify (r : Registry α) (slot place : Nat) (listener : α) :
    ((r.entries.modify slot fun entry =>
        { entry with listeners := entry.listeners.push listener })[place]?).map (·.route) =
      r.entries[place]?.map (·.route) := by
  rw [Array.getElem?_modify]
  split
  · rw [Option.map_map]
    rfl
  · rfl

theorem routes_clear (r : Registry α) (slot : Nat) :
    r.clear.entries[slot]?.map (·.route) = r.entries[slot]?.map (·.route) := by
  rw [clear, Array.getElem?_map, Option.map_map]
  rfl

theorem IsIndexed.clear (h : r.IsIndexed) : r.clear.IsIndexed :=
  h.of_routes_eq rfl r.routes_clear

theorem templates_clear (r : Registry α) : r.clear.templates = r.templates :=
  templates_eq_of_routes_eq r.routes_clear

theorem heard_clear (r : Registry α) (template : String) : r.clear.heard template = [] := by
  have hfind : r.clear.find? template =
      (r.find? template).map fun entry => { entry with listeners := #[] } := by
    cases hslot : r.index[template]? with
    | none => rw [find?_eq_none hslot, find?_eq_none (r := r.clear) hslot, Option.map_none]
    | some slot =>
        rw [find?_eq_getElem? hslot, find?_eq_getElem? (r := r.clear) hslot, Registry.clear,
          Array.getElem?_map]
  rw [heard, hfind]
  cases r.find? template <;> rfl

theorem IsIndexed.add (h : r.IsIndexed) (hcompile : Route.compile route.template = .ok route)
    (listener : α) : (r.add route listener).IsIndexed := by
  cases hslot : r.index[route.template]? with
  | none =>
      rw [add_of_none hslot]
      exact h.push hcompile hslot _
  | some slot =>
      rw [add_of_slot hslot]
      exact h.of_routes_eq rfl fun place => r.routes_modify slot place listener

theorem templates_add (h : r.IsIndexed) (route : Route) (listener : α) :
    (r.add route listener).templates =
      if route.template ∈ r.templates then r.templates else r.templates ++ [route.template] := by
  cases hslot : r.index[route.template]? with
  | none =>
      have hnew : route.template ∉ r.templates := by
        rw [h.mem_templates_iff, hslot]
        simp
      rw [if_neg hnew, add_of_none hslot]
      simp [templates]
  | some slot =>
      rw [if_pos (h.mem_templates_iff.mpr ⟨slot, hslot⟩), add_of_slot hslot]
      exact templates_eq_of_routes_eq fun place => r.routes_modify slot place listener

theorem IsIndexed.eq_of_index (h : r.IsIndexed) {template' : String} {slot : Nat}
    (hslot : r.index[template]? = some slot) (hslot' : r.index[template']? = some slot) :
    template = template' := by
  obtain ⟨entry, hentry, hcompile⟩ := h.entry_of_index template slot hslot
  obtain ⟨entry', hentry', hcompile'⟩ := h.entry_of_index template' slot hslot'
  obtain rfl : entry = entry' := Option.some.inj (hentry.symm.trans hentry')
  rw [← (Route.compile_eq_ok hcompile).1, (Route.compile_eq_ok hcompile').1]

theorem heard_add_self (h : r.IsIndexed) (route : Route) (listener : α) :
    (r.add route listener).heard route.template = r.heard route.template ++ [listener] := by
  cases hslot : r.index[route.template]? with
  | none =>
      rw [add_of_none hslot, heard_of_none hslot,
        heard_of_entry Std.HashMap.getElem?_insert_self (Array.getElem?_push_size ..)]
      rfl
  | some slot =>
      obtain ⟨entry, hentry, -⟩ := h.entry_of_index _ slot hslot
      have hentry' : (r.add route listener).entries[slot]? =
          some { entry with listeners := entry.listeners.push listener } := by
        rw [add_of_slot hslot, Array.getElem?_modify, if_pos rfl, hentry, Option.map_some]
      have hslot' : (r.add route listener).index[route.template]? = some slot := by
        rwa [add_of_slot hslot]
      rw [heard_of_entry hslot hentry, heard_of_entry hslot' hentry', Array.toList_push]

theorem heard_add_of_ne (h : r.IsIndexed) (hne : template ≠ route.template) (listener : α) :
    (r.add route listener).heard template = r.heard template := by
  -- the template keeps its slot, and the slot its entry
  have hkeeps : (r.add route listener).index[template]? = r.index[template]? ∧
      ∀ slot, r.index[template]? = some slot →
        (r.add route listener).entries[slot]? = r.entries[slot]? := by
    cases hslot : r.index[route.template]? with
    | none =>
        rw [add_of_none hslot]
        refine ⟨?_, fun place hplace => ?_⟩
        · rw [Std.HashMap.getElem?_insert, if_neg]
          exact fun heq => hne (eq_of_beq heq).symm
        · obtain ⟨entry, hentry, -⟩ := h.entry_of_index _ place hplace
          rw [Array.getElem?_push, if_neg]
          exact Nat.ne_of_lt (Array.getElem?_eq_some_iff.mp hentry).1
    | some slot =>
        rw [add_of_slot hslot]
        refine ⟨rfl, fun place hplace => ?_⟩
        rw [Array.getElem?_modify, if_neg]
        rintro rfl
        exact hne (h.eq_of_index hplace hslot)
  cases hplace : r.index[template]? with
  | none => rw [heard_of_none hplace, heard_of_none (hkeeps.1.trans hplace)]
  | some place =>
      obtain ⟨entry, hentry, -⟩ := h.entry_of_index _ place hplace
      rw [heard_of_entry hplace hentry,
        heard_of_entry (hkeeps.1.trans hplace) ((hkeeps.2 place hplace).trans hentry)]

theorem addAll_eq (h : r.IsIndexed) {named templates : List String} {routes : List Route}
    (hnamed : r.templates = named.eraseDups)
    (hroutes : List.Forall₂ (fun template route => Route.compile template = .ok route)
      templates routes) (listener : α) :
    let r' := routes.foldl (fun r route => r.add route listener) r
    r'.IsIndexed ∧ r'.templates = (named ++ templates).eraseDups ∧
      ∀ template, r'.heard template =
        r.heard template ++ List.replicate (templates.count template) listener := by
  induction hroutes generalizing r named with
  | nil => exact ⟨h, by rwa [List.append_nil], fun template => by simp⟩
  | @cons first route templates routes hcompile _ ih =>
      obtain rfl : route.template = first := (Route.compile_eq_ok hcompile).1
      have hadd : (r.add route listener).templates = (named ++ [route.template]).eraseDups := by
        rw [templates_add h, eraseDups_concat, hnamed]
        simp only [List.mem_eraseDups]
      obtain ⟨hindexed, htemplates, hheard⟩ := ih (h.add hcompile listener) hadd
      refine ⟨hindexed, by rwa [List.append_assoc] at htemplates, fun template => ?_⟩
      rw [List.foldl_cons, hheard template]
      by_cases heq : template = route.template
      · subst heq
        rw [heard_add_self h, List.count_cons_self, List.replicate_succ, List.append_assoc,
          List.singleton_append]
      · rw [heard_add_of_ne h heq, List.count_cons_of_ne (Ne.symm heq)]

end Registry

inductive Operation (α : Type) where
  | register (templates : List String) (listener : α)
  | clear

namespace Operation

variable {α : Type}

/-- What a registration adds. It takes effect only if every template compiles. -/
def registration? : Operation α → Option (List String × α)
  | register templates listener =>
      if ∀ template ∈ templates, (Route.compile template).isOk then some (templates, listener)
      else none
  | clear => none

def isClear : Operation α → Bool
  | register _ _ => false
  | clear => true

def apply (r : Registry α) : Operation α → Registry α
  | register templates listener => ((r.register templates listener).toOption).getD r
  | clear => r.clear

end Operation

namespace Registry

variable {α : Type} {r : Registry α} {log : List (Operation α)}

def registrations (log : List (Operation α)) : List (List String × α) :=
  log.filterMap Operation.registration?

/-- What was done after the registry was cleared last. -/
def sinceClear (log : List (Operation α)) : List (Operation α) :=
  log.rtakeWhile (!·.isClear)

theorem registrations_concat (log : List (Operation α)) (operation : Operation α) :
    registrations (log ++ [operation]) =
      registrations log ++ operation.registration?.toList := by
  rw [registrations, List.filterMap_append, List.filterMap_cons, List.filterMap_nil]
  cases operation.registration? <;> rfl

theorem sinceClear_concat (log : List (Operation α)) (operation : Operation α) :
    sinceClear (log ++ [operation]) =
      if operation.isClear then [] else sinceClear log ++ [operation] := by
  rw [sinceClear, List.rtakeWhile_concat]
  cases operation.isClear <;> rfl

/-- The registry is what a log makes of an empty one. -/
structure Records (r : Registry α) (log : List (Operation α)) : Prop where
  indexed : r.IsIndexed
  templates_eq : r.templates = ((registrations log).flatMap (·.1)).eraseDups
  heard_eq : ∀ template, r.heard template =
    (registrations (sinceClear log)).flatMap fun made =>
      List.replicate (made.1.count template) made.2

theorem Records.empty : (empty : Registry α).Records [] where
  indexed := .empty
  templates_eq := rfl
  heard_eq template := heard_of_none (by simp [Registry.empty])

theorem register_eq (h : r.IsIndexed) (templates : List String) (listener : α) :
    r.register templates listener =
      (templates.mapM Route.compile).map fun routes =>
        routes.foldl (fun r route => r.add route listener) r := by
  have hresolve : r.resolve = Route.compile := funext h.resolve_eq
  rw [register, resolveAll, hresolve]
  cases templates.mapM Route.compile <;> rfl

theorem isOk_register_iff (h : r.IsIndexed) (templates : List String) (listener : α) :
    (r.register templates listener).isOk ↔
      (Operation.register templates listener).registration? = some (templates, listener) := by
  rw [register_eq h, Operation.registration?]
  simp only [← isOk_mapM_iff]
  cases templates.mapM Route.compile <;> simp [Except.map, Except.isOk, Except.toBool]

theorem IsIndexed.listenerCount_eq_zero (h : r.IsIndexed) {template : String}
    (hnew : template ∉ r.templates) : r.listenerCount template = 0 := by
  have hslot : r.index[template]? = none := by
    cases hslot : r.index[template]? with
    | none => rfl
    | some slot => exact absurd (h.mem_templates_iff.mpr ⟨slot, hslot⟩) hnew
  rw [listenerCount_eq, heard_of_none hslot, List.length_nil]

theorem Records.apply (h : r.Records log) (operation : Operation α) :
    (operation.apply r).Records (log ++ [operation]) := by
  cases operation with
  | clear =>
      refine ⟨h.indexed.clear, ?_, fun template => ?_⟩
      · rw [Operation.apply, templates_clear, h.templates_eq, registrations_concat]
        simp [Operation.registration?]
      · rw [Operation.apply, heard_clear, sinceClear_concat]
        rfl
  | register templates listener =>
      rw [Operation.apply, register_eq h.indexed]
      cases hroutes : templates.mapM Route.compile with
      | ok routes =>
          have hall : ∀ template ∈ templates, (Route.compile template).isOk :=
            isOk_mapM_iff.mp (by rw [hroutes]; rfl)
          obtain ⟨hindexed, htemplates, hheard⟩ := addAll_eq h.indexed h.templates_eq
            (mapM_eq_ok_iff_forall₂.mp hroutes) listener
          refine ⟨hindexed, htemplates.trans ?_, fun template => (hheard template).trans ?_⟩
          · rw [registrations_concat, Operation.registration?, if_pos hall]
            simp
          · rw [sinceClear_concat, Operation.isClear, if_neg Bool.false_ne_true,
              registrations_concat, Operation.registration?, if_pos hall, h.heard_eq]
            simp
      | error e =>
          have hall : ¬ ∀ template ∈ templates, (Route.compile template).isOk := by
            rw [← isOk_mapM_iff, hroutes]
            exact Bool.false_ne_true
          change r.Records _
          refine ⟨h.indexed, ?_, fun template => ?_⟩
          · rw [registrations_concat, Operation.registration?, if_neg hall]
            simpa using h.templates_eq
          · rw [sinceClear_concat, Operation.isClear, if_neg Bool.false_ne_true,
              registrations_concat, Operation.registration?, if_neg hall]
            simpa using h.heard_eq template

theorem templates_prefix (h : r.Records log) (operation : Operation α) :
    r.templates <+: (operation.apply r).templates := by
  rw [(h.apply operation).templates_eq, registrations_concat, List.flatMap_append,
    List.eraseDups_append, ← h.templates_eq]
  exact List.prefix_append _ _

end Registry

end Wayfinding
