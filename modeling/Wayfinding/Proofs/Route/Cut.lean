import Wayfinding.Proofs.Route.Compiled
import Wayfinding.Proofs.Text.CaseFolding

/-!
The components of a path cut into consecutive blocks, one to a part of a template. Open
parts take runs of components. What a cut says about positions follows from one fact: every
block but the last has a component.
-/

namespace Wayfinding

/-- A text with the case of its letters folded away. -/
def folded (text : String) : List Char :=
  text.toList.map Text.foldCase

def SameLetters (a b : String) : Prop :=
  folded a = folded b

instance (a b : String) : Decidable (SameLetters a b) :=
  inferInstanceAs (Decidable (folded a = folded b))

/-- A component that a run of any characters may pass over. -/
def OneLine (component : String) : Prop :=
  '\n' ∉ component.toList

namespace Part

/-- Wildcards and named segments stand for runs of components. -/
def IsOpen : Part → Prop
  | literal _ => False
  | wildcard | named _ _ => True

/-- The blocks that a part takes: a literal one component, its own text in any case, and an
open part one or more components that are admitted. -/
def Takes (admits : String → Prop) : Part → List String → Prop
  | literal text, block => ∃ component, block = [component] ∧ SameLetters text component
  | wildcard, block | named _ _, block =>
      block ≠ [] ∧ ∀ component ∈ block, admits component

theorem takes_open_iff {part : Part} (h : part.IsOpen) {admits : String → Prop}
    {block : List String} :
    part.Takes admits block ↔ block ≠ [] ∧ ∀ component ∈ block, admits component := by
  cases part with
  | literal text => exact h.elim
  | wildcard | named name kind => rfl

theorem isOpen_or_eq_literal (part : Part) : part.IsOpen ∨ ∃ text, part = literal text := by
  cases part with
  | literal text => exact .inr ⟨text, rfl⟩
  | wildcard | named name kind => exact .inl trivial

theorem Takes.ne_nil {part : Part} {admits : String → Prop} {block : List String}
    (h : part.Takes admits block) : block ≠ [] := by
  cases part with
  | literal text =>
      obtain ⟨component, rfl, _⟩ := h
      simp
  | wildcard | named name kind => exact h.1

theorem Takes.mono {part : Part} {admits admits' : String → Prop} {block : List String}
    (h : part.Takes admits block) (hle : ∀ component, admits component → admits' component) :
    part.Takes admits' block := by
  cases part with
  | literal text => exact h
  | wildcard | named name kind => exact ⟨h.1, fun component hmem => hle _ (h.2 _ hmem)⟩

end Part

/-- Blocks of components for the parts of a template, in order. An open part at the end may
be left with nothing, but not if it is the only one. -/
inductive Cut (admits : String → Prop) : List Part → List (List String) → Prop where
  | single {part : Part} {block : List String} (h : part.Takes admits block) :
      Cut admits [part] [block]
  | spent {part last : Part} {block : List String} (h : part.Takes admits block)
      (hlast : last.IsOpen) : Cut admits [part, last] [block, []]
  | cons {part : Part} {block : List String} {parts : List Part}
      {blocks : List (List String)} (h : part.Takes admits block)
      (rest : Cut admits parts blocks) : Cut admits (part :: parts) (block :: blocks)

namespace Cut

variable {admits : String → Prop} {parts : List Part} {blocks : List (List String)}

theorem exists_cons_cons (h : Cut admits parts blocks) :
    ∃ component block rest, blocks = (component :: block) :: rest := by
  cases h with
  | single h | spent h _ | cons h _ =>
      obtain ⟨component, block, rfl⟩ := List.exists_cons_of_ne_nil h.ne_nil
      exact ⟨component, block, _, rfl⟩

theorem length_eq (h : Cut admits parts blocks) : blocks.length = parts.length := by
  induction h with
  | single _ | spent _ _ => rfl
  | cons _ _ ih => simp [ih]

/-- Every part has its block, which only an open part may be left without. -/
theorem exists_block (h : Cut admits parts blocks) {index : Nat} {part : Part}
    (hpart : parts[index]? = some part) :
    ∃ block, blocks[index]? = some block ∧
      (part.Takes admits block ∨ part.IsOpen ∧ block = []) := by
  induction h generalizing index with
  | single h =>
      cases index with
      | zero =>
          obtain rfl : _ = part := by simpa using hpart
          exact ⟨_, rfl, .inl h⟩
      | succ index => simp at hpart
  | spent h hlast =>
      rcases index with _ | _ | index
      · obtain rfl : _ = part := by simpa using hpart
        exact ⟨_, rfl, .inl h⟩
      · obtain rfl : _ = part := by simpa using hpart
        exact ⟨_, rfl, .inr ⟨hlast, rfl⟩⟩
      · simp at hpart
  | cons h rest ih =>
      cases index with
      | zero =>
          obtain rfl : _ = part := by simpa using hpart
          exact ⟨_, rfl, .inl h⟩
      | succ index => exact ih (by simpa using hpart)

theorem exists_block_of_literal (h : Cut admits parts blocks) {index : Nat} {text : String}
    (hpart : parts[index]? = some (.literal text)) :
    ∃ component, blocks[index]? = some [component] ∧ SameLetters text component := by
  obtain ⟨block, hblock, ⟨component, rfl, hletters⟩ | ⟨hopen, _⟩⟩ := h.exists_block hpart
  · exact ⟨component, hblock, hletters⟩
  · exact hopen.elim

theorem mono {admits' : String → Prop} (h : Cut admits parts blocks)
    (hle : ∀ component, admits component → admits' component) : Cut admits' parts blocks := by
  induction h with
  | single h => exact .single (h.mono hle)
  | spent h hlast => exact .spent (h.mono hle) hlast
  | cons h _ ih => exact .cons (h.mono hle) ih

/-- An open part in front can take more components before its own. -/
theorem absorb {part : Part} (hopen : part.IsOpen) (h : Cut admits (part :: parts) blocks)
    {more : List String} (hmore : ∀ component ∈ more, admits component) :
    ∃ blocks', Cut admits (part :: parts) blocks' ∧
      blocks'.flatten = more ++ blocks.flatten := by
  have htakes : ∀ {block : List String}, part.Takes admits block →
      part.Takes admits (more ++ block) := by
    intro block hblock
    rw [Part.takes_open_iff hopen] at hblock ⊢
    refine ⟨by simp [hblock.1], ?_⟩
    intro component hmem
    rcases List.mem_append.mp hmem with hmem | hmem
    · exact hmore component hmem
    · exact hblock.2 component hmem
  cases h with
  | single h => exact ⟨_, .single (htakes h), by simp⟩
  | spent h hlast => exact ⟨_, .spent (htakes h) hlast, by simp⟩
  | cons h rest => exact ⟨_, .cons (htakes h) rest, by simp⟩

/-- The first part can be cut down to one component if the next part can take the others. -/
theorem exists_tail {part next : Part} (h : Cut admits (part :: next :: parts) blocks)
    (hopen : part.IsOpen → next.IsOpen) (hlong : 1 < blocks.flatten.length) :
    ∃ component blocks', blocks.flatten = component :: blocks'.flatten ∧
      part.Takes admits [component] ∧ Cut admits (next :: parts) blocks' := by
  rcases part.isOpen_or_eq_literal with hpart | ⟨text, rfl⟩
  · cases h with
    | spent h hlast =>
        rw [Part.takes_open_iff hpart] at h
        obtain ⟨component, more, rfl⟩ := List.exists_cons_of_ne_nil h.1
        have hmore : more ≠ [] := by
          rintro rfl
          simp at hlong
        rw [List.forall_mem_cons] at h
        refine ⟨component, [more], by simp, ?_, .single ?_⟩
        · exact (Part.takes_open_iff hpart).mpr ⟨by simp, by simpa using h.2.1⟩
        · exact (Part.takes_open_iff hlast).mpr ⟨hmore, h.2.2⟩
    | cons h rest =>
        rw [Part.takes_open_iff hpart] at h
        obtain ⟨component, more, rfl⟩ := List.exists_cons_of_ne_nil h.1
        rw [List.forall_mem_cons] at h
        obtain ⟨blocks', hcut, hflatten⟩ := rest.absorb (hopen hpart) h.2.2
        refine ⟨component, blocks', by simp [hflatten], ?_, hcut⟩
        exact (Part.takes_open_iff hpart).mpr ⟨by simp, by simpa using h.2.1⟩
  · cases h with
    | spent h hlast =>
        obtain ⟨component, rfl, _⟩ := h
        simp at hlong
    | cons h rest =>
        obtain ⟨component, rfl, hletters⟩ := h
        exact ⟨component, _, rfl, ⟨component, rfl, hletters⟩, rest⟩

end Cut

/-- How many components stand before the block at an index. -/
def start (blocks : List (List String)) (index : Nat) : Nat :=
  (blocks.take index).flatten.length

theorem start_zero (blocks : List (List String)) : start blocks 0 = 0 := rfl

theorem start_cons_succ (block : List String) (blocks : List (List String)) (index : Nat) :
    start (block :: blocks) (index + 1) = block.length + start blocks index := by
  simp [start]

theorem getElem?_start {blocks : List (List String)} {index : Nat} {component : String}
    {rest : List String} (h : blocks[index]? = some (component :: rest)) :
    blocks.flatten[start blocks index]? = some component := by
  induction blocks generalizing index with
  | nil => simp at h
  | cons block blocks ih =>
      cases index with
      | zero =>
          obtain rfl : block = component :: rest := by simpa using h
          rfl
      | succ index =>
          rw [start_cons_succ, List.flatten_cons,
            List.getElem?_append_right (Nat.le_add_right _ _), Nat.add_sub_cancel_left]
          exact ih (by simpa using h)

theorem start_add_length_le {blocks : List (List String)} {index later : Nat}
    {block : List String} (h : blocks[index]? = some block) (hlt : index < later) :
    start blocks index + block.length ≤ start blocks later := by
  induction blocks generalizing index later with
  | nil => simp at h
  | cons first blocks ih =>
      obtain ⟨later, rfl⟩ := Nat.exists_eq_succ_of_ne_zero (Nat.ne_of_gt (Nat.zero_lt_of_lt hlt))
      rw [Nat.succ_eq_add_one, start_cons_succ]
      cases index with
      | zero =>
          obtain rfl : first = block := by simpa using h
          rw [start_zero]
          omega
      | succ index =>
          rw [start_cons_succ]
          have := ih (by simpa using h) (Nat.lt_of_succ_lt_succ hlt)
          omega

/-- Every block but the last has a component, so a block starts at its index or behind it. -/
theorem Cut.le_start {admits : String → Prop} {parts : List Part}
    {blocks : List (List String)} (h : Cut admits parts blocks) {index : Nat}
    (hindex : index < blocks.length) : index ≤ start blocks index := by
  induction h generalizing index with
  | single h =>
      obtain rfl : index = 0 := by simpa using hindex
      exact Nat.zero_le _
  | spent h hlast =>
      cases index with
      | zero => exact Nat.zero_le _
      | succ index =>
          have := List.length_pos_iff.mpr h.ne_nil
          rw [start_cons_succ]
          simp only [List.length_cons, List.length_nil] at hindex
          omega
  | cons h rest ih =>
      cases index with
      | zero => exact Nat.zero_le _
      | succ index =>
          have := List.length_pos_iff.mpr h.ne_nil
          have := ih (Nat.lt_of_succ_lt_succ hindex)
          rw [start_cons_succ]
          omega

theorem Cut.of_forall₂ {admits : String → Prop} {parts : List Part}
    {blocks : List (List String)} (hne : parts ≠ [])
    (h : List.Forall₂ (Part.Takes admits) parts blocks) : Cut admits parts blocks := by
  induction h with
  | nil => exact absurd rfl hne
  | @cons part block parts blocks htakes hrest ih =>
      cases hrest with
      | nil => exact .single htakes
      | cons _ _ => exact .cons htakes (ih (by simp))

/-- The parts up to an index take more components than the index counts, if there are so
many. -/
theorem Cut.lt_start_succ {admits : String → Prop} {parts : List Part}
    {blocks : List (List String)} (h : Cut admits parts blocks) {index : Nat}
    (hindex : index < parts.length) (hlong : index < blocks.flatten.length) :
    index < start blocks (index + 1) := by
  rw [← h.length_eq] at hindex
  by_cases hlast : index + 1 < blocks.length
  · exact h.le_start hlast
  · rw [start, List.take_of_length_le (by omega)]
    exact hlong

/-- Blocks in which every named segment has a block that begins with the component at its
position. -/
def BeginsAtPositions (parts : List Part) (components : List String)
    (blocks : List (List String)) : Prop :=
  ∀ (position : Nat) (name : String) (kind : Kind),
    parts[position]? = some (.named name kind) →
      ∃ component rest, blocks[position]? = some (component :: rest) ∧
        components[position]? = some component

end Wayfinding
