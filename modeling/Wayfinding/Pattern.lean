import Wayfinding.Text.CaseFolding

/-!
Anchored patterns of characters, optional characters and runs of any characters but the
newline. `Pattern.Accepts` says what a pattern accepts; `Pattern.accepts` decides it in one
pass over the text for each atom. Case is ignored by folding both sides first.
-/

namespace Wayfinding

inductive Atom where
  | char (c : Char)
  | optional (c : Char)
  | anyRun
  deriving DecidableEq, Repr

abbrev Pattern := List Atom

namespace Atom

def isSpecial (c : Char) : Bool :=
  ['\\', '.', '+', '*', '?', '(', ')', '|', '[', ']', '\x7b', '\x7d', '^', '$', '#', '&',
    '-', '~'].contains c

def escape (c : Char) : List Char :=
  if isSpecial c then ['\\', c] else [c]

def write : Atom → List Char
  | char c => escape c
  | optional c => escape c ++ ['?']
  | anyRun => ['.', '*']

def fold : Atom → Atom
  | char c => char (Text.foldCase c)
  | optional c => optional (Text.foldCase c)
  | anyRun => anyRun

/-- An estimate of the octets that a matching machine needs for the atom. -/
def size : Atom → Nat
  | char _ => 64
  | optional _ => 96
  | anyRun => 540

/-- Whether the atom and what follows it accept the empty text, if `here` says so of what
follows. -/
def atEnd (here : Bool) : Atom → Bool
  | char _ => false
  | optional _ | anyRun => here

/-- Whether the atom and what follows it accept a text that starts with `x`. What follows
accepts that text if `here`, and the text after `x` if `next`; atom and all accept the text
after `x` if `again`. -/
def before (x : Char) (here next again : Bool) : Atom → Bool
  | char c => x == c && next
  | optional c => here || x == c && next
  | anyRun => here || x != '\n' && again

/-- Extends a table of answers by an atom in front. The table says for every suffix of the
text, from the whole to the empty one, whether the rest of the pattern accepts it. -/
def extend (atom : Atom) : List Char → List Bool → List Bool
  | [], table => [atom.atEnd (table.headD false)]
  | x :: text, table =>
    let answers := extend atom text table.tail
    atom.before x (table.headD false) (table.tail.headD false) (answers.headD false) :: answers

end Atom

namespace Pattern

inductive Accepts : Pattern → List Char → Prop where
  | nil : Accepts [] []
  | char (h : Accepts rest text) : Accepts (.char c :: rest) (c :: text)
  | absent (h : Accepts rest text) : Accepts (.optional c :: rest) text
  | present (h : Accepts rest text) : Accepts (.optional c :: rest) (c :: text)
  | stop (h : Accepts rest text) : Accepts (.anyRun :: rest) text
  | more (h : Accepts (.anyRun :: rest) text) (hc : c ≠ '\n') :
      Accepts (.anyRun :: rest) (c :: text)

def table (pattern : Pattern) (text : List Char) : List Bool :=
  pattern.foldr (fun atom table => atom.extend text table)
    (List.replicate text.length false ++ [true])

def accepts (pattern : Pattern) (text : List Char) : Bool :=
  (pattern.table text).headD false

/-- Whether a pattern accepts a text up to the case of letters in both. -/
def acceptsFolded (pattern : Pattern) (text : List Char) : Bool :=
  accepts (pattern.map Atom.fold) (text.map Text.foldCase)

def write (pattern : Pattern) : String :=
  String.ofList ('^' :: pattern.flatMap Atom.write ++ ['$'])

def size (pattern : Pattern) : Nat :=
  pattern.foldl (fun n atom => n + atom.size) 0

/-- The most octets that a pattern's machine may take. -/
def sizeLimit : Nat := 10485760

theorem table_cons (atom : Atom) (rest : Pattern) (text : List Char) :
    table (atom :: rest) text = atom.extend text (table rest text) := rfl

theorem tail_table (pattern : Pattern) (x : Char) (text : List Char) :
    (table pattern (x :: text)).tail = table pattern text := by
  induction pattern with
  | nil => rfl
  | cons atom rest ih => simp only [table_cons, Atom.extend, List.tail_cons, ih]

theorem accepts_nil (text : List Char) : accepts [] text = text.isEmpty := by
  cases text <;> rfl

theorem accepts_cons_nil (atom : Atom) (rest : Pattern) :
    accepts (atom :: rest) [] = atom.atEnd (accepts rest []) := rfl

theorem accepts_cons_cons (atom : Atom) (rest : Pattern) (x : Char) (text : List Char) :
    accepts (atom :: rest) (x :: text) =
      atom.before x (accepts rest (x :: text)) (accepts rest text)
        (accepts (atom :: rest) text) := by
  simp only [accepts, table_cons, Atom.extend, tail_table, List.headD_cons]

theorem accepts_iff (pattern : Pattern) (text : List Char) :
    accepts pattern text ↔ Accepts pattern text := by
  induction pattern generalizing text with
  | nil =>
    rw [accepts_nil]
    cases text with
    | nil => exact ⟨fun _ => .nil, fun _ => rfl⟩
    | cons x text => exact ⟨fun h => by simp at h, fun h => nomatch h⟩
  | cons atom rest ih =>
    induction text with
    | nil =>
      rw [accepts_cons_nil]
      cases atom with
      | char c => exact ⟨fun h => by simp [Atom.atEnd] at h, fun h => nomatch h⟩
      | optional c =>
        exact ⟨fun h => .absent ((ih _).1 h), fun | .absent h => (ih _).2 h⟩
      | anyRun => exact ⟨fun h => .stop ((ih _).1 h), fun | .stop h => (ih _).2 h⟩
    | cons x text ihText =>
      rw [accepts_cons_cons]
      cases atom with
      | char c =>
        simp only [Atom.before, Bool.and_eq_true, beq_iff_eq, ih]
        exact ⟨fun ⟨hx, h⟩ => hx ▸ .char h, fun | .char h => ⟨rfl, h⟩⟩
      | optional c =>
        simp only [Atom.before, Bool.or_eq_true, Bool.and_eq_true, beq_iff_eq, ih]
        constructor
        · rintro (h | ⟨hx, h⟩)
          · exact .absent h
          · exact hx ▸ .present h
        · rintro (_ | _ | _)
          · exact .inl ‹_›
          · exact .inr ⟨rfl, ‹_›⟩
      | anyRun =>
        simp only [Atom.before, Bool.or_eq_true, Bool.and_eq_true, bne_iff_ne, ih, ihText]
        constructor
        · rintro (h | ⟨hx, h⟩)
          · exact .stop h
          · exact .more h hx
        · rintro (_ | _ | _)
          · exact .inl ‹_›
          · exact .inr ⟨‹_›, ‹_›⟩

end Pattern
end Wayfinding
