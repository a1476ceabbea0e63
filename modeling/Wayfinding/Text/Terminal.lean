import Wayfinding.Text.Hex

/-!
Text for a terminal. The characters by which a terminal is given commands are written as
their codes, so the text is shown and not acted upon. Blanks, line ends and the remaining
control characters stay.
-/

namespace Wayfinding.Text

/-- Bell, backspace, form feed, escape, delete and the control characters above ASCII. -/
def isCommand (c : Char) : Bool :=
  c == '\x07' || c == '\x08' || c == '\x0c' || c == '\x1b' || (0x7F ≤ c.toNat && c.toNat < 0xA0)

/-- A code of ASCII has two digits; one above it stands in braces. -/
def disarmChar (c : Char) : List Char :=
  if isCommand c then
    if c.toNat < 128 then
      ['\\', 'x', Nat.digitChar (c.toNat / 16), Nat.digitChar (c.toNat % 16)]
    else ['\\', 'u', '\x7b'] ++ lowerHex c.toNat ++ ['\x7d']
  else [c]

def disarmed (s : String) : String :=
  String.ofList (s.toList.flatMap disarmChar)

theorem isCommand_of_mem_disarmChar {c d : Char} (h : d ∈ disarmChar c) :
    isCommand d = false := by
  have high : (List.range 33).all
      (fun n => (disarmChar (Char.ofNat (n + 0x7F))).all fun d => !isCommand d) = true := by
    decide +kernel
  have spelled (e : Char) (he : (disarmChar e).all (fun d => !isCommand d) = true)
      (hd : d ∈ disarmChar e) : isCommand d = false := by
    simpa using List.all_eq_true.mp he d hd
  by_cases hc : isCommand c = true
  · have hc' := hc
    simp only [isCommand, Bool.or_eq_true, Bool.and_eq_true, beq_iff_eq, decide_eq_true_eq] at hc'
    rcases hc' with (((rfl | rfl) | rfl) | rfl) | ⟨_, _⟩
    iterate 4 exact spelled _ (by decide) h
    have := List.all_eq_true.mp high (c.toNat - 0x7F) (List.mem_range.mpr (by omega))
    rw [Nat.sub_add_cancel (by omega), Char.ofNat_toNat] at this
    exact spelled c this h
  · rw [disarmChar, if_neg hc] at h
    rw [List.mem_singleton.mp h]
    exact Bool.eq_false_iff.mpr hc

end Wayfinding.Text
