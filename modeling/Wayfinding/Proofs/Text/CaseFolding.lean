import Wayfinding.Text.CaseFolding

/-!
Folding the case of letters leaves the characters alone that shape a path: nothing but a
slash folds to a slash, and nothing but a newline to a newline. More generally no test for ASCII
characters sees the folding, unless it tells a letter's cases apart or knows one of the two
letters that have a form outside ASCII.
-/

namespace Wayfinding.Text

/-- Every folding outside ASCII yields a character there, but for the long s and the Kelvin
sign. -/
theorem shifted_of_mem_foldRuns :
    ∀ run ∈ foldRuns, (128 : Int) ≤ run.first + run.shift ∨
      run.first = run.last ∧ (run.first + run.shift = 's'.toNat ∨
        run.first + run.shift = 'k'.toNat) := by
  decide +kernel

theorem apply_of_covers {run : FoldRun} (hrun : run ∈ foldRuns) {code : Nat}
    (hcode : run.covers code) :
    run.apply code ∈ ['\x00', 's', 'k'] ∨ 128 ≤ (run.apply code).toNat := by
  simp only [FoldRun.covers, Bool.and_eq_true, decide_eq_true_eq] at hcode
  by_cases hvalid : (Int.ofNat code + run.shift).toNat.isValidChar
  · have hval : (run.apply code).toNat = (Int.ofNat code + run.shift).toNat :=
      congrArg Char.toNat (dif_pos hvalid)
    rw [Int.ofNat_eq_natCast] at hval
    rcases shifted_of_mem_foldRuns run hrun with hle | ⟨hone, hs | hk⟩
    · right
      omega
    · left
      have hletter : (run.apply code).toNat = 's'.toNat := by omega
      simp [Char.toNat_inj.mp hletter]
    · left
      have hletter : (run.apply code).toNat = 'k'.toNat := by omega
      simp [Char.toNat_inj.mp hletter]
  · left
    have hnull : run.apply code = '\x00' := dif_neg hvalid
    simp [hnull]

theorem foldCase_of_not_ascii {c : Char} (hc : 128 ≤ c.toNat) :
    foldCase c ∈ ['\x00', 's', 'k'] ∨ 128 ≤ (foldCase c).toNat := by
  rw [foldCase, if_neg (by omega)]
  split
  · rename_i run hfind
    have hcovers := List.find?_some hfind
    exact apply_of_covers (List.mem_of_find?_eq_some hfind) hcovers
  · exact .inr hc

theorem toLower_eq_iff {c d : Char} (hd : d.toNat < 64) : c.toLower = d ↔ c = d := by
  by_cases h : c.val ≥ 'A'.val ∧ c.val ≤ 'Z'.val
  · have hlower : 65 ≤ c.val.toNat := UInt32.le_iff_toNat_le.mp h.1
    have hupper : c.val.toNat ≤ 90 := UInt32.le_iff_toNat_le.mp h.2
    have hshifted : c.toLower.val = c.val + ('a'.val - 'A'.val) :=
      congrArg Char.val (dif_pos h)
    have hshift : ('a'.val - 'A'.val).toNat = 32 := by decide
    have hletter : 64 ≤ c.toLower.val.toNat := by
      rw [hshifted, UInt32.toNat_add]
      omega
    have hd : d.val.toNat < 64 := hd
    constructor
    · intro hc
      rw [← hc] at hd
      omega
    · intro hc
      rw [← hc] at hd
      omega
  · have hkept : c.toLower = c := dif_neg h
    rw [hkept]

/-- Below the letters a character is its own and only folding. -/
theorem foldCase_eq_iff {c d : Char} (hpos : 0 < d.toNat) (hd : d.toNat < 64) :
    foldCase c = d ↔ c = d := by
  by_cases hc : c.toNat < 128
  · rw [foldCase, if_pos hc]
    exact toLower_eq_iff hd
  · have hne : c ≠ d := by
      rintro rfl
      omega
    refine iff_of_false ?_ hne
    rintro rfl
    rcases foldCase_of_not_ascii (Nat.le_of_not_lt hc) with hletter | hle
    · simp only [List.mem_cons, List.not_mem_nil, or_false] at hletter
      rcases hletter with h | h | h <;> rw [h] at hpos hd <;> contradiction
    · omega

/-- Folding keeps a predicate that it keeps in ASCII, if the predicate holds of nothing else and
not of the letters with a form elsewhere. -/
theorem foldCase_keeps_predicate {p : Char → Bool}
    (hascii : ∀ code < 128, p (Char.ofNat code).toLower = p (Char.ofNat code))
    (hpass : ∀ c, p c → c.toNat < 128) (hletters : p '\x00' = false ∧ p 's' = false ∧ p 'k' = false)
    (c : Char) : p (foldCase c) = p c := by
  by_cases hc : c.toNat < 128
  · rw [foldCase, if_pos hc]
    simpa only [Char.ofNat_toNat] using hascii c.toNat hc
  · have hother : ∀ {d : Char}, 128 ≤ d.toNat → p d = false := fun {d} hd =>
      Bool.eq_false_iff.mpr fun hp => Nat.not_lt.mpr hd (hpass d hp)
    rw [hother (Nat.le_of_not_lt hc)]
    rcases foldCase_of_not_ascii (Nat.le_of_not_lt hc) with hletter | hle
    · obtain ⟨hnull, hs, hk⟩ := hletters
      simp only [List.mem_cons, List.not_mem_nil, or_false] at hletter
      rcases hletter with h | h | h <;> rw [h] <;> assumption
    · exact hother hle

/-- A character that nothing but itself folds to. -/
def IsCaseless (d : Char) : Prop :=
  ∀ c, foldCase c = d ↔ c = d

theorem isCaseless_of_lt {d : Char} (hpos : 0 < d.toNat) (hd : d.toNat < 64) : IsCaseless d :=
  fun _ => foldCase_eq_iff hpos hd

theorem isCaseless_underscore : IsCaseless '_' := by
  intro c
  have hpass : ∀ c : Char, (c == '_') = true → c.toNat < 128 := by
    intro c hc
    rw [beq_iff_eq.mp hc]
    decide
  have hkeeps := foldCase_keeps_predicate (p := (· == '_')) (by decide) hpass (by decide) c
  rw [← beq_iff_eq, hkeeps, beq_iff_eq]

theorem eq_of_map_foldCase_eq {text text' : List Char}
    (h : text.map foldCase = text'.map foldCase) (hcaseless : ∀ c ∈ text, IsCaseless c) :
    text' = text := by
  induction text generalizing text' with
  | nil => exact List.map_eq_nil_iff.mp h.symm
  | cons c text ih =>
      obtain ⟨d, rest, rfl, hd, hrest⟩ := List.map_eq_cons_iff.mp h.symm
      obtain ⟨hc, htext⟩ := List.forall_mem_cons.mp hcaseless
      have hself : foldCase c = c := (hc c).mpr rfl
      rw [(hc d).mp (hd.trans hself), ih hrest.symm htext]

end Wayfinding.Text
