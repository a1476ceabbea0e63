import Mathlib.Tactic.SplitIfs
import Wayfinding.Proofs.Json.Grammar

/-!
The scanner finds the tokens of a value in every document that spells it. Blanks and tokens are
taken one after another; only a numeral needs to see what comes after it, which in the tokens of
a value is always punctuation or the end.
-/

namespace Wayfinding.Json

theorem utf8Size_of_hexValue? {c : Char} {n : Nat} (h : Text.hexValue? c = some n) :
    c.utf8Size = 1 := by
  have hascii : c.toNat ≤ 127 := by
    simp only [Text.hexValue?] at h
    split_ifs at h with hdecimal hlower hupper
    · exact Nat.le_trans hdecimal.2 (by decide)
    · exact Nat.le_trans hlower.2 (by decide)
    · exact Nat.le_trans hupper.2 (by decide)
  exact Char.utf8Size_eq_one_iff.mpr hascii

theorem shortEscape?_of_mem {c letter : Char} (h : (c, letter) ∈ shortEscapes) :
    letter ≠ 'u' ∧ Literal.shortEscape? letter = some c := by
  have hall : ∀ escape ∈ shortEscapes,
      escape.2 ≠ 'u' ∧ Literal.shortEscape? escape.2 = some escape.1 := by decide
  exact hall (c, letter) h

namespace Literal

variable {text : List Char}

theorem phase_pushCode (literal : Literal) (code : Nat) :
    (literal.pushCode code).phase = .plain := by
  simp only [pushCode]
  split
  · split <;> rfl
  · split
    · rfl
    · split <;> rfl

theorem pushCode_toNat (c : Char) :
    pushCode ⟨.plain, .ok text, none⟩ c.toNat = ⟨.plain, .ok (c :: text), none⟩ := by
  have hvalid : c.toNat < 0xD800 ∨ 0xDFFF < c.toNat ∧ c.toNat < 0x110000 := c.valid
  have hlow : isLow c.toNat = false := by
    simp only [isLow, Bool.and_eq_false_iff, decide_eq_false_iff_not]
    omega
  have hhigh : isHigh c.toNat = false := by
    simp only [isHigh, Bool.and_eq_false_iff, decide_eq_false_iff_not]
    omega
  simp [pushCode, hlow, hhigh, push, Except.map, Char.ofNat_toNat]

/-- The two codes of the UTF-16 form of a character. -/
theorem pushCode_pushCode {c : Char} {high low : Nat} (hbeyond : 0x10000 ≤ c.toNat)
    (hhigh : high = 0xD800 + (c.toNat - 0x10000) / 0x400)
    (hlow : low = 0xDC00 + (c.toNat - 0x10000) % 0x400) :
    (pushCode ⟨.plain, .ok text, none⟩ high).pushCode low = ⟨.plain, .ok (c :: text), none⟩ := by
  have hvalid : c.toNat < 0xD800 ∨ 0xDFFF < c.toNat ∧ c.toNat < 0x110000 := c.valid
  have hnotLow : isLow high = false := by
    simp only [isLow, Bool.and_eq_false_iff, decide_eq_false_iff_not]
    omega
  have hisHigh : isHigh high = true := by
    simp only [isHigh, Bool.and_eq_true, decide_eq_true_eq]
    omega
  have hisLow : isLow low = true := by
    simp only [isLow, Bool.and_eq_true, decide_eq_true_eq]
    omega
  have hcode : 0x10000 + (high - 0xD800) * 0x400 + (low - 0xDC00) = c.toNat := by omega
  have hjoin : joinSurrogates high low = c := by
    rw [joinSurrogates, hcode, Char.ofNat_toNat]
  simp [pushCode, hnotLow, hisHigh, hisLow, hjoin, push, Except.map]

end Literal

namespace Scanner

variable {found : List Token} {text : List Char}

theorem foldl_code {code : Nat} {cs : List Char} {literal : Literal} (h : SpellsCode code cs)
    (hplain : literal.phase = .plain) :
    cs.foldl step ⟨found, .literal literal⟩ = ⟨found, .literal (literal.pushCode code)⟩ := by
  cases h with
  | @digits a b c d p q r s ha hb hc hd =>
      have hcode : Literal.codeOf? [d, c, b, a] =
          some (p * 0x1000 + q * 0x100 + r * 0x10 + s) := by
        simp only [Literal.codeOf?, ha, hb, hc, hd, Option.bind_eq_bind, Option.bind_some,
          Option.pure_def, Option.some.injEq]
        omega
      simp [step, Literal.step, hplain, Literal.octetCount, utf8Size_of_hexValue? ha,
        utf8Size_of_hexValue? hb, utf8Size_of_hexValue? hc, utf8Size_of_hexValue? hd, hcode]
      rfl

theorem foldl_char {c : Char} {cs : List Char} (h : SpellsChar c cs) :
    cs.foldl step ⟨found, .literal ⟨.plain, .ok text, none⟩⟩ =
      ⟨found, .literal ⟨.plain, .ok (c :: text), none⟩⟩ := by
  cases h with
  | plain hquote hbackslash hcontrol =>
      simp [step, Literal.step, hquote, hbackslash, Nat.not_lt.mpr hcontrol, Literal.interrupt,
        Literal.push, Except.map]
  | short hescape =>
      obtain ⟨hletter, hshort⟩ := shortEscape?_of_mem hescape
      simp [step, Literal.step, hletter, hshort, Literal.interrupt, Literal.push, Except.map]
  | code hcode => rw [foldl_code hcode rfl, Literal.pushCode_toNat]
  | surrogates hbeyond hhigh hlow =>
      rw [List.foldl_append, foldl_code hhigh rfl, foldl_code hlow (Literal.phase_pushCode ..),
        Literal.pushCode_pushCode hbeyond rfl rfl]

theorem foldl_text {spelled cs : List Char} (h : SpellsText spelled cs) :
    cs.foldl step ⟨found, .literal ⟨.plain, .ok text, none⟩⟩ =
      ⟨found, .literal ⟨.plain, .ok (spelled.reverse ++ text), none⟩⟩ := by
  induction h generalizing text with
  | nil => rfl
  | cons hchar _ ih =>
      rw [List.foldl_append, foldl_char hchar, ih, List.reverse_cons, List.append_assoc,
        List.singleton_append]

theorem foldl_literal {spelled cs : List Char} (h : SpellsText spelled cs) :
    ('"' :: (cs ++ ['"'])).foldl step ⟨found, .between⟩ =
      ⟨.literal (.ok ()) (.ok spelled) :: found, .between⟩ := by
  have hopen : step ⟨found, .between⟩ '"' = ⟨found, .literal .start⟩ := rfl
  rw [List.foldl_cons, hopen, List.foldl_append, Literal.start, foldl_text h, List.append_nil]
  simp [step, Literal.step, Literal.interrupt, Except.map, emit]

end Scanner

namespace NumeralPhase

theorem foldlM_digits {phase : NumeralPhase} {cs : List Char}
    (hstays : ∀ c, c.isDigit = true → phase.next? c = some phase) (h : IsDigits cs) :
    cs.foldlM next? phase = some phase := by
  induction cs with
  | nil => rfl
  | cons c cs ih =>
      obtain ⟨hdigit, hdigits⟩ := List.forall_mem_cons.mp h
      rw [List.foldlM_cons, hstays c hdigit]
      exact ih hdigits

theorem start?_of_wholePart {cs : List Char} (h : WholePart cs) :
    ∃ c ds phase, cs = c :: ds ∧ start? c = some phase ∧ sign.next? c = some phase ∧
      ds.foldlM next? phase = some phase ∧ phase ∈ [zero, whole] := by
  cases h with
  | zero => exact ⟨'0', [], zero, rfl, rfl, rfl, rfl, by decide⟩
  | @digits c ds hdigit hnonzero hdigits =>
      have hsign : c ≠ '-' := by
        rintro rfl
        cases hdigit
      refine ⟨c, ds, whole, rfl, ?_, ?_, foldlM_digits ?_ hdigits, by decide⟩
      · simp [start?, hsign, hnonzero, hdigit]
      · simp [next?, hnonzero, hdigit]
      · intro d hd
        simp [next?, hd]

theorem foldlM_fractionPart {phase : NumeralPhase} {cs : List Char} (h : FractionPart cs)
    (hphase : phase ∈ [zero, whole]) :
    ∃ last ∈ [zero, whole, fraction], cs.foldlM next? phase = some last := by
  cases h with
  | absent => exact ⟨phase, List.mem_append_left [fraction] hphase, rfl⟩
  | @digits c ds hdigits =>
      have hpoint : ∀ phase ∈ [zero, whole], phase.next? '.' = some point := by decide
      obtain ⟨hdigit, hdigits⟩ := List.forall_mem_cons.mp hdigits
      refine ⟨fraction, by decide, ?_⟩
      rw [List.foldlM_cons, hpoint phase hphase, Option.bind_eq_bind, Option.bind_some,
        List.foldlM_cons]
      simp only [next?, hdigit, if_true, Option.bind_eq_bind, Option.bind_some]
      exact foldlM_digits (fun d hd => by simp [next?, hd]) hdigits

theorem foldlM_exponentPart {phase : NumeralPhase} {cs : List Char} (h : ExponentPart cs)
    (hphase : phase ∈ [zero, whole, fraction]) :
    ∃ last, cs.foldlM next? phase = some last ∧ last.isComplete = true := by
  cases h with
  | absent =>
      have hcomplete : ∀ phase ∈ [zero, whole, fraction], phase.isComplete = true := by decide
      exact ⟨phase, rfl, hcomplete phase hphase⟩
  | @digits mark c sign ds hmark hsign hdigits =>
      have hnext : ∀ phase ∈ [zero, whole, fraction], ∀ letter ∈ ['e', 'E'],
          phase.next? letter = some .mark := by simp [next?]
      obtain ⟨hdigit, hdigits⟩ := List.forall_mem_cons.mp hdigits
      have hlast : ds.foldlM next? exponent = some exponent :=
        foldlM_digits (fun d hd => by simp [next?, hd]) hdigits
      refine ⟨exponent, ?_, rfl⟩
      rw [List.foldlM_cons, hnext phase hphase mark hmark]
      simp only [List.mem_cons, List.not_mem_nil, or_false] at hsign
      rcases hsign with rfl | rfl | rfl
      · simpa [next?, hdigit] using hlast
      · simpa [next?, hdigit] using hlast
      · simpa [next?, hdigit] using hlast

theorem start?_of_isNumeral {cs : List Char} (h : IsNumeral cs) :
    ∃ c ds phase last, cs = c :: ds ∧ start? c = some phase ∧ ds.foldlM next? phase = some last ∧
      last.isComplete = true := by
  cases h with
  | @parts minus ws fs es hminus hwhole hfraction hexponent =>
      obtain ⟨c, ds, first, rfl, hstart, hnext, hds, hfirst⟩ := start?_of_wholePart hwhole
      obtain ⟨middle, hmiddle, hfs⟩ := foldlM_fractionPart hfraction hfirst
      obtain ⟨last, hes, hcomplete⟩ := foldlM_exponentPart hexponent hmiddle
      have hrest : (ds ++ (fs ++ es)).foldlM next? first = some last := by
        simp [List.foldlM_append, hds, hfs, hes]
      simp only [List.mem_cons, List.not_mem_nil, or_false] at hminus
      rcases hminus with rfl | rfl
      · exact ⟨c, ds ++ (fs ++ es), first, last, rfl, hstart, hrest, hcomplete⟩
      · refine ⟨'-', c :: (ds ++ (fs ++ es)), sign, last, rfl, rfl, ?_, hcomplete⟩
        rw [List.foldlM_cons, hnext]
        exact hrest

/-- The characters that may stand right behind a numeral. -/
def enders : List Char :=
  [' ', '\n', '\t', '\r', '\x7b', '\x7d', '[', ']', ':', ',']

theorem ends_of_isComplete {phase : NumeralPhase} (h : phase.isComplete = true) {c : Char}
    (hc : c ∈ enders) : phase.next? c = none ∧ phase.mayEndBefore c = true := by
  have hall : ∀ phase ∈ [zero, whole, fraction, exponent], ∀ c ∈ enders,
      phase.next? c = none ∧ phase.mayEndBefore c = true := by
    simp [enders, next?, mayEndBefore, isComplete]
  cases phase with
  | zero => exact hall _ (by decide) c hc
  | whole => exact hall _ (by decide) c hc
  | fraction => exact hall _ (by decide) c hc
  | exponent => exact hall _ (by decide) c hc
  | sign => cases h
  | point => cases h
  | mark => cases h
  | markSign => cases h

end NumeralPhase

/-- The tokens that a single character spells. -/
def Token.isPunctuation : Token → Bool
  | .openBrace | .closeBrace | .openBracket | .closeBracket | .colon | .comma => true
  | .word _ | .numeral _ | .literal _ _ | .stray => false

/-- Only punctuation or the end comes after a numeral. -/
def Token.AreSpaced : List Token → Prop
  | [] => True
  | .numeral _ :: rest => (∀ next ∈ rest.head?, next.isPunctuation = true) ∧ AreSpaced rest
  | _ :: rest => AreSpaced rest

theorem head_mem_enders {tokens : List Token} {cs : List Char} (h : SpellsTokens tokens cs)
    (hnext : ∀ next ∈ tokens.head?, next.isPunctuation = true) :
    ∀ c ∈ cs.head?, c ∈ NumeralPhase.enders := by
  cases h with
  | nil => simp
  | blank hblank _ =>
      intro c hc
      cases hc
      exact List.mem_append_left ['\x7b', '\x7d', '[', ']', ':', ','] hblank
  | token htoken _ =>
      have hmark := hnext _ rfl
      intro c hc
      cases htoken with
      | openBrace | closeBrace | openBracket | closeBracket | colon | comma =>
          cases hc
          decide
      | null | true | false | numeral _ | literal _ => cases hmark

namespace Scanner

variable {found : List Token}

theorem begin_of_start? {c : Char} {phase : NumeralPhase}
    (h : NumeralPhase.start? c = some phase) : begin found c = ⟨found, .numeral phase [c]⟩ := by
  have hblank : isBlank c = false := by
    refine Bool.eq_false_iff.mpr fun hblank => ?_
    simp only [isBlank, Bool.or_eq_true, beq_iff_eq] at hblank
    rcases hblank with ((rfl | rfl) | rfl) | rfl
    all_goals cases h
  rw [begin.eq_def, hblank, if_neg Bool.false_ne_true]
  -- none of the characters that begin another token begins a numeral
  split <;> try cases h
  split
  · rename_i hphase
    cases hphase.symm.trans h
    rfl
  · rename_i hnone
    cases hnone.symm.trans h

theorem foldl_numeral {phase last : NumeralPhase} {chars cs : List Char}
    (h : cs.foldlM NumeralPhase.next? phase = some last) :
    cs.foldl step ⟨found, .numeral phase chars⟩ = ⟨found, .numeral last (cs.reverse ++ chars)⟩ := by
  induction cs generalizing phase chars with
  | nil =>
      cases h
      rfl
  | cons c cs ih =>
      rw [List.foldlM_cons, Option.bind_eq_bind, Option.bind_eq_some_iff] at h
      obtain ⟨next, hnext, hrest⟩ := h
      have hstep : step ⟨found, .numeral phase chars⟩ c = ⟨found, .numeral next (c :: chars)⟩ := by
        simp [step, hnext]
      rw [List.foldl_cons, hstep, ih hrest, List.reverse_cons, List.append_assoc,
        List.singleton_append]

/-- A complete numeral is taken when the character behind it or the end is met. -/
theorem finish_numeral {phase : NumeralPhase} {chars cs : List Char}
    (hcomplete : phase.isComplete = true) (hnext : ∀ c ∈ cs.head?, c ∈ NumeralPhase.enders) :
    (cs.foldl step ⟨found, .numeral phase chars⟩).finish =
      (cs.foldl step ⟨.numeral (.ok chars.reverse) :: found, .between⟩).finish := by
  cases cs with
  | nil => simp [finish, hcomplete]
  | cons c cs =>
      obtain ⟨hend, hbefore⟩ := NumeralPhase.ends_of_isComplete hcomplete (hnext c rfl)
      have hstep : step ⟨found, .numeral phase chars⟩ c =
          step ⟨.numeral (.ok chars.reverse) :: found, .between⟩ c := by
        simp [step, hend, hbefore]
      rw [List.foldl_cons, List.foldl_cons, hstep]

theorem step_blank {c : Char} (h : c ∈ [' ', '\n', '\t', '\r']) :
    step ⟨found, .between⟩ c = ⟨found, .between⟩ := by
  have hblank : ∀ c ∈ [' ', '\n', '\t', '\r'], isBlank c = true := by simp [isBlank]
  rw [step, begin.eq_def, if_pos (hblank c h)]

theorem finish_tokens {tokens : List Token} {cs : List Char} (h : SpellsTokens tokens cs)
    (hspaced : Token.AreSpaced tokens) :
    (cs.foldl step ⟨found, .between⟩).finish = tokens.reverse ++ found := by
  induction h generalizing found with
  | nil => rfl
  | blank hblank _ ih =>
      rw [List.foldl_cons, step_blank hblank]
      exact ih hspaced
  | @token token tokens spelling cs htoken hrest ih =>
      rw [List.foldl_append, List.reverse_cons, List.append_assoc, List.singleton_append]
      cases htoken with
      | openBrace | closeBrace | openBracket | closeBracket | colon | comma => exact ih hspaced
      | null | true | false => exact ih hspaced
      | literal htext =>
          rw [foldl_literal htext]
          exact ih hspaced
      | numeral hnumeral =>
          obtain ⟨hnext, hspaced⟩ := hspaced
          obtain ⟨c, ds, phase, last, rfl, hstart, hlast, hcomplete⟩ :=
            NumeralPhase.start?_of_isNumeral hnumeral
          have hbegin : step ⟨found, .between⟩ c = ⟨found, .numeral phase [c]⟩ :=
            begin_of_start? hstart
          rw [List.foldl_cons, hbegin, foldl_numeral hlast,
            finish_numeral hcomplete (head_mem_enders hrest hnext), ih hspaced,
            List.reverse_append, List.reverse_reverse]
          rfl

end Scanner

namespace Datum

theorem head_laterItems (items : List Datum) (rest : List Token) :
    ∀ next ∈ (laterItems items ++ rest).head?, next.isPunctuation = true := by
  cases items with
  | nil => simp [laterItems, Token.isPunctuation]
  | cons item items => simp [laterItems, Token.isPunctuation]

theorem head_laterMembers (members : List (String × Datum)) (rest : List Token) :
    ∀ next ∈ (laterMembers members ++ rest).head?, next.isPunctuation = true := by
  cases members with
  | nil => simp [laterMembers, Token.isPunctuation]
  | cons member members => simp [laterMembers, Token.isPunctuation]

mutual

theorem areSpaced_tokens (value : Datum) {rest : List Token}
    (hnext : ∀ next ∈ rest.head?, next.isPunctuation = true) (hrest : Token.AreSpaced rest) :
    Token.AreSpaced (value.tokens ++ rest) := by
  cases value with
  | null | text s => exact hrest
  | boolean b => cases b <;> exact hrest
  | number numeral => exact ⟨hnext, hrest⟩
  | list items =>
      cases items with
      | nil => exact hrest
      | cons item items =>
          simp only [tokens, List.cons_append, List.append_assoc]
          exact areSpaced_tokens item (head_laterItems items rest) (areSpaced_laterItems items hrest)
  | object members =>
      cases members with
      | nil => exact hrest
      | cons member members =>
          simp only [tokens, List.cons_append, List.append_assoc]
          exact areSpaced_tokens member.2 (head_laterMembers members rest)
            (areSpaced_laterMembers members hrest)

theorem areSpaced_laterItems (items : List Datum) {rest : List Token}
    (hrest : Token.AreSpaced rest) : Token.AreSpaced (laterItems items ++ rest) := by
  cases items with
  | nil => exact hrest
  | cons item items =>
      simp only [laterItems, List.cons_append, List.append_assoc]
      exact areSpaced_tokens item (head_laterItems items rest) (areSpaced_laterItems items hrest)

theorem areSpaced_laterMembers (members : List (String × Datum)) {rest : List Token}
    (hrest : Token.AreSpaced rest) : Token.AreSpaced (laterMembers members ++ rest) := by
  cases members with
  | nil => exact hrest
  | cons member members =>
      simp only [laterMembers, List.cons_append, List.append_assoc]
      exact areSpaced_tokens member.2 (head_laterMembers members rest)
        (areSpaced_laterMembers members hrest)

end

end Datum

theorem scan_of_spells {value : Datum} {document : String} (h : Spells value document) :
    Token.scan document.toList = value.tokens := by
  have hspaced := value.areSpaced_tokens (by simp) (show Token.AreSpaced [] from trivial)
  rw [List.append_nil] at hspaced
  have hfinish : (document.toList.foldl Scanner.step .start).finish = value.tokens.reverse ++ [] :=
    Scanner.finish_tokens h hspaced
  rw [Token.scan, hfinish, List.append_nil, List.reverse_reverse]

end Wayfinding.Json
