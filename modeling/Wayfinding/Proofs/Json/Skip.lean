import Wayfinding.Json.Skip
import Wayfinding.Proofs.Json.Grammar

/-!
Passing over a value takes the tokens of the value and no others, at any depth. What the open
brackets around it hold is left as it is, so a bracket is passed item by item.
-/

namespace Wayfinding.Json

/-- The tokens that begin a value. -/
def Token.startsValue : Token → Bool
  | .word (.ok _) | .numeral (.ok _) | .literal (.ok ()) (.ok _) | .openBracket | .openBrace => true
  | _ => false

theorem Datum.tokens_eq_cons (value : Datum) :
    ∃ first later, value.tokens = first :: later ∧ first.startsValue = true := by
  cases value with
  | null => exact ⟨_, _, rfl, rfl⟩
  | boolean b => cases b <;> exact ⟨_, _, rfl, rfl⟩
  | number numeral => exact ⟨_, _, rfl, rfl⟩
  | text s => exact ⟨_, _, rfl, rfl⟩
  | list items => cases items <;> exact ⟨_, _, rfl, rfl⟩
  | object members => cases members <;> exact ⟨_, _, rfl, rfl⟩

namespace Skipping

open Json.Datum (laterItems laterMembers)

/-- Goes on after a value inside the brackets given. -/
def resume (brackets : List Bracket) (tokens : List Token) : Except Fault (List Token) :=
  match afterValue brackets with
  | none => .ok tokens
  | some next => next.run tokens

theorem resume_cons (bracket : Bracket) (brackets : List Bracket) (tokens : List Token) :
    resume (bracket :: brackets) tokens = run ⟨.separator, bracket :: brackets⟩ tokens := rfl

theorem run_of_ends {skipping : Skipping} {token : Token} {brackets : List Bracket}
    (h : skipping.step token = .ok (afterValue brackets)) (rest : List Token) :
    skipping.run (token :: rest) = resume brackets rest := by
  rw [run, h, resume]
  cases afterValue brackets <;> rfl

theorem run_firstItem (value : Datum) (brackets : List Bracket) (rest : List Token) :
    run ⟨.firstItem, brackets⟩ (value.tokens ++ rest) =
      run ⟨.value, brackets⟩ (value.tokens ++ rest) := by
  obtain ⟨first, later, htokens, hfirst⟩ := value.tokens_eq_cons
  have hstep : step ⟨.firstItem, brackets⟩ first = step ⟨.value, brackets⟩ first := by
    cases first with
    | closeBracket => cases hfirst
    | openBrace | closeBrace | openBracket | colon | comma | stray => cases brackets <;> rfl
    | word _ | numeral _ | literal _ _ => cases brackets <;> rfl
  rw [htokens, List.cons_append, run, run, hstep]

mutual

theorem run_tokens (value : Datum) (brackets : List Bracket) (rest : List Token) :
    run ⟨.value, brackets⟩ (value.tokens ++ rest) = resume brackets rest := by
  cases value with
  | null | number _ | text _ => exact run_of_ends rfl rest
  | boolean b => cases b <;> exact run_of_ends rfl rest
  | list items =>
      cases items with
      | nil => exact run_of_ends rfl rest
      | cons item items =>
          have hopen : run ⟨.value, brackets⟩ ((Datum.list (item :: items)).tokens ++ rest) =
              run ⟨.firstItem, .list :: brackets⟩
                (item.tokens ++ (laterItems items ++ rest)) := by
            rw [Datum.tokens, List.cons_append, List.append_assoc]
            rfl
          rw [hopen, run_firstItem, run_tokens item, resume_cons, run_laterItems items]
  | object members =>
      cases members with
      | nil => exact run_of_ends rfl rest
      | cons member members =>
          have hopen : run ⟨.value, brackets⟩ ((Datum.object (member :: members)).tokens ++ rest) =
              run ⟨.value, .object :: brackets⟩
                (member.2.tokens ++ (laterMembers members ++ rest)) := by
            rw [Datum.tokens]
            simp only [List.cons_append, List.append_assoc]
            rfl
          rw [hopen, run_tokens member.2, resume_cons, run_laterMembers members]

theorem run_laterItems (items : List Datum) (brackets : List Bracket) (rest : List Token) :
    run ⟨.separator, .list :: brackets⟩ (laterItems items ++ rest) = resume brackets rest := by
  cases items with
  | nil => exact run_of_ends rfl rest
  | cons item items =>
      have hcomma : run ⟨.separator, .list :: brackets⟩ (laterItems (item :: items) ++ rest) =
          run ⟨.value, .list :: brackets⟩ (item.tokens ++ (laterItems items ++ rest)) := by
        rw [laterItems, List.cons_append, List.append_assoc]
        rfl
      rw [hcomma, run_tokens item, resume_cons, run_laterItems items]

theorem run_laterMembers (members : List (String × Datum)) (brackets : List Bracket)
    (rest : List Token) :
    run ⟨.separator, .object :: brackets⟩ (laterMembers members ++ rest) =
      resume brackets rest := by
  cases members with
  | nil => exact run_of_ends rfl rest
  | cons member members =>
      have hcomma : run ⟨.separator, .object :: brackets⟩
            (laterMembers (member :: members) ++ rest) =
          run ⟨.value, .object :: brackets⟩
            (member.2.tokens ++ (laterMembers members ++ rest)) := by
        rw [laterMembers]
        simp only [List.cons_append, List.append_assoc]
        rfl
      rw [hcomma, run_tokens member.2, resume_cons, run_laterMembers members]

end

end Skipping

theorem skipValue_tokens (value : Datum) (rest : List Token) :
    skipValue (value.tokens ++ rest) = .ok rest :=
  Skipping.run_tokens value [] rest

end Wayfinding.Json
