import Wayfinding.Configuration.Reader
import Wayfinding.Proofs.Json.Scan
import Wayfinding.Proofs.Json.Skip
import Wayfinding.Proofs.Traversal

/-!
What a configuration document sets. A member counts by the text that its name spells, wherever
it stands; each field may be set once, and members with other names set nothing. A list of
values is read as the object that gives them names.
-/

namespace Wayfinding
namespace Configuration

open Json (Token Datum Spells)
open Json.Datum (laterItems laterMembers)

/-- A text, or null for no base URL. -/
def baseUrlOf? : Datum → Option (Option String)
  | .null => some none
  | .text url => some (some url)
  | _ => none

/-- The name of a policy, or an object whose only member has the name and null as its value. -/
def policyOf? : Datum → Option FailurePolicy
  | .text name => FailurePolicy.ofName? name
  | .object [(name, .null)] => FailurePolicy.ofName? name
  | _ => none

def valuesOf (field : Field) (members : List (String × Datum)) : List Datum :=
  (members.filter (·.1 = field.name)).map (·.2)

/-- What the values of one field set. No field may have two of them. -/
def settle {α : Type} (read : Datum → Option α) (default : α) : List Datum → Option α
  | [] => some default
  | [value] => read value
  | _ :: _ :: _ => none

/-- The configuration that the members of an object make, if they make one. -/
def settings? (members : List (String × Datum)) : Option Configuration := do
  let baseUrl ← settle baseUrlOf? none (valuesOf .baseUrl members)
  let listenerFailure ← settle policyOf? .collect (valuesOf .listenerFailure members)
  pure ⟨baseUrl, listenerFailure⟩

theorem readBaseUrl_tokens (value : Datum) (rest : List Token) :
    (readBaseUrl (value.tokens ++ rest)).toOption = (baseUrlOf? value).map (·, rest) := by
  cases value with
  | null | number _ => rfl
  | boolean b => cases b <;> rfl
  | text url =>
      have hread : readBaseUrl ((Datum.text url).tokens ++ rest) =
          .ok (some (String.ofList url.toList), rest) := rfl
      rw [hread, String.ofList_toList]
      rfl
  | list items => cases items <;> rfl
  | object members => cases members <;> rfl

theorem policyNamed_toList (name : String) :
    (policyNamed name.toList).toOption = FailurePolicy.ofName? name := by
  rw [policyNamed, String.ofList_toList]
  cases FailurePolicy.ofName? name <;> rfl

theorem skipNull_tokens (value : Datum) (rest : List Token) :
    (skipNull (value.tokens ++ rest)).toOption =
      match value with
      | .null => some rest
      | _ => none := by
  cases value with
  | null | number _ | text _ => rfl
  | boolean b => cases b <;> rfl
  | list items => cases items <;> rfl
  | object members => cases members <;> rfl

theorem readPolicy_tokens (value : Datum) (rest : List Token) :
    (readPolicy (value.tokens ++ rest)).toOption = (policyOf? value).map (·, rest) := by
  cases value with
  | null | number _ => rfl
  | boolean b => cases b <;> rfl
  | text name =>
      have hread : readPolicy ((Datum.text name).tokens ++ rest) =
          (policyNamed name.toList).map (·, rest) := rfl
      rw [hread, toOption_map, policyNamed_toList]
      rfl
  | list items => cases items <;> rfl
  | object members =>
      cases members with
      | nil => rfl
      | cons member members =>
          obtain ⟨name, value⟩ := member
          have hread : readPolicy ((Datum.object ((name, value) :: members)).tokens ++ rest) =
              (do
                let policy ← policyNamed name.toList
                let rest ← skipEnd
                  (← skipNull (value.tokens ++ (laterMembers members ++ rest)))
                pure (policy, rest)) := by
            rw [Datum.tokens]
            simp only [List.cons_append, List.append_assoc]
            rfl
          simp only [hread, toOption_bind, policyNamed_toList, skipNull_tokens]
          cases value with
          | null =>
              cases members with
              | nil =>
                  rw [policyOf?]
                  cases FailurePolicy.ofName? name <;> rfl
              | cons _ _ => cases FailurePolicy.ofName? name <;> rfl
          | boolean _ | number _ | text _ | list _ | object _ =>
              cases FailurePolicy.ofName? name <;> rfl

/-- Sets a field that is not set yet. -/
def setOnce {α : Type} (read : Datum → Option α) (current : Option α) (value : Datum) :
    Option (Option α) :=
  if current.isSome then none else (read value).map some

theorem foldlM_setOnce {α : Type} (read : Datum → Option α) (default : α) (values : List Datum) :
    (values.foldlM (setOnce read) none).map (·.getD default) = settle read default values := by
  cases values with
  | nil => rfl
  | cons value values =>
      have hfirst : setOnce read none value = (read value).map some := rfl
      rw [List.foldlM_cons, hfirst]
      cases values with
      | nil => cases hread : read value <;> simp [settle, hread]
      | cons other values =>
          cases read value with
          | none => rfl
          | some x =>
              have hsecond : setOnce read (some x) other = none := rfl
              simp [hsecond, settle]

/-- What one member changes in a draft. -/
def Draft.take? (draft : Draft) (member : String × Datum) : Option Draft :=
  match Field.ofName? member.1 with
  | some .baseUrl =>
    (setOnce baseUrlOf? draft.baseUrl member.2).map fun url => { draft with baseUrl := url }
  | some .listenerFailure =>
    (setOnce policyOf? draft.listenerFailure member.2).map fun policy =>
      { draft with listenerFailure := policy }
  | none => some draft

theorem readMember_tokens (draft : Draft) (name : String) (value : Datum) (rest : List Token) :
    (readMember draft name.toList (.colon :: (value.tokens ++ rest))).toOption =
      (draft.take? (name, value)).map (·, rest) := by
  have hcolon : skipColon (.colon :: (value.tokens ++ rest)) = .ok (value.tokens ++ rest) := rfl
  rw [readMember, String.ofList_toList, Draft.take?, hcolon]
  cases Field.ofName? name with
  | none =>
      have hskip : skipUnknown (value.tokens ++ rest) = .ok rest := by
        rw [skipUnknown, Json.skipValue_tokens]
      simp only [ok_bind, hskip]
      rfl
  | some field =>
      cases field with
      | baseUrl =>
          simp only [setOnce]
          cases draft.baseUrl.isSome with
          | true => rfl
          | false =>
              simp only [ok_bind, if_neg Bool.false_ne_true, toOption_bind,
                readBaseUrl_tokens]
              cases baseUrlOf? value <;> rfl
      | listenerFailure =>
          simp only [setOnce]
          cases draft.listenerFailure.isSome with
          | true => rfl
          | false =>
              simp only [ok_bind, if_neg Bool.false_ne_true, toOption_bind,
                readPolicy_tokens]
              cases policyOf? value <;> rfl

theorem readMembers_of_name {draft : Draft} {isFirst : Bool} {tokens afterName : List Token}
    {name : List Char} (hname : readNextName isFirst tokens = .ok (name, afterName)) :
    readMembers draft isFirst tokens =
      (do
        let (draft, rest) ← readMember draft name afterName
        readMembers draft false rest) := by
  rw [readMembers.eq_def]
  split
  · rename_i rest
    cases isFirst <;> cases hname
  · split
    · rename_i hfault
      cases hfault.symm.trans hname
    · rename_i hname'
      cases hname'.symm.trans hname
      split
      · rename_i hfault
        rw [hfault]
        rfl
      · rename_i hmember
        rw [hmember]
        rfl

theorem readMembers_laterMembers (draft : Draft) (members : List (String × Datum))
    (rest : List Token) :
    (readMembers draft false (laterMembers members ++ rest)).toOption =
      (members.foldlM Draft.take? draft).map (·, rest) := by
  induction members generalizing draft with
  | nil =>
      have hend : readMembers draft false (.closeBrace :: rest) = .ok (draft, rest) := by
        rw [readMembers]
      exact congrArg Except.toOption hend
  | cons member members ih =>
      obtain ⟨name, value⟩ := member
      have hname : readNextName false (laterMembers ((name, value) :: members) ++ rest) =
          .ok (name.toList, .colon :: (value.tokens ++ (laterMembers members ++ rest))) := by
        simp only [laterMembers, List.cons_append, List.append_assoc]
        rfl
      rw [readMembers_of_name hname, toOption_bind, readMember_tokens, List.foldlM_cons]
      cases draft.take? (name, value) with
      | none => rfl
      | some next => exact ih next

/-- The members of an object whose opening brace has been read. -/
theorem readMembers_object (members : List (String × Datum)) :
    ∃ tokens, (Datum.object members).tokens = .openBrace :: tokens ∧
      (readMembers ⟨none, none⟩ true tokens).toOption =
        (members.foldlM Draft.take? ⟨none, none⟩).map (·, []) := by
  cases members with
  | nil =>
      have hend : readMembers ⟨none, none⟩ true [.closeBrace] = .ok (⟨none, none⟩, []) := by
        rw [readMembers]
      exact ⟨[.closeBrace], rfl, congrArg Except.toOption hend⟩
  | cons member members =>
      obtain ⟨name, value⟩ := member
      refine ⟨_, rfl, ?_⟩
      have hname : readNextName true
            (.ofText name :: .colon :: (value.tokens ++ laterMembers members)) =
          .ok (name.toList, .colon :: (value.tokens ++ laterMembers members)) := rfl
      rw [readMembers_of_name hname, toOption_bind, readMember_tokens, List.foldlM_cons]
      cases Draft.take? ⟨none, none⟩ (name, value) with
      | none => rfl
      | some next =>
          have hlater := readMembers_laterMembers next members []
          rw [List.append_nil] at hlater
          exact hlater

theorem ofName?_eq_some_iff {name : String} {field : Field} :
    Field.ofName? name = some field ↔ name = field.name := by
  constructor
  · intro h
    simp only [Field.ofName?] at h
    split at h <;> cases h <;> rfl
  · rintro rfl
    cases field <;> rfl

theorem valuesOf_cons_of_some {name : String} {field : Field} (h : Field.ofName? name = some field)
    (value : Datum) (members : List (String × Datum)) :
    valuesOf field ((name, value) :: members) = value :: valuesOf field members := by
  simp [valuesOf, ofName?_eq_some_iff.mp h]

theorem valuesOf_cons_of_ne {name : String} {field : Field} (h : Field.ofName? name ≠ some field)
    (value : Datum) (members : List (String × Datum)) :
    valuesOf field ((name, value) :: members) = valuesOf field members := by
  have hname : name ≠ field.name := fun hname => h (ofName?_eq_some_iff.mpr hname)
  simp [valuesOf, hname]

/-- The members set each field from its own values, as if the others were not there. -/
theorem foldlM_take? (draft : Draft) (members : List (String × Datum)) :
    members.foldlM Draft.take? draft =
      (do
        let baseUrl ← (valuesOf .baseUrl members).foldlM (setOnce baseUrlOf?) draft.baseUrl
        let listenerFailure ← (valuesOf .listenerFailure members).foldlM (setOnce policyOf?)
          draft.listenerFailure
        pure ⟨baseUrl, listenerFailure⟩) := by
  induction members generalizing draft with
  | nil => rfl
  | cons member members ih =>
      obtain ⟨name, value⟩ := member
      rw [List.foldlM_cons, Draft.take?]
      cases hfield : Field.ofName? name with
      | none =>
          rw [valuesOf_cons_of_ne (by simp [hfield]), valuesOf_cons_of_ne (by simp [hfield])]
          exact ih draft
      | some field =>
          cases field with
          | baseUrl =>
              rw [valuesOf_cons_of_some hfield, valuesOf_cons_of_ne (by simp [hfield]),
                List.foldlM_cons]
              cases setOnce baseUrlOf? draft.baseUrl value with
              | none => rfl
              | some url => exact ih { draft with baseUrl := url }
          | listenerFailure =>
              rw [valuesOf_cons_of_some hfield, valuesOf_cons_of_ne (by simp [hfield]),
                List.foldlM_cons]
              cases setOnce policyOf? draft.listenerFailure value with
              | none =>
                  cases (valuesOf .baseUrl members).foldlM (setOnce baseUrlOf?) draft.baseUrl <;> rfl
              | some policy => exact ih { draft with listenerFailure := policy }

theorem map_complete_foldlM (members : List (String × Datum)) :
    (members.foldlM Draft.take? ⟨none, none⟩).map Draft.complete = settings? members := by
  rw [foldlM_take?, settings?, ← foldlM_setOnce, ← foldlM_setOnce]
  cases (valuesOf .baseUrl members).foldlM (setOnce baseUrlOf?) none with
  | none => rfl
  | some url =>
      cases (valuesOf .listenerFailure members).foldlM (setOnce policyOf?) none <;> rfl

theorem readTokens_object (members : List (String × Datum)) :
    (readTokens (Datum.object members).tokens).toOption = settings? members := by
  obtain ⟨tokens, htokens, hread⟩ := readMembers_object members
  rw [htokens, readTokens, toOption_bind, hread, ← map_complete_foldlM]
  cases members.foldlM Draft.take? ⟨none, none⟩ <;> rfl

theorem skipComma_tokens (value : Datum) (rest : List Token) :
    skipComma (.comma :: (value.tokens ++ rest)) = .ok (value.tokens ++ rest) := by
  obtain ⟨first, later, htokens, hfirst⟩ := value.tokens_eq_cons
  rw [htokens]
  cases first with
  | closeBracket => cases hfirst
  | openBrace | closeBrace | openBracket | colon | comma | stray => rfl
  | word _ | numeral _ | literal _ _ => rfl

theorem readItems_tokens (value : Datum) (rest : List Token) :
    readItems (value.tokens ++ rest) =
      (do
        let (url, rest) ← readBaseUrl (value.tokens ++ rest)
        match rest with
        | .closeBracket :: rest => pure (⟨some url, none⟩, rest)
        | rest =>
          let (policy, rest) ← readPolicy (← skipComma rest)
          pure (⟨some url, some policy⟩, ← skipListEnd rest)) := by
  obtain ⟨first, later, htokens, hfirst⟩ := value.tokens_eq_cons
  rw [htokens]
  cases first with
  | closeBracket => cases hfirst
  | openBrace | closeBrace | openBracket | colon | comma | stray => rfl
  | word _ | numeral _ | literal _ _ => rfl

theorem readItems_one (value : Datum) :
    (readItems (value.tokens ++ [.closeBracket])).toOption =
      (baseUrlOf? value).map fun url => (⟨some url, none⟩, []) := by
  rw [readItems_tokens, toOption_bind, readBaseUrl_tokens]
  cases baseUrlOf? value <;> rfl

theorem readItems_two (first second : Datum) :
    (readItems (first.tokens ++ .comma :: (second.tokens ++ [.closeBracket]))).toOption =
      (do
        let url ← baseUrlOf? first
        let policy ← policyOf? second
        pure (⟨some url, some policy⟩, [])) := by
  rw [readItems_tokens, toOption_bind, readBaseUrl_tokens]
  cases baseUrlOf? first with
  | none => rfl
  | some url =>
      simp only [Option.map_some, Option.bind_some, skipComma_tokens, ok_bind, toOption_bind,
        readPolicy_tokens]
      cases policyOf? second <;> rfl

/-- The members that the items of a list stand for. -/
def named (items : List Datum) : List (String × Datum) :=
  [Field.baseUrl.name, Field.listenerFailure.name].zip items

theorem readTokens_list {items : List Datum} (h : items.length ≤ 2) :
    (readTokens (Datum.list items).tokens).toOption = settings? (named items) := by
  match items, h with
  | [], _ => rfl
  | [url], _ =>
      have hread : readTokens (Datum.list [url]).tokens =
          (do
            let (draft, rest) ← readItems (url.tokens ++ [.closeBracket])
            if rest.isEmpty then pure draft.complete else .error (.malformed .trailingText)) := rfl
      have hvalues : settings? (named [url]) = (baseUrlOf? url).bind fun url =>
          some ⟨url, .collect⟩ := rfl
      rw [hread, toOption_bind, readItems_one, hvalues]
      cases baseUrlOf? url <;> rfl
  | [url, policy], _ =>
      have hread : readTokens (Datum.list [url, policy]).tokens =
          (do
            let (draft, rest) ← readItems
              (url.tokens ++ .comma :: (policy.tokens ++ [.closeBracket]))
            if rest.isEmpty then pure draft.complete else .error (.malformed .trailingText)) := rfl
      have hvalues : settings? (named [url, policy]) = (baseUrlOf? url).bind fun url =>
          (policyOf? policy).bind fun policy => some ⟨url, policy⟩ := rfl
      rw [hread, toOption_bind, readItems_two, hvalues]
      cases baseUrlOf? url with
      | none => rfl
      | some url => cases policyOf? policy <;> rfl

/-- A document that spells an object succeeds exactly if its members settle every field, and
sets what they say. A list of at most two values is read as the object that names them. -/
theorem ofDocument_reads_settings :
    (∀ {members : List (String × Datum)} {document : String}, Spells (.object members) document →
      (ofDocument document).toOption = settings? members) ∧
    ∀ {items : List Datum} {listed document : String}, items.length ≤ 2 →
      Spells (.list items) listed → Spells (.object (named items)) document →
      (ofDocument listed).toOption = (ofDocument document).toOption := by
  have hobject : ∀ {members : List (String × Datum)} {document : String},
      Spells (.object members) document → (ofDocument document).toOption = settings? members := by
    intro members document h
    rw [ofDocument, Json.scan_of_spells h, readTokens_object]
  refine ⟨hobject, fun hlength hlisted hdocument => ?_⟩
  rw [hobject hdocument, ofDocument, Json.scan_of_spells hlisted, readTokens_list hlength]

def sampleMembers : List (String × Datum) :=
  [("base_url", .text "h\n"), ("x", .list [.number ['-', '5'], .object []]),
    ("listener_failure", .text "abort")]

def sampleDocument : String :=
  "\x7b \"\\u0062ase_url\": \"h\\n\",\"x\":[-5,\x7b\x7d ],\"listener_failure\":\"abort\"\x7d"

open Json (SpellsCode SpellsText IsNumeral) in
theorem spells_sampleMembers : Spells (.object sampleMembers) sampleDocument := by
  have hcode : SpellsCode 'b'.toNat "\\u0062".toList :=
    .digits (p := 0) (q := 0) (r := 6) (s := 2) rfl rfl rfl rfl
  have hkey : SpellsText "base_url".toList "\\u0062ase_url".toList :=
    .cons (.code hcode) (.plain (by decide))
  have hurl : SpellsText "h\n".toList "h\\n".toList :=
    .cons (.plain (by decide) (by decide) (by decide)) (.cons (.short (by decide)) .nil)
  have hx : SpellsText "x".toList "x".toList := .plain (by decide)
  have hfailure : SpellsText "listener_failure".toList "listener_failure".toList :=
    .plain (by decide)
  have habort : SpellsText "abort".toList "abort".toList := .plain (by decide)
  have hnumber : IsNumeral (['-'] ++ (['5'] ++ ([] ++ []))) :=
    .parts (by decide) (.digits (by decide) (by decide) nofun) .absent .absent
  rw [Spells, sampleDocument]
  simp only [String.reduceToList] at *
  exact .token .openBrace <| .blank (by decide) <| .token (.literal hkey) <| .token .colon <|
    .blank (by decide) <| .token (.literal hurl) <| .token .comma <| .token (.literal hx) <|
    .token .colon <| .token .openBracket <| .token (.numeral hnumber) <| .token .comma <|
    .token .openBrace <| .token .closeBrace <| .blank (by decide) <| .token .closeBracket <|
    .token .comma <| .token (.literal hfailure) <| .token .colon <| .token (.literal habort) <|
    .token .closeBrace .nil

theorem spells_nullItem : Spells (.list [.null]) "[ null]" :=
  .token .openBracket <| .blank (by decide) <| .token .null <| .token .closeBracket .nil

theorem spells_nullMember : Spells (.object (named [.null])) "\x7b\"base_url\":null \x7d" := by
  have hkey : Json.SpellsText "base_url".toList "base_url".toList := .plain (by decide)
  rw [Spells]
  simp only [String.reduceToList] at *
  exact .token .openBrace <| .token (.literal hkey) <| .token .colon <| .token .null <|
    .blank (by decide) <| .token .closeBrace .nil

theorem ofDocument_reads_settings_sample :
    Spells (.object sampleMembers) sampleDocument ∧
      (ofDocument sampleDocument).toOption = some ⟨some "h\n", .abort⟩ ∧
      (ofDocument "[ null]").toOption = (ofDocument "\x7b\"base_url\":null \x7d").toOption :=
  ⟨spells_sampleMembers, ofDocument_reads_settings.1 spells_sampleMembers,
    ofDocument_reads_settings.2 (by decide) spells_nullItem spells_nullMember⟩

end Configuration
end Wayfinding
