import Wayfinding.Proofs.Configuration.Settings
import Wayfinding.Proofs.Json.Written

/-!
Configurations read back from the documents that write them. A field with its default may be left
out, and the members may stand in any order among unknown ones. How a text is spelled makes no
difference, nor in which of its two forms a policy is written. The document that is made of a
configuration is one of those that write it.
-/

namespace Wayfinding
namespace Configuration

open Json (Datum Spells)

inductive WritesBaseUrl : Option String → Datum → Prop
  | null : WritesBaseUrl none .null
  | text {url : String} : WritesBaseUrl (some url) (.text url)

inductive WritesPolicy : FailurePolicy → Datum → Prop
  | name {policy : FailurePolicy} : WritesPolicy policy (.text policy.name)
  | object {policy : FailurePolicy} : WritesPolicy policy (.object [(policy.name, .null)])

/-- The values that one field has in the members which write it. -/
inductive WritesField {α : Type} (default : α) (WritesValue : α → Datum → Prop) :
    α → List Datum → Prop
  | leftOut : WritesField default WritesValue default []
  | once {x : α} {value : Datum} : WritesValue x value → WritesField default WritesValue x [value]

/-- Members that write a configuration. There may be others among them. -/
structure Writes (c : Configuration) (members : List (String × Datum)) : Prop where
  baseUrl : WritesField none WritesBaseUrl c.baseUrl (valuesOf .baseUrl members)
  listenerFailure :
    WritesField .collect WritesPolicy c.listenerFailure (valuesOf .listenerFailure members)

theorem settle_eq_some_iff {α : Type} {read : Datum → Option α} {default : α}
    {WritesValue : α → Datum → Prop}
    (hread : ∀ {value x}, read value = some x ↔ WritesValue x value) {values : List Datum} {x : α} :
    settle read default values = some x ↔ WritesField default WritesValue x values := by
  match values with
  | [] =>
      constructor
      · rintro ⟨⟩
        exact .leftOut
      · rintro ⟨⟩
        rfl
  | [value] =>
      constructor
      · exact fun h => .once (hread.mp h)
      · rintro (_ | hvalue)
        exact hread.mpr hvalue
  | _ :: _ :: _ => exact iff_of_false nofun nofun

theorem baseUrlOf?_eq_some_iff {value : Datum} {url : Option String} :
    baseUrlOf? value = some url ↔ WritesBaseUrl url value := by
  constructor
  · intro h
    unfold baseUrlOf? at h
    split at h <;> cases h
    · exact .null
    · exact .text
  · rintro (_ | _) <;> rfl

theorem eq_name_of_ofName? {name : String} {policy : FailurePolicy}
    (h : FailurePolicy.ofName? name = some policy) : name = policy.name := by
  simp only [FailurePolicy.ofName?] at h
  split at h <;> cases h <;> rfl

theorem policyOf?_eq_some_iff {value : Datum} {policy : FailurePolicy} :
    policyOf? value = some policy ↔ WritesPolicy policy value := by
  constructor
  · intro h
    unfold policyOf? at h
    split at h
    · rw [eq_name_of_ofName? h]
      exact .name
    · rw [eq_name_of_ofName? h]
      exact .object
    · cases h
  · rintro (_ | _) <;> exact policy.ofName?_name

/-- The members that make a configuration are the ones that write it. -/
theorem settings?_eq_some_iff {members : List (String × Datum)} {c : Configuration} :
    settings? members = some c ↔ Writes c members := by
  simp only [settings?, Option.bind_eq_bind, Option.bind_eq_some_iff,
    settle_eq_some_iff baseUrlOf?_eq_some_iff, settle_eq_some_iff policyOf?_eq_some_iff]
  constructor
  · rintro ⟨url, hurl, policy, hpolicy, ⟨⟩⟩
    exact ⟨hurl, hpolicy⟩
  · rintro ⟨hurl, hpolicy⟩
    exact ⟨c.baseUrl, hurl, c.listenerFailure, hpolicy, rfl⟩

theorem ofDocument_eq_ok_iff (c : Configuration) {members : List (String × Datum)}
    {document : String} (h : Spells (.object members) document) :
    ofDocument document = .ok c ↔ Writes c members := by
  rw [← toOption_eq_some_iff, ofDocument, Json.scan_of_spells h, readTokens_object,
    settings?_eq_some_iff]

/-- The members of the document that is made of a configuration. -/
def members (c : Configuration) : List (String × Datum) :=
  [(Field.baseUrl.name, (Json.Value.ofOption (c.baseUrl.map .text)).datum),
    (Field.listenerFailure.name, .text c.listenerFailure.name)]

theorem spells_members (c : Configuration) : Spells (.object c.members) c.document :=
  c.toJson.spells_compact

theorem writes_members (c : Configuration) : Writes c c.members := by
  refine ⟨.once ?_, .once .name⟩
  obtain ⟨url, policy⟩ := c
  cases url with
  | none => exact .null
  | some url => exact .text

/-- A configuration is read from every document that writes it and from no other object. The
document that is made of it is one of those. -/
theorem document_reads_back (c : Configuration) :
    (∀ {members : List (String × Datum)} {document : String}, Spells (.object members) document →
      (ofDocument document = .ok c ↔ Writes c members)) ∧
    (∃ members, Writes c members ∧ Spells (.object members) c.document) ∧
    ofDocument c.document = .ok c :=
  ⟨ofDocument_eq_ok_iff c, ⟨c.members, writes_members c, spells_members c⟩,
    (ofDocument_eq_ok_iff c (spells_members c)).mpr (writes_members c)⟩

def respelledMembers : List (String × Datum) :=
  [("listener_failure", .object [("abort", .null)]), ("base_url", .text "éé😀\n")]

def respelledDocument : String :=
  "\x7b\"listener_failure\":\x7b\"abort\":null\x7d,\"base_url\":\"é\\u00E9\\uD83d\\uDE00\\n\"\x7d"

open Json (SpellsCode SpellsText) in
theorem spells_respelledMembers : Spells (.object respelledMembers) respelledDocument := by
  have haccent : SpellsCode 'é'.toNat "\\u00E9".toList :=
    .digits (p := 0) (q := 0) (r := 14) (s := 9) rfl rfl rfl rfl
  have hhigh : SpellsCode (0xD800 + ('😀'.toNat - 0x10000) / 0x400) "\\uD83d".toList :=
    .digits (p := 13) (q := 8) (r := 3) (s := 13) rfl rfl rfl rfl
  have hlow : SpellsCode (0xDC00 + ('😀'.toNat - 0x10000) % 0x400) "\\uDE00".toList :=
    .digits (p := 13) (q := 14) (r := 0) (s := 0) rfl rfl rfl rfl
  have hurl : SpellsText "éé😀\n".toList "é\\u00E9\\uD83d\\uDE00\\n".toList :=
    .cons (.plain (by decide) (by decide) (by decide)) <| .cons (.code haccent) <|
    .cons (.surrogates (by decide) hhigh hlow) <| .cons (.short (by decide)) .nil
  have hbase : SpellsText "base_url".toList "base_url".toList := .plain (by decide)
  have hfailure : SpellsText "listener_failure".toList "listener_failure".toList :=
    .plain (by decide)
  have habort : SpellsText "abort".toList "abort".toList := .plain (by decide)
  rw [Spells, respelledDocument]
  simp only [String.reduceToList] at *
  exact .token .openBrace <| .token (.literal hfailure) <| .token .colon <|
    .token .openBrace <| .token (.literal habort) <| .token .colon <| .token .null <|
    .token .closeBrace <| .token .comma <| .token (.literal hbase) <| .token .colon <|
    .token (.literal hurl) <| .token .closeBrace .nil

/-- A letter as itself and by its code, a pair of surrogates, and a short escape. -/
theorem document_reads_back_respelled :
    Spells (.object respelledMembers) respelledDocument ∧
      ofDocument respelledDocument = .ok ⟨some "éé😀\n", .abort⟩ := by
  have hwrites : Writes ⟨some "éé😀\n", .abort⟩ respelledMembers :=
    ⟨.once .text, .once .object⟩
  exact ⟨spells_respelledMembers,
    ((document_reads_back ⟨some "éé😀\n", .abort⟩).1 spells_respelledMembers).mpr hwrites⟩

end Configuration
end Wayfinding
