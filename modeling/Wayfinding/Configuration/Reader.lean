import Wayfinding.Configuration.Basic
import Wayfinding.Json.Skip
import Wayfinding.Text.Quoted

/-!
Configurations read from JSON documents: an object with the known members in any order among
unknown ones, or a list of their values. A policy is a string, or an object whose one member
has the policy as its name and null as its value. The first fault of the document counts.
-/

namespace Wayfinding
namespace Configuration

/-- A value where one of another type is wanted. -/
inductive Found where
  | null
  | boolean (b : Bool)
  | integer (n : Int)
  | real (written : String)
  | text (s : String)
  | list
  | object
  deriving DecidableEq, Repr

def Found.message : Found → String
  | .null => "null"
  | .boolean b => if b then "boolean `true`" else "boolean `false`"
  | .integer n => "integer `" ++ toString n ++ "`"
  | .real written => "floating point `" ++ written ++ "`"
  | .text s => "string " ++ Text.quoted s
  | .list => "sequence"
  | .object => "map"

inductive Expected where
  | text
  | configuration
  | null
  deriving DecidableEq, Repr

def Expected.message : Expected → String
  | .text => "a string"
  | .configuration => "struct RouterConfig"
  | .null => "unit"

inductive Fault where
  | malformed (fault : Json.Fault)
  | duplicate (field : Field)
  | unknownPolicy (name : String)
  | unexpected (found : Found) (expected : Expected)
  deriving DecidableEq, Repr

/-- What is wrong with the document. -/
def Fault.detail : Fault → String
  | .malformed fault => fault.message
  | .duplicate field => "duplicate field `" ++ field.name ++ "`"
  | .unknownPolicy name => "unknown variant `" ++ name ++ "`, expected `collect` or `abort`"
  | .unexpected found expected =>
    "invalid type: " ++ found.message ++ ", expected " ++ expected.message

def Fault.message (fault : Fault) : String :=
  "invalid router configuration: " ++ fault.detail

open Json (Token)

/-- The fault of a token that starts no value of the type wanted. A malformed token is
reported as such. -/
def refuse (expected : Expected) : Token → Fault
  | .word (.error fault) | .numeral (.error fault) | .literal _ (.error fault) =>
    .malformed fault
  | .word (.ok .null) => .unexpected .null expected
  | .word (.ok .true) => .unexpected (.boolean true) expected
  | .word (.ok .false) => .unexpected (.boolean false) expected
  | .numeral (.ok numeral) =>
    match Json.readNumeral numeral with
    | .error fault => .malformed fault
    | .ok (.integer n) => .unexpected (.integer n) expected
    | .ok (.real x) => .unexpected (.real (Json.writeReal x)) expected
  | .literal _ (.ok text) => .unexpected (.text (String.ofList text)) expected
  | .openBracket => .unexpected .list expected
  | .openBrace => .unexpected .object expected
  | .closeBrace | .closeBracket | .colon | .comma | .stray => .malformed .expectedValue

def readBaseUrl : List Token → Except Fault (Option String × List Token)
  | [] => .error (.malformed .endOfValue)
  | .word (.ok .null) :: rest => .ok (none, rest)
  | .literal _ (.ok text) :: rest => .ok (some (String.ofList text), rest)
  | token :: _ => .error (refuse .text token)

/-- The name of a member where one is due, with the faults of a document and of an object that
end there. -/
def readName (atEnd atBrace : Json.Fault) : List Token → Except Fault (List Char × List Token)
  | [] => .error (.malformed atEnd)
  | .literal _ (.ok name) :: rest => .ok (name, rest)
  | .literal _ (.error fault) :: _ => .error (.malformed fault)
  | .closeBrace :: _ => .error (.malformed atBrace)
  | _ :: _ => .error (.malformed .keyNotString)

def policyNamed (name : List Char) : Except Fault FailurePolicy :=
  match FailurePolicy.ofName? (String.ofList name) with
  | some policy => .ok policy
  | none => .error (.unknownPolicy (String.ofList name))

def skipColon : List Token → Except Fault (List Token)
  | [] => .error (.malformed .endOfObject)
  | .colon :: rest => .ok rest
  | _ :: _ => .error (.malformed .expectedColon)

/-- The end of an object that may hold one member. -/
def skipEnd : List Token → Except Fault (List Token)
  | [] => .error (.malformed .endOfObject)
  | .closeBrace :: rest => .ok rest
  | _ :: _ => .error (.malformed .expectedValue)

def skipNull : List Token → Except Fault (List Token)
  | [] => .error (.malformed .endOfValue)
  | .word (.ok .null) :: rest => .ok rest
  | token :: _ => .error (refuse .null token)

def readPolicyObject (tokens : List Token) : Except Fault (FailurePolicy × List Token) := do
  let (name, rest) ← readName .endOfObject .expectedValue tokens
  let policy ← policyNamed name
  let rest ← skipEnd (← skipNull (← skipColon rest))
  pure (policy, rest)

def readPolicy : List Token → Except Fault (FailurePolicy × List Token)
  | [] => .error (.malformed .endOfValue)
  | .literal _ (.error fault) :: _ => .error (.malformed fault)
  | .literal _ (.ok name) :: rest => (policyNamed name).map (·, rest)
  | .openBrace :: rest => readPolicyObject rest
  | _ :: _ => .error (.malformed .expectedValue)

/-- Passes over the value of an unknown member. -/
def skipUnknown (tokens : List Token) : Except Fault (List Token) :=
  match Json.skipValue tokens with
  | .error fault => .error (.malformed fault)
  | .ok rest => .ok rest

/-- The members read so far; an absent one is apart from one that is null. -/
structure Draft where
  baseUrl : Option (Option String)
  listenerFailure : Option FailurePolicy

def Draft.complete (draft : Draft) : Configuration :=
  { baseUrl := draft.baseUrl.getD none
    listenerFailure := draft.listenerFailure.getD .collect }

/-- Reads what follows the name of a member. That a name came before is reported before
anything after it. -/
def readMember (draft : Draft) (name : List Char) (tokens : List Token) :
    Except Fault (Draft × List Token) :=
  match Field.ofName? (String.ofList name) with
  | some .baseUrl =>
    if draft.baseUrl.isSome then .error (.duplicate .baseUrl)
    else do
      let (url, rest) ← readBaseUrl (← skipColon tokens)
      pure ({ draft with baseUrl := some url }, rest)
  | some .listenerFailure =>
    if draft.listenerFailure.isSome then .error (.duplicate .listenerFailure)
    else do
      let (policy, rest) ← readPolicy (← skipColon tokens)
      pure ({ draft with listenerFailure := some policy }, rest)
  | none => do
    let rest ← skipUnknown (← skipColon tokens)
    pure (draft, rest)

/-- The name of the first member or, if there are members before it, of the next one after a
comma. -/
def readNextName (isFirst : Bool) : List Token → Except Fault (List Char × List Token)
  | .comma :: rest =>
    if isFirst then .error (.malformed .keyNotString)
    else readName .endOfValue .trailingComma rest
  | tokens =>
    if isFirst || tokens.isEmpty then readName .endOfObject .keyNotString tokens
    else .error (.malformed .expectedMember)

theorem length_of_skipColon {tokens rest : List Token} (h : skipColon tokens = .ok rest) :
    rest.length < tokens.length := by
  unfold skipColon at h
  split at h <;> cases h
  simp

theorem length_of_skipEnd {tokens rest : List Token} (h : skipEnd tokens = .ok rest) :
    rest.length < tokens.length := by
  unfold skipEnd at h
  split at h <;> cases h
  simp

theorem length_of_skipNull {tokens rest : List Token} (h : skipNull tokens = .ok rest) :
    rest.length < tokens.length := by
  unfold skipNull at h
  split at h <;> cases h
  simp

theorem length_of_readBaseUrl {tokens rest : List Token} {url : Option String}
    (h : readBaseUrl tokens = .ok (url, rest)) : rest.length < tokens.length := by
  unfold readBaseUrl at h
  split at h <;> cases h <;> simp

theorem length_of_readName {atEnd atBrace : Json.Fault} {tokens rest : List Token}
    {name : List Char} (h : readName atEnd atBrace tokens = .ok (name, rest)) :
    rest.length < tokens.length := by
  unfold readName at h
  split at h <;> cases h
  simp

theorem length_of_readPolicyObject {tokens rest : List Token} {policy : FailurePolicy}
    (h : readPolicyObject tokens = .ok (policy, rest)) : rest.length < tokens.length := by
  unfold readPolicyObject at h
  simp only [bind, Except.bind, pure, Except.pure] at h
  repeat' split at h
  all_goals cases h
  rename_i h₀ _ _ _ h₁ _ _ h₂ _ _ h₃
  have := length_of_readName h₀
  have := length_of_skipColon h₁
  have := length_of_skipNull h₂
  have := length_of_skipEnd h₃
  omega

theorem length_of_readPolicy {tokens rest : List Token} {policy : FailurePolicy}
    (h : readPolicy tokens = .ok (policy, rest)) : rest.length < tokens.length := by
  unfold readPolicy at h
  split at h
  · cases h
  · cases h
  · simp only [Except.map] at h
    split at h <;> cases h
    simp
  · exact Nat.lt_succ_of_lt (length_of_readPolicyObject h)
  · cases h

theorem length_of_skipUnknown {tokens rest : List Token} (h : skipUnknown tokens = .ok rest) :
    rest.length < tokens.length := by
  unfold skipUnknown at h
  split at h <;> cases h
  rename_i h
  exact Json.Skipping.length_lt_of_run h

theorem length_of_readMember {draft next : Draft} {name : List Char} {tokens rest : List Token}
    (h : readMember draft name tokens = .ok (next, rest)) : rest.length < tokens.length := by
  unfold readMember at h
  simp only [bind, Except.bind, pure, Except.pure] at h
  split at h
  · repeat' split at h
    all_goals cases h
    rename_i h₁ _ _ h₂
    exact Nat.lt_trans (length_of_readBaseUrl h₂) (length_of_skipColon h₁)
  · repeat' split at h
    all_goals cases h
    rename_i h₁ _ _ h₂
    exact Nat.lt_trans (length_of_readPolicy h₂) (length_of_skipColon h₁)
  · repeat' split at h
    all_goals cases h
    rename_i h₁ _ h₂
    exact Nat.lt_trans (length_of_skipUnknown h₂) (length_of_skipColon h₁)

theorem length_of_readNextName {isFirst : Bool} {tokens rest : List Token} {name : List Char}
    (h : readNextName isFirst tokens = .ok (name, rest)) : rest.length < tokens.length := by
  unfold readNextName at h
  split at h
  · split at h
    · cases h
    · exact Nat.lt_succ_of_lt (length_of_readName h)
  · split at h
    · exact length_of_readName h
    · cases h

/-- Reads the members of an object up to its closing brace. -/
def readMembers (draft : Draft) (isFirst : Bool) (tokens : List Token) :
    Except Fault (Draft × List Token) :=
  match tokens with
  | .closeBrace :: rest => .ok (draft, rest)
  | tokens =>
    match _hName : readNextName isFirst tokens with
    | .error fault => .error fault
    | .ok (name, afterName) =>
      match _hMember : readMember draft name afterName with
      | .error fault => .error fault
      | .ok (draft, rest) => readMembers draft false rest
termination_by tokens.length
decreasing_by exact Nat.lt_trans (length_of_readMember _hMember) (length_of_readNextName _hName)

/-- The end of a list that may hold no more items. -/
def skipListEnd : List Token → Except Fault (List Token)
  | [] => .error (.malformed .endOfList)
  | .closeBracket :: rest => .ok rest
  | .comma :: .closeBracket :: _ => .error (.malformed .trailingComma)
  | _ :: _ => .error (.malformed .trailingText)

/-- The comma before another item of a list. -/
def skipComma : List Token → Except Fault (List Token)
  | [] => .error (.malformed .endOfList)
  | .comma :: [] => .error (.malformed .endOfValue)
  | .comma :: .closeBracket :: _ => .error (.malformed .trailingComma)
  | .comma :: rest => .ok rest
  | _ :: _ => .error (.malformed .expectedItem)

/-- Reads a list of the base URL and the policy, of which the last ones may be absent. -/
def readItems : List Token → Except Fault (Draft × List Token)
  | [] => .error (.malformed .endOfList)
  | .closeBracket :: rest => .ok (⟨none, none⟩, rest)
  | tokens => do
    let (url, rest) ← readBaseUrl tokens
    match rest with
    | .closeBracket :: rest => pure (⟨some url, none⟩, rest)
    | rest =>
      let (policy, rest) ← readPolicy (← skipComma rest)
      pure (⟨some url, some policy⟩, ← skipListEnd rest)

def readTokens (tokens : List Token) : Except Fault Configuration := do
  let (draft, rest) ←
    match tokens with
    | [] => .error (.malformed .endOfValue)
    | .openBrace :: rest => readMembers ⟨none, none⟩ true rest
    | .openBracket :: rest => readItems rest
    | token :: _ => .error (refuse .configuration token)
  if rest.isEmpty then pure draft.complete else .error (.malformed .trailingText)

/-- Reads a configuration from a document. -/
def ofDocument (document : String) : Except Fault Configuration :=
  readTokens (Token.scan document.toList)

end Configuration
end Wayfinding
