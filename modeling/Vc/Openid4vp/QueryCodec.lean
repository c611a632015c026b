import Vc.Data.JsonText
import Vc.Openid4vp.Query

/-!
# The JSON form of a credential query

`CredentialQuery.UnmarshalJSON` and `MarshalJSON`: the typed decode with its
extension bag, the fallback that keeps a query as it stands, and the checks on
what may be kept so.

Decoding follows `encoding/json`: the names of a struct are matched up to case,
the last of repeated members wins, and null leaves a value as it is.  The text of
a JSON value, which the code keeps of some parameters, is given by `rawText`.
-/

namespace Vc.Openid4vp

open Checks Json CredentialQuery ZKSystemTypeSpec TrustedAuthority Entries

/-! ## Names up to case -/

/-- A character under simple case folding, for comparison with ASCII names. -/
def foldChar (char : Char) : Char :=
  if char = 'ſ' then 's' else if char = Char.ofNat 0x212a then 'k' else char.toLower

/-- A name under simple case folding. -/
def foldName (name : String) : String :=
  String.ofList (name.toList.map foldChar)

def equalFold (first second : String) : Bool :=
  foldName first = foldName second

/-! ## Decoding into Go types -/

/-- The kind of a JSON value in an error of `encoding/json`. -/
def kindName : Json → String
  | .null => "null"
  | .bool _ => "bool"
  | .num _ => "number"
  | .str _ => "string"
  | .arr _ => "array"
  | .obj _ => "object"

variable {α : Type}

/-- `UnmarshalTypeError` -/
def mismatch (value : Json) (type : String) : Except String α :=
  .error ("json: cannot unmarshal " ++ kindName value ++ " into Go value of type " ++ type)

/-- Decode into a string that has a value already. -/
def decodeString (current : String) : Json → Except String String
  | .null => .ok current
  | .str text => .ok text
  | value => mismatch value "string"

def decodeBool : Json → Except String (Option Bool)
  | .null => .ok none
  | .bool value => .ok (some value)
  | value => mismatch value "bool"

/-- Decode into a pointer, or into a slice whose nil is written as null. -/
def decodeNullable (decode : Json → Except String α) : Json → Except String (Option α)
  | .null => .ok none
  | value => (decode value).map some

def decodeSlice (decode : Json → Except String α) (type : String) :
    Json → Except String (List α)
  | .null => .ok []
  | .arr elements => elements.mapM decode
  | value => mismatch value type

def decodeStrings : Json → Except String (List String) :=
  decodeSlice (decodeString "") "[]string"

/-- Decode into a struct: each member, in its order, sets the field of its name up to case. -/
def decodeStruct {σ : Type} (type : String) (set : String → Json → σ → Except String σ)
    (zero : σ) : Json → Except String σ
  | .null => .ok zero
  | .obj members =>
    members.foldlM (fun current entry => set (foldName entry.1) entry.2 current) zero
  | value => mismatch value type

/-! ## Proof systems -/

section Codec

variable (rawText : Json → String)

def paramText : Json → String
  | .str text => text
  | .null => ""
  | value => rawText value

/-- A member of an entry of `zk_system_type` that has to be there. -/
def requiredText (members : Members) (name : String) : Except String String :=
  match lookupLast name members with
  | none => .error ("zk_system_type entry missing required " ++ name.quote)
  | some value => (decodeString "" value).mapError fun error =>
    "zk_system_type entry " ++ name.quote ++ " must be a string: " ++ error

/-- The parameters of an entry, ordered, the last of repeated ones. -/
def specParams : Members → List (String × String)
  | [] => []
  | (name, value) :: rest =>
    if name = "id" ∨ name = "system" ∨ ((specParams rest).lookup name).isSome then
      specParams rest
    else put name (paramText rawText value) (specParams rest)

def ZKSystemTypeSpec.unmarshalJSON : Json → Except String ZKSystemTypeSpec
  | .obj members => do
    let id ← requiredText members "id"
    let system ← requiredText members "system"
    return { id, system, params := specParams rawText members }
  | .null => .error ("zk_system_type entry missing required " ++ "id".quote)
  | value => mismatch value "map[string]json.RawMessage"

def ZKSystemTypeSpec.marshalJSON (spec : ZKSystemTypeSpec) : Json :=
  .obj (put "system" (.str spec.system) (put "id" (.str spec.id)
    (spec.params.map fun (name, text) => (name, .str text))))

/-! ## Meta -/

/-- One member of `meta`. -/
def MetaQuery.set (name : String) (value : Json) (query : MetaQuery) : Except String MetaQuery :=
  match name with
  | "vct_values" => (decodeStrings value).map fun vctValues => { query with vctValues }
  | "type_values" =>
    (decodeSlice (decodeNullable decodeStrings) "[][]string" value).map fun typeValues =>
      { query with typeValues }
  | "doctype_value" =>
    (decodeString query.doctypeValue value).map fun doctypeValue => { query with doctypeValue }
  | "schema_id_value" =>
    (decodeString query.schemaIDValue value).map fun schemaIDValue =>
      { query with schemaIDValue }
  | "source_format" =>
    (decodeString query.sourceFormat value).map fun sourceFormat => { query with sourceFormat }
  | "zk_system_type" =>
    (decodeSlice (unmarshalJSON rawText) "[]ZKSystemTypeSpec" value).map
      fun zkSystemType => { query with zkSystemType }
  | "ppid_context" =>
    (decodeString query.ppidContext value).map fun ppidContext => { query with ppidContext }
  | _ => .ok query

def decodeMeta : Json → Except String MetaQuery :=
  decodeStruct "MetaQuery" (MetaQuery.set rawText) {}

/-- A member that is left out where its slice is empty. -/
def omitEmpty (name : String) (encode : α → Json) (values : List α) : Members :=
  match values with
  | [] => []
  | _ => [(name, .arr (values.map encode))]

/-- A member that is left out where its text is empty. -/
def omitEmptyText (name text : String) : Members :=
  if text = "" then [] else [(name, .str text)]

/-- The JSON of a slice that may be nil. -/
def encodeNullable (values : Option (List String)) : Json :=
  match values with
  | none => .null
  | some values => .arr (values.map .str)

def MetaQuery.marshal (query : MetaQuery) : Json :=
  .obj (omitEmpty "vct_values" .str query.vctValues ++
    omitEmpty "type_values" encodeNullable query.typeValues ++
    omitEmptyText "doctype_value" query.doctypeValue ++
    omitEmptyText "schema_id_value" query.schemaIDValue ++
    omitEmptyText "source_format" query.sourceFormat ++
    omitEmpty "zk_system_type" marshalJSON query.zkSystemType ++
    omitEmptyText "ppid_context" query.ppidContext)

/-! ## Trusted authorities -/

def TrustedAuthority.set (name : String) (value : Json) (authority : TrustedAuthority) :
    Except String TrustedAuthority :=
  match name with
  | "type" => (decodeString authority.type value).map fun type => { authority with type }
  | "values" =>
    (decodeNullable decodeStrings value).map fun values => { authority with values }
  | _ => .ok authority

def decodeTrustedAuthority : Json → Except String TrustedAuthority :=
  decodeStruct "TrustedAuthority" set { type := "", values := none }

/-- `json.Marshal` of a `TrustedAuthority`. -/
def TrustedAuthority.marshal (authority : TrustedAuthority) : Json :=
  .obj [("type", .str authority.type), ("values", encodeNullable authority.values)]

/-! ## Claims -/

/-- The struct that `ClaimQuery.UnmarshalJSON` decodes into. -/
structure ClaimWire where
  id : String := ""
  path : List (Option String) := []
  /-- the value as it stands, if the member is there -/
  values : Option Json := none

/-- One member of a claim query. -/
def ClaimWire.set (name : String) (value : Json) (wire : ClaimWire) : Except String ClaimWire :=
  match name with
  | "id" => (decodeString wire.id value).map fun id => { wire with id }
  | "path" =>
    (decodeSlice (decodeNullable (decodeString "")) "[]*string" value).map fun path =>
      { wire with path }
  | "values" => .ok { wire with values := some value }
  | _ => .ok wire

def validateClaimPath (path : List (Option String)) : Except String Unit := do
  require (path ≠ []) "claim path must not be empty"
  require (some "" ∉ path) "claim path element must not be empty"

/-- `strings.Trim(digits, "0") == ""` -/
def allZero (digits : List Char) : Bool :=
  digits.all (· = '0')

/-- `strconv.Atoi`, with its range. -/
def atoi64 (text : String) : Option Int :=
  (atoi text).filter fun value => -(2 ^ 63) ≤ value && value < 2 ^ 63

/-- The mantissa and the exponent of a number literal. -/
def mantissaExponent (literal : String) : Option (List Char × Int) :=
  match literal.toList.span fun char => !(char = 'e' || char = 'E') with
  | (mantissa, []) => some (mantissa, 0)
  | (mantissa, _ :: exponent) => (atoi64 (String.ofList exponent)).map (mantissa, ·)

/-- `strings.TrimPrefix` of a sign. -/
def trimSign (sign : Char) : List Char → List Char
  | first :: rest => if first = sign then rest else first :: rest
  | [] => []

/-- `isIntegralNumber`: the value of a number literal is an integer. -/
def isIntegralNumber (literal : String) : Bool :=
  match mantissaExponent literal with
  | none => false
  | some (mantissa, exponent) =>
    let (whole, point) := (trimSign '+' (trimSign '-' mantissa)).span (· ≠ '.')
    let fraction := point.drop 1
    let digits := whole ++ fraction
    if digits = [] then false
    else if !digits.all Char.isDigit then false
    else if allZero digits then true
    else if exponent ≤ (fraction.length : Int) - digits.length then false
    else if 0 ≤ exponent - fraction.length then true
    else allZero (digits.drop (digits.length + (exponent - fraction.length)).toNat)

/-- A value that a claim may be compared with. -/
def isClaimValue : Json → Bool
  | .str _ | .bool _ => true
  | .num literal => isIntegralNumber literal
  | _ => false

/-- `validateClaimValues` for values that are present. -/
def validateClaimValues (values : List Json) : Except String Unit := do
  require (values ≠ []) "claim \"values\" must not be empty when present"
  require (values.all isClaimValue) "claim values must be a string, integer, or boolean"

def decodeClaimValues : Option Json → Except String (List Json)
  | none => .ok []
  | some .null => .error "claim \"values\" must not be null"
  | some (.arr elements) => do
    validateClaimValues (elements.map normalise)
    return elements.map normalise
  | some _ => .error "claim \"values\" must be an array of strings, integers, or booleans"

def ClaimQuery.unmarshalJSON (value : Json) : Except String ClaimQuery := do
  let wire ← decodeStruct "ClaimQuery" ClaimWire.set {} value
  validateClaimPath wire.path
  let values ← decodeClaimValues wire.values
  return { id := wire.id, path := wire.path, values }

def encodePathElement : Option String → Json
  | none => .null
  | some name => .str name

/-- The check of the values that `MarshalJSON` makes; nil stands for no values. -/
def checkClaimValues (values : List Json) : Except String Unit :=
  if values = [] then .ok () else validateClaimValues values

def ClaimQuery.marshalJSON (query : ClaimQuery) : Except String Json := do
  validateClaimPath query.path
  checkClaimValues query.values
  return .obj (omitEmptyText "id" query.id ++
    [("path", .arr (query.path.map encodePathElement))] ++
    omitEmpty "values" (fun value => value) query.values)

/-! ## Extension bags -/

/-- The members that `splitMembers` selects or keeps as an extension. -/
def splitMembers (what : String) : Json → Except String Members
  | value =>
    if hasRepeats value then
      .error (what ++ ": this names a member more than once, which cannot survive a decode")
    else
      match value with
      | .null => .ok []
      | .obj members => .ok members
      | value => mismatch value "map[string]json.RawMessage"

/-- A selected member, decoded. -/
def decodeField (members : Members) (name : String) (decode : Json → Except String α)
    (zero : α) : Except String α :=
  match lookupLast name members with
  | none => .ok zero
  | some value => decode value

/-- The members that are not selected. -/
def extraMembers (known : List String) (members : Members) : Members :=
  normaliseMembers (members.filter (·.1 ∉ known))

def marshalWithExtra (what : String) (reserved : List String) (known extra : Members) :
    Except String Json :=
  if extra = [] then .ok (.obj known)
  else
    match extra.find? (·.1 ∈ reserved) with
    | some (key, _) =>
      .error (what ++ ": " ++ key.quote ++ " is a member this type models, so it cannot be set " ++
        "through extra; use raw to change its type")
    | none =>
      .ok (.obj ((known ++ extra).foldl (fun merged entry =>
        put entry.1 entry.2 merged) []))

/-! ## Requested calculations -/

def reqItemMembers : List String := ["fn_id", "return", "params"]

/-- Decode into a `map[string]any`. -/
def decodeParams : Json → Except String Members
  | .null => .ok []
  | .obj members => .ok (normaliseMembers members)
  | value => mismatch value "map[string]any"

def ReqItem.unmarshalJSON (value : Json) : Except String ReqItem := do
  let members ← splitMembers "_req item" value
  let fnID ← decodeField members "fn_id" (decodeString "") ""
  let returnHandle ← decodeField members "return" (decodeString "") ""
  let params ← decodeField members "params" decodeParams []
  return { fnID, returnHandle, params, extra := extraMembers reqItemMembers members }

/-- A member that is left out where its map is empty. -/
def omitEmptyMap (name : String) (members : Members) : Members :=
  if members = [] then [] else [(name, .obj members)]

def ReqItem.marshalJSON (item : ReqItem) : Except String Json :=
  marshalWithExtra "_req item" reqItemMembers
    ([("fn_id", .str item.fnID), ("return", .str item.returnHandle)] ++
      omitEmptyMap "params" item.params) item.extra

/-! ## Credential queries -/

/-- The members of a credential query, as the struct orders them. -/
def credentialQueryMembers : List String :=
  ["id", "format", "multiple", "meta", "trusted_authorities",
    "require_cryptographic_holder_binding", "claims", "claim_sets", "_req"]

/-- Decode into a `[]TrustedAuthority`. -/
def decodeTrustedAuthorities : Json → Except String (List TrustedAuthority) :=
  decodeSlice decodeTrustedAuthority "[]TrustedAuthority"

def decodeClaims : Json → Except String (List ClaimQuery) :=
  decodeSlice ClaimQuery.unmarshalJSON "[]ClaimQuery"

/-- Decode into a `[][]string`. -/
def decodeClaimSets : Json → Except String (List (Option (List String))) :=
  decodeSlice (decodeNullable decodeStrings) "[][]string"

def decodeReq : Json → Except String (List ReqItem) :=
  decodeSlice ReqItem.unmarshalJSON "[]ReqItem"

/-- The typed decode of `CredentialQuery.UnmarshalJSON`. -/
def CredentialQuery.decodeTyped (data : Json) : Except String CredentialQuery := do
  let members ← splitMembers "credential query" data
  let id ← decodeField members "id" (decodeString "") ""
  let format ← decodeField members "format" (decodeString "") ""
  let multiple ← decodeField members "multiple" decodeBool none
  let metaQuery ← decodeField members "meta" (decodeMeta rawText) {}
  let trustedAuthorities ← decodeField members "trusted_authorities" decodeTrustedAuthorities []
  let requireCryptographicHolderBinding ←
    decodeField members "require_cryptographic_holder_binding" decodeBool none
  let claims ← decodeField members "claims" decodeClaims []
  let claimSet ← decodeField members "claim_sets" decodeClaimSets []
  let req ← decodeField members "_req" decodeReq []
  return {
    id, format, multiple, metaQuery, trustedAuthorities, requireCryptographicHolderBinding, claims,
    claimSet, req, extra := extraMembers credentialQueryMembers members }

/-- A member that is left out where its pointer is nil. -/
def omitNil (name : String) (value : Option Bool) : Members :=
  match value with
  | none => []
  | some value => [(name, .bool value)]

variable (query : CredentialQuery)

/-- `json.Marshal` of the typed members. -/
def CredentialQuery.knownMembers : Except String Members := do
  let claims ← query.claims.mapM ClaimQuery.marshalJSON
  let req ← query.req.mapM ReqItem.marshalJSON
  return [("id", .str query.id), ("format", .str query.format)] ++
    omitNil "multiple" query.multiple ++
    [("meta", query.metaQuery.marshal)] ++
    omitEmpty "trusted_authorities" marshal query.trustedAuthorities ++
    omitNil "require_cryptographic_holder_binding" query.requireCryptographicHolderBinding ++
    omitEmpty "claims" (fun value => value) claims ++
    omitEmpty "claim_sets" encodeNullable query.claimSet ++
    omitEmpty "_req" (fun value => value) req

def CredentialQuery.marshalJSON : Except String Json :=
  match query.raw with
  | some raw =>
    if query.extra ≠ [] then
      .error "credential query: raw and extra are both set, and raw would discard extra"
    else .ok raw
  | none => do
    let known ← query.knownMembers
    marshalWithExtra "credential query" credentialQueryMembers known query.extra

def CredentialQuery.encodesBackTo (data : Json) : Bool :=
  match query.marshalJSON with
  | .ok reencoded => normalise data = normalise reencoded
  | .error _ => false

/-! ## What may be kept as it stands -/

/-- The last member `meta` of a query. -/
def rawMeta : Json → Option Json
  | .obj members => lookupLast "meta" members
  | _ => none

/-- `topLevelMemberNames`: the names of an object, as often as they appear. -/
def topLevelMemberNames : Json → List String
  | .obj members => members.map (·.1)
  | _ => []

def ambiguousConstraintMembers (data : Json) : List String :=
  let names := topLevelMemberNames data
  let inner := ((rawMeta data).map topLevelMemberNames).getD []
  (["format", "meta"].filter fun name => 1 < names.count name) ++
    ((inner.filter fun name => 1 < inner.count name).dedup.map ("meta." ++ ·))

/-- The names that differ only in case from one of those modelled. -/
def aliases (modelled : List String) (value : Json) : List String :=
  (topLevelMemberNames value).filter fun name =>
    modelled.any fun want => name ≠ want && equalFold name want

def aliasedConstraintMembers (data : Json) : List String :=
  aliases ["format", "meta", "claims"] data ++
    (((rawMeta data).map (aliases ["vct_values", "doctype_value", "type_values",
      "schema_id_value", "source_format"])).getD []).map ("meta." ++ ·)

def checkRawConstraints (raw : Json) : Except String Unit := do
  require (ambiguousConstraintMembers raw = [])
    ("credential query: " ++ ", ".intercalate (ambiguousConstraintMembers raw) ++
      " named more than once, and JSON decoders disagree about which value wins")
  require (aliasedConstraintMembers raw = [])
    ("credential query: " ++ ", ".intercalate (aliasedConstraintMembers raw) ++
      " differs only in case from the member the wire uses, so this verifier and a wallet would " ++
        "read different constraints")

/-! ## The shadow of a raw query -/

/-- A member of a raw query, or its zero value where it cannot be read. -/
def shadowField (members : Members) (name : String)
    (decode : Json → Except String α) (zero : α) : α :=
  match lookupLast name members with
  | none => zero
  | some value => (decode value).toOption.getD zero

/-- The members that a raw query can be read for. -/
def CredentialQuery.shadow (members : Members) : CredentialQuery where
  id := shadowField members "id" (decodeString "") ""
  format := shadowField members "format" (decodeString "") ""
  multiple := shadowField members "multiple" decodeBool none
  metaQuery := shadowField members "meta" (decodeMeta rawText) {}
  trustedAuthorities := shadowField members "trusted_authorities" decodeTrustedAuthorities []
  requireCryptographicHolderBinding :=
    shadowField members "require_cryptographic_holder_binding" decodeBool none
  claims := shadowField members "claims" decodeClaims []
  claimSet := shadowField members "claim_sets" decodeClaimSets []
  req := shadowField members "_req" decodeReq []

/-- The model can read this value of a member. -/
def readable (name : String) (value : Json) : Bool :=
  match name with
  | "id" | "format" => (decodeString "" value).isOk
  | "multiple" | "require_cryptographic_holder_binding" => (decodeBool value).isOk
  | "meta" => (decodeMeta rawText value).isOk
  | "trusted_authorities" => (decodeTrustedAuthorities value).isOk
  | "claims" => (decodeClaims value).isOk
  | "claim_sets" => (decodeClaimSets value).isOk
  | "_req" => (decodeReq value).isOk
  | _ => true

/-- `jsonKindMatches`: the value is of the kind that the model has for the member. -/
def jsonKindMatches (name : String) : Json → Bool
  | .null => true
  | .str _ => name ∈ ["id", "format"]
  | .bool _ => name ∈ ["multiple", "require_cryptographic_holder_binding"]
  | .obj _ => name = "meta"
  | .arr _ => name ∈ ["trusted_authorities", "claims", "claim_sets", "_req"]
  | .num _ => false

/-- The unreadable members of a raw query. -/
def unreadableMembers (members : Members) : List String :=
  credentialQueryMembers.filter fun name =>
    (lookupLast name members).any fun value => !readable rawText name value

/-- The unreadable members that are of the kind of the model; the items of `_req` are open. -/
def invalidMembers (members : Members) : List String :=
  (unreadableMembers rawText members).filter fun name =>
    (lookupLast name members).any (jsonKindMatches name) && name ≠ "_req"

/-- The names of the members that a JSON value has. -/
def objectMembers : Json → Members
  | .obj members => members
  | _ => []

/-- `CredentialQuery{Raw: data}` with its shadow. -/
def CredentialQuery.ofRaw (data : Json) : CredentialQuery :=
  { shadow rawText (objectMembers data) with raw := some data }

def CredentialQuery.unmarshalJSON (data : Json) : Except String CredentialQuery :=
  match decodeTyped rawText data with
  | .error error => do
    checkRawConstraints data
    require (invalidMembers rawText (objectMembers data) = []) error
    return ofRaw rawText data
  | .ok typed =>
    if ambiguousConstraintMembers data ≠ [] then
      .error (", ".intercalate (ambiguousConstraintMembers data) ++ ": named more than once, " ++
        "and JSON decoders disagree about which value wins; a request whose constraint depends " ++
        "on the reader is one this verifier will not sign")
    else if hasRepeats data || !typed.encodesBackTo data then do
      checkRawConstraints data
      return ofRaw rawText data
    else .ok typed

/-! ## Validation -/

/-- `isJSONObject`, where null decodes into a map as well. -/
def isJSONObject : Json → Bool
  | .obj _ | .null => true
  | _ => false

def formatOrDefault (format : String) : String :=
  if format = "" then "dc+sd-jwt (the default for an absent format)" else format

def CredentialQuery.judged : CredentialQuery :=
  match query.raw with
  | none => query
  | some raw => shadow rawText (objectMembers raw)

def validateCredentialQuery : Except DCQLValidationError Unit :=
  match query.raw with
  | none => validateTyped query
  | some raw =>
    if "meta" ∈ unreadableMembers rawText (objectMembers raw) ∨ !isJSONObject raw then
      (validateTyped (query.judged rawText)).mapError fun error => {
        field := "meta"
        message := "meta is a shape this build cannot read, so the " ++
          formatOrDefault (query.judged rawText).format ++ " constraint it would have to " ++
          "satisfy cannot be established: DCQL validation error on " ++ error.field ++ ": " ++
          error.message }
    else validateTyped (query.judged rawText)

end Codec

end Vc.Openid4vp
