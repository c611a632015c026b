import Vc.Data.JsonTree

/-!
# DCQL credential queries

The typed form of a credential query, what its members mean where they are left
out, and the rules of each credential format.  Slices that are encoded with
`omitempty` are lists here, since nil and empty ones are written alike; where
the difference shows on the wire the member is an `Option`.
-/

namespace Vc.Openid4vp

open Checks

/-- `ZKSystemTypeSpec`: a proof system and circuit that the verifier accepts.  The parameters are
ordered by name. -/
structure ZKSystemTypeSpec where
  id : String
  system : String
  params : List (String × String) := []
  deriving DecidableEq

structure MetaQuery where
  vctValues : List String := []
  typeValues : List (Option (List String)) := []
  doctypeValue : String := ""
  schemaIDValue : String := ""
  sourceFormat : String := ""
  zkSystemType : List ZKSystemTypeSpec := []
  ppidContext : String := ""
  deriving DecidableEq

structure TrustedAuthority where
  type : String
  values : Option (List String)
  deriving DecidableEq

/-- `ClaimQuery`; `none` in a path stands for all elements of an array. -/
structure ClaimQuery where
  id : String := ""
  path : List (Option String)
  values : List Json := []
  deriving DecidableEq

/-- `ReqItem`; parameters and further members are ordered by name. -/
structure ReqItem where
  fnID : String
  returnHandle : String
  params : Members := []
  extra : Members := []
  deriving DecidableEq

/-- `CredentialQuery`.  `raw` replaces the query on the wire by a JSON value. -/
structure CredentialQuery where
  id : String := ""
  format : String := ""
  multiple : Option Bool := none
  metaQuery : MetaQuery := {}
  trustedAuthorities : List TrustedAuthority := []
  requireCryptographicHolderBinding : Option Bool := none
  claims : List ClaimQuery := []
  claimSet : List (Option (List String)) := []
  req : List ReqItem := []
  extra : Members := []
  raw : Option Json := none
  deriving DecidableEq

structure CredentialSetQuery where
  options : List (List String)
  required : Option Bool := none

structure DCQL where
  credentials : List CredentialQuery
  credentialSets : List CredentialSetQuery := []

/-- `IsRequired`: a set is required unless it says otherwise. -/
def CredentialSetQuery.isRequired (query : CredentialSetQuery) : Bool :=
  query.required.getD true

variable (query : CredentialQuery)

/-- `RequiresCryptographicHolderBinding`: required unless the query says otherwise. -/
def CredentialQuery.requiresCryptographicHolderBinding : Bool :=
  query.requireCryptographicHolderBinding.getD true

/-! ## Types of W3C credentials -/

/-- The type that every W3C credential carries. -/
def baseVCTypeIRI : String := "https://www.w3.org/2018/credentials#VerifiableCredential"

/-- `MatchTypeValues`: some alternative is contained in the types of the credential. -/
def matchTypeValues (credentialTypes : List String)
    (typeValues : List (Option (List String))) : Bool :=
  typeValues = [] ||
    typeValues.any fun requiredTypes => (requiredTypes.getD []).all (· ∈ credentialTypes)

def isSchemeStart (char : Char) : Bool :=
  ('a' ≤ char && char ≤ 'z') || ('A' ≤ char && char ≤ 'Z')

/-- One character of `isSchemeTail`. -/
def isSchemeChar (char : Char) : Bool :=
  isSchemeStart char || ('0' ≤ char && char ≤ '9') || char = '+' || char = '-' || char = '.'

/-- `IsAbsoluteIRI`: a scheme and a colon before any of `/`, `#` and `?`. -/
def isAbsoluteIRI (text : String) : Bool :=
  match text.toList.span (fun char => !(char = ':' || char = '/' || char = '#' || char = '?')) with
  | (first :: tail, ':' :: _) => isSchemeStart first && tail.all isSchemeChar
  | _ => false

/-! ## Claim paths -/

/-- The number that `strconv.Atoi` reads from decimal digits. -/
def decimal (digits : List Char) : Option Nat :=
  if digits ≠ [] ∧ digits.all Char.isDigit then
    some (digits.foldl (fun total digit => 10 * total + (digit.toNat - '0'.toNat)) 0)
  else none

/-- `strconv.Atoi`; numbers beyond the range of `int` do not index any array. -/
def atoi (text : String) : Option Int :=
  match text.toList with
  | '-' :: digits => (decimal digits).map fun value => -(value : Int)
  | '+' :: digits => (decimal digits).map Int.ofNat
  | digits => (decimal digits).map Int.ofNat

/-- `ResolveDCQLPath`; what the source returns as nil is `none` here or JSON null. -/
def resolveDCQLPath : List (Option String) → Json → Option Json
  | [], data => some data
  | none :: rest, data =>
    match data with
    | .arr elements =>
      some (.arr (elements.map fun element => (resolveDCQLPath rest element).getD .null))
    | _ => none
  | some segment :: rest, data =>
    match data with
    | .arr elements =>
      match atoi segment with
      | some index =>
        if index < 0 then none else elements[index.toNat]?.bind (resolveDCQLPath rest)
      | none => none
    | .obj members => (members.lookup segment).bind (resolveDCQLPath rest)
    | _ => none

/-! ## The rules of the formats -/

structure DCQLValidationError where
  field : String
  message : String
  deriving DecidableEq

/-- The rule for W3C credentials on one alternative of `type_values`. -/
def validateTypeAlternative (index : Nat) (alternative : List String) :
    Except DCQLValidationError Unit :=
  match alternative.findIdx? fun member => !(member ≠ "" && isAbsoluteIRI member) with
  | some position => .error {
      field := "meta.type_values[" ++ toString index ++ "][" ++ toString position ++ "]"
      message := "type_values members are matched as fully expanded IRIs (OpenID4VP 1.0 B.3.2), " ++
        "so " ++ (alternative.getD position "").quote ++ " can never match a credential" }
  | none =>
    if alternative.all (· = baseVCTypeIRI) then .error {
      field := "meta.type_values[" ++ toString index ++ "]"
      message := "each type_values alternative must name at least one fully expanded IRI " ++
        "beyond " ++ baseVCTypeIRI ++ "; a base-only alternative matches every W3C credential" }
    else .ok ()

/-- The rule for one entry of `zk_system_type`. -/
def validateZKSystem (index : Nat) (spec : ZKSystemTypeSpec) : Except DCQLValidationError Unit :=
  if spec.id = "" then .error {
    field := "meta.zk_system_type[" ++ toString index ++ "].id"
    message := "id is required for each zk_system_type entry" }
  else if spec.system = "" then .error {
    field := "meta.zk_system_type[" ++ toString index ++ "].system"
    message := "system is required for each zk_system_type entry" }
  else .ok ()

def validateMsoMdocZkQuery : Except DCQLValidationError Unit :=
  if query.metaQuery.doctypeValue = "" then .error {
    field := "meta.doctype_value"
    message := "doctype_value is required for ZK-mdoc format" }
  else if query.metaQuery.zkSystemType = [] then .error {
    field := "meta.zk_system_type"
    message := "zk_system_type is required for ZK-mdoc format" }
  else checkEach validateZKSystem 0 query.metaQuery.zkSystemType

/-- `ValidateCredentialQuery` on the typed members. -/
def validateTyped : Except DCQLValidationError Unit :=
  match query.format with
  | "ldp_vc" | "vc+ld+json" =>
    match checkEach (fun index alternative => validateTypeAlternative index
        (alternative.getD [])) 0 query.metaQuery.typeValues with
    | .error error => .error error
    | .ok _ =>
      if query.metaQuery.typeValues = [] then .error {
        field := "meta.type_values"
        message := "type_values is required for W3C VC format" }
      else .ok ()
  | "dc+sd-jwt" | "vc+sd-jwt" | "" =>
    if query.metaQuery.vctValues = [] then .error {
      field := "meta.vct_values"
      message := "vct_values is required for SD-JWT VC format" }
    else .ok ()
  | "mso_mdoc" =>
    if query.metaQuery.doctypeValue = "" then .error {
      field := "meta.doctype_value"
      message := "doctype_value is required for ISO mdoc format" }
    else .ok ()
  | "mso_mdoc_zk" => validateMsoMdocZkQuery query
  | "jwt_vc_json" | "jwt_vc_json-ld" => .error {
      field := "format"
      message := "format " ++ query.format.quote ++ " is advertised but not requestable: " ++
        "nothing issues it and there is no verification path for it" }
  | _ => .ok ()

end Vc.Openid4vp
