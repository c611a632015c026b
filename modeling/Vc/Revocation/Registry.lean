import Vc.Data.Float64
import Vc.Revocation.EntryWidth

/-!
# References to status lists

`ExtractStatusListReference` looks for a reference among claims of type `any`, and
`Registry.Validate` asks the first checker that finds one.  What is found depends on
the types that a decoder gives to maps and numbers, so these are kept in `AnyValue`.
-/

namespace Vc.Revocation

open Checks Entries Tokenstatuslist StatusListChecker Float64

/-! ## Decoded values -/

/-- What a decoder stores in a variable of type `any`.  A `float64` is kept as the literal it was
read from. -/
inductive AnyValue where
  | null
  | bool (value : Bool)
  | float64 (literal : String)
  | int (value : Int)
  | int64 (value : Int)
  | uint64 (value : Nat)
  /-- `json.Number` -/
  | number (literal : String)
  | string (text : String)
  | slice (elements : List AnyValue)
  /-- `map[string]any` -/
  | stringMap (members : List (String × AnyValue))
  /-- `map[any]any` -/
  | anyMap (entries : List (AnyValue × AnyValue))

namespace AnyValue

mutual
/-- `json.Unmarshal` -/
def ofJSON : Json → AnyValue
  | .null => .null
  | .bool value => .bool value
  | .num literal => .float64 literal
  | .str text => .string text
  | .arr elements => .slice (ofJSONElements elements)
  | .obj members => .stringMap (ofJSONMembers members)

/-- The elements of an array. -/
def ofJSONElements : List Json → List AnyValue
  | [] => []
  | first :: rest => ofJSON first :: ofJSONElements rest

/-- The members of an object. -/
def ofJSONMembers : Members → List (String × AnyValue)
  | [] => []
  | (name, value) :: rest => (name, ofJSON value) :: ofJSONMembers rest
end

/-- A CBOR number, shown by its literal. -/
def ofCBORNumber (literal : String) : AnyValue :=
  match integer literal.toList with
  | some (.ofNat value) => .uint64 value
  | some (.negSucc value) => .int64 (.negSucc value)
  | none => .float64 literal

mutual
/-- `cbor.Unmarshal`, of an item that is shown as the JSON value it stands for. -/
def ofCBOR : Json → AnyValue
  | .null => .null
  | .bool value => .bool value
  | .num literal => ofCBORNumber literal
  | .str text => .string text
  | .arr elements => .slice (ofCBORElements elements)
  | .obj members => .anyMap (ofCBOREntries members)

/-- The elements of an array. -/
def ofCBORElements : List Json → List AnyValue
  | [] => []
  | first :: rest => ofCBOR first :: ofCBORElements rest

/-- The entries of a map. -/
def ofCBOREntries : Members → List (AnyValue × AnyValue)
  | [] => []
  | (name, value) :: rest => (.string name, ofCBOR value) :: ofCBOREntries rest
end

theorem lookup_ofJSONMembers (members : Members) (name : String) :
    (ofJSONMembers members).lookup name = (members.lookup name).map ofJSON := by
  induction members with
  | nil => rfl
  | cons member rest ih =>
    rw [ofJSONMembers, lookup_cons, lookup_cons, ih]
    split_ifs <;> rfl

/-- No CBOR item is decoded into a map with keys of type `string`. -/
theorem ofCBOR_ne_stringMap (value : Json) (members : List (String × AnyValue)) :
    ofCBOR value ≠ .stringMap members := by
  cases value with
  | num literal =>
    rw [ofCBOR, ofCBORNumber]
    split <;> nofun
  | _ =>
    nofun

end AnyValue

/-! ## Extraction -/

/-- `idx`, of the types that the extractor admits. -/
def indexOf : Option AnyValue → Option Int
  | some (.float64 literal) =>
    (literalValue literal).bind fun value => toInt64 (nearest value)
  | some (.int64 value) => some value
  | some (.int value) => some value
  | some (.number literal) => (integer literal.toList).bind fun value =>
    toInt64 value
  | _ => none

/-- The reference that a `status_list` states. -/
def referenceOf (statusList : List (String × AnyValue)) : Option Reference :=
  match statusList.lookup "uri" with
  | some (.string uri) =>
    if uri = "" then none
    else (indexOf (statusList.lookup "idx")).map fun index => ⟨"status_list", uri, index⟩
  | _ => none

def extractStatusListReference (claims : List (String × AnyValue)) : Option Reference :=
  match claims.lookup "status" with
  | some (.stringMap status) =>
    match status.lookup "status_list" with
    | some (.stringMap statusList) => referenceOf statusList
    | _ => none
  | _ => none

/-- A status that refers to an entry of a list, in the form that is common to JSON and CBOR. -/
structure Refers (status : Json) (uri : String) (index : Nat) : Prop where
  stated : ∃ members statusList literal, status = .obj members ∧
    members.lookup "status_list" = some (.obj statusList) ∧
    statusList.lookup "uri" = some (.str uri) ∧ statusList.lookup "idx" = some (.num literal) ∧
    literalValue literal = some (index : ℚ)
  named : uri ≠ ""

/-- A reference in decoded JSON is found, with its index rounded. -/
theorem extractStatusListReference_ofJSON {claims : Members} {status : Json} {uri : String}
    {index : Nat} (found : claims.lookup "status" = some status)
    (refers : Refers status uri index) :
    extractStatusListReference (AnyValue.ofJSONMembers claims) =
      (toInt64 (nearest index)).map fun index => ⟨"status_list", uri, index⟩ := by
  obtain ⟨⟨members, statusList, literal, rfl, list, atURI, atIndex, value⟩, named⟩ := refers
  simp [extractStatusListReference, AnyValue.lookup_ofJSONMembers, found, list, AnyValue.ofJSON,
    referenceOf, atURI, atIndex, if_neg named, indexOf, value]

/-! ## The registry -/

/-- `Checker`, with the state that it keeps. -/
structure Checker (State : Type) where
  extract : List (String × AnyValue) → Option Reference
  checkStatus : State → Reference → Except String CheckResult × State

/-- `Registry.Validate`, with the state that it leaves. -/
def validateStatus {State : Type} (state : State) (claims : List (String × AnyValue)) :
    List (Checker State) → Except String (Option CheckResult) × State
  | [] => (.ok none, state)
  | checker :: rest =>
    match checker.extract claims with
    | some ref => ((checker.checkStatus state ref).1.map some, (checker.checkStatus state ref).2)
    | none => validateStatus state claims rest

section StatusLists

variable {Key Body : Type} (c : StatusListChecker Key Body) (now : Int)
  (cache : Cache)

/-- The cache that `CheckStatus` leaves. -/
def StatusListChecker.cacheAfter (ref : Reference) : Cache :=
  if ref.scheme = "status_list" ∧ ref.uri ≠ "" ∧ 0 ≤ ref.index then
    (c.getStatusList now cache ref.uri).2
  else cache

def StatusListChecker.registered : Checker Cache where
  extract := extractStatusListReference
  checkStatus cache ref := (c.checkStatus now cache (some ref), c.cacheAfter now cache ref)

/-- Every cached list has come through decompression. -/
def Bounded : Prop :=
  ∀ uri statuses, cache uri = some statuses → statuses.length ≤ maxDecompressedSize

variable {c now}

/-! ## Lookups in a published list -/

/-- Two caches that give the same lists. -/
def SameLists (c : StatusListChecker Key Body) (now : Int) (cache other : Cache) : Prop :=
  ∀ uri, (c.getStatusList now other uri).1 = (c.getStatusList now cache uri).1

theorem getStatusList_fst (uri : String) :
    (c.getStatusList now cache uri).1 =
      match cache uri with
      | some statuses => .ok statuses
      | none => c.fetchStatusList now uri := by
  unfold getStatusList
  cases cache uri with
  | some statuses => rfl
  | none => cases c.fetchStatusList now uri <;> rfl

/-- What a lookup caches is what it would find again. -/
theorem sameLists_getStatusList (uri : String) :
    SameLists c now cache (c.getStatusList now cache uri).2 := by
  intro other
  rw [getStatusList_fst, getStatusList_fst]
  unfold getStatusList
  cases cached : cache uri with
  | some statuses => rfl
  | none =>
    cases fetched : c.fetchStatusList now uri with
    | error error => rfl
    | ok statuses =>
      by_cases same : other = uri
      · subst same
        simp [cached, fetched]
      · simp only [Function.update_of_ne same]

theorem sameLists_cacheAfter (ref : Reference) :
    SameLists c now cache (c.cacheAfter now cache ref) := by
  unfold cacheAfter
  split_ifs
  · exact sameLists_getStatusList _ _
  · exact fun _ => rfl

theorem SameLists.checkStatus {cache other : StatusListChecker.Cache}
    (same : SameLists c now cache other) (ref : Option Reference) :
    c.checkStatus now other ref = c.checkStatus now cache ref := by
  cases ref with
  | none => rfl
  | some ref => simp [StatusListChecker.checkStatus, same ref.uri]

/-- The endpoint serves an authentic token that carries the packed statuses. -/
def Serves (c : StatusListChecker Key Body) (now : Int) (uri : String) (width : Width)
    (statuses : List UInt8) : Prop :=
  ∃ resp, Served c uri resp ∧ Carries c now resp width.bits (pack width statuses)

variable {uri : String} {statuses : List UInt8} {width : Width}

theorem Serves.fetchStatusList (published : Serves c now uri width statuses) :
    c.fetchStatusList now uri =
      decompressStatuses c.zlib (c.zlib.compress (pack width statuses)) := by
  obtain ⟨_, served, carries⟩ := published
  rw [served.fetchStatusList, carries.parseStatusListToken]

/-- The bytes that a check reads: a list that is cached, or else the one that is served, unless it
is too large. -/
def consulted (uri : String) (packed : List UInt8) : Option (List UInt8) :=
  (cache uri).or (if packed.length ≤ maxDecompressedSize then some packed else none)

theorem Serves.getStatusList (published : Serves c now uri width statuses) (cache : Cache) :
    (c.getStatusList now cache uri).1.toOption = consulted cache uri (pack width statuses) := by
  rw [getStatusList_fst, consulted]
  cases cache uri with
  | some statuses => rfl
  | none =>
    rw [published.fetchStatusList, decompressStatuses_compress]
    split_ifs <;> rfl

/-- What a check finds in the list that it reads. -/
theorem checkStatus_status {cache : Cache} (named : uri ≠ "") (index : Nat) :
    (c.checkStatus now cache (some ⟨"status_list", uri, index⟩)).toOption.map (·.status) =
      ((c.getStatusList now cache uri).1.toOption.bind fun statuses => statuses[index]?).map
        mapStatusCode := by
  cases read : (c.getStatusList now cache uri).1 with
  | error error =>
    simp [checkStatus, require, named, read, Except.mapError, Except.toOption, bind, Except.bind]
  | ok statuses =>
    cases found : statuses[index]? <;>
      simp [checkStatus, require, named, read, found, Except.mapError,
        Except.toOption, bind, Except.bind]

theorem mapStatusCode_eq_valid_iff {code : UInt8} : mapStatusCode code = .valid ↔ code = 0 := by
  unfold mapStatusCode
  split_ifs with zero <;> simp [zero]

end StatusLists

end Vc.Revocation
