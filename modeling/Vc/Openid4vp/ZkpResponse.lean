import Vc.Cbor.Decode
import Vc.Data.Base64
import Vc.Data.JsonText
import Vc.Openid4vp.Query

/-!
# Responses to zkp_req queries

`ValidateZkpReqResponse`: the vp_token of a `zkp_req` query is a JSON object that
gives the query id an array of presentations, each the base64url text of a CBOR
map.  The first rule that is broken refuses the whole response, under the code
that the response specification gives to it.

The CBOR members stay raw until their own rule is reached.  A raw member is an
item here, since its bytes were found to be well formed before.
-/

namespace Vc.Openid4vp

open Checks Cbor Rfc3339 Json

/-- The reason codes of a refusal. -/
inductive ZkpReqReason where
  | responseNotParseable
  | duplicateMember
  | queryIDMissing
  | presentationsNotArray
  | presentationsEmpty
  | presentationsMultipleNotAllow
  | presentationNotString
  | presentationNotBase64URL
  | cborMalformed
  | cborIndefiniteLength
  | cborTrailingBytes
  | cborDuplicateKey
  | presentationNotMap
  | presentationKeyNotText
  | presentationUnknownMember
  | presentationMemberMissing
  | presentationMemberWrongType
  | systemIDNotOffered
  | proofEmpty
  | issuerKeySetEmpty
  | issuerKeySetTooMany
  | issuerKeyNotBytes
  | issuerKeyEmpty
  | issuerKeyTooLarge
  | proofTimeMissing
  | proofTimeNotTDate
  | proofTimeForm
  | resultKeyNotText
  | resultHandleUnexpected
  | resultHandleMissing
  | resultWrongType
  | resultNotSatisfied
  | resultFunctionUnknown
  | pseudonymWrongLength
  | pseudonymPrfUnknown
  deriving DecidableEq

structure ZkpReqRequest where
  queryID : String
  items : List ReqItem
  multiple : Bool := false
  sourceFormat : String := ""
  offeredSystemIDs : List String

/-- `ZkpPresentation`.  The proof time is its text and the instant that it denotes. -/
structure ZkpPresentation where
  systemID : String
  proof : List UInt8
  issuerKeySet : List (List UInt8)
  proofTime : Option (String × DateTime)
  pseudonyms : List (String × List UInt8) := []
  satisfied : List String := []
  deriving DecidableEq

def maxIssuerKeySetSize : Nat := 8

def maxIssuerKeyBytes : Nat := 4096

def maxCBORNestingLevels : Nat := 16

/-! ## The proof time -/

/-- Why a text is no proof time. -/
inductive ProofTimeError where
  | form
  | notAnInstant
  deriving DecidableEq

/-- The characters of a text, one by one: the given ones, and digits in the other places. -/
def hasForm : List (Option Char) → List Char → Bool
  | [], [] => true
  | some char :: rest, first :: others => first = char && hasForm rest others
  | none :: rest, first :: others => isDigit first && hasForm rest others
  | _, _ => false

def proofTimeForm : List (Option Char) :=
  [none, none, none, none, some '-', none, none, some '-', none, none, some 'T', none, none,
    some ':', none, none, some ':', none, none, some 'Z']

def parseProofTime (text : String) : Except ProofTimeError DateTime :=
  if hasForm proofTimeForm text.toList = false then .error .form
  else
    match parseUTC text.toList with
    | none => .error .notAnInstant
    | some instant => .ok instant

/-! ## Reading the presentation -/

def zkpCBORMode : Mode where
  indefinite := true
  maxNestedLevels := maxCBORNestingLevels
  maxArrayElements := 131072
  maxMapPairs := 131072

def zkpCBORStrict : Mode := { zkpCBORMode with indefinite := false }

inductive CBORError where
  | reading (fault : Fault)
  | decoding (fault : DecodeFault)

def unmarshalFirst {α : Type} (mode : Mode) (decode : Item → Except DecodeFault α)
    (data : List UInt8) : Except CBORError (α × List UInt8) := do
  let parts ← (readItem mode data).mapError .reading
  let value ← (decode parts.1).mapError .decoding
  .ok (value, parts.2)

def classifyCBORError : CBORError → ZkpReqReason
  | .decoding .duplicateKey => .cborDuplicateKey
  | .decoding .inadmissibleTag => .proofTimeNotTDate
  | _ => .cborMalformed

/-- The two probing decodes: one that forbids indefinite lengths fails, and one that allows them
does not. -/
def usesIndefiniteLength (data : List UInt8) : Bool :=
  !(unmarshalFirst zkpCBORStrict decodeAny data).isOk &&
    (unmarshalFirst zkpCBORMode decodeAny data).isOk

def isCBORMap : Item → Bool
  | .map _ _ => true
  | _ => false

variable (raw : Item)

/-- The values of a map that repeats no key. -/
def mapValues : Except ZkpReqReason (List Item) :=
  match decodeInto fillRawMap raw with
  | .error .invalidKeyType => .error .presentationKeyNotText
  | .error fault => .error (classifyCBORError (.decoding fault))
  | .ok entries => .ok (entries.map (·.2))

/-- `refuseDuplicateCBORKeys`, with the levels that are left. -/
def refuseDuplicateCBORKeys : Nat → Item → Except ZkpReqReason Unit
  | 0, _ => .error .cborMalformed
  | levels + 1, raw =>
    match raw with
    | .map _ _ => do
      let values ← mapValues raw
      values.forM (refuseDuplicateCBORKeys levels)
    | .array _ _ => do
      let elements ← (decodeInto fillRawArray raw).mapError
        fun fault => classifyCBORError (.decoding fault)
      elements.forM (refuseDuplicateCBORKeys levels)
    | _ => .ok ()

/-- An entry of a map whose keys have to be texts. -/
def textEntry (reason : ZkpReqReason) : Value × Item → Except ZkpReqReason (String × Item)
  | (.text name, raw) => .ok (name, raw)
  | _ => .error reason

def decodeZkpPresentationCBOR (data : List UInt8) :
    Except ZkpReqReason (List (String × Item)) := do
  require (usesIndefiniteLength data = false) .cborIndefiniteLength
  let whole ← (unmarshalFirst zkpCBORMode decodeRaw data).mapError classifyCBORError
  require (whole.2 = []) .cborTrailingBytes
  refuseDuplicateCBORKeys (maxCBORNestingLevels + 1) whole.1
  require (isCBORMap whole.1 = true) .presentationNotMap
  let raw ← (decodeInto fillRawMap whole.1).mapError fun _ => .presentationNotMap
  raw.mapM (textEntry .presentationKeyNotText)

/-- `cborInto`, with the reason that its callers give. -/
def cborInto {α : Type} (fill : Item → Except DecodeFault α) (reason : ZkpReqReason)
    (raw : Item) : Except ZkpReqReason α := do
  require (isNil raw = false) reason
  (decodeInto fill raw).mapError fun _ => reason

/-- The reason why `results` is no map with text keys. -/
def resultsReason : DecodeFault → ZkpReqReason
  | .invalidKeyType => .resultKeyNotText
  | _ => .presentationMemberWrongType

def cborResultsMap : Except ZkpReqReason (List (String × Item)) := do
  require (isNil raw = false) .presentationMemberWrongType
  let byAny ← (decodeInto fillRawMap raw).mapError resultsReason
  byAny.mapM (textEntry .resultKeyNotText)

def decodeProofTimeTDate : Except ZkpReqReason String := do
  require (isNil raw = false) .proofTimeNotTDate
  let tag ← (decodeRawTag raw).mapError fun _ => .proofTimeNotTDate
  require (tag.1 = 0) .proofTimeNotTDate
  (decodeInto fillText tag.2).mapError fun _ => .proofTimeNotTDate

/-! ## The members -/

def presentationMembers : List String :=
  ["system_id", "proof", "issuer_key_set", "proof_time", "results"]

/-- A member that a presentation must carry. -/
def requiredMember (name : String) (members : List (String × Item)) : Except ZkpReqReason Item :=
  match members.lookup name with
  | none => .error .presentationMemberMissing
  | some raw => .ok raw

def decodeIssuerKey : Except ZkpReqReason (List UInt8) := do
  let der ← cborInto fillBytes .issuerKeyNotBytes raw
  require (der.length ≠ 0) .issuerKeyEmpty
  require (der.length ≤ maxIssuerKeyBytes) .issuerKeyTooLarge
  .ok der

def decodeIssuerKeySet (rawKeySet : List Item) : Except ZkpReqReason (List (List UInt8)) := do
  require (rawKeySet.length ≠ 0) .issuerKeySetEmpty
  require (rawKeySet.length ≤ maxIssuerKeySetSize) .issuerKeySetTooMany
  rawKeySet.mapM decodeIssuerKey

/-- The proof time of a presentation, which an mdoc proof has to carry. -/
def readProofTime (sourceFormat : String) :
    Option Item → Except ZkpReqReason (Option (String × DateTime))
  | none => do
    require (sourceFormat ≠ "mso_mdoc") .proofTimeMissing
    .ok none
  | some raw => do
    let text ← decodeProofTimeTDate raw
    let parsed ← (parseProofTime text).mapError fun _ => .proofTimeForm
    .ok (some (text, parsed))

/-! ## The results -/

def checkZkpHandles (results : List (String × Item)) (request : ZkpReqRequest) :
    Except ZkpReqReason Unit := do
  require (∀ entry ∈ results, entry.1 ∈ request.items.map (·.returnHandle)) .resultHandleUnexpected
  require (∀ item ∈ request.items, item.returnHandle ∈ results.map (·.1)) .resultHandleMissing

def pseudonymLengthFor (item : ReqItem) : Option Nat :=
  match (item.params.lookup "prf").bind str? with
  | some "sha-256" => some 32
  | some "hashdh-bls12381g1" => some 48
  | _ => none

/-- The result of a pseudonym item. -/
def readPseudonym (item : ReqItem) (raw : Item) : Except ZkpReqReason (List UInt8) :=
  match pseudonymLengthFor item with
  | none => .error .pseudonymPrfUnknown
  | some want => do
    let value ← cborInto fillBytes .resultWrongType raw
    require (value.length = want) .pseudonymWrongLength
    .ok value

/-- The result of an age check. -/
def readSatisfied : Except ZkpReqReason Unit := do
  let satisfied ← cborInto fillBool .resultWrongType raw
  require (satisfied = true) .resultNotSatisfied

def readZkpResult (results : List (String × Item)) (presentation : ZkpPresentation)
    (item : ReqItem) : Except ZkpReqReason ZkpPresentation :=
  match results.lookup item.returnHandle with
  | none => .error .resultWrongType
  | some raw =>
    if item.fnID = "pseudonym" then
      (readPseudonym item raw).map fun value =>
        { presentation with
          pseudonyms := Entries.put item.returnHandle value presentation.pseudonyms }
    else if item.fnID = "age_check" then
      (readSatisfied raw).map fun _ =>
        { presentation with satisfied := presentation.satisfied ++ [item.returnHandle] }
    else .error .resultFunctionUnknown

/-! ## The response -/

def presentedBytes : Json → Except ZkpReqReason (List UInt8)
  | .str encoded =>
    match Base64.decodeCanonical encoded.toList with
    | none => .error .presentationNotBase64URL
    | some bytes => .ok bytes
  | _ => .error .presentationNotString

/-- The members of a presentation against the request. -/
def validateMembers (members : List (String × Item)) (request : ZkpReqRequest) :
    Except ZkpReqReason ZkpPresentation := do
  require (∀ entry ∈ members, entry.1 ∈ presentationMembers) .presentationUnknownMember
  let rawSystemID ← requiredMember "system_id" members
  let rawProof ← requiredMember "proof" members
  let rawIssuerKeySet ← requiredMember "issuer_key_set" members
  let rawResults ← requiredMember "results" members
  let systemID ← cborInto fillText .presentationMemberWrongType rawSystemID
  let proof ← cborInto fillBytes .presentationMemberWrongType rawProof
  let rawKeySet ← cborInto fillRawArray .presentationMemberWrongType rawIssuerKeySet
  let results ← cborResultsMap rawResults
  require (systemID ∈ request.offeredSystemIDs) .systemIDNotOffered
  require (proof.length ≠ 0) .proofEmpty
  let issuerKeySet ← decodeIssuerKeySet rawKeySet
  let proofTime ← readProofTime request.sourceFormat (members.lookup "proof_time")
  checkZkpHandles results request
  request.items.foldlM (readZkpResult results) ⟨systemID, proof, issuerKeySet, proofTime, [], []⟩

def validateZkpPresentation (request : ZkpReqRequest) (element : Json) :
    Except ZkpReqReason ZkpPresentation := do
  let decoded ← presentedBytes element
  let members ← decodeZkpPresentationCBOR decoded
  validateMembers members request

def refuseDuplicateJSONMembers (vpToken : String) : Except ZkpReqReason Unit :=
  match readJson true vpToken.toList with
  | .error (.duplicate _) => .error .duplicateMember
  | _ => .ok ()

/-- `strictDecode` of the vp_token into an object. -/
def decodeEnvelope (vpToken : String) : Except ZkpReqReason Members :=
  match readJson false vpToken.toList with
  | .ok (.obj members, rest) =>
    if rest.all isSpace then .ok members else .error .responseNotParseable
  | _ => .error .responseNotParseable

/-- The presentations that a response carries for the query. -/
def presentedElements (members : Members) (queryID : String) : Except ZkpReqReason (List Json) :=
  match lookupLast queryID members with
  | none => .error .queryIDMissing
  | some (.arr elements) => .ok elements
  | some _ => .error .presentationsNotArray

def validateZkpReqResponse (vpToken : String) (request : ZkpReqRequest) :
    Except ZkpReqReason (List ZkpPresentation) := do
  refuseDuplicateJSONMembers vpToken
  let envelope ← decodeEnvelope vpToken
  let elements ← presentedElements envelope request.queryID
  require (elements.length ≠ 0) .presentationsEmpty
  require (elements.length > 1 → request.multiple = true) .presentationsMultipleNotAllow
  elements.mapM (validateZkpPresentation request)

end Vc.Openid4vp
