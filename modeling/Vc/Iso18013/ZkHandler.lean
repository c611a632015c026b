import Vc.Iso18013.Verifier
import Vc.Mdoc.Presentation

/-!
# Zero-knowledge presentations

`pkg/mdoc/zk.go` and `pkg/mdoc/zk_verifier.go`: the documents of a response come
with proofs, and a native verifier is handed what a proof is about.  For the
Longfellow system these are attributes, chosen by the request; for the Vega
system they are the bytes of the disclosed items, by the slots of the circuit.

The native verifiers, the text and CBOR codings of a response and X.509 are
parameters.
-/

namespace Vc.Iso18013

open Checks Entries Tokenstatuslist Openid4vp

/-! ## Documents -/

/-- `ZkSignedItemMdoc` -/
structure ZkSignedItem where
  elementIdentifier : String
  elementValue : Cbor.Item
  digestID : Option Nat := none
  issuerSignedItemBytes : List UInt8 := []

/-- `ZkDocumentDataMdoc`.  The entries of a map have different keys. -/
structure ZkDocumentData where
  zkSystemID : String
  docType : String
  timestamp : String := ""
  issuerSigned : List (String × List ZkSignedItem)
  deviceSigned : List (String × List ZkSignedItem) := []
  msoX5Chain : Option Cbor.Item
  claimSlotDigestIds : List Nat := []
  distinct : (issuerSigned.map Prod.fst).Nodup

/-- `ZkDocumentMdoc` -/
structure ZkDocument where
  proof : List UInt8
  documentData : List UInt8

/-- `DeviceResponseMdoc`, as far as it is read here. -/
structure ZkDeviceResponse where
  version : String
  status : Nat
  zkDocuments : List ZkDocument

def flattenZkSignedItems (signed : List (String × List ZkSignedItem)) : Elements :=
  signed.map fun entry => (entry.1, entry.2.foldl (fun claims item =>
    put item.elementIdentifier item.elementValue claims) [])

/-- The items of all name spaces, each with its name space. -/
def ZkDocumentData.items (dd : ZkDocumentData) : List (String × ZkSignedItem) :=
  dd.issuerSigned.flatMap fun entry => entry.2.map (entry.1, ·)

/-- The loop of `IssuerSignedItemsByDigestID` -/
def indexByDigestID : (seen : List (Nat × String × ZkSignedItem)) →
    List (String × ZkSignedItem) → Except String (List (Nat × String × ZkSignedItem))
  | seen, [] => .ok seen
  | seen, (nameSpace, item) :: rest =>
    match item.digestID with
    | none => .error ("issuerSigned item " ++ item.elementIdentifier.quote ++ " (namespace " ++
        nameSpace.quote ++ ") has no digestId - required for Vega claim matching")
    | some digestID =>
      match seen.lookup digestID with
      | none => indexByDigestID (seen ++ [(digestID, nameSpace, item)]) rest
      | some (existingNS, existing) =>
        if existingNS ≠ nameSpace then
          .error ("digestId " ++ toString digestID ++ " appears in both namespace " ++
            existingNS.quote ++ " (" ++ existing.elementIdentifier.quote ++
            ") and namespace " ++ nameSpace.quote ++ " (" ++ item.elementIdentifier.quote ++
            "): digestIDs are namespace-scoped in ISO 18013-5, but claimSlotDigestIds " ++
            "carries no namespace, so a Vega presentation cannot disclose colliding " ++
            "digestIDs from two namespaces")
        else .error ("digestId " ++ toString digestID ++ " is disclosed more than once (" ++
          existing.elementIdentifier.quote ++ " and " ++ item.elementIdentifier.quote ++
          ") - ambiguous, refusing to guess which one was intended")

def ZkDocumentData.issuerSignedItemsByDigestID (dd : ZkDocumentData) :
    Except String (List (Nat × String × ZkSignedItem)) :=
  indexByDigestID [] dd.items

/-! ## What the native verifiers are handed -/

structure ZkAttribute where
  identifier : String
  valueCBOR : List UInt8
  deriving DecidableEq

/-- The arguments of `nativeVerifyZkProof` and of `nativeVerifyZkProofWithPPID`, which has a
verifier context. -/
structure LongfellowStatement where
  zkSystemID : String
  issuerPublicKeySEC1 : List UInt8
  attributes : List ZkAttribute
  docType : String
  deviceNameSpacesBytes : List UInt8
  sessionTranscript : List UInt8
  timeStr : String
  verifierContext : Option (List UInt8)

/-- What `nativeVerifyZkProofVega` returns of a proof. -/
structure VegaResult where
  qx : List UInt8
  qy : List UInt8
  validFromTs : List UInt8
  validUntilTs : List UInt8

/-- `ZkHandler`, with what its functions call. -/
structure ZkHandler (Key : Type) where
  /-- base64url, and otherwise base64 -/
  decodeToken : String → Except String (List UInt8)
  /-- `DecodeDeviceResponse` -/
  decodeDeviceResponse : List UInt8 → Except String ZkDeviceResponse
  /-- `ParseZkDocumentData` -/
  parseZkDocumentData : List UInt8 → Except String ZkDocumentData
  formats : Formats
  /-- what `Marshal` writes of the Go value that an item is decoded to; it drops the fraction of a
  second, for example -/
  reencode : Cbor.Item → Cbor.Item
  /-- `sha256.Sum256` -/
  sha256 : List UInt8 → List UInt8
  parseCertificate : List UInt8 → Except String (Certificate Key)
  /-- `sec1PublicKeyFromCert` -/
  sec1PublicKey : Key → Except String (List UInt8)
  /-- `trustEvaluator.Evaluate`: whether the key is trusted, and the reason -/
  evaluate : EvaluationRequest Key → Except String (Bool × String)
  issuerURL : String
  clock : Int
  /-- `time.Parse` of RFC 3339 -/
  parseTime : List UInt8 → Except String Int
  nativeVerifyZkProof : LongfellowStatement → (proof : List UInt8) → Except String Unit
  nativeVerifyZkProofVega : (zkSystemID : String) → (proof : List UInt8) →
    (disclosedBytes : List (List UInt8)) → Except String VegaResult

structure ZkPresentationContext where
  sessionID : String
  clientID : String
  ppidContext : String
  requestedZkSystems : List ZKSystemTypeSpec
  sessionTranscript : List UInt8
  requestedClaimIDs : List String

section Attributes

variable (encode : Cbor.Item → List UInt8)

def buildZkAttribute (identifier : String) (value : Cbor.Item) : ZkAttribute :=
  ⟨identifier, encode value⟩

/-- `buildZkAttributes`: the attributes, and the pseudonym among them. -/
def buildZkAttributes (issuerSigned : Elements) (requestedClaimIDs : List String) :
    Except String (List ZkAttribute × Option (List UInt8)) := do
  let claims ← Mdoc.buildZkAttributes issuerSigned (fun value => (asBytes value).isSome)
    requestedClaimIDs
  return ((claims.1 ++ claims.2).map fun claim => buildZkAttribute encode claim.1 claim.2,
    claims.2.head?.bind fun claim => asBytes claim.2)

end Attributes

/-- A map of maps, as it is encoded. -/
def elementsItem (elements : Elements) : Cbor.Item :=
  .map false (elements.map fun entry => (textItem entry.1,
    .map false (entry.2.map fun element => (textItem element.1, element.2))))

def vegaMaxClaims : Nat := 4

/-- No number stands in two slots. -/
def checkSlots : (seen : List (Nat × Nat)) → (slot : Nat) → List Nat → Except String Unit
  | _, _, [] => .ok ()
  | seen, slot, digestID :: rest =>
    match seen.lookup digestID with
    | some first => .error ("claimSlotDigestIds lists digestId " ++ toString digestID ++
        " in both slot " ++ toString first ++ " and slot " ++ toString slot ++
        " - ambiguous, refusing to guess which slot it belongs to")
    | none => checkSlots (seen ++ [(digestID, slot)]) (slot + 1) rest

/-- The bytes for one slot; those of a slot that is not disclosed are empty. -/
def slotBytes (byDigestID : List (Nat × String × ZkSignedItem)) (digestID : Nat) :
    Except String (List UInt8) :=
  match byDigestID.lookup digestID with
  | none => .ok []
  | some (_, item) => do
    require (item.issuerSignedItemBytes ≠ []) ("claim " ++ item.elementIdentifier.quote ++
      " (digestId " ++ toString digestID ++
      ") is disclosed but has no issuerSignedItemBytes on the wire")
    return item.issuerSignedItemBytes

def buildVegaDisclosedBytes (dd : ZkDocumentData) : Except String (List (List UInt8)) := do
  require (dd.claimSlotDigestIds.length = vegaMaxClaims) ("expected exactly " ++
    toString vegaMaxClaims ++ " claimSlotDigestIds (one per Vega circuit slot), got " ++
    toString dd.claimSlotDigestIds.length)
  checkSlots [] 0 dd.claimSlotDigestIds
  let byDigestID ← dd.issuerSignedItemsByDigestID
  let disclosedBytes ← dd.claimSlotDigestIds.mapM (slotBytes byDigestID)
  match byDigestID.find? fun entry => entry.1 ∉ dd.claimSlotDigestIds with
  | some (digestID, _, item) => .error ("claim " ++ item.elementIdentifier.quote ++
      " (digestId " ++ toString digestID ++ ") is disclosed on the wire but does not appear " ++
      "in claimSlotDigestIds - no proof slot binds it")
  | none => return disclosedBytes

/-- What one document's proof is verified against. -/
inductive NativeInput where
  | longfellow (statement : LongfellowStatement) (pseudonym : Option (List UInt8))
  | vega (disclosedBytes : List (List UInt8))

/-! ## Verifying -/

structure ZkDocumentResult where
  docType : String
  zkSystemID : String
  claims : Elements
  pseudonym : Option (List UInt8)

def decodeVegaIssuerSignedItem (formats : Formats) (raw : List UInt8) :
    Except String IssuerSignedItem :=
  match formats.cbor.unmarshal raw with
  | .ok (.tag 24 (.bytes _ chunks)) => (formats.item.unmarshal chunks.flatten).mapError
      ("decoding tag-24-wrapped issuerSignedItemBytes: " ++ ·)
  | _ => (formats.item.unmarshal raw).mapError
      ("issuerSignedItemBytes is neither #6.24(bstr) nor a bare IssuerSignedItem map: " ++ ·)

/-- One round of `checkVegaWireMatchesProofBoundItems` -/
def checkBoundItem (formats : Formats) (reencode : Cbor.Item → Cbor.Item) (nameSpace : String)
    (item : ZkSignedItem) : Except String Unit := do
  let claim := "claim " ++ item.elementIdentifier.quote ++ " (namespace " ++ nameSpace.quote ++ ")"
  require (item.issuerSignedItemBytes ≠ [])
    (claim ++ " has no issuerSignedItemBytes to check the wire against")
  let bound ← (decodeVegaIssuerSignedItem formats item.issuerSignedItemBytes).mapError
    (claim ++ ": " ++ ·)
  require (item.digestID = some bound.digestID) (claim ++ ": wire-declared digestId " ++
    (item.digestID.map toString).getD "absent" ++
    " does not match the proof-bound item's digestID " ++ toString bound.digestID)
  require (item.elementIdentifier = bound.elementIdentifier) ("namespace " ++ nameSpace.quote ++
    ", digestId " ++ toString bound.digestID ++ ": wire declares elementIdentifier " ++
    item.elementIdentifier.quote ++ " but the proof-bound item says " ++
    bound.elementIdentifier.quote)
  require (formats.cbor.marshal (reencode item.elementValue) =
      formats.cbor.marshal (reencode bound.elementValue))
    ("claim " ++ item.elementIdentifier.quote ++ " (namespace " ++ nameSpace.quote ++
      ", digestId " ++ toString bound.digestID ++
      "): wire-declared elementValue does not match the value the proof bound")

def checkVegaWireMatchesProofBoundItems (formats : Formats) (reencode : Cbor.Item → Cbor.Item)
    (dd : ZkDocumentData) : Except String Unit :=
  checkEach (fun _ entry => checkBoundItem formats reencode entry.1 entry.2) 0 dd.items

def checkVegaIssuerKeyMatches (issuerPubKeySEC1 qx qy : List UInt8) : Except String Unit := do
  require (issuerPubKeySEC1.length = 65 ∧ issuerPubKeySEC1.head? = some 0x04)
    ("issuer certificate public key is not a 65-byte uncompressed SEC1 point (got " ++
      toString issuerPubKeySEC1.length ++ " bytes)")
  require ((issuerPubKeySEC1.drop 1).take 32 = qx ∧ issuerPubKeySEC1.drop 33 = qy)
    ("Vega proof's recomputed issuer public key does not match the trust-evaluated " ++
      "certificate's public key")

/-- The certificates of an `msoX5chain`, as bytes. -/
def x5ChainBytes : Option Cbor.Item → Except String (List (List UInt8))
  | none => .error "msoX5chain is missing"
  | some (.bytes _ chunks) => .ok [chunks.flatten]
  | some (.array _ elements) =>
    match elements.mapM asBytes with
    | none => .error "invalid certificate entry in msoX5chain"
    | some certificates => .ok certificates
  | some _ => .error "invalid msoX5chain type"

namespace ZkHandler

variable {Key : Type} (h : ZkHandler Key) (pctx : ZkPresentationContext)

/-- `X5ChainCertificates`: the leaf, and the certificates after it. -/
def x5ChainCertificates (dd : ZkDocumentData) :
    Except String (Certificate Key × List (Certificate Key)) := do
  match ← x5ChainBytes dd.msoX5Chain with
  | [] => .error "msoX5chain contains no certificates"
  | leaf :: rest => do
    let parse := fun bytes => (h.parseCertificate bytes).mapError
      ("failed to parse certificate in msoX5chain: " ++ ·)
    return (← parse leaf, ← rest.mapM parse)

def checkVegaValidityWindow (validFromTs validUntilTs : List UInt8) : Except String Unit := do
  let validFrom ← (h.parseTime validFromTs).mapError
    ("failed to parse Vega proof's valid_from_ts: " ++ ·)
  let validUntil ← (h.parseTime validUntilTs).mapError
    ("failed to parse Vega proof's valid_until_ts: " ++ ·)
  require (validFrom ≤ h.clock) ("credential not yet valid: valid from " ++ toString validFrom)
  require (h.clock ≤ validUntil) ("credential expired: valid until " ++ toString validUntil)

def computeZkVerifierContext (sessionID clientID ppidContext : String) : List UInt8 :=
  let verifierIDSource := if sessionID = "" then clientID else sessionID
  let verifierIDHash := h.sha256 verifierIDSource.toUTF8.data.toList
  let ppidContextHash := if ppidContext = "" then List.replicate 32 0
    else h.sha256 ppidContext.toUTF8.data.toList
  h.sha256 (verifierIDHash ++ ppidContextHash)

/-- The system that a document names, among those of the request. -/
def offeredSystem (dd : ZkDocumentData) : Except String ZKSystemTypeSpec :=
  match Mdoc.matchZKSystemType pctx.requestedZkSystems dd.zkSystemID with
  | none => .error ("zkSystemId " ++ dd.zkSystemID.quote ++
      " was not offered in this request's zk_system_type")
  | some spec => .ok spec

/-- The trust decision about the certificates of a document. -/
def checkIssuer (dd : ZkDocumentData) (dsCert : Certificate Key)
    (rest : List (Certificate Key)) : Except String Unit := do
  require (dsCert.notBefore ≤ h.clock)
    ("certificate not yet valid: valid from " ++ toString dsCert.notBefore)
  require (h.clock ≤ dsCert.notAfter)
    ("certificate expired: valid until " ++ toString dsCert.notAfter)
  let issuerID := if h.issuerURL = "" then extractMDocIssuerID dsCert else h.issuerURL
  let decision ← (h.evaluate ⟨issuerID, dsCert :: rest, dd.docType⟩).mapError
    ("trust evaluation failed: " ++ ·)
  require (decision.1 = true) ("issuer not trusted: " ++ decision.2)

/-- A value as it is encoded. -/
def encode (value : Cbor.Item) : List UInt8 :=
  h.formats.cbor.marshal (h.reencode value)

/-- What the native verifier is handed for a document. -/
def nativeInput (spec : ZKSystemTypeSpec) (dd : ZkDocumentData) (dsCert : Certificate Key) :
    Except String NativeInput :=
  if Mdoc.isVegaSystem spec dd.zkSystemID then (buildVegaDisclosedBytes dd).map .vega
  else do
    let attributes ← (buildZkAttributes h.encode (flattenZkSignedItems dd.issuerSigned)
      pctx.requestedClaimIDs).mapError ("failed to assemble ZK attributes: " ++ ·)
    let issuerPubKeySEC1 ← (h.sec1PublicKey dsCert.publicKey).mapError
      ("failed to extract issuer public key: " ++ ·)
    return .longfellow {
      zkSystemID := dd.zkSystemID
      issuerPublicKeySEC1 := issuerPubKeySEC1
      attributes := attributes.1
      docType := dd.docType
      deviceNameSpacesBytes := h.encode (elementsItem (flattenZkSignedItems dd.deviceSigned))
      sessionTranscript := pctx.sessionTranscript
      timeStr := dd.timestamp
      verifierContext := attributes.2.map fun _ =>
        h.computeZkVerifierContext pctx.sessionID pctx.clientID pctx.ppidContext } attributes.2

/-- The native verifier's decision, and what is checked after it; the result is the pseudonym. -/
def verifyNative (zkDoc : ZkDocument) (dd : ZkDocumentData) (dsCert : Certificate Key) :
    NativeInput → Except String (Option (List UInt8))
  | .longfellow statement pseudonym => do
    h.nativeVerifyZkProof statement zkDoc.proof
    return pseudonym
  | .vega disclosedBytes => do
    let result ← h.nativeVerifyZkProofVega dd.zkSystemID zkDoc.proof disclosedBytes
    let issuerPubKeySEC1 ← (h.sec1PublicKey dsCert.publicKey).mapError
      ("failed to extract issuer public key: " ++ ·)
    checkVegaIssuerKeyMatches issuerPubKeySEC1 result.qx result.qy
    checkVegaWireMatchesProofBoundItems h.formats h.reencode dd
    h.checkVegaValidityWindow result.validFromTs result.validUntilTs
    return none

def verifyOneDocument (zkDoc : ZkDocument) (dd : ZkDocumentData) :
    Except String ZkDocumentResult := do
  let spec ← offeredSystem pctx dd
  let (dsCert, rest) ← (h.x5ChainCertificates dd).mapError ("msoX5chain: " ++ ·)
  h.checkIssuer dd dsCert rest
  let input ← h.nativeInput pctx spec dd dsCert
  let pseudonym ← h.verifyNative zkDoc dd dsCert input
  return ⟨dd.docType, dd.zkSystemID, flattenZkSignedItems dd.issuerSigned, pseudonym⟩

/-- One document of a response, with its position in the errors. -/
def verifyZkDocument (zkDoc : ZkDocument) (index : Nat) : Except String ZkDocumentResult :=
  match h.parseZkDocumentData zkDoc.documentData with
  | .error error => .error ("zkDocuments[" ++ toString index ++ "]: " ++
      "failed to decode ZkDocumentData: " ++ error)
  | .ok dd => (h.verifyOneDocument pctx zkDoc dd).mapError fun error =>
    "zkDocuments[" ++ toString index ++ "] (docType=" ++ dd.docType ++ "): " ++ error

/-- One round of the loop over the documents: the results by their type, and the errors. -/
def recordDocument (state : List (String × ZkDocumentResult) × List String)
    (entry : ZkDocument × Nat) : List (String × ZkDocumentResult) × List String :=
  match h.verifyZkDocument pctx entry.1 entry.2 with
  | .error error => (state.1, state.2 ++ [error])
  | .ok result => (put result.docType result state.1, state.2)

/-- `VerifyAndExtract`: the documents by their type, or the errors. -/
def verifyAndExtract (vpToken : String) :
    Except (List String) (List (String × ZkDocumentResult)) := do
  let data ← (h.decodeToken vpToken).mapError fun error =>
    ["failed to decode ZK mdoc VP token: " ++ error]
  let response ← (h.decodeDeviceResponse data).mapError fun error =>
    ["failed to decode ZK device response: " ++ error]
  require (response.version = "1.0") ["unsupported response version: " ++ response.version]
  require (response.status = 0)
    ["response status indicates error: " ++ toString response.status]
  require (response.zkDocuments ≠ []) ["device response contains no zkDocuments"]
  require (pctx.sessionTranscript ≠ []) ["SessionTranscript is required"]
  let state := response.zkDocuments.zipIdx.foldl (h.recordDocument pctx) ([], [])
  if state.2 = [] then return state.1 else .error state.2

end ZkHandler

end Vc.Iso18013
