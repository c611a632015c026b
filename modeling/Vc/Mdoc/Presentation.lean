import Vc.Openid4vp.Query
import Vc.Sdjwtvc.Token

/-!
# mdoc presentations

The handlers for `mso_mdoc` and `mso_mdoc_zk` tokens: which checks a device
response goes through, in which order, and what is extracted from it.

CBOR, certificates, signatures and zero-knowledge proofs are given by
`Library`.  Element values are shown as the JSON values they stand for, and a
session transcript by what its handover is computed from.
-/

namespace Vc.Mdoc

open Checks Sdjwtvc Openid4vp List

inductive SessionTranscript where
  /-- `BuildOID4VPSessionTranscript` -/
  | redirect (clientID nonce responseURI : String) (thumbprint : Option Bytes)
  /-- `BuildOID4VPDCAPISessionTranscript` -/
  | dcAPI (origin nonce : String) (thumbprint : Option Bytes)
  deriving DecidableEq

/-- An issuer-signed item as it stands in a name space. -/
inductive Item where
  /-- a tagged byte string and the element it decodes to -/
  | tagged (content : Bytes) (element : Option (String × Json))
  /-- any other CBOR value -/
  | other
  deriving DecidableEq

/-- `DeviceAuth` of a document. -/
structure DeviceAuth where
  deviceSignature : Option Bytes := none
  deviceMac : List Bytes := []
  deriving DecidableEq

/-- `DocumentMdoc` -/
structure Document where
  docType : String
  nameSpaces : List (String × List Item)
  issuerAuth : Bytes
  deviceAuth : DeviceAuth := {}
  deriving DecidableEq

/-- `ZkDocumentDataMdoc` -/
structure ZkDocumentData where
  zkSystemID : String
  docType : String
  timestamp : String := ""
  issuerSigned : List (String × List (String × Json))
  deviceSigned : List (String × List (String × Json)) := []
  msoX5Chain : Bytes
  /-- what only the Vega circuits read -/
  claimSlots : Bytes := []
  deriving DecidableEq

/-- `ZkDocumentMdoc` -/
structure ZkDocument where
  documentData : Bytes
  proof : Bytes
  deriving DecidableEq

/-- `DeviceResponseMdoc` -/
structure DeviceResponse where
  version : String
  documents : List Document := []
  documentErrors : List (List (String × Int)) := []
  status : Nat
  zkDocuments : List ZkDocument := []
  deriving DecidableEq

/-- `MobileSecurityObject`, with its validity in seconds. -/
structure MobileSecurityObject where
  version : String
  docType : String
  digestAlgorithm : String
  validFrom : Int
  validUntil : Int
  valueDigests : Bytes
  deviceKeyInfo : Bytes
  deriving DecidableEq

/-- What the native Longfellow verifier is asked. -/
structure ZkStatement where
  zkSystemID : String
  issuerKey : Bytes
  attributes : List (String × Json)
  docType : String
  deviceNameSpaces : List (String × List (String × Json))
  sessionTranscript : SessionTranscript
  time : String
  /-- the verifier's identity in the pseudonym, if one is disclosed -/
  verifierContext : Option (String × String × String)

/-- CBOR, certificates and cryptography. -/
structure Library (Key : Type) where
  /-- the bytes of a token, in base64url or in base64 -/
  decodeToken : String → Except String Bytes
  decodeDeviceResponse : Bytes → Except String DeviceResponse
  /-- `PeekIsZkDeviceResponse` -/
  peekIsZk : Bytes → Except String Bool
  /-- `parseIssuerAuth` and `GetCertificateChainFromSign1` -/
  certificateChain : Bytes → Except String (List Bytes)
  /-- the validity of the first certificate, and the trust decision -/
  evaluateChain : List Bytes → String → Except String Unit
  verifyMSO : Bytes → Bytes → Except String MobileSecurityObject
  /-- `VerifyDigest` -/
  verifyDigest : MobileSecurityObject → String → Item → Except String Unit
  /-- `ExtractDeviceKeyFromMSO` -/
  deviceKey : MobileSecurityObject → Except String Key
  /-- `DeviceAuthVerifier.VerifySignature` -/
  verifySignature : SessionTranscript → Document → Key → Except String Unit
  parseZkDocumentData : Bytes → Except String ZkDocumentData
  /-- `X5ChainCertificates` -/
  x5ChainCertificates : Bytes → Except String (List Bytes)
  /-- `sec1PublicKeyFromCert` -/
  sec1PublicKey : Bytes → Except String Bytes
  /-- `nativeVerifyZkProof` and `nativeVerifyZkProofWithPPID` -/
  verifyZkProof : ZkStatement → Bytes → Except String Unit
  /-- `nativeVerifyZkProofVega` and the comparisons that follow it -/
  verifyVega : ZkDocumentData → Bytes → Bytes → Except String Unit
  /-- `value.([]byte)` -/
  isByteString : Json → Bool

/-- The library that reads nothing. -/
def Library.refusing (Key : Type) : Library Key where
  decodeToken _ := .error "illegal base64 data at input byte 0"
  decodeDeviceResponse _ := .error "EOF"
  peekIsZk _ := .error "EOF"
  certificateChain _ := .error "EOF"
  evaluateChain _ _ := .error "not trusted"
  verifyMSO _ _ := .error "EOF"
  verifyDigest _ _ _ := .error "digest not found"
  deviceKey _ := .error "no device key"
  verifySignature _ _ _ := .error "signature verification failed"
  parseZkDocumentData _ := .error "EOF"
  x5ChainCertificates _ := .error "EOF"
  sec1PublicKey _ := .error "EOF"
  verifyZkProof _ _ := .error "not implemented"
  verifyVega _ _ _ := .error "not implemented"
  isByteString _ := false

section Handlers

variable {Key : Type} (library : Library Key) (now : Int)

/-! ## Documents -/

def validateMSO (mso : MobileSecurityObject) (expectedDocType : String) : Except String Unit := do
  require (mso.version = "1.0") ("unsupported MSO version: " ++ mso.version)
  require (mso.docType = expectedDocType)
    ("MSO docType mismatch: got " ++ mso.docType ++ ", expected " ++ expectedDocType)
  require (mso.digestAlgorithm = "SHA-256" ∨ mso.digestAlgorithm = "SHA-512")
    ("unsupported digest algorithm: " ++ mso.digestAlgorithm)
  require (mso.validFrom ≤ now) "MSO not yet valid"
  require (now ≤ mso.validUntil) "MSO expired"

/-- The checks of one item of a name space. -/
def verifyItem (mso : MobileSecurityObject) (nameSpace : String) (index : Nat) (item : Item) :
    Except String Unit := do
  wrap ("digest mismatch in " ++ nameSpace ++ " at index " ++ toString index)
    (library.verifyDigest mso nameSpace item)
  match item with
  | .other =>
    .error ("item in " ++ nameSpace ++ " at index " ++ toString index ++ " is not a CBOR Tag")
  | .tagged _ none => .error ("failed to decode IssuerSignedItem in " ++ nameSpace)
  | .tagged _ (some _) => .ok ()

def itemErrors (mso : MobileSecurityObject) (document : Document) : List String :=
  document.nameSpaces.flatMap fun (nameSpace, items) =>
    items.zipIdx.filterMap fun (item, index) =>
      match verifyItem library mso nameSpace index item with
      | .ok _ => none
      | .error error => some error

/-- The first certificate of a chain. -/
def leafCertificate (chain : List Bytes) : Except String Bytes :=
  match chain with
  | [] => .error "no certificates in issuer auth"
  | dsCert :: _ => .ok dsCert

variable (document : Document)

/-- `verifyDocumentWithContext` up to the items. -/
def verifyIssuer : Except String MobileSecurityObject := do
  let chain ← wrap "failed to parse issuer auth" (library.certificateChain document.issuerAuth)
  let dsCert ← leafCertificate chain
  wrap "certificate chain verification failed" (library.evaluateChain chain document.docType)
  let mso ← wrap "MSO signature verification failed" (library.verifyMSO document.issuerAuth dsCert)
  wrap "MSO validation failed" (validateMSO now mso document.docType)
  return mso

/-- `verifyDocumentWithContext`: the security object, or all errors. -/
def verifyDocument : Except (List String) MobileSecurityObject :=
  match verifyIssuer library now document with
  | .error error => .error [error]
  | .ok mso =>
    match itemErrors library mso document with
    | [] => .ok mso
    | errors => .error errors

/-- The errors of a device response that are not those of a document. -/
def responseErrors (response : DeviceResponse) : List String :=
  (if response.version ≠ "1.0" then ["unsupported response version: " ++ response.version]
    else []) ++
  (if response.status ≠ 0 then
      ["response status indicates error: " ++ toString response.status]
    else []) ++
  response.documentErrors.flatMap fun errors => errors.map fun (docType, code) =>
    "document verification failed: docType " ++ docType.quote ++ " returned error code " ++
      toString code

/-- `VerifyDeviceResponse`: a security object for each document, or all errors.  A document error
without entries makes the response invalid without a text. -/
def verifyDeviceResponse (response : DeviceResponse) :
    Except (List String) (List MobileSecurityObject) :=
  let results := response.documents.map (verifyDocument library now)
  let errors := responseErrors response ++ results.flatMap fun
    | .ok _ => []
    | .error errors => errors
  if errors = [] ∧ response.documentErrors = [] then
    .ok (results.filterMap Except.toOption)
  else .error errors

/-- `VerifyDeviceAuth`, for a document that carries a device signature. -/
def verifyDeviceAuth (mso : MobileSecurityObject)
    (transcript : SessionTranscript) : Except String Unit := do
  let deviceKey ← wrap "failed to extract device key" (library.deviceKey mso)
  library.verifySignature transcript document deviceKey

/-- The binding of one document to a session transcript. -/
def bindDocument (transcript : SessionTranscript) (document : Document)
    (mso : MobileSecurityObject) : Except String Unit :=
  wrap ("device auth binding failed for " ++ document.docType.quote) <|
    if document.deviceAuth.deviceSignature.isSome then
      verifyDeviceAuth library document mso transcript
    else if document.deviceAuth.deviceMac ≠ [] then
      .error "MAC-based device authentication is not supported on this API"
    else .error "presentation carries no device signature or MAC"

/-- The elements of a name space, the later ones of a name in place of the earlier ones. -/
def elements (items : List Item) : Members :=
  items.foldl (fun claims item =>
    match item with
    | .tagged _ (some (identifier, value)) => Entries.put identifier value claims
    | _ => claims) []

/-- `extractDocumentClaims`: the elements by name space. -/
def extractDocumentClaims : List (String × Members) :=
  document.nameSpaces.map fun (nameSpace, items) => (nameSpace, elements items)

/-- A document that a handler accepts, with what is extracted from it. -/
structure DocumentClaims where
  docType : String
  nameSpaces : List (String × Members)
  deriving DecidableEq

/-- The extraction of all documents, refused when a docType is repeated. -/
def extractDocuments : List Document → Except String (List DocumentClaims)
  | [] => .ok []
  | document :: rest => do
    let others ← extractDocuments rest
    require (document.docType ∉ rest.map (·.docType))
      ("mdoc DeviceResponse contains duplicate docType " ++ document.docType.quote)
    return ⟨document.docType, extractDocumentClaims document⟩ :: others

/-- The binding of all documents, where a session transcript is given. -/
def bindDocuments (transcript : Option SessionTranscript) (documents : List Document)
    (objects : List MobileSecurityObject) : Except String Unit :=
  match transcript with
  | none => .ok ()
  | some transcript =>
    checkEach (fun _ (document, mso) => bindDocument library transcript document mso) 0
      (documents.zip objects)

/-- `verifyAndExtract` -/
def verifyAndExtractWith (transcript : Option SessionTranscript) (vpToken : String) :
    Except String (List DocumentClaims) := do
  let data ← wrap "failed to decode mdoc VP token" (library.decodeToken vpToken)
  let response ← wrap "failed to unmarshal device response" (library.decodeDeviceResponse data)
  let objects ← (verifyDeviceResponse library now response).mapError fun errors =>
    "mdoc verification failed: " ++ "; ".intercalate errors
  bindDocuments library transcript response.documents objects
  extractDocuments response.documents

def verifyAndExtract (vpToken : String) : Except String (List DocumentClaims) :=
  verifyAndExtractWith library now none vpToken

/-! ## Zero-knowledge documents -/

structure ZkPresentationContext where
  sessionID : String
  clientID : String
  ppidContext : String
  requestedZkSystems : List ZKSystemTypeSpec
  sessionTranscript : SessionTranscript
  requestedClaimIDs : List String

def pseudonymClaimIdentifier : String := "pairwise_pseudonym"

def vegaSystemPrefix : String := "vega-mc"

def matchZKSystemType (requested : List ZKSystemTypeSpec) (presentedZkSystemID : String) :
    Option ZKSystemTypeSpec :=
  requested.find? (·.id = presentedZkSystemID)

def isVegaSystem (spec : ZKSystemTypeSpec) (zkSystemID : String) : Bool :=
  if spec.system ≠ "" then vegaSystemPrefix.isPrefixOf spec.system
  else vegaSystemPrefix.isPrefixOf zkSystemID

def flattenZkSignedItems (signed : List (String × List (String × Json))) :
    List (String × Members) :=
  signed.map fun (nameSpace, items) =>
    (nameSpace, items.foldl (fun claims (identifier, value) =>
      Entries.put identifier value claims) [])

section Attributes

variable {Value : Type} (issuerSigned : List (String × List (String × Value)))

def findClaimInNamespaces (identifier : String) : Except String (Option Value) :=
  match issuerSigned.filterMap fun entry => (entry.2.lookup identifier).map (entry.1, ·) with
  | [] => .ok none
  | [(_, value)] => .ok (some value)
  | found => .error ("claim " ++ identifier.quote ++ " is disclosed in more than one namespace (" ++
      ", ".intercalate ((found.map Prod.fst).mergeSort) ++
      ") - ambiguous, refusing to guess which one was intended")

/-- A claim that has to be disclosed. -/
def requestedAttribute (identifier : String) :
    Except String (String × Value) := do
  require (identifier ≠ pseudonymClaimIdentifier) (pseudonymClaimIdentifier ++
    " must not appear in RequestedClaimIDs - it is always appended last automatically")
  match ← findClaimInNamespaces issuerSigned identifier with
  | none =>
    .error ("requested claim " ++ identifier.quote ++ " was not disclosed in this presentation")
  | some value => return (identifier, value)

variable (isByteString : Value → Bool)

/-- The pseudonym, if it is disclosed. -/
def extractPseudonymAttribute : Except String (List (String × Value)) := do
  match ← findClaimInNamespaces issuerSigned pseudonymClaimIdentifier with
  | none => return []
  | some value =>
    if isByteString value then return [(pseudonymClaimIdentifier, value)]
    else .error (pseudonymClaimIdentifier ++ " claim has unexpected CBOR type")

/-- `buildZkAttributes`: the attributes in the order of the request, and the pseudonym, which comes
after them. -/
def buildZkAttributes (requestedClaimIDs : List String) :
    Except String (List (String × Value) × List (String × Value)) := do
  require (requestedClaimIDs ≠ []) ("no requested claim IDs available to determine attribute " ++
    "order - cannot safely assemble a native ZK verify call")
  let attributes ← requestedClaimIDs.mapM (requestedAttribute issuerSigned)
  let pseudonym ← extractPseudonymAttribute issuerSigned isByteString
  return (attributes, pseudonym)

end Attributes

variable (context : ZkPresentationContext)

/-- The native check of a Longfellow document. -/
def verifyLongfellow (document : ZkDocument)
    (zkData : ZkDocumentData) (dsCert : Bytes) : Except String Unit := do
  let attributes ← wrap "failed to assemble ZK attributes"
    (buildZkAttributes (flattenZkSignedItems zkData.issuerSigned) library.isByteString
      context.requestedClaimIDs)
  let issuerKey ← wrap "failed to extract issuer public key" (library.sec1PublicKey dsCert)
  library.verifyZkProof {
    zkSystemID := zkData.zkSystemID
    issuerKey
    attributes := attributes.1 ++ attributes.2
    docType := zkData.docType
    deviceNameSpaces := flattenZkSignedItems zkData.deviceSigned
    sessionTranscript := context.sessionTranscript
    time := zkData.timestamp
    verifierContext :=
      if attributes.2 = [] then none
      else some (context.sessionID, context.clientID, context.ppidContext) }
    document.proof

/-- The native check of a document; the one for Vega is not told the transcript. -/
def verifyNative (spec : ZKSystemTypeSpec)
    (document : ZkDocument) (zkData : ZkDocumentData) (dsCert : Bytes) : Except String Unit :=
  if isVegaSystem spec zkData.zkSystemID then library.verifyVega zkData document.proof dsCert
  else verifyLongfellow library context document zkData dsCert

/-- The system that a document names, among those of the request. -/
def offeredSystem (zkData : ZkDocumentData) : Except String ZKSystemTypeSpec :=
  match matchZKSystemType context.requestedZkSystems zkData.zkSystemID with
  | none =>
    .error ("zkSystemId " ++ zkData.zkSystemID.quote ++
      " was not offered in this request's zk_system_type")
  | some spec => .ok spec

def verifyOneDocument (document : ZkDocument)
    (zkData : ZkDocumentData) : Except String DocumentClaims := do
  let spec ← offeredSystem context zkData
  let certs ← wrap "msoX5chain" (library.x5ChainCertificates zkData.msoX5Chain)
  let dsCert ← leafCertificate certs
  library.evaluateChain certs zkData.docType
  verifyNative library context spec document zkData dsCert
  return ⟨zkData.docType, flattenZkSignedItems zkData.issuerSigned⟩

/-- The documents of a ZK response, one after the other; a later one of a docType takes the place
of an earlier one. -/
def verifyZkDocuments (context : ZkPresentationContext) :
    List ZkDocument → Except String (List DocumentClaims)
  | [] => .ok []
  | document :: rest => do
    let zkData ← library.parseZkDocumentData document.documentData
    let first ← verifyOneDocument library context document zkData
    let others ← verifyZkDocuments context rest
    return if first.docType ∈ others.map (·.docType) then others else first :: others

/-- `ZkHandler.VerifyAndExtract`; of several errors the model keeps the first. -/
def verifyAndExtractZk (vpToken : String) :
    Except String (List DocumentClaims) := do
  let data ← wrap "failed to decode ZK mdoc VP token" (library.decodeToken vpToken)
  let response ← wrap "failed to decode ZK device response" (library.decodeDeviceResponse data)
  require (response.version = "1.0") ("unsupported response version: " ++ response.version)
  require (response.status = 0)
    ("response status indicates error: " ++ toString response.status)
  require (response.zkDocuments ≠ []) "device response contains no zkDocuments"
  verifyZkDocuments library context response.zkDocuments

/-! ## What has been established of an accepted token -/

def presentedDocuments (vpToken : String) : List Document :=
  match library.decodeToken vpToken with
  | .error _ => []
  | .ok data => ((library.decodeDeviceResponse data).toOption.map (·.documents)).getD []

/-- The ZK documents of a token, with what each one discloses. -/
def readZkDocuments (documents : List ZkDocument) :
    Except String (List (ZkDocument × ZkDocumentData)) :=
  documents.mapM fun document =>
    (library.parseZkDocumentData document.documentData).map (document, ·)

def lastOfDocType : List (ZkDocument × ZkDocumentData) → List (ZkDocument × ZkDocumentData)
  | [] => []
  | first :: rest =>
    if first.2.docType ∈ (lastOfDocType rest).map (·.2.docType) then lastOfDocType rest
    else first :: lastOfDocType rest

/-- The ZK documents of a token that are extracted. -/
def presentedProofs (vpToken : String) : List (ZkDocument × ZkDocumentData) :=
  match library.decodeToken vpToken with
  | .error _ => []
  | .ok data =>
    match library.decodeDeviceResponse data with
    | .error _ => []
    | .ok response =>
      lastOfDocType ((readZkDocuments library response.zkDocuments).toOption.getD [])

variable {library now}

theorem verifyDocument_ne_error_nil : verifyDocument library now document ≠ .error [] := by
  unfold verifyDocument
  split
  · simp
  · split
    · simp
    · next errors nonempty => simpa using nonempty

theorem verifyDocument_of_verifyDeviceResponse {response : DeviceResponse}
    {objects : List MobileSecurityObject}
    (verified : verifyDeviceResponse library now response = .ok objects) {document : Document}
    (member : document ∈ response.documents) :
    ∃ mso, verifyDocument library now document = .ok mso := by
  simp only [verifyDeviceResponse] at verified
  split_ifs at verified with clean
  have none := flatMap_eq_nil_iff.mp (append_eq_nil_iff.mp clean.1).2 _ (mem_map_of_mem member)
  cases outcome : verifyDocument library now document with
  | ok mso => exact ⟨mso, rfl⟩
  | error errors =>
    rw [outcome] at none
    have empty : errors = [] := none
    exact absurd (empty ▸ outcome) (verifyDocument_ne_error_nil _)

variable {extracted : List DocumentClaims}

theorem extractDocuments_eq_ok {documents : List Document}
    (done : extractDocuments documents = .ok extracted) :
    extracted = documents.map (fun document =>
      ⟨document.docType, extractDocumentClaims document⟩) ∧
      (documents.map (·.docType)).Nodup := by
  induction documents generalizing extracted with
  | nil =>
    cases done
    exact ⟨rfl, nodup_nil⟩
  | cons document rest ih =>
    simp only [extractDocuments, bind_eq_ok_iff, require_eq_ok_iff] at done
    obtain ⟨others, later, _, fresh, same⟩ := done
    cases same
    obtain ⟨rfl, nodup⟩ := ih later
    exact ⟨rfl, nodup_cons.mpr ⟨fresh, nodup⟩⟩

/-- What the mdoc handler has checked of a token that it accepts. -/
theorem verifyAndExtract_eq_ok {vpToken : String}
    (accepted : verifyAndExtract library now vpToken = .ok extracted) :
    extracted = (presentedDocuments library vpToken).map (fun document =>
      ⟨document.docType, extractDocumentClaims document⟩) ∧
      ((presentedDocuments library vpToken).map (·.docType)).Nodup ∧
      ∀ document ∈ presentedDocuments library vpToken,
        ∃ mso, verifyDocument library now document = .ok mso := by
  simp only [verifyAndExtract, verifyAndExtractWith, bind_eq_ok_iff, wrap_eq_ok_iff,
    mapError_eq_ok_iff] at accepted
  obtain ⟨data, decoded, response, read, objects, verified, _, _, done⟩ := accepted
  have presented : presentedDocuments library vpToken = response.documents := by
    simp only [presentedDocuments, decoded, read]
    rfl
  obtain ⟨same, nodup⟩ := extractDocuments_eq_ok done
  rw [presented]
  exact ⟨same, nodup, fun document member =>
    verifyDocument_of_verifyDeviceResponse verified member⟩

theorem nodup_lastOfDocType (pairs : List (ZkDocument × ZkDocumentData)) :
    ((lastOfDocType pairs).map (·.2.docType)).Nodup := by
  induction pairs with
  | nil => exact nodup_nil
  | cons first rest ih =>
    rw [lastOfDocType]
    split_ifs with later
    · exact ih
    · exact nodup_cons.mpr ⟨later, ih⟩

variable {pairs : List (ZkDocument × ZkDocumentData)}

theorem mem_of_mem_lastOfDocType
    {pair : ZkDocument × ZkDocumentData} (member : pair ∈ lastOfDocType pairs) : pair ∈ pairs := by
  induction pairs with
  | nil => exact member
  | cons first rest ih =>
    rw [lastOfDocType] at member
    split_ifs at member
    · exact mem_cons_of_mem _ (ih member)
    · rcases mem_cons.mp member with rfl | later
      · exact mem_cons_self
      · exact mem_cons_of_mem _ (ih later)

theorem lastOfDocType_ne_nil (some : pairs ≠ []) : lastOfDocType pairs ≠ [] := by
  induction pairs with
  | nil => exact some
  | cons first rest ih =>
    rw [lastOfDocType]
    split_ifs with later
    · exact fun empty => by simp [empty] at later
    · exact cons_ne_nil _ _

/-- What is extracted of one ZK document. -/
def zkClaims (zkData : ZkDocumentData) : DocumentClaims :=
  ⟨zkData.docType, flattenZkSignedItems zkData.issuerSigned⟩

variable {context}

theorem verifyOneDocument_eq_ok {document : ZkDocument}
    {zkData : ZkDocumentData} {claims : DocumentClaims}
    (verified : verifyOneDocument library context document zkData = .ok claims) :
    claims = zkClaims zkData ∧ ∃ spec dsCert, offeredSystem context zkData = .ok spec ∧
      verifyNative library context spec document zkData dsCert = .ok () := by
  simp only [verifyOneDocument, bind_eq_ok_iff] at verified
  obtain ⟨spec, offered, _, _, dsCert, _, _, _, _, native, same⟩ := verified
  exact ⟨(Except.ok.inj same).symm, spec, dsCert, offered, native⟩

theorem verifyZkDocuments_eq_ok {documents : List ZkDocument}
    (verified : verifyZkDocuments library context documents = .ok extracted) :
    ∃ pairs, readZkDocuments library documents = .ok pairs ∧
      extracted = (lastOfDocType pairs).map (zkClaims ·.2) ∧
      ∀ pair ∈ pairs, ∃ spec dsCert, offeredSystem context pair.2 = .ok spec ∧
        verifyNative library context spec pair.1 pair.2 dsCert = .ok () := by
  induction documents generalizing extracted with
  | nil =>
    cases verified
    exact ⟨[], rfl, rfl, nofun⟩
  | cons document rest ih =>
    simp only [verifyZkDocuments, bind_eq_ok_iff] at verified
    obtain ⟨zkData, read, first, one, others, later, same⟩ := verified
    obtain ⟨pairs, readRest, rfl, each⟩ := ih later
    obtain ⟨rfl, native⟩ := verifyOneDocument_eq_ok one
    refine ⟨(document, zkData) :: pairs, ?_, ?_, forall_mem_cons.mpr ⟨native, each⟩⟩
    · rw [readZkDocuments, mapM_cons, ← readZkDocuments, readRest, read]
      rfl
    · have names : ((lastOfDocType pairs).map (zkClaims ·.2)).map (·.docType) =
          (lastOfDocType pairs).map (·.2.docType) := map_map
      rw [← Except.ok.inj same, lastOfDocType, names]
      by_cases repeated : zkData.docType ∈ (lastOfDocType pairs).map (·.2.docType)
      · rw [if_pos repeated]
        exact if_pos repeated
      · rw [if_neg repeated]
        exact if_neg repeated

/-- What the ZK handler has checked of a token that it accepts. -/
theorem verifyAndExtractZk_eq_ok {vpToken : String}
    (accepted : verifyAndExtractZk library context vpToken = .ok extracted) :
    extracted = (presentedProofs library vpToken).map (zkClaims ·.2) ∧
      presentedProofs library vpToken ≠ [] ∧
      ((presentedProofs library vpToken).map (·.2.docType)).Nodup ∧
      ∀ pair ∈ presentedProofs library vpToken, ∃ spec dsCert,
        offeredSystem context pair.2 = .ok spec ∧
        verifyNative library context spec pair.1 pair.2 dsCert = .ok () := by
  simp only [verifyAndExtractZk, bind_eq_ok_iff, wrap_eq_ok_iff, require_eq_ok_iff] at accepted
  obtain ⟨data, decoded, response, read, _, _, _, _, _, some, verified⟩ := accepted
  obtain ⟨pairs, readAll, rfl, each⟩ := verifyZkDocuments_eq_ok verified
  have presented : presentedProofs library vpToken = lastOfDocType pairs := by
    simp only [presentedProofs, decoded, read, readAll]
    rfl
  have nonempty : pairs ≠ [] := by
    rintro rfl
    exact some (forall₂_nil_right_iff.mp (mapM_eq_ok_iff.mp readAll))
  rw [presented]
  exact ⟨rfl, lastOfDocType_ne_nil nonempty, nodup_lastOfDocType _,
    fun pair member => each _ (mem_of_mem_lastOfDocType member)⟩

end Handlers

end Vc.Mdoc
