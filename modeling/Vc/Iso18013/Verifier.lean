import Vc.Iso18013.Mso

/-!
# Verifying issuer-signed data

`pkg/mdoc/verifier.go`: a document, or its issuer-signed part alone, is verified
against the certificate chain, the Mobile Security Object and the digests in it.
`VerifyDocument` goes on after a failed item and collects the errors;
`VerifyIssuerSigned` stops at the first one.
-/

namespace Vc.Iso18013

open Checks Entries Tokenstatuslist Cbor

/-- `trust.EvaluationRequest`, for a certificate chain and the role of an issuer. -/
structure EvaluationRequest (Key : Type) where
  subjectID : String
  key : List (Certificate Key)
  docType : String

/-- `Verifier`, with what its functions call. -/
structure Verifier (Key : Type) where
  schemes : Schemes Key
  formats : Formats
  /-- `ParseCertificate`, with the extensions that are configured -/
  parseCertificate : List UInt8 → Except String (Certificate Key)
  /-- `trustEvaluator.Evaluate`: whether the key is trusted, and the reason -/
  evaluate : EvaluationRequest Key → Except String (Bool × String)
  issuerURL : String
  /-- `clock()` -/
  clock : Int
  /-- `time.Now()` -/
  now : Int

/-- `IssuerSignedMdoc` -/
structure IssuerSigned where
  nameSpaces : List (String × List Item)
  issuerAuth : Item

/-- `DocumentMdoc`, as far as it is verified here. -/
structure Document where
  docType : String
  issuerSigned : IssuerSigned

/-- Element values by name space and identifier. -/
abbrev Elements := List (String × List (String × Item))

structure DocumentVerificationResult (Key : Type) where
  docType : String
  valid : Bool := true
  mso : Option MobileSecurityObject := none
  issuerCertificate : Option (Certificate Key) := none
  verifiedElements : Elements := []
  errors : List String := []

/-- Record an error. -/
def DocumentVerificationResult.fail {Key : Type} (result : DocumentVerificationResult Key)
    (error : String) : DocumentVerificationResult Key :=
  { result with valid := false, errors := result.errors ++ [error] }

/-! ## The certificate chain -/

def extractMDocIssuerID {Key : Type} (cert : Certificate Key) : String :=
  match cert.uris.find? fun uri => uri.1 = "https" ∨ uri.1 = "http" with
  | some uri => "https:" ++ uri.2
  | none =>
    match cert.dnsNames.find? fun dns => ¬ "*.".toList <+: dns.toList with
    | some dns => "https://" ++ dns
    | none =>
      match cert.organization, cert.country with
      | organization :: _, _ => organization
      | [], country :: _ => country
      | [], [] => if cert.commonName ≠ "" then cert.commonName else cert.issuerCommonName

namespace Verifier

variable {Key : Type} (v : Verifier Key)

/-- The trust decision about a chain for a document type. -/
def evaluateChain (dsCert : Certificate Key) (chain : List (Certificate Key)) (docType : String) :
    Except String Unit := do
  let issuerID := if v.issuerURL = "" then extractMDocIssuerID dsCert else v.issuerURL
  let decision ← (v.evaluate ⟨issuerID, chain, docType⟩).mapError
    ("trust evaluation failed: " ++ ·)
  require (decision.1 = true) ("issuer not trusted: " ++ decision.2)

def verifyCertificateChainWithContext (chain : List (Certificate Key)) (docType : String) :
    Except String Unit :=
  match chain with
  | [] => .error "empty certificate chain"
  | dsCert :: _ => do
    require (dsCert.notBefore ≤ v.clock)
      ("certificate not yet valid: valid from " ++ toString dsCert.notBefore)
    require (v.clock ≤ dsCert.notAfter)
      ("certificate expired: valid until " ++ toString dsCert.notAfter)
    v.evaluateChain dsCert chain docType

def verifyCertificateChain (chain : List (Certificate Key)) : Except String Unit :=
  v.verifyCertificateChainWithContext chain ""

/-! ## The issuer's signature -/

def parseIssuerAuthArray : List Item → Except String COSESign1
  | [protectedHeader, unprotected, payload, signature] => do
    let protectedBytes ← match asBytes protectedHeader with
      | some bytes => .ok bytes
      | none => .error "invalid type for protected headers"
    let payloadBytes ← match payload with
      | .simple 22 | .simple 23 => .ok none
      | _ => match asBytes payload with
        | some bytes => .ok (some bytes)
        | none => .error "invalid type for payload"
    let signatureBytes ← match asBytes signature with
      | some bytes => .ok bytes
      | none => .error "invalid type for signature"
    return {
      protectedBytes
      unprotected := match unprotected with
        | .map _ entries => entries
        | _ => []
      payload := payloadBytes
      signature := signatureBytes }
  | items => .error ("invalid COSE_Sign1 array length: " ++ toString items.length)

/-- `UnmarshalCBOR` of a `COSESign1`: a component of the wrong type is read as none. -/
def unmarshalSign1 (cbor : Codec) (data : List UInt8) : Except String COSESign1 :=
  match cbor.unmarshal data with
  | .error error => .error error
  | .ok (.tag number content) =>
    if number ≠ 18 then .error ("expected COSE_Sign1 tag 18, got " ++ toString number)
    else match content with
      | .array _ [protectedHeader, unprotected, payload, signature] => .ok {
          protectedBytes := (asBytes protectedHeader).getD []
          unprotected := match unprotected with
            | .map _ entries => entries
            | _ => []
          payload := asBytes payload
          signature := (asBytes signature).getD [] }
      | _ => .error "invalid COSE_Sign1 structure"
  | .ok _ => .error "cbor: cannot unmarshal into Go value of type cbor.Tag"

def parseIssuerAuth : Item → Except String COSESign1
  | .bytes _ chunks => do
    require (chunks.flatten ≠ []) "empty issuer auth data"
    (unmarshalSign1 v.formats.cbor chunks.flatten).mapError
      ("failed to unmarshal COSE_Sign1: " ++ ·)
  | .array _ items => parseIssuerAuthArray items
  | _ => .error "expected []byte for issuer auth"

variable (message : COSESign1)

/-- A signed message as an array of its components. -/
def issuerAuthArray : Item :=
  .array false [bytesItem message.protectedBytes, .map false message.unprotected,
    nilOrBytes message.payload, bytesItem message.signature]

/-- `MarshalCBOR` of a `COSESign1`, in a byte string. -/
def issuerAuthBytes : Item :=
  bytesItem (v.formats.cbor.marshal (.tag 18 (issuerAuthArray message)))

theorem parseIssuerAuth_array : v.parseIssuerAuth (issuerAuthArray message) = .ok message := by
  obtain ⟨protectedBytes, unprotected, payload, signature⟩ := message
  cases payload <;>
    simp [parseIssuerAuth, issuerAuthArray, parseIssuerAuthArray, nilOrBytes, bytesItem, asBytes]

theorem unmarshalSign1_marshal (cbor : Codec) (message : COSESign1) :
    unmarshalSign1 cbor (cbor.marshal (.tag 18 (issuerAuthArray message))) = .ok message := by
  obtain ⟨protectedBytes, unprotected, payload, signature⟩ := message
  unfold unmarshalSign1
  rw [cbor.lossless]
  cases payload <;> simp [issuerAuthArray, nilOrBytes, bytesItem, asBytes]

theorem parseIssuerAuth_bytes
    (written : v.formats.cbor.marshal (.tag 18 (issuerAuthArray message)) ≠ []) :
    v.parseIssuerAuth (v.issuerAuthBytes message) = .ok message := by
  unfold parseIssuerAuth issuerAuthBytes bytesItem
  simp only [List.flatten_singleton]
  rw [unmarshalSign1_marshal]
  exact bind_eq_ok_iff.mpr ⟨(), require_eq_ok_iff.mpr written, rfl⟩

variable (mso : MobileSecurityObject)

def validateMSO (expectedDocType : String) : Except String Unit := do
  require (mso.version = "1.0") ("unsupported MSO version: " ++ mso.version)
  require (mso.docType = expectedDocType)
    ("MSO docType mismatch: got " ++ mso.docType ++ ", expected " ++ expectedDocType)
  require (mso.digestAlgorithm = "SHA-256" ∨ mso.digestAlgorithm = "SHA-512")
    ("unsupported digest algorithm: " ++ mso.digestAlgorithm)
  validateMSOValidity mso v.now

/-! ## VerifyDocument -/

/-- An element of a name space is verified. -/
def setElement (nameSpace : String) (item : IssuerSignedItem) (elements : Elements) : Elements :=
  put nameSpace (put item.elementIdentifier item.elementValue
    ((elements.lookup nameSpace).getD [])) elements

/-- One round of the loop over the items of a name space. -/
def documentItem (nameSpace : String)
    (result : DocumentVerificationResult Key) (entry : Item × Nat) :
    DocumentVerificationResult Key :=
  let place := nameSpace ++ " at index " ++ toString entry.2
  match verifyDigest v.schemes v.formats mso nameSpace entry.1 with
  | .error error => result.fail ("digest mismatch in " ++ place ++ ": " ++ error)
  | .ok () =>
    match entry.1 with
    | .tag _ tagContent =>
      match asBytes tagContent with
      | none => result.fail ("tag content in " ++ place ++ " is not a byte slice")
      | some content =>
        match v.formats.item.unmarshal content with
        | .error error => result.fail
            ("failed to decode IssuerSignedItem in " ++ nameSpace ++ ": " ++ error)
        | .ok item => { result with
            verifiedElements := setElement nameSpace item result.verifiedElements }
    | _ => result.fail ("item in " ++ place ++ " is not a CBOR Tag")

/-- One round of the loop over the name spaces. -/
def documentNameSpace (result : DocumentVerificationResult Key)
    (entry : String × List Item) : DocumentVerificationResult Key :=
  entry.2.zipIdx.foldl (v.documentItem mso entry.1)
    { result with verifiedElements := put entry.1 [] result.verifiedElements }

/-- `verifyDocumentWithContext` -/
def verifyDocument (doc : Document) : DocumentVerificationResult Key :=
  let result : DocumentVerificationResult Key := { docType := doc.docType }
  match v.parseIssuerAuth doc.issuerSigned.issuerAuth with
  | .error error => result.fail ("failed to parse issuer auth: " ++ error)
  | .ok issuerAuth =>
  match getCertificateChainFromSign1 v.formats.cbor v.parseCertificate issuerAuth with
  | .error error => result.fail ("failed to extract certificate chain: " ++ error)
  | .ok [] => result.fail "no certificates in issuer auth"
  | .ok (dsCert :: rest) =>
  let result := { result with issuerCertificate := some dsCert }
  match v.verifyCertificateChainWithContext (dsCert :: rest) doc.docType with
  | .error error => result.fail ("certificate chain verification failed: " ++ error)
  | .ok () =>
  match verifyMSO v.schemes v.formats issuerAuth dsCert with
  | .error error => result.fail ("MSO signature verification failed: " ++ error)
  | .ok mso =>
  let result := { result with mso := some mso }
  match v.validateMSO mso doc.docType with
  | .error error => result.fail ("MSO validation failed: " ++ error)
  | .ok () => doc.issuerSigned.nameSpaces.foldl (v.documentNameSpace mso) result

/-! ## VerifyIssuerSigned -/

/-- One round of the loop over the items of a name space. -/
def issuerSignedItem (nameSpace : String) (elements : Elements)
    (rawItem : Item) : Except String Elements := do
  (verifyDigest v.schemes v.formats mso nameSpace rawItem).mapError
    ("digest verification failed in namespace " ++ nameSpace ++ ": " ++ ·)
  match rawItem with
  | .tag _ tagContent =>
    let decodedItem ← (v.formats.item.unmarshal ((asBytes tagContent).getD [])).mapError
      ("failed to decode verified item: " ++ ·)
    return setElement nameSpace decodedItem elements
  | _ => .error "unexpected item type"

/-- One round of the loop over the name spaces. -/
def issuerSignedNameSpace (elements : Elements)
    (entry : String × List Item) : Except String Elements :=
  entry.2.foldlM (v.issuerSignedItem mso entry.1) (put entry.1 [] elements)

def verifyIssuerSigned (issuerSigned : IssuerSigned) (docType : String) :
    Except String (MobileSecurityObject × Elements) := do
  let issuerAuth ← (v.parseIssuerAuth issuerSigned.issuerAuth).mapError
    ("failed to parse issuer auth: " ++ ·)
  let certChain ← (getCertificateChainFromSign1 v.formats.cbor v.parseCertificate
    issuerAuth).mapError ("failed to extract certificate chain: " ++ ·)
  match certChain with
  | [] => .error "no certificates in issuer auth"
  | dsCert :: _ => do
    (v.verifyCertificateChain certChain).mapError
      ("certificate chain verification failed: " ++ ·)
    let mso ← (verifyMSO v.schemes v.formats issuerAuth dsCert).mapError
      ("MSO signature verification failed: " ++ ·)
    (v.validateMSO mso docType).mapError ("MSO validation failed: " ++ ·)
    let verifiedElements ← issuerSigned.nameSpaces.foldlM (v.issuerSignedNameSpace mso) []
    return (mso, verifiedElements)

end Verifier

end Vc.Iso18013
