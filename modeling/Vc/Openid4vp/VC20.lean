import Vc.Openid4vp.Validator

/-!
# W3C credentials

`VC20Handler.VerifyAndExtract`: a presentation is checked against the challenge
and the domain of the session before the credential in it is taken out, and the
credential against the proof of its issuer.

RDF canonicalisation, the cryptosuites, key resolution and JSON-LD expansion are
given by `VC20Library`.
-/

namespace Vc.Openid4vp

open Checks Sdjwtvc

/-- Key resolution, cryptosuites and JSON-LD. -/
structure VC20Library (Key : Type) where
  /-- `base64.StdEncoding.DecodeString` -/
  decodeStandard : String → Except String Bytes
  /-- `ResolveKey` -/
  resolveKey : String → Except String Key
  kind : Key → KeyKind
  /-- `VerifyProof` of a suite: the document, the key and the proof value -/
  verifyProof : Bytes → Key → String → Except String Unit
  /-- `SdSuite.Verify` -/
  verifySd : Bytes → Key → Except String Unit
  /-- `extractCredentialFromExpanded` -/
  compactFromExpanded : List Json → Except String Members
  /-- `expandedTypes`; no types where the expansion fails -/
  expandedTypes : Members → List String
  /-- `time.Parse` with RFC 3339, in seconds -/
  parseTime : String → Option Int

/-- The library that resolves and verifies nothing. -/
def VC20Library.refusing (Key : Type) : VC20Library Key where
  decodeStandard _ := .error "illegal base64 data at input byte 0"
  resolveKey _ := .error "key not found"
  kind _ := .other "unknown"
  verifyProof _ _ _ := .error "signature verification failed"
  verifySd _ _ := .error "signature verification failed"
  compactFromExpanded _ := .error "no credential"
  expandedTypes _ := []
  parseTime _ := none

/-- The default of `allowedSkew`, in seconds. -/
def vc20AllowedSkew : Int := 300

/-- `VC20Handler`, with its defaults. -/
structure VC20Handler where
  /-- the challenge and the domain of `WithVC20PresentationBinding` -/
  binding : Option (String × String)
  /-- the time of the check, in seconds -/
  now : Int
  /-- the issuers of `WithVC20TrustedIssuers`; none stands for all -/
  trustedIssuers : List String := []
  /-- the tolerance of `WithVC20AllowedSkew`, in seconds -/
  allowedSkew : Int := vc20AllowedSkew

structure VC20VerificationResult (Key : Type) where
  issuer : String
  issuerKey : Key
  typeIRIs : List String
  claims : Members
  credentialSubject : Option Members
  subject : String
  issuanceDate : Option Int
  expirationDate : Option Int
  holderBound : Bool
  holder : String
  deriving DecidableEq

/-- `credMap[name].(string)` -/
def Members.text (members : Members) (name : String) : String :=
  ((members.lookup name).bind Json.str?).getD ""

/-- The text begins like a JSON object or array. -/
def isJSONText (text : String) : Bool :=
  match text.toList.dropWhile (· ∈ whiteSpace) with
  | '\x7b' :: _ | '[' :: _ => true
  | _ => false

/-- An entry of an expanded document has a type. -/
def hasExpandedType (iri : String) : Json → Bool
  | .obj members =>
    match members.lookup "@type" with
    | some (.arr types) => .str iri ∈ types
    | _ => false
  | _ => false

def expandedContainsPresentation (expanded : List Json) : Bool :=
  expanded.any (hasExpandedType "https://www.w3.org/2018/credentials#VerifiablePresentation")

/-- The document names the type of presentations. -/
def isPresentation (document : Members) : Bool :=
  match document.lookup "type" with
  | some (.arr types) => .str "VerifiablePresentation" ∈ types
  | _ => false

def extractCredentialFromVP (presentation : Members) : Except String Members :=
  match presentation.lookup "verifiableCredential" with
  | none | some .null => .error "VP missing verifiableCredential"
  | some (.arr []) => .error "VP verifiableCredential array is empty"
  | some (.arr (.obj credential :: _)) => .ok credential
  | some (.arr _) => .error "VP verifiableCredential is not a valid credential object"
  | some (.obj credential) => .ok credential
  | some value => .error ("VP verifiableCredential has unexpected type: " ++ goType value)

def extractIssuer (credential : Members) : Except String String :=
  match credential.lookup "issuer" with
  | none | some .null => .error "credential missing issuer"
  | some (.str issuer) => .ok issuer
  | some (.obj members) =>
    match members.lookup "id" with
    | some (.str issuer) => .ok issuer
    | _ => .error "issuer object missing id"
  | some value => .error ("issuer has unexpected type: " ++ goType value)

/-- `extractProof`: of several proofs the first. -/
def extractProof (document : Members) : Except String Members :=
  match document.lookup "proof" with
  | none | some .null => .error "credential missing proof"
  | some (.arr []) => .error "credential proof array is empty"
  | some (.arr (.obj proof :: _)) => .ok proof
  | some (.obj proof) => .ok proof
  | some value => .error ("proof has unexpected type: " ++ goType value)

/-- The number of proofs, where they are an array. -/
def proofCount (document : Members) : Nat :=
  match document.lookup "proof" with
  | some (.arr proofs) => proofs.length
  | _ => 1

section Handler

variable {Key : Type} (codec : Codec) (library : VC20Library Key)

def decodeVPToken (vpToken : String) : Except String Bytes :=
  if isJSONText vpToken then .ok (bytes vpToken)
  else
    match codec.decodeString vpToken with
    | .ok decoded => .ok decoded
    | .error _ => wrap "failed to base64 decode VP token" (library.decodeStandard vpToken)

/-- The document of a token, in compact form. -/
def parseDocument (text : Bytes) : Except String Members :=
  match codec.unmarshalObject text with
  | .ok members => .ok members
  | .error _ => do
    let expanded ← wrap "failed to parse credential JSON" (codec.unmarshalArray text)
    require (expandedContainsPresentation expanded = false)
      "expanded-form presentations are not supported; send the compacted form"
    wrap "failed to extract credential from expanded JSON-LD"
      (library.compactFromExpanded expanded)

def checkPresentationBinding (challenge domain : String) (proof : Members) :
    Except String Unit := do
  require (challenge ≠ "")
    "holder binding was required but this session has no nonce to bind to"
  require (Members.text proof "challenge" ≠ "") "presentation proof carries no challenge"
  require (Members.text proof "challenge" = challenge)
    "presentation proof challenge does not match this session's nonce"
  require (domain ≠ "")
    "holder binding was required but this session has no verifier identity to bind to"
  require (Members.text proof "domain" = domain)
    "presentation proof domain does not name this verifier"

/-- The suites that a presentation can be signed with, and their keys. -/
def checkPresentationSuite (cryptosuite : String) (kind : KeyKind) : Except String Unit :=
  if cryptosuite = "eddsa-rdfc-2022" then
    require (kind = .ed25519) ("holder key for " ++ cryptosuite ++ " is not ed25519.PublicKey")
  else if cryptosuite = "ecdsa-rdfc-2019" then
    require (kind = .ecdsa) ("holder key for " ++ cryptosuite ++ " is not *ecdsa.PublicKey")
  else .error ("unsupported cryptosuite " ++ cryptosuite.quote ++ " for a presentation proof")

def verifyPresentationProof (challenge domain : String) (text : Bytes) (presentation : Members) :
    Except String Unit := do
  let proof ← wrap "presentation carries no usable proof" (extractProof presentation)
  require (Members.text proof "proofPurpose" = "authentication")
    ("presentation proof purpose is " ++ (Members.text proof "proofPurpose").quote ++
      ", want \"authentication\"")
  checkPresentationBinding challenge domain proof
  require (Members.text proof "verificationMethod" ≠ "")
    "presentation proof has no verificationMethod"
  let holderKey ← wrap "resolving holder key"
    (library.resolveKey (Members.text proof "verificationMethod"))
  require (Members.text proof "proofValue" ≠ "") "presentation proof has no proofValue"
  checkPresentationSuite (Members.text proof "cryptosuite") (library.kind holderKey)
  wrap "presentation signature verification failed"
    (library.verifyProof text holderKey (Members.text proof "proofValue"))

/-- The check of the issuer's proof with the suite that it names. -/
def verifyIssuerProof (text : Bytes) (credential proof : Members) (key : Key) :
    Except String Unit :=
  let cryptosuite := Members.text proof "cryptosuite"
  let verify (kind : KeyKind) (check : Except String Unit) : Except String Unit := do
    require (library.kind key = kind)
      ("cryptosuite " ++ cryptosuite ++ " requires another key")
    wrap "signature verification failed" check
  let selected : Except String Unit := do
    require (Members.text proof "proofValue" ≠ "")
      ("the selected proof carries no proofValue, so the proof whose key was resolved cannot be " ++
        "identified")
    library.verifyProof text key (Members.text proof "proofValue")
  if cryptosuite = "" then .error "proof missing cryptosuite"
  else if cryptosuite = "ecdsa-rdfc-2019" then verify .ecdsa selected
  else if cryptosuite = "ecdsa-sd-2023" then
    verify .ecdsa do
      require (proofCount credential ≤ 1)
        ("the credential carries several proofs and " ++ cryptosuite ++
          " cannot say which one a key was resolved for")
      library.verifySd text key
  else if cryptosuite = "eddsa-rdfc-2022" then verify .ed25519 selected
  else .error ("unsupported cryptosuite: " ++ cryptosuite)

/-- The time of the first member that is a text, if it can be read. -/
def memberTime (credential : Members) (name older : String) : Option Int :=
  match credential.lookup name, credential.lookup older with
  | some (.str text), _ => library.parseTime text
  | _, some (.str text) => library.parseTime text
  | _, _ => none

def issuanceDate (credential : Members) : Option Int :=
  memberTime library credential "validFrom" "issuanceDate"

def expirationDate (credential : Members) : Option Int :=
  memberTime library credential "validUntil" "expirationDate"

def credentialSubject (credential : Members) : Option Members :=
  match credential.lookup "credentialSubject" with
  | some (.obj subject) => some subject
  | _ => none

/-- `Subject` -/
def credentialSubjectID (credential : Members) : String :=
  ((credentialSubject credential).map fun subject => Members.text subject "id").getD ""

variable (handler : VC20Handler)

/-- The validity window that `buildResult` checks. -/
def VC20Handler.checkValidity (credential : Members) :
    Except String Unit := do
  require ((issuanceDate library credential).all (· ≤ handler.now + handler.allowedSkew))
    "credential not yet valid"
  require ((expirationDate library credential).all (handler.now - handler.allowedSkew ≤ ·))
    "credential has expired"

/-- The check of a presentation against the session, where that is required. -/
def VC20Handler.checkBinding (text : Bytes) (presentation : Members) : Except String Unit :=
  match handler.binding with
  | none => .ok ()
  | some (challenge, domain) =>
    wrap "presentation is not bound to this session"
      (verifyPresentationProof library challenge domain text presentation)

/-- The credential of a document and its text, once the presentation is bound to the session where
that is required. -/
def VC20Handler.boundCredential (text : Bytes) (document : Members) :
    Except String (Bytes × Members) :=
  if isPresentation document then do
    handler.checkBinding library text document
    let credential ← wrap "failed to extract credential from VP"
      (extractCredentialFromVP document)
    return (codec.marshal (.obj credential), credential)
  else if handler.binding.isSome then
    .error "holder binding is required but the token is a bare credential, not a presentation"
  else .ok (text, document)

/-- The holder that a bound presentation names. -/
def VC20Handler.holder (document : Members) : String :=
  if isPresentation document && handler.binding.isSome then Members.text document "holder" else ""

/-- The verification of a credential by the proof of its issuer. -/
def VC20Handler.verifyCredential (holder : String) (text : Bytes)
    (credential : Members) : Except String (VC20VerificationResult Key) := do
  let issuer ← extractIssuer credential
  require (handler.trustedIssuers = [] ∨ issuer ∈ handler.trustedIssuers)
    ("issuer " ++ issuer ++ " is not trusted")
  let proof ← extractProof credential
  require (Members.text proof "verificationMethod" ≠ "") "proof missing verificationMethod"
  let issuerKey ← wrap "failed to resolve public key"
    (library.resolveKey (Members.text proof "verificationMethod"))
  verifyIssuerProof library text credential proof issuerKey
  handler.checkValidity library credential
  return {
    issuer
    issuerKey
    typeIRIs := library.expandedTypes credential
    claims := credential
    credentialSubject := credentialSubject credential
    subject := credentialSubjectID credential
    issuanceDate := issuanceDate library credential
    expirationDate := expirationDate library credential
    holderBound := handler.binding.isSome
    holder
  }

def VC20Handler.verifyAndExtract (vpToken : String) :
    Except String (VC20VerificationResult Key) := do
  require (vpToken ≠ "") "VP token is empty"
  let text ← wrap "failed to decode VP token" (decodeVPToken codec library vpToken)
  let document ← parseDocument codec library text
  let credential ← handler.boundCredential codec library text document
  handler.verifyCredential library (handler.holder document) credential.1 credential.2

variable {codec library}

/-- The claims and the types of a result are those of the credential. -/
theorem VC20Handler.verifyCredential_eq_ok {handler : VC20Handler} {holder : String} {text : Bytes}
    {credential : Members} {result : VC20VerificationResult Key}
    (verified : handler.verifyCredential library holder text credential = .ok result) :
    result.claims = credential ∧ result.typeIRIs = library.expandedTypes credential := by
  simp only [VC20Handler.verifyCredential, bind_eq_ok_iff] at verified
  obtain ⟨_, _, _, _, _, _, _, _, _, _, _, _, _, _, same⟩ := verified
  cases same
  exact ⟨rfl, rfl⟩

end Handler

end Vc.Openid4vp
