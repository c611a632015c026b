import Vc.Cache.Context
import Vc.Concurrent.Pool
import Vc.Openid4vci.Proofs

/-!
# The credential endpoint

`VCICredential` for a request that is authorised by a session: the scope and the document are
selected, the keys are read from the proofs, the proofs are verified against a nonce that is
consumed afterwards, and one credential is made for each key.  The calls of the nonce cache can
interleave with those of other requests; replies of the registry are given in their order.
-/

namespace Vc.Apigw.Issuance

open Cache Checks Concurrent Openid4vci ProofJWTToken

/-! ## Requests -/

/-- An entry of `authorization_details`. -/
structure AuthorizationDetails where
  credentialConfigurationID : String := ""
  format : String := ""
  credentialIdentifiers : List String := []

structure CredentialRequest where
  credentialIdentifier : String := ""
  credentialConfigurationID : String := ""
  proofs : Option Proofs := none
  proof : Option Proof := none
  responseEncryption : Bool := false

/-- A document, with the scope that it was loaded for. -/
structure CompleteDocument where
  loadedFor : String
  documentData : Option Members
  deriving DecidableEq

/-- The session of a request: its context, the authorization details of its token response and
the documents that are cached for it, in the order in which the map is iterated. -/
structure Session where
  authContext : AuthorizationContext
  authorizationDetails : List AuthorizationDetails := []
  documents : List (String × CompleteDocument) := []

structure StatusEntry where
  sectionID : Int
  index : Int
  uri : String
  deriving DecidableEq

/-- What `SaveCredentialSubject` stores. -/
structure SubjectRecord where
  identifier : String
  sectionID : Int
  index : Int
  deriving DecidableEq

/-- The replies of the registry to the calls of a request. -/
structure Registry where
  addStatus : Nat → Except Error StatusEntry
  saveCredentialSubject : SubjectRecord → Except Error Unit

/-- The formats of one branch of the dispatch. -/
inductive Family where
  | mdoc
  | sdJWT
  | w3c
  | jwp
  deriving DecidableEq

/-- A credential: what is signed in it, what it was made from and the entry that was allocated
for it. -/
structure IssuedCredential where
  family : Family
  scope : String
  document : CompleteDocument
  /-- the `cnf` JWK of an SD-JWT, or the JWK whose COSE form is the device key -/
  holderKey : Option Jwk := none
  /-- the `id` of the credential subject -/
  subject : Option String := none
  /-- the URI and the index of the status reference -/
  status : Option (String × Int) := none
  allocated : Option StatusEntry := none
  deriving DecidableEq

structure Issued where
  credentials : List IssuedCredential
  records : List SubjectRecord
  deriving DecidableEq

/-! ## The service -/

/-- The configuration.  The issuer metadata is generated from it: a configuration for each scope,
with the format and the proof types that are configured. -/
structure Service (Key : Type) where
  /-- the format of `GetCredentialMetadata` -/
  credentialMetadata : String → Option String
  proofTypesSupported : List ProofType
  implemented : ∀ type ∈ proofTypesSupported, type = .jwt ∨ type = .attestation
  batchSize : Nat := 0
  credentialIssuer : String
  issuer_ne_empty : credentialIssuer ≠ ""
  /-- the scopes whose data source is a presentation -/
  presentationScopes : List String := []
  keys : KeyLibrary Key
  now : Int
  validateBBS : CredentialRequest → Except Error Unit
  buildPresentationDocument : String → AuthorizationContext → Except Error Members
  /-- the derivations of the scope and the auxiliary data -/
  derive : String → AuthorizationContext → CredentialRequest → CompleteDocument →
    Except Error Members
  /-- the checks of the issuer, and its signature -/
  sign : IssuedCredential → Except Error Unit
  issueBBS : String → Members → String → Except Error (List SubjectRecord)

variable {Key : Type} (service : Service Key)

namespace Service

/-! ## Scope and document -/

def validate (req : CredentialRequest) (details : List AuthorizationDetails) :
    Except Error Unit := do
  require (req.proofs.all fun proofs => proofs.typeCount = 1) .invalidCredentialRequest
  service.validateBBS req
  require ((req.credentialIdentifier = "") ≠ (req.credentialConfigurationID = ""))
    .invalidCredentialRequest
  if req.credentialIdentifier ≠ "" then
    require (∃ detail ∈ details, req.credentialIdentifier ∈ detail.credentialIdentifiers)
      .unknownCredentialIdentifier
  else
    require (details = []) .invalidCredentialRequest

/-- `resolveCredentialSelection`: the configuration and the format. -/
def resolveCredentialSelection (req : CredentialRequest) (details : List AuthorizationDetails) :
    Except Error (String × String) :=
  let configured (id : String) (error : Error) : Except Error (String × String) :=
    ((service.credentialMetadata id).map fun format => .ok (id, format)).getD (.error error)
  if req.credentialConfigurationID ≠ "" then
    configured req.credentialConfigurationID .unknownCredentialConfiguration
  else
    match details.find? fun detail => req.credentialIdentifier ∈ detail.credentialIdentifiers with
    | none => .error .unknownCredentialIdentifier
    | some detail =>
      if detail.credentialConfigurationID = "" ∧ detail.format ≠ "" then .ok ("", detail.format)
      else configured detail.credentialConfigurationID .invalidCredentialRequest

end Service

/-- The branch of the dispatch that a format takes. -/
def family : String → Option Family
  | "mso_mdoc" => some .mdoc
  | "vc+sd-jwt" | "dc+sd-jwt" => some .sdJWT
  | "ldp_vc" | "vc+ld+json" => some .w3c
  | "jwp" => some .jwp
  | _ => none

def sameCredentialFormat (first second : String) : Bool :=
  first ≠ "" && second ≠ "" &&
    (first = second || (family first).isSome && family first = family second)

namespace Service

/-- `selectScope`: the scope, the configuration that is named and the format. -/
def selectScope (req : CredentialRequest) (session : Session) :
    Except Error (String × String × String) := do
  let some scope := session.authContext.scopes.find? fun scope =>
    (service.credentialMetadata scope).isSome | .error .internal
  let (configurationID, format) ←
    service.resolveCredentialSelection req session.authorizationDetails
  if configurationID = "" then
    match session.authContext.scopes.filter fun authorized =>
      (service.credentialMetadata authorized).any (sameCredentialFormat · format) with
    | [matching] => return (matching, "", format)
    | _ => .error .invalidCredentialRequest
  else if configurationID = scope then return (scope, configurationID, format)
  else do
    require (configurationID ∈ session.authContext.scopes) .invalidCredentialRequest
    require ((service.credentialMetadata configurationID).isSome) .invalidCredentialRequest
    return (configurationID, configurationID, format)

/-- The document of the scope: from the presentation, or the one that comes first in the cached
map. -/
def document (session : Session) (scope : String) : Except Error CompleteDocument :=
  if scope ∈ service.presentationScopes ∧ session.authContext.dataSource = "presentation" then do
    let data ← service.buildPresentationDocument scope session.authContext
    return { loadedFor := scope, documentData := some data }
  else do
    require (session.authContext.authProvider ∈ ["openid4vp", "saml", "oidc", "datastore"])
      .internal
    let some (_, document) := session.documents.head? | .error .internal
    require (document.documentData.isSome) .internal
    return document

/-! ## Proofs -/

/-- The keys of the proofs, one for each credential. -/
def extractJWKs (req : CredentialRequest) : Except Error (List Jwk) :=
  match req.proof, req.proofs with
  | some proof, _ =>
    if proof.proofType = .jwt then do
      return [← (extractJWK proof.jwt).mapError fun _ => .invalidProof]
    else .error .invalidProof
  | none, some proofs => proofs.extractAllJWKs (max 1 service.batchSize)
  | none, none => .error .invalidProof

end Service

def CredentialRequest.proofType (req : CredentialRequest) : ProofType :=
  match req.proof, req.proofs with
  | some proof, _ => proof.proofType
  | none, some proofs => proofs.proofType
  | none, none => .other ""

def CredentialRequest.proofNonce (req : CredentialRequest) : String :=
  match req.proof.filter (·.proofType = .jwt), req.proofs with
  | some proof, _ => extractNonce proof.jwt
  | none, some { jwt := first :: _, .. } => extractNonce first
  | none, some { jwt := [], attestation := first :: _, .. } => ProofAttestation.extractNonce first
  | none, _ => ""

namespace Service

/-- A JWT proof is verified with the key that was read from it. -/
def verifyJWT (nonce : String) (proof : JWT × Jwk) : Except Error Unit := do
  let key ← (service.keys.publicKey proof.2).mapError fun _ => .invalidProof
  verify service.keys service.now key nonce service.credentialIssuer proof.1

def verifyProofs (req : CredentialRequest) (jwks : List Jwk) (nonce : String) : Except Error Unit :=
  match req.proof, req.proofs with
  | some proof, _ => ([proof.jwt].zip jwks).forM (service.verifyJWT nonce)
  | none, some proofs =>
    if proofs.proofType = .jwt then do
      require (proofs.jwt.length = jwks.length) .invalidProof
      (proofs.jwt.zip jwks).forM (service.verifyJWT nonce)
    else proofs.verify service.keys nonce service.credentialIssuer
  | none, none => .ok ()

/-! ## Issuance -/

/-- `MakeSDJWT`: the entry that is allocated is signed into the credential. -/
def makeSDJWT (registry : Registry) (scope : String) (document : CompleteDocument)
    (jwk : Jwk × Nat) : Except Error IssuedCredential := do
  let entry ← registry.addStatus jwk.2
  let credential := { family := .sdJWT, scope, document, holderKey := some jwk.1,
                      status := if entry.uri ≠ "" then some (entry.uri, entry.index) else none,
                      allocated := some entry }
  service.sign credential
  return credential

/-- `MakeMDoc`: an entry is allocated, and not part of what is signed. -/
def makeMDoc (registry : Registry) (scope : String) (document : CompleteDocument)
    (jwk : Jwk × Nat) : Except Error IssuedCredential := do
  let _ ← service.keys.coseKey jwk.1
  let credential := { family := .mdoc, scope, document, holderKey := some jwk.1,
                      allocated := (registry.addStatus jwk.2).toOption }
  service.sign credential
  return credential

/-- `MakeVC20`, likewise.  The subject is the given DID, or what the document says. -/
def makeVC20 (registry : Registry) (scope : String) (document : CompleteDocument)
    (did : String × Nat) : Except Error IssuedCredential := do
  let own := match (document.documentData.getD []).lookup "id" with
    | some (.str id) => some id
    | _ => none
  let credential := { family := .w3c, scope, document,
                      subject := if did.1 ≠ "" then some did.1 else own,
                      allocated := (registry.addStatus did.2).toOption }
  service.sign credential
  return credential

end Service

/-- The entry of a reply; no entry is section and index zero. -/
def IssuedCredential.record (identifier : String) (credential : IssuedCredential) : SubjectRecord :=
  match credential.allocated with
  | some entry => ⟨identifier, entry.sectionID, entry.index⟩
  | none => ⟨identifier, 0, 0⟩

def saveCredentialSubjects (registry : Registry) (identifier : String)
    (credentials : List IssuedCredential) : Except Error (List SubjectRecord) :=
  if identifier = "" then .ok []
  else
    ((credentials.map (·.record identifier)).filter (0 < ·.sectionID)).mapM fun record => do
      registry.saveCredentialSubject record
      return record

/-- The subject identifiers of a W3C credential: the `iss` claims of the JWT proofs. -/
def CredentialRequest.subjectDIDs (req : CredentialRequest) : List String :=
  match req.proof, req.proofs with
  | some proof, _ => [extractSubjectDID proof.jwt]
  | none, some proofs => proofs.jwt.map extractSubjectDID
  | none, none => []

namespace Service

/-- The dispatch on the format. -/
def issue (registry : Registry) (req : CredentialRequest) (scope format : String)
    (document : CompleteDocument) (jwks : List Jwk) (identifier : String) :
    Except Error Issued := do
  let made ← match family format with
    | some .mdoc => jwks.zipIdx.mapM (service.makeMDoc registry scope document)
    | some .sdJWT => jwks.zipIdx.mapM (service.makeSDJWT registry scope document)
    | some .w3c => do
      -- JWT proofs only
      require (req.proofType = .jwt ∧ req.proofs.all (·.jwt ≠ [])) .internal
      req.subjectDIDs.zipIdx.mapM (service.makeVC20 registry scope document)
    | some .jwp => .ok [{ family := .jwp, scope, document }]
    | none => .error .internal
  require (made ≠ []) .internal
  if family format = some .jwp then
    return ⟨made, ← service.issueBBS scope (document.documentData.getD []) identifier⟩
  return ⟨made, ← saveCredentialSubjects registry identifier made⟩

def requireIdentifier (authContext : AuthorizationContext) : Except Error String := do
  require (authContext.identifier ≠ "" ∨
    authContext.dataSource ∈ ["assertion", "datastore", "presentation"]) .internal
  return authContext.identifier

/-- What follows the consumption of the nonce. -/
def complete (registry : Registry) (session : Session) (req : CredentialRequest)
    (scope format : String) (document : CompleteDocument) (jwks : List Jwk) :
    Except Error Issued := do
  let identifier ← requireIdentifier session.authContext
  let data ← service.derive scope session.authContext req document
  service.issue registry req scope format { document with documentData := some data } jwks
    identifier

/-- What precedes the look-up of the nonce: the scope, the format, the document and the keys. -/
def prepare (session : Session) (req : CredentialRequest) :
    Except Error (String × String × CompleteDocument × List Jwk) := do
  service.validate req session.authorizationDetails
  let (scope, _, format) ← service.selectScope req session
  let document ← service.document session scope
  let jwks ← service.extractJWKs req
  require (req.proofType ∈ service.proofTypesSupported) .invalidProof
  return (scope, format, document, jwks)

end Service

/-! ## Nonces -/

/-- The calls that concern nonces: those of the cache, and the redemption of a code, which
answers with the nonce of its session the first time. -/
inductive NonceCall where
  | get (nonce : String)
  | getAndDelete (nonce : String)
  | set (nonce : String)
  | forfeitAuthorizationCode (code : String)

/-- What these calls answer with. -/
abbrev NonceCall.Result : NonceCall → Type
  | .get _ | .getAndDelete _ => Bool
  | .set _ => Unit
  | .forfeitAuthorizationCode _ => Option String

abbrev nonceInterface : Interface where
  Call := NonceCall
  Answer := NonceCall.Result

/-- Look the nonce up, unless it is empty. -/
def lookupNonce {α : Type} (nonce : String) (next : Bool → Process nonceInterface α) :
    Process nonceInterface α :=
  if nonce = "" then next false else .call (.get nonce) next

/-- The request with an expected nonce: verify, consume, issue. -/
def Service.proceed (registry : Registry) (session : Session) (req : CredentialRequest)
    (prepared : String × String × CompleteDocument × List Jwk) (nonce : String) :
    Process nonceInterface (Except Error Issued) :=
  match service.verifyProofs req prepared.2.2.2 nonce with
  | .error error => .done (.error error)
  | .ok () => .call (.getAndDelete nonce) fun
      | false => .done (.error .invalidNonce)
      | true => .done (service.complete registry session req prepared.1 prepared.2.1
          prepared.2.2.1 prepared.2.2.2)

/-- `VCICredential`, after the access token and its DPoP proof. -/
def Service.vciCredential (registry : Registry) (session : Session) (req : CredentialRequest) :
    Process nonceInterface (Except Error Issued) :=
  match service.prepare session req with
  | .error error => .done (.error error)
  | .ok prepared =>
    lookupNonce req.proofNonce fun
      | true => service.proceed registry session req prepared req.proofNonce
      | false => lookupNonce session.authContext.nonce fun
          | true => service.proceed registry session req prepared session.authContext.nonce
          | false => .done (.error .invalidNonce)

end Vc.Apigw.Issuance
