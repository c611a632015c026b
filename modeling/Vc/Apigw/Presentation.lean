import Vc.Apigw.Token

/-!
# Presentations during issuance

The handlers of the API gateway that authenticate an issuance by a presented
credential: `VerificationRequestObject` and `VerificationDirectPost` for the
browser, and `authorizationChallengeIntermediate` for an interactive
authorization.  They read the session, work on it, and write it back.

Cryptographic verification, trust and the mapping of claims stand in
`PresentationService`.
-/

namespace Vc.Apigw

open Cache Concurrent

/-- The claims of a credential. -/
abbrev Claims := List (String × Json)

/-- `VPResponse`: presentation tokens by credential query, and the state. -/
structure VPResponse where
  vpToken : List (String × List String)
  state : String := ""

/-- The identifier of a credential query, empty if it has none. -/
def credentialQueryID (query : Json) : String :=
  match query with
  | .obj members =>
    match members.lookup "id" with
    | some (.str id) => id
    | _ => ""
  | _ => ""

/-- The identifiers of the credential queries of a DCQL query. -/
def credentialQueryIDs (query : DCQL) : List String :=
  match query.json with
  | .obj members =>
    match members.lookup "credentials" with
    | some (.arr queries) => queries.map credentialQueryID
    | _ => []
  | _ => []

/-- The configuration of presentations and the components they need. -/
structure PresentationService where
  /-- Whether `GetCredentialMetadata` knows a scope. -/
  hasCredentialMetadata : String → Bool
  /-- `GetOpenID4VPAuth` and `buildIssuanceAuthDCQL` for a scope. -/
  issuanceAuthDCQL : String → Except HandlerError DCQL
  /-- `buildIssuanceAuthRequestObject` and its signature. -/
  signedRequestObject : AuthorizationContext → DCQL → Except HandlerError String
  /-- Verification of a presentation token: format, issuer trust, holder binding
  to the audience, credential type and identity rule.  The result is the claims
  of the credential. -/
  verifyPresentation : AuthorizationContext → (audience scope authScope vpToken : String) →
    Except HandlerError Claims
  /-- Whether the claims of a presentation are the source of the scope's document. -/
  isPresentationScope : String → Bool
  /-- `verifiedClaims` and `documentObject` for an accepted credential. -/
  storableClaims : (scope presentedScope : String) → Claims → Except HandlerError Claims
  /-- Derivations and defaults of the preview document. -/
  previewDocument : (scope presentedScope : String) → Claims → Except HandlerError Unit
  /-- Identity extraction and `ResolveIdentifier`. -/
  resolveIdentifier : (scope authScope authenticSource : String) → Claims →
    Except HandlerError String
  /-- Lookup and publication of the documents of an identity. -/
  publishDocuments : (scope authScope identifier : String) → Claims → Except HandlerError Unit

namespace PresentationService

variable (service : PresentationService)

def matchScope (scopes : List String) : Option String :=
  scopes.find? service.hasCredentialMetadata

/-! ## The request object -/

variable (authCtx : AuthorizationContext)

/-- The session with its DCQL query. -/
def withQuery (query : DCQL) : AuthorizationContext :=
  { authCtx with dcqlQuery := some query }

def verificationRequestObject (id : String) : Handler String :=
  .call (.store (.get { verifierResponseCode := id })) fun
    | .error error => .done (.error (.store error))
    | .ok authCtx =>
      match service.matchScope authCtx.scopes with
      | none => .done (.error (.failure "no matching credential constructor for scopes"))
      | some scope =>
        match service.issuanceAuthDCQL scope with
        | .error error => .done (.error error)
        | .ok query =>
          .call (.store (.update (withQuery authCtx query))) fun
            | .error _ =>
              .done (.error (.failure "failed to update authorization context"))
            | .ok _ =>
              .done (service.signedRequestObject (withQuery authCtx query) query)

/-! ## Consuming a presentation -/

/-- The session with the claims that were presented. -/
def withClaims (verifiedClaims : Claims) (presentedScope : String) : AuthorizationContext :=
  { authCtx with verifiedClaims, presentedScope }

def finalisePresentationVerification
    (scope presentedScope : String) (presented : Claims) : Handler Unit :=
  match service.storableClaims scope presentedScope presented with
  | .error error => .done (.error error)
  | .ok storable =>
    .call (.store (.update (withClaims authCtx storable presentedScope))) fun
      | .error _ => .done (.error (.serverFault "failed to persist verified claims"))
      | .ok _ => .done (service.previewDocument scope presentedScope storable)

/-- The end of a presentation that identifies the holder. -/
def persistIdentifier (scope authScope : String) (presented : Claims) : Handler Unit :=
  match service.resolveIdentifier scope authScope authCtx.authenticSource presented with
  | .error error => .done (.error error)
  | .ok identifier =>
    .call (.store (.setIdentifier { sessionID := authCtx.sessionID } identifier)) fun
      | .error _ => .done (.error (.serverFault "failed to persist identifier"))
      | .ok _ => .done (service.publishDocuments scope authScope identifier presented)

/-- The credential query that the response answers, with the first of its tokens. -/
def selectToken (query : Option DCQL) (response : VPResponse) : Option (String × String) :=
  (query.map credentialQueryIDs).getD [] |>.findSome? fun id =>
    match response.vpToken.lookup id with
    | some (token :: _) => some (id, token)
    | _ => none

/-- The checks of `consumeIssuanceAuthPresentation` on a response: the scope to be
issued, the credential query that was answered, and the presented claims.  The state
of the response is compared where one is expected. -/
def examinePresentation (response : VPResponse)
    (audience expectedState : String) : Except HandlerError (String × String × Claims) :=
  match service.matchScope authCtx.scopes with
  | none => .error (.serverFault "no matching credential constructor for scopes")
  | some scope =>
    if (authCtx.dcqlQuery.map credentialQueryIDs).getD [] = [] then
      .error (.serverFault "DCQL query has no credential queries")
    else
      match selectToken authCtx.dcqlQuery response with
      | none => .error (.failure "VP Token not found for any configured credential query")
      | some (authScope, vpToken) =>
        if vpToken = "" then
          .error (.failure "VP Token not found for any configured credential query")
        else if expectedState ≠ "" ∧ response.state ≠ expectedState then
          .error (.failure "presentation state does not match the request it answers")
        else
          (service.verifyPresentation authCtx audience scope authScope vpToken).map
            fun presented => (scope, authScope, presented)

def consumeIssuanceAuthPresentation (response : VPResponse)
    (audience expectedState : String) : Handler Unit :=
  match service.examinePresentation authCtx response audience expectedState with
  | .error error => .done (.error error)
  | .ok (scope, authScope, presented) =>
    if service.isPresentationScope scope ∧ authCtx.dataSource = "presentation" then
      service.finalisePresentationVerification authCtx scope authScope presented
    else service.persistIdentifier authCtx scope authScope presented

/-! ## The browser -/

/-- `VerificationDirectPost`, for a response that has been decrypted with the key
`kid`. -/
def verificationDirectPost (kid : String) (response : VPResponse) : Handler String :=
  .call (.store (.get { ephemeralEncryptionKeyID := kid })) fun
    | .error error => .done (.error (.store error))
    | .ok authCtx =>
      if authCtx.interactiveAuthorization ∨ authCtx.authSessionDPoPThumbprint ≠ "" then
        .done (.error (.failure
          "this authorization is answered at the authorization challenge endpoint, not here"))
      else
        (service.consumeIssuanceAuthPresentation authCtx response authCtx.clientID "").andThen
          fun _ => .done (.ok authCtx.verifierResponseCode)

end PresentationService

/-! ## Interactive authorization -/

/-- `AuthorizationChallengeRequest`, as far as a continuation reads it. -/
structure ChallengeRequest where
  authSession : String
  clientID : String := ""
  dpop : String := ""
  openID4VPResponse : String := ""

/-- A continuation together with the outcome of its proof, and clock readings:
seconds for the expiry of the session, an instant for that of the code. -/
structure ChallengeCall where
  request : ChallengeRequest
  dpopProof : Except OAuthError String := .ok ""
  now : Int := 0
  completedAt : Time := 0

/-- `time.Time.Unix`. -/
def unixSeconds (time : Time) : Int :=
  time / 1000000000 - 62135596800

/-- `codeDeadlineWithin`: five minutes, within the fifteen that a session is kept. -/
def codeDeadlineWithin (now createdAt : Time) : Int :=
  let deadline := now + 5 * 60 * 1000000000
  let retention := createdAt + 15 * 60 * 1000000000
  if createdAt ≠ 0 ∧ retention < deadline then unixSeconds retention else unixSeconds deadline

def invalidSession {α : Type} : Except HandlerError α :=
  oauthError .invalidSession "auth_session is invalid or has expired" 400

def authSessionStoreFailure {α : Type} : Except HandlerError α :=
  oauthError .serverError "interactive authorization could not be completed" 500

def interactiveAuthorizationFailure : HandlerError → HandlerError
  | .oauth error => .oauth error
  | .serverFault _ =>
    .oauth ⟨.serverError, "interactive authorization could not be completed", 500⟩
  | .store _ | .failure _ =>
    .oauth ⟨.invalidGrant, "the presentation did not satisfy the authorization request", 400⟩

/-- The components of the challenge endpoint. -/
structure ChallengeService where
  presentations : PresentationService
  /-- `PresentationAudience`. -/
  audience : Except HandlerError String
  /-- `decodeInteractiveAuthorizationResponse`. -/
  decodeResponse : AuthorizationContext → String → Except HandlerError VPResponse

namespace ChallengeService

variable (service : ChallengeService)

/-- The checks of a continuation on the session that its auth_session names. -/
def checkContinuation (call : ChallengeCall) (authCtx : AuthorizationContext) :
    Except HandlerError Unit :=
  if authCtx.expiresAt > 0 ∧ call.now > authCtx.expiresAt then invalidSession
  else if call.request.clientID ≠ "" ∧ call.request.clientID ≠ authCtx.walletClientID then
    oauthError .invalidRequest
      "client_id does not match the client this auth_session was issued to" 400
  else if call.request.dpop = "" then
    oauthError .invalidDPoPProof "DPoP header is required" 400
  else if authCtx.authSessionDPoPThumbprint = "" then invalidSession
  else
    match call.dpopProof with
    | .error error => .error (.oauth error)
    | .ok thumbprint =>
      if thumbprint ≠ authCtx.authSessionDPoPThumbprint then
        oauthError .invalidDPoPProof
          "DPoP key does not match the key this auth_session is bound to" 400
      else if call.request.openID4VPResponse = "" then
        oauthError .invalidRequest "openid4vp_response is required" 400
      else .ok ()

/-- The rest of a continuation that has claimed its session: consume the
presentation, start the lifetime of the code, and hand it out. -/
def completeExchange (call : ChallengeCall) (authCtx : AuthorizationContext) : Handler String :=
  match service.decodeResponse authCtx call.request.openID4VPResponse with
  | .error error => .done (.error error)
  | .ok response =>
    match service.audience with
    | .error error => .done (.error error)
    | .ok audience =>
      (service.presentations.consumeIssuanceAuthPresentation authCtx response audience
        authCtx.state).bind fun
      | .error error => .done (.error (interactiveAuthorizationFailure error))
      | .ok _ =>
        .call (.store (.extendExpiry { sessionID := authCtx.sessionID }
            (codeDeadlineWithin call.completedAt authCtx.createdAt))) fun
          | .error _ => .done authSessionStoreFailure
          | .ok _ => .done (.ok authCtx.code)

def authorizationChallengeIntermediate (call : ChallengeCall) : Handler String :=
  .call (.store (.get { authSession := call.request.authSession })) fun
    | .error .noDocuments => .done invalidSession
    | .error _ => .done authSessionStoreFailure
    | .ok authCtx =>
      match checkContinuation call authCtx with
      | .error error => .done (.error error)
      | .ok _ =>
        .call (.store (.claimAuthSession call.request.authSession)) fun
          | .error .noDocuments => .done invalidSession
          | .error _ => .done authSessionStoreFailure
          | .ok claimed => service.completeExchange call claimed

end ChallengeService

end Vc.Apigw
