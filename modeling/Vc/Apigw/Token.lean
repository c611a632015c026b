import Vc.Cache.Contract
import Vc.OAuth2.Parameters

/-!
# The token endpoint of the API gateway

`OAuthToken` for the two grants that redeem a code.  The handler identifies the
client, checks the request against the session of the code without consuming it,
consumes the code, and stores the tokens it answers with: on the session itself,
or for a pre-authorized code on a session of its own.

The comparison of a transaction code is a call of the interface beside the calls
of the store, since it falls between two of them.  Signatures, proofs of
possession and random values are given with the request; the caches of nonces
and of used proof identifiers are left out.
-/

namespace Vc.Apigw

open Cache Concurrent OAuth2

/-! ## Errors -/

/-- The error codes of the token and challenge endpoints. -/
inductive ErrorCode where
  | invalidRequest
  | invalidClient
  | invalidGrant
  | invalidScope
  | invalidDPoPProof
  | invalidTXCode
  | invalidSession
  | serverError
  | unsupportedGrantType
  deriving DecidableEq

structure OAuthError where
  errorCode : ErrorCode
  errorDescription : String
  httpStatus : Nat
  deriving DecidableEq

/-- What a handler fails with; `serverFault` is an error that is marked as the
server's own. -/
inductive HandlerError where
  | oauth (error : OAuthError)
  | store (error : StoreError)
  | serverFault (text : String)
  | failure (text : String)
  deriving DecidableEq

/-- `NewOAuthError`, and `NewOAuthErrorWithCause` without its cause. -/
def oauthError {α : Type} (errorCode : ErrorCode) (errorDescription : String) (httpStatus : Nat) :
    Except HandlerError α :=
  .error (.oauth ⟨errorCode, errorDescription, httpStatus⟩)

/-- The reply to a code that does not exist and to one that is spent. -/
def invalidCode {α : Type} : Except HandlerError α :=
  oauthError .invalidGrant "Authorization code is invalid or has already been used" 400

/-! ## Handlers -/

/-- What a handler asks for while others can interleave: a call of the store, or
the comparison of a transaction code with the one presented. -/
inductive GatewayCall where
  | store (call : StoreCall)
  | compareTXCode (expected presented : String)

/-- What these calls answer with. -/
abbrev GatewayCall.Result : GatewayCall → Type
  | .store call => Except StoreError call.Result
  | .compareTXCode _ _ => Bool

/-- The store and the comparison as a shared component. -/
abbrev gatewayInterface : Interface where
  Call := GatewayCall
  Answer := GatewayCall.Result

/-- These calls over a store, each of them atomic. -/
def gatewayOver {σ : Type} (store : ContractStore σ) : Executor gatewayInterface σ
  | .store call, state => store.execute call state
  | .compareTXCode expected presented, state => (expected = presented, state)

/-- A handler: a process that ends in an error or a result. -/
abbrev Handler (α : Type) := Process gatewayInterface (Except HandlerError α)

/-! ## Requests -/

/-- The grants that redeem a code. -/
inductive GrantType where
  | authorizationCode
  | preAuthorizedCode
  deriving DecidableEq

structure TokenRequest where
  dpop : String := ""
  grantType : GrantType
  code : String := ""
  redirectURI : String := ""
  clientID : String := ""
  codeVerifier : String := ""
  clientAssertionType : String := ""
  clientAssertion : String := ""
  clientAttestation : String := ""
  clientAttestationPoP : String := ""
  preAuthorizedCode : String := ""
  txCode : String := ""

structure TokenResponse where
  accessToken : String
  tokenType : String := "DPoP"
  expiresIn : Int := 3600
  scope : String
  state : String
  cNonce : String
  cNonceExpiresIn : Int := 3600
  authorizationDetails : List Json := []
  refreshToken : String := ""
  refreshTokenExpiresIn : Int := 0

/-- What the evaluation of a wallet attestation yields. -/
structure Attestation where
  subject : String
  issuer : String
  attestationSource : String

inductive ClientType where
  | confidential
  | publicClient
  deriving DecidableEq

/-- The configuration of the gateway and the components it calls. -/
structure Gateway where
  allowUnverifiedClientAssertion : Bool
  emitInvalidTXCodeError : Bool
  issuesRefreshTokens : Bool
  refreshTokenDuration : Int
  /-- `Clients.Get`. -/
  clients : String → Option ClientType
  /-- `ExtractClientIDFromAssertion`. -/
  extractClientID : String → Option String
  /-- `EvaluateWithPoP`, if an evaluator is configured. -/
  attestationEvaluator : Option (String → String → Option Attestation)
  /-- `Authorize` of the attestation policy: source, scope and issuer. -/
  authorizes : String → String → String → Bool
  /-- The base64url text of a SHA-256 sum. -/
  sha256 : String → String

/-- A gateway with one registered wallet. -/
def walletGateway : Gateway where
  allowUnverifiedClientAssertion := false
  emitInvalidTXCodeError := false
  issuesRefreshTokens := false
  refreshTokenDuration := 0
  clients clientID := if clientID = "wallet" then some .confidential else none
  extractClientID _ := none
  attestationEvaluator := none
  authorizes _ _ _ := false
  sha256 text := text

/-- A request together with what serving it draws from outside: the outcome of the
proofs it carries, random values, and clock readings in seconds. -/
structure TokenCall where
  request : TokenRequest
  assertionVerified : Bool := true
  /-- `dpopProofThumbprint` of the proof, if there is one. -/
  dpopProof : Except OAuthError String := .ok ""
  accessToken : String := ""
  refreshToken : String := ""
  credentialIdentifier : Nat → String := fun _ => ""
  childSessionID : String := ""
  childNonce : String := ""
  now : Int := 0
  tokenNow : Int := now
  refreshNow : Int := now
  /-- The creation time of the child session, and the time at which it is saved. -/
  childCreatedAt : Time := 0
  savedAt : Time := 0

namespace TokenCall

/-- The request is for a pre-authorized code. -/
def isPreAuthFlow (call : TokenCall) : Bool :=
  call.request.grantType = .preAuthorizedCode

/-- The code that the request presents. -/
def code (call : TokenCall) : String :=
  if call.isPreAuthFlow then call.request.preAuthorizedCode else call.request.code

end TokenCall

namespace Gateway

variable (gateway : Gateway)

/-! ## The client -/

variable (call : TokenCall)

/-- The client identifier that the request claims, by a client assertion or by
`client_id`. -/
def claimedClientID : Except HandlerError String :=
  if call.request.clientAssertion ≠ "" then
    if call.request.clientAssertionType = "" then
      oauthError .invalidRequest
        "client_assertion_type is required when client_assertion is provided" 400
    else if call.request.clientAssertionType ≠
        "urn:ietf:params:oauth:client-assertion-type:jwt-bearer" then
      oauthError .invalidRequest
        ("unsupported client_assertion_type " ++ call.request.clientAssertionType.quote ++
          "; expected urn:ietf:params:oauth:client-assertion-type:jwt-bearer") 400
    else
      match gateway.extractClientID call.request.clientAssertion with
      | none => oauthError .invalidClient "Invalid client assertion" 401
      | some sub =>
        if call.request.clientID ≠ "" ∧ call.request.clientID ≠ sub then
          oauthError .invalidClient "client_id does not match assertion subject" 401
        else if gateway.allowUnverifiedClientAssertion then .ok sub
        else
          match gateway.clients sub with
          | none =>
            -- the assertion may be a wallet attestation in the form body
            if gateway.attestationEvaluator.isSome then .ok sub
            else oauthError .invalidClient "Client authentication failed" 401
          | some _ =>
            if !call.assertionVerified then
              oauthError .invalidClient "Client assertion verification failed" 401
            else .ok sub
  else if call.request.clientAssertionType ≠ "" then
    oauthError .invalidRequest "client_assertion_type provided without client_assertion" 400
  else .ok call.request.clientID

/-- The wallet attestation of a client that is not configured.  It stands in headers
with a proof of possession, or in the form body without one. -/
def evaluateAttestation (clientID : String) : Except HandlerError Attestation :=
  if call.request.clientAttestation ≠ "" ∧ call.request.clientAttestationPoP = "" then
    oauthError .invalidClient
      "OAuth-Client-Attestation-PoP header required when OAuth-Client-Attestation is present" 401
  else
    let (attestation, popJWT) :=
      if call.request.clientAttestation = "" then (call.request.clientAssertion, "")
      else (call.request.clientAttestation, call.request.clientAttestationPoP)
    match gateway.attestationEvaluator with
    | none => oauthError .invalidClient "Client authentication failed" 401
    | some evaluate =>
      if attestation = "" then oauthError .invalidClient "Client authentication failed" 401
      else
        match evaluate attestation popJWT with
        | none => oauthError .invalidClient "Client authentication failed" 401
        | some result =>
          if result.subject ≠ "" ∧ result.subject ≠ clientID then
            oauthError .invalidClient
              "wallet attestation subject does not match client_id" 401
          else .ok result

/-- Authenticate a client by its wallet attestation.  The policy decides on the
scopes that are bound to the code. -/
def authenticateAttested (clientID : String) : Handler (Option ClientType) :=
  match gateway.evaluateAttestation call clientID with
  | .error error => .done (.error error)
  | .ok result =>
    .call (.store (.get { code := call.code })) fun
      | .error _ => .done invalidCode
      | .ok codeCtx =>
        if !gateway.authorizes result.attestationSource (" ".intercalate codeCtx.scopes)
            result.issuer then
          .done (oauthError .invalidScope "attestation tier not authorized for requested scope" 403)
        else .done (.ok (some .publicClient))

/-- The type of the client, if the request names one. -/
def authenticateClient (clientID : String) : Handler (Option ClientType) :=
  if clientID = "" then .done (.ok none)
  else
    match gateway.clients clientID with
    | some clientType => .done (.ok (some clientType))
    | none => gateway.authenticateAttested call clientID

/-- The key that the request proves possession of; only a pre-authorized code can
be redeemed without one. -/
def provenKey : Except HandlerError String :=
  if call.request.dpop ≠ "" then call.dpopProof.mapError .oauth
  else if !call.isPreAuthFlow then
    oauthError .invalidDPoPProof "DPoP header is required" 400
  else .ok ""

/-! ## Before the code is consumed -/

def lookupCodeBeforeConsuming (code : String) : Handler (Option AuthorizationContext) :=
  .call (.store (.get { code })) fun
    | .ok doc => .done (.ok (some doc))
    | .error .noDocuments => .done (.ok none)
    | .error _ =>
      .done (oauthError .serverError "failed to look up the authorization code" 500)

def checkInteractiveAuthorizationBinding (authCtx : AuthorizationContext)
    (dpopThumbprint : String) : Except HandlerError Unit :=
  if authCtx.authSessionDPoPThumbprint = "" then .ok ()
  else if authCtx.authSessionDPoPThumbprint = dpopThumbprint then .ok ()
  else
    oauthError .invalidGrant
      "authorization code must be redeemed with the key its authorization was obtained under" 400

variable (clientID dpopThumbprint : String)

/-- The checks of an authorization code request against the session of its code. -/
def checkCodeRequest (preCheck : AuthorizationContext) : Except HandlerError Unit :=
  if preCheck.preAuthorized then
    oauthError .invalidGrant
      "pre-authorized code cannot be used with authorization_code grant" 400
  else if preCheck.walletClientID ≠ "" ∧ clientID ≠ preCheck.walletClientID then
    oauthError .invalidGrant "client_id does not match the authorization request" 400
  else if preCheck.walletURI ≠ "" ∧ call.request.redirectURI ≠ preCheck.walletURI then
    oauthError .invalidGrant "redirect_uri does not match the authorization request" 400
  else checkInteractiveAuthorizationBinding preCheck dpopThumbprint

/-- The look at the session of an authorization code.  A code that does not exist
is answered by its consumption. -/
def preCheckCode : Handler Unit :=
  (lookupCodeBeforeConsuming call.code).andThen fun found =>
    .done (checkCodeRequest call clientID dpopThumbprint (found.getD {}))

/-- Count a failed attempt and refuse.  An attempt that went over the budget has
forfeited the code, so the holder has nothing left to retry. -/
def refuseTXCode (code : String) : Handler Unit :=
  .call (.store (.consumeTXCodeAttempt code)) fun
    | .error .txCodeAttemptsExceeded =>
      .done (oauthError .invalidGrant "invalid tx_code" 400)
    | .error _ => .done invalidCode
    | .ok _ =>
      if gateway.emitInvalidTXCodeError then
        .done (oauthError .invalidTXCode "invalid tx_code" 400)
      else .done (oauthError .invalidGrant "invalid tx_code" 400)

/-- The checks of a pre-authorized code request against the session of its code,
with the comparison of the transaction code. -/
def checkPreAuthorized (preCheck : AuthorizationContext) : Handler Unit :=
  if !preCheck.preAuthorized then
    .done (oauthError .invalidGrant
      "authorization code cannot be used with pre-authorized_code grant" 400)
  else if preCheck.forfeited then .done invalidCode
  else if preCheck.txCodeAttempts ≥ maxTXCodeAttempts then
    -- trips the forfeiture of the code
    .call (.store (.consumeTXCodeAttempt call.code)) fun _ => .done invalidCode
  else if preCheck.txCode = "" ∧ call.request.txCode ≠ "" then
    .done (oauthError .invalidRequest "tx_code is not expected for this credential offer" 400)
  else if preCheck.txCode ≠ "" ∧ call.request.txCode = "" then
    .done (oauthError .invalidRequest "tx_code is required for this credential offer" 400)
  else if preCheck.txCode ≠ "" then
    .call (.compareTXCode preCheck.txCode call.request.txCode) fun
      | true => .done (.ok ())
      | false => gateway.refuseTXCode call.code
  else .done (.ok ())

/-- The look at the session of a pre-authorized code. -/
def preCheckPreAuthorized : Handler Unit :=
  (lookupCodeBeforeConsuming call.code).andThen fun
    | none => .done invalidCode
    | some preCheck => gateway.checkPreAuthorized call preCheck

/-! ## Consuming the code -/

/-- Consume the code: a pre-authorized code for one key at a time, any other code,
and a request without a key, once. -/
def consumeCode : Handler AuthorizationContext :=
  if call.isPreAuthFlow ∧ dpopThumbprint ≠ "" then
    .call (.store (.redeemPreAuthorizedCode call.code dpopThumbprint)) fun
      | .error _ => .done invalidCode
      | .ok authCtx => .done (.ok authCtx)
  else
    .call (.store (.forfeitAuthorizationCode { code := call.code })) fun
      | .error _ => .done invalidCode
      | .ok authCtx => .done (.ok authCtx)

/-- The checks on the session of a consumed code.  The result is the scope of the
token; a session without scopes makes the source panic. -/
def checkConsumed (authCtx : AuthorizationContext) : Except HandlerError String :=
  match checkInteractiveAuthorizationBinding authCtx dpopThumbprint with
  | .error error => .error error
  | .ok _ =>
    if authCtx.expiresAt > 0 ∧ call.now > authCtx.expiresAt then
      oauthError .invalidGrant "Authorization request has expired" 400
    else if !call.isPreAuthFlow ∧
        !(validatePKCE gateway.sha256 call.request.codeVerifier authCtx.codeChallenge
          authCtx.codeChallengeMethod).isOk then
      oauthError .invalidGrant "PKCE validation failed" 400
    else
      match authCtx.scopes with
      | [] => .error (.failure "index out of range")
      | scope :: _ => .ok scope

/-! ## The tokens -/

/-- Put a fresh credential identifier on authorization details. -/
def identifyCredential (detail : Json) (identifier : String) : Json :=
  match detail with
  | .obj members =>
    .obj (members.filter (·.1 ≠ "credential_identifiers") ++
      [("credential_identifiers", .arr [.str identifier])])
  | other => other

def responseDetails (authCtx : AuthorizationContext) : List Json :=
  authCtx.authorizationDetails.mapIdx fun position detail =>
    identifyCredential detail (call.credentialIdentifier position)

/-- A refresh token is issued to a key only. -/
def grantedRefreshToken : String :=
  if gateway.issuesRefreshTokens ∧ dpopThumbprint ≠ "" then call.refreshToken else ""

def refreshTokenExpiresAt (otherwise : Int) : Int :=
  if gateway.grantedRefreshToken call dpopThumbprint ≠ "" then
    call.refreshNow + gateway.refreshTokenDuration
  else otherwise

/-- The token document that is stored. -/
def tokenDoc : Token where
  accessToken := call.accessToken
  expiresAt := call.tokenNow + 3600
  dpopThumbprint := dpopThumbprint

/-- The response; the child session of a pre-authorized code has a nonce of its
own. -/
def tokenResponse (dpopThumbprint scope : String)
    (authCtx : AuthorizationContext) : TokenResponse where
  accessToken := call.accessToken
  scope := scope
  state := authCtx.state
  cNonce := if call.isPreAuthFlow then call.childNonce else authCtx.nonce
  authorizationDetails := responseDetails call authCtx
  refreshToken := gateway.grantedRefreshToken call dpopThumbprint
  refreshTokenExpiresIn :=
    if gateway.issuesRefreshTokens ∧ dpopThumbprint ≠ "" then gateway.refreshTokenDuration else 0

/-- The session that a pre-authorized code opens for one client. -/
def childSession (authCtx : AuthorizationContext) : AuthorizationContext where
  sessionID := call.childSessionID
  sourceSessionID := authCtx.sessionID
  status := .tokenIssued
  createdAt := call.childCreatedAt
  expiresAt := (tokenDoc call dpopThumbprint).expiresAt
  scopes := authCtx.scopes
  nonce := call.childNonce
  authorizationDetails := responseDetails call authCtx
  authProvider := authCtx.authProvider
  identifier := authCtx.identifier
  dataSource := authCtx.dataSource
  token := some (tokenDoc call dpopThumbprint)
  refreshToken := gateway.grantedRefreshToken call dpopThumbprint
  refreshTokenExpiresAt := gateway.refreshTokenExpiresAt call dpopThumbprint 0

/-- The session of an authorization code with its tokens. -/
def grantTokens (authCtx : AuthorizationContext) : AuthorizationContext :=
  { authCtx with
    token := some (tokenDoc call dpopThumbprint)
    refreshToken := gateway.grantedRefreshToken call dpopThumbprint
    refreshTokenExpiresAt :=
      gateway.refreshTokenExpiresAt call dpopThumbprint authCtx.refreshTokenExpiresAt
    authorizationDetails :=
      if responseDetails call authCtx ≠ [] then responseDetails call authCtx
      else authCtx.authorizationDetails }

/-- Store the tokens and answer with them. -/
def storeTokens (dpopThumbprint scope : String)
    (authCtx : AuthorizationContext) : Handler TokenResponse :=
  if call.isPreAuthFlow then
    .call (.store (.save (gateway.childSession call dpopThumbprint authCtx) call.savedAt)) fun
      | .error error => .done (.error (.store error))
      | .ok _ => .done (.ok (gateway.tokenResponse call dpopThumbprint scope authCtx))
  else
    .call (.store (.update (gateway.grantTokens call dpopThumbprint authCtx))) fun
      | .error error => .done (.error (.store error))
      | .ok _ => .done (.ok (gateway.tokenResponse call dpopThumbprint scope authCtx))

/-! ## The handler -/

/-- The part of `OAuthToken` that works on the session of the code, for a client
and a key that the request has proved. -/
def redeemCode : Handler TokenResponse :=
  (if call.isPreAuthFlow then gateway.preCheckPreAuthorized call
    else preCheckCode call clientID dpopThumbprint).andThen fun _ =>
  (consumeCode call dpopThumbprint).andThen fun authCtx =>
    match gateway.checkConsumed call dpopThumbprint authCtx with
    | .error error => .done (.error error)
    | .ok scope => gateway.storeTokens call dpopThumbprint scope authCtx

/-- `OAuthToken` for a request that redeems a code. -/
def oauthToken : Handler TokenResponse :=
  match gateway.claimedClientID call with
  | .error error => .done (.error error)
  | .ok clientID =>
    if !call.isPreAuthFlow ∧ clientID = "" then
      .done (oauthError .invalidRequest
        "authorization_code grant requires client_id or client_assertion" 400)
    else
      (gateway.authenticateClient call clientID).andThen fun client =>
        if !call.isPreAuthFlow ∧ client = some .publicClient ∧ call.request.codeVerifier = "" then
          .done (oauthError .invalidRequest "code_verifier is required for public clients" 400)
        else
          match provenKey call with
          | .error error => .done (.error error)
          | .ok dpopThumbprint => gateway.redeemCode call clientID dpopThumbprint

end Gateway

end Vc.Apigw
