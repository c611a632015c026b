import Vc.Cache.MongoStore
import Vc.OAuth2.Parameters

/-!
# The authorization code grant of the verifier

`handleAuthorizationCodeGrant` of the verifier's OpenID provider.  The handler
reads the session of a code, marks the code as used, checks the request against
the session it has read, and writes that session back with the new ID token.
Its steps on the store are calls of the interface; over MongoDB each of them is
a sequence of database calls.

Everything that the handler asks of other components stands in `Provider`.
-/

namespace Vc.Verifier

open Cache Concurrent OAuth2

/-- The errors that the token endpoint answers with. -/
inductive TokenError where
  | invalidGrant
  | invalidClient
  | serverError
  deriving DecidableEq

/-- The members of `TokenRequest` that the grant reads. -/
structure TokenRequest where
  code : String := ""
  redirectURI : String := ""
  clientID : String := ""
  clientSecret : String := ""
  codeVerifier : String := ""

structure TokenResponse where
  accessToken : String := ""
  tokenType : String
  expiresIn : Int := 0
  idToken : String
  scope : String
  deriving DecidableEq

/-- A registered client, as far as the grant reads it. -/
structure Client where
  clientID : String
  tokenEndpointAuthMethod : String
  clientSecretHash : String

/-- An entry of `StaticClients` of the configuration. -/
structure StaticClient where
  clientID : String
  clientSecret : String
  tokenEndpointAuthMethod : String := ""

def StaticClient.register (static : StaticClient) : Client where
  clientID := static.clientID
  tokenEndpointAuthMethod :=
    if static.tokenEndpointAuthMethod ≠ "" then static.tokenEndpointAuthMethod
    else "client_secret_basic"
  clientSecretHash := static.clientSecret

/-- The configuration of the provider and the components it calls. -/
structure Provider where
  issuer : String
  idTokenDuration : Int
  accessTokenDuration : Int
  enableUserInfo : Bool
  subjectType : String
  subjectSalt : String
  staticClients : List StaticClient
  /-- `GetByClientID` of the client collection; the outer `none` is an error of
  the database. -/
  getByClientID : String → Option (Option Client)
  /-- `bcrypt.CompareHashAndPassword`. -/
  passwordMatches : String → String → Bool
  /-- The base64url text of a SHA-256 sum. -/
  sha256 : String → String
  /-- `jose.MakeJWT` with the given type and claims. -/
  makeJWT : String → List (String × Json) → Option String

/-- A request together with the clock readings that serve it, in seconds. -/
structure TokenCall where
  request : TokenRequest
  now : Int
  idTokenNow : Int := now
  accessTokenNow : Int := now

namespace Provider

variable (provider : Provider)

/-- `getClientByID`: the client, and whether it is a static one. -/
def getClientByID (clientID : String) : Option (Option (Client × Bool)) :=
  match provider.getByClientID clientID with
  | none => none
  | some (some client) => some (some (client, false))
  | some none =>
    some ((provider.staticClients.find? fun static => static.clientID = clientID).map
      fun static => (static.register, true))

def authenticateClient (clientID clientSecret : String) : Except TokenError Client :=
  match provider.getClientByID clientID with
  | none => .error .serverError
  | some none => .error .invalidClient
  | some (some (client, isStatic)) =>
    if client.tokenEndpointAuthMethod = "none" then .ok client
    else if isStatic then
      -- the "hash" of a static client is its secret
      if clientSecret ≠ client.clientSecretHash then .error .invalidClient else .ok client
    else if !provider.passwordMatches client.clientSecretHash clientSecret then
      .error .invalidClient
    else .ok client

def generateSubjectIdentifier (walletID clientID : String) : String :=
  if provider.subjectType = "pairwise" then
    provider.sha256 (walletID ++ clientID ++ provider.subjectSalt)
  else provider.sha256 (walletID ++ provider.subjectSalt)

variable (authCtx : AuthorizationContext)

/-- The claims of a session that are not reserved for the provider. -/
def sessionClaims : List (String × Json) :=
  authCtx.verifiedClaims.filter fun claim =>
    claim.1 ∉ ["iss", "sub", "aud", "exp", "iat", "nonce"]

/-- The claims that both tokens of a session share. -/
def providerClaims (client : Client) (now duration : Int) : List (String × Json) :=
  [("iss", .str provider.issuer),
    ("sub", .str (provider.generateSubjectIdentifier authCtx.walletID client.clientID)),
    ("aud", .str client.clientID), ("exp", .num (toString (now + duration))),
    ("iat", .num (toString now))]

def generateIDToken (client : Client) (now : Int) : Option String :=
  provider.makeJWT "JWT"
    (provider.providerClaims authCtx client now provider.idTokenDuration ++
      (if authCtx.nonce ≠ "" then [("nonce", .str authCtx.nonce)] else []) ++
      sessionClaims authCtx)

def generateAccessToken (client : Client) (now : Int) : Option String :=
  provider.makeJWT "at+jwt"
    (provider.providerClaims authCtx client now provider.accessTokenDuration ++
      sessionClaims authCtx)

/-- The session with its ID token, which the grant writes back. -/
def issued (idToken : String) : AuthorizationContext :=
  { authCtx with idToken, status := .tokenIssued }

variable (call : TokenCall)

variable (authCtx : AuthorizationContext)

/-- The checks of the grant after it has marked the code. -/
def checkRequest : Except TokenError Client :=
  match provider.authenticateClient call.request.clientID call.request.clientSecret with
  | .error .invalidClient => .error .invalidClient
  | .error _ => .error .serverError
  | .ok client =>
    if authCtx.clientID ≠ call.request.clientID then .error .invalidGrant
    else if normalizeRedirectURI authCtx.redirectURI ≠
        normalizeRedirectURI call.request.redirectURI then .error .invalidGrant
    else if authCtx.codeChallenge ≠ "" ∧
        !(validatePKCE provider.sha256 call.request.codeVerifier authCtx.codeChallenge
          authCtx.codeChallengeMethod).isOk then .error .invalidGrant
    else .ok client

/-- The response of the grant; an access token is part of it where the user info
endpoint is enabled. -/
def tokenResponse (client : Client) (idToken : String) : Option TokenResponse :=
  let response : TokenResponse :=
    { tokenType := "Bearer", idToken, scope := " ".intercalate authCtx.scopes }
  if provider.enableUserInfo then
    (provider.generateAccessToken authCtx client call.accessTokenNow).map fun accessToken =>
      { response with accessToken, expiresIn := provider.accessTokenDuration }
  else some response

/-- The part of the grant between marking the code and writing the session back:
the session to write and the response to give. -/
def issueTokens : Except TokenError (AuthorizationContext × TokenResponse) :=
  match provider.checkRequest call authCtx with
  | .error error => .error error
  | .ok client =>
    match provider.generateIDToken authCtx client call.idTokenNow with
    | none => .error .serverError
    | some idToken =>
      match provider.tokenResponse call (issued authCtx idToken) client idToken with
      | none => .error .serverError
      | some response => .ok (issued authCtx idToken, response)

/-- The end of the grant: issue the tokens and write the session back. -/
def issueAndUpdate : Process storeInterface (Except TokenError TokenResponse) :=
  match provider.issueTokens call authCtx with
  | .error error => .done (.error error)
  | .ok (updated, response) =>
    .call (.update updated) fun
      | .error _ => .done (.error .serverError)
      | .ok _ => .done (.ok response)

/-- The steps of the grant on a session that it has read and found usable. -/
def redeem : Process storeInterface (Except TokenError TokenResponse) :=
  .call (.markCodeAsForfeited authCtx.sessionID) fun
    | .error _ => .done (.error .invalidGrant)
    | .ok _ => provider.issueAndUpdate call authCtx

/-- `handleAuthorizationCodeGrant`, over the calls of the store. -/
def handleAuthorizationCodeGrant : Process storeInterface (Except TokenError TokenResponse) :=
  .call (.getByAuthorizationCode call.request.code) fun
    | .error _ => .done (.error .invalidGrant)
    | .ok authCtx =>
      if authCtx.forfeited then .done (.error .invalidGrant)
      else if call.now > authCtx.codeExpiresAt then .done (.error .invalidGrant)
      else provider.redeem call authCtx

/-- The grant over MongoDB: a process whose steps are database calls. -/
def mongoGrant (bson : Bson) (call : TokenCall) :
    Process mongoInterface (Except TokenError TokenResponse) :=
  (provider.handleAuthorizationCodeGrant call).interpret (MongoStore.method bson)

end Provider

end Vc.Verifier
