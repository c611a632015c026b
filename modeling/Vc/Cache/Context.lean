import Vc.Data.Json

/-!
# Authorization contexts

The session document of `pkg/cache` and the calls of its `AuthContextStore`
interface.  Strings are empty and slices are nil where the source leaves a
field unset.  Members of the document that no modelled function reads by name
are in `rest`.
-/

namespace Vc.Cache

/-- An instant, in nanoseconds from the zero instant of `time.Time`. -/
abbrev Time := Int

/-- `MaxPreAuthRedeemers`: distinct clients that can redeem one pre-authorized code. -/
def maxPreAuthRedeemers : Nat := 10

/-- `MaxTXCodeAttempts`: transaction-code attempts per pre-authorized code. -/
def maxTXCodeAttempts : Int := 5

/-- Progress of an OIDC session; the empty status of the source is `unset`. -/
inductive SessionStatus where
  | unset
  | pending
  | awaitingPresentation
  | codeIssued
  | tokenIssued
  | completed
  | expired
  | error
  deriving DecidableEq, Inhabited

/-- An access token with its expiry and the key it is bound to. -/
structure Token where
  accessToken : String
  expiresAt : Int
  dpopThumbprint : String := ""
  deriving DecidableEq, Inhabited

/-- A DCQL query, as the JSON value that it encodes to. -/
structure DCQL where
  json : Json
  deriving Inhabited

/-- `AuthorizationContext`: the document of one issuance or verification session. -/
structure AuthorizationContext where
  sessionID : String := ""
  status : SessionStatus := .unset
  createdAt : Time := 0
  expiresAt : Int := 0
  sourceSessionID : String := ""
  clientID : String := ""
  walletClientID : String := ""
  scopes : List String := []
  state : String := ""
  nonce : String := ""
  codeChallenge : String := ""
  codeChallengeMethod : String := ""
  authSession : String := ""
  issuerState : String := ""
  authSessionDPoPThumbprint : String := ""
  interactiveAuthorization : Bool := false
  code : String := ""
  forfeited : Bool := false
  preAuthorized : Bool := false
  redeemedBy : List String := []
  txCode : String := ""
  txCodeAttempts : Int := 0
  token : Option Token := none
  accessToken : String := ""
  idToken : String := ""
  authorizationDetails : List Json := []
  requestURI : String := ""
  requestURIExpiresAt : Int := 0
  walletURI : String := ""
  consent : Bool := false
  authenticSource : String := ""
  identifier : String := ""
  authProvider : String := ""
  dataSource : String := ""
  remoteName : String := ""
  redirectURI : String := ""
  codeExpiresAt : Int := 0
  refreshToken : String := ""
  refreshTokenExpiresAt : Int := 0
  verifiedClaims : List (String × Json) := []
  presentedScope : String := ""
  ephemeralEncryptionKeyID : String := ""
  verifierResponseCode : String := ""
  requestObjectID : String := ""
  dcqlQuery : Option DCQL := none
  walletID : String := ""
  rest : List (String × Json) := []
  deriving Inhabited

/-- The `printascii` rule of the validator. -/
def printASCII (text : String) : Bool :=
  text.toList.all fun char => ' ' ≤ char && char ≤ '~'

/-- The rules `omitempty,max=limit,printascii`; the empty text passes them. -/
def withinLimit (limit : Nat) (text : String) : Bool :=
  text.length ≤ limit && printASCII text

/-- The rules on the members of a token. -/
def Token.validate (token : Token) : Bool :=
  token.accessToken ≠ "" && withinLimit 4096 token.accessToken && token.expiresAt ≠ 0 &&
    withinLimit 128 token.dpopThumbprint

/-- `Validate`: the rules on the members of a document, those of `rest` aside. -/
def AuthorizationContext.validate (doc : AuthorizationContext) : Bool :=
  doc.sessionID ≠ "" && withinLimit 128 doc.sessionID &&
  withinLimit 128 doc.sourceSessionID &&
  withinLimit 512 doc.clientID && withinLimit 512 doc.walletClientID &&
  withinLimit 500 doc.state && withinLimit 128 doc.nonce &&
  withinLimit 128 doc.codeChallenge && withinLimit 16 doc.codeChallengeMethod &&
  withinLimit 128 doc.authSession && withinLimit 128 doc.issuerState &&
  withinLimit 128 doc.authSessionDPoPThumbprint &&
  withinLimit 128 doc.code && withinLimit 64 doc.txCode &&
  doc.token.all Token.validate &&
  withinLimit 16384 doc.accessToken && withinLimit 32768 doc.idToken &&
  withinLimit 2048 doc.requestURI && withinLimit 2048 doc.walletURI &&
  withinLimit 128 doc.authenticSource && withinLimit 256 doc.identifier &&
  withinLimit 32 doc.authProvider && withinLimit 32 doc.dataSource &&
  withinLimit 128 doc.remoteName && withinLimit 2048 doc.redirectURI &&
  withinLimit 4096 doc.refreshToken && withinLimit 128 doc.presentedScope &&
  withinLimit 128 doc.ephemeralEncryptionKeyID &&
  withinLimit 128 doc.verifierResponseCode && withinLimit 128 doc.requestObjectID &&
  withinLimit 128 doc.walletID

/-! ## Searchable members -/

/-- The members that a context can be found by, beside its session id. -/
inductive IndexField where
  | requestURI
  | code
  | state
  | verifierResponseCode
  | ephemeralKeyID
  | requestObjectID
  | authSession
  | issuerState
  | accessToken
  | refreshToken
  deriving DecidableEq, Inhabited

namespace AuthorizationContext

variable (doc : AuthorizationContext)

/-- The text of `token.access_token`, empty without a token. -/
def tokenText : String :=
  (doc.token.map Token.accessToken).getD ""

/-- The searchable values of a document, in the order in which the stores index
them.  An access token is searched in `token` and in `accessToken`. -/
def indexEntries : List (IndexField × String) :=
  [(.requestURI, doc.requestURI), (.code, doc.code), (.state, doc.state),
    (.verifierResponseCode, doc.verifierResponseCode),
    (.ephemeralKeyID, doc.ephemeralEncryptionKeyID),
    (.requestObjectID, doc.requestObjectID), (.authSession, doc.authSession),
    (.issuerState, doc.issuerState), (.accessToken, doc.tokenText),
    (.accessToken, doc.accessToken), (.refreshToken, doc.refreshToken)].filter
      fun entry => entry.2 ≠ ""

/-- The document carries this value in this member. -/
def Carries (field : IndexField) (value : String) : Prop :=
  (field, value) ∈ doc.indexEntries

instance (doc : AuthorizationContext) (field : IndexField) (value : String) :
    Decidable (doc.Carries field value) :=
  inferInstanceAs (Decidable (_ ∈ _))

theorem carries_iff (field : IndexField) (value : String) :
    doc.Carries field value ↔ value ≠ "" ∧
      match field with
      | .requestURI => value = doc.requestURI
      | .code => value = doc.code
      | .state => value = doc.state
      | .verifierResponseCode => value = doc.verifierResponseCode
      | .ephemeralKeyID => value = doc.ephemeralEncryptionKeyID
      | .requestObjectID => value = doc.requestObjectID
      | .authSession => value = doc.authSession
      | .issuerState => value = doc.issuerState
      | .accessToken => value = doc.tokenText ∨ value = doc.accessToken
      | .refreshToken => value = doc.refreshToken := by
  cases field <;> simp [Carries, indexEntries, and_comm]

end AuthorizationContext

/-- `AuthProviderFields`: which provider and credential source serve a context. -/
structure AuthProviderFields where
  authProvider : String := ""
  dataSource : String := ""
  remoteName : String := ""
  authenticSource : String := ""

/-- `IssuerStateResume`: the exchange that replaces a one-shot issuer_state. -/
structure IssuerStateResume where
  authSession : String
  authSessionDPoPThumbprint : String := ""
  walletClientID : String := ""
  walletURI : String := ""
  codeChallenge : String := ""
  codeChallengeMethod : String := ""
  dcqlQuery : Option DCQL := none
  ephemeralEncryptionKeyID : String := ""
  expiresAt : Int := 0
  createdAt : Time := 0

/-- `IssuerStateResume.applyTo`: write the resumed exchange onto a document. -/
def IssuerStateResume.applyTo (resume : IssuerStateResume) (doc : AuthorizationContext) :
    AuthorizationContext :=
  { doc with
    authSession := resume.authSession
    authSessionDPoPThumbprint := resume.authSessionDPoPThumbprint
    walletClientID := resume.walletClientID
    walletURI := resume.walletURI
    codeChallenge := resume.codeChallenge
    codeChallengeMethod := resume.codeChallengeMethod
    dcqlQuery := resume.dcqlQuery
    ephemeralEncryptionKeyID := resume.ephemeralEncryptionKeyID
    expiresAt := resume.expiresAt
    createdAt := resume.createdAt }

/-! ## Changes of one document -/

namespace AuthorizationContext

variable (doc : AuthorizationContext)

/-- Mark the code as used. -/
def forfeit : AuthorizationContext :=
  { doc with forfeited := true }

/-- Record a client that redeemed the code. -/
def redeem (dpopThumbprint : String) : AuthorizationContext :=
  { doc with redeemedBy := doc.redeemedBy ++ [dpopThumbprint] }

/-- Count one transaction-code attempt. -/
def attempt : AuthorizationContext :=
  { doc with txCodeAttempts := doc.txCodeAttempts + 1 }

/-- Record the user's consent. -/
def giveConsent : AuthorizationContext :=
  { doc with consent := true }

/-- Move the expiry. -/
def expireAt (expiresAt : Int) : AuthorizationContext :=
  { doc with expiresAt }

/-- Replace the token. -/
def grant (token : Option Token) : AuthorizationContext :=
  { doc with token }

/-- Record the resolved identifier. -/
def identify (identifier : String) : AuthorizationContext :=
  { doc with identifier }

/-- Record the authentic source. -/
def sourceFrom (authenticSource : String) : AuthorizationContext :=
  { doc with authenticSource }

/-- Record the provider and the credential source. -/
def provideBy (fields : AuthProviderFields) : AuthorizationContext :=
  { doc with
    authProvider := fields.authProvider
    dataSource := fields.dataSource
    remoteName := fields.remoteName
    authenticSource := fields.authenticSource }

/-- Take the auth_session handle off. -/
def releaseAuthSession : AuthorizationContext :=
  { doc with authSession := "" }

/-- Take the issuer_state handle off. -/
def releaseIssuerState : AuthorizationContext :=
  { doc with issuerState := "" }

/-- Set the creation time. -/
def createAt (createdAt : Time) : AuthorizationContext :=
  { doc with createdAt }

end AuthorizationContext

/-- The errors of a store.  The two sentinels that callers test for are
constructors; every other error is its message. -/
inductive StoreError where
  | noDocuments
  | txCodeAttemptsExceeded
  | message (text : String)
  deriving DecidableEq, Inhabited

/-! ## The store interface -/

/-- The calls of `AuthContextStore`.  Documents and queries are passed by value;
`save` carries the clock reading it takes. -/
inductive StoreCall where
  | save (doc : AuthorizationContext) (now : Time)
  | get (query : AuthorizationContext)
  | getSnapshot (query : AuthorizationContext)
  | getByID (id : String)
  | getByAuthorizationCode (code : String)
  | getByAccessToken (token : String)
  | getWithAccessToken (token : String)
  | getByRefreshToken (refreshToken : String)
  | update (doc : AuthorizationContext)
  | delete (id : String)
  | forfeitAuthorizationCode (query : AuthorizationContext)
  | markCodeAsForfeited (id : String)
  | redeemPreAuthorizedCode (code dpopThumbprint : String)
  | consumeTXCodeAttempt (code : String)
  | consent (query : AuthorizationContext)
  | extendExpiry (query : AuthorizationContext) (expiresAt : Int)
  | addToken (code : String) (token : Option Token)
  | rotateRefreshToken (oldToken : String) (updated : AuthorizationContext)
  | setIdentifier (query : AuthorizationContext) (identifier : String)
  | setAuthenticSource (query : AuthorizationContext) (authenticSource : String)
  | setAuthProvider (sessionID : String) (fields : AuthProviderFields)
  | claimAuthSession (authSession : String)
  | claimIssuerState (issuerState : String) (opened : AuthorizationContext)
  | resumeIssuerState (issuerState : String) (resume : IssuerStateResume)

/-- What a call returns beside its error. -/
abbrev StoreCall.Result : StoreCall → Type
  | .get _ | .getSnapshot _ | .getByID _ | .getByAuthorizationCode _
  | .getByAccessToken _ | .getWithAccessToken _ | .getByRefreshToken _
  | .forfeitAuthorizationCode _ | .redeemPreAuthorizedCode _ _
  | .consumeTXCodeAttempt _ | .claimAuthSession _ | .claimIssuerState _ _
  | .resumeIssuerState _ _ => AuthorizationContext
  | .save _ _ | .update _ | .delete _ | .markCodeAsForfeited _ | .consent _
  | .extendExpiry _ _ | .addToken _ _ | .rotateRefreshToken _ _
  | .setIdentifier _ _ | .setAuthenticSource _ _ | .setAuthProvider _ _ => Unit

end Vc.Cache
