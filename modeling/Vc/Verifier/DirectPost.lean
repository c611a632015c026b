import Vc.Mdoc.Presentation
import Vc.Openid4vp.QueryCodec
import Vc.Openid4vp.VC20

/-!
# Presentations that are posted to the verifier

`VerificationDirectPost` from the decrypted response to the credentials that are
cached: which scope a token answers, which format it is taken for, and the checks
of each format.

The session carries what `UIInteraction` promises of a session with transaction
data.  Trust decisions, the caches of request objects and of encryption keys, and
the checks that follow the formats (claim validations, revocation, combined
binding) are given by `Client`.
-/

namespace Vc.Verifier.DirectPost

open Checks Sdjwtvc Openid4vp List Entries Mdoc Members

inductive CredentialFormat where
  | sdJWT
  | mdoc
  | mdocZK
  | vc20
  | unknown
  deriving DecidableEq

def CredentialFormat.text : CredentialFormat → String
  | .sdJWT => "vc+sd-jwt"
  | .mdoc => "mso_mdoc"
  | .mdocZK => "mso_mdoc_zk"
  | .vc20 => "ldp_vc"
  | .unknown => "unknown"

/-- The members of `AuthorizationContext` that a direct post reads.  Transaction data are only
issued by `UIInteraction`, whose scopes are the ids of the query and which stores no pairs. -/
structure Session where
  sessionID : String
  requestObjectID : String := ""
  expiresAt : Int := 0
  scopes : List String
  scopeQueryIDs : Option (List (String × String)) := none
  dcqlQuery : Option DCQL := none
  nonce : String
  clientID : String
  transactionData : List String := []
  transactionDataResponseModes : List String := []
  ephemeralEncryptionKeyID : String := ""
  issued : transactionData ≠ [] → scopeQueryIDs = none ∧
    ∀ dcql, dcqlQuery = some dcql → scopes = dcql.credentials.map (·.id)

/-- The decrypted `VPResponse`, and whether it came through the Digital Credentials API. -/
structure Response where
  vpToken : List (String × List String)
  dcAPI : Bool := false

/-- What a token of a scope contributes. -/
structure Verified where
  credentials : List Members
  jtis : List String := []
  deriving DecidableEq

/-- What has been accepted for a scope. -/
structure Accepted extends Verified where
  scope : String
  token : String
  format : CredentialFormat
  /-- the query id, if transaction data are bound to it -/
  answered : List String
  deriving DecidableEq

structure TrustDecision where
  trusted : Bool
  reason : String := ""

/-- The configuration of the verifier and what it relies on. -/
structure Client (Key : Type) where
  jose : Jose Key
  codec : Openid4vp.Codec
  /-- bounds the walks over disclosures -/
  fuel : Nat
  mdoc : Library Key
  vc20 : VC20Library Key
  rawText : Json → String
  /-- the time of the request, in seconds -/
  now : Int
  /-- `cfg.Common.CredentialMetadata`, with the `DCQLMetaQuery` of each scope -/
  credentialMetadata : Option (List (String × Option MetaQuery)) := none
  /-- the scopes of the template that `TemplateDCQLQuery` selects -/
  templateScopes : List String → List String := fun _ => []
  /-- `RequestObjectCache` of the OpenID4VP client -/
  servedDCQL : String → Option DCQL := fun _ => none
  /-- `RequestObject` of the cache service -/
  cachedDCQL : String → Option DCQL := fun _ => none
  /-- the thumbprint of a key in the cache of encryption keys -/
  encryptionKeyThumbprint : String → Option (Except String Bytes) := fun _ => none
  /-- `EvaluateIssuerTrust` of a token for a scope -/
  evaluateIssuerTrust : String → String → Except String Unit
  hasTrustEvaluator : Bool := true
  /-- the trust evaluator is a `KeyResolver` -/
  resolvesKeys : Bool := true
  /-- `Evaluate` of an issuer and its key for a scope -/
  evaluate : String → Key → String → Except String TrustDecision
  /-- the URL of `verification/direct_post` -/
  responseURI : Except String String
  /-- `dcAPIOrigin` -/
  dcAPIOrigin : Except String String
  /-- claim validations, revocation and combined binding, of what has been accepted -/
  furtherChecks : Session → List Accepted → Except ValidationError Unit := fun _ _ => .ok ()

def sessionExpired (now : Int) (session : Session) : Bool :=
  session.expiresAt ≠ 0 && session.expiresAt ≤ now

def standardOIDCScopes : List String :=
  ["openid", "profile", "email", "address", "phone", "offline_access"]

/-! ## Scopes and queries -/

/-- The constraint of a scope is one of those of a query. -/
def carriesConstraint (constraint : MetaQuery) (query : CredentialQuery) : Bool :=
  if constraint.doctypeValue ≠ "" then query.metaQuery.doctypeValue = constraint.doctypeValue
  else if constraint.vctValues ≠ [] then
    query.metaQuery.vctValues.any (· ∈ constraint.vctValues)
  else
    query.metaQuery.typeValues.any fun types =>
      constraint.typeValues.any fun want => types.getD [] = want.getD []

/-- The loop of `queryIDForConstraint`: the one query that carries the constraint. -/
def constrainedQuery (constraint : MetaQuery) : String → List CredentialQuery → Option String
  | found, [] => if found = "" then none else some found
  | found, query :: rest =>
    if carriesConstraint constraint query then
      if found ≠ "" then none else constrainedQuery constraint query.id rest
    else constrainedQuery constraint found rest

def queryIDForConstraint (dcql : DCQL) (constraint : MetaQuery) : Option String :=
  constrainedQuery constraint "" dcql.credentials

def singleQueryID (dcql : DCQL) : Option String :=
  match dcql.credentials with
  | [query] => some query.id
  | _ => none

def queryIDForScope (metadata : List (String × Option MetaQuery)) (templateScopes : List String)
    (dcql : DCQL) (scope : String) : Option String :=
  match metadata.lookup scope with
  | some constraint => constraint.bind (queryIDForConstraint dcql)
  | none =>
    if scope ∈ standardOIDCScopes then none
    else if scope ∉ templateScopes then none
    else singleQueryID dcql

/-- The query id that stands for a scope, the scope itself if none is paired with it. -/
def queryIDForScopeIn (pairs : List (String × String)) (scope : String) : String :=
  (pairs.lookup scope).getD scope

section Handler

variable {Key : Type} (client : Client Key) (session : Session)

/-- `resolveScopeQueries`: pairs that are contested are dropped. -/
def resolveScopeQueries (dcql : DCQL) (scopes : List String) : List (String × String) :=
  match client.credentialMetadata with
  | none => []
  | some metadata =>
    let resolved := scopes.filterMap fun scope =>
      (queryIDForScope metadata (client.templateScopes scopes) dcql scope).map (scope, ·)
    resolved.filter fun pair => (resolved.map (·.2)).count pair.2 < 2

/-- `ScopeQueryIDs`: the pairs that differ. -/
def scopeQueryIDs (dcql : DCQL) (scopes : List String) : List (String × String) :=
  (resolveScopeQueries client dcql scopes).filter fun pair => pair.2 ≠ pair.1

def sessionPairs : List (String × String) :=
  match session.scopeQueryIDs, session.dcqlQuery with
  | some pairs, _ => pairs
  | none, some dcql => scopeQueryIDs client dcql session.scopes
  | none, none => []

variable (pairs : List (String × String))

def isCredentialScope (dcql : DCQL) (scope : String) : Bool :=
  (pairs.lookup scope).isSome ||
    (client.credentialMetadata.any fun metadata => (metadata.lookup scope).isSome) ||
    dcql.credentials.any (·.id = scope)

def credentialScopes : List String :=
  match session.dcqlQuery with
  | none => session.scopes
  | some dcql => session.scopes.filter fun scope =>
    !(scope ∈ standardOIDCScopes && !isCredentialScope client pairs dcql scope)

/-- The check that no two scopes resolve to one query id. -/
def attributeScopes (pairs : List (String × String)) :
    List (String × String) → List String → Except ValidationError Unit
  | _, [] => .ok ()
  | claimedBy, scope :: rest =>
    let key := queryIDForScopeIn pairs scope
    match claimedBy.lookup key with
    | some owner => failure ("scopes " ++ owner.quote ++ " and " ++ scope.quote ++
        " both resolve to DCQL query id " ++ key.quote ++ "; the response cannot be attributed")
    | none => attributeScopes pairs ((key, scope) :: claimedBy) rest

/-- `knownQueryKey`; for the key of a scope this is also `scopeNamedByQuery`. -/
def namesQuery (dcql : DCQL) (key : String) : Bool :=
  dcql.credentials.any (·.id = key)

def defaultTokenAllowed (scopes : List String) : Bool :=
  match scopes, session.dcqlQuery with
  | [_], none => true
  | [scope], some dcql =>
    dcql.credentials.length ≤ 1 && namesQuery dcql (queryIDForScopeIn pairs scope)
  | _, _ => false

/-- The tokens under a key of the response, unless there are none. -/
def Response.tokens (response : Response) (key : String) : Option (List String) :=
  (response.vpToken.lookup key).filter (· ≠ [])

/-- `vpTokensForScope`, and the first of the tokens that it finds. -/
def vpTokenForScope (defaultAllowed : Bool)
    (response : Response) (scope : String) : Except ValidationError String := do
  let key := queryIDForScopeIn pairs scope
  require (session.dcqlQuery.all (namesQuery · key)) (.other ("scope " ++ scope ++
    " resolves to key " ++ key.quote ++ ", which names no credential query in this request"))
  match response.tokens key, defaultAllowed, response.tokens "_default" with
  | some (token :: _), _, _ => .ok token
  | _, false, _ => failure ("VP token not found for scope " ++ scope ++ ": the _default " ++
      "fallback is only allowed when the request asks for exactly one credential " ++
      "and that scope is it")
  | _, true, some (token :: _) => .ok token
  | _, true, _ => failure ("VP token not found for scope: " ++ scope)

def sessionDCQL : Option DCQL :=
  session.dcqlQuery.or (client.servedDCQL session.requestObjectID)

def DCQL.named (dcql : DCQL) (queryID : String) : Option CredentialQuery :=
  dcql.credentials.find? (·.id = queryID)

variable (scope : String)

def requestedQueryExact : Option CredentialQuery :=
  if scope = "" then none
  else (sessionDCQL client session).bind (DCQL.named · (queryIDForScopeIn pairs scope))

def DCQL.single (dcql : DCQL) : Option CredentialQuery :=
  match dcql.credentials with
  | [query] => some query
  | _ => none

def requestedQuery : Option CredentialQuery :=
  (sessionDCQL client session).bind fun dcql =>
    (DCQL.named dcql (queryIDForScopeIn pairs scope)).or (DCQL.single dcql)

def formatMatchesRequest (detected : CredentialFormat) (requested : String) : Bool :=
  match requested with
  | "mso_mdoc" => detected = .mdoc
  | "mso_mdoc_zk" => detected = .mdocZK
  | "dc+sd-jwt" | "vc+sd-jwt" | "" => detected = .sdJWT
  | "ldp_vc" | "vc+ld+json" => detected = .vc20
  | _ => false

/-! ## Formats -/

/-- `bytes.TrimSpace` at the beginning, with fuel for each character. -/
def trimLeft : Nat → Bytes → Bytes
  | 0, text => text
  | fuel + 1, text =>
    match whiteSpace.find? fun char => (bytes char.toString).isPrefixOf text with
    | none => text
    | some char => trimLeft fuel (text.drop (bytes char.toString).length)

def isJSONDocument (text : Bytes) : Bool :=
  match trimLeft text.length text with
  | byte :: _ => byte = 123 || byte = 91
  | [] => false

variable (vpToken : String)

def looksLikeJSONDocument : Bool :=
  isJSONDocument (bytes vpToken) ||
    match client.codec.decodeString vpToken, client.vc20.decodeStandard vpToken with
    | .ok decoded, _ => isJSONDocument decoded
    | .error _, .ok decoded => isJSONDocument decoded
    | .error _, .error _ => false

/-- The token is a JWT, followed by disclosures or alone. -/
def looksLikeSDJWT : Bool :=
  if '~' ∈ vpToken.toList then
    ((split '~' vpToken).headD "").toList.count '.' = 2
  else
    vpToken.toList.count '.' = 2 &&
      (client.codec.decodeString ((split '.' vpToken).headD "")).isOk

def detectCredentialFormat : CredentialFormat :=
  if looksLikeJSONDocument client vpToken then .vc20
  else if looksLikeSDJWT client vpToken then .sdJWT
  else if '.' ∈ vpToken.toList ∨ '~' ∈ vpToken.toList then .unknown
  else
    match client.mdoc.decodeToken vpToken with
    | .error _ => .unknown
    | .ok data => if client.mdoc.peekIsZk data = .ok true then .mdocZK else .mdoc

/-- The check of the format against the query, where the query is known. -/
def checkFormat (format : CredentialFormat) : Except ValidationError Unit :=
  match requestedQuery client session pairs scope with
  | none => .ok ()
  | some requested =>
    require (formatMatchesRequest format requested.format) (.other ("scope " ++ scope ++
      " was requested as " ++ requested.format.quote ++ " but the response is " ++
      format.text.quote))

variable (queryID : String)

/-- The query id, if transaction data entries are bound to it. -/
def boundQueryID (format : CredentialFormat) :
    Except ValidationError (List String) := do
  let bound ← (transactionDataForCredential client.codec session.transactionData
    queryID).mapError fun _ => .transactionData "session transaction_data is unreadable"
  require (bound = [] ∨ format = .sdJWT) (.transactionData
    ("transaction_data requires an SD-JWT VC presentation for " ++ queryID.quote))
  return if bound = [] then [] else [queryID]

/-- The same, for a session that may have no transaction data. -/
def boundQueries (format : CredentialFormat) : Except ValidationError (List String) :=
  if session.transactionData = [] then .ok []
  else boundQueryID client session queryID format

/-! ## SD-JWT -/

/-- `ResponseParameters.Validate` of an SD-JWT. -/
def validateResponseParameters : Except String Unit := do
  require (vpToken ≠ "") "vp_token is required"
  let _ ← wrap "invalid vp_token format" (parseToken client.codec client.fuel vpToken)
  return ()

/-- The shape check of SD-JWT tokens. -/
def checkShape (scope vpToken : String) (format : CredentialFormat) : Except ValidationError Unit :=
  if format = .sdJWT then
    lift (wrap ("invalid response for scope " ++ scope) (validateResponseParameters client vpToken))
  else .ok ()

/-- The validator of a scope. -/
def tokenValidator : VPTokenValidator :=
  if session.transactionData = [] then
    { nonce := session.nonce, clientID := session.clientID, now := client.now }
  else
    { nonce := session.nonce
      clientID := session.clientID
      transactionData := session.transactionData
      credentialQueryID := queryID
      responseModes := session.transactionDataResponseModes
      now := client.now }

/-- The query whose types are compared. -/
def comparableQuery : Except ValidationError CredentialQuery :=
  match requestedQueryExact client session pairs scope with
  | none => txError
      "cannot compare the credential type: the request's credential query is not available"
  | some query => .ok query

def checkBoundCredentialType (claims : Members) : Except ValidationError Unit := do
  let query ← comparableQuery client session pairs scope
  require (query.metaQuery.vctValues ≠ []) (.transactionData
    "cannot compare the credential type: the request named no vct_values")
  require (text claims "vct" ≠ "") (.transactionData "credential has no vct")
  require (text claims "vct" ∈ query.metaQuery.vctValues) (.transactionData
    ("credential vct " ++ (text claims "vct").quote ++ " is not one the request asked for"))

variable (answered : List String)

/-- The check of the type, where the query has been answered for transaction data. -/
def checkAnsweredType (scope : String) (claims : Members) : Except ValidationError Unit :=
  if queryIDForScopeIn pairs scope ∈ answered then
    checkBoundCredentialType client session pairs scope claims
  else .ok ()

/-- The branch of SD-JWT credentials. -/
def acceptSDJWT (scope vpToken : String) :
    Except ValidationError Verified := do
  let jti ← ((tokenValidator client session (queryIDForScopeIn pairs scope)).validate client.jose
    client.codec client.fuel vpToken).mapError
      (.within ("VP Token validation failed for scope " ++ scope))
  lift (wrap ("issuer trust evaluation failed for scope " ++ scope)
    (client.evaluateIssuerTrust vpToken scope))
  let parsed ← lift (parseToken client.codec client.fuel vpToken)
  checkAnsweredType client session pairs answered scope parsed.claims
  return { credentials := [parsed.claims], jtis := if jti = "" then [] else [jti] }

/-! ## mdoc -/

def mdocNamespace : String := "org.iso.18013.5.1"

def getClaims (document : DocumentClaims) : Members :=
  document.nameSpaces.foldl (fun claims (nameSpace, items) =>
    items.foldl (fun claims (key, value) =>
      let claims := put (nameSpace ++ "." ++ key) value claims
      if nameSpace = mdocNamespace then put key value claims else claims) claims) []

def cachedDocument (document : DocumentClaims) : Members :=
  put "namespaces" (.obj (document.nameSpaces.map fun (nameSpace, items) =>
    (nameSpace, .obj items))) (put "docType" (.str document.docType) (getClaims document))

/-- The branch of mdoc credentials. -/
def acceptMDoc (scope vpToken : String) : Except ValidationError Verified := do
  require client.hasTrustEvaluator
    (.other "TrustEvaluator not configured for mDOC verification")
  let documents ← lift (wrap ("mDOC verification failed for scope " ++ scope)
    (verifyAndExtract client.mdoc client.now vpToken))
  return { credentials := documents.map cachedDocument }

/-- The query that a ZK presentation is verified against. -/
def zkQuery : Option CredentialQuery :=
  (session.dcqlQuery.or (client.cachedDCQL session.requestObjectID)).bind fun dcql =>
    dcql.credentials.find? fun query => query.id = queryID && query.format = "mso_mdoc_zk"

/-- The last elements of the paths of the claims. -/
def requestedClaimIDs (query : CredentialQuery) : List String :=
  query.claims.filterMap fun claim => claim.path.getLast?.bind fun element => element

/-- The thumbprint of the encryption key that the request advertised. -/
def readerThumbprint : Except ValidationError (Option Bytes) :=
  if session.ephemeralEncryptionKeyID = "" then .ok none
  else
    match client.encryptionKeyThumbprint session.ephemeralEncryptionKeyID with
    | none => failure ("ephemeral encryption key " ++ session.ephemeralEncryptionKeyID.quote ++
        " is no longer cached, cannot rebuild the session transcript the wallet used for scope " ++
        scope)
    | some thumbprint => lift (wrap ("failed to compute JWK thumbprint for scope " ++ scope)
        (thumbprint.map some))

def zkSessionTranscript (dcAPI : Bool) (responseURI : String) (thumbprint : Option Bytes) :
    Except ValidationError SessionTranscript :=
  if dcAPI then do
    let origin ← lift client.dcAPIOrigin
    require (origin ≠ "")
      (.other "mdoc: DC API session transcript requires the calling origin")
    return .dcAPI origin session.nonce thumbprint
  else .ok (.redirect session.clientID session.nonce responseURI thumbprint)

/-- What a ZK presentation is verified against. -/
def zkContext (transcript : SessionTranscript) : ZkPresentationContext :=
  let query := (zkQuery client session queryID).getD {}
  { sessionID := session.sessionID
    clientID := session.clientID
    ppidContext := query.metaQuery.ppidContext
    requestedZkSystems := query.metaQuery.zkSystemType
    sessionTranscript := transcript
    requestedClaimIDs := requestedClaimIDs query }

/-- The branch of ZK presentations. -/
def acceptMDocZK (dcAPI : Bool) (scope vpToken : String) :
    Except ValidationError Verified := do
  require client.hasTrustEvaluator
    (.other "TrustEvaluator not configured for ZK mDOC verification")
  let responseURI ← lift (wrap ("failed to construct response URI for scope " ++ scope)
    client.responseURI)
  let thumbprint ← readerThumbprint client session scope
  let transcript ← zkSessionTranscript client session dcAPI responseURI thumbprint
  let documents ← lift (wrap ("ZK mDOC verification failed for scope " ++ scope)
    (verifyAndExtractZk client.mdoc
      (zkContext client session (queryIDForScopeIn pairs scope) transcript) vpToken))
  return { credentials := documents.map cachedDocument }

/-! ## W3C -/

/-- The handler of a scope: bound to the session unless the query gives that up. -/
def vc20Handler (requested : Option CredentialQuery) : VC20Handler where
  binding :=
    if requested.all (·.requiresCryptographicHolderBinding) then
      some (session.nonce, session.clientID)
    else none
  now := client.now

/-- The query whose types are compared, which has to constrain. -/
def constrainingQuery (requested : Option CredentialQuery) (scope : String) :
    Except ValidationError CredentialQuery :=
  match requested with
  | none => failure ("cannot verify the constraint for scope " ++ scope ++
      ": the request it was made under is no longer available")
  | some query =>
    (validateCredentialQuery client.rawText query).mapError (fun error => .other
      ("the query for scope " ++ scope ++ " cannot constrain a credential: DCQL validation " ++
        "error on " ++ error.field ++ ": " ++ error.message)) |>.map fun _ => query

/-- The branch of W3C credentials. -/
def acceptVC20 (scope vpToken : String) :
    Except ValidationError Verified := do
  require client.resolvesKeys (.other ("W3C VC verification for scope " ++ scope ++
    " needs a key-resolving trust evaluator"))
  let requested := requestedQuery client session pairs scope
  let result ← lift (wrap ("W3C VC verification failed for scope " ++ scope)
    ((vc20Handler client session requested).verifyAndExtract client.codec client.vc20 vpToken))
  let decision ← lift (wrap ("W3C issuer trust evaluation failed for scope " ++ scope)
    (client.evaluate result.issuer result.issuerKey scope))
  require decision.trusted
    (.other ("W3C issuer not trusted for scope " ++ scope ++ ": " ++ decision.reason))
  let query ← constrainingQuery client requested scope
  require (matchTypeValues result.typeIRIs query.metaQuery.typeValues)
    (.other ("the credential returned for scope " ++ scope ++
      " does not carry the requested types"))
  return { credentials := [result.claims] }

/-! ## The response -/

/-- The branches of the formats. -/
def acceptToken (dcAPI : Bool) (answered : List String)
    (scope vpToken : String) : CredentialFormat → Except ValidationError Verified
  | .sdJWT => acceptSDJWT client session pairs answered scope vpToken
  | .mdoc => acceptMDoc client scope vpToken
  | .mdocZK => acceptMDocZK client session pairs dcAPI scope vpToken
  | .vc20 => acceptVC20 client session pairs scope vpToken
  | .unknown => failure ("unknown credential format for scope " ++ scope)

/-- One round of the loop over the scopes. -/
def acceptScope (defaultAllowed : Bool) (response : Response)
    (answered : List String) (scope : String) : Except ValidationError Accepted := do
  let token ← vpTokenForScope session pairs defaultAllowed response scope
  let format := detectCredentialFormat client token
  checkFormat client session pairs scope format
  checkShape client scope token format
  let bound ← boundQueries client session (queryIDForScopeIn pairs scope) format
  let verified ← acceptToken client session pairs response.dcAPI (answered ++ bound) scope token
    format
  return { toVerified := verified, scope, token, format, answered := bound }

/-- The loop over the scopes. -/
def acceptScopes (pairs : List (String × String)) (defaultAllowed : Bool) (response : Response) :
    List String → List String → Except ValidationError (List Accepted)
  | _, [] => .ok []
  | answered, scope :: rest => do
    let accepted ← acceptScope client session pairs defaultAllowed response answered scope
    let others ← acceptScopes pairs defaultAllowed response (answered ++ accepted.answered) rest
    return accepted :: others

/-- The check that every transaction data entry is bound to a query that was answered. -/
def checkCovered : Except ValidationError Unit :=
  if session.transactionData = [] then .ok ()
  else match uncoveredTransactionData client.codec session.transactionData answered with
  | .ok [] => .ok ()
  | _ => txError "transaction_data not authorized by any presented credential"

/-- `VerificationDirectPost` up to the first write: what has been accepted for each scope. -/
def verifyResponse (response : Response) : Except ValidationError (List Accepted) := do
  require (sessionExpired client.now session = false) (.other "session expired")
  require (session.dcqlQuery.all (·.credentials ≠ []))
    (.other "DCQL query requests no credentials")
  let pairs := sessionPairs client session
  let scopes := credentialScopes client session pairs
  require (scopes ≠ []) (.other "no requested scope corresponds to a requested credential")
  attributeScopes pairs [] scopes
  let accepted ← acceptScopes client session pairs (defaultTokenAllowed session pairs scopes)
    response [] scopes
  client.furtherChecks session accepted
  checkCovered client session (accepted.flatMap (·.answered))
  return accepted

/-- The credentials that are cached, with their scopes. -/
def credentialCaches (accepted : List Accepted) : List (String × Members) :=
  session.scopes.flatMap fun scope =>
    (accepted.filter (·.scope = scope)).flatMap fun entry => entry.credentials.map (scope, ·)

/-! ## What has been established of an accepted response -/

/-- The steps that a scope has passed, where `before` is what was answered until then. -/
structure AcceptedFrom (pairs : List (String × String)) (defaultAllowed : Bool)
    (response : Response) (before : List String) (entry : Accepted) : Prop where
  found : vpTokenForScope session pairs defaultAllowed response entry.scope = .ok entry.token
  detected : entry.format = detectCredentialFormat client entry.token
  matching : checkFormat client session pairs entry.scope entry.format = .ok ()
  bound : boundQueries client session (queryIDForScopeIn pairs entry.scope) entry.format =
    .ok entry.answered
  verified : acceptToken client session pairs response.dcAPI (before ++ entry.answered)
    entry.scope entry.token entry.format = .ok entry.toVerified

/-- What an accepted response has passed. -/
structure Passed (response : Response) (entries : List Accepted) : Prop where
  scopes : entries.map (·.scope) = credentialScopes client session (sessionPairs client session)
  keys : ((credentialScopes client session (sessionPairs client session)).map
    (queryIDForScopeIn (sessionPairs client session))).Nodup
  each : ∀ entry ∈ entries, ∃ before, AcceptedFrom client session (sessionPairs client session)
    (defaultTokenAllowed session (sessionPairs client session)
      (credentialScopes client session (sessionPairs client session))) response before entry
  covered : checkCovered client session (entries.flatMap (·.answered)) = .ok ()

variable {client session} {response : Response} {pairs} {scope} {defaultAllowed : Bool}

variable {entries : List Accepted} {scopes : List String}

theorem acceptScopes_eq_ok {before : List String}
    (accepted : acceptScopes client session pairs defaultAllowed response before scopes =
      .ok entries) :
    entries.map (·.scope) = scopes ∧ ∀ entry ∈ entries, ∃ before,
      AcceptedFrom client session pairs defaultAllowed response before entry := by
  induction scopes generalizing before entries with
  | nil =>
    cases accepted
    exact ⟨rfl, nofun⟩
  | cons scope rest ih =>
    simp only [acceptScopes, acceptScope, bind_eq_ok_iff] at accepted
    obtain ⟨entry, ⟨token, found, _, matching, _, _, bound, answered, verified, done, first⟩,
      others, later, same⟩ := accepted
    cases first
    cases same
    obtain ⟨names, each⟩ := ih later
    refine ⟨congrArg _ names, ?_⟩
    exact forall_mem_cons.mpr ⟨⟨before, found, rfl, matching, answered, done⟩, each⟩

theorem attributeScopes_eq_ok {pairs claimedBy : List (String × String)}
    (attributed : attributeScopes pairs claimedBy scopes = .ok ()) :
    (scopes.map (queryIDForScopeIn pairs)).Nodup ∧
      ∀ key ∈ scopes.map (queryIDForScopeIn pairs), claimedBy.lookup key = none := by
  induction scopes generalizing claimedBy with
  | nil => exact ⟨nodup_nil, nofun⟩
  | cons scope rest ih =>
    simp only [attributeScopes] at attributed
    split at attributed
    · exact absurd attributed failure_ne_ok
    · next free =>
        obtain ⟨nodup, absent⟩ := ih attributed
        -- a key of the rest is not the one that this scope has claimed
        have different : ∀ key ∈ rest.map (queryIDForScopeIn pairs),
            key ≠ queryIDForScopeIn pairs scope ∧ claimedBy.lookup key = none := by
          intro key member
          have none := absent key member
          rw [Entries.lookup_cons] at none
          split_ifs at none with same
          exact ⟨same, none⟩
        refine ⟨nodup_cons.mpr ⟨fun member => (different _ member).1 rfl, nodup⟩, ?_⟩
        exact forall_mem_cons.mpr ⟨free, fun key member => (different key member).2⟩

theorem verifyResponse_eq_ok (accepted : verifyResponse client session response = .ok entries) :
    Passed client session response entries := by
  simp only [verifyResponse, bind_eq_ok_iff] at accepted
  obtain ⟨_, _, _, _, _, _, _, attributed, _, looped, _, _, _, covered, same⟩ := accepted
  cases same
  obtain ⟨scopes, each⟩ := acceptScopes_eq_ok looped
  exact ⟨scopes, (attributeScopes_eq_ok attributed).1, each, covered⟩

theorem mem_scopes_of_mem_credentialScopes
    (member : scope ∈ credentialScopes client session pairs) : scope ∈ session.scopes := by
  unfold credentialScopes at member
  split at member
  · exact member
  · exact mem_of_mem_filter member

section

variable (passed : Passed client session response entries)

include passed

/-- Every scope that stands for a credential has been accepted. -/
theorem Passed.exists_entry
    (member : scope ∈ credentialScopes client session (sessionPairs client session)) :
    ∃ entry ∈ entries, entry.scope = scope := by
  rw [← passed.scopes] at member
  exact mem_map.mp member

theorem Passed.scope_mem {entry : Accepted} (member : entry ∈ entries) :
    entry.scope ∈ credentialScopes client session (sessionPairs client session) :=
  passed.scopes ▸ mem_map_of_mem member

/-- What is cached are the credentials of the accepted scopes. -/
theorem Passed.mem_credentialCaches_iff {credential : Members} :
    (scope, credential) ∈ credentialCaches session entries ↔
      ∃ entry ∈ entries, entry.scope = scope ∧ credential ∈ entry.credentials := by
  simp only [credentialCaches, mem_flatMap, mem_filter, mem_map, Prod.mk.injEq, decide_eq_true_eq]
  constructor
  · rintro ⟨_, _, entry, ⟨member, same⟩, _, inEntry, rfl, rfl⟩
    exact ⟨entry, member, same, inEntry⟩
  · rintro ⟨entry, member, rfl, inEntry⟩
    exact ⟨entry.scope, mem_scopes_of_mem_credentialScopes (passed.scope_mem member), entry,
      ⟨member, rfl⟩, credential, inEntry, rfl, rfl⟩

end

end Handler

end Vc.Verifier.DirectPost
