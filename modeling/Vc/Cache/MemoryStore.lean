import Vc.Cache.Contract

/-!
# The in-memory store

`MemoryStore` of `pkg/cache/authcontext.go`: a cache of documents by session id
and a map of secondary indices from `field:value` texts to session ids.  Every
method runs under the store's lock and is one function here.  Documents are
passed by value, and entries do not expire.
-/

namespace Vc.Cache

open Concurrent Function

/-- The text that names a member in an index key. -/
def IndexField.name : IndexField → String
  | .requestURI => "request_uri"
  | .code => "code"
  | .state => "state"
  | .verifierResponseCode => "verifier_response_code"
  | .ephemeralKeyID => "ephemeral_key_id"
  | .requestObjectID => "request_object_id"
  | .authSession => "auth_session"
  | .issuerState => "issuer_state"
  | .accessToken => "access_token"
  | .refreshToken => "refresh_token"

/-- `fmt.Sprintf("<field>:%s", value)`. -/
def indexKey (field : IndexField) (value : String) : String :=
  field.name ++ ":" ++ value

/-- The documents by session id, each under its own id, and the indices. -/
structure MemoryStore where
  cache : String → Option AuthorizationContext
  indices : String → Option String
  keyed : ∀ {id doc}, cache id = some doc → doc.sessionID = id

namespace MemoryStore

def empty : MemoryStore where
  cache := fun _ => none
  indices := fun _ => none
  keyed := by simp

/-- What a method returns, with the store it leaves behind. -/
abbrev Outcome (α : Type) := Except StoreError α × MemoryStore

variable (store : MemoryStore)

variable (doc : AuthorizationContext)

/-- `c.cache.Set` under the document's session id. -/
def put : MemoryStore :=
  { store with
    cache := update store.cache doc.sessionID (some doc)
    keyed := by
      intro id other stored
      by_cases same : id = doc.sessionID
      · subst same
        rw [update_self, Option.some.injEq] at stored
        rw [stored]
      · rw [update_of_ne same] at stored
        exact store.keyed stored }

/-- `c.cache.Delete`. -/
def drop (id : String) : MemoryStore :=
  { store with
    cache := update store.cache id none
    keyed := by
      intro other doc stored
      by_cases same : other = id
      · subst same
        simp at stored
      · rw [update_of_ne same] at stored
        exact store.keyed stored }

def index (key sessionID : String) : MemoryStore :=
  { store with indices := update store.indices key (some sessionID) }

/-- `delete(c.indices, key)`. -/
def unindex (key : String) : MemoryStore :=
  { store with indices := update store.indices key none }

/-- `updateIndices`: an entry for every searchable value of the document. -/
def updateIndices : MemoryStore :=
  doc.indexEntries.foldl
    (fun store entry => store.index (indexKey entry.1 entry.2) doc.sessionID) store

/-- `deleteIndices`: no entry for any searchable value of the document. -/
def deleteIndices : MemoryStore :=
  doc.indexEntries.foldl (fun store entry => store.unindex (indexKey entry.1 entry.2)) store

/-- The document that an index entry leads to. -/
def byIndex (field : IndexField) (value : String) : Option AuthorizationContext :=
  (store.indices (indexKey field value)).bind store.cache

/-- A method's failure, which leaves the store as it is. -/
def fail {α : Type} (error : StoreError) : Outcome α :=
  (.error error, store)

/-! ## Reading -/

variable (query : AuthorizationContext)

/-- The members that a query is resolved by after its session id, in order. -/
def queryFields : List (IndexField × String) :=
  [(.requestURI, query.requestURI), (.code, query.code), (.state, query.state),
    (.verifierResponseCode, query.verifierResponseCode),
    (.ephemeralKeyID, query.ephemeralEncryptionKeyID),
    (.requestObjectID, query.requestObjectID), (.authSession, query.authSession),
    (.issuerState, query.issuerState)]

def resolveSessionID : Except StoreError String :=
  if query.sessionID ≠ "" then .ok query.sessionID
  else
    match (queryFields query).find? (fun entry => entry.2 ≠ "") with
    | none => .error (.message "no searchable field set on the query")
    | some (field, value) =>
      match store.indices (indexKey field value) with
      | none => .error .noDocuments
      | some sessionID => .ok sessionID

/-- `Get`, and `GetSnapshot` without the copy. -/
def get : Except StoreError AuthorizationContext :=
  match store.resolveSessionID query with
  | .error error => .error error
  | .ok sessionID =>
    match store.cache sessionID with
    | none => .error .noDocuments
    | some doc => .ok doc

def getByID (id : String) : Except StoreError AuthorizationContext :=
  if id = "" then .error (.message "id cannot be empty")
  else
    match store.cache id with
    | none => .error .noDocuments
    | some doc => .ok doc

/-- The shared body of the reads by one indexed value. -/
def getByIndex (field : IndexField) (value emptyMessage : String) :
    Except StoreError AuthorizationContext :=
  if value = "" then .error (.message emptyMessage)
  else
    match store.byIndex field value with
    | none => .error .noDocuments
    | some doc => .ok doc

def getByAuthorizationCode (code : String) : Except StoreError AuthorizationContext :=
  store.getByIndex .code code "code cannot be empty"

def getByAccessToken (token : String) : Except StoreError AuthorizationContext :=
  store.getByIndex .accessToken token "token cannot be empty"

def getWithAccessToken (token : String) : Except StoreError AuthorizationContext :=
  store.getByIndex .accessToken token "token cannot be empty"

def getByRefreshToken (refreshToken : String) : Except StoreError AuthorizationContext :=
  store.getByIndex .refreshToken refreshToken "refresh_token cannot be empty"

/-! ## Writing -/

/-- The creation time that `Save` gives a document: its own, or that of the
document it replaces, or the present time. -/
def anchor (now : Time) : Time :=
  if doc.createdAt = 0 then
    match store.cache doc.sessionID with
    | some stored => if stored.createdAt ≠ 0 then stored.createdAt else now
    | none => now
  else doc.createdAt

/-- `Save`.  The entries of the document that is replaced stay in the indices. -/
def save (now : Time) : Outcome Unit :=
  if doc.sessionID = "" then store.fail (.message "sessionID is required")
  else if !doc.validate then store.fail (.message "validation failed")
  else
    let saved := doc.createAt (store.anchor doc now)
    (.ok (), (store.put saved).updateIndices saved)

def update : Outcome Unit :=
  if doc.sessionID = "" then store.fail (.message "sessionID is required")
  else if !doc.validate then store.fail (.message "validation failed")
  else
    match store.cache doc.sessionID with
    | none => store.fail .noDocuments
    | some stored => (.ok (), ((store.deleteIndices stored).put doc).updateIndices doc)

def delete (id : String) : Outcome Unit :=
  if id = "" then store.fail (.message "id cannot be empty")
  else
    match store.cache id with
    | none => (.ok (), store.drop id)
    | some stored => (.ok (), (store.deleteIndices stored).drop id)

/-- The part of `ForfeitAuthorizationCode` behind the lookup. -/
def forfeitFound (found : Option AuthorizationContext) : Outcome AuthorizationContext :=
  match found with
  | none => store.fail .noDocuments
  | some doc =>
    if doc.forfeited then store.fail (.message "authorization code already forfeited")
    else (.ok doc.forfeit, (store.put doc.forfeit).updateIndices doc.forfeit)

def forfeitAuthorizationCode : Outcome AuthorizationContext :=
  if query.code ≠ "" then store.forfeitFound (store.byIndex .code query.code)
  else if query.requestURI ≠ "" then
    store.forfeitFound (store.byIndex .requestURI query.requestURI)
  else store.fail (.message "query must have code or request_uri")

def markCodeAsForfeited (id : String) : Outcome Unit :=
  if id = "" then store.fail (.message "id cannot be empty")
  else
    match store.cache id with
    | none => store.fail .noDocuments
    | some doc =>
      if doc.forfeited then store.fail (.message "authorization code already forfeited")
      else (.ok (), store.put doc.forfeit)

def redeemPreAuthorizedCode (code dpopThumbprint : String) : Outcome AuthorizationContext :=
  if code = "" then store.fail (.message "code cannot be empty")
  else if dpopThumbprint = "" then
    store.fail (.message "dpop thumbprint is required for pre-authorized code redemption")
  else if dpopThumbprint.utf8ByteSize > 128 then
    store.fail (.message "dpop thumbprint exceeds maximum length")
  else
    match store.byIndex .code code with
    | none => store.fail .noDocuments
    | some doc =>
      if doc.forfeited then
        store.fail (.message "pre-authorized code has been forfeited")
      else if dpopThumbprint ∈ doc.redeemedBy then
        store.fail (.message "pre-authorized code already redeemed by this client")
      else if doc.redeemedBy.length ≥ maxPreAuthRedeemers then
        store.fail
          (.message "pre-authorized code has reached the maximum number of redemptions")
      else
        (.ok (doc.redeem dpopThumbprint), store.put (doc.redeem dpopThumbprint))

def consumeTXCodeAttempt (code : String) : Outcome AuthorizationContext :=
  if code = "" then store.fail (.message "code cannot be empty")
  else
    match store.byIndex .code code with
    | none => store.fail .noDocuments
    | some doc =>
      if doc.forfeited then
        store.fail (.message "pre-authorized code has been forfeited")
      else if doc.txCodeAttempts ≥ maxTXCodeAttempts then
        (.error .txCodeAttemptsExceeded, store.put doc.forfeit)
      else
        (.ok doc.attempt, store.put doc.attempt)

def consent : Outcome Unit :=
  if query.requestURI = "" then store.fail (.message "request_uri cannot be empty")
  else
    match store.byIndex .requestURI query.requestURI with
    | none => store.fail .noDocuments
    | some doc =>
      (.ok (), (store.put doc.giveConsent).updateIndices doc.giveConsent)

def extendExpiry (expiresAt : Int) : Outcome Unit :=
  match store.get query with
  | .error error => store.fail error
  | .ok stored =>
    if stored.expiresAt ≥ expiresAt then (.ok (), store)
    else
      let extended := stored.expireAt expiresAt
      (.ok (), (store.put extended).updateIndices extended)

/-- `AddToken`.  The entry of the replaced access token stays in the indices. -/
def addToken (code : String) (token : Option Token) : Outcome Unit :=
  if code = "" then store.fail (.message "code cannot be empty")
  else
    match store.byIndex .code code with
    | none => store.fail .noDocuments
    | some doc =>
      (.ok (), (store.put (doc.grant token)).updateIndices (doc.grant token))

def rotateRefreshToken (oldToken : String) (updated : AuthorizationContext) : Outcome Unit :=
  if oldToken = "" then store.fail (.message "old refresh token cannot be empty")
  else if updated.sessionID = "" then
    store.fail (.message "updated document with session_id is required")
  else
    match store.indices (indexKey .refreshToken oldToken) with
    | none => store.fail .noDocuments
    | some sessionID =>
      if updated.sessionID ≠ sessionID then
        store.fail (.message ("session_id mismatch: index resolves to \"" ++ sessionID ++
          "\" but updated document has \"" ++ updated.sessionID ++ "\""))
      else
        match store.cache sessionID with
        | none => store.fail .noDocuments
        | some doc =>
          if doc.refreshToken ≠ oldToken then store.fail .noDocuments
          else
            (.ok (), ((store.deleteIndices doc).put updated).updateIndices updated)

def setIdentifier (identifier : String) : Outcome Unit :=
  if identifier = "" then store.fail (.message "identifier cannot be empty")
  else if query.sessionID = "" then store.fail (.message "session_id cannot be empty")
  else
    match store.cache query.sessionID with
    | none => store.fail .noDocuments
    | some doc => (.ok (), store.put (doc.identify identifier))

def setAuthenticSource (authenticSource : String) : Outcome Unit :=
  if authenticSource = "" then store.fail (.message "authentic source cannot be empty")
  else if query.sessionID = "" then store.fail (.message "session_id cannot be empty")
  else
    match store.cache query.sessionID with
    | none => store.fail .noDocuments
    | some doc => (.ok (), store.put (doc.sourceFrom authenticSource))

def setAuthProvider (sessionID : String) (fields : AuthProviderFields) : Outcome Unit :=
  if sessionID = "" then store.fail (.message "sessionID is required")
  else
    match store.cache sessionID with
    | none => store.fail .noDocuments
    | some doc =>
      let updated := doc.provideBy fields
      (.ok (), (store.put updated).updateIndices updated)

/-! ## Claiming one-shot handles -/

/-- `ClaimAuthSession`, over `claimIndexedHandle`. -/
def claimAuthSession (authSession : String) : Outcome AuthorizationContext :=
  if authSession = "" then store.fail (.message "authSession cannot be empty")
  else
    match store.indices (indexKey .authSession authSession) with
    | none => store.fail .noDocuments
    | some sessionID =>
      match store.cache sessionID with
      | none => (store.unindex (indexKey .authSession authSession)).fail .noDocuments
      | some stored =>
        if stored.authSession ≠ authSession then store.fail .noDocuments
        else
          (.ok stored.releaseAuthSession,
            (store.unindex (indexKey .authSession authSession)).put
              stored.releaseAuthSession)

def claimIssuerState (issuerState : String)
    (opened : AuthorizationContext) : Outcome AuthorizationContext :=
  if issuerState = "" then store.fail (.message "issuerState cannot be empty")
  else if opened.sessionID = "" then
    store.fail (.message "opened document with session_id is required")
  else if !opened.releaseIssuerState.validate then store.fail (.message "validation failed")
  else
    match store.indices (indexKey .issuerState issuerState) with
    | none => store.fail .noDocuments
    | some sessionID =>
      if sessionID ≠ opened.sessionID then store.fail .noDocuments
      else
        match store.cache sessionID with
        | none => (store.unindex (indexKey .issuerState issuerState)).fail .noDocuments
        | some stored =>
          if stored.issuerState ≠ issuerState then store.fail .noDocuments
          else
            (.ok opened.releaseIssuerState,
              (((store.deleteIndices stored).unindex
                (indexKey .issuerState issuerState)).put
                  opened.releaseIssuerState).updateIndices opened.releaseIssuerState)

def resumeIssuerState (issuerState : String)
    (resume : IssuerStateResume) : Outcome AuthorizationContext :=
  if issuerState = "" then store.fail (.message "issuerState cannot be empty")
  else
    match store.indices (indexKey .issuerState issuerState) with
    | none => store.fail .noDocuments
    | some sessionID =>
      match store.cache sessionID with
      | none => (store.unindex (indexKey .issuerState issuerState)).fail .noDocuments
      | some stored =>
        if stored.issuerState ≠ issuerState then store.fail .noDocuments
        else
          let resumed := resume.applyTo stored.releaseIssuerState
          (.ok resumed,
            ((store.deleteIndices stored).put resumed).updateIndices resumed)

/-- The store as an executor of the interface's calls. -/
def execute : Executor storeInterface MemoryStore
  | .save doc now, store => store.save doc now
  | .get query, store => (store.get query, store)
  | .getSnapshot query, store => (store.get query, store)
  | .getByID id, store => (store.getByID id, store)
  | .getByAuthorizationCode code, store => (store.getByAuthorizationCode code, store)
  | .getByAccessToken token, store => (store.getByAccessToken token, store)
  | .getWithAccessToken token, store => (store.getWithAccessToken token, store)
  | .getByRefreshToken refreshToken, store => (store.getByRefreshToken refreshToken, store)
  | .update doc, store => store.update doc
  | .delete id, store => store.delete id
  | .forfeitAuthorizationCode query, store => store.forfeitAuthorizationCode query
  | .markCodeAsForfeited id, store => store.markCodeAsForfeited id
  | .redeemPreAuthorizedCode code dpopThumbprint, store =>
    store.redeemPreAuthorizedCode code dpopThumbprint
  | .consumeTXCodeAttempt code, store => store.consumeTXCodeAttempt code
  | .consent query, store => store.consent query
  | .extendExpiry query expiresAt, store => store.extendExpiry query expiresAt
  | .addToken code token, store => store.addToken code token
  | .rotateRefreshToken oldToken updated, store => store.rotateRefreshToken oldToken updated
  | .setIdentifier query identifier, store => store.setIdentifier query identifier
  | .setAuthenticSource query authenticSource, store =>
    store.setAuthenticSource query authenticSource
  | .setAuthProvider sessionID fields, store => store.setAuthProvider sessionID fields
  | .claimAuthSession authSession, store => store.claimAuthSession authSession
  | .claimIssuerState issuerState opened, store => store.claimIssuerState issuerState opened
  | .resumeIssuerState issuerState resume, store =>
    store.resumeIssuerState issuerState resume

end MemoryStore

end Vc.Cache
