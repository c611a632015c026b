import Vc.Cache.Contract
import Vc.Data.Collection

/-!
# The MongoDB store

`MongoStore` of `pkg/cache/mongo_store.go`, over one collection with a unique
index on `session_id`.  A method is a process whose steps are the calls it
sends to the database, each of which is atomic.  Errors of the connection are
left out: a call either matches or it does not.

A document is written through `MarshalBSON` and read through `UnmarshalBSON`,
so what is stored is a `Record`: the members as BSON holds them, and the exact
copy of the DCQL query.
-/

namespace Vc.Cache

open Concurrent Collection

/-- A stored document: its members, and `dcql_query_exact`. -/
structure Record where
  context : AuthorizationContext
  dcqlQueryExact : Option DCQL := none
  deriving Inhabited

/-- What the BSON encoding does to the values that it need not keep: a DCQL
query can be rounded or be impossible to hold, values of type `any` can come
back as another type, and some documents have no encoding. -/
structure Bson where
  holds : DCQL → Bool
  dcql : DCQL → DCQL
  claims : List (String × Json) → List (String × Json)
  details : List Json → List Json := id
  rest : List (String × Json) → List (String × Json) := id
  encodes : AuthorizationContext → Bool := fun _ => true

/-- An encoding that keeps everything. -/
def Bson.lossless : Bson where
  holds _ := true
  dcql := id
  claims := id

/-- BSON times count milliseconds. -/
def wholeMilliseconds (time : Time) : Time :=
  time - time % 1000000

/-- `MarshalBSON` of a document that has an encoding: the query is written as a
document, if BSON can hold it, and as the exact text. -/
def Bson.marshal (bson : Bson) (doc : AuthorizationContext) : Record where
  context :=
    { doc with
      createdAt := wholeMilliseconds doc.createdAt
      authorizationDetails := bson.details doc.authorizationDetails
      verifiedClaims := bson.claims doc.verifiedClaims
      rest := bson.rest doc.rest
      dcqlQuery := (doc.dcqlQuery.filter bson.holds).map bson.dcql }
  dcqlQueryExact := doc.dcqlQuery

namespace Record

variable (record : Record)

/-- `UnmarshalBSON`: the exact copy of the query is preferred. -/
def unmarshal : AuthorizationContext :=
  { record.context with
    dcqlQuery := record.dcqlQueryExact.or record.context.dcqlQuery }

/-- The key of the collection. -/
def sessionID : String :=
  record.context.sessionID

@[simp]
theorem unmarshal_forfeited : record.unmarshal.forfeited = record.context.forfeited :=
  rfl

@[simp]
theorem unmarshal_redeemedBy : record.unmarshal.redeemedBy = record.context.redeemedBy :=
  rfl

@[simp]
theorem unmarshal_txCodeAttempts :
    record.unmarshal.txCodeAttempts = record.context.txCodeAttempts :=
  rfl

/-- The filter on one searchable member. -/
def has (field : IndexField) (value : String) (record : Record) : Bool :=
  match field with
  | .requestURI => value = record.context.requestURI
  | .code => value = record.context.code
  | .state => value = record.context.state
  | .verifierResponseCode => value = record.context.verifierResponseCode
  | .ephemeralKeyID => value = record.context.ephemeralEncryptionKeyID
  | .requestObjectID => value = record.context.requestObjectID
  | .authSession => value = record.context.authSession
  | .issuerState => value = record.context.issuerState
  | .accessToken =>
    record.context.token.any (fun token => value = token.accessToken) ||
      value = record.context.accessToken
  | .refreshToken => value = record.context.refreshToken

/-- The filter `{"session_id": id}`. -/
def isSession (id : String) (record : Record) : Bool :=
  record.sessionID = id

/-- The filter `{"forfeited": {"$ne": true}}`. -/
def notForfeited : Bool :=
  !record.context.forfeited

/-- An update of members other than the session id. -/
def updating (change : AuthorizationContext → AuthorizationContext)
    (keeps : ∀ doc, (change doc).sessionID = doc.sessionID) :
    Update Record.sessionID where
  apply record := { record with context := change record.context }
  keyed record := keeps record.context

end Record

/-- The calls that the store sends to its collection.  A replacement carries
the session id that its filter asks for, so the filter here is the rest. -/
inductive MongoCall where
  | findOne (filter : Record → Bool)
  | findOneAndUpdate (filter : Record → Bool) (update : Update Record.sessionID)
      (returnAfter : Bool)
  | findOneAndReplace (filter : Record → Bool) (replacement : Record)
  | updateOne (filter : Record → Bool) (update : Update Record.sessionID)
  | replaceOne (filter : Record → Bool) (replacement : Record) (upsert : Bool)
  | deleteOne (filter : Record → Bool)
  | countDocuments (filter : Record → Bool)

/-- What a call answers with: a record, or the count of matched documents. -/
abbrev MongoCall.Result : MongoCall → Type
  | .findOne _ | .findOneAndUpdate _ _ _ | .findOneAndReplace _ _ => Option Record
  | .updateOne _ _ | .replaceOne _ _ _ | .countDocuments _ => Nat
  | .deleteOne _ => Unit

/-- The database as a shared component. -/
abbrev mongoInterface : Interface where
  Call := MongoCall
  Answer := MongoCall.Result

/-- The collection of the store, under its unique session ids. -/
abbrev Database := Collection Record.sessionID

namespace Database

/-- The record that a replacement takes the place of. -/
def replaced (database : Database) (filter : Record → Bool) (replacement : Record) :
    Option Record :=
  database.findOne fun record => record.isSession replacement.sessionID && filter record

theorem replaced_any (database : Database) (replacement : Record) :
    database.replaced (fun _ => true) replacement = database.lookup replacement.sessionID := by
  simp [Database.replaced, lookup, Record.isSession]

/-- Every call is one atomic step on the collection. -/
def execute : Executor mongoInterface Database
  | .findOne filter, database => (database.findOne filter, database)
  | .findOneAndUpdate filter update returnAfter, database =>
    ((database.findOne filter).map fun record =>
        if returnAfter then update.apply record else record,
      database.updateOne filter update)
  | .findOneAndReplace filter replacement, database =>
    match database.replaced filter replacement with
    | none => (none, database)
    | some _ => (some replacement, database.write replacement)
  | .updateOne filter update, database =>
    ((database.findOne filter).toList.length, database.updateOne filter update)
  | .replaceOne filter replacement upsert, database =>
    match database.replaced filter replacement with
    | none => (0, if upsert then database.write replacement else database)
    | some _ => (1, database.write replacement)
  | .deleteOne filter, database => ((), database.deleteOne filter)
  | .countDocuments filter, database => (database.countDocuments filter, database)

end Database

namespace MongoStore

/-- A method: a process over the database that ends in an error or a result. -/
abbrev Method (α : Type) := Process mongoInterface (Except StoreError α)

/-- End a method with an error. -/
def fail {α : Type} (error : StoreError) : Method α :=
  .done (.error error)

/-! ## Reading -/

variable (query : AuthorizationContext)

def buildFilter : Option (Record → Bool) :=
  if query.sessionID ≠ "" then some (Record.isSession query.sessionID)
  else if query.requestURI ≠ "" then some (Record.has .requestURI query.requestURI)
  else if query.code ≠ "" then some (Record.has .code query.code)
  else if query.state ≠ "" then some (Record.has .state query.state)
  else if query.verifierResponseCode ≠ "" then
    some (Record.has .verifierResponseCode query.verifierResponseCode)
  else if query.ephemeralEncryptionKeyID ≠ "" then
    some (Record.has .ephemeralKeyID query.ephemeralEncryptionKeyID)
  else if query.requestObjectID ≠ "" then
    some (Record.has .requestObjectID query.requestObjectID)
  else if query.issuerState ≠ "" then some (Record.has .issuerState query.issuerState)
  else if query.authSession ≠ "" then some (Record.has .authSession query.authSession)
  else none

/-- The shared body of the reads: the document that a filter finds. -/
def find (filter : Record → Bool) : Method AuthorizationContext :=
  .call (.findOne filter) fun
    | none => fail .noDocuments
    | some record => .done (.ok record.unmarshal)

/-- `Get`, and `GetSnapshot`, which is the same. -/
def get : Method AuthorizationContext :=
  match buildFilter query with
  | none => fail (.message "query must have at least one search field")
  | some filter => find filter

def getByID (id : String) : Method AuthorizationContext :=
  if id = "" then fail (.message "id cannot be empty")
  else find (Record.isSession id)

/-- The shared body of the reads by one searchable value. -/
def getByField (field : IndexField) (value emptyMessage : String) : Method AuthorizationContext :=
  if value = "" then fail (.message emptyMessage)
  else find (Record.has field value)

def getByAuthorizationCode (code : String) : Method AuthorizationContext :=
  getByField .code code "code cannot be empty"

/-- `GetByAccessToken`, and `GetWithAccessToken`, which calls it. -/
def getByAccessToken (token : String) : Method AuthorizationContext :=
  getByField .accessToken token "token cannot be empty"

def getByRefreshToken (refreshToken : String) : Method AuthorizationContext :=
  getByField .refreshToken refreshToken "refresh_token cannot be empty"

/-! ## Writing -/

/-- The shared body of the methods that set members of one document. -/
def set (filter : Record → Bool) (change : AuthorizationContext → AuthorizationContext)
    (keeps : ∀ doc, (change doc).sessionID = doc.sessionID) : Method Unit :=
  .call (.updateOne filter (Record.updating change keeps)) fun
    | 0 => fail .noDocuments
    | _ + 1 => .done (.ok ())

variable (bson : Bson)

/-- The shared body of the methods that replace one document. -/
def replace (filter : Record → Bool) (doc : AuthorizationContext) : Method Unit :=
  .call (.replaceOne filter (bson.marshal doc) false) fun
    | 0 => fail .noDocuments
    | _ + 1 => .done (.ok ())

/-- `Save`.  A document without an anchor gets the present time. -/
def save (doc : AuthorizationContext) (now : Time) : Method Unit :=
  if doc.sessionID = "" then fail (.message "sessionID is required")
  else if !doc.validate then fail (.message "validation failed")
  else
    let saved := doc.createAt (if doc.createdAt = 0 then now else doc.createdAt)
    .call (.replaceOne (fun _ => true) (bson.marshal saved) true) fun _ => .done (.ok ())

def update (doc : AuthorizationContext) : Method Unit :=
  if doc.sessionID = "" then fail (.message "sessionID is required")
  else if !doc.validate then fail (.message "validation failed")
  else replace bson (fun _ => true) doc

def delete (id : String) : Method Unit :=
  if id = "" then fail (.message "id cannot be empty")
  else .call (.deleteOne (Record.isSession id)) fun _ => .done (.ok ())

def forfeitAuthorizationCode : Method AuthorizationContext :=
  match buildFilter query with
  | none => fail (.message "query must have code or request_uri")
  | some filter =>
    .call (.findOne filter) fun
      | none => fail .noDocuments
      | some record =>
        if record.unmarshal.forfeited then
          fail (.message "authorization code already forfeited")
        else
          .call (.findOneAndUpdate (fun record => filter record && record.notForfeited)
              (Record.updating .forfeit fun _ => rfl) true) fun
            | none => fail (.message "authorization code already forfeited")
            | some record => .done (.ok record.unmarshal)

def markCodeAsForfeited (id : String) : Method Unit :=
  if id = "" then fail (.message "id cannot be empty")
  else
    .call (.updateOne (fun record => record.isSession id && record.notForfeited)
        (Record.updating .forfeit fun _ => rfl)) fun
      | 0 =>
        .call (.countDocuments (Record.isSession id)) fun
          | 0 => fail .noDocuments
          | _ + 1 => fail (.message "authorization code already forfeited")
      | _ + 1 => .done (.ok ())

/-- The filter of `RedeemPreAuthorizedCode`. -/
def redeemable (code dpopThumbprint : String) (record : Record) : Bool :=
  record.has .code code && record.notForfeited &&
    dpopThumbprint ∉ record.context.redeemedBy &&
    record.context.redeemedBy.length < maxPreAuthRedeemers

/-- `$addToSet` on `redeemed_by`. -/
def addRedeemer (dpopThumbprint : String) (doc : AuthorizationContext) : AuthorizationContext :=
  if dpopThumbprint ∈ doc.redeemedBy then doc else doc.redeem dpopThumbprint

theorem addRedeemer_sessionID (dpopThumbprint : String) (doc : AuthorizationContext) :
    (addRedeemer dpopThumbprint doc).sessionID = doc.sessionID := by
  rw [addRedeemer]
  split_ifs <;> rfl

def redeemPreAuthorizedCode (code dpopThumbprint : String) : Method AuthorizationContext :=
  if code = "" then fail (.message "code cannot be empty")
  else if dpopThumbprint = "" then
    fail (.message "dpop thumbprint is required for pre-authorized code redemption")
  else if dpopThumbprint.utf8ByteSize > 128 then
    fail (.message "dpop thumbprint exceeds maximum length")
  else
    .call (.findOneAndUpdate (redeemable code dpopThumbprint)
        (Record.updating (addRedeemer dpopThumbprint) (addRedeemer_sessionID _)) true) fun
      | some record => .done (.ok record.unmarshal)
      | none =>
        .call (.findOne (Record.has .code code)) fun
          | none => fail .noDocuments
          | some existing =>
            if existing.unmarshal.forfeited then
              fail (.message "pre-authorized code has been forfeited")
            else if dpopThumbprint ∈ existing.unmarshal.redeemedBy then
              fail (.message "pre-authorized code already redeemed by this client")
            else if existing.unmarshal.redeemedBy.length ≥ maxPreAuthRedeemers then
              fail (.message "pre-authorized code has reached the maximum number of redemptions")
            else fail (.message "failed to redeem pre-authorized code")

/-- The filter of `ConsumeTXCodeAttempt`. -/
def attemptable (code : String) (record : Record) : Bool :=
  record.has .code code && record.notForfeited &&
    record.context.txCodeAttempts < maxTXCodeAttempts

def consumeTXCodeAttempt (code : String) : Method AuthorizationContext :=
  if code = "" then fail (.message "code cannot be empty")
  else
    .call (.findOneAndUpdate (attemptable code) (Record.updating .attempt fun _ => rfl) true) fun
      | some record => .done (.ok record.unmarshal)
      | none =>
        .call (.findOne (Record.has .code code)) fun
          | none => fail .noDocuments
          | some existing =>
            if existing.unmarshal.forfeited then
              fail (.message "pre-authorized code has been forfeited")
            else if existing.unmarshal.txCodeAttempts ≥ maxTXCodeAttempts then
              .call (.updateOne (fun record => record.has .code code && record.notForfeited)
                  (Record.updating .forfeit fun _ => rfl)) fun _ =>
                fail .txCodeAttemptsExceeded
            else fail (.message "failed to record tx_code attempt")

def consent : Method Unit :=
  if query.requestURI = "" then fail (.message "request_uri cannot be empty")
  else set (Record.has .requestURI query.requestURI) .giveConsent fun _ => rfl

/-- `$max` on `expires_at`. -/
def raiseExpiry (expiresAt : Int) (doc : AuthorizationContext) : AuthorizationContext :=
  if doc.expiresAt ≥ expiresAt then doc else doc.expireAt expiresAt

theorem raiseExpiry_sessionID (expiresAt : Int) (doc : AuthorizationContext) :
    (raiseExpiry expiresAt doc).sessionID = doc.sessionID := by
  rw [raiseExpiry]
  split_ifs <;> rfl

def extendExpiry (expiresAt : Int) : Method Unit :=
  match buildFilter query with
  | none => fail (.message "no searchable field set on the query")
  | some filter => set filter (raiseExpiry expiresAt) (raiseExpiry_sessionID expiresAt)

def addToken (code : String) (token : Option Token) : Method Unit :=
  if code = "" then fail (.message "code cannot be empty")
  else set (Record.has .code code) (.grant · token) fun _ => rfl

def rotateRefreshToken (oldToken : String) (updated : AuthorizationContext) : Method Unit :=
  if oldToken = "" then fail (.message "old refresh token cannot be empty")
  else if updated.sessionID = "" then
    fail (.message "updated document with session_id is required")
  else replace bson (Record.has .refreshToken oldToken) updated

def setIdentifier (identifier : String) : Method Unit :=
  if identifier = "" then fail (.message "identifier cannot be empty")
  else if query.sessionID = "" then fail (.message "session_id cannot be empty")
  else set (Record.isSession query.sessionID) (.identify · identifier) fun _ => rfl

def setAuthenticSource (authenticSource : String) : Method Unit :=
  if authenticSource = "" then fail (.message "authentic source cannot be empty")
  else if query.sessionID = "" then fail (.message "session_id cannot be empty")
  else set (Record.isSession query.sessionID) (.sourceFrom · authenticSource) fun _ => rfl

def setAuthProvider (sessionID : String) (fields : AuthProviderFields) : Method Unit :=
  if sessionID = "" then fail (.message "sessionID is required")
  else set (Record.isSession sessionID) (.provideBy · fields) fun _ => rfl

/-! ## Claiming one-shot handles -/

/-- `ClaimAuthSession`: the document before the update, without the handle. -/
def claimAuthSession (authSession : String) : Method AuthorizationContext :=
  if authSession = "" then fail (.message "authSession cannot be empty")
  else
    .call (.findOneAndUpdate (Record.has .authSession authSession)
        (Record.updating .releaseAuthSession fun _ => rfl) false) fun
      | none => fail .noDocuments
      | some record => .done (.ok record.unmarshal.releaseAuthSession)

def claimIssuerState (issuerState : String) (opened : AuthorizationContext) :
    Method AuthorizationContext :=
  if issuerState = "" then fail (.message "issuerState cannot be empty")
  else if opened.sessionID = "" then
    fail (.message "opened document with session_id is required")
  else if !opened.releaseIssuerState.validate then fail (.message "validation failed")
  else
    .call (.findOneAndReplace (Record.has .issuerState issuerState)
        (bson.marshal opened.releaseIssuerState)) fun
      | none => fail .noDocuments
      | some record => .done (.ok record.unmarshal)

/-- The update of `ResumeIssuerState`.  It sets `dcql_query`, and leaves
`dcql_query_exact` as it was. -/
def resuming (resume : IssuerStateResume) (doc : AuthorizationContext) : AuthorizationContext :=
  { resume.applyTo doc.releaseIssuerState with
    createdAt := wholeMilliseconds resume.createdAt
    dcqlQuery := resume.dcqlQuery.map bson.dcql }

theorem resuming_sessionID (resume : IssuerStateResume) (doc : AuthorizationContext) :
    (resuming bson resume doc).sessionID = doc.sessionID :=
  rfl

/-- `ResumeIssuerState`.  An exchange whose query BSON cannot hold is not sent. -/
def resumeIssuerState (issuerState : String) (resume : IssuerStateResume) :
    Method AuthorizationContext :=
  if issuerState = "" then fail (.message "issuerState cannot be empty")
  else if !resume.dcqlQuery.all bson.holds then
    fail (.message "failed to resume issuer_state")
  else
    .call (.findOneAndUpdate (Record.has .issuerState issuerState)
        (Record.updating (resuming bson resume) (resuming_sessionID bson resume)) true) fun
      | none => fail .noDocuments
      | some record => .done (.ok record.unmarshal)

/-- Every call of the interface as the method that serves it. -/
def method : (call : StoreCall) → Method call.Result
  | .save doc now => save bson doc now
  | .get query | .getSnapshot query => get query
  | .getByID id => getByID id
  | .getByAuthorizationCode code => getByAuthorizationCode code
  | .getByAccessToken token | .getWithAccessToken token => getByAccessToken token
  | .getByRefreshToken refreshToken => getByRefreshToken refreshToken
  | .update doc => update bson doc
  | .delete id => delete id
  | .forfeitAuthorizationCode query => forfeitAuthorizationCode query
  | .markCodeAsForfeited id => markCodeAsForfeited id
  | .redeemPreAuthorizedCode code dpopThumbprint =>
    redeemPreAuthorizedCode code dpopThumbprint
  | .consumeTXCodeAttempt code => consumeTXCodeAttempt code
  | .consent query => consent query
  | .extendExpiry query expiresAt => extendExpiry query expiresAt
  | .addToken code token => addToken code token
  | .rotateRefreshToken oldToken updated => rotateRefreshToken bson oldToken updated
  | .setIdentifier query identifier => setIdentifier query identifier
  | .setAuthenticSource query authenticSource => setAuthenticSource query authenticSource
  | .setAuthProvider sessionID fields => setAuthProvider sessionID fields
  | .claimAuthSession authSession => claimAuthSession authSession
  | .claimIssuerState issuerState opened => claimIssuerState bson issuerState opened
  | .resumeIssuerState issuerState resume => resumeIssuerState bson issuerState resume

/-- A method run without other methods in between. -/
def execute : Executor storeInterface Database :=
  fun call database => (method bson call).run Database.execute database

/-- The document that a call has encoded. -/
def encoded : StoreCall → Option AuthorizationContext
  | .save doc now => some (doc.createAt (if doc.createdAt = 0 then now else doc.createdAt))
  | .update doc | .rotateRefreshToken _ doc => some doc
  | .claimIssuerState _ opened => some opened.releaseIssuerState
  | _ => none

/-- A call fails before it reaches the database if `MarshalBSON` fails. -/
def executeEncoded : Executor storeInterface Database :=
  fun call database =>
    if (encoded call).all bson.encodes then execute bson call database
    else (.error (.message "failed to encode auth context"), database)

end MongoStore

end Vc.Cache
