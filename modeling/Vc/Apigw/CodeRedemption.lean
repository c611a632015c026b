import Vc.Apigw.Presentation
import Vc.Cache.MongoStore
import Vc.Concurrent.Pool

/-!
# Redeeming an authorization code beside other handlers

Token requests for one authorization code, over MongoDB, interleaved with the
handlers that read the session of the code and later write it back whole.
Consuming the code is one atomic update, so among themselves the token requests
are safe.  A session that is written back can undo it: the main theorem takes the
runs in which every such write finds the mark of the code and the token as the
handler has read them.
-/

namespace Vc.Apigw

open Cache Concurrent Database Collection Gateway PresentationService Function Protocol Record

/-! ## Requests -/

/-- The requests that reach the session of a code. -/
inductive SessionRequest where
  | token (call : TokenCall)
  | requestObject (id : String)
  | directPost (kid : String) (response : VPResponse)

/-- What these requests are answered with. -/
inductive SessionReply where
  | token (result : Except HandlerError TokenResponse)
  | presentation (result : Except HandlerError String)

/-- The gateway with its presentations. -/
structure Site where
  gateway : Gateway
  presentations : PresentationService

/-- The handler of a request. -/
def Site.serve (site : Site) : SessionRequest → Process gatewayInterface SessionReply
  | .token call => (site.gateway.oauthToken call).bind fun result => .done (.token result)
  | .requestObject id =>
    (site.presentations.verificationRequestObject id).bind fun result =>
      .done (.presentation result)
  | .directPost kid response =>
    (site.presentations.verificationDirectPost kid response).bind fun result =>
      .done (.presentation result)

/-- The calls of the handlers over MongoDB; a comparison needs no call. -/
def mongoGateway (bson : Bson) : (call : GatewayCall) → Process mongoInterface call.Result
  | .store call => MongoStore.method bson call
  | .compareTXCode expected presented => .done (expected = presented)

variable {ι : Type} [DecidableEq ι]

/-- The pool in which these requests are about to be served. -/
def Site.serving (site : Site) (bson : Bson) (database : Database)
    (requests : ι → SessionRequest) : Pool ι mongoInterface Database SessionReply :=
  .initial database fun index => (site.serve (requests index)).interpret (mongoGateway bson)

/-! ## The invariant -/

/-- A document with the code is that of the session, and not pre-authorized. -/
def Belongs (session code : String) (doc : AuthorizationContext) : Prop :=
  doc.code = code → doc.sessionID = session ∧ doc.preAuthorized = false

/-- How far a request has come: it has not consumed the code, it has, or it has
stored its token as well. -/
inductive Progress where
  | idle
  | consumed
  | stored (token : Token)

/-- The request has consumed the code. -/
def Progress.HasConsumed : Progress → Prop
  | .idle => False
  | .consumed | .stored _ => True

/-- One request has consumed the code at most; then the session is marked, and it
holds the token of the request from the time it is stored. -/
structure OneRedemption (session code : String) (database : Database)
    (progress : ι → Progress) : Prop where
  belongs : ∀ id record, database.lookup id = some record → Belongs session code record.context
  unique : ∀ first second, (progress first).HasConsumed → (progress second).HasConsumed →
    first = second
  marked : ∀ index, (progress index).HasConsumed →
    ∃ record, database.lookup session = some record ∧ record.context.forfeited = true
  token : ∀ index token, progress index = .stored token →
    ∃ record, database.lookup session = some record ∧ record.context.token = some token

/-- The session to be written is stored with the same mark and the same token. -/
def Current (database : Database) (replacement : Record) : Prop :=
  ∀ record, database.lookup replacement.sessionID = some record →
    replacement.context.forfeited = record.context.forfeited ∧
      replacement.context.token = record.context.token

/-- The protocol of the handlers; those that are not token requests write a session
back only while it is current. -/
def redemption (session code : String) (requests : ι → SessionRequest) :
    Protocol ι mongoInterface Database Progress where
  inv database _ progress := OneRedemption session code database progress
  guard index request database _ _ :=
    (∀ call, requests index ≠ .token call) →
      ∀ filter replacement upsert, request = .replaceOne filter replacement upsert →
        Current database replacement

/-! ## Steps that keep the invariant -/

variable {session code : String} {database : Database} {progress : ι → Progress}

section

variable (one : OneRedemption session code database progress)

include one

variable {replacement : Record}

omit [DecidableEq ι] in
theorem OneRedemption.belongs_write
    (belongs : Belongs session code replacement.context) (id : String) (record : Record)
    (found : (database.write replacement).lookup id = some record) :
    Belongs session code record.context := by
  rw [lookup_write] at found
  split_ifs at found
  · cases found
    exact belongs
  · exact one.belongs id record found

omit [DecidableEq ι] in
/-- A session is written back as it is stored. -/
theorem OneRedemption.writeCurrent {old : Record}
    (stored : database.lookup replacement.sessionID = some old)
    (current : Current database replacement)
    (belongs : Belongs session code replacement.context) :
    OneRedemption session code (database.write replacement) progress := by
  obtain ⟨sameMark, sameToken⟩ := current old stored
  refine ⟨one.belongs_write belongs, one.unique, ?_, ?_⟩
  · intro index consumed
    obtain ⟨record, found, isMarked⟩ := one.marked index consumed
    rw [lookup_write]
    split_ifs with same
    · rw [same, stored] at found
      cases found
      exact ⟨_, rfl, sameMark.trans isMarked⟩
    · exact ⟨record, found, isMarked⟩
  · intro index token isStored
    obtain ⟨record, found, held⟩ := one.token index token isStored
    rw [lookup_write]
    split_ifs with same
    · rw [same, stored] at found
      cases found
      exact ⟨_, rfl, sameToken.trans held⟩
    · exact ⟨record, found, held⟩

omit [DecidableEq ι] in
/-- An update that keeps what the redemption of the code depends on. -/
theorem OneRedemption.updateOne
    (filter : Record → Bool) {change : AuthorizationContext → AuthorizationContext}
    {keeps : ∀ doc, (change doc).sessionID = doc.sessionID}
    (keepsCode : ∀ doc, (change doc).code = doc.code)
    (keepsKind : ∀ doc, (change doc).preAuthorized = doc.preAuthorized)
    (keepsMark : ∀ doc, (change doc).forfeited = doc.forfeited)
    (keepsToken : ∀ doc, (change doc).token = doc.token) :
    OneRedemption session code (database.updateOne filter (updating change keeps)) progress := by
  cases found : database.findOne filter with
  | none =>
    rw [updateOne_of_findOne_none found]
    exact one
  | some record =>
    rw [updateOne_of_findOne found]
    have stored := (lookup_of_findOne found).1
    have sameKey : ((updating change keeps).apply record).sessionID = record.sessionID :=
      keeps record.context
    refine one.writeCurrent (sameKey ▸ stored) ?_ ?_
    · intro other otherStored
      rw [sameKey, stored] at otherStored
      cases otherStored
      exact ⟨keepsMark _, keepsToken _⟩
    · intro hasCode
      obtain ⟨sameSession, notPreAuthorized⟩ :=
        one.belongs _ record stored ((keepsCode _).symm.trans hasCode)
      exact ⟨(keeps _).trans sameSession, (keepsKind _).trans notPreAuthorized⟩

/-- The atomic update that consumes the code finds it unmarked, so that no other
request has consumed it before. -/
theorem OneRedemption.consume
    {record : Record} (stored : database.lookup record.sessionID = some record)
    (hasCode : record.context.code = code) (unmarked : record.context.forfeited = false)
    {update : Collection.Update sessionID} (index : ι)
    (marks : update.apply record = { record with context := record.context.forfeit }) :
    OneRedemption session code (database.write (update.apply record))
      (Function.update progress index .consumed) := by
  have ofSession := (one.belongs _ record stored hasCode).1
  have none : ∀ other, ¬ (progress other).HasConsumed := by
    intro other consumed
    obtain ⟨found, foundStored, isMarked⟩ := one.marked other consumed
    have same : database.lookup session = some record := ofSession ▸ stored
    rw [same] at foundStored
    cases foundStored
    rw [unmarked] at isMarked
    contradiction
  have lookup : (database.write (update.apply record)).lookup session =
      some (update.apply record) := by
    rw [lookup_write, update.keyed]
    exact if_pos ofSession.symm
  refine ⟨one.belongs_write ?_, ?_, ?_, ?_⟩
  · rw [marks]
    exact one.belongs _ record stored
  · intro first second
    simp only [update_apply]
    split_ifs with isFirst isSecond isSecond
    · exact fun _ _ => isFirst.trans isSecond.symm
    · exact fun _ consumed => absurd consumed (none _)
    · exact fun consumed => absurd consumed (none first)
    · exact fun consumed => absurd consumed (none first)
  · intro other _
    exact ⟨_, lookup, by rw [marks]; rfl⟩
  · intro other token
    rw [update_apply]
    split_ifs
    · rintro ⟨⟩
    · intro isStored
      exact absurd (by rw [isStored]; trivial) (none _)

/-- The request that has consumed the code stores its token. -/
theorem OneRedemption.storeToken {index : ι} (consumed : progress index = .consumed) {token : Token}
    (ofSession : replacement.sessionID = session)
    (belongs : Belongs session code replacement.context)
    (isMarked : replacement.context.forfeited = true)
    (granted : replacement.context.token = some token) :
    OneRedemption session code (database.write replacement)
      (Function.update progress index (.stored token)) := by
  have lookup : (database.write replacement).lookup session = some replacement :=
    (lookup_write ..).trans (if_pos ofSession.symm)
  have hasConsumed : ∀ other, (Function.update progress index (.stored token) other).HasConsumed →
      (progress other).HasConsumed := by
    intro other
    rw [update_apply]
    split_ifs with same
    · subst same
      rw [consumed]
      exact id
    · exact id
  refine ⟨one.belongs_write belongs, ?_, ?_, ?_⟩
  · exact fun first second one' two => one.unique first second (hasConsumed _ one')
      (hasConsumed _ two)
  · exact fun _ _ => ⟨replacement, lookup, isMarked⟩
  · intro other token'
    rw [update_apply]
    split_ifs with same
    · intro isStored
      cases isStored
      exact ⟨replacement, lookup, granted⟩
    · intro isStored
      refine absurd (one.unique _ _ (by rw [isStored]; trivial) ?_) same
      rw [consumed]
      trivial

end

/-! ## Methods of the store -/

variable {requests : ι → SessionRequest} {index : ι} {bson : Bson}

/-- A document with the code of a query for it. -/
theorem code_of_buildFilter {filter : Record → Bool} {record : Record}
    (builds : MongoStore.buildFilter { code } = some filter) (accepted : filter record = true) :
    record.context.code = code := by
  by_cases noCode : code = ""
  · simp [MongoStore.buildFilter, noCode] at builds
  · simp only [MongoStore.buildFilter, ne_eq, not_true_eq_false, if_false, noCode,
      not_false_eq_true, if_true, Option.some.injEq] at builds
    subst builds
    simpa [has, eq_comm] using accepted

variable (query : AuthorizationContext)

theorem follows_get (current : Progress) :
    (redemption session code requests).Follows execute index
      (Keeping current fun doc => Belongs session code doc ∧
        ∃ filter record, MongoStore.buildFilter query = some filter ∧ filter record = true ∧
          doc = record.unmarshal)
      (MongoStore.get query) current := by
  rw [MongoStore.get]
  cases builds : MongoStore.buildFilter query with
  | none => exact rfl
  | some filter =>
    refine follows_call_of_keep fun database _ _ one _ _ => ⟨one, ?_⟩
    simp only [execute]
    cases found : database.findOne filter with
    | none => exact rfl
    | some record =>
      obtain ⟨stored, accepted⟩ := lookup_of_findOne found
      exact ⟨rfl, one.belongs _ _ stored, filter, record, rfl, accepted, rfl⟩

/-- Consuming the code. -/
theorem follows_forfeit :
    (redemption session code requests).Follows execute index
      (IfOk fun progress doc => progress = .consumed ∧ doc.sessionID = session ∧
        doc.preAuthorized = false ∧ doc.forfeited = true)
      (MongoStore.forfeitAuthorizationCode { code }) .idle := by
  rw [MongoStore.forfeitAuthorizationCode]
  cases builds : MongoStore.buildFilter { code } with
  | none => trivial
  | some filter =>
    refine follows_call_of_keep fun database _ _ one _ _ => ⟨one, ?_⟩
    cases (execute (.findOne filter) database).1 with
    | none => trivial
    | some _ =>
      simp only
      split_ifs
      · trivial
      · intro later _ progress one current _
        simp only [execute]
        cases found : later.findOne fun record => filter record && record.notForfeited with
        | none =>
          rw [updateOne_of_findOne_none found]
          refine ⟨.idle, ?_, trivial⟩
          rw [← current, update_eq_self]
          exact one
        | some record =>
          rw [updateOne_of_findOne found]
          obtain ⟨stored, accepted⟩ := lookup_of_findOne found
          rw [Bool.and_eq_true] at accepted
          have hasCode := code_of_buildFilter builds accepted.1
          have unmarked : record.context.forfeited = false := by
            simpa [notForfeited] using accepted.2
          obtain ⟨ofSession, notPreAuthorized⟩ := one.belongs _ record stored hasCode
          exact ⟨.consumed, one.consume stored hasCode unmarked _ rfl,
            rfl, ofSession, notPreAuthorized, rfl⟩

variable {doc : AuthorizationContext}

/-- Storing the token on the session of a consumed code. -/
theorem follows_updateToken {token : Token}
    (ofSession : doc.sessionID = session) (notPreAuthorized : doc.preAuthorized = false)
    (isMarked : doc.forfeited = true) (granted : doc.token = some token) :
    (redemption session code requests).Follows execute index
      (IfOk fun progress _ => progress = .stored token)
      (MongoStore.update bson doc) .consumed := by
  rw [MongoStore.update]
  split_ifs
  · trivial
  · trivial
  · intro database _ progress one current _
    simp only [execute, replaced_any]
    cases database.lookup (bson.marshal doc).sessionID with
    | none =>
      refine ⟨.consumed, ?_, trivial⟩
      rw [← current, update_eq_self]
      exact one
    | some old =>
      exact ⟨.stored _, one.storeToken current ofSession
        (fun _ => ⟨ofSession, notPreAuthorized⟩) isMarked granted, rfl⟩

/-- Writing back a session by a handler that is not a token request. -/
theorem follows_updateCurrent (other : ∀ call, requests index ≠ .token call)
    (belongs : Belongs session code doc) (current : Progress) :
    (redemption session code requests).Follows execute index (fun _ _ => True)
      (MongoStore.update bson doc) current := by
  rw [MongoStore.update]
  split_ifs
  · trivial
  · trivial
  · refine follows_call_of_keep fun database _ _ one _ guarded => ?_
    have isCurrent := guarded other _ _ _ rfl
    simp only [execute, replaced_any]
    cases stored : database.lookup (bson.marshal doc).sessionID with
    | none => exact ⟨one, trivial⟩
    | some old => exact ⟨one.writeCurrent stored isCurrent belongs, trivial⟩

/-- Recording an identifier. -/
theorem follows_setIdentifier (identifier : String) (current : Progress) :
    (redemption session code requests).Follows execute index (fun _ _ => True)
      (MongoStore.setIdentifier query identifier) current := by
  rw [MongoStore.setIdentifier]
  split_ifs
  · trivial
  · trivial
  · refine follows_call_of_keep fun database _ _ one _ _ =>
      ⟨one.updateOne _ (fun _ => rfl) (fun _ => rfl) (fun _ => rfl) fun _ => rfl, ?_⟩
    cases (execute (.updateOne _ _) database).1 <;> trivial

/-! ## Token requests -/

variable {gateway : Gateway} {call : TokenCall}

theorem follows_authenticateClient (clientID : String) :
    (redemption session call.code requests).Follows execute index
      (IfOk fun progress _ => progress = .idle)
      ((gateway.authenticateClient call clientID).interpret (mongoGateway bson)) .idle := by
  rw [authenticateClient]
  split_ifs
  · exact rfl
  · cases gateway.clients clientID with
    | some clientType => exact rfl
    | none =>
      simp only [authenticateAttested]
      cases gateway.evaluateAttestation call clientID with
      | error error => trivial
      | ok result =>
        refine (follows_get _ .idle).interpretCall fun answer progress reached => ?_
        cases answer with
        | error error => trivial
        | ok codeCtx =>
          simp only
          split_ifs
          · trivial
          · exact reached.1

/-- The look at the session of the code, which is never pre-authorized. -/
theorem follows_lookupCodeBeforeConsuming :
    (redemption session call.code requests).Follows execute index
      (IfOk fun progress found => progress = .idle ∧
        ∀ doc, found = some doc → doc.preAuthorized = false)
      ((lookupCodeBeforeConsuming call.code).interpret (mongoGateway bson)) .idle := by
  refine (follows_get _ .idle).interpretCall fun answer progress reached => ?_
  cases answer with
  | error error =>
    cases error with
    | noDocuments => exact ⟨reached, by rintro _ ⟨⟩⟩
    | txCodeAttemptsExceeded => trivial
    | message text => trivial
  | ok doc =>
    obtain ⟨idle, belongs, filter, record, builds, accepted, rfl⟩ := reached
    refine ⟨idle, ?_⟩
    rintro doc ⟨⟩
    exact (belongs (code_of_buildFilter builds accepted)).2

variable (clientID dpopThumbprint : String)

/-- The look before the consumption passes only an authorization code request. -/
theorem follows_preCheck :
    (redemption session call.code requests).Follows execute index
      (IfOk fun progress _ => progress = .idle ∧ call.isPreAuthFlow = false)
      ((if call.isPreAuthFlow then gateway.preCheckPreAuthorized call
        else preCheckCode call clientID dpopThumbprint).interpret (mongoGateway bson))
      .idle := by
  split_ifs with isPreAuthFlow
  · rw [preCheckPreAuthorized, Process.interpret_andThen]
    refine follows_lookupCodeBeforeConsuming.andThen ?_
    rintro found _ ⟨_, ordinary⟩
    cases found with
    | none => trivial
    | some preCheck =>
      simp only [checkPreAuthorized, ordinary preCheck rfl]
      trivial
  · rw [preCheckCode, Process.interpret_andThen]
    refine follows_lookupCodeBeforeConsuming.andThen ?_
    rintro found _ ⟨idle, _⟩
    cases checkCodeRequest call clientID dpopThumbprint (found.getD {}) with
    | error error => trivial
    | ok _ => exact ⟨idle, by simpa using isPreAuthFlow⟩

/-- The tokens that a request answers with are stored. -/
def Stored (progress : Progress) (response : TokenResponse) : Prop :=
  ∃ token, progress = .stored token ∧ token.accessToken = response.accessToken

theorem follows_consumeCode (dpopThumbprint : String) (ordinary : call.isPreAuthFlow = false) :
    (redemption session call.code requests).Follows execute index
      (IfOk fun progress doc => progress = .consumed ∧ doc.sessionID = session ∧
        doc.preAuthorized = false ∧ doc.forfeited = true)
      ((consumeCode call dpopThumbprint).interpret (mongoGateway bson)) .idle := by
  rw [consumeCode, if_neg (by simp [ordinary])]
  refine follows_forfeit.interpretCall fun answer progress reached => ?_
  cases answer with
  | error error => trivial
  | ok doc => exact reached

theorem follows_storeTokens (dpopThumbprint scope : String) {authCtx : AuthorizationContext}
    (ordinary : call.isPreAuthFlow = false) (ofSession : authCtx.sessionID = session)
    (notPreAuthorized : authCtx.preAuthorized = false) (isMarked : authCtx.forfeited = true) :
    (redemption session call.code requests).Follows execute index (IfOk Stored)
      ((gateway.storeTokens call dpopThumbprint scope authCtx).interpret (mongoGateway bson))
      .consumed := by
  have granted : (gateway.grantTokens call dpopThumbprint authCtx).token =
      some (tokenDoc call dpopThumbprint) :=
    rfl
  rw [storeTokens, if_neg (by simp [ordinary])]
  refine (follows_updateToken ?_ ?_ ?_ granted).interpretCall fun answer progress reached => ?_
  · exact ofSession
  · exact notPreAuthorized
  · exact isMarked
  cases answer with
  | error error => trivial
  | ok _ => exact ⟨_, reached, rfl⟩

theorem follows_redeemCode :
    (redemption session call.code requests).Follows execute index (IfOk Stored)
      ((gateway.redeemCode call clientID dpopThumbprint).interpret (mongoGateway bson))
      .idle := by
  rw [redeemCode, Process.interpret_andThen]
  refine (follows_preCheck _ _).andThen ?_
  rintro _ _ ⟨rfl, ordinary⟩
  rw [Process.interpret_andThen]
  refine (follows_consumeCode _ ordinary).andThen ?_
  rintro authCtx _ ⟨rfl, ofSession, notPreAuthorized, isMarked⟩
  cases gateway.checkConsumed call dpopThumbprint authCtx with
  | error error => trivial
  | ok scope =>
    exact follows_storeTokens _ _ ordinary ofSession notPreAuthorized isMarked

theorem follows_oauthToken :
    (redemption session call.code requests).Follows execute index
      (IfOk Stored) ((gateway.oauthToken call).interpret (mongoGateway bson)) .idle := by
  rw [oauthToken]
  cases gateway.claimedClientID call with
  | error error => trivial
  | ok clientID =>
    simp only
    split_ifs
    · trivial
    · rw [Process.interpret_andThen]
      refine (follows_authenticateClient _).andThen ?_
      rintro client _ rfl
      split_ifs
      · trivial
      · cases provenKey call with
        | error error => trivial
        | ok dpopThumbprint => exact follows_redeemCode _ _

/-! ## The other handlers -/

variable {service : PresentationService}

section

variable (other : ∀ call, requests index ≠ .token call)

include other

theorem follows_verificationRequestObject (id : String) (current : Progress) :
    (redemption session code requests).Follows execute index (fun _ _ => True)
      ((service.verificationRequestObject id).interpret (mongoGateway bson)) current := by
  refine (follows_get _ _).interpretCall fun answer progress reached => ?_
  cases answer with
  | error error => trivial
  | ok authCtx =>
    simp only
    cases service.matchScope authCtx.scopes with
    | none => trivial
    | some scope =>
      simp only
      cases service.issuanceAuthDCQL scope with
      | error error => trivial
      | ok query =>
        have belongs : Belongs session code (withQuery authCtx query) :=
          reached.2.1
        refine (follows_updateCurrent other belongs _).interpretCall fun answer _ _ => ?_
        cases answer <;> trivial

theorem follows_consumePresentation
    {authCtx : AuthorizationContext} (belongs : Belongs session code authCtx)
    (response : VPResponse) (audience expectedState : String) (current : Progress) :
    (redemption session code requests).Follows execute index (fun _ _ => True)
      ((service.consumeIssuanceAuthPresentation authCtx response audience
        expectedState).interpret (mongoGateway bson)) current := by
  rw [consumeIssuanceAuthPresentation]
  cases service.examinePresentation authCtx response audience expectedState with
  | error error => trivial
  | ok examined =>
    obtain ⟨scope, authScope, presented⟩ := examined
    simp only
    split_ifs
    · rw [finalisePresentationVerification]
      cases service.storableClaims scope authScope presented with
      | error error => trivial
      | ok storable =>
        have belongs' : Belongs session code (withClaims authCtx storable authScope) :=
          belongs
        refine (follows_updateCurrent other belongs' _).interpretCall fun answer _ _ => ?_
        cases answer <;> trivial
    · rw [persistIdentifier]
      cases service.resolveIdentifier scope authScope authCtx.authenticSource presented with
      | error error => trivial
      | ok identifier =>
        refine (follows_setIdentifier _ _ _).interpretCall fun answer _ _ => ?_
        cases answer <;> trivial

theorem follows_verificationDirectPost (kid : String) (response : VPResponse) (current : Progress) :
    (redemption session code requests).Follows execute index (fun _ _ => True)
      ((service.verificationDirectPost kid response).interpret (mongoGateway bson)) current := by
  refine (follows_get _ _).interpretCall fun answer progress reached => ?_
  cases answer with
  | error error => trivial
  | ok authCtx =>
    simp only
    split_ifs
    · trivial
    · rw [Process.andThen, Process.interpret_bind]
      refine (follows_consumePresentation other reached.2.1 _ _ _ _).bind fun result _ _ => ?_
      cases result <;> trivial

end

/-! ## One redemption -/

variable {site : Site}

/-- Token requests store the token they answer with. -/
def StoresToken (progress : Progress) : SessionReply → Prop
  | .token result => IfOk Stored progress result
  | .presentation _ => True

/-- One token request has succeeded at most, and the session holds its token. -/
structure RedeemedOnce (session : String) (pool : Pool ι mongoInterface Database SessionReply) :
    Prop where
  atMostOne : ∀ first second response response', pool.Returned first (.token (.ok response)) →
    pool.Returned second (.token (.ok response')) → first = second
  tokenKept : ∀ index response, pool.Returned index (.token (.ok response)) →
    ∃ record token, pool.shared.lookup session = some record ∧
      record.context.token = some token ∧ token.accessToken = response.accessToken

/-- Steps in which a handler other than a token request writes a session back only
if it is still stored with the mark and the token that the handler has read. -/
def WritesCurrent (requests : ι → SessionRequest)
    (pool : Pool ι mongoInterface Database SessionReply) (index : ι) : Prop :=
  (∀ call, requests index ≠ .token call) →
    ∀ filter replacement upsert next,
      pool.processes index = .call (.replaceOne filter replacement upsert) next →
        Current pool.shared replacement

theorem follows_serve (presents : ∀ index call, requests index = .token call → call.code = code)
    (index : ι) :
    (redemption session code requests).Follows execute index StoresToken
      ((site.serve (requests index)).interpret (mongoGateway bson)) .idle := by
  cases request : requests index with
  | token call =>
    have sameCode := presents index call request
    subst sameCode
    rw [Site.serve, Process.interpret_bind]
    exact follows_oauthToken.bind fun _ _ stored => stored
  | requestObject id =>
    rw [Site.serve, Process.interpret_bind]
    refine (follows_verificationRequestObject ?_ id .idle).bind fun _ _ _ => trivial
    simp [request]
  | directPost kid response =>
    rw [Site.serve, Process.interpret_bind]
    refine (follows_verificationDirectPost ?_ kid _ .idle).bind fun _ _ _ => trivial
    simp [request]

/-- In every run whose sessions are written back as they are stored, one request
redeems the code at most, and its token stays. -/
theorem redeemed_once_of_writesCurrent
    (presents : ∀ index call, requests index = .token call → call.code = code)
    (belongs : ∀ id record, database.lookup id = some record → Belongs session code record.context)
    {pool : Pool ι mongoInterface Database SessionReply}
    (run : Run execute (WritesCurrent requests) (site.serving bson database requests) pool) :
    RedeemedOnce session pool := by
  have initially : (redemption session code requests).Holds execute
      (fun _ => StoresToken) (site.serving bson database requests) fun _ => .idle :=
    ⟨⟨belongs, fun _ _ => nofun, fun _ => nofun, fun _ _ => nofun⟩, follows_serve presents⟩
  obtain ⟨progress, holds⟩ := run.follows
    (fun pool _ index request next _ pending permitted other filter replacement upsert writes => by
      subst writes
      exact permitted other filter replacement upsert next pending) initially
  refine ⟨?_, ?_⟩
  · intro first second response response' returned returnedToo
    obtain ⟨token, stored, _⟩ := holds.returned returned
    obtain ⟨token', storedToo, _⟩ := holds.returned returnedToo
    exact holds.1.unique first second (by rw [stored]; trivial) (by rw [storedToo]; trivial)
  · intro index response returned
    obtain ⟨token, stored, sameText⟩ := holds.returned returned
    obtain ⟨record, found, held⟩ := holds.1.token index token stored
    exact ⟨record, token, found, held, sameText⟩

/-! ### A request object beside two token requests -/

/-- Presentations that ask for nothing and accept nothing. -/
def emptyPresentations : PresentationService where
  hasCredentialMetadata _ := true
  issuanceAuthDCQL _ := .ok ⟨.obj []⟩
  signedRequestObject _ _ := .ok "jwt"
  verifyPresentation _ _ _ _ _ := .error (.failure "")
  isPresentationScope _ := false
  storableClaims _ _ _ := .error (.failure "")
  previewDocument _ _ _ := .ok ()
  resolveIdentifier _ _ _ _ := .error (.failure "")
  publishDocuments _ _ _ _ := .ok ()

/-- The session of the code `code`. -/
def walletSession : Record where
  context :=
    { sessionID := "session", code := "code", verifierResponseCode := "response",
      scopes := ["pid"] }

/-- A token request of the wallet that draws this access token. -/
def walletCall (accessToken : String) : TokenCall where
  request :=
    { dpop := "proof", grantType := .authorizationCode, code := "code", clientID := "wallet" }
  dpopProof := .ok "key"
  accessToken := accessToken

/-- Two token requests and a request for the request object of the same session. -/
def walletRequests : Option Bool → SessionRequest
  | none => .requestObject "response"
  | some false => .token (walletCall "first")
  | some true => .token (walletCall "second")

/-- The pool in which they are about to be served. -/
def walletPool : Pool (Option Bool) mongoInterface Database SessionReply :=
  Site.serving ⟨walletGateway, emptyPresentations⟩ .lossless
    ((empty : Database).write walletSession) walletRequests

/-- The session that was read before the first token request is written back after it:
the token is gone, and the second request redeems the code again. -/
theorem code_redeemed_again :
    ∃ middle last response response',
      FreeRun execute walletPool middle ∧ FreeRun execute middle last ∧
      middle.Returned (some false) (.token (.ok response)) ∧
      (middle.shared.lookup "session").map (·.context.token.isSome) = some false ∧
      last.Returned (some false) (.token (.ok response)) ∧
      last.Returned (some true) (.token (.ok response')) :=
  ⟨_, _, _, _, FreeRun.schedule _ _ [none, some false, some false, some false, some false, none],
    FreeRun.schedule _ _ [some true, some true, some true, some true],
    rfl, by decide, rfl, rfl⟩

/-- The request object is written back before the first token request consumes the code, which it
has looked up by then; the second token request comes after it. -/
def orderlySchedule : List (Option Bool) :=
  [none, some false, none, some false, some false, some false, some true, some true]

/-- The write-back finds the session as it was read; the code is redeemed once, and the second token
request is refused. -/
theorem orderly_requests_redeem_once :
    let last := walletPool.schedule execute orderlySchedule
    RedeemedOnce "session" last ∧
      (∃ jwt, last.Returned none (.presentation (.ok jwt))) ∧
      (∃ response, last.Returned (some false) (.token (.ok response))) ∧
      ∃ error, last.Returned (some true) (.token (.error error)) := by
  have presents : ∀ index call, walletRequests index = .token call → call.code = "code" := by
    rintro (_ | _ | _) call ⟨⟩ <;> rfl
  have belongs : ∀ id record,
      ((empty : Database).write walletSession).lookup id = some record →
        Belongs "session" "code" record.context := by
    intro id record found
    rw [lookup_write] at found
    split_ifs at found
    · cases found
      exact fun _ => ⟨rfl, rfl⟩
    · simp at found
  have token : ∀ pool which, WritesCurrent walletRequests pool (some which) :=
    fun _ which other => by cases which <;> exact absurd rfl (other _)
  have admitted : walletPool.Admits execute (WritesCurrent walletRequests) orderlySchedule := by
    refine ⟨fun _ _ _ _ _ pending => ?_, token _ _, fun _ _ _ _ _ pending => ?_, token _ _,
      token _ _, token _ _, token _ _, token _ _, trivial⟩
    · cases pending
    · cases pending
      intro record found
      cases found
      exact ⟨rfl, rfl⟩
  exact ⟨redeemed_once_of_writesCurrent presents belongs (Run.schedule admitted),
    ⟨_, rfl⟩, ⟨_, rfl⟩, _, rfl⟩

end Vc.Apigw
