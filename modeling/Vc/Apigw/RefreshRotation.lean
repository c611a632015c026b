import Vc.Apigw.Token
import Vc.Cache.Rotation
import Vc.Concurrent.Pool

/-!
# The refresh_token grant

`handleRefreshTokenGrant` looks the session of a refresh token up, checks it, and
exchanges its tokens by one compare-and-swap of the store.  Requests that run
beside each other can hold the same session at the same time; the exchange is
what decides between them.
-/

namespace Vc.Apigw

open Cache Concurrent Function Database List Prod

/-! ## The handler -/

/-- The claims of a proof that `ValidateAndParseDPoPJWT` accepts, with the thumbprint of its
key. -/
structure DPoP where
  htm : String
  htu : String
  thumbprint : String

/-- A refresh request together with what serving it draws from outside. -/
structure RefreshCall where
  refreshToken : String
  /-- `ValidateAndParseDPoPJWT` of the proof. -/
  dpop : Except String DPoP
  /-- The answer of `DPopJTI.SetNX`. -/
  jtiUnique : Except String Bool := .ok true
  newAccessToken : String
  newRefreshToken : String
  newNonce : String
  now : Int := 0
  tokenNow : Int := now
  refreshNow : Int := now

/-- The configuration that the grant reads. -/
structure RefreshGrant where
  grantTypes : List String
  tokenEndpoint : String
  refreshTokenDuration : Int

namespace RefreshGrant

variable (grant : RefreshGrant)

variable (call : RefreshCall)

/-- The checks before the session is looked up; the result is the proof. -/
def checkRequest : Except HandlerError DPoP :=
  if call.refreshToken = "" then
    oauthError .invalidRequest "refresh_token parameter is required for refresh_token grant" 400
  else if "refresh_token" ∉ grant.grantTypes then
    oauthError .unsupportedGrantType "refresh_token grant is not enabled" 400
  else
    match call.dpop with
    | .error text => oauthError .invalidDPoPProof text 400
    | .ok dpop =>
      if dpop.htu ≠ grant.tokenEndpoint then
        oauthError .invalidDPoPProof
          ("invalid htu: expected " ++ grant.tokenEndpoint ++ ", got " ++ dpop.htu) 400
      else if dpop.htm ≠ "POST" then
        oauthError .invalidDPoPProof ("invalid htm: expected POST, got " ++ dpop.htm) 400
      else
        match call.jtiUnique with
        | .error _ => oauthError .serverError "internal error checking DPoP proof" 500
        | .ok false =>
          oauthError .invalidDPoPProof "DPoP proof JTI has already been used" 400
        | .ok true => .ok dpop

/-- The checks on the session: the refresh token is current and bound to the proven key. -/
def checkSession (dpop : DPoP) (authContext : AuthorizationContext) : Except HandlerError Unit :=
  if authContext.refreshTokenExpiresAt > 0 ∧ call.now > authContext.refreshTokenExpiresAt then
    oauthError .invalidGrant "refresh token has expired" 400
  else
    match authContext.token with
    | none => oauthError .invalidGrant "refresh token is not bound to a DPoP key" 400
    | some token =>
      if token.dpopThumbprint = "" then
        oauthError .invalidGrant "refresh token is not bound to a DPoP key" 400
      else if dpop.thumbprint ≠ token.dpopThumbprint then
        oauthError .invalidGrant
          "DPoP key does not match the key used at initial token issuance" 400
      else .ok ()

/-- The session with its new tokens. -/
def rotated (dpop : DPoP) (authContext : AuthorizationContext) : AuthorizationContext :=
  { authContext with
    token := some {
      accessToken := call.newAccessToken
      expiresAt := call.tokenNow + 3600
      dpopThumbprint := dpop.thumbprint }
    refreshToken := call.newRefreshToken
    refreshTokenExpiresAt := call.refreshNow + grant.refreshTokenDuration
    nonce := call.newNonce }

/-- The reply; a session without scopes makes the source panic. -/
def reply (authContext : AuthorizationContext) : Except HandlerError TokenResponse :=
  match authContext.scopes with
  | [] => .error (.failure "index out of range")
  | scope :: _ => .ok {
      accessToken := call.newAccessToken
      scope := scope
      state := ""
      cNonce := call.newNonce
      refreshToken := call.newRefreshToken
      refreshTokenExpiresIn := grant.refreshTokenDuration
      authorizationDetails := authContext.authorizationDetails }

/-- The exchange of the tokens of a session. -/
def exchange (dpop : DPoP) (authContext : AuthorizationContext) : Handler TokenResponse :=
  .call (.store (.rotateRefreshToken authContext.refreshToken
      (grant.rotated call dpop authContext))) fun
    | .error .noDocuments =>
      .done (oauthError .invalidGrant "refresh token has already been used" 400)
    | .error _ => .done (oauthError .serverError "internal error during token rotation" 500)
    | .ok _ => .done (grant.reply call authContext)

def handleRefreshTokenGrant : Handler TokenResponse :=
  match grant.checkRequest call with
  | .error error => .done (.error error)
  | .ok dpop =>
    .call (.store (.getByRefreshToken call.refreshToken)) fun
      | .error _ => .done (oauthError .invalidGrant "invalid or expired refresh token" 400)
      | .ok authContext =>
        match checkSession call dpop authContext with
        | .error error => .done (.error error)
        | .ok _ => grant.exchange call dpop authContext

end RefreshGrant

/-! ## Exchanges on the trace -/

section Trace

variable {ι : Type}

/-- The tokens of this session were exchanged. -/
def exchanges (session : String) : Entry ι gatewayInterface → Bool
  | ⟨_, .store (.rotateRefreshToken _ updated), answer⟩ =>
    updated.sessionID = session && answer.isOk
  | _ => false

/-- The request that exchanged the tokens of this session last. -/
def latestExchange (session : String) (trace : List (Entry ι gatewayInterface)) : Option ι :=
  (trace.reverse.find? (exchanges session)).map Entry.index

/-- A rotation that succeeds. -/
def rotates : (request : GatewayCall) → request.Result → Prop
  | .store (.rotateRefreshToken _ _), answer => answer.isOk = true
  | _, _ => False

theorem rotates_of_exchanges {session : String} {entry : Entry ι gatewayInterface}
    (exchange : exchanges session entry = true) : rotates entry.request entry.answer := by
  obtain ⟨index, request, answer⟩ := entry
  unfold exchanges at exchange
  split at exchange
  · next same =>
      cases same
      exact (Bool.and_eq_true_iff.mp exchange).2
  · cases exchange

theorem latestExchange_append (session : String) (trace : List (Entry ι gatewayInterface))
    (entry : Entry ι gatewayInterface) :
    latestExchange session (trace ++ [entry]) =
      if exchanges session entry then some entry.index else latestExchange session trace := by
  rw [latestExchange, reverse_append, reverse_singleton, singleton_append, find?_cons]
  cases exchanges session entry <;> rfl

end Trace

/-! ## One exchange per refresh token -/

section Rotation

variable {ι : Type} [DecidableEq ι] {σ : Type}

/-- What is known before the first request: refresh tokens lead to documents that carry them, one
session each, every session that has one was granted some scope, and the refresh tokens that are
going to be drawn are new. -/
structure Refreshable (store : RotatingStore σ) (state : σ) (calls : ι → RefreshCall) : Prop where
  live : store.Live state
  unique : ∀ id other doc held, store.documents state id = some doc →
    store.documents state other = some held → doc.refreshToken ≠ "" →
    doc.refreshToken = held.refreshToken → id = other
  granted : ∀ id doc, store.documents state id = some doc → doc.refreshToken ≠ "" → doc.scopes ≠ []
  named : ∀ index, (calls index).newRefreshToken ≠ ""
  distinct : ∀ index other,
    (calls index).newRefreshToken = (calls other).newRefreshToken → index = other
  unused : ∀ index id doc, store.documents state id = some doc →
    doc.refreshToken ≠ (calls index).newRefreshToken

/-- The document of a session holds the tokens that a request answers with. -/
def HoldsPair (call : RefreshCall) (doc : AuthorizationContext) : Prop :=
  doc.token.map Token.accessToken = some call.newAccessToken ∧
    doc.refreshToken = call.newRefreshToken

/-- A request succeeds exactly if it has exchanged the tokens of a session, and answers with the
new ones. -/
def AnswersPair (call : RefreshCall) (exchanged : Bool) :
    Except HandlerError TokenResponse → Prop
  | .error _ => exchanged = false
  | .ok response => exchanged = true ∧ response.accessToken = call.newAccessToken ∧
      response.refreshToken = call.newRefreshToken

/-- The invariant.  `exchanged` marks the requests whose exchange has succeeded. -/
structure Rotating (store : RotatingStore σ) (start : σ) (calls : ι → RefreshCall) (state : σ)
    (trace : List (Entry ι gatewayInterface)) (exchanged : ι → Bool) : Prop where
  live : store.Live state
  unique : ∀ id other doc held, store.documents state id = some doc →
    store.documents state other = some held → doc.refreshToken ≠ "" →
    doc.refreshToken = held.refreshToken → id = other
  granted : ∀ id doc, store.documents state id = some doc → doc.refreshToken ≠ "" → doc.scopes ≠ []
  waiting : ∀ index, exchanged index = false → ∀ id doc, store.documents state id = some doc →
    doc.refreshToken ≠ (calls index).newRefreshToken
  spent : ∀ index, exchanged index = true → ∀ id doc, store.documents state id = some doc →
    doc.refreshToken ≠ (calls index).refreshToken
  ahead : ∀ index other, exchanged index = true → exchanged other = false →
    (calls index).refreshToken ≠ (calls other).newRefreshToken
  once : ∀ index other, exchanged index = true → exchanged other = true →
    (calls index).refreshToken = (calls other).refreshToken → index = other
  recorded : ∀ index, exchanged index = true →
    ∃ session, ∃ entry ∈ trace, entry.index = index ∧ exchanges session entry = true
  current : ∀ session,
    match latestExchange session trace with
    | none => store.documents state session = store.documents start session
    | some index => exchanged index = true ∧
        ∃ doc, store.documents state session = some doc ∧ HoldsPair (calls index) doc

variable (store : RotatingStore σ)

/-- The protocol of the requests. -/
def rotating (start : σ) (calls : ι → RefreshCall) : Protocol ι gatewayInterface σ Bool where
  inv := Rotating store start calls
  guard _ _ _ _ _ := True

namespace Rotating

variable {store} {start state next : σ} {calls : ι → RefreshCall}
  {trace : List (Entry ι gatewayInterface)} {exchanged : ι → Bool}

omit [DecidableEq ι] in
theorem initial (refreshable : Refreshable store start calls) :
    Rotating store start calls start [] fun _ => false where
  live := refreshable.live
  unique := refreshable.unique
  granted := refreshable.granted
  waiting index _ := refreshable.unused index
  spent := nofun
  ahead := nofun
  once := nofun
  recorded := nofun
  current _ := rfl

variable {entry : Entry ι gatewayInterface}

omit [DecidableEq ι] in
/-- A call that changes no document and exchanges nothing. -/
theorem keep (rotating : Rotating store start calls state trace exchanged)
    (live : store.Live next) (same : store.documents next = store.documents state)
    (other : ∀ session, exchanges session entry = false) :
    Rotating store start calls next (trace ++ [entry]) exchanged where
  live := live
  unique := by simpa only [same] using rotating.unique
  granted := by simpa only [same] using rotating.granted
  waiting := by simpa only [same] using rotating.waiting
  spent := by simpa only [same] using rotating.spent
  ahead := rotating.ahead
  once := rotating.once
  recorded index success := by
    obtain ⟨session, earlier, member, found⟩ := rotating.recorded index success
    exact ⟨session, earlier, mem_append_left _ member, found⟩
  current session := by
    rw [latestExchange_append, other session, same]
    exact rotating.current session

/-- A request that has not exchanged anything replaces a document that carries its token. -/
theorem exchange (rotating : Rotating store start calls state trace exchanged)
    (refreshable : Refreshable store start calls) {index : ι} (pending : exchanged index = false)
    (live : store.Live next) {held doc : AuthorizationContext}
    (stored : store.documents state doc.sessionID = some held)
    (named : (calls index).refreshToken ≠ "")
    (presented : held.refreshToken = (calls index).refreshToken)
    (written : store.documents next = Change.apply (store.documents state) (.write doc))
    (pair : HoldsPair (calls index) doc) (scopes : doc.scopes ≠ [])
    (made : entry.index = index)
    (marks : ∀ session, exchanges session entry = decide (doc.sessionID = session)) :
    Rotating store start calls next (trace ++ [entry]) (update exchanged index true) := by
  have lookup (id : String) : store.documents next id =
      if id = doc.sessionID then some doc else store.documents state id := by
    rw [written, Change.apply, update_apply]
  -- a document after the exchange is the new one, or an old one of another session
  have either {id : String} {found : AuthorizationContext}
      (present : store.documents next id = some found) :
      (id = doc.sessionID ∧ found = doc) ∨
        (id ≠ doc.sessionID ∧ store.documents state id = some found) := by
    rw [lookup] at present
    split_ifs at present with same
    · exact .inl ⟨same, (Option.some.inj present).symm⟩
    · exact .inr ⟨same, present⟩
  have unmarked {other : ι} (not : update exchanged index true other = false) :
      other ≠ index ∧ exchanged other = false := by
    rw [update_apply] at not
    split_ifs at not with same
    exact ⟨same, not⟩
  have marked {other : ι} (success : update exchanged index true other = true) :
      other = index ∨ exchanged other = true := by
    rw [update_apply] at success
    split_ifs at success with same
    · exact .inl same
    · exact .inr success
  refine {
    live
    unique := ?_
    granted := ?_
    waiting := ?_
    spent := ?_
    ahead := ?_
    once := ?_
    recorded := ?_
    current := ?_ }
  · intro id other first second presentFirst presentSecond named same
    rcases either presentFirst with ⟨rfl, rfl⟩ | ⟨_, before⟩ <;>
      rcases either presentSecond with ⟨rfl, rfl⟩ | ⟨_, beforeSecond⟩
    · rfl
    · exact absurd (same.symm.trans pair.2) (rotating.waiting _ pending _ _ beforeSecond)
    · exact absurd (same.trans pair.2) (rotating.waiting _ pending _ _ before)
    · exact rotating.unique id _ first second before beforeSecond named same
  · intro id found present named
    rcases either present with ⟨_, rfl⟩ | ⟨_, before⟩
    · exact scopes
    · exact rotating.granted id _ before named
  · intro other not id found present same
    obtain ⟨different, notBefore⟩ := unmarked not
    rcases either present with ⟨_, rfl⟩ | ⟨_, before⟩
    · exact different (refreshable.distinct _ _ (same.symm.trans pair.2))
    · exact rotating.waiting _ notBefore id _ before same
  · intro other success id found present same
    rcases marked success with rfl | earlier
    · rcases either present with ⟨_, rfl⟩ | ⟨different, before⟩
      · exact rotating.waiting _ pending _ _ stored (presented.trans (same.symm.trans pair.2))
      · -- the token was carried by one session only
        refine different (rotating.unique id _ _ _ before stored ?_ ?_)
        · exact fun empty => named (same.symm.trans empty)
        · exact same.trans presented.symm
    · rcases either present with ⟨_, rfl⟩ | ⟨_, before⟩
      · exact rotating.ahead _ _ earlier pending (same.symm.trans pair.2)
      · exact rotating.spent _ earlier id _ before same
  · intro first second success not
    obtain ⟨_, notBefore⟩ := unmarked not
    rcases marked success with rfl | earlier
    · exact fun same => rotating.waiting _ notBefore _ _ stored (presented.trans same)
    · exact rotating.ahead first second earlier notBefore
  · intro first second success successSecond same
    rcases marked success with rfl | earlier <;> rcases marked successSecond with rfl | later
    · rfl
    · exact absurd (presented.trans same) (rotating.spent _ later _ _ stored)
    · exact absurd (presented.trans same.symm) (rotating.spent first earlier _ _ stored)
    · exact rotating.once first second earlier later same
  · intro other success
    rcases marked success with rfl | earlier
    · exact ⟨doc.sessionID, entry, by simp, made, by simp [marks]⟩
    · obtain ⟨session, found, member, isExchange⟩ := rotating.recorded other earlier
      exact ⟨session, found, mem_append_left _ member, isExchange⟩
  · intro session
    rw [latestExchange_append, marks]
    by_cases same : doc.sessionID = session
    · rw [decide_eq_true same, made]
      exact ⟨update_self .., doc, by rw [lookup, if_pos same.symm], pair⟩
    · have others := rotating.current session
      rw [decide_eq_false same, lookup, if_neg (Ne.symm same)]
      cases latest : latestExchange session trace with
      | none => simpa [latest] using others
      | some other =>
        simp only [latest] at others
        refine ⟨?_, others.2⟩
        rw [update_apply, others.1, ite_self]

/-- The exchange of a session that carries the token of its request. -/
theorem follows_exchange (refreshable : Refreshable store start calls) {grant : RefreshGrant}
    {index : ι} {dpop : DPoP} {authContext : AuthorizationContext}
    (carries : authContext.refreshToken = (calls index).refreshToken)
    (scopes : authContext.scopes ≠ []) :
    (rotating store start calls).Follows (gatewayOver store.toContractStore) index
      (AnswersPair (calls index))
      (grant.exchange (calls index) dpop authContext) false := by
  intro state trace exchanged invariant pending _
  let updated := grant.rotated (calls index) dpop authContext
  have live := store.live_rotate authContext.refreshToken updated invariant.live
  have documents := store.documents_execute (.rotateRefreshToken authContext.refreshToken updated)
    state
  rcases store.decide_rotateRefreshToken _ _ _ with
    refused | ⟨held, named, stored, compared, decided⟩
  · obtain ⟨error, failed⟩ := store.execute_error (congrArg fst refused)
    refine ⟨false, ?_, ?_⟩
    · rw [← pending, update_eq_self]
      refine invariant.keep live ?_ fun session => ?_
      · exact documents.trans (by rw [refused]; rfl)
      · simp [exchanges, gatewayOver, updated, failed, Except.isOk, Except.toBool]
    · simp only [gatewayOver]
      rw [failed]
      cases error <;> rfl
  · have success := store.execute_ok (congrArg fst decided)
    obtain ⟨_, _, _, _, _, kept⟩ := store.stored state updated
    have written : store.documents state ((store.reading state).stored updated).sessionID =
        some held := by rwa [kept]
    refine ⟨true, ?_, ?_⟩
    · refine invariant.exchange refreshable pending live written (carries ▸ named)
        (compared.trans carries) (documents.trans (by rw [decided]; rfl)) ?_ ?_ rfl
        fun session => ?_
      · rw [kept]
        exact ⟨rfl, rfl⟩
      · rw [kept]
        exact scopes
      · simp [exchanges, gatewayOver, updated, success, kept, Except.isOk, Except.toBool]
    · simp only [gatewayOver]
      rw [success]
      cases given : authContext.scopes with
      | nil => exact absurd given scopes
      | cons scope rest => simp [RefreshGrant.reply, given, AnswersPair]

/-- The whole request. -/
theorem follows_handleRefreshTokenGrant (refreshable : Refreshable store start calls)
    (grant : RefreshGrant) (index : ι) :
    (rotating store start calls).Follows (gatewayOver store.toContractStore) index
      (AnswersPair (calls index))
      (grant.handleRefreshTokenGrant (calls index)) false := by
  rw [RefreshGrant.handleRefreshTokenGrant]
  split
  · rfl
  · next dpop _ =>
    refine Protocol.follows_call_of_keep fun state trace exchanged invariant _ _ => ?_
    let lookup : StoreCall := .getByRefreshToken (calls index).refreshToken
    have live := store.live_lookup (calls index).refreshToken invariant.live
    have documents := store.documents_execute lookup state
    rcases store.decide_getByRefreshToken _ invariant.live (calls _).refreshToken with
      refused | ⟨doc, named, stored, carries, decided⟩
    · obtain ⟨error, failed⟩ := store.execute_error (congrArg fst refused)
      refine ⟨invariant.keep live ?_ fun _ => rfl, ?_⟩
      · exact documents.trans (by rw [refused]; rfl)
      · simp only [gatewayOver, failed]
        rfl
    · have success := store.execute_ok (congrArg fst decided)
      refine ⟨invariant.keep live ?_ fun _ => rfl, ?_⟩
      · exact documents.trans (by rw [decided]; rfl)
      · simp only [gatewayOver, success]
        split
        · rfl
        · exact follows_exchange refreshable carries
            (invariant.granted _ doc stored (carries ▸ named))

end Rotating

/-- The requests before their first call. -/
def RefreshGrant.refreshing (grant : RefreshGrant) (state : σ) (calls : ι → RefreshCall) :
    Pool ι gatewayInterface σ (Except HandlerError TokenResponse) :=
  .initial state fun index => grant.handleRefreshTokenGrant (calls index)

/-- The rotation is the last call of a request. -/
theorem RefreshGrant.endsAt_rotation (grant : RefreshGrant) (call : RefreshCall) :
    (grant.handleRefreshTokenGrant call).EndsAt rotates fun _ => True := by
  rw [handleRefreshTokenGrant]
  split
  · trivial
  · intro answer
    refine ⟨?_, nofun⟩
    cases answer with
    | error error => trivial
    | ok authContext =>
      dsimp only
      split
      · trivial
      · intro rotation
        cases rotation with
        | error error =>
          refine ⟨?_, nofun⟩
          cases error <;> trivial
        | ok => exact ⟨trivial, fun _ => ⟨_, rfl, trivial⟩⟩

/-- What holds at every moment of a run: a refresh token is exchanged by one request at most, a
token that was exchanged leads to no session, and the document of a session holds the tokens that
the latest exchange has answered with. -/
structure OneShot (store : RotatingStore σ) (start : σ) (calls : ι → RefreshCall)
    (pool : Pool ι gatewayInterface σ (Except HandlerError TokenResponse)) : Prop where
  once : ∀ index other response otherResponse, pool.Returned index (.ok response) →
    pool.Returned other (.ok otherResponse) →
    (calls index).refreshToken = (calls other).refreshToken → index = other
  spent : ∀ index response, pool.Returned index (.ok response) →
    (store.execute (.getByRefreshToken (calls index).refreshToken) pool.shared).1.toOption = none
  recorded : ∀ index response, pool.Returned index (.ok response) →
    ∃ session, ∃ entry ∈ pool.trace, entry.index = index ∧ exchanges session entry = true
  current : ∀ session,
    match latestExchange session pool.trace with
    | none => store.documents pool.shared session = store.documents start session
    | some index => ∃ response doc, pool.Returned index (.ok response) ∧
        store.documents pool.shared session = some doc ∧
        doc.token.map Token.accessToken = some response.accessToken ∧
        doc.refreshToken = response.refreshToken

/-- Rotation is one-shot over a store: in every run of any requests. -/
def RotatesOnce : Prop :=
  ∀ {ι : Type} [DecidableEq ι] (grant : RefreshGrant) (start : σ) (calls : ι → RefreshCall),
    Refreshable store start calls →
    ∀ pool, FreeRun (gatewayOver store.toContractStore) (grant.refreshing start calls) pool →
      OneShot store start calls pool

theorem rotatesOnce : RotatesOnce store := by
  intro ι _ grant start calls refreshable pool run
  obtain ⟨exchanged, holds⟩ := run.follows (fun _ _ _ _ _ _ _ _ => trivial)
    (⟨Rotating.initial refreshable,
        fun index => Rotating.follows_handleRefreshTokenGrant refreshable grant index⟩ :
      (rotating store start calls).Holds (gatewayOver store.toContractStore)
        (fun index => AnswersPair (calls index)) (grant.refreshing start calls) fun _ => false)
  have ends := (run.endsAt rfl fun index => grant.endsAt_rotation (calls index)).2
  have invariant := holds.1
  have success {index : ι} {response : TokenResponse}
      (returned : pool.Returned index (.ok response)) : exchanged index = true :=
    (holds.returned returned).1
  -- a request that has exchanged tokens has returned them
  have answered {index : ι} (marked : exchanged index = true) :
      ∃ response, pool.Returned index (.ok response) ∧
        response.accessToken = (calls index).newAccessToken ∧
        response.refreshToken = (calls index).newRefreshToken := by
    obtain ⟨session, entry, member, rfl, exchange⟩ := invariant.recorded index marked
    obtain ⟨result, returned, _⟩ := ends entry member (rotates_of_exchanges exchange)
    have answers := holds.returned returned
    cases result with
    | error error => exact nomatch (marked.symm.trans answers : true = false)
    | ok response => exact ⟨response, returned, answers.2⟩
  refine {
    once := ?_
    spent := ?_
    recorded := fun index response returned => invariant.recorded _ (success returned)
    current := ?_ }
  · intro index other response otherResponse returned returnedOther same
    exact invariant.once _ _ (success returned) (success returnedOther) same
  · intro index response returned
    rcases store.decide_getByRefreshToken _ invariant.live (calls _).refreshToken
      with refused | ⟨doc, _, stored, carries, _⟩
    · obtain ⟨error, failed⟩ := store.execute_error (congrArg fst refused)
      rw [failed]
      rfl
    · exact absurd carries (invariant.spent _ (success returned) _ doc stored)
  · intro session
    have current := invariant.current session
    cases latest : latestExchange session pool.trace with
    | none => simpa [latest] using current
    | some index =>
      simp only [latest] at current
      obtain ⟨marked, doc, stored, accessToken, refreshToken⟩ := current
      obtain ⟨response, returned, sameAccess, sameRefresh⟩ := answered marked
      exact ⟨response, doc, returned, stored, sameAccess ▸ accessToken,
        refreshToken.trans sameRefresh.symm⟩

/-- Over either store, refresh tokens are exchanged once. -/
theorem refresh_tokens_rotate_once (bson : Bson) :
    RotatesOnce MemoryStore.rotating ∧ RotatesOnce (MongoStore.rotating bson) :=
  ⟨rotatesOnce _, rotatesOnce _⟩

/-- A session whose refresh token is `first`. -/
def refreshableSession : Record where
  context :=
    { sessionID := "session", scopes := ["pid"], refreshToken := "first",
      token := some { accessToken := "access", expiresAt := 3600, dpopThumbprint := "key" } }

/-- A database that holds this session alone. -/
def refreshableDatabase : Database :=
  Collection.empty.write refreshableSession

/-- A gateway that offers the grant. -/
def sampleGrant : RefreshGrant where
  grantTypes := ["authorization_code", "refresh_token"]
  tokenEndpoint := "https://gateway/token"
  refreshTokenDuration := 86400

/-- Two requests that present the same refresh token. -/
def racingCalls (index : Fin 2) : RefreshCall where
  refreshToken := "first"
  dpop := .ok { htm := "POST", htu := "https://gateway/token", thumbprint := "key" }
  newAccessToken := if index = 0 then "access-0" else "access-1"
  newRefreshToken := if index = 0 then "second-0" else "second-1"
  newNonce := "nonce"

/-- Both requests hold the session before either exchanges its tokens. -/
def racedPool : Pool (Fin 2) gatewayInterface Database (Except HandlerError TokenResponse) :=
  (sampleGrant.refreshing refreshableDatabase racingCalls).schedule
    (gatewayOver (MongoStore.contract .lossless)) [0, 1, 1, 0]

/-- The theorem where two requests race: the second of them wins. -/
theorem racing_refresh_has_one_winner :
    racedPool.succeeded 0 = false ∧ racedPool.succeeded 1 = true ∧
      OneShot (MongoStore.rotating .lossless) refreshableDatabase racingCalls racedPool := by
  refine ⟨by decide +kernel, by decide +kernel, ?_⟩
  refine (refresh_tokens_rotate_once .lossless).2 _ _ _ {
      live := MongoStore.live _ _
      unique := ?_
      granted := ?_
      named := by decide
      distinct := by decide
      unused := ?_ } racedPool (FreeRun.schedule _ _ _)
  · intro id other doc held present presentOther _ _
    exact (documents_single.mp present).1.trans (documents_single.mp presentOther).1.symm
  · intro id doc present _
    rw [← (documents_single.mp present).2]
    decide
  · intro index id doc present
    rw [← (documents_single.mp present).2]
    revert index
    decide

end Rotation

end Vc.Apigw
