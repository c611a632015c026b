import Vc.Apigw.Presentation
import Vc.Cache.Resolution
import Vc.Concurrent.Pool

/-!
# One authorization code per exchange

Continuations of one interactive authorization, which all present its auth_session,
beside token requests for the code that the exchange results in.  A continuation
claims the auth_session in one atomic call and works on a copy of the session from
then on.  The code is handed out at the end, so a token request for it can come only
when a continuation has returned it.

The invariant follows the session through the exchange: until the claim its handle
leads to it, afterwards the handle leads nowhere and no stored document carries it
again; the copies that handlers write back agree with the session on everything that
the redemption of the code depends on.
-/

namespace Vc.Apigw

open Cache Concurrent Function MongoStore Gateway Protocol PresentationService ResolvedStore
  ChallengeService Int

/-! ## Requests -/

inductive ExchangeRequest where
  | continuation (call : ChallengeCall)
  | token (call : TokenCall)

/-- What these requests are answered with. -/
inductive ExchangeReply where
  | code (result : Except HandlerError String)
  | token (result : Except HandlerError TokenResponse)

/-- The gateway with its challenge endpoint. -/
structure ChallengeSite where
  gateway : Gateway
  challenges : ChallengeService

/-- The handler of a request. -/
def ChallengeSite.serve (site : ChallengeSite) :
    ExchangeRequest → Process gatewayInterface ExchangeReply
  | .continuation call =>
    (site.challenges.authorizationChallengeIntermediate call).bind fun result =>
      .done (.code result)
  | .token call => (site.gateway.oauthToken call).bind fun result => .done (.token result)

/-! ## Reading the trace -/

variable {ι : Type}

/-- An auth_session was claimed. -/
def claims : Entry ι gatewayInterface → Bool
  | ⟨_, .store (.claimAuthSession _), answer⟩ => answer.isOk
  | _ => false

/-- The auth_session was claimed at some time. -/
def consumed (trace : List (Entry ι gatewayInterface)) : Bool :=
  trace.any claims

/-- The expiry after one more entry. -/
def extended (expiresAt : Int) : Entry ι gatewayInterface → Int
  | ⟨_, .store (.extendExpiry _ deadline), .ok _⟩ => max expiresAt deadline
  | _ => expiresAt

/-- The expiry of a session that expired at this time when the trace began. -/
def expiryAfter (expiresAt : Int) (trace : List (Entry ι gatewayInterface)) : Int :=
  trace.foldl extended expiresAt

variable (trace later : List (Entry ι gatewayInterface))

theorem consumed_append : consumed (trace ++ later) = (consumed trace || consumed later) :=
  List.any_append

variable (expiresAt : Int)

theorem expiryAfter_append :
    expiryAfter expiresAt (trace ++ later) = expiryAfter (expiryAfter expiresAt trace) later :=
  List.foldl_append

theorem le_extended (entry : Entry ι gatewayInterface) : expiresAt ≤ extended expiresAt entry := by
  unfold extended
  split
  · exact le_max_left _ _
  · exact le_refl _

/-- An expiry is never moved forward in time. -/
theorem le_expiryAfter (trace : List (Entry ι gatewayInterface)) :
    expiresAt ≤ expiryAfter expiresAt trace := by
  induction trace generalizing expiresAt with
  | nil => exact le_refl _
  | cons entry rest ih =>
    exact le_trans (le_extended _ _) (ih _)

/-- The entry neither claims an auth_session nor moves an expiry. -/
structure Neutral (entry : Entry ι gatewayInterface) : Prop where
  claims : claims entry = false
  extended : ∀ expiresAt, extended expiresAt entry = expiresAt

variable {entry : Entry ι gatewayInterface}

theorem Neutral.consumed (neutral : Neutral entry)
    (trace : List (Entry ι gatewayInterface)) : consumed (trace ++ [entry]) = consumed trace := by
  simp [Apigw.consumed, neutral.claims]

theorem Neutral.expiryAfter (neutral : Neutral entry)
    (expiresAt : Int) (trace : List (Entry ι gatewayInterface)) :
    expiryAfter expiresAt (trace ++ [entry]) = expiryAfter expiresAt trace := by
  rw [expiryAfter_append]
  exact neutral.extended _

/-! ## The invariant -/

/-- What an exchange is about: its session, its two handles, the key it is bound to
and the time at which it expires. -/
structure Terms where
  session : String
  authSession : String
  code : String
  dpopThumbprint : String
  expiresAt : Int

/-- A version of the session, as far as the redemption of its code depends on it. -/
structure Describes (terms : Terms) (expiresAt : Int) (doc : AuthorizationContext) : Prop where
  sessionID : doc.sessionID = terms.session
  code : doc.code = terms.code
  ordinary : doc.preAuthorized = false
  dpopThumbprint : doc.authSessionDPoPThumbprint = terms.dpopThumbprint
  expiresAt : doc.expiresAt = expiresAt

/-- The second document is a version of the first that keeps what the redemption of the
code depends on. -/
structure Agrees (doc next : AuthorizationContext) : Prop where
  sessionID : next.sessionID = doc.sessionID
  code : next.code = doc.code
  ordinary : next.preAuthorized = doc.preAuthorized
  dpopThumbprint : next.authSessionDPoPThumbprint = doc.authSessionDPoPThumbprint
  expiresAt : next.expiresAt = doc.expiresAt
  authSession : next.authSession = doc.authSession

variable {doc next : AuthorizationContext} {expiresAt}

theorem Agrees.describes {terms : Terms}
    (agrees : Agrees doc next) (describes : Describes terms expiresAt doc) :
    Describes terms expiresAt next :=
  ⟨agrees.sessionID.trans describes.sessionID, agrees.code.trans describes.code,
    agrees.ordinary.trans describes.ordinary,
    agrees.dpopThumbprint.trans describes.dpopThumbprint,
    agrees.expiresAt.trans describes.expiresAt⟩

theorem Agrees.carries_iff (agrees : Agrees doc next) (authSession : String) :
    next.Carries .authSession authSession ↔ doc.Carries .authSession authSession := by
  simp [AuthorizationContext.carries_iff, agrees.authSession]

/-- How far a request has come.  A continuation has claimed the session, of which it
holds a copy, or has returned the code; a token request holds a copy of the session
whose code it has forfeited. -/
inductive Stage where
  | waiting
  | claimed (copy : AuthorizationContext)
  | returned
  | forfeited (copy : AuthorizationContext)

namespace Stage

/-- The request has claimed the auth_session. -/
def HasClaimed : Stage → Prop
  | .claimed _ | .returned => True
  | .waiting | .forfeited _ => False

/-- The copy of the session that the request is going to write. -/
def copy : Stage → Option AuthorizationContext
  | .claimed copy | .forfeited copy => some copy
  | .waiting | .returned => none

end Stage

variable {σ : Type}

/-- The exchange up to the trace: one request has claimed the auth_session at most. -/
structure Exchange (store : ResolvedStore σ) (terms : Terms) (state : σ)
    (trace : List (Entry ι gatewayInterface)) (stages : ι → Stage) : Prop where
  leads : store.Leads state .code terms.code terms.session
  document : ∃ doc, store.documents state terms.session = some doc ∧
    Describes terms (expiryAfter terms.expiresAt trace) doc
  opened : consumed trace = false →
    store.Leads state .authSession terms.authSession terms.session ∧
      ∀ index, stages index = .waiting
  closed : consumed trace = true → store.Free state .authSession terms.authSession ∧
    (∀ id, ¬ store.Carried state .authSession terms.authSession id) ∧ terms.dpopThumbprint ≠ ""
  unique : ∀ first second, (stages first).HasClaimed → (stages second).HasClaimed → first = second
  copies : ∀ index copy, (stages index).copy = some copy →
    Describes terms (expiryAfter terms.expiresAt trace) copy ∧
      ¬ copy.Carries .authSession terms.authSession
  handedOut : ∀ index copy, stages index = .forfeited copy → ∃ other, stages other = .returned

/-- The protocol of the requests: a token request comes only when the code has been
returned. -/
def exchange (store : ResolvedStore σ) (terms : Terms) (requests : ι → ExchangeRequest) :
    Protocol ι gatewayInterface σ Stage where
  inv := Exchange store terms
  guard index _ _ _ stages :=
    ∀ call, requests index = .token call → ∃ other, stages other = .returned

/-! ## Steps that keep the invariant -/

variable {store : ResolvedStore σ} {terms : Terms} {state : σ} {trace} {stages : ι → Stage}
  {call : StoreCall}

section Steps

variable (running : Exchange store terms state trace stages)

include running

variable {index : ι}

theorem Exchange.consumed_of_stage (started : stages index ≠ .waiting) : consumed trace = true := by
  cases was : consumed trace with
  | true => rfl
  | false => exact absurd ((running.opened was).2 _) started

/-- A call that changes nothing. -/
theorem Exchange.keep
    (keeps : ((store.reading state).decide call).2 = .keep) (neutral : Neutral entry) :
    Exchange store terms (store.execute call state).2 (trace ++ [entry]) stages := by
  have same : store.documents (store.execute call state).2 = store.documents state := by
    rw [store.documents_execute, keeps]
    rfl
  have respects (field : IndexField) (value : String) :
      ((store.reading state).decide call).2.Respects field value terms.session := by
    rw [keeps]
    trivial
  refine ⟨running.leads.execute (respects _ _), ?_, ?_, ?_, running.unique, ?_, running.handedOut⟩
  · rw [same, neutral.expiryAfter]
    exact running.document
  · rw [neutral.consumed]
    intro open'
    exact ⟨(running.opened open').1.execute (respects _ _), (running.opened open').2⟩
  · rw [neutral.consumed]
    intro isConsumed
    obtain ⟨free, none, bound⟩ := running.closed isConsumed
    have none' : ∀ id, ¬ store.Carried (store.execute call state).2 .authSession
        terms.authSession id := by
      intro id
      rw [ContractStore.Carried, same]
      exact none id
    exact ⟨store.free_execute _ free none', none', bound⟩
  · rw [neutral.expiryAfter]
    exact running.copies

/-- After the claim, the next version of the session is stored in its place. -/
theorem Exchange.step (isConsumed : consumed trace = true)
    (respects : ((store.reading state).decide call).2.Respects .code terms.code terms.session)
    (changed : store.documents (store.execute call state).2 =
      Change.apply (store.documents state) (.write next))
    (describes : Describes terms (expiryAfter terms.expiresAt (trace ++ [entry])) next)
    (released : ¬ next.Carries .authSession terms.authSession) {stages' : ι → Stage}
    (unique : ∀ first second, (stages' first).HasClaimed → (stages' second).HasClaimed →
      first = second)
    (copies : ∀ index copy, (stages' index).copy = some copy →
      Describes terms (expiryAfter terms.expiresAt (trace ++ [entry])) copy ∧
        ¬ copy.Carries .authSession terms.authSession)
    (handedOut : ∀ index copy, stages' index = .forfeited copy →
      ∃ other, stages' other = .returned) :
    Exchange store terms (store.execute call state).2 (trace ++ [entry]) stages' := by
  obtain ⟨free, none, bound⟩ := running.closed isConsumed
  have none' : ∀ id, ¬ store.Carried (store.execute call state).2 .authSession
      terms.authSession id := by
    rintro id ⟨doc, present, carries⟩
    rw [changed, Change.apply, update_apply] at present
    split_ifs at present
    · cases present
      exact released carries
    · exact none id ⟨doc, present, carries⟩
  refine ⟨running.leads.execute respects, ⟨next, ?_, describes⟩, ?_,
    fun _ => ⟨store.free_execute _ free none', none', bound⟩, unique, copies, handedOut⟩
  · rw [changed, Change.apply, describes.sessionID, update_self]
  · rw [consumed_append, isConsumed]
    nofun

theorem Exchange.respects (describes : Describes terms expiresAt next) :
    (Change.write next).Respects .code terms.code terms.session :=
  iff_of_true ((next.carries_iff _ _).mpr ⟨running.leads.nonempty, describes.code.symm⟩)
    describes.sessionID

/-- A copy of the session is written in its place after the claim. -/
theorem Exchange.write (isConsumed : consumed trace = true)
    (writes : ((store.reading state).decide call).2 = .write next)
    (describes : Describes terms (expiryAfter terms.expiresAt trace) next)
    (released : ¬ next.Carries .authSession terms.authSession) (neutral : Neutral entry) :
    Exchange store terms (store.execute call state).2 (trace ++ [entry]) stages := by
  have changed := store.documents_execute call state
  rw [writes] at changed
  have respects := running.respects describes
  rw [← writes] at respects
  have sameExpiry := neutral.expiryAfter terms.expiresAt trace
  exact running.step isConsumed respects changed (sameExpiry ▸ describes) released running.unique
    (sameExpiry ▸ running.copies) running.handedOut

variable [DecidableEq ι]

/-- A continuation claims the auth_session, which leads nowhere from then on. -/
theorem Exchange.claim (isOpen : consumed trace = false)
    (stored : store.documents state terms.session = some doc)
    (bound : terms.dpopThumbprint ≠ "") (index : ι)
    (claimed : (store.execute (.claimAuthSession terms.authSession) state).1 =
      .ok doc.releaseAuthSession)
    (writes : ((store.reading state).decide (.claimAuthSession terms.authSession)).2 =
      .write doc.releaseAuthSession)
    (entered : entry = ⟨index, .store (.claimAuthSession terms.authSession),
      .ok doc.releaseAuthSession⟩) :
    Exchange store terms (store.execute (.claimAuthSession terms.authSession) state).2
      (trace ++ [entry]) (update stages index (.claimed doc.releaseAuthSession)) := by
  obtain ⟨leadsOpen, waiting⟩ := running.opened isOpen
  obtain ⟨found, present, describes⟩ := running.document
  rw [stored] at present
  cases present
  have changed : ∀ id, store.documents
      (store.execute (.claimAuthSession terms.authSession) state).2 id =
        if id = terms.session then some doc.releaseAuthSession
        else store.documents state id := by
    intro id
    rw [store.documents_execute, writes, Change.apply, update_apply]
    exact if_congr (by rw [← describes.sessionID]; rfl) rfl rfl
  have nowConsumed : consumed (trace ++ [entry]) = true := by
    simp [entered, consumed, claims, Except.isOk, Except.toBool]
  have describes' : Describes terms (expiryAfter terms.expiresAt (trace ++ [entry]))
      doc.releaseAuthSession := by
    rw [entered, expiryAfter_append]
    exact ⟨describes.sessionID, describes.code, describes.ordinary, describes.dpopThumbprint,
      describes.expiresAt⟩
  have others : ∀ other, (update stages index
      (.claimed doc.releaseAuthSession) other).HasClaimed → other = index := by
    intro other
    rw [update_apply]
    split_ifs with same
    · exact fun _ => same
    · rw [waiting]
      exact False.elim
  refine ⟨running.leads.execute ?_, ⟨_, ?_, describes'⟩, ?_, ?_, ?_, ?_, ?_⟩
  · rw [writes]
    exact running.respects describes'
  · rw [changed, if_pos rfl]
  · rw [nowConsumed]
    nofun
  · refine fun _ => ⟨store.free_claim leadsOpen.names leadsOpen.sole claimed, ?_, bound⟩
    rintro id ⟨other, present, carries⟩
    rw [changed] at present
    split_ifs at present with same
    · cases present
      exact doc.releaseAuthSession_free _ carries
    · exact same (leadsOpen.sole.unique id ⟨other, present, carries⟩)
  · exact fun first second one two => (others first one).trans (others _ two).symm
  · intro other copy
    rw [update_apply]
    split_ifs
    · rintro ⟨⟩
      exact ⟨describes', doc.releaseAuthSession_free _⟩
    · rw [waiting]
      nofun
  · intro other copy
    rw [update_apply]
    split_ifs
    · nofun
    · rw [waiting]
      nofun

omit [DecidableEq ι] in
/-- Until the code is returned, the continuation that has claimed the session holds
the only copy. -/
theorem Exchange.onlyCopy {index other : ι}
    {copy copy' : AuthorizationContext} (holds : stages index = .claimed copy)
    (otherHolds : (stages other).copy = some copy') : other = index := by
  have claimed : (stages index).HasClaimed := by
    rw [holds]
    trivial
  cases stage : stages other with
  | waiting | returned => simp [stage, Stage.copy] at otherHolds
  | claimed copy => exact running.unique _ index (by rw [stage]; trivial) claimed
  | forfeited copy =>
    obtain ⟨winner, returned⟩ := running.handedOut other copy stage
    obtain rfl := running.unique winner index (by rw [returned]; trivial) claimed
    rw [holds] at returned
    contradiction

/-- The continuation that has claimed the session starts the lifetime of the code and
returns it. -/
theorem Exchange.extend {copy : AuthorizationContext} (holds : stages index = .claimed copy)
    (named : terms.session ≠ "") (deadline : Int) :
    (store.execute (.extendExpiry { sessionID := terms.session } deadline) state).1 = .ok () ∧
      Exchange store terms
        (store.execute (.extendExpiry { sessionID := terms.session } deadline) state).2
        (trace ++ [⟨index, .store (.extendExpiry { sessionID := terms.session } deadline), .ok ()⟩])
        (update stages index .returned) := by
  have isConsumed := running.consumed_of_stage (by rw [holds]; rintro ⟨⟩)
  obtain ⟨doc, stored, describes⟩ := running.document
  have released : ¬ doc.Carries .authSession terms.authSession := fun carries =>
    (running.closed isConsumed).2.1 _ ⟨doc, stored, carries⟩
  have found : (store.reading state).byQuery { sessionID := terms.session } = some doc :=
    (store.bySession named).trans stored
  have decided : (store.reading state).decide
      (.extendExpiry { sessionID := terms.session } deadline) =
        if doc.expiresAt ≥ deadline then (.ok (), .keep)
        else Cache.write (doc.expireAt deadline) := by
    simp [Reading.decide, found, onFound]
  have changed := store.documents_execute
    (.extendExpiry { sessionID := terms.session } deadline) state
  have unique : ∀ first second, (update stages index .returned first).HasClaimed →
      (update stages index .returned second).HasClaimed → first = second := by
    have before : ∀ other, (update stages index .returned other).HasClaimed →
        (stages other).HasClaimed := by
      intro other
      rw [update_apply]
      split_ifs with same
      · rw [same, holds]
        exact id
      · exact id
    exact fun first second one two => running.unique first second (before _ one) (before _ two)
  have copies : ∀ other copy, (update stages index .returned other).copy ≠ some copy := by
    intro other copy
    rw [update_apply]
    split_ifs with same
    · rintro ⟨⟩
    · exact fun held => same (running.onlyCopy holds held)
  have handedOut : ∀ other copy, update stages index .returned other = .forfeited copy →
      ∃ winner, update stages index .returned winner = .returned :=
    fun _ _ _ => ⟨index, update_self _ _ _⟩
  have expiry : expiryAfter terms.expiresAt (trace ++ [(⟨index,
      .store (.extendExpiry { sessionID := terms.session } deadline), .ok ()⟩ :
        Entry ι gatewayInterface)]) = max doc.expiresAt deadline := by
    rw [expiryAfter_append, describes.expiresAt]
    rfl
  split_ifs at decided with enough
  · rw [decided] at changed
    refine ⟨store.execute_ok (by rw [decided]), running.step isConsumed (by rw [decided]; trivial)
      (changed.trans (Change.apply_write_self ?_).symm) ?_ released unique
      (fun other copy held => absurd held (copies _ _)) handedOut⟩
    · rw [describes.sessionID]
      exact stored
    · rw [expiry, max_eq_left enough]
      exact { describes with expiresAt := rfl }
  · have describes' : Describes terms (max doc.expiresAt deadline) (doc.expireAt deadline) :=
      ⟨describes.sessionID, describes.code, describes.ordinary, describes.dpopThumbprint,
        (max_eq_right (le_of_lt (not_le.mp enough))).symm⟩
    rw [decided] at changed
    refine ⟨store.execute_ok (by rw [decided]; rfl), running.step isConsumed ?_ changed
      (expiry ▸ describes') released unique
      (fun other copy held => absurd held (copies _ _)) handedOut⟩
    rw [decided]
    exact running.respects describes'

/-- A token request forfeits the code and holds a copy of the session. -/
theorem Exchange.hold
    (waiting : stages index = .waiting) (handedOut : ∃ other, stages other = .returned)
    (describes : Describes terms (expiryAfter terms.expiresAt trace) doc)
    (released : ¬ doc.Carries .authSession terms.authSession) :
    Exchange store terms state trace (update stages index (.forfeited doc)) := by
  obtain ⟨winner, returned⟩ := handedOut
  have isConsumed := running.consumed_of_stage (by rw [returned]; nofun)
  have other : winner ≠ index := by
    rintro rfl
    rw [waiting] at returned
    contradiction
  have before : ∀ other, (update stages index (.forfeited doc) other).HasClaimed →
      (stages other).HasClaimed := by
    intro other
    rw [update_apply]
    split_ifs
    · exact False.elim
    · exact id
  refine ⟨running.leads, running.document, ?_, running.closed,
    fun first second one two => running.unique first second (before _ one) (before _ two), ?_,
    fun _ _ _ => ⟨winner, (update_of_ne other _ _).trans returned⟩⟩
  · rw [isConsumed]
    nofun
  · intro holder copy
    rw [update_apply]
    split_ifs
    · rintro ⟨⟩
      exact ⟨describes, released⟩
    · exact running.copies _ _

end Steps

variable [DecidableEq ι]

/-! ## The calls of a request -/

/-- A process keeps the protocol of the exchange. -/
abbrev KeepsExchange {α : Type} (store : ResolvedStore σ) (terms : Terms)
    (requests : ι → ExchangeRequest) (index : ι) (post : Stage → α → Prop)
    (process : Process gatewayInterface α) (stage : Stage) : Prop :=
  (exchange store terms requests).Follows (gatewayOver store.toContractStore) index post process
    stage

namespace KeepsExchange

variable {requests : ι → ExchangeRequest} {index : ι} {α : Type} {post : Stage → α → Prop}
  {stage : Stage} {copy : AuthorizationContext}
  {next : Except StoreError AuthorizationContext → Process gatewayInterface α}

/-- A call that is decided to fail and change nothing. -/
theorem of_refuse {call : StoreCall} {next : Except StoreError call.Result → Process _ α}
    (neutral : ∀ error, Neutral (⟨index, .store call, .error error⟩ : Entry ι gatewayInterface))
    (decided : (store.reading state).decide call = refuse)
    (running : Exchange store terms state trace stages) (current : stages index = stage)
    (refused : ∀ error, KeepsExchange store terms requests index post (next (.error error)) stage) :
    Exchange store terms (store.execute call state).2
        (trace ++ [⟨index, .store call, (store.execute call state).1⟩])
        (update stages index stage) ∧
      KeepsExchange store terms requests index post (next (store.execute call state).1) stage := by
  rw [← current, update_eq_self, current]
  obtain ⟨error, answered⟩ := store.execute_error (by rw [decided]; rfl)
  rw [answered]
  exact ⟨running.keep (by rw [decided]; rfl) (neutral _), refused _⟩

theorem get_authSession (named : terms.authSession ≠ "")
    (refused : ∀ error, KeepsExchange store terms requests index post (next (.error error)) stage)
    (continues : ∀ doc, doc.authSessionDPoPThumbprint = terms.dpopThumbprint →
      KeepsExchange store terms requests index post (next (.ok doc)) stage) :
    KeepsExchange store terms requests index post
      (.call (.store (.get { authSession := terms.authSession })) next) stage := by
  intro state trace stages running current _
  cases isConsumed : consumed trace with
  | true =>
    exact ⟨stage, of_refuse (fun _ => ⟨rfl, fun _ => rfl⟩)
      (decide_get_of_free (running.closed isConsumed).1 (.authSession named))
      running current refused⟩
  | false =>
    obtain ⟨doc, stored, describes⟩ := running.document
    have decided := (running.opened isConsumed).1.decide_get (.authSession named) stored
    have answered := store.execute_ok (by rw [decided])
    simp only [gatewayOver, answered]
    refine ⟨stage, ?_, continues doc describes.dpopThumbprint⟩
    rw [← current, update_eq_self]
    exact running.keep (by rw [decided]) ⟨rfl, fun _ => rfl⟩

/-- The claim: one continuation comes to hold a copy of the session. -/
theorem claimAuthSession (bound : terms.dpopThumbprint ≠ "")
    (refused : ∀ error,
      KeepsExchange store terms requests index post (next (.error error)) .waiting)
    (continues : ∀ copy, copy.sessionID = terms.session → copy.code = terms.code →
      KeepsExchange store terms requests index post (next (.ok copy)) (.claimed copy)) :
    KeepsExchange store terms requests index post
      (.call (.store (.claimAuthSession terms.authSession)) next) .waiting := by
  intro state trace stages running waiting _
  cases isConsumed : consumed trace with
  | true =>
    exact ⟨.waiting, of_refuse (fun _ => ⟨rfl, fun _ => rfl⟩)
      (decide_claimAuthSession_of_free (running.closed isConsumed).1)
      running waiting refused⟩
  | false =>
    obtain ⟨doc, stored, describes⟩ := running.document
    have decided := (running.opened isConsumed).1.decide_claimAuthSession stored
    have answered := store.execute_ok (by rw [decided]; rfl)
    have writes : ((store.reading state).decide (.claimAuthSession terms.authSession)).2 =
        .write doc.releaseAuthSession := by rw [decided]; rfl
    simp only [gatewayOver, answered]
    exact ⟨_, running.claim isConsumed stored bound index answered writes rfl,
      continues _ describes.sessionID describes.code⟩

theorem get_code {code : String} (presents : code = terms.code)
    (continues : ∀ doc, doc.preAuthorized = false →
      KeepsExchange store terms requests index post (next (.ok doc)) stage) :
    KeepsExchange store terms requests index post (.call (.store (.get { code })) next)
      stage := by
  subst presents
  refine follows_call_of_keep fun state trace stages running _ _ => ?_
  obtain ⟨doc, stored, describes⟩ := running.document
  have decided := running.leads.decide_get (.code running.leads.nonempty) stored
  have answered := store.execute_ok (by rw [decided])
  simp only [gatewayOver, answered]
  exact ⟨running.keep (by rw [decided]) ⟨rfl, fun _ => rfl⟩, continues doc describes.ordinary⟩

/-- A token request forfeits the code of a session that is bound to its key. -/
theorem forfeitAuthorizationCode {call : TokenCall} (isToken : requests index = .token call)
    {code : String} (presents : code = terms.code)
    (refused : ∀ error,
      KeepsExchange store terms requests index post (next (.error error)) .waiting)
    (continues : ∀ copy, copy.authSessionDPoPThumbprint = terms.dpopThumbprint →
      terms.dpopThumbprint ≠ "" →
      KeepsExchange store terms requests index post (next (.ok copy)) (.forfeited copy)) :
    KeepsExchange store terms requests index post
      (.call (.store (.forfeitAuthorizationCode { code })) next) .waiting := by
  subst presents
  intro state trace stages running waiting guarded
  obtain ⟨winner, returned⟩ := guarded call isToken
  have isConsumed := running.consumed_of_stage (by rw [returned]; nofun)
  obtain ⟨_, none, bound⟩ := running.closed isConsumed
  obtain ⟨doc, stored, describes⟩ := running.document
  have decided := running.leads.decide_forfeitAuthorizationCode stored
  split_ifs at decided with forfeited
  · exact ⟨.waiting, of_refuse (fun _ => ⟨rfl, fun _ => rfl⟩) decided running waiting refused⟩
  · have answered := store.execute_ok (by rw [decided]; rfl)
    have agrees : Agrees doc doc.forfeit := ⟨rfl, rfl, rfl, rfl, rfl, rfl⟩
    have describes' := agrees.describes describes
    have released : ¬ doc.forfeit.Carries .authSession terms.authSession :=
      fun carries => none _ ⟨doc, stored, carries⟩
    have neutral : Neutral (⟨index, .store (.forfeitAuthorizationCode { code := terms.code }),
        .ok doc.forfeit⟩ : Entry ι gatewayInterface) := ⟨rfl, fun _ => rfl⟩
    have written := running.write isConsumed (by rw [decided]; rfl) describes' released neutral
    rw [← neutral.expiryAfter] at describes'
    simp only [gatewayOver, answered]
    exact ⟨_, written.hold waiting ⟨winner, returned⟩ describes' released,
      continues _ describes.dpopThumbprint bound⟩

variable {next : Except StoreError Unit → Process gatewayInterface α}

/-- A version of the copy that a request holds is written back. -/
theorem update {copy : AuthorizationContext} (holds : stage.copy = some copy)
    (agrees : Agrees copy doc)
    (continues : ∀ answer, KeepsExchange store terms requests index post (next answer) stage) :
    KeepsExchange store terms requests index post (.call (.store (.update doc)) next) stage := by
  refine follows_call_of_keep fun state trace stages running current _ =>
    ⟨?_, continues _⟩
  have started : stages index ≠ .waiting := by
    intro waiting
    rw [← current, waiting] at holds
    contradiction
  have isConsumed := running.consumed_of_stage started
  obtain ⟨describes, released⟩ := running.copies index copy (current ▸ holds)
  have neutral : Neutral (⟨index, .store (.update doc), (store.execute (.update doc) state).1⟩ :
      Entry ι gatewayInterface) := ⟨rfl, fun _ => rfl⟩
  by_cases refuses : doc.sessionID = "" ∨ (!doc.validate) = true
  · refine running.keep ?_ neutral
    rw [Reading.decide]
    rcases refuses with unnamed | invalid
    · rw [if_pos unnamed]
      rfl
    · rw [if_pos invalid, ite_self]
      rfl
  · obtain ⟨named, valid⟩ := not_or.mp refuses
    obtain ⟨old, stored, _⟩ := running.document
    have present : (store.reading state).byID doc.sessionID = some old := by
      rw [(agrees.describes describes).sessionID]
      exact stored
    obtain ⟨_, _, _, _, _, same⟩ := store.stored state doc
    have writes : ((store.reading state).decide (.update doc)).2 =
        .write ((store.reading state).stored doc) := by
      rw [Reading.decide, if_neg named, if_neg valid, present]
      rfl
    have agrees' : Agrees copy ((store.reading state).stored doc) := by
      rw [same]
      exact ⟨agrees.sessionID, agrees.code, agrees.ordinary, agrees.dpopThumbprint,
        agrees.expiresAt, agrees.authSession⟩
    exact running.write isConsumed writes (agrees'.describes describes)
      (fun carries => released ((agrees'.carries_iff _).mp carries)) neutral

/-- A continuation records the identifier of the holder. -/
theorem setIdentifier {id : String} (sameID : id = terms.session) (identifier : String)
    (continues : ∀ answer,
      KeepsExchange store terms requests index post (next answer) (.claimed copy)) :
    KeepsExchange store terms requests index post
      (.call (.store (.setIdentifier { sessionID := id } identifier)) next) (.claimed copy) := by
  subst sameID
  refine follows_call_of_keep fun state trace stages running current _ =>
    ⟨?_, continues _⟩
  have isConsumed := running.consumed_of_stage (by rw [current]; nofun)
  obtain ⟨doc, stored, describes⟩ := running.document
  have agrees : Agrees doc (doc.identify identifier) := ⟨rfl, rfl, rfl, rfl, rfl, rfl⟩
  have decided : (store.reading state).decide
      (.setIdentifier { sessionID := terms.session } identifier) =
        if identifier = "" then refuse else if terms.session = "" then refuse
        else Cache.write (doc.identify identifier) := by
    have present : (store.reading state).byID terms.session = some doc := stored
    simp [Reading.decide, present, onFound]
  split_ifs at decided
  · exact running.keep (by rw [decided]; rfl) ⟨rfl, fun _ => rfl⟩
  · exact running.keep (by rw [decided]; rfl) ⟨rfl, fun _ => rfl⟩
  · exact running.write isConsumed (by rw [decided]; rfl) (agrees.describes describes)
      (fun carries => (running.closed isConsumed).2.1 _ ⟨doc, stored, carries⟩)
      ⟨rfl, fun _ => rfl⟩

/-- The lifetime of the code begins. -/
theorem extendExpiry {id : String} (sameID : id = terms.session) (named : terms.session ≠ "")
    (deadline : Int)
    (continues : KeepsExchange store terms requests index post (next (.ok ())) .returned) :
    KeepsExchange store terms requests index post
      (.call (.store (.extendExpiry { sessionID := id } deadline)) next) (.claimed copy) := by
  subst sameID
  intro state trace stages running current _
  obtain ⟨answered, kept⟩ := running.extend current named deadline
  simp only [gatewayOver, answered]
  exact ⟨.returned, kept, continues⟩

/-! ## Continuations -/

variable {service : ChallengeService}

/-- The presentation is consumed on the copy that was claimed. -/
theorem consumePresentation (sameID : copy.sessionID = terms.session) (response : VPResponse)
    (audience expectedState : String) :
    KeepsExchange store terms requests index (fun stage _ => stage = .claimed copy)
      (service.presentations.consumeIssuanceAuthPresentation copy response audience expectedState)
      (.claimed copy) := by
  rw [consumeIssuanceAuthPresentation]
  cases service.presentations.examinePresentation copy response audience expectedState with
  | error error => exact rfl
  | ok examined =>
    obtain ⟨scope, authScope, presented⟩ := examined
    simp only
    split_ifs
    · rw [finalisePresentationVerification]
      cases service.presentations.storableClaims scope authScope presented with
      | error error => exact rfl
      | ok storable =>
        have agrees : Agrees copy (withClaims copy storable authScope) :=
          ⟨rfl, rfl, rfl, rfl, rfl, rfl⟩
        refine update rfl agrees fun answer => ?_
        cases answer <;> exact rfl
    · rw [persistIdentifier]
      cases service.presentations.resolveIdentifier scope authScope copy.authenticSource
          _ with
      | error error => exact rfl
      | ok identifier =>
        refine setIdentifier sameID _ fun answer => ?_
        cases answer <;> exact rfl

theorem completeExchange (named : terms.session ≠ "") (sameID : copy.sessionID = terms.session)
    (sameCode : copy.code = terms.code) (call : ChallengeCall) :
    KeepsExchange store terms requests index
      (IfOk fun stage code => stage = .returned ∧ code = terms.code)
      (service.completeExchange call copy) (.claimed copy) := by
  rw [ChallengeService.completeExchange]
  cases service.decodeResponse copy call.request.openID4VPResponse with
  | error error => trivial
  | ok response =>
    cases service.audience with
    | error error => trivial
    | ok audience =>
      refine (consumePresentation sameID response audience copy.state).bind
        fun result stage held => ?_
      subst held
      cases result with
      | error error => trivial
      | ok _ =>
        refine extendExpiry sameID named _ ?_
        exact ⟨rfl, sameCode⟩

/-- A continuation returns the code only if it has claimed the session. -/
theorem continuation (named : terms.session ≠ "") (handle : terms.authSession ≠ "")
    {call : ChallengeCall} (presents : call.request.authSession = terms.authSession) :
    KeepsExchange store terms requests index
      (IfOk fun stage code => stage = .returned ∧ code = terms.code)
      (service.authorizationChallengeIntermediate call) .waiting := by
  rw [authorizationChallengeIntermediate, presents]
  refine get_authSession handle (fun error => ?_) fun doc sameKey => ?_
  · cases error <;> trivial
  · simp only
    cases checked : checkContinuation call doc with
    | error error => trivial
    | ok _ =>
      have bound : terms.dpopThumbprint ≠ "" := by
        rw [← sameKey]
        intro unbound
        simp only [checkContinuation] at checked
        split_ifs at checked <;> contradiction
      refine claimAuthSession bound (fun error => ?_) fun copy sameID sameCode => ?_
      · cases error <;> trivial
      · exact completeExchange named sameID sameCode _

/-! ## Token requests -/

variable {gateway : Gateway} {call : TokenCall}

theorem authenticateClient (presents : call.code = terms.code) (clientID : String) :
    KeepsExchange store terms requests index (IfOk fun stage _ => stage = .waiting)
      (gateway.authenticateClient call clientID) .waiting := by
  rw [Gateway.authenticateClient]
  split_ifs
  · exact rfl
  · cases gateway.clients clientID with
    | some clientType => exact rfl
    | none =>
      simp only [authenticateAttested]
      cases gateway.evaluateAttestation call clientID with
      | error error => trivial
      | ok result =>
        refine get_code presents fun doc _ => ?_
        simp only
        split_ifs
        · trivial
        · exact rfl

/-- The look before the consumption passes only an authorization code request. -/
theorem preCheck (presents : call.code = terms.code) (clientID dpopThumbprint : String) :
    KeepsExchange store terms requests index
      (IfOk fun stage _ => stage = .waiting ∧ call.isPreAuthFlow = false)
      (if call.isPreAuthFlow then gateway.preCheckPreAuthorized call
        else preCheckCode call clientID dpopThumbprint) .waiting := by
  split_ifs with isPreAuthFlow
  · refine get_code presents fun doc ordinary => ?_
    simp only [Process.bind_done, checkPreAuthorized, ordinary]
    trivial
  · refine get_code presents fun doc _ => ?_
    simp only [Process.bind_done, Option.getD_some]
    cases checkCodeRequest call clientID dpopThumbprint doc with
    | error error => trivial
    | ok _ => exact ⟨rfl, by simpa using isPreAuthFlow⟩

theorem consumeCode (isToken : requests index = .token call) (presents : call.code = terms.code)
    (ordinary : call.isPreAuthFlow = false) (dpopThumbprint : String) :
    KeepsExchange store terms requests index
      (IfOk fun stage copy => stage = .forfeited copy ∧
        copy.authSessionDPoPThumbprint = terms.dpopThumbprint ∧ terms.dpopThumbprint ≠ "")
      (Gateway.consumeCode call dpopThumbprint) .waiting := by
  simp only [Gateway.consumeCode, ordinary, Bool.false_eq_true, false_and, if_false]
  exact forfeitAuthorizationCode isToken presents (fun _ => trivial)
    fun copy sameKey bound => ⟨rfl, sameKey, bound⟩

/-- A session that is bound to a key passes only with that key. -/
theorem provenKey_of_checkConsumed {authCtx : AuthorizationContext} {dpopThumbprint scope : String}
    (bound : authCtx.authSessionDPoPThumbprint ≠ "")
    (checked : gateway.checkConsumed call dpopThumbprint authCtx = .ok scope) :
    dpopThumbprint = authCtx.authSessionDPoPThumbprint := by
  by_contra other
  have refused : ∃ error, checkInteractiveAuthorizationBinding authCtx dpopThumbprint =
      .error error := by
    rw [checkInteractiveAuthorizationBinding, if_neg bound, if_neg (Ne.symm other)]
    exact ⟨_, rfl⟩
  obtain ⟨error, refused⟩ := refused
  simp [checkConsumed, refused] at checked

/-- A token request is answered with tokens only for the key of the exchange. -/
theorem oauthToken (isToken : requests index = .token call) (presents : call.code = terms.code) :
    KeepsExchange store terms requests index
      (IfOk fun _ _ => provenKey call = .ok terms.dpopThumbprint)
      (gateway.oauthToken call) .waiting := by
  rw [Gateway.oauthToken]
  cases gateway.claimedClientID call with
  | error error => trivial
  | ok clientID =>
    simp only
    split_ifs
    · trivial
    · refine (authenticateClient presents clientID).andThen fun client stage waiting => ?_
      subst waiting
      split_ifs
      · trivial
      · cases proven : provenKey call with
        | error error => trivial
        | ok dpopThumbprint =>
          refine (preCheck presents clientID dpopThumbprint).andThen ?_
          rintro _ _ ⟨rfl, ordinary⟩
          refine (consumeCode isToken presents ordinary dpopThumbprint).andThen ?_
          rintro copy _ ⟨rfl, sameKey, bound⟩
          cases checked : gateway.checkConsumed call dpopThumbprint copy with
          | error error => trivial
          | ok scope =>
            have sameProof := provenKey_of_checkConsumed (sameKey ▸ bound) checked
            rw [sameKey] at sameProof
            simp only [storeTokens, ordinary, Bool.false_eq_true, if_false]
            refine update rfl ⟨rfl, rfl, rfl, rfl, rfl, rfl⟩ fun answer => ?_
            cases answer with
            | error error => trivial
            | ok _ => exact congrArg Except.ok sameProof

end KeepsExchange

/-! ## One code -/

/-- The state holds an open exchange on these terms. -/
structure Opened (store : ResolvedStore σ) (state : σ) (terms : Terms) : Prop where
  named : terms.session ≠ ""
  code : store.Leads state .code terms.code terms.session
  authSession : store.Leads state .authSession terms.authSession terms.session
  document : ∃ doc, store.documents state terms.session = some doc ∧
    Describes terms terms.expiresAt doc

/-- The request presents a handle of the exchange. -/
def Presents (terms : Terms) : ExchangeRequest → Prop
  | .continuation call => call.request.authSession = terms.authSession
  | .token call => call.code = terms.code

/-- The auth_session can be read or claimed. -/
def Resolves (store : ResolvedStore σ) (state : σ) (authSession : String) : Prop :=
  (∃ doc, (store.execute (.get { authSession }) state).1 = .ok doc) ∨
    (∃ doc, (store.execute (.getSnapshot { authSession }) state).1 = .ok doc) ∨
    ∃ doc, (store.execute (.claimAuthSession authSession) state).1 = .ok doc

/-- The requests about to be served. -/
def ChallengeSite.exchanging (site : ChallengeSite) (state : σ)
    (requests : ι → ExchangeRequest) : Pool ι gatewayInterface σ ExchangeReply :=
  .initial state fun index => site.serve (requests index)

def ExchangeRequest.isToken : ExchangeRequest → Bool
  | .continuation _ => false
  | .token _ => true

def returnsCode : Process gatewayInterface ExchangeReply → Bool
  | .done (.code result) => result.isOk
  | _ => false

/-- Steps in which a token request comes after a continuation has returned the code. -/
def AfterCode (requests : ι → ExchangeRequest) (pool : Pool ι gatewayInterface σ ExchangeReply)
    (index : ι) : Prop :=
  (requests index).isToken = true → ∃ other, returnsCode (pool.processes other) = true

/-- What holds of a pool of the exchange and of any pool that is reached from it. -/
structure ExchangeSafe (store : ResolvedStore σ) (terms : Terms)
    (requests : ι → ExchangeRequest) (pool later : Pool ι gatewayInterface σ ExchangeReply) :
    Prop where
  atMostOne : ∀ first second code code', pool.Returned first (.code (.ok code)) →
    pool.Returned second (.code (.ok code')) → first = second
  returned : ∀ index code, pool.Returned index (.code (.ok code)) →
    code = terms.code ∧ consumed pool.trace = true
  unresolvable : consumed pool.trace = true → ¬ Resolves store later.shared terms.authSession
  document : ∃ doc next, store.documents pool.shared terms.session = some doc ∧
    store.documents later.shared terms.session = some next ∧
    doc.authSessionDPoPThumbprint = terms.dpopThumbprint ∧
    next.authSessionDPoPThumbprint = terms.dpopThumbprint ∧ doc.expiresAt ≤ next.expiresAt
  binding : consumed pool.trace = true → ∀ doc key,
    store.documents later.shared terms.session = some doc → key ≠ terms.dpopThumbprint →
    checkInteractiveAuthorizationBinding doc key = oauthError .invalidGrant
      "authorization code must be redeemed with the key its authorization was obtained under" 400
  redeemed : ∀ index call response, requests index = .token call →
    pool.Returned index (.token (.ok response)) →
    provenKey call = .ok terms.dpopThumbprint

/-- Every run of an open exchange is safe. -/
def OneCode (store : ResolvedStore σ) : Prop :=
  ∀ {ι : Type} [DecidableEq ι] (site : ChallengeSite) (state : σ) (terms : Terms)
    (requests : ι → ExchangeRequest), Opened store state terms →
    (∀ index, Presents terms (requests index)) →
    ∀ pool later,
      Run (gatewayOver store.toContractStore) (AfterCode requests)
        (site.exchanging state requests) pool →
      Run (gatewayOver store.toContractStore) (AfterCode requests) pool later →
      ExchangeSafe store terms requests pool later

variable {requests : ι → ExchangeRequest}

/-- What a reply says about the stage of its request. -/
def Replied (terms : Terms) (request : ExchangeRequest) (stage : Stage) : ExchangeReply → Prop
  | .code result =>
    IfOk (fun stage code => stage = .returned ∧ code = terms.code) stage result
  | .token result => ∀ call, request = .token call →
      IfOk (fun _ _ => provenKey call = .ok terms.dpopThumbprint) stage result

theorem keepsExchange_serve (site : ChallengeSite) (named : terms.session ≠ "")
    (handle : terms.authSession ≠ "") (presents : ∀ index, Presents terms (requests index))
    (index : ι) :
    KeepsExchange store terms requests index (Replied terms (requests index))
      (site.serve (requests index)) .waiting := by
  have presented := presents index
  cases request : requests index with
  | continuation call =>
    rw [request] at presented
    exact (KeepsExchange.continuation named handle presented).bind fun _ _ reached => reached
  | token call =>
    rw [request] at presented
    refine (KeepsExchange.oauthToken request presented).bind fun result stage reached => ?_
    rintro _ ⟨⟩
    exact reached

omit [DecidableEq ι] in
theorem Exchange.unresolvable {trace : List (Entry ι gatewayInterface)}
    {stages : ι → Stage} (running : Exchange store terms state trace stages)
    (handle : terms.authSession ≠ "") (isConsumed : consumed trace = true) :
    ¬ Resolves store state terms.authSession := by
  obtain ⟨free, _, _⟩ := running.closed isConsumed
  have fails {call : StoreCall} (decided : (store.reading state).decide call = refuse)
      {result : call.Result} : (store.execute call state).1 ≠ .ok result := by
    obtain ⟨error, answered⟩ := store.execute_error (by rw [decided]; rfl)
    rw [answered]
    nofun
  have unread := decide_get_of_free free (.authSession handle)
  have unreadSnapshot : (store.reading state).decide
      (.getSnapshot { authSession := terms.authSession }) = refuse := unread
  rintro (⟨doc, found⟩ | ⟨doc, found⟩ | ⟨doc, found⟩)
  · exact fails unread found
  · exact fails unreadSnapshot found
  · exact fails (decide_claimAuthSession_of_free free) found

omit [DecidableEq ι] in
theorem Opened.running (opened : Opened store state terms) :
    Exchange store terms state ([] : List (Entry ι gatewayInterface)) fun _ => .waiting where
  leads := opened.code
  document := opened.document
  opened _ := ⟨opened.authSession, fun _ => rfl⟩
  closed impossible := absurd impossible Bool.false_ne_true
  unique _ _ impossible := False.elim impossible
  copies _ _ impossible := absurd impossible (Option.some_ne_none _).symm
  handedOut _ _ impossible := Stage.noConfusion impossible

variable {pool : Pool ι gatewayInterface σ ExchangeReply}

omit [DecidableEq ι] in
theorem exists_returned_of_returnsCode {index : ι}
    (returns : returnsCode (pool.processes index) = true) :
    ∃ code, pool.Returned index (.code (.ok code)) := by
  unfold returnsCode at returns
  split at returns
  · next result returned =>
    cases result with
    | error error => contradiction
    | ok code => exact ⟨code, returned⟩
  · contradiction

/-- The protocol holds of every pool that a run reaches. -/
theorem Opened.holds (opened : Opened store state terms) (site : ChallengeSite)
    (presents : ∀ index, Presents terms (requests index))
    (run : Run (gatewayOver store.toContractStore) (AfterCode requests)
      (site.exchanging state requests) pool) :
    ∃ stages, (exchange store terms requests).Holds (gatewayOver store.toContractStore)
      (fun index => Replied terms (requests index)) pool stages := by
  have initially : (exchange store terms requests).Holds (gatewayOver store.toContractStore)
      (fun index => Replied terms (requests index)) (site.exchanging state requests)
      fun _ => .waiting :=
    ⟨opened.running, keepsExchange_serve site opened.named opened.authSession.nonempty presents⟩
  refine run.follows ?_ initially
  intro pool stages index request next holds _ permitted call isToken
  obtain ⟨other, returned⟩ := permitted (by rw [isToken]; rfl)
  obtain ⟨code, returned⟩ := exists_returned_of_returnsCode returned
  exact ⟨other, (holds.returned returned).1⟩

theorem oneCode (store : ResolvedStore σ) : OneCode store := by
  intro ι _ site state terms requests opened presents pool later run runLater
  obtain ⟨stages, holds⟩ := opened.holds site presents run
  obtain ⟨stagesLater, runningLater, _⟩ := opened.holds site presents (run.trans runLater)
  obtain ⟨since, sameTrace⟩ := runLater.trace_append
  have stillConsumed : consumed pool.trace = true → consumed later.trace = true := by
    intro isConsumed
    rw [sameTrace, consumed_append, isConsumed, Bool.true_or]
  obtain ⟨doc, stored, describes⟩ := holds.1.document
  obtain ⟨next, storedNext, describesNext⟩ := runningLater.document
  refine ⟨?_, ?_, ?_, ⟨doc, next, stored, storedNext, describes.dpopThumbprint,
    describesNext.dpopThumbprint, ?_⟩, ?_, ?_⟩
  · intro first second code code' returned returnedToo
    have one := (holds.returned returned).1
    have two := (holds.returned returnedToo).1
    exact holds.1.unique first second (by rw [one]; trivial) (by rw [two]; trivial)
  · intro index code returned
    have stage := (holds.returned returned).1
    exact ⟨(holds.returned returned).2, holds.1.consumed_of_stage (by rw [stage]; nofun)⟩
  · exact fun isConsumed =>
      runningLater.unresolvable opened.authSession.nonempty (stillConsumed isConsumed)
  · rw [describes.expiresAt, describesNext.expiresAt, sameTrace, expiryAfter_append]
    exact le_expiryAfter _ _
  · intro isConsumed current key present other
    rw [storedNext] at present
    cases present
    have bound := (runningLater.closed (stillConsumed isConsumed)).2.2
    rw [checkInteractiveAuthorizationBinding, describesNext.dpopThumbprint, if_neg bound,
      if_neg (Ne.symm other)]
  · exact fun index call response isToken returned => holds.returned returned _ isToken

/-- Over either store, one exchange yields one authorization code at most, its
auth_session stays consumed, and its code stays bound to its key. -/
theorem one_code_per_exchange (bson : Bson) :
    OneCode MemoryStore.resolved ∧ OneCode (resolved bson) :=
  ⟨oneCode _, oneCode _⟩

/-! ### Two continuations and a token request -/

/-- Presentations whose claims are the source of the document. -/
def exchangeService : ChallengeService where
  presentations :=
    { hasCredentialMetadata := fun _ => true
      issuanceAuthDCQL := fun _ => .error (.failure "")
      signedRequestObject := fun _ _ => .error (.failure "")
      verifyPresentation := fun _ _ _ _ _ => .ok []
      isPresentationScope := fun _ => true
      storableClaims := fun _ _ claims => .ok claims
      previewDocument := fun _ _ _ => .ok ()
      resolveIdentifier := fun _ _ _ _ => .error (.failure "")
      publishDocuments := fun _ _ _ _ => .ok () }
  audience := .ok "audience"
  decodeResponse _ _ := .ok ⟨[("pid", ["token"])], ""⟩

/-- An open exchange. -/
def exchangeSession : Record where
  context :=
    { sessionID := "session", code := "code", authSession := "handle",
      authSessionDPoPThumbprint := "key", expiresAt := 60, scopes := ["pid"],
      dataSource := "presentation",
      dcqlQuery := some ⟨.obj [("credentials", .arr [.obj [("id", .str "pid")]])]⟩ }

def exchangeTerms : Terms where
  session := "session"
  authSession := "handle"
  code := "code"
  dpopThumbprint := "key"
  expiresAt := 60

/-- Two continuations and a token request. -/
def exchangeRequests (index : Fin 3) : ExchangeRequest :=
  if index = 2 then
    .token
      { request :=
          { dpop := "proof", grantType := .authorizationCode, code := "code",
            clientID := "wallet" }
        dpopProof := .ok "key"
        accessToken := "token" }
  else
    .continuation
      { request := { authSession := "handle", dpop := "proof", openID4VPResponse := "response" }
        dpopProof := .ok "key" }

instance {count : Nat} (requests : Fin count → ExchangeRequest)
    (pool : Pool (Fin count) gatewayInterface σ ExchangeReply) (index : Fin count) :
    Decidable (AfterCode requests pool index) :=
  inferInstanceAs (Decidable (_ → ∃ _, _))

/-- The pool in which they are about to be served. -/
def exchangePool : Pool (Fin 3) gatewayInterface Database ExchangeReply :=
  ChallengeSite.exchanging ⟨walletGateway, exchangeService⟩
    (Collection.empty.write exchangeSession) exchangeRequests

/-- Both continuations find the session, the first one claims it and returns the code,
and the token request redeems the code. -/
def exchangedPool : Pool (Fin 3) gatewayInterface Database ExchangeReply :=
  exchangePool.schedule (gatewayOver (contract .lossless)) [0, 1, 0, 1, 0, 0, 2, 2, 2]

/-- The theorem for this schedule, in which the code is returned. -/
theorem second_continuation_gets_no_code :
    returnsCode (exchangedPool.processes 0) = true ∧
      ExchangeSafe (resolved .lossless) exchangeTerms exchangeRequests exchangedPool
        exchangedPool := by
  have code : (contract .lossless).Sole _ .code "code" "session" :=
    sole_single (by decide : exchangeSession.unmarshal.Carries .code "code")
  have handle : (contract .lossless).Sole _ .authSession "handle" "session" :=
    sole_single (by decide : exchangeSession.unmarshal.Carries .authSession "handle")
  have opened : Opened (resolved .lossless)
      (Collection.empty.write exchangeSession) exchangeTerms :=
    ⟨by decide, ⟨code, code⟩, ⟨handle, handle⟩, _,
      (@Database.documents_single exchangeSession "session" _).mpr ⟨rfl, rfl⟩,
      rfl, rfl, rfl, rfl, rfl⟩
  have presents : ∀ index, Presents exchangeTerms (exchangeRequests index) := by
    intro index
    rw [exchangeRequests]
    split_ifs <;> rfl
  have run : Run (gatewayOver (contract .lossless)) (AfterCode exchangeRequests)
      exchangePool exchangedPool :=
    Run.schedule (by decide +kernel)
  exact ⟨by decide +kernel, (one_code_per_exchange _).2 _ _ _ _ opened presents _ _ run .refl⟩

end Vc.Apigw
