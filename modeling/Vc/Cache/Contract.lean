import Vc.Cache.Context
import Vc.Concurrent.Process

/-!
# The contract of a store

What a call of `AuthContextStore` does, said once for both implementations.  A
store in its present state *reads* in a certain way: which document a session
id, a searchable value or a query leads to, which anchor a saved document gets,
what a document looks like once stored.  A call is then decided by the reading
alone: `decide` gives its answer and the change that it makes to the documents.

The two stores differ in their readings only, so a property of `decide` for
every sound reading is a property of both.
-/

namespace Vc.Cache

open Concurrent Function

/-- The calls of a store, each answered by an error or by its result. -/
abbrev storeInterface : Interface where
  Call := StoreCall
  Answer call := Except StoreError call.Result

/-- What a caller can tell about a failed call. -/
inductive Refusal where
  | attemptsExceeded
  | refused
  deriving DecidableEq

def StoreError.refusal : StoreError → Refusal
  | .txCodeAttemptsExceeded => .attemptsExceeded
  | .noDocuments | .message _ => .refused

/-- The documents of a store by session id. -/
abbrev Documents := String → Option AuthorizationContext

/-- What a call does to the documents. -/
inductive Change where
  | keep
  | write (doc : AuthorizationContext)
  | remove (id : String)

def Change.apply (documents : Documents) : Change → Documents
  | .keep => documents
  | .write doc => update documents doc.sessionID (some doc)
  | .remove id => update documents id none

variable {doc : AuthorizationContext}

/-- Writing a document back as it is changes nothing. -/
theorem Change.apply_write_self {documents : Documents}
    (stored : documents doc.sessionID = some doc) :
    Change.apply documents (.write doc) = documents := by
  rw [Change.apply, ← stored, update_eq_self]

/-- How a store in its present state reads. -/
structure Reading where
  /-- The document of a session. -/
  byID : Documents
  /-- The document that a searchable value leads to. -/
  byField : IndexField → String → Option AuthorizationContext
  /-- The document that a query leads to. -/
  byQuery : AuthorizationContext → Option AuthorizationContext
  /-- The document whose code a query forfeits. -/
  byForfeit : AuthorizationContext → Option AuthorizationContext
  /-- The document whose pre-authorized code a client redeems. -/
  byRedemption : String → String → Option AuthorizationContext
  /-- The document that a transaction-code attempt is counted on. -/
  byAttempt : String → Option AuthorizationContext
  /-- The document of a session, if the value leads to that session. -/
  bySession : String → IndexField → String → Option AuthorizationContext
  /-- The creation time that a saved document gets. -/
  anchor : AuthorizationContext → Time → Time
  /-- A whole document as it is read back after it was written. -/
  stored : AuthorizationContext → AuthorizationContext
  /-- A document as it is read back after an exchange was resumed on it, unless
  the store cannot hold the exchange. -/
  resumed : AuthorizationContext → IssuerStateResume → Option AuthorizationContext

/-- Every document that the reading leads to is the document of its session. -/
structure Reading.Sound (reading : Reading) : Prop where
  byID : ∀ {id doc}, reading.byID id = some doc → doc.sessionID = id
  byField : ∀ {field value doc}, reading.byField field value = some doc →
    reading.byID doc.sessionID = some doc
  byQuery : ∀ {query doc}, reading.byQuery query = some doc → reading.byID doc.sessionID = some doc
  byForfeit : ∀ {query doc}, reading.byForfeit query = some doc →
    reading.byID doc.sessionID = some doc
  byRedemption : ∀ {code dpopThumbprint doc},
    reading.byRedemption code dpopThumbprint = some doc → reading.byID doc.sessionID = some doc
  byAttempt : ∀ {code doc}, reading.byAttempt code = some doc →
    reading.byID doc.sessionID = some doc
  bySession : ∀ {id field value doc}, reading.bySession id field value = some doc →
    doc.sessionID = id ∧ reading.byID id = some doc
  stored : ∀ doc, (reading.stored doc).sessionID = doc.sessionID
  resumed : ∀ {doc resume result}, reading.resumed doc resume = some result →
    result.sessionID = doc.sessionID

/-- The answer of a call together with the change it makes. -/
abbrev Decision (α : Type) := Except Refusal α × Change

/-- The decision to fail and change nothing. -/
def refuse {α : Type} : Decision α :=
  (.error .refused, .keep)

/-- Read a document without changing it. -/
def answer (found : Option AuthorizationContext) : Decision AuthorizationContext :=
  match found with
  | none => refuse
  | some doc => (.ok doc, .keep)

/-- Work on a document that has to be there. -/
def onFound {α : Type} (found : Option AuthorizationContext)
    (work : AuthorizationContext → Decision α) : Decision α :=
  match found with
  | none => refuse
  | some doc => work doc

/-- Answer by a document and write it. -/
def rewrite (doc : AuthorizationContext) : Decision AuthorizationContext :=
  (.ok doc, .write doc)

/-- Write a document. -/
def write (doc : AuthorizationContext) : Decision Unit :=
  (.ok (), .write doc)

/-- What a call answers and changes, by the reading of the store. -/
def Reading.decide (reading : Reading) : (call : StoreCall) → Decision call.Result
  | .save doc now =>
    if doc.sessionID = "" then refuse
    else if !doc.validate then refuse
    else write (reading.stored (doc.createAt (reading.anchor doc now)))
  | .get query | .getSnapshot query => answer (reading.byQuery query)
  | .getByID id => if id = "" then refuse else answer (reading.byID id)
  | .getByAuthorizationCode code =>
    if code = "" then refuse else answer (reading.byField .code code)
  | .getByAccessToken token | .getWithAccessToken token =>
    if token = "" then refuse else answer (reading.byField .accessToken token)
  | .getByRefreshToken refreshToken =>
    if refreshToken = "" then refuse else answer (reading.byField .refreshToken refreshToken)
  | .update doc =>
    if doc.sessionID = "" then refuse
    else if !doc.validate then refuse
    else onFound (reading.byID doc.sessionID) fun _ => write (reading.stored doc)
  | .delete id => if id = "" then refuse else (.ok (), .remove id)
  | .forfeitAuthorizationCode query =>
    onFound (reading.byForfeit query) fun doc =>
      if doc.forfeited then refuse else rewrite doc.forfeit
  | .markCodeAsForfeited id =>
    if id = "" then refuse
    else onFound (reading.byID id) fun doc =>
      if doc.forfeited then refuse else write doc.forfeit
  | .redeemPreAuthorizedCode code dpopThumbprint =>
    if code = "" then refuse
    else if dpopThumbprint = "" then refuse
    else if dpopThumbprint.utf8ByteSize > 128 then refuse
    else onFound (reading.byRedemption code dpopThumbprint) fun doc =>
      if doc.forfeited then refuse
      else if dpopThumbprint ∈ doc.redeemedBy then refuse
      else if doc.redeemedBy.length ≥ maxPreAuthRedeemers then refuse
      else rewrite (doc.redeem dpopThumbprint)
  | .consumeTXCodeAttempt code =>
    if code = "" then refuse
    else onFound (reading.byAttempt code) fun doc =>
      if doc.forfeited then refuse
      else if doc.txCodeAttempts ≥ maxTXCodeAttempts then
        (.error .attemptsExceeded, .write doc.forfeit)
      else rewrite doc.attempt
  | .consent query =>
    if query.requestURI = "" then refuse
    else onFound (reading.byField .requestURI query.requestURI) fun doc =>
      write doc.giveConsent
  | .extendExpiry query expiresAt =>
    onFound (reading.byQuery query) fun doc =>
      if doc.expiresAt ≥ expiresAt then (.ok (), .keep) else write (doc.expireAt expiresAt)
  | .addToken code token =>
    if code = "" then refuse
    else onFound (reading.byField .code code) fun doc => write (doc.grant token)
  | .rotateRefreshToken oldToken updated =>
    if oldToken = "" then refuse
    else if updated.sessionID = "" then refuse
    else onFound (reading.bySession updated.sessionID .refreshToken oldToken) fun _ =>
      write (reading.stored updated)
  | .setIdentifier query identifier =>
    if identifier = "" then refuse
    else if query.sessionID = "" then refuse
    else onFound (reading.byID query.sessionID) fun doc => write (doc.identify identifier)
  | .setAuthenticSource query authenticSource =>
    if authenticSource = "" then refuse
    else if query.sessionID = "" then refuse
    else onFound (reading.byID query.sessionID) fun doc =>
      write (doc.sourceFrom authenticSource)
  | .setAuthProvider sessionID fields =>
    if sessionID = "" then refuse
    else onFound (reading.byID sessionID) fun doc => write (doc.provideBy fields)
  | .claimAuthSession authSession =>
    if authSession = "" then refuse
    else onFound (reading.byField .authSession authSession) fun doc =>
      if doc.authSession ≠ authSession then refuse
      else rewrite doc.releaseAuthSession
  | .claimIssuerState issuerState opened =>
    if issuerState = "" then refuse
    else if opened.sessionID = "" then refuse
    else if !opened.releaseIssuerState.validate then refuse
    else onFound (reading.bySession opened.sessionID .issuerState issuerState) fun _ =>
      rewrite (reading.stored opened.releaseIssuerState)
  | .resumeIssuerState issuerState resume =>
    if issuerState = "" then refuse
    else onFound (reading.byField .issuerState issuerState) fun doc =>
      if doc.issuerState ≠ issuerState then refuse
      else onFound (reading.resumed doc resume) rewrite

/-- A method that started from the documents `before` answered and left the
state as the decision says; `view` gives the documents of a state. -/
structure Decides {σ α : Type} (view : σ → Documents) (before : Documents)
    (decision : Decision α) (outcome : Except StoreError α × σ) : Prop where
  answer : outcome.1.mapError StoreError.refusal = decision.1
  change : view outcome.2 = decision.2.apply before

namespace Decides

variable {σ α : Type} {view : σ → Documents} {before : Documents} {state : σ} {error : StoreError}

theorem refuse (kind : error.refusal = .refused) (same : view state = before) :
    Decides view before (refuse : Decision α) (.error error, state) where
  answer := congrArg Except.error kind
  change := same

theorem write (written : view state = Change.apply before (.write doc)) :
    Decides view before (write doc) (.ok (), state) where
  answer := rfl
  change := written

theorem rewrite (written : view state = Change.apply before (.write doc)) :
    Decides view before (rewrite doc) (.ok doc, state) where
  answer := rfl
  change := written

/-- A guard that both sides test. -/
theorem guard {condition : Prop} [Decidable condition]
    {decision : Decision α} {outcome : Except StoreError α × σ}
    (kind : error.refusal = .refused) (same : view state = before)
    (rest : ¬ condition → Decides view before decision outcome) :
    Decides view before (if condition then Cache.refuse else decision)
      (if condition then (.error error, state) else outcome) := by
  by_cases holds : condition
  · rw [if_pos holds, if_pos holds]
    exact .refuse kind same
  · rw [if_neg holds, if_neg holds]
    exact rest holds

end Decides

/-! ## Stores that keep the contract -/

/-- An implementation of the interface whose calls are decided by the reading of
its state. -/
structure ContractStore (σ : Type) where
  execute : Executor storeInterface σ
  reading : σ → Reading
  sound : ∀ state, (reading state).Sound
  decides : ∀ call state,
    Decides (fun state => (reading state).byID) (reading state).byID
      ((reading state).decide call) (execute call state)

end Vc.Cache
