import Vc.Apigw.Token
import Vc.Cache.Resolution
import Vc.Concurrent.Pool

/-!
# Guessing the transaction code of an offer

Token requests for one pre-authorized code, each of which looks at the session of
the code, compares the transaction code, and then either counts a failed attempt
or redeems the code.  The three are separate steps, so any number of requests can
compare a wrong transaction code before the first of them is counted.

The main theorem takes the runs in which a code is redeemed only when every wrong
guess has been counted: then the budget of attempts bounds the guesses made before
any redemption.  That a request with a wrong transaction code obtains nothing holds
in every run.
-/

namespace Vc.Apigw

open Cache Concurrent MongoStore Gateway Protocol Function List

/-! ## Reading the trace -/

section Trace

variable {ι : Type}

/-- A comparison in which the transaction codes differ. -/
def wrongGuess : Entry ι gatewayInterface → Bool
  | ⟨_, .compareTXCode _ _, equal⟩ => !equal
  | ⟨_, .store _, _⟩ => false

/-- The calls that redeem a code. -/
def redeems : GatewayCall → Bool
  | .store (.redeemPreAuthorizedCode _ _) | .store (.forfeitAuthorizationCode _) => true
  | _ => false

/-- A code was redeemed. -/
def redeemed : Entry ι gatewayInterface → Bool
  | ⟨_, .store call, answer⟩ => redeems (.store call) && answer.isOk
  | ⟨_, .compareTXCode _ _, _⟩ => false

/-- The call that counts a failed attempt. -/
def countsAttempt : GatewayCall → Bool
  | .store (.consumeTXCodeAttempt _) => true
  | _ => false

/-- How many wrong guesses were made. -/
def wrongGuesses (trace : List (Entry ι gatewayInterface)) : Nat :=
  trace.countP wrongGuess

/-- The requests whose wrong guess has not been counted, after one more entry. -/
def leaveUncounted [DecidableEq ι] (waiting : List ι) (entry : Entry ι gatewayInterface) : List ι :=
  if wrongGuess entry then entry.index :: waiting
  else if countsAttempt entry.request then waiting.erase entry.index
  else waiting

/-- The requests whose wrong guess has not been counted. -/
def uncounted [DecidableEq ι] (trace : List (Entry ι gatewayInterface)) : List ι :=
  trace.foldl leaveUncounted []

/-- The request has redeemed the code, within the budget if so required. -/
def RedeemedWithin (strict : Prop) (trace : List (Entry ι gatewayInterface)) (index : ι) : Prop :=
  ∃ before entry after, trace = before ++ entry :: after ∧ entry.index = index ∧
    redeemed entry = true ∧ (strict → (wrongGuesses before : Int) ≤ maxTXCodeAttempts)

theorem RedeemedWithin.append {strict : Prop} {trace : List (Entry ι gatewayInterface)}
    {index : ι} (within : RedeemedWithin strict trace index)
    (last : Entry ι gatewayInterface) : RedeemedWithin strict (trace ++ [last]) index := by
  obtain ⟨before, entry, after, rfl, found⟩ := within
  exact ⟨before, entry, after ++ [last], by simp, found⟩

variable (trace : List (Entry ι gatewayInterface))

variable (entry : Entry ι gatewayInterface)

theorem wrongGuesses_append :
    wrongGuesses (trace ++ [entry]) = wrongGuesses trace + (if wrongGuess entry then 1 else 0) := by
  simp [wrongGuesses]

theorem uncounted_append [DecidableEq ι] :
    uncounted (trace ++ [entry]) = leaveUncounted (uncounted trace) entry := by
  simp [uncounted]

end Trace

/-! ## The invariant -/

section Guessing

variable {ι : Type} [DecidableEq ι] {σ : Type}

/-- The attempts that the session has counted, with those still to be counted, cover
every wrong guess, until the code is forfeited. -/
structure Budget (txCode : String) (doc : AuthorizationContext)
    (trace : List (Entry ι gatewayInterface)) : Prop where
  txCode : doc.txCode = txCode
  bound : doc.txCodeAttempts ≤ maxTXCodeAttempts
  covers : doc.forfeited = false →
    (wrongGuesses trace : Int) ≤ doc.txCodeAttempts + (uncounted trace).length

/-- The code leads to its session, the session covers the guesses, and every request
that is marked as a redeemer has redeemed the code. -/
structure Guessing (store : ResolvedStore σ) (strict : Prop) (code session txCode : String)
    (state : σ) (trace : List (Entry ι gatewayInterface)) (redeemers : ι → Bool) : Prop where
  leads : store.Leads state .code code session
  budget : ∃ doc, store.documents state session = some doc ∧ Budget txCode doc trace
  within : ∀ index, redeemers index = true → RedeemedWithin strict trace index

/-- The protocol of the requests: if so required, the code is redeemed only when every
wrong guess has been counted. -/
def guessing (store : ResolvedStore σ) (strict : Prop) (code session txCode : String) :
    Protocol ι gatewayInterface σ Bool where
  inv := Guessing store strict code session txCode
  guard _ request _ trace _ := strict → redeems request = true → uncounted trace = []

variable {store : ResolvedStore σ} {strict : Prop} {code session txCode : String} {state : σ}
  {trace : List (Entry ι gatewayInterface)} {redeemers : ι → Bool}

variable {entry : Entry ι gatewayInterface}

/-- An entry that is neither a wrong guess nor a counted attempt. -/
theorem Budget.quiet {doc next : AuthorizationContext} (budget : Budget txCode doc trace)
    (noGuess : wrongGuess entry = false)
    (noCount : countsAttempt entry.request = false) (sameCode : next.txCode = doc.txCode)
    (sameAttempts : next.txCodeAttempts = doc.txCodeAttempts)
    (stays : doc.forfeited = true → next.forfeited = true) :
    Budget txCode next (trace ++ [entry]) := by
  refine ⟨sameCode.trans budget.txCode, sameAttempts ▸ budget.bound, fun active => ?_⟩
  have wasActive : doc.forfeited = false := by
    cases mark : doc.forfeited with
    | false => rfl
    | true => exact absurd (stays mark) (by simp [active])
  have covers := budget.covers wasActive
  rw [wrongGuesses_append, uncounted_append, leaveUncounted, noGuess, noCount, sameAttempts]
  simpa using covers

variable {doc : AuthorizationContext}

/-- A comparison: a wrong guess waits to be counted. -/
theorem Budget.compare (budget : Budget txCode doc trace)
    (index : ι) (expected presented : String) (equal : Bool) :
    Budget txCode doc (trace ++ [⟨index, .compareTXCode expected presented, equal⟩]) := by
  refine ⟨budget.txCode, budget.bound, fun active => ?_⟩
  have covers := budget.covers active
  rw [wrongGuesses_append, uncounted_append]
  cases equal with
  | true => simpa [leaveUncounted, wrongGuess, countsAttempt] using covers
  | false =>
    simp only [leaveUncounted, wrongGuess, Bool.not_false, if_true, length_cons]
    omega

/-- A counted attempt takes at most one request off those that wait. -/
theorem Budget.count (budget : Budget txCode doc trace)
    (active : doc.forfeited = false) (room : doc.txCodeAttempts < maxTXCodeAttempts)
    (noGuess : wrongGuess entry = false)
    (counts : countsAttempt entry.request = true) :
    Budget txCode doc.attempt (trace ++ [entry]) := by
  refine ⟨budget.txCode, room, fun _ => ?_⟩
  have covers := budget.covers active
  have shorter : (uncounted trace).length - 1 ≤ ((uncounted trace).erase entry.index).length :=
    le_length_erase
  rw [wrongGuesses_append, uncounted_append, leaveUncounted, noGuess, counts]
  simp only [Bool.false_eq_true, if_false, if_true, AuthorizationContext.attempt]
  omega

/-- A forfeited code needs no cover. -/
theorem Budget.forfeited (budget : Budget txCode doc trace)
    {later : List (Entry ι gatewayInterface)} : Budget txCode doc.forfeit later :=
  ⟨budget.txCode, budget.bound, nofun⟩

/-! ## Steps that keep the invariant -/

variable {call : StoreCall} {next : AuthorizationContext}

section

variable (guess : Guessing store strict code session txCode state trace redeemers)

include guess

theorem Guessing.step (respects : ((store.reading state).decide call).2.Respects .code code session)
    (stored : store.documents (store.execute call state).2 session = some next)
    (budget : Budget txCode next (trace ++ [entry])) :
    Guessing store strict code session txCode (store.execute call state).2 (trace ++ [entry])
      redeemers :=
  ⟨guess.leads.execute respects, ⟨next, stored, budget⟩, fun index marked =>
    (guess.within index marked).append _⟩

/-- A call that changes nothing. -/
theorem Guessing.keep (keeps : ((store.reading state).decide call).2 = .keep)
    (stored : store.documents state session = some doc)
    (budget : Budget txCode doc (trace ++ [entry])) :
    Guessing store strict code session txCode (store.execute call state).2 (trace ++ [entry])
      redeemers := by
  refine guess.step (by rw [keeps]; trivial) ?_ budget
  rw [store.documents_execute, keeps]
  exact stored

/-- A call that writes the next version of the session. -/
theorem Guessing.write (writes : ((store.reading state).decide call).2 = .write next)
    (sameID : next.sessionID = session) (sameCode : next.code = code)
    (budget : Budget txCode next (trace ++ [entry])) :
    Guessing store strict code session txCode (store.execute call state).2 (trace ++ [entry])
      redeemers := by
  refine guess.step ?_ ?_ budget
  · rw [writes]
    exact iff_of_true ((next.carries_iff _ _).mpr ⟨guess.leads.nonempty, sameCode.symm⟩) sameID
  · rw [store.documents_execute, writes, Change.apply, sameID, update_self]

/-- A call that writes another session, without the code. -/
theorem Guessing.writeOther (writes : ((store.reading state).decide call).2 = .write next)
    (otherID : next.sessionID ≠ session) (noCode : next.code = "")
    (stored : store.documents state session = some doc)
    (budget : Budget txCode doc (trace ++ [entry])) :
    Guessing store strict code session txCode (store.execute call state).2 (trace ++ [entry])
      redeemers := by
  refine guess.step ?_ ?_ budget
  · rw [writes]
    refine iff_of_false (fun carries => ?_) otherID
    obtain ⟨named, same⟩ := (next.carries_iff _ _).mp carries
    exact named (same.trans noCode)
  · rw [store.documents_execute, writes, Change.apply, update_of_ne otherID.symm, stored]

/-- A request becomes a redeemer by an entry of its own. -/
theorem Guessing.mark {index : ι} (within : RedeemedWithin strict trace index) :
    Guessing store strict code session txCode state trace (update redeemers index true) := by
  refine ⟨guess.leads, guess.budget, fun other marked => ?_⟩
  by_cases same : other = index
  · exact same ▸ within
  · rw [update_of_ne same] at marked
    exact guess.within _ marked

/-- The session that the code leads to. -/
theorem Guessing.document :
    ∃ doc, store.documents state session = some doc ∧ doc.sessionID = session ∧
      doc.code = code ∧ Budget txCode doc trace := by
  obtain ⟨doc, stored, budget⟩ := guess.budget
  obtain ⟨other, found, carries⟩ := guess.leads.document
  rw [stored] at found
  cases found
  exact ⟨doc, stored, (store.sound _).byID stored, ((doc.carries_iff _ _).mp carries).2.symm,
    budget⟩

/-- A redemption by the request `index`.  With every wrong guess counted, the budget
bounds the guesses so far. -/
theorem Guessing.redeem {index : ι} (settled : strict → uncounted trace = [])
    (stored : store.documents state session = some doc) (active : doc.forfeited = false)
    (writes : ((store.reading state).decide call).2 = .write next)
    (sameID : next.sessionID = doc.sessionID) (sameCode : next.code = doc.code)
    (sameTXCode : next.txCode = doc.txCode)
    (sameAttempts : next.txCodeAttempts = doc.txCodeAttempts)
    (own : entry.index = index) (isRedeemed : redeemed entry = true)
    (noGuess : wrongGuess entry = false) (noCount : countsAttempt entry.request = false) :
    Guessing store strict code session txCode (store.execute call state).2 (trace ++ [entry])
      (update redeemers index true) := by
  obtain ⟨found, foundStored, ofSession, hasCode, budget⟩ := guess.document
  rw [stored] at foundStored
  cases foundStored
  have stays : doc.forfeited = true → next.forfeited = true := by simp [active]
  refine (guess.write writes (sameID.trans ofSession) (sameCode.trans hasCode)
    (budget.quiet noGuess noCount sameTXCode sameAttempts stays)).mark ?_
  refine ⟨trace, entry, [], rfl, own, isRedeemed, fun required => ?_⟩
  have covers := budget.covers active
  rw [settled required] at covers
  have bound := budget.bound
  simp only [length_nil] at covers
  omega

end

/-! ## The calls of a request -/

/-- A process keeps the protocol of the guesses. -/
abbrev KeepsGuessing {α : Type} (store : ResolvedStore σ) (strict : Prop)
    (code session txCode : String) (index : ι) (post : Bool → α → Prop)
    (process : Process gatewayInterface α) (current : Bool) : Prop :=
  (guessing store strict code session txCode).Follows (gatewayOver store.toContractStore) index
    post process current

namespace Guessing

variable {α : Type} {index : ι} {post : Bool → α → Prop} {current : Bool}
  {next : Except StoreError AuthorizationContext → Process gatewayInterface α}

theorem follows_get (continues : ∀ doc, doc.txCode = txCode →
      KeepsGuessing store strict code session txCode index post (next (.ok doc)) current) :
    KeepsGuessing store strict code session txCode index post (.call (.store (.get { code })) next)
      current := by
  refine follows_call_of_keep fun state trace redeemers guess _ _ => ?_
  obtain ⟨doc, stored, _, _, budget⟩ := guess.document
  have decided := guess.leads.decide_get (.code guess.leads.nonempty) stored
  have answered : (store.execute (.get { code }) state).1 = .ok doc :=
    store.execute_ok (by rw [decided])
  refine ⟨guess.keep (by rw [decided]) stored (budget.quiet rfl rfl rfl rfl id), ?_⟩
  simp only [gatewayOver, answered]
  exact continues doc budget.txCode

theorem follows_compareTXCode {expected presented : String} {next : Bool → Process _ α}
    (continues : KeepsGuessing store strict code session txCode index post
      (next (expected = presented)) current) :
    KeepsGuessing store strict code session txCode index post
      (.call (.compareTXCode expected presented) next) current := by
  refine follows_call_of_keep fun state trace redeemers guess _ _ => ⟨?_, continues⟩
  obtain ⟨doc, stored, _, _, budget⟩ := guess.document
  exact ⟨guess.leads, ⟨doc, stored, budget.compare _ _ _ _⟩,
    fun other marked => (guess.within _ marked).append _⟩

theorem follows_consumeTXCodeAttempt
    (continues : ∀ answer, KeepsGuessing store strict code session txCode index post (next answer)
      current) :
    KeepsGuessing store strict code session txCode index post
      (.call (.store (.consumeTXCodeAttempt code)) next) current := by
  refine follows_call_of_keep fun state trace redeemers guess _ _ => ⟨?_, continues _⟩
  obtain ⟨doc, stored, ofSession, hasCode, budget⟩ := guess.document
  have decided := guess.leads.decide_consumeTXCodeAttempt stored
  split_ifs at decided with forfeited exhausted
  · refine guess.keep (by rw [decided]; rfl) stored ⟨budget.txCode, budget.bound, ?_⟩
    simp [forfeited]
  · have writes : ((store.reading state).decide (.consumeTXCodeAttempt code)).2 =
        .write doc.forfeit := by rw [decided]
    exact guess.write writes ofSession hasCode budget.forfeited
  · have writes : ((store.reading state).decide (.consumeTXCodeAttempt code)).2 =
        .write doc.attempt := by rw [decided]; rfl
    exact guess.write writes ofSession hasCode
      (budget.count (by simpa using forfeited) (Int.not_le.mp exhausted) rfl rfl)

/-- The two calls that redeem the code.  One that succeeds finds the code unforfeited
and makes the request a redeemer. -/
theorem follows_redeeming {next : Except StoreError call.Result → Process gatewayInterface α}
    (isRedeeming : redeems (.store call) = true) (noCount : countsAttempt (.store call) = false)
    (decides : ∀ {state doc}, store.Leads state .code code session →
      store.documents state session = some doc →
      (store.reading state).decide call = refuse ∨
        ∃ result after, doc.forfeited = false ∧
          (store.reading state).decide call = (.ok result, .write after) ∧
          after.sessionID = doc.sessionID ∧ after.code = doc.code ∧
          after.txCode = doc.txCode ∧ after.txCodeAttempts = doc.txCodeAttempts)
    (refused : ∀ error, KeepsGuessing store strict code session txCode index post
      (next (.error error)) current)
    (continues : ∀ result, KeepsGuessing store strict code session txCode index post
      (next (.ok result)) true) :
    KeepsGuessing store strict code session txCode index post (.call (.store call) next)
      current := by
  intro state trace redeemers guess same guarded
  obtain ⟨doc, stored, _, _, budget⟩ := guess.document
  rcases decides guess.leads stored with
    decided | ⟨result, after, active, decided, sameID, sameCode, sameTXCode, sameAttempts⟩
  · obtain ⟨error, answered⟩ := store.execute_error (by rw [decided]; rfl)
    refine ⟨current, ?_, ?_⟩
    · rw [← same, update_eq_self]
      exact guess.keep (by rw [decided]; rfl) stored (budget.quiet rfl noCount rfl rfl id)
    · simp only [gatewayOver, answered]
      exact refused _
  · have answered : (store.execute call state).1 = .ok result :=
      store.execute_ok (by rw [decided])
    have isRedeemed : redeemed (⟨index, .store call, .ok result⟩ : Entry ι gatewayInterface) =
        true := by
      rw [redeemed, isRedeeming]
      rfl
    simp only [gatewayOver, answered]
    exact ⟨true, guess.redeem (fun required => guarded required isRedeeming) stored active
      (by rw [decided]) sameID sameCode sameTXCode sameAttempts rfl isRedeemed rfl noCount,
      continues _⟩

/-- A session of its own is saved. -/
theorem follows_save {child : AuthorizationContext} {now : Time}
    {next : Except StoreError Unit → Process gatewayInterface α}
    (otherID : child.sessionID ≠ session) (noCode : child.code = "")
    (continues : ∀ answer, KeepsGuessing store strict code session txCode index post (next answer)
      current) :
    KeepsGuessing store strict code session txCode index post
      (.call (.store (.save child now)) next) current := by
  refine follows_call_of_keep fun state trace redeemers guess _ _ => ⟨?_, continues _⟩
  obtain ⟨doc, stored, _, _, budget⟩ := guess.document
  have quiet : Budget txCode doc (trace ++
      [⟨index, .store (.save child now), (store.execute (.save child now) state).1⟩]) :=
    budget.quiet rfl rfl rfl rfl id
  by_cases refuses : child.sessionID = "" ∨ (!child.validate) = true
  · refine guess.keep ?_ stored quiet
    rw [Reading.decide]
    rcases refuses with unnamed | invalid
    · rw [if_pos unnamed]
      rfl
    · rw [if_pos invalid, ite_self]
      rfl
  · obtain ⟨named, valid⟩ := not_or.mp refuses
    have writes : ((store.reading state).decide (.save child now)).2 =
        .write ((store.reading state).stored
          (child.createAt ((store.reading state).anchor child now))) := by
      rw [Reading.decide, if_neg named, if_neg valid]
      rfl
    obtain ⟨_, _, _, _, _, same⟩ := store.stored state
      (child.createAt ((store.reading state).anchor child now))
    rw [same] at writes
    exact guess.writeOther writes otherID noCode stored quiet

/-! ## The request -/

variable {gateway : Gateway} {tokenCall : TokenCall}

theorem follows_authenticateClient (presents : tokenCall.code = code) (clientID : String) :
    KeepsGuessing store strict code session txCode index (IfOk fun redeemer _ => redeemer = false)
      (gateway.authenticateClient tokenCall clientID) false := by
  rw [authenticateClient]
  split_ifs
  · exact rfl
  · cases gateway.clients clientID with
    | some clientType => exact rfl
    | none =>
      simp only [authenticateAttested]
      cases gateway.evaluateAttestation tokenCall clientID with
      | error error => trivial
      | ok result =>
        subst presents
        refine follows_get fun doc _ => ?_
        simp only
        split_ifs
        · trivial
        · exact rfl

/-- The look at the session passes only the right transaction code. -/
theorem follows_preCheck (presents : tokenCall.code = code) (required : txCode ≠ "") :
    KeepsGuessing store strict code session txCode index
      (IfOk fun redeemer _ => redeemer = false ∧ tokenCall.request.txCode = txCode)
      (gateway.preCheckPreAuthorized tokenCall) false := by
  subst presents
  refine follows_get fun preCheck sameCode => ?_
  subst sameCode
  simp only [Process.bind_done, checkPreAuthorized, required, false_and, if_false]
  split_ifs
  · trivial
  · trivial
  · exact follows_consumeTXCodeAttempt fun _ => by trivial
  · trivial
  · refine follows_compareTXCode ?_
    by_cases right : preCheck.txCode = tokenCall.request.txCode
    · rw [decide_eq_true right]
      exact ⟨rfl, right.symm⟩
    · rw [decide_eq_false right]
      refine follows_consumeTXCodeAttempt fun answer => ?_
      cases answer with
      | error error => cases error <;> trivial
      | ok doc =>
        split_ifs <;> trivial

theorem follows_consumeCode (presents : tokenCall.code = code) (dpopThumbprint : String) :
    KeepsGuessing store strict code session txCode index (IfOk fun redeemer _ => redeemer = true)
      (consumeCode tokenCall dpopThumbprint) false := by
  rw [consumeCode, presents]
  split_ifs
  · refine follows_redeeming rfl rfl (fun leads stored => ?_) (fun _ => trivial) fun _ => rfl
    rcases leads.decide_redeemPreAuthorizedCode stored _ with decided | decided
    · exact .inl decided
    · exact .inr ⟨_, _, decided.1, decided.2, rfl, rfl, rfl, rfl⟩
  · refine follows_redeeming rfl rfl (fun leads stored => ?_) (fun _ => trivial) fun _ => rfl
    have decided := leads.decide_forfeitAuthorizationCode stored
    split_ifs at decided with forfeited
    · exact .inl decided
    · exact .inr ⟨_, _, by simpa using forfeited, decided, rfl, rfl, rfl, rfl⟩

/-- A request that is answered with tokens has redeemed the code and presented the
right transaction code. -/
theorem follows_oauthToken (isPreAuthFlow : tokenCall.isPreAuthFlow = true)
    (presents : tokenCall.code = code) (fresh : tokenCall.childSessionID ≠ session)
    (required : txCode ≠ "") :
    KeepsGuessing store strict code session txCode index
      (IfOk fun redeemer _ => redeemer = true ∧ tokenCall.request.txCode = txCode)
      (gateway.oauthToken tokenCall) false := by
  rw [oauthToken]
  cases gateway.claimedClientID tokenCall with
  | error error => trivial
  | ok clientID =>
    simp only [isPreAuthFlow]
    refine (follows_authenticateClient presents _).andThen fun client redeemer idle => ?_
    subst idle
    cases provenKey tokenCall with
    | error error => trivial
    | ok dpopThumbprint =>
      simp only [redeemCode, isPreAuthFlow]
      refine (follows_preCheck presents required).andThen ?_
      rintro _ _ ⟨rfl, right⟩
      refine (follows_consumeCode presents _).andThen fun authCtx redeemer done => ?_
      subst done
      cases gateway.checkConsumed tokenCall dpopThumbprint authCtx with
      | error error => trivial
      | ok scope =>
        simp only [storeTokens, isPreAuthFlow]
        refine follows_save fresh rfl fun answer => ?_
        cases answer with
        | error error => trivial
        | ok _ => exact ⟨rfl, right⟩

end Guessing

end Guessing

/-! ## The bound -/

section Bound

variable {σ : Type}

/-- The state holds an offer: the code leads to a session with this transaction code
and an honest count of attempts. -/
structure Offers (store : ResolvedStore σ) (state : σ) (code session txCode : String) : Prop where
  leads : store.Leads state .code code session
  document : ∃ doc, store.documents state session = some doc ∧ doc.txCode = txCode ∧
    0 ≤ doc.txCodeAttempts ∧ doc.txCodeAttempts ≤ maxTXCodeAttempts
  required : txCode ≠ ""

/-- A token request for the code; the session it may open has an id of its own. -/
structure Guesses (code session : String) (call : TokenCall) : Prop where
  isPreAuthFlow : call.isPreAuthFlow = true
  presents : call.code = code
  fresh : call.childSessionID ≠ session

/-- The requests about to be served by the gateway over a store. -/
def Gateway.guessing {ι : Type} (gateway : Gateway) (state : σ) (calls : ι → TokenCall) :
    Pool ι gatewayInterface σ (Except HandlerError TokenResponse) :=
  .initial state fun index => gateway.oauthToken (calls index)

/-- The process is about to redeem a code. -/
def redeemsNext {α : Type} : Process gatewayInterface α → Bool
  | .done _ => false
  | .call request _ => redeems request

/-- Steps that redeem a code only when every wrong guess has been counted. -/
def CountedFirst {ι α : Type} [DecidableEq ι] (pool : Pool ι gatewayInterface σ α) (index : ι) :
    Prop :=
  redeemsNext (pool.processes index) = true → uncounted pool.trace = []

/-- No request with a wrong transaction code obtains a token, and in the runs that
count first a request obtains a token only by a redemption before which the budget
bounds the wrong guesses. -/
def BoundsGuesses (store : ResolvedStore σ) : Prop :=
  ∀ {ι : Type} [DecidableEq ι] (gateway : Gateway) (state : σ) (code session txCode : String)
    (calls : ι → TokenCall), Offers store state code session txCode →
    (∀ index, Guesses code session (calls index)) →
    (∀ pool, FreeRun (gatewayOver store.toContractStore) (gateway.guessing state calls) pool →
      ∀ index response, pool.Returned index (.ok response) →
        (calls index).request.txCode = txCode) ∧
    ∀ pool, Run (gatewayOver store.toContractStore) CountedFirst (gateway.guessing state calls)
        pool →
      ∀ index response, pool.Returned index (.ok response) → RedeemedWithin True pool.trace index

theorem boundsGuesses (store : ResolvedStore σ) : BoundsGuesses store := by
  intro ι _ gateway state code session txCode calls offers guesses
  obtain ⟨doc, stored, sameCode, counted, bound⟩ := offers.document
  have initially (strict : Prop) : (guessing store strict code session txCode).Holds
      (gatewayOver store.toContractStore)
      (fun index => IfOk fun redeemer _ =>
        redeemer = true ∧ (calls index).request.txCode = txCode)
      (gateway.guessing state calls) fun _ => false := by
    refine ⟨⟨offers.leads, ⟨doc, stored, sameCode, bound, fun _ => ?_⟩, nofun⟩, fun index => ?_⟩
    · simpa [Gateway.guessing, Pool.initial, wrongGuesses, uncounted] using counted
    · exact Guessing.follows_oauthToken (guesses _).isPreAuthFlow (guesses _).presents
        (guesses _).fresh offers.required
  constructor
  · intro pool run index response returned
    obtain ⟨redeemers, holds⟩ := run.follows
      (fun _ _ _ _ _ _ _ _ required => absurd required id) (initially False)
    exact (holds.returned returned).2
  · intro pool run index response returned
    obtain ⟨redeemers, holds⟩ := run.follows
      (fun pool _ index request next _ pending permitted _ isRedeeming =>
        permitted (by rw [pending]; exact isRedeeming))
      (initially True)
    exact holds.1.within _ (holds.returned returned).1

/-- Over either store, the budget of attempts bounds the wrong guesses that are made
before a redemption, in every run that counts them first. -/
theorem wrong_guesses_bounded (bson : Bson) :
    BoundsGuesses MemoryStore.resolved ∧ BoundsGuesses (resolved bson) :=
  ⟨boundsGuesses _, boundsGuesses _⟩

/-! ### Guesses that are not counted in time -/

/-- A gateway that names a wrong transaction code in its error. -/
def offerGateway : Gateway :=
  { walletGateway with emitInvalidTXCodeError := true }

/-- An offer whose transaction code is `1234`. -/
def offerSession : Record where
  context :=
    { sessionID := "offer", code := "code", preAuthorized := true, txCode := "1234",
      scopes := ["pid"] }

/-- A database that holds the offer alone. -/
def offerDatabase : Database :=
  Collection.empty.write offerSession

/-- A token request for the offer with this transaction code. -/
def guessCall (txCode : String) : TokenCall where
  request :=
    { dpop := "proof", grantType := .preAuthorizedCode, preAuthorizedCode := "code",
      txCode := txCode }
  dpopProof := .ok "key"
  accessToken := "token"
  childSessionID := "child"

/-- The last of these requests has the right transaction code. -/
def guessCalls (count : Nat) (index : Fin (count + 1)) : TokenCall :=
  guessCall (if index = Fin.last count then "1234" else "0000")

/-- The pool after six wrong guesses that are compared and not counted, and the right
one. -/
def guessedPool : Pool (Fin 7) gatewayInterface Database (Except HandlerError TokenResponse) :=
  (offerGateway.guessing offerDatabase (guessCalls 6)).schedule
    (gatewayOver (contract .lossless))
    [0, 0, 1, 1, 2, 2, 3, 3, 4, 4, 5, 5, 6, 6, 6, 6]

/-- Six wrong guesses are compared before the first of them is counted, and then the
code is redeemed. -/
theorem redeemed_after_six_wrong_guesses :
    ∃ pool response before entry after,
      FreeRun (gatewayOver (contract .lossless))
        (offerGateway.guessing offerDatabase (guessCalls 6)) pool ∧
      pool.Returned 6 (.ok response) ∧
      pool.trace = before ++ entry :: after ∧ entry.index = 6 ∧ redeemed entry = true ∧
      before.all (fun earlier => !redeemed earlier) = true ∧
      (wrongGuesses before : Int) > maxTXCodeAttempts := by
  have obtained : guessedPool.succeeded 6 = true := by decide +kernel
  have last : (guessedPool.trace.drop 14).head?.any
      (fun entry => entry.index = 6 && redeemed entry) = true := by decide +kernel
  have split := (take_append_drop 14 guessedPool.trace).symm
  obtain ⟨response, returned⟩ := Pool.exists_returned obtained
  cases rest : guessedPool.trace.drop 14 with
  | nil => simp [rest] at last
  | cons entry after =>
    rw [rest] at split last
    simp only [head?_cons, Option.any_some, Bool.and_eq_true, decide_eq_true_eq] at last
    exact ⟨guessedPool, response, _, entry, after, FreeRun.schedule _ _ _, returned, split,
      last.1, last.2, by decide +kernel, by decide +kernel⟩

instance {ι α : Type} [DecidableEq ι] (pool : Pool ι gatewayInterface σ α) (index : ι) :
    Decidable (CountedFirst pool index) :=
  inferInstanceAs (Decidable (_ → _))

/-- The theorem where a wrong guess is counted before the code is redeemed. -/
theorem redeemed_after_counted_guess :
    RedeemedWithin True
      ((offerGateway.guessing offerDatabase (guessCalls 1)).schedule
        (gatewayOver (contract .lossless)) [0, 0, 0, 1, 1, 1, 1]).trace 1 := by
  have sole : (contract .lossless).Sole offerDatabase .code "code" "offer" :=
    sole_single (by decide)
  have offers : Offers (resolved .lossless) offerDatabase "code" "offer" "1234" :=
    ⟨⟨sole, sole⟩, ⟨_, (@Database.documents_single offerSession "offer" _).mpr ⟨rfl, rfl⟩,
      by decide⟩, by decide⟩
  have guesses : ∀ index, Guesses "code" "offer" (guessCalls 1 index) :=
    fun _ => ⟨rfl, rfl, (by decide : "child" ≠ "offer")⟩
  have run := Run.schedule (by decide +kernel :
    (offerGateway.guessing offerDatabase (guessCalls 1)).Admits
      (gatewayOver (contract .lossless)) CountedFirst [0, 0, 0, 1, 1, 1, 1])
  obtain ⟨response, returned⟩ := Pool.exists_returned (by decide +kernel :
    ((offerGateway.guessing offerDatabase (guessCalls 1)).schedule
      (gatewayOver (contract .lossless)) [0, 0, 0, 1, 1, 1, 1]).succeeded 1 = true)
  exact ((wrong_guesses_bounded _).2 _ _ "code" "offer" "1234"
    (guessCalls 1) offers guesses).2 _ run 1 _ returned

end Bound

end Vc.Apigw
