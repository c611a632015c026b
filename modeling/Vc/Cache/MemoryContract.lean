import Vc.Cache.MemoryStore

/-!
# The in-memory store keeps the contract

The reading of the in-memory store, and the proof that every method ends as the
contract decides.
-/

namespace Vc.Cache

open AuthorizationContext Option

namespace MemoryStore

section

variable (store : MemoryStore)

include store

variable (doc : AuthorizationContext)

@[simp]
theorem updateIndices_cache : (store.updateIndices doc).cache = store.cache := by
  rw [updateIndices]
  generalize doc.indexEntries = entries
  induction entries generalizing store with
  | nil => rfl
  | cons entry rest ih => exact ih _

@[simp]
theorem deleteIndices_cache : (store.deleteIndices doc).cache = store.cache := by
  rw [deleteIndices]
  generalize doc.indexEntries = entries
  induction entries generalizing store with
  | nil => rfl
  | cons entry rest ih => exact ih _

@[simp]
theorem unindex_cache (key : String) : (store.unindex key).cache = store.cache :=
  rfl

@[simp]
theorem put_cache : (store.put doc).cache = Change.apply store.cache (.write doc) :=
  rfl

@[simp]
theorem drop_cache (id : String) : (store.drop id).cache = Change.apply store.cache (.remove id) :=
  rfl

end

/-- The store's reading: searchable values lead through the indices. -/
def reading (store : MemoryStore) : Reading where
  byID := store.cache
  byField := store.byIndex
  byQuery query := (store.get query).toOption
  byForfeit query :=
    if query.code ≠ "" then store.byIndex .code query.code
    else if query.requestURI ≠ "" then store.byIndex .requestURI query.requestURI
    else none
  byRedemption code _ := store.byIndex .code code
  byAttempt code := store.byIndex .code code
  bySession id field value :=
    if store.indices (indexKey field value) = some id then
      (store.cache id).filter fun doc => doc.Carries field value
    else none
  anchor := store.anchor
  stored doc := doc
  resumed doc resume := some (resume.applyTo doc.releaseIssuerState)

variable {store : MemoryStore} {doc : AuthorizationContext} {field : IndexField} {value : String}

theorem byIndex_sound (found : store.byIndex field value = some doc) :
    store.cache doc.sessionID = some doc := by
  obtain ⟨id, _, stored⟩ := bind_eq_some_iff.mp found
  rw [store.keyed stored]
  exact stored

theorem get_sound {query : AuthorizationContext}
    (found : store.get query = .ok doc) : store.cache doc.sessionID = some doc := by
  rw [get] at found
  split at found
  · contradiction
  · split at found
    · contradiction
    · next stored =>
      cases found
      rw [store.keyed stored]
      exact stored

theorem reading_sound (store : MemoryStore) : store.reading.Sound where
  byID := store.keyed
  byField := byIndex_sound
  byQuery := by
    intro query doc found
    cases answer : store.get query with
    | error error => simp [reading, answer, Except.toOption] at found
    | ok result =>
      simp only [reading, answer, Except.toOption, some.injEq] at found
      exact get_sound (found ▸ answer)
  byForfeit := by
    intro query doc found
    simp only [reading] at found
    split_ifs at found
    · exact byIndex_sound found
    · exact byIndex_sound found
  byRedemption := byIndex_sound
  byAttempt := byIndex_sound
  bySession := by
    intro id field value doc found
    simp only [reading] at found
    split_ifs at found
    have stored := (filter_eq_some_iff.mp found).1
    exact ⟨store.keyed stored, stored⟩
  stored _ := rfl
  resumed := by
    rintro doc resume _ ⟨⟩
    rfl

section Decisions

variable (store)

/-- A method's outcome is the contract's decision. -/
abbrev Decided {α : Type} (decision : Decision α) (outcome : Outcome α) : Prop :=
  Decides MemoryStore.cache store.cache decision outcome

/-- The outcome of a call is the contract's decision. -/
abbrev Serves (call : StoreCall) : Prop :=
  store.Decided (store.reading.decide call) (execute call store)

theorem onFound_decided {α : Type} {found : Option AuthorizationContext}
    {work : AuthorizationContext → Decision α} {method : AuthorizationContext → Outcome α}
    (decided : ∀ doc, store.Decided (work doc) (method doc)) :
    store.Decided (onFound found work) (match found with
      | none => store.fail .noDocuments
      | some doc => method doc) := by
  cases found with
  | none => exact .refuse rfl rfl
  | some doc => exact decided doc

theorem onFound_carries {α : Type} {member : String} {work : AuthorizationContext → Decision α}
    (carries : doc.Carries field value ↔ member = value) :
    onFound ((some doc).filter fun doc => doc.Carries field value) work =
      if member ≠ value then refuse else work doc := by
  by_cases held : member = value <;> simp [filter_some, carries, held, onFound]

theorem delete_decided (id : String) : store.Serves (.delete id) := by
  refine .guard rfl rfl fun _ => ?_
  cases store.cache id with
  | none => exact ⟨rfl, rfl⟩
  | some stored => exact ⟨rfl, by simp⟩

variable {query : AuthorizationContext} {error : StoreError}

theorem resolveSessionID_error
    (failed : store.resolveSessionID query = .error error) : error.refusal = .refused := by
  rw [resolveSessionID] at failed
  split_ifs at failed
  split at failed
  · cases failed
    rfl
  · split at failed <;> cases failed
    rfl

theorem get_error (failed : store.get query = .error error) : error.refusal = .refused := by
  rw [get] at failed
  split at failed
  · next resolved =>
    cases failed
    exact store.resolveSessionID_error resolved
  · split at failed <;> cases failed
    rfl

variable (query)

theorem get_decided : store.Serves (.get query) := by
  simp only [Serves, Reading.decide, reading, execute]
  cases found : store.get query with
  | ok doc => exact ⟨rfl, rfl⟩
  | error error => exact .refuse (store.get_error found) rfl

theorem getByID_decided (id : String) : store.Serves (.getByID id) := by
  simp only [Serves, Reading.decide, reading, execute, getByID]
  split_ifs
  · exact .refuse rfl rfl
  · cases store.cache id <;> exact ⟨rfl, rfl⟩

theorem getByIndex_decided (field : IndexField) (value emptyMessage : String) :
    store.Decided (if value = "" then refuse else answer (store.byIndex field value))
      (store.getByIndex field value emptyMessage, store) := by
  rw [getByIndex]
  split_ifs
  · exact .refuse rfl rfl
  · cases store.byIndex field value <;> exact ⟨rfl, rfl⟩

theorem forfeitFound_decided (found : Option AuthorizationContext) :
    store.Decided (onFound found fun doc => if doc.forfeited then refuse else rewrite doc.forfeit)
      (store.forfeitFound found) :=
  store.onFound_decided fun _ => .guard rfl rfl fun _ => .rewrite (by simp)

theorem forfeitAuthorizationCode_decided : store.Serves (.forfeitAuthorizationCode query) := by
  simp only [Serves, Reading.decide, reading, execute, forfeitAuthorizationCode]
  split_ifs
  · exact store.forfeitFound_decided _
  · exact store.forfeitFound_decided _
  · exact .refuse rfl rfl

theorem consumeTXCodeAttempt_decided (code : String) :
    store.Serves (.consumeTXCodeAttempt code) := by
  refine .guard rfl rfl fun _ => store.onFound_decided fun _ => .guard rfl rfl fun _ => ?_
  split_ifs
  · exact ⟨rfl, rfl⟩
  · exact .rewrite rfl

theorem extendExpiry_decided (expiresAt : Int) : store.Serves (.extendExpiry query expiresAt) := by
  simp only [Serves, Reading.decide, reading, execute, extendExpiry]
  cases found : store.get query with
  | error error => exact .refuse (store.get_error found) rfl
  | ok doc =>
    simp only [Except.toOption, onFound]
    split_ifs
    · exact ⟨rfl, rfl⟩
    · exact .write (by simp)

theorem rotateRefreshToken_decided (oldToken : String) (updated : AuthorizationContext) :
    store.Serves (.rotateRefreshToken oldToken updated) := by
  refine .guard rfl rfl fun nonempty => .guard rfl rfl fun _ => ?_
  simp only [reading]
  cases store.indices (indexKey .refreshToken oldToken) with
  | none => exact .refuse rfl rfl
  | some id =>
    by_cases same : updated.sessionID = id
    · subst same
      dsimp only
      rw [if_pos rfl, if_neg (not_not_intro rfl)]
      cases store.cache updated.sessionID with
      | none => exact .refuse rfl rfl
      | some doc =>
        have carries : doc.Carries .refreshToken oldToken ↔ doc.refreshToken = oldToken := by
          simp [carries_iff, nonempty, eq_comm]
        rw [onFound_carries carries]
        exact .guard rfl rfl fun _ => .write (by simp)
    · dsimp only
      rw [if_neg (by simpa using Ne.symm same), if_pos same]
      exact .refuse rfl rfl

theorem claimAuthSession_decided (authSession : String) :
    store.Serves (.claimAuthSession authSession) := by
  refine .guard rfl rfl fun _ => ?_
  simp only [reading, byIndex]
  cases store.indices (indexKey .authSession authSession) with
  | none => exact .refuse rfl rfl
  | some id =>
    simp only [bind_some]
    cases store.cache id with
    | none => exact .refuse rfl rfl
    | some doc => exact .guard rfl rfl fun _ => .rewrite rfl

theorem claimIssuerState_decided (issuerState : String) (opened : AuthorizationContext) :
    store.Serves (.claimIssuerState issuerState opened) := by
  refine .guard rfl rfl fun nonempty => .guard rfl rfl fun _ => .guard rfl rfl fun _ => ?_
  simp only [reading]
  cases store.indices (indexKey .issuerState issuerState) with
  | none => exact .refuse rfl rfl
  | some id =>
    by_cases same : id = opened.sessionID
    · subst same
      dsimp only
      rw [if_pos rfl, if_neg (not_not_intro rfl)]
      cases store.cache opened.sessionID with
      | none => exact .refuse rfl rfl
      | some doc =>
        have carries : doc.Carries .issuerState issuerState ↔ doc.issuerState = issuerState := by
          simp [carries_iff, nonempty, eq_comm]
        rw [onFound_carries carries]
        exact .guard rfl rfl fun _ => .rewrite (by simp)
    · dsimp only
      rw [if_neg (by simpa using same), if_pos same]
      exact .refuse rfl rfl

theorem resumeIssuerState_decided (issuerState : String) (resume : IssuerStateResume) :
    store.Serves (.resumeIssuerState issuerState resume) := by
  refine .guard rfl rfl fun _ => ?_
  simp only [reading, byIndex]
  cases store.indices (indexKey .issuerState issuerState) with
  | none => exact .refuse rfl rfl
  | some id =>
    simp only [bind_some]
    cases store.cache id with
    | none => exact .refuse rfl rfl
    | some doc => exact .guard rfl rfl fun _ => .rewrite (by simp)

end Decisions

/-- Every method of the in-memory store keeps the contract. -/
theorem execute_decided (call : StoreCall) (store : MemoryStore) :
    store.Decided (store.reading.decide call) (execute call store) := by
  cases call with
  | save doc now =>
    exact .guard rfl rfl fun _ => .guard rfl rfl fun _ => .write (by rw [updateIndices_cache]; rfl)
  | get query | getSnapshot query => exact store.get_decided _
  | getByID id => exact store.getByID_decided id
  | getByAuthorizationCode code => exact store.getByIndex_decided .code _ _
  | getByAccessToken token | getWithAccessToken token =>
    exact store.getByIndex_decided .accessToken _ _
  | getByRefreshToken token => exact store.getByIndex_decided .refreshToken _ _
  | update doc =>
    exact .guard rfl rfl fun _ => .guard rfl rfl fun _ =>
      store.onFound_decided fun _ => .write (by simp; rfl)
  | delete id => exact store.delete_decided id
  | forfeitAuthorizationCode query => exact store.forfeitAuthorizationCode_decided _
  | markCodeAsForfeited id =>
    exact .guard rfl rfl fun _ => store.onFound_decided fun _ => .guard rfl rfl fun _ => .write rfl
  | redeemPreAuthorizedCode code thumbprint =>
    exact .guard rfl rfl fun _ => .guard rfl rfl fun _ => .guard rfl rfl fun _ =>
      store.onFound_decided fun _ => .guard rfl rfl fun _ => .guard rfl rfl fun _ =>
        .guard rfl rfl fun _ => .rewrite rfl
  | consumeTXCodeAttempt code => exact store.consumeTXCodeAttempt_decided _
  | consent query | addToken code token | setAuthProvider id fields =>
    exact .guard rfl rfl fun _ => store.onFound_decided fun _ => .write (by simp)
  | extendExpiry query expiresAt => exact store.extendExpiry_decided _ _
  | rotateRefreshToken old updated => exact store.rotateRefreshToken_decided old _
  | setIdentifier query identifier | setAuthenticSource query source =>
    exact .guard rfl rfl fun _ => .guard rfl rfl fun _ => store.onFound_decided fun _ => .write rfl
  | claimAuthSession authSession => exact store.claimAuthSession_decided _
  | claimIssuerState issuerState opened =>
    exact store.claimIssuerState_decided _ _
  | resumeIssuerState issuerState resume =>
    exact store.resumeIssuerState_decided _ _

/-- The in-memory store keeps the contract of the interface. -/
def contract : ContractStore MemoryStore where
  execute := execute
  reading := reading
  sound := reading_sound
  decides := execute_decided

end MemoryStore

end Vc.Cache
