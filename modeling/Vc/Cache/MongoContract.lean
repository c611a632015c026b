import Vc.Cache.MongoStore

/-!
# The MongoDB store keeps the contract

The reading of a collection, and the proof that every method of the MongoDB
store, run without another method in between, ends as the contract decides.
-/

namespace Vc.Cache

open Concurrent Collection Record Process Database Option AuthorizationContext Change Function

namespace Database

/-- The documents as they are read back. -/
def documents (database : Database) : Documents :=
  fun id => (database.lookup id).map unmarshal

theorem documents_write (database : Database) (record : Record) :
    documents (database.write record) = apply database.documents (.write record.unmarshal) := by
  funext id
  rw [documents, lookup_write, apply]
  have key : record.unmarshal.sessionID = record.sessionID := rfl
  rw [key, update_apply]
  split_ifs <;> rfl

/-- A collection of one document. -/
theorem documents_single {record : Record} {id : String} {doc : AuthorizationContext} :
    documents (empty.write record) id = some doc ↔
      id = record.sessionID ∧ record.unmarshal = doc := by
  have one := congrFun (documents_write empty record) id
  rw [one, apply, update_apply]
  exact ite_some_none_eq_some

theorem documents_of_findOne {database : Database} {filter : Record → Bool} {record : Record}
    (found : database.findOne filter = some record) :
    database.documents record.unmarshal.sessionID = some record.unmarshal := by
  have stored := (lookup_of_findOne found).1
  exact congrArg _ stored

end Database

/-- The filter on a searchable member asks what the document carries. -/
theorem Record.has_iff_carries {field : IndexField} {value : String} (nonempty : value ≠ "")
    (record : Record) : record.has field value ↔ record.unmarshal.Carries field value := by
  rw [carries_iff]
  cases field <;>
    simp only [has, decide_eq_true_eq, nonempty, ne_eq, not_false_eq_true, true_and,
      unmarshal, tokenText]
  -- only the access token is left, which is searched in two places
  cases record.context.token <;> simp [nonempty]

/-- The filter finds the only document that carries the value. -/
theorem Database.findOne_has {database : Database} {field : IndexField} {value id : String}
    {record : Record} (nonempty : value ≠ "") (found : database.lookup id = some record)
    (carries : record.unmarshal.Carries field value)
    (only : ∀ other doc, database.documents other = some doc → doc.Carries field value →
      other = id) : database.findOne (has field value) = some record := by
  refine findOne_of_lookup found ((record.has_iff_carries nonempty).mpr carries)
    fun other result foundOther hit => ?_
  exact only other _ (congrArg _ foundOther) ((result.has_iff_carries nonempty).mp hit)

namespace MongoStore

/-- The document that a filter finds. -/
def found (database : Database) (filter : Record → Bool) : Option AuthorizationContext :=
  (database.findOne filter).map unmarshal

/-- The store's reading: searchable values lead through filters. -/
def reading (bson : Bson) (database : Database) : Reading where
  byID := database.documents
  byField field value := found database (has field value)
  byQuery query := (buildFilter query).bind (found database)
  byForfeit query := (buildFilter query).bind (found database)
  byRedemption code dpopThumbprint :=
    (found database (redeemable code dpopThumbprint)).or (found database (has .code code))
  byAttempt code :=
    (found database (attemptable code)).or (found database (has .code code))
  bySession id field value :=
    found database fun record => record.isSession id && record.has field value
  anchor doc now := if doc.createdAt = 0 then now else doc.createdAt
  stored doc := (bson.marshal doc).unmarshal
  resumed doc resume :=
    if resume.dcqlQuery.all bson.holds then
      (database.lookup doc.sessionID).map fun record =>
        ((updating (resuming bson resume) (resuming_sessionID bson resume)).apply record).unmarshal
    else none

theorem found_sound {database : Database} {filter : Record → Bool}
    {doc : AuthorizationContext} (hit : found database filter = some doc) :
    database.documents doc.sessionID = some doc := by
  obtain ⟨record, search, rfl⟩ := map_eq_some_iff.mp hit
  exact documents_of_findOne search

theorem reading_sound (bson : Bson) (database : Database) : (reading bson database).Sound where
  byID := by
    intro id doc stored
    obtain ⟨record, search, rfl⟩ := map_eq_some_iff.mp stored
    exact (key_of_lookup search : record.sessionID = id)
  byField := found_sound
  byQuery := by
    intro query doc hit
    obtain ⟨filter, _, search⟩ := bind_eq_some_iff.mp hit
    exact found_sound search
  byForfeit := by
    intro query doc hit
    obtain ⟨filter, _, search⟩ := bind_eq_some_iff.mp hit
    exact found_sound search
  byRedemption := by
    intro code dpopThumbprint doc hit
    rcases or_eq_some_iff.mp hit with search | ⟨_, search⟩ <;> exact found_sound search
  byAttempt := by
    intro code doc hit
    rcases or_eq_some_iff.mp hit with search | ⟨_, search⟩ <;> exact found_sound search
  bySession := by
    intro id field value doc hit
    obtain ⟨record, search, rfl⟩ := map_eq_some_iff.mp hit
    have accepted := (lookup_of_findOne search).2
    simp only [isSession, Bool.and_eq_true, decide_eq_true_eq] at accepted
    have stored := documents_of_findOne search
    exact ⟨accepted.1, accepted.1 ▸ stored⟩
  stored _ := rfl
  resumed := by
    intro doc resume result resumed
    simp only [reading] at resumed
    split_ifs at resumed
    obtain ⟨record, search, rfl⟩ := map_eq_some_iff.mp resumed
    exact (key_of_lookup search : record.sessionID = doc.sessionID)

section Decisions

variable {database : Database} {α : Type}

/-- A method run on its own ends as the contract decides. -/
abbrev Decided (database : Database) (decision : Decision α) (method : Method α) : Prop :=
  Decides documents database.documents decision (method.run Database.execute database)

/-- The method of a call ends as the contract decides. -/
abbrev Serves (bson : Bson) (database : Database) (call : StoreCall) : Prop :=
  Decided database ((reading bson database).decide call) (method bson call)

theorem fail_decided {error : StoreError} (kind : error.refusal = .refused) :
    Decided database (refuse : Decision α) (fail error) :=
  .refuse kind rfl

/-- A guard that the contract and the method both test. -/
theorem guard_decided {condition : Prop} [Decidable condition] {error : StoreError}
    {decision : Decision α} {method : Method α} (kind : error.refusal = .refused)
    (rest : ¬ condition → Decided database decision method) :
    Decided database (if condition then refuse else decision)
      (if condition then fail error else method) := by
  by_cases holds : condition
  · rw [if_pos holds, if_pos holds]
    exact fail_decided kind
  · rw [if_neg holds, if_neg holds]
    exact rest holds

theorem find_decided (filter : Record → Bool) :
    Decided database (answer (found database filter)) (find filter) := by
  simp only [Decided, find, run_call, Database.execute, found]
  cases database.findOne filter with
  | none => exact .refuse rfl rfl
  | some record => exact ⟨rfl, rfl⟩

theorem set_decided (filter : Record → Bool) {change : AuthorizationContext → AuthorizationContext}
    (keeps : ∀ doc, (change doc).sessionID = doc.sessionID)
    (commutes : ∀ record : Record,
      ({ record with context := change record.context } : Record).unmarshal =
        change record.unmarshal) :
    Decided database (onFound (found database filter) fun doc => write (change doc))
      (set filter change keeps) := by
  simp only [Decided, set, run_call, Database.execute, found]
  cases search : database.findOne filter with
  | none =>
    rw [updateOne_of_findOne_none search]
    exact .refuse rfl rfl
  | some record =>
    rw [updateOne_of_findOne search]
    refine .write ?_
    rw [documents_write]
    exact congrArg (fun doc => apply database.documents _) (commutes _)

theorem get_decided (bson : Bson) (query : AuthorizationContext) :
    Serves bson database (.get query) := by
  simp only [Serves, Reading.decide, reading, method, get]
  cases buildFilter query with
  | none => exact fail_decided rfl
  | some filter => exact find_decided _

theorem getByID_decided (bson : Bson) (id : String) : Serves bson database (.getByID id) :=
  guard_decided rfl fun _ => find_decided _

theorem getByField_decided (field : IndexField) (value emptyMessage : String) :
    Decided database (if value = "" then refuse else answer (found database (has field value)))
      (getByField field value emptyMessage) :=
  guard_decided rfl fun _ => find_decided _

section

variable (bson : Bson)

include bson

theorem save_decided (doc : AuthorizationContext) (now : Time) :
    Serves bson database (.save doc now) := by
  refine guard_decided rfl fun _ => guard_decided rfl fun _ => ?_
  simp only [Decided, run_call, Database.execute]
  refine .write ?_
  cases database.replaced _ _ <;> exact documents_write database _

/-- A replacement of one document. -/
theorem replace_decided (filter : Record → Bool) (doc : AuthorizationContext)
    {search : Option AuthorizationContext}
    (replaced : search = (database.replaced filter (bson.marshal doc)).map unmarshal) :
    Decided database (onFound search fun _ => write (bson.marshal doc).unmarshal)
      (replace bson filter doc) := by
  simp only [Decided, replace, run_call, Database.execute, replaced]
  cases database.replaced filter (bson.marshal doc) with
  | none => exact .refuse rfl rfl
  | some record => exact .write (documents_write _ _)

theorem update_decided (doc : AuthorizationContext) : Serves bson database (.update doc) := by
  refine guard_decided rfl fun _ => guard_decided rfl fun _ =>
    replace_decided _ _ doc ?_
  rw [replaced_any]
  rfl

theorem rotateRefreshToken_decided (oldToken : String) (updated : AuthorizationContext) :
    Serves bson database (.rotateRefreshToken oldToken updated) :=
  guard_decided rfl fun _ => guard_decided rfl fun _ =>
    replace_decided _ _ _ rfl

theorem delete_decided (id : String) : Serves bson database (.delete id) := by
  refine guard_decided rfl fun _ => ⟨rfl, ?_⟩
  funext other
  have erased : (database.deleteOne (isSession id)).lookup other =
      if other = id then none else database.lookup other :=
    lookup_deleteOne_key database id other
  simp only [run_call, run_done, Database.execute, apply, documents, erased, update_apply]
  split_ifs <;> rfl

theorem forfeitAuthorizationCode_decided (query : AuthorizationContext) :
    Serves bson database (.forfeitAuthorizationCode query) := by
  simp only [Serves, Reading.decide, reading, method, forfeitAuthorizationCode]
  cases buildFilter query with
  | none => exact fail_decided rfl
  | some filter =>
    simp only [Decided, run_call, Database.execute, bind_some, found]
    cases search : database.findOne filter with
    | none => exact .refuse rfl rfl
    | some record =>
      by_cases forfeited : record.context.forfeited
      · simp only [map_some, onFound, unmarshal_forfeited, forfeited]
        exact .refuse rfl rfl
      · -- the first match is not forfeited, so the atomic filter meets it first as well
        have again : (database.findOne fun other => filter other && other.notForfeited) =
            some record :=
          findOne_and search (by simpa [notForfeited] using forfeited)
        simp only [map_some, onFound, unmarshal_forfeited, forfeited,
          Bool.false_eq_true, if_false, run_call, Database.execute, again,
          updateOne_of_findOne again]
        exact .rewrite (documents_write _ _)

theorem markCodeAsForfeited_decided (id : String) :
    Serves bson database (.markCodeAsForfeited id) := by
  refine guard_decided rfl fun _ => ?_
  have search : (database.findOne fun record => record.isSession id && record.notForfeited) =
      (database.lookup id).filter notForfeited :=
    findOne_key_and database id notForfeited
  simp only [Decided, run_call, Database.execute, reading, documents]
  cases stored : database.lookup id with
  | none =>
    rw [stored, filter_none] at search
    have absent : database.countDocuments (isSession id) = 0 :=
      countDocuments_eq_zero_iff.mpr stored
    rw [updateOne_of_findOne_none search, search]
    simp only [toList_none, List.length_nil, run_call, Database.execute, absent]
    exact .refuse rfl rfl
  | some record =>
    by_cases forfeited : record.context.forfeited
    · rw [stored, filter_some, if_neg (by simpa [notForfeited] using forfeited)]
        at search
      rw [updateOne_of_findOne_none search, search]
      simp only [toList_none, List.length_nil, run_call, Database.execute, map_some, onFound,
        unmarshal_forfeited, forfeited]
      cases database.countDocuments (isSession id) <;> exact .refuse rfl rfl
    · rw [stored, filter_some, if_pos (by simpa [notForfeited] using forfeited)]
        at search
      rw [updateOne_of_findOne search, search]
      simp only [map_some, onFound, unmarshal_forfeited, forfeited]
      exact .write (documents_write _ _)

theorem redeemPreAuthorizedCode_decided (code dpopThumbprint : String) :
    Serves bson database (.redeemPreAuthorizedCode code dpopThumbprint) := by
  refine guard_decided rfl fun _ => guard_decided rfl fun _ =>
    guard_decided rfl fun _ => ?_
  simp only [Decided, run_call, Database.execute, reading, found]
  cases search : database.findOne (redeemable code dpopThumbprint) with
  | some record =>
    have accepted := (lookup_of_findOne search).2
    simp only [redeemable, notForfeited, Bool.and_eq_true, Bool.not_eq_true',
      decide_eq_true_eq] at accepted
    obtain ⟨⟨⟨_, active⟩, fresh⟩, room⟩ := accepted
    have added : addRedeemer dpopThumbprint record.context =
        record.context.redeem dpopThumbprint := if_neg fresh
    simp only [updateOne_of_findOne search, map_some, some_or, onFound, unmarshal_forfeited,
      active, unmarshal_redeemedBy, fresh, Nat.not_le.mpr room, updating, added]
    exact .rewrite (documents_write _ _)
  | none =>
    simp only [updateOne_of_findOne_none search, map_none, run_call, Database.execute]
    cases lookup : database.findOne (has .code code) with
    | none => exact .refuse rfl rfl
    | some existing =>
      have rejected := findOne_eq_none_iff.mp search _ existing (lookup_of_findOne lookup).1
      have carries := (lookup_of_findOne lookup).2
      refine guard_decided rfl fun active => guard_decided rfl fun fresh =>
        guard_decided rfl fun room => ?_
      -- the search for a redeemable document would have found this one
      simp_all [redeemable, notForfeited]

theorem consumeTXCodeAttempt_decided (code : String) :
    Serves bson database (.consumeTXCodeAttempt code) := by
  refine guard_decided rfl fun _ => ?_
  simp only [Decided, run_call, Database.execute, reading, found]
  cases search : database.findOne (attemptable code) with
  | some record =>
    have accepted := (lookup_of_findOne search).2
    simp only [attemptable, notForfeited, Bool.and_eq_true, Bool.not_eq_true',
      decide_eq_true_eq] at accepted
    obtain ⟨⟨_, active⟩, room⟩ := accepted
    simp only [updateOne_of_findOne search, map_some, some_or, onFound, unmarshal_forfeited,
      active, unmarshal_txCodeAttempts, Int.not_le.mpr room]
    exact .rewrite (documents_write _ _)
  | none =>
    simp only [updateOne_of_findOne_none search, map_none, run_call, Database.execute]
    cases lookup : database.findOne (has .code code) with
    | none => exact .refuse rfl rfl
    | some existing =>
      have rejected := findOne_eq_none_iff.mp search _ existing (lookup_of_findOne lookup).1
      have carries := (lookup_of_findOne lookup).2
      refine guard_decided rfl fun active => ?_
      have exhausted : existing.unmarshal.txCodeAttempts ≥ maxTXCodeAttempts := by
        simp_all [attemptable, notForfeited]
      have again : (database.findOne fun record =>
          record.has .code code && record.notForfeited) = some existing :=
        findOne_and lookup (by simpa [notForfeited] using active)
      simp only [Decided, exhausted, if_true, run_call, Database.execute,
        updateOne_of_findOne again]
      exact ⟨rfl, documents_write _ _⟩

theorem extendExpiry_decided (query : AuthorizationContext) (expiresAt : Int) :
    Serves bson database (.extendExpiry query expiresAt) := by
  simp only [Serves, Reading.decide, reading, method, extendExpiry]
  cases buildFilter query with
  | none => exact fail_decided rfl
  | some filter =>
    have commutes (record : Record) :
        ({ record with context := raiseExpiry expiresAt record.context } : Record).unmarshal =
          raiseExpiry expiresAt record.unmarshal := by
      by_cases later : record.context.expiresAt ≥ expiresAt
      · rw [raiseExpiry, if_pos later]
        exact (if_pos later).symm
      · rw [raiseExpiry, if_neg later]
        exact (if_neg later).symm
    have decided := @set_decided database filter _ (raiseExpiry_sessionID expiresAt) commutes
    simp only [bind_some]
    cases hit : found database filter with
    | none =>
      rw [hit] at decided
      exact decided
    | some doc =>
      simp only [hit, onFound] at decided ⊢
      by_cases later : doc.expiresAt ≥ expiresAt
      · -- `$max` writes the document back as it is
        rw [raiseExpiry, if_pos later] at decided
        rw [if_pos later]
        exact ⟨decided.answer, decided.change.trans (apply_write_self (found_sound hit))⟩
      · rw [raiseExpiry, if_neg later] at decided
        rw [if_neg later]
        exact decided

theorem claimAuthSession_decided (authSession : String) :
    Serves bson database (.claimAuthSession authSession) := by
  refine guard_decided rfl fun _ => ?_
  simp only [Decided, run_call, Database.execute, reading, found]
  cases search : database.findOne (has .authSession authSession) with
  | none =>
    rw [updateOne_of_findOne_none search]
    exact .refuse rfl rfl
  | some record =>
    have carries : record.unmarshal.authSession = authSession :=
      (of_decide_eq_true (lookup_of_findOne search).2 :
        authSession = record.context.authSession).symm
    simp only [updateOne_of_findOne search, map_some, onFound, carries, ne_eq]
    exact .rewrite (documents_write _ _)

theorem claimIssuerState_decided (issuerState : String) (opened : AuthorizationContext) :
    Serves bson database (.claimIssuerState issuerState opened) := by
  refine guard_decided rfl fun _ => guard_decided rfl fun _ =>
    guard_decided rfl fun _ => ?_
  simp only [Decided, run_call, Database.execute]
  have search : (reading bson database).bySession opened.sessionID .issuerState issuerState =
      (database.replaced (has .issuerState issuerState)
        (bson.marshal opened.releaseIssuerState)).map unmarshal := rfl
  rw [search]
  cases database.replaced _ _ with
  | none => exact .refuse rfl rfl
  | some record => exact .rewrite (documents_write _ _)

theorem resumeIssuerState_decided (issuerState : String) (resume : IssuerStateResume) :
    Serves bson database (.resumeIssuerState issuerState resume) := by
  refine guard_decided rfl fun _ => ?_
  simp only [reading, found]
  by_cases held : resume.dcqlQuery.all bson.holds
  · simp only [held, Bool.not_true, Bool.false_eq_true, if_false, Decided, run_call,
      Database.execute]
    cases search : database.findOne (has .issuerState issuerState) with
    | none =>
      rw [updateOne_of_findOne_none search]
      exact .refuse rfl rfl
    | some record =>
      have carries : record.unmarshal.issuerState = issuerState :=
        (of_decide_eq_true (lookup_of_findOne search).2 :
          issuerState = record.context.issuerState).symm
      have stored : database.lookup record.unmarshal.sessionID = some record :=
        (lookup_of_findOne search).1
      simp only [updateOne_of_findOne search, map_some, onFound, carries, ne_eq, stored]
      exact .rewrite (documents_write _ _)
  · simp only [held, Bool.false_eq_true, if_false]
    have refused : (onFound ((database.findOne (has .issuerState issuerState)).map
        unmarshal) fun doc =>
          if doc.issuerState ≠ issuerState then refuse
          else onFound none rewrite) = refuse := by
      cases database.findOne (has .issuerState issuerState) with
      | none => rfl
      | some record => exact ite_self _
    rw [refused]
    exact fail_decided rfl

end

end Decisions

/-- Every method of the MongoDB store, run on its own, keeps the contract. -/
theorem execute_decided (bson : Bson) (call : StoreCall) (database : Database) :
    Decided database ((reading bson database).decide call) (method bson call) := by
  cases call with
  | save doc now => exact save_decided _ doc now
  | get query | getSnapshot query => exact get_decided _ _
  | getByID id => exact getByID_decided _ id
  | getByAuthorizationCode code => exact getByField_decided .code _ _
  | getByAccessToken token | getWithAccessToken token =>
    exact getByField_decided .accessToken _ _
  | getByRefreshToken token => exact getByField_decided .refreshToken _ _
  | update doc => exact update_decided _ doc
  | delete id => exact delete_decided _ id
  | forfeitAuthorizationCode query =>
    exact forfeitAuthorizationCode_decided _ _
  | markCodeAsForfeited id => exact markCodeAsForfeited_decided _ id
  | redeemPreAuthorizedCode code thumbprint =>
    exact redeemPreAuthorizedCode_decided _ _ _
  | consumeTXCodeAttempt code => exact consumeTXCodeAttempt_decided _ _
  | consent query | addToken code token | setAuthProvider id fields =>
    exact guard_decided rfl fun _ => set_decided _ _ fun _ => rfl
  | extendExpiry query expiresAt => exact extendExpiry_decided _ _ _
  | rotateRefreshToken old updated =>
    exact rotateRefreshToken_decided _ old _
  | setIdentifier query identifier | setAuthenticSource query source =>
    exact guard_decided rfl fun _ => guard_decided rfl fun _ =>
      set_decided _ _ fun _ => rfl
  | claimAuthSession authSession => exact claimAuthSession_decided _ _
  | claimIssuerState issuerState opened =>
    exact claimIssuerState_decided _ _ _
  | resumeIssuerState issuerState resume =>
    exact resumeIssuerState_decided _ _ _

/-- The MongoDB store keeps the contract of the interface. -/
def contract (bson : Bson) : ContractStore Database where
  execute := execute bson
  reading := reading bson
  sound := reading_sound bson
  decides := execute_decided bson

end MongoStore

end Vc.Cache
