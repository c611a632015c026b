import Vc.Cache.Index
import Vc.Cache.MongoContract

/-!
# The two stores side by side

Both stores execute the same calls.  They decide a call alike as soon as their
readings agree where the call looks, and the readings differ in a few places
only: the order in which a query's handles are tried, what forfeiting resolves
by, the anchor of a document that is saved again, what BSON does to times,
claims and DCQL queries, index entries that outlive their value, and entries
that the callback for a deleted document takes from a live one.  `Comparable`
excludes these, and every run of comparable events keeps the stores in agreement.
-/

namespace Vc.Cache

open Concurrent Record Option MongoStore AuthorizationContext Collection Trace List

/-- The in-memory store with the evicted documents whose callback has not run
yet, and the database. -/
structure Stores where
  tracked : MemoryStore.Tracked
  database : Database

namespace Stores

/-- The in-memory store. -/
abbrev memory (stores : Stores) : MemoryStore :=
  stores.tracked.store

/-- Both stores are new. -/
def initial : Stores := ⟨.initial, .empty⟩

/-- Execute a call on both stores, or a callback, which concerns the in-memory store alone. -/
def step (bson : Bson) (stores : Stores) (event : MemoryStore.Event) : Stores where
  tracked := stores.tracked.step event
  database := match event with
    | .call request => (executeEncoded bson request stores.database).2
    | .callback _ => stores.database

/-- Both stores hold equal documents. -/
def HoldEqual (stores : Stores) : Prop :=
  stores.memory.cache = Database.documents stores.database

/-- Both stores succeed with equal results or both fail. -/
def AnswerAlike (bson : Bson) (stores : Stores) : MemoryStore.Event → Prop
  | .call request => (MemoryStore.execute request stores.memory).1.toOption =
      (executeEncoded bson request stores.database).1.toOption
  | .callback _ => True

/-- No searchable value is carried by two sessions. -/
def Unique (stores : Stores) : Prop :=
  stores.memory.UniqueValues

end Stores

/-! ## Comparable events -/

/-- BSON gives the members back whose type it need not keep. -/
structure Bson.KeepsValues (bson : Bson) (doc : AuthorizationContext) : Prop where
  details : bson.details doc.authorizationDetails = doc.authorizationDetails
  claims : bson.claims doc.verifiedClaims = doc.verifiedClaims
  rest : bson.rest doc.rest = doc.rest

/-- BSON has an encoding of the document and gives it back as it is. -/
structure Bson.Keeps (bson : Bson) (doc : AuthorizationContext) : Prop
    extends bson.KeepsValues doc where
  time : wholeMilliseconds doc.createdAt = doc.createdAt
  encodes : bson.encodes doc = true

/-- The query names no auth_session beside an issuer_state, unless an earlier
member decides. -/
def AuthorizationContext.OneHandle (query : AuthorizationContext) : Prop :=
  query.sessionID ≠ "" ∨ query.requestURI ≠ "" ∨ query.code ≠ "" ∨ query.state ≠ "" ∨
    query.verifierResponseCode ≠ "" ∨ query.ephemeralEncryptionKeyID ≠ "" ∨
    query.requestObjectID ≠ "" ∨ query.authSession = "" ∨ query.issuerState = ""

/-- The query names either a code or a request_uri and no session id, or nothing
at all. -/
def AuthorizationContext.OneCode (query : AuthorizationContext) : Prop :=
  query.sessionID = "" ∧
    ((query.code ≠ "" ∧ query.requestURI = "") ∨ (query.code = "" ∧ query.requestURI ≠ "") ∨
      buildFilter query = none)

/-- The calls on which the two stores can be compared. -/
def Stores.ComparableCall (bson : Bson) (stores : Stores) : StoreCall → Prop
  | .save doc now =>
    bson.Keeps (doc.createAt (stores.memory.anchor doc now)) ∧
      (doc.createdAt = 0 → ∀ old, stores.memory.cache doc.sessionID = some old →
        old.createdAt = 0 ∨ old.createdAt = now) ∧
      stores.memory.Retires (.save doc now)
  | .update doc => bson.Keeps doc
  | .rotateRefreshToken _ updated => bson.Keeps updated
  | .claimIssuerState _ opened => bson.Keeps opened.releaseIssuerState
  | .addToken code token => stores.memory.Retires (.addToken code token)
  | .get query | .getSnapshot query | .extendExpiry query _ => query.OneHandle
  | .forfeitAuthorizationCode query => query.OneCode
  | .resumeIssuerState issuerState resume =>
    ∀ record, stores.database.findOne (has .issuerState issuerState) = some record →
      resume.dcqlQuery.all bson.holds ∧
      wholeMilliseconds resume.createdAt = resume.createdAt ∧
      (record.dcqlQueryExact = resume.dcqlQuery ∨
        record.dcqlQueryExact = none ∧ resume.dcqlQuery.map bson.dcql = resume.dcqlQuery)
  | _ => True

/-- A callback must not take the entries of a live document. -/
def Stores.Comparable (bson : Bson) (stores : Stores) : MemoryStore.Event → Prop
  | .call request => stores.ComparableCall bson request
  | .callback position => stores.tracked.Retires (.callback position)

/-! ## Readings that agree -/

variable {field : IndexField} {value : String}

section Readings

variable {stores : Stores} (equal : stores.HoldEqual) (exact : stores.memory.IndexExact)
  (unique : stores.Unique)

variable {doc : AuthorizationContext}

include equal in
theorem documents_iff {id : String} :
    stores.memory.cache id = some doc ↔
      ∃ record, stores.database.lookup id = some record ∧ record.unmarshal = doc := by
  rw [equal, Database.documents, map_eq_some_iff]

include equal exact unique in
/-- A searchable value leads to the same document in both stores. -/
theorem byField_agree (nonempty : value ≠ "") :
    stores.memory.byIndex field value = MongoStore.found stores.database (has field value) := by
  cases entry : stores.memory.indices (indexKey field value) with
  | none =>
    have missing : stores.database.findOne (has field value) = none := by
      refine findOne_eq_none_iff.mpr fun id record found => ?_
      by_contra hit
      have carries := (record.has_iff_carries nonempty).mp (by simpa using hit)
      have stored := (documents_iff equal).mpr ⟨record, found, rfl⟩
      have indexed := (exact field value id).mpr ⟨_, stored, carries⟩
      rw [entry] at indexed
      contradiction
    rw [MemoryStore.byIndex, entry, MongoStore.found, missing]
    rfl
  | some id =>
    obtain ⟨doc, stored, carries⟩ := (exact field value id).mp entry
    obtain ⟨record, found, rfl⟩ := (documents_iff equal).mp stored
    have search := Database.findOne_has nonempty found carries fun other result present held =>
      unique field value other id result _ (equal ▸ present) stored held carries
    rw [MemoryStore.byIndex, entry, MongoStore.found, search, bind_some, stored]
    rfl

include equal exact in
/-- A session is asked for under a value of its own in the same way. -/
theorem bySession_agree (bson : Bson) (nonempty : value ≠ "") (id : String) :
    stores.memory.reading.bySession id field value =
      (reading bson stores.database).bySession id field value := by
  have search : (stores.database.findOne fun record =>
      record.isSession id && record.has field value) =
        (stores.database.lookup id).filter (has field value) :=
    findOne_key_and stores.database id (has field value)
  simp only [MemoryStore.reading, reading, found, search]
  cases found : stores.database.lookup id with
  | none =>
    have absent : stores.memory.cache id = none := by
      rw [equal, Database.documents, found]
      rfl
    simp [absent]
  | some record =>
    have stored := (documents_iff equal).mpr ⟨record, found, rfl⟩
    by_cases carries : record.unmarshal.Carries field value
    · have entry := (exact field value id).mpr ⟨_, stored, carries⟩
      have hit := (record.has_iff_carries nonempty).mpr carries
      simp [entry, stored, carries, hit, filter_some]
    · have miss : ¬ record.has field value :=
        fun hit => carries ((record.has_iff_carries nonempty).mp hit)
      simp [stored, carries, miss, filter_some]

variable {query : AuthorizationContext}

/-- The members that both stores resolve a query by before its handles. -/
def leadingFields (query : AuthorizationContext) : List (IndexField × String) :=
  [(.requestURI, query.requestURI), (.code, query.code), (.state, query.state),
    (.verifierResponseCode, query.verifierResponseCode),
    (.ephemeralKeyID, query.ephemeralEncryptionKeyID),
    (.requestObjectID, query.requestObjectID)]

/-- `buildFilter` tries the issuer_state before the auth_session. -/
def filterFields (query : AuthorizationContext) : List (IndexField × String) :=
  leadingFields query ++ [(.issuerState, query.issuerState), (.authSession, query.authSession)]

theorem buildFilter_eq (unnamed : query.sessionID = "") :
    buildFilter query =
      ((filterFields query).find? (fun entry => entry.2 ≠ "")).map fun entry =>
        has entry.1 entry.2 := by
  simp only [buildFilter, ne_eq, filterFields, leadingFields]
  split_ifs <;> simp [*]

/-- One handle is the same whichever of the two is tried first. -/
theorem find_handles (unnamed : query.sessionID = "") (oneHandle : query.OneHandle) :
    (MemoryStore.queryFields query).find? (fun entry => entry.2 ≠ "") =
      (filterFields query).find? (fun entry => entry.2 ≠ "") := by
  have split : MemoryStore.queryFields query = leadingFields query ++
      [(.authSession, query.authSession), (.issuerState, query.issuerState)] := rfl
  rw [split, filterFields, find?_append, find?_append]
  cases leading : (leadingFields query).find? (fun entry => entry.2 ≠ "") with
  | some entry => rfl
  | none =>
    simp only [leadingFields, find?_eq_none, mem_cons, forall_eq_or_imp, decide_not,
      Bool.not_eq_true', decide_eq_false_iff_not] at leading
    obtain ⟨uri, code, state, response, key, object⟩ := leading
    simp only [OneHandle, unnamed, uri, code, state, response, key, object,
      ne_eq, not_true_eq_false, false_or] at oneHandle
    rcases oneHandle with noSession | noState
    · by_cases noState : query.issuerState = "" <;> simp [noSession, noState]
    · by_cases noSession : query.authSession = "" <;> simp [noSession, noState]

include equal exact unique in
/-- A query leads to the same document in both stores, if it does not name two
handles that they try in different order. -/
theorem byQuery_agree (oneHandle : query.OneHandle) :
    (stores.memory.get query).toOption = (buildFilter query).bind (found stores.database) := by
  by_cases unnamed : query.sessionID = ""
  · rw [buildFilter_eq unnamed, ← find_handles unnamed oneHandle]
    cases first : (MemoryStore.queryFields query).find? (fun entry => entry.2 ≠ "") with
    | none =>
      simp only [MemoryStore.get, MemoryStore.resolveSessionID, unnamed, first, ne_eq,
        not_true_eq_false, if_false, map_none, bind_none]
      rfl
    | some entry =>
      obtain ⟨field, value⟩ := entry
      have nonempty : value ≠ "" := by simpa using find?_some first
      rw [MemoryStore.get_of_field unnamed first, byField_agree equal exact unique nonempty]
      rfl
  · simp only [MemoryStore.get, MemoryStore.resolveSessionID, buildFilter, unnamed,
      ne_eq, not_false_eq_true, if_true, bind_some]
    have search : found stores.database (isSession query.sessionID) =
        stores.memory.cache query.sessionID := by
      rw [equal]
      rfl
    rw [search]
    cases stores.memory.cache query.sessionID <;> rfl

include equal exact unique in
/-- A code or a request_uri is forfeited on the same document. -/
theorem byForfeit_agree (bson : Bson) (oneCode : query.OneCode) :
    stores.memory.reading.byForfeit query = (reading bson stores.database).byForfeit query := by
  obtain ⟨unnamed, ⟨code, noURI⟩ | ⟨noCode, uri⟩ | nothing⟩ := oneCode
  · simp only [MemoryStore.reading, reading, buildFilter, unnamed, code,
      noURI, ne_eq, not_true_eq_false, not_false_eq_true, if_true, if_false, bind_some]
    exact byField_agree equal exact unique code
  · simp only [MemoryStore.reading, reading, buildFilter, unnamed, noCode,
      uri, ne_eq, not_true_eq_false, not_false_eq_true, if_true, if_false, bind_some]
    exact byField_agree equal exact unique uri
  · have noURI : query.requestURI = "" := by
      by_contra uri
      simp [buildFilter, unnamed, uri] at nothing
    have noCode : query.code = "" := by
      by_contra code
      simp [buildFilter, unnamed, noURI, code] at nothing
    simp [MemoryStore.reading, reading, nothing, noURI, noCode]

include equal exact unique in
/-- A narrower search for a code finds the document of the code, if anything. -/
theorem narrowed_agree {code : String} (nonempty : code ≠ "") {filter : Record → Bool}
    (narrower : ∀ record : Record, filter record → record.has .code code) :
    stores.memory.byIndex .code code =
      (MongoStore.found stores.database filter).or
        (MongoStore.found stores.database (has .code code)) := by
  rw [byField_agree equal exact unique nonempty]
  cases narrow : stores.database.findOne filter with
  | none => simp [MongoStore.found, narrow]
  | some record =>
    obtain ⟨found, accepted⟩ := lookup_of_findOne narrow
    have carries := (record.has_iff_carries nonempty).mp (narrower record accepted)
    have stored := (documents_iff equal).mpr ⟨record, found, rfl⟩
    have search := Database.findOne_has nonempty found carries fun other result present held =>
      unique .code code other record.sessionID result _ (equal ▸ present) stored held carries
    simp [MongoStore.found, narrow, search]

theorem marshal_unmarshal {bson : Bson} (keeps : bson.Keeps doc) :
    (bson.marshal doc).unmarshal = doc := by
  have query : doc.dcqlQuery.or ((doc.dcqlQuery.filter bson.holds).map bson.dcql) =
      doc.dcqlQuery := by
    cases doc.dcqlQuery <;> rfl
  simp [Bson.marshal, unmarshal, keeps.details, keeps.claims, keeps.rest, keeps.time, query]

end Readings

/-! ## Calls decided alike -/

section Calls

variable {bson : Bson} {stores : Stores} (equal : stores.HoldEqual)
  (exact : stores.memory.IndexExact) (unique : stores.Unique)

/-- Two decisions behind the same guard. -/
theorem guard_congr {α : Type} {condition : Prop} [Decidable condition]
    {left right : Decision α} (rest : ¬ condition → left = right) :
    (if condition then refuse else left) = (if condition then refuse else right) := by
  by_cases holds : condition
  · rw [if_pos holds, if_pos holds]
  · rw [if_neg holds, if_neg holds, rest holds]

/-- What a comparable call decides, it decides in both stores. -/
abbrev DecidedAlike (bson : Bson) (stores : Stores) (call : StoreCall) : Prop :=
  stores.memory.reading.decide call = (reading bson stores.database).decide call

section Saved

variable {doc : AuthorizationContext} {now : Time}
  (comparable : stores.ComparableCall bson (.save doc now))

include comparable

theorem anchor_agree :
    stores.memory.anchor doc now = if doc.createdAt = 0 then now else doc.createdAt := by
  rw [MemoryStore.anchor]
  split_ifs with zero
  · cases stored : stores.memory.cache doc.sessionID with
    | none => rfl
    | some old => rcases comparable.2.1 zero old stored with fresh | same <;> simp [*]
  · rfl

theorem save_decidedAlike : DecidedAlike bson stores (.save doc now) := by
  refine guard_congr fun _ => guard_congr fun _ => ?_
  simp [MemoryStore.reading, reading, ← anchor_agree comparable, marshal_unmarshal comparable.1]

end Saved

/-- What a comparable call writes has an encoding. -/
theorem encodes_of_comparable {call : StoreCall} (comparable : stores.ComparableCall bson call) :
    (encoded call).all bson.encodes = true := by
  cases call with
  | save doc now =>
    rw [encoded, ← anchor_agree comparable]
    exact comparable.1.encodes
  | update doc => exact comparable.encodes
  | rotateRefreshToken old updated => exact comparable.encodes
  | claimIssuerState issuerState opened => exact comparable.encodes
  | _ => rfl

theorem resumeIssuerState_decidedAlike (equal : stores.HoldEqual)
    (exact : stores.memory.IndexExact) (unique : stores.Unique) {issuerState : String}
    {resume : IssuerStateResume}
    (comparable : stores.ComparableCall bson (.resumeIssuerState issuerState resume)) :
    DecidedAlike bson stores (.resumeIssuerState issuerState resume) := by
  refine guard_congr fun nonempty => ?_
  simp only [MemoryStore.reading, reading, byField_agree equal exact unique nonempty]
  cases search : stores.database.findOne (has .issuerState issuerState) with
  | none => simp [found, search, onFound]
  | some record =>
    obtain ⟨holds, time, query⟩ := comparable record search
    have stored : stores.database.lookup record.unmarshal.sessionID = some record :=
      (lookup_of_findOne search).1
    have copied : record.dcqlQueryExact.or (resume.dcqlQuery.map bson.dcql) = resume.dcqlQuery := by
      rcases query with same | ⟨none, kept⟩
      · rw [same]
        cases resume.dcqlQuery <;> rfl
      · rw [none, kept]
        rfl
    have resumed : resume.applyTo record.unmarshal.releaseIssuerState =
        ((updating (resuming bson resume) fun _ => rfl).apply record).unmarshal := by
      simp [updating, resuming, unmarshal, IssuerStateResume.applyTo,
        releaseIssuerState, time, copied]
    simp [found, search, onFound, stored, holds, resumed]

include equal exact unique in
theorem comparable_decidedAlike {call : StoreCall} (comparable : stores.ComparableCall bson call) :
    DecidedAlike bson stores call := by
  have byID : stores.memory.reading.byID = (reading bson stores.database).byID := equal
  have byField {field : IndexField} {value : String} (nonempty : ¬ value = "") :
      stores.memory.reading.byField field value =
        (reading bson stores.database).byField field value :=
    byField_agree equal exact unique nonempty
  cases call with
  | save doc now => exact save_decidedAlike comparable
  | get query | getSnapshot query =>
    exact congrArg answer (byQuery_agree equal exact unique comparable)
  | getByID id | markCodeAsForfeited id | setAuthProvider id fields =>
    exact guard_congr fun _ => by rw [byID]
  | getByAuthorizationCode code | getByAccessToken token | getWithAccessToken token
  | getByRefreshToken token | consent query | addToken code token | claimAuthSession authSession =>
    exact guard_congr fun nonempty => by rw [byField nonempty]
  | update doc =>
    refine guard_congr fun _ => guard_congr fun _ => ?_
    rw [byID]
    simp [MemoryStore.reading, reading, marshal_unmarshal comparable]
  | delete id => exact guard_congr fun _ => rfl
  | forfeitAuthorizationCode query =>
    simp [DecidedAlike, Reading.decide, byForfeit_agree equal exact unique bson comparable]
  | redeemPreAuthorizedCode code thumbprint =>
    refine guard_congr fun nonempty => guard_congr fun _ => guard_congr fun _ => ?_
    have agree : stores.memory.reading.byRedemption code thumbprint =
        (reading bson stores.database).byRedemption code thumbprint :=
      narrowed_agree equal exact unique nonempty fun record accepted => by
        simp only [redeemable, Bool.and_eq_true] at accepted
        exact accepted.1.1.1
    rw [agree]
  | consumeTXCodeAttempt code =>
    refine guard_congr fun nonempty => ?_
    have agree : stores.memory.reading.byAttempt code =
        (reading bson stores.database).byAttempt code :=
      narrowed_agree equal exact unique nonempty fun record accepted => by
        simp only [attemptable, Bool.and_eq_true] at accepted
        exact accepted.1.1
    rw [agree]
  | extendExpiry query expiresAt =>
    have byQuery : stores.memory.reading.byQuery query =
        (reading bson stores.database).byQuery query :=
      byQuery_agree equal exact unique comparable
    simp [DecidedAlike, Reading.decide, byQuery]
  | rotateRefreshToken old updated =>
    refine guard_congr fun nonempty => guard_congr fun _ => ?_
    rw [bySession_agree equal exact bson nonempty]
    simp [MemoryStore.reading, reading, marshal_unmarshal comparable]
  | setIdentifier query identifier | setAuthenticSource query source =>
    exact guard_congr fun _ => guard_congr fun _ => by rw [byID]
  | claimIssuerState issuerState opened =>
    refine guard_congr fun nonempty => guard_congr fun _ => guard_congr fun _ => ?_
    rw [bySession_agree equal exact bson nonempty]
    simp [MemoryStore.reading, reading, marshal_unmarshal comparable]
  | resumeIssuerState issuerState resume =>
    exact resumeIssuerState_decidedAlike equal exact unique comparable

end Calls

/-! ## Runs of comparable events -/

theorem toOption_of_mapError {α : Type} {left right : Except StoreError α}
    (same : left.mapError StoreError.refusal = right.mapError StoreError.refusal) :
    left.toOption = right.toOption := by
  cases left <;> cases right <;> first | rfl | contradiction | skip
  rw [Except.ok.inj same]

theorem Stores.Comparable.retires {bson : Bson} {stores : Stores} {event : MemoryStore.Event}
    (comparable : stores.Comparable bson event) : stores.tracked.Retires event := by
  cases event with
  | callback position => exact comparable
  | call request =>
    cases request with
    | save doc now => exact comparable.2.2
    | addToken code token => exact comparable
    | _ => trivial

/-- The stores hold equal documents, and the indices are exact. -/
def Stores.InStep (stores : Stores) : Prop :=
  stores.HoldEqual ∧ stores.memory.IndexExact

/-- The step lemma: a comparable event is answered alike and keeps the stores in
step. -/
theorem Stores.InStep.step {bson : Bson} (stores : Stores) (event : MemoryStore.Event)
    (unique : stores.Unique) (uniqueAfter : (stores.step bson event).Unique)
    (inStep : stores.InStep) (comparable : stores.Comparable bson event) :
    (stores.step bson event).InStep ∧ stores.AnswerAlike bson event := by
  obtain ⟨equal, exact⟩ := inStep
  have exactAfter : (stores.step bson event).memory.IndexExact :=
    ((stores.tracked.step_exact_iff event unique uniqueAfter ⟨exact, exact.lookupsCurrent⟩).mpr
      comparable.retires).1
  cases event with
  | call request =>
    have alike := comparable_decidedAlike equal exact unique comparable
    have memory := MemoryStore.execute_decided request stores.memory
    have mongo := execute_decided bson request stores.database
    have sent : executeEncoded bson request stores.database =
        (method bson request).run Database.execute stores.database :=
      if_pos (encodes_of_comparable comparable)
    rw [DecidedAlike] at alike
    rw [alike, MemoryStore.Decided, equal] at memory
    rw [Decided, ← sent] at mongo
    exact ⟨⟨memory.change.trans mongo.change.symm, exactAfter⟩,
      toOption_of_mapError (memory.answer.trans mongo.answer.symm)⟩
  | callback position =>
    have cache : (stores.step bson (.callback position)).memory.cache = stores.memory.cache := by
      simp only [Stores.memory, Stores.step, MemoryStore.Tracked.step]
      cases stores.tracked.evicted[position]? with
      | none => rfl
      | some doc => exact MemoryStore.deleteIndices_cache _ _
    exact ⟨⟨cache.trans equal, exactAfter⟩, trivial⟩

/-- A deleted session leaves nothing behind, if it was the only one. -/
theorem MemoryStore.Only.delete {store : MemoryStore} {id : String} (only : store.Only id)
    (named : id ≠ "") (other : String) : (store.delete id).2.cache other = none := by
  rw [MemoryStore.delete, if_neg named]
  by_cases same : other = id
  · subst same
    cases store.cache other <;> exact Function.update_self _ _ _
  · have absent := only other same
    cases stored : store.cache id <;>
      simp [Change.apply, Function.update_of_ne same, absent]

/-- An offer, with or without a query. -/
def offered (query : Option DCQL) : AuthorizationContext :=
  { sessionID := "s", issuerState := "offer", dcqlQuery := query, createdAt := 1000000 }

end Vc.Cache
