import Vc.Cache.Accounting
import Vc.Cache.Index

/-!
# Which session a searchable value leads to

The in-memory store follows its index entries, the MongoDB store searches its
documents.  As long as one document only carries a value, both lead to that
document; and once no document carries it and no entry is left, both lead
nowhere.  `ResolvedStore` states this for any store: the two relations `Names`
and `Free`, what they say about lookups, and how every call keeps them.
-/

namespace Vc.Cache

open Concurrent Option Change Database Record Collection Function

/-- The queries that search by one of the two handles that a wallet presents. -/
inductive Asks : AuthorizationContext → IndexField → String → Prop
  | code {value : String} (named : value ≠ "") : Asks { code := value } .code value
  | authSession {value : String} (named : value ≠ "") :
      Asks { authSession := value } .authSession value

namespace ContractStore

variable {σ : Type} (store : ContractStore σ)

/-- The document of this session carries the value. -/
def Carried (state : σ) (field : IndexField) (value id : String) : Prop :=
  ∃ doc, store.documents state id = some doc ∧ doc.Carries field value

/-- The document of this session carries the value, and no other document does. -/
structure Sole (state : σ) (field : IndexField) (value id : String) : Prop where
  carried : store.Carried state field value id
  unique : ∀ other, store.Carried state field value other → other = id

/-- The documents change as it is decided. -/
theorem documents_execute (call : StoreCall) (state : σ) :
    store.documents (store.execute call state).2 =
      ((store.reading state).decide call).2.apply (store.documents state) :=
  (store.decides _ _).change

/-- A call that is decided to succeed answers so. -/
theorem execute_ok {call : StoreCall} {state : σ} {result : call.Result}
    (decided : ((store.reading state).decide call).1 = .ok result) :
    (store.execute call state).1 = .ok result :=
  ok_of_mapError ((store.decides _ _).answer.trans decided)

/-- A call that is decided to fail answers by an error. -/
theorem execute_error {call : StoreCall} {state : σ} {refusal : Refusal}
    (decided : ((store.reading state).decide call).1 = .error refusal) :
    ∃ error, (store.execute call state).1 = .error error := by
  obtain ⟨error, failed, _⟩ :=
    error_of_mapError ((store.decides call state).answer.trans decided)
  exact ⟨error, failed⟩

end ContractStore

variable {doc : AuthorizationContext}

/-- A handle that leads to a document which carries it is claimed. -/
theorem Reading.decide_claimAuthSession {reading : Reading} {authSession : String}
    (found : reading.byField .authSession authSession = some doc)
    (carries : doc.Carries .authSession authSession) :
    reading.decide (.claimAuthSession authSession) = rewrite doc.releaseAuthSession := by
  obtain ⟨named, held⟩ := (doc.carries_iff _ _).mp carries
  simp [decide, if_neg named, found, onFound, ← held]

theorem AuthorizationContext.releaseAuthSession_free (doc : AuthorizationContext)
    (authSession : String) : ¬ doc.releaseAuthSession.Carries .authSession authSession := by
  intro carries
  obtain ⟨named, same⟩ := (carries_iff _ _ _).mp carries
  exact named same

/-- A store that resolves searchable values. -/
structure ResolvedStore (σ : Type) extends ContractStore σ where
  /-- The value leads to this session. -/
  Names : σ → IndexField → String → String → Prop
  /-- The value leads nowhere. -/
  Free : σ → IndexField → String → Prop
  byField : ∀ {state field value id}, Names state field value id → value ≠ "" →
    (reading state).byField field value = (reading state).byID id
  byQuery : ∀ {state query field value id}, Names state field value id →
    Asks query field value → (reading state).byQuery query = (reading state).byID id
  byForfeit : ∀ {state code id}, Names state .code code id → code ≠ "" →
    (reading state).byForfeit { code } = (reading state).byID id
  byRedemption : ∀ {state code id} (dpopThumbprint), Names state .code code id → code ≠ "" →
    (reading state).byRedemption code dpopThumbprint = (reading state).byID id
  byAttempt : ∀ {state code id}, Names state .code code id → code ≠ "" →
    (reading state).byAttempt code = (reading state).byID id
  bySession : ∀ {state id}, id ≠ "" →
    (reading state).byQuery { sessionID := id } = (reading state).byID id
  byField_free : ∀ {state field value}, Free state field value → value ≠ "" →
    (reading state).byField field value = none
  byQuery_free : ∀ {state query field value}, Free state field value →
    Asks query field value → (reading state).byQuery query = none
  names_execute : ∀ {state field value id} (call), Names state field value id →
    toContractStore.Sole state field value id →
    toContractStore.Sole (execute call state).2 field value id →
    Names (execute call state).2 field value id
  free_execute : ∀ {state field value} (call), Free state field value →
    (∀ id, ¬ toContractStore.Carried (execute call state).2 field value id) →
    Free (execute call state).2 field value
  free_claim : ∀ {state value id doc}, Names state .authSession value id →
    toContractStore.Sole state .authSession value id →
    (execute (.claimAuthSession value) state).1 = .ok doc →
    Free (execute (.claimAuthSession value) state).2 .authSession value
  /-- Only the members that an encoding need not keep change when a document is
  stored. -/
  stored : ∀ state doc, ∃ createdAt authorizationDetails verifiedClaims dcqlQuery rest,
    (reading state).stored doc =
      { doc with createdAt, authorizationDetails, verifiedClaims, dcqlQuery, rest }

/-! ## The in-memory store -/

namespace MemoryStore

/-- What a call can do to the index entry of a value. -/
inductive EntryStep (before after : MemoryStore) (field : IndexField) (value : String) : Prop
  | kept (entry : after.indices (indexKey field value) = before.indices (indexKey field value))
  | led (doc : AuthorizationContext) (stored : after.cache doc.sessionID = some doc)
      (carries : doc.Carries field value)
      (entry : after.indices (indexKey field value) = some doc.sessionID)
  | retired (doc : AuthorizationContext) (stored : before.cache doc.sessionID = some doc)
      (carries : doc.Carries field value) (entry : after.indices (indexKey field value) = none)
      (gone : ∀ next, after.cache doc.sessionID = some next → ¬ next.Carries field value)
  | dangling (id : String) (leads : before.indices (indexKey field value) = some id)
      (absent : before.cache id = none) (entry : after.indices (indexKey field value) = none)

namespace EntryStep

variable {store : MemoryStore} {field : IndexField} {value : String}

/-- A document is written and its entries are added. -/
theorem append (store : MemoryStore) (doc : AuthorizationContext) (field : IndexField)
    (value : String) : EntryStep store ((store.put doc).updateIndices doc) field value := by
  by_cases carries : doc.Carries field value
  · refine .led doc (by simp [apply]) carries ?_
    rw [updateIndices_indices, if_pos carries]
  · refine .kept ?_
    rw [updateIndices_indices, if_neg carries, put_indices]

/-- The entries of a document are exchanged for those of its next version, with any
further entries of its own removed. -/
theorem exchange {old new : AuthorizationContext} {removed : MemoryStore}
    (stored : store.cache new.sessionID = some old)
    (indices : removed.indices (indexKey field value) =
      if old.Carries field value then none else store.indices (indexKey field value)) :
    EntryStep store ((removed.put new).updateIndices new) field value := by
  have sameID : old.sessionID = new.sessionID := store.keyed stored
  have written : ((removed.put new).updateIndices new).cache new.sessionID = some new := by
    simp [apply]
  have entry : ((removed.put new).updateIndices new).indices (indexKey field value) =
      if new.Carries field value then some new.sessionID
      else removed.indices (indexKey field value) := by
    rw [updateIndices_indices, put_indices]
  rw [indices] at entry
  split_ifs at entry with newCarries oldCarries
  · exact .led new written newCarries entry
  · refine .retired old (sameID ▸ stored) oldCarries entry ?_
    rw [sameID, written]
    rintro next ⟨⟩
    exact newCarries
  · exact .kept entry

/-- A document goes with its entries. -/
theorem remove {id : String} {old : AuthorizationContext} (stored : store.cache id = some old) :
    EntryStep store ((store.deleteIndices old).drop id) field value := by
  have sameID : old.sessionID = id := store.keyed stored
  have entry : ((store.deleteIndices old).drop id).indices (indexKey field value) =
      if old.Carries field value then none else store.indices (indexKey field value) :=
    deleteIndices_indices store old field value
  split_ifs at entry with carries
  · refine .retired old (sameID ▸ stored) carries entry ?_
    simp [sameID, apply]
  · exact .kept entry

/-- An entry that leads to no document goes. -/
theorem unindex {key : IndexField} {handle id : String}
    (leads : store.indices (indexKey key handle) = some id) (absent : store.cache id = none) :
    EntryStep store (store.unindex (indexKey key handle)) field value := by
  have entry := unindex_indices store key field handle value
  split_ifs at entry with same
  · obtain ⟨rfl, rfl⟩ := same
    exact .dangling id leads absent entry
  · exact .kept entry

/-- The handle of an interaction goes when it is claimed. -/
theorem releaseAuthSession (named : doc.authSession ≠ "")
    (stored : store.cache doc.sessionID = some doc) :
    EntryStep store ((store.unindex (indexKey .authSession doc.authSession)).put
      doc.releaseAuthSession) field value := by
  have entry := unindex_indices store .authSession field doc.authSession value
  split_ifs at entry with handle
  · obtain ⟨rfl, rfl⟩ := handle
    refine .retired doc stored ((doc.carries_iff _ _).mpr ⟨named, rfl⟩) entry ?_
    intro next written carries
    have released : next = doc.releaseAuthSession := by
      simpa [apply, AuthorizationContext.releaseAuthSession, eq_comm] using written
    subst released
    exact doc.releaseAuthSession_free _ carries
  · exact .kept entry

end EntryStep

/-- The step lemma: what any call does to the entry of a value. -/
theorem execute_entryStep (store : MemoryStore) (field : IndexField) (value : String)
    (call : StoreCall) : EntryStep store (execute call store).2 field value := by
  have effect := execute_effect store call
  generalize (execute call store).2 = after at effect ⊢
  cases effect with
  | refl | put _ _ _ | dropAbsent _ => exact .kept rfl
  | append doc _ => exact .append _ doc _ _
  | putAgain _ _ _ => exact .append _ _ _ _
  | replace stored => exact .exchange stored (deleteIndices_indices store _ field value)
  | drop stored => exact .remove stored
  | unindex leads absent => exact .unindex leads absent
  | releaseAuthSession named stored => exact .releaseAuthSession named stored
  | claimIssuerState named stored =>
    exact .exchange stored (unindex_deleteIndices_indices store named field value)

theorem byQuery_asks {store : MemoryStore} {query : AuthorizationContext} {field : IndexField}
    {value : String} (asks : Asks query field value) :
    store.reading.byQuery query = store.byIndex field value := by
  cases asks with
  | code named | authSession named => exact get_of_field rfl (by simp [queryFields, named])

/-- The in-memory store resolves a value by its index entry. -/
def resolved : ResolvedStore MemoryStore where
  toContractStore := contract
  Names store field value id := store.indices (indexKey field value) = some id
  Free store field value := store.indices (indexKey field value) = none
  byField := by
    intro store field value id entry _
    exact (congrArg (bind · store.cache) entry).trans rfl
  byQuery := by
    intro store query field value id entry asks
    refine (byQuery_asks asks).trans ?_
    exact (congrArg (bind · store.cache) entry).trans rfl
  byForfeit := by
    intro store code id entry named
    refine (if_pos named).trans ?_
    exact (congrArg (bind · store.cache) entry).trans rfl
  byRedemption := by
    intro store code id _ entry _
    exact (congrArg (bind · store.cache) entry).trans rfl
  byAttempt := by
    intro store code id entry _
    exact (congrArg (bind · store.cache) entry).trans rfl
  bySession := by
    intro store id named
    simp only [contract, reading, get, resolveSessionID, ne_eq, named, not_false_eq_true, if_true]
    cases store.cache id <;> rfl
  byField_free := by
    intro store field value entry _
    exact congrArg (bind · store.cache) entry
  byQuery_free := by
    intro store query field value entry asks
    exact (byQuery_asks asks).trans (congrArg (bind · store.cache) entry)
  names_execute := by
    intro store field value id call entry before after
    cases execute_entryStep store field value call with
    | kept same => exact same.trans entry
    | led doc stored carries led =>
      rw [← after.unique _ ⟨doc, stored, carries⟩]
      exact led
    | retired doc stored carries _ gone =>
      obtain rfl := before.unique _ ⟨doc, stored, carries⟩
      obtain ⟨next, present, nextCarries⟩ := after.carried
      exact absurd nextCarries (gone next present)
    | dangling other leads absent _ =>
      obtain ⟨doc, present, _⟩ := before.carried
      obtain rfl : other = id := some.inj (leads.symm.trans entry)
      exact nomatch (absent.symm.trans present : none = some doc)
  free_execute := by
    intro store field value call entry none
    cases execute_entryStep store field value call with
    | kept same => exact same.trans entry
    | led doc stored carries _ => exact absurd ⟨doc, stored, carries⟩ (none doc.sessionID)
    | retired _ _ _ entry _ => exact entry
    | dangling _ _ _ entry => exact entry
  free_claim := by
    intro store value id doc entry sole claimed
    obtain ⟨held, present, carries⟩ := sole.carried
    obtain ⟨named, same⟩ := (held.carries_iff _ _).mp carries
    have stored : store.cache id = some held := present
    simp only [contract, execute, claimAuthSession, named, if_false, entry, stored, ← same,
      ne_eq, not_true_eq_false]
    exact update_self _ _ _
  stored _ doc := ⟨_, doc.authorizationDetails, _, _, doc.rest, rfl⟩

end MemoryStore

/-! ## The MongoDB store -/

namespace MongoStore

variable {bson : Bson} {database : Database} {field : IndexField} {value id : String}

theorem sole_single {record : Record} (carries : record.unmarshal.Carries field value) :
    (contract bson).Sole (empty.write record) field value record.sessionID :=
  ⟨⟨_, documents_single.mpr ⟨rfl, rfl⟩, carries⟩,
    fun _ ⟨_, present, _⟩ => (documents_single.mp present).1⟩

section

variable (sole : (contract bson).Sole database field value id)

include sole

variable {filter : Record → Bool}

/-- A filter that asks for a value that one document only carries finds that
document. -/
theorem found_sole (named : value ≠ "")
    (asks : ∀ record, filter record = true → record.has field value = true)
    (hit : found database filter = some doc) : database.documents id = some doc := by
  obtain ⟨record, search, rfl⟩ := map_eq_some_iff.mp hit
  have stored := documents_of_findOne search
  have carries := (record.has_iff_carries named).mp (asks record (lookup_of_findOne search).2)
  rw [← sole.unique _ ⟨_, stored, carries⟩]
  exact stored

theorem found_has (named : value ≠ "") :
    found database (has field value) = database.documents id := by
  obtain ⟨doc, present, carries⟩ := sole.carried
  obtain ⟨record, stored, rfl⟩ := map_eq_some_iff.mp present
  have search := findOne_has named stored carries fun other _ present carries =>
    sole.unique other ⟨_, present, carries⟩
  rw [found, search, documents, stored]

/-- The document under a stronger filter, or else that of the value alone. -/
theorem found_or_has (named : value ≠ "")
    (asks : ∀ record, filter record = true → record.has field value = true) :
    (found database filter).or (found database (has field value)) = database.documents id := by
  cases hit : found database filter with
  | some doc => exact (found_sole sole named asks hit).symm
  | none => exact found_has sole named

end

theorem buildFilter_asks {query : AuthorizationContext} (asks : Asks query field value) :
    value ≠ "" ∧ buildFilter query = some (has field value) := by
  cases asks with
  | code named | authSession named => exact ⟨named, by simp [buildFilter, named]⟩

theorem found_none (free : ∀ id, ¬ (contract bson).Carried database field value id)
    (named : value ≠ "") : found database (has field value) = none := by
  cases hit : found database (has field value) with
  | none => rfl
  | some doc =>
    obtain ⟨record, search, rfl⟩ := map_eq_some_iff.mp hit
    exact absurd ⟨_, documents_of_findOne search,
      (record.has_iff_carries named).mp (lookup_of_findOne search).2⟩ (free _)

/-- The MongoDB store resolves a value by the documents that carry it. -/
def resolved (bson : Bson) : ResolvedStore Database where
  toContractStore := contract bson
  Names := (contract bson).Sole
  Free database field value := ∀ id, ¬ (contract bson).Carried database field value id
  byField := found_has
  byQuery := by
    intro database query field value id sole asks
    obtain ⟨named, filter⟩ := buildFilter_asks asks
    exact (congrArg (bind · (found database)) filter).trans (found_has sole named)
  byForfeit := by
    intro database code id sole named
    obtain ⟨_, filter⟩ := buildFilter_asks (.code named)
    exact (congrArg (bind · (found database)) filter).trans (found_has sole named)
  byRedemption := by
    intro database code id dpopThumbprint sole named
    refine found_or_has sole named fun record accepted => ?_
    simp only [redeemable, Bool.and_eq_true] at accepted
    exact accepted.1.1.1
  byAttempt := by
    intro database code id sole named
    refine found_or_has sole named fun record accepted => ?_
    simp only [attemptable, Bool.and_eq_true] at accepted
    exact accepted.1.1
  bySession := by
    intro database id named
    have filter : buildFilter { sessionID := id } = some (isSession id) := by
      simp [buildFilter, named]
    exact (congrArg (bind · (found database)) filter).trans rfl
  byField_free := found_none
  byQuery_free := by
    intro database query field value free asks
    obtain ⟨named, filter⟩ := buildFilter_asks asks
    exact (congrArg (bind · (found database)) filter).trans (found_none free named)
  names_execute _ _ _ after := after
  free_execute _ _ after := after
  free_claim := by
    intro database value id _ sole _ _ other
    rintro ⟨next, present, carries⟩
    obtain ⟨held, stored, heldCarries⟩ := sole.carried
    have named := ((held.carries_iff _ _).mp heldCarries).1
    have claimed : (reading bson database).decide (.claimAuthSession value) =
        rewrite held.releaseAuthSession :=
      Reading.decide_claimAuthSession ((found_has sole named).trans stored) heldCarries
    have changed : (contract bson).documents
        ((contract bson).execute (.claimAuthSession value) database).2 =
          apply database.documents (.write held.releaseAuthSession) :=
      ((contract bson).documents_execute _ database).trans
        (congrArg (fun decision => decision.2.apply database.documents) claimed)
    rw [changed, apply, update_apply] at present
    split_ifs at present with same
    · cases present
      exact held.releaseAuthSession_free value carries
    · obtain rfl := sole.unique other ⟨next, present, carries⟩
      exact same (((contract bson).sound database).byID stored).symm
  stored _ doc := ⟨_, _, _, _, _, rfl⟩

end MongoStore

/-! ## Calls that keep a value where it is -/

/-- A change after which the value is carried where it was: what is written carries
the value exactly if it is the document of that session. -/
def Change.Respects (field : IndexField) (value id : String) : Change → Prop
  | .keep => True
  | .write doc => doc.Carries field value ↔ doc.sessionID = id
  | .remove _ => False

theorem ContractStore.Sole.execute {σ : Type} {store : ContractStore σ} {state : σ}
    {field : IndexField} {value id : String} (sole : store.Sole state field value id)
    {call : StoreCall} (respects : ((store.reading state).decide call).2.Respects field value id) :
    store.Sole (store.execute call state).2 field value id := by
  have changed := store.documents_execute call state
  cases change : ((store.reading state).decide call).2 with
  | remove removed => simp only [change, Respects] at respects
  | keep =>
    rw [change, apply] at changed
    obtain ⟨⟨doc, present, carries⟩, unique⟩ := sole
    refine ⟨⟨doc, changed ▸ present, carries⟩, ?_⟩
    rintro other ⟨doc, present, carries⟩
    exact unique _ ⟨doc, changed ▸ present, carries⟩
  | write doc =>
    rw [change, apply] at changed
    simp only [change] at respects
    have lookup (other : String) : store.documents (store.execute call state).2 other =
        if other = doc.sessionID then some doc else store.documents state other := by
      rw [changed, update_apply]
    constructor
    · by_cases same : doc.sessionID = id
      · exact ⟨doc, by rw [lookup, if_pos same.symm], respects.mpr same⟩
      · obtain ⟨held, present, carries⟩ := sole.carried
        exact ⟨held, by rw [lookup, if_neg (Ne.symm same), present], carries⟩
    · rintro other ⟨held, present, carries⟩
      rw [lookup] at present
      split_ifs at present with same
      · cases present
        exact same.trans (respects.mp carries)
      · exact sole.unique _ ⟨held, present, carries⟩

namespace ResolvedStore

variable {σ : Type} (store : ResolvedStore σ)

/-- The value leads to this session, whose document alone carries it. -/
structure Leads (state : σ) (field : IndexField) (value id : String) : Prop where
  names : store.Names state field value id
  sole : store.Sole state field value id

variable {store} {state : σ} {field : IndexField} {value id : String}

section

variable (leads : store.Leads state field value id)

include leads

theorem Leads.execute {call : StoreCall}
    (respects : ((store.reading state).decide call).2.Respects field value id) :
    store.Leads (store.execute call state).2 field value id where
  names := store.names_execute call leads.names leads.sole (leads.sole.execute respects)
  sole := leads.sole.execute respects

theorem Leads.nonempty : value ≠ "" := by
  obtain ⟨doc, _, carries⟩ := leads.sole.carried
  exact ((doc.carries_iff _ _).mp carries).1

theorem Leads.document : ∃ doc, store.documents state id = some doc ∧ doc.Carries field value :=
  leads.sole.carried

end

/-! ## Calls that present a handle -/

section Handles

variable {code : String} {query : AuthorizationContext}

theorem Leads.decide_get (leads : store.Leads state field value id)
    (asks : Asks query field value) (stored : store.documents state id = some doc) :
    (store.reading state).decide (.get query) = (.ok doc, .keep) := by
  have found := (store.byQuery leads.names asks).trans stored
  simp [Reading.decide, found, answer]

theorem decide_get_of_free (free : store.Free state field value) (asks : Asks query field value) :
    (store.reading state).decide (.get query) = refuse := by
  simp [Reading.decide, store.byQuery_free free asks, answer]

theorem Leads.decide_claimAuthSession (leads : store.Leads state .authSession value id)
    (stored : store.documents state id = some doc) :
    (store.reading state).decide (.claimAuthSession value) = rewrite doc.releaseAuthSession := by
  obtain ⟨held, present, carries⟩ := leads.document
  rw [stored] at present
  cases present
  exact Reading.decide_claimAuthSession ((store.byField leads.names leads.nonempty).trans stored)
    carries

theorem decide_claimAuthSession_of_free (free : store.Free state .authSession value) :
    (store.reading state).decide (.claimAuthSession value) = refuse := by
  by_cases named : value = ""
  · simp [Reading.decide, if_pos named]
  · simp [Reading.decide, store.byField_free free named, onFound]

section

variable (leads : store.Leads state .code code id)

include leads

section

variable (stored : store.documents state id = some doc)

include stored

theorem Leads.decide_consumeTXCodeAttempt :
    (store.reading state).decide (.consumeTXCodeAttempt code) =
      if doc.forfeited then refuse
      else if doc.txCodeAttempts ≥ maxTXCodeAttempts then
        (.error .attemptsExceeded, .write doc.forfeit)
      else rewrite doc.attempt := by
  have found := (store.byAttempt leads.names leads.nonempty).trans stored
  simp [Reading.decide, if_neg leads.nonempty, found, onFound]

theorem Leads.decide_redeemPreAuthorizedCode (dpopThumbprint : String) :
    (store.reading state).decide (.redeemPreAuthorizedCode code dpopThumbprint) = refuse ∨
      (doc.forfeited = false ∧
        (store.reading state).decide (.redeemPreAuthorizedCode code dpopThumbprint) =
          rewrite (doc.redeem dpopThumbprint)) := by
  have found := (store.byRedemption dpopThumbprint leads.names leads.nonempty).trans stored
  simp only [Reading.decide, found, onFound]
  split_ifs with _ _ forfeited <;> simp_all

theorem Leads.decide_forfeitAuthorizationCode :
    (store.reading state).decide (.forfeitAuthorizationCode { code }) =
      if doc.forfeited then refuse else rewrite doc.forfeit := by
  have found := (store.byForfeit leads.names leads.nonempty).trans stored
  simp [Reading.decide, found, onFound]

end

end

end Handles

end ResolvedStore

end Vc.Cache
