import Vc.Cache.MemoryContract
import Vc.Data.Trace

/-!
# The secondary indices of the in-memory store

An index entry `field:value → session` should exist exactly when the stored
document of that session carries the value in that member.  `Save` on a stored
session and `AddToken` only add entries, so they keep the indices exact only if
the document loses no searchable value; and the callback that the cache starts
for a deleted document removes the entries of any live document that has taken
over one of its values.  Every other operation keeps the indices exact.
-/

namespace Vc.Cache

/-! ## Index keys -/

theorem IndexField.name_no_colon (field : IndexField) :
    ∀ char ∈ field.name.toList, (char != ':') = true := by
  cases field <;> exact List.all_eq_true.mp (by decide)

theorem IndexField.name_injective : Function.Injective IndexField.name := by
  intro left right equal
  cases left <;> cases right <;> first | rfl | exact absurd equal (by decide)

theorem indexKey_toList (field : IndexField) (value : String) :
    (indexKey field value).toList = field.name.toList ++ ':' :: value.toList := by
  simp [indexKey]

/-- The text before the first colon is the member, the rest is the value. -/
theorem indexKey_inj {left right : IndexField} {first second : String} :
    indexKey left first = indexKey right second ↔ left = right ∧ first = second := by
  constructor
  · intro equal
    have lists : left.name.toList ++ ':' :: first.toList =
        right.name.toList ++ ':' :: second.toList := by
      rw [← indexKey_toList, ← indexKey_toList, equal]
    have names : left.name.toList = right.name.toList := by
      have stripped := congrArg (List.takeWhile (· != ':')) lists
      rw [List.takeWhile_append_of_pos left.name_no_colon,
        List.takeWhile_append_of_pos right.name_no_colon] at stripped
      simpa using stripped
    rw [names] at lists
    have tails := List.append_cancel_left lists
    refine ⟨IndexField.name_injective (String.toList_inj.mp names), String.toList_inj.mp ?_⟩
    exact (List.cons.inj tails).2
  · rintro ⟨rfl, rfl⟩
    rfl

/-- The second document still carries every searchable value of the first. -/
def AuthorizationContext.Retained (old new : AuthorizationContext) : Prop :=
  ∀ field value, old.Carries field value → new.Carries field value

namespace MemoryStore

/-! ## Exact indices -/

/-- An entry leads to a session exactly when its document carries the value. -/
def IndexExact (store : MemoryStore) : Prop :=
  ∀ field value id, store.indices (indexKey field value) = some id ↔
    ∃ doc, store.cache id = some doc ∧ doc.Carries field value

/-- No searchable value is carried by the documents of two sessions. -/
def UniqueValues (store : MemoryStore) : Prop :=
  ∀ field value first second doc other, store.cache first = some doc →
    store.cache second = some other → doc.Carries field value → other.Carries field value →
    first = second

/-- Every lookup by a searchable value returns a document that carries it. -/
structure LookupsCurrent (store : MemoryStore) : Prop where
  query : ∀ query doc field value, query.sessionID = "" →
    (queryFields query).find? (fun entry => entry.2 ≠ "") = some (field, value) →
    store.get query = .ok doc → doc.Carries field value
  code : ∀ code doc, store.getByAuthorizationCode code = .ok doc → doc.Carries .code code
  accessToken : ∀ token doc, store.getByAccessToken token = .ok doc → doc.Carries .accessToken token
  legacyAccessToken : ∀ token doc, store.getWithAccessToken token = .ok doc →
    doc.Carries .accessToken token
  refreshToken : ∀ token doc, store.getByRefreshToken token = .ok doc →
    doc.Carries .refreshToken token

/-- Index entries that are all set to one session, or all removed. -/
theorem foldl_indices {change : MemoryStore → String → MemoryStore} {target : Option String}
    (changes : ∀ store key, (change store key).indices = Function.update store.indices key target)
    (entries : List (IndexField × String)) (store : MemoryStore) (field : IndexField)
    (value : String) :
    (entries.foldl (fun store entry => change store (indexKey entry.1 entry.2)) store).indices
        (indexKey field value) =
      if (field, value) ∈ entries then target else store.indices (indexKey field value) := by
  induction entries generalizing store with
  | nil => simp
  | cons entry rest ih =>
    rw [List.foldl_cons, ih]
    by_cases later : (field, value) ∈ rest
    · simp [later]
    · simp [later, changes, Function.update_apply, indexKey_inj, Prod.ext_iff]

section

variable (store : MemoryStore)

include store

variable (doc : AuthorizationContext)

@[simp]
theorem put_indices : (store.put doc).indices = store.indices :=
  rfl

theorem updateIndices_indices (field : IndexField) (value : String) :
    (store.updateIndices doc).indices (indexKey field value) =
      if doc.Carries field value then some doc.sessionID
      else store.indices (indexKey field value) :=
  @foldl_indices (index · · doc.sessionID) _ (fun _ _ => rfl) _ _ _ _

theorem deleteIndices_indices (field : IndexField) (value : String) :
    (store.deleteIndices doc).indices (indexKey field value) =
      if doc.Carries field value then none else store.indices (indexKey field value) :=
  foldl_indices (fun _ _ => rfl) _ _ _ _

theorem unindex_indices (key field : IndexField) (handle value : String) :
    (store.unindex (indexKey key handle)).indices (indexKey field value) =
      if field = key ∧ value = handle then none else store.indices (indexKey field value) := by
  simp [unindex, Function.update_apply, indexKey_inj]

/-- The handle of an issuer state goes with the entries of its document. -/
theorem unindex_deleteIndices_indices {doc : AuthorizationContext}
    (named : doc.issuerState ≠ "") (field : IndexField) (value : String) :
    ((store.deleteIndices doc).unindex (indexKey .issuerState doc.issuerState)).indices
        (indexKey field value) =
      if doc.Carries field value then none else store.indices (indexKey field value) := by
  rw [unindex_indices, deleteIndices_indices]
  by_cases handle : field = .issuerState ∧ value = doc.issuerState
  · obtain ⟨rfl, rfl⟩ := handle
    rw [if_pos ⟨rfl, rfl⟩, if_pos ((doc.carries_iff _ _).mpr ⟨named, rfl⟩)]
  · rw [if_neg handle]

end

/-! ## Keeping the indices exact -/

variable {store next : MemoryStore}

/-- The general rule.  The document of one session is written; its values lead
to it, and no others that the replaced document carried lead anywhere. -/
theorem IndexExact.write (exact : store.IndexExact) (unique : store.UniqueValues)
    (uniqueAfter : next.UniqueValues) {old : Option AuthorizationContext}
    {new : AuthorizationContext} (stored : store.cache new.sessionID = old)
    (cache : next.cache = Change.apply store.cache (.write new))
    (indices : ∀ field value, next.indices (indexKey field value) =
      if new.Carries field value then some new.sessionID
      else if ∃ doc, old = some doc ∧ doc.Carries field value then none
      else store.indices (indexKey field value)) :
    next.IndexExact := by
  have written : next.cache new.sessionID = some new := by
    rw [cache, Change.apply, Function.update_self]
  have others {id : String} (other : id ≠ new.sessionID) : next.cache id = store.cache id := by
    rw [cache, Change.apply, Function.update_of_ne other]
  intro field value id
  rw [indices]
  split_ifs with newCarries oldCarries
  · constructor
    · rintro ⟨⟩
      exact ⟨new, written, newCarries⟩
    · rintro ⟨doc, present, carries⟩
      rw [uniqueAfter _ _ id _ doc new present written carries newCarries]
  · refine iff_of_false (by simp) ?_
    rintro ⟨doc, present, carries⟩
    obtain ⟨replaced, rfl, replacedCarries⟩ := oldCarries
    by_cases same : id = new.sessionID
    · subst same
      rw [written] at present
      cases present
      exact newCarries carries
    · rw [others same] at present
      exact same (unique _ _ id _ doc _ present stored carries replacedCarries)
  · rw [exact]
    by_cases same : id = new.sessionID
    · subst same
      refine iff_of_false ?_ ?_
      · rintro ⟨doc, present, carries⟩
        exact oldCarries ⟨doc, stored ▸ present, carries⟩
      · rintro ⟨doc, present, carries⟩
        rw [written] at present
        cases present
        exact newCarries carries
    · rw [others same]

variable {old new : AuthorizationContext}

section

variable (exact : store.IndexExact)

include exact

section

variable (unique : store.UniqueValues)

include unique

/-- The old entries go, the document is written, the new entries come. -/
theorem IndexExact.replace (stored : store.cache new.sessionID = some old)
    (uniqueAfter : (((store.deleteIndices old).put new).updateIndices new).UniqueValues) :
    (((store.deleteIndices old).put new).updateIndices new).IndexExact := by
  refine exact.write unique uniqueAfter stored (by simp) fun field value => ?_
  simp [updateIndices_indices, deleteIndices_indices]

/-- Writing a document and only adding entries is exact precisely when no
searchable value of the replaced document is lost. -/
theorem IndexExact.append_iff {new : AuthorizationContext}
    (uniqueAfter : ((store.put new).updateIndices new).UniqueValues) :
    ((store.put new).updateIndices new).IndexExact ↔
      ∀ old, store.cache new.sessionID = some old → old.Retained new := by
  constructor
  · intro exactAfter old stored field value carries
    by_contra lost
    have entry : ((store.put new).updateIndices new).indices (indexKey field value) =
        some new.sessionID := by
      rw [updateIndices_indices, if_neg lost]
      exact (exact field _ _).mpr ⟨old, stored, carries⟩
    obtain ⟨doc, present, docCarries⟩ := (exactAfter field value new.sessionID).mp entry
    rw [updateIndices_cache, put_cache, Change.apply, Function.update_self] at present
    cases present
    exact lost docCarries
  · intro retained
    have stored : store.cache new.sessionID = store.cache new.sessionID := rfl
    refine exact.write unique uniqueAfter stored (by simp) fun field value => ?_
    rw [updateIndices_indices]
    split_ifs with newCarries oldCarries
    · rfl
    · obtain ⟨old, stored, carries⟩ := oldCarries
      exact absurd (retained old stored _ _ carries) newCarries
    · rfl

/-- A write that leaves the searchable values alone needs no work on the
indices. -/
theorem IndexExact.put (stored : store.cache new.sessionID = some old)
    (same : new.indexEntries = old.indexEntries)
    (uniqueAfter : (store.put new).UniqueValues) : (store.put new).IndexExact := by
  refine exact.write unique uniqueAfter stored rfl fun field value => ?_
  have carriesIff : new.Carries field value ↔ old.Carries field value := by
    rw [AuthorizationContext.Carries, AuthorizationContext.Carries, same]
  split_ifs with newCarries oldCarries
  · exact (exact field _ _).mpr ⟨old, stored, carriesIff.mp newCarries⟩
  · obtain ⟨_, ⟨⟩, carries⟩ := oldCarries
    exact absurd (carriesIff.mpr carries) newCarries
  · rfl

/-- The same when the unchanged entries are written again. -/
theorem IndexExact.putAgain (stored : store.cache new.sessionID = some old)
    (same : new.indexEntries = old.indexEntries)
    (uniqueAfter : ((store.put new).updateIndices new).UniqueValues) :
    ((store.put new).updateIndices new).IndexExact := by
  refine (exact.append_iff unique uniqueAfter).mpr fun other found field value carries => ?_
  rw [stored] at found
  cases found
  rw [AuthorizationContext.Carries, same]
  exact carries

/-- The entries of a removed document go with it. -/
theorem IndexExact.drop {id : String} (stored : store.cache id = some old) :
    ((store.deleteIndices old).drop id).IndexExact := by
  intro field value other
  have indices : ((store.deleteIndices old).drop id).indices (indexKey field value) =
      if old.Carries field value then none else store.indices (indexKey field value) :=
    deleteIndices_indices store old field value
  rw [indices, drop_cache, deleteIndices_cache, Change.apply, Function.update_apply]
  by_cases same : other = id
  · subst same
    rw [if_pos rfl]
    split_ifs with carries
    · simp
    · rw [exact, stored]
      simpa using carries
  · split_ifs with carries
    · refine iff_of_false (by simp) ?_
      rintro ⟨doc, present, docCarries⟩
      exact same (unique _ _ _ id doc old present stored docCarries carries)
    · exact exact field _ _

end

theorem IndexExact.dropAbsent {id : String}
    (absent : store.cache id = none) : (store.drop id).IndexExact := by
  have unchanged : (store.drop id).cache = store.cache := by
    rw [drop_cache, Change.apply, ← absent, Function.update_eq_self]
  intro field value other
  simp only [unchanged]
  exact exact field _ _

end

/-! ## One operation -/

/-- What an operation must meet so that the indices stay exact: `Save` and
`AddToken` must not lose a searchable value of the document they rewrite. -/
def Retires (store : MemoryStore) : StoreCall → Prop
  | .save doc _ => doc.sessionID ≠ "" → doc.validate →
      ∀ old, store.cache doc.sessionID = some old → old.Retained doc
  | .addToken code token => code ≠ "" →
      ∀ doc, store.byIndex .code code = some doc → doc.Retained (doc.grant token)
  | _ => True

/-- The calls that write a document and leave the entries of its last version. -/
def Appends : StoreCall → Prop
  | .save _ _ => True
  | .addToken _ _ => True
  | _ => False

/-- What a call can do to the store. -/
inductive Effect (store : MemoryStore) (call : StoreCall) : MemoryStore → Prop
  | refl : Effect store call store
  | append (doc : AuthorizationContext) (appends : Appends call) :
      Effect store call ((store.put doc).updateIndices doc)
  | put {old new : AuthorizationContext} (stored : store.cache old.sessionID = some old)
      (sameID : new.sessionID = old.sessionID) (same : new.indexEntries = old.indexEntries) :
      Effect store call (store.put new)
  | putAgain {old new : AuthorizationContext} (stored : store.cache old.sessionID = some old)
      (sameID : new.sessionID = old.sessionID) (same : new.indexEntries = old.indexEntries) :
      Effect store call ((store.put new).updateIndices new)
  | replace {old new : AuthorizationContext} (stored : store.cache new.sessionID = some old) :
      Effect store call (((store.deleteIndices old).put new).updateIndices new)
  | drop {id : String} {old : AuthorizationContext} (stored : store.cache id = some old) :
      Effect store call ((store.deleteIndices old).drop id)
  | dropAbsent {id : String} (absent : store.cache id = none) : Effect store call (store.drop id)
  | unindex {field : IndexField} {value id : String}
      (leads : store.indices (indexKey field value) = some id) (absent : store.cache id = none) :
      Effect store call (store.unindex (indexKey field value))
  | releaseAuthSession {doc : AuthorizationContext} (named : doc.authSession ≠ "")
      (stored : store.cache doc.sessionID = some doc) :
      Effect store call ((store.unindex (indexKey .authSession doc.authSession)).put
        doc.releaseAuthSession)
  | claimIssuerState {doc opened : AuthorizationContext} (named : doc.issuerState ≠ "")
      (stored : store.cache opened.releaseIssuerState.sessionID = some doc) :
      Effect store call ((((store.deleteIndices doc).unindex
        (indexKey .issuerState doc.issuerState)).put opened.releaseIssuerState).updateIndices
          opened.releaseIssuerState)

variable {call : StoreCall}

/-- A method that may refuse before it does anything. -/
theorem Effect.guard {α : Type} {condition : Prop} [Decidable condition]
    {error : StoreError} {outcome : Outcome α}
    (rest : ¬ condition → Effect store call outcome.2) :
    Effect store call (if condition then store.fail error else outcome).2 := by
  by_cases holds : condition
  · rw [if_pos holds]
    exact .refl
  · rw [if_neg holds]
    exact rest holds

/-- A method that works on a document if it finds one. -/
theorem Effect.onFound {α : Type} {found : Option AuthorizationContext}
    {error : StoreError} {method : AuthorizationContext → Outcome α}
    (rest : ∀ doc, found = some doc → Effect store call (method doc).2) :
    Effect store call (match found with
      | none => store.fail error
      | some doc => method doc).2 := by
  cases found with
  | none => exact .refl
  | some doc => exact rest doc rfl

/-- The inversion of a call. -/
theorem execute_effect (store : MemoryStore) (call : StoreCall) :
    Effect store call (execute call store).2 := by
  -- a document found under a session's own name carries that name
  have own {id : String} {doc : AuthorizationContext} (stored : store.cache id = some doc) :
      store.cache doc.sessionID = some doc := (store.keyed stored).symm ▸ stored
  cases call with
  | save doc now => exact .guard fun _ => .guard fun _ => .append _ trivial
  | update doc => exact .guard fun _ => .guard fun _ => .onFound fun _ stored => .replace stored
  | delete id =>
    refine .guard fun _ => ?_
    cases stored : store.cache id with
    | none => exact .dropAbsent stored
    | some old => exact .drop stored
  | forfeitAuthorizationCode query =>
    have forfeits {field : IndexField} {value : String} : Effect store
        (.forfeitAuthorizationCode query) (store.forfeitFound (store.byIndex field value)).2 :=
      .onFound fun _ found => .guard fun _ => .putAgain (byIndex_sound found) rfl rfl
    simp only [execute, forfeitAuthorizationCode]
    split_ifs
    · exact forfeits
    · exact forfeits
    · exact .refl
  | markCodeAsForfeited id =>
    exact .guard fun _ => .onFound fun _ stored => .guard fun _ => .put (own stored) rfl rfl
  | redeemPreAuthorizedCode code dpopThumbprint =>
    exact .guard fun _ => .guard fun _ => .guard fun _ => .onFound fun _ found =>
      .guard fun _ => .guard fun _ => .guard fun _ => .put (byIndex_sound found) rfl rfl
  | consumeTXCodeAttempt code =>
    refine .guard fun _ => .onFound fun doc found => .guard fun _ => ?_
    split_ifs
    · exact .put (byIndex_sound found) rfl rfl
    · exact .put (byIndex_sound found) rfl rfl
  | consent query =>
    exact .guard fun _ => .onFound fun _ found => .putAgain (byIndex_sound found) rfl rfl
  | extendExpiry query expiresAt =>
    simp only [execute, extendExpiry]
    cases found : store.get query with
    | error error => exact .refl
    | ok doc =>
      simp only
      split_ifs
      · exact .refl
      · exact .putAgain (get_sound found) rfl rfl
  | addToken code token => exact .guard fun _ => .onFound fun _ _ => .append _ trivial
  | rotateRefreshToken oldToken updated =>
    refine .guard fun _ => .guard fun _ => ?_
    cases store.indices (indexKey .refreshToken oldToken) with
    | none => exact .refl
    | some id =>
      refine .guard fun same => ?_
      obtain rfl : updated.sessionID = id := not_not.mp same
      exact .onFound fun _ stored => .guard fun _ => .replace stored
  | setIdentifier query identifier | setAuthenticSource query authenticSource =>
    exact .guard fun _ => .guard fun _ => .onFound fun _ stored => .put (own stored) rfl rfl
  | setAuthProvider sessionID fields =>
    exact .guard fun _ => .onFound fun _ stored => .putAgain (own stored) rfl rfl
  | claimAuthSession authSession =>
    refine .guard fun named => ?_
    cases leads : store.indices (indexKey .authSession authSession) with
    | none => exact .refl
    | some id =>
      cases stored : store.cache id with
      | none =>
        simp only [stored]
        exact .unindex leads stored
      | some doc =>
        simp only [stored]
        refine .guard fun held => ?_
        obtain rfl : doc.authSession = authSession := not_not.mp held
        exact .releaseAuthSession named (own stored)
  | claimIssuerState issuerState opened =>
    refine .guard fun named => .guard fun _ => .guard fun _ => ?_
    cases leads : store.indices (indexKey .issuerState issuerState) with
    | none => exact .refl
    | some id =>
      refine .guard fun same => ?_
      obtain rfl : id = opened.sessionID := not_not.mp same
      cases stored : store.cache opened.sessionID with
      | none => exact .unindex leads stored
      | some doc =>
        refine .guard fun held => ?_
        obtain rfl : doc.issuerState = issuerState := not_not.mp held
        exact .claimIssuerState named stored
  | resumeIssuerState issuerState resume =>
    refine .guard fun _ => ?_
    cases leads : store.indices (indexKey .issuerState issuerState) with
    | none => exact .refl
    | some id =>
      cases stored : store.cache id with
      | none =>
        simp only [stored]
        exact .unindex leads stored
      | some doc =>
        simp only [stored]
        exact .guard fun _ => .replace (own stored)
  | _ => exact .refl

section Operations

variable (exact : store.IndexExact) (unique : store.UniqueValues)

include exact unique

theorem save_exact_iff (doc : AuthorizationContext) (now : Time)
    (uniqueAfter : (store.save doc now).2.UniqueValues) :
    (store.save doc now).2.IndexExact ↔ store.Retires (.save doc now) := by
  simp only [save, Retires] at uniqueAfter ⊢
  by_cases unnamed : doc.sessionID = ""
  · simpa [unnamed, fail] using exact
  · by_cases invalid : !doc.validate
    · simp only [unnamed, invalid]
      exact iff_of_true exact (by simp_all)
    · rw [if_neg unnamed, if_neg invalid] at uniqueAfter ⊢
      rw [exact.append_iff unique uniqueAfter]
      have valid : doc.validate := by simpa using invalid
      exact ⟨fun retained _ _ => retained, fun retained => retained unnamed valid⟩

theorem addToken_exact_iff (code : String) (token : Option Token)
    (uniqueAfter : (store.addToken code token).2.UniqueValues) :
    (store.addToken code token).2.IndexExact ↔ store.Retires (.addToken code token) := by
  simp only [addToken, Retires] at uniqueAfter ⊢
  by_cases empty : code = ""
  · simpa [empty, fail] using exact
  · simp only [empty, if_false] at uniqueAfter ⊢
    cases found : store.byIndex .code code with
    | none => simpa [fail] using exact
    | some doc =>
      simp only [found] at uniqueAfter
      rw [exact.append_iff unique uniqueAfter]
      have stored : store.cache (doc.grant token).sessionID = some doc := byIndex_sound found
      simp [stored, empty]

theorem IndexExact.releaseAuthSession {doc : AuthorizationContext} (named : doc.authSession ≠ "")
    (stored : store.cache doc.sessionID = some doc)
    (uniqueAfter : ((store.unindex (indexKey .authSession doc.authSession)).put
      doc.releaseAuthSession).UniqueValues) :
    ((store.unindex (indexKey .authSession doc.authSession)).put
      doc.releaseAuthSession).IndexExact := by
  have replaced : store.cache doc.releaseAuthSession.sessionID = some doc := stored
  refine exact.write unique uniqueAfter replaced rfl fun field value => ?_
  have released : doc.releaseAuthSession.Carries field value ↔
      doc.Carries field value ∧ field ≠ .authSession := by
    cases field <;> simp [AuthorizationContext.carries_iff,
      AuthorizationContext.releaseAuthSession, AuthorizationContext.tokenText]
  rw [put_indices, unindex_indices]
  by_cases handle : field = .authSession ∧ value = doc.authSession
  · obtain ⟨rfl, rfl⟩ := handle
    simp [released, AuthorizationContext.carries_iff, named]
  · split_ifs with kept lost
    · exact (exact field _ _).mpr ⟨doc, replaced, (released.mp kept).1⟩
    · obtain ⟨_, ⟨⟩, carries⟩ := lost
      have handled : field = .authSession := by
        by_contra other
        exact kept (released.mpr ⟨carries, other⟩)
      subst handled
      exact absurd ⟨rfl, ((doc.carries_iff _ _).mp carries).2⟩ handle
    · rfl

/-- An effect other than of the calls that only append keeps the indices exact. -/
theorem Effect.indexExact {after : MemoryStore}
    (effect : Effect store call after) (retires : ¬ Appends call)
    (uniqueAfter : after.UniqueValues) : after.IndexExact := by
  cases effect with
  | refl => exact exact
  | append doc appends => exact absurd appends retires
  | put stored sameID same => exact exact.put unique (sameID ▸ stored) same uniqueAfter
  | putAgain stored sameID same => exact exact.putAgain unique (sameID ▸ stored) same uniqueAfter
  | replace stored => exact exact.replace unique stored uniqueAfter
  | drop stored => exact exact.drop unique stored
  | dropAbsent absent => exact exact.dropAbsent absent
  | unindex leads absent =>
    -- an exact index never leads to a session that is not stored
    obtain ⟨doc, stored, _⟩ := (exact _ _ _).mp leads
    exact nomatch absent.symm.trans stored
  | releaseAuthSession named stored =>
    exact exact.releaseAuthSession unique named stored uniqueAfter
  | claimIssuerState named stored =>
    refine exact.write unique uniqueAfter stored (by simp) fun field value => ?_
    rw [updateIndices_indices, put_indices, unindex_deleteIndices_indices _ named]
    simp

/-- The step lemma: an operation keeps the indices exact precisely when it
retires no searchable value without its entry. -/
theorem execute_exact_iff (call : StoreCall) (uniqueAfter : (execute call store).2.UniqueValues) :
    (execute call store).2.IndexExact ↔ store.Retires call := by
  cases call with
  | save doc now => exact save_exact_iff exact unique doc now uniqueAfter
  | addToken code token => exact addToken_exact_iff exact unique _ _ uniqueAfter
  | _ => exact iff_of_true ((execute_effect _ _).indexExact exact unique id uniqueAfter) trivial

end Operations

/-! ## Lookups -/

variable {field : IndexField} {doc : AuthorizationContext} {value : String}

theorem carries_of_byIndex (exact : store.IndexExact)
    (found : store.byIndex field value = some doc) :
    doc.Carries field value := by
  obtain ⟨id, entry, stored⟩ := Option.bind_eq_some_iff.mp found
  obtain ⟨other, present, carries⟩ := (exact field value id).mp entry
  rw [stored] at present
  cases present
  exact carries

theorem carries_of_getByIndex (exact : store.IndexExact) {emptyMessage : String}
    (found : store.getByIndex field value emptyMessage = .ok doc) :
    doc.Carries field value := by
  rw [getByIndex] at found
  split_ifs at found
  cases lookup : store.byIndex field value with
  | none => simp [lookup] at found
  | some other =>
    rw [lookup] at found
    cases found
    exact carries_of_byIndex exact lookup

/-- A query without a session id is answered by its first member that is set. -/
theorem get_of_field {query : AuthorizationContext} (unnamed : query.sessionID = "")
    (first : (queryFields query).find? (fun entry => entry.2 ≠ "") = some (field, value)) :
    (store.get query).toOption = store.byIndex field value := by
  simp only [get, resolveSessionID, unnamed, first, ne_eq, not_true_eq_false, if_false, byIndex]
  cases store.indices (indexKey field value) with
  | none => rfl
  | some id =>
    simp only [Option.bind_some]
    cases store.cache id <;> rfl

/-- With exact indices no lookup returns a document that has lost the value. -/
theorem IndexExact.lookupsCurrent (exact : store.IndexExact) : store.LookupsCurrent where
  query := by
    intro query doc field value unnamed first found
    have search : store.byIndex field value = some doc := by
      rw [← get_of_field unnamed first, found]
      rfl
    exact carries_of_byIndex exact search
  code _ _ := carries_of_getByIndex exact
  accessToken _ _ := carries_of_getByIndex exact
  legacyAccessToken _ _ := carries_of_getByIndex exact
  refreshToken _ _ := carries_of_getByIndex exact

theorem empty_exact : MemoryStore.empty.IndexExact := by
  intro field value id
  simp [empty]

/-- The callback for a deleted document keeps the indices exact precisely when
no live document has taken over one of its values. -/
theorem deleteIndices_exact_iff (exact : store.IndexExact) (doc : AuthorizationContext) :
    (store.deleteIndices doc).IndexExact ↔
      ∀ field value, doc.Carries field value →
        ∀ id other, store.cache id = some other → ¬ other.Carries field value := by
  constructor
  · intro exactAfter field value carries id other stored otherCarries
    have entry := (exactAfter field value id).mpr
      ⟨other, by rw [deleteIndices_cache, stored], otherCarries⟩
    rw [deleteIndices_indices, if_pos carries] at entry
    contradiction
  · intro dead field value id
    rw [deleteIndices_indices, deleteIndices_cache]
    split_ifs with carries
    · refine iff_of_false (by simp) ?_
      rintro ⟨other, stored, otherCarries⟩
      exact dead _ _ carries id _ stored otherCarries
    · exact exact field _ id

/-! ## Every sequence of operations -/

/-- The document that an operation evicts from the cache. -/
def evicts (store : MemoryStore) : StoreCall → Option AuthorizationContext
  | .delete id => if id = "" then none else store.cache id
  | _ => none

/-- A store with the evicted documents whose callback has not run yet. -/
structure Tracked where
  store : MemoryStore
  evicted : List AuthorizationContext

/-- An operation of the store, or the callback for one evicted document, which
the cache starts on its own and which runs at some later time. -/
inductive Event where
  | call (request : StoreCall)
  | callback (position : Nat)

namespace Tracked

/-- The new store. -/
def initial : Tracked := ⟨.empty, []⟩

/-- The effect of one event. -/
def step (tracked : Tracked) : Event → Tracked
  | .call request =>
    { store := (execute request tracked.store).2
      evicted := tracked.evicted ++ (tracked.store.evicts request).toList }
  | .callback position =>
    match tracked.evicted[position]? with
    | none => tracked
    | some doc =>
      { store := tracked.store.deleteIndices doc
        evicted := tracked.evicted.eraseIdx position }

/-- What an event must meet so that the indices stay exact. -/
def Retires (tracked : Tracked) : Event → Prop
  | .call request => tracked.store.Retires request
  | .callback position => ∀ doc, tracked.evicted[position]? = some doc →
      ∀ field value, doc.Carries field value →
        ∀ id other, tracked.store.cache id = some other → ¬ other.Carries field value

/-- Exact indices, and lookups that only return documents that carry the value. -/
def Exact (tracked : Tracked) : Prop :=
  tracked.store.IndexExact ∧ tracked.store.LookupsCurrent

theorem step_exact_iff (tracked : Tracked) (event : Event)
    (unique : tracked.store.UniqueValues) (uniqueAfter : (tracked.step event).store.UniqueValues)
    (exact : tracked.Exact) : (tracked.step event).Exact ↔ tracked.Retires event := by
  have current : (tracked.step event).Exact ↔ (tracked.step event).store.IndexExact :=
    ⟨And.left, fun exactAfter => ⟨exactAfter, exactAfter.lookupsCurrent⟩⟩
  rw [current]
  cases event with
  | call request => exact execute_exact_iff exact.1 unique _ uniqueAfter
  | callback position =>
    simp only [step, Retires]
    cases tracked.evicted[position]? with
    | none => exact iff_of_true exact.1 (by simp)
    | some doc => simpa using deleteIndices_exact_iff exact.1 doc

end Tracked

end MemoryStore

open MemoryStore in
/-- Along every sequence of operations and callbacks in which searchable values
stay unique, the indices are exact in all states precisely when every event
retires values together with their entries. -/
theorem indices_exact_iff_every_event_retires (events : List Event)
    (unique : Trace.Throughout Tracked.step (fun tracked => tracked.store.UniqueValues)
      Tracked.initial events) :
    Trace.Throughout Tracked.step Tracked.Exact Tracked.initial events ↔
      Trace.EveryStep Tracked.step Tracked.Retires Tracked.initial events :=
  Trace.throughout_iff_everyStep Tracked.step_exact_iff
    ⟨empty_exact, empty_exact.lookupsCurrent⟩ unique

section Saves

open MemoryStore AuthorizationContext

/-- The store holds no session beside this one. -/
def MemoryStore.Only (store : MemoryStore) (id : String) : Prop :=
  ∀ other, other ≠ id → store.cache other = none

variable {store : MemoryStore}

theorem MemoryStore.Only.uniqueValues {id : String}
    (only : store.Only id) : store.UniqueValues := by
  intro field value first second doc other stored storedOther _ _
  have known {session : String} {found : AuthorizationContext}
      (present : store.cache session = some found) : session = id := by
    by_contra different
    rw [only session different] at present
    contradiction
  rw [known stored, known storedOther]

theorem MemoryStore.Only.save (doc : AuthorizationContext)
    (only : store.Only doc.sessionID) (now : Time) :
    (store.save doc now).2.Only doc.sessionID := by
  intro other different
  rw [MemoryStore.save]
  split_ifs
  · exact only other different
  · exact only other different
  · have elsewhere : other ≠ (doc.createAt (store.anchor doc now)).sessionID := different
    simp only [updateIndices_cache, put_cache, Change.apply]
    rw [Function.update_of_ne elsewhere]
    exact only other different

theorem saves_unique (first second : AuthorizationContext)
    (same : first.sessionID = second.sessionID) :
    Trace.Throughout Tracked.step (fun tracked => tracked.store.UniqueValues)
      Tracked.initial [.call (.save first 1), .call (.save second 1)] := by
  have start : Tracked.initial.store.Only first.sessionID := fun _ _ => rfl
  have once := Only.save first start 1
  have twice := Only.save second (same ▸ once) 1
  exact ⟨start.uniqueValues, once.uniqueValues, twice.uniqueValues⟩

/-- A second save that keeps the code and adds a refresh token. -/
theorem indices_exact_after_growing_save :
    Trace.Throughout Tracked.step Tracked.Exact Tracked.initial
      [.call (.save { sessionID := "s", code := "a" } 1),
        .call (.save { sessionID := "s", code := "a", refreshToken := "r" } 1)] := by
  have unique := saves_unique { sessionID := "s", code := "a" }
    { sessionID := "s", code := "a", refreshToken := "r" } rfl
  refine (indices_exact_iff_every_event_retires _ unique).mpr
    ⟨fun _ _ _ missing => (nomatch missing), fun _ _ old stored => ?_, trivial⟩
  obtain rfl : old = { sessionID := "s", code := "a", createdAt := 1 } :=
    (Option.some.inj stored).symm
  intro field value
  cases field <;> simp [carries_iff, tokenText]

/-- A session that is saved a second time, under a new code. -/
def resaved : List Event :=
  [.call (.save { sessionID := "s", code := "a" } 1),
    .call (.save { sessionID := "s", code := "b" } 1)]

/-- After the second save the entry of the first code still leads to the
session, whose document no longer carries that code. -/
theorem resaved_leaves_stale_entry :
    Trace.Throughout Tracked.step (fun tracked => tracked.store.UniqueValues)
        Tracked.initial resaved ∧
      ¬ Trace.Throughout Tracked.step Tracked.Exact Tracked.initial resaved := by
  refine ⟨saves_unique _ _ rfl, ?_⟩
  rintro ⟨_, _, exactAfter, _⟩
  obtain ⟨doc, stored, carries⟩ := (exactAfter .code "a" "s").mp rfl
  obtain rfl : doc = { sessionID := "s", code := "b", createdAt := 1 } :=
    (Option.some.inj stored).symm
  revert carries
  decide

end Saves

end Vc.Cache
