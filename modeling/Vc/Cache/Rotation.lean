import Vc.Cache.Resolution

/-!
# Rotating refresh tokens

A refresh token is exchanged for another by `RotateRefreshToken`, a
compare-and-swap on the document of a session.  Looking a token up does not
compare: the in-memory store follows an index entry.  `ContractStore.Live` says
that refresh tokens lead only to documents that carry them; a rotation keeps it
because the entry of the old token is removed with the rest of the document's
entries.
-/

namespace Vc.Cache

open Concurrent AuthorizationContext Option

/-- Every refresh token that leads to a document is carried by it. -/
def ContractStore.Live {σ : Type} (store : ContractStore σ) (state : σ) : Prop :=
  ∀ token doc, token ≠ "" → (store.reading state).byField .refreshToken token = some doc →
    doc.refreshToken = token

/-- A store that rotates refresh tokens. -/
structure RotatingStore (σ : Type) extends ResolvedStore σ where
  bySession_refreshToken : ∀ {state id token doc}, token ≠ "" →
    (reading state).bySession id .refreshToken token = some doc → doc.refreshToken = token
  live_lookup : ∀ {state} (token), toContractStore.Live state →
    toContractStore.Live (execute (.getByRefreshToken token) state).2
  live_rotate : ∀ {state} (oldToken updated), toContractStore.Live state →
    toContractStore.Live (execute (.rotateRefreshToken oldToken updated) state).2

theorem AuthorizationContext.carries_refreshToken {doc : AuthorizationContext} {token : String}
    (named : token ≠ "") : doc.Carries .refreshToken token ↔ doc.refreshToken = token := by
  simp [carries_iff, named, eq_comm]

/-! ## The in-memory store -/

namespace MemoryStore

variable {store : MemoryStore}

theorem live_iff : contract.Live store ↔
    ∀ token id doc, token ≠ "" → store.indices (indexKey .refreshToken token) = some id →
      store.cache id = some doc → doc.refreshToken = token := by
  constructor
  · intro live token id doc named entry stored
    refine live _ doc named ?_
    exact (congrArg (bind · store.cache) entry).trans stored
  · intro live token doc named found
    obtain ⟨id, entry, stored⟩ := bind_eq_some_iff.mp found
    exact live _ id doc named entry stored

/-- What a rotation that succeeds does to the cache and to the entries of refresh tokens. -/
theorem rotateRefreshToken_cases (oldToken : String) (updated : AuthorizationContext) :
    (store.rotateRefreshToken oldToken updated).2 = store ∨
      ∃ doc, oldToken ≠ "" ∧ store.cache updated.sessionID = some doc ∧
        doc.refreshToken = oldToken ∧
        (store.rotateRefreshToken oldToken updated).2 =
          ((store.deleteIndices doc).put updated).updateIndices updated := by
  rw [rotateRefreshToken]
  split_ifs with unnamed anonymous
  · exact .inl rfl
  · exact .inl rfl
  · split
    · exact .inl rfl
    · split_ifs with different
      · exact .inl rfl
      · rw [not_not] at different
        subst different
        split
        · exact .inl rfl
        · next doc stored =>
            split_ifs with other
            · exact .inl rfl
            · exact .inr ⟨doc, unnamed, stored, not_not.mp other, rfl⟩

theorem rotateRefreshToken_live {oldToken : String} {updated : AuthorizationContext}
    (live : contract.Live store) :
    contract.Live (store.rotateRefreshToken oldToken updated).2 := by
  rcases store.rotateRefreshToken_cases _ _ with same | ⟨doc, named, stored, held, next⟩
  · rwa [same]
  · rw [next, live_iff]
    rw [live_iff] at live
    intro token id found nonempty entry present
    rw [updateIndices_indices, put_indices, deleteIndices_indices] at entry
    rw [updateIndices_cache, put_cache, deleteIndices_cache, Change.apply,
      Function.update_apply] at present
    simp only [carries_refreshToken nonempty] at entry
    split_ifs at present with same
    · -- an entry that led to the session before is the entry of the old token
      cases present
      split_ifs at entry with carries heldHere
      · exact carries
      · subst same
        exact absurd (live _ _ doc nonempty entry stored) heldHere
    · split_ifs at entry with carries heldHere
      · exact absurd (some.inj entry).symm same
      · exact live _ id _ nonempty entry present

/-- The in-memory store rotates refresh tokens. -/
def rotating : RotatingStore MemoryStore where
  toResolvedStore := resolved
  bySession_refreshToken := by
    intro store id token doc named found
    simp only [resolved, contract, reading] at found
    split_ifs at found
    have carries := (filter_eq_some_iff.mp found).2
    exact (carries_refreshToken named).mp (of_decide_eq_true carries)
  live_lookup := by
    intro store token live
    exact live
  live_rotate := by
    intro store oldToken updated live
    exact rotateRefreshToken_live live

end MemoryStore

/-! ## The MongoDB store -/

namespace MongoStore

/-- A search by refresh token finds a document that carries it. -/
theorem live (bson : Bson) (database : Database) : (contract bson).Live database := by
  intro token doc named hit
  obtain ⟨record, search, rfl⟩ := map_eq_some_iff.mp hit
  have accepted := (Collection.lookup_of_findOne search).2
  exact (carries_refreshToken named).mp ((record.has_iff_carries named).mp accepted)

/-- The MongoDB store rotates refresh tokens. -/
def rotating (bson : Bson) : RotatingStore Database where
  toResolvedStore := resolved bson
  bySession_refreshToken := by
    intro database id token doc named hit
    obtain ⟨record, search, rfl⟩ := map_eq_some_iff.mp hit
    have accepted := (Collection.lookup_of_findOne search).2
    simp only [Bool.and_eq_true] at accepted
    exact (carries_refreshToken named).mp
      ((record.has_iff_carries named).mp accepted.2)
  live_lookup _ _ := live bson _
  live_rotate _ _ _ := live bson _

end MongoStore

/-! ## One rotation -/

namespace RotatingStore

variable {σ : Type} (store : RotatingStore σ) (state : σ)

/-- A rotation either is refused, or replaces a document that carries the old token. -/
theorem decide_rotateRefreshToken (oldToken : String) (updated : AuthorizationContext) :
    (store.reading state).decide (.rotateRefreshToken oldToken updated) = refuse ∨
      ∃ held, oldToken ≠ "" ∧ store.documents state updated.sessionID = some held ∧
        held.refreshToken = oldToken ∧
        (store.reading state).decide (.rotateRefreshToken oldToken updated) =
          write ((store.reading state).stored updated) := by
  simp only [Reading.decide]
  split_ifs with unnamed anonymous
  · exact .inl rfl
  · exact .inl rfl
  · cases found : (store.reading state).bySession updated.sessionID .refreshToken oldToken with
    | none => exact .inl rfl
    | some held =>
      exact .inr ⟨held, unnamed, ((store.sound _).bySession found).2,
        store.bySession_refreshToken unnamed found, rfl⟩

/-- A token leads only to a document that is stored and carries it. -/
theorem decide_getByRefreshToken (live : store.Live state) (token : String) :
    (store.reading state).decide (.getByRefreshToken token) = refuse ∨
      ∃ doc, token ≠ "" ∧ store.documents state doc.sessionID = some doc ∧
        doc.refreshToken = token ∧
        (store.reading state).decide (.getByRefreshToken token) = (.ok doc, .keep) := by
  simp only [Reading.decide]
  split_ifs with unnamed
  · exact .inl rfl
  · cases found : (store.reading state).byField .refreshToken token with
    | none => exact .inl rfl
    | some doc =>
      exact .inr ⟨doc, unnamed, (store.sound _).byField found, live _ doc unnamed found, rfl⟩

end RotatingStore

end Vc.Cache
