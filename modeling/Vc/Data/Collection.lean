import Mathlib

/-!
# Collections with a unique key

A collection of records under a unique index, as a document database keeps
them.  The records stand in the order in which a search meets them, and two
records never share a key.  Searches take a predicate; writes reach at most one
record.

Everything below the definitions is stated through `lookup`, the record under a
key: what a search finds is a looked-up record, and a write changes the lookup
at one key.
-/

namespace Vc

open List

variable {κ ρ : Type}

/-- Records in search order, no two of them under one key. -/
structure Collection (key : ρ → κ) where
  records : List ρ
  unique : (records.map key).Nodup

namespace Collection

/-- A change of one record that leaves its key alone. -/
structure Update (key : ρ → κ) where
  apply : ρ → ρ
  keyed : ∀ record, key (apply record) = key record

variable {key : ρ → κ}

/-- The collection without records. -/
def empty : Collection key := ⟨[], nodup_nil⟩

/-- The first record that the predicate accepts. -/
def findOne (collection : Collection key) (filter : ρ → Bool) : Option ρ :=
  collection.records.find? filter

/-- How many records the predicate accepts. -/
def countDocuments (collection : Collection key) (filter : ρ → Bool) : Nat :=
  collection.records.countP filter

variable [DecidableEq κ] (collection : Collection key)

/-- The record under a key. -/
def lookup (id : κ) : Option ρ :=
  collection.findOne fun record => key record = id

/-- Put a record under its key, in the place of the one that was there or
behind all others. -/
def write (record : ρ) : Collection key :=
  if present : key record ∈ collection.records.map key then
    { records := collection.records.map fun other =>
        if key other = key record then record else other
      unique := by
        have keys : (collection.records.map fun other =>
            if key other = key record then record else other).map key =
              collection.records.map key := by
          rw [map_map]
          refine map_congr_left fun other _ => ?_
          by_cases same : key other = key record <;> simp [same]
        rw [keys]
        exact collection.unique }
  else
    { records := collection.records ++ [record]
      unique := by
        rw [map_append, nodup_append]
        refine ⟨collection.unique, by simp, ?_⟩
        rintro id stored _ new rfl
        simp only [map_cons, map_nil, mem_singleton] at new
        exact present (new ▸ stored) }

/-- Add a record, unless its key is taken. -/
def insertOne (record : ρ) : Option (Collection key) :=
  match collection.lookup (key record) with
  | some _ => none
  | none => some (collection.write record)

/-- Remove the record under a key. -/
def erase (id : κ) : Collection key where
  records := collection.records.filter fun record => key record ≠ id
  unique := collection.unique.sublist (filter_sublist.map key)

/-- Change the first record that the predicate accepts. -/
def updateOne (filter : ρ → Bool) (update : Update key) : Collection key :=
  match collection.findOne filter with
  | none => collection
  | some record => collection.write (update.apply record)

/-- Remove the first record that the predicate accepts. -/
def deleteOne (filter : ρ → Bool) : Collection key :=
  match collection.findOne filter with
  | none => collection
  | some record => collection.erase (key record)

/-! ## Searches -/

variable {collection} {record : ρ} {id : κ} {filter : ρ → Bool}

@[simp]
theorem lookup_empty (id : κ) : (empty : Collection key).lookup id = none :=
  rfl

theorem key_of_lookup (found : collection.lookup id = some record) : key record = id := by
  have accepted := find?_some found
  simpa using accepted

theorem mem_of_lookup (found : collection.lookup id = some record) : record ∈ collection.records :=
  mem_of_find?_eq_some found

/-- A stored record is the one under its key. -/
theorem lookup_of_mem (stored : record ∈ collection.records) :
    collection.lookup (key record) = some record := by
  cases found : collection.lookup (key record) with
  | none =>
    have missing := find?_eq_none.mp found record stored
    simp at missing
  | some other =>
    rw [inj_on_of_nodup_map collection.unique (mem_of_lookup found) stored (key_of_lookup found)]

theorem lookup_eq_none_iff : collection.lookup id = none ↔ id ∉ collection.records.map key := by
  simp [lookup, findOne]

theorem findOne_eq_none_iff :
    collection.findOne filter = none ↔
      ∀ id record, collection.lookup id = some record → filter record = false := by
  constructor
  · intro missing id record found
    simpa using find?_eq_none.mp missing _ (mem_of_lookup found)
  · intro rejected
    refine find?_eq_none.mpr fun record stored => ?_
    simpa using rejected _ _ (lookup_of_mem stored)

/-- What a search finds is stored and accepted. -/
theorem lookup_of_findOne (found : collection.findOne filter = some record) :
    collection.lookup (key record) = some record ∧ filter record = true :=
  ⟨lookup_of_mem (mem_of_find?_eq_some found), find?_some found⟩

/-- A search that only one record can answer finds it. -/
theorem findOne_of_lookup (stored : collection.lookup id = some record)
    (accepted : filter record = true)
    (only : ∀ other result, collection.lookup other = some result → filter result = true →
      other = id) :
    collection.findOne filter = some record := by
  cases found : collection.findOne filter with
  | none =>
    have rejected := findOne_eq_none_iff.mp found id record stored
    rw [accepted] at rejected
    contradiction
  | some result =>
    obtain ⟨storedResult, acceptedResult⟩ := lookup_of_findOne found
    have same := only _ _ storedResult acceptedResult
    rw [same, stored] at storedResult
    exact storedResult.symm

/-- A search for a key under a further condition. -/
theorem findOne_key_and (collection : Collection key) (id : κ) (condition : ρ → Bool) :
    (collection.findOne fun record => key record = id && condition record) =
      (collection.lookup id).filter condition := by
  cases found : collection.lookup id with
  | none =>
    refine findOne_eq_none_iff.mpr fun other record stored => ?_
    have different : key record ≠ id := by
      rintro rfl
      rw [lookup_of_mem (mem_of_lookup stored)] at found
      contradiction
    simp [different]
  | some record =>
    rw [Option.filter_some]
    split_ifs with accepted
    · refine findOne_of_lookup found (by simp [key_of_lookup found, accepted]) ?_
      intro other result stored hit
      simp only [Bool.and_eq_true, decide_eq_true_eq] at hit
      exact (key_of_lookup stored).symm.trans hit.1
    · refine findOne_eq_none_iff.mpr fun other result stored => ?_
      by_cases same : key result = id
      · have equal : result = record := by
          rw [← same, lookup_of_mem (mem_of_lookup stored)] at found
          exact Option.some.inj found
        have refused : condition record = false := by simpa using accepted
        simp [equal, refused]
      · simp [same]

variable {condition : ρ → Bool}

omit [DecidableEq κ] in
/-- A stricter search that still accepts the first hit finds it. -/
theorem findOne_and (found : collection.findOne filter = some record)
    (accepted : condition record = true) :
    (collection.findOne fun other => filter other && condition other) = some record := by
  obtain ⟨filtered, before, after, split, rejected⟩ := find?_eq_some_iff_append.mp found
  refine find?_eq_some_iff_append.mpr ⟨by simp [filtered, accepted], before, after, split, ?_⟩
  intro other earlier
  simp_all

omit [DecidableEq κ] in
theorem countDocuments_eq_zero_iff :
    collection.countDocuments filter = 0 ↔ collection.findOne filter = none := by
  simp [countDocuments, findOne]

/-! ## Writes -/

theorem lookup_write (collection : Collection key) (record : ρ) (id : κ) :
    (collection.write record).lookup id =
      if id = key record then some record else collection.lookup id := by
  by_cases present : key record ∈ collection.records.map key
  · have records : (collection.write record).records = collection.records.map fun other =>
        if key other = key record then record else other := by
      simp only [write, dif_pos present]
    by_cases same : id = key record
    · subst same
      obtain ⟨old, stored, sameKey⟩ := mem_map.mp present
      rw [if_pos rfl]
      refine lookup_of_mem ?_
      rw [records]
      exact mem_map.mpr ⟨old, stored, by rw [if_pos sameKey]⟩
    · rw [if_neg same]
      cases found : collection.lookup id with
      | none =>
        rw [lookup_eq_none_iff] at found ⊢
        rw [records]
        rintro member
        obtain ⟨_, changed, keyed⟩ := mem_map.mp member
        obtain ⟨old, stored, rfl⟩ := mem_map.mp changed
        by_cases sameKey : key old = key record
        · rw [if_pos sameKey] at keyed
          exact same keyed.symm
        · rw [if_neg sameKey] at keyed
          exact found (mem_map.mpr ⟨old, stored, keyed⟩)
      | some old =>
        have keyed := key_of_lookup found
        rw [← keyed]
        refine lookup_of_mem ?_
        rw [records]
        refine mem_map.mpr ⟨old, mem_of_lookup found, ?_⟩
        rw [if_neg (keyed ▸ same)]
  · have records : (collection.write record).records = collection.records ++ [record] := by
      simp only [write, dif_neg present]
    simp only [lookup, findOne, records]
    by_cases same : id = key record
    · subst same
      have missing : collection.records.find? (fun other => key other = key record) = none :=
        lookup_eq_none_iff.mpr present
      simp [missing]
    · have different : ¬ key record = id := fun equal => same equal.symm
      simp [same, different]

/-- A record is added exactly if its key is free, and nothing else changes. -/
theorem insertOne_eq_some {added : Collection key}
    (done : collection.insertOne record = some added) :
    collection.lookup (key record) = none ∧
      ∀ id, added.lookup id = if id = key record then some record else collection.lookup id := by
  unfold insertOne at done
  split at done
  · cases done
  · next missing =>
    cases done
    exact ⟨missing, lookup_write _ _⟩

theorem lookup_erase (collection : Collection key) (erased id : κ) :
    (collection.erase erased).lookup id =
      if id = erased then none else collection.lookup id := by
  by_cases same : id = erased
  · rw [if_pos same, lookup_eq_none_iff]
    simp [erase, same]
  · rw [if_neg same]
    cases found : collection.lookup id with
    | none =>
      rw [lookup_eq_none_iff] at found ⊢
      intro member
      obtain ⟨record, kept, keyed⟩ := mem_map.mp member
      exact found (mem_map.mpr ⟨record, mem_of_mem_filter kept, keyed⟩)
    | some record =>
      have keyed := key_of_lookup found
      rw [← keyed]
      refine lookup_of_mem (mem_filter.mpr ⟨mem_of_lookup found, ?_⟩)
      simpa [keyed] using same

/-- Erasing the record under a key by a search for that key. -/
theorem lookup_deleteOne_key (collection : Collection key) (erased id : κ) :
    (collection.deleteOne fun record => key record = erased).lookup id =
      if id = erased then none else collection.lookup id := by
  cases found : collection.lookup erased with
  | none =>
    have same : (collection.deleteOne fun record => key record = erased) = collection := by
      rw [lookup] at found
      simp [deleteOne, found]
    rw [same]
    split_ifs with equal
    · rw [equal, found]
    · rfl
  | some record =>
    have erasure : (collection.deleteOne fun record => key record = erased) =
        collection.erase erased := by
      have keyed := key_of_lookup found
      rw [lookup] at found
      simp [deleteOne, found, keyed]
    rw [erasure, lookup_erase]

variable {update : Update key}

theorem updateOne_of_findOne_none (missing : collection.findOne filter = none) :
    collection.updateOne filter update = collection := by
  simp [updateOne, missing]

theorem updateOne_of_findOne (found : collection.findOne filter = some record) :
    collection.updateOne filter update = collection.write (update.apply record) := by
  simp [updateOne, found]

/-- An update changes the record it finds and no other. -/
theorem lookup_updateOne (collection : Collection key) (filter : ρ → Bool)
    (update : Update key) (id : κ) :
    (collection.updateOne filter update).lookup id =
      (collection.lookup id).map fun record =>
        if (collection.findOne filter).map key = some id then update.apply record
        else record := by
  cases found : collection.findOne filter with
  | none =>
    rw [updateOne_of_findOne_none found]
    cases collection.lookup id <;> simp
  | some record =>
    rw [updateOne_of_findOne found, lookup_write, update.keyed]
    by_cases same : id = key record
    · subst same
      simp [(lookup_of_findOne found).1]
    · have different : ¬ key record = id := fun equal => same equal.symm
      simp [same, different]

theorem lookup_updateOne_key (collection : Collection key) (updated id : κ) (update : Update key) :
    (collection.updateOne (fun record => key record = updated) update).lookup id =
      (collection.lookup id).map fun record =>
        if updated = id then update.apply record else record := by
  rw [lookup_updateOne]
  cases stored : collection.lookup id with
  | none => rfl
  | some record =>
    rw [Option.map_some, Option.map_some]
    by_cases same : updated = id
    · subst same
      have found : collection.findOne (fun record => key record = updated) = some record :=
        stored
      rw [found, Option.map_some, key_of_lookup stored, if_pos rfl, if_pos rfl]
    · rw [if_neg same, if_neg]
      intro hit
      obtain ⟨other, found, rfl⟩ := Option.map_eq_some_iff.mp hit
      exact same (key_of_lookup found).symm

/-- An update leaves a record alone that its search rejects. -/
theorem lookup_updateOne_of_rejected
    (stored : collection.lookup id = some record) (rejected : filter record = false) :
    (collection.updateOne filter update).lookup id = some record := by
  rw [lookup_updateOne, stored, Option.map_some, if_neg]
  intro hit
  obtain ⟨other, found, rfl⟩ := Option.map_eq_some_iff.mp hit
  obtain ⟨storedOther, accepted⟩ := lookup_of_findOne found
  rw [stored] at storedOther
  cases storedOther
  rw [rejected] at accepted
  cases accepted

/-- An update whose search accepts one key only leaves the other records alone. -/
theorem lookup_updateOne_of_ne (updated : κ)
    (keyed : ∀ record, filter record = true → key record = updated)
    (apart : (collection.findOne filter).isSome = true → updated ≠ id) :
    (collection.updateOne filter update).lookup id = collection.lookup id := by
  rw [lookup_updateOne]
  cases found : collection.findOne filter with
  | none => simp
  | some record =>
    have differ : key record ≠ id := by
      rw [keyed _ (lookup_of_findOne found).2]
      exact apart (by rw [found]; rfl)
    simp [differ]

theorem isSome_lookup_updateOne (collection : Collection key) (filter : ρ → Bool)
    (update : Update key) (id : κ) :
    ((collection.updateOne filter update).lookup id).isSome = (collection.lookup id).isSome := by
  rw [lookup_updateOne, Option.isSome_map]

private theorem find?_congr_of_mem {left right : ρ → Bool} {records : List ρ}
    (same : ∀ record ∈ records, left record = right record) :
    records.find? left = records.find? right := by
  induction records with
  | nil => rfl
  | cons record rest ih =>
    rw [find?_cons, find?_cons, same _ mem_cons_self,
      ih fun other member => same _ (mem_cons_of_mem _ member)]

/-- A write in the place of a stored record that the search treats alike. -/
theorem findOne_write {old : ρ} (stored : collection.lookup (key record) = some old)
    (alike : filter record = filter old) :
    (collection.write record).findOne filter =
      (collection.findOne filter).map fun other =>
        if key other = key record then record else other := by
  have present : key record ∈ collection.records.map key := by
    by_contra missing
    rw [lookup_eq_none_iff.mpr missing] at stored
    contradiction
  have records : (collection.write record).records = collection.records.map fun other =>
      if key other = key record then record else other := by
    simp only [write, dif_pos present]
  have accepts : ∀ other ∈ collection.records,
      filter (if key other = key record then record else other) = filter other := by
    intro other member
    split_ifs with same
    · have found := lookup_of_mem member
      rw [same, stored] at found
      rw [alike, Option.some.inj found]
    · rfl
  rw [findOne, records, find?_map]
  exact congrArg _ (find?_congr_of_mem accepts)

/-- A write in the place of the hit of a search, which accepts the new record. -/
theorem findOne_write_of_findOne {old : ρ} (found : collection.findOne filter = some old)
    (sameKey : key record = key old) (accepted : filter record = true) :
    (collection.write record).findOne filter = some record := by
  obtain ⟨stored, filtered⟩ := lookup_of_findOne found
  rw [← sameKey] at stored
  rw [findOne_write stored (accepted.trans filtered.symm), found]
  exact congrArg _ (if_pos sameKey.symm)

/-- An update that a search does not notice leaves its hit in place. -/
theorem findOne_updateOne (alike : ∀ record, filter (update.apply record) = filter record) :
    (collection.updateOne condition update).findOne filter =
      (collection.findOne filter).map fun other =>
        if (collection.findOne condition).map key = some (key other) then update.apply other
        else other := by
  cases found : collection.findOne condition with
  | none =>
    rw [updateOne_of_findOne_none found]
    cases collection.findOne filter <;> simp
  | some record =>
    have stored := (lookup_of_findOne found).1
    have same : collection.lookup (key (update.apply record)) = some record := by
      rw [update.keyed, stored]
    rw [updateOne_of_findOne found, findOne_write same (alike _)]
    cases hit : collection.findOne filter with
    | none => rfl
    | some other =>
      simp only [update.keyed]
      by_cases equal : key other = key record
      · have found := (lookup_of_findOne hit).1
        rw [equal, stored] at found
        cases found
        simp
      · have different : ¬ key record = key other := fun same => equal same.symm
        simp [equal, different]

end Collection

end Vc
