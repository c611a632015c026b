import Vc.Registry.Allocation

/-!
# A roll-over that fails

`CreateNewSectionIfNeeded` inserts the documents of the next section one after the other and then
updates the metadata.  A call that fails on the way leaves the documents that it has inserted, and
the next call starts with the first of them again.
-/

namespace Vc.Registry

open Concurrent Collection Database List

def decoysIn (sectionID : Nat) (database : Database) : Nat :=
  database.entries.countDocuments fun doc => doc.sectionID = sectionID && doc.decoy

/-- What the insertion of a section leaves as it was, where another one is current. -/
structure Keeps (current : Nat) (before after : Database) : Prop where
  metadata : after.metadata = before.metadata
  decoys : decoysIn current after = decoysIn current before
  has : ∀ id, before.Has id → after.Has id

variable {database after : Database} {current : Nat}

theorem decoysIn_of_added {doc : TokenStatusListDoc} (other : doc.sectionID ≠ current)
    (added : execute (.insertEntry doc) database = (true, after)) :
    decoysIn current after = decoysIn current database := by
  simp only [execute, insertOne] at added
  cases stored : database.entries.lookup doc.key with
  | some _ =>
    rw [stored] at added
    cases added
  | none =>
    rw [stored] at added
    cases added
    simp [decoysIn, countDocuments, write, lookup_eq_none_iff.mp stored, other]

/-- The documents of the next section are inserted as long as no key is taken, and the first one
is there afterwards. -/
theorem run_insertSection (seed : Nat → Nat) (count start : Nat) (database : Database) :
    let run := (insertMany ((range' start count).map (newDecoy (current + 1) seed))).run execute
      database
    Keeps current database run.2 ∧ (0 < count → run.2.Has (current + 1, start)) ∧
      (run.1 = .ok () ↔ ∀ index ∈ range' start count, ¬database.Has (current + 1, index)) := by
  induction count generalizing start database with
  | zero => exact ⟨⟨rfl, rfl, fun _ => id⟩, by simp, by simp [insertMany]⟩
  | succ count ih =>
    rw [range'_succ, map_cons, forall_mem_cons]
    obtain ⟨refused, taken⟩ | ⟨after, added, metadata, free, present⟩ :=
      execute_insertEntry (newDecoy (current + 1) seed start) database
    · rw [run_insertMany_cons _ refused]
      exact ⟨⟨rfl, rfl, fun _ => id⟩, fun _ => taken, iff_of_false (by simp) fun all => all.1 taken⟩
    · rw [run_insertMany_cons _ added]
      obtain ⟨kept, _, done⟩ := ih (start + 1) after
      refine ⟨⟨kept.metadata.trans metadata, kept.decoys.trans
        (decoysIn_of_added (Nat.succ_ne_self _) added), fun id has =>
          kept.has id ((present id).mpr (.inr has))⟩,
        fun _ => kept.has _ ((present _).mpr (.inl rfl)), done.trans ⟨fun all => ⟨free, ?_⟩, ?_⟩⟩
      · exact fun index later has => all _ later ((present _).mpr (.inr has))
      · rintro ⟨_, all⟩ index later has
        obtain same | old := (present _).mp has
        · cases same
          exact absurd (mem_range'_1.mp later).1 (Nat.not_succ_le_self _)
        · exact all _ later old

/-- A call succeeds with a section that is fully populated. -/
def Succeeds (size : Nat) (seed : Nat → Nat) (database : Database) : Prop :=
  ∃ sectionID, ((createNewSectionIfNeeded size seed).run execute database).1 = .ok sectionID ∧
    ∀ index < size,
      ((createNewSectionIfNeeded size seed).run execute database).2.Has (sectionID, index)

variable {metadata : TokenStatusListMetadataDoc}

theorem succeeds_iff (stored : database.metadata.head? = some metadata)
    (few : decoysIn metadata.currentSection database ≤ 1000)
    (size : Nat) (seed : Nat → Nat) :
    Succeeds size seed database ↔
      0 < size ∧ ∀ index < size, ¬database.Has (metadata.currentSection + 1, index) := by
  have rolls : (createNewSectionIfNeeded size seed).run execute database =
      ((createNewSection (metadata.currentSection + 1) size seed).andThen fun _ =>
        (updateCurrentSection (metadata.currentSection + 1)).andThen fun _ =>
          .done (.ok (metadata.currentSection + 1))).run execute database := by
    simp only [createNewSectionIfNeeded, Process.run, execute, stored]
    exact congrArg (fun process => Process.run _ process _)
      (if_pos ((Nat.min_le_right _ _).trans few))
  rw [Succeeds, rolls, Process.andThen, Process.run_bind, createNewSection, range_eq_range']
  by_cases empty : size = 0
  · simp [empty]
  have free := (@run_insertSection metadata.currentSection seed size 0 database).2.2
  simp only [mem_range'_1, Nat.zero_le, true_and, Nat.zero_add] at free
  rw [if_neg empty, ← free]
  cases inserted : ((insertMany ((range' 0 size).map _)).run _ _).1 with
  | error error => simp
  | ok _ =>
    obtain ⟨same, present⟩ := run_insertMany _ _ inserted
    refine iff_of_true ⟨metadata.currentSection + 1, ?_⟩ ⟨Nat.pos_of_ne_zero empty, rfl⟩
    simp only [Process.andThen, updateCurrentSection, Process.bind, Process.run, execute, same,
      stored]
    exact ⟨trivial, fun index inside => (present _).mpr
      (.inl (by simpa [newDecoy, TokenStatusListDoc.key] using inside))⟩

/-- The database after a call whose insertion stopped after some documents; where all of them are
inserted, it is the update of the metadata that has failed. -/
def failedRollOver (seed : Nat → Nat) (inserted sectionID : Nat) (database : Database) : Database :=
  ((insertMany ((range inserted).map (newDecoy sectionID seed))).run execute database).2

/-- A later call succeeds exactly if the failed one has inserted nothing and the section is new. -/
theorem succeeds_after_failure_iff (stored : database.metadata.head? = some metadata)
    (few : decoysIn metadata.currentSection database ≤ 1000)
    (size inserted : Nat) (seed retry : Nat → Nat) :
    Succeeds size retry (failedRollOver seed inserted (metadata.currentSection + 1) database) ↔
      0 < size ∧ inserted = 0 ∧
        ∀ index < size, ¬database.Has (metadata.currentSection + 1, index) := by
  obtain ⟨kept, first, _⟩ := @run_insertSection metadata.currentSection seed inserted 0 database
  rw [← range_eq_range'] at kept first
  rw [failedRollOver, succeeds_iff (kept.metadata.symm ▸ stored) (kept.decoys.trans_le few)]
  refine and_congr_right fun positive => ?_
  cases inserted with
  | zero => simp [insertMany]
  | succ more => exact iff_of_false (fun free => free 0 positive (first more.succ_pos)) (by simp)

/-- A list that has no entries yet. -/
def emptyList : Database := ⟨.empty, [⟨0, [0]⟩]⟩

theorem succeeds_after_no_insertion : Succeeds 2 id (failedRollOver id 0 1 emptyList) :=
  (@succeeds_after_failure_iff _ ⟨0, [0]⟩ rfl (by decide) 2 0 id id).mpr
    ⟨by decide, rfl, fun _ _ has => by cases has⟩

/-- Once a document is inserted, every later call collides with it. -/
theorem fails_after_one_insertion : ¬Succeeds 2 id (failedRollOver id 1 1 emptyList) := by
  rintro ⟨sectionID, done, _⟩
  cases done

end Vc.Registry
