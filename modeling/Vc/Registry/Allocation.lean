import Vc.Registry.StatusList

/-!
# Concurrent allocation of status list entries

Any number of `AddStatus` and `UpdateStatus` requests, on any number of replicas,
are interleaved operation by operation.

Three facts carry the proof.  A section is created by one request only: the first
document of a section that exists already violates the unique index.  Until that
request has updated the metadata, nobody else can, since the next section would
need a document of the same key.  And an entry that is no decoy any more is out of
reach of every operation but `UpdateStatus`.
-/

namespace Vc.Registry

open Concurrent Function Collection List DatabaseCall Nat Database

/-! ## Allocated entries -/

/-- What an operation makes of the status of an allocated entry. -/
def DatabaseCall.changeStatus (id : Nat × Nat) (status : UInt8) : DatabaseCall → UInt8
  | .setStatus sectionID index new => if (sectionID, index) = id then new else status
  | _ => status

variable {doc : TokenStatusListDoc} {database : Database} {id : Nat × Nat}

/-- An allocated entry changes by an update of its status, and by no other operation. -/
theorem lookup_execute_of_allocated (request : DatabaseCall)
    (stored : database.entries.lookup id = some doc)
    (allocated : doc.decoy = false) :
    (execute request database).2.entries.lookup id =
      some { doc with status := request.changeStatus id doc.status } := by
  have noDecoy (sectionID index : Nat) : isDecoyAt sectionID index doc = false := by
    rw [isDecoyAt, allocated, Bool.and_false]
  cases request with
  | insertEntry added =>
    simp only [execute]
    split
    · exact stored
    · next entries inserted =>
      obtain ⟨missing, lookups⟩ := insertOne_eq_some inserted
      have different : id ≠ added.key := by
        rintro rfl
        rw [missing] at stored
        cases stored
      rw [lookups, if_neg different]
      exact stored
  | claimEntry claimed => exact lookup_updateOne_of_rejected stored (noDecoy _ _)
  | setNoise sectionID index status =>
    exact lookup_updateOne_of_rejected stored (noDecoy _ _)
  | setStatus sectionID index status =>
    change (database.entries.updateOne _ _).lookup id = _
    rw [lookup_updateOne_key, stored, changeStatus]
    split_ifs <;> rfl
  | _ => exact stored

variable {ι : Type}

/-- The status of an allocated entry after some operations. -/
def statusAfter (id : Nat × Nat) (status : UInt8)
    (trace : List (Entry ι databaseInterface)) : UInt8 :=
  trace.foldl (fun current entry => changeStatus id current entry.request) status

theorem statusAfter_append (id : Nat × Nat) (status : UInt8)
    (trace : List (Entry ι databaseInterface)) (entry : Entry ι databaseInterface) :
    statusAfter id status (trace ++ [entry]) =
      changeStatus id (statusAfter id status trace) entry.request := by
  rw [statusAfter, foldl_append]
  rfl

/-! ## The invariant -/

/-- There is an entry under a key. -/
def Database.Has (database : Database) (id : Nat × Nat) : Prop :=
  (database.entries.lookup id).isSome = true

/-- How far a request has come. -/
inductive Stage where
  | started
  /-- It will allocate in this section, or create the one after it. -/
  | seen (sectionID : Nat)
  /-- It has inserted the first entries of a new section. -/
  | creating (sectionID inserted : Nat)
  /-- It has claimed an entry. -/
  | allocated (sectionID index : Nat) (status : UInt8)

/-- What a request can rely on, when `current` is the current section. -/
def Stage.Holds (current : Nat) (database : Database) (trace : List (Entry ι databaseInterface))
    (request : ι) : Stage → Prop
  | .started => True
  | .seen sectionID => sectionID ≤ current
  | .creating sectionID inserted => sectionID = current + 1 ∧ 0 < inserted ∧
      ∀ index < inserted, database.Has (sectionID, index)
  | .allocated sectionID index status => ∃ before after,
      trace = before ++
        ⟨request, .claimEntry ⟨index, status, false, sectionID⟩, (1 : Nat)⟩ :: after ∧
      database.entries.lookup (sectionID, index) =
        some ⟨index, statusAfter (sectionID, index) status after, false, sectionID⟩

/-- Two stages that only one request can be in: creating a section, and having claimed an entry. -/
def Stage.Conflicts : Stage → Stage → Prop
  | .creating _ _, .creating _ _ => True
  | .allocated sectionID index _, .allocated other position _ =>
    (sectionID, index) = (other, position)
  | _, _ => False

/-- What holds between two operations, when `current` is the current section. -/
structure Consistent (size current : Nat) (database : Database)
    (trace : List (Entry ι databaseInterface)) (stages : ι → Stage) : Prop where
  metadata : ∃ rest, database.metadata = ⟨current, range (current + 1)⟩ :: rest
  populated : ∀ sectionID ≤ current, ∀ index < size, database.Has (sectionID, index)
  listed : ∀ id, database.Has id → id.1 ≤ current ∨
    (id.1 = current + 1 ∧ ∃ creator inserted, stages creator = .creating (current + 1) inserted)
  stage : ∀ request, (stages request).Holds current database trace request
  exclusive : ∀ first second, (stages first).Conflicts (stages second) → first = second

/-! ## One operation -/

/-- The operations that leave the metadata alone and add no entry. -/
def DatabaseCall.KeepsEntries : DatabaseCall → Prop
  | .insertMetadata _ | .setMetadata _ | .insertEntry _ => False
  | _ => True

variable {request : DatabaseCall}

theorem metadata_execute (keeps : request.KeepsEntries)
    (database : Database) : (execute request database).2.metadata = database.metadata := by
  cases request <;> first | rfl | cases keeps

theorem has_execute (keeps : request.KeepsEntries) (database : Database) (id : Nat × Nat) :
    (execute request database).2.Has id ↔ database.Has id := by
  cases request with
  | insertMetadata | setMetadata | insertEntry => cases keeps
  | claimEntry | setNoise | setStatus =>
    exact iff_of_eq (congrArg (· = true) (isSome_lookup_updateOne _ _ _ _))
  | _ => rfl

/-- An insertion is refused where there is an entry, or adds one where there was none. -/
theorem execute_insertEntry (doc : TokenStatusListDoc) (database : Database) :
    (execute (.insertEntry doc) database = (false, database) ∧ database.Has doc.key) ∨
    ∃ after, execute (.insertEntry doc) database = (true, after) ∧
      after.metadata = database.metadata ∧ ¬database.Has doc.key ∧
      ∀ id, after.Has id ↔ id = doc.key ∨ database.Has id := by
  simp only [execute, insertOne]
  cases stored : database.entries.lookup doc.key with
  | some _ => exact .inl ⟨rfl, by simp [Has, stored]⟩
  | none =>
    refine .inr ⟨_, rfl, rfl, by simp [Has, stored], fun id => ?_⟩
    rw [Has, lookup_write]
    by_cases same : id = doc.key
    · simp [same]
    · simp [same, Has]

/-- No entry is ever removed. -/
theorem has_execute_of_has (request : DatabaseCall)
    (has : database.Has id) : (execute request database).2.Has id := by
  cases request with
  | insertMetadata | setMetadata => exact has
  | insertEntry doc =>
    obtain ⟨refused, _⟩ | ⟨after, added, _, _, present⟩ := execute_insertEntry doc database
    · rw [refused]
      exact has
    · rw [added]
      exact (present id).mpr (.inr has)
  | _ =>
    refine (has_execute ?_ _ id).mpr has
    trivial

/-- A claim that matches a document turns a decoy into a real entry. -/
theorem execute_claimEntry (doc : TokenStatusListDoc) (database : Database) :
    (execute (.claimEntry doc) database).1 = (0 : Nat) ∨
    (execute (.claimEntry doc) database).1 = (1 : Nat) ∧
      (∃ decoy, database.entries.lookup doc.key = some decoy ∧ decoy.decoy = true) ∧
      (execute (.claimEntry doc) database).2.entries.lookup doc.key = some doc := by
  have search : database.entries.findOne (isDecoyAt doc.sectionID doc.index) =
      (database.entries.lookup doc.key).filter (·.decoy) :=
    findOne_key_and database.entries doc.key (·.decoy)
  simp only [execute, Database.updateOne, search]
  cases found : (database.entries.lookup doc.key).filter (·.decoy) with
  | none => exact .inl rfl
  | some decoy =>
    obtain ⟨stored, isDecoy⟩ := Option.filter_eq_some_iff.mp found
    refine .inr ⟨rfl, ⟨decoy, stored, isDecoy⟩, ?_⟩
    have keyed := key_of_lookup stored
    rw [lookup_updateOne, search, found, stored, Option.map_some, Option.map_some,
      if_pos (congrArg _ keyed)]
    obtain ⟨sameSection, sameIndex⟩ := Prod.mk.inj keyed
    simp [updateEntry, sameSection, sameIndex]

variable {stage : Stage}

/-- What a request can rely on survives every operation that leaves the current section. -/
theorem Stage.Holds.execute {current : Nat} {trace : List (Entry ι databaseInterface)} {request : ι}
    (holds : stage.Holds current database trace request) (entry : Entry ι databaseInterface) :
    stage.Holds current (execute entry.request database).2 (trace ++ [entry]) request := by
  cases stage with
  | started => trivial
  | seen sectionID => exact holds
  | creating sectionID inserted =>
    obtain ⟨next, positive, present⟩ := holds
    exact ⟨next, positive, fun index inside =>
      has_execute_of_has _ (present _ inside)⟩
  | allocated sectionID index status =>
    obtain ⟨before, after, split, stored⟩ := holds
    refine ⟨before, after ++ [entry], by rw [split, append_assoc, cons_append], ?_⟩
    rw [statusAfter_append]
    exact lookup_execute_of_allocated _ stored rfl

theorem Stage.Conflicts.symm {first second : Stage} (conflicts : first.Conflicts second) :
    second.Conflicts first := by
  cases first <;> cases second <;> first | exact conflicts | exact Eq.symm conflicts

namespace Consistent

variable {size current : Nat} {trace : List (Entry ι databaseInterface)} {stages : ι → Stage}

/-- An operation that adds nothing. -/
theorem keep (consistent : Consistent size current database trace stages)
    (entry : Entry ι databaseInterface) (keeps : KeepsEntries entry.request) :
    Consistent size current (execute entry.request database).2 (trace ++ [entry]) stages where
  metadata := by
    rw [metadata_execute keeps]
    exact consistent.metadata
  populated sectionID old index inside :=
    has_execute_of_has _ (consistent.populated _ old _ inside)
  listed id has := consistent.listed id ((has_execute keeps _ id).mp has)
  stage request := (consistent.stage _).execute _
  exclusive := consistent.exclusive

/-- An operation that is refused. -/
theorem unchanged (consistent : Consistent size current database trace stages)
    {entry : Entry ι databaseInterface}
    (same : (execute entry.request database).2 = database) :
    Consistent size current database (trace ++ [entry]) stages where
  metadata := consistent.metadata
  populated := consistent.populated
  listed := consistent.listed
  stage request := same ▸ (consistent.stage request).execute entry
  exclusive := consistent.exclusive

variable [DecidableEq ι] {caller : ι}

/-- The caller changes to a stage that no other request excludes. -/
theorem exclusive_update (consistent : Consistent size current database trace stages)
    (apart : ∀ other, other ≠ caller → ¬(stages other).Conflicts stage)
    (first second : ι) (conflicts : (update stages caller stage first).Conflicts
      (update stages caller stage second)) : first = second := by
  by_cases here : first = caller
  · by_cases there : second = caller
    · rw [here, there]
    · rw [here, update_self, update_of_ne there] at conflicts
      exact absurd conflicts.symm (apart _ there)
  · rw [update_of_ne here] at conflicts
    by_cases there : second = caller
    · rw [there, update_self] at conflicts
      exact absurd conflicts (apart first here)
    · rw [update_of_ne there] at conflicts
      exact consistent.exclusive first second conflicts

/-- What holds of every stage holds after the caller has changed its own. -/
theorem stage_update {current' : Nat} {database' : Database}
    {trace' : List (Entry ι databaseInterface)}
    (others : ∀ other, other ≠ caller → (stages other).Holds current' database' trace' other)
    (here : stage.Holds current' database' trace' caller) (request : ι) :
    (update stages caller stage request).Holds current' database' trace' request := by
  by_cases same : request = caller
  · rw [same, update_self]
    exact here
  · rw [update_of_ne same]
    exact others _ same

section

variable (consistent : Consistent size current database trace stages)

include consistent

/-- A request that is not creating a section goes on to another stage. -/
theorem restage (idle : ∀ sectionID inserted, stages caller ≠ .creating sectionID inserted)
    (holds : stage.Holds current database trace caller)
    (apart : ∀ other, other ≠ caller → ¬(stages other).Conflicts stage) :
    Consistent size current database trace (update stages caller stage) where
  metadata := consistent.metadata
  populated := consistent.populated
  listed id has := by
    refine (consistent.listed id has).imp_right fun ⟨next, creator, inserted, isCreating⟩ =>
      ⟨next, creator, inserted, ?_⟩
    rw [update_of_ne, isCreating]
    rintro rfl
    exact idle _ _ isCreating
  stage := stage_update (fun other _ => consistent.stage _) holds
  exclusive := consistent.exclusive_update apart

/-- The next entry of a section that only the caller creates. -/
theorem insert {after : Database} (added : execute (.insertEntry doc) database = (true, after))
    (metadata : after.metadata = database.metadata)
    (present : ∀ id, after.Has id ↔ id = doc.key ∨ database.Has id)
    (next : doc.sectionID = current + 1)
    (earlier : ∀ index < doc.index, database.Has (current + 1, index))
    (alone : ∀ other, other ≠ caller → ∀ sectionID inserted,
      stages other ≠ .creating sectionID inserted) :
    Consistent size current after (trace ++ [⟨caller, .insertEntry doc, true⟩])
      (update stages caller (.creating (current + 1) (doc.index + 1))) where
  metadata := metadata ▸ consistent.metadata
  populated sectionID old index inside :=
    (present _).mpr (.inr (consistent.populated _ old _ inside))
  listed id has := by
    rcases (present id).mp has with rfl | had
    · exact .inr ⟨next, caller, doc.index + 1, update_self _ _ _⟩
    · exact (consistent.listed id had).imp_right fun further =>
        ⟨further.1, caller, doc.index + 1, update_self _ _ _⟩
  stage := by
    refine stage_update (fun other _ => ?_) ⟨rfl, Nat.succ_pos _, fun index inside => ?_⟩
    · have kept := (consistent.stage other).execute ⟨caller, .insertEntry doc, true⟩
      have written : (execute (.insertEntry doc) database).2 = after := congrArg Prod.snd added
      rwa [written] at kept
    · rw [present]
      rcases Nat.lt_succ_iff_lt_or_eq.mp inside with before | rfl
      · exact .inr (earlier _ before)
      · exact .inl (by rw [TokenStatusListDoc.key, next])
  exclusive := consistent.exclusive_update fun other different conflicts => by
    cases isOther : stages other with
    | creating sectionID inserted => exact alone _ different _ _ isOther
    | _ =>
      rw [isOther] at conflicts
      exact conflicts

/-- The creator of a section makes it the current one. -/
theorem publish {inserted : Nat}
    (isCreating : stages caller = .creating (current + 1) inserted) (full : size ≤ inserted) :
    Consistent size (current + 1)
      (execute (.setMetadata ⟨current + 1, range (current + 1) ++ [current + 1]⟩) database).2
      (trace ++ [⟨caller, .setMetadata ⟨current + 1, range (current + 1) ++ [current + 1]⟩, ()⟩])
      (update stages caller (.seen (current + 1))) where
  metadata := by
    obtain ⟨rest, same⟩ := consistent.metadata
    refine ⟨rest, ?_⟩
    simp only [execute, same, set_cons_zero, range_succ]
  populated sectionID old index inside := by
    rcases le_succ_iff.mp old with older | rfl
    · exact consistent.populated _ older _ inside
    · have holds := consistent.stage caller
      rw [isCreating] at holds
      exact holds.2.2 _ (lt_of_lt_of_le inside full)
  listed id has := by
    rcases consistent.listed id has with old | ⟨next, _⟩
    · exact .inl (le_succ_of_le old)
    · exact .inl (le_of_eq next)
  stage := by
    refine stage_update (fun other different => ?_) (le_refl _)
    have kept := (consistent.stage other).execute
      ⟨caller, .setMetadata ⟨current + 1, range (current + 1) ++ [current + 1]⟩, ()⟩
    cases isOther : stages other with
    | started => trivial
    | seen sectionID =>
      rw [isOther] at kept
      exact le_succ_of_le kept
    | creating sectionID number =>
      -- there is no second creator
      refine absurd (consistent.exclusive _ _ ?_) different
      rw [isOther, isCreating]
      trivial
    | allocated sectionID index status =>
      rw [isOther] at kept
      exact kept
  exclusive := consistent.exclusive_update fun other _ conflicts => by
    cases isOther : stages other <;> rw [isOther] at conflicts <;> exact conflicts

/-- A claim that matches. -/
theorem claim {sectionID index : Nat} {status : UInt8}
    (idle : ∀ created inserted, stages caller ≠ .creating created inserted)
    (decoy : ∃ decoy, database.entries.lookup (sectionID, index) = some decoy ∧ decoy.decoy = true)
    (stored : (execute (.claimEntry ⟨index, status, false, sectionID⟩) database).2.entries.lookup
      (sectionID, index) = some ⟨index, status, false, sectionID⟩) :
    Consistent size current (execute (.claimEntry ⟨index, status, false, sectionID⟩) database).2
      (trace ++ [⟨caller, .claimEntry ⟨index, status, false, sectionID⟩, (1 : Nat)⟩])
      (update stages caller (.allocated sectionID index status)) := by
  refine (consistent.keep ⟨caller, .claimEntry ⟨index, status, false, sectionID⟩, (1 : Nat)⟩
    trivial).restage idle ⟨trace, [], rfl, stored⟩ fun other _ conflicts => ?_
  have holds := consistent.stage other
  cases isOther : stages other with
  | allocated taken position given =>
    rw [isOther] at conflicts holds
    obtain ⟨before, after, _, storedOther⟩ := holds
    obtain ⟨found, isDecoy, stillDecoy⟩ := decoy
    -- what another request holds was no decoy
    rw [show (taken, position) = (sectionID, index) from conflicts, isDecoy] at storedOther
    cases storedOther
    cases stillDecoy
  | _ =>
    rw [isOther] at conflicts
    exact conflicts

end

end Consistent

/-! ## What the requests keep -/

/-- Consistency as the rule of the game. -/
def allocation (ι : Type) (size : Nat) : Protocol ι databaseInterface Database Stage where
  inv database trace stages := ∃ current, Consistent size current database trace stages
  guard _ _ _ _ _ := True

section Follows

open Protocol

variable [DecidableEq ι] {size : Nat} {caller : ι} {α : Type}

/-- An operation that adds nothing keeps the stage. -/
theorem follows_keep {post : Stage → α → Prop} {next : request.Answer → Process databaseInterface α}
    (keeps : request.KeepsEntries)
    (continues : ∀ answer, (allocation ι size).Follows execute caller post (next answer) stage) :
    (allocation ι size).Follows execute caller post (.call request next) stage :=
  follows_call_of_keep fun _ _ _ ⟨current, consistent⟩ _ _ =>
    ⟨⟨current, consistent.keep ⟨caller, request, _⟩ keeps⟩, continues _⟩

variable (sectionID : Nat)

/-- The entries of a new section from the second one on. -/
theorem follows_insertMany (seed : Nat → Nat) (left inserted : Nat) :
    (allocation ι size).Follows execute caller
      (IfOk fun stage _ => stage = .creating sectionID (inserted + left))
      (insertMany ((range' inserted left).map (newDecoy sectionID seed)))
      (.creating sectionID inserted) := by
  induction left generalizing inserted with
  | zero => rfl
  | succ left ih =>
    intro database trace stages ⟨current, consistent⟩ same _
    have holds := consistent.stage caller
    rw [same] at holds
    obtain ⟨next, _, earlier⟩ := holds
    obtain ⟨refused, _⟩ | ⟨after, added, metadata, _, present⟩ :=
      execute_insertEntry (newDecoy sectionID seed inserted) database
    · refine ⟨.creating sectionID inserted, ⟨current, ?_⟩, ?_⟩
      · rw [← same, update_eq_self, refused]
        exact consistent.unchanged (congrArg Prod.snd refused)
      · rw [refused]
        trivial
    · have alone : ∀ other, other ≠ caller → ∀ created number,
          stages other ≠ .creating created number := fun other different created number isOther =>
        different (consistent.exclusive other caller (by rw [isOther, same]; trivial))
      rw [added]
      subst next
      refine ⟨.creating (current + 1) (inserted + 1), ⟨current, ?_⟩, ?_⟩
      · exact consistent.insert added metadata present rfl earlier alone
      · have rest := ih (inserted + 1)
        rwa [add_right_comm] at rest

/-- Only the request that inserts the first entry of a section gets to create it. -/
theorem follows_createNewSection (seed : Nat → Nat) :
    (allocation ι size).Follows execute caller
      (IfOk fun stage _ => stage = .creating (sectionID + 1) size)
      (createNewSection (sectionID + 1) size seed) (.seen sectionID) := by
  unfold createNewSection
  split_ifs with empty
  · trivial
  obtain ⟨more, rfl⟩ := exists_eq_succ_of_ne_zero empty
  rw [range_eq_range']
  rintro database trace stages ⟨current, consistent⟩ same _
  have known : sectionID ≤ current := by
    have holds := consistent.stage caller
    rwa [same] at holds
  obtain ⟨refused, _⟩ | ⟨after, added, metadata, fresh, present⟩ :=
    execute_insertEntry (newDecoy (sectionID + 1) seed 0) database
  · refine ⟨.seen sectionID, ⟨current, ?_⟩, ?_⟩
    · rw [← same, update_eq_self, refused]
      exact consistent.unchanged (congrArg Prod.snd refused)
    · rw [refused]
      trivial
  · obtain rfl : sectionID = current := by
      by_contra _
      exact fresh (consistent.populated (sectionID + 1) (by omega) 0 (succ_pos _))
    have alone : ∀ other, other ≠ caller → ∀ created number,
        stages other ≠ .creating created number := by
      intro other _ created number isOther
      have holds := consistent.stage other
      rw [isOther] at holds
      obtain ⟨rfl, positive, inserted⟩ := holds
      exact fresh (inserted 0 positive)
    rw [added]
    refine ⟨.creating (sectionID + 1) 1, ⟨sectionID, ?_⟩, ?_⟩
    · exact consistent.insert added metadata present rfl (by rintro _ ⟨⟩) alone
    · rw [succ_eq_one_add]
      exact follows_insertMany _ _ _ 1

/-- The creator finds the metadata as it was when the section before was the last one. -/
theorem follows_updateCurrentSection :
    (allocation ι size).Follows execute caller (IfOk fun stage _ => stage = .seen sectionID)
      (updateCurrentSection sectionID) (.creating sectionID size) := by
  refine follows_call_of_keep fun database trace stages ⟨current, consistent⟩ same _ => ?_
  refine ⟨⟨current, consistent.keep ⟨caller, .findMetadata, _⟩ trivial⟩, ?_⟩
  obtain ⟨rest, metadata⟩ := consistent.metadata
  have holds := consistent.stage caller
  rw [same] at holds
  obtain ⟨rfl, _⟩ := holds
  simp only [execute, metadata]
  intro database trace stages ⟨later, consistent⟩ same _
  have holds := consistent.stage caller
  rw [same] at holds
  obtain ⟨sameSection, _⟩ := holds
  cases sameSection
  exact ⟨.seen _, ⟨current + 1, consistent.publish same (le_refl _)⟩, rfl⟩

theorem follows_createNewSectionIfNeeded (seed : Nat → Nat) :
    (allocation ι size).Follows execute caller (IfOk fun stage sectionID => stage = .seen sectionID)
      (createNewSectionIfNeeded size seed) .started := by
  intro database trace stages ⟨current, consistent⟩ same _
  obtain ⟨rest, metadata⟩ := consistent.metadata
  have kept := consistent.keep ⟨caller, .findMetadata, database.metadata.head?⟩ trivial
  refine ⟨.seen _, ⟨current, kept.restage ?_ (le_refl _) ?_⟩, ?_⟩
  · rw [same]
    exact fun _ _ => nofun
  · intro other _ conflicts
    cases isOther : stages other <;> rw [isOther] at conflicts <;> exact conflicts
  · simp only [execute, metadata]
    refine follows_keep trivial fun count => ?_
    split_ifs
    · refine (follows_createNewSection _ _).andThen fun _ stage created => ?_
      rw [created]
      refine (follows_updateCurrentSection _).andThen fun _ stage published => ?_
      exact published
    · rfl

section Decoys

variable {γ : Type} {protocol : Protocol ι databaseInterface Database γ} {ghost : γ}
  (reads : ∀ {index : Nat}
      {next : Option TokenStatusListDoc → Process databaseInterface (List TokenStatusListDoc)},
    (∀ found, protocol.Follows execute caller (fun after _ => after = ghost) (next found) ghost) →
      protocol.Follows execute caller (fun after _ => after = ghost)
        (.call (.findEntry sectionID index) next) ghost)

include reads

theorem follows_probeDecoys (probe : Nat → Nat) (attempts : Nat)
    (seen : List Nat) (docs : List TokenStatusListDoc) :
    protocol.Follows execute caller (fun after _ => after = ghost)
      (probeDecoys size sectionID probe attempts seen docs) ghost := by
  induction attempts generalizing seen docs with
  | zero => rfl
  | succ attempts ih =>
    unfold probeDecoys
    split_ifs
    · rfl
    · exact ih _ _
    · exact reads fun found => ih _ _

/-- Decoys are drawn under every protocol that lets entries be read. -/
theorem follows_getRandomDecoys (probe : Nat → Nat) :
    protocol.Follows execute caller (IfOk fun after _ => after = ghost)
      (getRandomDecoys size sectionID probe) ghost := by
  unfold getRandomDecoys
  split_ifs
  · trivial
  · refine (follows_probeDecoys _ reads _ 50 [] []).bind fun docs after same => ?_
    split_ifs
    · trivial
    · exact same

end Decoys

theorem follows_addNoise (sectionID chosen : Nat) (noise : Nat → Nat)
    (decoys : List TokenStatusListDoc) (stage : Stage) :
    (allocation ι size).Follows execute caller (fun after _ => after = stage)
      (addNoise sectionID chosen noise decoys) stage := by
  induction decoys with
  | nil => rfl
  | cons decoy rest ih =>
    unfold addNoise
    split_ifs
    · exact ih
    · exact follows_keep trivial fun _ => ih

theorem follows_add (status : UInt8) (random : Random) (retries : Nat) :
    (allocation ι size).Follows execute caller
      (IfOk fun stage index => stage = .allocated sectionID index status)
      (add size sectionID status random retries) (.seen sectionID) := by
  induction retries with
  | zero => trivial
  | succ retries ih =>
    refine (follows_getRandomDecoys _ (follows_keep trivial ·) _).andThen ?_
    rintro decoys _ rfl database trace stages ⟨current, consistent⟩ same _
    have idle : ∀ created inserted, stages caller ≠ .creating created inserted := by
      rw [same]
      exact fun _ _ => nofun
    obtain unmatched | ⟨matched, decoy, stored⟩ := execute_claimEntry
      ⟨chosenIndex decoys (random.choice retries), status, false, sectionID⟩ database
    · refine ⟨.seen sectionID, ⟨current, ?_⟩, ?_⟩
      · rw [← same, update_eq_self]
        exact consistent.keep ⟨caller, .claimEntry _, _⟩ trivial
      · rw [unmatched]
        exact ih
    · refine ⟨.allocated sectionID (chosenIndex decoys (random.choice retries)) status,
        ⟨current, ?_⟩, ?_⟩
      · rw [matched]
        exact consistent.claim idle decoy stored
      · rw [matched]
        exact (follows_addNoise _ _ _ _ _).bind fun _ stage kept => kept

/-- How a request has ended. -/
def Request.Settles (request : Request) (stage : Stage) : Except String Reply → Prop
  | .ok (.allocated sectionID index) => ∃ status random, request = .addStatus status random ∧
      stage = .allocated sectionID index status
  | _ => True

theorem follows_serve (request : Request) :
    (allocation ι size).Follows execute caller request.Settles (request.serve size) .started := by
  cases request with
  | addStatus status random =>
    have settles : (allocation ι size).Follows execute caller (IfOk fun stage reply =>
        ∃ sectionID index, reply = .allocated sectionID index ∧
          stage = .allocated sectionID index status)
        (addStatus size status random) .started := by
      refine (follows_createNewSectionIfNeeded _).andThen ?_
      rintro sectionID _ rfl
      refine (follows_add _ _ _ 3).andThen fun index stage claimed => ?_
      exact ⟨sectionID, index, rfl, claimed⟩
    refine settles.mono fun result stage reached => ?_
    cases result with
    | error => trivial
    | ok reply =>
      obtain ⟨sectionID, index, rfl, claimed⟩ := reached
      exact ⟨status, random, rfl, claimed⟩
  | updateStatus sectionID index status =>
    exact follows_keep trivial fun _ => trivial

end Follows

/-! ## Whole runs -/

/-- A database that the service can work with: the metadata lists the sections up to the current
one, these are populated, and there are no others. -/
def Ready (size : Nat) (database : Database) : Prop :=
  ∃ current rest, database.metadata = ⟨current, range (current + 1)⟩ :: rest ∧
    (∀ sectionID ≤ current, ∀ index < size, database.Has (sectionID, index)) ∧
    ∀ id, database.Has id → id.1 ≤ current

/-- What is left to do after the first of several insertions. -/
theorem run_insertMany_cons {after : Database} (rest : List TokenStatusListDoc) {inserted : Bool}
    (outcome : execute (.insertEntry doc) database = (inserted, after)) :
    (insertMany (doc :: rest)).run execute database =
      if inserted then (insertMany rest).run execute after
      else (.error "E11000 duplicate key error", after) := by
  conv_lhs => unfold insertMany Process.run; rw [outcome]
  cases inserted <;> rfl

theorem run_insertMany (docs : List TokenStatusListDoc) (database : Database)
    (done : ((insertMany docs).run execute database).1 = .ok ()) :
    ((insertMany docs).run execute database).2.metadata = database.metadata ∧
      ∀ id, ((insertMany docs).run execute database).2.Has id ↔
        id ∈ docs.map (·.key) ∨ database.Has id := by
  induction docs generalizing database with
  | nil => exact ⟨rfl, fun id => by simp [insertMany]⟩
  | cons doc rest ih =>
    obtain ⟨refused, _⟩ | ⟨after, added, metadata, _, present⟩ := execute_insertEntry doc database
    · rw [run_insertMany_cons _ refused] at done
      cases done
    · rw [run_insertMany_cons _ added, if_pos rfl] at done ⊢
      obtain ⟨sameMetadata, entries⟩ := ih after done
      refine ⟨sameMetadata.trans metadata, fun id => ?_⟩
      rw [entries, present, map_cons, mem_cons]
      tauto

/-- The first start on an empty database makes one section of decoys. -/
theorem startUp_eq_ok {size : Nat} {seed : Nat → Nat}
    (done : ((startUp size seed).run execute ⟨.empty, []⟩).1 = .ok ()) :
    ((startUp size seed).run execute ⟨.empty, []⟩).2.metadata = [⟨0, [0]⟩] ∧
      ∀ id, ((startUp size seed).run execute ⟨.empty, []⟩).2.Has id ↔
        ∃ index < size, (0, index) = id := by
  have started : (startUp size seed).run execute ⟨.empty, []⟩ =
      (createNewSection 0 size seed).run execute ⟨.empty, [⟨0, [0]⟩]⟩ := rfl
  rw [started, createNewSection] at done ⊢
  split_ifs at done ⊢ with empty
  · cases done
  obtain ⟨metadata, entries⟩ := run_insertMany _ _ done
  refine ⟨metadata, fun id => ?_⟩
  rw [entries, or_iff_left (by rintro ⟨⟩), map_map, mem_map]
  simp only [mem_range]
  rfl

/-- The first start on an empty database makes it ready. -/
theorem ready_of_startUp (size : Nat) (seed : Nat → Nat)
    (done : ((startUp size seed).run execute ⟨.empty, []⟩).1 = .ok ()) :
    Ready size ((startUp size seed).run execute ⟨.empty, []⟩).2 := by
  obtain ⟨metadata, entries⟩ := startUp_eq_ok done
  refine ⟨0, [], metadata, fun sectionID first index inside => ?_, fun id has => ?_⟩
  · obtain rfl := le_zero.mp first
    exact (entries _).mpr ⟨index, inside, rfl⟩
  · obtain ⟨_, _, rfl⟩ := (entries id).mp has
    exact le_refl 0

section Runs

variable [DecidableEq ι]

/-- From any point of a run on, an allocated entry changes by updates of its status only. -/
theorem lookup_of_run {start pool : Pool ι databaseInterface Database (Except String Reply)}
    (run : FreeRun execute start pool)
    (stored : start.shared.entries.lookup id = some doc) (allocated : doc.decoy = false) :
    ∃ later, pool.trace = start.trace ++ later ∧ pool.shared.entries.lookup id =
      some { doc with status := statusAfter id doc.status later } := by
  induction run with
  | refl => exact ⟨[], (append_nil _).symm, stored⟩
  | @step pool caller _ _ ih =>
    obtain ⟨later, split, current⟩ := ih
    cases pending : pool.processes caller with
    | done result =>
      rw [Pool.advance_of_done pending]
      exact ⟨later, split, current⟩
    | call request next =>
      rw [Pool.advance_of_call pending]
      refine ⟨later ++ [_], by rw [split, append_assoc], ?_⟩
      rw [statusAfter_append]
      exact lookup_execute_of_allocated _ current allocated

/-- However the requests are interleaved: no entry is allocated twice; from its claim on, an
allocated entry has the status it was added with or the one that `UpdateStatus` gave it last, and
so has one that was allocated before; and the metadata lists the sections up to the current one,
each of them fully populated. -/
theorem allocation_safe (size : Nat) (requests : ι → Request) (database : Database)
    (ready : Ready size database) (pool : Pool ι databaseInterface Database (Except String Reply))
    (run : FreeRun execute (.initial database fun caller => (requests caller).serve size) pool) :
    (∀ first second sectionID index, pool.Returned first (.ok (.allocated sectionID index)) →
      pool.Returned second (.ok (.allocated sectionID index)) → first = second) ∧
    (∀ caller sectionID index, pool.Returned caller (.ok (.allocated sectionID index)) →
      ∃ status random before after, requests caller = .addStatus status random ∧
        pool.trace = before ++
          ⟨caller, .claimEntry ⟨index, status, false, sectionID⟩, (1 : Nat)⟩ :: after ∧
        pool.shared.entries.lookup (sectionID, index) =
          some ⟨index, statusAfter (sectionID, index) status after, false, sectionID⟩) ∧
    (∀ id doc, database.entries.lookup id = some doc → doc.decoy = false →
      pool.shared.entries.lookup id =
        some { doc with status := statusAfter id doc.status pool.trace }) ∧
    ∃ doc rest, pool.shared.metadata = doc :: rest ∧ doc.sections = range (doc.currentSection + 1) ∧
      ∀ sectionID ∈ doc.sections, ∀ index < size, pool.shared.Has (sectionID, index) := by
  obtain ⟨current, rest, metadata, populated, listed⟩ := ready
  have initially : (allocation ι size).Holds execute (fun caller => (requests caller).Settles)
      (.initial database fun caller => (requests caller).serve size) fun _ => .started :=
    ⟨⟨current, ⟨rest, metadata⟩, populated, fun id has => .inl (listed id has),
      fun _ => trivial, fun _ _ => False.elim⟩, fun caller => follows_serve (requests caller)⟩
  obtain ⟨stages, holds⟩ := Run.follows (fun _ _ _ _ _ _ _ _ => trivial) initially run
  obtain ⟨current, consistent⟩ := holds.1
  refine ⟨fun first second sectionID index isFirst isSecond => ?_,
    fun caller sectionID index returned => ?_, fun id doc stored isAllocated => ?_, ?_⟩
  · obtain ⟨_, _, _, stageFirst⟩ := holds.returned isFirst
    obtain ⟨_, _, _, stageSecond⟩ := holds.returned isSecond
    refine consistent.exclusive first second ?_
    rw [stageFirst, stageSecond]
    rfl
  · obtain ⟨status, random, isAdd, isAllocated⟩ := holds.returned returned
    have claimed := consistent.stage caller
    rw [isAllocated] at claimed
    obtain ⟨before, after, split, stored⟩ := claimed
    exact ⟨status, random, before, after, isAdd, split, stored⟩
  · obtain ⟨later, split, current⟩ := lookup_of_run run stored isAllocated
    rw [split]
    exact current
  · obtain ⟨rest, metadata⟩ := consistent.metadata
    refine ⟨_, rest, metadata, rfl, fun sectionID member index inside => ?_⟩
    exact consistent.populated _ (Nat.lt_succ_iff.mp (mem_range.mp member)) _ inside

end Runs

/-- Draws that probe the indices in turn and are the same otherwise. -/
def constantDraws (draw : Nat) : Random where
  seed _ := draw
  probe _ attempt := attempt
  choice _ := draw
  noise _ := draw

/-- Two additions, and an update of what the first one allocates. -/
def racingRequests : Fin 3 → Request
  | 0 => .addStatus 0 (constantDraws 0)
  | 1 => .addStatus 1 (constantDraws 1)
  | 2 => .updateStatus 1 1 2

/-- A database with sections of two entries, just started. -/
def startedDatabase : Database :=
  ((startUp 2 fun _ => 0).run execute ⟨.empty, []⟩).2

local instance neZero_three : NeZero 3 := ⟨by decide⟩

/-- Both additions find that a new section is needed, and only one of them can create it.  Its entry
is updated while the other decoy still gets its noise. -/
def racingPool : Pool (Fin 3) databaseInterface Database (Except String Reply) :=
  (Pool.initial startedDatabase fun caller => (racingRequests caller).serve 2).schedule execute
    [0, 1, 0, 1, 0, 1, 0, 0, 0, 0, 0, 0, 2, 0]

theorem racing_requests_safe :
    (racingPool.succeeded 0 = true ∧ racingPool.succeeded 1 = false ∧
      racingPool.shared.entries.lookup (1, 1) = some ⟨1, 2, false, 1⟩) ∧
    ∃ doc rest, racingPool.shared.metadata = doc :: rest ∧
      doc.sections = range (doc.currentSection + 1) ∧
      ∀ sectionID ∈ doc.sections, ∀ index < 2, racingPool.shared.Has (sectionID, index) := by
  have ready : Ready 2 startedDatabase := ready_of_startUp 2 _ (by decide +kernel)
  obtain ⟨_, _, _, consistent⟩ := allocation_safe 2 racingRequests startedDatabase ready racingPool
    (FreeRun.schedule _ _ _)
  exact ⟨by decide +kernel, consistent⟩

end Vc.Registry
