import Vc.Registry.Refresh

/-!
# Published lists catch up

A refresh that has read the section publishes what it has read.  An entry that is
written afterwards is not on that list, and if its request finds this refresh
still in flight, no other one is started.  `Timely` excludes exactly that.  Then
every entry is published as it is stored, unless a request that has written it has
yet to ask for a refresh.
-/

namespace Vc.Registry

open Concurrent Protocol Function List Database Trace Option

variable {ι : Type}

/-! ## What a request writes -/

/-- The section that a request writes to, and how many entries of it there are for sure. -/
abbrev Progress := Option (Nat × Nat)

/-- All that was written so far is in this section. -/
def Progress.Within (progress : Progress) (sectionID : Nat) : Prop :=
  ∀ used inserted, progress = some (used, inserted) → used = sectionID

/-- What the progress of a request says about the database and the operations so far. -/
def Progress.Holds (database : Database) (trace : List (Entry ι databaseInterface)) (caller : ι) :
    Progress → Prop
  | none => ∀ entry ∈ trace, entry.index = caller → writtenBy entry = none
  | some (sectionID, inserted) =>
    (∀ entry ∈ trace, entry.index = caller → ∀ id, writtenBy entry = some id → id.1 = sectionID) ∧
    ∀ index < inserted, database.Has (sectionID, index)

/-- Sections without gaps, and requests that write to one section each. -/
def writing (ι : Type) : Protocol ι databaseInterface Database Progress where
  inv database trace progress :=
    database.Contiguous ∧ ∀ caller, (progress caller).Holds database trace caller
  guard _ _ _ _ _ := True

variable {progress : Progress} {trace : List (Entry ι databaseInterface)}
  {entry : Entry ι databaseInterface} {database : Database} {caller : ι}

/-- An operation of another request. -/
theorem Progress.Holds.other (holds : progress.Holds database trace caller)
    (different : entry.index ≠ caller) :
    progress.Holds (execute entry.request database).2 (trace ++ [entry]) caller := by
  have earlier {found : Entry ι databaseInterface} (member : found ∈ trace ++ [entry])
      (mine : found.index = caller) : found ∈ trace := by
    rcases mem_append.mp member with old | new
    · exact old
    · exact absurd (mem_singleton.mp new ▸ mine) different
  cases progress with
  | none => exact fun found member mine => holds _ (earlier member mine) mine
  | some progress =>
    exact ⟨fun found member mine => holds.1 _ (earlier member mine) mine,
      fun index inside => has_execute_of_has _ (holds.2 _ inside)⟩

/-- The progress after an operation of the request itself. -/
def Progress.next (progress : Progress) (written : Option (Nat × Nat)) : Progress :=
  match progress, written with
  | some (sectionID, inserted), _ => some (sectionID, inserted)
  | none, some id => some (id.1, 0)
  | none, none => none

theorem Progress.Holds.next (holds : progress.Holds database trace entry.index)
    (inside : ∀ id, writtenBy entry = some id → progress.Within id.1) :
    (progress.next (writtenBy entry)).Holds (execute entry.request database).2 (trace ++ [entry])
      entry.index := by
  have split {motive : Entry ι databaseInterface → Prop}
      (earlier : ∀ found ∈ trace, found.index = entry.index → motive found) (now : motive entry) :
      ∀ found ∈ trace ++ [entry], found.index = entry.index → motive found := by
    intro found member mine
    rcases mem_append.mp member with old | new
    · exact earlier _ old mine
    · exact mem_singleton.mp new ▸ now
  rcases progress with - | ⟨sectionID, inserted⟩
  · cases wrote : writtenBy entry with
    | none => exact split holds wrote
    | some id =>
      refine ⟨split (fun found old mine other written => ?_) fun other written => ?_, nofun⟩
      · rw [holds _ old mine] at written
        cases written
      · rw [wrote] at written
        cases written
        rfl
  · refine ⟨split holds.1 fun id written => ?_,
      fun index less => has_execute_of_has _ (holds.2 _ less)⟩
    exact (inside id written _ _ rfl).symm

variable {sectionID : Nat}

theorem Progress.Within.next {written : Option (Nat × Nat)} (within : progress.Within sectionID)
    (inside : ∀ id, written = some id → id.1 = sectionID) :
    (progress.next written).Within sectionID := by
  rcases progress with - | ⟨used, inserted⟩
  · cases written with
    | none => exact fun _ _ => nofun
    | some id =>
      rintro _ _ ⟨⟩
      exact inside id rfl
  · exact within

section Follows

variable [DecidableEq ι] {α : Type}

/-- The invariant after an operation, from what it does to the caller's own progress. -/
theorem writing_inv_update
    {progress : ι → Progress} (entry : Entry ι databaseInterface) {after : Progress}
    (inv : (writing ι).inv database trace progress)
    (contiguous : (execute entry.request database).2.Contiguous)
    (mine : after.Holds (execute entry.request database).2 (trace ++ [entry]) entry.index) :
    (writing ι).inv (execute entry.request database).2 (trace ++ [entry])
      (update progress entry.index after) := by
  refine ⟨contiguous, fun request => ?_⟩
  by_cases same : request = entry.index
  · rw [same, update_self]
    exact mine
  · rw [update_of_ne same]
    exact (inv.2 _).other (Ne.symm same)

/-- The operations that insert nothing. -/
def DatabaseCall.KeepsKeys : DatabaseCall → Prop
  | .insertEntry _ => False
  | _ => True

variable {request : DatabaseCall}

theorem contiguous_execute (keeps : request.KeepsKeys) (contiguous : database.Contiguous) :
    (execute request database).2.Contiguous := by
  have same (id : Nat × Nat) : (execute request database).2.Has id ↔ database.Has id := by
    cases request with
    | insertEntry => exact keeps.elim
    | insertMetadata | setMetadata => rfl
    | _ =>
      refine has_execute ?_ _ id
      trivial
  intro sectionID index has smaller less
  exact (same _).mpr (contiguous _ _ ((same _).mp has) _ less)

variable {next : request.Answer → Process databaseInterface α} {post : Progress → α → Prop}

/-- An operation that inserts nothing and writes to the section of the request. -/
theorem follows_operation (keeps : request.KeepsKeys)
    (inside : ∀ answer id, request.written answer = some id → progress.Within id.1)
    (continues : ∀ answer, (writing ι).Follows execute caller post (next answer)
      (progress.next (request.written answer))) :
    (writing ι).Follows execute caller post (.call request next) progress := by
  intro database trace others inv same _
  have holds := inv.2 caller
  rw [same] at holds
  refine ⟨_, ?_, continues (execute _ _).1⟩
  exact writing_inv_update ⟨caller, request, (execute _ _).1⟩ inv
    (contiguous_execute keeps inv.1) (holds.next (inside _))

/-- An operation that writes nothing. -/
theorem follows_read (keeps : request.KeepsKeys) (reads : ∀ answer, request.written answer = none)
    (continues : ∀ answer, (writing ι).Follows execute caller post (next answer) progress) :
    (writing ι).Follows execute caller post (.call request next) progress := by
  refine follows_operation keeps (fun answer id written => ?_) fun answer => ?_
  · rw [reads] at written
    cases written
  · have unchanged : progress.next (request.written answer) = progress := by
      rw [reads]
      rcases progress with - | ⟨_, _⟩ <;> rfl
    rw [unchanged]
    exact continues _

/-- An operation of a request that writes to one section only. -/
theorem follows_within (keeps : request.KeepsKeys) (within : progress.Within sectionID)
    (inside : ∀ answer id, request.written answer = some id → id.1 = sectionID)
    (continues : ∀ answer (after : Progress), after.Within sectionID →
      (writing ι).Follows execute caller post (next answer) after) :
    (writing ι).Follows execute caller post (.call request next) progress :=
  follows_operation keeps (fun answer id written => (inside answer id written) ▸ within)
    fun answer => continues _ _ (within.next (inside answer))

/-- A request that has inserted the first entries of a section. -/
def Progress.Inserted (progress : Progress) (sectionID inserted : Nat) : Prop :=
  (progress = none ∧ inserted = 0) ∨ progress = some (sectionID, inserted)

variable {inserted : Nat}

theorem Progress.Inserted.within
    (done : progress.Inserted sectionID inserted) : progress.Within sectionID := by
  rcases done with ⟨rfl, _⟩ | rfl
  · exact fun _ _ => nofun
  · rintro _ _ ⟨⟩
    rfl

variable {after : Database}

theorem contiguous_of_present (contiguous : database.Contiguous)
    (present : ∀ id, after.Has id ↔ id = (sectionID, inserted) ∨ database.Has id)
    (earlier : ∀ index < inserted, database.Has (sectionID, index)) : after.Contiguous := by
  intro other index has smaller less
  refine (present _).mpr (.inr ?_)
  rcases (present _).mp has with same | old
  · cases same
    exact earlier _ less
  · exact contiguous _ _ old _ less

omit [DecidableEq ι] in
/-- The next entry of a new section. -/
theorem Progress.Holds.insert {doc : TokenStatusListDoc}
    {answer : Bool} (holds : progress.Holds database trace caller)
    (within : progress.Within doc.sectionID)
    (present : ∀ id, after.Has id ↔ id = doc.key ∨ database.Has id)
    (earlier : ∀ index < doc.index, database.Has (doc.sectionID, index)) :
    Progress.Holds after (trace ++ [⟨caller, .insertEntry doc, answer⟩]) caller
      (some (doc.sectionID, doc.index + 1)) := by
  refine ⟨fun entry member mine id written => ?_, fun index less => (present _).mpr ?_⟩
  · rcases mem_append.mp member with old | new
    · rcases progress with - | ⟨used, inserted⟩
      · rw [holds entry old mine] at written
        cases written
      · exact (holds.1 entry old mine id written).trans (within used inserted rfl)
    · cases mem_singleton.mp new
      simp only [writtenBy, DatabaseCall.written] at written
      split_ifs at written
      cases written
      rfl
  · rcases Nat.lt_succ_iff_lt_or_eq.mp less with before | rfl
    · exact .inr (earlier index before)
    · exact .inl rfl

/-- The entries of a new section are inserted in the order of the indices. -/
theorem writes_insertMany (sectionID : Nat) (seed : Nat → Nat) (left inserted : Nat)
    (done : progress.Inserted sectionID inserted) :
    (writing ι).Follows execute caller (IfOk fun after _ => after.Within sectionID)
      (insertMany ((range' inserted left).map (newDecoy sectionID seed))) progress := by
  induction left generalizing inserted progress with
  | zero => exact done.within
  | succ left ih =>
    intro database trace others inv same _
    have holds := inv.2 caller
    rw [same] at holds
    have earlier : ∀ index < inserted, database.Has (sectionID, index) := by
      rcases done with ⟨_, rfl⟩ | rfl
      · exact fun _ => nofun
      · exact holds.2
    obtain ⟨refused, _⟩ | ⟨after, added, _, _, present⟩ :=
      execute_insertEntry (newDecoy sectionID seed inserted) database
    · refine ⟨_, writing_inv_update ⟨caller, .insertEntry _, (execute _ _).1⟩ inv ?_
        (holds.next fun id written => ?_), ?_⟩
      · rw [refused]
        exact inv.1
      · rw [refused] at written
        cases written
      · rw [refused]
        trivial
    · refine ⟨some (sectionID, inserted + 1), writing_inv_update ⟨caller, .insertEntry _,
        (execute _ _).1⟩ inv ?_ ?_, ?_⟩
      · rw [added]
        exact contiguous_of_present inv.1 present earlier
      · rw [added]
        exact holds.insert done.within present earlier
      · rw [added]
        exact ih _ (.inr rfl)

theorem writes_createNewSection (sectionID size : Nat) (seed : Nat → Nat) :
    (writing ι).Follows execute caller (IfOk fun after _ => after.Within sectionID)
      (createNewSection sectionID size seed) none := by
  unfold createNewSection
  split_ifs
  · trivial
  · rw [range_eq_range']
    exact writes_insertMany _ _ _ 0 (.inl ⟨rfl, rfl⟩)

theorem writes_updateCurrentSection (sectionID : Nat) (within : progress.Within sectionID) :
    (writing ι).Follows execute caller (IfOk fun after _ => after.Within sectionID)
      (updateCurrentSection sectionID) progress := by
  refine follows_read trivial (fun _ => rfl) fun (found : Option TokenStatusListMetadataDoc) => ?_
  cases found with
  | none => trivial
  | some doc => exact follows_read trivial (fun _ => rfl) fun _ => within

theorem writes_createNewSectionIfNeeded (size : Nat) (seed : Nat → Nat) :
    (writing ι).Follows execute caller (IfOk fun after sectionID => after.Within sectionID)
      (createNewSectionIfNeeded size seed) none := by
  refine follows_read trivial (fun _ => rfl) fun (found : Option TokenStatusListMetadataDoc) => ?_
  cases found with
  | none => trivial
  | some doc =>
    refine follows_read trivial (fun _ => rfl) fun (count : Nat) => ?_
    split_ifs
    · refine (writes_createNewSection _ _ _).andThen fun _ progress within => ?_
      exact (writes_updateCurrentSection _ within).andThen fun _ _ within => within
    · rintro _ _ ⟨⟩

theorem writes_addNoise (sectionID chosen : Nat) (noise : Nat → Nat)
    (decoys : List TokenStatusListDoc) (within : progress.Within sectionID) :
    (writing ι).Follows execute caller (fun after _ => after.Within sectionID)
      (addNoise sectionID chosen noise decoys) progress := by
  induction decoys generalizing progress with
  | nil => exact within
  | cons decoy rest ih =>
    unfold addNoise
    split_ifs
    · exact ih within
    · refine follows_within trivial within (fun _ id written => ?_) fun _ after within => ih within
      cases written
      rfl

theorem writes_add (size sectionID : Nat) (status : UInt8) (random : Random) (retries : Nat)
    (within : progress.Within sectionID) :
    (writing ι).Follows execute caller (IfOk fun after _ => after.Within sectionID)
      (add size sectionID status random retries) progress := by
  induction retries generalizing progress with
  | zero => trivial
  | succ retries ih =>
    refine (follows_getRandomDecoys _ (follows_read trivial (fun _ => rfl) ·) _).andThen ?_
    rintro decoys _ rfl
    refine follows_within trivial within (fun (matched : Nat) id written => ?_)
      fun (matched : Nat) after within => ?_
    · simp only [DatabaseCall.written] at written
      split_ifs at written
      cases written
      rfl
    · split_ifs
      · exact ih within
      · exact (writes_addNoise _ _ _ _ within).bind fun _ _ within => within

/-- A request writes to the section that it asks to refresh. -/
theorem writes_serve (size : Nat) (request : Request) :
    (writing ι).Follows execute caller
      (IfOk fun after reply => after.Within (request.sectionOf reply))
      (request.serve size) none := by
  cases request with
  | addStatus status random =>
    refine (writes_createNewSectionIfNeeded _ _).andThen fun sectionID _ within => ?_
    exact (writes_add _ _ _ _ 3 within).andThen fun _ _ within => within
  | updateStatus sectionID index status =>
    refine follows_within trivial (fun _ _ => nofun) (fun (matched : Nat) id written => ?_)
      fun _ after within => within
    simp only [DatabaseCall.written] at written
    split_ifs at written
    cases written
    rfl

end Follows

/-! ## What is published -/

namespace Service

/-- A request has written the entry and has yet to ask for a refresh. -/
def Awaits (service : Service ι) (id : Nat × Nat) : Prop :=
  ∃ entry ∈ service.pool.trace, writtenBy entry = some id ∧ service.asked entry.index = false

/-- No request has written the entry. -/
def Untouched (service : Service ι) (id : Nat × Nat) : Prop :=
  ∀ entry ∈ service.pool.trace, writtenBy entry ≠ some id

/-- The status at an index of a cached token. -/
def statusIn (token : Option (List UInt8)) (index : Nat) : Option UInt8 :=
  token.bind (·[index]?)

/-- The token has the stored statuses, except for entries whose refresh has yet to be asked for;
before there is a token, this is about the entries that were written. -/
def Current (service : Service ι) (sectionID : Nat) (token : Option (List UInt8)) : Prop :=
  ∀ index, service.Awaits (sectionID, index) ∨
    statusIn token index = service.pool.shared.statusAt (sectionID, index) ∨
    token = none ∧ service.Untouched (sectionID, index)

/-- The token has a status for entries only. -/
def Known (service : Service ι) (sectionID : Nat) (token : Option (List UInt8)) : Prop :=
  ∀ index, (statusIn token index).isSome = true → service.pool.shared.Has (sectionID, index)

/-- What is known while a refresh is in flight. -/
def Refreshing (service : Service ι) (sectionID : Nat) : Option Flight → Prop
  | none => service.Current sectionID (service.jwt sectionID) ∧
      service.Current sectionID (service.cwt sectionID)
  | some .started => True
  | some (.fetched statuses) =>
    service.Current sectionID (some statuses) ∧ service.Known sectionID (some statuses)
  | some (.cachedJWT statuses) =>
    service.Current sectionID (some statuses) ∧ service.Known sectionID (some statuses) ∧
      service.jwt sectionID = some statuses
  | some (.cachedCWT statuses) => service.Current sectionID (some statuses) ∧
      service.jwt sectionID = some statuses ∧ service.cwt sectionID = some statuses

/-- What a successful request was answered with. -/
def reply (service : Service ι) (caller : ι) : Option Reply :=
  match service.pool.processes caller with
  | .done (.ok reply) => some reply
  | _ => none

/-- The statuses that a refresh in flight has read. -/
def fetched (service : Service ι) (sectionID : Nat) : Option (List UInt8) :=
  (service.refreshGroup sectionID).bind Flight.statuses

/-- A refresh that is in flight when a request asks for one has not read the section yet, or has
read what the database still holds. -/
def Timely (requests : ι → Request) (service : Service ι) : Event ι → Prop
  | .refreshSectionAsync caller => service.asked caller = false →
      ∀ reply ∈ service.reply caller,
        ∀ statuses ∈ service.fetched ((requests caller).sectionOf reply),
          statuses =
            service.pool.shared.getAllStatusesForSection ((requests caller).sectionOf reply)
  | _ => True

instance (requests : ι → Request) (service : Service ι) (event : Event ι) :
    Decidable (Timely requests service event) :=
  match event with
  | .refreshSectionAsync _ => inferInstanceAs (Decidable (_ → _))
  | .operation _ | .refreshSectionCoalesced _ | .refreshSection _ => .isTrue trivial

variable {requests : ι → Request} {service after : Service ι} {token : Option (List UInt8)}

/-- A token stays current if every entry that changes is awaited afterwards. -/
theorem Current.carry (current : service.Current sectionID token)
    (carries : ∀ index, after.Awaits (sectionID, index) ∨
      (service.Awaits (sectionID, index) → after.Awaits (sectionID, index)) ∧
      after.pool.shared.statusAt (sectionID, index) =
        service.pool.shared.statusAt (sectionID, index) ∧
      (service.Untouched (sectionID, index) → after.Untouched (sectionID, index))) :
    after.Current sectionID token := by
  intro index
  rcases carries _ with awaits | ⟨still, same, untouched⟩
  · exact .inl awaits
  · rw [same]
    exact (current _).imp still (.imp_right (.imp_right untouched))

theorem Known.mono (known : service.Known sectionID token)
    (keeps : ∀ id, service.pool.shared.Has id → after.pool.shared.Has id) :
    after.Known sectionID token :=
  fun index present => keeps _ (known index present)

/-- What is known of a section while its own tokens stay. -/
theorem Refreshing.carry {flight : Option Flight} (refreshing : service.Refreshing sectionID flight)
    (sameJWT : after.jwt sectionID = service.jwt sectionID)
    (sameCWT : after.cwt sectionID = service.cwt sectionID)
    (keeps : ∀ id, service.pool.shared.Has id → after.pool.shared.Has id)
    (idle : flight = none → ∀ token, service.Current sectionID token →
      after.Current sectionID token)
    (read : ∀ statuses, flight.bind Flight.statuses = some statuses →
      service.Current sectionID (some statuses) → after.Current sectionID (some statuses)) :
    after.Refreshing sectionID flight := by
  rcases flight with - | - | statuses | statuses | statuses
  · rw [Refreshing, sameJWT, sameCWT]
    exact refreshing.imp (idle rfl _) (idle rfl _)
  · trivial
  · exact refreshing.imp (read _ rfl) (·.mono keeps)
  · rw [Refreshing, sameJWT]
    exact refreshing.imp (read _ rfl) (.imp_left (·.mono keeps))
  · rw [Refreshing, sameJWT, sameCWT]
    exact refreshing.imp_left (read _ rfl)

theorem Current.congr
    (samePool : after.pool = service.pool) (sameAsked : after.asked = service.asked)
    (current : service.Current sectionID token) : after.Current sectionID token := by
  simpa only [Current, Awaits, Untouched, samePool, sameAsked] using current

variable {statuses : List UInt8}

section

variable (contiguous : service.pool.shared.Contiguous)

include contiguous

/-- A list that was just read. -/
theorem statusIn_of_read
    (read : statuses = service.pool.shared.getAllStatusesForSection sectionID) (index : Nat) :
    statusIn (some statuses) index = service.pool.shared.statusAt (sectionID, index) := by
  rw [read]
  exact getElem?_getAllStatusesForSection contiguous _ _

theorem known_of_read (read : statuses = service.pool.shared.getAllStatusesForSection sectionID) :
    service.Known sectionID (some statuses) := by
  intro index present
  rw [statusIn_of_read contiguous read, statusAt, isSome_map] at present
  exact present

end

variable [DecidableEq ι]

/-- The invariant of the service. -/
structure Consistent (requests : ι → Request) (service : Service ι) : Prop where
  writes : ∃ progress, (writing ι).Holds execute
    (fun caller => IfOk fun after reply =>
      Progress.Within after ((requests caller).sectionOf reply))
    service.pool progress
  returned : ∀ caller, service.asked caller = true → ∃ result, service.pool.Returned caller result
  known : ∀ sectionID, service.Known sectionID (service.jwt sectionID) ∧
    service.Known sectionID (service.cwt sectionID)
  refreshing : ∀ sectionID, service.Refreshing sectionID (service.refreshGroup sectionID)

section

variable (consistent : service.Consistent requests)

include consistent

/-- An operation on the database. -/
theorem Consistent.operation (caller : ι) :
    Consistent requests { service with pool := service.pool.advance execute caller } := by
  cases pending : service.pool.processes caller with
  | done result =>
    rw [Pool.advance_of_done pending]
    exact consistent
  | call request next =>
    obtain ⟨progress, holds⟩ := consistent.writes
    have writes := holds.advance caller fun _ _ _ => trivial
    rw [Pool.advance_of_call pending] at writes ⊢
    have unasked : service.asked caller = false := by
      by_contra asked
      obtain ⟨result, returned⟩ := consistent.returned caller (by simpa using asked)
      rw [Pool.Returned, pending] at returned
      cases returned
    have keeps : ∀ id, service.pool.shared.Has id →
        (execute request service.pool.shared).2.Has id := fun id => has_execute_of_has request
    have carries (sectionID : Nat) (token : Option (List UInt8))
        (current : service.Current sectionID token) : Current { service with pool :=
          { shared := (execute request service.pool.shared).2
            processes := update service.pool.processes caller
              (next (execute request service.pool.shared).1)
            trace := service.pool.trace ++
              [⟨caller, request, (execute request service.pool.shared).1⟩] } }
          sectionID token := by
      refine current.carry fun index => ?_
      by_cases wrote : DatabaseCall.written request (execute request service.pool.shared).1 =
          some (sectionID, index)
      · exact .inl ⟨_, mem_append_right _ mem_cons_self, wrote, unasked⟩
      · refine .inr ⟨?_, ?_, fun untouched entry member => ?_⟩
        · rintro ⟨entry, member, written, waits⟩
          exact ⟨entry, mem_append_left _ member, written, waits⟩
        · rw [statusAt, lookup_execute_of_not_written _ _ wrote]
          rfl
        · rcases mem_append.mp member with old | new
          · exact untouched _ old
          · cases mem_singleton.mp new
            exact wrote
    refine ⟨writes, fun other asked => ?_, fun sectionID => ?_, fun sectionID => ?_⟩
    · obtain ⟨result, returned⟩ := consistent.returned other asked
      have different : other ≠ caller := by
        rintro rfl
        rw [unasked] at asked
        cases asked
      exact ⟨result, (update_of_ne different _ _).trans returned⟩
    · exact (consistent.known _).imp (·.mono keeps) (·.mono keeps)
    · exact (consistent.refreshing _).carry rfl rfl keeps (fun _ => carries _)
        fun _ _ => carries _ _

theorem Consistent.contiguous : service.pool.shared.Contiguous := by
  obtain ⟨progress, holds⟩ := consistent.writes
  exact holds.1.1

/-- A step of one refresh. -/
theorem Consistent.refresh {flight : Option Flight} (samePool : after.pool = service.pool)
    (sameAsked : after.asked = service.asked)
    (group : after.refreshGroup = update service.refreshGroup sectionID flight)
    (sameJWT : ∀ other ≠ sectionID, after.jwt other = service.jwt other)
    (sameCWT : ∀ other ≠ sectionID, after.cwt other = service.cwt other)
    (known : after.Known sectionID (after.jwt sectionID) ∧
      after.Known sectionID (after.cwt sectionID))
    (mine : after.Refreshing sectionID flight) : after.Consistent requests := by
  have keeps : ∀ id, service.pool.shared.Has id → after.pool.shared.Has id :=
    fun id has => samePool ▸ has
  refine ⟨samePool ▸ consistent.writes, fun caller asked => ?_, fun other => ?_, fun other => ?_⟩
  · rw [samePool]
    exact consistent.returned _ (sameAsked ▸ asked)
  · by_cases same : other = sectionID
    · exact same ▸ known
    · rw [sameJWT _ same, sameCWT _ same]
      exact (consistent.known _).imp (·.mono keeps) (·.mono keeps)
  · rw [group]
    by_cases same : other = sectionID
    · rw [same, update_self]
      exact mine
    · rw [update_of_ne same]
      exact (consistent.refreshing _).carry (sameJWT _ same) (sameCWT _ same) keeps
        (fun _ _ => .congr samePool sameAsked) fun _ _ => .congr samePool sameAsked

/-- A refresh is started, or one in flight is shared. -/
theorem Consistent.doChan (sectionID : Nat) : (service.doChan sectionID).Consistent requests := by
  unfold Service.doChan
  split
  · exact consistent
  · exact consistent.refresh rfl rfl rfl (fun _ _ => rfl) (fun _ _ => rfl)
      (consistent.known _) trivial

theorem Consistent.refreshSection (sectionID : Nat) :
    (service.refreshSection sectionID).Consistent requests := by
  have here := consistent.refreshing sectionID
  have known := consistent.known sectionID
  unfold Service.refreshSection
  split
  · exact consistent
  · next isStarted =>
    refine consistent.refresh rfl rfl rfl (fun _ _ => rfl) (fun _ _ => rfl) known ?_
    split
    · next empty =>
      -- the section has no entries, so no token can show one
      have missing (token : Option (List UInt8)) (known : service.Known sectionID token) :
          service.Current sectionID token := by
        intro index
        have absent : service.pool.shared.statusAt (sectionID, index) = none :=
          (statusIn_of_read consistent.contiguous empty.symm index).symm
        refine .inr (.inl ?_)
        rw [absent, ← not_isSome_iff_eq_none]
        intro present
        have has := known index present
        rw [Has, map_eq_none_iff.mp absent] at has
        cases has
      exact ⟨missing _ known.1, missing _ known.2⟩
    · next status rest read =>
      exact ⟨fun index => .inr (.inl (statusIn_of_read consistent.contiguous read.symm _)),
        known_of_read consistent.contiguous read.symm⟩
  · next statuses isFetched =>
    rw [isFetched] at here
    refine consistent.refresh rfl rfl rfl (fun other differ => update_of_ne differ _ _)
      (fun _ _ => rfl) ⟨?_, known.2⟩ ⟨here.1, here.2, update_self _ _ _⟩
    dsimp only
    rw [update_self]
    exact here.2
  · next statuses isCached =>
    rw [isCached] at here
    refine consistent.refresh rfl rfl rfl (fun _ _ => rfl)
      (fun other differ => update_of_ne differ _ _) ⟨known.1, ?_⟩
      ⟨here.1, here.2.2, update_self _ _ _⟩
    dsimp only
    rw [update_self]
    exact here.2.1
  · next statuses isCached =>
    rw [isCached] at here
    obtain ⟨current, isJWT, isCWT⟩ := here
    refine consistent.refresh rfl rfl rfl (fun _ _ => rfl) (fun _ _ => rfl) known ?_
    exact ⟨isJWT ▸ current, isCWT ▸ current⟩

/-- What a request has written is in the section that it asks to refresh. -/
theorem Consistent.section_of_written
    {reply : Reply} (returned : service.pool.Returned caller (.ok reply))
    (member : entry ∈ service.pool.trace)
    (mine : entry.index = caller) {id : Nat × Nat} (written : writtenBy entry = some id) :
    id.1 = (requests caller).sectionOf reply := by
  obtain ⟨progress, holds⟩ := consistent.writes
  have within : (progress caller).Within ((requests caller).sectionOf reply) :=
    holds.returned returned
  have wrote := holds.1.2 caller
  cases current : progress caller with
  | none =>
    rw [current] at wrote
    rw [wrote _ member mine] at written
    cases written
  | some used =>
    rw [current] at wrote
    exact (wrote.1 _ member mine id written).trans (within _ _ current)

/-- A request has asked for a refresh of the section that it has written to. -/
theorem Consistent.ask {reply : Reply}
    (returned : service.pool.Returned caller (.ok reply)) {flight : Flight}
    (inFlight : service.refreshGroup ((requests caller).sectionOf reply) = some flight)
    (timely : ∀ statuses, flight.statuses = some statuses → statuses =
      service.pool.shared.getAllStatusesForSection ((requests caller).sectionOf reply)) :
    Consistent requests { service with asked := update service.asked caller true } := by
  refine ⟨consistent.writes, fun other asked => ?_, consistent.known, fun sectionID => ?_⟩
  · by_cases same : other = caller
    · exact ⟨_, same ▸ returned⟩
    · exact consistent.returned _ ((update_of_ne same _ _).symm.trans asked)
  · have here := consistent.refreshing sectionID
    by_cases same : sectionID = (requests caller).sectionOf reply
    · rw [same, inFlight] at here
      rw [same]
      rw [inFlight]
      exact here.carry rfl rfl (fun _ => id) nofun fun statuses read _ index =>
        .inr (.inl (statusIn_of_read consistent.contiguous (timely _ read) _))
    · have carries : ∀ token, service.Current sectionID token →
          Current { service with asked := update service.asked caller true } sectionID token := by
        refine fun token current => current.carry fun index => .inr ⟨?_, rfl, id⟩
        rintro ⟨entry, member, written, waits⟩
        refine ⟨entry, member, written, ?_⟩
        have different : entry.index ≠ caller := fun mine =>
          same (consistent.section_of_written returned member mine written)
        exact (update_of_ne different _ _).trans waits
      exact here.carry rfl rfl (fun _ => id) (fun _ => carries) fun _ _ => carries _

theorem Consistent.refreshSectionAsync (caller : ι)
    (timely : Timely requests service (.refreshSectionAsync caller)) :
    (service.refreshSectionAsync requests caller).Consistent requests := by
  unfold Service.refreshSectionAsync
  split
  · next reply returned =>
    split_ifs with asked
    · exact consistent
    · have started := consistent.doChan ((requests caller).sectionOf reply)
      have timely := timely (by simpa using asked) reply (by rw [Service.reply, returned]; rfl)
      cases group : service.refreshGroup ((requests caller).sectionOf reply) with
      | none =>
        simp only [Service.doChan, group] at started ⊢
        exact started.ask returned (update_self _ _ _) nofun
      | some flight =>
        simp only [Service.doChan, group]
        exact consistent.ask returned group fun statuses read =>
          timely _ (by rw [fetched, group]; exact read)
  · exact consistent

/-- Every event keeps the invariant, if requests for a refresh are timely. -/
theorem Consistent.step (event : Event ι) (timely : Timely requests service event) :
    (service.step requests event).Consistent requests := by
  cases event with
  | operation caller => exact consistent.operation _
  | refreshSectionAsync caller => exact consistent.refreshSectionAsync _ timely
  | refreshSectionCoalesced sectionID =>
    rw [Service.step]
    split_ifs
    · exact consistent.doChan _
    · exact consistent
  | refreshSection sectionID => exact consistent.refreshSection _

end

theorem Started.consistent {size : Nat} (started : Started size requests service)
    (contiguous : service.pool.shared.Contiguous) : service.Consistent requests := by
  obtain ⟨database, isPool⟩ := started.pool
  have writes : (writing ι).Holds execute
      (fun caller => IfOk fun after reply =>
        Progress.Within after ((requests caller).sectionOf reply)) service.pool fun _ => none := by
    rw [isPool] at contiguous ⊢
    exact ⟨⟨contiguous, fun _ => nofun⟩, fun caller => writes_serve _ _⟩
  have read (token : Option (List UInt8)) (sectionID : Nat)
      (cached : ∀ statuses, token = some statuses →
        statuses = service.pool.shared.getAllStatusesForSection sectionID) :
      service.Current sectionID token ∧ service.Known sectionID token := by
    cases token with
    | none =>
      refine ⟨fun index => .inr (.inr ⟨rfl, ?_⟩), fun index => nofun⟩
      rw [Untouched, isPool]
      exact nofun
    | some statuses =>
      exact ⟨fun index => .inr (.inl (statusIn_of_read contiguous (cached _ rfl) _)),
        known_of_read contiguous (cached _ rfl)⟩
  have jwt := fun sectionID => read _ sectionID (started.jwt sectionID)
  have cwt := fun sectionID => read _ sectionID (started.cwt sectionID)
  refine ⟨⟨_, writes⟩, fun caller asked => ?_, fun sectionID => ⟨(jwt _).2,
    (cwt _).2⟩, fun sectionID => ?_⟩
  · rw [started.asked] at asked
    cases asked
  · rw [started.idle]
    exact ⟨(jwt _).1, (cwt _).1⟩

/-- No refresh of a section is in flight, and every entry is published as it is stored, unless a
request that has written it has yet to ask for a refresh.  Where no token was cached so far, this
is about the entries that were written. -/
def UpToDate (service : Service ι) : Prop :=
  ∀ sectionID, service.refreshGroup sectionID = none →
    ∀ index, ¬service.Awaits (sectionID, index) →
      ∀ token, token = service.jwt sectionID ∨ token = service.cwt sectionID →
        statusIn token index = service.pool.shared.statusAt (sectionID, index) ∨
        token = none ∧ service.Untouched (sectionID, index)

theorem Consistent.upToDate (consistent : service.Consistent requests) : service.UpToDate := by
  intro sectionID idle index asked token isToken
  have refreshing := consistent.refreshing sectionID
  rw [idle] at refreshing
  rcases isToken with rfl | rfl
  · exact (refreshing.1 _).resolve_left asked
  · exact (refreshing.2 _).resolve_left asked

/-- However requests and refreshes are interleaved, the published lists catch up, if no request for
a refresh meets one that has read the section too early. -/
theorem published_lists_catch_up {size : Nat} (started : Started size requests service)
    (contiguous : service.pool.shared.Contiguous) (events : List (Event ι))
    (timely : EveryStep (step requests) (Timely requests) service events) :
    Throughout (step requests) UpToDate service events := by
  have throughout : Throughout (step requests) (Consistent requests) service events :=
    throughout_of_everyStep (fun _ event consistent => consistent.step event)
      (started.consistent contiguous) timely
  exact throughout.mono fun _ => Consistent.upToDate

end Service

/-- The first start leaves a section without gaps. -/
theorem contiguous_of_startUp (size : Nat) (seed : Nat → Nat)
    (done : ((startUp size seed).run execute ⟨.empty, []⟩).1 = .ok ()) :
    ((startUp size seed).run execute ⟨.empty, []⟩).2.Contiguous := by
  obtain ⟨_, entries⟩ := startUp_eq_ok done
  intro sectionID index has smaller less
  obtain ⟨_, inside, same⟩ := (entries _).mp has
  cases same
  exact (entries _).mpr ⟨smaller, less.trans inside, rfl⟩

/-- Two credentials are revoked at the same time. -/
def revocations : Bool → Request
  | false => .updateStatus 0 0 1
  | true => .updateStatus 0 1 1

/-- The service just after its start. -/
def startedService : Service Bool where
  pool := .initial startedDatabase fun caller => (revocations caller).serve 2
  asked _ := false
  refreshGroup _ := none
  jwt _ := none
  cwt _ := none

theorem startedService_started : Service.Started 2 revocations startedService where
  pool := ⟨_, rfl⟩
  asked _ := rfl
  idle _ := rfl
  jwt _ _ := nofun
  cwt _ _ := nofun

/-- The refresh for the first revocation has read the section when the second one is written, and
is still in flight when the second one asks. -/
def lostRevocation : List (Event Bool) :=
  [.operation false, .refreshSectionAsync false, .refreshSection 0, .operation true,
    .refreshSectionAsync true, .refreshSection 0, .refreshSection 0, .refreshSection 0]

theorem revocation_not_published :
    Service.Started 2 revocations startedService ∧
      let service := lostRevocation.foldl (Service.step revocations) startedService
      (∀ caller, service.reply caller = some .updated ∧ service.asked caller = true) ∧
        service.refreshGroup 0 = none ∧
        Service.statusIn (service.jwt 0) 1 = some 0 ∧ Service.statusIn (service.cwt 0) 1 = some 0 ∧
        service.pool.shared.statusAt (0, 1) = some 1 :=
  ⟨startedService_started, by decide +kernel⟩

/-- The second revocation is written before the refresh reads the section. -/
def sharedRefresh : List (Event Bool) :=
  [.operation false, .refreshSectionAsync false, .operation true, .refreshSection 0,
    .refreshSectionAsync true, .refreshSection 0, .refreshSection 0, .refreshSection 0]

theorem shared_refresh_publishes_both :
    Throughout (Service.step revocations) Service.UpToDate startedService sharedRefresh :=
  Service.published_lists_catch_up startedService_started
    (contiguous_of_startUp 2 (fun _ => 0) (by decide +kernel)) _ (by decide +kernel)

end Vc.Registry
