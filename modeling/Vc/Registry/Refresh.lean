import Vc.Data.Trace
import Vc.Registry.Allocation

/-!
# Refreshing the published status lists

Every request that has written to a section asks for a refresh of its cached
Status List Tokens and does not wait for it.  `refreshGroup` runs at most one
refresh of a section at a time: a request that finds one in flight is served by
that one.  A refresh reads the whole section, then caches a JWT and a CWT.

A cached token is represented by the list of statuses in it.  The periodic
refresh waits for a refresh that it finds in flight; here it does not, which only
allows more interleavings.
-/

namespace Vc.Registry

open Concurrent Collection List Function DatabaseCall Option Nat

/-! ## The service -/

variable (database : Database)

/-- The entries of a section in the order of their indices. -/
def Database.sectionDocs (sectionID : Nat) : List TokenStatusListDoc :=
  (database.entries.records.filter fun doc => doc.sectionID = sectionID).insertionSort
    fun first second => first.index ≤ second.index

def Database.getAllStatusesForSection (sectionID : Nat) : List UInt8 :=
  (database.sectionDocs sectionID).map (·.status)

/-- How far `refreshSection` has come. -/
inductive Flight where
  | started
  /-- the section is read -/
  | fetched (statuses : List UInt8)
  /-- the JWT is cached -/
  | cachedJWT (statuses : List UInt8)
  /-- the CWT is cached, but the group still has the call -/
  | cachedCWT (statuses : List UInt8)
  deriving DecidableEq

/-- What a refresh has read. -/
def Flight.statuses : Flight → Option (List UInt8)
  | .started => none
  | .fetched statuses | .cachedJWT statuses | .cachedCWT statuses => some statuses

variable {ι : Type}

/-- The service with its requests, the calls of `refreshGroup` and the cached tokens. -/
structure Service (ι : Type) where
  pool : Pool ι databaseInterface Database (Except String Reply)
  /-- the requests that have called `refreshSectionAsync` -/
  asked : ι → Bool
  refreshGroup : Nat → Option Flight
  jwt : Nat → Option (List UInt8)
  cwt : Nat → Option (List UInt8)

/-- The section that a successful request asks to refresh. -/
def Request.sectionOf : Request → Reply → Nat
  | _, .allocated sectionID _ => sectionID
  | .updateStatus sectionID _ _, .updated => sectionID
  | .addStatus _ _, .updated => 0

/-- What can happen next. -/
inductive Event (ι : Type) where
  /-- A request makes its next operation on the database. -/
  | operation (caller : ι)
  /-- A request that is done calls `refreshSectionAsync`. -/
  | refreshSectionAsync (caller : ι)
  /-- The refresh loop calls `refreshSectionCoalesced`. -/
  | refreshSectionCoalesced (sectionID : Nat)
  /-- The refresh of a section goes on. -/
  | refreshSection (sectionID : Nat)

namespace Service

variable (service : Service ι)

/-- `refreshGroup.DoChan`: a call in flight is shared. -/
def doChan (sectionID : Nat) : Service ι :=
  match service.refreshGroup sectionID with
  | some _ => service
  | none => { service with
      refreshGroup := update service.refreshGroup sectionID (some .started) }

/-- The next step of `refreshSection`.  A section without entries is not cached. -/
def refreshSection (sectionID : Nat) : Service ι :=
  match service.refreshGroup sectionID with
  | none => service
  | some .started => { service with
      refreshGroup := update service.refreshGroup sectionID
        (match service.pool.shared.getAllStatusesForSection sectionID with
          | [] => none
          | status :: rest => some (.fetched (status :: rest))) }
  | some (.fetched statuses) => { service with
      jwt := update service.jwt sectionID (some statuses)
      refreshGroup := update service.refreshGroup sectionID (some (.cachedJWT statuses)) }
  | some (.cachedJWT statuses) => { service with
      cwt := update service.cwt sectionID (some statuses)
      refreshGroup := update service.refreshGroup sectionID (some (.cachedCWT statuses)) }
  | some (.cachedCWT _) => { service with
      refreshGroup := update service.refreshGroup sectionID none }

/-- The sections that the refresh loop goes through. -/
def getAllSections : List Nat :=
  match service.pool.shared.metadata with
  | [] => []
  | doc :: _ => doc.sections

variable [DecidableEq ι]

/-- A request asks once, after it has succeeded. -/
def refreshSectionAsync (requests : ι → Request) (service : Service ι) (caller : ι) : Service ι :=
  match service.pool.processes caller with
  | .done (.ok reply) =>
    if service.asked caller then service
    else { service.doChan ((requests caller).sectionOf reply) with
      asked := update service.asked caller true }
  | _ => service

/-- The effect of an event. -/
def step (requests : ι → Request) (service : Service ι) : Event ι → Service ι
  | .operation caller => { service with pool := service.pool.advance execute caller }
  | .refreshSectionAsync caller => service.refreshSectionAsync requests caller
  | .refreshSectionCoalesced sectionID =>
    if sectionID ∈ service.getAllSections then service.doChan sectionID else service
  | .refreshSection sectionID => service.refreshSection sectionID

/-- The service when it takes up its requests.  What is cached by then is what the database
holds; nothing need be cached before the refresh loop has started. -/
structure Started (size : Nat) (requests : ι → Request) (service : Service ι) : Prop where
  pool : ∃ database, service.pool = .initial database fun caller => (requests caller).serve size
  asked : ∀ caller, service.asked caller = false
  idle : ∀ sectionID, service.refreshGroup sectionID = none
  jwt : ∀ sectionID statuses, service.jwt sectionID = some statuses →
    statuses = service.pool.shared.getAllStatusesForSection sectionID
  cwt : ∀ sectionID statuses, service.cwt sectionID = some statuses →
    statuses = service.pool.shared.getAllStatusesForSection sectionID

end Service

/-! ## Entries that are written -/

/-- The entry that an operation has written. -/
def DatabaseCall.written : (request : DatabaseCall) → request.Answer → Option (Nat × Nat)
  | .insertEntry doc, (inserted : Bool) => if inserted then some doc.key else none
  | .claimEntry doc, (matched : Nat) => if matched = 0 then none else some doc.key
  | .setNoise sectionID index _, _ => some (sectionID, index)
  | .setStatus sectionID index _, (matched : Nat) =>
    if matched = 0 then none else some (sectionID, index)
  | _, _ => none

/-- The key that an executed operation has written. -/
def writtenBy (entry : Entry ι databaseInterface) : Option (Nat × Nat) :=
  written entry.request entry.answer

/-- The status of an entry. -/
def Database.statusAt (id : Nat × Nat) : Option UInt8 :=
  (database.entries.lookup id).map (·.status)

/-- An operation changes the entry that it writes and no other. -/
theorem lookup_execute_of_not_written (request : DatabaseCall) (database : Database)
    {id : Nat × Nat} (other : request.written (execute request database).1 ≠ some id) :
    (execute request database).2.entries.lookup id = database.entries.lookup id := by
  cases request with
  | insertEntry doc =>
    simp only [execute] at other ⊢
    split at other
    · rfl
    · next entries inserted =>
      have differ : id ≠ doc.key := fun same => other (by simp [written, same])
      rw [(insertOne_eq_some inserted).2, if_neg differ]
  | claimEntry doc =>
    refine lookup_updateOne_of_ne doc.key (fun found accepted => ?_) fun present same => ?_
    · have both : found.key = (doc.sectionID, doc.index) ∧ found.decoy = true := by
        simpa [isDecoyAt] using accepted
      exact both.1
    · refine other ?_
      rw [← same]
      simp [written, execute, Database.updateOne, present]
  | setNoise sectionID index status =>
    refine lookup_updateOne_of_ne (sectionID, index) (fun found accepted => ?_)
      fun present same => ?_
    · have both : found.key = (sectionID, index) ∧ found.decoy = true := by
        simpa [isDecoyAt] using accepted
      exact both.1
    · exact other (congrArg _ same)
  | setStatus sectionID index status =>
    refine lookup_updateOne_of_ne _
      (fun found accepted => of_decide_eq_true accepted) fun present same => other ?_
    rw [← same]
    simp [written, execute, Database.updateOne, present]
  | _ => rfl

/-! ## Sections without gaps -/

/-- The entries of a section stand under the first indices. -/
def Database.Contiguous : Prop :=
  ∀ sectionID index, database.Has (sectionID, index) →
    ∀ smaller < index, database.Has (sectionID, smaller)

/-- Increasing numbers without a gap are a range. -/
theorem eq_range'_of_contiguous {numbers : List Nat} {first : Nat}
    (increasing : numbers.Pairwise (· < ·)) (above : ∀ number ∈ numbers, first ≤ number)
    (contiguous : ∀ number ∈ numbers, ∀ smaller, first ≤ smaller → smaller < number →
      smaller ∈ numbers) :
    numbers = range' first numbers.length := by
  induction numbers generalizing first with
  | nil => rfl
  | cons number rest ih =>
    obtain ⟨smallest, increasing⟩ := pairwise_cons.mp increasing
    have least := above number mem_cons_self
    obtain rfl : number = first := by
      by_contra differ
      have present := contiguous number mem_cons_self first (le_refl _) (by omega)
      rcases mem_cons.mp present with same | later
      · exact differ same.symm
      · have := smallest first later
        omega
    rw [length_cons, range'_succ, ← ih increasing smallest]
    intro other member smaller after before
    rcases mem_cons.mp (contiguous _ (mem_cons_of_mem _ member) _
      (le_of_lt after) before) with same | later
    · exact absurd same (ne_of_gt after)
    · exact later

variable {database}

theorem Database.mem_sectionDocs {sectionID : Nat}
    {doc : TokenStatusListDoc} : doc ∈ database.sectionDocs sectionID ↔
      database.entries.lookup (sectionID, doc.index) = some doc := by
  rw [sectionDocs, mem_insertionSort, mem_filter]
  constructor
  · rintro ⟨stored, here⟩
    have isHere : doc.sectionID = sectionID := of_decide_eq_true here
    rw [← isHere]
    exact lookup_of_mem stored
  · intro found
    have keyed := key_of_lookup found
    exact ⟨mem_of_lookup found, decide_eq_true (congrArg Prod.fst keyed)⟩

theorem Database.increasing_sectionDocs (sectionID : Nat) :
    ((database.sectionDocs sectionID).map (·.index)).Pairwise (· < ·) := by
  have sorted : (database.sectionDocs sectionID).Pairwise
      fun first second => first.index ≤ second.index :=
    pairwise_insertionSort _ _
  have distinct : (database.sectionDocs sectionID).Nodup :=
    (perm_insertionSort _ _).nodup_iff.mpr
      (List.Nodup.filter _ (List.Nodup.of_map _ database.entries.unique))
  rw [pairwise_map]
  refine (sorted.and distinct).imp_of_mem fun {first second} isFirst isSecond related => ?_
  refine lt_of_le_of_ne related.1 fun same => related.2 ?_
  have found := mem_sectionDocs.mp isFirst
  rw [same, mem_sectionDocs.mp isSecond] at found
  exact (some.inj found).symm

/-- A list that is read from a section without gaps has every status at its index. -/
theorem Database.getElem?_getAllStatusesForSection
    (contiguous : database.Contiguous) (sectionID index : Nat) :
    (database.getAllStatusesForSection sectionID)[index]? =
      database.statusAt (sectionID, index) := by
  have indices : (database.sectionDocs sectionID).map (·.index) =
      range' 0 (database.sectionDocs sectionID).length := by
    have whole := eq_range'_of_contiguous (database.increasing_sectionDocs sectionID)
      (fun number _ => zero_le number) fun number member smaller _ less => ?_
    · rwa [length_map] at whole
    · obtain ⟨doc, isDoc, rfl⟩ := mem_map.mp member
      have has : database.Has (sectionID, doc.index) := by
        rw [Has, mem_sectionDocs.mp isDoc]
        rfl
      obtain ⟨found, isFound⟩ := isSome_iff_exists.mp
        (contiguous sectionID doc.index has smaller less)
      have keyed : found.index = smaller := congrArg Prod.snd (key_of_lookup isFound)
      exact mem_map.mpr ⟨found, mem_sectionDocs.mpr (keyed ▸ isFound), keyed⟩
  have at_index (doc : TokenStatusListDoc)
      (found : (database.sectionDocs sectionID)[index]? = some doc) : doc.index = index := by
    have number : ((database.sectionDocs sectionID).map (·.index))[index]? = some doc.index := by
      rw [List.getElem?_map, found, map_some]
    rw [indices] at number
    obtain ⟨_, same⟩ := List.getElem?_eq_some_iff.mp number
    simpa using same.symm
  rw [getAllStatusesForSection, List.getElem?_map]
  congr 1
  refine ext fun doc => ⟨fun found => ?_, fun found => ?_⟩
  · have member := mem_sectionDocs.mp (mem_of_getElem? found)
    rwa [at_index doc found] at member
  · have keyed : doc.index = index := congrArg Prod.snd (key_of_lookup found)
    have member : doc ∈ database.sectionDocs sectionID := mem_sectionDocs.mpr (keyed ▸ found)
    obtain ⟨position, inside, same⟩ := mem_iff_getElem.mp member
    have number : ((database.sectionDocs sectionID).map (·.index))[position]? = some index := by
      rw [List.getElem?_map, List.getElem?_eq_getElem inside, same, map_some, keyed]
    rw [indices] at number
    obtain ⟨_, isPosition⟩ := List.getElem?_eq_some_iff.mp number
    have here : position = index := by simpa using isPosition
    rw [← here, List.getElem?_eq_getElem inside, same]

end Vc.Registry
