import Vc.Concurrent.Pool
import Vc.Data.Collection

/-!
# The token status list of the registry

`AddStatus` and `UpdateStatus` as processes over the operations of the database.
A section of the list is filled with decoys when it is created, and a status is
added by turning a decoy into a real entry: some indices are drawn at random, one
of the decoys among them is claimed under the condition that it still is a decoy,
and the others get a new random status so that the claim does not stand out.

Every operation is atomic, and so is every document of an `InsertMany` and every
element of a `BulkWrite`.  Random draws are arguments: a result for all of them
holds whatever is drawn.
-/

namespace Vc.Registry

open Concurrent Collection

structure TokenStatusListDoc where
  index : Nat
  status : UInt8
  decoy : Bool
  sectionID : Nat
  deriving DecidableEq

/-- The key of the unique index. -/
def TokenStatusListDoc.key (doc : TokenStatusListDoc) : Nat × Nat :=
  (doc.sectionID, doc.index)

structure TokenStatusListMetadataDoc where
  currentSection : Nat
  sections : List Nat
  deriving DecidableEq

/-- The two collections.  Reads and writes of the metadata reach its first document. -/
structure Database where
  entries : Collection TokenStatusListDoc.key
  metadata : List TokenStatusListMetadataDoc

/-! ## Operations of the database -/

/-- The operations that are made on the collections. -/
inductive DatabaseCall where
  /-- `FindOne` of the metadata -/
  | findMetadata
  /-- `InsertOne` of the metadata -/
  | insertMetadata (doc : TokenStatusListMetadataDoc)
  /-- `UpdateOne` of the metadata -/
  | setMetadata (doc : TokenStatusListMetadataDoc)
  /-- `CountDocuments` of all entries -/
  | countAll
  /-- `CountDocuments` of the decoys of a section, with a limit -/
  | countDecoys (sectionID limit : Nat)
  /-- One document of an `InsertMany` -/
  | insertEntry (doc : TokenStatusListDoc)
  /-- `FindOne` of an entry -/
  | findEntry (sectionID index : Nat)
  /-- `UpdateOne` of an entry that has to be a decoy -/
  | claimEntry (doc : TokenStatusListDoc)
  /-- One element of the `BulkWrite` of noise -/
  | setNoise (sectionID index : Nat) (status : UInt8)
  /-- `UpdateOne` of the status of an entry -/
  | setStatus (sectionID index : Nat) (status : UInt8)

/-- What an operation answers.  An update answers how many documents it matched. -/
def DatabaseCall.Answer : DatabaseCall → Type
  | .findMetadata => Option TokenStatusListMetadataDoc
  | .insertMetadata _ | .setMetadata _ | .setNoise _ _ _ => Unit
  | .countAll | .countDecoys _ _ | .claimEntry _ | .setStatus _ _ _ => Nat
  | .insertEntry _ => Bool
  | .findEntry _ _ => Option TokenStatusListDoc

/-- The database as a shared component. -/
def databaseInterface : Interface := ⟨DatabaseCall, DatabaseCall.Answer⟩

/-- Set the status of an entry. -/
def updateStatusOf (status : UInt8) : Update TokenStatusListDoc.key where
  apply doc := { doc with status }
  keyed _ := rfl

/-- Set the members of an entry.  The section and the index are those of the filter. -/
def updateEntry (claimed : TokenStatusListDoc) : Update TokenStatusListDoc.key where
  apply doc := { doc with status := claimed.status, decoy := claimed.decoy }
  keyed _ := rfl

/-- The entry at a section and an index, if it is a decoy. -/
def isDecoyAt (sectionID index : Nat) (doc : TokenStatusListDoc) : Bool :=
  doc.key = (sectionID, index) && doc.decoy

/-- `UpdateOne` of an entry, with the number of matched documents. -/
def Database.updateOne (database : Database) (filter : TokenStatusListDoc → Bool)
    (update : Update TokenStatusListDoc.key) : Nat × Database :=
  (if (database.entries.findOne filter).isSome then 1 else 0,
    { database with entries := database.entries.updateOne filter update })

/-- The atomic effect of every operation. -/
def execute : Executor databaseInterface Database
  | .findMetadata, database => (database.metadata.head?, database)
  | .insertMetadata doc, database =>
    ((), { database with metadata := database.metadata ++ [doc] })
  | .setMetadata doc, database =>
    ((), { database with metadata := database.metadata.set 0 doc })
  | .countAll, database => (database.entries.countDocuments fun _ => true, database)
  | .countDecoys sectionID limit, database =>
    (Nat.min limit (database.entries.countDocuments fun doc =>
      doc.sectionID = sectionID && doc.decoy), database)
  | .insertEntry doc, database =>
    match database.entries.insertOne doc with
    | none => (false, database)
    | some entries => (true, { database with entries })
  | .findEntry sectionID index, database =>
    (database.entries.lookup (sectionID, index), database)
  | .claimEntry doc, database =>
    database.updateOne (isDecoyAt doc.sectionID doc.index) (updateEntry doc)
  | .setNoise sectionID index status, database =>
    ((), (database.updateOne (isDecoyAt sectionID index) (updateStatusOf status)).2)
  | .setStatus sectionID index status, database =>
    database.updateOne (fun doc => doc.key = (sectionID, index)) (updateStatusOf status)

/-! ## Sections -/

def maxRandomLimit : Nat := 3

/-- `cryptoRandIntn` and `cryptoRandInt64n`, from a draw without a bound. -/
def cryptoRandIntn (draw n : Nat) : Nat := draw % n

def randomStatus (draw : Nat) : UInt8 := UInt8.ofNat (cryptoRandIntn draw maxRandomLimit)

/-- `InsertMany` of documents in order, which stops at the first one whose key is taken. -/
def insertMany : List TokenStatusListDoc → Process databaseInterface (Except String Unit)
  | [] => .done (.ok ())
  | doc :: rest => .call (.insertEntry doc) fun
      | true => insertMany rest
      | false => .done (.error "E11000 duplicate key error")

def newDecoy (sectionID : Nat) (seed : Nat → Nat) (index : Nat) : TokenStatusListDoc where
  index := index
  status := randomStatus (seed index)
  decoy := true
  sectionID := sectionID

/-- `CreateNewSection`.  The driver refuses to insert no documents at all. -/
def createNewSection (sectionID sectionSize : Nat) (seed : Nat → Nat) :
    Process databaseInterface (Except String Unit) :=
  if sectionSize = 0 then
    .done (.error "invalid documents: must provide at least one element in input slice")
  else insertMany ((List.range sectionSize).map (newDecoy sectionID seed))

/-- The document that the metadata reads need. -/
def noDocuments : String := "mongo: no documents in result"

def updateCurrentSection (newSection : Nat) : Process databaseInterface (Except String Unit) :=
  .call .findMetadata fun
    | none => .done (.error noDocuments)
    | some doc => .call (.setMetadata ⟨newSection, doc.sections ++ [newSection]⟩) fun _ =>
      .done (.ok ())

variable (sectionSize : Nat)

def createNewSectionIfNeeded (seed : Nat → Nat) : Process databaseInterface (Except String Nat) :=
  .call .findMetadata fun
    | none => .done (.error noDocuments)
    | some doc => .call (.countDecoys doc.currentSection 1001) fun (numberOfDecoyDocs : Nat) =>
      if numberOfDecoyDocs ≤ 1000 then
        (createNewSection (doc.currentSection + 1) sectionSize seed).andThen fun _ =>
          (updateCurrentSection (doc.currentSection + 1)).andThen fun _ =>
            .done (.ok (doc.currentSection + 1))
      else .done (.ok doc.currentSection)

/-! ## Allocation -/

/-- The decoys among `want = 10` entries that are drawn at random.  The first argument counts the
attempts that are left. -/
def probeDecoys (sectionSize sectionID : Nat) (probe : Nat → Nat) :
    Nat → List Nat → List TokenStatusListDoc → Process databaseInterface (List TokenStatusListDoc)
  | 0, _, docs => .done docs
  | attempts + 1, seen, docs =>
    if 10 ≤ docs.length then .done docs
    else if cryptoRandIntn (probe attempts) sectionSize ∈ seen then
      probeDecoys sectionSize sectionID probe attempts seen docs
    else
      .call (.findEntry sectionID (cryptoRandIntn (probe attempts) sectionSize)) fun found =>
        probeDecoys sectionSize sectionID probe attempts
          (cryptoRandIntn (probe attempts) sectionSize :: seen)
          (docs ++ found.toList.filter (·.decoy))

/-- `getRandomDecoys`.  The program stops where there is nothing to draw from. -/
def getRandomDecoys (sectionSize sectionID : Nat) (probe : Nat → Nat) :
    Process databaseInterface (Except String (List TokenStatusListDoc)) :=
  if sectionSize = 0 then .done (.error "crypto/rand: argument to Int is <= 0")
  else
    (probeDecoys sectionSize sectionID probe 50 [] []).bind fun docs =>
      if docs = [] then
        .done (.error ("no decoy entries found in section " ++ toString sectionID))
      else .done (.ok docs)

/-- What is drawn while a status is added: the statuses of a new section, the indices that are
probed and the decoy that is chosen in every round, and the noise for every index. -/
structure Random where
  seed : Nat → Nat
  probe : Nat → Nat → Nat
  choice : Nat → Nat
  noise : Nat → Nat

/-- The noise on the decoys that were not chosen. -/
def addNoise (sectionID chosen : Nat) (noise : Nat → Nat) :
    List TokenStatusListDoc → Process databaseInterface Unit
  | [] => .done ()
  | decoy :: rest =>
    if decoy.index = chosen then addNoise sectionID chosen noise rest
    else .call (.setNoise sectionID decoy.index (randomStatus (noise decoy.index))) fun _ =>
      addNoise sectionID chosen noise rest

def chosenIndex (decoys : List TokenStatusListDoc) (draw : Nat) : Nat :=
  (decoys.map (·.index)).getD (cryptoRandIntn draw decoys.length) 0

/-- `Add`, with the retries that are left. -/
def add (sectionSize sectionID : Nat) (status : UInt8) (random : Random) :
    Nat → Process databaseInterface (Except String Nat)
  | 0 => .done (.error ("failed to allocate status entry after 3 retries in section " ++
      toString sectionID))
  | retries + 1 =>
    (getRandomDecoys sectionSize sectionID (random.probe retries)).andThen fun decoys =>
      .call (.claimEntry ⟨chosenIndex decoys (random.choice retries), status, false, sectionID⟩)
        fun (matched : Nat) =>
          if matched = 0 then add sectionSize sectionID status random retries
          else
            (addNoise sectionID (chosenIndex decoys (random.choice retries)) random.noise
              decoys).bind fun _ =>
                .done (.ok (chosenIndex decoys (random.choice retries)))

/-! ## Requests -/

/-- What the service is asked for. -/
inductive Request where
  | addStatus (status : UInt8) (random : Random)
  | updateStatus (sectionID index : Nat) (status : UInt8)

/-- What a request is answered with. -/
inductive Reply where
  | allocated (sectionID index : Nat)
  | updated
  deriving DecidableEq

def addStatus (status : UInt8) (random : Random) :
    Process databaseInterface (Except String Reply) :=
  (createNewSectionIfNeeded sectionSize random.seed).andThen fun currentSection =>
    (add sectionSize currentSection status random 3).andThen fun index =>
      .done (.ok (.allocated currentSection index))

/-- `UpdateStatus`, which does not mind if there is no such entry. -/
def updateStatus (sectionID index : Nat) (status : UInt8) :
    Process databaseInterface (Except String Reply) :=
  .call (.setStatus sectionID index status) fun _ => .done (.ok .updated)

/-- The process of a request. -/
def Request.serve :
    Request → Process databaseInterface (Except String Reply)
  | .addStatus status random => Registry.addStatus sectionSize status random
  | .updateStatus sectionID index status => Registry.updateStatus sectionID index status

/-! ## Start-up -/

def initMetadataDoc : Process databaseInterface (Except String Unit) :=
  .call .findMetadata fun
    | some _ => .done (.ok ())
    | none => .call (.insertMetadata ⟨0, [0]⟩) fun _ => .done (.ok ())

def initializeIfEmpty (seed : Nat → Nat) : Process databaseInterface (Except String Unit) :=
  .call .countAll fun (count : Nat) =>
    if count > 0 then .done (.ok ()) else createNewSection 0 sectionSize seed

/-- The first start of the service. -/
def startUp (seed : Nat → Nat) : Process databaseInterface (Except String Unit) :=
  initMetadataDoc.andThen fun _ => initializeIfEmpty sectionSize seed

end Vc.Registry
