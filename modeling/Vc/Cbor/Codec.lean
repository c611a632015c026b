import Vc.Cbor.Item

/-!
# Lossless encodings of data items

What a development needs of a CBOR library beyond the data model: items are
written as bytes and read back unchanged.  `Codec` carries that law.

`plain` is a codec that can be evaluated.  It is not the encoding of RFC 8949:
numbers are written in unary, so that it has no bound on lengths.
-/

namespace Vc.Cbor

open List

/-- Items as bytes. -/
structure Codec where
  marshal : Item → List UInt8
  unmarshal : List UInt8 → Except String Item
  lossless : ∀ item, unmarshal (marshal item) = .ok item

variable (codec : Codec)

theorem Codec.marshal_injective : Function.Injective codec.marshal := by
  intro first second same
  have read := codec.lossless first
  rw [same, codec.lossless] at read
  exact (Except.ok.inj read).symm

@[simp]
theorem Codec.marshal_inj {first second : Item} :
    codec.marshal first = codec.marshal second ↔ first = second :=
  codec.marshal_injective.eq_iff

/-- Values of a type as bytes. -/
structure Format (α : Type) where
  marshal : α → List UInt8
  unmarshal : List UInt8 → Except String α
  lossless : ∀ value, unmarshal (marshal value) = .ok value

/-- The format of a type whose values are shown as items. -/
def Codec.format {α : Type} (toItem : α → Item) (ofItem : Item → Except String α)
    (back : ∀ value, ofItem (toItem value) = .ok value) : Format α where
  marshal value := codec.marshal (toItem value)
  unmarshal data := (codec.unmarshal data).bind ofItem
  lossless value := by
    rw [codec.lossless]
    exact back value

/-! ## Readers -/

/-- A reader takes a value off the front of its input. -/
abbrev Reader (α : Type) := List UInt8 → Option (α × List UInt8)

variable {α : Type}

def writeNat (value : Nat) : List UInt8 :=
  replicate value 1 ++ [0]

def readNat : Reader Nat
  | [] => none
  | first :: rest =>
    if first = 0 then some (0, rest) else (readNat rest).map fun parts => (parts.1 + 1, parts.2)

theorem readNat_writeNat (value : Nat) (rest : List UInt8) :
    readNat (writeNat value ++ rest) = some (value, rest) := by
  induction value with
  | zero => rfl
  | succ value ih =>
    rw [writeNat, replicate_succ, cons_append, cons_append, readNat,
      if_neg (by decide), ← writeNat, ih, Option.map_some]

/-- A number of values, one after the other. -/
def readTimes (read : Reader α) : Nat → Reader (List α)
  | 0, data => some ([], data)
  | count + 1, data => do
    let first ← read data
    let others ← readTimes read count first.2
    some (first.1 :: others.1, others.2)

variable {values : List α} {read : Reader α}

theorem readTimes_flatMap {write : α → List UInt8}
    (reads : ∀ value ∈ values, ∀ rest, read (write value ++ rest) = some (value, rest))
    (rest : List UInt8) :
    readTimes read values.length (values.flatMap write ++ rest) = some (values, rest) := by
  induction values with
  | nil => rfl
  | cons first others ih =>
    have later := ih fun value member => reads value (mem_cons_of_mem _ member)
    simp [readTimes, reads first mem_cons_self, later]

/-- A list behind its length. -/
def writeList (write : α → List UInt8) (values : List α) : List UInt8 :=
  writeNat values.length ++ values.flatMap write

def readList (read : Reader α) : Reader (List α) := fun data => do
  let count ← readNat data
  readTimes read count.1 count.2

theorem readList_writeList {write : α → List UInt8}
    (reads : ∀ value ∈ values, ∀ rest, read (write value ++ rest) = some (value, rest))
    (rest : List UInt8) :
    readList read (writeList write values ++ rest) = some (values, rest) := by
  rw [readList, writeList, append_assoc, readNat_writeNat]
  exact readTimes_flatMap reads _

def readByte : Reader UInt8
  | [] => none
  | first :: rest => some (first, rest)

/-- The chunks of a string. -/
def writeChunks : List (List UInt8) → List UInt8 :=
  writeList (writeList fun byte => [byte])

def readChunkList : Reader (List (List UInt8)) :=
  readList (readList readByte)

theorem readChunkList_writeChunks (chunks : List (List UInt8)) (rest : List UInt8) :
    readChunkList (writeChunks chunks ++ rest) = some (chunks, rest) :=
  readList_writeList (fun _ _ => readList_writeList fun _ _ _ => rfl) _

/-! ## Items -/

def writeFlag (flag : Bool) : List UInt8 :=
  writeNat flag.toNat

def readFlag : Reader Bool := fun data => do
  let value ← readNat data
  some (value.1 ≠ 0, value.2)

theorem readFlag_writeFlag (flag : Bool) (rest : List UInt8) :
    readFlag (writeFlag flag ++ rest) = some (flag, rest) := by
  cases flag <;> rfl

mutual
/-- The number of the constructor, then its parts. -/
def write : Item → List UInt8
  | .unsigned value => 0 :: writeNat value
  | .negative value => 1 :: writeNat value
  | .bytes indefinite chunks => 2 :: (writeFlag indefinite ++ writeChunks chunks)
  | .text indefinite chunks => 3 :: (writeFlag indefinite ++ writeChunks chunks)
  | .array indefinite elements =>
    4 :: (writeFlag indefinite ++ (writeNat elements.length ++ writeAll elements))
  | .map indefinite entries =>
    5 :: (writeFlag indefinite ++ (writeNat entries.length ++ writeEntries entries))
  | .tag number content => 6 :: (writeNat number ++ write content)
  | .simple value => 7 :: writeNat value
  | .float width bits => 8 :: (writeNat width ++ writeNat bits)

def writeAll : List Item → List UInt8
  | [] => []
  | first :: rest => write first ++ writeAll rest

def writeEntries : List (Item × Item) → List UInt8
  | [] => []
  | (key, value) :: rest => (write key ++ write value) ++ writeEntries rest
end

/-- A key and a value. -/
def readEntry (read : Reader Item) : Reader (Item × Item) := fun data => do
  let key ← read data
  let value ← read key.2
  some ((key.1, value.1), value.2)

/-- The parts of an item. -/
def readParts (read : Reader Item) (kind : UInt8) (data : List UInt8) :
    Option (Item × List UInt8) :=
  match kind.toNat with
  | 0 => (readNat data).map fun parts => (.unsigned parts.1, parts.2)
  | 1 => (readNat data).map fun parts => (.negative parts.1, parts.2)
  | 2 => do
    let flag ← readFlag data
    (readChunkList flag.2).map fun parts => (.bytes flag.1 parts.1, parts.2)
  | 3 => do
    let flag ← readFlag data
    (readChunkList flag.2).map fun parts => (.text flag.1 parts.1, parts.2)
  | 4 => do
    let flag ← readFlag data
    (readList read flag.2).map fun parts => (.array flag.1 parts.1, parts.2)
  | 5 => do
    let flag ← readFlag data
    (readList (readEntry read) flag.2).map fun parts => (.map flag.1 parts.1, parts.2)
  | 6 => do
    let number ← readNat data
    (read number.2).map fun parts => (.tag number.1 parts.1, parts.2)
  | 7 => (readNat data).map fun parts => (.simple parts.1, parts.2)
  | 8 => do
    let width ← readNat data
    (readNat width.2).map fun parts => (.float width.1 parts.1, parts.2)
  | _ => none

def readBack : Nat → Reader Item
  | _, [] => none
  | 0, _ :: _ => none
  | fuel + 1, kind :: data => readParts (readBack fuel) kind data

theorem writeAll_eq_flatMap (elements : List Item) :
    writeAll elements = elements.flatMap write := by
  induction elements with
  | nil => rfl
  | cons first rest ih => rw [writeAll, ih, flatMap_cons]

theorem writeEntries_eq_flatMap (entries : List (Item × Item)) :
    writeEntries entries = entries.flatMap fun entry => write entry.1 ++ write entry.2 := by
  induction entries with
  | nil => rfl
  | cons first rest ih =>
    rw [writeEntries, ih, flatMap_cons]

theorem length_le_flatMap (write : α → List UInt8) {value : α}
    (member : value ∈ values) : (write value).length ≤ (values.flatMap write).length := by
  obtain ⟨before, after, rfl⟩ := append_of_mem member
  simp only [flatMap_append, flatMap_cons, length_append]
  omega

/-- The fuel that is left for the parts of an item. -/
theorem exists_fuel {kind : UInt8} {body : List UInt8} {fuel : Nat}
    (enough : (kind :: body).length ≤ fuel) : ∃ left, fuel = left + 1 ∧ body.length ≤ left :=
  ⟨fuel - 1, by simp only [length_cons] at enough; omega,
    by simp only [length_cons] at enough; omega⟩

/-- With enough fuel an item is read as it was written. -/
theorem readBack_write (item : Item) : ∀ fuel, (write item).length ≤ fuel → ∀ rest,
    readBack fuel (write item ++ rest) = some (item, rest) := by
  induction item using Item.induct with
  | array indefinite elements ih =>
    intro fuel enough rest
    rw [write]
    obtain ⟨left, rfl, fits⟩ := exists_fuel enough
    have reads : ∀ element ∈ elements, ∀ rest,
        readBack left (write element ++ rest) = some (element, rest) := by
      intro element member
      have part := length_le_flatMap write member
      refine ih _ member _ ?_
      simp only [writeAll_eq_flatMap, length_append] at fits
      omega
    have inside := readList_writeList reads rest
    rw [writeList, append_assoc] at inside
    simp only [cons_append, readBack, readParts, writeAll_eq_flatMap]
    simp [readFlag_writeFlag, inside]
  | map indefinite entries ih =>
    intro fuel enough rest
    rw [write]
    obtain ⟨left, rfl, fits⟩ := exists_fuel enough
    have reads : ∀ entry ∈ entries, ∀ rest, readEntry (readBack left)
        ((write entry.1 ++ write entry.2) ++ rest) = some (entry, rest) := by
      intro entry member rest
      have part := length_le_flatMap (fun entry : Item × Item => write entry.1 ++ write entry.2)
        member
      simp only [writeEntries_eq_flatMap, length_append] at fits part
      obtain ⟨key, value⟩ := ih entry member
      rw [readEntry, append_assoc, key _ (by omega)]
      simp [value left (by omega)]
    have inside := readList_writeList reads rest
    rw [writeList] at inside
    simp only [cons_append, append_assoc, readBack, readParts, writeEntries_eq_flatMap] at inside ⊢
    simp [readFlag_writeFlag, inside]
  | tag number content ih =>
    intro fuel enough rest
    rw [write]
    obtain ⟨left, rfl, fits⟩ := exists_fuel enough
    simp only [length_append] at fits
    simp only [cons_append, readBack, readParts]
    simp [readNat_writeNat, ih left (by omega)]
  | bytes | text =>
    intro fuel enough rest
    rw [write]
    obtain ⟨left, rfl, _⟩ := exists_fuel enough
    simp only [cons_append, readBack, readParts]
    simp [readFlag_writeFlag, readChunkList_writeChunks]
  | _ =>
    intro fuel enough rest
    rw [write]
    obtain ⟨left, rfl, _⟩ := exists_fuel enough
    simp only [cons_append, readBack, readParts]
    simp [readNat_writeNat]

/-- A codec that can be evaluated. -/
def plain : Codec where
  marshal := write
  unmarshal data :=
    match readBack data.length data with
    | some (item, []) => .ok item
    | _ => .error "malformed item"
  lossless item := by
    have read := readBack_write item _ (Nat.le_refl _) []
    rw [append_nil] at read
    rw [read]

end Vc.Cbor
