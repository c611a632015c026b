import Vc.Cbor.Item
import Vc.Data.Checks

/-!
# Reading CBOR

The reader takes one item off the front of its input.  A mode says whether it
admits indefinite lengths and how far it follows nested items.

`encodes_read` says that the reader invents nothing: what it consumed encodes
the item that it returns.  It recurses on fuel; `takes` says how much an
encoding needs, and `readItem` gives more.
-/

namespace Vc.Cbor

open Checks List Item

/-- Why a reader stops. -/
inductive Fault where
  | endOfInput
  | malformed
  | nesting
  | tooMany
  | indefinite
  | outOfFuel
  deriving DecidableEq

/-- What a reader admits. -/
structure Mode where
  indefinite : Bool
  maxNestedLevels : Nat
  maxArrayElements : Nat
  maxMapPairs : Nat

/-- A head: major type, additional information, argument. -/
structure Head where
  major : Nat
  info : Nat
  argument : Nat

/-- The additional information of an indefinite length. -/
def Head.isIndefinite (head : Head) : Bool := head.info = 31

/-- The mode admits the length of the item. -/
def Mode.Admits (mode : Mode) (head : Head) : Prop :=
  head.isIndefinite = true → mode.indefinite = true

instance (mode : Mode) (head : Head) : Decidable (mode.Admits head) :=
  inferInstanceAs (Decidable (_ → _))

/-- Split a number of bytes off. -/
def takeBytes (count : Nat) (data : List UInt8) : Except Fault (List UInt8 × List UInt8) :=
  if count ≤ data.length then .ok (data.take count, data.drop count) else .error .endOfInput

/-- `wellformedHead` -/
def readHead : List UInt8 → Except Fault (Head × List UInt8)
  | [] => .error .endOfInput
  | initial :: rest =>
    let major := initial.toNat / 32
    let info := initial.toNat % 32
    if info ≤ 23 then .ok (⟨major, info, info⟩, rest)
    else if info ≤ 27 then
      (takeBytes (2 ^ (info - 24)) rest).map fun parts =>
        (⟨major, info, bigEndian parts.1⟩, parts.2)
    else if info = 31 ∧ 2 ≤ major ∧ major ≤ 5 then .ok (⟨major, info, info⟩, rest)
    else .error .malformed

/-- `wellformedIndefiniteString` -/
def readChunks (major : Nat) : Nat → List UInt8 → Except Fault (List (List UInt8) × List UInt8)
  | 0, _ => .error .outOfFuel
  | _ + 1, [] => .error .endOfInput
  | fuel + 1, first :: rest =>
    if first = breakCode then .ok ([], rest)
    else do
      require (first.toNat / 32 = major ∧ first.toNat % 32 ≠ 31) .malformed
      let head ← readHead (first :: rest)
      let chunk ← takeBytes head.1.argument head.2
      let chunks ← readChunks major fuel chunk.2
      .ok (chunk.1 :: chunks.1, chunks.2)

/-- The chunks of a string. -/
def readString (mode : Mode) (head : Head) (data : List UInt8) :
    Except Fault (List (List UInt8) × List UInt8) :=
  if head.isIndefinite then do
    require (mode.Admits head) .indefinite
    readChunks head.major (data.length + 1) data
  else (takeBytes head.argument data).map fun parts => ([parts.1], parts.2)

/-- A simple value or a floating-point number. -/
def readPrimitive (head : Head) (data : List UInt8) : Except Fault (Item × List UInt8) :=
  if head.info ≤ 23 then .ok (.simple head.argument, data)
  else if head.info = 24 then do
    require (32 ≤ head.argument) .malformed
    .ok (.simple head.argument, data)
  else .ok (.float (2 ^ (head.info - 24)) head.argument, data)

/-- The items of a map, as its entries. -/
def pairUp : List Item → Option (List (Item × Item))
  | [] => some []
  | [_] => none
  | key :: value :: rest => (pairUp rest).map ((key, value) :: ·)

/-- The next item is a tag. -/
def startsWithTag : List UInt8 → Bool
  | [] => false
  | first :: _ => first.toNat / 32 = 6

/-- The depth of the content of a tag: only a tag in a tag counts. -/
def tagDepth (depth : Nat) (data : List UInt8) : Nat :=
  if startsWithTag data then depth + 1 else depth

/-- The entries of a map from its items. -/
def asMap (mode : Mode) (indefinite : Bool) (items : List Item) : Except Fault Item :=
  match pairUp items with
  | none => .error .malformed
  | some entries => do
    require (entries.length ≤ mode.maxMapPairs) .tooMany
    .ok (.map indefinite entries)

mutual
/-- `wellformedInternal` -/
def read (mode : Mode) : (fuel depth : Nat) → List UInt8 → Except Fault (Item × List UInt8)
  | 0, _, _ => .error .outOfFuel
  | fuel + 1, depth, data => do
    let head ← readHead data
    match head.1.major with
    | 0 => .ok (.unsigned head.1.argument, head.2)
    | 1 => .ok (.negative head.1.argument, head.2)
    | 2 => (readString mode head.1 head.2).map fun parts =>
      (.bytes head.1.isIndefinite parts.1, parts.2)
    | 3 => (readString mode head.1 head.2).map fun parts =>
      (.text head.1.isIndefinite parts.1, parts.2)
    | 4 => do
      require (depth + 1 ≤ mode.maxNestedLevels) .nesting
      require (mode.Admits head.1) .indefinite
      let items ← (
        if head.1.isIndefinite then readUntilBreak mode fuel (depth + 1) head.2
        else readMany mode fuel (depth + 1) head.1.argument head.2)
      require (items.1.length ≤ mode.maxArrayElements) .tooMany
      .ok (.array head.1.isIndefinite items.1, items.2)
    | 5 => do
      require (depth + 1 ≤ mode.maxNestedLevels) .nesting
      require (mode.Admits head.1) .indefinite
      let items ← (
        if head.1.isIndefinite then readUntilBreak mode fuel (depth + 1) head.2
        else readMany mode fuel (depth + 1) (2 * head.1.argument) head.2)
      let item ← asMap mode head.1.isIndefinite items.1
      .ok (item, items.2)
    | 6 => do
      require (tagDepth depth head.2 ≤ mode.maxNestedLevels) .nesting
      let content ← read mode fuel (tagDepth depth head.2) head.2
      .ok (.tag head.1.argument content.1, content.2)
    | _ => readPrimitive head.1 head.2
termination_by structural fuel => fuel

/-- A given number of items. -/
def readMany (mode : Mode) :
    (fuel depth count : Nat) → List UInt8 → Except Fault (List Item × List UInt8)
  | _, _, 0, data => .ok ([], data)
  | 0, _, _ + 1, _ => .error .outOfFuel
  | fuel + 1, depth, count + 1, data => do
    let item ← read mode fuel depth data
    let items ← readMany mode fuel depth count item.2
    .ok (item.1 :: items.1, items.2)
termination_by structural fuel => fuel

/-- `wellformedIndefiniteArrayOrMap` -/
def readUntilBreak (mode : Mode) :
    (fuel depth : Nat) → List UInt8 → Except Fault (List Item × List UInt8)
  | 0, _, _ => .error .outOfFuel
  | _ + 1, _, [] => .error .endOfInput
  | fuel + 1, depth, first :: rest =>
    if first = breakCode then .ok ([], rest)
    else do
      let item ← read mode fuel depth (first :: rest)
      let items ← readUntilBreak mode fuel depth item.2
      .ok (item.1 :: items.1, items.2)
termination_by structural fuel => fuel
end

/-- Read the first item of the data. -/
def readItem (mode : Mode) (data : List UInt8) : Except Fault (Item × List UInt8) :=
  read mode (2 * data.length + 1) 0 data

/-! ## Soundness -/

variable {data : List UInt8}

theorem takeBytes_eq_ok {count : Nat} {parts : List UInt8 × List UInt8}
    (taken : takeBytes count data = .ok parts) :
    data = parts.1 ++ parts.2 ∧ parts.1.length = count := by
  rw [takeBytes] at taken
  split_ifs at taken with enough
  cases taken
  exact ⟨(take_append_drop _ _).symm, length_take_of_le enough⟩

/-- The bytes that a head can be read from. -/
inductive HeadRead : Head → List UInt8 → Prop
  | direct {major info : Nat} (small : info ≤ 23) :
      HeadRead ⟨major, info, info⟩ [initialByte major info]
  | extended {major size : Nat} {tail : List UInt8} (sizes : size ≤ 3)
      (length : tail.length = 2 ^ size) :
      HeadRead ⟨major, 24 + size, bigEndian tail⟩ (initialByte major (24 + size) :: tail)
  | indefinite {major : Nat} (chunked : 2 ≤ major ∧ major ≤ 5) :
      HeadRead ⟨major, 31, 31⟩ [initialByte major 31]

theorem initialByte_div_mod (byte : UInt8) :
    initialByte (byte.toNat / 32) (byte.toNat % 32) = byte := by
  rw [initialByte, Nat.div_add_mod']
  exact UInt8.ofNat_toNat

variable {result : Head × List UInt8}

theorem readHead_eq_ok (done : readHead data = .ok result) :
    ∃ used, data = used ++ result.2 ∧ HeadRead result.1 used := by
  cases data with
  | nil => cases done
  | cons initial rest =>
    have same := initialByte_div_mod initial
    simp only [readHead] at done
    split_ifs at done with direct extended indefinite
    · cases done
      have here : HeadRead ⟨initial.toNat / 32, _, _⟩ [initialByte (initial.toNat / 32) _] :=
        .direct direct
      rw [same] at here
      exact ⟨[initial], rfl, here⟩
    · obtain ⟨parts, taken, rfl⟩ := map_eq_ok_iff.mp done
      obtain ⟨split, length⟩ := takeBytes_eq_ok taken
      obtain ⟨size, info⟩ := Nat.exists_eq_add_of_le (Nat.lt_of_not_le direct)
      rw [info, Nat.add_sub_cancel_left] at length
      have here : HeadRead ⟨initial.toNat / 32, 24 + size, bigEndian parts.1⟩
          (initialByte (initial.toNat / 32) (24 + size) :: parts.1) :=
        .extended (by omega) length
      rw [← info, same] at here
      exact ⟨initial :: parts.1, by rw [split]; rfl, here⟩
    · cases done
      have here : HeadRead ⟨initial.toNat / 32, 31, 31⟩ [initialByte (initial.toNat / 32) 31] :=
        .indefinite indefinite.2
      rw [← indefinite.1, same] at here
      exact ⟨[initial], rfl, here⟩

theorem readHead_cons_eq_ok {first : UInt8} {rest : List UInt8}
    (done : readHead (first :: rest) = .ok result) :
    result.1.major = first.toNat / 32 ∧ result.1.info = first.toNat % 32 := by
  simp only [readHead] at done
  split_ifs at done
  · cases done
    exact ⟨rfl, rfl⟩
  · obtain ⟨parts, _, rfl⟩ := map_eq_ok_iff.mp done
    exact ⟨rfl, rfl⟩
  · cases done
    exact ⟨rfl, rfl⟩

variable {head : Head} {used : List UInt8}

theorem HeadRead.headOf (here : HeadRead head used)
    (definite : head.isIndefinite = false) : HeadOf head.major head.argument used := by
  cases here with
  | direct small => exact .direct small
  | extended sizes length => exact .extended sizes length
  | indefinite => cases definite

theorem HeadRead.eq_initialByte (here : HeadRead head used)
    (indefinite : head.isIndefinite = true) : used = [initialByte head.major 31] := by
  have info : head.info = 31 := of_decide_eq_true indefinite
  cases here with
  | direct small | extended sizes length => dsimp only at info; omega
  | indefinite => rfl

theorem HeadRead.isIndefinite_eq_false
    (here : HeadRead head used) (other : head.major < 2 ∨ 5 < head.major) :
    head.isIndefinite = false := by
  cases here with
  | direct small | extended sizes length => exact decide_eq_false (by dsimp only; omega)
  | indefinite chunked => dsimp only at other; omega

variable {result : List (List UInt8) × List UInt8} {fuel : Nat}

theorem readChunks_eq_ok {major : Nat} (done : readChunks major fuel data = .ok result) :
    ∃ used, data = used ++ breakCode :: result.2 ∧ ChunksOf major result.1 used := by
  induction fuel generalizing data result with
  | zero => cases done
  | succ fuel ih =>
    cases data with
    | nil => cases done
    | cons first rest =>
      simp only [readChunks] at done
      split_ifs at done with ends
      · cases done
        exact ⟨[], by rw [ends]; rfl, .nil⟩
      · simp only [bind_eq_ok_iff, require_eq_ok_iff] at done
        obtain ⟨_, ⟨sameMajor, definite⟩, head, headed, chunk, taken, chunks, later, same⟩ := done
        cases same
        obtain ⟨used, split, here⟩ := readHead_eq_ok headed
        obtain ⟨splitChunk, length⟩ := takeBytes_eq_ok taken
        obtain ⟨body, splitBody, inside⟩ := ih later
        refine ⟨used ++ chunk.1 ++ body, ?_, ?_⟩
        · rw [split, splitChunk, splitBody]
          simp
        · obtain ⟨headMajor, headInfo⟩ := readHead_cons_eq_ok headed
          have headOf := here.headOf (decide_eq_false (headInfo ▸ definite))
          rw [headMajor, sameMajor, ← length] at headOf
          exact .cons headOf inside

variable {mode : Mode}

/-- The chunks of a string, by the kind of its length. -/
theorem readString_eq_ok (done : readString mode head data = .ok result) : mode.Admits head ∧
    ((head.isIndefinite = true ∧ ∃ used, data = used ++ breakCode :: result.2 ∧
      ChunksOf head.major result.1 used) ∨
    (head.isIndefinite = false ∧ ∃ content, data = content ++ result.2 ∧
      content.length = head.argument ∧ result.1 = [content])) := by
  rw [readString] at done
  split_ifs at done with indefinite
  · obtain ⟨_, admits, chunks⟩ := bind_eq_ok_iff.mp done
    exact ⟨require_eq_ok_iff.mp admits, .inl ⟨indefinite, readChunks_eq_ok chunks⟩⟩
  · obtain ⟨parts, taken, rfl⟩ := map_eq_ok_iff.mp done
    obtain ⟨split, length⟩ := takeBytes_eq_ok taken
    have definite := Bool.eq_false_iff.mpr indefinite
    exact ⟨fun isIndefinite => absurd isIndefinite indefinite,
      .inr ⟨definite, parts.1, split, length, rfl⟩⟩

theorem length_flatMap_pair (entries : List (Item × Item)) :
    (entries.flatMap fun entry => [entry.1, entry.2]).length = 2 * entries.length := by
  induction entries with
  | nil => rfl
  | cons first rest ih =>
    simp only [flatMap_cons, length_append, length_cons, length_nil]
    omega

variable {items : List Item} {entries : List (Item × Item)}

theorem pairUp_eq_some (paired : pairUp items = some entries) :
    items = entries.flatMap fun entry => [entry.1, entry.2] := by
  induction items using pairUp.induct generalizing entries with
  | case1 =>
    cases paired
    rfl
  | case2 => cases paired
  | case3 key value rest ih =>
    rw [pairUp, Option.map_eq_some_iff] at paired
    obtain ⟨others, pairedRest, rfl⟩ := paired
    rw [ih pairedRest]
    rfl

theorem asMap_eq_ok {indefinite : Bool} {item : Item}
    (done : asMap mode indefinite items = .ok item) :
    ∃ entries, item = .map indefinite entries ∧
      items = entries.flatMap fun entry => [entry.1, entry.2] := by
  rw [asMap] at done
  split at done
  · cases done
  · next entries paired =>
    obtain ⟨_, _, same⟩ := bind_eq_ok_iff.mp done
    cases same
    exact ⟨entries, rfl, pairUp_eq_some paired⟩

variable {result : Item × List UInt8}

theorem readPrimitive_eq_ok (here : HeadRead head used) (major : head.major = 7)
    (done : readPrimitive head data = .ok result) :
    result.2 = data ∧ Encodes used result.1 := by
  cases here with
  | @direct _ info small =>
    obtain rfl : _ = 7 := major
    rw [readPrimitive, if_pos small] at done
    cases done
    exact ⟨rfl, .simple small⟩
  | @extended _ size tail sizes length =>
    obtain rfl : _ = 7 := major
    rw [readPrimitive, if_neg (by dsimp only; omega)] at done
    rcases Nat.eq_zero_or_pos size with rfl | positive
    · obtain ⟨_, large, same⟩ := bind_eq_ok_iff.mp done
      cases same
      obtain ⟨byte, rfl⟩ := length_eq_one_iff.mp length
      have value : bigEndian [byte] = byte.toNat := by simp [bigEndian]
      rw [require_eq_ok_iff, value] at large
      rw [value]
      exact ⟨rfl, .simpleByte large⟩
    · rw [if_neg (by dsimp only; omega), Nat.add_sub_cancel_left] at done
      cases done
      exact ⟨rfl, .float ⟨positive, sizes⟩ length⟩
  | indefinite chunked =>
    obtain rfl : _ = 7 := major
    omega

theorem readHead_major_lt {result : Head × List UInt8}
    (done : readHead data = .ok result) : result.1.major < 8 := by
  cases data with
  | nil => cases done
  | cons first rest =>
    rw [(readHead_cons_eq_ok done).1]
    have := first.toNat_lt
    omega

/-- The ways in which an item can be read. -/
inductive ReadStep (mode : Mode) (fuel depth : Nat) (head : Head) (data : List UInt8) :
    Item × List UInt8 → Prop
  | unsigned (major : head.major = 0) :
      ReadStep mode fuel depth head data (.unsigned head.argument, data)
  | negative (major : head.major = 1) :
      ReadStep mode fuel depth head data (.negative head.argument, data)
  | bytes {parts : List (List UInt8) × List UInt8} (major : head.major = 2)
      (inside : readString mode head data = .ok parts) :
      ReadStep mode fuel depth head data (.bytes head.isIndefinite parts.1, parts.2)
  | text {parts : List (List UInt8) × List UInt8} (major : head.major = 3)
      (inside : readString mode head data = .ok parts) :
      ReadStep mode fuel depth head data (.text head.isIndefinite parts.1, parts.2)
  | array {items : List Item × List UInt8} (major : head.major = 4)
      (nesting : depth + 1 ≤ mode.maxNestedLevels) (admits : mode.Admits head)
      (inside : (if head.isIndefinite then readUntilBreak mode fuel (depth + 1) data
        else readMany mode fuel (depth + 1) head.argument data) = .ok items)
      (few : items.1.length ≤ mode.maxArrayElements) :
      ReadStep mode fuel depth head data (.array head.isIndefinite items.1, items.2)
  | map {items : List Item × List UInt8} {item : Item} (major : head.major = 5)
      (nesting : depth + 1 ≤ mode.maxNestedLevels) (admits : mode.Admits head)
      (inside : (if head.isIndefinite then readUntilBreak mode fuel (depth + 1) data
        else readMany mode fuel (depth + 1) (2 * head.argument) data) = .ok items)
      (paired : asMap mode head.isIndefinite items.1 = .ok item) :
      ReadStep mode fuel depth head data (item, items.2)
  | tag {content : Item × List UInt8} (major : head.major = 6)
      (nesting : tagDepth depth data ≤ mode.maxNestedLevels)
      (inside : read mode fuel (tagDepth depth data) data = .ok content) :
      ReadStep mode fuel depth head data (.tag head.argument content.1, content.2)
  | primitive {result : Item × List UInt8} (major : head.major = 7)
      (inside : readPrimitive head data = .ok result) : ReadStep mode fuel depth head data result

variable {depth : Nat}

/-- An item is read as its head says. -/
theorem read_succ_eq_ok_iff :
    read mode (fuel + 1) depth data = .ok result ↔
      ∃ head, readHead data = .ok head ∧ ReadStep mode fuel depth head.1 head.2 result := by
  rw [read, bind_eq_ok_iff]
  refine exists_congr fun head => and_congr_right fun headed => ?_
  have below := readHead_major_lt headed
  constructor
  · intro done
    split at done
    · next major => cases done; exact .unsigned major
    · next major => cases done; exact .negative major
    · next major =>
      obtain ⟨parts, inside, rfl⟩ := map_eq_ok_iff.mp done
      exact .bytes major inside
    · next major =>
      obtain ⟨parts, inside, rfl⟩ := map_eq_ok_iff.mp done
      exact .text major inside
    · next major =>
      simp only [bind_eq_ok_iff, require_eq_ok_iff] at done
      obtain ⟨_, nesting, _, admits, items, inside, _, few, same⟩ := done
      cases same
      exact .array major nesting admits inside few
    · next major =>
      simp only [bind_eq_ok_iff, require_eq_ok_iff] at done
      obtain ⟨_, nesting, _, admits, items, inside, item, paired, same⟩ := done
      cases same
      exact .map major nesting admits inside paired
    · next major =>
      simp only [bind_eq_ok_iff, require_eq_ok_iff] at done
      obtain ⟨_, nesting, content, inside, same⟩ := done
      cases same
      exact .tag major nesting inside
    · exact .primitive (by grind) done
  · intro step
    cases step with
    | unsigned major => simp [major]
    | negative major => simp [major]
    | bytes major inside | text major inside =>
      simp only [major, map_eq_ok_iff]; exact ⟨_, inside, rfl⟩
    | array major nesting admits inside few =>
      simp only [major, bind_eq_ok_iff, require_eq_ok_iff]
      exact ⟨(), nesting, (), admits, _, inside, (), few, rfl⟩
    | map major nesting admits inside paired =>
      simp only [major, bind_eq_ok_iff, require_eq_ok_iff]
      exact ⟨(), nesting, (), admits, _, inside, _, paired, rfl⟩
    | tag major nesting inside =>
      simp only [major, bind_eq_ok_iff, require_eq_ok_iff]
      exact ⟨(), nesting, _, inside, rfl⟩
    | primitive major inside =>
      simp only [major]
      exact inside

/-- With some fuel, the reader consumes an encoding of what it returns. -/
structure Consumes (mode : Mode) (fuel : Nat) : Prop where
  one : ∀ {depth data result}, read mode fuel depth data = .ok result →
    ∃ used, data = used ++ result.2 ∧ Encodes used result.1
  many : ∀ {depth count data result}, readMany mode fuel depth count data = .ok result →
    result.1.length = count ∧ ∃ used, data = used ++ result.2 ∧ EncodesAll used result.1
  untilBreak : ∀ {depth data result}, readUntilBreak mode fuel depth data = .ok result →
    ∃ used, data = used ++ breakCode :: result.2 ∧ EncodesAll used result.1

/-- The items of a container, by the kind of its length. -/
theorem encodesAll_inside {count : Nat} {items : List Item × List UInt8}
    (consumes : Consumes mode fuel)
    (inside : (if head.isIndefinite then readUntilBreak mode fuel depth data
      else readMany mode fuel depth count data) = .ok items) :
    (head.isIndefinite = true ∧ ∃ used, data = used ++ breakCode :: items.2 ∧
      EncodesAll used items.1) ∨
    (head.isIndefinite = false ∧ items.1.length = count ∧ ∃ used, data = used ++ items.2 ∧
      EncodesAll used items.1) := by
  split_ifs at inside with indefinite
  · exact .inl ⟨indefinite, consumes.untilBreak inside⟩
  · exact .inr ⟨Bool.eq_false_iff.mpr indefinite, consumes.many inside⟩

/-- One step of the reader consumes an encoding if the reader does below it. -/
theorem encodes_readStep (consumes : Consumes mode fuel)
    (here : HeadRead head used) (step : ReadStep mode fuel depth head data result) :
    ∃ all, used ++ data = all ++ result.2 ∧ Encodes all result.1 := by
  cases step with
  | unsigned major =>
    have headOf := here.headOf (here.isIndefinite_eq_false (.inl (by omega)))
    rw [major] at headOf
    exact ⟨used, rfl, .unsigned headOf⟩
  | negative major =>
    have headOf := here.headOf (here.isIndefinite_eq_false (.inl (by omega)))
    rw [major] at headOf
    exact ⟨used, rfl, .negative headOf⟩
  | @bytes parts major inside =>
    obtain ⟨-, ⟨indefinite, body, rfl, chunks⟩ | ⟨definite, content, rfl, length, same⟩⟩ :=
      readString_eq_ok inside
    · rw [here.eq_initialByte indefinite, indefinite, major]
      rw [major] at chunks
      exact ⟨_ :: body ++ [breakCode], by simp, .byteChunks chunks⟩
    · have headOf := here.headOf definite
      rw [major, ← length] at headOf
      rw [definite, same]
      exact ⟨used ++ content, by simp, .bytes headOf⟩
  | @text parts major inside =>
    obtain ⟨-, ⟨indefinite, body, rfl, chunks⟩ | ⟨definite, content, rfl, length, same⟩⟩ :=
      readString_eq_ok inside
    · rw [here.eq_initialByte indefinite, indefinite, major]
      rw [major] at chunks
      exact ⟨_ :: body ++ [breakCode], by simp, .textChunks chunks⟩
    · have headOf := here.headOf definite
      rw [major, ← length] at headOf
      rw [definite, same]
      exact ⟨used ++ content, by simp, .text headOf⟩
  | @array items major nesting admits inside few =>
    obtain ⟨indefinite, body, rfl, elements⟩ | ⟨definite, length, body, rfl, elements⟩ :=
      encodesAll_inside consumes inside
    · rw [here.eq_initialByte indefinite, indefinite, major]
      exact ⟨_ :: body ++ [breakCode], by simp, .arrayUntilBreak elements⟩
    · have headOf := here.headOf definite
      rw [major, ← length] at headOf
      rw [definite]
      exact ⟨used ++ body, by simp, .array headOf elements⟩
  | @map items item major nesting admits inside paired =>
    obtain ⟨entries, rfl, flat⟩ := asMap_eq_ok paired
    obtain ⟨indefinite, body, rfl, elements⟩ | ⟨definite, length, body, rfl, elements⟩ :=
      encodesAll_inside consumes inside
    · rw [flat] at elements
      rw [here.eq_initialByte indefinite, indefinite, major]
      exact ⟨_ :: body ++ [breakCode], by simp, .mapUntilBreak elements⟩
    · have pairs : entries.length = head.argument := by
        rw [flat, length_flatMap_pair] at length
        omega
      have headOf := here.headOf definite
      rw [major, ← pairs] at headOf
      rw [flat] at elements
      rw [definite]
      exact ⟨used ++ body, by simp, .map headOf elements⟩
  | @tag content major nesting inside =>
    have headOf := here.headOf (here.isIndefinite_eq_false (.inr (by omega)))
    rw [major] at headOf
    obtain ⟨body, rfl, encodes⟩ := consumes.one inside
    exact ⟨used ++ body, by simp, .tag headOf encodes⟩
  | primitive major inside =>
    obtain ⟨same, encodes⟩ := readPrimitive_eq_ok here major inside
    exact ⟨used, by rw [same], encodes⟩

theorem consumes (mode : Mode) (fuel : Nat) : Consumes mode fuel := by
  induction fuel with
  | zero =>
    refine ⟨fun done => (by cases done), fun {_ count _ _} done => ?_, fun done => (by cases done)⟩
    cases count with
    | zero =>
      cases done
      exact ⟨rfl, [], rfl, .nil⟩
    | succ => cases done
  | succ fuel ih =>
    refine ⟨fun done => ?_, fun {_ count _ _} done => ?_, fun {_ data _} done => ?_⟩
    · obtain ⟨head, headed, step⟩ := read_succ_eq_ok_iff.mp done
      obtain ⟨used, split, here⟩ := readHead_eq_ok headed
      rw [split]
      exact encodes_readStep ih here step
    · cases count with
      | zero =>
        cases done
        exact ⟨rfl, [], rfl, .nil⟩
      | succ count =>
        simp only [readMany, bind_eq_ok_iff] at done
        obtain ⟨item, first, items, later, same⟩ := done
        cases same
        obtain ⟨used, split, encodes⟩ := ih.one first
        obtain ⟨length, body, splitBody, encodesAll⟩ := ih.many later
        refine ⟨by rw [length_cons, length], used ++ body, ?_, .cons encodes encodesAll⟩
        rw [split, splitBody, append_assoc]
    · cases data with
      | nil => cases done
      | cons first rest =>
        simp only [readUntilBreak] at done
        split_ifs at done with ends
        · cases done
          exact ⟨[], by rw [ends]; rfl, .nil⟩
        · simp only [bind_eq_ok_iff] at done
          obtain ⟨item, here, items, later, same⟩ := done
          cases same
          obtain ⟨used, split, encodes⟩ := ih.one here
          obtain ⟨body, splitBody, encodesAll⟩ := ih.untilBreak later
          refine ⟨used ++ body, ?_, .cons encodes encodesAll⟩
          rw [split, splitBody, append_assoc]

/-- The item that is read and the bytes after it make up the data. -/
theorem encodes_readItem (done : readItem mode data = .ok result) :
    ∃ used, data = used ++ result.2 ∧ Encodes used result.1 :=
  (consumes _ _).one done

/-! ## Indefinite lengths -/

/-- The mode that admits indefinite lengths. -/
def Mode.lenient (mode : Mode) : Mode := { mode with indefinite := true }

theorem anyEntryIndefinite_eq_false
    (definite : anyIndefinite (entries.flatMap fun entry => [entry.1, entry.2]) = false) :
    anyEntryIndefinite entries = false := by
  induction entries with
  | nil => rfl
  | cons first rest ih =>
    simp only [flatMap_cons, cons_append, anyIndefinite, Bool.or_eq_false_iff] at definite
    obtain ⟨key, value, later⟩ := definite
    simp [anyEntryIndefinite, key, value, ih later]

theorem Mode.Admits.isIndefinite_eq_false (admits : mode.Admits head)
    (strict : mode.indefinite = false) : head.isIndefinite = false := by
  cases indefinite : head.isIndefinite with
  | false => rfl
  | true => exact absurd (admits indefinite) (by simp [strict])

theorem readString_lenient
    {result : List (List UInt8) × List UInt8} (strict : mode.indefinite = false)
    (done : readString mode head data = .ok result) :
    head.isIndefinite = false ∧ readString mode.lenient head data = .ok result := by
  have definite := (readString_eq_ok done).1.isIndefinite_eq_false strict
  rw [readString, definite] at done
  exact ⟨definite, by rw [readString, definite]; exact done⟩

theorem hasIndefinite_readPrimitive
    (done : readPrimitive head data = .ok result) : result.1.hasIndefinite = false := by
  rw [readPrimitive] at done
  split_ifs at done
  · cases done
    rfl
  · obtain ⟨_, _, same⟩ := bind_eq_ok_iff.mp done
    cases same
    rfl
  · cases done
    rfl

/-- What a reader reads that refuses indefinite lengths has none, and a lenient one reads the
same. -/
theorem read_lenient_aux (strict : mode.indefinite = false) (fuel : Nat) :
    (∀ depth data result, read mode fuel depth data = .ok result →
      read mode.lenient fuel depth data = .ok result ∧ result.1.hasIndefinite = false) ∧
    (∀ depth count data result, readMany mode fuel depth count data = .ok result →
      readMany mode.lenient fuel depth count data = .ok result ∧
        anyIndefinite result.1 = false) := by
  induction fuel with
  | zero =>
    refine ⟨fun _ _ _ done => (by cases done), fun _ count _ _ done => ?_⟩
    cases count with
    | zero =>
      cases done
      exact ⟨rfl, rfl⟩
    | succ => cases done
  | succ fuel ih =>
    obtain ⟨readHere, manyHere⟩ := ih
    refine ⟨fun depth data result done => ?_, fun depth count data result done => ?_⟩
    · obtain ⟨head, headed, step⟩ := read_succ_eq_ok_iff.mp done
      rw [read_succ_eq_ok_iff]
      suffices lenient : ReadStep mode.lenient fuel depth head.1 head.2 result ∧
          result.1.hasIndefinite = false from ⟨⟨head, headed, lenient.1⟩, lenient.2⟩
      cases step with
      | unsigned major => exact ⟨.unsigned major, rfl⟩
      | negative major => exact ⟨.negative major, rfl⟩
      | bytes major inside =>
        obtain ⟨definite, same⟩ := readString_lenient strict inside
        exact ⟨.bytes major same, definite⟩
      | text major inside =>
        obtain ⟨definite, same⟩ := readString_lenient strict inside
        exact ⟨.text major same, definite⟩
      | array major nesting admits inside few =>
        have definite := admits.isIndefinite_eq_false strict
        rw [definite] at inside
        obtain ⟨same, below⟩ := manyHere _ _ _ _ inside
        refine ⟨.array major nesting (fun _ => rfl) ?_ few, ?_⟩
        · rw [definite]
          exact same
        · rw [hasIndefinite, definite, below, Bool.false_or]
      | map major nesting admits inside paired =>
        have definite := admits.isIndefinite_eq_false strict
        rw [definite] at inside
        obtain ⟨same, below⟩ := manyHere _ _ _ _ inside
        refine ⟨.map major nesting (fun _ => rfl) ?_ paired, ?_⟩
        · rw [definite]
          exact same
        · obtain ⟨entries, rfl, flat⟩ := asMap_eq_ok paired
          rw [flat] at below
          rw [hasIndefinite, definite, anyEntryIndefinite_eq_false below, Bool.false_or]
      | tag major nesting inside =>
        obtain ⟨same, below⟩ := readHere _ _ _ inside
        exact ⟨.tag major nesting same, below⟩
      | primitive major inside =>
        exact ⟨.primitive major inside, hasIndefinite_readPrimitive inside⟩
    · cases count with
      | zero =>
        cases done
        exact ⟨rfl, rfl⟩
      | succ count =>
        simp only [readMany, bind_eq_ok_iff] at done ⊢
        obtain ⟨item, first, items, later, same⟩ := done
        cases same
        obtain ⟨sameFirst, definite⟩ := readHere _ _ _ first
        obtain ⟨sameLater, below⟩ := manyHere _ _ _ _ later
        refine ⟨⟨item, sameFirst, items, sameLater, rfl⟩, ?_⟩
        rw [anyIndefinite, definite, below, Bool.false_or]

/-! ## Lengths -/

theorem HeadOf.length_pos {major argument : Nat} {head : List UInt8}
    (here : HeadOf major argument head) : 0 < head.length := by
  cases here <;> exact Nat.succ_pos _

theorem Encodes.length_pos {item : Item} (encodes : Encodes used item) : 0 < used.length := by
  cases encodes with
  | unsigned here | negative here => exact here.length_pos
  | bytes here | text here | array here | map here | tag here =>
    exact length_append ▸ Nat.add_pos_left here.length_pos _
  | byteChunks | textChunks | arrayUntilBreak | mapUntilBreak | simple | simpleByte | float =>
    exact Nat.succ_pos _

end Vc.Cbor
