import Vc.Cbor.Codec
import Vc.Cbor.Reader

/-!
# The reader takes every encoding

Given room for it, the reader takes the bytes that encode an item off its input
and returns that item.  As the reader is a function, an encoding is therefore no
proper part of the front of another one: concatenated encodings can be taken
apart in one way only.
-/

namespace Vc.Cbor

open Checks List Nat ReadStep

/-! ## Heads -/

variable {major : Nat}

theorem toNat_initialByte {info : Nat} (below : major < 8) (small : info < 32) :
    (initialByte major info).toNat = major * 32 + info := by
  rw [initialByte, UInt8.toNat_ofNat']
  omega

theorem takeBytes_append (content rest : List UInt8) :
    takeBytes content.length (content ++ rest) = .ok (content, rest) := by
  simp [takeBytes]

variable {argument : Nat}

/-- The first byte of a head. -/
theorem HeadOf.exists_cons {head : List UInt8}
    (here : HeadOf major argument head) (below : major < 8) :
    ∃ first tail, head = first :: tail ∧ first.toNat / 32 = major ∧ first.toNat % 32 ≤ 27 := by
  cases here with
  | direct small =>
    have value := toNat_initialByte below (by omega : argument < 32)
    exact ⟨_, _, rfl, by omega, by omega⟩
  | @extended size tail sizes length =>
    have value := toNat_initialByte below (by omega : 24 + size < 32)
    exact ⟨_, _, rfl, by omega, by omega⟩

theorem readHead_direct (below : major < 8) (small : argument ≤ 23) (rest : List UInt8) :
    readHead (initialByte major argument :: rest) = .ok (⟨major, argument, argument⟩, rest) := by
  have value := toNat_initialByte below (by omega : argument < 32)
  have quotient : (major * 32 + argument) / 32 = major := by omega
  have remainder : (major * 32 + argument) % 32 = argument := by omega
  simp [readHead, value, quotient, remainder, if_pos small]

theorem readHead_extended {size : Nat} {tail : List UInt8} (below : major < 8)
    (sizes : size ≤ 3) (length : tail.length = 2 ^ size) (rest : List UInt8) :
    readHead (initialByte major (24 + size) :: (tail ++ rest)) =
      .ok (⟨major, 24 + size, bigEndian tail⟩, rest) := by
  have value := toNat_initialByte below (by omega : 24 + size < 32)
  have quotient : (major * 32 + (24 + size)) / 32 = major := by omega
  have remainder : (major * 32 + (24 + size)) % 32 = 24 + size := by omega
  have taken := takeBytes_append tail rest
  rw [length] at taken
  simp only [readHead, value, quotient, remainder, if_neg (by omega : ¬ 24 + size ≤ 23),
    if_pos (by omega : 24 + size ≤ 27), Nat.add_sub_cancel_left, taken]
  rfl

theorem readHead_headOf {head : List UInt8} (below : major < 8)
    (here : HeadOf major argument head) (rest : List UInt8) :
    ∃ info, info ≤ 27 ∧ readHead (head ++ rest) = .ok (⟨major, info, argument⟩, rest) := by
  cases here with
  | direct small => exact ⟨_, by omega, readHead_direct below small _⟩
  | extended sizes length => exact ⟨_, by omega, readHead_extended below sizes length _⟩

theorem readHead_indefinite (chunked : 2 ≤ major ∧ major ≤ 5) (rest : List UInt8) :
    readHead (initialByte major 31 :: rest) = .ok (⟨major, 31, 31⟩, rest) := by
  have value := toNat_initialByte (by omega : major < 8) (by omega : 31 < 32)
  have quotient : (major * 32 + 31) / 32 = major := by omega
  have remainder : (major * 32 + 31) % 32 = 31 := by omega
  simp [readHead, value, quotient, remainder, chunked]

/-! ## Strings -/

variable {used : List UInt8} {chunks : List (List UInt8)}

theorem readChunks_chunksOf {fuel : Nat}
    (string : major = 2 ∨ major = 3) (inside : ChunksOf major chunks used)
    (enough : used.length < fuel) (rest : List UInt8) :
    readChunks major fuel (used ++ breakCode :: rest) = .ok (chunks, rest) := by
  induction inside generalizing fuel with
  | nil =>
    obtain ⟨fuel, rfl⟩ := exists_eq_succ_of_ne_zero (ne_of_gt enough)
    simp [readChunks]
  | @cons chunk head chunks later here _ ih =>
    obtain ⟨fuel, rfl⟩ := exists_eq_succ_of_ne_zero (ne_zero_of_lt enough)
    have positive := here.length_pos
    have shorter : later.length < fuel := by
      simp only [length_append] at enough
      omega
    obtain ⟨info, _, headed⟩ := readHead_headOf (by omega) here
      (chunk ++ (later ++ breakCode :: rest))
    obtain ⟨first, tail, rfl, quotient, remainder⟩ := here.exists_cons (by omega)
    have kept : first ≠ breakCode := by
      rintro rfl
      change 255 / 32 = major at quotient
      omega
    have start : (first :: tail ++ chunk ++ later) ++ breakCode :: rest =
        first :: (tail ++ (chunk ++ (later ++ breakCode :: rest))) := by
      simp
    rw [start, readChunks, if_neg kept]
    simp only [bind_eq_ok_iff, require_eq_ok_iff]
    exact ⟨(), ⟨quotient, by omega⟩, _, headed, _, takeBytes_append _ _, _, ih shorter, rfl⟩

/-! ## Items -/

theorem EncodesAll.length_le {items : List Item}
    (encodes : EncodesAll used items) : items.length ≤ used.length := by
  induction items generalizing used with
  | nil => exact zero_le _
  | cons item items ih =>
    cases encodes with
    | cons here later =>
      have positive := here.length_pos
      have shorter := ih later
      rw [length_append, length_cons]
      omega

/-- An encoding does not begin with the code that ends an item. -/
theorem Encodes.exists_cons {item : Item} (encodes : Encodes used item) :
    ∃ first tail, used = first :: tail ∧ first ≠ breakCode := by
  have begun : ∀ {major argument : Nat} {head : List UInt8}, major < 8 →
      HeadOf major argument head → ∃ first tail, head = first :: tail ∧ first ≠ breakCode := by
    intro major argument head below here
    obtain ⟨first, tail, same, _, small⟩ := here.exists_cons below
    refine ⟨first, tail, same, ?_⟩
    rintro rfl
    exact absurd small (by decide)
  cases encodes with
  | unsigned here | negative here => exact begun (by omega) here
  | bytes here | text here | array here | map here | tag here =>
    obtain ⟨first, tail, rfl, kept⟩ := begun (by omega) here
    exact ⟨first, _, rfl, kept⟩
  | byteChunks | textChunks | arrayUntilBreak | mapUntilBreak | simpleByte =>
    exact ⟨_, _, rfl, by decide⟩
  | simple small => exact begun (by omega : 7 < 8) (.direct small)
  | float sizes length => exact begun (by omega : 7 < 8) (.extended sizes.2 length)

/-- The mode has room for nested items of some bytes. -/
structure Mode.Room (mode : Mode) (depth length : Nat) : Prop where
  indefinite : mode.indefinite = true
  nesting : depth + length ≤ mode.maxNestedLevels
  elements : length ≤ mode.maxArrayElements
  pairs : length ≤ mode.maxMapPairs

theorem Mode.Room.mono {mode : Mode} {depth length depth' length' : Nat}
    (room : mode.Room depth length) (deep : depth' + length' ≤ depth + length)
    (short : length' ≤ length) : mode.Room depth' length' where
  indefinite := room.indefinite
  nesting := le_trans deep room.nesting
  elements := le_trans short room.elements
  pairs := le_trans short room.pairs

theorem Mode.Room.nested {mode : Mode} {depth length : Nat} (room : mode.Room depth length)
    (positive : 0 < length) : depth + 1 ≤ mode.maxNestedLevels :=
  Nat.le_trans (Nat.add_le_add_left positive _) room.nesting

/-- With some fuel, the reader takes every encoding for which there is room. -/
def Takes (mode : Mode) (fuel : Nat) : Prop :=
  ∀ {used : List UInt8} {item : Item} {depth : Nat}, Encodes used item →
    2 * used.length ≤ fuel + 1 → mode.Room depth used.length → ∀ rest,
      read mode fuel depth (used ++ rest) = .ok (item, rest)

/-- The same for a given number of items. -/
def TakesMany (mode : Mode) (fuel : Nat) : Prop :=
  ∀ {used : List UInt8} {items : List Item} {depth : Nat}, EncodesAll used items →
    2 * used.length ≤ fuel → mode.Room depth used.length → ∀ rest,
      readMany mode fuel depth items.length (used ++ rest) = .ok (items, rest)

/-- The same for items up to a break. -/
def TakesUntilBreak (mode : Mode) (fuel : Nat) : Prop :=
  ∀ {used : List UInt8} {items : List Item} {depth : Nat}, EncodesAll used items →
    2 * used.length < fuel → mode.Room depth used.length → ∀ rest,
      readUntilBreak mode fuel depth (used ++ breakCode :: rest) = .ok (items, rest)

variable {mode : Mode} {fuel : Nat}

theorem takesMany_succ (takes : Takes mode fuel) (many : TakesMany mode fuel) :
    TakesMany mode (fuel + 1) := by
  intro used items depth encodes enough room rest
  cases encodes with
  | nil => rfl
  | @cons first later item items here after =>
    have positive := here.length_pos
    rw [length_append] at enough room
    rw [length_cons, append_assoc, readMany]
    simp only [bind_eq_ok_iff]
    exact ⟨_, takes here (by omega) (room.mono (by omega) (by omega)) _, _,
      many after (by omega) (room.mono (by omega) (by omega)) _, rfl⟩

theorem takesUntilBreak_succ (takes : Takes mode fuel) (untilBreak : TakesUntilBreak mode fuel) :
    TakesUntilBreak mode (fuel + 1) := by
  intro used items depth encodes enough room rest
  cases encodes with
  | nil => simp [readUntilBreak]
  | @cons first later item items here after =>
    have positive := here.length_pos
    rw [length_append] at enough room
    have headed := takes here (by omega) (room.mono (by omega) (by omega) : mode.Room depth _)
      (later ++ breakCode :: rest)
    obtain ⟨byte, tail, rfl, kept⟩ := here.exists_cons
    rw [append_assoc, cons_append, readUntilBreak, if_neg kept]
    simp only [bind_eq_ok_iff]
    exact ⟨_, headed, _, untilBreak after (by omega) (room.mono (by omega) (by omega)) _, rfl⟩

theorem isIndefinite_eq_false {info argument : Nat} (small : info ≤ 27) :
    (⟨major, info, argument⟩ : Head).isIndefinite = false :=
  decide_eq_false (by dsimp only; omega)

theorem admits_of_indefinite (indefinite : mode.indefinite = true) (head : Head) :
    mode.Admits head :=
  fun _ => indefinite

/-- A string of definite length. -/
theorem readString_content {info : Nat} (small : info ≤ 27) (content rest : List UInt8) :
    readString mode ⟨major, info, content.length⟩ (content ++ rest) = .ok ([content], rest) := by
  rw [readString, isIndefinite_eq_false small, takeBytes_append]
  rfl

theorem readString_chunks (indefinite : mode.indefinite = true) (string : major = 2 ∨ major = 3)
    (inside : ChunksOf major chunks used) (rest : List UInt8) :
    readString mode ⟨major, 31, 31⟩ (used ++ breakCode :: rest) = .ok (chunks, rest) := by
  rw [readString]
  simp only [Head.isIndefinite, decide_true, if_true, bind_eq_ok_iff, require_eq_ok_iff]
  refine ⟨(), admits_of_indefinite indefinite _, readChunks_chunksOf string inside ?_ _⟩
  rw [length_append]
  omega

theorem pairUp_flatMap (entries : List (Item × Item)) :
    pairUp (entries.flatMap fun entry => [entry.1, entry.2]) = some entries := by
  induction entries with
  | nil => rfl
  | cons first rest ih =>
    rw [flatMap_cons, cons_append, cons_append, nil_append, pairUp, ih]
    rfl

theorem asMap_flatMap {entries : List (Item × Item)} (few : entries.length ≤ mode.maxMapPairs)
    (indefinite : Bool) :
    asMap mode indefinite (entries.flatMap fun entry => [entry.1, entry.2]) =
      .ok (.map indefinite entries) := by
  rw [asMap, pairUp_flatMap]
  exact bind_eq_ok_iff.mpr ⟨(), require_eq_ok_iff.mpr few, rfl⟩

theorem takes_succ (takes : Takes mode fuel) (many : TakesMany mode fuel)
    (untilBreak : TakesUntilBreak mode fuel) : Takes mode (fuel + 1) := by
  intro used item depth encodes enough room rest
  rw [read_succ_eq_ok_iff]
  cases encodes with
  | unsigned here =>
    obtain ⟨info, _, headed⟩ := readHead_headOf (by omega) here rest
    exact ⟨_, headed, .unsigned rfl⟩
  | negative here =>
    obtain ⟨info, _, headed⟩ := readHead_headOf (by omega) here rest
    exact ⟨_, headed, .negative rfl⟩
  | @bytes content head here =>
    obtain ⟨info, small, headed⟩ := readHead_headOf (by omega) here (content ++ rest)
    rw [append_assoc, ← @isIndefinite_eq_false 2 _ _ small]
    exact ⟨_, headed, .bytes rfl (readString_content small _ _)⟩
  | @text content head here =>
    obtain ⟨info, small, headed⟩ := readHead_headOf (by omega) here (content ++ rest)
    rw [append_assoc, ← @isIndefinite_eq_false 3 _ _ small]
    exact ⟨_, headed, .text rfl (readString_content small _ _)⟩
  | @byteChunks chunks body inside =>
    rw [cons_append, cons_append, append_assoc]
    exact ⟨_, readHead_indefinite (by omega) _,
      .bytes rfl (readString_chunks room.indefinite (.inl rfl) inside _)⟩
  | @textChunks chunks body inside =>
    rw [cons_append, cons_append, append_assoc]
    exact ⟨_, readHead_indefinite (by omega) _,
      .text rfl (readString_chunks room.indefinite (.inr rfl) inside _)⟩
  | @array elements head body here inside =>
    obtain ⟨info, small, headed⟩ := readHead_headOf (by omega) here (body ++ rest)
    have positive := here.length_pos
    have few := inside.length_le
    rw [length_append] at enough room
    have read : readMany mode fuel (depth + 1) elements.length (body ++ rest) =
        .ok (elements, rest) :=
      many inside (by omega) (room.mono (by omega) (by omega)) rest
    rw [append_assoc, ← @isIndefinite_eq_false 4 _ _ small]
    refine ⟨_, headed, @array _ _ _ _ _ (elements, rest) rfl (room.nested (by omega))
      (admits_of_indefinite room.indefinite _) ?_
      (Nat.le_trans (by dsimp only; omega) room.elements)⟩
    rwa [isIndefinite_eq_false small]
  | @arrayUntilBreak elements body inside =>
    have few := inside.length_le
    rw [length_append, length_cons, length_singleton] at enough room
    have read : readUntilBreak mode fuel (depth + 1) (body ++ breakCode :: rest) =
        .ok (elements, rest) :=
      untilBreak inside (by omega) (room.mono (by omega) (by omega)) rest
    rw [cons_append, cons_append, append_assoc]
    exact ⟨_, readHead_indefinite (by omega) _, @array _ _ _ _ _ (elements, rest) rfl
      (room.nested (by omega)) (admits_of_indefinite room.indefinite _) read
      (Nat.le_trans (by dsimp only; omega) room.elements)⟩
  | @map entries head body here inside =>
    obtain ⟨info, small, headed⟩ := readHead_headOf (by omega) here (body ++ rest)
    have positive := here.length_pos
    have few := inside.length_le
    have pairs := length_flatMap_pair entries
    rw [length_append] at enough room
    have read : readMany mode fuel (depth + 1) (2 * entries.length) (body ++ rest) =
        .ok (_, rest) :=
      pairs ▸ many inside (by omega) (room.mono (by omega) (by omega)) rest
    rw [append_assoc, ← @isIndefinite_eq_false 5 _ _ small]
    refine ⟨_, headed, @map _ _ _ _ _ (_, rest) _ rfl (room.nested (by omega))
      (admits_of_indefinite room.indefinite _) ?_
      (asMap_flatMap (Nat.le_trans (by omega) room.pairs) _)⟩
    rwa [isIndefinite_eq_false small]
  | @mapUntilBreak entries body inside =>
    have few := inside.length_le
    have pairs := length_flatMap_pair entries
    rw [length_append, length_cons, length_singleton] at enough room
    have read : readUntilBreak mode fuel (depth + 1) (body ++ breakCode :: rest) = .ok (_, rest) :=
      untilBreak inside (by omega) (room.mono (by omega) (by omega)) rest
    rw [cons_append, cons_append, append_assoc]
    exact ⟨_, readHead_indefinite (by omega) _, @map _ _ _ _ _ (_, rest) _ rfl
      (room.nested (by omega)) (admits_of_indefinite room.indefinite _) read
      (asMap_flatMap (Nat.le_trans (by omega) room.pairs) _)⟩
  | @tag number content head body here inside =>
    obtain ⟨info, small, headed⟩ := readHead_headOf (by omega) here (body ++ rest)
    have positive := here.length_pos
    have deep : tagDepth depth (body ++ rest) ≤ depth + 1 := by
      unfold tagDepth
      split <;> omega
    rw [length_append] at enough room
    rw [append_assoc]
    refine ⟨_, headed, .tag rfl ?_ (takes inside (by omega) (room.mono (by omega) (by omega)) _)⟩
    have := room.nesting
    omega
  | simple small =>
    refine ⟨_, readHead_direct (by omega) small rest, .primitive rfl ?_⟩
    rw [readPrimitive, if_pos small]
  | @simpleByte value large =>
    have headed := readHead_extended (by omega : 7 < 8) (by omega : 0 ≤ 3)
      (rfl : [value].length = 2 ^ 0) rest
    have argument : bigEndian [value] = value.toNat := by
      simp [bigEndian]
    rw [argument] at headed
    refine ⟨_, headed, .primitive rfl ?_⟩
    exact bind_eq_ok_iff.mpr ⟨(), require_eq_ok_iff.mpr large, rfl⟩
  | @float size tail sizes length =>
    refine ⟨_, readHead_extended (by omega) sizes.2 length _, .primitive rfl ?_⟩
    rw [readPrimitive, if_neg (by dsimp only; omega), if_neg (by dsimp only; omega),
      Nat.add_sub_cancel_left]

/-- The reader takes every encoding, given enough fuel and room. -/
theorem takes (mode : Mode) (fuel : Nat) :
    Takes mode fuel ∧ TakesMany mode fuel ∧ TakesUntilBreak mode fuel := by
  induction fuel with
  | zero =>
    refine ⟨?_, ?_, ?_⟩
    · intro used item depth encodes enough
      have := encodes.length_pos
      omega
    · intro used items depth encodes enough room rest
      cases encodes with
      | nil => rfl
      | cons here later =>
        have := here.length_pos
        rw [length_append] at enough
        omega
    · intro used items depth encodes enough
      omega
  | succ fuel ih =>
    obtain ⟨one, many, untilBreak⟩ := ih
    exact ⟨takes_succ one many untilBreak, takesMany_succ one many,
      takesUntilBreak_succ one untilBreak⟩

variable {rest remaining : List UInt8}

/-- Encodings at the front of the same bytes are the same. -/
theorem Encodes.append_inj {first second : List UInt8} {item other : Item}
    (here : Encodes first item) (there : Encodes second other)
    (same : first ++ rest = second ++ remaining) :
    first = second ∧ item = other ∧ rest = remaining := by
  let length := first.length + second.length
  let mode : Mode := ⟨true, length, length, length⟩
  have wide : ∀ {used : List UInt8}, used.length ≤ length → mode.Room 0 used.length := by
    intro used short
    exact ⟨rfl, by rwa [zero_add], short, short⟩
  have one := (takes mode (2 * length)).1 here (by omega) (wide (le_add_right _ _)) rest
  have two := (takes mode (2 * length)).1 there (by omega) (wide (le_add_left _ _)) remaining
  rw [same, two] at one
  cases one
  exact ⟨append_cancel_right same, rfl, rfl⟩

/-! ## Codecs -/

variable (codec : Codec)

/-- What the codec writes is one well-formed item. -/
def Codec.WellFormed : Prop :=
  ∀ item, ∃ written, Encodes (codec.marshal item) written

theorem Codec.WellFormed.marshal_append_inj {codec : Codec} (wellFormed : codec.WellFormed)
    {first second : Item}
    (same : codec.marshal first ++ rest = codec.marshal second ++ remaining) :
    first = second ∧ rest = remaining := by
  obtain ⟨_, here⟩ := wellFormed first
  obtain ⟨_, there⟩ := wellFormed second
  obtain ⟨equal, _, after⟩ := here.append_inj there same
  exact ⟨codec.marshal_inj.mp equal, after⟩

/-- A byte string in chunks of one byte. -/
def chunked (data : List UInt8) : List UInt8 :=
  initialByte 2 31 :: (data.flatMap fun byte => [initialByte 2 1, byte]) ++ [breakCode]

/-- The second byte of every pair. -/
def everySecond : List UInt8 → List UInt8
  | _ :: byte :: rest => byte :: everySecond rest
  | _ => []

theorem chunksOf_flatMap (data : List UInt8) :
    ChunksOf 2 (data.map fun byte => [byte])
      (data.flatMap fun byte => [initialByte 2 1, byte]) := by
  induction data with
  | nil => exact .nil
  | cons byte rest ih =>
    exact .cons (.direct (by simp)) ih

theorem everySecond_tail_chunked (data : List UInt8) : everySecond (chunked data).tail = data := by
  induction data with
  | nil => rfl
  | cons byte rest ih =>
    exact congrArg _ ih

/-- A codec whose bytes are put into byte strings. -/
def Codec.inChunks : Codec where
  marshal item := chunked (codec.marshal item)
  unmarshal data := codec.unmarshal (everySecond data.tail)
  lossless item := by
    rw [everySecond_tail_chunked]
    exact codec.lossless item

theorem Codec.inChunks_wellFormed : codec.inChunks.WellFormed :=
  fun item => ⟨_, .byteChunks (chunksOf_flatMap (codec.marshal item))⟩

end Vc.Cbor
