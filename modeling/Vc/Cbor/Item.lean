import Mathlib

/-!
# CBOR data items

RFC 8949 data items as trees that remember which of their lengths were
indefinite, and the bytes that encode them.  `Encodes` is the grammar of the
encoding and mentions no reader.
-/

namespace Vc.Cbor

/-- A data item.  A string of indefinite length is the list of its chunks, and any other string
is one chunk. -/
inductive Item where
  | unsigned (value : Nat)
  /-- the integer `-1 - value` -/
  | negative (value : Nat)
  | bytes (indefinite : Bool) (chunks : List (List UInt8))
  | text (indefinite : Bool) (chunks : List (List UInt8))
  | array (indefinite : Bool) (elements : List Item)
  | map (indefinite : Bool) (entries : List (Item × Item))
  | tag (number : Nat) (content : Item)
  | simple (value : Nat)
  /-- a floating-point number, by its width in bytes and its bits -/
  | float (width bits : Nat)
  deriving Inhabited

namespace Item

/-- Induction over an item, with a hypothesis for each of its parts. -/
@[elab_as_elim]
theorem induct {motive : Item → Prop} (unsigned : ∀ value, motive (.unsigned value))
    (negative : ∀ value, motive (.negative value))
    (bytes : ∀ indefinite chunks, motive (.bytes indefinite chunks))
    (text : ∀ indefinite chunks, motive (.text indefinite chunks))
    (array : ∀ indefinite elements, (∀ element ∈ elements, motive element) →
      motive (.array indefinite elements))
    (map : ∀ indefinite entries,
      (∀ entry ∈ entries, motive entry.1 ∧ motive entry.2) → motive (.map indefinite entries))
    (tag : ∀ number content, motive content → motive (.tag number content))
    (simple : ∀ value, motive (.simple value))
    (float : ∀ width bits, motive (.float width bits)) (item : Item) : motive item := by
  refine @Item.rec motive (fun elements => ∀ element ∈ elements, motive element)
    (fun entries => ∀ entry ∈ entries, motive entry.1 ∧ motive entry.2)
    (fun entry => motive entry.1 ∧ motive entry.2)
    unsigned negative bytes text array map tag simple float ?_ ?_ ?_ ?_ ?_ item
  · exact fun _ member => absurd member List.not_mem_nil
  · intro first rest head tail
    exact List.forall_mem_cons.mpr ⟨head, tail⟩
  · exact fun _ member => absurd member List.not_mem_nil
  · intro first rest head tail
    exact List.forall_mem_cons.mpr ⟨head, tail⟩
  · exact fun _ _ key value => ⟨key, value⟩

mutual
/-- Some part of the item has an indefinite length. -/
def hasIndefinite : Item → Bool
  | .bytes indefinite _ | .text indefinite _ => indefinite
  | .array indefinite elements => indefinite || anyIndefinite elements
  | .map indefinite entries => indefinite || anyEntryIndefinite entries
  | .tag _ content => hasIndefinite content
  | .unsigned _ | .negative _ | .simple _ | .float _ _ => false

/-- Some element has a part of indefinite length. -/
def anyIndefinite : List Item → Bool
  | [] => false
  | first :: rest => hasIndefinite first || anyIndefinite rest

/-- Some key or value has a part of indefinite length. -/
def anyEntryIndefinite : List (Item × Item) → Bool
  | [] => false
  | (key, value) :: rest => hasIndefinite key || hasIndefinite value || anyEntryIndefinite rest
end

/-- An item without parts that could be maps. -/
def IsLeaf : Item → Prop
  | .array _ _ | .map _ _ | .tag _ _ => False
  | _ => True

/-- Every map in the item satisfies a condition on its entries. -/
inductive EveryMap (condition : List (Item × Item) → Prop) : Item → Prop
  | leaf {item : Item} (leaf : item.IsLeaf) : EveryMap condition item
  | array {indefinite : Bool} {elements : List Item}
      (every : ∀ element ∈ elements, EveryMap condition element) :
      EveryMap condition (.array indefinite elements)
  | map {indefinite : Bool} {entries : List (Item × Item)} (here : condition entries)
      (keys : ∀ entry ∈ entries, EveryMap condition entry.1)
      (values : ∀ entry ∈ entries, EveryMap condition entry.2) :
      EveryMap condition (.map indefinite entries)
  | tag {number : Nat} {content : Item} (below : EveryMap condition content) :
      EveryMap condition (.tag number content)

theorem EveryMap.mono {condition weaker : List (Item × Item) → Prop} {item : Item}
    (implies : ∀ entries, condition entries → weaker entries)
    (every : EveryMap condition item) : EveryMap weaker item := by
  induction every with
  | leaf leaf => exact .leaf leaf
  | array _ ih => exact .array ih
  | map here _ _ keys values => exact .map (implies _ here) keys values
  | tag _ ih => exact .tag ih

/-- No map occurs in the item. -/
abbrev MapFree : Item → Prop :=
  EveryMap fun _ => False

end Item

/-! ## The grammar -/

/-- The number that some bytes spell, the most significant one first. -/
def bigEndian (bytes : List UInt8) : Nat :=
  bytes.foldl (fun value byte => value * 256 + byte.toNat) 0

/-- The first byte of an item: its major type and the additional information. -/
def initialByte (major info : Nat) : UInt8 :=
  UInt8.ofNat (major * 32 + info)

/-- The code that ends an item of indefinite length. -/
def breakCode : UInt8 := 0xff

/-- The heads of a major type and an argument.  The shortest one is not asked for. -/
inductive HeadOf (major : Nat) : Nat → List UInt8 → Prop
  | direct {argument : Nat} (small : argument ≤ 23) :
      HeadOf major argument [initialByte major argument]
  | extended {size : Nat} {tail : List UInt8} (sizes : size ≤ 3) (length : tail.length = 2 ^ size) :
      HeadOf major (bigEndian tail) (initialByte major (24 + size) :: tail)

/-- The chunks of a string of indefinite length. -/
inductive ChunksOf (major : Nat) : List (List UInt8) → List UInt8 → Prop
  | nil : ChunksOf major [] []
  | cons {chunk head : List UInt8} {chunks : List (List UInt8)} {rest : List UInt8}
      (here : HeadOf major chunk.length head) (later : ChunksOf major chunks rest) :
      ChunksOf major (chunk :: chunks) (head ++ chunk ++ rest)

mutual
/-- The bytes encode the item. -/
inductive Encodes : List UInt8 → Item → Prop
  | unsigned {value : Nat} {head : List UInt8} (here : HeadOf 0 value head) :
      Encodes head (.unsigned value)
  | negative {value : Nat} {head : List UInt8} (here : HeadOf 1 value head) :
      Encodes head (.negative value)
  | bytes {content head : List UInt8} (here : HeadOf 2 content.length head) :
      Encodes (head ++ content) (.bytes false [content])
  | byteChunks {chunks : List (List UInt8)} {body : List UInt8} (inside : ChunksOf 2 chunks body) :
      Encodes (initialByte 2 31 :: body ++ [breakCode]) (.bytes true chunks)
  | text {content head : List UInt8} (here : HeadOf 3 content.length head) :
      Encodes (head ++ content) (.text false [content])
  | textChunks {chunks : List (List UInt8)} {body : List UInt8} (inside : ChunksOf 3 chunks body) :
      Encodes (initialByte 3 31 :: body ++ [breakCode]) (.text true chunks)
  | array {elements : List Item} {head body : List UInt8}
      (here : HeadOf 4 elements.length head) (inside : EncodesAll body elements) :
      Encodes (head ++ body) (.array false elements)
  | arrayUntilBreak {elements : List Item} {body : List UInt8}
      (inside : EncodesAll body elements) :
      Encodes (initialByte 4 31 :: body ++ [breakCode]) (.array true elements)
  | map {entries : List (Item × Item)} {head body : List UInt8}
      (here : HeadOf 5 entries.length head)
      (inside : EncodesAll body (entries.flatMap fun entry => [entry.1, entry.2])) :
      Encodes (head ++ body) (.map false entries)
  | mapUntilBreak {entries : List (Item × Item)} {body : List UInt8}
      (inside : EncodesAll body (entries.flatMap fun entry => [entry.1, entry.2])) :
      Encodes (initialByte 5 31 :: body ++ [breakCode]) (.map true entries)
  | tag {number : Nat} {content : Item} {head body : List UInt8} (here : HeadOf 6 number head)
      (inside : Encodes body content) : Encodes (head ++ body) (.tag number content)
  | simple {value : Nat} (small : value ≤ 23) : Encodes [initialByte 7 value] (.simple value)
  | simpleByte {value : UInt8} (large : 32 ≤ value.toNat) :
      Encodes [initialByte 7 24, value] (.simple value.toNat)
  | float {size : Nat} {tail : List UInt8} (sizes : 1 ≤ size ∧ size ≤ 3)
      (length : tail.length = 2 ^ size) :
      Encodes (initialByte 7 (24 + size) :: tail) (.float (2 ^ size) (bigEndian tail))

/-- The bytes encode the items, one after the other. -/
inductive EncodesAll : List UInt8 → List Item → Prop
  | nil : EncodesAll [] []
  | cons {first rest : List UInt8} {item : Item} {items : List Item}
      (here : Encodes first item) (later : EncodesAll rest items) :
      EncodesAll (first ++ rest) (item :: items)
end

end Vc.Cbor
