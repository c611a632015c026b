import Vc.Cbor.Reader
import Vc.Data.Rfc3339

/-!
# Decoding CBOR items into Go values

What `fxamacker/cbor` makes of an item that it has read, with the options
`DupMapKeyEnforcedAPF` and `UTF8RejectInvalid` and every other one at its
default.  A decode into `any` interprets tags: tag 0 and tag 1 become an instant,
tag 2 and tag 3 a big integer.  A decode into a string, a slice, a map or a
boolean looks through the tags at what they enclose, and null leaves the zero
value.  Where a tag number has a fixed kind of content, both refuse any other.

A raw message is the item itself, without the tags that only mark CBOR.
-/

namespace Vc.Cbor

open Checks List Option

/-- Why a decode fails. -/
inductive DecodeFault where
  | duplicateKey
  | inadmissibleTag
  | invalidKeyType
  | invalidText
  | invalidTime
  | wrongType
  deriving DecidableEq

/-- What a decode into `any` makes of an item, as far as map keys are told apart by it. -/
inductive Value where
  | nil
  | bool (value : Bool)
  | unsigned (value : Nat)
  | negative (value : Nat)
  | bignum
  | bytes
  | text (text : String)
  | simple (value : Nat)
  | float (width bits : Nat)
  | time (source : Value)
  | tag (number : Nat) (content : Value)
  | array
  | map
  deriving DecidableEq

/-- `isHashableValue` -/
def Value.isHashable : Value → Bool
  | .bignum | .bytes | .array | .map => false
  | .tag _ content => content.isHashable
  | _ => true

/-- `tagNumSelfDescribedCBOR` -/
def selfDescribed : Nat := 55799

def maxInt64 : Nat := 2 ^ 63 - 1

/-- The text of a text string, if its chunks are UTF-8. -/
def textOf (chunks : List (List UInt8)) : Option String :=
  (chunks.mapM fun chunk => String.fromUTF8? ⟨chunk.toArray⟩).map String.join

def validBuiltinTag : Nat → Item → Bool
  | 0, .text _ _ => true
  | 0, _ => false
  | 1, .unsigned _ | 1, .negative _ | 1, .float _ _ => true
  | 1, _ => false
  | 2, .bytes _ _ | 3, .bytes _ _ => true
  | 2, _ | 3, _ => false
  | _, _ => true

/-- The seconds of a floating-point number do not fit in 64 bits. -/
def floatOverflows (width bits : Nat) : Bool :=
  let exponent := if width = 4 then bits / 2 ^ 23 % 2 ^ 8 else bits / 2 ^ 52 % 2 ^ 11
  let bias := if width = 4 then 127 else 1023
  let fraction := if width = 4 then bits % 2 ^ 23 else bits % 2 ^ 52
  let isNegative := if width = 4 then bits / 2 ^ 31 = 1 else bits / 2 ^ 63 = 1
  width ≠ 2 && exponent ≠ 2 * bias + 1 && exponent ≥ bias + 63 &&
    ¬(isNegative ∧ exponent = bias + 63 ∧ fraction = 0)

/-- `parseToTime`, of the content of tag 0 or tag 1. -/
def parseTime : Item → Except DecodeFault Value
  | .text _ chunks =>
    match textOf chunks with
    | none => .error .invalidText
    | some text =>
      if (Rfc3339.parse text.toList).isSome then .ok (.time (.text text))
      else .error .invalidTime
  | .unsigned value =>
    if value ≤ maxInt64 then .ok (.time (.unsigned value)) else .error .wrongType
  | .negative value =>
    if value ≤ maxInt64 then .ok (.time (.negative value)) else .error .wrongType
  | .float width bits =>
    if floatOverflows width bits then .error .wrongType else .ok (.time (.float width bits))
  | _ => .error .wrongType

/-! ## Maps -/

variable {α : Type}

/-- `parseMapToMap`, over the decoded keys and values.  An error is reported at the end of the
map, unless a key is repeated before that. -/
def buildMap (seen : List (Value × α)) (failure : Option DecodeFault) :
    List (Except DecodeFault Value × Except DecodeFault α) → Except DecodeFault (List (Value × α))
  | [] =>
    match failure with
    | none => .ok seen
    | some fault => .error fault
  | (.error fault, _) :: rest => buildMap seen (failure.or (some fault)) rest
  | (.ok key, value) :: rest =>
    if key.isHashable = false then buildMap seen (failure.or (some .invalidKeyType)) rest
    else
      match value with
      | .error fault => buildMap seen (failure.or (some fault)) rest
      | .ok value =>
        if key ∈ seen.map (·.1) then .error .duplicateKey
        else buildMap (seen ++ [(key, value)]) failure rest

/-- The first error of a list of results. -/
def firstError : List (Except DecodeFault α) → Except DecodeFault Unit
  | [] => .ok ()
  | .error fault :: _ => .error fault
  | .ok _ :: rest => firstError rest

/-! ## Decoding into `any` -/

mutual
/-- `parse`; with `skip`, tags that only mark CBOR are dropped first. -/
def parse (skip : Bool) : Item → Except DecodeFault Value
  | .unsigned value => .ok (.unsigned value)
  | .negative value => .ok (if value ≤ maxInt64 then .negative value else .bignum)
  | .bytes _ _ => .ok .bytes
  | .text _ chunks =>
    match textOf chunks with
    | none => .error .invalidText
    | some text => .ok (.text text)
  | .array _ elements => (firstError (parseElements elements)).map fun _ => .array
  | .map _ entries => (buildMap [] none (parseEntries entries)).map fun _ => .map
  | .tag number content =>
    if skip ∧ number = selfDescribed then parse true content
    else if validBuiltinTag number content = false then .error .inadmissibleTag
    else if number = 0 ∨ number = 1 then parseTime content
    else if number = 2 ∨ number = 3 then .ok .bignum
    else (parse false content).map (.tag number)
  | .simple value =>
    .ok (if value = 20 then .bool false else if value = 21 then .bool true
      else if value = 22 ∨ value = 23 then .nil else .simple value)
  | .float width bits => .ok (.float width bits)

/-- The elements of an array. -/
def parseElements : List Item → List (Except DecodeFault Value)
  | [] => []
  | first :: rest => parse true first :: parseElements rest

/-- The entries of a map. -/
def parseEntries :
    List (Item × Item) → List (Except DecodeFault Value × Except DecodeFault Value)
  | [] => []
  | (key, value) :: rest => (parse true key, parse true value) :: parseEntries rest
end

variable (item : Item)

def decodeAny : Except DecodeFault Value :=
  parse true item

/-! ## Raw messages -/

/-- The item without the tags that only mark CBOR. -/
def stripSelfDescribed : Item → Item
  | .tag number content =>
    if number = selfDescribed then stripSelfDescribed content else .tag number content
  | item => item

/-- Every tag in front of an item has the content that its number asks for. -/
def validTags : Item → Bool
  | .tag number content => validBuiltinTag number content && validTags content
  | _ => true

mutual
/-- No tag inside the item has content of a kind that it does not admit. -/
def everyTagValid : Item → Bool
  | .array _ elements => everyElementValid elements
  | .map _ entries => everyEntryValid entries
  | .tag number content => validBuiltinTag number content && everyTagValid content
  | .unsigned _ | .negative _ | .bytes _ _ | .text _ _ | .simple _ | .float _ _ => true

/-- The same for the elements of an array. -/
def everyElementValid : List Item → Bool
  | [] => true
  | first :: rest => everyTagValid first && everyElementValid rest

/-- The same for the entries of a map. -/
def everyEntryValid : List (Item × Item) → Bool
  | [] => true
  | (key, value) :: rest => everyTagValid key && everyTagValid value && everyEntryValid rest
end

def decodeRaw : Except DecodeFault Item :=
  if validTags (stripSelfDescribed item) then .ok (stripSelfDescribed item)
  else .error .inadmissibleTag

/-! ## Decoding into typed values -/

/-- The item that a typed decode looks at, beneath the tags. -/
def peel : Item → Except DecodeFault Item
  | .tag number content =>
    if validBuiltinTag number content = false then .error .inadmissibleTag
    else if number = 2 ∨ number = 3 then .ok (.tag number content)
    else peel content
  | item => .ok item

/-- Null or undefined. -/
def isNil : Item → Bool
  | .simple 22 | .simple 23 => true
  | _ => false

/-- Fill a string. -/
def fillText : Item → Except DecodeFault String
  | .text _ chunks =>
    match textOf chunks with
    | none => .error .invalidText
    | some text => .ok text
  | item => if isNil item then .ok "" else .error .wrongType

def fillByte : Item → Except DecodeFault UInt8
  | .unsigned value => if value < 256 then .ok (UInt8.ofNat value) else .error .wrongType
  | .tag 2 (.bytes _ chunks) =>
    if bigEndian chunks.flatten < 256 then .ok (UInt8.ofNat (bigEndian chunks.flatten))
    else .error .wrongType
  | .simple value =>
    if value = 20 ∨ value = 21 then .error .wrongType
    else if value = 22 ∨ value = 23 then .ok 0
    else .ok (UInt8.ofNat value)
  | _ => .error .wrongType

/-- Fill a slice of bytes: an array of small integers is one, too. -/
def fillBytes : Item → Except DecodeFault (List UInt8)
  | .bytes _ chunks | .tag _ (.bytes _ chunks) => .ok chunks.flatten
  | .array _ elements => elements.mapM fun element => (peel element).bind fillByte
  | item => if isNil item then .ok [] else .error .wrongType

/-- Fill a boolean. -/
def fillBool : Item → Except DecodeFault Bool
  | .simple 20 => .ok false
  | .simple 21 => .ok true
  | item => if isNil item then .ok false else .error .wrongType

/-- Fill a slice of raw messages. -/
def fillRawArray : Item → Except DecodeFault (List Item)
  | .array _ elements => elements.mapM decodeRaw
  | item => if isNil item then .ok [] else .error .wrongType

/-- Fill a map from `any` to raw messages. -/
def fillRawMap : Item → Except DecodeFault (List (Value × Item))
  | .map _ entries =>
    buildMap [] none (entries.map fun entry => (decodeAny entry.1, decodeRaw entry.2))
  | item => if isNil item then .ok [] else .error .wrongType

/-- A decode into a value of some type. -/
def decodeInto (fill : Item → Except DecodeFault α) (item : Item) : Except DecodeFault α :=
  (peel item).bind fill

def decodeRawTag : Except DecodeFault (Nat × Item) :=
  match decodeRaw item with
  | .ok (.tag number content) => .ok (number, content)
  | .ok _ => .error .wrongType
  | .error fault => .error fault

/-! ## Decoded maps -/

section Maps

variable {α : Type} {entries : List (Except DecodeFault Value × Except DecodeFault α)}
  {seen result : List (Value × α)}

theorem buildMap_some_ne_ok {fault : DecodeFault} :
    buildMap seen (some fault) entries ≠ .ok result := by
  induction entries generalizing seen with
  | nil => simp [buildMap]
  | cons entry rest ih =>
    obtain ⟨key | key, value⟩ := entry
    · exact ih
    · simp only [buildMap]
      by_cases unhashable : key.isHashable = false
      · rw [if_pos unhashable]
        exact ih
      · rw [if_neg unhashable]
        cases value with
        | error => exact ih
        | ok value =>
          split_ifs
          · exact nofun
          · exact ih

/-- The entries of a map that is built: each of them decoded, and the keys distinct. -/
theorem buildMap_eq_ok_iff (distinct : (seen.map (·.1)).Nodup) :
    buildMap seen none entries = .ok result ↔
      ∃ pairs, Forall₂ (fun entry pair => entry.1 = .ok pair.1 ∧ entry.2 = .ok pair.2 ∧
        pair.1.isHashable = true) entries pairs ∧
        result = seen ++ pairs ∧ (result.map (·.1)).Nodup := by
  induction entries generalizing seen with
  | nil =>
    rw [buildMap]
    simp only [forall₂_nil_left_iff, exists_eq_left, append_nil, Except.ok.injEq]
    exact ⟨fun same => ⟨same.symm, same ▸ distinct⟩, fun both => both.1.symm⟩
  | cons entry rest ih =>
    obtain ⟨key | key, value⟩ := entry
    · simp only [forall₂_cons_left_iff]
      refine iff_of_false buildMap_some_ne_ok ?_
      rintro ⟨_, ⟨pair, _, ⟨impossible, _⟩, _⟩, _⟩
      cases impossible
    · simp only [buildMap, forall₂_cons_left_iff]
      by_cases unhashable : key.isHashable = false
      · rw [if_pos unhashable]
        refine iff_of_false buildMap_some_ne_ok ?_
        rintro ⟨_, ⟨pair, _, ⟨same, _, hashable⟩, _⟩, _⟩
        cases same
        simp [hashable] at unhashable
      · rw [if_neg unhashable]
        cases value with
        | error fault =>
          refine iff_of_false buildMap_some_ne_ok ?_
          rintro ⟨_, ⟨pair, _, ⟨_, impossible, _⟩, _⟩, _⟩
          cases impossible
        | ok value =>
          split_ifs with repeated
          · refine iff_of_false nofun ?_
            rintro ⟨_, ⟨pair, others, ⟨same, _, _⟩, _, rfl⟩, rfl, nodup⟩
            cases same
            rw [map_append, nodup_append] at nodup
            exact nodup.2.2 _ repeated _ (by simp) rfl
          · have distinctNext : ((seen ++ [(key, value)]).map (·.1)).Nodup := by
              rw [map_append, nodup_append]
              refine ⟨distinct, by simp, fun first inSeen second isKey same => repeated ?_⟩
              obtain rfl : second = key := mem_singleton.mp isKey
              exact same ▸ inSeen
            rw [ih distinctNext]
            constructor
            · rintro ⟨pairs, all, rfl, nodup⟩
              exact ⟨(key, value) :: pairs, ⟨(key, value), pairs,
                ⟨rfl, rfl, by simpa using unhashable⟩, all, rfl⟩, by simp, nodup⟩
            · rintro ⟨_, ⟨pair, pairs, ⟨sameKey, sameValue, _⟩, all, rfl⟩, rfl, nodup⟩
              cases sameKey
              cases sameValue
              exact ⟨pairs, all, by simp, nodup⟩

end Maps

theorem parseElements_eq_map (elements : List Item) :
    parseElements elements = elements.map (parse true) := by
  induction elements with
  | nil => rfl
  | cons first rest ih => rw [parseElements, ih, map_cons]

variable (entries : List (Item × Item))

theorem parseEntries_eq_map :
    parseEntries entries = entries.map fun entry => (decodeAny entry.1, decodeAny entry.2) := by
  induction entries with
  | nil => rfl
  | cons first rest ih =>
    rw [parseEntries, ih]
    rfl

theorem firstError_eq_ok {results : List (Except DecodeFault α)}
    (all : ∀ result ∈ results, ∃ value, result = .ok value) : firstError results = .ok () := by
  induction results with
  | nil => rfl
  | cons first rest ih =>
    obtain ⟨⟨value, rfl⟩, later⟩ := forall_mem_cons.mp all
    exact ih later

/-! ## Typed decodes and decodes into `any` -/

/-- An item that a decode into `any` can take, wherever it stands. -/
def Decodes : Prop :=
  ∀ skip, ∃ value, parse skip item = .ok value

/-- The item is marked as an instant and denotes none. -/
def isBadTime : Item → Bool
  | .tag number content =>
    if number = 0 ∨ number = 1 then !(parseTime content).isOk else isBadTime content
  | _ => false

/-- The item can stand under the tags of instants that admit it. -/
def Timely : Prop :=
  ∀ number, number = 0 ∨ number = 1 → validBuiltinTag number item = true →
    (parseTime item).isOk = true

variable {number : Nat} {content : Item}

theorem peel_of_time (isTime : number = 0 ∨ number = 1)
    (valid : validBuiltinTag number content = true) : peel content = .ok content := by
  rcases isTime with rfl | rfl <;> cases content <;> first | rfl | cases valid

variable {item} {inner : Item}

/-- What a typed decode takes, a decode into `any` can take, unless it is marked as an instant and
denotes none. -/
theorem decodes_of_peel (peeled : peel item = .ok inner)
    (timely : isBadTime item = false) (below : Decodes inner) : Decodes item := by
  induction item using Item.induct with
  | tag number content ih =>
    rw [peel] at peeled
    split_ifs at peeled with inadmissible bignum
    · cases peeled
      exact below
    · rw [isBadTime] at timely
      intro skip
      rw [parse]
      split_ifs with marked isTime
      · rw [if_neg (by rw [marked.2]; decide)] at timely
        exact ih peeled timely _
      · rw [if_pos isTime] at timely
        cases parsed : parseTime content with
        | error fault => simp [parsed, Except.isOk, Except.toBool] at timely
        | ok value => exact ⟨value, rfl⟩
      · rw [if_neg isTime] at timely
        obtain ⟨value, parsed⟩ := ih peeled timely false
        exact ⟨.tag _ _, by rw [parsed]; rfl⟩
  | _ =>
    cases peeled
    exact below

theorem isBadTime_of_peel (peeled : peel item = .ok inner)
    (timely : Timely inner) : isBadTime item = false := by
  induction item using Item.induct with
  | tag number content ih =>
    rw [peel] at peeled
    rw [isBadTime]
    split_ifs at peeled with inadmissible bignum
    · rcases bignum with rfl | rfl <;> cases content <;> first | rfl | exact absurd rfl inadmissible
    · split_ifs with isTime
      · have valid : validBuiltinTag number content = true := by simpa using inadmissible
        rw [peel_of_time isTime valid] at peeled
        cases peeled
        rw [timely _ isTime valid, Bool.not_true]
      · exact ih peeled
  | _ => rfl

variable {condition : List (Item × Item) → Prop}

/-- What holds of the maps beneath the tags holds of the maps of the item. -/
theorem everyMap_of_peel (peeled : peel item = .ok inner) (below : inner.EveryMap condition) :
    item.EveryMap condition := by
  induction item using Item.induct with
  | tag number content ih =>
    rw [peel] at peeled
    split_ifs at peeled
    · cases peeled
      exact below
    · exact .tag (ih peeled)
  | _ =>
    cases peeled
    exact below

theorem validBuiltinTag_selfDescribed (content : Item) :
    validBuiltinTag selfDescribed content = true := by
  cases content <;> rfl

variable (item)

theorem peel_stripSelfDescribed : peel (stripSelfDescribed item) = peel item := by
  induction item using Item.induct with
  | tag number content ih =>
    rw [stripSelfDescribed]
    split_ifs with marked
    · subst marked
      rw [ih, peel, validBuiltinTag_selfDescribed, if_neg (by decide), if_neg (by decide)]
    · rfl
  | _ => rfl

theorem decodeAny_stripSelfDescribed : decodeAny (stripSelfDescribed item) = decodeAny item := by
  induction item using Item.induct with
  | tag number content ih =>
    rw [stripSelfDescribed]
    split_ifs with marked
    · rw [ih, decodeAny, decodeAny, parse, if_pos ⟨rfl, marked⟩]
    · rfl
  | _ => rfl

variable {item}

theorem everyMap_of_stripSelfDescribed
    (below : (stripSelfDescribed item).EveryMap condition) : item.EveryMap condition := by
  induction item using Item.induct with
  | tag number content ih =>
    rw [stripSelfDescribed] at below
    split_ifs at below
    · exact .tag (ih below)
    · exact below
  | _ => exact below

theorem isBadTime_stripSelfDescribed : isBadTime (stripSelfDescribed item) = isBadTime item := by
  induction item using Item.induct with
  | tag number content ih =>
    rw [stripSelfDescribed]
    split_ifs with marked
    · rw [ih, isBadTime, if_neg (by rw [marked]; decide)]
    · rfl
  | _ => rfl

theorem decodeInto_stripSelfDescribed (fill : Item → Except DecodeFault α)
    (item : Item) : decodeInto fill (stripSelfDescribed item) = decodeInto fill item := by
  rw [decodeInto, peel_stripSelfDescribed, decodeInto]

theorem decodeInto_eq_ok {fill : Item → Except DecodeFault α} {value : α}
    (done : decodeInto fill item = .ok value) :
    ∃ inner, peel item = .ok inner ∧ fill inner = .ok value :=
  bind_eq_ok_iff.mp done

/-- An item that holds no map and decodes into `any`, also under the tags of instants. -/
structure Harmless (item : Item) : Prop where
  mapFree : item.MapFree
  decodes : Decodes item
  timely : Timely item

theorem Harmless.simple (value : Nat) : Harmless (.simple value) := by
  refine ⟨.leaf trivial, fun _ => ⟨_, rfl⟩, ?_⟩
  rintro _ (rfl | rfl) valid <;> cases valid

theorem Harmless.of_isNil (null : isNil item = true) : Harmless item := by
  cases item with
  | simple value => exact .simple _
  | _ => cases null

theorem Harmless.of_peel (peeled : peel item = .ok inner)
    (below : Harmless inner) : item.MapFree ∧ Decodes item :=
  ⟨everyMap_of_peel peeled below.mapFree,
    decodes_of_peel peeled (isBadTime_of_peel peeled below.timely) below.decodes⟩

theorem Harmless.bignum (isBignum : number = 2 ∨ number = 3) (indefinite : Bool)
    (chunks : List (List UInt8)) : Harmless (.tag number (.bytes indefinite chunks)) := by
  refine ⟨.tag (.leaf trivial), fun skip => ⟨.bignum, ?_⟩, ?_⟩
  · rcases isBignum with rfl | rfl <;> cases skip <;> rfl
  · rintro _ (rfl | rfl) valid <;> cases valid

theorem harmless_of_fillByte {byte : UInt8} (filled : fillByte item = .ok byte) :
    Harmless item := by
  cases item with
  | unsigned value =>
    rw [fillByte] at filled
    split_ifs at filled with small
    refine ⟨.leaf trivial, fun _ => ⟨_, rfl⟩, ?_⟩
    rintro _ (rfl | rfl) valid
    · cases valid
    · rw [parseTime, if_pos (by rw [maxInt64]; omega)]
      rfl
  | simple value => exact .simple _
  | tag number content =>
    unfold fillByte at filled
    split at filled
    · next same => cases same
    · next same =>
      cases same
      exact .bignum (.inl rfl) _ _
    · next same => cases same
    · cases filled
  | _ => cases filled

variable (indefinite : Bool)

theorem decodes_array {elements : List Item}
    (each : ∀ element ∈ elements, ∃ value, decodeAny element = .ok value) :
    Decodes (.array indefinite elements) := by
  intro skip
  refine ⟨.array, ?_⟩
  rw [parse, parseElements_eq_map, firstError_eq_ok]
  · rfl
  · intro result member
    obtain ⟨element, inElements, rfl⟩ := mem_map.mp member
    exact each _ inElements

/-- Only texts and numbers can stand under the tags of instants. -/
theorem timely_array (elements : List Item) : Timely (.array indefinite elements) := by
  rintro _ (rfl | rfl) valid <;> cases valid

theorem timely_map : Timely (.map indefinite entries) := by
  rintro _ (rfl | rfl) valid <;> cases valid

/-- Beneath the tags there is a tag only for a big integer. -/
theorem isBignum_of_peel
    (peeled : peel item = .ok (.tag number content)) : number = 2 ∨ number = 3 := by
  induction item using Item.induct with
  | tag outer inside ih =>
    rw [peel] at peeled
    split_ifs at peeled with _ bignum
    · cases peeled
      exact bignum
    · exact ih peeled
  | _ => cases peeled

theorem harmless_of_fillBytes {bytes : List UInt8}
    (peeled : peel item = .ok inner) (filled : fillBytes inner = .ok bytes) : Harmless inner := by
  unfold fillBytes at filled
  split at filled
  · refine ⟨.leaf trivial, fun _ => ⟨_, rfl⟩, ?_⟩
    rintro _ (rfl | rfl) valid <;> cases valid
  · exact .bignum (isBignum_of_peel peeled) _ _
  · next indefinite elements =>
    have each : ∀ element ∈ elements, element.MapFree ∧ Decodes element := by
      intro element member
      obtain ⟨byte, _, taken⟩ := exists_result_of_mem_mapM filled member
      obtain ⟨inner, peeledElement, filledElement⟩ := bind_eq_ok_iff.mp taken
      exact (harmless_of_fillByte filledElement).of_peel peeledElement
    exact ⟨.array fun element member => (each _ member).1,
      decodes_array _ fun element member => (each _ member).2 _,
      timely_array _ _⟩
  · split_ifs at filled with null
    exact .of_isNil null

theorem harmless_of_fillBool {value : Bool} (filled : fillBool item = .ok value) :
    Harmless item := by
  unfold fillBool at filled
  split at filled
  · exact .simple _
  · exact .simple _
  · split_ifs at filled with null
    exact .of_isNil null

theorem mapFree_of_fillText {text : String} (filled : fillText item = .ok text) :
    item.MapFree ∧ Decodes item := by
  unfold fillText at filled
  split at filled
  · next indefinite chunks =>
    split at filled
    · cases filled
    · next text known =>
      exact ⟨.leaf trivial, fun _ => ⟨.text _, by rw [parse, known]⟩⟩
  · split_ifs at filled with null
    have harmless := Harmless.of_isNil null
    exact ⟨harmless.mapFree, harmless.decodes⟩

theorem parseTime_eq_ok {value : Value} (parsed : parseTime item = .ok value) :
    ∃ source, value = .time source := by
  unfold parseTime at parsed
  split at parsed
  · split at parsed
    · cases parsed
    · split_ifs at parsed
      cases parsed
      exact ⟨_, rfl⟩
  · split_ifs at parsed
    cases parsed
    exact ⟨_, rfl⟩
  · split_ifs at parsed
    cases parsed
    exact ⟨_, rfl⟩
  · split_ifs at parsed
    cases parsed
    exact ⟨_, rfl⟩
  · cases parsed

theorem mapFree_of_parse_text {skip : Bool} {text : String}
    (parsed : parse skip item = .ok (.text text)) : item.MapFree := by
  induction item using Item.induct generalizing skip with
  | array | map =>
    obtain ⟨_, _, impossible⟩ := map_eq_ok_iff.mp parsed
    cases impossible
  | tag number content ih =>
    rw [parse] at parsed
    split_ifs at parsed
    · exact .tag (ih parsed)
    · obtain ⟨_, impossible⟩ := parseTime_eq_ok parsed
      cases impossible
    · cases parsed
    · obtain ⟨_, _, impossible⟩ := map_eq_ok_iff.mp parsed
      cases impossible
  | _ => exact .leaf trivial

theorem decodeRaw_eq_ok {raw : Item} (done : decodeRaw item = .ok raw) :
    raw = stripSelfDescribed item ∧ validTags raw = true := by
  rw [decodeRaw] at done
  split_ifs at done with valid
  cases done
  exact ⟨rfl, valid⟩

/-- No two keys of a map decode to the same value. -/
def DistinctKeys (entries : List (Item × Item)) : Prop :=
  (entries.map fun entry => decodeAny entry.1).Nodup

/-- The entries of a map, and what a decode into a map of raw messages makes of them. -/
structure RawEntries (entries : List (Item × Item)) (pairs : List (Value × Item)) : Prop where
  each : Forall₂ (fun entry pair => decodeAny entry.1 = .ok pair.1 ∧
    decodeRaw entry.2 = .ok pair.2 ∧ pair.1.isHashable = true) entries pairs
  nodup : (pairs.map (·.1)).Nodup

theorem fillRawMap_eq_ok {pairs : List (Value × Item)} (filled : fillRawMap item = .ok pairs) :
    (isNil item = true ∧ pairs = []) ∨
      ∃ indefinite entries, item = .map indefinite entries ∧ RawEntries entries pairs := by
  unfold fillRawMap at filled
  split at filled
  · next indefinite entries =>
    obtain ⟨found, each, rfl, nodup⟩ := (buildMap_eq_ok_iff (by simp)).mp filled
    rw [forall₂_map_left_iff] at each
    exact .inr ⟨indefinite, entries, rfl, each, nodup⟩
  · split_ifs at filled with null
    cases filled
    exact .inl ⟨null, rfl⟩

namespace RawEntries

variable {entries} {pairs : List (Value × Item)}

section

variable (raw : RawEntries entries pairs)

include raw

theorem map_decodeAny :
    (entries.map fun entry => decodeAny entry.1) = (pairs.map (·.1)).map .ok := by
  have each := raw.each
  clear raw
  induction each with
  | nil => rfl
  | cons here _ ih =>
    rw [map_cons, here.1, ih, map_cons, map_cons]

theorem distinctKeys : DistinctKeys entries := by
  rw [DistinctKeys, raw.map_decodeAny]
  exact Nodup.map (fun _ _ => Except.ok.inj) raw.nodup

theorem exists_pair {entry : Item × Item} (member : entry ∈ entries) :
    ∃ pair ∈ pairs, decodeAny entry.1 = .ok pair.1 ∧ pair.2 = stripSelfDescribed entry.2 := by
  obtain ⟨pair, inPairs, key, value, _⟩ := exists_right_of_mem raw.each member
  exact ⟨pair, inPairs, key, (decodeRaw_eq_ok value).1⟩

theorem exists_entry {pair : Value × Item} (member : pair ∈ pairs) :
    ∃ entry ∈ entries, decodeAny entry.1 = .ok pair.1 ∧ pair.2 = stripSelfDescribed entry.2 := by
  obtain ⟨entry, inEntries, key, value, _⟩ := exists_left_of_mem raw.each member
  exact ⟨entry, inEntries, key, (decodeRaw_eq_ok value).1⟩

/-- A map decodes into `any` if its values do. -/
theorem decodes (indefinite : Bool)
    (values : ∀ entry ∈ entries, ∃ value, decodeAny entry.2 = .ok value) :
    Decodes (.map indefinite entries) := by
  intro skip
  obtain ⟨others, each, sameKeys⟩ : ∃ others : List (Value × Value),
      Forall₂ (fun entry pair => decodeAny entry.1 = .ok pair.1 ∧
        decodeAny entry.2 = .ok pair.2 ∧ pair.1.isHashable = true) entries others ∧
      others.map (·.1) = pairs.map (·.1) := by
    have each := raw.each
    clear raw
    induction each with
    | nil => exact ⟨[], .nil, rfl⟩
    | @cons entry pair _ _ here _ ih =>
      obtain ⟨⟨value, done⟩, later⟩ := forall_mem_cons.mp values
      obtain ⟨others, each, sameKeys⟩ := ih later
      exact ⟨(pair.1, value) :: others, .cons ⟨here.1, done, here.2.2⟩ each,
        by rw [map_cons, map_cons, sameKeys]⟩
  have built : buildMap [] none (parseEntries entries) = .ok others := by
    rw [parseEntries_eq_map, buildMap_eq_ok_iff (by simp)]
    exact ⟨others, forall₂_map_left_iff.mpr each, rfl, sameKeys ▸ raw.nodup⟩
  exact ⟨.map, by rw [parse, built]; rfl⟩

end

end RawEntries

end Vc.Cbor
