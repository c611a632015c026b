import Vc.Cbor.Codec
import Vc.Cbor.Decode
import Vc.Data.Base64
import Vc.Data.JsonTree

/-!
# Status lists and their tokens

`pkg/tokenstatuslist`: a list of statuses is compressed and carried in a JWT or
in a CWT, and its entries are looked up again.  Compression, number literals and
the encoding of data items are parameters that carry their laws; so are the
signature schemes.  A JWT is represented by its header, its claims and its
signature.
-/

namespace Vc.Tokenstatuslist

open Checks Entries List Cbor Base64

/-! ## Compression -/

/-- `compress/zlib` -/
structure Zlib where
  compress : List UInt8 → List UInt8
  decompress : List UInt8 → Except String (List UInt8)
  lossless : ∀ data, decompress (compress data) = .ok data

/-- Data that is stored as it is. -/
def Zlib.stored : Zlib where
  compress := id
  decompress := .ok
  lossless _ := rfl

def maxDecompressedSize : Nat := 50 * 2 ^ 20

variable (zlib : Zlib)

def decompressStatuses (compressed : List UInt8) :
    Except String (List UInt8) := do
  let b ← zlib.decompress compressed
  require (b.length ≤ maxDecompressedSize)
    "decompressed status list exceeds maximum size (52428800 bytes)"
  return b

def compressAndEncode (statuses : List UInt8) : String :=
  String.ofList (encode (zlib.compress statuses))

def decodeAndDecompress (encoded : String) : Except String (List UInt8) :=
  match decode encoded.toList with
  | none => .error "illegal base64 data"
  | some compressed => decompressStatuses zlib compressed

theorem decodeAndDecompress_encode (compressed : List UInt8) :
    decodeAndDecompress zlib (String.ofList (encode compressed)) =
      decompressStatuses zlib compressed := by
  rw [decodeAndDecompress, String.toList_ofList, decode_encode]

theorem decompressStatuses_compress (statuses : List UInt8) :
    decompressStatuses zlib (zlib.compress statuses) =
      if statuses.length ≤ maxDecompressedSize then .ok statuses
      else .error "decompressed status list exceeds maximum size (52428800 bytes)" := by
  rw [decompressStatuses, zlib.lossless]
  split_ifs with fits
  · exact bind_eq_ok_iff.mpr ⟨statuses, rfl, bind_eq_ok_iff.mpr
      ⟨(), require_eq_ok_iff.mpr fits, rfl⟩⟩
  · simp [require, fits]

def getStatus (statuses : List UInt8) (index : Int) : Except String UInt8 :=
  if index < 0 then .error "invalid status index: out of bounds"
  else match statuses[index.toNat]? with
    | none => .error "invalid status index: out of bounds"
    | some status => .ok status

/-! ## Data items -/

/-- An integer as a data item. -/
def intItem (value : Int) : Item :=
  if 0 ≤ value then .unsigned value.toNat else .negative (-1 - value).toNat

def textItem (text : String) : Item :=
  .text false [text.toUTF8.data.toList]

def bytesItem (bytes : List UInt8) : Item :=
  .bytes false [bytes]

/-- An integer that fits in 64 bits. -/
def asInt : Item → Option Int
  | .unsigned value => if value < 2 ^ 63 then some value else none
  | .negative value => if value < 2 ^ 63 then some (-1 - value) else none
  | _ => none

/-- Fill an integer: simple values and big numbers are integers, too, and null is zero. -/
def fillInt : Item → Option Int
  | .simple value =>
    if value = 20 ∨ value = 21 then none
    else if value = 22 ∨ value = 23 then some 0
    else some value
  | .tag 2 (.bytes _ chunks) => asInt (.unsigned (bigEndian chunks.flatten))
  | .tag 3 (.bytes _ chunks) => asInt (.negative (bigEndian chunks.flatten))
  | item => asInt item

/-- The type assertion to `[]byte`. -/
def asBytes : Item → Option (List UInt8)
  | .bytes _ chunks => some chunks.flatten
  | _ => none

/-- The type assertion to `string`. -/
def asString : Item → Option String
  | .text _ chunks => String.fromUTF8? ⟨chunks.flatten.toArray⟩
  | _ => none

@[simp]
theorem asString_textItem (text : String) : asString (textItem text) = some text := by
  simp only [asString, textItem, flatten_cons, flatten_nil, append_nil, Array.toArray_toList]
  exact dif_pos text.isValidUTF8

@[simp]
theorem asBytes_bytesItem (bytes : List UInt8) : asBytes (bytesItem bytes) = some bytes :=
  congrArg some flatten_singleton

/-- A map with integer keys. -/
abbrev IntMap := List (Int × Item)

/-- A decode into a `map[int]any`.  A key is looked up in the map that the entries leave,
so the last one of several counts. -/
def decodeIntMap (cbor : Codec) (data : List UInt8) : Except String IntMap :=
  match cbor.unmarshal data with
  | .error error => .error error
  | .ok (.map _ entries) =>
    match entries.mapM fun entry =>
      ((peel entry.1).toOption.bind fillInt).map fun key => (key, entry.2) with
    | none => .error "cbor: cannot unmarshal into Go value of type int"
    | some pairs => .ok pairs.reverse
  | .ok (.simple 22) | .ok (.simple 23) => .ok []
  | .ok _ => .error "cbor: cannot unmarshal into Go value of type map[int]interface \x7b\x7d"

/-- The bytes under the key 2 of a decoded map. -/
def lstOf (entries : List (Item × Item)) : Option (List UInt8) :=
  (entries.reverse.find? fun entry => asInt entry.1 = some 2).bind fun entry => asBytes entry.2

/-! ## Tokens -/

structure StatusList where
  statuses : List UInt8
  issuer : String
  subject : String
  ttl : Int
  /-- in nanoseconds -/
  expiresIn : Int
  keyID : String
  aggregationURI : String

structure StatusListClaim where
  bits : Int
  lst : String
  aggregationURI : String

/-- `JWTClaims`; the dates are in seconds. -/
structure JWTClaims where
  issuer : String
  subject : String
  issuedAt : Int
  expiresAt : Option Int
  statusList : StatusListClaim
  ttl : Int

def Bits : Int := 8

/-- The second that an instant in nanoseconds is in. -/
def unix (instant : Int) : Int :=
  instant / 10 ^ 9

/-- The claims of `GenerateJWT`. -/
def StatusList.jwtClaims (sl : StatusList) (now : Int) : JWTClaims where
  issuer := sl.issuer
  subject := sl.subject
  issuedAt := unix now
  expiresAt := if 0 < sl.expiresIn then some (unix (now + sl.expiresIn)) else none
  statusList := {
    bits := Bits
    lst := compressAndEncode zlib sl.statuses
    aggregationURI := sl.aggregationURI }
  ttl := if 0 < sl.ttl then sl.ttl else 0

/-- JSON numbers for integers, and the second that a number denotes. -/
structure Numbers where
  literal : Int → String
  seconds : String → Int
  exact : ∀ value, seconds (literal value) = value

/-- A literal with as many digits as the number is from zero. -/
def unaryLiteral (value : Int) : String :=
  String.ofList
    (if 0 ≤ value then replicate value.toNat '1' else '-' :: replicate (-value).toNat '1')

def unarySeconds (literal : String) : Int :=
  match literal.toList with
  | '-' :: digits => -(digits.length : Int)
  | digits => digits.length

theorem unarySeconds_unaryLiteral (value : Int) : unarySeconds (unaryLiteral value) = value := by
  rw [unarySeconds, unaryLiteral, String.toList_ofList]
  split_ifs with natural
  · rcases count : value.toNat with _ | rest
    · simp only [replicate_zero, length_nil]
      omega
    · change ((('1' :: replicate rest '1').length : Nat) : Int) = value
      rw [length_cons, length_replicate]
      omega
  · simp only [length_replicate]
    omega

def Numbers.unary : Numbers :=
  ⟨unaryLiteral, unarySeconds, unarySeconds_unaryLiteral⟩

/-- A member that is left out when it is empty. -/
def omitEmpty (empty : Bool) (name : String) (value : Json) (members : Members) : Members :=
  if empty then members else put name value members

/-- The claims as a JSON object. -/
def JWTClaims.marshal (numbers : Numbers) (claims : JWTClaims) : Members :=
  let statusList := omitEmpty (claims.statusList.aggregationURI = "") "aggregation_uri"
    (.str claims.statusList.aggregationURI)
    (put "lst" (.str claims.statusList.lst)
      (put "bits" (.num (numbers.literal claims.statusList.bits)) []))
  omitEmpty (claims.issuer = "") "iss" (.str claims.issuer)
    (omitEmpty (claims.subject = "") "sub" (.str claims.subject)
      (omitEmpty claims.expiresAt.isNone "exp" (.num (numbers.literal (claims.expiresAt.getD 0)))
        (omitEmpty (claims.ttl = 0) "ttl" (.num (numbers.literal claims.ttl))
          (put "iat" (.num (numbers.literal claims.issuedAt))
            (put "status_list" (.obj statusList) [])))))

def getStatusFromJWT (claims : JWTClaims) (index : Int) : Except String UInt8 :=
  match decodeAndDecompress zlib claims.statusList.lst with
  | .error error => .error ("failed to decode status list: " ++ error)
  | .ok statuses => getStatus statuses index

/-- `GetStatusFromCWT`, of claims that were parsed. -/
def getStatusFromCWT (claims : IntMap) (index : Int) : Except String UInt8 :=
  match claims.lookup 65534 with
  | none => .error "status_list claim not found"
  | some (.map _ entries) =>
    match lstOf entries with
    | none => .error "lst not found in status_list"
    | some lstBytes =>
      match decompressStatuses zlib lstBytes with
      | .error error => .error ("failed to decompress status list: " ++ error)
      | .ok statuses => getStatus statuses index
  | some _ => .error "invalid status_list claim format"

end Vc.Tokenstatuslist
