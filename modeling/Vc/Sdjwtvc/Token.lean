import Vc.Data.Float64
import Vc.Data.JsonTree

/-!
# SD-JWT tokens

`pkg/sdjwtvc` works on three levels of text: base64url segments, JSON texts and
hash sums.  `Codec` collects what the code calls there; everything above that
level (the segments of a token, the algorithm names, the shape of a disclosure)
is embedded as the source has it.

Objects are values here.  The Go code shares a map between all the places that
refer to one disclosure and resolves it in place; the copies of the model give
the same result unless a digest is referenced twice and an array element is
resolved to a marker object.
-/

namespace Vc.Sdjwtvc

abbrev Bytes := List UInt8

/-- The characters that `strings.TrimSpace` removes. -/
def whiteSpace : List Char :=
  ([9, 10, 11, 12, 13, 32, 0x85, 0xa0, 0x1680, 0x2028, 0x2029, 0x202f, 0x205f, 0x3000] ++
    List.range' 0x2000 11).map Char.ofNat

def bytes (text : String) : Bytes :=
  text.toUTF8.data.toList

/-- The hash methods that a caller of the issuer can choose from. -/
inductive HashMethod where
  | sha1
  | sha224
  | sha256
  | sha384
  | sha512
  | sha512_224
  | sha512_256
  | sha3_224
  | sha3_256
  | sha3_384
  | sha3_512
  deriving DecidableEq, Repr

/-- `hash.Hash.Size`: the length of a sum in bytes. -/
def HashMethod.size : HashMethod → Nat
  | .sha1 => 20
  | .sha224 | .sha512_224 | .sha3_224 => 28
  | .sha256 | .sha512_256 | .sha3_256 => 32
  | .sha384 | .sha3_384 => 48
  | .sha512 | .sha3_512 => 64

/-- Text encodings and hash sums. -/
structure Codec where
  /-- `base64.RawURLEncoding.EncodeToString` -/
  encodeToString : Bytes → String
  /-- `base64.RawURLEncoding.DecodeString` -/
  decodeString : String → Except String Bytes
  /-- `json.Marshal` -/
  marshal : Json → Bytes
  /-- `json.Unmarshal` into a `map[string]any` -/
  unmarshalObject : Bytes → Except String Members
  /-- `json.Unmarshal` into a `[]any` -/
  unmarshalArray : Bytes → Except String (List Json)
  /-- `Reset`, `Write` and `Sum` of a hash method -/
  sum : HashMethod → Bytes → Bytes
  /-- the `float64` of a JSON number -/
  number : String → ℚ

/-- `time.Unix` of a JSON number, in seconds. -/
def Codec.seconds (codec : Codec) (literal : String) : Int :=
  Float64.unix (Float64.truncated (codec.number literal))

/-- The base64url hash sum of a text. -/
def Codec.digest (codec : Codec) (method : HashMethod) (text : String) : String :=
  codec.encodeToString (codec.sum method (bytes text))

/-- A codec that knows finitely many segments, with their JSON texts and values, and the
SHA-256 sums of finitely many texts, with their encodings. -/
def Codec.ofTable (segments : List (String × String × Json))
    (sums : List (String × Bytes × String)) : Codec where
  encodeToString sum := ((sums.find? (·.2.1 = sum)).map (·.2.2)).getD ""
  decodeString segment :=
    match segments.lookup segment with
    | some (text, _) => .ok (bytes text)
    | none => .error "illegal base64 data at input byte 0"
  marshal _ := []
  unmarshalObject text :=
    match segments.find? (bytes ·.2.1 = text) with
    | some (_, _, .obj members) => .ok members
    | _ => .error "unexpected end of JSON input"
  unmarshalArray text :=
    match segments.find? (bytes ·.2.1 = text) with
    | some (_, _, .arr elements) => .ok elements
    | _ => .error "unexpected end of JSON input"
  sum _ text := ((sums.find? (bytes ·.1 = text)).map (·.2.1)).getD []
  number _ := 0

/-- `fmt.Errorf("context: %w", err)` -/
def wrap {α : Type} (context : String) : Except String α → Except String α :=
  Except.mapError fun error => context ++ ": " ++ error

@[simp]
theorem wrap_eq_ok_iff {α : Type} {context : String} {outcome : Except String α} {value : α} :
    wrap context outcome = .ok value ↔ outcome = .ok value := by
  cases outcome <;> simp [wrap, Except.mapError]

export Checks (bind_eq_ok_iff)

/-- The name that `%T` prints for a decoded JSON value. -/
def goType : Json → String
  | .null => "<nil>"
  | .bool _ => "bool"
  | .num _ => "float64"
  | .str _ => "string"
  | .arr _ => "[]interface \x7b\x7d"
  | .obj _ => "map[string]interface \x7b\x7d"

/-- `strings.Split` with a separator of one character. -/
def split (separator : Char) (text : String) : List String :=
  (text.toList.splitOn separator).map String.ofList

/-- `strings.Join` with a separator of one character. -/
def join (separator : Char) (parts : List String) : String :=
  String.ofList ([separator].intercalate (parts.map String.toList))

/-! ## Segments of a token -/

/-- An SD-JWT token string. -/
abbrev Token := String

/-- The components that `Token.Split` returns; no key binding is the empty list. -/
structure TokenParts where
  header : String
  body : String
  signature : String
  disclosures : List String
  keyBinding : List String
  deriving DecidableEq

def Token.split (token : Token) : Except String TokenParts :=
  if token = "" then .error "empty token"
  else
    let parts := Sdjwtvc.split '~' token
    match Sdjwtvc.split '.' (parts.headD "") with
    | [header, body, signature] =>
      -- without a "~" there is neither a disclosure nor a key binding
      let keyBinding :=
        if 1 < parts.length then Sdjwtvc.split '.' (parts.getLastD "") else []
      .ok {
        header
        body
        signature
        disclosures := parts.tail.dropLast
        keyBinding := if "" ∈ keyBinding then [] else keyBinding }
    | _ => .error "invalid JWT format: must have 3 parts (header.payload.signature)"

def combine (token : String) (disclosures : List String) (keyBinding : String) : Token :=
  (if disclosures ≠ [] then token ++ "~" ++ join '~' disclosures ++ "~" else token ++ "~") ++
    keyBinding

/-! ## Hash algorithms by name -/

def getHashFromAlgorithm (algName : String) : Except String HashMethod :=
  if algName = "sha-256" then .ok .sha256
  else if algName = "sha-384" then .ok .sha384
  else if algName = "sha-512" then .ok .sha512
  else if algName = "sha3-256" then .ok .sha3_256
  else if algName = "sha3-512" then .ok .sha3_512
  else .error ("unsupported hash algorithm: " ++ algName)

/-- The algorithm that a payload names, `sha-256` by default. -/
def sdAlg (claims : Members) : String :=
  match claims.lookup "_sd_alg" with
  | some (.str algName) => if algName = "" then "sha-256" else algName
  | _ => "sha-256"

/-! ## Digests in a payload -/

/-- The digests in the `_sd` array of an object; entries that are not strings are skipped. -/
def sdDigests (node : Members) : List String :=
  match node.lookup "_sd" with
  | some (.arr digests) => digests.filterMap Json.str?
  | _ => []

/-- An object whose only key is `...`. -/
def isMarker : Json → Bool
  | .obj [(name, _)] => name = "..."
  | _ => false

/-- The digest of an array element marker `{"...": "<hash>"}`. -/
def markerDigest : Json → Option String
  | .obj [(name, .str digest)] => if name = "..." then some digest else none
  | _ => none

theorem isMarker_of_markerDigest {element : Json} {digest : String}
    (marked : markerDigest element = some digest) : isMarker element = true := by
  unfold markerDigest at marked
  split at marked
  · next name value =>
      split at marked
      · next equal => simp [isMarker, equal]
      · cases marked
  · cases marked

end Vc.Sdjwtvc
