import Vc.Sdjwtvc.Token

/-!
# Resolving the digests of a payload

Both readers of the package (`Token.Parse` here, `Client.ParseAndVerify` in
`Verification`) walk over the payload in the same way and differ in what they
take a digest to stand for.  `Lookup` is that difference and `Lookup.resolve`
the common walk.

Nothing in the code keeps the disclosures of a token from referring to each
other in a circle, in which case the Go functions do not return.  The walk
therefore takes fuel, and `none` says that it was not enough.
-/

namespace Vc.Sdjwtvc

open Entries

/-- What the digests of a payload stand for. -/
structure Lookup where
  /-- the claim that a digest in an `_sd` array stands for -/
  member : String → Option (String × Json)
  /-- the value that a digest in an array element marker stands for -/
  element : String → Option Json

namespace Lookup

variable (lookup : Lookup)

/-- Set the claim that a digest stands for. -/
def insertClaim (node : Members) (digest : String) : Members :=
  match lookup.member digest with
  | some (name, value) => put name value node
  | none => node

/-- One level of `resolveNode`: set the disclosed claims, then drop `_sd` and `_sd_alg`. -/
def insertDisclosed (node : Members) : Members :=
  without "_sd_alg" (without "_sd" ((sdDigests node).foldl lookup.insertClaim node))

/-- The value that stands at the place of an array element. -/
def opened (element : Json) : Json :=
  ((markerDigest element).bind lookup.element).getD element

/-- The walk of `resolveNode` and `resolveArrayNode`, and of their twins in the verifier. -/
def resolve : Nat → Json → Option Json
  | 0, _ => none
  | fuel + 1, .obj node => (mapValues? (resolve fuel) (lookup.insertDisclosed node)).map .obj
  | fuel + 1, .arr elements =>
    (elements.mapM fun element => resolve fuel (lookup.opened element)).map .arr
  | _ + 1, scalar => some scalar

/-- The walk over the members of an object. -/
def resolveNode (fuel : Nat) (node : Members) : Option Members :=
  mapValues? (lookup.resolve fuel) (lookup.insertDisclosed node)

@[simp]
theorem resolve_zero (value : Json) : lookup.resolve 0 value = none := by
  cases value <;> rfl

@[simp]
theorem resolve_obj (fuel : Nat) (node : Members) :
    lookup.resolve (fuel + 1) (.obj node) = (lookup.resolveNode fuel node).map .obj :=
  rfl

@[simp]
theorem resolve_arr (fuel : Nat) (elements : List Json) :
    lookup.resolve (fuel + 1) (.arr elements) =
      (elements.mapM fun element => lookup.resolve fuel (lookup.opened element)).map .arr :=
  rfl

end Lookup

/-! ## Leftover markers -/

mutual

/-- `cleanUnresolvedMarkers` and `cleanArrayMarkers` on any value. -/
def clean : Json → Json
  | .obj node => .obj (cleanUnresolvedMarkers node)
  | .arr elements => .arr (cleanArrayMarkers elements)
  | scalar => scalar

def cleanUnresolvedMarkers : Members → Members
  | [] => []
  | (name, value) :: rest => (name, clean value) :: cleanUnresolvedMarkers rest

def cleanArrayMarkers : List Json → List Json
  | [] => []
  | element :: rest =>
    if isMarker element then cleanArrayMarkers rest
    else clean element :: cleanArrayMarkers rest

end

/-! ## Token.Parse -/

structure SdParsedDisclosure where
  claimName : String
  claimValue : Json
  isArray : Bool
  deriving DecidableEq

variable (codec : Codec)

/-- One turn of the loop that fills `disclosureMap`.  The salt is not looked at. -/
def sdParseDisclosure (disclosure : String) :
    Except String SdParsedDisclosure := do
  let disclosureBytes ←
    wrap "failed to base64url-decode disclosure" (codec.decodeString disclosure)
  let disclosureArray ←
    wrap "failed to unmarshal disclosure JSON" (codec.unmarshalArray disclosureBytes)
  match disclosureArray with
  | [_, claimValue] => .ok { claimName := "", claimValue, isArray := true }
  | [_, .str claimName, claimValue] => .ok { claimName, claimValue, isArray := false }
  | [_, claimName, _] =>
    .error ("invalid disclosure: claim name must be a string, got " ++ goType claimName)
  | _ =>
    .error ("invalid disclosure format: expected 2 or 3 elements, got " ++
      toString disclosureArray.length)

/-- `disclosureMap`: the disclosures under their hashes, in the order of the token. -/
abbrev DisclosureMap := List (String × SdParsedDisclosure)

/-- Fill `disclosureMap`; the first disclosure that does not parse ends the loop. -/
def sdDisclosureMap (hashMethod : HashMethod) (disclosures : List String) :
    Except String DisclosureMap :=
  disclosures.mapM fun disclosure =>
    (sdParseDisclosure codec disclosure).map (codec.digest hashMethod disclosure, ·)

/-- What `resolveNode` and `resolveArrayNode` look up: claims of three-element disclosures in
`_sd` arrays, values of two-element disclosures in markers.  Of two entries with one hash the
later one has replaced the earlier. -/
def DisclosureMap.lookup (disclosureMap : DisclosureMap) : Lookup where
  member digest :=
    match disclosureMap.reverse.lookup digest with
    | some disclosure =>
      if disclosure.isArray then none else some (disclosure.claimName, disclosure.claimValue)
    | none => none
  element digest :=
    match disclosureMap.reverse.lookup digest with
    | some disclosure => if disclosure.isArray then some disclosure.claimValue else none
    | none => none

def resolveDisclosuresRecursive (fuel : Nat) (claims : Members)
    (disclosures : List String) : Option (Except String Members) :=
  match getHashFromAlgorithm (sdAlg claims) with
  | .error error => some (.error ("unsupported _sd_alg " ++ (sdAlg claims).quote ++ ": " ++ error))
  | .ok hashMethod =>
    match sdDisclosureMap codec hashMethod disclosures with
    | .error error => some (.error error)
    | .ok disclosureMap => (disclosureMap.lookup.resolveNode fuel claims).map .ok

structure ParsedCredential where
  claims : Members
  disclosures : List String
  header : Members
  signature : String
  keyBinding : List String
  deriving DecidableEq

/-- Decode one part of the issuer-signed JWT. -/
def decodePart (decodeContext unmarshalContext part : String) :
    Except String Members := do
  let partBytes ← wrap decodeContext (codec.decodeString part)
  wrap unmarshalContext (codec.unmarshalObject partBytes)

theorem decodePart_eq_ok_iff {codec : Codec} {decodeContext unmarshalContext part : String}
    {members : Members} :
    decodePart codec decodeContext unmarshalContext part = .ok members ↔
      ∃ partBytes, codec.decodeString part = .ok partBytes ∧
        codec.unmarshalObject partBytes = .ok members := by
  simp [decodePart]

/-- What `Token.Parse` decodes before it resolves disclosures: the parts, header and claims. -/
def Token.decode (token : Token) :
    Except String (TokenParts × Members × Members) := do
  let parts ← wrap "failed to split token" token.split
  let header ←
    decodePart codec "failed to decode header" "failed to unmarshal header" parts.header
  let claims ← decodePart codec "failed to decode body" "failed to unmarshal claims" parts.body
  return (parts, header, claims)

def Token.parse (fuel : Nat) (token : Token) : Option (Except String ParsedCredential) :=
  match token.decode codec with
  | .error error => some (.error error)
  | .ok (parts, header, claims) =>
    (resolveDisclosuresRecursive codec fuel claims parts.disclosures).map fun
      | .error error => .error error
      | .ok resolved => .ok {
          claims := cleanUnresolvedMarkers resolved
          disclosures := parts.disclosures
          header
          signature := parts.signature
          keyBinding := parts.keyBinding }

end Vc.Sdjwtvc
