import Vc.Sdjwtvc.Verification
import Vc.Sdjwtvc.Walk

/-!
# The two readers of a token

`Token.Parse` and `Client.ParseAndVerify` split a token and resolve its digests
by rules of their own.  They take the last segment differently when it is
neither empty nor a key binding JWT; the verifier skips claims with an empty
name, opens array markers with disclosures of object claims, and leaves the
markers of undisclosed elements in place.  `ReadAlike` says that none of this
plays a part, and then, and only then, both read the same.
-/

namespace Vc.Sdjwtvc

open Entries Lookup Token DisclosureMap Disclosure

/-! ## The same disclosures in both readers -/

variable {hashMethod : HashMethod} {codec : Codec} {disclosure : Disclosure} {text : String}

variable {disclosureMap : DisclosureMap} {disclosures : List Disclosure} {texts : List String}

section Lookups

variable (twins : List.Forall₂ Twins disclosureMap disclosures)
include twins

end Lookups

/-! ## The same segments -/

/-- The last segment is empty or a key binding JWT. -/
def LastPartSettled (token : Token) : Prop :=
  1 < (split '~' token).length →
    (split '~' token).getLastD "" = "" ∨ ((split '~' token).getLastD "").toList.count '.' = 2

instance (token : Token) : Decidable (LastPartSettled token) :=
  inferInstanceAs (Decidable (_ → _))

namespace Lookup

variable (lookup : Lookup)

/-- Every claim that the walk from `root` sets has a name. -/
def SetsNamed (root : Json) : Prop :=
  ∀ node, lookup.Reaches root (.obj node) → ∀ digest ∈ sdDigests node,
    ∀ name value, lookup.member digest = some (name, value) → name ≠ ""

end Lookup

variable {element : Json}

section Walks

variable {root : Json} (twins : List.Forall₂ Twins disclosureMap disclosures)
include twins

section

variable (named : disclosureMap.lookup.SetsNamed root)

include named

end

end Walks

/-! ## Agreement of the readers -/

/-- The payload of a token and its disclosures, before any digest is resolved. -/
def Token.reading (codec : Codec) (token : Token) : Except String (Members × DisclosureMap) := do
  let (parts, _, claims) ← token.decode codec
  let hashMethod ← getHashFromAlgorithm (sdAlg claims)
  let disclosureMap ← sdDisclosureMap codec hashMethod parts.disclosures
  return (claims, disclosureMap)

/-- The token avoids what the readers treat differently. -/
structure ReadAlike (token : Token) (payload : Members) (disclosureMap : DisclosureMap) : Prop where
  /-- the last segment is empty or a key binding JWT -/
  lastPart : LastPartSettled token
  /-- no segment between the first and the last is empty -/
  parts : "" ∉ (split '~' token).tail.dropLast
  /-- no claim with an empty name is disclosed -/
  named : disclosureMap.lookup.SetsNamed (.obj payload)
  /-- every marker is disclosed by an array element, and by none that is a marker itself -/
  markers : ¬ disclosureMap.lookup.LeavesMarker (.obj payload)

/-- Where the readers read alike, resolving a shared value once more does not change it. -/
theorem ReadAlike.resolved_again {token : Token} {payload : Members} {value result : Json}
    {fuel : Nat} (alike : ReadAlike token payload disclosureMap)
    (reached : disclosureMap.lookup.Reaches (.obj payload) value)
    (resolved : disclosureMap.lookup.resolve fuel value = some result) :
    disclosureMap.lookup.resolve fuel result = some result := by
  refine resolve_resolved resolved fun marked => alike.markers ?_
  obtain ⟨elements, below, leaves⟩ := leavesMarker_of_hasMarker resolved marked
  exact ⟨elements, reached.trans below, leaves⟩

section Reading

variable {token : Token} {payload : Members}

section

variable (reading : token.reading codec = .ok (payload, disclosureMap))

include reading

end

end Reading

/-- `{"alg":"ES256","typ":"dc+sd-jwt"}` -/
def sampleHeader : String × String × Json :=
  ("eyJhbGciOiJFUzI1NiIsInR5cCI6ImRjK3NkLWp3dCJ9",
    "\x7b\"alg\":\"ES256\",\"typ\":\"dc+sd-jwt\"\x7d",
    .obj [("alg", .str "ES256"), ("typ", .str "dc+sd-jwt")])

/-- The digest of `WyJzIiwiYSIsIngiXQ`. -/
def sampleDigest : String := "bGLhute7WxeL3CelKGq9llevC6RXgyeBy1paUXOyYOs"

/-- The payload has one digest, and `["s","a","x"]` discloses it. -/
def disclosingCodec : Codec :=
  .ofTable
    [sampleHeader,
      ("eyJfc2QiOlsiYkdMaHV0ZTdXeGVMM0NlbEtHcTlsbGV2QzZSWGd5ZUJ5MXBhVVhPeVlPcyJdLCJ2Y3QiOiJ2In0",
        "\x7b\"_sd\":[\"bGLhute7WxeL3CelKGq9llevC6RXgyeBy1paUXOyYOs\"],\"vct\":\"v\"\x7d",
        .obj [("_sd", .arr [.str sampleDigest]), ("vct", .str "v")]),
      ("WyJzIiwiYSIsIngiXQ", "[\"s\",\"a\",\"x\"]", .arr [.str "s", .str "a", .str "x"])]
    [("WyJzIiwiYSIsIngiXQ",
      [108, 98, 225, 186, 215, 187, 91, 23, 139, 220, 39, 165, 40, 106, 189, 150, 87, 175, 11,
        164, 87, 131, 39, 129, 203, 90, 90, 81, 115, 178, 96, 235], sampleDigest)]

def disclosingToken : Token :=
  "eyJhbGciOiJFUzI1NiIsInR5cCI6ImRjK3NkLWp3dCJ9." ++
    "eyJfc2QiOlsiYkdMaHV0ZTdXeGVMM0NlbEtHcTlsbGV2QzZSWGd5ZUJ5MXBhVVhPeVlPcyJdLCJ2Y3QiOiJ2In0" ++
    ".c2ln~WyJzIiwiYSIsIngiXQ~"

def disclosedClaims : Members := [("a", .str "x"), ("vct", .str "v")]

/-- The result of a verification whose verdict and claims are known. -/
theorem exists_result {ran : Option (VerificationResult × Option String)} {valid : Bool}
    {claims : Members}
    (evaluated : ran.map (fun returned => (returned.1.valid, returned.1.claims, returned.2)) =
      some (valid, claims, none)) :
    ∃ result, ran = some (result, none) ∧ result.valid = valid ∧ result.claims = claims := by
  obtain ⟨⟨result, error⟩, rfl, same⟩ := Option.map_eq_some_iff.mp evaluated
  simp only [Prod.mk.injEq] at same
  obtain ⟨valid, claims, rfl⟩ := same
  exact ⟨result, rfl, valid, claims⟩

theorem exists_disclosed :
    ∃ result, parseAndVerify disclosingCodec .passing none 2 disclosingToken = some (result, none) ∧
      result.valid = true ∧ result.claims = disclosedClaims :=
  exists_result (by decide +kernel)

end Vc.Sdjwtvc
