import Vc.Sdjwtvc.Readers

/-!
# Processing rules for digests

The rules of the SD-JWT format on which the issuer's side of the package relies:
a digest is referenced once, `_sd` arrays refer to object claims and markers to
array elements, and a disclosed claim is new in its object.  The verifier checks
none of them.  `ObeysRules` states them for a token, and `keeps_resolve` shows
what they are good for: a claim that the issuer has signed in the open keeps its
value.
-/

namespace Vc.Sdjwtvc

open Entries Option List Lookup Float64

/-! ## The rules -/

/-- What a disclosure discloses. -/
inductive Shape where
  | member (name : String) (value : Json)
  | element (value : Json)
  deriving DecidableEq

namespace Shape

def value : Shape → Json
  | member _ value | element value => value

/-- A three-element disclosure. -/
def IsMember : Shape → Prop
  | member _ _ => True
  | element _ => False

end Shape

variable (codec : Codec)

/-- The content of a disclosure string, if it is well formed. -/
def shapeOf (text : String) : Option Shape :=
  match (codec.decodeString text).bind codec.unmarshalArray with
  | .ok [.str _, .str name, value] => some (.member name value)
  | .ok [.str _, value] => some (.element value)
  | _ => none

/-- The objects of a value that the verifier's traversal visits. -/
def objects : Json → List Members :=
  collect (fun node => [node]) fun _ => []

/-- The digests in the array element markers of a value. -/
def markerDigests : Json → List String :=
  collect (fun _ => []) fun digest => [digest]

/-- The payload and every disclosed value. -/
def sources (payload : Members) (disclosed : List (String × Shape)) : List Json :=
  .obj payload :: disclosed.map fun disclosure => disclosure.2.value

/-- The processing rules, for a payload and the disclosures of a token under their digests. -/
structure ObeysRules (payload : Members) (disclosed : List (String × Shape)) : Prop where
  /-- no digest is referenced more than once -/
  once : ((sources payload disclosed).flatMap collectHashes).Nodup
  /-- a digest in an `_sd` array is not disclosed by a two-element disclosure -/
  sdArrays : ∀ source ∈ sources payload disclosed, ∀ node ∈ objects source,
    ∀ digest ∈ sdDigests node, ∀ shape, (digest, shape) ∈ disclosed → shape.IsMember
  /-- a digest in a marker is not disclosed by a three-element disclosure -/
  markers : ∀ source ∈ sources payload disclosed, ∀ digest ∈ markerDigests source,
    ∀ shape, (digest, shape) ∈ disclosed → ¬ shape.IsMember
  /-- no disclosed claim has a reserved name -/
  reserved : ∀ digest name value, (digest, .member name value) ∈ disclosed →
    name ≠ "_sd" ∧ name ≠ "..."
  /-- a disclosed claim does not exist in the object it is inserted into -/
  absent : ∀ source ∈ sources payload disclosed, ∀ node ∈ objects source,
    ∀ digest ∈ sdDigests node, ∀ name value, (digest, .member name value) ∈ disclosed →
      node.lookup name = none
  /-- and no two claims of one object have one name -/
  distinct : ∀ source ∈ sources payload disclosed, ∀ node ∈ objects source,
    ∀ first ∈ sdDigests node, ∀ second ∈ sdDigests node, ∀ name firstValue secondValue,
      (first, .member name firstValue) ∈ disclosed →
      (second, .member name secondValue) ∈ disclosed → first = second

/-- The signed values stand where the issuer has put them.  The members `_sd` and `_sd_alg` and
the array element markers carry no claims. -/
inductive Keeps : Json → Json → Prop
  | scalar {value : Json} (scalar : value.IsScalar) : Keeps value value
  | arr {signed claims : List Json} (length : signed.length = claims.length)
      (elements : ∀ (index : Nat) element claim, signed[index]? = some element →
        claims[index]? = some claim → markerDigest element = none → Keeps element claim) :
      Keeps (.arr signed) (.arr claims)
  | obj {signed claims : Members} (claim : String → Json)
      (members : ∀ name value, name ≠ "_sd" → name ≠ "_sd_alg" →
        signed.lookup name = some value → claims.lookup name = some (claim name))
      (below : ∀ name value, name ≠ "_sd" → name ≠ "_sd_alg" →
        signed.lookup name = some value → Keeps value (claim name)) :
      Keeps (.obj signed) (.obj claims)

/-! ## The traversal -/

section Collect

variable {α : Type} {atNode : Members → List α} {atMarker : String → List α}

theorem mem_collect_obj {node : Members} {name : String} {value : Json} {found : α}
    (member : (name, value) ∈ node) (plain : name ≠ "_sd")
    (inValue : found ∈ collect atNode atMarker value) :
    found ∈ collect atNode atMarker (.obj node) := by
  have inMembers : ∀ node : Members, (name, value) ∈ node →
      found ∈ collectMembers atNode atMarker node := by
    intro node member
    induction node with
    | nil => exact absurd member not_mem_nil
    | cons entry rest ih =>
      rw [collectMembers, mem_append]
      rcases mem_cons.mp member with same | inRest
      · cases same
        exact .inl (by rwa [if_neg plain])
      · exact .inr (ih inRest)
  rw [collect, mem_append]
  exact .inr (inMembers _ member)

theorem mem_collect_arr {elements : List Json} {element : Json} {found : α}
    (member : element ∈ elements) (plain : markerDigest element = none)
    (inElement : found ∈ collect atNode atMarker element) :
    found ∈ collect atNode atMarker (.arr elements) := by
  rw [collect]
  induction elements with
  | nil => exact absurd member not_mem_nil
  | cons first rest ih =>
    rw [collectElements, mem_append]
    rcases mem_cons.mp member with rfl | inRest
    · exact .inl (by rwa [plain])
    · exact .inr (ih inRest)

end Collect

theorem mem_objects_self (node : Members) : node ∈ objects (.obj node) := by
  simp [objects, collect]

/-! ## Kept values -/

/-- A reader whose claims are new in their objects keeps every signed value. -/
theorem keeps_resolve {lookup : Lookup} {fuel : Nat} {signed result : Json}
    (absent : ∀ node ∈ objects signed, ∀ digest ∈ sdDigests node, ∀ name value,
      lookup.member digest = some (name, value) → node.lookup name = none)
    (resolved : lookup.resolve fuel signed = some result) : Keeps signed result := by
  induction fuel generalizing signed result with
  | zero => simp at resolved
  | succ fuel ih =>
    cases signed with
    | obj node =>
      obtain ⟨claims, walked, rfl⟩ := map_eq_some_iff.mp resolved
      have kept : ∀ name value, name ≠ "_sd" → name ≠ "_sd_alg" → node.lookup name = some value →
          ∃ claim, claims.lookup name = some claim ∧ lookup.resolve fuel value = some claim := by
        intro name value plain notAlgorithm signedHere
        have same := lookup_mapValues? walked name
        rw [lookup_insertDisclosed plain notAlgorithm, signedHere] at same
        · obtain ⟨claim, found, answered⟩ := map_eq_some_iff.mp same.symm
          exact ⟨claim, found, answered.symm⟩
        · rintro digest inNode claim disclosed found rfl
          have missing := absent node (mem_objects_self node) digest inNode _ _ found
          rw [signedHere] at missing
          cases missing
      refine .obj (fun name => (claims.lookup name).getD .null) ?_ ?_
      · intro name value plain notAlgorithm signedHere
        obtain ⟨claim, found, _⟩ := kept name value plain notAlgorithm signedHere
        rw [found, getD_some]
      · intro name value plain notAlgorithm signedHere
        obtain ⟨claim, found, answered⟩ := kept name value plain notAlgorithm signedHere
        rw [found]
        exact ih (fun inner inValue =>
          absent _ (mem_collect_obj (mem_of_lookup signedHere) plain inValue)) answered
    | arr elements =>
      obtain ⟨claims, walked, rfl⟩ := map_eq_some_iff.mp resolved
      rw [mapM_eq_some_iff] at walked
      refine .arr walked.length_eq fun index element claim here there plain => ?_
      have inArray := mem_of_getElem? here
      obtain ⟨inElements, rfl⟩ := List.getElem?_eq_some_iff.mp here
      obtain ⟨inClaims, rfl⟩ := List.getElem?_eq_some_iff.mp there
      have answered := (forall₂_iff_get.mp walked).2 index inElements inClaims
      simp only [get_eq_getElem, opened, plain] at answered
      exact ih (fun inner inElement =>
        absent _ (mem_collect_arr inArray plain inElement)) answered
    | _ =>
      cases resolved
      exact .scalar trivial

/-! ## Tokens that obey the rules -/

variable (sdJWT : String)

/-- The claims that the issuer has signed. -/
def signedPayload : Members :=
  match split '.' (splitSDJWT sdJWT).1 with
  | [_, claimsPart, _] =>
    (((codec.decodeString claimsPart).bind codec.unmarshalObject).toOption).getD []
  | _ => []

def signedHashMethod : HashMethod :=
  (getHashFromAlgorithm (sdAlg (signedPayload codec sdJWT))).toOption.getD .sha256

/-- The disclosures of a token under their digests; a repeated string counts once. -/
def disclosedShapes : List (String × Shape) :=
  ((splitSDJWT sdJWT).2.1.filter (· ≠ "")).dedup.filterMap fun text =>
    (shapeOf codec text).map (codec.digest (signedHashMethod codec sdJWT) text, ·)

abbrev TokenObeysRules : Prop :=
  ObeysRules (signedPayload codec sdJWT) (disclosedShapes codec sdJWT)

/-- The token passes every check that the verifier makes: trust, signature, structure and
algorithm of the issuer-signed JWT, the syntax and the anchors of the disclosures, and the key
binding JWT. -/
def PassesChecks (checks : Checks) (opts : VerificationOptions) (sdJWT : String) : Prop :=
  ∃ header payload hashMethod,
    verifyIssuer codec checks opts (splitSDJWT sdJWT).1 = .ok (header, payload, hashMethod) ∧
    disclosureErrors payload (parseDisclosures codec hashMethod (splitSDJWT sdJWT).2.1) = [] ∧
    ∀ fuel claims,
      reconstructClaims fuel payload (parsedDisclosures
        (parseDisclosures codec hashMethod (splitSDJWT sdJWT).2.1)) = some claims →
      KeyBindingAccepted checks opts (splitSDJWT sdJWT).1 (splitSDJWT sdJWT).2.1
        (splitSDJWT sdJWT).2.2 hashMethod claims

section Token

variable {codec} {checks : Checks} {opts : VerificationOptions} {sdJWT} {header payload : Members}
  {hashMethod : HashMethod}

theorem signed_of_verified (issuer : verifyIssuer codec checks opts (splitSDJWT sdJWT).1 =
      .ok (header, payload, hashMethod)) :
    signedPayload codec sdJWT = payload ∧ signedHashMethod codec sdJWT = hashMethod := by
  obtain ⟨signed, method, _⟩ := verifyIssuer_eq_ok issuer
  obtain ⟨_, claimsPart, _, segments, partBytes, decodes, unmarshals⟩ :=
    verifyJWTSignature_eq_ok signed
  have samePayload : signedPayload codec sdJWT = payload := by
    simp [signedPayload, segments, decodes, unmarshals, Except.bind, Except.toOption]
  exact ⟨samePayload, by simp [signedHashMethod, samePayload, method, Except.toOption]⟩

theorem shapeOf_of_parsed {text : String} {disclosure : Disclosure}
    (parsed : parseDisclosure codec hashMethod text = .ok disclosure)
    (named : disclosure.claim ≠ "") :
    shapeOf codec text = some (.member disclosure.claim disclosure.value) ∧
      disclosure.hash = codec.digest hashMethod text := by
  simp only [parseDisclosure, bind_eq_ok_iff, wrap_eq_ok_iff] at parsed
  obtain ⟨decoded, decodes, parts, unmarshals, shape⟩ := parsed
  have both : (codec.decodeString text).bind codec.unmarshalArray = .ok parts := by
    simp [decodes, unmarshals, Except.bind]
  rw [shapeOf, both]
  split at shape
  · cases shape
    exact ⟨rfl, rfl⟩
  · cases shape
  · cases shape
    exact absurd rfl named
  all_goals cases shape

/-- A claim that the verifier sets is among the disclosures of the token. -/
theorem mem_disclosedShapes {digest name : String} {value : Json}
    (sameMethod : signedHashMethod codec sdJWT = hashMethod)
    (found : (disclosureLookup (parsedDisclosures
      (parseDisclosures codec hashMethod (splitSDJWT sdJWT).2.1))).member digest =
        some (name, value)) :
    (digest, .member name value) ∈ disclosedShapes codec sdJWT := by
  simp only [disclosureLookup] at found
  split at found
  · next disclosure known =>
      have hash : disclosure.hash = digest := by simpa using find?_some known
      have member := mem_reverse.mp (mem_of_find?_eq_some known)
      obtain ⟨outcome, inOutcomes, parsed⟩ := mem_filterMap.mp member
      obtain ⟨text, inParts, rfl⟩ := mem_map.mp inOutcomes
      have parsed : parseDisclosure codec hashMethod text = .ok disclosure := by
        cases outcome : parseDisclosure codec hashMethod text with
        | error error => simp [outcome, Except.toOption] at parsed
        | ok other => simpa [outcome, Except.toOption] using parsed
      split at found
      · next named =>
          cases found
          obtain ⟨shape, sameHash⟩ := shapeOf_of_parsed parsed named
          refine mem_filterMap.mpr ⟨text, mem_dedup.mpr inParts, ?_⟩
          rw [shape, sameMethod, ← sameHash, hash, map_some]
      · cases found
  · cases found

end Token

/-- For every token and all options on which the verifier returns: that an accepted token obeys
the rules and keeps every signed value holds exactly if the tokens that pass the verifier's own
checks obey the rules. -/
theorem accepted_obeys_rules_iff {codec : Codec} {checks : Checks}
    {opts : Option VerificationOptions} {fuel : Nat} {sdJWT : String}
    {result : VerificationResult} {error : Option String}
    (returned : parseAndVerify codec checks opts fuel sdJWT = some (result, error)) :
    (result.valid = true →
        TokenObeysRules codec sdJWT ∧
          Keeps (.obj (signedPayload codec sdJWT)) (.obj result.claims)) ↔
      (PassesChecks codec checks (opts.getD .default) sdJWT → TokenObeysRules codec sdJWT) := by
  rcases parseAndVerify_eq_some returned with
    failed | ⟨header, payload, hashMethod, reconstructed, issuer, walked, rfl, _, accepted⟩
  · refine iff_of_true (fun valid => ?_) ?_
    · simp [verifyIssuer_error_invalid failed] at valid
    · rintro ⟨_, _, _, issuer, _⟩
      cases failed.symm.trans issuer
  · constructor
    · rintro property ⟨header', payload', hashMethod', issuer', disclosures, keyBinding⟩
      cases issuer.symm.trans issuer'
      exact (property (accepted.mpr ⟨issuer, disclosures, keyBinding _ _ walked⟩)).1
    · intro condition valid
      have passed := accepted.mp valid
      have rules : TokenObeysRules codec sdJWT := by
        refine condition ⟨header, payload, hashMethod, issuer, passed.disclosures, ?_⟩
        intro otherFuel claims walkedToo
        have same := resolve_unique
          (show resolve _ (fuel + 1) (.obj payload) = some (.obj result.claims) by
            rw [resolve_obj, ← reconstructClaims, walked, map_some])
          (show resolve _ (otherFuel + 1) (.obj payload) = some (.obj claims) by
            rw [resolve_obj, ← reconstructClaims, walkedToo, map_some])
        exact Json.obj.inj same ▸ passed.keyBinding
      obtain ⟨samePayload, sameMethod⟩ := signed_of_verified issuer
      refine ⟨rules, ?_⟩
      have resolved : resolve (disclosureLookup (parsedDisclosures
          (parseDisclosures codec hashMethod (splitSDJWT sdJWT).2.1))) (fuel + 1)
          (.obj (signedPayload codec sdJWT)) = some (.obj result.claims) := by
        rw [samePayload, resolve_obj, ← reconstructClaims, walked, map_some]
      refine keeps_resolve (fun node inPayload digest inNode name value found => ?_) resolved
      exact rules.absent _ mem_cons_self _ inPayload _ inNode _ _
        (mem_disclosedShapes sameMethod found)

/-- The disclosure of a new claim obeys the rules. -/
theorem disclosed_claim_obeys_rules :
    ∃ result, parseAndVerify disclosingCodec .passing none 2 disclosingToken = some (result, none) ∧
      result.valid = true ∧
      TokenObeysRules disclosingCodec disclosingToken ∧
      Keeps (.obj (signedPayload disclosingCodec disclosingToken)) (.obj result.claims) := by
  have payload : signedPayload disclosingCodec disclosingToken =
      [("_sd", .arr [.str sampleDigest]), ("vct", .str "v")] := by
    decide +kernel
  have disclosed : disclosedShapes disclosingCodec disclosingToken =
      [(sampleDigest, .member "a" (.str "x"))] := by
    decide +kernel
  obtain ⟨result, returned, valid, _⟩ := exists_disclosed
  refine ⟨result, returned, valid, (accepted_obeys_rules_iff returned).mpr (fun _ => ?_) valid⟩
  rw [TokenObeysRules, payload, disclosed]
  have nodes : ∀ source ∈ sources [("_sd", .arr [.str sampleDigest]), ("vct", .str "v")]
      [(sampleDigest, .member "a" (.str "x"))], ∀ node ∈ objects source,
      node = [("_sd", .arr [.str sampleDigest]), ("vct", .str "v")] := by
    decide +kernel
  refine ⟨by decide +kernel, ?_, ?_, ?_, ?_, ?_⟩
  · intro source _ node _ digest _ shape member
    cases mem_singleton.mp member
    trivial
  · have noMarkers : ∀ source ∈ sources [("_sd", .arr [.str sampleDigest]), ("vct", .str "v")]
        [(sampleDigest, .member "a" (.str "x"))], markerDigests source = [] := by
      decide +kernel
    intro source inSources digest marked
    simp [noMarkers source inSources] at marked
  · intro digest name value member
    cases mem_singleton.mp member
    decide
  · intro source inSources node inSource digest _ name value member
    cases mem_singleton.mp member
    rw [nodes _ inSources _ inSource]
    decide
  · intro source _ node _ first _ second _ name _ _ firstMember secondMember
    cases mem_singleton.mp firstMember
    cases mem_singleton.mp secondMember
    rfl

/-- `["s","iss","B"]` is disclosed for a payload whose issuer is `A`. -/
def overwritingCodec : Codec :=
  .ofTable
    [sampleHeader,
      ("eyJfc2QiOlsid1plMlVWbVdrNWZaVXlEUUl0OXRXVEdkT3BKZmlYMjR6V0NMbmg0cE9qRSJdLCJpc3Mi" ++
          "OiJBIiwidmN0IjoidiJ9",
        "\x7b\"_sd\":[\"wZe2UVmWk5fZUyDQIt9tWTGdOpJfiX24zWCLnh4pOjE\"]," ++
          "\"iss\":\"A\",\"vct\":\"v\"\x7d",
        .obj [("_sd", .arr [.str "wZe2UVmWk5fZUyDQIt9tWTGdOpJfiX24zWCLnh4pOjE"]),
          ("iss", .str "A"), ("vct", .str "v")]),
      ("WyJzIiwiaXNzIiwiQiJd", "[\"s\",\"iss\",\"B\"]", .arr [.str "s", .str "iss", .str "B"])]
    [("WyJzIiwiaXNzIiwiQiJd",
      [193, 151, 182, 81, 89, 150, 147, 151, 217, 83, 32, 208, 34, 223, 109, 89, 49, 157, 58, 146,
        95, 137, 125, 184, 205, 96, 139, 158, 30, 41, 58, 49],
      "wZe2UVmWk5fZUyDQIt9tWTGdOpJfiX24zWCLnh4pOjE")]

/-- The token of the payload and the disclosure. -/
def overwritingToken : Token :=
  "eyJhbGciOiJFUzI1NiIsInR5cCI6ImRjK3NkLWp3dCJ9." ++
    "eyJfc2QiOlsid1plMlVWbVdrNWZaVXlEUUl0OXRXVEdkT3BKZmlYMjR6V0NMbmg0cE9qRSJdLCJpc3Mi" ++
    "OiJBIiwidmN0IjoidiJ9.c2ln~WyJzIiwiaXNzIiwiQiJd~"

/-- A disclosure replaces a claim that the issuer has signed, and the token is valid. -/
theorem signed_claim_overwritten :
    ∃ result,
      parseAndVerify overwritingCodec .passing none 2 overwritingToken = some (result, none) ∧
      result.valid = true ∧
      (signedPayload overwritingCodec overwritingToken).lookup "iss" = some (.str "A") ∧
      result.claims.lookup "iss" = some (.str "B") := by
  obtain ⟨result, returned, valid, claims⟩ := exists_result (by decide +kernel :
    (parseAndVerify overwritingCodec .passing none 2 overwritingToken).map _ =
      some (true, [("iss", .str "B"), ("vct", .str "v")], none))
  exact ⟨result, returned, valid, by decide +kernel, by rw [claims]; rfl⟩

/-! ## Time limits of the returned claims -/

/-- The window in which a time claim has to lie; the claim is in seconds, with a fraction. -/
def Timely (checks : Checks) (opts : VerificationOptions) (name : String) (time : ℚ) : Prop :=
  if name = "exp" then (checks.now : ℚ) ≤ time * 1000000000 + opts.allowedClockSkew
  else time * 1000000000 - opts.allowedClockSkew ≤ (checks.now : ℚ)

section Window

variable {codec} {checks : Checks} {opts : VerificationOptions} {claims : Members}

end Window

end Vc.Sdjwtvc
