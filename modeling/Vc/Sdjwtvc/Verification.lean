import Vc.Sdjwtvc.Resolve

/-!
# Client.ParseAndVerify

The verifier of SD-JWT credentials.  Trust evaluation, signatures and the key
binding JWT are checked outside of this package's own logic and enter through
`Checks`; the order of the steps, the errors they record and the claims they
leave in the result follow the source.
-/

namespace Vc.Sdjwtvc

open Entries Float64

structure Disclosure where
  salt : String
  claim : String
  value : Json
  raw : String
  hash : String
  deriving DecidableEq

/-- The options that the steps below read. -/
structure VerificationOptions where
  requireKeyBinding : Bool := false
  /-- nanoseconds -/
  allowedClockSkew : Int := 0
  validateTime : Bool := false

/-- The options that a nil argument stands for. -/
def VerificationOptions.default : VerificationOptions where
  validateTime := true
  allowedClockSkew := 5 * 60 * 1000000000

/-- `VerificationResult`; the type metadata is left out. -/
structure VerificationResult where
  valid : Bool := false
  header : Members := []
  claims : Members := []
  disclosedClaims : Members := []
  disclosures : List Disclosure := []
  keyBindingValid : Bool := false
  keyBindingClaims : Members := []
  errors : List String := []
  deriving DecidableEq

/-- What the verifier is told about keys and time. -/
structure Checks where
  /-- evaluation of the certificate chain in the header, if there is one; a failure has the
  error that is recorded and the error that is returned -/
  trust : String → Except (String × String) Unit
  /-- algorithm, key and signature of a JWT with the given header -/
  signature : String → Members → Except String Unit
  /-- `verifyKeyBindingJWT` -/
  keyBinding : String → String → List String → Members → HashMethod → Except String Members
  /-- `time.Now`, in nanoseconds -/
  now : Int
  /-- the text of a time in seconds -/
  formatTime : Int → String

def Checks.passing : Checks where
  trust _ := .ok ()
  signature _ _ := .ok ()
  keyBinding _ _ _ _ _ := .ok []
  now := 0
  formatTime _ := ""

/-! ## The issuer-signed JWT -/

/-- The first step: issuer-signed JWT, disclosures, key binding JWT.  A last part is a key
binding JWT if it has two dots, and a disclosure otherwise. -/
def splitSDJWT (sdJWT : String) : String × List String × String :=
  let parts := split '~' sdJWT
  let lastPart := parts.getLastD ""
  if 1 < parts.length ∧ lastPart ≠ "" ∧ lastPart.toList.count '.' = 2 then
    (parts.headD "", parts.tail.dropLast, lastPart)
  else (parts.headD "", parts.tail, "")

variable (codec : Codec)

variable (checks : Checks)

/-- `verifyJWTSignature`, with the part of the JWT parser that decodes header and claims. -/
def verifyJWTSignature (token : String) : Except String (Members × Members) :=
  wrap "signature verification failed" do
    match split '.' token with
    | [headerPart, claimsPart, _] =>
      let header ← decodePart codec "token is malformed: could not base64 decode header"
        "token is malformed: could not JSON decode header" headerPart
      let claims ← decodePart codec "token is malformed: could not base64 decode claim"
        "token is malformed: could not JSON decode claim" claimsPart
      checks.signature token header
      return (header, claims)
    | _ => .error "token is malformed: token contains an invalid number of segments"

variable (claims : Members)

def numericClaim (name : String) : Option ℚ :=
  match claims.lookup name with
  | some (.num literal) => some (codec.number literal)
  | _ => none

/-- The text of a string claim; `v, _ := m[name].(string)`. -/
def stringClaim (name : String) : String :=
  ((claims.lookup name).bind Json.str?).getD ""

/-- One time check of `validateSDJWTVCStructure`. -/
def checkTime (name : String)
    (late : Int → Bool) (message : String → String) : Except String Unit :=
  match numericClaim codec claims name with
  | some time =>
    let seconds := unix (truncated time)
    if late seconds then .error (message (checks.formatTime seconds)) else .ok ()
  | none => .ok ()

def validateSDJWTVCStructure (header claims : Members)
    (opts : VerificationOptions) : Except String Unit := do
  let typ := stringClaim header "typ"
  if typ ≠ "dc+sd-jwt" ∧ typ ≠ "vc+sd-jwt" then
    throw ("invalid typ header: " ++ typ ++ " (must be dc+sd-jwt or vc+sd-jwt)")
  if stringClaim claims "vct" = "" then
    throw "missing required claim: vct"
  if opts.validateTime then
    checkTime codec checks claims "exp" (fun exp => add exp opts.allowedClockSkew < checks.now)
      fun exp => "credential expired at " ++ exp
    checkTime codec checks claims "iat" (fun iat => checks.now < add iat (-opts.allowedClockSkew))
      fun iat => "credential issued in the future: " ++ iat
    checkTime codec checks claims "nbf" (fun nbf => checks.now < add nbf (-opts.allowedClockSkew))
      fun nbf => "credential not yet valid (nbf: " ++ nbf ++ ")"

/-! ## Disclosures -/

def parseDisclosure (hashMethod : HashMethod) (disclosureStr : String) :
    Except String Disclosure := do
  let decoded ← wrap "failed to decode disclosure" (codec.decodeString disclosureStr)
  let parts ← wrap "failed to unmarshal disclosure" (codec.unmarshalArray decoded)
  let hash := codec.digest hashMethod disclosureStr
  match parts with
  | [.str salt, .str claim, value] => .ok { salt, claim, value, raw := disclosureStr, hash }
  | [.str _, _, _] => .error "invalid disclosure: claim name must be string"
  | [.str salt, value] => .ok { salt, claim := "", value, raw := disclosureStr, hash }
  | [_, _, _] | [_, _] => .error "invalid disclosure: salt must be string"
  | _ =>
    .error ("invalid disclosure format: expected 2 or 3 elements, got " ++ toString parts.length)

section Collect

variable {α : Type} (atNode : Members → List α) (atMarker : String → List α)

mutual

/-- The traversal of `collectHashesFromNodeInto` and `collectHashesFromArrayInto`: every object
outside of `_sd` and every array element marker. -/
def collect : Json → List α
  | .obj node => atNode node ++ collectMembers node
  | .arr elements => collectElements elements
  | _ => []

/-- The traversal of the members of an object. -/
def collectMembers : Members → List α
  | [] => []
  | (name, value) :: rest => (if name = "_sd" then [] else collect value) ++ collectMembers rest

/-- The traversal of the elements of an array. -/
def collectElements : List Json → List α
  | [] => []
  | element :: rest =>
    (match markerDigest element with
      | some digest => atMarker digest
      | none => collect element) ++ collectElements rest

end

end Collect

/-- `collectHashesFromValue` and `collectHashesFromNode`, every reference once. -/
def collectHashes : Json → List String :=
  collect sdDigests fun digest => [digest]

/-- The entry of `byHash`, and of the map in `reconstructClaims`: of two disclosures with one
hash the later one has replaced the earlier. -/
def byHash (disclosures : List Disclosure) (hash : String) : Option Disclosure :=
  disclosures.reverse.find? fun disclosure => disclosure.hash = hash

/-- The queue of `collectAnchoredHashes`.  A hash enters the queue when it is anchored, so the
number of references bounds the length of the loop. -/
def anchorQueue (disclosures : List Disclosure) :
    Nat → List String → List String → List String
  | 0, _, anchored => anchored
  | _ + 1, [], anchored => anchored
  | fuel + 1, h :: queue, anchored =>
    match byHash disclosures h with
    | none => anchorQueue disclosures fuel queue anchored
    | some disclosure =>
      let childHashes :=
        ((collectHashes disclosure.value).filter (· ∉ anchored)).dedup
      anchorQueue disclosures fuel (queue ++ childHashes) (anchored ++ childHashes)

def collectAnchoredHashes (disclosures : List Disclosure) : List String :=
  let directHashes := (collectHashes (.obj claims)).dedup
  let references :=
    directHashes.length +
      (disclosures.map fun disclosure => (collectHashes disclosure.value).length).sum
  anchorQueue disclosures (references + 1) directHashes directHashes

/-- What `reconstructNode` and `reconstructArrayNode` look up: claims of disclosures with a
name in `_sd` arrays, values of any disclosure in markers. -/
def disclosureLookup (disclosures : List Disclosure) : Lookup where
  member digest :=
    match byHash disclosures digest with
    | some disclosure =>
      if disclosure.claim ≠ "" then some (disclosure.claim, disclosure.value) else none
    | none => none
  element digest := (byHash disclosures digest).map Disclosure.value

def reconstructClaims (fuel : Nat) (claims : Members) (disclosures : List Disclosure) :
    Option Members :=
  (disclosureLookup disclosures).resolveNode fuel claims

/-! ## ParseAndVerify -/

/-- The steps up to the hash method: trust, signature, structure, algorithm. -/
def verifyIssuer (opts : VerificationOptions) (issuerJWT : String) :
    Except (VerificationResult × Option String) (Members × Members × HashMethod) :=
  match checks.trust issuerJWT with
  | .error (recorded, error) => .error ({ errors := [recorded] }, some error)
  | .ok () =>
    match verifyJWTSignature codec checks issuerJWT with
    | .error error =>
      .error ({ errors := ["signature verification failed: " ++ error] }, some error)
    | .ok (header, claims) =>
      match validateSDJWTVCStructure codec checks header claims opts with
      | .error error => .error ({ header, claims, errors := [error] }, some error)
      | .ok () =>
        match getHashFromAlgorithm (sdAlg claims) with
        | .error error =>
          .error ({
            header
            claims
            errors := ["unsupported hash algorithm " ++ sdAlg claims ++ ": " ++ error] },
            some error)
        | .ok hashMethod => .ok (header, claims, hashMethod)

/-- The outcomes of the disclosure loop, in order; the empty part after a trailing `~` is
skipped. -/
def parseDisclosures (hashMethod : HashMethod) (disclosureParts : List String) :
    List (Except String Disclosure) :=
  (disclosureParts.filter (· ≠ "")).map (parseDisclosure codec hashMethod)

def parsedDisclosures (outcomes : List (Except String Disclosure)) : List Disclosure :=
  outcomes.filterMap Except.toOption

/-- The errors that the disclosure loop and the check of the anchors record. -/
def disclosureErrors (outcomes : List (Except String Disclosure)) : List String :=
  let disclosures := parsedDisclosures outcomes
  let anchoredHashes := collectAnchoredHashes claims disclosures
  (outcomes.filterMap fun
    | .error error => some ("failed to parse disclosure: " ++ error)
    | .ok _ => none) ++
  (disclosures.filter (·.hash ∉ anchoredHashes)).map fun disclosure =>
    "disclosure hash " ++ disclosure.hash ++ " not found in _sd array"

/-- The last step: the key binding JWT, and whether any error was recorded. -/
def verifyKeyBinding (opts : VerificationOptions)
    (issuerJWT : String) (disclosureParts : List String) (kbJWT : String)
    (hashMethod : HashMethod) (result : VerificationResult) :
    VerificationResult × Option String :=
  if kbJWT ≠ "" then
    match checks.keyBinding kbJWT issuerJWT disclosureParts result.claims hashMethod with
    | .error error =>
      let kbErr := "KB-JWT verification failed: " ++ error
      ({ result with errors := result.errors ++ [kbErr] }, some kbErr)
    | .ok keyBindingClaims =>
      ({ result with
          keyBindingValid := true
          keyBindingClaims
          valid := result.errors.isEmpty }, none)
  else if opts.requireKeyBinding then
    let error := "key binding JWT required but not present"
    ({ result with errors := result.errors ++ [error] }, some error)
  else ({ result with valid := result.errors.isEmpty }, none)

/-- `Client.ParseAndVerify`: the result, and the error returned beside it. -/
def parseAndVerify (opts : Option VerificationOptions)
    (fuel : Nat) (sdJWT : String) : Option (VerificationResult × Option String) :=
  let opts := opts.getD .default
  let (issuerJWT, disclosureParts, kbJWT) := splitSDJWT sdJWT
  match verifyIssuer codec checks opts issuerJWT with
  | .error failed => some failed
  | .ok (header, claims, hashMethod) =>
    let outcomes := parseDisclosures codec hashMethod disclosureParts
    let disclosures := parsedDisclosures outcomes
    let named := disclosures.filter (·.claim ≠ "")
    (reconstructClaims fuel claims disclosures).map fun reconstructed =>
      verifyKeyBinding checks opts issuerJWT disclosureParts kbJWT hashMethod {
        header
        claims := reconstructed
        disclosedClaims :=
          named.foldl (fun claims disclosure => put disclosure.claim disclosure.value claims) []
        disclosures
        errors := disclosureErrors claims outcomes }

/-! ## What a returned result says -/

section Result

variable {codec : Codec} {checks : Checks} {opts : VerificationOptions} {header claims : Members}

/-- A verified JWT has three parts, and its claims are those of the second. -/
theorem verifyJWTSignature_eq_ok {token : String}
    (verified : verifyJWTSignature codec checks token = .ok (header, claims)) :
    ∃ headerPart claimsPart signaturePart,
      split '.' token = [headerPart, claimsPart, signaturePart] ∧
      ∃ partBytes, codec.decodeString claimsPart = .ok partBytes ∧
        codec.unmarshalObject partBytes = .ok claims := by
  rw [verifyJWTSignature, wrap_eq_ok_iff] at verified
  split at verified
  · next headerPart claimsPart signaturePart parts =>
      simp only [bind_eq_ok_iff, decodePart_eq_ok_iff] at verified
      obtain ⟨_, _, _, decoded, _, _, same⟩ := verified
      cases same
      exact ⟨headerPart, claimsPart, signaturePart, parts, decoded⟩
  · cases verified

theorem verifyIssuer_eq_ok {issuerJWT : String} {hashMethod : HashMethod}
    (verified : verifyIssuer codec checks opts issuerJWT = .ok (header, claims, hashMethod)) :
    verifyJWTSignature codec checks issuerJWT = .ok (header, claims) ∧
      getHashFromAlgorithm (sdAlg claims) = .ok hashMethod ∧
      validateSDJWTVCStructure codec checks header claims opts = .ok () := by
  unfold verifyIssuer at verified
  split at verified
  · cases verified
  · split at verified
    · cases verified
    · next header claims signed =>
        split at verified
        · cases verified
        · next structured =>
            split at verified
            · cases verified
            · next hashMethod named =>
                cases verified
                exact ⟨signed, named, structured⟩

theorem verifyIssuer_error_invalid {issuerJWT : String} {result : VerificationResult}
    {error : Option String}
    (failed : verifyIssuer codec checks opts issuerJWT = .error (result, error)) :
    result.valid = false := by
  unfold verifyIssuer at failed
  split at failed
  · cases failed
    rfl
  · split at failed
    · cases failed
      rfl
    · split at failed
      · cases failed
        rfl
      · split at failed
        · cases failed
          rfl
        · cases failed

/-- The key binding step lets the result pass. -/
def KeyBindingAccepted (checks : Checks) (opts : VerificationOptions) (issuerJWT : String)
    (disclosureParts : List String) (kbJWT : String) (hashMethod : HashMethod)
    (claims : Members) : Prop :=
  if kbJWT ≠ "" then
    ∃ kbClaims, checks.keyBinding kbJWT issuerJWT disclosureParts claims hashMethod = .ok kbClaims
  else opts.requireKeyBinding = false

variable {issuerJWT kbJWT : String} {disclosureParts : List String} {hashMethod : HashMethod}
  {result : VerificationResult}

theorem verifyKeyBinding_unchanged :
    let checked := (verifyKeyBinding checks opts issuerJWT disclosureParts kbJWT hashMethod
      result).1
    checked.claims = result.claims ∧ checked.disclosures = result.disclosures := by
  unfold verifyKeyBinding
  split
  · split <;> exact ⟨rfl, rfl⟩
  · split <;> exact ⟨rfl, rfl⟩

theorem verifyKeyBinding_valid_iff (fresh : result.valid = false) :
    (verifyKeyBinding checks opts issuerJWT disclosureParts kbJWT hashMethod
      result).1.valid = true ↔
      result.errors = [] ∧
        KeyBindingAccepted checks opts issuerJWT disclosureParts kbJWT hashMethod
          result.claims := by
  unfold verifyKeyBinding KeyBindingAccepted
  split
  · split
    · next failed => simp [fresh, failed]
    · next kbClaims passed => simp [passed]
  · split
    · next required => simp [fresh, required]
    · next optional => simp [optional]

end Result

/-- The verifier accepts a token: issuer, disclosures, anchors and key binding pass. -/
structure Accepted (codec : Codec) (checks : Checks) (opts : VerificationOptions)
    (sdJWT : String) (header claims : Members) (hashMethod : HashMethod)
    (reconstructed : Members) : Prop where
  issuer : verifyIssuer codec checks opts (splitSDJWT sdJWT).1 = .ok (header, claims, hashMethod)
  disclosures :
    disclosureErrors claims (parseDisclosures codec hashMethod (splitSDJWT sdJWT).2.1) = []
  keyBinding : KeyBindingAccepted checks opts (splitSDJWT sdJWT).1 (splitSDJWT sdJWT).2.1
    (splitSDJWT sdJWT).2.2 hashMethod reconstructed

/-- A returned result is a failure of the issuer's part, or comes from the reconstructed
claims. -/
theorem parseAndVerify_eq_some {codec : Codec} {checks : Checks}
    {opts : Option VerificationOptions} {fuel : Nat} {sdJWT : String}
    {result : VerificationResult} {error : Option String}
    (returned : parseAndVerify codec checks opts fuel sdJWT = some (result, error)) :
    verifyIssuer codec checks (opts.getD .default) (splitSDJWT sdJWT).1 = .error (result, error) ∨
      ∃ header claims hashMethod reconstructed,
        verifyIssuer codec checks (opts.getD .default) (splitSDJWT sdJWT).1 =
          .ok (header, claims, hashMethod) ∧
        reconstructClaims fuel claims (parsedDisclosures
          (parseDisclosures codec hashMethod (splitSDJWT sdJWT).2.1)) = some reconstructed ∧
        result.claims = reconstructed ∧
        result.disclosures = parsedDisclosures
          (parseDisclosures codec hashMethod (splitSDJWT sdJWT).2.1) ∧
        (result.valid = true ↔ Accepted codec checks (opts.getD .default) sdJWT header claims
          hashMethod reconstructed) := by
  simp only [parseAndVerify] at returned
  cases issuer : verifyIssuer codec checks (opts.getD .default) (splitSDJWT sdJWT).1 with
  | error failed =>
    rw [issuer] at returned
    exact .inl (congrArg _ (Option.some.inj returned))
  | ok verified =>
    obtain ⟨header, claims, hashMethod⟩ := verified
    rw [issuer] at returned
    obtain ⟨reconstructed, walked, same⟩ := Option.map_eq_some_iff.mp returned
    obtain rfl : _ = result := congrArg Prod.fst same
    refine .inr ⟨header, claims, hashMethod, reconstructed, rfl, walked,
      verifyKeyBinding_unchanged.1, verifyKeyBinding_unchanged.2,
      (verifyKeyBinding_valid_iff rfl).trans ⟨?_, ?_⟩⟩
    · rintro ⟨disclosures, keyBinding⟩
      exact ⟨issuer, disclosures, keyBinding⟩
    · intro accepted
      exact ⟨accepted.disclosures, accepted.keyBinding⟩

end Vc.Sdjwtvc
