import Vc.Revocation.Registry
import Vc.Verifier.HolderBinding

/-!
# Revocation of presented credentials

The revocation loop of `VerificationDirectPost`: the claims of each accepted
credential are handed to the registry, which looks for a reference to a status list.
The claims of an mdoc come from a CBOR decoder, whose maps the extractor does not
take for maps.  A credential whose reference is not found counts as one that cannot
be revoked.

A response with a revoked credential is refused exactly if some revoked credential in
it is noticed, or if it is refused for another reason.
-/

namespace Vc.Verifier.DirectPost

open Checks Sdjwtvc Openid4vp Revocation Float64 Option AnyValue
open Revocation (AnyValue StatusListChecker Width)

/-! ## The loop -/

/-- The member `namespaces` that the handler adds, a map of maps of elements. -/
def nameSpacesClaim : Json → AnyValue
  | .obj nameSpaces => .stringMap (nameSpaces.map fun (nameSpace, items) =>
    (nameSpace, match items with
      | .obj elements => .stringMap (elements.map fun (name, value) => (name, .ofCBOR value))
      | items => .ofCBOR items))
  | value => .ofCBOR value

def mdocClaim : String × Json → String × AnyValue
  | (name, value) => (name, if name = "namespaces" then nameSpacesClaim value else .ofCBOR value)

/-- `cc.Credential`, with the types that the decoder of the format has given. -/
def decodedClaims (format : CredentialFormat) (credential : Members) : List (String × AnyValue) :=
  match format with
  | .mdoc | .mdocZK => credential.map mdocClaim
  | .sdJWT | .vc20 | .unknown => ofJSONMembers credential

/-- `Status.String` -/
def statusText : Status → String
  | .valid => "valid"
  | .invalid => "invalid"
  | .suspended => "suspended"
  | .unknown => "unknown"

/-- The checks that follow the formats: `cfg.Verifier.Revocation` with its checker, and the claim
validations and the combined binding around it. -/
structure LaterChecks (Key Body : Type) where
  enabled : Bool
  failOpen : Option Bool := none
  skipScopes : List String := []
  checker : StatusListChecker Key Body
  /-- the instant of the check, in nanoseconds -/
  now : Int
  cache : StatusListChecker.Cache
  bounded : Bounded cache
  validateClaims : Session → List Accepted → Except ValidationError Unit := fun _ _ => .ok ()
  verifyBinding : Session → List Accepted → Except ValidationError Unit := fun _ _ => .ok ()

namespace LaterChecks

variable {Key Body Signer : Type} (later : LaterChecks Key Body)

/-- One round of the loop, with the cache that it leaves. -/
def checkCredential (cache : StatusListChecker.Cache) (scope : String)
    (claims : List (String × AnyValue)) :
    Except ValidationError Unit × StatusListChecker.Cache :=
  match validateStatus cache claims [later.checker.registered later.now] with
  | (.error error, cache) =>
    (if later.failOpen.getD true then .ok ()
      else failure ("revocation check failed for scope " ++ scope ++ ": " ++ error), cache)
  | (.ok none, cache) => (.ok (), cache)
  | (.ok (some result), cache) =>
    (require (result.status = .valid) (.other ("credential for scope " ++ scope ++
      " has been " ++ statusText result.status)), cache)

/-- The loop over the credentials. -/
def checkCredentials (cache : StatusListChecker.Cache) :
    List (String × CredentialFormat × Members) →
      Except ValidationError Unit × StatusListChecker.Cache
  | [] => (.ok (), cache)
  | (scope, format, credential) :: rest =>
    match later.checkCredential cache scope (decodedClaims format credential) with
    | (.error error, cache) => (.error error, cache)
    | (.ok _, cache) => checkCredentials cache rest

/-- The credentials of the scopes that are not skipped. -/
def checkedCredentials (session : Session) (entries : List Accepted) :
    List (String × CredentialFormat × Members) :=
  (session.scopes.filter (· ∉ later.skipScopes)).flatMap fun scope =>
    (entries.filter (·.scope = scope)).flatMap fun entry =>
      entry.credentials.map (scope, entry.format, ·)

def checkRevocation (session : Session) (entries : List Accepted) : Except ValidationError Unit :=
  if later.enabled then
    (later.checkCredentials later.cache (later.checkedCredentials session entries)).1
  else .ok ()

/-- The verifier with these checks. -/
def client (base : Client Signer) : Client Signer :=
  { base with
    furtherChecks := fun session entries => do
      later.validateClaims session entries
      later.checkRevocation session entries
      later.verifyBinding session entries }

/-! ## What a round and the loop do -/

variable {later} {claims : List (String × AnyValue)} {cache : StatusListChecker.Cache}
  {scope : String}

theorem checkCredential_of_unfound (unfound : extractStatusListReference claims = none) :
    later.checkCredential cache scope claims = (.ok (), cache) := by
  simp [checkCredential, validateStatus, StatusListChecker.registered, unfound]

theorem checkCredential_of_found {ref : Reference}
    (found : extractStatusListReference claims = some ref) :
    later.checkCredential cache scope claims =
      ((match later.checker.checkStatus later.now cache (some ref) with
        | .error error =>
          if later.failOpen.getD true then .ok ()
          else failure ("revocation check failed for scope " ++ scope ++ ": " ++ error)
        | .ok result =>
          require (result.status = .valid) (.other ("credential for scope " ++ scope ++
            " has been " ++ statusText result.status))),
        later.checker.cacheAfter later.now cache ref) := by
  simp only [checkCredential, validateStatus, StatusListChecker.registered, found]
  cases later.checker.checkStatus later.now cache (some ref) <;> rfl

/-- A round leaves the lists that later rounds find as they are. -/
theorem sameLists_checkCredential (cache : StatusListChecker.Cache) (scope : String)
    (claims : List (String × AnyValue)) :
    SameLists later.checker later.now cache (later.checkCredential cache scope claims).2 := by
  cases found : extractStatusListReference claims with
  | none =>
    rw [checkCredential_of_unfound found]
    exact fun _ => rfl
  | some ref =>
    rw [checkCredential_of_found found]
    exact sameLists_cacheAfter _ ref

theorem checkCredential_congr {other : StatusListChecker.Cache}
    (same : SameLists later.checker later.now cache other) (scope : String)
    (claims : List (String × AnyValue)) :
    (later.checkCredential other scope claims).1 =
      (later.checkCredential cache scope claims).1 := by
  cases found : extractStatusListReference claims with
  | none => rw [checkCredential_of_unfound found, checkCredential_of_unfound found]
  | some ref =>
    rw [checkCredential_of_found found, checkCredential_of_found found, same.checkStatus]

/-- The loop passes if each credential passes on its own. -/
theorem checkCredentials_eq_ok_iff {credentials : List (String × CredentialFormat × Members)} :
    (later.checkCredentials cache credentials).1 = .ok () ↔
      ∀ checked ∈ credentials, (later.checkCredential cache checked.1
        (decodedClaims checked.2.1 checked.2.2)).1 = .ok () := by
  induction credentials generalizing cache with
  | nil => exact ⟨fun _ => nofun, fun _ => rfl⟩
  | cons first rest ih =>
    obtain ⟨scope, format, credential⟩ := first
    have same := @sameLists_checkCredential _ _ later cache scope (decodedClaims format credential)
    rw [List.forall_mem_cons, checkCredentials]
    cases round : later.checkCredential cache scope (decodedClaims format credential) with
    | mk outcome after =>
      rw [round] at same
      cases outcome with
      | error error => exact ⟨nofun, fun passed => absurd passed.1 nofun⟩
      | ok =>
        simp [ih, checkCredential_congr same]

/-! ## Revoked credentials -/

/-- The verified content of a credential refers to an entry of a status list, in the form of its
format: a member `status` of a JSON document, or an element `status` of some name space. -/
inductive Carries : CredentialFormat → Members → String → Nat → Prop
  | json {format : CredentialFormat} {credential : Members} {status : Json} {uri : String}
      {index : Nat} (text : format = .sdJWT ∨ format = .vc20)
      (member : credential.lookup "status" = some status)
      (refers : Refers status uri index) : Carries format credential uri index
  | cbor {format : CredentialFormat} {credential nameSpaces items : Members} {status : Json}
      {nameSpace uri : String} {index : Nat} (binary : format = .mdoc ∨ format = .mdocZK)
      (spaces : credential.lookup "namespaces" = some (.obj nameSpaces))
      (inside : (nameSpace, .obj items) ∈ nameSpaces)
      (element : items.lookup "status" = some status)
      (refers : Refers status uri index) : Carries format credential uri index

/-- The list that a credential refers to is published and holds another status than valid. -/
structure RevokedAt (later : LaterChecks Key Body) (format : CredentialFormat)
    (credential : Members) (uri : String) (index : Nat) (width : Width) (statuses : List UInt8) :
    Prop where
  carries : Carries format credential uri index
  published : Serves later.checker later.now uri width statuses
  fits : Fits width statuses
  status : ∃ status, statuses[index]? = some status ∧ status ≠ 0

def Revoked (later : LaterChecks Key Body) (format : CredentialFormat) (credential : Members) :
    Prop :=
  ∃ uri index width statuses, later.RevokedAt format credential uri index width statuses

/-- A revoked entry is noticed: the credential is a JSON document, and the byte at the index of the
list that is cached, or else served, is not zero.  Without such a byte the check fails, which
refuses the credential unless the verifier fails open. -/
def Notices (later : LaterChecks Key Body) (format : CredentialFormat) (uri : String) (index : Nat)
    (packed : List UInt8) : Prop :=
  (format = .sdJWT ∨ format = .vc20) ∧
    match (consulted later.cache uri packed).bind fun bytes => bytes[index]? with
    | some byte => byte ≠ 0
    | none => later.failOpen = some false ∧ nearest index < 2 ^ 63

theorem lookup_map_mdocClaim (credential : Members) {name : String} (other : name ≠ "namespaces") :
    (credential.map mdocClaim).lookup name = (credential.lookup name).map ofCBOR := by
  induction credential with
  | nil => rfl
  | cons member rest ih =>
    rw [List.map_cons, mdocClaim, Entries.lookup_cons, Entries.lookup_cons, ih]
    split_ifs with here named
    · exact absurd (here.trans named) other
    · rfl
    · rfl

/-- No reference is found among the claims of an mdoc. -/
theorem extract_mdoc (credential : Members) :
    extractStatusListReference (credential.map mdocClaim) = none := by
  rw [extractStatusListReference, lookup_map_mdocClaim _ (by decide)]
  cases credential.lookup "status" with
  | none => rfl
  | some status =>
    split
    · next members same =>
        exact absurd (some.inj same) (ofCBOR_ne_stringMap _ _)
    · rfl

variable {uri : String} {packed : List UInt8}

theorem length_le_of_consulted {bytes : List UInt8}
    (read : consulted later.cache uri packed = some bytes) :
    bytes.length ≤ Tokenstatuslist.maxDecompressedSize := by
  unfold consulted at read
  cases cached : later.cache uri with
  | some statuses =>
    rw [cached] at read
    exact some.inj read ▸ later.bounded uri _ cached
  | none =>
    rw [cached, none_or] at read
    split_ifs at read with small
    exact some.inj read ▸ small

variable {index : Nat}

/-- No list has an entry where indices are rounded. -/
theorem consulted_large (large : 2 ^ 53 ≤ index) :
    ((consulted later.cache uri packed).bind fun bytes => bytes[index]?) = none := by
  cases read : consulted later.cache uri packed with
  | none => rfl
  | some bytes =>
    have short := length_le_of_consulted read
    rw [bind_some, List.getElem?_eq_none]
    exact short.trans (le_trans (by decide) large)

variable {statuses : List UInt8}

/-- What becomes of a credential whose reference is found and whose list is published. -/
theorem checkCredential_eq_ok_iff {width : Width}
    (found : extractStatusListReference claims = some ⟨"status_list", uri, index⟩)
    (named : uri ≠ "")
    (published : Serves later.checker later.now uri width statuses) :
    (later.checkCredential later.cache scope claims).1 = .ok () ↔
      match (consulted later.cache uri (pack width statuses)).bind fun bytes => bytes[index]? with
      | some byte => byte = 0
      | none => later.failOpen ≠ some false := by
  have status := @checkStatus_status _ _ later.checker later.now uri later.cache named index
  rw [published.getStatusList] at status
  rw [checkCredential_of_found found]
  cases checked : later.checker.checkStatus later.now later.cache
      _ with
  | error error =>
    rw [checked] at status
    rw [map_eq_none_iff.mp status.symm]
    cases later.failOpen with
    | none => simp
    | some fails => cases fails <;> simp [Openid4vp.failure]
  | ok result =>
    rw [checked] at status
    obtain ⟨byte, read, code⟩ := map_eq_some_iff.mp status.symm
    rw [read]
    simp [← code, mapStatusCode_eq_valid_iff]

/-- A revoked credential is refused if it is noticed. -/
theorem RevokedAt.checkCredential_iff {format : CredentialFormat} {credential : Members}
    {width : Width}
    (revoked : later.RevokedAt format credential uri index width statuses) (scope : String) :
    (later.checkCredential later.cache scope (decodedClaims format credential)).1 ≠ .ok () ↔
      later.Notices format uri index (pack width statuses) := by
  cases revoked.carries with
  | cbor binary _ _ _ _ =>
    have unfound : extractStatusListReference (decodedClaims format credential) = none := by
      rcases binary with rfl | rfl <;> exact extract_mdoc credential
    rw [checkCredential_of_unfound unfound, Notices]
    rcases binary with rfl | rfl <;> simp
  | json text member refers =>
    have decoded : decodedClaims format credential = ofJSONMembers credential := by
      rcases text with rfl | rfl <;> rfl
    have extracted := extractStatusListReference_ofJSON member refers
    rw [Notices, and_iff_right text, decoded]
    rcases Nat.lt_or_ge _ (2 ^ 53) with small | large
    · -- the index is kept
      have below : index < 2 ^ 63 := small.trans (by decide)
      rw [nearest_natCast small, toInt64_natCast, if_pos below] at extracted
      have below' : nearest index < 2 ^ 63 := by
        rw [nearest_natCast small]
        exact_mod_cast below
      rw [ne_eq, checkCredential_eq_ok_iff extracted refers.named revoked.published]
      split <;> simp [below']
    · -- the index is rounded, and lies behind every list
      obtain ⟨rounded, same, stays⟩ := exists_nearest_natCast large
      rw [consulted_large large, same]
      rw [same, toInt64_natCast] at extracted
      by_cases below : rounded < 2 ^ 63
      · rw [if_pos below] at extracted
        rw [ne_eq, checkCredential_eq_ok_iff extracted refers.named revoked.published,
          consulted_large stays]
        have below' : (rounded : ℚ) < 2 ^ 63 := by exact_mod_cast below
        simp [below']
      · rw [if_neg below] at extracted
        rw [checkCredential_of_unfound extracted]
        have above : ¬(rounded : ℚ) < 2 ^ 63 := by exact_mod_cast below
        simp [above]

/-! ## Responses -/

/-- The credentials of a response have been accepted, up to the checks that follow the formats. -/
structure Presents (client : Client Signer) (session : Session) (response : Response)
    (entries : List Accepted) : Prop where
  unexpired : sessionExpired client.now session = false
  requests : session.dcqlQuery.all (·.credentials ≠ [])
  scopes : credentialScopes client session (sessionPairs client session) ≠ []
  attributed : attributeScopes (sessionPairs client session) []
    (credentialScopes client session (sessionPairs client session)) = .ok ()
  accepted : acceptScopes client session (sessionPairs client session)
    (defaultTokenAllowed session (sessionPairs client session)
      (credentialScopes client session (sessionPairs client session))) response []
    (credentialScopes client session (sessionPairs client session)) = .ok entries

variable {entries : List Accepted} {session : Session} {response : Response}

theorem Presents.verifyResponse_eq_ok_iff {client : Client Signer}
    (presents : Presents client session response entries) :
    (∃ accepted, verifyResponse client session response = .ok accepted) ↔
      client.furtherChecks session entries = .ok () ∧
        checkCovered client session (entries.flatMap (·.answered)) = .ok () := by
  simp only [verifyResponse, bind_eq_ok_iff, require_eq_ok_iff]
  constructor
  · rintro ⟨_, _, _, _, _, _, _, _, _, _, accepted, _, further, _, covered, _⟩
    cases presents.accepted.symm.trans accepted
    exact ⟨further, covered⟩
  · rintro ⟨further, covered⟩
    exact ⟨entries, (), presents.unexpired, (), presents.requests, (), presents.scopes, (),
      presents.attributed, entries, presents.accepted, (), further, (), covered, rfl⟩

/-- The revocation check refuses a credential that is not revoked. -/
def RefusesUnrevoked (later : LaterChecks Key Body) (session : Session) (entries : List Accepted) :
    Prop :=
  ∃ checked ∈ later.checkedCredentials session entries,
    ¬later.Revoked checked.2.1 checked.2.2 ∧ (later.checkCredential later.cache checked.1
      (decodedClaims checked.2.1 checked.2.2)).1 ≠ .ok ()

/-- The response is refused by a check other than revocation, or on account of a credential that
is not revoked. -/
def RefusedOtherwise (later : LaterChecks Key Body) (base : Client Signer) (session : Session)
    (entries : List Accepted) : Prop :=
  later.validateClaims session entries ≠ .ok () ∨ later.verifyBinding session entries ≠ .ok () ∨
    checkCovered (later.client base) session (entries.flatMap (·.answered)) ≠ .ok () ∨
    later.RefusesUnrevoked session entries

/-- Some presented credential is revoked and noticed. -/
def NoticesRevoked (later : LaterChecks Key Body) (session : Session) (entries : List Accepted) :
    Prop :=
  ∃ checked ∈ later.checkedCredentials session entries, ∃ uri index width statuses,
    later.RevokedAt checked.2.1 checked.2.2 uri index width statuses ∧
      later.Notices checked.2.1 uri index (pack width statuses)

/-- The check refuses a response on account of a credential that is not revoked, or of a revoked
one that is noticed. -/
theorem checkRevocation_ne_ok_iff (enabled : later.enabled = true) :
    later.checkRevocation session entries ≠ .ok () ↔
      later.RefusesUnrevoked session entries ∨ later.NoticesRevoked session entries := by
  rw [ne_eq, checkRevocation, if_pos enabled, checkCredentials_eq_ok_iff]
  push Not
  constructor
  · rintro ⟨checked, member, refused⟩
    by_cases revoked : later.Revoked checked.2.1 checked.2.2
    · obtain ⟨uri, index, width, statuses, entry⟩ := revoked
      exact .inr ⟨checked, member, uri, index, width, statuses, entry,
        (entry.checkCredential_iff _).mp refused⟩
    · exact .inl ⟨checked, member, revoked, refused⟩
  · rintro (⟨checked, member, _, refused⟩ | ⟨checked, member, _, _, _, _, entry, notices⟩)
    · exact ⟨checked, member, refused⟩
    · exact ⟨checked, member, (entry.checkCredential_iff _).mpr notices⟩

theorem Presents.refused_iff {base : Client Signer} (enabled : later.enabled = true)
    (presents : Presents (later.client base) session response entries) :
    (∃ error, verifyResponse (later.client base) session response = .error error) ↔
      later.RefusedOtherwise base session entries ∨ later.NoticesRevoked session entries := by
  have passes := presents.verifyResponse_eq_ok_iff
  have checks : (later.client base).furtherChecks session entries = .ok () ↔
      later.validateClaims session entries = .ok () ∧
        later.checkRevocation session entries = .ok () ∧
        later.verifyBinding session entries = .ok () := by
    simp only [client, bind_eq_ok_iff]
    constructor
    · rintro ⟨_, validated, _, checked, bound⟩
      exact ⟨validated, checked, bound⟩
    · rintro ⟨validated, checked, bound⟩
      exact ⟨(), validated, (), checked, bound⟩
  have fails : (∃ error, verifyResponse (later.client base) session response = .error error) ↔
      ¬∃ accepted, verifyResponse (later.client base) session response = .ok accepted := by
    cases verifyResponse (later.client base) session response <;> simp
  have revocation := @checkRevocation_ne_ok_iff _ _ later entries session enabled
  rw [RefusedOtherwise]
  grind

/-- A response with a revoked credential is refused, for every such credential, exactly if it is
refused for another reason or some revoked credential in it is noticed.  Those in an mdoc never
are. -/
theorem revoked_refused_iff (later : LaterChecks Key Body) (base : Client Signer)
    (session : Session) (response : Response) (entries : List Accepted)
    (enabled : later.enabled = true)
    (presents : Presents (later.client base) session response entries) :
    (∀ checked ∈ later.checkedCredentials session entries,
      later.Revoked checked.2.1 checked.2.2 →
        ∃ error, verifyResponse (later.client base) session response = .error error) ↔
    ∀ checked ∈ later.checkedCredentials session entries,
      later.Revoked checked.2.1 checked.2.2 →
        later.RefusedOtherwise base session entries ∨ later.NoticesRevoked session entries := by
  simp [presents.refused_iff enabled]

end LaterChecks

/-! Two credentials that are revoked in one list. -/

/-- The status of the credential at an index of the list. -/
def listedStatus (index : String) : Json :=
  .obj [("status_list", .obj [("idx", .num index), ("uri", .str "https://issuer.example/list")])]

theorem refers_listedStatus {index : Nat} {literal : String}
    (value : literalValue literal = some (index : ℚ)) :
    Refers (listedStatus literal) "https://issuer.example/list" index where
  stated := ⟨_, _, literal, rfl, rfl, rfl, rfl, value⟩
  named := by decide

/-- A verifier that does not fail open. -/
def strictChecks : LaterChecks Tokenstatuslist.KeyKind (Tokenstatuslist.Jwt ⊕ List UInt8) where
  enabled := true
  failOpen := some false
  checker := pairChecker .eight
  now := 0
  cache := fun _ => none
  bounded := nofun

theorem strictChecks_published : Serves strictChecks.checker strictChecks.now
    "https://issuer.example/list" .eight [1, 1] :=
  ⟨_,
    { named := by decide
      scheme := .inr rfl
      answered := rfl
      ok := rfl
      size := Nat.zero_le _ },
    .jwt (.inl rfl) rfl rfl ⟨⟨_, rfl, Tokenstatuslist.Numbers.unary.exact _⟩, rfl⟩⟩

/-- A licence with the status of the first credential. -/
def revocableLicence : Mdoc.Document :=
  { capturedDocument with nameSpaces := [("org.iso.18013.5.1",
      [.tagged [1] (some ("age_over_18", .bool true)),
        .tagged [2] (some ("status", listedStatus "0"))])] }

/-- A verifier to which the licence is presented. -/
def licenceClient : Client String :=
  { capturedClient with mdoc := { capturedLibrary with
      decodeDeviceResponse := fun _ =>
        .ok { version := "1.0", documents := [revocableLicence], status := 0 } } }

/-- What is cached of the licence. -/
def licenceCredential : Members :=
  cachedDocument ⟨"org.iso.18013.5.1.mDL", Mdoc.extractDocumentClaims revocableLicence⟩

/-- The revoked licence is accepted, by a verifier that does not even fail open. -/
theorem revoked_licence_accepted :
    strictChecks.RevokedAt .mdoc licenceCredential "https://issuer.example/list" 0 .eight [1, 1] ∧
      ∃ entries, ("mdl", .mdoc, licenceCredential) ∈
          strictChecks.checkedCredentials capturedSession entries ∧
        verifyResponse (strictChecks.client licenceClient) capturedSession capturedResponse =
          .ok entries := by
  have value : literalValue "0" = some ((0 : ℕ) : ℚ) := by decide +kernel
  constructor
  · exact {
      carries := .cbor (.inl rfl) rfl List.mem_cons_self rfl (refers_listedStatus value)
      published := strictChecks_published
      fits := by decide +kernel
      status := ⟨1, rfl, by decide⟩ }
  · have evaluated : verifyResponse (strictChecks.client licenceClient) capturedSession
        capturedResponse = .ok [{
          scope := "mdl", token := "AA", format := .mdoc, answered := []
          credentials := [licenceCredential] }] := by
      decide +kernel
    exact ⟨_, List.mem_singleton.mpr rfl, evaluated⟩

/-- An attestation with the status of the second credential. -/
def revocableAttestation : Members :=
  [("cnf", .obj [("jwk", .obj [("kid", .str "k1")])]), ("status", listedStatus "1"),
    ("vct", .str "urn:sca")]

/-- A verifier to which the attestation is presented. -/
def attestationClient : Client String :=
  { paymentClient with codec := { paymentClient.codec with
      unmarshalObject := fun text =>
        if text = bytes "body" then .ok revocableAttestation
        else paymentClient.codec.unmarshalObject text } }

/-- What is accepted of the attestation, up to the revocation check. -/
def attestationEntries : List Accepted :=
  [{ scope := "sca", token := "h.b.s~kh.kb.ks", format := .sdJWT, answered := ["sca"],
     credentials := [revocableAttestation], jtis := ["j1"] }]

/-- The revoked attestation is refused. -/
theorem revoked_attestation_refused :
    ∃ error, verifyResponse (strictChecks.client attestationClient) paymentSession
      paymentResponse = .error error := by
  have value : literalValue "1" = some ((1 : ℕ) : ℚ) := by decide +kernel
  have revoked : strictChecks.RevokedAt .sdJWT revocableAttestation
      "https://issuer.example/list" 1 .eight [1, 1] :=
    { carries := .json (.inl rfl) rfl (refers_listedStatus value)
      published := strictChecks_published
      fits := by decide +kernel
      status := ⟨1, rfl, by decide⟩ }
  have presents : LaterChecks.Presents (strictChecks.client attestationClient) paymentSession
      paymentResponse attestationEntries := by
    constructor <;> decide +kernel
  have checked : ("sca", .sdJWT, revocableAttestation) ∈
      strictChecks.checkedCredentials paymentSession attestationEntries :=
    List.mem_singleton.mpr rfl
  have noticed : strictChecks.Notices .sdJWT "https://issuer.example/list" 1
      (pack .eight [1, 1]) := by
    exact ⟨.inl rfl, (by decide : (1 : UInt8) ≠ 0)⟩
  refine (LaterChecks.revoked_refused_iff _ _ _
    _ _ rfl presents).mpr ?_ _ checked ⟨_, _, _, _, revoked⟩
  exact fun _ _ _ => .inr ⟨_, checked, _, _, _, _, revoked, noticed⟩

end Vc.Verifier.DirectPost
