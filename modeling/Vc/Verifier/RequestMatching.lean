import Vc.Verifier.HolderBinding

/-!
# Whether an accepted response answers its request

A DCQL query constrains the format, the type and the claims of each credential,
and which credentials have to be there.  This file states when the credentials
that a direct post caches answer the query of the session, and which part of
that the handler leaves to the response.
-/

namespace Vc.Verifier.DirectPost

open Checks Sdjwtvc Openid4vp VC20Handler List

/-! ## The meaning of a query -/

/-- A claim path leads to a value. -/
def HasClaim (data : Json) (claim : ClaimQuery) : Prop :=
  ∃ value, resolveDCQLPath claim.path data = some value ∧ value ≠ .null

/-- The claims that a query requires are there: all of them, or those of one of its claim sets. -/
def HasClaims (query : CredentialQuery) (data : Json) : Prop :=
  query.claims = [] ∨
    if query.claimSet = [] then ∀ claim ∈ query.claims, HasClaim data claim
    else ∃ option ∈ query.claimSet, ∀ id ∈ option.getD [], ∃ claim ∈ query.claims,
      claim.id = id ∧ HasClaim data claim

/-- What the claim paths of a format start from. -/
def claimData (format : CredentialFormat) (credential : Members) : Json :=
  match format with
  | .mdoc | .mdocZK => (credential.lookup "namespaces").getD .null
  | _ => .obj credential

/-- The queries that have to be answered are: all of them, or those of an option of each required
credential set. -/
def AllRequired (dcql : DCQL) (answered : String → Prop) : Prop :=
  (dcql.credentialSets = [] → ∀ query ∈ dcql.credentials, answered query.id) ∧
    ∀ set ∈ dcql.credentialSets, set.isRequired → ∃ option ∈ set.options, ∀ id ∈ option, answered id

theorem allRequired_congr {dcql : DCQL} {first second : String → Prop}
    (same : ∀ id, first id ↔ second id) : AllRequired dcql first ↔ AllRequired dcql second := by
  simp [AllRequired, same]

section Request

variable {Key : Type} (client : Client Key) (session : Session)

/-- The credential is of a type that the query names. -/
def HasType (query : CredentialQuery) (format : CredentialFormat) (credential : Members) : Prop :=
  match format with
  | .sdJWT => query.metaQuery.vctValues = [] ∨
      Members.text credential "vct" ∈ query.metaQuery.vctValues
  | .mdoc | .mdocZK => query.metaQuery.doctypeValue = "" ∨
      credential.lookup "docType" = some (.str query.metaQuery.doctypeValue)
  | .vc20 => matchTypeValues (client.vc20.expandedTypes credential) query.metaQuery.typeValues
  | .unknown => False

/-- A credential satisfies a query: its format, its type and its claims. -/
structure Satisfies (query : CredentialQuery) (token : String) (credential : Members) : Prop where
  format : formatMatchesRequest (detectCredentialFormat client token) query.format
  type : HasType client query (detectCredentialFormat client token) credential
  claims : HasClaims query (claimData (detectCredentialFormat client token) credential)

/-- The query that a scope stands for. -/
def StandsFor (scope : String) (query : CredentialQuery) : Prop :=
  requestedQuery client session (sessionPairs client session) scope = some query

/-- What is cached answers the request: each credential satisfies the query of its scope, and the
queries that have to be answered are. -/
structure AnswersRequest (dcql : DCQL) (response : Response) (entries : List Accepted) : Prop where
  satisfied : ∀ scope credential, (scope, credential) ∈ credentialCaches session entries →
    ∃ query token, StandsFor client session scope query ∧
      AnswersScope client session response scope token ∧ Satisfies client query token credential
  answered : AllRequired dcql fun id => ∃ scope credential query,
    (scope, credential) ∈ credentialCaches session entries ∧
    StandsFor client session scope query ∧ query.id = id

/-! ## What the response has to show by itself -/

/-- The credential of a W3C token. -/
def presentedW3C (token : String) : Option Members :=
  (decodeVPToken client.codec client.vc20 token).toOption.bind fun text =>
    (parseDocument client.codec client.vc20 text).toOption.bind fun document =>
      if isPresentation document then (extractCredentialFromVP document).toOption
      else some document

def presentedCredentials (token : String) : List Members :=
  match detectCredentialFormat client token with
  | .sdJWT => ((parseToken client.codec client.fuel token).toOption.map (·.claims)).toList
  | .mdoc => (Mdoc.presentedDocuments client.mdoc token).map fun document =>
    cachedDocument ⟨document.docType, Mdoc.extractDocumentClaims document⟩
  | .mdocZK => (Mdoc.presentedProofs client.mdoc token).map fun pair =>
    cachedDocument (Mdoc.zkClaims pair.2)
  | .vc20 => (presentedW3C client token).toList
  | .unknown => []

/-- The type of a credential that is not of the W3C format, and its claims. -/
structure MeetsUnchecked (query : CredentialQuery) (format : CredentialFormat)
    (credential : Members) : Prop where
  type : format ≠ .vc20 → HasType client query format credential
  claims : HasClaims query (claimData format credential)

/-- What a direct post leaves to the response: a query for each scope, the types and claims of the
credentials, and that a credential is presented for each query that has to be answered. -/
structure MeetsRequest (dcql : DCQL) (response : Response) : Prop where
  constraints : ∀ scope ∈ credentialScopes client session (sessionPairs client session),
    ∀ token, AnswersScope client session response scope token →
      ∀ credential ∈ presentedCredentials client token, ∃ query,
        StandsFor client session scope query ∧
        MeetsUnchecked client query (detectCredentialFormat client token) credential
  queries : AllRequired dcql fun id =>
    ∃ scope ∈ credentialScopes client session (sessionPairs client session), ∃ query,
      StandsFor client session scope query ∧ query.id = id ∧
      ∀ token, AnswersScope client session response scope token →
        presentedCredentials client token ≠ []

/-! ## What has been accepted -/

variable {client session} {token : String}

theorem presentedW3C_of_verifyAndExtract {handler : VC20Handler}
    {result : VC20VerificationResult Key}
    (verified : handler.verifyAndExtract client.codec client.vc20 token = .ok result) :
    presentedW3C client token = some result.claims ∧
      result.typeIRIs = client.vc20.expandedTypes result.claims := by
  simp only [verifyAndExtract, bind_eq_ok_iff, wrap_eq_ok_iff] at verified
  obtain ⟨_, _, text, decoded, document, read, credential, taken, checked⟩ := verified
  obtain ⟨claims, types⟩ := verifyCredential_eq_ok checked
  rw [claims]
  refine ⟨?_, types⟩
  rw [presentedW3C, decoded, Except.toOption, Option.bind_some, read, Except.toOption,
    Option.bind_some]
  rw [boundCredential] at taken
  split_ifs at taken ⊢ with isPresentation
  · simp only [bind_eq_ok_iff, wrap_eq_ok_iff] at taken
    obtain ⟨_, _, _, fromVP, same⟩ := taken
    cases same
    rw [fromVP, Except.toOption]
  · cases taken
    rfl

variable {pairs : List (String × String)}

theorem acceptVC20_eq_ok {scope : String} {verified : Verified}
    (accepted : acceptVC20 client session pairs scope token = .ok verified) :
    ∃ credential query, presentedW3C client token = some credential ∧
      verified.credentials = [credential] ∧
      requestedQuery client session pairs scope = some query ∧
      matchTypeValues (client.vc20.expandedTypes credential) query.metaQuery.typeValues := by
  simp only [acceptVC20, bind_eq_ok_iff, lift_eq_ok_iff, wrap_eq_ok_iff,
    require_eq_ok_iff] at accepted
  obtain ⟨_, _, result, extracted, _, _, _, _, query, constrains, _, types, same⟩ := accepted
  cases same
  obtain ⟨presented, iris⟩ := presentedW3C_of_verifyAndExtract extracted
  refine ⟨result.claims, query, presented, rfl, ?_, iris ▸ types⟩
  unfold constrainingQuery at constrains
  split at constrains
  · exact absurd constrains failure_ne_ok
  · next found =>
      obtain ⟨_, _, rfl⟩ := map_eq_ok_iff.mp constrains
      exact found

variable {response : Response} {defaultAllowed : Bool} {before : List String}

/-- What is accepted of a token are the credentials that it presents. -/
theorem credentials_of_acceptedFrom {entry : Accepted}
    (accepted : AcceptedFrom client session pairs defaultAllowed response before entry) :
    entry.credentials = presentedCredentials client entry.token := by
  have verified := accepted.verified
  rw [accepted.detected] at verified
  rw [presentedCredentials]
  generalize detectCredentialFormat client entry.token = format at verified ⊢
  cases format with
  | sdJWT =>
    obtain ⟨parsed, _, read, credentials, _⟩ := acceptSDJWT_eq_ok verified
    rw [credentials, read]
    rfl
  | mdoc => exact (acceptMDoc_eq_ok verified).1
  | mdocZK => exact (acceptMDocZK_eq_ok verified).1
  | vc20 =>
    obtain ⟨credential, _, presented, credentials, _⟩ := acceptVC20_eq_ok verified
    rw [credentials, presented]
    rfl
  | unknown => exact absurd verified failure_ne_ok

/-- The format of an accepted token is that of the query of its scope, and the types of a W3C
credential are those that the query names. -/
theorem satisfies_iff_of_acceptedFrom {entry : Accepted}
    (accepted : AcceptedFrom client session (sessionPairs client session) defaultAllowed response
      before entry)
    {query : CredentialQuery} (stands : StandsFor client session entry.scope query)
    {credential : Members} (member : credential ∈ entry.credentials) :
    Satisfies client query entry.token credential ↔
      MeetsUnchecked client query (detectCredentialFormat client entry.token) credential := by
  have format : formatMatchesRequest (detectCredentialFormat client entry.token) query.format := by
    have matching := accepted.matching
    rw [checkFormat, stands, accepted.detected] at matching
    exact require_eq_ok_iff.mp matching
  have types : detectCredentialFormat client entry.token = .vc20 →
      HasType client query .vc20 credential := by
    intro isW3C
    have verified := accepted.verified
    rw [accepted.detected, isW3C] at verified
    obtain ⟨only, found, _, credentials, standsAgain, types⟩ := acceptVC20_eq_ok verified
    cases stands.symm.trans standsAgain
    rw [credentials, mem_singleton] at member
    exact member ▸ types
  constructor
  · exact fun satisfied => ⟨fun _ => satisfied.type, satisfied.claims⟩
  · intro meets
    refine ⟨format, ?_, meets.claims⟩
    by_cases isW3C : detectCredentialFormat client entry.token = .vc20
    · exact isW3C ▸ types isW3C
    · exact meets.type isW3C

/-- A query has an answer in the cache exactly where a scope that stands for it has a token that
presents a credential. -/
theorem Passed.answered_iff {entries : List Accepted}
    (passed : Passed client session response entries) (id : String) :
    (∃ scope credential query, (scope, credential) ∈ credentialCaches session entries ∧
      StandsFor client session scope query ∧ query.id = id) ↔
      ∃ scope ∈ credentialScopes client session (sessionPairs client session), ∃ query,
        StandsFor client session scope query ∧ query.id = id ∧
        ∀ token, AnswersScope client session response scope token →
          presentedCredentials client token ≠ [] := by
  constructor
  · rintro ⟨scope, credential, query, cached, stands, same⟩
    obtain ⟨entry, inEntries, rfl, inEntry⟩ := passed.mem_credentialCaches_iff.mp cached
    obtain ⟨before, established⟩ := passed.each entry inEntries
    refine ⟨entry.scope, passed.scope_mem inEntries, query, stands, same, ?_⟩
    intro token answers
    cases established.found.symm.trans answers
    rw [← credentials_of_acceptedFrom established]
    exact ne_nil_of_mem inEntry
  · rintro ⟨scope, inScopes, query, stands, same, presents⟩
    obtain ⟨entry, inEntries, rfl⟩ := passed.exists_entry inScopes
    obtain ⟨before, established⟩ := passed.each entry inEntries
    have some := presents entry.token established.found
    rw [← credentials_of_acceptedFrom established] at some
    obtain ⟨credential, inEntry⟩ := exists_mem_of_ne_nil _ some
    exact ⟨entry.scope, credential, query,
      passed.mem_credentialCaches_iff.mpr ⟨entry, inEntries, rfl, inEntry⟩, stands, same⟩

variable (client session)

/-- An accepted response answers a request exactly where it meets by itself what a direct post
does not check. -/
theorem request_answered_iff (dcql : DCQL) (response : Response) (entries : List Accepted)
    (accepted : verifyResponse client session response = .ok entries) :
    AnswersRequest client session dcql response entries ↔
      MeetsRequest client session dcql response := by
  have passed := verifyResponse_eq_ok accepted
  constructor
  · intro answers
    refine ⟨?_, (allRequired_congr passed.answered_iff).mp answers.answered⟩
    intro scope inScopes token found credential presented
    obtain ⟨entry, inEntries, rfl⟩ := passed.exists_entry inScopes
    obtain ⟨before, established⟩ := passed.each entry inEntries
    cases established.found.symm.trans found
    rw [← credentials_of_acceptedFrom established] at presented
    obtain ⟨query, _, stands, again, satisfied⟩ := answers.satisfied entry.scope credential
      (passed.mem_credentialCaches_iff.mpr ⟨entry, inEntries, rfl, presented⟩)
    cases established.found.symm.trans again
    exact ⟨query, stands, (satisfies_iff_of_acceptedFrom established stands presented).mp satisfied⟩
  · intro meets
    refine ⟨?_, (allRequired_congr passed.answered_iff).mpr meets.queries⟩
    intro scope credential cached
    obtain ⟨entry, inEntries, rfl, inEntry⟩ := passed.mem_credentialCaches_iff.mp cached
    obtain ⟨before, established⟩ := passed.each entry inEntries
    have presented := inEntry
    rw [credentials_of_acceptedFrom established] at presented
    obtain ⟨query, stands, unchecked⟩ := meets.constraints entry.scope
      (passed.scope_mem inEntries) entry.token established.found credential presented
    exact ⟨query, entry.token, stands, established.found,
      (satisfies_iff_of_acceptedFrom established stands inEntry).mpr unchecked⟩

end Request

theorem payment_answers_request :
    AnswersRequest paymentClient paymentSession { credentials := [paymentQuery] }
      paymentResponse paymentEntries := by
  have scopes : credentialScopes paymentClient paymentSession
      (sessionPairs paymentClient paymentSession) = ["sca"] := by decide +kernel
  have stands : StandsFor paymentClient paymentSession "sca" paymentQuery := by
    unfold StandsFor
    decide +kernel
  have token : AnswersScope paymentClient paymentSession paymentResponse "sca"
      "h.b.s~kh.kb.ks" := by
    unfold AnswersScope
    decide +kernel
  have presented : detectCredentialFormat paymentClient "h.b.s~kh.kb.ks" = .sdJWT ∧
      presentedCredentials paymentClient "h.b.s~kh.kb.ks" = [paymentAttestation] := by
    decide +kernel
  have claims : ∀ claim ∈ paymentQuery.claims, HasClaim (.obj paymentAttestation) claim := by
    rintro _ (_ | ⟨_, ⟨⟩⟩)
    exact ⟨.obj [("kid", .str "k1")], by decide, nofun⟩
  refine (request_answered_iff _ _ _ _ _ (by decide +kernel)).mpr ⟨?_, ?_⟩
  · rw [scopes]
    simp only [mem_singleton, forall_eq]
    intro found answers
    cases token.symm.trans answers
    simp only [presented, mem_singleton, forall_eq]
    exact ⟨_, stands, fun _ => .inr (by decide), .inr claims⟩
  · refine ⟨fun _ => ?_, by rintro _ ⟨⟩⟩
    simp only [mem_singleton, forall_eq, scopes]
    refine ⟨"sca", rfl, _, stands, rfl, fun found answers => ?_⟩
    cases token.symm.trans answers
    simp [presented]

/-- A session that asks for an identity document. -/
def identitySession : Session where
  sessionID := "s1"
  scopes := ["pid"]
  dcqlQuery := some { credentials := [
    { id := "pid", format := "dc+sd-jwt", metaQuery := { vctValues := ["urn:pid"] } }] }
  nonce := "n1"
  clientID := "verifier"
  issued := fun present => absurd rfl present

/-- A credential of another type is accepted for it and cached. -/
theorem other_type_accepted :
    ∃ entries, verifyResponse paymentClient identitySession
        { vpToken := [("pid", ["h.b.s~kh.kb.ks"])] } = .ok entries ∧
      ("pid", paymentAttestation) ∈ credentialCaches identitySession entries ∧
      ∀ query, StandsFor paymentClient identitySession "pid" query →
        ¬Satisfies paymentClient query "h.b.s~kh.kb.ks" paymentAttestation := by
  have evaluated : verifyResponse paymentClient identitySession
      { vpToken := [("pid", ["h.b.s~kh.kb.ks"])] } = .ok [{
        scope := "pid", token := "h.b.s~kh.kb.ks", format := .sdJWT, answered := []
        credentials := [paymentAttestation] }] ∧
      requestedQuery paymentClient identitySession (sessionPairs paymentClient identitySession)
        "pid" = some {
          id := "pid", format := "dc+sd-jwt", metaQuery := { vctValues := ["urn:pid"] } } ∧
      detectCredentialFormat paymentClient "h.b.s~kh.kb.ks" = .sdJWT := by
    decide +kernel
  refine ⟨_, evaluated.1, mem_singleton.mpr rfl, fun query stands satisfied => ?_⟩
  cases evaluated.2.1.symm.trans stands
  have type := satisfied.type
  rcases type with empty | member
  · cases empty
  · exact absurd member (by decide)

end Vc.Verifier.DirectPost
