import Vc.Apigw.Credential

/-!
# Proofs, nonces and keys of a credential request

What the verification of the proofs establishes, and what becomes of the nonce that they are
verified against: it is consumed in one atomic call, so that no other request can succeed with
it.
-/

namespace Vc.Apigw.Issuance

open Cache Checks Concurrent Openid4vci CredentialRequest Function List ProofAttestation Protocol

variable {Key : Type} {service : Service Key} {registry : Registry} {session : Session}
  {req : CredentialRequest} {jwks : List Jwk} {nonce scope format : String}
  {document : CompleteDocument} {issued : Issued}

/-! ## What a request that succeeds has passed -/

theorem Service.prepare_eq_ok_iff :
    service.prepare session req = .ok (scope, format, document, jwks) ↔
      service.validate req session.authorizationDetails = .ok () ∧
      (∃ id, service.selectScope req session = .ok (scope, id, format)) ∧
      service.document session scope = .ok document ∧ service.extractJWKs req = .ok jwks ∧
      req.proofType ∈ service.proofTypesSupported := by
  simp only [prepare, bind_eq_ok_iff, require_eq_ok_iff]
  constructor
  · rintro ⟨_, valid, ⟨scope, id, format⟩, selected, document, loaded, jwks, keys, _, supported,
      same⟩
    cases same
    exact ⟨valid, ⟨id, selected⟩, loaded, keys, supported⟩
  · rintro ⟨valid, ⟨id, selected⟩, loaded, keys, supported⟩
    exact ⟨(), valid, _, selected, _, loaded, _, keys, (), supported, rfl⟩

/-- The request is answered with these credentials once the nonce has been consumed. -/
structure Grants (service : Service Key) (registry : Registry) (session : Session)
    (req : CredentialRequest) (nonce : String) (issued : Issued) (scope format : String)
    (document : CompleteDocument) (jwks : List Jwk) : Prop where
  prepared : service.prepare session req = .ok (scope, format, document, jwks)
  nonempty : nonce ≠ ""
  verified : service.verifyProofs req jwks nonce = .ok ()
  completed : service.complete registry session req scope format document jwks = .ok issued

theorem run_lookupNonce {σ α : Type} {execute : Executor nonceInterface σ} {state : σ}
    {next : Bool → Process nonceInterface α} {result : α}
    (done : ((lookupNonce nonce next).run execute state).1 = result) :
    (nonce ≠ "" ∧ ∃ state, ((next true).run execute state).1 = result) ∨
      ∃ state, ((next false).run execute state).1 = result := by
  unfold lookupNonce at done
  split_ifs at done with unnamed
  · exact .inr ⟨_, done⟩
  · rw [Process.run_call] at done
    cases answer : (execute (.get nonce) state).1 with
    | false => exact .inr ⟨_, answer ▸ done⟩
    | true => exact .inl ⟨unnamed, _, answer ▸ done⟩

theorem Service.grants_of_proceed {σ : Type} {execute : Executor nonceInterface σ} {state : σ}
    (ready : service.prepare session req = .ok (scope, format, document, jwks))
    (named : nonce ≠ "")
    (done : ((service.proceed registry session req (scope, format, document, jwks) nonce).run
      execute state).1 = .ok issued) :
    Grants service registry session req nonce issued scope format document jwks := by
  unfold proceed at done
  cases verified : service.verifyProofs req jwks nonce with
  | error error => simp [verified] at done
  | ok =>
    simp only [verified] at done
    cases answer : (execute (.getAndDelete nonce) state).1 with
    | false => simp [answer] at done
    | true => exact ⟨ready, named, verified, by simpa [answer] using done⟩

/-- Whatever the calls answer, a request that is answered with credentials has passed the
checks for the nonce that it has consumed. -/
theorem grants_of_run {σ : Type} {execute : Executor nonceInterface σ} {state : σ}
    (succeeds : ((service.vciCredential registry session req).run execute state).1 = .ok issued) :
    ∃ nonce scope format document jwks,
      Grants service registry session req nonce issued scope format document jwks := by
  unfold Service.vciCredential at succeeds
  cases ready : service.prepare session req with
  | error error => simp [ready] at succeeds
  | ok prepared =>
    rw [ready] at succeeds
    rcases run_lookupNonce succeeds with ⟨named, _, done⟩ | ⟨_, done⟩
    · exact ⟨_, _, _, _, _, service.grants_of_proceed ready named done⟩
    · rcases run_lookupNonce done with ⟨named, _, done⟩ | ⟨_, done⟩
      · exact ⟨_, _, _, _, _, service.grants_of_proceed ready named done⟩
      · cases done

/-! ## Proofs -/

namespace CredentialRequest

variable (req)

/-- The JWT proofs that a request uses: a single proof, or the batch. -/
def jwtProofs : List JWT :=
  match req.proof, req.proofs with
  | some proof, _ => [proof.jwt]
  | none, some proofs => proofs.jwt
  | none, none => []

/-- The key attestations that a request uses. -/
def attestations : List JWT :=
  match req.proof, req.proofs with
  | none, some proofs => proofs.attestation
  | _, _ => []

/-- The presentations that a request uses. -/
def presentations : List ProofDIVP :=
  match req.proof, req.proofs with
  | none, some proofs => proofs.diVP
  | _, _ => []

/-- The nonces of its proofs. -/
def nonces : List (Option String) :=
  req.jwtProofs.map JWT.nonce ++ req.attestations.map JWT.nonce ++
    req.presentations.flatMap fun vp => vp.proofs.map fun proof => some proof.challenge

/-- The request has proofs, and each of them carries this nonce. -/
def Carries (nonce : String) : Prop :=
  req.nonces ≠ [] ∧ ∀ carried ∈ req.nonces, carried = some nonce

end CredentialRequest

/-- How the proofs of a request were verified, and where its keys come from. -/
inductive Verified (service : Service Key) (req : CredentialRequest) (nonce : String)
    (jwks : List Jwk) : Prop
  | jwt (type : req.proofType = .jwt) (nonempty : req.jwtProofs ≠ [])
      (others : req.attestations = [] ∧ req.presentations = [])
      (each : List.Forall₂ (fun proof jwk => ProofJWTToken.extractJWK proof = .ok jwk ∧
        service.verifyJWT nonce (proof, jwk) = .ok ()) req.jwtProofs jwks)
  | attestation (first : JWT) (rest : List JWT) (type : req.proofType = .attestation)
      (all : req.attestations = first :: rest)
      (others : req.jwtProofs = [] ∧ req.presentations = [])
      (keys : extractAllJWKs (max 1 service.batchSize) first = .ok jwks)
      (each : ∀ proof ∈ req.attestations, verify service.keys nonce proof = .ok ())

theorem Proofs.others_of_typeCount {proofs : Proofs} (single : proofs.typeCount = 1) :
    (proofs.jwt ≠ [] → proofs.attestation = [] ∧ proofs.diVP = []) ∧
      (proofs.attestation ≠ [] → proofs.jwt = [] ∧ proofs.diVP = []) := by
  obtain ⟨jwt, diVP, attestation⟩ := proofs
  cases jwt <;> cases diVP <;> cases attestation <;> simp_all [Proofs.typeCount]

theorem Proofs.proofType_eq {proofs : Proofs}
    (type : proofs.proofType = .jwt ∨ proofs.proofType = .attestation) :
    proofs.proofType = .jwt ∧ proofs.jwt ≠ [] ∨
      proofs.proofType = .attestation ∧ proofs.attestation ≠ [] := by
  unfold Proofs.proofType at type ⊢
  split_ifs at type ⊢ with jwt diVP attestation <;> simp_all

theorem Grants.verifiedProofs
    (grants : Grants service registry session req nonce issued scope format document jwks) :
    Verified service req nonce jwks := by
  obtain ⟨valid, _, _, keys, supported⟩ := service.prepare_eq_ok_iff.mp grants.prepared
  have type := service.implemented _ supported
  have checked := grants.verified
  simp only [Service.validate, bind_eq_ok_iff, require_eq_ok_iff] at valid
  obtain ⟨_, single, _⟩ := valid
  unfold proofType at type
  unfold Service.extractJWKs at keys
  unfold Service.verifyProofs at checked
  cases single' : req.proof with
  | some proof =>
    simp only [single'] at keys checked
    split_ifs at keys with isJWT
    obtain ⟨jwk, extracted, same⟩ := bind_eq_ok_iff.mp keys
    cases same
    refine .jwt (by simp [proofType, single', isJWT]) ?_ ?_ ?_
    all_goals simp only [jwtProofs, attestations, presentations, single']
    · exact cons_ne_nil _ _
    · exact ⟨trivial, trivial⟩
    · exact .cons ⟨mapError_eq_ok_iff.mp extracted, forM_eq_ok_iff.mp checked _ (by simp)⟩ .nil
  | none =>
    cases batch : req.proofs with
    | none => simp [single', batch] at keys
    | some proofs =>
      simp only [single', batch, Option.all_some, decide_eq_true_eq] at keys checked type single
      obtain ⟨noneBesideJWT, noneBesideAttestation⟩ := Proofs.others_of_typeCount single
      unfold Proofs.extractAllJWKs at keys
      rcases Proofs.proofType_eq type with ⟨isJWT, nonempty⟩ | ⟨isAttestation, nonempty⟩
      · simp only [isJWT, bind_eq_ok_iff, require_eq_ok_iff, if_true] at keys checked
        obtain ⟨_, _, extracted⟩ := keys
        obtain ⟨_, length, verified⟩ := checked
        refine .jwt ?_ ?_ ?_ ?_
        all_goals simp [proofType, jwtProofs, attestations, presentations, single', batch]
        · exact isJWT
        · exact nonempty
        · exact noneBesideJWT nonempty
        · have pairs := forall₂_iff_zip.mp (mapM_eq_ok_iff.mp extracted)
          exact forall₂_iff_zip.mpr ⟨length, fun member =>
            ⟨pairs.2 member, forM_eq_ok_iff.mp verified _ member⟩⟩
      · obtain ⟨first, rest, all⟩ := exists_cons_of_ne_nil nonempty
        simp only [isAttestation, all, reduceCtorEq, if_false, Proofs.verify,
          bind_eq_ok_iff] at keys checked
        obtain ⟨_, _, _, _, verified⟩ := checked
        refine .attestation first rest ?_ ?_ ?_ keys ?_
        all_goals simp [proofType, jwtProofs, attestations, presentations, single', batch]
        · exact isAttestation
        · exact all
        · exact noneBesideAttestation nonempty
        · exact all ▸ forM_eq_ok_iff.mp verified

/-- What the verification of a JWT proof has established. -/
theorem Service.of_verifyJWT {proof : JWT} {jwk : Jwk}
    (verified : service.verifyJWT nonce (proof, jwk) = .ok ()) (named : nonce ≠ "") :
    ∃ key, service.keys.publicKey jwk = .ok key ∧ service.keys.verifySignature key proof = true ∧
      .str service.credentialIssuer ∈ audience proof.claims ∧ proof.nonce = some nonce := by
  simp only [verifyJWT, bind_eq_ok_iff, mapError_eq_ok_iff, ProofJWTToken.verify,
    require_eq_ok_iff, named, service.issuer_ne_empty, false_or] at verified
  obtain ⟨key, found, _, _, _, _, _, addressed, _, _, _, _, _, carries, _, _, signed⟩ := verified
  exact ⟨key, found, signed, addressed, carries⟩

/-- What the verification of a key attestation has established. -/
theorem of_verifyAttestation {keys : KeyLibrary Key} {proof : JWT}
    (verified : verify keys nonce proof = .ok ()) (named : nonce ≠ "") :
    proof.nonce = some nonce ∧ ∃ x5c key, proof.header.lookup "x5c" = some x5c ∧
      keys.x5cKey x5c = .ok key ∧ keys.verifySignature key proof = true := by
  unfold verify at verified
  cases found : proof.header.lookup "x5c" with
  | none => simp [found] at verified
  | some x5c =>
    simp only [found, bind_eq_ok_iff, require_eq_ok_iff, named, false_or] at verified
    obtain ⟨_, _, key, leaf, _, _, _, carries, signed⟩ := verified
    exact ⟨carries, x5c, key, rfl, leaf, signed⟩

theorem Verified.carries (verified : Verified service req nonce jwks) (named : nonce ≠ "") :
    req.Carries nonce := by
  unfold Carries nonces
  cases verified with
  | jwt _ nonempty others each =>
    rw [others.1, others.2]
    refine ⟨by simpa using nonempty, ?_⟩
    simp only [map_nil, flatMap_nil, append_nil, mem_map]
    rintro _ ⟨proof, member, rfl⟩
    obtain ⟨jwk, _, _, checked⟩ := exists_right_of_mem each member
    obtain ⟨_, _, _, _, carries⟩ := service.of_verifyJWT checked named
    exact carries
  | attestation first rest _ all others _ each =>
    rw [others.1, others.2]
    refine ⟨by simp [all], ?_⟩
    simp only [map_nil, flatMap_nil, append_nil, nil_append, mem_map]
    rintro _ ⟨proof, member, rfl⟩
    exact (of_verifyAttestation (each _ member) named).1

/-! ## Nonces -/

/-- The nonces in the cache, and the codes that are not redeemed yet, each with the nonce of its
session. -/
structure NonceState where
  live : List String
  codes : List (String × String)

def NonceState.execute : Executor nonceInterface NonceState
  | .get nonce, state => (decide (nonce ∈ state.live), state)
  | .getAndDelete nonce, state =>
    (decide (nonce ∈ state.live), { state with live := state.live.filter (· ≠ nonce) })
  | .set nonce, state => ((), { state with live := nonce :: state.live })
  | .forfeitAuthorizationCode code, state =>
    (state.codes.lookup code, { state with codes := state.codes.filter (·.1 ≠ code) })

/-- The requests that concern nonces.  The nonce endpoint, a refresh and the redemption of a
pre-authorized code store a generated nonce, and the redemption of an authorization code the
nonce of its session. -/
inductive NonceRequest (Key : Type) where
  | generates (nonce : String)
  | redeems (code : String)
  | credential (service : Service Key) (registry : Registry) (session : Session)
      (req : CredentialRequest)

/-- The handler of a request, as far as it concerns nonces, with the credentials it returns. -/
def NonceRequest.serve : NonceRequest Key → Process nonceInterface (Option Issued)
  | .generates nonce => .call (.set nonce) fun _ => .done none
  | .redeems code => .call (.forfeitAuthorizationCode code) fun
    | none => .done none
    | some nonce => .call (.set nonce) fun _ => .done none
  | .credential service registry session req =>
    (service.vciCredential registry session req).bind fun result => .done result.toOption

def NonceRequest.generated : NonceRequest Key → Option String
  | .generates nonce => some nonce
  | _ => none

/-- Every nonce is at one place: in the cache, with a code, or with the one request that is going
to store it or has consumed it. -/
structure Owned {ι : Type} (state : NonceState) (owns : ι → Option String) : Prop where
  unique : ∀ first second nonce, owns first = some nonce → owns second = some nonce → first = second
  away : ∀ index nonce, owns index = some nonce → nonce ∉ state.live ∧ nonce ∉ state.codes.map (·.2)
  apart : ∀ nonce ∈ state.live, nonce ∉ state.codes.map (·.2)
  nodup : (state.codes.map (·.2)).Nodup

section Nonces

variable {ι : Type} [DecidableEq ι] {state : NonceState} {owns : ι → Option String} {index : ι}

theorem Owned.set (owned : Owned state owns) (holds : owns index = some nonce) :
    Owned (NonceState.execute (.set nonce) state).2 (update owns index none) := by
  obtain ⟨unique, away, apart, nodup⟩ := owned
  refine ⟨?_, ?_, ?_, nodup⟩
  · grind [update_apply]
  · grind [update_apply, NonceState.execute]
  · grind [NonceState.execute]

theorem Owned.consume (owned : Owned state owns) (live : nonce ∈ state.live) :
    Owned (NonceState.execute (.getAndDelete nonce) state).2 (update owns index (some nonce)) := by
  obtain ⟨unique, away, apart, nodup⟩ := owned
  refine ⟨?_, ?_, ?_, nodup⟩
  · grind [update_apply]
  · grind [update_apply, NonceState.execute]
  · grind [NonceState.execute]

theorem Owned.forfeit (owned : Owned state owns) (code : String) :
    Owned (NonceState.execute (.forfeitAuthorizationCode code) state).2
      (update owns index (state.codes.lookup code)) := by
  obtain ⟨unique, away, apart, nodup⟩ := owned
  have kept {nonce : String} (member : nonce ∈ (state.codes.filter (·.1 ≠ code)).map (·.2)) :
      nonce ∈ state.codes.map (·.2) ∧ state.codes.lookup code ≠ some nonce := by
    obtain ⟨entry, inside, rfl⟩ := mem_map.mp member
    obtain ⟨stored, other⟩ := mem_filter.mp inside
    refine ⟨mem_map_of_mem stored, fun found => ?_⟩
    have same := inj_on_of_nodup_map nodup stored (Entries.mem_of_lookup found) rfl
    exact of_decide_eq_true other (congrArg Prod.fst same)
  have present {nonce : String} (found : state.codes.lookup code = some nonce) :
      nonce ∈ state.codes.map (·.2) :=
    mem_map.mpr ⟨_, Entries.mem_of_lookup found, rfl⟩
  refine ⟨?_, ?_, ?_, nodup.sublist (filter_sublist.map _)⟩
  · grind [update_apply]
  · grind [update_apply, NonceState.execute]
  · grind [NonceState.execute]

/-- The protocol of the requests: a request owns the nonce that it is going to store, or that it
has consumed. -/
def ownership : Protocol ι nonceInterface NonceState (Option String) where
  inv state _ owns := Owned state owns
  guard _ _ _ _ _ := True

/-- A credential request that is answered owns the nonce of its proofs. -/
def NonceRequest.Spent : NonceRequest Key → Option String → Option Issued → Prop
  | .credential _ _ _ req, owns, some _ => ∃ nonce, owns = some nonce ∧ req.Carries nonce
  | _, _, _ => True

theorem follows_lookupNonce {α : Type} {post : Option String → α → Prop}
    {next : Bool → Process nonceInterface α}
    (found : nonce ≠ "" → ownership.Follows NonceState.execute index post (next true) none)
    (absent : ownership.Follows NonceState.execute index post (next false) none) :
    ownership.Follows NonceState.execute index post (lookupNonce nonce next) none := by
  unfold lookupNonce
  split_ifs with unnamed
  · exact absent
  · refine follows_call_of_keep fun state trace owns owned _ _ => ⟨owned, ?_⟩
    show ownership.Follows NonceState.execute index post (next (decide (nonce ∈ state.live))) none
    cases decide (nonce ∈ state.live) with
    | true => exact found unnamed
    | false => exact absent

theorem Service.follows_proceed
    (ready : service.prepare session req = .ok (scope, format, document, jwks))
    (named : nonce ≠ "") :
    ownership.Follows NonceState.execute index
      (IfOk fun owns _ => ∃ nonce, owns = some nonce ∧ req.Carries nonce)
      (service.proceed registry session req (scope, format, document, jwks) nonce) none := by
  unfold proceed
  cases verified : service.verifyProofs req jwks nonce with
  | error error => trivial
  | ok =>
    intro state trace owns owned holds _
    by_cases live : nonce ∈ state.live
    · refine ⟨some _, owned.consume live, ?_⟩
      simp only [NonceState.execute, live]
      cases completed : service.complete registry session req scope format document jwks with
      | error error => trivial
      | ok issued =>
        have grants : Grants service registry session req nonce issued scope format document
          jwks := ⟨ready, named, verified, completed⟩
        exact ⟨nonce, rfl, grants.verifiedProofs.carries named⟩
    · refine ⟨none, ?_, ?_⟩
      · have same : state.live.filter (· ≠ nonce) = state.live :=
          filter_eq_self.mpr fun other member => decide_eq_true fun equal =>
            live (equal ▸ member)
        rw [← holds, update_eq_self]
        simpa only [ownership, NonceState.execute, same] using owned
      · simp only [NonceState.execute, live]
        trivial

theorem NonceRequest.follows_serve (request : NonceRequest Key) :
    ownership.Follows NonceState.execute index request.Spent request.serve request.generated := by
  cases request with
  | generates nonce => exact fun state trace owns owned holds _ => ⟨none, owned.set holds, trivial⟩
  | redeems code =>
    intro state trace owns owned _ _
    refine ⟨state.codes.lookup _, owned.forfeit _, ?_⟩
    simp only [NonceState.execute]
    cases state.codes.lookup code with
    | none => trivial
    | some nonce => exact fun state trace owns owned holds _ => ⟨none, owned.set holds, trivial⟩
  | credential service registry session req =>
    have answered : ownership.Follows NonceState.execute index
        (IfOk fun owns _ => ∃ nonce, owns = some nonce ∧ req.Carries nonce)
        (service.vciCredential registry session req) none := by
      unfold Service.vciCredential
      cases ready : service.prepare session req with
      | error error => trivial
      | ok prepared =>
        refine follows_lookupNonce (fun named => service.follows_proceed ready named) ?_
        exact follows_lookupNonce (fun named => service.follows_proceed ready named) trivial
    refine answered.bind fun result owns spent => ?_
    cases result with
    | error error => trivial
    | ok issued => exact spent

theorem CredentialRequest.Carries.eq {other : String} (carries : req.Carries nonce)
    (also : req.Carries other) : nonce = other := by
  obtain ⟨carried, member⟩ := exists_mem_of_ne_nil _ carries.1
  exact Option.some.inj ((carries.2 _ member).symm.trans (also.2 _ member))

end Nonces

/-! ## A wallet with one key -/

/-- A service for one scope; the key of the wallet signs with its own bytes. -/
def sampleService (format : String) : Service String where
  credentialMetadata scope := if scope = "pid" then some format else none
  proofTypesSupported := [.jwt, .attestation]
  implemented := by simp
  credentialIssuer := "https://issuer"
  issuer_ne_empty := by decide
  keys := {
    publicKey := fun jwk => .ok jwk.x
    x5cKey := fun _ => .ok "provider"
    verifySignature := fun key proof => key = "wallet" && proof.signature = Sdjwtvc.bytes key
    coseKey := fun _ => .ok [] }
  now := 0
  validateBBS _ := .ok ()
  buildPresentationDocument _ _ := .error .internal
  derive _ _ _ document := .ok (document.documentData.getD [])
  sign _ := .ok ()
  issueBBS _ _ _ := .ok []

/-- A proof with the key of the wallet and this `iss` claim. -/
def sampleProof (iss nonce : String) : JWT where
  header := [("alg", .str "ES256"), ("typ", .str "openid4vci-proof+jwt"),
    ("jwk", .obj [("kty", .str "EC"), ("x", .str "wallet")])]
  claims := [("aud", .str "https://issuer"), ("iat", .num "1"), ("iss", .str iss),
    ("nonce", .str nonce)]
  signature := Sdjwtvc.bytes "wallet"

def sampleRequest (iss nonce : String) : CredentialRequest where
  credentialConfigurationID := "pid"
  proof := some ⟨.jwt, sampleProof iss nonce⟩

def sampleSession : Session where
  authContext := { scopes := ["pid"], authProvider := "datastore", identifier := "subject" }
  documents := [("document", ⟨"pid", some []⟩)]

/-- A registry that hands out the entries of this section in their order. -/
def sampleRegistry (sectionID : Int) : Registry where
  addStatus index := .ok ⟨sectionID, index, "https://list"⟩
  saveCredentialSubject _ := .ok ()

local instance neZero_three : NeZero 3 := ⟨by decide⟩

end Vc.Apigw.Issuance
