import Vc.Apigw.CredentialProofs

/-!
# What the issued credentials contain

The keys and subjects that credentials are bound to, the status entries that they refer to, and
the scope and document that they are issued from.  Everything is read off one inversion of the
dispatch (`Service.of_issue`).
-/

namespace Vc.Apigw.Issuance

open Cache Checks Concurrent Openid4vci List ProofJWTToken ProofAttestation IssuedCredential Option

variable {Key : Type} {service : Service Key} {registry : Registry} {session : Session}
  {req : CredentialRequest} {jwks : List Jwk} {nonce scope format identifier : String}
  {document : CompleteDocument} {issued : Issued} {credential : IssuedCredential}

/-! ## One credential -/

/-- The `id` of the subject: the given DID, or what the document says. -/
def subjectID (did : String) (data : Members) : Option String :=
  if did ≠ "" then some did
  else
    match data.lookup "id" with
    | some (.str id) => some id
    | _ => none

variable {jwk : Jwk × Nat}

theorem Service.makeSDJWT_eq_ok
    (made : service.makeSDJWT registry scope document jwk = .ok credential) :
    ∃ entry, registry.addStatus jwk.2 = .ok entry ∧ credential = {
      family := .sdJWT, scope, document, holderKey := some jwk.1, allocated := some entry
      status := if entry.uri ≠ "" then some (entry.uri, entry.index) else none } := by
  simp only [makeSDJWT, bind_eq_ok_iff] at made
  obtain ⟨entry, added, _, _, same⟩ := made
  cases same
  exact ⟨entry, added, rfl⟩

theorem Service.makeMDoc_eq_ok
    (made : service.makeMDoc registry scope document jwk = .ok credential) :
    credential = { family := .mdoc, scope, document, holderKey := some jwk.1,
                   allocated := (registry.addStatus jwk.2).toOption } := by
  simp only [makeMDoc, bind_eq_ok_iff] at made
  obtain ⟨_, _, _, _, same⟩ := made
  cases same
  rfl

theorem Service.makeVC20_eq_ok {did : String × Nat}
    (made : service.makeVC20 registry scope document did = .ok credential) :
    credential = { family := .w3c, scope, document,
                   subject := subjectID did.1 (document.documentData.getD []),
                   allocated := (registry.addStatus did.2).toOption } := by
  simp only [makeVC20, bind_eq_ok_iff] at made
  obtain ⟨_, _, same⟩ := made
  cases same
  rfl

/-! ## The dispatch -/

/-- How the credentials of each family are made, one for each key or subject. -/
def Service.Makes (service : Service Key) (registry : Registry) (req : CredentialRequest)
    (scope : String) (document : CompleteDocument) (jwks : List Jwk)
    (credentials : List IssuedCredential) : Family → Prop
  | .mdoc => Forall₂ (fun jwk credential =>
      service.makeMDoc registry scope document jwk = .ok credential) jwks.zipIdx credentials
  | .sdJWT => Forall₂ (fun jwk credential =>
      service.makeSDJWT registry scope document jwk = .ok credential) jwks.zipIdx credentials
  | .w3c => req.proofType = .jwt ∧ Forall₂ (fun did credential =>
      service.makeVC20 registry scope document did = .ok credential)
        req.subjectDIDs.zipIdx credentials
  | .jwp => credentials = [{ family := .jwp, scope, document }]

theorem Service.of_issue
    (done : service.issue registry req scope format document jwks identifier = .ok issued) :
    ∃ kind, family format = some kind ∧ issued.credentials ≠ [] ∧
      service.Makes registry req scope document jwks issued.credentials kind ∧
      (kind ≠ .jwp →
        saveCredentialSubjects registry identifier issued.credentials = .ok issued.records) := by
  unfold issue at done
  cases kind : family format with
  | none => simp [kind, bind_eq_ok_iff] at done
  | some kind' =>
    refine ⟨kind', rfl, ?_⟩
    cases kind' with
    | jwp =>
      simp only [kind, bind_eq_ok_iff, if_true] at done
      obtain ⟨_, made, _, nonempty, _, _, same⟩ := done
      cases same
      cases made
      exact ⟨require_eq_ok_iff.mp nonempty, rfl, fun other => absurd rfl other⟩
    | w3c =>
      simp only [kind, bind_eq_ok_iff, require_eq_ok_iff, reduceCtorEq, some.injEq,
        if_false] at done
      obtain ⟨_, types, _, made, _, nonempty, _, saved, same⟩ := done
      cases same
      exact ⟨nonempty, ⟨types.1, mapM_eq_ok_iff.mp made⟩, fun _ => saved⟩
    | _ =>
      simp only [kind, bind_eq_ok_iff, require_eq_ok_iff, reduceCtorEq, some.injEq,
        if_false] at done
      obtain ⟨_, made, _, nonempty, _, saved, same⟩ := done
      cases same
      exact ⟨nonempty, mapM_eq_ok_iff.mp made, fun _ => saved⟩

/-- The request is for this family, and the derivations yield these data. -/
def Selects (service : Service Key) (session : Session) (req : CredentialRequest) (kind : Family)
    (data : Members) : Prop :=
  ∃ scope id format document, service.selectScope req session = .ok (scope, id, format) ∧
    family format = some kind ∧ service.document session scope = .ok document ∧
    service.derive scope session.authContext req document = .ok data

theorem Selects.unique {kind other : Family} {data data' : Members}
    (selects : Selects service session req kind data)
    (also : Selects service session req other data') : kind = other ∧ data = data' := by
  obtain ⟨scope, id, format, document, selected, isKind, loaded, derived⟩ := selects
  obtain ⟨_, _, _, _, selected', isOther, loaded', derived'⟩ := also
  cases selected.symm.trans selected'
  cases loaded.symm.trans loaded'
  exact ⟨some.inj (isKind.symm.trans isOther), Except.ok.inj (derived.symm.trans derived')⟩

/-- A request that succeeds: what its credentials were made from. -/
theorem Grants.makes
    (grants : Grants service registry session req nonce issued scope format document jwks) :
    ∃ kind data, family format = some kind ∧ Selects service session req kind data ∧
      issued.credentials ≠ [] ∧
      service.Makes registry req scope { document with documentData := some data } jwks
        issued.credentials kind ∧
      (kind ≠ .jwp → saveCredentialSubjects registry session.authContext.identifier
        issued.credentials = .ok issued.records) := by
  obtain ⟨_, ⟨id, selected⟩, loaded, _, _⟩ := service.prepare_eq_ok_iff.mp grants.prepared
  have done := grants.completed
  simp only [Service.complete, Service.requireIdentifier, bind_eq_ok_iff] at done
  obtain ⟨_, ⟨_, _, same⟩, data, derived, done⟩ := done
  cases same
  obtain ⟨kind, isKind, nonempty, makes, saved⟩ := service.of_issue done
  exact ⟨kind, data, isKind, ⟨scope, id, format, document, selected, isKind, loaded, derived⟩,
    nonempty, makes, saved⟩

theorem forall₂_of_zipIdx {α β : Type} {related : α → β → Prop} {items : List α} {results : List β}
    (each : Forall₂ (fun item result => related item.1 result) items.zipIdx results) :
    Forall₂ related items results := by
  have mapped : Forall₂ related (items.zipIdx.map Prod.fst) results :=
    forall₂_map_left_iff.mpr each
  rwa [zipIdx_map_fst] at mapped

variable {credentials : List IssuedCredential} {kind : Family}

/-- The credentials are what was asked for, and only SD-JWTs refer to an entry. -/
theorem Service.Makes.content
    (makes : service.Makes registry req scope document jwks credentials kind)
    (member : credential ∈ credentials) :
    credential.family = kind ∧ credential.scope = scope ∧ credential.document = document ∧
      (kind ≠ .sdJWT → credential.status = none) := by
  cases kind with
  | jwp =>
    cases mem_singleton.mp (makes ▸ member)
    exact ⟨rfl, rfl, rfl, fun _ => rfl⟩
  | w3c =>
    obtain ⟨_, _, made⟩ := exists_left_of_mem makes.2 member
    rw [service.makeVC20_eq_ok made]
    exact ⟨rfl, rfl, rfl, fun _ => rfl⟩
  | mdoc =>
    obtain ⟨_, _, made⟩ := exists_left_of_mem makes member
    rw [service.makeMDoc_eq_ok made]
    exact ⟨rfl, rfl, rfl, fun _ => rfl⟩
  | sdJWT =>
    obtain ⟨_, _, made⟩ := exists_left_of_mem makes member
    obtain ⟨_, _, rfl⟩ := service.makeSDJWT_eq_ok made
    exact ⟨rfl, rfl, rfl, fun other => absurd rfl other⟩

/-! ## Keys and subjects -/

theorem Service.Makes.holderKeys
    (makes : service.Makes registry req scope document jwks credentials kind)
    (keyed : kind = .sdJWT ∨ kind = .mdoc) :
    Forall₂ (fun jwk credential => credential.holderKey = some jwk ∧
      credential.subject = none) jwks credentials := by
  apply forall₂_of_zipIdx
  rcases keyed with rfl | rfl
  · refine Forall₂.imp (fun jwk credential made => ?_) makes
    obtain ⟨_, _, rfl⟩ := service.makeSDJWT_eq_ok made
    exact ⟨rfl, rfl⟩
  · refine Forall₂.imp (fun jwk credential made => ?_) makes
    rw [service.makeMDoc_eq_ok made]
    exact ⟨rfl, rfl⟩

theorem Service.Makes.subjects
    (makes : service.Makes registry req scope document jwks credentials .w3c) :
    Forall₂ (fun did credential => credential.holderKey = none ∧
      credential.subject = subjectID did (document.documentData.getD []))
        req.subjectDIDs credentials := by
  apply forall₂_of_zipIdx
  refine Forall₂.imp (fun did credential made => ?_) makes.2
  rw [service.makeVC20_eq_ok made]
  exact ⟨rfl, rfl⟩

/-- Every signature was made by one key, the only one that it verifies with. -/
def Unforgeable (keys : KeyLibrary Key) (signer : JWT → Option Key) : Prop :=
  ∀ key proof, keys.verifySignature key proof = true → signer proof = some key

/-- The key has signed the identifier of this issuer and the nonce. -/
structure SignedFor (service : Service Key) (signer : JWT → Option Key) (nonce : String)
    (proof : JWT) (key : Key) : Prop where
  signed : signer proof = some key
  addressed : .str service.credentialIssuer ∈ audience proof.claims
  carries : proof.nonce = some nonce

/-- The attestation lists this key. -/
def Lists (proof : JWT) (jwk : Jwk) : Prop :=
  ∃ keys, proof.claims.lookup "attested_keys" = some (.arr keys) ∧
    ∃ key ∈ keys, Jwk.unmarshal key = .ok jwk

/-- The key has signed a proof of the request, or is listed in a signed attestation. -/
def Proven (service : Service Key) (signer : JWT → Option Key) (req : CredentialRequest)
    (nonce : String) (jwk : Jwk) : Prop :=
  (∃ proof ∈ req.jwtProofs, ∃ key, service.keys.publicKey jwk = .ok key ∧
    SignedFor service signer nonce proof key) ∨
  ∃ proof ∈ req.attestations, Lists proof jwk ∧ ∃ key, SignedFor service signer nonce proof key

/-- The holder key of a credential is proven, and its subject belongs to a proven key. -/
structure BoundToProvenKeys (service : Service Key) (signer : JWT → Option Key)
    (belongs : String → Key → Prop) (req : CredentialRequest) (nonce : String)
    (credential : IssuedCredential) : Prop where
  holder : ∀ jwk, credential.holderKey = some jwk → Proven service signer req nonce jwk
  subject : ∀ id, credential.subject = some id → ∃ jwk key,
    Proven service signer req nonce jwk ∧ service.keys.publicKey jwk = .ok key ∧ belongs id key

/-- What the checks leave open: a W3C subject has to belong to the key in the header of a proof,
and an attested key to be listed in an attestation that is addressed to this issuer. -/
structure Accountable (service : Service Key) (belongs : String → Key → Prop)
    (session : Session) (req : CredentialRequest) : Prop where
  subjects : ∀ data, Selects service session req .w3c data → ∀ did ∈ req.subjectDIDs, ∀ subject,
    subjectID did data = some subject → ∃ proof ∈ req.jwtProofs, ∃ jwk key,
      extractJWK proof = .ok jwk ∧ service.keys.publicKey jwk = .ok key ∧
      belongs subject key
  attested : ∀ data, Selects service session req .sdJWT data ∨ Selects service session req .mdoc
      data → ∀ first rest, req.attestations = first :: rest → ∀ jwk, Lists first jwk →
    ∃ proof ∈ req.attestations, Lists proof jwk ∧
      .str service.credentialIssuer ∈ audience proof.claims

variable {signer : JWT → Option Key} {belongs : String → Key → Prop}

/-- Every JWT proof is signed by the key in its header. -/
theorem Verified.signed (verified : Verified service req nonce jwks) (named : nonce ≠ "")
    (unforgeable : Unforgeable service.keys signer) {proof : JWT}
    (member : proof ∈ req.jwtProofs) :
    ∃ jwk ∈ jwks, ∃ key, extractJWK proof = .ok jwk ∧
      service.keys.publicKey jwk = .ok key ∧ SignedFor service signer nonce proof key := by
  cases verified with
  | attestation _ _ _ _ others => simp [others.1] at member
  | jwt _ _ _ each =>
    obtain ⟨jwk, isKey, extracted, checked⟩ := exists_right_of_mem each member
    obtain ⟨key, found, signed, addressed, carries⟩ := service.of_verifyJWT checked named
    exact ⟨jwk, isKey, key, extracted, found, unforgeable _ _ signed, addressed, carries⟩

theorem lists_iff_of_extractAllJWKs {proof : JWT} {maxLength : Nat} {jwk : Jwk}
    (extracted : extractAllJWKs maxLength proof = .ok jwks) :
    Lists proof jwk ↔ jwk ∈ jwks := by
  unfold extractAllJWKs at extracted
  split at extracted
  · next keys found =>
    obtain ⟨_, _, each⟩ := bind_eq_ok_iff.mp extracted
    have pairs := mapM_eq_ok_iff.mp each
    constructor
    · rintro ⟨keys', found', key, member, read⟩
      cases found.symm.trans found'
      obtain ⟨_, isKey, readAlso⟩ := exists_right_of_mem pairs member
      cases read.symm.trans readAlso
      exact isKey
    · intro member
      obtain ⟨key, isKey, read⟩ := exists_left_of_mem pairs member
      exact ⟨keys, found, key, isKey, read⟩
  · cases extracted

section

variable (grants : Grants service registry session req nonce issued scope format document jwks)

include grants

theorem Grants.boundToProvenKeys (unforgeable : Unforgeable service.keys signer)
    (accountable : Accountable service belongs session req)
    (member : credential ∈ issued.credentials) :
    BoundToProvenKeys service signer belongs req nonce credential := by
  obtain ⟨kind, data, _, selects, _, makes, _⟩ := grants.makes
  have verified := grants.verifiedProofs
  have keyed (isKeyed : kind = .sdJWT ∨ kind = .mdoc) :
      BoundToProvenKeys service signer belongs req nonce credential := by
    obtain ⟨jwk, isKey, holds, subjectless⟩ := exists_left_of_mem (makes.holderKeys isKeyed) member
    refine ⟨fun jwk' holder => ?_, fun id subject => ?_⟩
    · cases holds.symm.trans holder
      cases verified with
      | jwt _ _ _ each =>
        obtain ⟨proof, isProof, _, checked⟩ := exists_left_of_mem each isKey
        obtain ⟨key, found, signed, addressed, carries⟩ :=
          service.of_verifyJWT checked grants.nonempty
        exact .inl ⟨proof, isProof, key, found, unforgeable _ _ signed, addressed, carries⟩
      | attestation first rest _ all _ keys each =>
        have selected := isKeyed.imp (fun isSD => isSD ▸ selects) (fun isMDoc => isMDoc ▸ selects)
        obtain ⟨proof, isProof, lists, addressed⟩ := accountable.attested data selected first rest
          all jwk ((lists_iff_of_extractAllJWKs keys).mpr isKey)
        obtain ⟨carries, _, key, _, _, signed⟩ :=
          of_verifyAttestation (each proof isProof) grants.nonempty
        exact .inr ⟨proof, isProof, lists, key, unforgeable _ _ signed, addressed, carries⟩
    · cases subjectless.symm.trans subject
  cases kind with
  | sdJWT => exact keyed (.inl rfl)
  | mdoc => exact keyed (.inr rfl)
  | jwp =>
    rw [makes, mem_singleton] at member
    subst member
    exact ⟨nofun, nofun⟩
  | w3c =>
    obtain ⟨did, given, keyless, subject⟩ := exists_left_of_mem makes.subjects member
    refine ⟨fun jwk holder => ?_, fun id isID => ?_⟩
    · cases keyless.symm.trans holder
    · obtain ⟨proof, isProof, jwk, key, extracted, found, owned⟩ :=
        accountable.subjects data selects did given id (subject.symm.trans isID)
      obtain ⟨jwk', _, key', extracted', found', signed⟩ :=
        verified.signed grants.nonempty unforgeable isProof
      cases extracted.symm.trans extracted'
      cases found.symm.trans found'
      exact ⟨jwk, key, .inl ⟨proof, isProof, key, found, signed⟩, found, owned⟩

theorem Grants.accountable (unforgeable : Unforgeable service.keys signer)
    (bound : ∀ credential ∈ issued.credentials,
      BoundToProvenKeys service signer belongs req nonce credential) :
    Accountable service belongs session req := by
  obtain ⟨kind, data, _, selects, _, makes, _⟩ := grants.makes
  have verified := grants.verifiedProofs
  refine ⟨fun data' isW3C did given id isID => ?_, fun data' isKeyed first rest all jwk lists => ?_⟩
  · obtain ⟨rfl, rfl⟩ := selects.unique isW3C
    obtain ⟨credential, member, _, subject⟩ := exists_right_of_mem makes.subjects given
    obtain ⟨jwk, key, proven, found, owned⟩ := (bound credential member).subject id
      (subject.trans isID)
    rcases proven with ⟨proof, isProof, key', found', signed⟩ | ⟨proof, isProof, _⟩
    · cases found.symm.trans found'
      obtain ⟨own, _, ownKey, extracted, ownFound, ownSigned⟩ :=
        verified.signed grants.nonempty unforgeable isProof
      cases signed.signed.symm.trans ownSigned.signed
      exact ⟨proof, isProof, own, key, extracted, ownFound, owned⟩
    · cases verified with
      | jwt _ _ others => simp [others.1] at isProof
      | attestation _ _ type => cases type.symm.trans makes.1
  · have isKeyed' : kind = .sdJWT ∨ kind = .mdoc :=
      isKeyed.imp (selects.unique · |>.1) (selects.unique · |>.1)
    cases verified with
    | jwt _ _ others => simp [others.1] at all
    | attestation first' rest' _ all' others keys =>
      cases all.symm.trans all'
      obtain ⟨credential, member, holder, _⟩ := exists_right_of_mem (makes.holderKeys isKeyed')
        ((lists_iff_of_extractAllJWKs keys).mp lists)
      rcases (bound _ member).holder jwk holder with
        ⟨proof, isProof, _⟩ | ⟨proof, isProof, listed, _, signed⟩
      · simp [others.1] at isProof
      · exact ⟨proof, isProof, listed, signed.addressed⟩

end

/-- The credentials of a request that succeeds are bound to keys that are proven over this issuer
and the nonce of its proofs, exactly if the subjects and attestations account for it: neither is
compared with the keys. -/
theorem keys_proven_iff {σ : Type} {execute : Executor nonceInterface σ} {state : σ}
    (unforgeable : Unforgeable service.keys signer) (belongs : String → Key → Prop)
    (succeeds : ((service.vciCredential registry session req).run execute state).1 = .ok issued) :
    (∃ nonce, req.Carries nonce ∧ ∀ credential ∈ issued.credentials,
        BoundToProvenKeys service signer belongs req nonce credential) ↔
      Accountable service belongs session req := by
  obtain ⟨nonce, scope, format, document, jwks, grants⟩ := grants_of_run succeeds
  have carries := grants.verifiedProofs.carries grants.nonempty
  constructor
  · rintro ⟨other, also, bound⟩
    cases carries.eq also
    exact grants.accountable unforgeable bound
  · exact fun accountable => ⟨nonce, carries, fun credential member =>
      grants.boundToProvenKeys unforgeable accountable member⟩

theorem sampleService_unforgeable (format : String) :
    Unforgeable (sampleService format).keys fun _ => some "wallet" := by
  intro key proof verified
  simp only [sampleService, Bool.and_eq_true, decide_eq_true_eq] at verified
  rw [verified.1]

/-- The outcome of a request with this `iss` claim. -/
def sampleOutcome (format iss : String) (sectionID : Int) : Except Error Issued :=
  (((sampleService format).vciCredential (sampleRegistry sectionID) sampleSession
    (sampleRequest iss "nonce")).run NonceState.execute ⟨["nonce"], []⟩).1

theorem sampleService_selects (isKind : family format = some kind) (iss : String) :
    Selects (sampleService format) sampleSession (sampleRequest iss "nonce") kind [] :=
  ⟨"pid", "pid", format, ⟨"pid", some []⟩, rfl, isKind, rfl, rfl⟩

/-- A wallet gets a W3C credential about the subject that it names, whatever its key is. -/
theorem subject_not_compared_with_key :
    ∃ issued, sampleOutcome "ldp_vc" "did:other" 1 = .ok issued ∧
      ¬ ∃ nonce, (sampleRequest "did:other" "nonce").Carries nonce ∧
        ∀ credential ∈ issued.credentials,
          BoundToProvenKeys (sampleService "ldp_vc") (fun _ => some "wallet")
            (fun id key => id = "did:" ++ key) (sampleRequest "did:other" "nonce") nonce
            credential := by
  obtain ⟨issued, succeeds⟩ :=
    exists_of_isOk (by decide +kernel : (sampleOutcome "ldp_vc" "did:other" 1).isOk = true)
  refine ⟨issued, succeeds, ?_⟩
  rintro ⟨other, also, bound⟩
  obtain ⟨nonce, scope, format, document, jwks, grants⟩ := grants_of_run succeeds
  cases (grants.verifiedProofs.carries grants.nonempty).eq also
  have accountable := grants.accountable (sampleService_unforgeable _) bound
  obtain ⟨proof, isProof, jwk, key, extracted, found, owned⟩ := accountable.subjects []
    (sampleService_selects rfl "did:other") "did:other" mem_cons_self "did:other" rfl
  cases mem_singleton.mp isProof
  have own : extractJWK (sampleProof "did:other" "nonce") =
      .ok { kty := "EC", x := "wallet" } := by decide +kernel
  cases own.symm.trans extracted
  cases found
  exact absurd owned (by decide)

theorem sampleOutcome_eq_ok : ∃ issued, sampleOutcome "dc+sd-jwt" "" 1 = .ok issued :=
  exists_of_isOk (by decide +kernel)

theorem device_key_proven :
    ∃ issued, sampleOutcome "dc+sd-jwt" "" 1 = .ok issued ∧
      ∃ nonce, (sampleRequest "" "nonce").Carries nonce ∧ ∀ credential ∈ issued.credentials,
        BoundToProvenKeys (sampleService "dc+sd-jwt") (fun _ => some "wallet")
          (fun id key => id = "did:" ++ key) (sampleRequest "" "nonce") nonce credential := by
  obtain ⟨issued, succeeds⟩ := sampleOutcome_eq_ok
  refine ⟨issued, succeeds, (keys_proven_iff (sampleService_unforgeable _) _ succeeds).mpr ⟨?_, ?_⟩⟩
  · intro data isW3C
    cases (isW3C.unique (sampleService_selects rfl "")).1
  · intro data isKeyed first rest all
    cases all

/-! ## Status entries -/

/-- Every call allocates an entry, and none is allocated twice. -/
structure Registry.Allocates (registry : Registry) : Prop where
  allocates : ∀ call, ∃ entry, registry.addStatus call = .ok entry ∧ entry.uri ≠ ""
  distinct : ∀ {first second entry other}, registry.addStatus first = .ok entry →
    registry.addStatus second = .ok other → entry.uri = other.uri → entry.index = other.index →
    first = second

/-- The credentials refer to entries of their own, which are recorded for the subject. -/
structure Revocable (identifier : String) (issued : Issued) : Prop where
  referenced : ∀ credential ∈ issued.credentials, ∃ entry, credential.allocated = some entry ∧
    credential.status = some (entry.uri, entry.index)
  unshared : (issued.credentials.map (·.status)).Nodup
  recorded : identifier ≠ "" → ∀ credential ∈ issued.credentials,
    credential.record identifier ∈ issued.records

theorem mem_records_iff {records : List SubjectRecord}
    (saved : saveCredentialSubjects registry identifier credentials = .ok records)
    (named : identifier ≠ "") {record : SubjectRecord} :
    record ∈ records ↔
      (∃ credential ∈ credentials, credential.record identifier = record) ∧
        0 < record.sectionID := by
  rw [saveCredentialSubjects, if_neg named] at saved
  have each : Forall₂ Eq _ records :=
    (mapM_eq_ok_iff.mp saved).imp fun _ _ done => by
      obtain ⟨_, _, same⟩ := bind_eq_ok_iff.mp done
      exact Except.ok.inj same
  rw [forall₂_eq_eq_eq] at each
  simp [← each]

theorem nodup_map_of_forall₂ {α β γ δ : Type} {related : α → β → Prop} {f : β → γ} {g : α → δ}
    {items : List α} {results : List β} (each : Forall₂ related items results)
    (nodup : (items.map g).Nodup)
    (injective : ∀ {x y x' y'}, related x y → related x' y' → f y = f y' → g x = g x') :
    (results.map f).Nodup := by
  induction each with
  | nil => exact .nil
  | cons here later ih =>
    rw [map_cons, nodup_cons] at nodup ⊢
    refine ⟨fun member => ?_, ih nodup.2⟩
    obtain ⟨result, isResult, same⟩ := mem_map.mp member
    obtain ⟨item, isItem, there⟩ := exists_left_of_mem later isResult
    exact nodup.1 (mem_map.mpr ⟨item, isItem, injective there here same⟩)

/-- An SD-JWT refers to the entry that was allocated for it. -/
theorem Registry.Allocates.sdJWT (allocates : registry.Allocates)
    (made : service.makeSDJWT registry scope document jwk = .ok credential) :
    ∃ entry, registry.addStatus jwk.2 = .ok entry ∧ credential.allocated = some entry ∧
      credential.status = some (entry.uri, entry.index) := by
  obtain ⟨entry, added, rfl⟩ := service.makeSDJWT_eq_ok made
  obtain ⟨_, again, listed⟩ := allocates.allocates jwk.2
  cases added.symm.trans again
  exact ⟨entry, added, rfl, if_pos listed⟩

/-- Credentials can be revoked exactly if they are SD-JWTs and, where they are recorded, no entry
is in section zero. -/
theorem revocable_iff {σ : Type} {execute : Executor nonceInterface σ} {state : σ}
    (allocates : registry.Allocates)
    (succeeds : ((service.vciCredential registry session req).run execute state).1 = .ok issued)
    (known : ∀ data, ¬Selects service session req .jwp data) :
    Revocable session.authContext.identifier issued ↔
      (∃ data, Selects service session req .sdJWT data) ∧
        (session.authContext.identifier = "" ∨ ∀ jwks, service.extractJWKs req = .ok jwks →
          ∀ call < jwks.length, ∀ entry, registry.addStatus call = .ok entry →
            0 < entry.sectionID) := by
  obtain ⟨nonce, scope, format, document, jwks, grants⟩ := grants_of_run succeeds
  obtain ⟨kind, data, _, selects, nonempty, makes, saved⟩ := grants.makes
  obtain ⟨_, _, _, keys, _⟩ := service.prepare_eq_ok_iff.mp grants.prepared
  cases kind with
  | jwp => exact absurd selects (known _)
  | sdJWT =>
    constructor
    · intro revocable
      refine ⟨⟨data, selects⟩, or_iff_not_imp_left.mpr fun named jwks' again call inside entry
        added => ?_⟩
      cases keys.symm.trans again
      have member : (jwks[call], call) ∈ jwks.zipIdx :=
        mem_zipIdx_iff_getElem?.mpr (getElem?_eq_getElem inside)
      obtain ⟨credential, isCredential, made⟩ := exists_right_of_mem makes member
      obtain ⟨_, found, allocated, _⟩ := allocates.sdJWT made
      cases added.symm.trans found
      have recorded := revocable.recorded named credential isCredential
      simpa [record, allocated] using ((mem_records_iff (saved (by decide)) named).mp recorded).2
    · rintro ⟨_, positive⟩
      refine ⟨fun credential member => ?_, ?_, fun named credential member => ?_⟩
      · obtain ⟨_, _, made⟩ := exists_left_of_mem makes member
        obtain ⟨entry, _, allocated, status⟩ := allocates.sdJWT made
        exact ⟨entry, allocated, status⟩
      · have indices : (jwks.zipIdx.map Prod.snd).Nodup := by
          rw [zipIdx_map_snd]
          exact nodup_range'
        refine nodup_map_of_forall₂ makes indices fun made made' same => ?_
        obtain ⟨entry, added, _, status⟩ := allocates.sdJWT made
        obtain ⟨entry', added', _, status'⟩ := allocates.sdJWT made'
        rw [status, status', some.injEq, Prod.mk.injEq] at same
        exact allocates.distinct added added' same.1 same.2
      · obtain ⟨⟨jwk, call⟩, isKey, made⟩ := exists_left_of_mem makes member
        obtain ⟨entry, added, allocated, _⟩ := allocates.sdJWT made
        refine (mem_records_iff (saved (by decide)) named).mpr ⟨⟨credential, member, rfl⟩, ?_⟩
        have inside := (mem_zipIdx' isKey).1
        simpa [record, allocated] using positive.resolve_left named _ keys _ inside _ added
  | _ =>
    refine iff_of_false (fun revocable => ?_) fun holds => ?_
    · obtain ⟨credential, member⟩ := exists_mem_of_ne_nil _ nonempty
      obtain ⟨_, _, status⟩ := revocable.referenced credential member
      cases ((makes.content member).2.2.2 (by decide)).symm.trans status
    · cases (holds.1.choose_spec.unique selects).1

theorem sampleRegistry_allocates (sectionID : Int) : (sampleRegistry sectionID).Allocates where
  allocates _ := ⟨_, rfl, by simp⟩
  distinct added also _ index := by
    cases added
    cases also
    exact Int.ofNat.inj index

/-- A credential in the first entry of this section. -/
def sampleCredential (kind : Family) (sectionID : Int) : IssuedCredential where
  family := kind
  scope := "pid"
  document := ⟨"pid", some []⟩
  holderKey := some { kty := "EC", x := "wallet" }
  allocated := some ⟨sectionID, 0, "https://list"⟩

/-- The entry of an mdoc is not part of it, and one in section zero is not recorded. -/
theorem mdoc_without_status :
    (∃ issued, sampleOutcome "mso_mdoc" "" 1 = .ok issued ∧ ¬Revocable "subject" issued) ∧
      ∃ issued, sampleOutcome "dc+sd-jwt" "" 0 = .ok issued ∧ ¬Revocable "subject" issued := by
  refine ⟨⟨⟨[sampleCredential .mdoc 1], [⟨"subject", 1, 0⟩]⟩, by decide +kernel,
      fun revocable => ?_⟩,
    ⟨[{ sampleCredential .sdJWT 0 with status := some ("https://list", 0) }], []⟩,
    by decide +kernel, fun revocable => ?_⟩
  · obtain ⟨_, _, status⟩ := revocable.referenced _ mem_cons_self
    cases status
  · cases revocable.recorded (by decide) _ mem_cons_self

theorem sd_jwt_revocable :
    ∃ issued, sampleOutcome "dc+sd-jwt" "" 1 = .ok issued ∧ Revocable "subject" issued := by
  obtain ⟨issued, succeeds⟩ := sampleOutcome_eq_ok
  have selects := sampleService_selects (rfl : family "dc+sd-jwt" = some .sdJWT) ""
  refine ⟨issued, succeeds, (revocable_iff (sampleRegistry_allocates 1) succeeds fun data isJWP =>
    ?_).mpr ⟨⟨[], selects⟩, .inr fun _ _ _ _ _ added => ?_⟩⟩
  · cases (isJWP.unique selects).1
  · cases added
    exact Int.one_pos

/-! ## Scope and document -/

/-- The configuration that the request names, itself or by an identifier that was granted. -/
def CredentialRequest.names (req : CredentialRequest) (details : List AuthorizationDetails) :
    String :=
  if req.credentialConfigurationID ≠ "" then req.credentialConfigurationID
  else
    ((details.find? fun detail => req.credentialIdentifier ∈ detail.credentialIdentifiers).map
      (·.credentialConfigurationID)).getD ""

/-- The credential is of the scope that was selected and authorised, and so are its format and
its document, in whatever order the cached documents are met. -/
structure IssuedAsSelected (service : Service Key) (session : Session) (req : CredentialRequest)
    (credential : IssuedCredential) : Prop where
  authorised : credential.scope ∈ session.authContext.scopes
  named : req.names session.authorizationDetails ≠ "" →
    credential.scope = req.names session.authorizationDetails
  configured : ∃ format, service.credentialMetadata credential.scope = some format ∧
    family format = some credential.family
  loaded : ∃ document data, document.loadedFor = credential.scope ∧
    (∀ documents : List (String × CompleteDocument), documents.Perm session.documents →
      service.document { session with documents } credential.scope = .ok document) ∧
    service.derive credential.scope session.authContext req document = .ok data ∧
    credential.document = { document with documentData := some data }

/-- The data come from the presentation, or all cached documents are one that was loaded for the
scope. -/
def Pinned (service : Service Key) (session : Session) (req : CredentialRequest) : Prop :=
  ∀ scope id format, service.selectScope req session = .ok (scope, id, format) →
    scope ∈ service.presentationScopes ∧ session.authContext.dataSource = "presentation" ∨
      ∃ document : CompleteDocument, document.loadedFor = scope ∧
        ∀ entry ∈ session.documents, entry.2 = document

theorem Service.of_resolveCredentialSelection {details : List AuthorizationDetails} {id : String}
    (resolved : service.resolveCredentialSelection req details = .ok (id, format)) :
    id = req.names details ∧ (id ≠ "" → service.credentialMetadata id = some format) := by
  have of_configured {key : String} {error : Error}
      (found : ((service.credentialMetadata key).map fun format =>
        (.ok (key, format) : Except Error _)).getD (.error error) = .ok (id, format)) :
      id = key ∧ (id ≠ "" → service.credentialMetadata id = some format) := by
    cases known : service.credentialMetadata key with
    | none => simp [known] at found
    | some configured =>
      rw [known] at found
      cases found
      exact ⟨rfl, fun _ => known⟩
  unfold resolveCredentialSelection at resolved
  unfold CredentialRequest.names
  split_ifs at resolved ⊢ with direct
  · exact of_configured resolved
  · cases search : details.find? fun detail =>
        req.credentialIdentifier ∈ detail.credentialIdentifiers with
    | none => simp [search] at resolved
    | some detail =>
      simp only [search] at resolved
      split_ifs at resolved with format
      · cases resolved
        exact ⟨format.1.symm, fun named => absurd rfl named⟩
      · exact of_configured resolved

theorem family_of_sameCredentialFormat {configured : String}
    (same : sameCredentialFormat configured format = true) (isKind : family format = some kind) :
    family configured = some kind := by
  simp only [sameCredentialFormat, Bool.and_eq_true, Bool.or_eq_true, decide_eq_true_eq] at same
  rcases same.2 with rfl | ⟨_, equal⟩
  · exact isKind
  · exact equal.trans isKind

theorem Service.of_selectScope {id : String}
    (selected : service.selectScope req session = .ok (scope, id, format))
    (isKind : family format = some kind) :
    scope ∈ session.authContext.scopes ∧
      (req.names session.authorizationDetails ≠ "" →
        scope = req.names session.authorizationDetails) ∧
      ∃ configured, service.credentialMetadata scope = some configured ∧
        family configured = some kind := by
  unfold selectScope at selected
  cases first : session.authContext.scopes.find? fun scope =>
      (service.credentialMetadata scope).isSome with
  | none => simp [first] at selected
  | some first' =>
    simp only [first, bind_eq_ok_iff] at selected
    obtain ⟨⟨named, format'⟩, resolved, selected⟩ := selected
    obtain ⟨rfl, configured⟩ := service.of_resolveCredentialSelection resolved
    split_ifs at selected with unnamed isFirst
    · split at selected
      · next only =>
        cases selected
        have member := mem_filter.mp (only ▸ mem_singleton_self scope)
        refine ⟨member.1, fun named => absurd unnamed named, ?_⟩
        cases known : service.credentialMetadata scope with
        | none => simp [known] at member
        | some configured =>
          have same : sameCredentialFormat configured format' = true := by
            simpa [known] using member.2
          exact ⟨configured, rfl, family_of_sameCredentialFormat same isKind⟩
      · cases selected
    · cases selected
      exact ⟨mem_of_find?_eq_some first, fun _ => isFirst.symm, format',
        isFirst ▸ configured unnamed, isKind⟩
    · simp only [bind_eq_ok_iff, require_eq_ok_iff] at selected
      obtain ⟨_, authorised, _, _, same⟩ := selected
      cases same
      exact ⟨authorised, fun _ => rfl, _, configured unnamed, isKind⟩

/-- Past the presentation, the document is the first one. -/
theorem Service.document_eq_ok (cached : ¬(scope ∈ service.presentationScopes ∧
      session.authContext.dataSource = "presentation"))
    {documents : List (String × CompleteDocument)} :
    service.document { session with documents } scope = .ok document ↔
      session.authContext.authProvider ∈ ["openid4vp", "saml", "oidc", "datastore"] ∧
      (∃ entry, documents.head? = some entry ∧ entry.2 = document) ∧
      document.documentData.isSome := by
  unfold Service.document
  rw [if_neg cached]
  cases documents with
  | nil => simp
  | cons entry rest =>
    simp only [bind_eq_ok_iff, require_eq_ok_iff, head?_cons, some.injEq,
      exists_and_left, exists_eq_left']
    constructor
    · rintro ⟨provider, given, _, _, same⟩
      cases same
      exact ⟨provider, rfl, given⟩
    · rintro ⟨provider, rfl, given⟩
      exact ⟨provider, given, (), (), rfl⟩

/-- The scope and the format are always the ones that were selected; the document is, exactly if
the cache holds no other. -/
theorem issued_as_selected_iff {σ : Type} {execute : Executor nonceInterface σ} {state : σ}
    (succeeds : ((service.vciCredential registry session req).run execute state).1 = .ok issued) :
    (∀ credential ∈ issued.credentials, IssuedAsSelected service session req credential) ↔
      Pinned service session req := by
  obtain ⟨nonce, scope, format, document, jwks, grants⟩ := grants_of_run succeeds
  obtain ⟨kind, data, isKind, selects, nonempty, makes, _⟩ := grants.makes
  obtain ⟨_, ⟨id, selected⟩, loaded, _⟩ := service.prepare_eq_ok_iff.mp grants.prepared
  obtain ⟨_, _, _, _, selected', _, loaded', derived⟩ := selects
  cases selected.symm.trans selected'
  cases loaded.symm.trans loaded'
  constructor
  · intro each scope' id' format' again
    cases selected.symm.trans again
    refine or_iff_not_imp_left.mpr fun cached => ?_
    obtain ⟨credential, member⟩ := exists_mem_of_ne_nil _ nonempty
    obtain ⟨_, sameScope, _⟩ := makes.content member
    obtain ⟨own, _, loadedFor, stable, _⟩ := (each credential member).loaded
    rw [sameScope] at loadedFor stable
    refine ⟨own, loadedFor, fun entry isEntry => ?_⟩
    -- an order in which this entry comes first
    obtain ⟨before, after, split⟩ := append_of_mem isEntry
    have first := stable (entry :: (before ++ after)) (by rw [split]; exact perm_middle.symm)
    obtain ⟨_, head, same⟩ := ((service.document_eq_ok cached).mp first).2.1
    cases head
    exact same
  · intro pinned credential member
    obtain ⟨rfl, rfl, content, _⟩ := makes.content member
    obtain ⟨authorised, named, configured⟩ := service.of_selectScope selected isKind
    have pinnedDocument : document.loadedFor = credential.scope ∧
        ∀ documents : List (String × CompleteDocument), documents.Perm session.documents →
          service.document { session with documents } credential.scope = .ok document := by
      by_cases presented : credential.scope ∈ service.presentationScopes ∧
          session.authContext.dataSource = "presentation"
      · simp only [Service.document, if_pos presented] at loaded ⊢
        obtain ⟨_, _, same⟩ := bind_eq_ok_iff.mp loaded
        cases same
        exact ⟨rfl, fun _ _ => loaded⟩
      · have first : service.document { session with documents := session.documents }
            credential.scope = .ok document := loaded
        obtain ⟨provider, ⟨entry, head, rfl⟩, given⟩ := (service.document_eq_ok presented).mp first
        obtain ⟨own, loadedFor, all⟩ := (pinned _ _ _ selected).resolve_left presented
        cases all entry (mem_of_mem_head? head)
        refine ⟨loadedFor, fun documents reordered => ?_⟩
        refine (service.document_eq_ok presented).mpr ⟨provider, ?_, given⟩
        cases documents with
        | nil =>
          rw [← reordered.nil_eq] at head
          cases head
        | cons first rest =>
          exact ⟨first, rfl, all first (reordered.mem_iff.mp mem_cons_self)⟩
    exact ⟨authorised, named, configured, document, data, pinnedDocument.1, pinnedDocument.2,
      derived, content⟩

/-- A session whose cache also holds a document that was loaded for another scope. -/
def mixedSession : Session :=
  { sampleSession with
    documents := ("diploma", ⟨"diploma", some []⟩) :: sampleSession.documents }

/-- The document that is met first is issued, whatever scope it is for. -/
theorem document_of_other_scope :
    ∃ issued, (((sampleService "dc+sd-jwt").vciCredential (sampleRegistry 1) mixedSession
        (sampleRequest "" "nonce")).run NonceState.execute ⟨["nonce"], []⟩).1 = .ok issued ∧
      ∃ credential ∈ issued.credentials, ¬IssuedAsSelected (sampleService "dc+sd-jwt")
        mixedSession (sampleRequest "" "nonce") credential := by
  refine ⟨⟨[{ sampleCredential .sdJWT 1 with
      document := ⟨"diploma", some []⟩, status := some ("https://list", 0) }],
    [⟨"subject", 1, 0⟩]⟩, by decide +kernel, _, mem_cons_self, fun selected => ?_⟩
  obtain ⟨document, _, loadedFor, _, _, same⟩ := selected.loaded
  have other : "diploma" = document.loadedFor := congrArg CompleteDocument.loadedFor same
  exact absurd (other.trans loadedFor) (by decide)

theorem only_document_issued :
    ∃ issued, sampleOutcome "dc+sd-jwt" "" 1 = .ok issued ∧ ∀ credential ∈ issued.credentials,
      IssuedAsSelected (sampleService "dc+sd-jwt") sampleSession (sampleRequest "" "nonce")
        credential := by
  obtain ⟨issued, succeeds⟩ := sampleOutcome_eq_ok
  refine ⟨issued, succeeds, (issued_as_selected_iff succeeds).mpr fun scope id format selected =>
    .inr ⟨⟨"pid", some []⟩, ?_, fun entry member => ?_⟩⟩
  · cases selected
    rfl
  · cases mem_singleton.mp member
    rfl

end Vc.Apigw.Issuance
