import Vc.Verifier.DirectPost

/-!
# Transaction data are authorised by what was presented

A direct post decides in three places what a response commits to: which entries
are bound to a query, which of them a key-binding JWT lists, and whether each
entry was bound to a query that was answered.  Together they give, for every
entry, an accepted SD-JWT credential whose key-binding JWT lists its hash.
-/

namespace Vc.Verifier.DirectPost

open Checks Sdjwtvc Openid4vp List Option

/-! ## Query ids of sessions with transaction data -/

theorem ne_empty_of_constrainedQuery {constraint : MetaQuery} {found id : String}
    {queries : List CredentialQuery}
    (only : constrainedQuery constraint found queries = some id) : id ≠ "" := by
  induction queries generalizing found with
  | nil =>
    rw [constrainedQuery] at only
    split_ifs at only with empty
    exact some.inj only ▸ empty
  | cons query rest ih =>
    rw [constrainedQuery] at only
    split_ifs at only
    · exact ih only
    · exact ih only

variable {scope : String}

theorem ne_empty_of_queryIDForScope {metadata : List (String × Option MetaQuery)}
    {templateScopes : List String} {dcql : DCQL} {id : String}
    (resolved : queryIDForScope metadata templateScopes dcql scope = some id)
    (named : scope ∈ dcql.credentials.map (·.id)) (differs : id ≠ scope) : id ≠ "" := by
  unfold queryIDForScope at resolved
  split at resolved
  · obtain ⟨constraint, _, only⟩ := bind_eq_some_iff.mp resolved
    exact ne_empty_of_constrainedQuery only
  · split_ifs at resolved
    unfold singleQueryID at resolved
    split at resolved
    · next query single =>
        rw [single, map_singleton, mem_singleton] at named
        exact absurd ((some.inj resolved).symm.trans named.symm) differs
    · cases resolved

section Authorised

variable {Key : Type} {client : Client Key} {session : Session}

theorem ne_empty_of_mem_sessionPairs (present : session.transactionData ≠ [])
    {pair : String × String} (member : pair ∈ sessionPairs client session) : pair.2 ≠ "" := by
  obtain ⟨unpaired, ids⟩ := session.issued present
  unfold sessionPairs at member
  rw [unpaired] at member
  split at member
  · next impossible => cases impossible
  · next dcql _ cached =>
      simp only [scopeQueryIDs, resolveScopeQueries] at member
      obtain ⟨member, differs⟩ := mem_filter.mp member
      split at member
      · cases member
      · obtain ⟨scope, inScopes, resolved⟩ :=
          mem_filterMap.mp (mem_of_mem_filter member)
        obtain ⟨id, found, rfl⟩ := map_eq_some_iff.mp resolved
        exact ne_empty_of_queryIDForScope found (ids _ cached ▸ inScopes)
          (of_decide_eq_true differs)
  · cases member

/-- Only the empty scope stands for the empty query id. -/
theorem scope_eq_empty (present : session.transactionData ≠ [])
    (empty : queryIDForScopeIn (sessionPairs client session) scope = "") : scope = "" := by
  rw [queryIDForScopeIn] at empty
  cases paired : (sessionPairs client session).lookup scope with
  | none =>
    rw [paired] at empty
    exact empty
  | some id =>
    rw [paired] at empty
    exact absurd empty (ne_empty_of_mem_sessionPairs present (Entries.mem_of_lookup paired))

/-! ## One accepted token -/

variable {answered : List String} {pairs : List (String × String)}

/-- What the branch of SD-JWT credentials has passed. -/
theorem acceptSDJWT_eq_ok {vpToken : String} {verified : Verified}
    (accepted : acceptSDJWT client session pairs answered scope vpToken = .ok verified) :
    ∃ parsed jti, parseToken client.codec client.fuel vpToken = .ok parsed ∧
      verified.credentials = [parsed.claims] ∧
      verified.jtis = (if jti = "" then [] else [jti]) ∧
      Validated client.jose client.codec
        (tokenValidator client session (queryIDForScopeIn pairs scope)) parsed jti ∧
      checkAnsweredType client session pairs answered scope parsed.claims = .ok () := by
  simp only [acceptSDJWT, bind_eq_ok_iff, mapError_eq_ok_iff, lift_eq_ok_iff] at accepted
  obtain ⟨jti, validated, _, _, parsed, read, _, typed, same⟩ := accepted
  cases same
  obtain ⟨again, readAgain, established⟩ := validate_eq_ok validated
  cases read.symm.trans readAgain
  exact ⟨parsed, jti, read, rfl, rfl, established, typed⟩

/-- The key-binding JWT of an accepted SD-JWT credential lists the entries that are bound to its
query. -/
def Authorises (client : Client Key) (session : Session)
    (decoded : List DecodedTransactionData) (entry : Accepted) : Prop :=
  entry.format = .sdJWT ∧ ∃ parsed, parseToken client.codec client.fuel entry.token = .ok parsed ∧
    entry.credentials = [parsed.claims] ∧ SignedByHolder client.jose parsed ∧
    KeyBindingCommitsTo client.codec parsed (decoded.filter
      (queryIDForScopeIn (sessionPairs client session) entry.scope ∈ ·.credentialIDs))

theorem bound_of_mem_answered {queryID answer : String} {format : CredentialFormat}
    (bound : boundQueries client session queryID format = .ok answered)
    (member : answer ∈ answered) : answer = queryID ∧ format = .sdJWT := by
  rw [boundQueries] at bound
  split_ifs at bound
  · cases bound
    exact absurd member not_mem_nil
  · simp only [boundQueryID, bind_eq_ok_iff, require_eq_ok_iff] at bound
    obtain ⟨raws, _, _, carried, same⟩ := bound
    cases same
    split_ifs at member with none
    · exact absurd member not_mem_nil
    · exact ⟨mem_singleton.mp member, carried.resolve_left none⟩

theorem scope_ne_empty_of_checkAnsweredType {claims : Members}
    (checked : checkAnsweredType client session pairs answered scope claims = .ok ())
    (member : queryIDForScopeIn pairs scope ∈ answered) : scope ≠ "" := by
  rintro rfl
  rw [checkAnsweredType, if_pos member] at checked
  obtain ⟨_, comparable, _⟩ := bind_eq_ok_iff.mp checked
  exact txError_ne_ok comparable

/-- A scope that is answered for some entry authorises all entries of its query. -/
theorem authorises_of_acceptedFrom (present : session.transactionData ≠ [])
    {defaultAllowed : Bool} {response : Response} {before : List String} {entry : Accepted}
    (accepted : AcceptedFrom client session (sessionPairs client session) defaultAllowed response
      before entry)
    (answers : entry.answered ≠ []) {decoded : List DecodedTransactionData}
    (read : decodeTransactionData client.codec session.transactionData = .ok decoded)
    {item : DecodedTransactionData} (member : item ∈ decoded)
    (bound : queryIDForScopeIn (sessionPairs client session) entry.scope ∈ item.credentialIDs) :
    Authorises client session decoded entry := by
  obtain ⟨answer, inAnswered⟩ := exists_mem_of_ne_nil _ answers
  obtain ⟨rfl, format⟩ := bound_of_mem_answered accepted.bound inAnswered
  have verified := accepted.verified
  rw [format] at verified
  obtain ⟨parsed, jti, parse, credentials, _, validated, typed⟩ := acceptSDJWT_eq_ok verified
  refine ⟨format, parsed, parse, credentials, validated.signed, ?_⟩
  have named : queryIDForScopeIn (sessionPairs client session) entry.scope ≠ "" := fun empty =>
    scope_ne_empty_of_checkAnsweredType typed (mem_append_right _ inAnswered)
      (scope_eq_empty present empty)
  -- the validator is scoped to the query of this scope
  have checked : (tokenValidator client session (queryIDForScopeIn (sessionPairs client session)
      entry.scope)).scoped decoded = decoded.filter
        (queryIDForScopeIn (sessionPairs client session) entry.scope ∈ ·.credentialIDs) := by
    rw [tokenValidator, if_neg present, VPTokenValidator.scoped, if_pos named]
  have data : (tokenValidator client session (queryIDForScopeIn (sessionPairs client session)
      entry.scope)).transactionData = session.transactionData := by
    rw [tokenValidator, if_neg present]
  rw [← checked]
  refine keyBindingCommitsTo_of_validateTransactionData
    (validated.transactionData (data ▸ present)) (data ▸ read) ?_
  rw [checked]
  exact ne_nil_of_mem (mem_filter.mpr ⟨member, decide_eq_true bound⟩)

/-! ## The response -/

variable {codec : Openid4vp.Codec}

theorem raw_of_decodeTransactionDataEntry {raw : String} {entry : DecodedTransactionData}
    (decoded : decodeTransactionDataEntry codec raw = .ok entry) : entry.raw = raw := by
  simp only [decodeTransactionDataEntry, bind_eq_ok_iff] at decoded
  obtain ⟨_, _, members, _, built⟩ := decoded
  split_ifs at built
  split at built
  · cases built
    rfl
  · cases built
    rfl
  · split at built
    · cases built
    · cases built
    · cases built
      rfl

theorem raws_of_decodeTransactionDataFrom {index : Nat}
    {raws : List String} {entries : List DecodedTransactionData}
    (decoded : decodeTransactionDataFrom codec index raws = .ok entries) :
    entries.map (·.raw) = raws := by
  induction raws generalizing index entries with
  | nil =>
    cases decoded
    rfl
  | cons raw rest ih =>
    simp only [decodeTransactionDataFrom, bind_eq_ok_iff, wrap_eq_ok_iff] at decoded
    obtain ⟨entry, first, others, later, same⟩ := decoded
    cases same
    rw [map_cons, raw_of_decodeTransactionDataEntry first, ih later]

theorem covered_of_checkCovered (present : session.transactionData ≠ [])
    (covered : checkCovered client session answered = .ok ()) :
    ∃ decoded, decodeTransactionData client.codec session.transactionData = .ok decoded ∧
      ∀ item ∈ decoded, ∃ id ∈ item.credentialIDs, id ∈ answered := by
  rw [checkCovered, if_neg present] at covered
  split at covered
  · next none =>
      obtain ⟨decoded, read, same⟩ := bind_eq_ok_iff.mp none
      refine ⟨decoded, read, fun item member => ?_⟩
      have empty := filter_eq_nil_iff.mp (map_eq_nil_iff.mp (Except.ok.inj same))
      simpa using empty _ member
  · exact absurd covered txError_ne_ok

/-- Every transaction data entry is authorised by an accepted SD-JWT credential of a query that the
entry names, whose key-binding JWT lists the hashes of the entries of that query in their order; and
so does that of every credential that answers such a query. -/
def AllAuthorised (client : Client Key) (session : Session) (entries : List Accepted) : Prop :=
  ∃ decoded, decodeTransactionData client.codec session.transactionData = .ok decoded ∧
    decoded.map (·.raw) = session.transactionData ∧
    (∀ item ∈ decoded, ∃ entry ∈ entries,
      queryIDForScopeIn (sessionPairs client session) entry.scope ∈ item.credentialIDs ∧
      Authorises client session decoded entry) ∧
    ∀ entry ∈ entries, entry.answered ≠ [] → ∀ item ∈ decoded,
      queryIDForScopeIn (sessionPairs client session) entry.scope ∈ item.credentialIDs →
      Authorises client session decoded entry

/-- The transaction data of an accepted response is authorised. -/
theorem transaction_data_authorised (client : Client Key) (session : Session)
    (response : Response) (entries : List Accepted) (present : session.transactionData ≠ [])
    (accepted : verifyResponse client session response = .ok entries) :
    AllAuthorised client session entries := by
  have passed := verifyResponse_eq_ok accepted
  obtain ⟨decoded, read, covers⟩ := covered_of_checkCovered present passed.covered
  have authorises : ∀ entry ∈ entries, entry.answered ≠ [] → ∀ item ∈ decoded,
      queryIDForScopeIn (sessionPairs client session) entry.scope ∈ item.credentialIDs →
      Authorises client session decoded entry := by
    intro entry inEntries answers item member bound
    obtain ⟨before, established⟩ := passed.each entry inEntries
    exact authorises_of_acceptedFrom present established answers read member bound
  refine ⟨decoded, read, raws_of_decodeTransactionDataFrom read, fun item member => ?_, authorises⟩
  obtain ⟨id, inItem, inAnswered⟩ := covers item member
  obtain ⟨entry, inEntries, answers⟩ := mem_flatMap.mp inAnswered
  obtain ⟨before, established⟩ := passed.each entry inEntries
  obtain ⟨rfl, _⟩ := bound_of_mem_answered established.bound answers
  exact ⟨entry, inEntries, inItem,
    authorises entry inEntries (ne_nil_of_mem answers) item member inItem⟩

end Authorised

/-! A payment that is authorised by an attestation with the query id `sca`. -/

/-- The claims of the key-binding JWT. -/
def paymentBinding : Members :=
  [("amr", .arr [.obj [("knowledge", .str "pin_6_or_more_digits")],
      .obj [("possession", .str "key_in_local_native_wscd")]]),
    ("aud", .str "verifier"), ("iat", .num "100"), ("jti", .str "j1"), ("nonce", .str "n1"),
    ("response_mode", .str "direct_post.jwt"), ("sd_hash", .str "S"),
    ("transaction_data_hashes", .arr [.str "T"])]

/-- The claims of the attestation. -/
def paymentAttestation : Members :=
  [("cnf", .obj [("jwk", .obj [("kid", .str "k1")])]), ("vct", .str "urn:sca")]

/-- The verifier of the payment. -/
def paymentClient : Client String where
  jose := .ofTable [("kh.kb.ks", "k1", [("typ", .str "kb+jwt")], paymentBinding)]
  codec := {
    toCodec := { Codec.ofTable
      [("h", "header", .obj []), ("b", "body", .obj paymentAttestation),
        ("kb", "binding", .obj paymentBinding), ("t1", "entry", .null)]
      [("t1", [1], "T"), ("h.b.s~", [2], "S")] with number := fun _ => 100 }
    unmarshalEntry := fun _ =>
      .ok { type := "urn:eudi:sca:payment:1", credentialIDs := ["sca"], hashAlgs := none } }
  fuel := 8
  mdoc := .refusing String
  vc20 := .refusing String
  rawText := fun _ => ""
  now := 100
  evaluateIssuerTrust := fun _ _ => .ok ()
  evaluate := fun _ _ _ => .ok { trusted := true }
  responseURI := .ok "https://verifier/verification/direct_post"
  dcAPIOrigin := .ok "https://verifier"

/-- The query for an attestation with the key of the wallet. -/
def paymentQuery : CredentialQuery where
  id := "sca"
  format := "dc+sd-jwt"
  metaQuery := { vctValues := ["urn:sca"] }
  claims := [{ path := [some "cnf", some "jwk"] }]

def paymentSession : Session where
  sessionID := "s1"
  scopes := ["sca"]
  dcqlQuery := some { credentials := [paymentQuery] }
  nonce := "n1"
  clientID := "verifier"
  transactionData := ["t1"]
  transactionDataResponseModes := ["direct_post.jwt"]
  issued := by
    intro _
    refine ⟨rfl, ?_⟩
    rintro _ ⟨⟩
    rfl

/-- The response of the wallet. -/
def paymentResponse : Response where
  vpToken := [("sca", ["h.b.s~kh.kb.ks"])]

/-- What is accepted of it. -/
def paymentEntries : List Accepted :=
  [{ scope := "sca", token := "h.b.s~kh.kb.ks", format := .sdJWT, answered := ["sca"]
     credentials := [paymentAttestation], jtis := ["j1"] }]

theorem payment_authorised : AllAuthorised paymentClient paymentSession paymentEntries :=
  transaction_data_authorised _ _ paymentResponse _ (by decide) (by decide +kernel)

end Vc.Verifier.DirectPost
