import Vc.Vc20.FlatLd
import Vc.Vc20.SdSuite

/-!
# What a derived proof shows

A derived proof is accepted if the issuer has signed its configuration and its ephemeral key,
with no mandatory statements, and if the ephemeral key has signed each statement whose index
is not marked as mandatory.  Marked statements, and those in proofs of nested nodes, are not
looked at: the document says only what the issuer has said exactly if they, too, are
statements of the base credential.
-/

namespace Vc.Vc20.Sd

open Checks Sdjwtvc Openid4vp Rdf NQuads List FlatLd UInt8 Entries

section Soundness

variable {Key : Type} (lib : SdLibrary Key)

/-! ## What the issuer has signed -/

/-- The statements of a call with their labels, of which some are mandatory. -/
structure SignCall.States (call : SignCall Key) (all mandatory : List Line) : Prop where
  signed : ∃ cred, sign lib call = .ok cred
  lines : ∃ lines, statements lib call.cred = .ok lines ∧
    all = lines.map (skolemizeQuad lib call.hmacKey) ∧
    mandatory = mandatoryLines lib call.hmacKey (call.selected lib lines) lines

/-- The public key that a call puts into its proof. -/
def SignCall.publicKey (call : SignCall Key) : Bytes :=
  ellipticMarshalCompressed lib call.ephemeralKey

/-- Signatures of the issuer, and of the ephemeral keys, are made by the calls of `Sign` only, and
each call draws a key of its own. -/
structure Unforgeable (key : Key) (calls : Set (SignCall Key)) : Prop where
  base : ∀ config publicKey mandatory signature,
    verifySignature lib key (signedHash lib config publicKey mandatory) signature = true →
    ∃ call ∈ calls, call.key = key ∧ call.publicKey lib = publicKey ∧
      canonicalForm lib (.obj (proofConfigOf call.options)) = .ok config ∧
      ∃ all lines, call.States lib all lines ∧ unlines lines = mandatory
  statement : ∀ call ∈ calls, ∀ curve ephemeralKey,
    parseEphemeralPublicKey lib (call.publicKey lib) curve = .ok ephemeralKey →
    ∀ line signature, verifySignature lib ephemeralKey (lib.sha256 line) signature = true →
    ∀ all mandatory, call.States lib all mandatory → line ∈ all
  fresh : ∀ call ∈ calls, ∀ other ∈ calls, call.publicKey lib = other.publicKey lib → call = other

/-! ## What a document says -/

def withoutOwnProof : Json → Json
  | .obj members => .obj (members.filter (·.1 ∉ proofMembers))
  | value => value

/-- Every statement of a document is one of a base credential that was signed under the key, with
the proof's ephemeral key, and its mandatory statements are among them. -/
def Backed (key : Key) (calls : Set (SignCall Key)) (publicKey : Bytes) (said : List Line) : Prop :=
  ∃ call ∈ calls, call.key = key ∧ call.publicKey lib = publicKey ∧
    ∃ all mandatory, call.States lib all mandatory ∧
      (∀ line ∈ said, line ∈ all) ∧ ∀ line ∈ mandatory, line ∈ said

/-- The statements that no signature is checked for are statements of the base credential. -/
def UncheckedBacked (calls : Set (SignCall Key)) (publicKey : Bytes)
    (checked said : List Line) : Prop :=
  ∀ call ∈ calls, call.publicKey lib = publicKey → ∀ all mandatory,
    call.States lib all mandatory → ∀ line ∈ said, line ∉ checked → line ∈ all

/-- A document that is accepted with a derived proof: what it says, and what has been checked. -/
structure AcceptedDerived (order : lib.ld.Order) (cred : RDFCredential) (key : Key)
    (proof : DerivedProofValue) (said checked : List Line) : Prop where
  accepted : verify lib order cred key = .ok ()
  derived : ∃ proofMap, findProof lib order cred = .ok (.derived proof, proofMap)
  said : mappedLines lib proof.labelMap (withoutOwnProof cred.original) = .ok said
  checked : ∃ mapped, mappedLines lib proof.labelMap (removeProof cred.original) = .ok mapped ∧
    checked = unmarkedLines proof.mandatoryIndexes mapped

variable {lib}

theorem SignCall.States.unique {call : SignCall Key} {all mandatory all' mandatory' : List Line}
    (states : call.States lib all mandatory) (states' : call.States lib all' mandatory') :
    all = all' ∧ mandatory = mandatory' := by
  obtain ⟨lines, read, rfl, rfl⟩ := states.lines
  obtain ⟨lines', read', rfl, rfl⟩ := states'.lines
  cases read.symm.trans read'
  exact ⟨rfl, rfl⟩

variable {key : Key}

theorem verifyLines_eq_ok_iff {pairs : List (Line × Bytes)} :
    verifyLines lib key pairs = .ok () ↔
      ∀ pair ∈ pairs, verifySignature lib key (lib.sha256 pair.1) pair.2 = true := by
  induction pairs with
  | nil => simp [verifyLines]
  | cons pair rest ih =>
    simp [verifyLines, ih]

/-- Each of the lines has a signature of the ephemeral key. -/
theorem signature_of_verifyStatements {publicKey : Bytes} {lines : List Line}
    {signatures : List Bytes}
    (verified : verifyStatements lib key publicKey lines signatures = .ok ()) :
    ∃ ephemeralKey, parseEphemeralPublicKey lib publicKey (lib.curve key) = .ok ephemeralKey ∧
      ∀ line ∈ lines, ∃ signature,
        verifySignature lib ephemeralKey (lib.sha256 line) signature = true := by
  simp only [verifyStatements, bind_eq_ok_iff, require_eq_ok_iff, wrap_eq_ok_iff,
    verifyLines_eq_ok_iff] at verified
  obtain ⟨_, sameLength, ephemeralKey, parsed, each⟩ := verified
  refine ⟨ephemeralKey, parsed, ?_⟩
  intro line member
  have paired : line ∈ (lines.zip signatures).map Prod.fst := by
    rwa [map_fst_zip sameLength.le]
  obtain ⟨pair, inZip, rfl⟩ := mem_map.mp paired
  exact ⟨pair.2, each _ inZip⟩

variable {proof : DerivedProofValue} {said checked : List Line} {order : lib.ld.Order}
  {cred : RDFCredential}

/-- An accepted derived proof: the issuer has signed its key with no mandatory statements, and the
ephemeral key has signed what has been checked. -/
theorem AcceptedDerived.signed {calls : Set (SignCall Key)}
    (unforgeable : Unforgeable lib key calls)
    (accepted : AcceptedDerived lib order cred key proof said checked) :
    ∃ call ∈ calls, call.key = key ∧ call.publicKey lib = proof.publicKey ∧
      ∃ all, call.States lib all [] ∧ ∀ line ∈ checked, line ∈ all := by
  obtain ⟨proofMap, found⟩ := accepted.derived
  obtain ⟨mapped, read, rfl⟩ := accepted.checked
  have verified : verifyDerivedProof lib cred key proof proofMap = .ok () := by
    have run := accepted.accepted
    rwa [verify, found] at run
  simp only [verifyDerivedProof, bind_eq_ok_iff, wrap_eq_ok_iff, require_eq_ok_iff] at verified
  obtain ⟨config, _, _, base, mapped', read', statements⟩ := verified
  cases read.symm.trans read'
  obtain ⟨call, isCall, sameKey, samePublic, _, all, mandatory, states, none⟩ :=
    unforgeable.base _ _ _ _ base
  cases unlines_eq_nil_iff.mp none
  refine ⟨call, isCall, sameKey, samePublic, all, states, ?_⟩
  intro line member
  obtain ⟨ephemeralKey, parsed, each⟩ := signature_of_verifyStatements statements
  obtain ⟨signature, signed⟩ := each line member
  exact unforgeable.statement _ isCall _ _ (samePublic ▸ parsed) _ _ signed all [] states

/-- A document with an accepted derived proof says what a base credential says exactly if the
statements that no signature was checked for are statements of the base credential. -/
theorem backed_iff {key : Key} {calls : Set (SignCall Key)}
    (unforgeable : Unforgeable lib key calls) {order : lib.ld.Order} {cred : RDFCredential}
    {proof : DerivedProofValue} {said checked : List Line}
    (accepted : AcceptedDerived lib order cred key proof said checked) :
    Backed lib key calls proof.publicKey said ↔
      UncheckedBacked lib calls proof.publicKey checked said := by
  constructor
  · rintro ⟨call, isCall, _, samePublic, all, mandatory, states, within, _⟩ other isOther
      otherPublic _ _ states' line member _
    cases unforgeable.fresh call isCall other isOther (samePublic.trans otherPublic.symm)
    rw [← (states.unique states').1]
    exact within _ member
  · intro unchecked
    obtain ⟨call, isCall, sameKey, samePublic, all, states, signed⟩ := accepted.signed unforgeable
    refine ⟨call, isCall, sameKey, samePublic, all, [], states, ?_, by simp⟩
    intro line member
    by_cases isChecked : line ∈ checked
    · exact signed _ isChecked
    · exact unchecked _ isCall samePublic all [] states _ member isChecked

/-- Nothing goes unchecked in a document without nested proofs whose proof marks nothing. -/
theorem uncheckedBacked_of_unmarked
    (accepted : AcceptedDerived lib order cred key proof said checked)
    (noMarks : proof.mandatoryIndexes = [])
    (flat : removeProof cred.original = withoutOwnProof cred.original)
    (calls : Set (SignCall Key)) :
    UncheckedBacked lib calls proof.publicKey checked said := by
  obtain ⟨mapped, read, rfl⟩ := accepted.checked
  rw [flat] at read
  cases read.symm.trans accepted.said
  intro _ _ _ _ _ _ line member unchecked
  refine absurd ?_ unchecked
  simp only [noMarks, unmarkedLines, not_mem_nil, not_false_eq_true, decide_true,
    filter_true, zipIdx_map_fst]
  exact member

end Soundness

/-! A holder adds a statement to a credential and marks it as mandatory. -/

def termText : Term → Line
  | .iri value => 60 :: bytes value ++ [62]
  | .blank label => bytes label
  | .literal value _ _ => 34 :: bytes value ++ [34]

def lineText (quad : Quad) : Line :=
  termText quad.subject ++ 32 :: termText quad.predicate ++ 32 :: termText quad.object ++
    quad.graph.toList.flatMap (fun graph => 32 :: termText graph) ++ [32, 46]

/-- The quads in the order of their lines. -/
def sortedQuads (quads : List Quad) : List Quad :=
  quads.insertionSort fun left right => lineText left ≤ lineText right

/-- The credential of a person with some names. -/
def namedDocument (names : List String) : Members :=
  [("@context", .str contextV2),
    ("credentialSubject", .obj [("id", .str "did:h"), ("name", .arr (names.map .str))]),
    ("id", .str "urn:c"), ("issuer", .str "did:i"),
    ("type", .arr [.str "VerifiableCredential"])]

def flatLines (document : Members) : List Line :=
  (sortedQuads (documentQuads (.obj document))).map lineText

/-- The options of the issuer. -/
def adaOptions : SdSignOptions where
  verificationMethod := "did:i#key"
  proofPurpose := "assertionMethod"
  created := "2025-01-01T00:00:00Z"

/-- The compressed point of the ephemeral key. -/
def ephemeralPoint : Bytes := replicate 33 2

/-- The texts whose hash sums are told apart: the configuration, the mandatory statements, what the
issuer signs, and the statements of the credential. -/
def adaTexts : List Bytes :=
  [unlines (flatLines (proofConfigOf adaOptions)), [],
    0 :: 0x80 :: 0x24 :: ephemeralPoint ++ [1]] ++ flatLines (namedDocument ["Ada"])

/-- The place of a text, in one byte. -/
def adaHash (text : Bytes) : Bytes :=
  [ofNat (adaTexts.idxOf text)]

/-- What has been signed, and by whom. -/
def adaSigned : List (String × Bytes) :=
  [("issuer", [2]), ("ephemeral", [3]), ("ephemeral", [4]), ("ephemeral", [5]), ("ephemeral", [6])]

/-- The derived proof values of the example, by what they mark as mandatory. -/
def adaDerived (mandatoryIndexes : List Int) : DerivedProofValue where
  baseSignature := replicate 64 0
  publicKey := 0x80 :: 0x24 :: ephemeralPoint
  signatures := replicate 4 (replicate 64 0)
  labelMap := []
  mandatoryIndexes

/-- The library of the example. -/
def adaLibrary : SdLibrary String where
  ld := { processor with normalize document := .ok (sortedQuads (normalized document)) }
  serialize quads := unlines (quads.map lineText)
  compactProof order _ dataset := processor.compacted order dataset
  marshalBase _ := []
  unmarshalBase _ := .error "no base proof"
  unmarshalDerived data := .ok (adaDerived (if data = [1] then [1] else []))
  encodeMultibase _ := "u"
  decodeMultibase text := .ok (derivedHeader ++ if text = "marked" then [1] else [])
  sha256 := adaHash
  hmac _ _ := []
  encode64 _ := ""
  curve _ := .p256
  marshalCompressed _ := ephemeralPoint
  unmarshalCompressed _ _ := some "ephemeral"
  unmarshalUncompressed _ _ := none
  sign _ _ := replicate 64 0
  ecdsaVerify key hash _ := (key, hash) ∈ adaSigned
  formatNumber literal := literal

/-- A document with its dataset. -/
def flatCredential (document : Members) : RDFCredential where
  dataset := grouped (documentQuads (.obj document))
  original := .obj document

/-- The call of the issuer. -/
def adaCall : SignCall String where
  cred := flatCredential (namedDocument ["Ada"])
  key := "issuer"
  options := adaOptions
  hmacKey := [1]
  ephemeralKey := "ephemeral"

/-- The proof that the holder puts into a document. -/
def adaProof (proofValue : String) : Members :=
  put "proofValue" (.str proofValue) (proofConfigOf adaOptions)

/-- A document of the holder with a derived proof. -/
def adaPresented (names : List String) (proofValue : String) : RDFCredential :=
  flatCredential (addProof (adaProof proofValue) (namedDocument names))

theorem text_of_adaHash (index : Nat) (bound : index < 7) {text : Bytes}
    (hash : adaHash text = [ofNat index]) : adaTexts[index]? = some text := by
  have inRange : adaTexts.idxOf text ≤ 7 := idxOf_le_length
  have same : adaTexts.idxOf text = index := by
    have equal := congrArg toNat (cons.inj hash).1
    rw [toNat_ofNat', toNat_ofNat'] at equal
    omega
  have found : adaTexts.idxOf text < adaTexts.length := same ▸ bound
  rw [← same, getElem?_eq_getElem found, getElem_idxOf]

theorem adaCall_states {all mandatory : List Line}
    (states : adaCall.States adaLibrary all mandatory) :
    all = flatLines (namedDocument ["Ada"]) ∧ mandatory = [] := by
  obtain ⟨lines, read, rfl, rfl⟩ := states.lines
  have evaluated : statements adaLibrary adaCall.cred =
      .ok (flatLines (namedDocument ["Ada"])) := by
    decide +kernel
  cases evaluated.symm.trans read
  constructor <;> decide +kernel

theorem adaCall_states_flat : adaCall.States adaLibrary (flatLines (namedDocument ["Ada"])) [] where
  signed := exists_of_isOk (by decide +kernel)
  lines := ⟨flatLines (namedDocument ["Ada"]), by decide +kernel, by decide +kernel,
    by decide +kernel⟩

theorem adaLibrary_unforgeable : Unforgeable adaLibrary "issuer" {adaCall} where
  base := by
    intro config publicKey mandatory signature verified
    have signed : ("issuer", adaLibrary.sha256 (adaHash config ++ publicKey ++ adaHash mandatory)) ∈
        adaSigned :=
      of_decide_eq_true (Bool.and_eq_true_iff.mp verified).2
    have hash : adaHash (adaHash config ++ publicKey ++ adaHash mandatory) = [2] := by
      simpa [adaSigned, adaLibrary] using signed
    -- the hash sums have one byte each, so that the three parts can be told apart
    have combined := Option.some.inj (text_of_adaHash 2 (by decide) hash)
    obtain ⟨first, rest⟩ := cons.inj combined
    have parts : publicKey = adaCall.publicKey adaLibrary ∧ adaHash mandatory = [1] :=
      append_inj' rest.symm rfl
    obtain ⟨rfl, last⟩ := parts
    cases text_of_adaHash 0 (by decide) (congrArg (fun byte => [byte]) first.symm)
    cases text_of_adaHash 1 (by decide) last
    exact ⟨adaCall, rfl, rfl, rfl, by decide +kernel, flatLines _, [],
      adaCall_states_flat, rfl⟩
  statement := by
    rintro _ rfl curve ephemeralKey parsed line signature verified all mandatory states
    rw [(adaCall_states states).1]
    have isEphemeral : ephemeralKey = "ephemeral" := (Except.ok.inj parsed).symm
    have signed : (ephemeralKey, adaHash line) ∈ adaSigned :=
      of_decide_eq_true (Bool.and_eq_true_iff.mp verified).2
    have place : ∃ index, index < 4 ∧ adaHash line = [ofNat (index + 3)] := by
      simp only [adaSigned, isEphemeral, mem_cons, Prod.mk.injEq, not_mem_nil] at signed
      rcases signed with ⟨other, _⟩ | ⟨_, hash⟩ | ⟨_, hash⟩ | ⟨_, hash⟩ | ⟨_, hash⟩ | impossible
      · exact absurd other (by decide)
      · exact ⟨0, by decide, hash⟩
      · exact ⟨1, by decide, hash⟩
      · exact ⟨2, by decide, hash⟩
      · exact ⟨3, by decide, hash⟩
      · exact impossible.elim
    obtain ⟨index, bound, hash⟩ := place
    have found := text_of_adaHash (index + 3) (by omega) hash
    exact mem_of_getElem? (i := index) found
  fresh := by
    rintro _ rfl _ rfl _
    rfl

/-- What the holder was given is accepted, and all of it comes from the issuer. -/
theorem ada_backed :
    AcceptedDerived adaLibrary (0 : Nat) (adaPresented ["Ada"] "plain") "issuer" (adaDerived [])
        (flatLines (namedDocument ["Ada"])) (flatLines (namedDocument ["Ada"])) ∧
      Backed adaLibrary "issuer" {adaCall} (adaDerived []).publicKey
        (flatLines (namedDocument ["Ada"])) := by
  have accepted : AcceptedDerived adaLibrary (0 : Nat) (adaPresented ["Ada"] "plain") "issuer"
      (adaDerived []) (flatLines (namedDocument ["Ada"])) (flatLines (namedDocument ["Ada"])) := by
    constructor
    · decide +kernel
    · exact ⟨without "@context" (adaProof "plain"), by decide +kernel⟩
    · decide +kernel
    · exact ⟨flatLines (namedDocument ["Ada"]), by decide +kernel, by decide +kernel⟩
  refine ⟨accepted, (backed_iff adaLibrary_unforgeable accepted).mpr ?_⟩
  exact uncheckedBacked_of_unmarked accepted rfl (by decide +kernel) _

/-- With a name that the issuer never wrote the document is accepted, too. -/
theorem added_name_accepted :
    AcceptedDerived adaLibrary (0 : Nat) (adaPresented ["Ada", "Eve"] "marked") "issuer"
        (adaDerived [1]) (flatLines (namedDocument ["Ada", "Eve"]))
        (flatLines (namedDocument ["Ada"])) ∧
      ¬ ∃ call ∈ ({adaCall} : Set (SignCall String)), ∃ all mandatory,
        call.States adaLibrary all mandatory ∧
          ∀ line ∈ flatLines (namedDocument ["Ada", "Eve"]), line ∈ all := by
  refine ⟨⟨by decide +kernel,
    ⟨without "@context" (adaProof "marked"), by decide +kernel⟩, by decide +kernel,
    flatLines (namedDocument ["Ada", "Eve"]), by decide +kernel, by decide +kernel⟩, ?_⟩
  rintro ⟨_, rfl, all, mandatory, states, within⟩
  rw [(adaCall_states states).1] at within
  exact absurd within (by decide +kernel)

end Vc.Vc20.Sd
