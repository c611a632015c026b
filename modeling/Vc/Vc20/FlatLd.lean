import Vc.Vc20.Suites

/-!
# A small JSON-LD processor

An executable instance of `JsonLd` for documents that use the terms below.  A node without
an identifier is labelled by its place in the document, so that labels do not depend on
what else the document holds, and a member that the context does not define gives no quads.
-/

namespace Vc.Vc20.FlatLd

open Rdf Openid4vp Sdjwtvc List Entries

/-! ## The context -/

/-- How the values of a property are read. -/
inductive Range where
  | literal (datatype : String)
  | iri
  | vocab
  | node
  | graph

def xsdString : String := "http://www.w3.org/2001/XMLSchema#string"

/-- The properties that the context defines. -/
def properties : List (String × String × Range) :=
  [("challenge", "https://w3id.org/security#challenge", .literal xsdString),
    ("created", "http://purl.org/dc/terms/created",
      .literal "http://www.w3.org/2001/XMLSchema#dateTime"),
    ("credentialSubject", "https://www.w3.org/2018/credentials#credentialSubject", .node),
    ("cryptosuite", "https://w3id.org/security#cryptosuite",
      .literal "https://w3id.org/security#cryptosuiteString"),
    ("domain", "https://w3id.org/security#domain", .literal xsdString),
    ("holder", "https://www.w3.org/2018/credentials#holder", .iri),
    ("issuer", "https://www.w3.org/2018/credentials#issuer", .iri),
    ("name", "https://schema.org/name", .literal xsdString),
    ("proof", "https://w3id.org/security#proof", .graph),
    ("proofPurpose", "https://w3id.org/security#proofPurpose", .vocab),
    ("proofValue", "https://w3id.org/security#proofValue",
      .literal "https://w3id.org/security#multibase"),
    ("verifiableCredential", "https://www.w3.org/2018/credentials#verifiableCredential", .graph),
    ("verificationMethod", "https://w3id.org/security#verificationMethod", .iri)]

/-- The types and the other words that the context defines. -/
def words : List (String × String) :=
  [("DataIntegrityProof", "https://w3id.org/security#DataIntegrityProof"),
    ("VerifiableCredential", "https://www.w3.org/2018/credentials#VerifiableCredential"),
    ("VerifiablePresentation", "https://www.w3.org/2018/credentials#VerifiablePresentation"),
    ("assertionMethod", "https://w3id.org/security#assertionMethod"),
    ("authentication", "https://w3id.org/security#authenticationMethod")]

/-! ## From documents to datasets -/

/-- The node that an object describes. -/
def nodeOf (path : String) (members : Members) : Term :=
  match members.lookup "id" with
  | some (.str iri) => .iri iri
  | _ => .blank ("_:" ++ path)

/-- The object of a property whose values have no parts. -/
def objectOf (range : Range) (text : String) : Option Term :=
  match range with
  | .literal datatype => some (.literal text datatype)
  | .iri => some (.iri text)
  | .vocab => (words.lookup text).map .iri
  | .node | .graph => none

/-- The quads of a property whose values have no parts. -/
def flatQuads (subject : Term) (predicate : String) (range : Range) (graph : Option Term) :
    Json → List Quad
  | .str text => (objectOf range text).toList.map fun object =>
    { subject, predicate := .iri predicate, object, graph }
  | .arr values => values.flatMap fun value =>
    ((value.str?.bind (objectOf range)).toList.map fun object =>
      { subject, predicate := .iri predicate, object, graph })
  | _ => []

mutual
/-- The quads of a property whose values are nodes, each in a graph of its own or not. -/
def linkQuads (subject : Term) (predicate : String) (ownGraph : Bool) (graph : Option Term)
    (path : String) : Json → List Quad
  | .obj members =>
    let node := nodeOf path members
    let name : Term := .blank ("_:" ++ path ++ "-graph")
    if ownGraph then
      { subject, predicate := .iri predicate, object := name, graph } ::
        memberQuads (some name) path node members
    else
      { subject, predicate := .iri predicate, object := node, graph } ::
        memberQuads graph path node members
  | .arr elements => elementQuads subject predicate ownGraph graph path 0 elements
  | _ => []

/-- The quads of a list of nodes. -/
def elementQuads (subject : Term) (predicate : String) (ownGraph : Bool) (graph : Option Term)
    (path : String) : Nat → List Json → List Quad
  | _, [] => []
  | index, first :: rest =>
    linkQuads subject predicate ownGraph graph (path ++ "-" ++ toString index) first ++
      elementQuads subject predicate ownGraph graph path (index + 1) rest

def memberQuads (graph : Option Term) (path : String) (subject : Term) : Members → List Quad
  | [] => []
  | (name, value) :: rest =>
    (match properties.lookup name with
      | some (predicate, .node) =>
        linkQuads subject predicate false graph (path ++ "-" ++ name) value
      | some (predicate, .graph) =>
        linkQuads subject predicate true graph (path ++ "-" ++ name) value
      | some (predicate, range) => flatQuads subject predicate range graph value
      | none => if name = "type" then flatQuads subject rdfType .vocab graph value else []) ++
      memberQuads graph path subject rest
end

def documentQuads : Json → List Quad
  | .obj members => memberQuads none "b" (nodeOf "b" members) members
  | _ => []

def graphName (quad : Quad) : String :=
  match quad.graph with
  | none => "@default"
  | some graph => graph.value

/-- The quads by the names of their graphs. -/
def grouped (quads : List Quad) : Dataset :=
  ((quads.map graphName).dedup).map fun name => (name, quads.filter (graphName · = name))

/-! ## From datasets to documents -/

/-- A term as a document. -/
def termJson : Term → Json
  | .iri value => .arr [.str "iri", .str value]
  | .blank label => .arr [.str "blank", .str label]
  | .literal value datatype language =>
    .arr [.str "literal", .str value, .str datatype, .str language]

/-- The term of a document. -/
def termOf : Json → Option Term
  | .arr [.str "iri", .str value] => some (.iri value)
  | .arr [.str "blank", .str label] => some (.blank label)
  | .arr [.str "literal", .str value, .str datatype, .str language] =>
    some (.literal value datatype language)
  | _ => none

/-- A quad as a document. -/
def quadJson (quad : Quad) : Json :=
  .arr ([quad.subject, quad.predicate, quad.object].map termJson ++ quad.graph.toList.map termJson)

/-- The quad of a document. -/
def quadOf : Json → Option Quad
  | .arr [subject, predicate, object] => do
    return {
      subject := ← termOf subject
      predicate := ← termOf predicate
      object := ← termOf object
    }
  | .arr [subject, predicate, object, graph] => do
    return {
      subject := ← termOf subject
      predicate := ← termOf predicate
      object := ← termOf object
      graph := some (← termOf graph)
    }
  | _ => none

/-- The quads of a document in either form. -/
def normalized : Json → List Quad
  | .arr quads => quads.filterMap quadOf
  | document => documentQuads document

/-- The short form of a word. -/
def compactWord (word : String) : String :=
  ((words.find? (·.2 = word)).map (·.1)).getD word

/-- The members that describe a subject: one value for each property. -/
def describe (quads : List Quad) (subject : Term) : Members :=
  (quads.filter (·.subject = subject)).foldl (fun members quad =>
    if quad.predicate = .iri rdfType then
      put "type" (.str (compactWord quad.object.value)) members
    else
      match properties.find? fun property => .iri property.2.1 = quad.predicate with
      | some (name, _, .vocab) =>
        put name (.str (compactWord quad.object.value)) members
      | some (name, _, .literal _) | some (name, _, .iri) =>
        put name (.str quad.object.value) members
      | _ => members)
    (match subject with
      | .iri iri => [("id", .str iri)]
      | _ => [])

/-- The processor; the order of nodes is given by the number of those that are put last. -/
def processor : JsonLd where
  Order := Nat
  toRDF document := .ok (grouped (documentQuads document))
  fromRDF dataset := .ok (.arr (dataset.quads.map quadJson))
  compacted order dataset :=
    .ok (.arr ((((dataset.quads.map (·.subject)).dedup.map fun subject =>
      Json.obj (describe dataset.quads subject)).rotate order)))
  normalize document := .ok (normalized document)

/-! ## A table of signatures -/

def unary (number : Nat) : Bytes :=
  replicate number 0 ++ [1]

theorem unary_append_inj {number other : Nat} {rest rest' : Bytes}
    (equal : unary number ++ rest = unary other ++ rest') : number = other ∧ rest = rest' := by
  induction number generalizing other with
  | zero =>
    cases other with
    | zero => exact ⟨rfl, (cons.inj equal).2⟩
    | succ other => cases equal
  | succ number ih =>
    cases other with
    | zero => cases equal
    | succ other =>
      obtain ⟨same, rests⟩ := ih (cons.inj equal).2
      exact ⟨congrArg _ same, rests⟩

/-- A signature: its text, its key, and the canonical forms that it covers. -/
structure Signature where
  proofValue : String
  key : String
  config : List Quad
  document : List Quad

/-- The canonical forms that are signed. -/
def forms (signatures : List Signature) : List (List Quad) :=
  signatures.flatMap fun signature => [signature.config, signature.document]

/-- A hash sum that tells the signed forms apart. -/
def tableHash (signatures : List Signature) (quads : List Quad) : Bytes :=
  unary ((forms signatures).idxOf quads)

theorem eq_of_idxOf_eq {known : List (List Quad)} {form quads : List Quad} (member : form ∈ known)
    (same : known.idxOf quads = known.idxOf form) : quads = form := by
  have bound : known.idxOf form < known.length := idxOf_lt_length_iff.mpr member
  have found : known[known.idxOf form] = form := getElem_idxOf bound
  have alsoFound : known[known.idxOf quads]? = some quads := by
    rw [getElem?_eq_getElem (same ▸ bound), getElem_idxOf]
  rw [same, getElem?_eq_getElem bound, found] at alsoFound
  exact (Option.some.inj alsoFound).symm

/-- Suites of one kind that accept the signatures of a table, with the documents of some texts. -/
def integrity (kind : KeyKind) (texts : List (String × Json)) (signatures : List Signature) :
    DataIntegrity String where
  ld := processor
  unmarshal text :=
    match texts.find? (bytes ·.1 = text) with
    | some (_, document) => .ok document
    | none => .error "unexpected end of JSON input"
  hash := tableHash signatures
  decodeMultibase proofValue := .ok (bytes proofValue)
  keyBytes _ := 1
  ecdsaVerify key message signature := accepts key message signature
  ed25519Verify key message signature := accepts key message signature
  base := { VC20Library.refusing String with
    resolveKey := .ok
    kind := fun _ => kind }
where
  /-- The signature is the one of the table. -/
  accepts (key : String) (message signature : Bytes) : Bool :=
    match signatures.find? (bytes ·.proofValue = signature) with
    | some entry => key = entry.key ∧
        message = tableHash signatures entry.config ++ tableHash signatures entry.document
    | none => false

/-- A signature of the table covers the forms that it is listed with. -/
theorem forms_of_verifies {kind : KeyKind} {texts : List (String × Json)}
    {signatures : List Signature} {key proofValue : String} {config document : List Quad}
    (verifies : (integrity kind texts signatures).Verifies key proofValue config document) :
    ∃ entry, signatures.find?
        (fun entry => bytes entry.proofValue = bytes proofValue) = some entry ∧
      config = entry.config ∧ document = entry.document := by
  obtain ⟨signature, decoded, verified⟩ := verifies
  cases decoded
  have accepted : integrity.accepts signatures key
      (tableHash signatures config ++ tableHash signatures document)
      (bytes proofValue) = true := by
    cases kind with
    | ed25519 => exact verified
    | _ => exact verified.2
  unfold integrity.accepts at accepted
  split at accepted
  · next entry found =>
      have inTable := mem_of_find?_eq_some found
      obtain ⟨_, message⟩ := of_decide_eq_true accepted
      obtain ⟨sameConfig, sameDocument⟩ := unary_append_inj message
      have sameDocument := (unary_append_inj (congrArg (· ++ ([] : Bytes)) sameDocument)).1
      refine ⟨entry, found, eq_of_idxOf_eq ?_ sameConfig, eq_of_idxOf_eq ?_ sameDocument⟩ <;>
        exact mem_flatMap.mpr ⟨entry, inTable, by simp⟩
  · cases accepted

end Vc.Vc20.FlatLd
