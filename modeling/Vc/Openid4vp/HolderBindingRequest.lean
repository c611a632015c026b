import Vc.Openid4vp.Losslessness

/-!
# Requiring holder binding in a request

`withCryptographicHolderBinding` copies the queries of a request into a new slice
and sets the flag there.  A query that is kept as it stands is sent as it stands,
with the flag that its own JSON has.
-/

namespace Vc.Openid4vp

open Checks Json CredentialQuery List

/-- The slices of credential queries that are in use, each at its address. -/
abbrev Slices := List (List CredentialQuery)

/-- A `DCQL` in memory.  Others may hold the slice of its queries; none is the nil slice. -/
structure DCQLRef where
  credentials : Option Nat
  credentialSets : List CredentialSetQuery := []

/-- A query with the flag set. -/
def CredentialQuery.bound (query : CredentialQuery) : CredentialQuery :=
  { query with requireCryptographicHolderBinding := some true }

/-- `json.Marshal` of a `CredentialSetQuery`. -/
def CredentialSetQuery.marshal (query : CredentialSetQuery) : Json :=
  .obj (("options", .arr (query.options.map fun option => encodeNullable (some option))) ::
    omitNil "required" query.required)

namespace DCQLRef

variable (dcql : DCQLRef) (slices : Slices)

/-- The slice is in use. -/
def Allocated : Prop :=
  ∀ address ∈ dcql.credentials, address < slices.length

def queries : List CredentialQuery :=
  (dcql.credentials.bind (slices[·]?)).getD []

/-- The queries are copied to a new slice, and a loop sets the flag in each element of it. -/
def withCryptographicHolderBinding : DCQLRef × Slices :=
  let copied := slices ++ [dcql.queries slices]
  ({ dcql with credentials := some slices.length }, copied.modify slices.length (map bound))

/-- `json.Marshal` of a `DCQL`. -/
def marshal : Except String Json := do
  let encoded ← (dcql.queries slices).mapM marshalJSON
  let credentials := if dcql.credentials = none then .null else .arr encoded
  return .obj (("credentials", credentials) ::
    omitEmpty "credential_sets" CredentialSetQuery.marshal dcql.credentialSets)

/-! ## The copy -/

variable {dcql slices}

/-- The copy has the queries with the flag set. -/
theorem queries_copy (dcql : DCQLRef) (slices : Slices) :
    (dcql.withCryptographicHolderBinding slices).1.queries
      (dcql.withCryptographicHolderBinding slices).2 = (dcql.queries slices).map bound := by
  simp [withCryptographicHolderBinding, queries]

/-- The original has the queries that it had. -/
theorem queries_original (allocated : dcql.Allocated slices) :
    dcql.queries (dcql.withCryptographicHolderBinding slices).2 = dcql.queries slices := by
  unfold queries
  cases held : dcql.credentials with
  | none => rfl
  | some address =>
    have inUse := allocated address held
    simp only [withCryptographicHolderBinding, Option.bind_some]
    rw [getElem?_modify_ne _ _ inUse.ne', getElem?_append_left inUse]

end DCQLRef

/-! ## What is sent -/

open DCQLRef

/-- A query, as it is sent, asks for holder binding, by its member or by the default. -/
def RequiresBinding (query : Json) : Prop :=
  ∀ found, ("require_cryptographic_holder_binding", found) ∈ objectMembers query →
    found = .bool true

/-- Every query of a request asks for holder binding. -/
def AsksForBinding (request : Json) : Prop :=
  ∀ queries, ("credentials", .arr queries) ∈ objectMembers request →
    ∀ query ∈ queries, RequiresBinding query

variable {query : CredentialQuery} {encoded : Json}

/-- A typed query with the flag set is sent with the flag set. -/
theorem requiresBinding_typed (typed : query.raw = none)
    (written : query.bound.marshalJSON = .ok encoded) : RequiresBinding encoded := by
  simp only [marshalJSON, bound, typed, bind_eq_ok_iff] at written
  obtain ⟨known, writtenKnown, written⟩ := written
  have nodup := nodup_knownMembers writtenKnown
  simp only [knownMembers, bind_eq_ok_iff] at writtenKnown
  obtain ⟨claims, _, req, _, same⟩ := writtenKnown
  have set : ("require_cryptographic_holder_binding", Json.bool true) ∈ known := by
    cases same
    simp [omitNil]
  have only : RequiresBinding (.obj known) := fun found member => Option.some.inj
    ((lookupLast_of_mem nodup member).symm.trans (lookupLast_of_mem nodup set))
  unfold marshalWithExtra at written
  split_ifs at written with empty
  · cases written
    exact only
  · split at written
    · cases written
    · next free =>
        cases written
        intro found member
        have inBoth := (mem_foldl_put member).resolve_right not_mem_nil
        rcases mem_append.mp inBoth with inKnown | inExtra
        · exact only found inKnown
        · exact absurd (find?_eq_none.mp free _ inExtra) (by simp [credentialQueryMembers])

/-- A query with the flag set asks for holder binding unless it is kept as a value that does not. -/
theorem requiresBinding_iff (written : query.bound.marshalJSON = .ok encoded) :
    RequiresBinding encoded ↔ ∀ raw, query.raw = some raw → RequiresBinding raw := by
  cases kept : query.raw with
  | none => exact ⟨fun _ _ => nofun, fun _ => requiresBinding_typed kept written⟩
  | some raw =>
    simp only [marshalJSON, bound, kept] at written
    split_ifs at written
    cases written
    simp

/-- The copy asks for holder binding in every query exactly where those that are kept as they stand
do so themselves, and the original is encoded as before. -/
theorem forced_binding_reaches_wire_iff {dcql : DCQLRef} {slices : Slices}
    (allocated : dcql.Allocated slices) :
    let copy := dcql.withCryptographicHolderBinding slices
    dcql.marshal copy.2 = dcql.marshal slices ∧
      ∀ sent, copy.1.marshal copy.2 = .ok sent →
        (AsksForBinding sent ↔ ∀ query ∈ dcql.queries slices, ∀ raw, query.raw = some raw →
          RequiresBinding raw) := by
  intro copy
  refine ⟨by simp [marshal, copy, queries_original allocated], fun sent written => ?_⟩
  simp only [marshal, copy, queries_copy, bind_eq_ok_iff] at written
  obtain ⟨encoded, each, same⟩ := written
  cases same
  constructor
  · intro asks query member
    obtain ⟨entry, inEncoded, done⟩ := exists_result_of_mem_mapM each (mem_map_of_mem member)
    exact (requiresBinding_iff done).mp (asks _ mem_cons_self _ inEncoded)
  · intro own queries inSent entry member
    rcases mem_cons.mp inSent with same | inSets
    · cases same
      obtain ⟨_, inMap, done⟩ := exists_of_mem_mapM each member
      obtain ⟨query, inQueries, rfl⟩ := mem_map.mp inMap
      exact (requiresBinding_iff done).mpr (own _ inQueries)
    · have named := (names_omitEmpty _ _ _).subset (mem_map_of_mem inSets)
      simp at named

/-- A query that asks for a presentation without holder binding, with a null that is not kept. -/
def unboundQuery : Json :=
  .obj [("id", .str "pid"), ("format", .str "dc+sd-jwt"), ("multiple", .null),
    ("meta", .obj [("vct_values", .arr [.str "urn:pid"])]),
    ("require_cryptographic_holder_binding", .bool false)]

/-- It is kept as it stands, so the flag does not reach what is sent. -/
theorem unbound_query_sent_unbound :
    ∃ query, unmarshalJSON (fun _ => "") unboundQuery = .ok query ∧
      let copy := withCryptographicHolderBinding ⟨some 0, []⟩ [[query]]
      ∃ sent, copy.1.marshal copy.2 = .ok sent ∧ ¬AsksForBinding sent := by
  refine ⟨ofRaw (fun _ => "") unboundQuery, by decide +kernel,
    .obj [("credentials", .arr [unboundQuery])], by decide +kernel, fun asks => ?_⟩
  have binding := asks _ mem_cons_self _ mem_cons_self (.bool false) (by decide +kernel)
  cases binding

/-- Of a typed query it does, and the original is left without the flag. -/
theorem typed_query_sent_bound :
    let dcql : DCQLRef := ⟨some 0, []⟩
    let copy := dcql.withCryptographicHolderBinding [[{ id := "pid" }]]
    dcql.marshal copy.2 = dcql.marshal [[{ id := "pid" }]] ∧
      ∃ sent, copy.1.marshal copy.2 = .ok sent ∧ AsksForBinding sent := by
  intro dcql copy
  have allocated : dcql.Allocated [[{ id := "pid" }]] := by
    simp [dcql, Allocated]
  have ⟨original, wire⟩ := forced_binding_reaches_wire_iff allocated
  refine ⟨original, _, rfl, (wire _ rfl).mpr ?_⟩
  simp [dcql, queries]

end Vc.Openid4vp
