import Vc.Openid4vp.QueryCodec

/-!
# Credential queries survive their JSON form

A query is kept in typed form only when its encoding is read back as the value
that arrived, and both texts name every member once; otherwise it is kept as it
stands.  Either way what is written denotes the value that was read.
-/

namespace Vc.Openid4vp

open Checks Json CredentialQuery List.Sublist List Entries ReqItem Except

/-! ## Names of encoded objects -/

variable (name : String) {α : Type}

theorem names_omitEmpty (encode : α → Json) (values : List α) :
    ((omitEmpty name encode values).map (·.1)).Sublist [name] := by
  cases values with
  | nil => exact nil_sublist _
  | cons _ _ => exact refl _

theorem names_omitEmptyText (name text : String) :
    ((omitEmptyText name text).map (·.1)).Sublist [name] := by
  rw [omitEmptyText]
  split_ifs
  · exact nil_sublist _
  · exact refl _

theorem names_omitNil (value : Option Bool) : ((omitNil name value).map (·.1)).Sublist [name] := by
  cases value with
  | none => exact nil_sublist _
  | some _ => exact refl _

theorem names_omitEmptyMap (members : Members) :
    ((omitEmptyMap name members).map (·.1)).Sublist [name] := by
  rw [omitEmptyMap]
  split_ifs
  · exact nil_sublist _
  · exact refl _

/-- A member that may be left out has no repeats where its elements have none. -/
theorem noRepeats_omitEmpty {name : String} {encode : α → Json} {values : List α}
    (each : ∀ value ∈ values, NoRepeats (encode value)) :
    ∀ entry ∈ omitEmpty name encode values, NoRepeats entry.2 := by
  cases values with
  | nil => exact nofun
  | cons first rest =>
    intro entry member
    rw [mem_singleton.mp member]
    refine .arr fun element inElements => ?_
    obtain ⟨value, inValues, rfl⟩ := mem_map.mp inElements
    exact each _ inValues

theorem noRepeats_omitEmptyText {name text : String} :
    ∀ entry ∈ omitEmptyText name text, NoRepeats entry.2 := by
  intro entry member
  rw [omitEmptyText] at member
  split_ifs at member
  · exact absurd member not_mem_nil
  · rw [mem_singleton.mp member]
    exact .scalar trivial

theorem noRepeats_omitNil {name : String} {value : Option Bool} :
    ∀ entry ∈ omitNil name value, NoRepeats entry.2 := by
  cases value with
  | none => exact nofun
  | some value =>
    intro entry member
    rw [mem_singleton.mp member]
    exact .scalar trivial

theorem noRepeats_encodeNullable (values : Option (List String)) :
    NoRepeats (encodeNullable values) := by
  cases values with
  | none => exact .scalar trivial
  | some values =>
    refine .arr fun element member => ?_
    obtain ⟨text, _, rfl⟩ := mem_map.mp member
    exact .scalar trivial

/-! ## Extension bags -/

variable {members : Members}

theorem ordered_foldl_put (entries : Members) (ordered : Ordered members) :
    Ordered (entries.foldl (fun merged entry => put entry.1 entry.2 merged) members) := by
  induction entries generalizing members with
  | nil => exact ordered
  | cons first rest ih => exact ih (ordered.put _ _)

theorem mem_foldl_put {entries : Members} {entry : String × Json}
    (member : entry ∈ entries.foldl (fun merged entry => put entry.1 entry.2 merged)
      members) : entry ∈ entries ∨ entry ∈ members := by
  induction entries generalizing members with
  | nil => exact .inr member
  | cons first rest ih =>
    rcases ih member with inRest | inPut
    · exact .inl (mem_cons_of_mem _ inRest)
    · rcases mem_put inPut with rfl | inMembers
      · exact .inl mem_cons_self
      · exact .inr inMembers

variable {encoded : Json}

/-- An object that is written with an extension bag has no repeats. -/
theorem noRepeats_marshalWithExtra {what : String} {reserved : List String} {known extra : Members}
    (written : marshalWithExtra what reserved known extra = .ok encoded)
    (nodup : (known.map (·.1)).Nodup) (inKnown : ∀ entry ∈ known, NoRepeats entry.2)
    (inExtra : ∀ entry ∈ extra, NoRepeats entry.2) : NoRepeats encoded := by
  unfold marshalWithExtra at written
  split_ifs at written with empty
  · cases written
    exact .obj nodup inKnown
  · split at written
    · cases written
    · cases written
      refine .obj (nodup_of_ordered (ordered_foldl_put _ Pairwise.nil)) ?_
      intro entry member
      rcases mem_foldl_put member with inBoth | inNone
      · exact (mem_append.mp inBoth).elim (inKnown _) (inExtra _)
      · exact absurd inNone not_mem_nil

/-! ## What a decode builds -/

section Decoded

variable {rawText : Json → String} {value : Json} {type : String}

theorem exists_of_mem_decodeSlice {decode : Json → Except String α}
    {results : List α} (decoded : decodeSlice decode type value = .ok results)
    {result : α} (member : result ∈ results) : ∃ source, decode source = .ok result := by
  cases value with
  | null =>
    cases decoded
    exact absurd member not_mem_nil
  | arr elements =>
    obtain ⟨source, _, done⟩ := exists_of_mem_mapM decoded member
    exact ⟨source, done⟩
  | _ => cases decoded

/-- What every field keeps holds of a decoded struct. -/
theorem decodeStruct_invariant {σ : Type}
    {set : String → Json → σ → Except String σ} {zero result : σ}
    (invariant : σ → Prop) (holds : invariant zero)
    (keeps : ∀ name value before after, invariant before → set name value before = .ok after →
      invariant after)
    (decoded : decodeStruct type set zero value = .ok result) : invariant result := by
  cases value with
  | null =>
    cases decoded
    exact holds
  | obj members =>
    exact foldlM_invariant holds
      (fun before entry after held stepped => keeps _ _ _ _ held stepped) decoded
  | _ => cases decoded

theorem ordered_specParams (members : Members) : Ordered (specParams rawText members) := by
  induction members with
  | nil => exact Pairwise.nil
  | cons first rest ih =>
    rw [specParams]
    split_ifs
    · exact ih
    · exact ih.put _ _

/-- The parameters are those of some entry. -/
def ZKSystemTypeSpec.Decoded (rawText : Json → String) (spec : ZKSystemTypeSpec) : Prop :=
  ∃ members, spec.params = specParams rawText members

variable {spec : ZKSystemTypeSpec}

theorem ZKSystemTypeSpec.Decoded.ordered
    (decoded : spec.Decoded rawText) : Ordered spec.params := by
  obtain ⟨members, same⟩ := decoded
  exact same ▸ ordered_specParams _

theorem ZKSystemTypeSpec.decoded_of_unmarshalJSON
    (decoded : ZKSystemTypeSpec.unmarshalJSON rawText value = .ok spec) :
    spec.Decoded rawText := by
  cases value with
  | obj members =>
    simp only [ZKSystemTypeSpec.unmarshalJSON, bind_eq_ok_iff] at decoded
    obtain ⟨_, _, _, _, same⟩ := decoded
    cases same
    exact ⟨members, rfl⟩
  | _ => cases decoded

/-- The systems of a `meta` that was decoded. -/
theorem systems_of_decodeMeta {query : MetaQuery} (decoded : decodeMeta rawText value = .ok query) :
    ∀ spec ∈ query.zkSystemType, spec.Decoded rawText := by
  refine decodeStruct_invariant (fun query : MetaQuery =>
    ∀ spec ∈ query.zkSystemType, spec.Decoded _)
    (fun _ member => absurd member not_mem_nil) ?_ decoded
  intro name value before after held stepped
  unfold MetaQuery.set at stepped
  split at stepped
  case h_6 =>
    obtain ⟨systems, read, rfl⟩ := map_eq_ok_iff.mp stepped
    intro spec member
    obtain ⟨source, done⟩ := exists_of_mem_decodeSlice read member
    exact ZKSystemTypeSpec.decoded_of_unmarshalJSON done
  case h_8 =>
    cases stepped
    exact held
  all_goals
    obtain ⟨_, _, rfl⟩ := map_eq_ok_iff.mp stepped
    exact held

theorem noRepeats_of_mem_normaliseMembers :
    ∀ entry ∈ normaliseMembers members, NoRepeats entry.2 := by
  have wellFormed := wellFormed_normalise (.obj members)
  exact fun entry member => WellFormed.noRepeats (EveryObject.member wellFormed member)

theorem name_of_mem_extraMembers {known : List String}
    {entry : String × Json} (member : entry ∈ extraMembers known members) : entry.1 ∉ known := by
  have found := (ordered_normaliseMembers _).lookup_eq_some_iff.mpr member
  rw [lookup_normaliseMembers] at found
  obtain ⟨_, last, _⟩ := Option.map_eq_some_iff.mp found
  simpa using (mem_filter.mp (mem_of_lookupLast last)).2

/-- What a decode has put into a claim query. -/
theorem noRepeats_values_of_unmarshalJSON {query : ClaimQuery}
    (decoded : ClaimQuery.unmarshalJSON value = .ok query) :
    ∀ expected ∈ query.values, NoRepeats expected := by
  simp only [ClaimQuery.unmarshalJSON, bind_eq_ok_iff] at decoded
  obtain ⟨wire, _, _, _, values, read, same⟩ := decoded
  cases same
  intro expected member
  unfold decodeClaimValues at read
  split at read
  · cases read
    exact absurd member not_mem_nil
  · cases read
  · obtain ⟨_, _, same⟩ := bind_eq_ok_iff.mp read
    cases same
    obtain ⟨source, _, rfl⟩ := mem_map.mp member
    exact (wellFormed_normalise _).noRepeats
  · cases read

/-- What a decode has put into the bags of a `_req` item. -/
structure ReqItem.Decoded (item : ReqItem) : Prop where
  params : Ordered item.params ∧ ∀ entry ∈ item.params, NoRepeats entry.2
  extra : ∀ entry ∈ item.extra, NoRepeats entry.2

theorem ReqItem.decoded_of_unmarshalJSON {item : ReqItem}
    (decoded : unmarshalJSON value = .ok item) : item.Decoded := by
  simp only [unmarshalJSON, bind_eq_ok_iff] at decoded
  obtain ⟨members, _, _, _, _, _, params, read, same⟩ := decoded
  cases same
  refine ⟨?_, noRepeats_of_mem_normaliseMembers⟩
  have empty : Ordered ([] : Members) ∧ ∀ entry ∈ ([] : Members), NoRepeats entry.2 :=
    ⟨Pairwise.nil, forall_mem_nil _⟩
  unfold decodeField at read
  split at read
  · cases read
    exact empty
  · unfold decodeParams at read
    split at read
    · cases read
      exact empty
    · cases read
      exact ⟨ordered_normaliseMembers _, noRepeats_of_mem_normaliseMembers⟩
    · cases read

/-- What a decode has put into a typed query. -/
structure CredentialQuery.Decoded (rawText : Json → String) (query : CredentialQuery) : Prop where
  systems : ∀ spec ∈ query.metaQuery.zkSystemType, spec.Decoded rawText
  values : ∀ claim ∈ query.claims, ∀ expected ∈ claim.values, NoRepeats expected
  req : ∀ item ∈ query.req, item.Decoded
  extra : ∀ entry ∈ query.extra, entry.1 ∉ credentialQueryMembers ∧ NoRepeats entry.2
  raw : query.raw = none

theorem decodeField_eq_ok {name : String} {decode : Json → Except String α} {zero result : α}
    (decoded : decodeField members name decode zero = .ok result) :
    result = zero ∨ ∃ value, decode value = .ok result := by
  unfold decodeField at decoded
  split at decoded
  · exact .inl (ok.inj decoded).symm
  · exact .inr ⟨_, decoded⟩

variable {query : CredentialQuery}

theorem CredentialQuery.decoded_of_decodeTyped {data : Json}
    (decoded : decodeTyped rawText data = .ok query) : query.Decoded rawText := by
  simp only [decodeTyped, bind_eq_ok_iff] at decoded
  obtain ⟨members, _, _, _, _, _, _, _, metaQuery, readMeta, _, _, _, _, claims, readClaims, _, _,
    req, readReq, same⟩ := decoded
  cases same
  refine ⟨?_, ?_, ?_, fun entry member => ⟨name_of_mem_extraMembers member,
    noRepeats_of_mem_normaliseMembers _ member⟩, rfl⟩
  · rcases decodeField_eq_ok readMeta with rfl | ⟨_, read⟩
    · rintro _ ⟨⟩
    · exact systems_of_decodeMeta read
  · rcases decodeField_eq_ok readClaims with rfl | ⟨_, read⟩
    · rintro _ ⟨⟩
    · intro claim member
      obtain ⟨_, done⟩ := exists_of_mem_decodeSlice read member
      exact noRepeats_values_of_unmarshalJSON done
  · rcases decodeField_eq_ok readReq with rfl | ⟨_, read⟩
    · rintro _ ⟨⟩
    · intro item member
      obtain ⟨_, done⟩ := exists_of_mem_decodeSlice read member
      exact decoded_of_unmarshalJSON done

/-! ## What an encoder writes -/

theorem noRepeats_marshalJSON_spec (decoded : spec.Decoded rawText) :
    NoRepeats spec.marshalJSON := by
  have orderedTexts : Ordered (spec.params.map fun entry => (entry.1, Json.str entry.2)) :=
    pairwise_map.mpr decoded.ordered
  refine .obj (nodup_of_ordered ((orderedTexts.put _ _).put _ _)) fun entry member => ?_
  rcases mem_put member with rfl | member
  · exact .scalar trivial
  · rcases mem_put member with rfl | member
    · exact .scalar trivial
    · obtain ⟨_, _, rfl⟩ := mem_map.mp member
      exact .scalar trivial

/-- The members that `meta` is written with. -/
def metaNames : List String :=
  ["vct_values", "type_values", "doctype_value", "schema_id_value", "source_format",
    "zk_system_type", "ppid_context"]

theorem names_marshal_meta (query : MetaQuery) :
    ((objectMembers query.marshal).map (·.1)).Sublist metaNames := by
  simp only [MetaQuery.marshal, objectMembers, map_append]
  exact ((((((names_omitEmpty "vct_values" .str _).append
    (names_omitEmpty "type_values" encodeNullable _)).append
    (names_omitEmptyText "doctype_value" query.doctypeValue)).append
    (names_omitEmptyText "schema_id_value" query.schemaIDValue)).append
    (names_omitEmptyText "source_format" query.sourceFormat)).append
    (names_omitEmpty "zk_system_type" ZKSystemTypeSpec.marshalJSON _)).append
    (names_omitEmptyText "ppid_context" query.ppidContext)

theorem noRepeats_marshal_meta {query : MetaQuery}
    (systems : ∀ spec ∈ query.zkSystemType, spec.Decoded rawText) : NoRepeats query.marshal := by
  refine .obj ((names_marshal_meta _).nodup (by decide)) ?_
  simp only [forall_mem_append]
  exact ⟨⟨⟨⟨⟨⟨noRepeats_omitEmpty fun _ _ => .scalar trivial,
    noRepeats_omitEmpty fun _ _ => noRepeats_encodeNullable _⟩, noRepeats_omitEmptyText⟩,
    noRepeats_omitEmptyText⟩, noRepeats_omitEmptyText⟩,
    noRepeats_omitEmpty fun spec member => noRepeats_marshalJSON_spec (systems _ member)⟩,
    noRepeats_omitEmptyText⟩

theorem noRepeats_marshal_authority (authority : TrustedAuthority) :
    NoRepeats authority.marshal := by
  refine .obj (show ["type", "values"].Nodup by decide) fun entry member => ?_
  rcases mem_pair.mp member with rfl | rfl
  · exact .scalar trivial
  · exact noRepeats_encodeNullable _

theorem noRepeats_marshalJSON_claim {query : ClaimQuery}
    (values : ∀ expected ∈ query.values, NoRepeats expected)
    (written : query.marshalJSON = .ok encoded) : NoRepeats encoded := by
  simp only [ClaimQuery.marshalJSON, bind_eq_ok_iff] at written
  obtain ⟨_, _, _, _, same⟩ := written
  cases same
  refine .obj ?_ ?_
  · refine nodup (?_ : Sublist _ ["id", "path", "values"]) (by decide)
    simp only [map_append]
    exact ((names_omitEmptyText "id" query.id).append (refl ["path"])).append
      (names_omitEmpty "values" (fun value => value) _)
  · simp only [forall_mem_append, forall_mem_singleton]
    refine ⟨⟨noRepeats_omitEmptyText, .arr fun element member => ?_⟩, noRepeats_omitEmpty values⟩
    obtain ⟨step, _, rfl⟩ := mem_map.mp member
    cases step <;> exact .scalar trivial

theorem noRepeats_marshalJSON_req {item : ReqItem} (decoded : item.Decoded)
    (written : item.marshalJSON = .ok encoded) : NoRepeats encoded := by
  refine noRepeats_marshalWithExtra written ?_ ?_ decoded.extra
  · refine nodup (?_ : Sublist _ reqItemMembers) (by decide)
    exact (refl ["fn_id", "return"]).append (names_omitEmptyMap "params" item.params)
  · simp only [forall_mem_append, forall_mem_cons]
    refine ⟨⟨.scalar trivial, .scalar trivial, nofun⟩, fun entry member => ?_⟩
    rw [omitEmptyMap] at member
    split_ifs at member
    · exact absurd member not_mem_nil
    · rw [mem_singleton.mp member]
      exact .obj (nodup_of_ordered decoded.params.1) decoded.params.2

theorem nodup_knownMembers {known : Members}
    (written : query.knownMembers = .ok known) : (known.map (·.1)).Nodup := by
  simp only [knownMembers, bind_eq_ok_iff] at written
  obtain ⟨claims, _, req, _, same⟩ := written
  cases same
  refine nodup (?_ : Sublist _ credentialQueryMembers) (by decide)
  simp only [map_append]
  exact (((((((refl ["id", "format"]).append
    (names_omitNil "multiple" query.multiple)).append (refl ["meta"])).append
    (names_omitEmpty "trusted_authorities" TrustedAuthority.marshal _)).append
    (names_omitNil "require_cryptographic_holder_binding"
      query.requireCryptographicHolderBinding)).append
    (names_omitEmpty "claims" (fun value => value) _)).append
    (names_omitEmpty "claim_sets" encodeNullable _)).append
    (names_omitEmpty "_req" (fun value => value) req)

/-- The typed form is written without repeated members. -/
theorem CredentialQuery.Decoded.noRepeats
    (decoded : query.Decoded rawText) (written : query.marshalJSON = .ok encoded) :
    NoRepeats encoded := by
  simp only [marshalJSON, decoded.raw, bind_eq_ok_iff] at written
  obtain ⟨known, writtenKnown, written⟩ := written
  refine noRepeats_marshalWithExtra written (nodup_knownMembers writtenKnown) ?_
    fun entry member => (decoded.extra _ member).2
  simp only [knownMembers, bind_eq_ok_iff] at writtenKnown
  obtain ⟨claims, writtenClaims, req, writtenReq, same⟩ := writtenKnown
  cases same
  have claimsPlain : ∀ claim ∈ claims, NoRepeats claim := by
    intro claim member
    obtain ⟨source, inClaims, done⟩ := exists_of_mem_mapM writtenClaims member
    exact noRepeats_marshalJSON_claim (decoded.values _ inClaims) done
  have reqPlain : ∀ item ∈ req, NoRepeats item := by
    intro item member
    obtain ⟨source, inReq, done⟩ := exists_of_mem_mapM writtenReq member
    exact noRepeats_marshalJSON_req (decoded.req _ inReq) done
  simp only [forall_mem_append, forall_mem_cons]
  exact ⟨⟨⟨⟨⟨⟨⟨⟨.scalar trivial, .scalar trivial, forall_mem_nil _⟩, noRepeats_omitNil⟩,
    noRepeats_marshal_meta decoded.systems, forall_mem_nil _⟩,
    noRepeats_omitEmpty fun _ _ => noRepeats_marshal_authority _⟩, noRepeats_omitNil⟩,
    noRepeats_omitEmpty claimsPlain⟩, noRepeats_omitEmpty fun _ _ => noRepeats_encodeNullable _⟩,
    noRepeats_omitEmpty reqPlain⟩

/-! ## Losslessness -/

/-- A query is kept as it stands, or in a typed form that is read back as what arrived. -/
theorem CredentialQuery.unmarshalJSON_eq_ok {data : Json}
    (accepted : unmarshalJSON rawText data = .ok query) :
    (query = ofRaw rawText data ∧ checkRawConstraints data = .ok ()) ∨
      (decodeTyped rawText data = .ok query ∧ hasRepeats data = false ∧
        query.encodesBackTo data = true) := by
  unfold unmarshalJSON at accepted
  split at accepted
  · obtain ⟨_, constrained, _, _, same⟩ := by
      simpa only [bind_eq_ok_iff] using accepted
    exact .inl ⟨(ok.inj same).symm, constrained⟩
  · next typed decoded =>
      split_ifs at accepted with ambiguous unlike
      · obtain ⟨_, constrained, same⟩ := by simpa only [bind_eq_ok_iff] using accepted
        exact .inl ⟨(ok.inj same).symm, constrained⟩
      · cases accepted
        rw [Bool.or_eq_true, not_or, Bool.not_eq_true, Bool.not_eq_true,
          Bool.not_eq_false'] at unlike
        exact .inr ⟨decoded, unlike⟩

/-- What is written of an accepted query denotes the value that was read. -/
theorem credential_query_json_lossless {members : Members} {query : CredentialQuery}
    (accepted : unmarshalJSON rawText (.obj members) = .ok query) :
    ∃ emitted, query.marshalJSON = .ok emitted ∧ SameValue emitted (.obj members) := by
  rcases unmarshalJSON_eq_ok accepted with ⟨rfl, _⟩ | ⟨decoded, once, back⟩
  · exact ⟨.obj _, rfl, .refl _⟩
  · unfold encodesBackTo at back
    split at back
    · next emitted written =>
        have plain := (decoded_of_decodeTyped decoded).noRepeats written
        exact ⟨emitted, written, sameValue_of_normalise_eq plain
          (hasRepeats_eq_false_iff.mp once) (of_decide_eq_true back).symm⟩
    · cases back

end Decoded

/-- A query with a member that the model does not know, and a number that it would not keep as a
float. -/
def vendorQuery : Members :=
  [("format", .str "dc+sd-jwt"), ("id", .str "pid"),
    ("meta", .obj [("vct_values", .arr [.str "urn:pid"])]),
    ("vendor", .obj [("limit", .num "9007199254740993")]),
    ("claims", .arr [.obj [("path", .arr [.str "age", .null]), ("values", .arr [.num "1e1"])]])]

/-- It is kept in typed form and written back with both. -/
theorem vendor_query_survives :
    ∃ query, unmarshalJSON (fun _ => "") (.obj vendorQuery) = .ok query ∧ query.raw = none ∧
      ∃ emitted, query.marshalJSON = .ok emitted ∧ SameValue emitted (.obj vendorQuery) := by
  have accepted : unmarshalJSON (fun _ => "") (.obj vendorQuery) = .ok {
      id := "pid", format := "dc+sd-jwt", metaQuery := { vctValues := ["urn:pid"] }
      claims := [{ path := [some "age", none], values := [.num "1e1"] }]
      extra := [("vendor", .obj [("limit", .num "9007199254740993")])] } := by
    decide +kernel
  exact ⟨_, accepted, rfl, credential_query_json_lossless accepted⟩

end Vc.Openid4vp
