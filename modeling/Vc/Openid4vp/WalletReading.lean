import Vc.Openid4vp.Losslessness

/-!
# What a wallet reads of a query

Validation reads a query as `encoding/json` does: names up to case, the last of
repeated members.  A wallet matches names exactly and may keep the first of
repeated members.  This file compares the two readings of the format and of the
members of `meta` that the rule of the format requires.
-/

namespace Vc.Openid4vp

open Checks Json CredentialQuery Entries MetaQuery Except

/-! ## The reader -/

/-- Which of repeated members a reader keeps. -/
inductive Keep where
  | first
  | last

variable (keep : Keep)

/-- The members in the order in which the last one is kept. -/
def Keep.order (members : Members) : Members :=
  match keep with
  | .first => members.reverse
  | .last => members

/-- The value that a reader finds under an exact name. -/
def Keep.find (name : String) (members : Members) : Option Json :=
  lookupLast name (keep.order members)

/-- The member of `meta` that a reader finds. -/
def metaMember (name : String) (value : Json) : Option Json :=
  (keep.find "meta" (objectMembers value)).bind fun found => keep.find name (objectMembers found)

/-- The formats with the rule of W3C credentials. -/
def IsW3C (format : String) : Prop :=
  format = "ldp_vc" ∨ format = "vc+ld+json"

/-- The value of the last member that has a name up to case. -/
def lastFolded (name : String) : Members → Option Json
  | [] => none
  | (other, value) :: rest =>
    (lastFolded name rest).or (if foldName other = name then some value else none)

/-- The format of a query, as it is decoded. -/
def formatText (members : Members) : String :=
  shadowField members "format" (decodeString "") ""

/-- The members of the last `meta` of a query. -/
def metaMembers (members : Members) : Members :=
  ((lookupLast "meta" members).map objectMembers).getD []

/-- Decode into a `[]ZKSystemTypeSpec`. -/
def decodeSystems (rawText : Json → String) : Json → Except String (List ZKSystemTypeSpec) :=
  decodeSlice (ZKSystemTypeSpec.unmarshalJSON rawText) "[]ZKSystemTypeSpec"

variable {members : Members} {value : Json} {name : String}

theorem Keep.find_eq (nodup : (members.map (·.1)).Nodup) (keep : Keep)
    (name : String) : keep.find name members = lookupLast name members := by
  cases keep with
  | last => rfl
  | first => exact lookupLast_reverse nodup _

section Systems

variable {rawText : Json → String}

end Systems

/-! ## What validation has seen -/

section Judged

variable {rawText : Json → String} {query : CredentialQuery}

theorem doctypeValue_of_validateTyped
    (mdoc : query.format = "mso_mdoc" ∨ query.format = "mso_mdoc_zk")
    (passed : validateTyped query = .ok ()) : query.metaQuery.doctypeValue ≠ "" := by
  intro empty
  rcases mdoc with format | format <;>
    simp [validateTyped, validateMsoMdocZkQuery, format, empty] at passed

theorem validateTypeAlternative_eq_ok {index : Nat} {alternative : List String}
    (passed : validateTypeAlternative index alternative = .ok ()) :
    alternative ≠ [] ∧ "" ∉ alternative := by
  unfold validateTypeAlternative at passed
  split at passed
  · cases passed
  · next absolute =>
      split_ifs at passed with base
      refine ⟨?_, fun member => ?_⟩
      · rintro rfl
        exact base rfl
      · rw [List.findIdx?_eq_none_iff] at absolute
        simpa using absolute "" member

theorem typeValues_of_validateTyped (w3c : IsW3C query.format)
    (passed : validateTyped query = .ok ()) :
    query.metaQuery.typeValues ≠ [] ∧ ∀ alternative ∈ query.metaQuery.typeValues,
      ∃ types, alternative = some types ∧ "" ∉ types := by
  have checked : (checkEach (fun index alternative => validateTypeAlternative index
      (alternative.getD [])) 0 query.metaQuery.typeValues = .ok ()) ∧
      query.metaQuery.typeValues ≠ [] := by
    rcases w3c with format | format <;>
    · simp only [validateTyped, format] at passed
      split at passed
      · cases passed
      · next checked =>
          split_ifs at passed with empty
          exact ⟨checked, empty⟩
  refine ⟨checked.2, fun alternative member => ?_⟩
  obtain ⟨position, inside, rfl⟩ := List.mem_iff_getElem.mp member
  have narrowing := validateTypeAlternative_eq_ok
    (checkEach_eq_ok_iff.mp checked.1 position _ (List.getElem?_eq_getElem inside))
  cases found : query.metaQuery.typeValues[position] with
  | none => simp [found] at narrowing
  | some types => exact ⟨types, rfl, by simpa [found] using narrowing.2⟩

def decodeTypeValues : Json → Except String (List (Option (List String))) :=
  decodeSlice (decodeNullable decodeStrings) "[][]string"

/-- What a member of `meta` does to the constraints. -/
structure MetaQuery.Sets (rawText : Json → String) (name : String) (value : Json)
    (before after : MetaQuery) : Prop where
  vctValues : if name = "vct_values" then decodeStrings value = .ok after.vctValues
    else after.vctValues = before.vctValues
  typeValues : if name = "type_values" then decodeTypeValues value = .ok after.typeValues
    else after.typeValues = before.typeValues
  doctypeValue : if name = "doctype_value" then
      decodeString before.doctypeValue value = .ok after.doctypeValue
    else after.doctypeValue = before.doctypeValue
  zkSystemType : if name = "zk_system_type" then
      decodeSystems rawText value = .ok after.zkSystemType
    else after.zkSystemType = before.zkSystemType

theorem MetaQuery.sets_of_set {before after : MetaQuery}
    (stepped : set rawText name value before = .ok after) :
    Sets rawText name value before after := by
  unfold set at stepped
  split at stepped
  case h_8 =>
    cases stepped
    constructor <;> rw [if_neg (by assumption)]
  all_goals
    obtain ⟨_, read, rfl⟩ := map_eq_ok_iff.mp stepped
    constructor <;> simp <;> exact read

variable {target : String}

/-- A slice of `meta` is that of the last member that has its name up to case. -/
theorem decodeMeta_slice {β : Type} {decode : Json → Except String β} {field : MetaQuery → β}
    (sets : ∀ {name value before after}, set rawText name value before = .ok after →
      if name = target then decode value = .ok (field after) else field after = field before)
    {start result : MetaQuery}
    (decoded : members.foldlM (fun current entry =>
      set rawText (foldName entry.1) entry.2 current) start = .ok result) :
    (lastFolded target members = none → field result = field start) ∧
      ∀ value, lastFolded target members = some value → decode value = .ok (field result) := by
  induction members generalizing start with
  | nil =>
    cases decoded
    exact ⟨fun _ => rfl, nofun⟩
  | cons entry rest ih =>
    rw [List.foldlM_cons, bind_eq_ok_iff] at decoded
    obtain ⟨next, stepped, later⟩ := decoded
    obtain ⟨unset, set⟩ := ih later
    have step := sets stepped
    rw [lastFolded]
    cases found : lastFolded target rest with
    | some value =>
      refine ⟨nofun, ?_⟩
      rintro _ ⟨⟩
      exact set value found
    | none =>
      split_ifs at step ⊢ with named
      · refine ⟨nofun, ?_⟩
        rintro _ ⟨⟩
        rw [unset found]
        exact step
      · exact ⟨fun _ => (unset found).trans step, nofun⟩

/-- A doctype comes from a member that has the name up to case. -/
theorem decodeMeta_doctypeValue {start result : MetaQuery}
    (decoded : members.foldlM (fun current entry =>
      set rawText (foldName entry.1) entry.2 current) start = .ok result) :
    result.doctypeValue = start.doctypeValue ∨ ∃ name, foldName name = "doctype_value" ∧
      (name, .str result.doctypeValue) ∈ members := by
  induction members generalizing start with
  | nil =>
    cases decoded
    exact .inl rfl
  | cons entry rest ih =>
    rw [List.foldlM_cons, bind_eq_ok_iff] at decoded
    obtain ⟨next, stepped, later⟩ := decoded
    have step := (sets_of_set stepped).doctypeValue
    rcases ih later with same | ⟨name, folded, member⟩
    · rw [same]
      split_ifs at step with named
      · obtain ⟨name, value⟩ := entry
        cases value with
        | null => exact .inl (ok.inj step).symm
        | str text =>
          cases ok.inj step
          exact .inr ⟨name, named, List.mem_cons_self⟩
        | _ => cases step
      · exact .inl step
    · exact .inr ⟨name, folded, List.mem_cons_of_mem _ member⟩

theorem exists_mem_of_lastFolded (found : lastFolded target members = some value) :
    ∃ name, foldName name = target ∧ (name, value) ∈ members := by
  induction members with
  | nil => cases found
  | cons entry rest ih =>
    rcases Option.or_eq_some_iff.mp found with later | ⟨_, here⟩
    · obtain ⟨name, folded, member⟩ := ih later
      exact ⟨name, folded, List.mem_cons_of_mem _ member⟩
    · split_ifs at here with named
      cases here
      exact ⟨entry.1, named, List.mem_cons_self⟩

/-! ## Values as validation and a wallet read them -/

variable {elements : List Json}

theorem strings_of_decodeStrings {texts : List String}
    (decoded : elements.mapM (decodeString "") = .ok texts) :
    elements = texts.map .str ↔ .null ∉ elements := by
  have pairs := mapM_eq_ok_iff.mp decoded
  induction pairs with
  | nil => simp
  | @cons element text rest others read later ih =>
    have rest := ih (mapM_eq_ok_iff.mpr later)
    cases element with
    | null => simp
    | str found =>
      cases read
      simp [rest]
    | _ => cases read

variable {type : String}

theorem arr_of_decodeSlice {α : Type} {decode : Json → Except String α}
    {results : List α} (decoded : decodeSlice decode type value = .ok results)
    (nonempty : results ≠ []) :
    ∃ elements, value = .arr elements ∧ elements.mapM decode = .ok results := by
  cases value with
  | null => exact absurd (ok.inj decoded).symm nonempty
  | arr elements => exact ⟨elements, rfl, decoded⟩
  | _ => cases decoded

theorem alternative_of_decodeStrings {types : List String}
    (decoded : decodeNullable decodeStrings value = .ok (some types)) (named : "" ∉ types) :
    value = encodeNullable (some types) := by
  cases value with
  | null => cases decoded
  | arr elements =>
    obtain ⟨texts, read, same⟩ := map_eq_ok_iff.mp decoded
    cases same
    have plain : .null ∉ elements := by
      intro member
      obtain ⟨index, inside, found⟩ := List.mem_iff_getElem.mp member
      have pair := (List.forall₂_iff_get.mp (mapM_eq_ok_iff.mp read)).2 index inside
        ((List.forall₂_iff_get.mp (mapM_eq_ok_iff.mp read)).1 ▸ inside)
      rw [List.get_eq_getElem, found] at pair
      exact named ((ok.inj pair) ▸ List.get_mem _ _)
    exact congrArg Json.arr ((strings_of_decodeStrings read).mpr plain)
  | _ => cases decoded

theorem alternatives_of_decodeTypeValues {alternatives : List (Option (List String))}
    (decoded : elements.mapM (decodeNullable decodeStrings) = .ok alternatives)
    (narrowing : ∀ alternative ∈ alternatives, ∃ types, alternative = some types ∧ "" ∉ types) :
    elements = alternatives.map encodeNullable := by
  have pairs := mapM_eq_ok_iff.mp decoded
  induction pairs with
  | nil => rfl
  | cons read later ih =>
    obtain ⟨⟨types, rfl, named⟩, others⟩ := List.forall_mem_cons.mp narrowing
    rw [List.map_cons, alternative_of_decodeStrings read named,
      ih (mapM_eq_ok_iff.mpr later) others]

/-! ## Queries that are kept as they stand -/

theorem lookupLast_reverse_of_count (once : (members.map (·.1)).count name ≤ 1) :
    lookupLast name members.reverse = lookupLast name members := by
  rw [lookupLast, List.reverse_reverse]
  induction members with
  | nil => rfl
  | cons entry rest ih =>
    obtain ⟨first, value⟩ := entry
    rw [lookupLast_cons, lookup_cons]
    rw [List.map_cons, List.count_cons] at once
    split_ifs with same
    · subst same
      have absent : lookupLast name rest = none := by
        by_contra present
        obtain ⟨found, last⟩ := Option.ne_none_iff_exists'.mp present
        have inRest : name ∈ rest.map (·.1) :=
          List.mem_map.mpr ⟨_, mem_of_lookupLast last, rfl⟩
        have := List.count_pos_iff.mpr inRest
        simp at once
        omega
      rw [absent, Option.none_or]
    · rw [Option.or_none]
      exact ih (by omega)

/-- What the checks on a raw query have established. -/
structure Constrained (members : Members) : Prop where
  format : (members.map (·.1)).count "format" ≤ 1
  metaOnce : (members.map (·.1)).count "meta" ≤ 1
  nodup : ((metaMembers members).map (·.1)).Nodup
  spelling : ∀ target ∈ ["vct_values", "doctype_value", "type_values"],
    ∀ name ∈ (metaMembers members).map (·.1), foldName name = target → name = target

theorem Constrained.find (constrained : Constrained members) (keep : Keep)
    (modelled : name = "format" ∨ name = "meta") :
    keep.find name members = lookupLast name members := by
  cases keep with
  | last => rfl
  | first =>
    refine lookupLast_reverse_of_count ?_
    rcases modelled with rfl | rfl
    · exact constrained.format
    · exact constrained.metaOnce

theorem Constrained.metaMember_eq (constrained : Constrained members)
    (keep : Keep) (name : String) :
    metaMember keep name (.obj members) = lookupLast name (metaMembers members) := by
  have nodup := constrained.nodup
  rw [metaMember, objectMembers, constrained.find _ (.inr rfl)]
  revert nodup
  unfold metaMembers
  cases lookupLast "meta" members with
  | none => exact fun _ => rfl
  | some value => exact fun nodup => Keep.find_eq nodup _ _

theorem Constrained.exact (constrained : Constrained members)
    (modelled : target ∈ ["vct_values", "doctype_value", "type_values"])
    (folded : foldName name = target)
    (member : (name, value) ∈ metaMembers members) :
    lookupLast target (metaMembers members) = some value := by
  have same := constrained.spelling target modelled name (List.mem_map.mpr ⟨_, member, rfl⟩) folded
  exact lookupLast_of_mem constrained.nodup (same ▸ member)

/-- The constraints of a raw query are those that its members set, or none. -/
theorem shadow_meta (rawText : Json → String) (members : Members) :
    (shadow rawText members).metaQuery = {} ∨
      (metaMembers members).foldlM (fun current entry =>
        set rawText (foldName entry.1) entry.2 current) {} =
        .ok (shadow rawText members).metaQuery := by
  simp only [shadow, shadowField, metaMembers]
  cases lookupLast "meta" members with
  | none => exact .inl rfl
  | some value =>
    cases value with
    | obj inner =>
      simp only [Option.map_some, Option.getD_some, objectMembers, decodeMeta, decodeStruct]
      cases inner.foldlM (fun current entry =>
        set rawText (foldName entry.1) entry.2 current) ({} : MetaQuery) with
      | error _ => exact .inl rfl
      | ok result => exact .inr rfl
    | _ => exact .inl rfl

/-- A slice that validation found in a raw query is an array in its text. -/
theorem slice_of_shadow {β : Type} {decode : Json → Except String β} {field : MetaQuery → List β}
    (sets : ∀ {name value before after}, set rawText name value before = .ok after →
      if name = target then decodeSlice decode type value = .ok (field after)
      else field after = field before)
    (empty : field {} = [])
    (nonempty : field (shadow rawText members).metaQuery ≠ []) :
    ∃ elements, lastFolded target (metaMembers members) = some (.arr elements) ∧
      elements.mapM decode = .ok (field (shadow rawText members).metaQuery) := by
  rcases shadow_meta _ _ with none | decoded
  · exact absurd (none ▸ empty) nonempty
  · obtain ⟨unset, set⟩ := decodeMeta_slice sets decoded
    cases found : lastFolded target (metaMembers members) with
    | none => exact absurd ((unset found).trans empty) nonempty
    | some value =>
      obtain ⟨elements, rfl, read⟩ := arr_of_decodeSlice (set value found) nonempty
      exact ⟨elements, rfl, read⟩

section

variable (constrained : Constrained members)

include constrained

/-- The same, for a member whose spelling has been checked. -/
theorem Constrained.slice {β : Type} {decode : Json → Except String β} {field : MetaQuery → List β}
    (modelled : target ∈ ["vct_values", "doctype_value", "type_values"])
    (sets : ∀ {name value before after}, set rawText name value before = .ok after →
      if name = target then decodeSlice decode type value = .ok (field after)
      else field after = field before)
    (empty : field {} = [])
    (nonempty : field (shadow rawText members).metaQuery ≠ []) :
    ∃ elements, lookupLast target (metaMembers members) = some (.arr elements) ∧
      elements.mapM decode = .ok (field (shadow rawText members).metaQuery) := by
  obtain ⟨elements, last, read⟩ := slice_of_shadow sets empty nonempty
  obtain ⟨name, folded, member⟩ := exists_mem_of_lastFolded last
  exact ⟨elements, constrained.exact modelled folded member, read⟩

/-! Each part of the reading of a raw query, against the condition for it. -/

section

variable (passed : validateTyped (shadow rawText members) = .ok ())

include passed

theorem Constrained.typeValues (w3c : IsW3C (formatText members)) (keep : Keep) :
    metaMember keep "type_values" (.obj members) = some (.arr
      ((shadow rawText members).metaQuery.typeValues.map encodeNullable)) := by
  obtain ⟨nonempty, narrowing⟩ := typeValues_of_validateTyped w3c passed
  obtain ⟨elements, found, read⟩ := constrained.slice (by decide)
    (fun set => (sets_of_set set).typeValues) rfl nonempty
  rw [constrained.metaMember_eq, found, alternatives_of_decodeTypeValues read narrowing]

theorem Constrained.doctypeValue
    (mdoc : formatText members = "mso_mdoc" ∨ formatText members = "mso_mdoc_zk") (keep : Keep) :
    metaMember keep "doctype_value" (.obj members) =
      some (.str (shadow rawText members).metaQuery.doctypeValue) := by
  have nonempty := doctypeValue_of_validateTyped mdoc passed
  rw [constrained.metaMember_eq]
  rcases shadow_meta _ _ with none | decoded
  · exact absurd (congrArg MetaQuery.doctypeValue none) nonempty
  · rcases decodeMeta_doctypeValue decoded with unset | ⟨name, folded, member⟩
    · exact absurd unset nonempty
    · exact constrained.exact (by decide) folded member

end

end

variable {systems : List ZKSystemTypeSpec} {entries : List Json}

variable {encoded : Json}

variable {spec : ZKSystemTypeSpec}

end Judged

end Vc.Openid4vp
