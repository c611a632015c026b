import Vc.Data.Float64
import Vc.Data.JsonText
import Vc.Sdjwtvc.Issuance

/-!
# Validation of document data

`ValidateDocument` asks for the mandatory claims of the type metadata, apart from
those that the issuer supplies when it signs.  A null segment of a path selects
all elements of an array, but at the end of a path the elements are not looked at.
-/

namespace Vc.Sdjwtvc.Validation

open Json List

structure MetadataClaim extends Claim where
  mandatory : Bool
  /-- The path is nil, not only empty. -/
  nilPath : Bool := false
  empty : nilPath = true → path = [] := by simp

structure ValidationError where
  field : String
  message : String
  deriving DecidableEq

inductive DocumentError
  | invalid
  | nilClaims
  | validation (errors : List ValidationError)
  deriving DecidableEq

/-! ## The code -/

def jsonPath (claim : MetadataClaim) : String :=
  if claim.nilPath then ""
  else "$" ++ String.join (claim.path.map fun segment => (segment.map ("." ++ ·)).getD "[*]")

def lookupPath : List (Option String) → Json → Option Json
  | [], current => some current
  | [none], .arr elements => some (.arr elements)
  | none :: rest, .arr elements =>
    (elements.mapM fun item => (lookupPath rest item).filter (· ≠ .null)).map .arr
  | some key :: rest, .obj members => do
    lookupPath rest (← lookupLast key members)
  | _, _ => none

def getClaimValue (claims : Json) (path : List (Option String)) : Option Json :=
  if path = [] then none else lookupPath path claims

def isIssuerSuppliedClaim : List (Option String) → Bool
  | [some name] => name ∈ ["iss", "nbf", "exp", "cnf", "vct", "status", "iat"]
  | _ => false

/-- The errors of both loops of `validateClaims`; every value of JSON is of a supported type. -/
def validateClaims (claims : Json) (vctm : List MetadataClaim) (skipIssuerSupplied : Bool) :
    List ValidationError :=
  (vctm.filter fun claim => claim.mandatory &&
      !(skipIssuerSupplied && isIssuerSuppliedClaim claim.path) &&
      getClaimValue claims claim.path = none).map
    (fun claim => ⟨jsonPath claim, "mandatory claim is missing"⟩) ++
  (vctm.filter fun claim => claim.mandatory && getClaimValue claims claim.path = some .null).map
    fun claim => ⟨jsonPath claim, "value is nil but claim is mandatory"⟩

/-! `json.Unmarshal` reads numbers as `float64` and limits the nesting. -/

def inRange (literal : String) : Bool :=
  (Float64.literalValue literal).any fun value => |Float64.nearest value| < 2 ^ 1024

mutual

def decodes : (depth : Nat) → Json → Bool
  | depth, .arr elements => 0 < depth && decodesElements (depth - 1) elements
  | depth, .obj members => 0 < depth && decodesMembers (depth - 1) members
  | _, .num literal => inRange literal
  | _, _ => true

def decodesElements : (depth : Nat) → List Json → Bool
  | _, [] => true
  | depth, first :: rest => decodes depth first && decodesElements depth rest

def decodesMembers : (depth : Nat) → Members → Bool
  | _, [] => true
  | depth, (_, value) :: rest => decodes depth value && decodesMembers depth rest

end

def validateDocument (documentData : Json) (vctm : List MetadataClaim) :
    Except DocumentError Unit :=
  match documentData with
  | .null => .error .nilClaims
  | .obj members =>
    if !decodes 10000 documentData then .error .invalid
    else
      let errors := validateClaims (.obj members) vctm true
      if errors.isEmpty then .ok () else .error (.validation errors)
  | _ => .error .invalid

/-! ## What a path selects -/

/-- The path resolves, a null segment in every element of an array, to values that are not null; the
elements that a last null segment selects meet a condition of their own. -/
def Selects (last : List Json → Prop) : List (Option String) → Json → Prop
  | [], value => value ≠ .null
  | [none], .arr elements => last elements
  | none :: rest, .arr elements => ∀ element ∈ elements, Selects last rest element
  | some key :: rest, .obj members =>
    ∃ value, lookupLast key members = some value ∧ Selects last rest value
  | _, _ => False

variable {path : List (Option String)} {value : Json}

/-- Paths that end in a name do not look at the condition on elements. -/
theorem Selects.imp {last other : List Json → Prop}
    (implies : path.getLast? = some none → ∀ elements, last elements → other elements)
    (selects : Selects last path value) : Selects other path value := by
  fun_induction Selects _ path value with
  | case1 value => exact selects
  | case2 elements => exact implies rfl elements selects
  | case3 rest elements notLast ih =>
    rw [getLast?_cons_of_ne_nil notLast] at implies
    rw [Selects]
    · exact fun element member => ih _ implies (selects _ member)
    · exact notLast
  | case4 key rest members ih =>
    obtain ⟨value, found, selects⟩ := selects
    refine ⟨value, found, ih _ (fun ends => implies ?_) selects⟩
    rw [getLast?_cons, ends, Option.getD_some]
  | case5 => exact selects.elim

theorem isSome_mapM {f : Json → Option Json} {elements : List Json} :
    (elements.mapM f).isSome ↔ ∀ element ∈ elements, (f element).isSome := by
  induction elements with
  | nil => simp
  | cons first rest ih =>
    rw [forall_mem_cons, ← ih, mapM_cons]
    cases f first <;> cases rest.mapM f <;> simp

/-- What the code finds at the end of a path it does not look into. -/
theorem selects_iff_lookupPath :
    Selects (fun _ => True) path value ↔ (lookupPath path value).any (· ≠ .null) := by
  fun_induction lookupPath path value with
  | case1 current | case2 elements | case5 => simp [Selects]
  | case3 rest elements notLast ih =>
    have shown (found : Option (List Json)) :
        (found.map Json.arr).any (· ≠ .null) = found.isSome := by
      cases found <;> rfl
    rw [Selects]
    · simp only [shown, isSome_mapM, Option.isSome_filter, ih]
    · exact notLast
  | case4 key rest members ih =>
    rw [Selects]
    cases lookupLast key members with
    | none => simp
    | some found => simpa using ih _

/-! ## Exactness -/

/-- A mandatory claim that the document has to have. -/
def MetadataClaim.required (claim : MetadataClaim) : Bool :=
  claim.mandatory && !isIssuerSuppliedClaim claim.path

variable (documentData : Json) (vctm : List MetadataClaim)

/-- The paths of the claims that are required select as they should. -/
def Provides (last : List Json → Prop) : Prop :=
  ∀ claim ∈ vctm, claim.required → claim.path ≠ [] ∧ Selects last claim.path documentData

/-- Every claim that is required is present. -/
abbrev Complete : Prop :=
  Provides documentData vctm fun elements => .null ∉ elements

/-- Every claim that is required resolves, whatever a last null segment selects. -/
abbrev Resolves : Prop :=
  Provides documentData vctm fun _ => True

/-- No null is selected by a last null segment. -/
def ElementsPresent : Prop :=
  ∀ claim ∈ vctm, claim.required → claim.path.getLast? = some none →
    Selects (fun elements => .null ∉ elements) claim.path documentData

/-- The document is an object that can be decoded, and no member of it is a mandatory claim that is
null. -/
def Admissible : Prop :=
  ∃ members, documentData = .obj members ∧ decodes 10000 documentData ∧
    ∀ claim ∈ vctm, claim.mandatory → ∀ key, claim.path = [some key] →
      lookupLast key members ≠ some .null

variable {documentData vctm}

theorem complete_iff :
    Complete documentData vctm ↔
      Resolves documentData vctm ∧ ElementsPresent documentData vctm := by
  constructor
  · intro complete
    refine ⟨fun claim member required => ?_, fun claim member required _ =>
      (complete _ member required).2⟩
    obtain ⟨nonempty, present⟩ := complete claim member required
    exact ⟨nonempty, present.imp fun _ _ _ => trivial⟩
  · rintro ⟨resolves, elements⟩ claim member required
    obtain ⟨nonempty, selects⟩ := resolves claim member required
    refine ⟨nonempty, ?_⟩
    by_cases ends : claim.path.getLast? = some none
    · exact elements _ member required ends
    · exact selects.imp fun last => absurd last ends

variable {members : Members}

/-- What both loops ask of a claim. -/
theorem validateClaims_eq_nil_iff :
    validateClaims (.obj members) vctm true = [] ↔ ∀ claim ∈ vctm,
      (claim.mandatory → ∀ key, claim.path = [some key] → lookupLast key members ≠ some .null) ∧
        (claim.required → claim.path ≠ [] ∧ Selects (fun _ => True) claim.path (.obj members)) := by
  simp only [validateClaims, append_eq_nil_iff, map_eq_nil_iff, filter_eq_nil_iff, ← forall₂_and]
  refine forall₂_congr fun claim _ => ?_
  have named : ∀ key, claim.path = [some key] →
      lookupPath claim.path (.obj members) = lookupLast key members := by
    intro key same
    simp [same, lookupPath]
  rw [MetadataClaim.required, selects_iff_lookupPath, getClaimValue]
  cases claim.mandatory with
  | false => simp
  | true =>
    cases supplied : isIssuerSuppliedClaim claim.path with
    | true =>
      unfold isIssuerSuppliedClaim at supplied
      split at supplied
      · next key same => simp [same, lookupPath]
      · cases supplied
    | false =>
      by_cases empty : claim.path = []
      · simp [empty]
      · cases found : lookupPath claim.path (.obj members) <;> grind

theorem validateDocument_iff :
    validateDocument documentData vctm = .ok () ↔
      Admissible documentData vctm ∧ Resolves documentData vctm := by
  unfold validateDocument Admissible
  split
  · simp
  · next members =>
    split_ifs with undecoded
    · simp_all
    · simp_all [validateClaims_eq_nil_iff, Provides, forall_and]
  · next notObject => simp_all

/-- Validation is exact where, of the documents in which the required claims resolve, those that are
taken are those without a null that a last null segment selects. -/
theorem validate_document_exact_iff :
    (validateDocument documentData vctm = .ok () ↔ Complete documentData vctm) ↔
      (Resolves documentData vctm →
        (Admissible documentData vctm ↔ ElementsPresent documentData vctm)) := by
  rw [validateDocument_iff, complete_iff, and_comm, and_congr_right_iff]

/-- A null that only a last null segment selects. -/
theorem null_element_accepted :
    let claim : MetadataClaim := { path := [some "a", none], sd := "", mandatory := true }
    validateDocument (.obj [("a", .arr [.null])]) [claim] = .ok () ∧
      ¬Complete (.obj [("a", .arr [.null])]) [claim] := by
  intro claim
  refine ⟨by decide +kernel, fun complete => ?_⟩
  obtain ⟨_, _, found, present⟩ := complete claim mem_cons_self rfl
  cases found
  exact present mem_cons_self

end Vc.Sdjwtvc.Validation
