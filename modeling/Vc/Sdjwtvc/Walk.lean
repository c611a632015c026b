import Vc.Sdjwtvc.Resolve

/-!
# The walk over a payload

What a reader sees of a payload is determined by the values its walk reaches:
`Lookup.resolve_congr` compares two readers on those values only.  Whether the
markers of undisclosed elements survive is a matter of the reached arrays as
well (`Lookup.LeavesMarker`).
-/

namespace Vc.Sdjwtvc

open Entries Option

namespace Lookup

variable {lookup : Lookup} {value result : Json} {fuel : Nat}

theorem resolve_succ (resolved : lookup.resolve fuel value = some result) :
    lookup.resolve (fuel + 1) value = some result := by
  induction fuel generalizing value result with
  | zero => simp at resolved
  | succ fuel ih =>
    cases value with
    | obj node =>
      obtain ⟨members, walked, rfl⟩ := map_eq_some_iff.mp resolved
      exact map_eq_some_iff.mpr ⟨members, mapValues?_mono (fun _ _ => ih) walked, rfl⟩
    | arr elements =>
      obtain ⟨results, walked, rfl⟩ := map_eq_some_iff.mp resolved
      refine map_eq_some_iff.mpr ⟨results, ?_, rfl⟩
      rw [mapM_eq_some_iff] at walked ⊢
      exact walked.imp fun _ _ => ih
    | _ => exact resolved

/-- More fuel does not change a result. -/
theorem resolve_mono {more : Nat} (le : fuel ≤ more)
    (resolved : lookup.resolve fuel value = some result) :
    lookup.resolve more value = some result := by
  induction le with
  | refl => exact resolved
  | step _ ih => exact resolve_succ ih

theorem resolve_unique {other : Nat} {first second : Json}
    (resolvedFirst : lookup.resolve fuel value = some first)
    (resolvedSecond : lookup.resolve other value = some second) : first = second := by
  rcases Nat.le_total _ _ with le | le
  · exact some.inj ((resolve_mono le resolvedFirst).symm.trans resolvedSecond)
  · exact some.inj (resolvedFirst.symm.trans (resolve_mono le resolvedSecond))

/-! ## One level -/

theorem lookup_insertDisclosed_or {node : Members} {name : String} (plain : name ≠ "_sd")
    (notAlgorithm : name ≠ "_sd_alg") :
    (lookup.insertDisclosed node).lookup name =
      (((sdDigests node).filterMap lookup.member).reverse.lookup name).or (node.lookup name) := by
  rw [insertDisclosed, lookup_without, if_neg notAlgorithm, lookup_without, if_neg plain]
  generalize sdDigests node = digests
  induction digests generalizing node with
  | nil => rfl
  | cons digest rest ih =>
    rw [List.foldl_cons, ih, insertClaim, List.filterMap_cons]
    cases lookup.member digest with
    | none => rfl
    | some claim =>
      rw [List.reverse_cons, List.lookup_append, Option.or_assoc, lookup_put, lookup_cons]
      split_ifs <;> rfl

/-- A member that no disclosed claim touches stays. -/
theorem lookup_insertDisclosed {node : Members} {name : String}
    (plain : name ≠ "_sd") (notAlgorithm : name ≠ "_sd_alg")
    (untouched : ∀ digest ∈ sdDigests node, ∀ claim value,
      lookup.member digest = some (claim, value) → claim ≠ name) :
    (lookup.insertDisclosed node).lookup name = node.lookup name := by
  rw [lookup_insertDisclosed_or plain notAlgorithm, lookup_eq_none_of_fresh, none_or]
  simpa using fun value digest inNode found => untouched _ inNode _ _ found rfl

/-! ## Reached values -/

/-- The values that the walk from `root` visits, before their own resolution. -/
inductive Reaches (lookup : Lookup) (root : Json) : Json → Prop
  | root : Reaches lookup root root
  | member {node : Members} {entry : String × Json} (reached : Reaches lookup root (.obj node))
      (inserted : entry ∈ lookup.insertDisclosed node) : Reaches lookup root entry.2
  | element {elements : List Json} {element : Json} (reached : Reaches lookup root (.arr elements))
      (inArray : element ∈ elements) : Reaches lookup root (lookup.opened element)

theorem Reaches.trans {root middle : Json} (first : lookup.Reaches root middle)
    (second : lookup.Reaches middle value) : lookup.Reaches root value := by
  induction second with
  | root => exact first
  | member _ inserted ih => exact .member ih inserted
  | element _ inArray ih => exact .element ih inArray

end Lookup

/-! ## Leftover markers -/

/-- Some array in the value has a marker among its elements. -/
inductive HasMarker : Json → Prop
  | here {elements : List Json} {element : Json} (inArray : element ∈ elements)
      (marker : isMarker element = true) : HasMarker (.arr elements)
  | element {elements : List Json} {element : Json} (inArray : element ∈ elements)
      (below : HasMarker element) : HasMarker (.arr elements)
  | member {members : Members} {entry : String × Json} (inObject : entry ∈ members)
      (below : HasMarker entry.2) : HasMarker (.obj members)

variable {members : Members}

variable {value : Json}

theorem isMarker_obj_iff : isMarker (.obj members) = true ↔ members.map Prod.fst = ["..."] := by
  match members with
  | [] => simp [isMarker]
  | [(name, value)] => simp [isMarker]
  | first :: second :: rest => simp [isMarker]

namespace Lookup

variable {lookup : Lookup}

/-- A value after the first level of its resolution. -/
def stripped (lookup : Lookup) : Json → Json
  | .obj node => .obj (lookup.insertDisclosed node)
  | value => value

variable {fuel : Nat}

theorem isMarker_resolve {result : Json} (resolved : lookup.resolve fuel value = some result) :
    isMarker result = isMarker (lookup.stripped value) := by
  cases fuel with
  | zero => simp at resolved
  | succ fuel =>
    cases value with
    | obj node =>
      obtain ⟨members, walked, rfl⟩ := map_eq_some_iff.mp resolved
      rw [Bool.eq_iff_iff, stripped, isMarker_obj_iff, isMarker_obj_iff, keys_mapValues? walked]
    | arr elements =>
      obtain ⟨results, walked, rfl⟩ := map_eq_some_iff.mp resolved
      rfl
    | _ =>
      cases resolved
      rfl

variable {result : Json}

/-- Some reached array holds an element that stands for a marker. -/
def LeavesMarker (lookup : Lookup) (root : Json) : Prop :=
  ∃ elements, lookup.Reaches root (.arr elements) ∧
    ∃ element ∈ elements, isMarker (lookup.stripped (lookup.opened element)) = true

theorem leavesMarker_of_hasMarker {root : Json}
    (resolved : lookup.resolve fuel root = some result) (marked : HasMarker result) :
    lookup.LeavesMarker root := by
  induction fuel generalizing root result with
  | zero => simp at resolved
  | succ fuel ih =>
    cases root with
    | obj node =>
      obtain ⟨members, walked, rfl⟩ := map_eq_some_iff.mp resolved
      cases marked with
      | member inObject below =>
        obtain ⟨value, inserted, answered⟩ := exists_mem_of_mapValues? walked inObject
        obtain ⟨elements, reached, found⟩ := ih answered below
        exact ⟨elements, Reaches.trans (.member .root inserted) reached, found⟩
    | arr elements =>
      obtain ⟨results, walked, rfl⟩ := map_eq_some_iff.mp resolved
      cases marked with
      | here inArray marker =>
        obtain ⟨element, inElements, answered⟩ := exists_mem_of_mapM walked inArray
        exact ⟨elements, .root, element, inElements, (isMarker_resolve answered).symm.trans marker⟩
      | element inArray below =>
        obtain ⟨element, inElements, answered⟩ := exists_mem_of_mapM walked inArray
        obtain ⟨found, reached, rest⟩ := ih answered below
        exact ⟨found, Reaches.trans (.element .root inElements) reached, rest⟩
    | _ =>
      cases resolved
      cases marked

/-! ## Walking again -/

theorem insertDisclosed_of_fresh {members : Members} (noSd : "_sd" ∉ members.map Prod.fst)
    (noAlg : "_sd_alg" ∉ members.map Prod.fst) : lookup.insertDisclosed members = members := by
  have noDigests : sdDigests members = [] := by rw [sdDigests, lookup_eq_none_of_fresh noSd]
  rw [insertDisclosed, noDigests, List.foldl_nil, without_of_fresh noSd, without_of_fresh noAlg]

/-- A result without markers does not change when it is resolved again. -/
theorem resolve_resolved {root : Json} (resolved : lookup.resolve fuel root = some result)
    (unmarked : ¬ HasMarker result) : lookup.resolve fuel result = some result := by
  induction fuel generalizing root result with
  | zero => simp at resolved
  | succ fuel ih =>
    cases root with
    | obj node =>
      obtain ⟨members, walked, rfl⟩ := map_eq_some_iff.mp resolved
      have keys := keys_mapValues? walked
      have kept : lookup.insertDisclosed members = members := by
        apply insertDisclosed_of_fresh <;> rw [keys] <;> simp [insertDisclosed, without]
      have again : mapValues? (lookup.resolve fuel) members = some members := by
        rw [mapValues?_eq_some_iff, List.forall₂_same]
        intro entry inObject
        obtain ⟨_, _, answered⟩ := exists_mem_of_mapValues? walked inObject
        exact ⟨rfl, ih answered fun below => unmarked (.member inObject below)⟩
      rw [resolve_obj, resolveNode, kept, again, map_some]
    | arr elements =>
      obtain ⟨results, walked, rfl⟩ := map_eq_some_iff.mp resolved
      have again : (results.mapM fun element => lookup.resolve fuel (lookup.opened element)) =
          some results := by
        rw [mapM_eq_some_iff, List.forall₂_same]
        intro element inArray
        obtain ⟨_, _, answered⟩ := exists_mem_of_mapM walked inArray
        have closed : markerDigest element = none := by
          rw [eq_none_iff_forall_ne_some]
          exact fun digest marked => unmarked (.here inArray (isMarker_of_markerDigest marked))
        rw [opened, closed]
        exact ih answered fun below => unmarked (.element inArray below)
      rw [resolve_arr, again, map_some]
    | _ =>
      cases resolved
      rfl

end Lookup

end Vc.Sdjwtvc
