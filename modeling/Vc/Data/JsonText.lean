import Vc.Data.JsonTree

/-!
# JSON texts

A JSON text can name a member of an object more than once, and readers differ
in which of the values they keep.  Here the members of an object are those of
the text, in its order; `normalise` is the value that a last-wins reader builds,
and `SameValue` relates texts that no reader can tell apart.
-/

namespace Vc.Json

open Entries Option

/-- The values that an object gives to a name, in their order. -/
def valuesOf (name : String) (members : Members) : List Json :=
  (members.filter (·.1 = name)).map (·.2)

/-- The last value of a name. -/
def lookupLast (name : String) (members : Members) : Option Json :=
  members.reverse.lookup name

/-- Two texts denote the same value: the same members at every depth, repeated ones in their
order, and the same literals. -/
inductive SameValue : Json → Json → Prop
  | scalar {value : Json} (scalar : value.IsScalar) : SameValue value value
  | arr {first second : List Json} (length : first.length = second.length)
      (each : ∀ (index : Nat) (left right : Json), first[index]? = some left →
        second[index]? = some right → SameValue left right) :
      SameValue (.arr first) (.arr second)
  | obj {first second : Members}
      (length : ∀ name, (valuesOf name first).length = (valuesOf name second).length)
      (each : ∀ (name : String) (index : Nat) (left right : Json),
        (valuesOf name first)[index]? = some left → (valuesOf name second)[index]? = some right →
          SameValue left right) :
      SameValue (.obj first) (.obj second)

mutual
/-- Some object of the value names a member twice. -/
def hasRepeats : Json → Bool
  | .arr elements => anyRepeats elements
  | .obj members => decide (¬(members.map (·.1)).Nodup) || anyMemberRepeats members
  | _ => false

/-- Some element has repeated members. -/
def anyRepeats : List Json → Bool
  | [] => false
  | first :: rest => hasRepeats first || anyRepeats rest

def anyMemberRepeats : Members → Bool
  | [] => false
  | (_, value) :: rest => hasRepeats value || anyMemberRepeats rest
end

mutual
/-- The value that a reader builds that keeps the last of repeated members. -/
def normalise : Json → Json
  | .arr elements => .arr (normaliseElements elements)
  | .obj members => .obj (normaliseMembers members)
  | .null => .null
  | .bool value => .bool value
  | .num literal => .num literal
  | .str text => .str text

def normaliseElements : List Json → List Json
  | [] => []
  | first :: rest => normalise first :: normaliseElements rest

def normaliseMembers : Members → Members
  | [] => []
  | (name, value) :: rest =>
    if ((normaliseMembers rest).lookup name).isSome then normaliseMembers rest
    else put name (normalise value) (normaliseMembers rest)
end

/-- No object of the value names a member twice. -/
abbrev NoRepeats : Json → Prop :=
  EveryObject fun members => (members.map (·.1)).Nodup

/-! ## Repeated members -/

@[simp]
theorem anyRepeats_eq_false_iff {elements : List Json} :
    anyRepeats elements = false ↔ ∀ element ∈ elements, hasRepeats element = false := by
  induction elements with
  | nil => simp [anyRepeats]
  | cons first rest ih => simp [anyRepeats, ih]

variable {members : Members}

@[simp]
theorem anyMemberRepeats_eq_false_iff :
    anyMemberRepeats members = false ↔ ∀ entry ∈ members, hasRepeats entry.2 = false := by
  induction members with
  | nil => simp [anyMemberRepeats]
  | cons first rest ih =>
    rw [anyMemberRepeats, Bool.or_eq_false_iff, ih, List.forall_mem_cons]

variable {value : Json}

theorem hasRepeats_eq_false_iff : hasRepeats value = false ↔ NoRepeats value := by
  induction value using induct with
  | arr elements ih =>
    rw [hasRepeats, anyRepeats_eq_false_iff]
    constructor
    · intro none
      exact .arr fun element member => (ih _ member).mp (none _ member)
    · intro none element member
      exact (ih _ member).mpr (none.element member)
  | obj members ih =>
    rw [hasRepeats, Bool.or_eq_false_iff, anyMemberRepeats_eq_false_iff, decide_eq_false_iff_not,
      not_not]
    constructor
    · rintro ⟨here, below⟩
      exact .obj here fun entry member => (ih _ member).mp (below _ member)
    · intro none
      exact ⟨none.members, fun entry member =>
        (ih _ member).mpr (none.member member)⟩
  | _ => exact ⟨fun _ => .scalar trivial, fun _ => rfl⟩

/-! ## Normal forms -/

@[simp]
theorem normaliseElements_eq_map (elements : List Json) :
    normaliseElements elements = elements.map normalise := by
  induction elements with
  | nil => rfl
  | cons first rest ih => rw [normaliseElements, ih, List.map_cons]

theorem lookupLast_cons (name first : String) (value : Json) (rest : Members) :
    lookupLast name ((first, value) :: rest) =
      (lookupLast name rest).or (if name = first then some value else none) := by
  rw [lookupLast, List.reverse_cons, List.lookup_append]
  rw [lookup_cons]
  rfl

theorem ordered_normaliseMembers (members : Members) : Ordered (normaliseMembers members) := by
  induction members with
  | nil => exact List.Pairwise.nil
  | cons first rest ih =>
    obtain ⟨name, value⟩ := first
    rw [normaliseMembers]
    split_ifs
    · exact ih
    · exact ih.put _ _

/-- A last-wins reader finds the last value of a name. -/
theorem lookup_normaliseMembers (members : Members) (name : String) :
    (normaliseMembers members).lookup name = (lookupLast name members).map normalise := by
  induction members with
  | nil => rfl
  | cons first rest ih =>
    obtain ⟨firstName, value⟩ := first
    rw [normaliseMembers, lookupLast_cons]
    split_ifs with later same same
    · subst same
      rw [ih, isSome_map] at later
      rw [ih, or_of_isSome later]
    · rw [ih, or_none]
    · subst same
      have absent : lookupLast name rest = none := by
        rw [ih] at later
        simpa using later
      rw [lookup_put, if_pos rfl, absent, none_or, map_some]
    · rw [lookup_put, if_neg same, ih, or_none]

/-! ## Texts without repeated members -/

section

variable (nodup : (members.map (·.1)).Nodup)

include nodup

variable (name : String)

theorem valuesOf_of_nodup : valuesOf name members = (members.lookup name).toList := by
  induction members with
  | nil => rfl
  | cons first rest ih =>
    obtain ⟨firstName, value⟩ := first
    rw [List.map_cons, List.nodup_cons] at nodup
    rw [lookup_cons]
    by_cases same : name = firstName
    · subst same
      have rest : valuesOf name rest = [] := by
        rw [valuesOf, List.map_eq_nil_iff, List.filter_eq_nil_iff]
        intro entry member equal
        exact nodup.1 (List.mem_map.mpr ⟨entry, member, of_decide_eq_true equal⟩)
      rw [if_pos rfl, valuesOf, List.filter_cons_of_pos (by simp)]
      exact congrArg _ rest
    · rw [if_neg same, ← ih nodup.2, valuesOf,
        List.filter_cons_of_neg (by simpa using Ne.symm same)]
      rfl

theorem lookupLast_of_nodup : lookupLast name members = members.lookup name := by
  have nodupReverse : (members.reverse.map (·.1)).Nodup := by
    rwa [List.map_reverse, List.nodup_reverse]
  refine Option.ext fun value => ?_
  rw [lookupLast, lookup_eq_some_iff_of_nodup nodupReverse, lookup_eq_some_iff_of_nodup nodup,
    List.mem_reverse]

/-- Without repeated members a reader that keeps the last value of a name finds every member. -/
theorem lookupLast_of_mem {name : String}
    (member : (name, value) ∈ members) : lookupLast name members = some value := by
  have found : value ∈ valuesOf name members :=
    List.mem_map.mpr ⟨(name, value), List.mem_filter.mpr ⟨member, by simp⟩, rfl⟩
  rw [valuesOf_of_nodup nodup, mem_toList] at found
  rw [lookupLast_of_nodup nodup]
  exact found

theorem lookupLast_reverse : lookupLast name members.reverse = lookupLast name members := by
  rw [lookupLast_of_nodup nodup, lookupLast, List.reverse_reverse]

end

/-- Texts without repeated members that a last-wins reader cannot tell apart denote the same
value. -/
theorem sameValue_of_normalise_eq {first second : Json} (plainFirst : NoRepeats first)
    (plainSecond : NoRepeats second) (same : normalise first = normalise second) :
    SameValue first second := by
  induction first using induct generalizing second with
  | arr elements ih =>
    cases second with
    | arr others =>
      rw [normalise, normalise, arr.injEq] at same
      refine .arr (by simpa using congrArg List.length same) ?_
      intro index left right atLeft atRight
      refine ih _ (List.mem_of_getElem? atLeft) (plainFirst.element (List.mem_of_getElem? atLeft))
        (plainSecond.element (List.mem_of_getElem? atRight)) ?_
      have equal := congrArg (·[index]?) same
      simpa [atLeft, atRight] using equal
    | _ => simp [normalise] at same
  | obj members ih =>
    cases second with
    | obj others =>
      rw [normalise, normalise, obj.injEq] at same
      have equal (name : String) :
          (members.lookup name).map normalise = (others.lookup name).map normalise := by
        rw [← lookupLast_of_nodup plainFirst.members, ← lookupLast_of_nodup plainSecond.members,
          ← lookup_normaliseMembers, same, lookup_normaliseMembers]
      refine .obj (fun name => ?_) ?_
      · rw [valuesOf_of_nodup plainFirst.members, valuesOf_of_nodup plainSecond.members]
        have present := congrArg isSome (equal name)
        revert present
        cases members.lookup name <;> cases others.lookup name <;> simp
      · intro name index left right atLeft atRight
        rw [valuesOf_of_nodup plainFirst.members] at atLeft
        rw [valuesOf_of_nodup plainSecond.members] at atRight
        have inFirst : members.lookup name = some left :=
          mem_toList.mp (List.mem_of_getElem? atLeft)
        have inSecond : others.lookup name = some right :=
          mem_toList.mp (List.mem_of_getElem? atRight)
        refine ih _ (mem_of_lookup inFirst) (plainFirst.member (mem_of_lookup inFirst))
          (plainSecond.member (mem_of_lookup inSecond)) ?_
        have same := equal name
        rw [inFirst, inSecond] at same
        exact some.inj same
    | _ => simp [normalise] at same
  | null => cases second <;> simp [normalise] at same; exact .scalar trivial
  | bool value | num literal | str text =>
    cases second <;> simp [normalise] at same; subst same; exact .scalar trivial

theorem SameValue.refl (value : Json) : SameValue value value := by
  induction value using induct with
  | arr elements ih =>
    refine .arr rfl fun index left right atLeft atRight => ?_
    cases some.inj (atLeft.symm.trans atRight)
    exact ih _ (List.mem_of_getElem? atLeft)
  | obj members ih =>
    refine .obj (fun _ => rfl) fun name index left right atLeft atRight => ?_
    cases some.inj (atLeft.symm.trans atRight)
    have member := List.mem_of_getElem? atLeft
    rw [valuesOf, List.mem_map] at member
    obtain ⟨entry, inMembers, rfl⟩ := member
    exact ih _ (List.mem_of_mem_filter inMembers)
  | _ => exact .scalar trivial

theorem mem_of_lookupLast {name : String}
    (found : lookupLast name members = some value) : (name, value) ∈ members :=
  List.mem_reverse.mp (mem_of_lookup found)

/-- The normal form is as a decoder builds values. -/
theorem wellFormed_normalise (value : Json) : WellFormed (normalise value) := by
  induction value using induct with
  | arr elements ih =>
    rw [normalise, normaliseElements_eq_map]
    refine .arr fun element member => ?_
    obtain ⟨source, inElements, rfl⟩ := List.mem_map.mp member
    exact ih _ inElements
  | obj members ih =>
    refine .obj (ordered_normaliseMembers _) fun entry member => ?_
    have found := (ordered_normaliseMembers members).lookup_eq_some_iff.mpr member
    rw [lookup_normaliseMembers] at found
    obtain ⟨source, last, same⟩ := map_eq_some_iff.mp found
    exact same ▸ ih _ (mem_of_lookupLast last)
  | _ => exact .scalar trivial

theorem nodup_of_ordered (ordered : Ordered members) : (members.map (·.1)).Nodup :=
  List.pairwise_map.mpr (ordered.imp fun less => ne_of_lt less)

theorem WellFormed.noRepeats (wellFormed : WellFormed value) : NoRepeats value :=
  wellFormed.mono fun _ => nodup_of_ordered

end Vc.Json
