import Vc.Data.Entries
import Vc.Data.Json

/-!
# JSON values as trees

Objects are finite maps from names to values, kept as ordered entries.  The
recursor of the nested type is replaced by `Json.induct`, whose hypotheses
speak about the members and elements of a value.
-/

namespace Vc

open List

/-- The members of an object. -/
abbrev Members := List (String × Json)

namespace Json

/-- Induction over a value, with a hypothesis for each of its parts. -/
@[elab_as_elim]
theorem induct {motive : Json → Prop} (null : motive .null)
    (bool : ∀ value, motive (.bool value)) (num : ∀ literal, motive (.num literal))
    (str : ∀ text, motive (.str text))
    (arr : ∀ elements, (∀ element ∈ elements, motive element) → motive (.arr elements))
    (obj : ∀ members : Members, (∀ entry ∈ members, motive entry.2) → motive (.obj members))
    (json : Json) : motive json := by
  refine @Json.rec motive (fun elements => ∀ element ∈ elements, motive element)
    (fun members => ∀ entry ∈ members, motive entry.2) (fun entry => motive entry.2)
    null bool num str arr obj ?_ ?_ ?_ ?_ (fun _ _ value => value) json
  · exact fun _ member => absurd member not_mem_nil
  · intro first rest head tail
    exact forall_mem_cons.mpr ⟨head, tail⟩
  · exact fun _ member => absurd member not_mem_nil
  · intro first rest head tail
    exact forall_mem_cons.mpr ⟨head, tail⟩

mutual
/-- Decide the equality of two values. -/
def decEq : (first second : Json) → Decidable (first = second)
  | .null, .null => isTrue rfl
  | .bool first, .bool second => decidable_of_iff (first = second) (by simp)
  | .num first, .num second => decidable_of_iff (first = second) (by simp)
  | .str first, .str second => decidable_of_iff (first = second) (by simp)
  | .arr first, .arr second =>
    match decEqElements first second with
    | isTrue equal => isTrue (congrArg _ equal)
    | isFalse different => isFalse fun equal => different (arr.inj equal)
  | .obj first, .obj second =>
    match decEqMembers first second with
    | isTrue equal => isTrue (congrArg _ equal)
    | isFalse different => isFalse fun equal => different (obj.inj equal)
  | .null, .bool _ | .null, .num _ | .null, .str _ | .null, .arr _ | .null, .obj _
  | .bool _, .null | .bool _, .num _ | .bool _, .str _ | .bool _, .arr _ | .bool _, .obj _
  | .num _, .null | .num _, .bool _ | .num _, .str _ | .num _, .arr _ | .num _, .obj _
  | .str _, .null | .str _, .bool _ | .str _, .num _ | .str _, .arr _ | .str _, .obj _
  | .arr _, .null | .arr _, .bool _ | .arr _, .num _ | .arr _, .str _ | .arr _, .obj _
  | .obj _, .null | .obj _, .bool _ | .obj _, .num _ | .obj _, .str _ | .obj _, .arr _ =>
    isFalse nofun

def decEqElements : (first second : List Json) → Decidable (first = second)
  | [], [] => isTrue rfl
  | [], _ :: _ | _ :: _, [] => isFalse nofun
  | first :: rest, second :: others =>
    match decEq first second, decEqElements rest others with
    | isTrue equal, isTrue equalRest => isTrue (by rw [equal, equalRest])
    | isFalse different, _ => isFalse fun equal => different (cons.inj equal).1
    | _, isFalse different => isFalse fun equal => different (cons.inj equal).2

def decEqMembers : (first second : Members) → Decidable (first = second)
  | [], [] => isTrue rfl
  | [], _ :: _ | _ :: _, [] => isFalse nofun
  | (name, first) :: rest, (otherName, second) :: others =>
    match inferInstanceAs (Decidable (name = otherName)), decEq first second,
      decEqMembers rest others with
    | isTrue equalName, isTrue equal, isTrue equalRest =>
      isTrue (by rw [equalName, equal, equalRest])
    | isFalse different, _, _ =>
      isFalse fun equal => different (Prod.mk.inj (cons.inj equal).1).1
    | _, isFalse different, _ =>
      isFalse fun equal => different (Prod.mk.inj (cons.inj equal).1).2
    | _, _, isFalse different => isFalse fun equal => different (cons.inj equal).2
end

instance : DecidableEq Json := decEq

def str? : Json → Option String
  | .str text => some text
  | _ => none

/-- A value without parts. -/
def IsScalar : Json → Prop
  | .arr _ | .obj _ => False
  | _ => True

/-- Every object in the value satisfies a condition on its members. -/
inductive EveryObject (condition : Members → Prop) : Json → Prop
  | scalar {value : Json} (scalar : value.IsScalar) : EveryObject condition value
  | arr {elements : List Json} (every : ∀ element ∈ elements, EveryObject condition element) :
      EveryObject condition (.arr elements)
  | obj {members : Members} (here : condition members)
      (every : ∀ entry ∈ members, EveryObject condition entry.2) :
      EveryObject condition (.obj members)

/-- The value as a decoder builds it: no object repeats a name. -/
abbrev WellFormed : Json → Prop :=
  EveryObject Entries.Ordered

variable {condition : Members → Prop}

theorem EveryObject.element {elements : List Json} {element : Json}
    (every : EveryObject condition (.arr elements)) (member : element ∈ elements) :
    EveryObject condition element := by
  cases every with
  | scalar scalar => exact scalar.elim
  | arr every => exact every _ member

theorem EveryObject.members {members : Members}
    (every : EveryObject condition (.obj members)) : condition members := by
  cases every with
  | scalar scalar => exact scalar.elim
  | obj here _ => exact here

theorem EveryObject.member {members : Members}
    {entry : String × Json} (every : EveryObject condition (.obj members))
    (member : entry ∈ members) : EveryObject condition entry.2 := by
  cases every with
  | scalar scalar => exact scalar.elim
  | obj _ every => exact every _ member

theorem EveryObject.mono {weaker : Members → Prop} {value : Json}
    (implies : ∀ members, condition members → weaker members)
    (every : EveryObject condition value) : EveryObject weaker value := by
  induction every with
  | scalar scalar => exact .scalar scalar
  | arr _ ih => exact .arr ih
  | obj here _ ih => exact .obj (implies _ here) ih

end Json

/-! ## Order of members -/

mutual
/-- The same value, with the members of its objects in another order. -/
inductive Json.Reordered : Json → Json → Prop
  | refl (json : Json) : Json.Reordered json json
  | arr {elements others : List Json} (each : ReorderedElements elements others) :
    Json.Reordered (.arr elements) (.arr others)
  | obj {members others : Members} (reordered : Members.Reordered members others) :
    Json.Reordered (.obj members) (.obj others)

inductive ReorderedElements : List Json → List Json → Prop
  | nil : ReorderedElements [] []
  | cons {first second : Json} {rest others : List Json} (head : Json.Reordered first second)
    (tail : ReorderedElements rest others) : ReorderedElements (first :: rest) (second :: others)

/-- The same members in another order, which have different names where they are exchanged. -/
inductive Members.Reordered : Members → Members → Prop
  | nil : Members.Reordered [] []
  | cons {name : String} {first second : Json} {rest others : Members}
    (head : Json.Reordered first second) (tail : Members.Reordered rest others) :
    Members.Reordered ((name, first) :: rest) ((name, second) :: others)
  | swap (first second : String × Json) (rest : Members) (distinct : first.1 ≠ second.1) :
    Members.Reordered (first :: second :: rest) (second :: first :: rest)
  | trans {first second third : Members} (left : Members.Reordered first second)
    (right : Members.Reordered second third) : Members.Reordered first third
end

theorem Members.Reordered.refl : ∀ members : Members, Members.Reordered members members
  | [] => .nil
  | (_, value) :: rest => .cons (.refl value) (refl rest)

instance : IsTrans Members Members.Reordered :=
  ⟨fun _ _ _ => .trans⟩

theorem ReorderedElements.str_mem {text : String} : ∀ {elements others : List Json},
    ReorderedElements elements others → (.str text ∈ elements ↔ .str text ∈ others)
  | _, _, .nil => Iff.rfl
  | _, _, .cons head tail => by
    have same : ∀ {first second : Json}, Json.Reordered first second →
        (.str text = first ↔ .str text = second)
      | _, _, .refl _ => Iff.rfl
      | _, _, .arr _ | _, _, .obj _ => by simp
    rw [mem_cons, mem_cons, same head, str_mem tail]

end Vc
