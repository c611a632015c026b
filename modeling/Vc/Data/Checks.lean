import Mathlib

/-!
# Checks that can refuse

Programs that check their input one condition after the other, and stop at the
first error.  The lemmas say what a sequence of checks has established once it
succeeds.
-/

namespace Vc.Checks

open List Nat

variable {ε δ α β : Type}

/-- Go on if the condition holds, and fail otherwise. -/
def require (condition : Prop) [Decidable condition] (error : ε) : Except ε Unit :=
  if condition then .ok () else .error error

@[simp]
theorem require_eq_ok_iff {condition : Prop} [Decidable condition] {error : ε} {result : Unit} :
    require condition error = .ok result ↔ condition := by
  rw [require]
  split_ifs with holds <;> simp [holds]

variable {outcome : Except ε α}

@[simp]
theorem mapError_eq_ok_iff {change : ε → δ} {value : α} :
    outcome.mapError change = .ok value ↔ outcome = .ok value := by
  cases outcome <;> simp [Except.mapError]

@[simp]
theorem map_eq_ok_iff {f : α → β} {value : β} :
    outcome.map f = .ok value ↔ ∃ source, outcome = .ok source ∧ f source = value := by
  cases outcome <;> simp [Except.map]

variable {next : α → Except ε β}

@[simp]
theorem bind_eq_ok_iff {value : β} :
    (outcome >>= next) = .ok value ↔ ∃ source, outcome = .ok source ∧ next source = .ok value := by
  cases outcome <;> simp [bind, Except.bind]

@[simp]
theorem bind_eq_error_iff {failure : ε} :
    (outcome >>= next) = .error failure ↔
      outcome = .error failure ∨ ∃ source, outcome = .ok source ∧ next source = .error failure := by
  cases outcome <;> simp [bind, Except.bind]

theorem exists_of_isOk (done : outcome.isOk = true) : ∃ value, outcome = .ok value := by
  cases outcome with
  | ok value => exact ⟨value, rfl⟩
  | error error => cases done

variable {items : List α} {results : List β} {f : α → Except ε β}

/-- A list is mapped to the results of its items. -/
theorem mapM_eq_ok_iff :
    items.mapM f = .ok results ↔ Forall₂ (fun item result => f item = .ok result) items
      results := by
  induction items generalizing results with
  | nil =>
    rw [forall₂_nil_left_iff]
    exact ⟨fun same => (Except.ok.inj same).symm, fun same => same ▸ rfl⟩
  | cons first rest ih =>
    rw [mapM_cons, forall₂_cons_left_iff]
    simp only [bind_eq_ok_iff, ih]
    constructor
    · rintro ⟨result, done, others, mapped, same⟩
      exact ⟨result, others, done, mapped, (Except.ok.inj same).symm⟩
    · rintro ⟨result, others, done, mapped, rfl⟩
      exact ⟨result, done, others, mapped, rfl⟩

theorem forM_eq_ok_iff {check : α → Except ε Unit} :
    items.forM check = .ok () ↔ ∀ item ∈ items, check item = .ok () := by
  induction items with
  | nil => exact iff_of_true rfl (by simp)
  | cons item rest ih =>
    rw [forall_mem_cons, ← ih]
    exact bind_eq_ok_iff.trans
      ⟨fun ⟨_, here, later⟩ => ⟨here, later⟩, fun ⟨here, later⟩ => ⟨(), here, later⟩⟩

variable {related : α → β → Prop}

theorem exists_right_of_mem
    (all : Forall₂ related items results) {item : α} (member : item ∈ items) :
    ∃ result ∈ results, related item result := by
  induction all with
  | nil => exact absurd member not_mem_nil
  | @cons first result rest others same _ ih =>
    rcases mem_cons.mp member with rfl | inRest
    · exact ⟨result, mem_cons_self, same⟩
    · obtain ⟨found, inOthers, done⟩ := ih inRest
      exact ⟨found, mem_cons_of_mem _ inOthers, done⟩

theorem exists_left_of_mem
    (all : Forall₂ related items results) {result : β} (member : result ∈ results) :
    ∃ item ∈ items, related item result := by
  obtain ⟨item, inItems, same⟩ := exists_right_of_mem (Forall₂.flip all) member
  exact ⟨item, inItems, same⟩

theorem exists_of_mem_mapM
    (mapped : items.mapM f = .ok results) {result : β} (member : result ∈ results) :
    ∃ item ∈ items, f item = .ok result :=
  exists_left_of_mem (mapM_eq_ok_iff.mp mapped) member

theorem exists_result_of_mem_mapM
    (mapped : items.mapM f = .ok results) {item : α} (member : item ∈ items) :
    ∃ result ∈ results, f item = .ok result :=
  exists_right_of_mem (mapM_eq_ok_iff.mp mapped) member

/-- What every step of a fold keeps holds of its result. -/
theorem foldlM_invariant {step : β → α → Except ε β} {invariant : β → Prop} {start result : β}
    (holds : invariant start)
    (keeps : ∀ before item after, invariant before → step before item = .ok after → invariant after)
    (folded : items.foldlM step start = .ok result) : invariant result := by
  induction items generalizing start with
  | nil =>
    cases folded
    exact holds
  | cons item rest ih =>
    rw [foldlM_cons, bind_eq_ok_iff] at folded
    obtain ⟨next, stepped, later⟩ := folded
    exact ih (keeps _ _ next holds stepped) later

/-- Check the items of a list in order, with their positions. -/
def checkEach (check : Nat → α → Except ε Unit) : Nat → List α → Except ε Unit
  | _, [] => .ok ()
  | index, item :: rest =>
    match check index item with
    | .error error => .error error
    | .ok _ => checkEach check (index + 1) rest

theorem checkEach_eq_ok_iff {check : Nat → α → Except ε Unit} {index : Nat} :
    checkEach check index items = .ok () ↔
      ∀ position item, items[position]? = some item → check (index + position) item = .ok () := by
  induction items generalizing index with
  | nil => simp [checkEach]
  | cons item rest ih =>
    rw [checkEach]
    constructor
    · intro passed
      cases first : check index item with
      | error error => simp [first] at passed
      | ok =>
        simp only [first] at passed
        intro position found present
        cases position with
        | zero => exact (Option.some.inj present) ▸ first
        | succ position =>
          have later := ih.mp passed position found present
          rwa [add_assoc, add_comm 1] at later
    · intro passed
      have first := passed 0 item rfl
      rw [add_zero] at first
      simp only [first]
      refine ih.mpr fun position found present => ?_
      have later := passed (position + 1) found present
      rwa [add_assoc, add_comm 1]

/-! ## Recording failures -/

section Recording

variable {ρ σ : Type*} {valid : ρ → Bool} {view : ρ → σ}

/-- A result that records whether something failed, beside the outcome of a computation that stops
at the first failure. -/
def Agrees (valid : ρ → Bool) (view : ρ → σ) (result : ρ) : Except ε σ → Prop
  | .ok value => valid result = true ∧ view result = value
  | .error _ => valid result = false

theorem Agrees.eq_ok_iff {result : ρ} {outcome : Except ε σ}
    (agree : Agrees valid view result outcome) {value : σ} :
    outcome = .ok value ↔ valid result = true ∧ view result = value := by
  cases outcome with
  | ok found => exact ⟨fun same => Except.ok.inj same ▸ agree, fun same =>
    congrArg Except.ok (agree.2.symm.trans same.2)⟩
  | error error => exact ⟨nofun, fun both => absurd (agree.symm.trans both.1) (by decide)⟩

/-- A loop that goes on after a failure agrees with the loop that stops there, if their rounds
agree and no round takes a failure back. -/
theorem Agrees.foldl {record : ρ → α → ρ} {step : σ → α → Except ε σ}
    (sticky : ∀ result item, valid result = false → valid (record result item) = false)
    (round : ∀ result item, valid result = true →
      Agrees valid view (record result item) (step (view result) item))
    (items : List α) {result : ρ} (sound : valid result = true) :
    Agrees valid view (items.foldl record result) (items.foldlM step (view result)) := by
  induction items generalizing result with
  | nil => exact ⟨sound, rfl⟩
  | cons item rest ih =>
    have here := round result item sound
    rw [foldlM_cons]
    cases stepped : step (view result) item with
    | ok next =>
      rw [stepped] at here
      obtain ⟨still, rfl⟩ := here
      exact ih still
    | error error =>
      rw [stepped] at here
      exact foldlRecOn rest record here fun after failed item _ => sticky after _ failed

end Recording

end Vc.Checks
