import Vc.Concurrent.Process

/-!
# Interleaved execution and the ghost-state rule

A pool holds one process per index and a shared state.  Advancing an index
executes the pending call of its process as one atomic step and appends the
call, with its answer, to a trace.  A run is any finite sequence of such steps;
the step filter `allowed` restricts which index may advance in which pool, and
is `fun _ _ => True` for unrestricted interleaving.

`Run.follows` is the proof rule.  Every index carries a ghost value, and an
invariant relates the shared state, the trace and all the ghost values.  A
process *follows* the protocol when each of its calls, made in any state that
satisfies the invariant, re-establishes the invariant for some next ghost value
of its own.
-/

namespace Vc.Concurrent

open Function List

variable {ι : Type} {interface : Interface} {σ α β γ : Type}

/-- One executed call: who made it, what it was and what it answered. -/
structure Entry (ι : Type) (interface : Interface) where
  index : ι
  request : interface.Call
  answer : interface.Answer request

/-- Processes over one shared state, with the calls executed so far. -/
structure Pool (ι : Type) (interface : Interface) (σ α : Type) where
  shared : σ
  processes : ι → Process interface α
  trace : List (Entry ι interface)

namespace Pool

/-- The pool in which no process has made a call yet. -/
def initial (shared : σ) (processes : ι → Process interface α) : Pool ι interface σ α where
  shared := shared
  processes := processes
  trace := []

/-- The process of this index has returned this result. -/
def Returned (pool : Pool ι interface σ α) (index : ι) (result : α) : Prop :=
  pool.processes index = .done result

/-- The process of this index has returned a success. -/
def succeeded {ε : Type} (pool : Pool ι interface σ (Except ε α)) (index : ι) : Bool :=
  match pool.processes index with
  | .done result => result.isOk
  | .call _ _ => false

variable {index : ι}

theorem exists_returned {ε : Type} {pool : Pool ι interface σ (Except ε α)}
    (success : pool.succeeded index = true) : ∃ result, pool.Returned index (.ok result) := by
  unfold succeeded at success
  split at success
  · next result returned =>
    cases result with
    | error error => contradiction
    | ok result => exact ⟨result, returned⟩
  · contradiction

variable [DecidableEq ι]

/-- Execute the pending call of one process.  A process that has returned has
nothing left to do. -/
def advance (execute : Executor interface σ) (pool : Pool ι interface σ α) (index : ι) :
    Pool ι interface σ α :=
  match pool.processes index with
  | .done _ => pool
  | .call request next =>
    { shared := (execute request pool.shared).2
      processes := update pool.processes index (next (execute request pool.shared).1)
      trace := pool.trace ++ [⟨index, request, (execute request pool.shared).1⟩] }

variable {execute : Executor interface σ} {pool : Pool ι interface σ α}

theorem advance_of_done {result : α} (returned : pool.processes index = .done result) :
    pool.advance execute index = pool := by
  simp [advance, returned]

theorem advance_of_call {request : interface.Call}
    {next : interface.Answer request → Process interface α}
    (pending : pool.processes index = .call request next) :
    pool.advance execute index =
      { shared := (execute request pool.shared).2
        processes := update pool.processes index (next (execute request pool.shared).1)
        trace := pool.trace ++ [⟨index, request, (execute request pool.shared).1⟩] } := by
  simp [advance, pending]

/-- Execute a whole schedule. -/
def schedule (execute : Executor interface σ) (pool : Pool ι interface σ α) :
    List ι → Pool ι interface σ α
  | [] => pool
  | index :: rest => (pool.advance execute index).schedule execute rest

end Pool

variable [DecidableEq ι]

/-- The pools that the allowed steps can reach. -/
inductive Run (execute : Executor interface σ)
    (allowed : Pool ι interface σ α → ι → Prop) (start : Pool ι interface σ α) :
    Pool ι interface σ α → Prop where
  | refl : Run execute allowed start start
  | step {pool : Pool ι interface σ α} (index : ι) :
      Run execute allowed start pool → allowed pool index →
      Run execute allowed start (pool.advance execute index)

/-- Runs without a restriction on the order of steps. -/
abbrev FreeRun (execute : Executor interface σ) (start : Pool ι interface σ α) :
    Pool ι interface σ α → Prop :=
  Run execute (fun _ _ => True) start

variable {allowed : Pool ι interface σ α → ι → Prop} {execute : Executor interface σ}
  {start : Pool ι interface σ α}

theorem Run.trans {middle last : Pool ι interface σ α}
    (first : Run execute allowed start middle) (second : Run execute allowed middle last) :
    Run execute allowed start last := by
  induction second with
  | refl => exact first
  | step index _ permitted ih =>
    exact .step _ ih permitted

variable {pool : Pool ι interface σ α}

/-- What was executed stays on the trace. -/
theorem Run.trace_append (run : Run execute allowed start pool) :
    ∃ later, pool.trace = start.trace ++ later := by
  induction run with
  | refl => exact ⟨[], (append_nil _).symm⟩
  | @step pool index _ _ ih =>
    obtain ⟨later, same⟩ := ih
    cases pending : pool.processes index with
    | done result => exact ⟨later, by rw [Pool.advance_of_done pending, same]⟩
    | call request next =>
      rw [Pool.advance_of_call pending]
      exact ⟨_, by rw [same, append_assoc]⟩

/-- The filter admits every step of the schedule. -/
def Pool.Admits (execute : Executor interface σ) (allowed : Pool ι interface σ α → ι → Prop)
    (pool : Pool ι interface σ α) : List ι → Prop
  | [] => True
  | index :: rest =>
    allowed pool index ∧ (pool.advance execute index).Admits execute allowed rest

instance Pool.decidableAdmits (execute : Executor interface σ)
    (allowed : Pool ι interface σ α → ι → Prop) [∀ pool index, Decidable (allowed pool index)]
    (pool : Pool ι interface σ α) (indices : List ι) :
    Decidable (pool.Admits execute allowed indices) :=
  match indices with
  | [] => .isTrue trivial
  | index :: rest =>
    let _ := decidableAdmits execute allowed (pool.advance execute index) rest
    inferInstanceAs (Decidable (_ ∧ _))

/-- A schedule that the filter admits is a run. -/
theorem Run.schedule {indices : List ι} (admitted : start.Admits execute allowed indices) :
    Run execute allowed start (start.schedule execute indices) := by
  induction indices generalizing start with
  | nil => exact .refl
  | cons index rest ih =>
    exact Run.trans (.step _ .refl admitted.1) (ih admitted.2)

theorem FreeRun.schedule (execute : Executor interface σ) (start : Pool ι interface σ α)
    (indices : List ι) : FreeRun execute start (start.schedule execute indices) := by
  refine Run.schedule ?_
  induction indices generalizing start with
  | nil => trivial
  | cons index rest ih => exact ⟨trivial, ih _⟩

/-- One process of a pool can be run to its end while the others wait. -/
theorem FreeRun.alone (execute : Executor interface σ) (pool : Pool ι interface σ α) (index : ι) :
    ∃ later, FreeRun execute pool later ∧
      later.Returned index ((pool.processes index).run execute pool.shared).1 ∧
      later.shared = ((pool.processes index).run execute pool.shared).2 ∧
      ∀ other, other ≠ index → later.processes other = pool.processes other := by
  generalize current : pool.processes index = process
  induction process generalizing pool with
  | done result => exact ⟨pool, .refl, current, rfl, fun _ _ => rfl⟩
  | call request next ih =>
    have advanced : pool.advance execute index = _ := Pool.advance_of_call current
    obtain ⟨later, run, returned, shared, others⟩ :=
      ih (execute request pool.shared).1 (pool.advance execute index) (by simp [advanced])
    refine ⟨later, Run.trans (.step _ .refl trivial) run, ?_, ?_, ?_⟩
    · simpa [advanced] using returned
    · simpa [advanced] using shared
    · intro other different
      rw [others _ different, advanced]
      simp [different]

/-- Wherever the process makes a call of this kind, it returns at once with a result of this
kind. -/
def Process.EndsAt (last : (request : interface.Call) → interface.Answer request → Prop)
    (property : α → Prop) : Process interface α → Prop
  | .done _ => True
  | .call request next => ∀ answer, (next answer).EndsAt last property ∧
      (last request answer → ∃ result, next answer = .done result ∧ property result)

/-- A process on whose behalf such a call stands on the trace has returned. -/
theorem Run.endsAt {last : (request : interface.Call) → interface.Answer request → Prop}
    {property : ι → α → Prop} (fresh : start.trace = [])
    (ends : ∀ index, (start.processes index).EndsAt last (property index))
    (run : Run execute allowed start pool) :
    (∀ index, (pool.processes index).EndsAt last (property index)) ∧
      ∀ entry ∈ pool.trace, last entry.request entry.answer →
        ∃ result, pool.Returned entry.index result ∧ property entry.index result := by
  induction run with
  | refl => exact ⟨ends, by simp [fresh]⟩
  | @step pool index _ _ ih =>
    obtain ⟨ends, returned⟩ := ih
    cases pending : pool.processes index with
    | done result =>
      rw [Pool.advance_of_done pending]
      exact ⟨ends, returned⟩
    | call request next =>
      have here := ends index
      rw [pending] at here
      obtain ⟨later, lastHere⟩ := here (execute request pool.shared).1
      rw [Pool.advance_of_call pending]
      constructor
      · intro other
        by_cases same : other = index
        · subst same
          simpa using later
        · simpa [same] using ends _
      · intro entry member isLast
        rcases mem_append.mp member with earlier | new
        · obtain ⟨result, done, holds⟩ := returned entry earlier isLast
          -- the process that advances has not returned
          have different : entry.index ≠ index := by
            intro same
            rw [Pool.Returned, same, pending] at done
            cases done
          exact ⟨result, by simpa [Pool.Returned, different] using done, holds⟩
        · obtain rfl := mem_singleton.mp new
          obtain ⟨result, done, holds⟩ := lastHere isLast
          exact ⟨result, by simpa [Pool.Returned] using done, holds⟩

/-! ## The ghost-state rule -/

/-- What the ghost-state rule asks of the processes.  `inv` relates the shared
state, the trace and the ghost values; `guard` is what the step filter guarantees
about a pending call. -/
structure Protocol (ι : Type) (interface : Interface) (σ γ : Type) where
  inv : σ → List (Entry ι interface) → (ι → γ) → Prop
  guard : ι → interface.Call → σ → List (Entry ι interface) → (ι → γ) → Prop

namespace Protocol

/-- A process keeps the protocol from the given ghost value on; `post` constrains
what it returns by its final ghost value. -/
def Follows (protocol : Protocol ι interface σ γ) (execute : Executor interface σ) (index : ι)
    (post : γ → α → Prop) : Process interface α → γ → Prop
  | .done result, ghost => post ghost result
  | .call request next, ghost =>
    ∀ state trace ghosts, protocol.inv state trace ghosts → ghosts index = ghost →
      protocol.guard index request state trace ghosts →
      ∃ ghost', protocol.inv (execute request state).2
          (trace ++ [⟨index, request, (execute request state).1⟩])
          (update ghosts index ghost') ∧
        protocol.Follows execute index post (next (execute request state).1) ghost'

variable {protocol : Protocol ι interface σ γ}

@[simp]
theorem follows_done (index : ι) (post : γ → α → Prop) (result : α) (ghost : γ) :
    protocol.Follows execute index post (.done result) ghost ↔ post ghost result :=
  Iff.rfl

variable {ghost : γ} {index : ι} {post : γ → α → Prop}

/-- A call that keeps the ghost value of its process. -/
theorem follows_call_of_keep {request : interface.Call}
    {next : interface.Answer request → Process interface α}
    (keeps : ∀ state trace ghosts, protocol.inv state trace ghosts → ghosts index = ghost →
      protocol.guard index request state trace ghosts →
      protocol.inv (execute request state).2
          (trace ++ [⟨index, request, (execute request state).1⟩]) ghosts ∧
        protocol.Follows execute index post (next (execute request state).1) ghost) :
    protocol.Follows execute index post (.call request next) ghost := by
  intro state trace ghosts invariant same guarded
  obtain ⟨kept, continues⟩ := keeps state trace ghosts invariant same guarded
  refine ⟨ghost, ?_, continues⟩
  rw [← same, update_eq_self]
  exact kept

variable {process : Process interface α} {middle : γ → α → Prop}

/-- Sequencing: what the first part guarantees at its end is what the second part
may rely on. -/
theorem Follows.bind {post : γ → β → Prop} {next : α → Process interface β}
    (first : protocol.Follows execute index middle process ghost)
    (second : ∀ result ghost, middle ghost result →
      protocol.Follows execute index post (next result) ghost) :
    protocol.Follows execute index post (process.bind next) ghost := by
  induction process generalizing ghost with
  | done result => exact second _ _ first
  | call request rest ih =>
    intro state trace ghosts invariant same guarded
    obtain ⟨ghost', kept, continues⟩ := first state trace ghosts invariant same guarded
    exact ⟨ghost', kept, ih _ continues⟩

/-- A call that is implemented by a process. -/
theorem Follows.interpretCall {outer : Interface}
    {implementation : (request : outer.Call) → Process interface (outer.Answer request)}
    {request : outer.Call} {next : outer.Answer request → Process outer α}
    {middle : γ → outer.Answer request → Prop}
    (first : protocol.Follows execute index middle (implementation request) ghost)
    (second : ∀ answer ghost, middle ghost answer →
      protocol.Follows execute index post ((next answer).interpret implementation) ghost) :
    protocol.Follows execute index post
      ((Process.call request next).interpret implementation) ghost :=
  first.bind second

variable {ε : Type}

/-- The postcondition that only a success has to meet. -/
def IfOk (property : γ → α → Prop) (ghost : γ) : Except ε α → Prop
  | .error _ => True
  | .ok result => property ghost result

/-- The postcondition of a process that keeps its ghost value. -/
def Keeping (current : γ) (property : α → Prop) (ghost : γ) : Except ε α → Prop
  | .error _ => ghost = current
  | .ok result => ghost = current ∧ property result

/-- A weaker postcondition. -/
theorem Follows.mono {stronger weaker : γ → α → Prop}
    (follows : protocol.Follows execute index stronger process ghost)
    (implies : ∀ result ghost, stronger ghost result → weaker ghost result) :
    protocol.Follows execute index weaker process ghost := by
  induction process generalizing ghost with
  | done result => exact implies _ _ follows
  | call request rest ih =>
    intro state trace ghosts invariant same guarded
    obtain ⟨ghost', kept, continues⟩ := follows state trace ghosts invariant same guarded
    exact ⟨ghost', kept, ih _ continues⟩

/-- Sequencing of processes that can fail. -/
theorem Follows.andThen {property : γ → β → Prop} {process : Process interface (Except ε α)}
    {next : α → Process interface (Except ε β)}
    (first : protocol.Follows execute index (IfOk middle) process ghost)
    (second : ∀ result ghost, middle ghost result →
      protocol.Follows execute index (IfOk property) (next result) ghost) :
    protocol.Follows execute index (IfOk property) (process.andThen next) ghost := by
  refine first.bind fun result ghost reached => ?_
  cases result with
  | error error => trivial
  | ok result => exact second _ _ reached

/-- The pool satisfies the protocol for these ghost values. -/
def Holds (protocol : Protocol ι interface σ γ) (execute : Executor interface σ)
    (post : ι → γ → α → Prop) (pool : Pool ι interface σ α) (ghosts : ι → γ) : Prop :=
  protocol.inv pool.shared pool.trace ghosts ∧
    ∀ index, protocol.Follows execute index (post index) (pool.processes index) (ghosts index)

variable {post : ι → γ → α → Prop}

/-- A result that a process has returned satisfies its postcondition. -/
theorem Holds.returned {ghosts : ι → γ}
    (holds : protocol.Holds execute post pool ghosts) {result : α}
    (returned : pool.Returned index result) : post index (ghosts index) result := by
  have follows := holds.2 index
  rw [returned] at follows
  exact follows

/-- One step of a pool that satisfies the protocol, when the filter admits it. -/
theorem Holds.advance {ghosts : ι → γ} (holds : protocol.Holds execute post pool ghosts) (index : ι)
    (guarded : ∀ request next, pool.processes index = .call request next →
      protocol.guard index request pool.shared pool.trace ghosts) :
    ∃ ghosts', protocol.Holds execute post (pool.advance execute index) ghosts' := by
  cases pending : pool.processes index with
  | done result =>
    rw [Pool.advance_of_done pending]
    exact ⟨ghosts, holds⟩
  | call request next =>
    have follows := holds.2 index
    rw [pending] at follows
    obtain ⟨ghost, invariant, continues⟩ :=
      follows pool.shared pool.trace ghosts holds.1 rfl (guarded request next pending)
    rw [Pool.advance_of_call pending]
    refine ⟨update _ _ _, invariant, ?_⟩
    intro other
    by_cases same : other = index
    · subst same
      simpa using continues
    · simpa [same] using holds.2 _

end Protocol

/-- Every run from a pool that satisfies the protocol keeps it, provided the
step filter implies the guards. -/
theorem Run.follows {protocol : Protocol ι interface σ γ} {post : ι → γ → α → Prop}
    (admits : ∀ pool ghosts index request next, protocol.Holds execute post pool ghosts →
      pool.processes index = .call request next → allowed pool index →
      protocol.guard index request pool.shared pool.trace ghosts)
    {ghosts : ι → γ}
    (initially : protocol.Holds execute post start ghosts)
    (run : Run execute allowed start pool) :
    ∃ ghosts', protocol.Holds execute post pool ghosts' := by
  induction run with
  | refl => exact ⟨ghosts, initially⟩
  | step index _ permitted ih =>
    obtain ⟨current, holds⟩ := ih
    exact holds.advance _ fun request next pending =>
      admits _ _ _ _ next holds pending permitted

end Vc.Concurrent
