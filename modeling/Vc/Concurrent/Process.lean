import Mathlib

/-!
# Processes over an interface of atomic calls

A process is a finite tree of calls to some shared component.  Between two
calls it only computes on its own data, so a call is the unit that a scheduler
can interleave.  The interface fixes which calls exist and what each one
answers with; an executor gives the calls their meaning on a shared state.

The same process can be executed alone (`Process.run`), or over a finer
interface (`Process.interpret`) in which one call becomes several.
-/

namespace Vc.Concurrent

/-- The calls of a shared component, with the type each one answers with. -/
structure Interface where
  Call : Type
  Answer : Call → Type

/-- A computation that stops between calls of the interface. -/
inductive Process (interface : Interface) (α : Type) : Type where
  | done (result : α) : Process interface α
  | call (request : interface.Call)
      (next : interface.Answer request → Process interface α) : Process interface α

/-- The meaning of every call as one atomic step on the shared state. -/
abbrev Executor (interface : Interface) (σ : Type) :=
  (request : interface.Call) → σ → interface.Answer request × σ

namespace Process

variable {interface inner : Interface} {σ α β : Type}

/-- Continue with `next` once the process has returned. -/
def bind : Process interface α → (α → Process interface β) → Process interface β
  | done result, next => next result
  | call request rest, next => call request fun answer => (rest answer).bind next

variable (result : α)

variable (next : α → Process interface β)

@[simp]
theorem bind_done : (done result).bind next = next result :=
  rfl

variable (request : interface.Call)

@[simp]
theorem bind_call
    (rest : interface.Answer request → Process interface α) (next : α → Process interface β) :
    (call request rest).bind next = call request fun answer => (rest answer).bind next :=
  rfl

variable (process : Process interface α)

theorem bind_assoc {γ : Type} (last : β → Process interface γ) :
    (process.bind next).bind last = process.bind fun result => (next result).bind last := by
  induction process with
  | done result => rfl
  | call request rest ih =>
    simp [ih]

/-- Continue with `next` unless the process has failed. -/
def andThen {ε : Type} (process : Process interface (Except ε α))
    (next : α → Process interface (Except ε β)) : Process interface (Except ε β) :=
  process.bind fun
    | .error error => done (.error error)
    | .ok result => next result

/-- Execute a process alone, without other processes in between. -/
def run (execute : Executor interface σ) : Process interface α → σ → α × σ
  | done result, state => (result, state)
  | call request next, state =>
    (next (execute request state).1).run execute (execute request state).2

variable (execute : Executor interface σ)

@[simp]
theorem run_done (state : σ) :
    (done result : Process interface α).run execute state = (result, state) :=
  rfl

variable (next : interface.Answer request → Process interface α)

@[simp]
theorem run_call (state : σ) :
    (call request next).run execute state =
      (next (execute request state).1).run execute (execute request state).2 :=
  rfl

/-- Replace every call by a process over another interface. -/
def interpret
    (implementation : (request : interface.Call) → Process inner (interface.Answer request)) :
    Process interface α → Process inner α
  | done result => done result
  | call request next =>
    (implementation request).bind fun answer => (next answer).interpret implementation

variable (implementation : (request : interface.Call) → Process inner (interface.Answer request))

@[simp]
theorem interpret_done :
    (done result : Process interface α).interpret implementation = done result :=
  rfl

@[simp]
theorem interpret_call :
    (call request next).interpret implementation =
      (implementation request).bind fun answer => (next answer).interpret implementation :=
  rfl

theorem interpret_bind (next : α → Process interface β) :
    (process.bind next).interpret implementation =
      (process.interpret implementation).bind fun result =>
        (next result).interpret implementation := by
  induction process with
  | done result => rfl
  | call request rest ih =>
    simp only [bind_call, interpret_call, bind_assoc, ih]

theorem interpret_andThen {ε : Type} (process : Process interface (Except ε α))
    (next : α → Process interface (Except ε β)) :
    (process.andThen next).interpret implementation =
      (process.interpret implementation).andThen fun result =>
        (next result).interpret implementation := by
  rw [andThen, interpret_bind]
  congr
  funext result
  cases result <;> rfl

/-- Alone, a process continues where the first part has stopped. -/
theorem run_bind (next : α → Process interface β) (state : σ) :
    (process.bind next).run execute state =
      (next (process.run execute state).1).run execute (process.run execute state).2 := by
  induction process generalizing state with
  | done result => rfl
  | call request rest ih => exact ih _ _

/-- Alone, the finer calls of an implementation amount to one call each. -/
theorem run_interpret (execute : Executor inner σ) (process : Process interface α) (state : σ) :
    (process.interpret implementation).run execute state =
      process.run (fun request state => (implementation request).run execute state) state := by
  induction process generalizing state with
  | done result => rfl
  | call request next ih =>
    rw [interpret_call, run_bind, run_call, ih]

end Process

end Vc.Concurrent
