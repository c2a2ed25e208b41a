import Mathlib.Data.Sum.Basic

/-!
# Interactive programs

A `Program` is what a piece of sequential code asks of the world around it: it returns a value,
raises an exception, makes a call and goes on from whatever answer comes back, or runs a loop with
no bound on its rounds. The type of an answer depends on the call, and nothing here says which
answers the world may give: that is an `Environment` (`Interaction/Steps.lean`).

Loops are a constructor and not a fixed point: `iter body s next` runs `body` from the state `s`
until it yields a `Sum.inl`. So every program is a finite term, and functions on programs, and the
proofs about them, are structural recursions. `attempt` is the body of a `try` block: it turns the
exception that leaves a program into a value.
-/

namespace Interaction

/-- A program over calls `op : Op` answered in `Ans op`, with exceptions in `ε`. -/
inductive Program {Op : Type} (Ans : Op → Type) (ε : Type) : Type → Type 1
  /-- Return a value. -/
  | ret {α : Type} (a : α) : Program Ans ε α
  /-- Raise an exception. -/
  | raise {α : Type} (e : ε) : Program Ans ε α
  /-- Make the call `op`, and go on from its answer. -/
  | call {α : Type} (op : Op) (next : Ans op → Program Ans ε α) : Program Ans ε α
  /-- Run `body` from `s`: once more from `s'` after `Sum.inr s'`, on from `b` after `Sum.inl b`. -/
  | iter {σ β α : Type} (body : σ → Program Ans ε (β ⊕ σ)) (s : σ)
      (next : β → Program Ans ε α) : Program Ans ε α

namespace Program

variable {Op : Type} {Ans : Op → Type} {ε ε' α β γ σ : Type}

/-- Sequencing. An exception of the first program skips the second. -/
def bind : Program Ans ε α → (α → Program Ans ε β) → Program Ans ε β
  | .ret a, f => f a
  | .raise e, _ => .raise e
  | .call op next, f => .call op fun a => (next a).bind f
  | .iter body s next, f => .iter body s fun b => (next b).bind f

/-- What one round of a loop means to the `try` block around the loop: an exception ends the loop
just as a `Sum.inl` does. -/
def settle : Except ε (β ⊕ σ) → Except ε β ⊕ σ
  | .ok (.inl b) => .inl (.ok b)
  | .ok (.inr s) => .inr s
  | .error e => .inl (.error e)

/-- Go on from a value, or end with the exception that came instead. -/
def orError (f : α → Program Ans ε' (Except ε β)) : Except ε α → Program Ans ε' (Except ε β)
  | .ok a => f a
  | .error e => .ret (.error e)

/-- A `try` block: run the program, and return its exception as a value. -/
def attempt : {α : Type} → Program Ans ε α → Program Ans ε' (Except ε α)
  | _, .ret a => .ret (.ok a)
  | _, .raise e => .ret (.error e)
  | _, .call op next => .call op fun a => (next a).attempt
  | _, .iter body s next => .iter (fun s => (body s).attempt.bind fun r => .ret (settle r)) s
      (orError fun b => (next b).attempt)

/-- Make a call, and return its answer. -/
def perform (op : Op) : Program Ans ε (Ans op) := .call op .ret

/-- A loop, and what it ends with. -/
def loop (s : σ) (body : σ → Program Ans ε (β ⊕ σ)) : Program Ans ε β := .iter body s .ret

/-- The program that has ended with `r`. -/
def ended : Except ε α → Program Ans ε α
  | .ok a => .ret a
  | .error e => .raise e

/-- Replace the exception that leaves a program. -/
def mapError (f : ε → ε') (p : Program Ans ε α) : Program Ans ε' α :=
  p.attempt.bind fun r => ended (r.mapError f)

instance : Monad (Program Ans ε) where
  pure := .ret
  bind := .bind

instance : MonadExceptOf ε (Program Ans ε) where
  throw := .raise
  tryCatch p handler := p.attempt.bind fun
    | .ok a => .ret a
    | .error e => handler e

@[simp] theorem pure_eq (a : α) : (pure a : Program Ans ε α) = .ret a := rfl

@[simp] theorem bind_eq (p : Program Ans ε α) (f : α → Program Ans ε β) :
    p >>= f = p.bind f := rfl

@[simp] theorem throw_eq (e : ε) : (throw e : Program Ans ε α) = .raise e := rfl

@[simp] theorem ret_bind (a : α) (f : α → Program Ans ε β) : (ret a).bind f = f a := rfl

@[simp] theorem raise_bind (e : ε) (f : α → Program Ans ε β) : (raise e).bind f = raise e := rfl

@[simp] theorem call_bind (op : Op) (next : Ans op → Program Ans ε α)
    (f : α → Program Ans ε β) :
    (call op next).bind f = .call op fun a => (next a).bind f := rfl

/-- Sequencing is associative. -/
theorem bind_assoc (p : Program Ans ε α) (f : α → Program Ans ε β)
    (g : β → Program Ans ε γ) : (p.bind f).bind g = p.bind fun a => (f a).bind g := by
  induction p with
  | ret a => rfl
  | raise e => rfl
  | call op next ih =>
    simp only [bind]
    congr 1
    exact funext fun a => ih a f
  | iter body s next _ ih =>
    simp only [bind]
    congr 1
    exact funext fun b => ih b f

/-- A `try` block around a sequence is the sequence of the `try` blocks. -/
theorem attempt_bind (p : Program Ans ε α) (f : α → Program Ans ε β) :
    ((p.bind f).attempt : Program Ans ε' _) = p.attempt.bind (orError fun a => (f a).attempt) := by
  induction p with
  | ret a => rfl
  | raise e => rfl
  | call op next ih =>
    simp only [bind, attempt]
    congr 1
    exact funext fun a => ih a f
  | iter body s next _ ih =>
    simp only [bind, attempt]
    congr 1
    funext r
    cases r with
    | ok b => exact ih b f
    | error e => rfl

/-- The `try` block around one round of a loop is one round of the block's loop. -/
theorem attempt_round (body : σ → Program Ans ε (β ⊕ σ)) (s : σ)
    (next : β → Program Ans ε α) :
    (((body s).bind (Sum.elim next fun s' => .iter body s' next)).attempt : Program Ans ε' _) =
      ((body s).attempt.bind fun r => .ret (settle r)).bind
        (Sum.elim (orError fun b => (next b).attempt) fun s' => (iter body s' next).attempt) := by
  rw [attempt_bind, bind_assoc]
  congr 1
  -- Both sides begin with the round; what follows it is compared by what the round has ended with.
  funext r
  cases r with
  | ok r => cases r <;> rfl
  | error e => rfl

end Program

end Interaction
