import FlexivAmr.Interaction.Steps
import Mathlib.Data.Nat.Notation

/-!
# Finished runs

`Outcome E n p w h r w'` is a finished run told by its ends: from the world `w`, in `n` steps, `p`
makes the calls `h` and ends with `r`, leaving the world `w'`. These are exactly the runs of
`Interaction/Steps.lean` that reach the end of the program (`Outcome.steps`, `exists_outcome`).

A finished run of a sequence is one of its first program and one of what follows
(`Outcome.of_bind`), so finished runs can be taken apart along the structure of a program, and a
part of it can be replaced by another program with the same outcomes. The number of steps is there
for inductions over the rounds of a loop.
-/

namespace Interaction

open Program

variable {Op : Type} {Ans : Op → Type} {ε ε' W α β γ σ : Type} {E : Environment Ans W}

/-- A finished run of `n` steps of `p` from the world `w`: the calls, the result, and the world that
it leaves. -/
inductive Outcome (E : Environment Ans W) {α : Type} :
    ℕ → Program Ans ε α → W → List (Event Ans) → Except ε α → W → Prop
  | ret (a : α) (w : W) : Outcome E 0 (.ret a) w [] (.ok a) w
  | raise (e : ε) (w : W) : Outcome E 0 (.raise e) w [] (.error e) w
  | call {n : ℕ} {op : Op} {next : Ans op → Program Ans ε α} {w w₁ w' : W} {a : Ans op}
      {h : List (Event Ans)} {r : Except ε α} (answer : E.answers w op a w₁)
      (rest : Outcome E n (next a) w₁ h r w') :
      Outcome E (n + 1) (.call op next) w (⟨op, a⟩ :: h) r w'
  | round {σ β : Type} {n : ℕ} {body : σ → Program Ans ε (β ⊕ σ)} {s : σ}
      {next : β → Program Ans ε α} {w w' : W} {h : List (Event Ans)} {r : Except ε α}
      (rest : Outcome E n ((body s).bind (Sum.elim next fun s' => .iter body s' next)) w h r w') :
      Outcome E (n + 1) (.iter body s next) w h r w'
  | move {n : ℕ} {p : Program Ans ε α} {w w₁ w' : W} {h : List (Event Ans)} {r : Except ε α}
      (move : E.moves w w₁) (rest : Outcome E n p w₁ h r w') : Outcome E (n + 1) p w h r w'

namespace Outcome

variable {n n₁ n₂ : ℕ} {p : Program Ans ε α} {f : α → Program Ans ε β} {w w₁ w' : W}
  {g g' h h₁ h₂ : List (Event Ans)} {r : Except ε α}

/-- An outcome is reached by a run, whatever has been called before. -/
theorem steps (hp : Outcome E n p w h r w') (g : List (Event Ans)) :
    Steps E ⟨p, w, g⟩ ⟨.ended r, w', g ++ h⟩ := by
  induction hp generalizing g with
  | ret a w =>
    rw [List.append_nil]
    exact .refl
  | raise e w =>
    rw [List.append_nil]
    exact .refl
  | @call _ op _ _ _ _ a h _ answer _ ih =>
    have hrest := ih (g ++ [⟨op, a⟩])
    rw [List.append_assoc, List.singleton_append] at hrest
    exact .head (.call answer) hrest
  | round _ ih => exact .head .round (ih g)
  | move hmove _ ih => exact .head (.move hmove) (ih g)

/-- One round of a loop inside a sequence is one round of the loop that goes on with the
sequence. -/
theorem round_bind {body : σ → Program Ans ε (α ⊕ σ)} {s : σ} {next : α → Program Ans ε β}
    {f : β → Program Ans ε γ} :
    ((body s).bind (Sum.elim next fun s' => .iter body s' next)).bind f =
      (body s).bind (Sum.elim (fun b => (next b).bind f)
        fun s' => .iter body s' fun b => (next b).bind f) := by
  rw [bind_assoc]
  congr 1
  funext r
  cases r <;> rfl

/-- A finished run of a program, and one of what follows its result. -/
theorem bind {r₁ : Except ε α} {r : Except ε β} (hp : Outcome E n₁ p w h₁ r₁ w₁)
    (hf : Outcome E n₂ ((ended r₁).bind f) w₁ h₂ r w') :
    Outcome E (n₁ + n₂) (p.bind f) w (h₁ ++ h₂) r w' := by
  induction hp with
  | ret a w =>
    rw [Nat.zero_add]
    exact hf
  | raise e w =>
    rw [Nat.zero_add]
    exact hf
  | call answer _ ih =>
    rw [Nat.succ_add]
    exact .call answer (ih hf)
  | round _ ih =>
    rw [Nat.succ_add]
    have hrest := ih hf
    rw [round_bind] at hrest
    exact .round hrest
  | move hmove _ ih =>
    rw [Nat.succ_add]
    exact .move hmove (ih hf)

/-- A finished run of a sequence is one of its first program and one of what follows the result. -/
theorem of_bind {r : Except ε β} (hpf : Outcome E n (p.bind f) w h r w') :
    ∃ n₁ n₂ h₁ h₂ r₁ w₁, n₁ + n₂ = n ∧ h₁ ++ h₂ = h ∧ Outcome E n₁ p w h₁ r₁ w₁ ∧
      Outcome E n₂ ((ended r₁).bind f) w₁ h₂ r w' := by
  generalize hq : p.bind f = q at hpf
  induction hpf generalizing p with
  | ret b w =>
    cases p with
    | ret a => exact ⟨0, 0, [], [], .ok a, w, rfl, rfl, .ret a w, hq ▸ .ret b w⟩
    | raise | call | iter => cases hq
  | raise e w =>
    cases p with
    | ret a => exact ⟨0, 0, [], [], .ok a, w, rfl, rfl, .ret a w, hq ▸ .raise e w⟩
    | raise e' => exact ⟨0, 0, [], [], .error e', w, rfl, rfl, .raise e' w, hq ▸ .raise e w⟩
    | call | iter => cases hq
  | @call n op next w w₁ w' a h r answer hrest ih =>
    cases p with
    | ret a' =>
      exact ⟨0, n + 1, [], _, .ok a', w, Nat.zero_add _, rfl, .ret a' w, hq ▸ .call answer hrest⟩
    | call op' next' =>
      cases hq
      obtain ⟨n₁, n₂, h₁, h₂, r₁, w₁, rfl, rfl, hp, hf⟩ := ih rfl
      exact ⟨n₁ + 1, n₂, _ :: h₁, h₂, r₁, w₁, Nat.succ_add _ _, rfl, .call answer hp, hf⟩
    | raise | iter => cases hq
  | @round σ' β' n body s next w w' h r hrest ih =>
    cases p with
    | ret a => exact ⟨0, n + 1, [], _, .ok a, w, Nat.zero_add _, rfl, .ret a w, hq ▸ .round hrest⟩
    | iter body' s' next' =>
      cases hq
      obtain ⟨n₁, n₂, h₁, h₂, r₁, w₁, rfl, rfl, hp, hf⟩ := ih round_bind
      exact ⟨n₁ + 1, n₂, h₁, h₂, r₁, w₁, Nat.succ_add _ _, rfl, .round hp, hf⟩
    | raise | call => cases hq
  | move hmove _ ih =>
    obtain ⟨n₁, n₂, h₁, h₂, r₁, w₁, rfl, rfl, hp, hf⟩ := ih hq
    exact ⟨n₁ + 1, n₂, h₁, h₂, r₁, w₁, Nat.succ_add _ _, rfl, .move hmove hp, hf⟩

/-- A finished run of a `try` block is one of the program inside it. -/
theorem attempt (hp : Outcome E n p w h r w') :
    Outcome E n (p.attempt : Program Ans ε' (Except ε α)) w h (.ok r) w' := by
  induction hp with
  | ret a w => exact .ret (Except.ok a) w
  | raise e w => exact .ret (Except.error e) w
  | call answer _ ih => exact .call answer ih
  | round _ ih =>
    rw [attempt_round] at ih
    exact .round ih
  | move hmove _ ih => exact .move hmove ih

/-- A `try` block ends with the result of the program inside it. -/
theorem of_attempt {r : Except ε' (Except ε α)} (hp : Outcome E n p.attempt w h r w') :
    ∃ r₁, r = .ok r₁ ∧ Outcome E n p w h r₁ w' := by
  generalize hq : (p.attempt : Program Ans ε' (Except ε α)) = q at hp
  induction hp generalizing p with
  | ret r₁ w =>
    cases p with
    | ret a =>
      cases hq
      exact ⟨_, rfl, .ret a w⟩
    | raise e =>
      cases hq
      exact ⟨_, rfl, .raise e w⟩
    | call | iter => cases hq
  | raise e w => cases p <;> cases hq
  | call answer _ ih =>
    cases p with
    | call op next =>
      cases hq
      obtain ⟨r₁, rfl, hp⟩ := ih rfl
      exact ⟨r₁, rfl, .call answer hp⟩
    | ret | raise | iter => cases hq
  | round _ ih =>
    cases p with
    | iter body s next =>
      cases hq
      obtain ⟨r₁, rfl, hp⟩ := ih (attempt_round _ _ _)
      exact ⟨r₁, rfl, .round hp⟩
    | ret | raise | call => cases hq
  | move hmove _ ih =>
    obtain ⟨r₁, rfl, hp⟩ := ih hq
    exact ⟨r₁, rfl, .move hmove hp⟩

end Outcome

/-- Every run that reaches the end of the program is an outcome. -/
theorem exists_outcome {p : Program Ans ε α} {r : Except ε α} {w w' : W} {g g' : List (Event Ans)}
    (hrun : Steps E ⟨p, w, g⟩ ⟨.ended r, w', g'⟩) :
    ∃ n h, g' = g ++ h ∧ Outcome E n p w h r w' := by
  generalize hc : (⟨p, w, g⟩ : Config Ans ε W α) = c at hrun
  induction hrun using Relation.ReflTransGen.head_induction_on generalizing p w g with
  | refl =>
    cases hc
    refine ⟨0, [], (List.append_nil _).symm, ?_⟩
    cases r with
    | ok a => exact .ret a _
    | error e => exact .raise e _
  | head hstep _ ih =>
    subst hc
    cases hstep with
    | call answer =>
      obtain ⟨n, h, rfl, hp⟩ := ih rfl
      exact ⟨n + 1, _ :: h, List.append_assoc _ _ _, .call answer hp⟩
    | round =>
      obtain ⟨n, h, rfl, hp⟩ := ih rfl
      exact ⟨n + 1, h, rfl, .round hp⟩
    | move hmove =>
      obtain ⟨n, h, rfl, hp⟩ := ih rfl
      exact ⟨n + 1, h, rfl, .move hmove hp⟩

end Interaction
