import FlexivAmr.Interaction.Outcome

/-!
# Pre- and postconditions

`Triple E P p Q` is partial correctness over finished runs: one that starts in a world of which `P`
holds ends with a result and in a world of which `Q` holds. The rules follow the structure of a
program. The world may move before each step, so a precondition has to be one that these moves keep
(`Stable`).
-/

namespace Interaction

open Program

variable {Op : Type} {Ans : Op → Type} {ε ε' W α β : Type} {E : Environment Ans W}

/-- The world's own moves keep `P`. -/
def Stable (E : Environment Ans W) (P : W → Prop) : Prop := ∀ w w', P w → E.moves w w' → P w'

/-- Every finished run of `p` from a world of which `P` holds ends as `Q` says. -/
def Triple (E : Environment Ans W) (P : W → Prop) (p : Program Ans ε α)
    (Q : Except ε α → W → Prop) : Prop :=
  ∀ n w h r w', P w → Outcome E n p w h r w' → Q r w'

/-- A stable precondition that is known up to a value. -/
theorem Stable.exists {ι : Sort*} {P : ι → W → Prop} (h : ∀ x, Stable E (P x)) :
    Stable E fun w => ∃ x, P x w := by
  rintro w w' ⟨x, hw⟩ hmove
  exact ⟨x, h x w w' hw hmove⟩

/-- A stable precondition, and a fact. -/
theorem Stable.and {a : Prop} {P : W → Prop} (h : Stable E P) : Stable E fun w => a ∧ P w := by
  rintro w w' ⟨ha, hw⟩ hmove
  exact ⟨ha, h w w' hw hmove⟩

namespace Triple

variable {P P' : W → Prop} {p : Program Ans ε α} {Q Q' : Except ε α → W → Prop}

/-- A stronger precondition, and a weaker postcondition. -/
theorem mono (hp : Triple E P p Q) (hpre : ∀ w, P' w → P w) (hpost : ∀ r w, Q r w → Q' r w) :
    Triple E P' p Q' :=
  fun n w h r w' hw hrun => hpost r w' (hp n w h r w' (hpre w hw) hrun)

/-- A precondition that is known up to a value. -/
theorem exists_pre {ι : Sort*} {P : ι → W → Prop} (h : ∀ x, Triple E (P x) p Q) :
    Triple E (fun w => ∃ x, P x w) p Q := by
  rintro n w h' r w' ⟨x, hw⟩ hrun
  exact h x n w h' r w' hw hrun

/-- A precondition that holds only if a fact does. -/
theorem and_pre {a : Prop} (h : a → Triple E P p Q) : Triple E (fun w => a ∧ P w) p Q := by
  rintro n w h' r w' ⟨ha, hw⟩ hrun
  exact h ha n w h' r w' hw hrun

/-- A program that has ended. -/
theorem ended {r : Except ε α} (hP : Stable E P) (hQ : ∀ w, P w → Q r w) :
    Triple E P (.ended r) Q := by
  intro n w h r' w' hw hrun
  generalize hq : (Program.ended r : Program Ans ε α) = q at hrun
  induction hrun with
  | ret a w =>
    cases r with
    | ok => cases hq; exact hQ w hw
    | error => cases hq
  | raise e w =>
    cases r with
    | ok => cases hq
    | error => cases hq; exact hQ w hw
  | call => cases r <;> cases hq
  | round => cases r <;> cases hq
  | move hmove _ ih => exact ih (hP _ _ hw hmove) hq

/-- A call, by what its answers come to. -/
theorem call {op : Op} {next : Ans op → Program Ans ε α} (hP : Stable E P) (R : Ans op → W → Prop)
    (hcall : ∀ w a w', P w → E.answers w op a w' → R a w')
    (hnext : ∀ a, Triple E (R a) (next a) Q) : Triple E P (.call op next) Q := by
  intro n w h r w' hw hrun
  generalize hq : Program.call op next = q at hrun
  induction hrun with
  | ret | raise | round => cases hq
  | call answer rest _ =>
    cases hq
    exact hnext _ _ _ _ _ _ (hcall _ _ _ hw answer) rest
  | move hmove _ ih => exact ih (hP _ _ hw hmove) hq

/-- A sequence, by what its first program leaves. -/
theorem bind {f : α → Program Ans ε β} {Q : Except ε β → W → Prop} (R : Except ε α → W → Prop)
    (hp : Triple E P p R) (hf : ∀ a, Triple E (R (.ok a)) (f a) Q)
    (herror : ∀ e, Triple E (R (.error e)) (.raise e) Q) : Triple E P (p.bind f) Q := by
  intro n w h r w' hw hrun
  obtain ⟨n₁, n₂, h₁, h₂, r₁, w₁, -, -, hfirst, hrest⟩ := hrun.of_bind
  have hR := hp _ _ _ _ _ hw hfirst
  cases r₁ with
  | ok a => exact hf a _ _ _ _ _ hR hrest
  | error e => exact herror e _ _ _ _ _ hR hrest

/-- A `try` block. -/
theorem attempt {Q : Except ε' (Except ε α) → W → Prop} (hp : Triple E P p fun r => Q (.ok r)) :
    Triple E P p.attempt Q := by
  intro n w h r w' hw hrun
  obtain ⟨r₁, rfl, hrun₁⟩ := hrun.of_attempt
  exact hp _ _ _ _ _ hw hrun₁

/-- Exceptions that are replaced. -/
theorem mapError {f : ε → ε'} {Q : Except ε' α → W → Prop} (hQ : ∀ r, Stable E (Q r))
    (hp : Triple E P p fun r => Q (r.mapError f)) : Triple E P (p.mapError f) Q := by
  refine .bind (fun
    | .ok r => Q (r.mapError f)
    | .error _ => fun _ => False) (attempt hp) ?_ ?_
  · exact fun r => ended (hQ _) fun _ h => h
  · intro e n w h r w' hw
    exact hw.elim

end Triple

end Interaction
