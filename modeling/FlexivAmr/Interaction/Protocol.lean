import FlexivAmr.Interaction.Steps

/-!
# Programs that conform to a protocol

A `Protocol` is an abstract transition system over events. A program conforms to it from a state
when the protocol can follow every call that the program makes, whatever the answer is.
`Conforms P p Q s` also says where it ends: `Q` relates the result to the protocol's last state.

`Conforms` is a structural recursion on the program, and its rules are those of a weakest
precondition: sequencing and `try` blocks are equivalences (`conforms_bind`, `conforms_attempt`), a
loop needs an invariant that relates its state to the protocol's (`conforms_loop`). Nothing in it
mentions an environment. `Conforms.invariant` brings the two together: whatever the steps of the
protocol and the moves of the world preserve together holds throughout every run of a conforming
program.
-/

namespace Interaction

open Program

variable {Op : Type} {Ans : Op → Type} {ε ε' W S α β σ : Type}

/-- A protocol over the states `S`: which states an event may lead to from which. -/
abbrev Protocol (Ans : Op → Type) (S : Type) : Type := S → Event Ans → S → Prop

/-- Where a round of a loop may leave the protocol: in the invariant when the loop goes on, in the
loop's continuation when it ends, and in `raised` when an exception ends it. -/
def afterRound (ended : β → S → Prop) (Inv : σ → S → Prop) (raised : ε → S → Prop) :
    Except ε (β ⊕ σ) → S → Prop
  | .ok (.inl b) => ended b
  | .ok (.inr i) => Inv i
  | .error e => raised e

/-- Where the first program of a sequence may leave the protocol. -/
def afterFirst (rest : α → S → Prop) (raised : ε → S → Prop) : Except ε α → S → Prop
  | .ok a => rest a
  | .error e => raised e

/-- From the state `s`, the protocol `P` can follow every run of the program, and it is in a state
that `Q` allows when the program has ended. -/
def Conforms (P : Protocol Ans S) :
    {α : Type} → Program Ans ε α → (Except ε α → S → Prop) → S → Prop
  | _, .ret a, Q, s => Q (.ok a) s
  | _, .raise e, Q, s => Q (.error e) s
  | _, .call op next, Q, s => ∀ a, ∃ s', P s ⟨op, a⟩ s' ∧ Conforms P (next a) Q s'
  | _, .iter body i next, Q, s => ∃ Inv : _ → S → Prop, Inv i s ∧ ∀ i s, Inv i s →
      Conforms P (body i)
        (afterRound (fun b => Conforms P (next b) Q) Inv fun e => Q (.error e)) s

variable {P : Protocol Ans S} {Q Q' : Except ε α → S → Prop} {s : S}

@[simp] theorem afterRound_inl {f : β → S → Prop} {g : σ → S → Prop} {r : ε → S → Prop} {b : β} :
    afterRound f g r (.ok (.inl b)) = f b := rfl

@[simp] theorem afterRound_inr {f : β → S → Prop} {g : σ → S → Prop} {r : ε → S → Prop} {i : σ} :
    afterRound f g r (.ok (.inr i)) = g i := rfl

@[simp] theorem afterRound_error {f : β → S → Prop} {g : σ → S → Prop} {r : ε → S → Prop} {e : ε} :
    afterRound f g r (.error e) = r e := rfl

@[simp] theorem afterFirst_ok {f : α → S → Prop} {r : ε → S → Prop} {a : α} :
    afterFirst f r (.ok a) = f a := rfl

@[simp] theorem afterFirst_error {f : α → S → Prop} {r : ε → S → Prop} {e : ε} :
    afterFirst f r (.error e) = r e := rfl

@[simp] theorem conforms_ret {a : α} : Conforms P (.ret a) Q = Q (.ok a) := rfl

@[simp] theorem conforms_raise {e : ε} : Conforms P (.raise e) Q = Q (.error e) := rfl

theorem conforms_call {op : Op} {next : Ans op → Program Ans ε α} :
    Conforms P (.call op next) Q s ↔ ∀ a, ∃ s', P s ⟨op, a⟩ s' ∧ Conforms P (next a) Q s' := Iff.rfl

/-- A conforming program conforms with a weaker postcondition. -/
theorem Conforms.mono {p : Program Ans ε α} (hp : Conforms P p Q s)
    (himp : ∀ r s, Q r s → Q' r s) : Conforms P p Q' s := by
  induction p generalizing s with
  | ret a => exact himp _ _ hp
  | raise e => exact himp _ _ hp
  | call op next ih =>
    intro a
    obtain ⟨s', hstep, hnext⟩ := hp a
    exact ⟨s', hstep, ih a hnext himp⟩
  | iter body i next ihbody ihnext =>
    obtain ⟨Inv, hi, hround⟩ := hp
    refine ⟨Inv, hi, fun i s hInv => ihbody i (hround i s hInv) ?_⟩
    rintro (e | b | i') s' hr
    · exact himp _ _ hr
    · exact ihnext b hr himp
    · exact hr

/-- A sequence conforms when its first program conforms up to the second. -/
theorem conforms_bind {p : Program Ans ε α} {f : α → Program Ans ε β}
    {Q : Except ε β → S → Prop} :
    Conforms P (p.bind f) Q s ↔
      Conforms P p (afterFirst (fun a => Conforms P (f a) Q) fun e => Q (.error e)) s := by
  induction p generalizing s with
  | ret a => exact Iff.rfl
  | raise e => exact Iff.rfl
  | call op next ih => exact forall_congr' fun a => exists_congr fun s' => and_congr_right' (ih a)
  | iter body i next _ ih =>
    -- The loop keeps its invariant; only what follows the loop gets longer.
    have hnext : ∀ b, Conforms P ((next b).bind f) Q = Conforms P (next b) _ :=
      fun b => funext fun s => propext (ih b)
    simp only [Program.bind, Conforms, hnext]
    exact Iff.rfl

/-- A `try` block conforms when the program inside it does, with its exceptions as results. -/
theorem conforms_attempt {p : Program Ans ε α} {Q : Except ε' (Except ε α) → S → Prop} :
    Conforms P (p.attempt) Q s ↔ Conforms P p (fun r => Q (.ok r)) s := by
  induction p generalizing s with
  | ret a => exact Iff.rfl
  | raise e => exact Iff.rfl
  | call op next ih => exact forall_congr' fun a => exists_congr fun s' => and_congr_right' (ih a)
  | iter body i next ihbody ihnext =>
    refine exists_congr fun Inv => and_congr_right' <| forall_congr' fun i => forall_congr' fun s =>
      imp_congr_right fun _ => ?_
    rw [conforms_bind, ihbody i]
    -- An exception of a round ends the loop of the block with `.error`, and the loop of the program
    -- by leaving it: the postconditions of a round agree on both.
    have hpost : ∀ r s, (afterFirst (fun r => Conforms P (.ret (settle r)) (afterRound
        (fun b => Conforms P (orError (fun b => (next b).attempt) b) Q) Inv fun e => Q (.error e)))
          fun e => Q (.error e)) (.ok r) s ↔
        afterRound (fun b => Conforms P (next b) fun r => Q (.ok r)) Inv
          (fun e => Q (.ok (.error e))) r s := by
      rintro (e | b | i') s
      · exact Iff.rfl
      · exact ihnext b
      · exact Iff.rfl
    exact ⟨fun h => h.mono fun r s => (hpost r s).1, fun h => h.mono fun r s => (hpost r s).2⟩

/-- A program that has ended conforms when its result meets the postcondition. -/
@[simp] theorem conforms_ended {r : Except ε α} : Conforms P (.ended r) Q = Q r := by
  cases r <;> rfl

/-- A replaced exception is replaced in the postcondition. -/
theorem conforms_mapError {p : Program Ans ε α} {f : ε → ε'} {Q : Except ε' α → S → Prop} :
    Conforms P (p.mapError f) Q s ↔ Conforms P p (fun r => Q (r.mapError f)) s := by
  unfold mapError
  simp only [conforms_bind, conforms_attempt, afterFirst_ok, conforms_ended]

/-- A loop conforms by an invariant that its rounds preserve. -/
theorem conforms_loop {body : σ → Program Ans ε (β ⊕ σ)} {i : σ} {Q : Except ε β → S → Prop}
    (Inv : σ → S → Prop) (hi : Inv i s)
    (hround : ∀ i s, Inv i s →
      Conforms P (body i) (afterRound (fun b => Q (.ok b)) Inv fun e => Q (.error e)) s) :
    Conforms P (loop i body) Q s :=
  ⟨Inv, hi, hround⟩

/-- One step of a run of a conforming program: the rest conforms, from the same state of the
protocol unless the step is an event, and else from one that the event leads to. -/
theorem Conforms.step {E : Environment Ans W} {c c' : Config Ans ε W α} (hstep : Step E c c')
    (hc : Conforms P c.program Q s) :
    (∃ op a s', E.answers c.world op a c'.world ∧ c'.history = c.history ++ [⟨op, a⟩] ∧
        P s ⟨op, a⟩ s' ∧ Conforms P c'.program Q s') ∨
      (c'.history = c.history ∧ (c'.world = c.world ∨ E.moves c.world c'.world) ∧
        Conforms P c'.program Q s) := by
  cases hstep with
  | @call op next w w' h a answer =>
    obtain ⟨s', hP, hnext⟩ := hc a
    exact .inl ⟨op, a, s', answer, rfl, hP, hnext⟩
  | @round σ' β' body i next w h =>
    refine .inr ⟨rfl, .inl rfl, ?_⟩
    obtain ⟨Inv, hi, hround⟩ := hc
    refine conforms_bind.2 ((hround i s hi).mono ?_)
    rintro (e | b | i') s' hr
    · exact hr
    · exact hr
    · exact ⟨Inv, hr, hround⟩
  | move hmove => exact .inr ⟨rfl, .inr hmove, hc⟩

/-- A relation `J` of the protocol's state, the world, and the history that events and moves
preserve holds, for some state from which the rest of the program conforms, at every point of every
run of a conforming program. -/
theorem Conforms.invariant {E : Environment Ans W} {J : S → W → List (Event Ans) → Prop}
    (hevent : ∀ s w h op a w' s', J s w h → P s ⟨op, a⟩ s' → E.answers w op a w' →
      J s' w' (h ++ [⟨op, a⟩]))
    (hmove : ∀ s w h w', J s w h → E.moves w w' → J s w' h)
    {c c' : Config Ans ε W α} (hrun : Steps E c c') (hc : Conforms P c.program Q s)
    (hJ : J s c.world c.history) :
    ∃ s', J s' c'.world c'.history ∧ Conforms P c'.program Q s' := by
  induction hrun with
  | refl => exact ⟨s, hJ, hc⟩
  | tail _ hstep ih =>
    obtain ⟨s₁, hJ₁, hc₁⟩ := ih
    rcases hc₁.step hstep with ⟨op, a, s', answer, hh, hP, hc'⟩ | ⟨hh, hw, hc'⟩
    · refine ⟨s', ?_, hc'⟩
      rw [hh]
      exact hevent _ _ _ _ _ _ _ hJ₁ hP answer
    · refine ⟨s₁, ?_, hc'⟩
      rw [hh]
      rcases hw with hw | hw
      · rw [hw]
        exact hJ₁
      · exact hmove _ _ _ _ hJ₁ hw

end Interaction
