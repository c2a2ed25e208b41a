import FlexivAmr.Interaction.Protocol
import Mathlib.Data.Nat.Notation

/-!
# Bounds on what a run may still do

A rank on the states of a protocol that falls with each event of a kind bounds how many such events
a run of a conforming program still has (`Conforms.countP_le`). When every event counts, that is a
bound on the calls, and the program terminates (`Conforms.length_le`). The rank may depend on the
world and on the history, and it has to fall only where an invariant holds, so the bound may rest on
what the environment is assumed to do.
-/

namespace Interaction

variable {Op : Type} {Ans : Op → Type} {ε W S α : Type} {E : Environment Ans W}
  {P : Protocol Ans S} {Q : Except ε α → S → Prop} {s : S}
  {I : S → W → List (Event Ans) → Prop} {rank : S → W → List (Event Ans) → ℕ}
  {c c' : Config Ans ε W α}

/-- The rank pays for the counted events: from a state `s` on, a run of a conforming program has at
most as many of them as the rank of `s`. -/
theorem Conforms.countP_le (counted : Event Ans → Bool)
    (hevent : ∀ s w h op a w' s', I s w h → P s ⟨op, a⟩ s' → E.answers w op a w' →
      I s' w' (h ++ [⟨op, a⟩]) ∧
        rank s' w' (h ++ [⟨op, a⟩]) + (if counted ⟨op, a⟩ then 1 else 0) ≤ rank s w h)
    (hmove : ∀ s w h w', I s w h → E.moves w w' → I s w' h ∧ rank s w' h ≤ rank s w h)
    (hrun : Steps E c c') (hc : Conforms P c.program Q s) (hI : I s c.world c.history) :
    c'.history.countP counted ≤ c.history.countP counted + rank s c.world c.history := by
  -- What is left of the rank and what has been counted are together no more than at `c`.
  obtain ⟨s', ⟨-, hle⟩, -⟩ := Conforms.invariant
    (J := fun s' w h => I s' w h ∧
      h.countP counted + rank s' w h ≤ c.history.countP counted + rank s c.world c.history)
    (fun s₁ w h op a w' s₂ hJ hP answer => by
      obtain ⟨hI₁, hle⟩ := hJ
      obtain ⟨hI₂, hpays⟩ := hevent s₁ w h op a w' s₂ hI₁ hP answer
      rw [List.countP_append, List.countP_singleton]
      exact ⟨hI₂, by omega⟩)
    (fun s₁ w h w' hJ hw => by
      obtain ⟨hI₁, hle⟩ := hJ
      obtain ⟨hI₂, hless⟩ := hmove s₁ w h w' hI₁ hw
      exact ⟨hI₂, by omega⟩)
    hrun hc ⟨hI, Nat.le_refl _⟩
  omega

/-- When every event counts, the rank bounds the calls. -/
theorem Conforms.length_le
    (hevent : ∀ s w h op a w' s', I s w h → P s ⟨op, a⟩ s' → E.answers w op a w' →
      I s' w' (h ++ [⟨op, a⟩]) ∧ rank s' w' (h ++ [⟨op, a⟩]) + 1 ≤ rank s w h)
    (hmove : ∀ s w h w', I s w h → E.moves w w' → I s w' h ∧ rank s w' h ≤ rank s w h)
    (hrun : Steps E c c') (hc : Conforms P c.program Q s) (hI : I s c.world c.history) :
    c'.history.length ≤ c.history.length + rank s c.world c.history := by
  have hcount := Conforms.countP_le (fun _ => true) hevent hmove hrun hc hI
  rwa [List.countP_true] at hcount

end Interaction
