import Mathlib.Data.List.Basic

/-!
# Properties of a history

A history grows at its end, one entry at a time. `Always P` says that `P` held of every entry when
it was added, together with the history up to it. That is the form of a precondition, of an order
between two kinds of entries, and of the absence of any entry of a kind after another.
-/

namespace Interaction

variable {A : Type} {P : List A → A → Prop} {p : A → Bool} {l : List A} {a : A}

/-- `P` holds of every entry and of the history before it. -/
def Always (P : List A → A → Prop) (l : List A) : Prop :=
  ∀ earlier a later, l = earlier ++ a :: later → P earlier a

/-- Nothing has to hold of the empty history. -/
theorem always_nil : Always P [] := by
  intro earlier a later h
  exact absurd h.symm (by simp)

/-- A longer history adds what holds of its last entry. -/
theorem always_append_singleton : Always P (l ++ [a]) ↔ Always P l ∧ P l a := by
  constructor
  · intro h
    refine ⟨fun earlier b later hl => h earlier b (later ++ [a]) ?_, h l a [] rfl⟩
    rw [hl, List.append_assoc, List.cons_append]
  · rintro ⟨h, ha⟩ earlier b later hl
    -- The entry `b` is the last one exactly when nothing is later.
    rcases List.eq_nil_or_concat' later with rfl | ⟨later, c, rfl⟩
    · obtain ⟨rfl, hab⟩ := List.append_inj' hl rfl
      rw [List.cons.injEq] at hab
      rw [← hab.1]
      exact ha
    · have hcut : l ++ [a] = (earlier ++ b :: later) ++ [c] := by
        rw [hl, List.append_assoc, List.cons_append]
      exact h earlier b later (List.append_inj' hcut rfl).1

/-- The entries of a kind, in a history with one more entry of that kind. -/
theorem filter_append_of_pos (ha : p a = true) : (l ++ [a]).filter p = l.filter p ++ [a] := by
  rw [List.filter_append, List.filter_cons_of_pos ha, List.filter_nil]

/-- The entries of a kind, in a history with one more entry that is of another. -/
theorem filter_append_of_neg (ha : p a = false) : (l ++ [a]).filter p = l.filter p := by
  rw [List.filter_append, List.filter_cons_of_neg (by rw [ha]; exact Bool.false_ne_true),
    List.filter_nil, List.append_nil]

end Interaction
