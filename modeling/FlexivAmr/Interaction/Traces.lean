import FlexivAmr.Interaction.Outcome

/-!
# The traces of a program

A finished run is observed by what some of its calls show. `Traces E observe p w t r w'` says that a
run of `p` from the world `w` can show the trace `t`, end with `r`, and leave the world `w'`. It is
given by equivalences along the structure of the program: what a sequence shows is what its parts
show one after the other (`traces_bind`), and a loop shows its rounds (`traces_loop`). So an exact
account of all traces of a program is read off its text, in both directions at once.
-/

namespace Interaction

open Program

variable {Op : Type} {Ans : Op → Type} {ε ε' W O α β σ : Type} {E : Environment Ans W}
  {observe : Event Ans → Option O}

/-- A finished run of `p` shows the trace `t`. -/
def Traces (E : Environment Ans W) (observe : Event Ans → Option O) (p : Program Ans ε α) (w : W)
    (t : List O) (r : Except ε α) (w' : W) : Prop :=
  ∃ n h, Outcome E n p w h r w' ∧ h.filterMap observe = t

section Drifts

variable {n : ℕ} {p : Program Ans ε α} {w w₁ w' : W} {h : List (Event Ans)} {r : Except ε α}
  {t : List O}

/-- A run may begin after the world has moved. -/
theorem Outcome.drift (hdrift : E.Drifts w w₁) (hp : Outcome E n p w₁ h r w') :
    ∃ m, Outcome E m p w h r w' := by
  induction hdrift using Relation.ReflTransGen.head_induction_on with
  | refl => exact ⟨n, hp⟩
  | head hmove _ ih =>
    obtain ⟨m, hm⟩ := ih
    exact ⟨m + 1, .move hmove hm⟩

/-- A program that has ended makes no call, and the world may move. -/
theorem outcome_ended_iff {r' : Except ε α} :
    (∃ n, Outcome E n (.ended r) w h r' w') ↔ r' = r ∧ h = [] ∧ E.Drifts w w' := by
  constructor
  · rintro ⟨n, hrun⟩
    generalize hq : (Program.ended r : Program Ans ε α) = q at hrun
    induction hrun with
    | ret | raise =>
      cases r <;> cases hq
      exact ⟨rfl, rfl, .refl⟩
    | call | round => cases r <;> cases hq
    | move hmove _ ih =>
      obtain ⟨hr, hh, hdrift⟩ := ih hq
      exact ⟨hr, hh, .head hmove hdrift⟩
  · rintro ⟨rfl, rfl, hdrift⟩
    have hended : Outcome E 0 (Program.ended r') w' [] r' w' := by
      cases r' with
      | ok a => exact .ret a w'
      | error e => exact .raise e w'
    exact hended.drift hdrift

/-- A run may end with moves of the world. -/
theorem Outcome.drift_right (hp : Outcome E n p w h r w₁) (hdrift : E.Drifts w₁ w') :
    ∃ m, Outcome E m p w h r w' := by
  induction hp with
  | ret a w => exact outcome_ended_iff (r := .ok a).2 ⟨rfl, rfl, hdrift⟩
  | raise e w => exact outcome_ended_iff (r := .error e).2 ⟨rfl, rfl, hdrift⟩
  | call answer _ ih =>
    obtain ⟨m, hm⟩ := ih hdrift
    exact ⟨m + 1, .call answer hm⟩
  | round _ ih =>
    obtain ⟨m, hm⟩ := ih hdrift
    exact ⟨m + 1, .round hm⟩
  | move hmove _ ih =>
    obtain ⟨m, hm⟩ := ih hdrift
    exact ⟨m + 1, .move hmove hm⟩

end Drifts

variable {p : Program Ans ε α} {f : α → Program Ans ε β} {w w₁ w' : W} {t : List O}

/-- The traces are those of the runs that reach the end of the program. -/
theorem traces_iff_steps {r : Except ε α} : Traces E observe p w t r w' ↔
    ∃ h, Steps E ⟨p, w, []⟩ ⟨.ended r, w', h⟩ ∧ h.filterMap observe = t := by
  constructor
  · rintro ⟨n, h, hrun, ht⟩
    exact ⟨h, hrun.steps [], ht⟩
  · rintro ⟨h, hrun, ht⟩
    obtain ⟨n, _, rfl, hout⟩ := exists_outcome hrun
    exact ⟨n, _, hout, ht⟩

/-- A trace may begin after the world has moved. -/
theorem Traces.drift {r : Except ε α} (hdrift : E.Drifts w w₁) (hp : Traces E observe p w₁ t r w') :
    Traces E observe p w t r w' := by
  obtain ⟨n, h, hrun, ht⟩ := hp
  obtain ⟨m, hm⟩ := hrun.drift hdrift
  exact ⟨m, h, hm, ht⟩

/-- A trace may end with moves of the world. -/
theorem Traces.drift_right {r : Except ε α} (hp : Traces E observe p w t r w₁)
    (hdrift : E.Drifts w₁ w') : Traces E observe p w t r w' := by
  obtain ⟨n, h, hrun, ht⟩ := hp
  obtain ⟨m, hm⟩ := hrun.drift_right hdrift
  exact ⟨m, h, hm, ht⟩

/-- A program that has ended shows nothing. -/
theorem traces_ended {r r' : Except ε α} :
    Traces E observe (.ended r) w t r' w' ↔ r' = r ∧ t = [] ∧ E.Drifts w w' := by
  constructor
  · rintro ⟨n, h, hrun, rfl⟩
    obtain ⟨hr, rfl, hdrift⟩ := outcome_ended_iff.1 ⟨n, hrun⟩
    exact ⟨hr, rfl, hdrift⟩
  · rintro ⟨hr, rfl, hdrift⟩
    obtain ⟨n, hrun⟩ := outcome_ended_iff.2 ⟨hr, rfl, hdrift⟩
    exact ⟨n, [], hrun, rfl⟩

/-- A program that returns shows nothing. -/
theorem traces_ret {a : α} {r : Except ε α} :
    Traces E observe (.ret a) w t r w' ↔ r = .ok a ∧ t = [] ∧ E.Drifts w w' :=
  traces_ended (r := .ok a)

/-- A program that raises shows nothing. -/
theorem traces_raise {e : ε} {r : Except ε α} :
    Traces E observe (.raise e) w t r w' ↔ r = .error e ∧ t = [] ∧ E.Drifts w w' :=
  traces_ended (r := .error e)

/-- A call shows what is observed of it, and then what follows shows itself. -/
theorem traces_call {op : Op} {next : Ans op → Program Ans ε α} {r : Except ε α} :
    Traces E observe (.call op next) w t r w' ↔ ∃ w₁ a w₂ t', E.Drifts w w₁ ∧
      E.answers w₁ op a w₂ ∧ Traces E observe (next a) w₂ t' r w' ∧
      t = (observe ⟨op, a⟩).toList ++ t' := by
  have hcons : ∀ (e : Event Ans) h, (e :: h).filterMap observe =
      (observe e).toList ++ h.filterMap observe := by
    intro e h
    cases he : observe e with
    | none => rw [List.filterMap_cons_none he]; rfl
    | some o => rw [List.filterMap_cons_some he]; rfl
  constructor
  · rintro ⟨n, h, hrun, rfl⟩
    generalize hq : Program.call op next = q at hrun
    induction hrun with
    | ret | raise | round => cases hq
    | @call n op' _ w w₁ _ a h _ answer rest _ =>
      cases hq
      exact ⟨w, a, w₁, _, .refl, answer, ⟨n, h, rest, rfl⟩, hcons _ _⟩
    | move hmove _ ih =>
      obtain ⟨w₁, a, w₂, t', hdrift, hrest⟩ := ih hq
      exact ⟨w₁, a, w₂, t', .head hmove hdrift, hrest⟩
  · rintro ⟨w₁, a, w₂, t', hdrift, answer, ⟨n, h, hrun, rfl⟩, rfl⟩
    exact .drift hdrift ⟨n + 1, _, .call answer hrun, hcons _ _⟩

/-- A call whose answer is the result shows what is observed of it. -/
theorem traces_call_ended {op : Op} {R : Ans op → Except ε α} {r : Except ε α} :
    Traces E observe (.call op fun a => .ended (R a)) w t r w' ↔ ∃ w₁ a w₂, E.Drifts w w₁ ∧
      E.answers w₁ op a w₂ ∧ E.Drifts w₂ w' ∧ r = R a ∧ t = (observe ⟨op, a⟩).toList := by
  rw [traces_call]
  constructor
  · rintro ⟨w₁, a, w₂, t', hdrift, answer, hnext, rfl⟩
    obtain ⟨rfl, rfl, hdrift'⟩ := traces_ended.1 hnext
    exact ⟨w₁, a, w₂, hdrift, answer, hdrift', rfl, List.append_nil _⟩
  · rintro ⟨w₁, a, w₂, hdrift, answer, hdrift', rfl, rfl⟩
    exact ⟨w₁, a, w₂, [], hdrift, answer, traces_ended.2 ⟨rfl, rfl, hdrift'⟩,
      (List.append_nil _).symm⟩

/-- A call that returns its answer shows what is observed of it. -/
theorem traces_perform {op : Op} {r : Except ε (Ans op)} :
    Traces E observe (perform op) w t r w' ↔ ∃ w₁ a w₂, E.Drifts w w₁ ∧ E.answers w₁ op a w₂ ∧
      E.Drifts w₂ w' ∧ r = .ok a ∧ t = (observe ⟨op, a⟩).toList :=
  traces_call_ended (R := Except.ok)

/-- A sequence shows what its first program shows, and then what follows the result. -/
theorem traces_bind {r : Except ε β} :
    Traces E observe (p.bind f) w t r w' ↔ ∃ t₁ t₂ r₁ w₁, Traces E observe p w t₁ r₁ w₁ ∧
      Traces E observe ((ended r₁).bind f) w₁ t₂ r w' ∧ t = t₁ ++ t₂ := by
  constructor
  · rintro ⟨n, h, hrun, rfl⟩
    obtain ⟨n₁, n₂, h₁, h₂, r₁, w₁, -, rfl, hp, hf⟩ := hrun.of_bind
    exact ⟨_, _, r₁, w₁, ⟨n₁, h₁, hp, rfl⟩, ⟨n₂, h₂, hf, rfl⟩, List.filterMap_append⟩
  · rintro ⟨t₁, t₂, r₁, w₁, ⟨n₁, h₁, hp, rfl⟩, ⟨n₂, h₂, hf, rfl⟩, rfl⟩
    exact ⟨_, _, hp.bind hf, List.filterMap_append⟩

/-- A `try` block shows what the program inside it shows. -/
theorem traces_attempt {r : Except ε' (Except ε α)} :
    Traces E observe p.attempt w t r w' ↔ ∃ r₁, r = .ok r₁ ∧ Traces E observe p w t r₁ w' := by
  constructor
  · rintro ⟨n, h, hrun, ht⟩
    obtain ⟨r₁, rfl, hp⟩ := hrun.of_attempt
    exact ⟨r₁, rfl, n, h, hp, ht⟩
  · rintro ⟨r₁, rfl, n, h, hp, ht⟩
    exact ⟨n, h, hp.attempt, ht⟩

/-! ## Loops -/

/-- The traces of a loop, round by round. -/
inductive Rounds (E : Environment Ans W) (observe : Event Ans → Option O)
    (body : σ → Program Ans ε (β ⊕ σ)) : σ → W → List O → Except ε β → W → Prop
  | ended {s : σ} {w w' : W} {t : List O} {b : β}
      (round : Traces E observe (body s) w t (.ok (.inl b)) w') :
      Rounds E observe body s w t (.ok b) w'
  | raised {s : σ} {w w' : W} {t : List O} {e : ε}
      (round : Traces E observe (body s) w t (.error e) w') :
      Rounds E observe body s w t (.error e) w'
  | more {s s' : σ} {w w₁ w' : W} {t t' : List O} {r : Except ε β}
      (round : Traces E observe (body s) w t (.ok (.inr s')) w₁)
      (later : Rounds E observe body s' w₁ t' r w') : Rounds E observe body s w (t ++ t') r w'

variable {body : σ → Program Ans ε (β ⊕ σ)} {s : σ}

/-- The moves of the world before a loop belong to its first round. -/
theorem Rounds.drift {r : Except ε β} (hdrift : E.Drifts w w₁)
    (h : Rounds E observe body s w₁ t r w') : Rounds E observe body s w t r w' := by
  cases h with
  | ended round => exact .ended (round.drift hdrift)
  | raised round => exact .raised (round.drift hdrift)
  | more round later => exact .more (round.drift hdrift) later

/-- A loop shows its rounds. -/
theorem traces_loop {r : Except ε β} :
    Traces E observe (loop s body) w t r w' ↔ Rounds E observe body s w t r w' := by
  constructor
  · rintro ⟨n, h, hrun, rfl⟩
    -- The rest of the loop takes fewer steps than the loop.
    induction n using Nat.strongRecOn generalizing s w h with
    | ind n ih =>
      cases hrun with
      | round rest =>
        obtain ⟨n₁, n₂, h₁, h₂, r₁, w₁, hn, rfl, hround, hnext⟩ := rest.of_bind
        have hround' : Traces E observe (body s) w (h₁.filterMap observe) r₁ w₁ :=
          ⟨n₁, h₁, hround, rfl⟩
        rw [List.filterMap_append]
        rcases r₁ with e | b | s'
        · obtain ⟨rfl, ht, hdrift⟩ :=
            traces_raise.1 (⟨n₂, h₂, hnext, rfl⟩ : Traces E observe _ _ _ _ _)
          rw [ht, List.append_nil]
          exact .raised (hround'.drift_right hdrift)
        · obtain ⟨rfl, ht, hdrift⟩ :=
            traces_ret.1 (⟨n₂, h₂, hnext, rfl⟩ : Traces E observe _ _ _ _ _)
          rw [ht, List.append_nil]
          exact .ended (hround'.drift_right hdrift)
        · exact .more hround' (ih n₂ (by omega) h₂ hnext)
      | move hmove rest => exact .drift (.single hmove) (ih _ (Nat.lt_succ_self _) h rest)
  · intro hrounds
    have hround : ∀ {s : σ} {w w₁ w' : W} {t₁ t₂ : List O} {r₁ : Except ε (β ⊕ σ)},
        Traces E observe (body s) w t₁ r₁ w₁ →
        Traces E observe ((Program.ended r₁).bind (Sum.elim .ret fun s' => .iter body s' .ret)) w₁ t₂
          r w' → Traces E observe (loop s body) w (t₁ ++ t₂) r w' := by
      intro s w w₁ w' t₁ t₂ r₁ hfirst hrest
      obtain ⟨n, h, hrun, ht⟩ := traces_bind.2 ⟨t₁, t₂, r₁, w₁, hfirst, hrest, rfl⟩
      exact ⟨n + 1, h, .round hrun, ht⟩
    induction hrounds with
    | ended round =>
      have hlast := hround round (traces_ret.2 ⟨rfl, rfl, .refl⟩)
      rwa [List.append_nil] at hlast
    | raised round =>
      have hlast := hround round (traces_raise.2 ⟨rfl, rfl, .refl⟩)
      rwa [List.append_nil] at hlast
    | more round _ ih => exact hround round (ih hround)

end Interaction
