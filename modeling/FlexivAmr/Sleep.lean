import FlexivAmr.Stop

/-!
# What a sleep comes to

`SleepInterruptibly` in the environment where sleeping takes time: it ends when the flag is set or
when its time has passed (`sleepInterruptibly_slept`), and it may end in every world where one of
the two is so (`sleepInterruptibly_canEnd_slept`). It makes no request.
-/

namespace FlexivAmr

open Interaction Program

/-- The world has moved on: the clock has not gone back, and a flag that was set still is. -/
structure Host.Later (w w' : Host) : Prop where
  steady : w.steady ≤ w'.steady
  stop_requested : w.stop_requested = true → w'.stop_requested = true

/-- A sleep of `duration` milliseconds that began in the world `w` is over in the world `w'`, except
for `slack` nanoseconds. -/
structure Slept (duration slack : ℤ) (w w' : Host) : Prop where
  later : w.Later w'
  elapsed : w'.stop_requested = true ∨ w.steady + max duration 0 * 1000000 ≤ w'.steady + slack

/-- A call that a sleep makes. -/
def isRest (e : Event Op.Answer) : Bool :=
  match e.1 with
  | .stopRequested | .sleepFor _ => true
  | _ => false

theorem isClient_eq_false_of_isRest {e : Event Op.Answer} (he : isRest e = true) :
    isClient e = false := by
  obtain ⟨op, a⟩ := e
  cases op with
  | client request => cases he
  | _ => rfl

variable {duration slack : ℤ} {w w₁ w' : Host} {h : History} {r : Except StdException Unit}

theorem Host.Later.refl (w : Host) : w.Later w := ⟨Int.le_refl _, id⟩

theorem Host.Later.trans (h₁ : w.Later w₁) (h₂ : w₁.Later w') : w.Later w' :=
  ⟨h₁.steady.trans h₂.steady, fun h => h₂.stop_requested (h₁.stop_requested h)⟩

/-- The host's own moves lead to later worlds. -/
theorem Host.Moves.later (hmove : Host.Moves w w') : w.Later w' := by
  cases hmove with
  | signalHandler => exact ⟨Int.le_refl _, fun _ => rfl⟩
  | tick t ht => exact ⟨ht, id⟩

/-- A reading of a clock that is punctual to the nanosecond. -/
theorem steadyNow_exact {w w' : HostInRange} {t : ℤ}
    (answer : (punctualWithin 0).answers w .steadyNow t w') : t = w.steady ∧ w' = w := by
  obtain ⟨hread, rfl⟩ := answer
  rw [sub_zero, add_zero] at hread
  exact ⟨le_antisymm hread.2 hread.1, rfl⟩

/-- A run that is punctual to the nanosecond. -/
theorem steps_punctual {ε α : Type} {c c' : Config Op.Answer ε HostInRange α}
    (hrun : Steps (punctualWithin 0) c c') :
    Steps punctual (c.mapWorld HostInRange.toHost) (c'.mapWorld HostInRange.toHost) := by
  refine hrun.mapWorld HostInRange.toHost (fun w op a w' answer => ?_) fun _ _ => id
  cases op with
  | sleepFor duration =>
    obtain ⟨hstop, -, hslept⟩ := answer
    exact ⟨hstop, by rwa [add_zero] at hslept⟩
  | steadyNow =>
    obtain ⟨rfl, rfl⟩ := steadyNow_exact answer
    exact ⟨rfl, rfl⟩
  | client | stopRequested | systemNow | returned =>
    obtain ⟨hallows, rfl⟩ := answer
    exact ⟨hallows, rfl⟩

/-- A host may move to every later world, whichever calls are made of it. -/
theorem HostInRange.canEnd_later {C ε α : Type} {Ans : C → Type} {E : Environment Ans HostInRange}
    {p : Program Ans ε α} {Q : Except ε α → HostInRange → List (Event Ans) → Prop}
    {h : List (Event Ans)} {w w' : HostInRange}
    (hmoves : ∀ w w' : HostInRange, Host.Moves w.toHost w'.toHost → E.moves w w')
    (hlater : w.toHost.Later w'.toHost) (hp : CanEnd E p Q w' h) : CanEnd E p Q w h := by
  obtain ⟨⟨stop, t⟩, ht⟩ := w
  obtain ⟨⟨stop', t'⟩, ht'⟩ := w'
  have htick : CanEnd E p Q ⟨⟨stop', t⟩, ht⟩ h :=
    .move (hmoves _ _ (.tick ⟨stop', t⟩ t' hlater.steady)) hp
  cases stop with
  | true =>
    obtain rfl : stop' = true := hlater.stop_requested rfl
    exact htick
  | false =>
    cases stop' with
    | true => exact .move (hmoves _ ⟨⟨true, t⟩, ht⟩ (.signalHandler ⟨false, t⟩)) htick
    | false => exact htick

/-- How much of a sleep that began in the world `w` has passed at a point of it. The sleep is over
at the point `failed`, which stands for whatever comes next. -/
def Point.Sleeping (duration : ℤ) (w : Host) : Point → Host → Prop
  | .sleep remaining .failed, w' =>
    w.Later w' ∧ w.steady + (max duration 0 - max remaining 0) * 1000000 ≤ w'.steady
  | .doze remaining .failed, w' => 0 < remaining ∧
    w.Later w' ∧ w.steady + (max duration 0 - max remaining 0) * 1000000 ≤ w'.steady
  | .failed, w' => Slept duration 0 w w'
  | _, _ => False

/-- The host's moves do not undo a sleep. -/
theorem Point.Sleeping.later {p : Point} (hp : p.Sleeping duration w w₁) (hlater : w₁.Later w') :
    p.Sleeping duration w w' := by
  cases p with
  | sleep remaining next =>
    cases next with
    | failed => exact ⟨hp.1.trans hlater, hp.2.trans hlater.steady⟩
    | _ => exact hp.elim
  | doze remaining next =>
    cases next with
    | failed => exact ⟨hp.1, hp.2.1.trans hlater, hp.2.2.trans hlater.steady⟩
    | _ => exact hp.elim
  | failed =>
    obtain ⟨hlater₁, hover⟩ := hp
    refine ⟨hlater₁.trans hlater, hover.imp hlater.stop_requested fun h => h.trans ?_⟩
    exact Int.add_le_add_right hlater.steady 0
  | _ => exact hp.elim

/-- A step of a sleep. -/
theorem Point.Sleeping.step {p p' : Point} {op : Op} {a : op.Answer} (hp : p.Sleeping duration w w₁)
    (hstep : p.Step {} ⟨op, a⟩ p') (answer : punctual.answers w₁ op a w') :
    p'.Sleeping duration w w' ∧ isClient ⟨op, a⟩ = false := by
  cases hstep with
  | sleepStop remaining next stop =>
    obtain ⟨hstop, rfl⟩ := answer
    refine ⟨?_, rfl⟩
    cases next with
    | failed =>
      obtain ⟨hlater, hpassed⟩ := hp
      split_ifs with hdoze
      · rw [Bool.and_eq_true, decide_eq_true_eq] at hdoze
        exact ⟨hdoze.2, hlater, hpassed⟩
      · rw [Bool.and_eq_true, decide_eq_true_eq, not_and_or, Bool.not_eq_true', Bool.not_eq_false,
          not_lt, show stop = _ from hstop] at hdoze
        refine ⟨hlater, hdoze.imp_right fun hremaining => ?_⟩
        rwa [max_eq_right hremaining, sub_zero, ← add_zero w'.steady] at hpassed
    | _ => exact hp.elim
  | doze remaining next =>
    obtain ⟨hstop, hslept⟩ := answer
    refine ⟨?_, rfl⟩
    cases next with
    | failed =>
      obtain ⟨hremaining, hlater, hpassed⟩ := hp
      have hdoze : 0 < dozeStep remaining ∧ dozeStep remaining ≤ remaining := by
        unfold dozeStep kStep
        split_ifs <;> omega
      refine ⟨⟨?_, fun h => hstop.trans (hlater.stop_requested h)⟩, ?_⟩
      · have hle := hlater.steady
        omega
      · omega
    | _ => exact hp.elim
  | _ => exact hp.elim

/-- A sleep returns when it is over, and has made no request. -/
theorem sleepInterruptibly_slept
    (hrun : Steps punctual ⟨sleepInterruptibly duration, w, []⟩ ⟨.ended r, w', h⟩) :
    r = .ok () ∧ Slept duration 0 w w' ∧ ∀ e ∈ h, isClient e = false := by
  have hfollows : Conforms (machine {}) (sleepInterruptibly duration)
      (fun r p => r = .ok () ∧ p = .failed) (.sleep duration .failed) :=
    sleepInterruptibly_follows ⟨rfl, rfl⟩
  obtain ⟨p, ⟨hp, hquiet⟩, hend⟩ := Conforms.invariant
    (J := fun p w' h => p.Sleeping duration w w' ∧ ∀ e ∈ h, isClient e = false)
    (fun p w₁ h op a w₂ p' hJ hstep answer => by
      obtain ⟨hp, hquiet⟩ := hJ
      obtain ⟨hp', he⟩ := hp.step hstep answer
      exact ⟨hp', List.forall_mem_append.2 ⟨hquiet, List.forall_mem_singleton.2 he⟩⟩)
    (fun p w₁ h w₂ hJ hmove => ⟨hJ.1.later hmove.later, hJ.2⟩)
    hrun hfollows ⟨⟨.refl w, by simp⟩, by simp⟩
  rw [conforms_ended] at hend
  obtain ⟨hr, rfl⟩ := hend
  exact ⟨hr, hp, hquiet⟩

/-- A sleep may end in every world where it is over. -/
theorem sleepInterruptibly_canEnd_slept {w w' : HostInRange}
    {Q : Except StdException Unit → HostInRange → History → Prop} (hslack : 0 ≤ slack)
    (hslept : Slept duration slack w.toHost w'.toHost)
    (hQ : ∀ g, (∀ e ∈ g, isRest e = true) → Q (.ok ()) w' (h ++ g)) :
    CanEnd (punctualWithin slack) (sleepInterruptibly duration) Q w h := by
  obtain ⟨hlater, hover⟩ := hslept
  obtain ⟨⟨stop', t'⟩, ht'⟩ := w'
  cases stop' with
  | true =>
    -- The flag is set before the first step.
    refine HostInRange.canEnd_later (fun _ _ => id) hlater
      (.round (.call true ⟨rfl, rfl⟩ (.ret (hQ _ ?_))))
    exact List.forall_mem_singleton.2 rfl
  | false =>
    obtain ⟨⟨stop, t⟩, ht⟩ := w
    have hstop : stop = false := by
      cases stop with
      | false => rfl
      | true => exact absurd (hlater.stop_requested rfl) Bool.false_ne_true
    subst hstop
    have hpassed : t + max duration 0 * 1000000 ≤ t' + slack :=
      hover.resolve_left Bool.false_ne_true
    have hle : t ≤ t' := hlater.steady
    clear hlater hover
    -- The induction is on the time that remains, rounded up to zero.
    generalize hn : duration.toNat = n
    induction n using Nat.strongRecOn generalizing duration t h with
    | ind n ih =>
      by_cases hd : 0 < duration
      · generalize hs : (if duration < kStep then duration else kStep) = slept
        have hslept : 0 < slept ∧ slept ≤ duration := by
          rw [← hs]
          unfold kStep
          split_ifs <;> omega
        -- The clock advances by the step, but not past the world where the sleep is to end.
        have hstep : t ≤ min (t + slept * 1000000) t' := by omega
        have hrange : 0 ≤ min (t + slept * 1000000) t' ∧ min (t + slept * 1000000) t' ≤ clockLimit :=
          ⟨ht.1.trans hstep, (min_le_right _ _).trans ht'.2⟩
        have hrest : CanEnd (punctualWithin slack) (sleepInterruptibly (duration - slept)) Q
            ⟨⟨false, min (t + slept * 1000000) t'⟩, hrange⟩
            (h ++ [⟨.stopRequested, false⟩] ++ [⟨.sleepFor slept, ()⟩]) := by
          refine ih (duration - slept).toNat (by omega) ?_ _ hrange (by omega) (by omega) rfl
          intro g hg
          rw [List.append_assoc, List.append_assoc]
          exact hQ _ (by simpa [isRest] using hg)
        have answer : (punctualWithin slack).answers ⟨⟨false, t⟩, ht⟩ (.sleepFor slept) ()
            ⟨⟨false, min (t + slept * 1000000) t'⟩, hrange⟩ :=
          ⟨rfl, hstep, by dsimp only; omega⟩
        refine .round (.call false ⟨rfl, rfl⟩ ?_)
        simp only [hd]
        rw [hs]
        exact .call () answer hrest
      · have hend : CanEnd (punctualWithin slack) (sleepInterruptibly duration) Q
            ⟨⟨false, t'⟩, ht'⟩ h := by
          refine .round (.call false ⟨rfl, rfl⟩ ?_)
          simp only [hd]
          exact .ret (hQ _ (List.forall_mem_singleton.2 rfl))
        refine HostInRange.canEnd_later (fun _ _ => id) ?_ hend
        exact ⟨hle, id⟩

/-- A sleep may end in every world in range where it is over. -/
theorem sleepInterruptibly_canEnd_punctual
    {Q : Except StdException Unit → Host → History → Prop} (hw : 0 ≤ w.steady)
    (hw' : w'.steady ≤ clockLimit) (hslept : Slept duration 0 w w')
    (hQ : ∀ g, (∀ e ∈ g, isRest e = true) → Q (.ok ()) w' (h ++ g)) :
    CanEnd punctual (sleepInterruptibly duration) Q w h := by
  have hle := hslept.later.steady
  obtain ⟨r, v, g, hrun, hv⟩ := @sleepInterruptibly_canEnd_slept duration 0 h
    ⟨w, hw, hle.trans hw'⟩ ⟨w', hw.trans hle, hw'⟩ (fun r w h => Q r w.toHost h) le_rfl hslept hQ
  exact ⟨r, v.toHost, g, steps_punctual hrun, hv⟩

end FlexivAmr
