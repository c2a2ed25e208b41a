import FlexivAmr.Interaction.Protocol
import FlexivAmr.Python.Clock
import FlexivAmr.Python.Navigation
import FlexivAmr.Sleep

/-!
# What a sleep comes to in Python

`sleep_interruptibly` reads the clock where the C++ program counts the steps that it has slept. Both
come to `Slept`: on a punctual host, the Python program's sleep has slept but for three nanoseconds
(`sleepInterruptibly_slept`), and on a host that is punctual within three nanoseconds it may end in
every world where the sleep is over (`sleepInterruptibly_canEnd_slept`).
-/

namespace FlexivAmr.Python

open Interaction Program

variable {duration : ℤ} {duration_seconds : ℚ} {w w₁ w' : HostInRange} {α ε : Type}

/-- A control point of `sleep_interruptibly`. -/
inductive Nap
  | begin
  | flag (deadline : ℚ)
  | clock (deadline : ℚ)
  | doze (deadline remaining : ℚ)
  | awake

/-- The steps of `sleep_interruptibly`. -/
inductive Nap.Step (duration_seconds : ℚ) : Protocol (Op.Answer Request.Reply) Nap
  | begin (now) : Nap.Step _ .begin ⟨.monotonic, now⟩ (.flag (double (now + duration_seconds)))
  | flag (deadline stop) : Nap.Step _ (.flag deadline) ⟨.stopRequested, stop⟩
      (if stop then .awake else .clock deadline)
  | clock (deadline now) : Nap.Step _ (.clock deadline) ⟨.monotonic, now⟩
      (if double (deadline - now) ≤ 0 then .awake
      else .doze deadline (min (double (deadline - now)) (double (5 / 100))))
  | doze (deadline remaining) : Nap.Step _ (.doze deadline remaining) ⟨.sleep remaining, ()⟩
      (.flag deadline)

/-- `sleep_interruptibly` follows its control points. -/
theorem sleepInterruptibly_follows :
    Conforms (Nap.Step duration_seconds) (sleepInterruptibly duration_seconds)
      (fun r p => r = .ok () ∧ p = .awake) .begin := by
  unfold sleepInterruptibly
  refine conforms_bind.2 fun now => ⟨_, .begin now, ?_⟩
  refine conforms_loop (fun _ p => p = .flag (double (now + duration_seconds))) rfl ?_
  rintro ⟨⟩ p rfl
  refine conforms_bind.2 fun stop => ⟨_, .flag _ stop, ?_⟩
  cases stop with
  | true => exact ⟨rfl, rfl⟩
  | false =>
    refine conforms_bind.2 fun now' => ⟨_, .clock _ now', ?_⟩
    by_cases hover : double (double (now + duration_seconds) - now') ≤ 0
    · rw [if_pos hover, conforms_ret, afterFirst_ok, if_pos hover]
      exact ⟨rfl, rfl⟩
    · rw [if_neg hover, conforms_ret, afterFirst_ok, if_neg hover]
      exact conforms_bind.2 fun _ => ⟨_, .doze _ _, rfl⟩

/-- A request to the client. -/
def isClient (e : Event (Op.Answer Request.Reply)) : Bool :=
  match e.1 with
  | .client _ => true
  | _ => false

/-- The deadline of a sleep that began in the world `w` or later. -/
def IsDeadline (duration_seconds : ℚ) (w : HostInRange) (deadline : ℚ) : Prop :=
  ∃ t, w.steady ≤ t ∧ Readable t ∧ deadline = double (asSeconds t + duration_seconds)

/-- How far a sleep that began in the world `w` has come at a point of it. -/
def Nap.Sleeping (duration : ℤ) (duration_seconds : ℚ) (w : HostInRange) :
    Nap → HostInRange → Prop
  | .begin, w' => w.Later w'.toHost
  | .flag deadline, w' | .clock deadline, w' | .doze deadline _, w' =>
    w.Later w'.toHost ∧ IsDeadline duration_seconds w deadline
  | .awake, w' => Slept duration 3 w.toHost w'.toHost

/-- The host's moves do not undo a sleep. -/
theorem Nap.Sleeping.later {p : Nap} (hp : p.Sleeping duration duration_seconds w w₁)
    (hlater : w₁.Later w'.toHost) : p.Sleeping duration duration_seconds w w' := by
  cases p with
  | begin => exact Host.Later.trans hp hlater
  | flag | clock | doze => exact ⟨hp.1.trans hlater, hp.2⟩
  | awake =>
    obtain ⟨hlater₁, hover⟩ := hp
    refine ⟨hlater₁.trans hlater, hover.imp hlater.stop_requested fun h => h.trans ?_⟩
    exact Int.add_le_add_right hlater.steady 3

/-- The clock of a host in range can be read, and so can one that is off by three nanoseconds. -/
theorem HostInRange.readable (w : HostInRange) : Readable w.steady := by
  obtain ⟨hlower, hupper⟩ := w.in_range
  exact ⟨by omega, by omega⟩

/-- A reading of a clock that is punctual to the nanosecond. -/
theorem monotonic_exact {secs : ℚ}
    (answer : (punctualWithin Request.Reply 0).answers w .monotonic secs w') :
    secs = asSeconds w.steady ∧ w' = w := by
  obtain ⟨⟨t, hread, rfl⟩, rfl⟩ := answer
  rw [sub_zero, add_zero] at hread
  exact ⟨congrArg asSeconds (le_antisymm hread.2 hread.1), rfl⟩

/-- A reading of a clock that is punctual within three nanoseconds. -/
theorem monotonic_within {t : ℤ} (hle : w.steady - 3 ≤ t) (hge : t ≤ w.steady + 3) :
    (punctualWithin Request.Reply 3).answers w .monotonic (asSeconds t) w :=
  ⟨⟨t, ⟨hle, hge⟩, rfl⟩, rfl⟩

/-- A step of a sleep. -/
theorem Nap.Sleeping.step {p p' : Nap} {op : Op Request} {a : op.Answer Request.Reply}
    (hduration : IsDuration duration duration_seconds)
    (hp : p.Sleeping duration duration_seconds w w₁) (hstep : Nap.Step duration_seconds p ⟨op, a⟩ p')
    (answer : (punctualWithin Request.Reply 0).answers w₁ op a w') :
    p'.Sleeping duration duration_seconds w w' ∧ isClient ⟨op, a⟩ = false := by
  cases hstep with
  | begin now =>
    obtain ⟨rfl, rfl⟩ := monotonic_exact answer
    exact ⟨⟨hp, w'.steady, Host.Later.steady hp, HostInRange.readable w', rfl⟩, rfl⟩
  | flag deadline stop =>
    obtain ⟨hstop, rfl⟩ := answer
    refine ⟨?_, rfl⟩
    cases stop with
    | true => exact ⟨hp.1, .inl hstop.symm⟩
    | false => exact hp
  | clock deadline now =>
    obtain ⟨rfl, rfl⟩ := monotonic_exact answer
    refine ⟨?_, rfl⟩
    split_ifs with hover
    · obtain ⟨hlater, start, hle, hstart, rfl⟩ := hp
      rw [double_nonpos_iff, sub_nonpos] at hover
      have hslept := slept_of_deadline_le hduration hstart (HostInRange.readable w') hover
      have hsteady := hlater.steady
      exact ⟨hlater, .inr (by omega)⟩
    · exact hp
  | doze deadline remaining =>
    obtain ⟨hstop, hle, -⟩ := answer
    exact ⟨⟨hp.1.trans ⟨hle, fun h => hstop.trans h⟩, hp.2⟩, rfl⟩

/-- A sleep returns when it is over, and has made no request. -/
theorem sleepInterruptibly_slept (hduration : IsDuration duration duration_seconds)
    {r : Except PyException Unit} {h : List (Event (Op.Answer Request.Reply))}
    (hrun : Steps (punctualWithin Request.Reply 0) ⟨sleepInterruptibly duration_seconds, w, []⟩
      ⟨.ended r, w', h⟩) :
    r = .ok () ∧ Slept duration 3 w.toHost w'.toHost ∧ ∀ e ∈ h, isClient e = false := by
  obtain ⟨p, ⟨hp, hquiet⟩, hend⟩ := Conforms.invariant
    (J := fun p w' h =>
      p.Sleeping duration duration_seconds w w' ∧ ∀ e ∈ h, isClient e = false)
    (fun p w₁ h op a w₂ p' hJ hstep answer => by
      obtain ⟨hp, hquiet⟩ := hJ
      obtain ⟨hp', he⟩ := hp.step hduration hstep answer
      exact ⟨hp', List.forall_mem_append.2 ⟨hquiet, List.forall_mem_singleton.2 he⟩⟩)
    (fun p w₁ h w₂ hJ hmove => ⟨hJ.1.later (Host.Moves.later hmove), hJ.2⟩)
    hrun sleepInterruptibly_follows ⟨Host.Later.refl w.toHost, by simp⟩
  rw [conforms_ended] at hend
  obtain ⟨hr, rfl⟩ := hend
  exact ⟨hr, hp, hquiet⟩

/-- A sleep may end in every world where it is over. -/
theorem sleepInterruptibly_canEnd_slept (hduration : IsDuration duration duration_seconds)
    {Q : Except PyException Unit → HostInRange → List (Event (Op.Answer Request.Reply)) → Prop}
    {h : List (Event (Op.Answer Request.Reply))} (hslept : Slept duration 0 w.toHost w'.toHost)
    (hQ : ∀ g, (∀ e ∈ g, isClient e = false) → Q (.ok ()) w' (h ++ g)) :
    CanEnd (punctualWithin Request.Reply 3) (sleepInterruptibly duration_seconds) Q w h := by
  obtain ⟨hlater, hover⟩ := hslept
  have hread := @monotonic_within w w.steady (by omega) (by omega)
  -- The deadline is set in the world `w`, and the host then moves on to `w'` at once.
  refine .bind (.call (asSeconds w.steady) hread (.ret ?_))
  refine HostInRange.canEnd_later (fun _ _ => id) hlater (.round ?_)
  cases hstop : w'.stop_requested with
  | true =>
    refine .call true ⟨hstop.symm, rfl⟩ (.ret ?_)
    rw [List.append_assoc]
    exact hQ _ (by simp [isClient])
  | false =>
    have hread' := @monotonic_within w' (w'.steady + 3) (by omega) (by omega)
    refine .call false ⟨hstop.symm, rfl⟩ (.call _ hread' ?_)
    have hreadable : Readable (w'.steady + 3) := by
      obtain ⟨hlower, hupper⟩ := w'.in_range
      exact ⟨by omega, by omega⟩
    have hpassed : w.steady + duration * 1000000 ≤ w'.steady := by
      have hmax := hover.resolve_left (by rw [hstop]; exact Bool.false_ne_true)
      have hle := Int.le_max_left duration 0
      omega
    have hover' : double (double (asSeconds w.steady + duration_seconds) -
        asSeconds (w'.steady + 3)) ≤ 0 :=
      double_nonpos_iff.2 (sub_nonpos.2
        (deadline_le_of_slept hduration (HostInRange.readable w) hreadable hpassed))
    simp only [ret_bind]
    rw [if_pos hover']
    refine .ret ?_
    rw [List.append_assoc, List.append_assoc]
    exact hQ _ (by simp [isClient])

end FlexivAmr.Python
