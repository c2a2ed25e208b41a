import FlexivAmr.Interaction.Bound
import FlexivAmr.Motion.Safety

/-!
# How long the motion program runs

When sleeping takes time, the wait of `main` sleeps sixty times at most, which is once for each
`kWaitInterval` of the motion, and `main` terminates.
-/

namespace FlexivAmr.Motion

open Interaction Program Call

/-- The sleeps that are left until a deadline. -/
def dozesLeft (deadline now : ℤ) : ℕ := ((deadline - now + 49999999) / 50000000).toNat

/-- A call of `std::this_thread::sleep_for`. -/
def isSleep (e : Event (Call.Answer Request.Reply)) : Bool :=
  match e.1 with
  | .sleepFor _ => true
  | _ => false

namespace Point

/-- The sleeps that `main` has left at most. -/
def sleepsLeft (now : ℤ) : Point → ℕ
  | .construct | .connect | .isConnected | .execute | .begin => 60
  | .flag deadline | .clock deadline => dozesLeft deadline now
  | .doze deadline => dozesLeft deadline now - 1 + 1
  | .stop | .disconnect | .stopAgain | .disconnectAgain | .done _ | .failed => 0

/-- The calls that `main` has left at most. -/
def callsLeft (now : ℤ) : Point → ℕ
  | .construct => 190
  | .connect => 189
  | .isConnected => 188
  | .execute => 187
  | .begin => 186
  | .flag deadline => 3 * dozesLeft deadline now + 5
  | .clock deadline => 3 * dozesLeft deadline now + 4
  -- The deadline may have passed since the clock was read, and there is this sleep nevertheless.
  | .doze deadline => 3 * (dozesLeft deadline now - 1) + 6
  | .stop => 3
  | .disconnect | .stopAgain => 2
  | .disconnectAgain => 1
  | .done _ | .failed => 0

variable {amr_ip : String} {p p' : Point} {w w' : Scene} {deadline now now' : ℤ}

/-- Fewer sleeps are left later. -/
theorem dozesLeft_mono (deadline : ℤ) (h : now ≤ now') :
    dozesLeft deadline now' ≤ dozesLeft deadline now := by
  unfold dozesLeft
  omega

/-- A sleep is one sleep less. -/
theorem dozesLeft_sleep (deadline : ℤ) (h : now + kWaitInterval * 1000000 ≤ now') :
    dozesLeft deadline now' ≤ dozesLeft deadline now - 1 := by
  unfold kWaitInterval at h
  unfold dozesLeft
  omega

/-- Before the deadline there is a sleep left. -/
theorem dozesLeft_pos (h : now < deadline) : 0 < dozesLeft deadline now := by
  unfold dozesLeft
  omega

/-- Time passes in favour. -/
theorem left_mono (h : now ≤ now') :
    p.callsLeft now' ≤ p.callsLeft now ∧ p.sleepsLeft now' ≤ p.sleepsLeft now := by
  cases p with
  | flag deadline | clock deadline | doze deadline =>
    have hdozes := dozesLeft_mono deadline h
    simp only [callsLeft, sleepsLeft]
    omega
  | _ => exact ⟨Nat.le_refl _, Nat.le_refl _⟩

/-- Each step is one call less, and each sleep one sleep less. -/
theorem Step.left_lt {call : Call Request} {a : call.Answer Request.Reply}
    (hstep : p.Step amr_ip ⟨call, a⟩ p') (answer : scene.answers w call a w') :
    p'.callsLeft w'.host.steady + 1 ≤ p.callsLeft w.host.steady ∧
      p'.sleepsLeft w'.host.steady + (if isSleep ⟨call, a⟩ then 1 else 0) ≤
        p.sleepsLeft w.host.steady := by
  cases hstep with
  | construct outcome | connect outcome | isConnected outcome | disconnect outcome =>
    cases outcome <;> simp [orElse, callsLeft, sleepsLeft, isSleep]
  | execute outcome | stop outcome =>
    rcases outcome with e | _ | _ <;> simp [orElse, callsLeft, sleepsLeft, isSleep]
  | stopAgain | disconnectAgain => simp [callsLeft, sleepsLeft, isSleep]
  | begin now =>
    obtain ⟨hnow, rfl⟩ := answer
    rw [show now = _ from hnow]
    simp [callsLeft, sleepsLeft, isSleep, dozesLeft, kMotionDurationMs]
  | flag deadline stop =>
    obtain ⟨-, rfl⟩ := answer
    cases stop <;> simp [callsLeft, sleepsLeft, isSleep]
  | clock deadline now =>
    obtain ⟨hnow, rfl⟩ := answer
    by_cases hwaiting : now < deadline
    · rw [if_pos hwaiting]
      rw [show now = _ from hnow] at hwaiting
      have hpos := dozesLeft_pos hwaiting
      simp only [callsLeft, sleepsLeft, isSleep, Bool.false_eq_true, if_false]
      omega
    · rw [if_neg hwaiting]
      simp [callsLeft, sleepsLeft, isSleep]
  | doze deadline =>
    obtain ⟨-, -, hslept⟩ := answer
    have hdozes := dozesLeft_sleep deadline hslept
    simp only [callsLeft, sleepsLeft, isSleep, if_true]
    omega

/-- The calls and the sleeps that are left where `main` starts. -/
theorem left_initial_le (now : ℤ) (argv : List String) :
    (initial argv).callsLeft now ≤ 190 ∧ (initial argv).sleepsLeft now ≤ 60 := by
  unfold initial
  split <;> simp [callsLeft, sleepsLeft]

end Point

variable {argv : List String} {w : Scene}
  {c : Config (Call.Answer Request.Reply) StdException Scene ℤ}

/-- `main` makes 190 calls at most, of which 60 at most are sleeps. -/
theorem motion_terminates (hrun : Steps scene ⟨main argv, w, []⟩ c) :
    c.history.length ≤ 190 ∧ c.history.countP isSleep ≤ 60 := by
  obtain ⟨hcallsLeft, hsleepsLeft⟩ := Point.left_initial_le w.host.steady argv
  have hevent : ∀ (p p' : Point) (w w' : Scene) (call : Call Request)
      (a : call.Answer Request.Reply), machine (address argv) p ⟨call, a⟩ p' →
      scene.answers w call a w' →
      p'.callsLeft w'.host.steady + 1 ≤ p.callsLeft w.host.steady ∧
        p'.sleepsLeft w'.host.steady + (if isSleep ⟨call, a⟩ then 1 else 0) ≤
          p.sleepsLeft w.host.steady :=
    fun p p' w w' call a hstep answer => Point.Step.left_lt hstep answer
  have hmove : ∀ (p : Point) (w w' : Scene), scene.moves w w' →
      p.callsLeft w'.host.steady ≤ p.callsLeft w.host.steady ∧
        p.sleepsLeft w'.host.steady ≤ p.sleepsLeft w.host.steady :=
    fun p w w' hmove => Point.left_mono (Scene.Moves.later hmove).host.steady
  have hcalls := Conforms.length_le (E := scene) (I := fun _ _ _ => True)
    (fun p w h call a w' p' _ hstep answer =>
      ⟨trivial, (hevent p p' w w' call a hstep answer).1⟩)
    (fun p w h w' _ hm => ⟨trivial, (hmove p w w' hm).1⟩) hrun (main_follows argv) trivial
  have hsleeps := Conforms.countP_le (E := scene) (I := fun _ _ _ => True) isSleep
    (fun p w h call a w' p' _ hstep answer =>
      ⟨trivial, (hevent p p' w w' call a hstep answer).2⟩)
    (fun p w h w' _ hm => ⟨trivial, (hmove p w w' hm).2⟩) hrun (main_follows argv) trivial
  simp only [List.length_nil, List.countP_nil, Nat.zero_add] at hcalls hsleeps
  exact ⟨hcalls.trans hcallsLeft, hsleeps.trans hsleepsLeft⟩

/-- The bounds, in a run that loses the reply to its start request. -/
theorem motion_terminates_startLost : ∃ w' h,
    Steps scene ⟨main ["seer_motion_example", "192.168.192.5"], ⟨⟨false, 0⟩, .still⟩, []⟩
        ⟨.ret 1, w', h⟩ ∧
      w'.Moving ∧ h.length ≤ 190 ∧ h.countP isSleep ≤ 60 := by
  have hlost : CanEnd scene (main ["seer_motion_example", "192.168.192.5"])
      (fun r w' h => r = .ok 1 ∧ w'.Moving ∧ w'.host.stop_requested = false ∧
        made h = beforeStart "192.168.192.5" true ++
          [⟨.executeOpenLoopMotion command, .error (.amr .kRecvTimeout "receive timeout")⟩,
            ⟨.disconnect, .ok ()⟩])
      ⟨⟨false, 0⟩, .still⟩ [] := startLost_canEnd
  obtain ⟨r, w', h, hrun, rfl, hmoving, -⟩ := hlost
  obtain ⟨hcalls, hsleeps⟩ := motion_terminates hrun
  exact ⟨w', h, hrun, hmoving, hcalls, hsleeps⟩

end FlexivAmr.Motion
