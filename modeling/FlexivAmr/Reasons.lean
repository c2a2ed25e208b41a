import FlexivAmr.Interaction.History
import FlexivAmr.Timing

/-!
# What a result means

`WaitForNavigation` returns a result for a reason that is in what it has read (`Reason`): a verdict
is the last navigation status, after which the stop flag was read as unset; an interruption is a
stop flag that was read as set; and a timeout is a clock that was read at or past the deadline, with
the flag still unset. The exit code is zero when the result is `kCompleted`, and only then
(`main_reasons`).
-/

namespace FlexivAmr

open Interaction

/-- What `main` has read that its result depends on. -/
structure Seen where
  /-- The first reading of the steady clock, at which the wait has begun. -/
  start : Option ℤ := none
  /-- The last reading of the steady clock. -/
  now : Option ℤ := none
  /-- The last reading of the stop flag, if it came after the last navigation status. -/
  stop : Option Bool := none
  /-- The last navigation status. -/
  navigation : Option SeerNavigationStatus := none
  /-- What `WaitForNavigation` has returned. -/
  result : Option NavigationResult := none

/-- What is known after one more call. -/
def Seen.note (s : Seen) : Event Op.Answer → Seen
  | ⟨.steadyNow, now⟩ => { s with start := s.start.or (some now), now := some now }
  | ⟨.stopRequested, stop⟩ => { s with stop := some stop }
  | ⟨.client .getNavigationStatus, .ok navigation⟩ =>
    { s with navigation := some navigation, stop := none }
  | ⟨.returned result, _⟩ => { s with result := some result }
  | _ => s

/-- What a history says. -/
def seen (h : History) : Seen := h.foldl Seen.note {}

/-- A history with one more event. -/
theorem seen_append (h : History) (e : Event Op.Answer) : seen (h ++ [e]) = (seen h).note e := by
  unfold seen
  rw [List.foldl_append, List.foldl_cons, List.foldl_nil]

/-- The last navigation status has this code, and the flag was read as unset after it. -/
def Seen.Reports (s : Seen) (code : ℤ) : Prop :=
  s.stop = some false ∧ ∃ navigation, s.navigation = some navigation ∧ navigation.task_status = code

/-- The clock was last read at or past the deadline. The program counts both in nanoseconds, as
`double`. -/
def Seen.Expired (options : ExampleOptions) (s : Seen) : Prop :=
  ∃ start now, s.start = some start ∧ s.now = some now ∧
    double (double start + double (options.timeout_seconds * 1000000000)) ≤ double now

/-- The reason for which `WaitForNavigation` returns a result. -/
def Reason (options : ExampleOptions) (s : Seen) : NavigationResult → Prop
  | .kCompleted => s.Reports kNavigationCompleted
  | .kFailed => s.Reports kNavigationFailed
  | .kCanceled => s.Reports kNavigationCanceled
  | .kInterrupted => s.stop = some true
  | .kTimedOut => s.stop = some false ∧ s.Expired options

/-- If the event is a return of `WaitForNavigation`, the history before it has the reason. -/
def Reasoned (options : ExampleOptions) (earlier : History) (e : Event Op.Answer) : Prop :=
  ∀ result, e.1 = .returned result → Reason options (seen earlier) result

namespace Point

/-- What `main` has read at a point. -/
def Told (options : ExampleOptions) (w : Host) (s : Seen) : Point → Prop
  | .loopStop start _ | .getNavigationStatus start _ | .elapsed start _ _ | .pauseNavigation start
  | .pauseStop start | .resumeNavigation start => s.result = none ∧ s.start = some start
  | .loopClock start _ => s.result = none ∧ s.start = some start ∧ s.stop = some false
  | .gapStop start _ navigation =>
    s.result = none ∧ s.start = some start ∧ s.navigation = some navigation
  | .getTaskStatus start _ navigation => s.result = none ∧ s.start = some start ∧
    s.stop = some false ∧ s.navigation = some navigation
  -- A flag that was read as set is still set when it is read again.
  | .endStop => s.result = none ∧ (w.stop_requested = true ∨ s.Expired options)
  | .returned result => s.result = none ∧ Reason options s result
  | .cancelNavigation => s.result ≠ some .kCompleted
  | .disconnect exit_code | .done exit_code => exit_code = 0 ↔ s.result = some .kCompleted
  | .sleep _ next | .doze _ next => next.wakes = true ∧ Told options w s next
  | .failed => True
  | _ => s.result = none ∧ s.start = none

variable {options : ExampleOptions} {p p' : Point} {w w' : Host} {s : Seen} {h : History}

/-- A flag that is set does not matter to what has been read. -/
theorem Told.later (hp : p.Told options w s) (hlater : w.Later w') : p.Told options w' s := by
  induction p with
  | sleep remaining next ih | doze remaining next ih => exact ⟨hp.1, ih hp.2⟩
  | endStop => exact ⟨hp.1, hp.2.imp_left hlater.stop_requested⟩
  | _ => exact hp

/-- The points after a sleep do not depend on what the sleep reads. -/
theorem Told.wake (hwakes : p.wakes = true) (hp : p.Told options w s) (stop : Bool) :
    p.Told options w { s with stop := some stop } := by
  cases p with
  | getBlockStatus | begin | loopStop | gapStop | pauseStop => exact hp
  | _ => cases hwakes

/-- Nothing has been read where `main` starts. -/
theorem told_initial {stod : Stod} {argv : List String}
    (hhelp : ¬ (argv[1]? = some "--help" ∨ argv[1]? = some "-h")) :
    (initial stod argv).Told options w (seen []) := by
  unfold initial
  rw [if_neg hhelp]
  cases parseOptions stod argv with
  | error e => simp [Told, seen]
  | ok options => exact ⟨rfl, rfl⟩

/-- A step keeps what has been read. -/
theorem Step.told {op : Op} {a : op.Answer} (hstep : Step options p ⟨op, a⟩ p')
    (answer : host.answers w op a w') (hp : p.Told options w s) :
    p'.Told options w' (s.note ⟨op, a⟩) := by
  obtain ⟨hallows, rfl⟩ := answer
  -- Where nothing has been returned yet, the program may be left without a result.
  have hleft : s.result = none → s.result ≠ some .kCompleted := by
    rintro hresult
    rw [hresult]
    nofun
  have hexit : s.result = none → ((1 : ℤ) = 0 ↔ s.result = some .kCompleted) := fun hresult =>
    ⟨nofun, fun h => absurd h (hleft hresult)⟩
  cases hstep with
  | construct outcome => exact orElse_cases (Told options w' _) outcome trivial fun _ _ => hp
  | connect outcome | isConnected outcome | getBlockStatus outcome =>
    exact orElse_cases (Told options w' _) outcome (hexit hp.1) fun _ _ => hp
  | getEmergencyStatus outcome =>
    exact emergency_cases (Told options w' _) outcome (hexit hp.1) fun _ _ _ => ⟨rfl, hp⟩
  | checkStop stop =>
    exact flag_cases (Told options w' _) stop (fun _ => hexit hp.1) fun _ => hp
  | build => exact hp
  | startFixed _ _ outcome | startSpecified _ _ outcome =>
    exact command_cases (Told options w' _) outcome (hexit hp.1) ⟨rfl, hp⟩
  | begin start =>
    obtain ⟨hresult, hstart⟩ := hp
    exact ⟨hresult, by simp [Seen.note, hstart]⟩
  | loopStop start pause_exercised stop =>
    obtain ⟨hresult, hstart⟩ := hp
    exact flag_cases (Told options w' _) stop
      (fun hstop => ⟨hresult, .inl ((show stop = _ from hallows).symm.trans hstop)⟩)
      fun hstop => ⟨hresult, hstart, congrArg some hstop⟩
  | loopClock start pause_exercised now =>
    obtain ⟨hresult, hstart, -⟩ := hp
    have hstart' : (s.note ⟨.steadyNow, now⟩).start = some start := by simp [Seen.note, hstart]
    exact afterLoopClock_cases (Told options w' _) (fun _ => ⟨hresult, hstart'⟩)
      fun hover => ⟨hresult, .inr ⟨start, now, hstart', rfl, hover⟩⟩
  | getNavigationStatus start pause_exercised outcome =>
    obtain ⟨hresult, hstart⟩ := hp
    cases outcome with
    | error e => exact hleft hresult
    | ok navigation => exact ⟨rfl, hresult, hstart, rfl⟩
  | gapStop start pause_exercised navigation stop =>
    obtain ⟨hresult, hstart, hnavigation⟩ := hp
    exact flag_cases (Told options w' _) stop (fun hstop => ⟨hresult, congrArg some hstop⟩)
      fun hstop => ⟨hresult, hstart, congrArg some hstop, hnavigation⟩
  | getTaskStatus start pause_exercised navigation outcome =>
    obtain ⟨hresult, hstart, hstop, hnavigation⟩ := hp
    have hreports : ∀ code, navigation.task_status = code → s.Reports code :=
      fun code hcode => ⟨hstop, navigation, hnavigation, hcode⟩
    refine orElse_cases (Told options w' _) outcome (hleft hresult) fun _ _ => ?_
    refine afterTask_cases (Told options w' _) (fun result hcode => ⟨hresult, ?_⟩)
      fun _ => ⟨hresult, hstart⟩
    cases result with
    | kCompleted | kFailed | kCanceled => exact hreports _ (Option.some.inj hcode).symm
    | kInterrupted | kTimedOut => cases hcode
  | elapsed start pause_exercised navigation now =>
    obtain ⟨hresult, hstart⟩ := hp
    have hstart' : (s.note ⟨.steadyNow, now⟩).start = some start := by simp [Seen.note, hstart]
    exact afterElapsed_cases (Told options w' _) (fun _ => ⟨hresult, hstart'⟩)
      ⟨rfl, hresult, hstart'⟩
  | pauseNavigation start outcome | resumeNavigation start outcome =>
    exact command_cases (Told options w' _) outcome (hleft hp.1) ⟨rfl, hp⟩
  | pauseStop start stop =>
    obtain ⟨hresult, hstart⟩ := hp
    exact flag_cases (Told options w' _) stop (fun hstop => ⟨hresult, congrArg some hstop⟩)
      fun _ => ⟨hresult, hstart⟩
  | endStop stop =>
    obtain ⟨hresult, hreason⟩ := hp
    cases stop with
    | true => exact ⟨hresult, rfl⟩
    | false =>
      -- The flag that ended the loop would still be set.
      have hunset : w'.stop_requested ≠ true := by
        rw [← show false = _ from hallows]
        exact Bool.false_ne_true
      exact ⟨hresult, rfl, hreason.resolve_left hunset⟩
  | returned result => cases result <;> simp [afterReturn, Told, Seen.note]
  | cancelNavigation outcome => exact ⟨nofun, fun h => absurd h hp⟩
  | disconnect exit_code outcome => exact hp
  | sleepStop remaining next stop =>
    obtain ⟨hwakes, hp⟩ := hp
    have hnext := hp.wake hwakes stop
    exact sleepStop_cases (Told options w' _) stop (fun _ => ⟨hwakes, hnext⟩) fun _ => hnext
  | doze remaining next => exact hp

/-- A result is returned for its reason. -/
theorem Step.reason {result : NavigationResult} {a : Unit}
    (hstep : Step options p ⟨.returned result, a⟩ p') (hp : p.Told options w s) :
    Reason options s result := by
  cases hstep with
  | returned => exact hp.2

end Point

/-- The command line asks for help. -/
def AsksForHelp (argv : List String) : Prop := argv[1]? = some "--help" ∨ argv[1]? = some "-h"

/-- In every run of `main`, `WaitForNavigation` returns its result for a reason that the readings of
the run bear out, and the exit code is zero exactly when the result is `kCompleted`, help aside. -/
theorem main_reasons {stod : Stod} {argv : List String} {w : Host}
    {c : Config Op.Answer StdException Host ℤ} (hrun : Steps host ⟨main stod argv, w, []⟩ c) :
    Always (Reasoned (commandLineOptions stod argv)) c.history ∧
      ∀ exit_code, c.program = .ret exit_code →
        (exit_code = 0 ↔ AsksForHelp argv ∨ (seen c.history).result = some .kCompleted) := by
  by_cases hhelp : AsksForHelp argv
  · -- The usage is printed, and nothing else is done.
    obtain ⟨p, ⟨rfl, hhistory⟩, hfollows⟩ := @main_point Host host stod argv w c
      (fun p _ h => p = .done 0 ∧ h = []) ⟨if_pos hhelp, rfl⟩
      (fun _ _ _ _ _ _ _ hInv hstep _ => by obtain ⟨rfl, -⟩ := hInv; cases hstep)
      (fun _ _ _ _ hInv _ => hInv) hrun
    refine ⟨by rw [hhistory]; exact always_nil, fun exit_code hcode => ?_⟩
    rw [hcode] at hfollows
    have hdone : Point.done 0 = .done exit_code := hfollows
    rw [Point.done.injEq] at hdone
    exact ⟨fun _ => .inl hhelp, fun _ => hdone.symm⟩
  · obtain ⟨p, ⟨hreasons, htold⟩, hfollows⟩ := @main_point Host host stod argv w c
      (fun p w h => Always (Reasoned (commandLineOptions stod argv)) h ∧
        p.Told (commandLineOptions stod argv) w (seen h))
      ⟨always_nil, Point.told_initial hhelp⟩
      (fun p w h op a w' p' hInv hstep answer => by
        obtain ⟨hreasons, hp⟩ := hInv
        refine ⟨always_append_singleton.2 ⟨hreasons, ?_⟩, ?_⟩
        · rintro result rfl
          exact hstep.reason hp
        · rw [seen_append]
          exact hstep.told answer hp)
      (fun _ _ _ _ hInv hmove => ⟨hInv.1, hInv.2.later hmove.later⟩) hrun
    refine ⟨hreasons, fun exit_code hcode => ?_⟩
    rw [hcode] at hfollows
    obtain rfl : p = .done exit_code := hfollows
    rw [or_iff_right hhelp]
    exact htold

/-! ## A navigation that is completed -/

/-- The AMR reports the navigation completed in the first round, and `main` returns 0. -/
theorem completed_run : ∃ w' h,
    Steps host ⟨main noStod oneTarget, ⟨false, 0⟩, []⟩ ⟨.ret 0, w', h⟩ := by
  have hcalm : Calm host ⟨false, 0⟩ 0 := host_calm 0
  have hready : Ready host ⟨false, 0⟩ := host_ready _
  have hstatus : host.answers ⟨false, 0⟩ (.client .getNavigationStatus)
      (.ok { task_status := kNavigationCompleted }) ⟨false, 0⟩ := host_answers _ _ _
  have hverdict : NavigationResult.kCompleted.terminal = some kNavigationCompleted := rfl
  have hrun : CanEnd host (main noStod oneTarget) (fun r _ _ => r = .ok 0) ⟨false, 0⟩ [] := by
    have hparse : parseOptions noStod oneTarget =
      .ok { amr_ip := "192.168.192.5", source_id := "LM1", target_ids := ["LM2"] } := rfl
    have hwaiting : isBefore 0 (deadlineAt 0 300) = true := isBefore_deadlineAt_zero (by norm_num)
    refine main_canEnd (by decide) hparse hready.construct fun h₁ _ => ?_
    refine navigate_canEnd hcalm hready (.ok true) (fun _ => ⟨false, 0⟩)
      (fun _ => host_answers _ _ _) (fun _ => host_answers _ _ _) fun commands h₂ _ => ?_
    refine .bind (during_canEnd (sleepInterruptibly_canEnd hcalm fun h₃ _ => ?_))
    refine .bind (during_canEnd (waitForNavigation_canEnd hcalm hwaiting fun h₄ _ => ?_))
    refine waitForNavigationRound_canEnd hstatus hcalm (host_answers _ _ _) hverdict
      fun h₅ _ => ⟨.ok .kCompleted, ?_, rfl⟩
    refine .bind (during_canEnd (.call () (hcalm.returned _) (.ret (.ret ?_))))
    exact cleanup_canEnd (host_answers _ _ _) (host_answers _ _ _) fun h₆ _ => rfl
  obtain ⟨r, w', h, hsteps, rfl⟩ := hrun
  exact ⟨w', h, hsteps⟩

/-- The reason, in that run: the last status reply said so. -/
theorem main_reasons_completed : ∃ w' h,
    Steps host ⟨main noStod oneTarget, ⟨false, 0⟩, []⟩ ⟨.ret 0, w', h⟩ ∧
      Always (Reasoned (commandLineOptions noStod oneTarget)) h ∧
      (seen h).result = some .kCompleted := by
  obtain ⟨w', h, hrun⟩ := completed_run
  obtain ⟨hreasons, hcode⟩ := main_reasons hrun
  have hresult := ((hcode 0 rfl).1 rfl).resolve_left (by unfold AsksForHelp; decide)
  exact ⟨w', h, hrun, hreasons, hresult⟩

end FlexivAmr
