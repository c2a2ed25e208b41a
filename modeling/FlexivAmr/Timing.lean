import FlexivAmr.Sleep
import Mathlib.Data.Rat.Floor
import Mathlib.Tactic.Linarith

/-!
# The timeout

When sleeping takes time, `main` terminates, and `--timeout` bounds the navigation status requests
that it makes. Each round of `WaitForNavigation` sleeps for half a second at least
(`kStatusRequestGap` and `kPollInterval`), unless the stop flag cuts the sleep short, and then the
round is the last. So the clock has passed half a second for each request made (`Point.Polled`), and
the loop's condition holds for fewer rounds than there are half seconds in the timeout. The calls
left at a point are counted by `Point.budget`, round by round.
-/

namespace FlexivAmr

open Interaction

/-- A navigation status request. -/
def isPoll (e : Event Op.Answer) : Bool :=
  match e.1 with
  | .client .getNavigationStatus => true
  | _ => false

/-- The most navigation status requests that a timeout allows: one for each half second. -/
def maxPolls (options : ExampleOptions) : ℕ := ⌈2 * options.timeout_seconds⌉₊

namespace Point

/-- What the clock says at a point when `n` navigation status requests have been made: half a second
has passed for each. A sleep counts as slept. Where the flag is read next, it may be set instead. -/
def Polled (options : ExampleOptions) (n : ℕ) (stop : Bool) : Point → (now : ℤ) → Prop
  | .sleep remaining next, now =>
    next.wakes = true ∧ Polled options n stop next (now + max remaining 0 * 1000000)
  | .doze remaining next, now =>
    0 < remaining ∧ next.wakes = true ∧
      Polled options n stop next (now + remaining * 1000000)
  | .loopStop start _, now => stop = true ∨ start + n * 500000000 ≤ now
  | .loopClock start _, now => start + n * 500000000 ≤ now
  | .getNavigationStatus start _, now => start + n * 500000000 ≤ now ∧ n < maxPolls options
  | .gapStop start _ _, now | .pauseStop start, now =>
    stop = true ∨ start + n * 500000000 ≤ now + 350000000
  | .getTaskStatus start _ _, now | .elapsed start _ _, now | .pauseNavigation start, now
  | .resumeNavigation start, now => start + n * 500000000 ≤ now + 350000000
  | .endStop, _ | .returned _, _ | .cancelNavigation, _ | .disconnect _, _ | .done _, _
  | .failed, _ => True
  | _, _ => n = 0

variable {options : ExampleOptions} {p p' : Point} {n : ℕ} {stop stop' : Bool} {now now' : ℤ}

/-- Time passes in favour, and so does a flag that is set. -/
theorem Polled.mono (hp : p.Polled options n stop now) (hnow : now ≤ now')
    (hstop : stop = true → stop' = true) : p.Polled options n stop' now' := by
  induction p generalizing now now' with
  | sleep remaining next ih =>
    obtain ⟨hwakes, hp⟩ := hp
    exact ⟨hwakes, ih hp (Int.add_le_add_right hnow _)⟩
  | doze remaining next ih =>
    obtain ⟨hremaining, hwakes, hp⟩ := hp
    exact ⟨hremaining, hwakes, ih hp (Int.add_le_add_right hnow _)⟩
  | loopStop | gapStop | pauseStop => exact hp.imp hstop fun hle => by omega
  | getNavigationStatus => exact ⟨hp.1.trans hnow, hp.2⟩
  | loopClock => exact hp.trans hnow
  | getTaskStatus | elapsed | pauseNavigation | resumeNavigation => exact hp.trans (by omega)
  | _ => exact hp

/-- A reading of the steady clock at which its `double` is exact. -/
def Exact (e : Event Op.Answer) : Prop := ∀ t, e = ⟨.steadyNow, t⟩ → 0 ≤ t ∧ t ≤ 2 ^ 53

/-- The start of the wait is a reading of the steady clock. -/
theorem Step.start?_eq {e : Event Op.Answer} {start : ℤ} (hstep : Step options p e p') :
    p'.start? = some start → p.start? = some start ∨ e = ⟨.steadyNow, start⟩ := by
  -- At the points before and after the wait, no start is kept.
  have hnone : none = some start → p.start? = some start ∨ e = ⟨.steadyNow, start⟩ := nofun
  cases hstep with
  | begin now => exact fun hstart => .inr (by rw [Option.some.inj hstart])
  | construct outcome | connect outcome | isConnected outcome | getBlockStatus outcome =>
    exact orElse_cases (fun p' => p'.start? = _ → _) outcome hnone fun _ _ => hnone
  | getEmergencyStatus outcome =>
    exact emergency_cases (fun p' => p'.start? = _ → _) outcome hnone fun _ _ _ => hnone
  | startFixed _ _ outcome | startSpecified _ _ outcome =>
    exact command_cases (fun p' => p'.start? = _ → _) outcome hnone hnone
  | getNavigationStatus _ _ outcome =>
    exact orElse_cases (fun p' => p'.start? = _ → _) outcome hnone fun _ _ => .inl
  | getTaskStatus _ _ navigation outcome =>
    refine orElse_cases (fun p' => p'.start? = _ → _) outcome hnone fun _ _ => ?_
    exact afterTask_cases (fun p' => p'.start? = _ → _) (fun _ _ => hnone) fun _ => .inl
  | pauseNavigation _ outcome | resumeNavigation _ outcome =>
    exact command_cases (fun p' => p'.start? = _ → _) outcome hnone .inl
  | loopClock => exact afterLoopClock_cases (fun p' => p'.start? = _ → _) (fun _ => .inl) fun _ => hnone
  | elapsed => exact afterElapsed_cases (fun p' => p'.start? = _ → _) (fun _ => .inl) .inl
  | returned result => exact afterReturn_cases (fun p' => p'.start? = _ → _) result hnone fun _ => hnone
  | checkStop stop => exact flag_cases (fun p' => p'.start? = _ → _) stop (fun _ => hnone) fun _ => hnone
  | loopStop _ _ stop | gapStop _ _ _ stop | pauseStop _ stop =>
    exact flag_cases (fun p' => p'.start? = _ → _) stop (fun _ => hnone) fun _ => .inl
  | sleepStop _ _ stop =>
    exact sleepStop_cases (fun p' => p'.start? = _ → _) stop (fun _ => .inl) fun _ => .inl
  | doze => exact .inl
  | build | endStop | cancelNavigation | disconnect => exact hnone

/-- The clock of the loop's condition lets in another round only when there is a half second left
for its request. -/
theorem lt_maxPolls {start : ℤ} (hpolled : start + n * 500000000 ≤ now)
    (hstart : 0 ≤ start) (hnow : now ≤ 2 ^ 53)
    (hwaiting : isBefore now (deadlineAt start options.timeout_seconds) = true) :
    n < maxPolls options := by
  by_contra hover
  have hceil : 2 * options.timeout_seconds ≤ n := Nat.ceil_le.1 (not_lt.1 hover)
  have hpassed : isBefore now (deadlineAt start options.timeout_seconds) = false :=
    isBefore_deadlineAt_eq_false hstart hnow hpolled (by omega) (by push_cast; linarith)
  rw [hwaiting] at hpassed
  cases hpassed

/-- A sleep ends when its time has passed, or when the flag is set. -/
theorem Polled.wake {remaining : ℤ} (hp : (sleep remaining p).Polled options n stop now)
    (hend : stop = true ∨ remaining ≤ 0) : p.Polled options n stop now := by
  obtain ⟨hwakes, hp⟩ := hp
  rcases hend with hstop | hremaining
  · cases p with
    | loopStop | gapStop | pauseStop => exact .inl hstop
    | getBlockStatus | begin => exact hp
    | _ => cases hwakes
  · rwa [max_eq_right hremaining, Int.zero_mul, Int.add_zero] at hp

/-- The events other than navigation status requests keep the clock ahead of the requests. -/
theorem Step.polled {op : Op} {a : op.Answer} {w w' : Host} (hstep : Step options p ⟨op, a⟩ p')
    (hpoll : isPoll ⟨op, a⟩ = false) (answer : punctual.answers w op a w') (hexact : Exact ⟨op, a⟩)
    (hstart : ∀ start, p.start? = some start → 0 ≤ start)
    (hp : p.Polled options n w.stop_requested w.steady) :
    p'.Polled options n w'.stop_requested w'.steady := by
  -- A flag that was read as unset leaves what the clock says.
  have hunset : ∀ {stop : Bool} {w : Host} {φ : Prop}, stop = w.stop_requested → stop = false →
      w.stop_requested = true ∨ φ → φ := by
    intro stop w φ hread hstop hor
    exact hor.resolve_left (by rw [← hread, hstop]; exact Bool.false_ne_true)
  cases hstep with
  | sleepStop remaining next stop =>
    obtain ⟨hstop, rfl⟩ := answer
    refine sleepStop_cases (Polled options n _ · _) stop (fun hdoze => ?_) fun hend =>
      hp.wake (hend.imp_left fun h => (show stop = _ from hstop).symm.trans h)
    obtain ⟨hwakes, hp⟩ := hp
    rw [max_eq_left hdoze.le] at hp
    exact ⟨hdoze, hwakes, hp⟩
  | doze remaining next =>
    obtain ⟨hstop, hslept⟩ := answer
    obtain ⟨-, hwakes, hp⟩ := hp
    exact ⟨hwakes, hp.mono (by omega) (by rw [hstop]; exact id)⟩
  | begin start =>
    obtain ⟨hnow, rfl⟩ := answer
    refine .inr ?_
    rw [show n = 0 from hp, show start = _ from hnow]
    simp
  | loopStop _ _ stop | gapStop _ _ _ stop | pauseStop _ stop =>
    obtain ⟨hstop, rfl⟩ := answer
    exact flag_cases (Polled options n _ · _) stop (fun _ => trivial) fun h => hunset hstop h hp
  | loopClock start pause_exercised now =>
    obtain ⟨hnow, rfl⟩ := answer
    refine afterLoopClock_cases (Polled options n _ · _) (fun hwaiting => ⟨hp, ?_⟩) fun _ => trivial
    refine lt_maxPolls ?_ (hstart start rfl) (hexact now rfl).2 hwaiting
    rw [show now = _ from hnow]
    exact hp
  | getNavigationStatus => cases hpoll
  | getTaskStatus start pause_exercised navigation outcome =>
    obtain ⟨-, rfl⟩ := answer
    refine orElse_cases (Polled options n _ · _) outcome trivial fun _ _ => ?_
    exact afterTask_cases (Polled options n _ · _) (fun _ _ => trivial) fun _ => hp
  | elapsed start pause_exercised navigation now =>
    obtain ⟨-, rfl⟩ := answer
    exact afterElapsed_cases (Polled options n _ · _) (fun _ => hp) ⟨rfl, .inr hp⟩
  | pauseNavigation start outcome =>
    obtain ⟨-, rfl⟩ := answer
    refine command_cases (Polled options n _ · _) outcome trivial ⟨rfl, .inr (hp.trans ?_)⟩
    simp [kPauseDuration]
  | resumeNavigation start outcome =>
    obtain ⟨-, rfl⟩ := answer
    exact command_cases (Polled options n _ · _) outcome trivial ⟨rfl, .inr hp⟩
  | construct outcome | connect outcome | isConnected outcome | getBlockStatus outcome =>
    obtain ⟨-, rfl⟩ := answer
    exact orElse_cases (Polled options n _ · _) outcome trivial fun _ _ => hp
  | getEmergencyStatus outcome =>
    obtain ⟨-, rfl⟩ := answer
    exact emergency_cases (Polled options n _ · _) outcome trivial fun _ _ _ => ⟨rfl, hp⟩
  | checkStop stop =>
    obtain ⟨-, rfl⟩ := answer
    exact flag_cases (Polled options n _ · _) stop (fun _ => trivial) fun _ => hp
  | build => exact hp
  | startFixed _ _ outcome | startSpecified _ _ outcome =>
    obtain ⟨-, rfl⟩ := answer
    exact command_cases (Polled options n _ · _) outcome trivial ⟨rfl, hp⟩
  | returned result =>
    exact afterReturn_cases (Polled options n _ · _) result trivial fun _ => trivial
  | endStop | cancelNavigation | disconnect => exact trivial

/-- A navigation status request is one of those that the timeout allows, and the round that it
begins sleeps for half a second. -/
theorem Step.polled_succ {op : Op} {a : op.Answer} {w w' : Host}
    (hstep : Step options p ⟨op, a⟩ p') (hpoll : isPoll ⟨op, a⟩ = true)
    (answer : punctual.answers w op a w') (hp : p.Polled options n w.stop_requested w.steady) :
    n < maxPolls options ∧ p'.Polled options (n + 1) w'.stop_requested w'.steady := by
  cases hstep with
  | getNavigationStatus start pause_exercised outcome =>
    obtain ⟨-, rfl⟩ := answer
    obtain ⟨hpolled, hless⟩ := hp
    refine ⟨hless, ?_⟩
    cases outcome with
    | error e => exact trivial
    | ok navigation =>
      refine ⟨rfl, .inr ?_⟩
      simp only [kStatusRequestGap]
      push_cast
      omega
  | _ => cases hpoll

/-! ## The calls that are left -/

/-- The steps of a sleep. -/
def dozes (duration : ℤ) : ℕ := ((duration + 49) / 50).toNat

/-- The calls left from the condition of the loop on, with `polls` more rounds: 28 for each of them,
84 for the pause, and 6 to leave the loop and clean up. -/
def loopCalls (polls : ℕ) (pause_exercised : Bool) : ℕ :=
  28 * polls + (if pause_exercised then 0 else 84) + 6

/-- The calls left at a point, when `polls` more navigation status requests are allowed. -/
def budget (options : ExampleOptions) (polls : ℕ) : Point → ℕ
  | .construct => loopCalls polls false + options.target_ids.length + 22
  | .connect => loopCalls polls false + options.target_ids.length + 21
  | .isConnected => loopCalls polls false + options.target_ids.length + 20
  | .getEmergencyStatus => loopCalls polls false + options.target_ids.length + 19
  | .getBlockStatus => loopCalls polls false + options.target_ids.length + 11
  | .checkStop => loopCalls polls false + options.target_ids.length + 10
  | .build left _ => loopCalls polls false + left + 9
  | .begin => loopCalls polls false + 1
  | .loopStop _ pause_exercised => loopCalls polls pause_exercised
  | .loopClock _ pause_exercised => loopCalls polls pause_exercised - 1
  | .getNavigationStatus _ pause_exercised => loopCalls polls pause_exercised - 2
  | .gapStop _ pause_exercised _ => loopCalls polls pause_exercised + 18
  | .getTaskStatus _ pause_exercised _ => loopCalls polls pause_exercised + 17
  | .elapsed _ pause_exercised _ => loopCalls polls pause_exercised + 16
  | .pauseNavigation _ => loopCalls polls true + 99
  | .pauseStop _ => loopCalls polls true + 17
  | .resumeNavigation _ => loopCalls polls true + 16
  | .endStop => 4
  | .returned _ => 3
  | .cancelNavigation => 2
  | .disconnect _ => 1
  | .done _ | .failed => 0
  | .sleep remaining next => 2 * dozes remaining + 1 + budget options polls next
  | .doze remaining next => 2 * dozes remaining + budget options polls next

/-- A step of a sleep leaves one step less to go. -/
theorem dozes_sub {remaining : ℤ} (hremaining : 0 < remaining) :
    dozes (remaining - dozeStep remaining) + 1 = dozes remaining := by
  unfold dozes dozeStep kStep
  split_ifs <;> omega

/-- The pause is exercised once. -/
theorem eq_false_of_pauseDue {pause_exercised : Bool} {navigation : SeerNavigationStatus} {t : ℚ}
    (hdue : pauseDue options pause_exercised navigation t = true) : pause_exercised = false := by
  unfold pauseDue at hdue
  cases pause_exercised with
  | false => rfl
  | true => cases hdue

/-- Every event other than a navigation status request is one call less. -/
theorem Step.budget_lt {op : Op} {a : op.Answer} {polls : ℕ} (hstep : Step options p ⟨op, a⟩ p')
    (hpoll : isPoll ⟨op, a⟩ = false) (hp : p.Polled options n stop now) :
    p'.budget options polls < p.budget options polls := by
  cases hstep with
  | sleepStop remaining next stop =>
    split_ifs
    · simp [budget]
    · simp only [budget]
      omega
  | doze remaining next =>
    have hdozes := dozes_sub hp.1
    simp only [budget]
    omega
  | getNavigationStatus => cases hpoll
  | construct outcome | connect outcome | isConnected outcome | getBlockStatus outcome =>
    cases outcome <;> simp [orElse, budget]
  | getEmergencyStatus outcome =>
    cases outcome with
    | error e => simp [orElse, budget]
    | ok emergency =>
      simp only [orElse]
      split_ifs
      · simp [budget]
      · simp only [budget, show dozes kStatusRequestGap = 3 from rfl]
        omega
  | startFixed _ _ outcome | startSpecified _ _ outcome =>
    rcases outcome with e | _ | _
    · simp [orElse, budget]
    · simp [orElse, ifAccepted, budget]
    · simp only [orElse, ifAccepted, budget, show dozes kStatusRequestGap = 3 from rfl, if_true]
      omega
  | checkStop stop => cases stop <;> simp [budget]
  | build => simp [budget]
  | begin start =>
    simp only [budget]
    omega
  | loopStop start pause_exercised stop =>
    cases stop with
    | true =>
      simp only [if_true, budget, loopCalls]
      omega
    | false =>
      simp only [Bool.false_eq_true, if_false, budget, loopCalls]
      omega
  | loopClock start pause_exercised now =>
    unfold afterLoopClock
    split_ifs <;> simp only [budget, loopCalls] <;> omega
  | gapStop start pause_exercised navigation stop =>
    cases stop with
    | true =>
      simp only [if_true, budget, loopCalls]
      omega
    | false => simp [budget]
  | getTaskStatus start pause_exercised navigation outcome =>
    cases outcome with
    | error e =>
      simp only [orElse, budget, loopCalls]
      omega
    | ok task =>
      simp only [orElse, afterTask]
      split_ifs <;> simp only [budget, loopCalls] <;> omega
  | elapsed start pause_exercised navigation now =>
    unfold afterElapsed
    split_ifs with hdue
    · rw [eq_false_of_pauseDue hdue]
      simp only [budget, loopCalls, if_true, if_false, Bool.false_eq_true]
      omega
    · simp only [budget, show dozes kPollInterval = 7 from rfl]
      omega
  | pauseNavigation start outcome =>
    rcases outcome with e | _ | _
    · simp [orElse, budget]
    · simp [orElse, ifAccepted, budget]
    · simp only [orElse, ifAccepted, budget, show dozes kPauseDuration = 40 from rfl, if_true]
      omega
  | pauseStop start stop =>
    cases stop with
    | true =>
      simp only [if_true, budget]
      omega
    | false => simp [budget]
  | resumeNavigation start outcome =>
    rcases outcome with e | _ | _
    · simp [orElse, budget]
    · simp [orElse, ifAccepted, budget]
    · simp only [orElse, ifAccepted, budget, show dozes kPollInterval = 7 from rfl, if_true]
      omega
  | endStop | cancelNavigation | disconnect => simp [budget]
  | returned result => cases result <;> simp [afterReturn, budget]

/-- No request has been made where `main` starts. -/
theorem polled_initial (stod : Stod) (argv : List String) :
    (initial stod argv).Polled options 0 stop now := by
  unfold initial
  split_ifs
  · exact trivial
  · cases parseOptions stod argv with
    | error e => exact trivial
    | ok options => exact rfl

/-- The wait has not begun where `main` starts. -/
theorem start?_initial (stod : Stod) (argv : List String) :
    ∀ start, (initial stod argv).start? = some start → 0 ≤ start := by
  unfold initial
  split_ifs
  · exact nofun
  · cases parseOptions stod argv with
    | error e => exact nofun
    | ok options => exact nofun

/-- The calls left where `main` starts. -/
theorem budget_initial_le (options : ExampleOptions) (polls : ℕ) (stod : Stod)
    (argv : List String) :
    (initial stod argv).budget options polls ≤ 28 * polls + options.target_ids.length + 112 := by
  unfold initial
  split_ifs
  · simp [budget]
  · cases parseOptions stod argv with
    | error e => simp [budget]
    | ok options =>
      simp only [budget, loopCalls, if_false, Bool.false_eq_true]
      omega

/-- A navigation status request begins one of the rounds that are allowed. -/
theorem Step.budget_succ_lt {op : Op} {a : op.Answer} {polls : ℕ}
    (hstep : Step options p ⟨op, a⟩ p') (hpoll : isPoll ⟨op, a⟩ = true) :
    p'.budget options polls < p.budget options (polls + 1) := by
  cases hstep with
  | getNavigationStatus start pause_exercised outcome =>
    cases outcome with
    | error e =>
      simp only [orElse, budget, loopCalls]
      omega
    | ok navigation =>
      simp only [orElse, budget, loopCalls, show dozes kStatusRequestGap = 3 from rfl]
      omega
  | _ => cases hpoll

end Point

/-- When sleeping takes time, `main` terminates within a number of calls that its command line
fixes, and makes a navigation status request for each half second of the timeout at most. The steady
clock reads at most `2 ^ 53` nanoseconds, so that its readings are exact as `double`. -/
theorem main_terminates {stod : Stod} {argv : List String} {w : Host}
    {c : Config Op.Answer StdException Host ℤ} (hrun : Steps punctual ⟨main stod argv, w, []⟩ c)
    (hexact : ∀ t, ⟨.steadyNow, t⟩ ∈ c.history → 0 ≤ t ∧ t ≤ 2 ^ 53) :
    c.history.length ≤ 28 * maxPolls (commandLineOptions stod argv) +
        (commandLineOptions stod argv).target_ids.length + 112 ∧
      c.history.countP isPoll ≤ maxPolls (commandLineOptions stod argv) := by
  generalize hoptions : commandLineOptions stod argv = options
  have hmain : Conforms (machine options) (main stod argv) MainFollows (.initial stod argv) := by
    rw [← hoptions]
    exact main_follows stod argv
  have hrun : Steps (punctual.restrict Point.Exact) ⟨main stod argv, w, []⟩ c := by
    refine hrun.restrict fun e he t ht => ?_
    rw [ht] at he
    exact hexact t he
  -- The clock is ahead of the requests made, and the requests are within the timeout.
  let I (p : Point) (w : Host) (h : History) : Prop :=
    (p.Polled options (h.countP isPoll) w.stop_requested w.steady ∧
      h.countP isPoll ≤ maxPolls options) ∧ ∀ start, p.start? = some start → 0 ≤ start
  let rank (p : Point) (_ : Host) (h : History) : ℕ :=
    p.budget options (maxPolls options - h.countP isPoll)
  have hevent : ∀ p w h op a w' p', I p w h → machine options p ⟨op, a⟩ p' →
      (punctual.restrict Point.Exact).answers w op a w' →
      I p' w' (h ++ [⟨op, a⟩]) ∧ rank p' w' (h ++ [⟨op, a⟩]) + 1 ≤ rank p w h := by
    rintro p w h op a w' p' ⟨⟨hpolled, hle⟩, hstart⟩ hstep ⟨answer, hread⟩
    have hstart' : ∀ start, p'.start? = some start → 0 ≤ start := fun start hsome =>
      (hstep.start?_eq hsome).elim (hstart start) fun he => (hread start he).1
    simp only [I, rank, List.countP_append, List.countP_singleton]
    cases hpoll : isPoll ⟨op, a⟩ with
    | false =>
      have hpolled' := hstep.polled hpoll answer hread hstart hpolled
      exact ⟨⟨⟨hpolled', hle⟩, hstart'⟩, hstep.budget_lt hpoll hpolled⟩
    | true =>
      obtain ⟨hless, hpolled'⟩ := hstep.polled_succ hpoll answer hpolled
      refine ⟨⟨⟨hpolled', hless⟩, hstart'⟩, ?_⟩
      rw [← Nat.sub_add_cancel (Nat.sub_pos_of_lt hless), Nat.sub_sub]
      exact hstep.budget_succ_lt hpoll
  have hmove : ∀ p w h w', I p w h → (punctual.restrict Point.Exact).moves w w' →
      I p w' h ∧ rank p w' h ≤ rank p w h := by
    rintro p w h w' ⟨⟨hpolled, hle⟩, hstart⟩ hm
    refine ⟨⟨⟨?_, hle⟩, hstart⟩, Nat.le_refl _⟩
    cases hm with
    | signalHandler => exact hpolled.mono (Int.le_refl _) fun _ => rfl
    | tick t ht => exact hpolled.mono ht id
  have hinit : I (.initial stod argv) w [] :=
    ⟨⟨Point.polled_initial stod argv, Nat.zero_le _⟩, Point.start?_initial stod argv⟩
  have hcalls := Conforms.length_le hevent hmove hrun hmain hinit
  obtain ⟨p, ⟨⟨-, hpolls⟩, -⟩, -⟩ := Conforms.invariant (fun p w h op a w' p' hI hstep answer =>
    (hevent p w h op a w' p' hI hstep answer).1) (fun p w h w' hI hm => (hmove p w h w' hI hm).1)
    hrun hmain hinit
  have hbudget := Point.budget_initial_le options (maxPolls options) stod argv
  rw [List.length_nil, Nat.zero_add] at hcalls
  exact ⟨hcalls.trans hbudget, hpolls⟩

/-! ## A status request that fails -/

/-- A sleep makes no navigation status requests. -/
theorem countP_isPoll_eq_zero {h : History} (hrest : ∀ e ∈ h, isRest e = true) :
    h.countP isPoll = 0 := by
  rw [List.countP_eq_zero]
  rintro ⟨op, a⟩ he hpoll
  have hop := hrest _ he
  cases op with
  | client request => cases hop
  | _ => cases hpoll

/-- A sleep does not read the steady clock. -/
theorem steadyNow_not_mem {h : History} {t : ℤ} (hrest : ∀ e ∈ h, isRest e = true) :
    ⟨.steadyNow, t⟩ ∉ h := fun hmem => Bool.false_ne_true (hrest _ hmem)

/-- The first navigation status request throws, and `main` cancels the navigation. -/
theorem failedPoll_run : ∃ w' h,
    Steps punctual ⟨main noStod oneTarget, ⟨false, 0⟩, []⟩ ⟨.ret 1, w', h⟩ ∧
      h.countP isPoll = 1 ∧ ∀ t, ⟨.steadyNow, t⟩ ∈ h → t = 300000000 := by
  have hclient : ∀ (w : Host) (request : Request) (outcome : Except StdException request.Reply),
      punctual.answers w (.client request) outcome w := fun _ _ _ => ⟨trivial, rfl⟩
  have hslept : ∀ t, Slept kStatusRequestGap 0 ⟨false, t⟩ ⟨false, t + 150000000⟩ :=
    fun t => ⟨⟨by simp, id⟩, .inr (by simp [kStatusRequestGap])⟩
  have hwaiting : isBefore 300000000 (deadlineAt 300000000 300) = true :=
    isBefore_deadlineAt_eq_true 300000000000 (by decide) (by decide) (by decide) (by decide)
      (by decide) (by norm_num)
  have hrun : CanEnd punctual (main noStod oneTarget) (fun r _ h => r = .ok 1 ∧
      h.countP isPoll = 1 ∧ ∀ t, ⟨.steadyNow, t⟩ ∈ h → t = 300000000) ⟨false, 0⟩ [] := by
    refine .bind (client_canEnd (.construct _) (.ok ()) (hclient _ _ _) ?_)
    refine .bind (.attempt (.bind (during_canEnd ?_)))
    refine client_canEnd .connect (.ok ()) (hclient _ _ _) ?_
    refine .bind (during_canEnd (client_canEnd .isConnected (.ok true) (hclient _ _ _) ?_))
    refine .bind (during_canEnd (client_canEnd .getEmergencyStatus (.ok {}) (hclient _ _ _) ?_))
    refine .bind (during_canEnd (sleepInterruptibly_canEnd_punctual (by decide) (by decide)
      (hslept 0) fun g₁ hg₁ => ?_))
    refine .bind (during_canEnd (client_canEnd .getBlockStatus (.ok {}) (hclient _ _ _) ?_))
    refine .bind (during_canEnd (.call false ⟨rfl, rfl⟩ (.ret ?_)))
    refine .bind (during_canEnd (.call 0 ⟨trivial, rfl⟩ (.ret ?_)))
    refine .bind (.bind (during_canEnd (.ret (.bind (during_canEnd ?_)))))
    refine client_canEnd (.executeFixedPathNavigation _) (.ok true) (hclient _ _ _) (.ret ?_)
    refine .bind (during_canEnd (sleepInterruptibly_canEnd_punctual (by decide) (by decide)
      (hslept _) fun g₂ hg₂ => ?_))
    refine .bind (during_canEnd (.bind (.call 300000000 ⟨rfl, rfl⟩ (.ret ?_))))
    refine .round (.bind (.bind (.bind (.call false ⟨rfl, rfl⟩ (.ret ?_)))))
    refine .bind (.call 300000000 ⟨rfl, rfl⟩ (.ret (.ret ?_)))
    simp only [hwaiting]
    refine .bind (client_canEnd .getNavigationStatus (.error (.runtime_error "")) (hclient _ _ _) ?_)
    refine .bind (.attempt (client_canEnd .cancelNavigation (.ok true) (hclient _ _ _) ?_))
    refine .bind (.attempt (client_canEnd .disconnect (.ok ()) (hclient _ _ _)
      (.ret ⟨rfl, ?_, fun t ht => ?_⟩)))
    · simp only [List.countP_append, countP_isPoll_eq_zero hg₁, countP_isPoll_eq_zero hg₂]
      rfl
    · simpa [steadyNow_not_mem hg₁, steadyNow_not_mem hg₂] using ht
  obtain ⟨r, w', h, hsteps, rfl, hh⟩ := hrun
  exact ⟨w', h, hsteps, hh⟩

/-- The bounds, in that run. -/
theorem main_terminates_failedPoll : ∃ w' h,
    Steps punctual ⟨main noStod oneTarget, ⟨false, 0⟩, []⟩ ⟨.ret 1, w', h⟩ ∧
      h.length ≤ 16913 ∧ 1 ≤ h.countP isPoll ∧ h.countP isPoll ≤ 600 := by
  obtain ⟨w', h, hrun, hh, hreadings⟩ := failedPoll_run
  have hexact : ∀ t, ⟨.steadyNow, t⟩ ∈ h → 0 ≤ t ∧ t ≤ 2 ^ 53 := by
    intro t ht
    rw [hreadings t ht]
    decide
  have htargets : (commandLineOptions noStod oneTarget).target_ids.length = 1 := rfl
  have hpolls : maxPolls (commandLineOptions noStod oneTarget) = 600 := by
    have htimeout : (commandLineOptions noStod oneTarget).timeout_seconds = 300 := rfl
    rw [maxPolls, htimeout]
    norm_num
  obtain ⟨hcalls, hle⟩ := main_terminates hrun hexact
  rw [htargets, hpolls] at hcalls
  rw [hpolls] at hle
  exact ⟨w', h, hrun, hcalls, hh.ge, hle⟩

end FlexivAmr
