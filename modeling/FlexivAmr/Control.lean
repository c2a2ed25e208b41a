import FlexivAmr.NavigationSpec
import FlexivAmr.Runs

/-!
# The control points of the navigation program

`main` from the construction of the client on, unrolled into a machine: a `Point` is the call that
comes next with the local variables that the rest of the run reads, and `Point.Step` says where the
answer leads. `main_follows` shows that every run of the structured program is a run of the machine,
so what holds of the machine's steps holds of the program. The bounds on what a run may still do
(`Timing.lean`, `Stop.lean`) are functions of the point.
-/

namespace FlexivAmr

open Interaction Program

/-- A control point of `main`: the call that comes next. -/
inductive Point
  | construct
  | connect
  | isConnected
  | getEmergencyStatus
  | getBlockStatus
  /-- The flag is read before the start. -/
  | checkStop
  /-- `BuildNavigationCommands` reads the system clock for as many targets, after the `readings`
  that it has taken, and the start request follows. -/
  | build (left : ℕ) (readings : List ℤ)
  /-- `WaitForNavigation` reads the clock at its start. -/
  | begin
  /-- The condition of the loop reads the flag. -/
  | loopStop (start : ℤ) (pause_exercised : Bool)
  /-- The condition of the loop reads the clock. -/
  | loopClock (start : ℤ) (pause_exercised : Bool)
  | getNavigationStatus (start : ℤ) (pause_exercised : Bool)
  /-- The flag is read after the gap between the two status requests. -/
  | gapStop (start : ℤ) (pause_exercised : Bool) (navigation : SeerNavigationStatus)
  | getTaskStatus (start : ℤ) (pause_exercised : Bool) (navigation : SeerNavigationStatus)
  /-- The clock is read for the elapsed time. -/
  | elapsed (start : ℤ) (pause_exercised : Bool) (navigation : SeerNavigationStatus)
  | pauseNavigation (start : ℤ)
  /-- The flag is read after the pause. -/
  | pauseStop (start : ℤ)
  | resumeNavigation (start : ℤ)
  /-- The flag is read after the loop, which has ended. -/
  | endStop
  /-- `WaitForNavigation` returns. -/
  | returned (result : NavigationResult)
  | cancelNavigation
  | disconnect (exit_code : ℤ)
  /-- `main` has returned. -/
  | done (exit_code : ℤ)
  /-- The client's constructor has thrown. -/
  | failed
  /-- `SleepInterruptibly` reads the flag with `remaining` milliseconds to go, before `next`. -/
  | sleep (remaining : ℤ) (next : Point)
  /-- `SleepInterruptibly` sleeps for a step. -/
  | doze (remaining : ℤ) (next : Point)

namespace Point

/-- The step that `SleepInterruptibly` sleeps, with `remaining` milliseconds to go. -/
def dozeStep (remaining : ℤ) : ℤ := if remaining < kStep then remaining else kStep

/-- The point that the outcome of a request leads to: `next` when it returns, and else `thrown`. -/
def orElse {R : Type} (next : R → Point) (thrown : Point) : Except StdException R → Point
  | .ok reply => next reply
  | .error _ => thrown

/-- The point that the reply to a command leads to: only `true` goes on. -/
def ifAccepted (next refused : Point) (accepted : Bool) : Point := if accepted then next else refused

/-- The AMR reports an emergency stop. -/
def isEmergency (emergency : SeerEmergencyStatus) : Bool :=
  emergency.emergency || emergency.driver_emc || emergency.soft_emc

/-- The point after the task status: the return of `WaitForNavigation` when the navigation is over,
and else the reading of the elapsed time. -/
def afterTask (start : ℤ) (pause_exercised : Bool) (navigation : SeerNavigationStatus) : Point :=
  if navigation.task_status = kNavigationCompleted then .returned .kCompleted
  else if navigation.task_status = kNavigationFailed then .returned .kFailed
  else if navigation.task_status = kNavigationCanceled then .returned .kCanceled
  else .elapsed start pause_exercised navigation

/-- The point after the elapsed time: the pause when it is due, and else the next round. -/
def afterElapsed (options : ExampleOptions) (start : ℤ) (pause_exercised : Bool)
    (navigation : SeerNavigationStatus) (now : ℤ) : Point :=
  if pauseDue options pause_exercised navigation (seconds (now - start)) then .pauseNavigation start
  else .sleep kPollInterval (.loopStop start pause_exercised)

/-- The point after the clock of the loop's condition. -/
def afterLoopClock (options : ExampleOptions) (start : ℤ) (pause_exercised : Bool) (now : ℤ) :
    Point :=
  if isBefore now (deadlineAt start options.timeout_seconds) then
    .getNavigationStatus start pause_exercised
  else .endStop

/-- The point after the return of `WaitForNavigation`: a verdict leaves nothing to cancel. -/
def afterReturn : NavigationResult → Point
  | .kCompleted => .disconnect 0
  | .kFailed | .kCanceled => .disconnect 1
  | .kInterrupted | .kTimedOut => .cancelNavigation

/-- The points that may follow a sleep. -/
def wakes : Point → Bool
  | .getBlockStatus | .begin | .loopStop _ _ | .gapStop _ _ _ | .pauseStop _ => true
  | _ => false

/-! What holds at both ends of a call holds after it, one lemma for each kind of call. -/

section Cases

variable (P : Point → Prop) {options : ExampleOptions} {start : ℤ} {pause_exercised : Bool}
  {navigation : SeerNavigationStatus} {next thrown refused set unset : Point}

/-- A request. -/
theorem orElse_cases {R : Type} {next : R → Point} (outcome : Except StdException R)
    (hthrown : P thrown) (hnext : ∀ reply, outcome = .ok reply → P (next reply)) :
    P (orElse next thrown outcome) := by
  cases outcome with
  | error e => exact hthrown
  | ok reply => exact hnext reply rfl

/-- A command, which may throw or be refused. -/
theorem command_cases (outcome : Except StdException Bool) (hrefused : P refused)
    (hnext : P next) : P (orElse (ifAccepted next refused) refused outcome) := by
  rcases outcome with e | _ | _
  · exact hrefused
  · exact hrefused
  · exact hnext

/-- The emergency status. -/
theorem emergency_cases (outcome : Except StdException SeerEmergencyStatus)
    (hrefused : P refused) (hnext : ∀ emergency, outcome = .ok emergency →
      isEmergency emergency = false → P next) :
    P (orElse (fun emergency => if isEmergency emergency then refused else next) refused
      outcome) := by
  refine orElse_cases P outcome hrefused fun emergency hemergency => ?_
  cases hstop : isEmergency emergency with
  | true => exact hrefused
  | false => exact hnext emergency hemergency hstop

/-- A reading of the stop flag. -/
theorem flag_cases (stop : Bool) (hset : stop = true → P set) (hunset : stop = false → P unset) :
    P (if stop then set else unset) := by
  cases stop with
  | true => exact hset rfl
  | false => exact hunset rfl

/-- A reading of the stop flag in a sleep. -/
theorem sleepStop_cases {remaining : ℤ} (stop : Bool)
    (hdoze : 0 < remaining → P (.doze remaining next))
    (hwake : stop = true ∨ remaining ≤ 0 → P next) :
    P (if !stop && 0 < remaining then .doze remaining next else next) := by
  cases stop with
  | true => exact hwake (.inl rfl)
  | false =>
    by_cases hremaining : 0 < remaining
    · simpa [hremaining] using hdoze hremaining
    · simpa [hremaining] using hwake (.inr (not_lt.1 hremaining))

/-- The verdict, once the task status has been read. -/
theorem afterTask_cases
    (hreturned : ∀ result : NavigationResult, result.terminal = some navigation.task_status →
      P (.returned result))
    (helapsed : (∀ result : NavigationResult, result.terminal ≠ some navigation.task_status) →
      P (.elapsed start pause_exercised navigation)) :
    P (afterTask start pause_exercised navigation) := by
  unfold afterTask
  split_ifs with hcompleted hfailed hcanceled
  · exact hreturned .kCompleted (congrArg some hcompleted.symm)
  · exact hreturned .kFailed (congrArg some hfailed.symm)
  · exact hreturned .kCanceled (congrArg some hcanceled.symm)
  · refine helapsed fun result hresult => ?_
    cases result with
    | kCompleted => exact hcompleted (Option.some.inj hresult).symm
    | kFailed => exact hfailed (Option.some.inj hresult).symm
    | kCanceled => exact hcanceled (Option.some.inj hresult).symm
    | kInterrupted | kTimedOut => cases hresult

/-- The reading of the elapsed time. -/
theorem afterElapsed_cases {now : ℤ}
    (hdue : pauseDue options pause_exercised navigation (seconds (now - start)) = true →
      P (.pauseNavigation start))
    (hnext : P (.sleep kPollInterval (.loopStop start pause_exercised))) :
    P (afterElapsed options start pause_exercised navigation now) := by
  unfold afterElapsed
  split_ifs with h
  · exact hdue h
  · exact hnext

/-- The clock of the loop's condition. -/
theorem afterLoopClock_cases {now : ℤ}
    (hwaiting : isBefore now (deadlineAt start options.timeout_seconds) = true →
      P (.getNavigationStatus start pause_exercised))
    (hover : deadlineAt start options.timeout_seconds ≤ double now → P .endStop) :
    P (afterLoopClock options start pause_exercised now) := by
  unfold afterLoopClock
  split_ifs with h
  · exact hwaiting h
  · exact hover (not_lt.1 (mt isBefore_eq_true_iff.2 h))

/-- The return of `WaitForNavigation`. -/
theorem afterReturn_cases (result : NavigationResult) (hcancel : P .cancelNavigation)
    (hdisconnect : ∀ exit_code, P (.disconnect exit_code)) : P (afterReturn result) := by
  cases result with
  | kCompleted | kFailed | kCanceled => exact hdisconnect _
  | kInterrupted | kTimedOut => exact hcancel

end Cases

/-- The start of the wait, where the rest of the run reads it. -/
def start? : Point → Option ℤ
  | .loopStop start _ | .loopClock start _ | .getNavigationStatus start _ | .gapStop start _ _
  | .getTaskStatus start _ _ | .elapsed start _ _ | .pauseNavigation start | .pauseStop start
  | .resumeNavigation start => some start
  | .sleep _ next | .doze _ next => next.start?
  | _ => none

/-- The steps of the machine: the point's call, the answer, and the point that it leads to. -/
inductive Step (options : ExampleOptions) : Point → Event Op.Answer → Point → Prop
  | construct (outcome : Except StdException Unit) :
      Step options .construct
        ⟨.client (.construct { host := options.amr_ip, auto_connect := false }), outcome⟩
        (orElse (fun _ => .connect) .failed outcome)
  | connect (outcome : Except StdException Unit) : Step _ .connect ⟨.client .connect, outcome⟩
      (orElse (fun _ => .isConnected) (.done 1) outcome)
  | isConnected (outcome : Except StdException Bool) :
      Step _ .isConnected ⟨.client .isConnected, outcome⟩
        (orElse (fun _ => .getEmergencyStatus) (.disconnect 1) outcome)
  | getEmergencyStatus (outcome : Except StdException SeerEmergencyStatus) :
      Step _ .getEmergencyStatus ⟨.client .getEmergencyStatus, outcome⟩
        (orElse (fun emergency => if isEmergency emergency then .disconnect 1
          else .sleep kStatusRequestGap .getBlockStatus) (.disconnect 1) outcome)
  | getBlockStatus (outcome : Except StdException SeerBlockStatus) :
      Step _ .getBlockStatus ⟨.client .getBlockStatus, outcome⟩
        (orElse (fun _ => .checkStop) (.disconnect 1) outcome)
  | checkStop (stop) : Step options .checkStop ⟨.stopRequested, stop⟩
      (if stop then .disconnect 1 else .build options.target_ids.length [])
  | build (left readings now) :
      Step _ (.build (left + 1) readings) ⟨.systemNow, now⟩ (.build left (readings ++ [now]))
  | startFixed (readings command) (outcome : Except StdException Bool)
      (path : pathCommands options.source_id 0 options.target_ids readings = [command]) :
      Step options (.build 0 readings) ⟨.client (.executeFixedPathNavigation command), outcome⟩
        (orElse (ifAccepted (.sleep kStatusRequestGap .begin) (.disconnect 1)) (.disconnect 1)
          outcome)
  | startSpecified (readings commands) (outcome : Except StdException Bool)
      (path : pathCommands options.source_id 0 options.target_ids readings = commands)
      (several : commands.length ≠ 1) :
      Step options (.build 0 readings) ⟨.client (.executeSpecifiedPathNavigation commands), outcome⟩
        (orElse (ifAccepted (.sleep kStatusRequestGap .begin) (.disconnect 1)) (.disconnect 1)
          outcome)
  | begin (start) : Step _ .begin ⟨.steadyNow, start⟩ (.loopStop start false)
  | loopStop (start pause_exercised stop) :
      Step _ (.loopStop start pause_exercised) ⟨.stopRequested, stop⟩
        (if stop then .endStop else .loopClock start pause_exercised)
  | loopClock (start pause_exercised now) :
      Step options (.loopClock start pause_exercised) ⟨.steadyNow, now⟩
        (afterLoopClock options start pause_exercised now)
  | getNavigationStatus (start pause_exercised)
      (outcome : Except StdException SeerNavigationStatus) :
      Step _ (.getNavigationStatus start pause_exercised) ⟨.client .getNavigationStatus, outcome⟩
        (orElse (fun navigation =>
          .sleep kStatusRequestGap (.gapStop start pause_exercised navigation))
          .cancelNavigation outcome)
  | gapStop (start pause_exercised navigation stop) :
      Step _ (.gapStop start pause_exercised navigation) ⟨.stopRequested, stop⟩
        (if stop then .returned .kInterrupted else .getTaskStatus start pause_exercised navigation)
  | getTaskStatus (start pause_exercised navigation)
      (outcome : Except StdException SeerTaskStatus) :
      Step _ (.getTaskStatus start pause_exercised navigation) ⟨.client .getTaskStatus, outcome⟩
        (orElse (fun _ => afterTask start pause_exercised navigation) .cancelNavigation outcome)
  | elapsed (start pause_exercised navigation now) :
      Step options (.elapsed start pause_exercised navigation) ⟨.steadyNow, now⟩
        (afterElapsed options start pause_exercised navigation now)
  | pauseNavigation (start) (outcome : Except StdException Bool) :
      Step _ (.pauseNavigation start) ⟨.client .pauseNavigation, outcome⟩
        (orElse (ifAccepted (.sleep kPauseDuration (.pauseStop start)) .cancelNavigation)
          .cancelNavigation outcome)
  | pauseStop (start stop) : Step _ (.pauseStop start) ⟨.stopRequested, stop⟩
      (if stop then .returned .kInterrupted else .resumeNavigation start)
  | resumeNavigation (start) (outcome : Except StdException Bool) :
      Step _ (.resumeNavigation start) ⟨.client .resumeNavigation, outcome⟩
        (orElse (ifAccepted (.sleep kPollInterval (.loopStop start true)) .cancelNavigation)
          .cancelNavigation outcome)
  | endStop (stop) : Step _ .endStop ⟨.stopRequested, stop⟩
      (.returned (if stop then .kInterrupted else .kTimedOut))
  | returned (result) : Step _ (.returned result) ⟨.returned result, ()⟩ (afterReturn result)
  | cancelNavigation (outcome : Except StdException Bool) :
      Step _ .cancelNavigation ⟨.client .cancelNavigation, outcome⟩ (.disconnect 1)
  | disconnect (exit_code) (outcome : Except StdException Unit) :
      Step _ (.disconnect exit_code) ⟨.client .disconnect, outcome⟩ (.done exit_code)
  | sleepStop (remaining next stop) : Step _ (.sleep remaining next) ⟨.stopRequested, stop⟩
      (if !stop && 0 < remaining then .doze remaining next else next)
  | doze (remaining next) :
      Step _ (.doze remaining next) ⟨.sleepFor (dozeStep remaining), ()⟩
        (.sleep (remaining - dozeStep remaining) next)

end Point

/-- The machine as a protocol over the program's events. -/
def machine (options : ExampleOptions) : Protocol Op.Answer Point := Point.Step options

/-! ## The program follows the machine -/

section Follows

variable {options : ExampleOptions} {next : Point}

/-- A reading of the stop flag. -/
theorem stopRequested_follows {p : Point} {next : Bool → Point}
    {Q : Except StdException Bool → Point → Prop}
    (hstep : ∀ stop, p.Step options ⟨.stopRequested, stop⟩ (next stop))
    (hQ : ∀ stop, Q (.ok stop) (next stop)) : Conforms (machine options) stopRequested Q p :=
  fun stop => ⟨next stop, hstep stop, hQ stop⟩

/-- `SleepInterruptibly`. -/
theorem sleepInterruptibly_follows {duration : ℤ} {Q : Except StdException Unit → Point → Prop}
    (hQ : Q (.ok ()) next) :
    Conforms (machine options) (sleepInterruptibly duration) Q (.sleep duration next) := by
  unfold sleepInterruptibly
  refine conforms_loop (fun remaining p => p = .sleep remaining next) rfl ?_
  rintro remaining p rfl
  refine conforms_bind.2 (stopRequested_follows (.sleepStop remaining next) fun stop => ?_)
  rw [afterFirst_ok]
  by_cases hdoze : (!stop && decide (0 < remaining)) = true
  · rw [if_pos hdoze, if_pos hdoze]
    exact conforms_bind.2 fun _ => ⟨_, .doze remaining next, rfl⟩
  · rw [if_neg hdoze, if_neg hdoze]
    exact hQ

/-- The loop of `BuildNavigationCommands`: one reading for each target, and the commands of the path
that they make. -/
theorem buildNavigationCommandsLoop_follows {source_id : String} {index : ℕ}
    {target_ids : List String} {commands : List SeerPathNaviCommand} {readings : List ℤ}
    {Q : Except StdException (List SeerPathNaviCommand) → Point → Prop}
    (hQ : ∀ new, Q (.ok (commands ++ pathCommands source_id index target_ids new))
      (.build 0 (readings ++ new))) :
    Conforms (machine options) (buildNavigationCommandsLoop source_id index target_ids commands) Q
      (.build target_ids.length readings) := by
  induction target_ids generalizing source_id index commands readings with
  | nil =>
    have hnone := hQ []
    rw [show pathCommands source_id index [] [] = [] from rfl, List.append_nil,
      List.append_nil] at hnone
    exact hnone
  | cons target_id target_ids ih =>
    refine fun now => ⟨_, .build target_ids.length readings now, ih fun new => ?_⟩
    have hcons := hQ (now :: new)
    rw [pathCommands, List.append_cons commands, List.append_cons readings] at hcons
    exact hcons

/-- The pause block of `WaitForNavigation`. -/
theorem pauseBlock_follows {start : ℤ} :
    Conforms (machine options) pauseBlock (fun
      | .ok none, p => p = .sleep kPollInterval (.loopStop start true)
      | .ok (some result), p => p = .returned result
      | .error _, p => p = .cancelNavigation) (.pauseNavigation start) := by
  unfold pauseBlock
  apply conforms_client_bind
  · exact fun e => ⟨_, .pauseNavigation start (.error e), rfl⟩
  rintro (_ | _)
  · exact ⟨_, .pauseNavigation start (.ok false), rfl⟩
  refine ⟨_, .pauseNavigation start (.ok true), ?_⟩
  refine conforms_bind.2 (sleepInterruptibly_follows ?_)
  refine conforms_bind.2 (stopRequested_follows (.pauseStop start) fun stop => ?_)
  cases stop with
  | true => exact rfl
  | false =>
    apply conforms_client_bind
    · exact fun e => ⟨_, .resumeNavigation start (.error e), rfl⟩
    rintro (_ | _)
    · exact ⟨_, .resumeNavigation start (.ok false), rfl⟩
    · exact ⟨_, .resumeNavigation start (.ok true), rfl⟩

/-- Where `WaitForNavigation` leaves the machine. -/
def WaitFollows : Except StdException NavigationResult → Point → Prop
  | .ok result, p => p = .returned result
  | .error _, p => p = .cancelNavigation

/-- A round of `WaitForNavigation`. -/
theorem waitForNavigationRound_follows {start : ℤ} {pause_exercised : Bool} :
    Conforms (machine options) (waitForNavigationRound options start pause_exercised)
      (afterRound (fun result => WaitFollows (.ok result)) (fun pe p => p = .loopStop start pe)
        fun e => WaitFollows (.error e)) (.getNavigationStatus start pause_exercised) := by
  unfold waitForNavigationRound
  apply conforms_client_bind
  · exact fun e => ⟨_, .getNavigationStatus start pause_exercised (.error e), rfl⟩
  intro navigation
  refine ⟨_, .getNavigationStatus start pause_exercised (.ok navigation), ?_⟩
  refine conforms_bind.2 (sleepInterruptibly_follows ?_)
  refine conforms_bind.2
    (stopRequested_follows (.gapStop start pause_exercised navigation) fun stop => ?_)
  cases stop with
  | true => exact rfl
  | false =>
    apply conforms_client_bind
    · exact fun e => ⟨_, .getTaskStatus start pause_exercised navigation (.error e), rfl⟩
    intro task
    refine ⟨_, .getTaskStatus start pause_exercised navigation (.ok task), ?_⟩
    simp only [bind_eq, pure_eq, Point.orElse, Point.afterTask]
    split_ifs with hcompleted hfailed hcanceled
    · exact rfl
    · exact rfl
    · exact rfl
    refine conforms_bind.2 fun now => ⟨_, .elapsed start pause_exercised navigation now, ?_⟩
    rw [conforms_ret, afterFirst_ok]
    unfold Point.afterElapsed
    split_ifs with hdue
    · refine conforms_bind.2 (pauseBlock_follows.mono ?_)
      rintro (e | _ | result) p rfl
      · exact rfl
      · exact conforms_bind.2 (sleepInterruptibly_follows rfl)
      · exact rfl
    · exact conforms_bind.2 (sleepInterruptibly_follows rfl)

/-- The condition of the loop of `WaitForNavigation`. -/
theorem keepWaiting_follows {start : ℤ} {pause_exercised : Bool} :
    Conforms (machine options) (keepWaiting (deadlineAt start options.timeout_seconds)) (fun
      | .ok true, p => p = .getNavigationStatus start pause_exercised
      | .ok false, p => p = .endStop
      | .error _, _ => False) (.loopStop start pause_exercised) := by
  unfold keepWaiting
  refine conforms_bind.2
    (stopRequested_follows (.loopStop start pause_exercised) fun stop => ?_)
  cases stop with
  | true => exact rfl
  | false =>
    refine conforms_bind.2 fun now => ⟨_, .loopClock start pause_exercised now, ?_⟩
    unfold Point.afterLoopClock
    rw [conforms_ret, afterFirst_ok]
    cases hwaiting : isBefore now (deadlineAt start options.timeout_seconds) with
    | true => exact rfl
    | false => exact rfl

/-- `WaitForNavigation`. -/
theorem waitForNavigation_follows :
    Conforms (machine options) (waitForNavigation options) WaitFollows .begin := by
  unfold waitForNavigation
  refine conforms_bind.2 fun start => ⟨_, .begin start, ?_⟩
  refine conforms_loop (fun pause_exercised p => p = .loopStop start pause_exercised) rfl ?_
  rintro pause_exercised p rfl
  refine conforms_bind.2 (keepWaiting_follows.mono ?_)
  rintro (e | _ | _) p hp
  · exact hp.elim
  · -- The flag is read once more after the loop.
    rw [hp]
    refine conforms_bind.2 (stopRequested_follows .endStop fun stop => ?_)
    cases stop with
    | true => exact rfl
    | false => exact rfl
  · rw [hp]
    exact waitForNavigationRound_follows

/-- The local variables of `main` at the end of its `try` block, and the point of the cleanup that
they lead to. -/
inductive Locals.Leaves : Locals → Point → Prop
  | unconnected : Locals.Leaves {} (.done 1)
  | connected (exit_code) : Locals.Leaves { connected := true, exit_code } (.disconnect exit_code)
  | active : Locals.Leaves { connected := true, navigation_active := true } .cancelNavigation

/-- Where the `try` block of `main` leaves the machine, at every exit. -/
def NavigateFollows : Except Thrown Locals → Point → Prop
  | .ok v, p => v.Leaves p
  | .error thrown, p => thrown.locals.Leaves p

/-- Where `main` leaves the machine. -/
def MainFollows : Except StdException ℤ → Point → Prop
  | .ok code, p => p = .done code
  | .error _, p => p = .failed

/-- The start request of `main`, whichever of the two it is. -/
theorem startRequest_follows {request : HostProgram StdException Bool} {message : String}
    {readings : List ℤ} {Q : Except Thrown Unit → Point → Prop}
    (hrequest : ∀ R : Except StdException Bool → Point → Prop,
      (∀ outcome, R outcome (.orElse (.ifAccepted (.sleep kStatusRequestGap .begin) (.disconnect 1))
        (.disconnect 1) outcome)) → Conforms (machine options) request R (.build 0 readings))
    (hok : Q (.ok ()) (.sleep kStatusRequestGap .begin))
    (herror : ∀ e, Q (.error ⟨e, { connected := true }⟩) (.disconnect 1)) :
    Conforms (machine options)
      ((({ connected := true } : Locals).during request).bind fun accepted =>
        if (!accepted) = true then
          Locals.throw { connected := true } (.runtime_error message)
        else
          .ret ()) Q (.build 0 readings) := by
  refine conforms_bind.2 (conforms_during.2 (hrequest _ ?_))
  rintro (e | _ | _)
  · exact herror e
  · exact herror _
  · exact hok

/-- The start of the navigation. -/
theorem startNavigation_follows {readings : List ℤ} {commands : List SeerPathNaviCommand}
    (hpath : pathCommands options.source_id 0 options.target_ids readings = commands)
    {Q : Except Thrown Unit → Point → Prop} (hok : Q (.ok ()) (.sleep kStatusRequestGap .begin))
    (herror : ∀ e, Q (.error ⟨e, { connected := true }⟩) (.disconnect 1)) :
    Conforms (machine options) (startNavigation { connected := true } commands) Q
      (.build 0 readings) := by
  have hlog : ∀ command ∈ commands, Loggable command := by
    rw [← hpath]
    exact fun _ => loggable_of_mem
  unfold startNavigation
  split
  · rename_i command
    rw [logCommand_eq (hlog command List.mem_cons_self)]
    refine startRequest_follows (fun R hR => conforms_client.2 fun outcome => ?_) hok herror
    exact ⟨_, .startFixed readings command outcome hpath, hR outcome⟩
  · rename_i hseveral
    rw [logCommands_eq hlog]
    refine startRequest_follows (fun R hR => conforms_client.2 fun outcome => ?_) hok herror
    refine ⟨_, .startSpecified readings commands outcome hpath fun hlength => ?_, hR outcome⟩
    obtain ⟨command, hcommand⟩ := List.length_eq_one_iff.1 hlength
    exact hseveral command hcommand

/-- The `try` block of `main` once the start request is accepted. -/
theorem monitorNavigation_follows :
    Conforms (machine options) (monitorNavigation { connected := true } options) NavigateFollows
      (.sleep kStatusRequestGap .begin) := by
  unfold monitorNavigation
  refine conforms_bind.2 (conforms_during.2 (sleepInterruptibly_follows ?_))
  refine conforms_bind.2 (conforms_during.2 (waitForNavigation_follows.mono ?_))
  rintro (e | result) p rfl
  · exact .active
  · refine conforms_bind.2 (conforms_during.2 fun _ => ⟨_, .returned result, ?_⟩)
    cases result with
    | kCompleted => exact .connected 0
    | kFailed => exact .connected 1
    | kCanceled => exact .connected 1
    | kInterrupted => exact .active
    | kTimedOut => exact .active

/-- The `try` block of `main`. -/
theorem navigate_follows : Conforms (machine options) (navigate options) NavigateFollows .connect := by
  unfold navigate
  apply conforms_during_client_bind
  · exact fun e => ⟨_, .connect (.error e), .unconnected⟩
  refine fun _ => ⟨_, .connect (.ok ()), ?_⟩
  apply conforms_during_client_bind
  · exact fun e => ⟨_, .isConnected (.error e), .connected 1⟩
  refine fun connected => ⟨_, .isConnected (.ok connected), ?_⟩
  apply conforms_during_client_bind
  · exact fun e => ⟨_, .getEmergencyStatus (.error e), .connected 1⟩
  refine fun emergency => ⟨_, .getEmergencyStatus (.ok emergency), ?_⟩
  unfold Point.orElse Point.isEmergency
  simp only [bind_eq]
  by_cases hemergency : (emergency.emergency || emergency.driver_emc || emergency.soft_emc) = true
  · rw [if_pos hemergency, if_pos hemergency]
    exact .connected 1
  rw [if_neg hemergency, if_neg hemergency]
  refine conforms_bind.2 (conforms_during.2 (sleepInterruptibly_follows ?_))
  apply conforms_during_client_bind
  · exact fun e => ⟨_, .getBlockStatus (.error e), .connected 1⟩
  refine fun block => ⟨_, .getBlockStatus (.ok block), ?_⟩
  refine conforms_bind.2 (conforms_during.2 (stopRequested_follows .checkStop fun stop => ?_))
  cases stop with
  | true => exact .connected 1
  | false =>
    refine conforms_bind.2 (conforms_during.2 ?_)
    refine buildNavigationCommandsLoop_follows fun readings => ?_
    refine conforms_bind.2 (startNavigation_follows rfl ?_ fun e => .connected 1)
    exact monitorNavigation_follows

/-- The cleanup of `main`. -/
theorem cleanup_follows {v : Locals} {p : Point} (hv : v.Leaves p) :
    Conforms (machine options) (cleanup v) MainFollows p := by
  have hdisconnect : ∀ exit_code : ℤ, Conforms (machine options)
      ((client .disconnect).attempt.bind fun (_ : Except StdException Unit) =>
        (.ret exit_code : HostProgram StdException ℤ)) MainFollows (.disconnect exit_code) := by
    intro exit_code
    refine conforms_bind.2 (conforms_attempt.2 (conforms_client.2 fun outcome => ?_))
    exact ⟨_, .disconnect exit_code outcome, rfl⟩
  cases hv with
  | unconnected => exact rfl
  | connected exit_code => exact hdisconnect exit_code
  | active =>
    refine conforms_bind.2 (conforms_attempt.2 (conforms_client.2 fun outcome => ?_))
    exact ⟨_, .cancelNavigation outcome, hdisconnect 1⟩

/-- `main` from the construction of the client on. -/
theorem runNavigation_follows :
    Conforms (machine options) (runNavigation options) MainFollows .construct := by
  unfold runNavigation
  apply conforms_client_bind
  · exact fun e => ⟨_, .construct (.error e), rfl⟩
  refine fun _ => ⟨_, .construct (.ok ()), ?_⟩
  refine conforms_bind.2 (conforms_attempt.2 (navigate_follows.mono ?_))
  rintro (thrown | v) p hp
  · exact cleanup_follows hp
  · exact cleanup_follows hp

end Follows

/-- The options that the command line asks for. -/
def commandLineOptions (stod : Stod) (argv : List String) : ExampleOptions :=
  match parseOptions stod argv with
  | .error _ => {}
  | .ok options => options

/-- The point at which `main` starts. -/
def Point.initial (stod : Stod) (argv : List String) : Point :=
  if argv[1]? = some "--help" ∨ argv[1]? = some "-h" then .done 0
  else
    match parseOptions stod argv with
    | .error _ => .done 1
    | .ok _ => .construct

/-- `main` follows the machine. -/
theorem main_follows (stod : Stod) (argv : List String) :
    Conforms (machine (commandLineOptions stod argv)) (main stod argv) MainFollows
      (.initial stod argv) := by
  unfold main commandLineOptions Point.initial
  split_ifs with hhelp
  · exact rfl
  · cases parseOptions stod argv with
    | error e => exact rfl
    | ok options => exact runNavigation_follows

/-- What the steps of the machine preserve, together with the world and with the history, holds at
every point of every run of `main`. -/
theorem main_point {W : Type} {E : Environment Op.Answer W} {stod : Stod} {argv : List String}
    {w : W} {c : Config Op.Answer StdException W ℤ} {Inv : Point → W → History → Prop}
    (hinit : Inv (.initial stod argv) w [])
    (hevent : ∀ p w h op a w' p', Inv p w h →
      p.Step (commandLineOptions stod argv) ⟨op, a⟩ p' → E.answers w op a w' →
      Inv p' w' (h ++ [⟨op, a⟩]))
    (hmove : ∀ p w h w', Inv p w h → E.moves w w' → Inv p w' h)
    (hrun : Steps E ⟨main stod argv, w, []⟩ c) :
    ∃ p, Inv p c.world c.history ∧
      Conforms (machine (commandLineOptions stod argv)) c.program MainFollows p :=
  Conforms.invariant hevent hmove hrun (main_follows stod argv) hinit

end FlexivAmr
