import FlexivAmr.Interaction.Equivalence
import FlexivAmr.Python.Sleep

/-!
# The two navigation programs

The C++ program and the Python program do the same as far as anyone but their own host can see, but
for three nanoseconds of its clock (`navigation_equivalent`). On a host whose clock reads at most
`clockLimit`, every run of the one from the construction of the client to the exit code, with the
clock as it is, is matched by a run of the other, with a clock that may be off and sleeps that may
end early by three nanoseconds: it makes the same requests, with the same outcomes up to the
exceptions' classes and texts, between the same worlds, and ends with the same exit code. The task
ids, which hold the time in different units, are not compared.

The reserve is for the rounding: C++ subtracts two times before it rounds them to seconds, and Python
after, so at one and the same reading the one may find the pause due, or the timeout passed, that the
other does not.
-/

namespace FlexivAmr.Python

open Interaction Program

/-! ## What is seen of the programs -/

/-- A command without its task id. -/
def withoutTaskId (command : SeerPathNaviCommand) : SeerPathNaviCommand :=
  { command with task_id := none }

/-- A request that has returned, with its reply, or that has failed. -/
abbrev Seen : Type := (request : Request) × Option request.Reply

/-- What is seen of a request: the task ids are not. -/
def seen : (request : Request) → Option request.Reply → Seen
  | .executeFixedPathNavigation command, reply =>
    ⟨.executeFixedPathNavigation (withoutTaskId command), reply⟩
  | .executeSpecifiedPathNavigation commands, reply =>
    ⟨.executeSpecifiedPathNavigation (commands.map withoutTaskId), reply⟩
  | request, reply => ⟨request, reply⟩

/-- What is seen of the C++ program: its requests. -/
def observeCpp : Event FlexivAmr.Op.Answer → Option Seen
  | ⟨.client request, outcome⟩ => some (seen request (Except.toOption outcome))
  | _ => none

/-- What is seen of the Python program: its requests. -/
def observePython : Event (Op.Answer Request.Reply) → Option Seen
  | ⟨.client request, outcome⟩ => some (seen request (Except.toOption outcome))
  | _ => none

/-- The C++ program on a punctual host, and the Python program that is to match it. -/
def pythonMatches : Comparison FlexivAmr.Op.Answer (Op.Answer Request.Reply) HostInRange Seen where
  left := FlexivAmr.punctualWithin 0
  right := punctualWithin Request.Reply 3
  observeLeft := observeCpp
  observeRight := observePython
  moves_iff _ _ := Iff.rfl

/-- The Python program on a punctual host, and the C++ program that is to match it. -/
def cppMatches : Comparison (Op.Answer Request.Reply) FlexivAmr.Op.Answer HostInRange Seen where
  left := punctualWithin Request.Reply 0
  right := FlexivAmr.punctualWithin 3
  observeLeft := observePython
  observeRight := observeCpp
  moves_iff _ _ := Iff.rfl

/-- Without requests there is nothing to see. -/
theorem filterMap_observeCpp_eq_nil {h : History} (hquiet : ∀ e ∈ h, FlexivAmr.isClient e = false) :
    h.filterMap observeCpp = [] := by
  rw [List.filterMap_eq_nil_iff]
  rintro ⟨op, a⟩ he
  have hclient := hquiet _ he
  cases op with
  | client request => cases hclient
  | _ => rfl

/-- Without requests there is nothing to see. -/
theorem filterMap_observePython_eq_nil {h : List (Event (Op.Answer Request.Reply))}
    (hquiet : ∀ e ∈ h, isClient e = false) : h.filterMap observePython = [] := by
  rw [List.filterMap_eq_nil_iff]
  rintro ⟨op, a⟩ he
  have hclient := hquiet _ he
  cases op with
  | client request => cases hclient
  | _ => rfl

/-- Programs of the two languages that end alike, whatever their exceptions are. -/
abbrev Alike {β γ : Type} (A : β → γ → Prop) (p : HostProgram StdException β)
    (p' : NavigationProgram PyException γ) : Prop :=
  Equivalent pythonMatches cppMatches A (fun _ _ => True) p p'

/-- The two sleeps. -/
theorem sleepInterruptibly_alike {duration : ℤ} {duration_seconds : ℚ}
    (hduration : IsDuration duration duration_seconds) :
    Alike Eq (FlexivAmr.sleepInterruptibly duration) (sleepInterruptibly duration_seconds) := by
  constructor
  · intro n w h r w' houtcome
    obtain ⟨rfl, hslept, hquiet⟩ :=
      FlexivAmr.sleepInterruptibly_slept (steps_punctual (houtcome.steps []))
    obtain ⟨r', w₁, h', hrun, hend⟩ := sleepInterruptibly_canEnd_slept hduration (h := [])
      (Q := fun r w₁ h => r = .ok () ∧ w₁ = w' ∧ ∀ e ∈ h, isClient e = false) hslept
      fun g hg => ⟨rfl, rfl, hg⟩
    obtain ⟨rfl, rfl, hquiet'⟩ := hend
    obtain ⟨n', h', rfl, houtcome'⟩ := exists_outcome hrun
    refine ⟨n', h', _, houtcome', .ok rfl, ?_⟩
    exact (filterMap_observePython_eq_nil hquiet').trans (filterMap_observeCpp_eq_nil hquiet).symm
  · intro n w h r w' houtcome
    obtain ⟨rfl, hslept, hquiet⟩ := sleepInterruptibly_slept hduration (houtcome.steps [])
    obtain ⟨r', w₁, h', hrun, hend⟩ := FlexivAmr.sleepInterruptibly_canEnd_slept (h := [])
      (Q := fun r w₁ h => r = .ok () ∧ w₁ = w' ∧ ∀ e ∈ h, isRest e = true) (by decide) hslept
      fun g hg => ⟨rfl, rfl, hg⟩
    obtain ⟨rfl, rfl, hrest⟩ := hend
    obtain ⟨n', h', rfl, houtcome'⟩ := exists_outcome hrun
    refine ⟨n', h', _, houtcome', .ok rfl, ?_⟩
    have hquiet' : ∀ e ∈ h', FlexivAmr.isClient e = false :=
      fun e he => isClient_eq_false_of_isRest (hrest e he)
    exact (filterMap_observeCpp_eq_nil hquiet').trans (filterMap_observePython_eq_nil hquiet).symm

/-- The two waits between two requests. -/
theorem statusRequestGap_alike : Alike Eq (FlexivAmr.sleepInterruptibly kStatusRequestGap)
    (sleepInterruptibly statusRequestGapSeconds) := by
  refine sleepInterruptibly_alike ?_
  have hduration : IsDuration 150 (double ((150 : ℤ) / 1000)) := isDuration_double (by decide)
  rwa [show ((150 : ℤ) / 1000 : ℚ) = 15 / 100 by norm_num] at hduration

/-- The two waits between two rounds. -/
theorem pollInterval_alike : Alike Eq (FlexivAmr.sleepInterruptibly kPollInterval)
    (sleepInterruptibly pollIntervalSeconds) := by
  refine sleepInterruptibly_alike ?_
  have hduration : IsDuration 350 (double ((350 : ℤ) / 1000)) := isDuration_double (by decide)
  rwa [show ((350 : ℤ) / 1000 : ℚ) = 35 / 100 by norm_num] at hduration

/-- The two waits between the pause and the resume. -/
theorem pauseDuration_alike : Alike Eq (FlexivAmr.sleepInterruptibly kPauseDuration)
    (sleepInterruptibly pauseDurationSeconds) :=
  sleepInterruptibly_alike (by norm_num [IsDuration, kPauseDuration, pauseDurationSeconds])

/-! ## The calls -/

/-- Requests of the two programs that look alike, with replies that correspond. -/
theorem request_alike {request request' : Request} (f : request.Reply ≃ request'.Reply)
    (hseen : ∀ reply, seen request' (reply.map f) = seen request reply) :
    Alike (fun reply reply' => f reply = reply') (FlexivAmr.client request) (client request') := by
  refine .call (fun outcome outcome' => (Except.toOption outcome).map f = Except.toOption outcome')
    ?_ ?_ ?_ ?_ ?_
  · rintro w outcome w' ⟨-, rfl⟩
    cases outcome with
    | ok reply => exact ⟨.ok (f reply), rfl, trivial, rfl⟩
    | error e => exact ⟨.error (PyException.other ""), rfl, trivial, rfl⟩
  · rintro w outcome' w' ⟨-, rfl⟩
    cases outcome' with
    | ok reply' =>
      exact ⟨.ok (f.symm reply'), congrArg some (f.apply_symm_apply reply'), trivial, rfl⟩
    | error e => exact ⟨.error (StdException.other ""), rfl, trivial, rfl⟩
  · intro outcome outcome' houtcome
    exact congrArg some ((congrArg (seen request') houtcome.symm).trans (hseen _))
  · intro outcome outcome' houtcome
    exact congrArg some ((hseen _).symm.trans (congrArg (seen request') houtcome))
  · intro outcome outcome' houtcome
    cases outcome with
    | ok reply =>
      cases outcome' with
      | ok reply' => exact .ret (Option.some.inj houtcome)
      | error e' => cases houtcome
    | error e =>
      cases outcome' with
      | ok reply' => cases houtcome
      | error e' => exact .raise trivial

/-- A request that both programs make. -/
theorem client_alike (request : Request) :
    Alike Eq (FlexivAmr.client request) (client request) :=
  request_alike (Equiv.refl _) fun reply => by simp

/-- The requests to start a fixed path. -/
theorem executeFixedPathNavigation_alike {command command' : SeerPathNaviCommand}
    (hcommand : withoutTaskId command' = withoutTaskId command) :
    Alike (@Eq Bool) (FlexivAmr.client (.executeFixedPathNavigation command))
      (client (.executeFixedPathNavigation command')) := by
  refine @request_alike (.executeFixedPathNavigation command)
    (.executeFixedPathNavigation command') (Equiv.refl Bool) fun reply => ?_
  simp [seen, hcommand]

/-- The requests to start a specified path. -/
theorem executeSpecifiedPathNavigation_alike {commands commands' : List SeerPathNaviCommand}
    (hcommands : commands'.map withoutTaskId = commands.map withoutTaskId) :
    Alike (@Eq Bool) (FlexivAmr.client (.executeSpecifiedPathNavigation commands))
      (client (.executeSpecifiedPathNavigation commands')) := by
  refine @request_alike (.executeSpecifiedPathNavigation commands)
    (.executeSpecifiedPathNavigation commands') (Equiv.refl Bool) fun reply => ?_
  simp [seen, hcommands]

/-- The two readings of the stop flag. -/
theorem stopRequested_alike : Alike Eq FlexivAmr.stopRequested stopRequested := by
  refine .call Eq ?_ ?_ (fun _ _ _ => rfl) (fun _ _ _ => rfl) fun stop stop' hstop => .ret hstop
  · rintro w stop w' ⟨hstop, rfl⟩
    exact ⟨stop, rfl, hstop, rfl⟩
  · rintro w stop w' ⟨hstop, rfl⟩
    exact ⟨stop, rfl, hstop, rfl⟩

/-- A reading of a clock that is punctual within three nanoseconds. -/
theorem steadyNow_within {w : HostInRange} {t : ℤ} (hle : w.steady - 3 ≤ t)
    (hge : t ≤ w.steady + 3) : (FlexivAmr.punctualWithin 3).answers w .steadyNow t w :=
  ⟨⟨hle, hge⟩, rfl⟩

/-- Two readings of the clock at the same time. -/
theorem monotonic_alike :
    Alike (fun t secs => secs = asSeconds t ∧ Readable t) steadyNow monotonic := by
  refine .call (fun t secs => secs = asSeconds t ∧ Readable t) ?_ ?_ (fun _ _ _ => rfl)
    (fun _ _ _ => rfl) fun t secs ht => .ret ht
  · intro w t w' answer
    obtain ⟨rfl, rfl⟩ := steadyNow_exact answer
    exact ⟨_, ⟨rfl, HostInRange.readable w'⟩, monotonic_within (by omega) (by omega)⟩
  · intro w secs w' answer
    obtain ⟨rfl, rfl⟩ := monotonic_exact answer
    exact ⟨w'.steady, ⟨rfl, HostInRange.readable w'⟩, steadyNow_within (by omega) (by omega)⟩

/-- Two readings of the clock by which the programs decide alike, when each program decides no more
than three nanoseconds after the other. -/
theorem decision_alike {f : ℤ → Bool} {g : ℚ → Bool}
    (htrue : ∀ now, Readable now → Readable (now - 3) → f now = true →
      g (asSeconds (now - 3)) = true)
    (hfalse : ∀ now, Readable now → Readable (now + 3) → f now = false →
      g (asSeconds (now + 3)) = false) :
    Alike (fun t secs => f t = g secs) steadyNow monotonic := by
  have hreadable : ∀ (w : HostInRange) (t : ℤ), w.steady - 3 ≤ t → t ≤ w.steady + 3 →
      Readable t := by
    intro w t hle hge
    obtain ⟨hlower, hupper⟩ := w.in_range
    exact ⟨by omega, by omega⟩
  refine .call (fun t secs => f t = g secs) ?_ ?_ (fun _ _ _ => rfl) (fun _ _ _ => rfl)
    fun t secs ht => .ret ht
  · intro w t w' answer
    obtain ⟨rfl, rfl⟩ := steadyNow_exact answer
    have hnow := HostInRange.readable w'
    cases hdecision : f w'.steady with
    | true =>
      have hg := htrue _ hnow (hreadable w' _ (by omega) (by omega)) hdecision
      exact ⟨_, hg.symm, monotonic_within (by omega) (by omega)⟩
    | false =>
      have hg := hfalse _ hnow (hreadable w' _ (by omega) (by omega)) hdecision
      exact ⟨_, hg.symm, monotonic_within (by omega) (by omega)⟩
  · intro w secs w' answer
    obtain ⟨rfl, rfl⟩ := monotonic_exact answer
    have hnow := HostInRange.readable w'
    cases hdecision : g (asSeconds w'.steady) with
    | true =>
      have hf : f (w'.steady - 3) = true := by
        -- Were the C++ program to decide otherwise, so would the Python program.
        by_contra hf
        have hg := hfalse (w'.steady - 3) (hreadable w' _ (by omega) (by omega))
          (by rwa [sub_add_cancel]) (Bool.eq_false_iff.2 hf)
        rw [sub_add_cancel, hdecision] at hg
        cases hg
      exact ⟨w'.steady - 3, hf, steadyNow_within (by omega) (by omega)⟩
    | false =>
      have hf : f (w'.steady + 3) = false := by
        by_contra hf
        have hg := htrue (w'.steady + 3) (hreadable w' _ (by omega) (by omega))
          (by rwa [add_sub_cancel_right]) (Bool.eq_true_of_not_eq_false hf)
        rw [add_sub_cancel_right, hdecision] at hg
        cases hg
      exact ⟨w'.steady + 3, hf, steadyNow_within (by omega) (by omega)⟩

/-- The two readings of the system clock, in whatever unit. -/
theorem timeNs_alike : Alike (fun _ _ => True) systemNow timeNs := by
  refine .call (fun _ _ => True) ?_ ?_ (fun _ _ _ => rfl) (fun _ _ _ => rfl)
    fun now now' _ => .ret trivial
  · rintro w now w' ⟨-, rfl⟩
    exact ⟨now, trivial, trivial, rfl⟩
  · rintro w now w' ⟨-, rfl⟩
    exact ⟨now, trivial, trivial, rfl⟩

/-! ## The programs -/

/-- `BuildNavigationCommands`: the commands are the same up to their task ids, and the C++ program
can log them. -/
theorem buildNavigationCommandsLoop_alike {source_id : String} {index : ℕ}
    {target_ids : List String} {commands commands' : List SeerPathNaviCommand}
    (hcommands : commands'.map withoutTaskId = commands.map withoutTaskId)
    (hlog : ∀ command ∈ commands, Loggable command) :
    Alike (fun commands commands' => commands'.map withoutTaskId = commands.map withoutTaskId ∧
        ∀ command ∈ commands, Loggable command)
      (FlexivAmr.buildNavigationCommandsLoop source_id index target_ids commands)
      (buildNavigationCommandsLoop source_id index target_ids commands') := by
  induction target_ids generalizing source_id index commands commands' with
  | nil => exact .ret ⟨hcommands, hlog⟩
  | cons target_id target_ids ih =>
    refine (timeNs_alike.bind fun now now' _ => .ret trivial).bind (A := fun _ _ => True)
      fun task_id task_id' _ => ih ?_ ?_
    · simp [hcommands, withoutTaskId]
    · exact List.forall_mem_append.2 ⟨hlog, List.forall_mem_singleton.2 ⟨rfl, rfl, rfl⟩⟩

/-- The pause block. -/
theorem pauseBlock_alike : Alike Eq FlexivAmr.pauseBlock pauseBlock := by
  refine (client_alike .pauseNavigation).bind_same fun accepted => ?_
  cases accepted with
  | false => exact .raise trivial
  | true =>
    refine pauseDuration_alike.bind_same fun _ => ?_
    refine stopRequested_alike.bind_same fun stop => ?_
    cases stop with
    | true => exact .ret rfl
    | false =>
      refine (client_alike .resumeNavigation).bind_same fun accepted => ?_
      cases accepted with
      | false => exact .raise trivial
      | true => exact .ret rfl

/-- A pause that is due remains so. -/
theorem pauseDue_mono {pause_after_seconds : Option ℚ} {pause_exercised : Bool}
    {navigation : SeerNavigationStatus} {elapsed elapsed' : ℚ} (hle : elapsed ≤ elapsed')
    (hdue : pauseDue pause_after_seconds pause_exercised navigation elapsed = true) :
    pauseDue pause_after_seconds pause_exercised navigation elapsed' = true := by
  unfold pauseDue at hdue ⊢
  rw [Bool.and_eq_true] at hdue ⊢
  refine ⟨hdue.1, ?_⟩
  cases pause_after_seconds with
  | none => cases hdue.2
  | some pause_after_seconds =>
    have hboth := hdue.2
    simp only [Option.any_some, Bool.and_eq_true, decide_eq_true_eq] at hboth ⊢
    exact ⟨hboth.1, hboth.2.trans hle⟩

/-- The two conditions of the pause block. A pause is due from some time on, so what is decided is
that it is not yet due. -/
theorem pauseDue_alike {options : ExampleOptions} {pause_exercised : Bool}
    {navigation : SeerNavigationStatus} {start : ℤ} (hstart : Readable start) :
    Alike (fun now secs =>
        (!FlexivAmr.pauseDue options pause_exercised navigation (seconds (now - start))) =
          !pauseDue options.pause_after_seconds pause_exercised navigation
            (double (secs - asSeconds start))) steadyNow monotonic := by
  refine decision_alike (fun now hnow hnow' hdue => ?_) fun now hnow hnow' hdue => ?_
  · rw [Bool.not_eq_true'] at hdue ⊢
    by_contra hdue'
    have hcpp := pauseDue_mono (elapsed_le_seconds hstart hnow hnow') (Bool.eq_true_of_not_eq_false hdue')
    exact Bool.false_ne_true (hdue.symm.trans hcpp)
  · rw [Bool.not_eq_false'] at hdue ⊢
    exact pauseDue_mono (seconds_le_elapsed hstart hnow hnow') hdue

/-- A round of `WaitForNavigation`. -/
theorem waitForNavigationRound_alike {options : ExampleOptions} {start : ℤ}
    {pause_exercised : Bool} (hstart : Readable start) :
    Alike (Sum.LiftRel Eq Eq)
      (FlexivAmr.waitForNavigationRound options start pause_exercised)
      (waitForNavigationRound options.pause_after_seconds (asSeconds start) pause_exercised) := by
  refine (client_alike .getNavigationStatus).bind_same fun navigation => ?_
  refine statusRequestGap_alike.bind_same fun _ => ?_
  refine stopRequested_alike.bind_same fun stop => ?_
  cases stop with
  | true => exact .ret (.inl rfl)
  | false =>
    refine (client_alike .getTaskStatus).bind_same fun task => ?_
    simp only [bind_eq, pure_eq, navigationCompleted, navigationFailed, navigationCanceled,
      kNavigationCompleted, kNavigationFailed, kNavigationCanceled]
    split_ifs with hcompleted hfailed hcanceled
    · exact .ret (.inl rfl)
    · exact .ret (.inl rfl)
    · exact .ret (.inl rfl)
    have hdecision := @pauseDue_alike options pause_exercised navigation start hstart
    refine hdecision.bind fun now secs hdue => ?_
    rw [Bool.not_inj hdue]
    split_ifs with hdue
    · refine pauseBlock_alike.bind_same fun result => ?_
      cases result with
      | none =>
        refine pollInterval_alike.bind_same fun _ => ?_
        exact .ret (.inr rfl)
      | some result => exact .ret (.inl rfl)
    · refine pollInterval_alike.bind_same fun _ => ?_
      exact .ret (.inr rfl)

/-- The condition of the loop of `WaitForNavigation`. -/
theorem keepWaiting_alike {start : ℤ} {timeout_seconds : ℚ} (hstart : Readable start) :
    Alike Eq (FlexivAmr.keepWaiting (deadlineAt start timeout_seconds))
      (keepWaiting (double (asSeconds start + timeout_seconds))) := by
  refine stopRequested_alike.bind_same fun stop => ?_
  cases stop with
  | true => exact .ret rfl
  | false =>
    have hdecision : Alike (fun now secs => isBefore now (deadlineAt start timeout_seconds) =
        decide (secs < double (asSeconds start + timeout_seconds))) steadyNow monotonic := by
      refine decision_alike (fun now hnow hnow' hwaiting => ?_) fun now hnow hnow' hpassed => ?_
      · rw [decide_eq_true_eq, ← not_le]
        intro hpassed
        rw [isBefore_eq_false_of_passed hstart hnow hnow' hpassed] at hwaiting
        cases hwaiting
      · rw [decide_eq_false_iff_not, not_lt]
        exact passed_of_isBefore_eq_false hstart hnow hnow' hpassed
    exact hdecision.bind fun now secs heq => .ret heq

/-- `WaitForNavigation`. -/
theorem waitForNavigation_alike {options : ExampleOptions} :
    Alike Eq (FlexivAmr.waitForNavigation options)
      (waitForNavigation options.pause_after_seconds options.timeout_seconds) := by
  refine monotonic_alike.bind ?_
  rintro start secs ⟨rfl, hstart⟩
  refine .loop Eq rfl ?_
  rintro pause_exercised _ rfl
  refine (keepWaiting_alike hstart).bind_same fun waiting => ?_
  cases waiting with
  | true => exact waitForNavigationRound_alike hstart
  | false =>
    refine stopRequested_alike.bind_same fun stop => ?_
    cases stop with
    | true => exact .ret (.inl rfl)
    | false => exact .ret (.inl rfl)

/-- The local variables of the two `main`s at an exception. -/
def SameLocals (thrown : FlexivAmr.Thrown) (thrown' : Thrown) : Prop :=
  thrown.locals = thrown'.locals

/-- Statements of the two `try` blocks that end alike, whatever their exceptions are, and leave the
local variables as they are. -/
abbrev TryAlike {β γ : Type} (A : β → γ → Prop) (p : HostProgram FlexivAmr.Thrown β)
    (p' : NavigationProgram Thrown γ) : Prop :=
  Equivalent pythonMatches cppMatches A SameLocals p p'

/-- A statement of the `try` blocks. -/
theorem during_alike {β γ : Type} {A : β → γ → Prop} {p : HostProgram StdException β}
    {p' : NavigationProgram PyException γ} {v : Locals} (hp : Alike A p p') :
    TryAlike A (v.during p) (during v p') :=
  hp.mapError fun _ _ _ => rfl

/-- The start of the navigation. -/
theorem startNavigation_alike {v : Locals} {commands commands' : List SeerPathNaviCommand}
    (hcommands : commands'.map withoutTaskId = commands.map withoutTaskId)
    (hlog : ∀ command ∈ commands, Loggable command) :
    TryAlike Eq (FlexivAmr.startNavigation v commands) (startNavigation v commands') := by
  have hrefused : ∀ accepted e e', TryAlike Eq
      (if (!accepted) = true then .raise ⟨e, v⟩ else .ret () : HostProgram FlexivAmr.Thrown Unit)
      (if (!accepted) = true then .raise ⟨e', v⟩ else .ret ()) := by
    intro accepted e e'
    cases accepted with
    | false => exact .raise rfl
    | true => exact .ret rfl
  have hfixed : ∀ command command', withoutTaskId command' = withoutTaskId command →
      Loggable command → TryAlike Eq (do
        v.during (logCommand command)
        if !(← v.during (FlexivAmr.client (.executeFixedPathNavigation command))) then
          v.throw (.runtime_error "SEER AMR rejected fixed path navigation"))
      (do
        if !(← during v (client (.executeFixedPathNavigation command'))) then
          raiseError v "SEER AMR rejected fixed path navigation") := by
    intro command command' hcommand hlog
    rw [logCommand_eq hlog]
    have hrequest := during_alike (v := v) (executeFixedPathNavigation_alike hcommand)
    refine hrequest.bind_same fun accepted => ?_
    exact hrefused accepted _ _
  have hspecified : TryAlike Eq (do
        v.during (logCommands commands)
        if !(← v.during (FlexivAmr.client (.executeSpecifiedPathNavigation commands))) then
          v.throw (.runtime_error "SEER AMR rejected specified path navigation"))
      (do
        if !(← during v (client (.executeSpecifiedPathNavigation commands'))) then
          raiseError v "SEER AMR rejected specified path navigation") := by
    rw [logCommands_eq hlog]
    have hrequest := during_alike (v := v) (executeSpecifiedPathNavigation_alike hcommands)
    refine hrequest.bind_same fun accepted => ?_
    exact hrefused accepted _ _
  -- As many commands on either side, so both programs choose the same request.
  have hlength : commands'.length = commands.length := by
    simpa using congrArg List.length hcommands
  rcases commands with _ | ⟨command, _ | ⟨command₂, commands⟩⟩
  · rw [List.length_eq_zero_iff.1 hlength] at hspecified ⊢
    exact hspecified
  · obtain ⟨command', rfl⟩ := List.length_eq_one_iff.1 hlength
    exact hfixed command command' (List.cons.inj hcommands).1 (hlog command List.mem_cons_self)
  · rcases commands' with _ | ⟨command', _ | ⟨command₂', commands'⟩⟩
    · cases hlength
    · cases hlength
    · exact hspecified

/-- The `try` block of `main`. -/
theorem navigate_alike {options : ExampleOptions} :
    TryAlike Eq (FlexivAmr.navigate options) (navigate options) := by
  refine (during_alike (client_alike .connect)).bind_same fun _ => ?_
  refine (during_alike (client_alike .isConnected)).bind_same fun connected => ?_
  refine (during_alike (client_alike .getEmergencyStatus)).bind_same fun emergency => ?_
  cases hemergency : (emergency.emergency || emergency.driver_emc || emergency.soft_emc) with
  | true => exact .raise rfl
  | false =>
    refine (during_alike statusRequestGap_alike).bind_same fun _ => ?_
    refine (during_alike (client_alike .getBlockStatus)).bind_same fun block => ?_
    refine (during_alike stopRequested_alike).bind_same fun stop => ?_
    cases stop with
    | true => exact .raise rfl
    | false =>
      refine (during_alike (buildNavigationCommandsLoop_alike rfl
        fun _ h => absurd h List.not_mem_nil)).bind ?_
      rintro commands commands' ⟨hcommands, hlog⟩
      refine (startNavigation_alike hcommands hlog).bind_same fun _ => ?_
      refine (during_alike statusRequestGap_alike).bind_same fun _ => ?_
      refine (during_alike waitForNavigation_alike).bind_same fun result => ?_
      -- The mark that `WaitForNavigation` has returned is not seen.
      refine .hidden () ?_ (fun w => ⟨trivial, rfl⟩) (fun _ => rfl) rfl fun _ => .ret rfl
      rintro w a w' ⟨-, rfl⟩
      exact rfl

/-- The cleanups. -/
theorem cleanup_alike {v : Locals} : Alike Eq (FlexivAmr.cleanup v) (cleanup v) := by
  obtain ⟨connected, navigation_active, exit_code⟩ := v
  cases navigation_active with
  | true =>
    cases connected with
    | true =>
      exact (client_alike .cancelNavigation).attempt.bind fun _ _ _ =>
        (client_alike .disconnect).attempt.bind fun _ _ _ => .ret rfl
    | false => exact (client_alike .cancelNavigation).attempt.bind fun _ _ _ => .ret rfl
  | false =>
    cases connected with
    | true => exact (client_alike .disconnect).attempt.bind fun _ _ _ => .ret rfl
    | false => exact .ret rfl

/-- `main` from the construction of the client on. -/
theorem main_alike {options : ExampleOptions} : Alike Eq (runNavigation options) (main options) := by
  refine (client_alike _).bind_same fun _ => ?_
  refine navigate_alike.attempt.bind fun r r' hr => ?_
  cases hr with
  | ok hv =>
    rw [hv]
    exact cleanup_alike
  | @error thrown thrown' hlocals =>
    change Alike Eq (FlexivAmr.cleanup thrown.locals) (cleanup thrown'.locals)
    rw [show thrown.locals = thrown'.locals from hlocals]
    exact cleanup_alike

/-- The C++ program, from the construction of the client on, may run from the world `w` to the world
`w'` with these requests and replies and this exit code, on a host that is punctual within `slack`
nanoseconds. Without an exit code, an exception leaves it. -/
def CppRuns (slack : ℤ) (options : ExampleOptions) (w w' : HostInRange) (requests : List Seen)
    (exit_code : Option ℤ) : Prop :=
  ∃ r h, Steps (FlexivAmr.punctualWithin slack) ⟨runNavigation options, w, []⟩ ⟨.ended r, w', h⟩ ∧
    h.filterMap observeCpp = requests ∧ Except.toOption r = exit_code

/-- The Python program may run so. -/
def PythonRuns (slack : ℤ) (options : ExampleOptions) (w w' : HostInRange) (requests : List Seen)
    (exit_code : Option ℤ) : Prop :=
  ∃ r h, Steps (punctualWithin Request.Reply slack) ⟨main options, w, []⟩ ⟨.ended r, w', h⟩ ∧
    h.filterMap observePython = requests ∧ Except.toOption r = exit_code

/-- The two navigation programs have the same runs: each run of the one, on a punctual host, is a run
of the other, on a host that is punctual within three nanoseconds. -/
theorem navigation_equivalent (options : ExampleOptions) (w w' : HostInRange)
    (requests : List Seen) (exit_code : Option ℤ) :
    (CppRuns 0 options w w' requests exit_code → PythonRuns 3 options w w' requests exit_code) ∧
      (PythonRuns 0 options w w' requests exit_code →
        CppRuns 3 options w w' requests exit_code) := by
  constructor
  · rintro ⟨r, h, hrun, rfl, rfl⟩
    obtain ⟨r', h', hrun', hr, hobs⟩ := main_alike.refines.exists_steps hrun
    refine ⟨r', h', hrun', hobs, ?_⟩
    cases hr with
    | ok hcode => exact congrArg some hcode.symm
    | error => rfl
  · rintro ⟨r, h, hrun, rfl, rfl⟩
    obtain ⟨r', h', hrun', hr, hobs⟩ := main_alike.refined.exists_steps hrun
    refine ⟨r', h', hrun', hobs, ?_⟩
    cases hr with
    | ok hcode => exact congrArg some hcode
    | error => rfl

/-- A host in range, with the stop flag not set. -/
def calmHost : HostInRange := ⟨⟨false, 0⟩, by decide⟩

/-- One target, and no pause. -/
def oneTargetOptions : ExampleOptions :=
  { amr_ip := "192.168.192.5", source_id := "LM1", target_ids := ["LM2"] }

/-- The two programs, when the connection fails. -/
theorem navigation_equivalent_failedConnect :
    ∃ requests, requests.length = 2 ∧
      CppRuns 0 oneTargetOptions calmHost calmHost requests (some 1) ∧
      PythonRuns 3 oneTargetOptions calmHost calmHost requests (some 1) := by
  have hrun : CanEnd (FlexivAmr.punctualWithin 0) (runNavigation oneTargetOptions)
      (fun r w h => r = .ok 1 ∧ w = calmHost ∧ (h.filterMap observeCpp).length = 2)
      calmHost [] := by
    refine .bind (.call (.ok ()) ⟨trivial, rfl⟩ (.ret ?_))
    refine .bind (.attempt (.bind (.mapError ?_)))
    exact .call (.error (.other "")) ⟨trivial, rfl⟩ (.raise (.ret ⟨rfl, rfl, rfl⟩))
  obtain ⟨r, w, h, hsteps, rfl, rfl, hrequests⟩ := hrun
  have hcpp : CppRuns 0 oneTargetOptions calmHost calmHost (h.filterMap observeCpp) (some 1) :=
    ⟨_, h, hsteps, rfl, rfl⟩
  exact ⟨_, hrequests, hcpp, (navigation_equivalent _ _ _ _ _).1 hcpp⟩

end FlexivAmr.Python
