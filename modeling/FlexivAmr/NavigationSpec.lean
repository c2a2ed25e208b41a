import FlexivAmr.Navigation
import FlexivAmr.Session

/-!
# The navigation program conforms to the session protocol

One theorem for each function of the program, from `sleepInterruptibly_conforms` up to
`main_conforms`: the protocol can follow the function's calls, whatever their answers are, and is
left where the function's result says. No assumption is made about the client, the clocks, or the
stop flag.

`WaitEnds` and `Tracks` are what the callers need: where `WaitForNavigation` leaves the session, and
how the local variables of `main` follow it at every exit of its `try` block.
-/

namespace FlexivAmr

open Interaction Program

variable {α β S : Type} {P : Protocol Op.Answer S} {s : S}

/-- A request to the client conforms when every outcome of it does. -/
theorem conforms_client {request : Request} {Q : Except StdException request.Reply → S → Prop} :
    Conforms P (client request) Q s ↔
      ∀ outcome : Except StdException request.Reply,
        ∃ s', P s ⟨.client request, outcome⟩ s' ∧ Q outcome s' := by
  unfold client
  simp only [conforms_call, conforms_ended]

/-- A statement of `main`'s `try` block conforms when the statement does. -/
theorem conforms_during {v : Locals} {p : HostProgram StdException α}
    {Q : Except Thrown α → S → Prop} :
    Conforms P (v.during p) Q s ↔ Conforms P p (fun r => Q (r.mapError (⟨·, v⟩))) s :=
  conforms_mapError

/-- A request in a sequence: one case in which it throws, and one in which it returns. -/
theorem conforms_client_bind {request : Request} {f : request.Reply → HostProgram StdException β}
    {Q : Except StdException β → S → Prop}
    (hthrow : ∀ e : StdException, ∃ s', P s ⟨.client request, .error e⟩ s' ∧ Q (.error e) s')
    (hreturn : ∀ reply : request.Reply,
      ∃ s', P s ⟨.client request, .ok reply⟩ s' ∧ Conforms P (f reply) Q s') :
    Conforms P ((client request).bind f) Q s := by
  rw [conforms_bind, conforms_client]
  rintro (e | reply)
  · exact hthrow e
  · exact hreturn reply

/-- A request in `main`'s `try` block: one case in which it throws, and one in which it returns. -/
theorem conforms_during_client_bind {v : Locals} {request : Request}
    {f : request.Reply → HostProgram Thrown β} {Q : Except Thrown β → S → Prop}
    (hthrow : ∀ e : StdException,
      ∃ s', P s ⟨.client request, .error e⟩ s' ∧ Q (.error ⟨e, v⟩) s')
    (hreturn : ∀ reply : request.Reply,
      ∃ s', P s ⟨.client request, .ok reply⟩ s' ∧ Conforms P (f reply) Q s') :
    Conforms P ((v.during (client request)).bind f) Q s := by
  rw [conforms_bind, conforms_during, conforms_client]
  rintro (e | reply)
  · exact hthrow e
  · exact hreturn reply

section Session

variable {pause_after_seconds : Option ℚ} {s : Session}

/-- Reading the stop flag leaves the session as it is. -/
theorem stopRequested_conforms {Q : Except StdException Bool → Session → Prop}
    (hQ : ∀ b, Q (.ok b) s) : Conforms (session pause_after_seconds) stopRequested Q s :=
  fun b => ⟨s, .quiet s, hQ b⟩

/-- Sleeping leaves the session as it is, however often it looks at the stop flag. -/
theorem sleepInterruptibly_conforms {duration : ℤ} {Q : Except StdException Unit → Session → Prop}
    (hQ : Q (.ok ()) s) :
    Conforms (session pause_after_seconds) (sleepInterruptibly duration) Q s := by
  unfold sleepInterruptibly
  refine conforms_loop (fun _ s' => s' = s) rfl ?_
  rintro remaining s' rfl
  simp only [bind_eq, pure_eq, conforms_bind]
  apply stopRequested_conforms
  intro stop
  rw [afterFirst_ok]
  split
  · exact conforms_bind.2 fun _ => ⟨s', .quiet s', rfl⟩
  · exact hQ

/-- The loop of `BuildNavigationCommands` only reads the system clock. -/
theorem buildNavigationCommandsLoop_conforms {source_id : String} {index : ℕ}
    {target_ids : List String} {commands : List SeerPathNaviCommand}
    {Q : Except StdException (List SeerPathNaviCommand) → Session → Prop}
    (hQ : ∀ commands, Q (.ok commands) s) :
    Conforms (session pause_after_seconds)
      (buildNavigationCommandsLoop source_id index target_ids commands) Q s := by
  induction target_ids generalizing source_id index commands with
  | nil => exact hQ commands
  | cons target_id target_ids ih => exact fun t => ⟨s, .quiet s, ih⟩

end Session

/-- The session waits in `WaitForNavigation`, which began at `start`. -/
structure Waiting (start : ℤ) (resumed : Bool) (s : Session) : Prop where
  at_navigating : s.At (.navigating resumed)
  start : s.start = some start

/-- Where `WaitForNavigation` leaves the session: a verdict is the last status that it has read, it
gives up with the navigation under way or paused, and an exception leaves the navigation to be
cancelled. -/
def WaitEnds : Except StdException NavigationResult → Session → Prop
  | .ok result, s =>
    (∃ resumed code, s.At (.navigating resumed) ∧ result.terminal = some code ∧
        s.status = some code) ∨
      (result.terminal = none ∧ ((∃ resumed, s.At (.navigating resumed)) ∨ s.At .paused))
  | .error _, s => s.At .abandoned

section Session

variable {options : ExampleOptions} {s : Session}

/-- The pause block of `WaitForNavigation`, in a session that has waited long enough: it leaves the
session waiting with the pause exercised, or where its result says. -/
theorem pauseBlock_conforms {start : ℤ} (hs : Waiting start false s)
    (due : s.PauseDue options.pause_after_seconds) :
    Conforms (session options.pause_after_seconds) pauseBlock (fun
      | .ok none => Waiting start true
      | .ok (some result) => WaitEnds (.ok result)
      | .error e => WaitEnds (.error e)) s := by
  unfold pauseBlock
  obtain ⟨⟨hstage, hconnected, hclosed⟩, hstart⟩ := hs
  apply conforms_client_bind
  · exact fun e => ⟨_, .pause s (.error e) ⟨hstage, hconnected, hclosed⟩ due,
      rfl, hconnected, hclosed⟩
  intro accepted
  -- The ways out: the pause is refused, a stop arrives while it is in force, the resume throws or
  -- is refused. Only the last case goes on waiting.
  refine ⟨_, .pause s (.ok accepted) ⟨hstage, hconnected, hclosed⟩ due, ?_⟩
  cases accepted with
  | false => exact ⟨rfl, hconnected, hclosed⟩
  | true =>
    refine conforms_bind.2 (sleepInterruptibly_conforms ?_)
    refine conforms_bind.2 (stopRequested_conforms fun stop => ?_)
    cases stop with
    | true => exact .inr ⟨rfl, .inr ⟨rfl, hconnected, hclosed⟩⟩
    | false =>
      apply conforms_client_bind
      · exact fun e => ⟨_, .resume _ (.error e) ⟨rfl, hconnected, hclosed⟩,
          rfl, hconnected, hclosed⟩
      intro accepted
      refine ⟨_, .resume _ (.ok accepted) ⟨rfl, hconnected, hclosed⟩, ?_⟩
      cases accepted with
      | false => exact ⟨rfl, hconnected, hclosed⟩
      | true => exact ⟨⟨rfl, hconnected, hclosed⟩, hstart⟩

/-- The condition of the pause block is the protocol's. -/
theorem pauseDue_spec {start now : ℤ} {resumed : Bool} {navigation : SeerNavigationStatus}
    (hstatus : s.status = some navigation.task_status)
    (h : pauseDue options resumed navigation (seconds (now - start)) = true) :
    resumed = false ∧
      Session.PauseDue options.pause_after_seconds
        { s with start := some start, now := some now } := by
  simp only [pauseDue, Bool.and_eq_true, Bool.not_eq_true', Option.any_eq_true, beq_iff_eq,
    decide_eq_true_eq] at h
  obtain ⟨hresumed, after, hafter, hrunning, helapsed⟩ := h
  refine ⟨hresumed, after, start, now, hafter, rfl, rfl, helapsed, ?_⟩
  rw [hstatus, hrunning, kNavigationRunning]

/-- A round of `WaitForNavigation` leaves the session waiting, or where its result says. -/
theorem waitForNavigationRound_conforms {start : ℤ} {resumed : Bool} (hs : Waiting start resumed s) :
    Conforms (session options.pause_after_seconds) (waitForNavigationRound options start resumed)
      (afterRound (fun result => WaitEnds (.ok result)) (Waiting start)
        fun e => WaitEnds (.error e)) s := by
  unfold waitForNavigationRound
  obtain ⟨⟨hstage, hconnected, hclosed⟩, hstart⟩ := hs
  apply conforms_client_bind
  · exact fun e => ⟨_, .navigationStatusFailed s resumed e ⟨hstage, hconnected, hclosed⟩,
      rfl, hconnected, hclosed⟩
  intro navigation
  refine ⟨_, .navigationStatus s resumed navigation.task_status ⟨hstage, hconnected, hclosed⟩, ?_⟩
  -- The session after the reply, which the task status request leaves as it is.
  generalize hs₁ : { s with status := some navigation.task_status } = s₁
  have hat₁ : s₁.At (.navigating resumed) := by rw [← hs₁]; exact ⟨hstage, hconnected, hclosed⟩
  have hstart₁ : s₁.start = some start := by rw [← hs₁]; exact hstart
  have hstatus₁ : s₁.status = some navigation.task_status := by rw [← hs₁]
  refine conforms_bind.2 (sleepInterruptibly_conforms ?_)
  refine conforms_bind.2 (stopRequested_conforms fun stop => ?_)
  cases stop with
  | true => exact .inr ⟨rfl, .inl ⟨resumed, hat₁⟩⟩
  | false =>
    apply conforms_client_bind
    · exact fun e => ⟨_, .taskStatusFailed s₁ resumed e hat₁, rfl, hat₁.connected, hat₁.closed⟩
    intro task
    refine ⟨_, .taskStatus s₁ resumed hat₁, ?_⟩
    simp only [bind_eq, pure_eq]
    -- A verdict is the status that was just read.
    split_ifs with hcompleted hfailed hcanceled
    · exact .inl ⟨resumed, 4, hat₁, rfl, by rw [hstatus₁, hcompleted, kNavigationCompleted]⟩
    · exact .inl ⟨resumed, 5, hat₁, rfl, by rw [hstatus₁, hfailed, kNavigationFailed]⟩
    · exact .inl ⟨resumed, 6, hat₁, rfl, by rw [hstatus₁, hcanceled, kNavigationCanceled]⟩
    refine conforms_bind.2 fun now => ⟨_, .clock s₁ resumed now hat₁, ?_⟩
    rw [hstart₁]
    have hat₂ : Waiting start resumed { s₁ with start := some start, now := some now } :=
      ⟨⟨hat₁.stage, hat₁.connected, hat₁.closed⟩, rfl⟩
    rw [Option.getD_some, conforms_ret, afterFirst_ok]
    split_ifs with hdue
    · obtain ⟨rfl, due⟩ := pauseDue_spec hstatus₁ hdue
      refine conforms_bind.2 ((pauseBlock_conforms hat₂ due).mono ?_)
      rintro (e | _ | result) s₃ hs₃
      · exact hs₃
      · exact conforms_bind.2 (sleepInterruptibly_conforms hs₃)
      · exact hs₃
    · exact conforms_bind.2 (sleepInterruptibly_conforms hat₂)

/-- The condition of the loop of `WaitForNavigation` leaves the session waiting. -/
theorem keepWaiting_conforms {start : ℤ} {resumed : Bool} {deadline : ℚ}
    {Q : Except StdException Bool → Session → Prop} (hs : Waiting start resumed s)
    (hQ : ∀ b s', Waiting start resumed s' → Q (.ok b) s') :
    Conforms (session options.pause_after_seconds) (keepWaiting deadline) Q s := by
  unfold keepWaiting
  refine conforms_bind.2 (stopRequested_conforms fun stop => ?_)
  cases stop with
  | true => exact hQ false s hs
  | false =>
    refine conforms_bind.2 fun now => ⟨_, .clock s resumed now hs.at_navigating, hQ _ _ ?_⟩
    obtain ⟨⟨hstage, hconnected, hclosed⟩, hstart⟩ := hs
    exact ⟨⟨hstage, hconnected, hclosed⟩, by rw [hstart, Option.getD_some]⟩

/-- `WaitForNavigation`, from a session that has just started its navigation. -/
theorem waitForNavigation_conforms (hs : s.At (.navigating false)) (hstart : s.start = none) :
    Conforms (session options.pause_after_seconds) (waitForNavigation options) WaitEnds s := by
  unfold waitForNavigation
  refine conforms_bind.2 fun start => ⟨_, .clock s false start hs, ?_⟩
  -- The invariant of the loop: the value of `pause_exercised` is the session's own record of it.
  refine conforms_loop (Waiting start) ⟨⟨hs.stage, hs.connected, hs.closed⟩, by rw [hstart]; rfl⟩ ?_
  intro resumed s hs
  refine conforms_bind.2 (keepWaiting_conforms hs fun waiting s hs => ?_)
  cases waiting with
  | true => exact waitForNavigationRound_conforms hs
  | false =>
    refine conforms_bind.2 (stopRequested_conforms fun stop => ?_)
    cases stop with
    | true => exact .inr ⟨rfl, .inl ⟨resumed, hs.at_navigating⟩⟩
    | false => exact .inr ⟨rfl, .inl ⟨resumed, hs.at_navigating⟩⟩

end Session

/-- The local variables of `main` follow the session, when its `try` block has been left: the
navigation is in the session's charge exactly when it still owes a cancel. -/
structure Locals.Tracks (v : Locals) (s : Session) : Prop where
  connected : v.connected = s.connected
  closed : s.closed = false
  active : v.navigation_active = decide (s.stage = .abandoned)
  stage : s.At .abandoned ∨ s.stage.isIdle = true
  exit_code : v.exit_code = if s.stage = .settled .kCompleted then 0 else 1

/-- Where the `try` block of `main` leaves the session, at every exit. -/
def NavigateEnds : Except Thrown Locals → Session → Prop
  | .ok v => v.Tracks
  | .error thrown => thrown.locals.Tracks

/-- The session that `main` leaves, when it returns `code`. -/
structure Session.Ended (s : Session) (code : ℤ) : Prop where
  idle : s.stage.isIdle = true
  closed : s.closed = s.connected
  exit_code : code = if s.stage = .settled .kCompleted then 0 else 1

/-- Where `main` leaves the session: as a session that has ended, or untouched when the command line
has no navigation in it, or when the client's constructor throws. -/
def MainEnds : Except StdException ℤ → Session → Prop
  | .ok code, s => s.Ended code ∨ s = {}
  | .error _, s => s = {}

section Session

variable {options : ExampleOptions} {pause_after_seconds : Option ℚ} {s : Session} {v : Locals}

/-- The log lines make no call. They throw when a field that they read is empty. -/
theorem logCommand_conforms {command : SeerPathNaviCommand}
    {Q : Except StdException Unit → Session → Prop} (hQ : ∀ r, Q r s) :
    Conforms (session pause_after_seconds) (logCommand command) Q s := by
  obtain ⟨source_id, id, task_id⟩ := command
  unfold logCommand
  cases source_id with
  | none => exact hQ _
  | some source_id =>
    cases id with
    | none => exact hQ _
    | some id => cases task_id <;> exact hQ _

/-- The log lines of a list of commands make no call. -/
theorem logCommands_conforms {commands : List SeerPathNaviCommand}
    {Q : Except StdException Unit → Session → Prop} (hQ : ∀ r, Q r s) :
    Conforms (session pause_after_seconds) (logCommands commands) Q s := by
  induction commands with
  | nil => exact hQ _
  | cons command commands ih =>
    refine conforms_bind.2 (logCommand_conforms ?_)
    rintro (e | _)
    · exact hQ _
    · exact ih

/-- The local variables before a start request, and after one that was not accepted. -/
theorem tracks_of_at {stage : Stage} {e : StdException} (hs : s.At stage)
    (hidle : stage.isIdle = true) (hstage : stage ≠ .settled .kCompleted) :
    NavigateEnds (.error ⟨e, { connected := true }⟩) s where
  connected := hs.connected.symm
  closed := hs.closed
  active := by
    rw [hs.stage]
    cases stage <;> first | rfl | exact Bool.noConfusion hidle
  stage := .inr (by rw [hs.stage, hidle])
  exit_code := by rw [hs.stage, if_neg hstage]

/-- The local variables when the navigation is in the session's charge and the session gives it
up. -/
theorem tracks_of_abandoned (hs : s.At .abandoned) :
    ({ connected := true, navigation_active := true } : Locals).Tracks s where
  connected := hs.connected.symm
  closed := hs.closed
  active := by rw [hs.stage]; rfl
  stage := .inl hs
  exit_code := by rw [hs.stage]; rfl

/-- A statement of the `try` block that leaves the session as it is. -/
theorem during_bind_conforms {p : HostProgram StdException α} {f : α → HostProgram Thrown β}
    {Q : Except Thrown β → Session → Prop}
    (hp : Conforms (session pause_after_seconds) p (fun _ s' => s' = s) s)
    (herror : ∀ e, Q (.error ⟨e, v⟩) s)
    (hok : ∀ a, Conforms (session pause_after_seconds) (f a) Q s) :
    Conforms (session pause_after_seconds) ((v.during p).bind f) Q s := by
  refine conforms_bind.2 (conforms_during.2 (hp.mono ?_))
  rintro (e | a) s' rfl
  · exact herror e
  · exact hok a

/-- The start request of `main`, whichever of the two it is: the session navigates when it is
accepted, and else the `try` block is left with no navigation in the session's charge. -/
theorem startRequest_conforms {request : HostProgram StdException Bool} {message : String}
    (hs : s.At .preparing) {Q : Except Thrown Unit → Session → Prop}
    (hrequest : ∀ R : Except StdException Bool → Session → Prop,
      (∀ outcome, R outcome { s with stage := .afterStart outcome }) →
        Conforms (session pause_after_seconds) request R s)
    (hok : ∀ s' : Session, s'.At (.navigating false) → s'.start = s.start → Q (.ok ()) s')
    (herror : ∀ thrown s', NavigateEnds (.error thrown) s' → Q (.error thrown) s') :
    Conforms (session pause_after_seconds)
      ((({ connected := true } : Locals).during request).bind fun accepted =>
        if (!accepted) = true then
          Locals.throw { connected := true } (.runtime_error message)
        else
          .ret ()) Q s := by
  refine conforms_bind.2 (conforms_during.2 (hrequest _ ?_))
  -- `navigation_active` is still unset when the request throws, so an exception leaves the session
  -- in the same place whether or not the AMR has accepted.
  rintro (e | _ | _)
  · exact herror _ _ (tracks_of_at ⟨rfl, hs.connected, hs.closed⟩ rfl nofun)
  · exact herror _ _ (tracks_of_at ⟨rfl, hs.connected, hs.closed⟩ rfl nofun)
  · exact hok _ ⟨rfl, hs.connected, hs.closed⟩ rfl

/-- The start of the navigation: the log lines may throw, and the request may be refused or
throw. -/
theorem startNavigation_conforms {commands : List SeerPathNaviCommand} (hs : s.At .preparing)
    {Q : Except Thrown Unit → Session → Prop}
    (hok : ∀ s' : Session, s'.At (.navigating false) → s'.start = s.start → Q (.ok ()) s')
    (herror : ∀ thrown s', NavigateEnds (.error thrown) s' → Q (.error thrown) s') :
    Conforms (session pause_after_seconds) (startNavigation { connected := true } commands) Q s := by
  have hlog : ∀ e, Q (.error ⟨e, { connected := true }⟩) s :=
    fun e => herror _ _ (tracks_of_at hs rfl nofun)
  unfold startNavigation
  split
  · refine during_bind_conforms (logCommand_conforms fun _ => rfl) hlog fun _ => ?_
    refine startRequest_conforms hs (fun R hR => conforms_client.2 fun outcome => ?_) hok herror
    exact ⟨_, .start s outcome hs, hR outcome⟩
  · refine during_bind_conforms (logCommands_conforms fun _ => rfl) hlog fun _ => ?_
    refine startRequest_conforms hs (fun R hR => conforms_client.2 fun outcome => ?_) hok herror
    exact ⟨_, .start s outcome hs, hR outcome⟩

/-- The return of `WaitForNavigation`, and the assignments of `main` that follow it: a verdict
settles the session, and anything else leaves the navigation to be cancelled. -/
theorem returned_conforms {result : NavigationResult} (hs : WaitEnds (.ok result) s) :
    Conforms (session pause_after_seconds)
      ((v.during (perform (Op.returned result))).bind fun _ =>
        .ret (Locals.afterWait { connected := true, navigation_active := true } result))
      NavigateEnds s := by
  refine conforms_bind.2 (conforms_during.2 fun _ => ?_)
  rcases hs with ⟨resumed, code, hat, hverdict, hstatus⟩ | ⟨hverdict, hat⟩
  · refine ⟨_, .settle s resumed result code hat hstatus hverdict, ?_⟩
    cases result with
    | kCompleted => exact ⟨hat.connected.symm, hat.closed, rfl, .inr rfl, rfl⟩
    | kFailed => exact ⟨hat.connected.symm, hat.closed, rfl, .inr rfl, rfl⟩
    | kCanceled => exact ⟨hat.connected.symm, hat.closed, rfl, .inr rfl, rfl⟩
    | kInterrupted => cases hverdict
    | kTimedOut => cases hverdict
  · obtain ⟨stage, hwaiting, -, -, -⟩ := Session.exists_stage_of_waiting hat
    have habandoned : ({ s with stage := .abandoned } : Session).At .abandoned :=
      ⟨rfl, hwaiting.connected, hwaiting.closed⟩
    refine ⟨_, .giveUp s result hat hverdict, ?_⟩
    cases result with
    | kCompleted => cases hverdict
    | kFailed => cases hverdict
    | kCanceled => cases hverdict
    | kInterrupted => exact tracks_of_abandoned habandoned
    | kTimedOut => exact tracks_of_abandoned habandoned

/-- The `try` block of `main` once the start request is accepted. -/
theorem monitorNavigation_conforms (hs : s.At (.navigating false)) (hstart : s.start = none) :
    Conforms (session options.pause_after_seconds)
      (monitorNavigation { connected := true } options) NavigateEnds s := by
  unfold monitorNavigation
  refine conforms_bind.2 (conforms_during.2 (sleepInterruptibly_conforms ?_))
  refine conforms_bind.2 (conforms_during.2 ?_)
  refine (waitForNavigation_conforms hs hstart).mono ?_
  rintro (e | result) s' hs'
  · exact tracks_of_abandoned hs'
  · exact returned_conforms hs'

/-- The `try` block of `main`. -/
theorem navigate_conforms (hs : s = {}) :
    Conforms (session options.pause_after_seconds) (navigate options) NavigateEnds s := by
  unfold navigate
  apply conforms_during_client_bind
  · intro e
    refine ⟨_, .connectFailed s e hs, ?_⟩
    subst hs
    exact ⟨rfl, rfl, rfl, .inr rfl, rfl⟩
  intro _
  refine ⟨_, .connect s hs, ?_⟩
  have hat : ({ s with connected := true } : Session).At .preparing := by
    subst hs
    exact ⟨rfl, rfl, rfl⟩
  have hstart : ({ s with connected := true } : Session).start = none := by rw [hs]
  -- From here to the start request the session stays as it is, so every exception leaves the
  -- local variables in step with it.
  generalize ({ s with connected := true } : Session) = s at hat hstart
  have hthrow : ∀ e, NavigateEnds (.error ⟨e, { connected := true }⟩) s :=
    fun e => tracks_of_at hat rfl nofun
  apply conforms_during_client_bind
  · exact fun e => ⟨s, .inspect s hat, hthrow e⟩
  refine fun _ => ⟨s, .inspect s hat, ?_⟩
  apply conforms_during_client_bind
  · exact fun e => ⟨s, .inspect s hat, hthrow e⟩
  refine fun emergency => ⟨s, .inspect s hat, ?_⟩
  simp only [bind_eq]
  split_ifs with hemergency
  · exact hthrow _
  refine during_bind_conforms (sleepInterruptibly_conforms rfl) hthrow fun _ => ?_
  apply conforms_during_client_bind
  · exact fun e => ⟨s, .inspect s hat, hthrow e⟩
  refine fun _ => ⟨s, .inspect s hat, ?_⟩
  refine during_bind_conforms (stopRequested_conforms fun _ => rfl) hthrow fun stop => ?_
  split_ifs with hstop
  · exact hthrow _
  refine during_bind_conforms (buildNavigationCommandsLoop_conforms fun _ => rfl) hthrow
    fun commands => ?_
  refine conforms_bind.2 (startNavigation_conforms hat ?_ fun thrown s' hends => hends)
  exact fun s hat hs => monitorNavigation_conforms hat (hs.trans hstart)

/-- The end of the cleanup of `main`, once no cancel is owed: it closes the connection that was
opened. -/
theorem disconnect_conforms (hconnected : v.connected = s.connected) (hclosed : s.closed = false)
    (hidle : s.stage.isIdle = true)
    (hexit : v.exit_code = if s.stage = .settled .kCompleted then 0 else 1) :
    Conforms (session pause_after_seconds)
      (if v.connected = true then (client .disconnect).attempt.bind fun _ => .ret v.exit_code
        else .ret v.exit_code) MainEnds s := by
  split_ifs with hc
  · rw [hc] at hconnected
    refine conforms_bind.2 (conforms_attempt.2 (conforms_client.2 fun outcome => ?_))
    exact ⟨_, .disconnect s outcome ⟨rfl, hconnected.symm, hclosed⟩ hidle,
      .inl ⟨hidle, hconnected, hexit⟩⟩
  · rw [Bool.not_eq_true] at hc
    exact .inl ⟨hidle, by rw [hclosed, ← hconnected, hc], hexit⟩

/-- The cleanup of `main` pays the cancel that is owed and closes the connection that was opened,
whatever comes of either. -/
theorem cleanup_conforms (hv : v.Tracks s) :
    Conforms (session pause_after_seconds) (cleanup v) MainEnds s := by
  obtain ⟨hconnected, hclosed, hactive, hstage, hexit⟩ := hv
  unfold cleanup
  simp only [bind_eq, pure_eq]
  by_cases ha : v.navigation_active = true
  · -- The session owes a cancel, and pays it whatever the request's outcome is.
    rw [if_pos ha]
    rw [ha, eq_comm, decide_eq_true_eq] at hactive
    have hat : s.At .abandoned := by
      rcases hstage with hat | hidle
      · exact hat
      · rw [hactive] at hidle
        exact Bool.noConfusion hidle
    refine conforms_bind.2 (conforms_attempt.2 (conforms_client.2 fun outcome => ?_))
    refine ⟨_, .cancel s outcome hat, ?_⟩
    rw [afterFirst_ok]
    refine disconnect_conforms hconnected hclosed rfl ?_
    rw [hexit, hactive]
    rfl
  · rw [if_neg ha]
    have hidle : s.stage.isIdle = true := by
      rcases hstage with hat | hidle
      · exact absurd (by rw [hactive, hat.stage]; rfl) ha
      · exact hidle
    exact disconnect_conforms hconnected hclosed hidle hexit

/-- `main` from the construction of the client on. -/
theorem runNavigation_conforms :
    Conforms (session options.pause_after_seconds) (runNavigation options) MainEnds {} := by
  unfold runNavigation
  apply conforms_client_bind
  · exact fun e => ⟨_, .construct {} _ rfl, rfl⟩
  refine fun _ => ⟨_, .construct {} _ rfl, ?_⟩
  refine conforms_bind.2 (conforms_attempt.2 ((navigate_conforms rfl).mono ?_))
  rintro (thrown | v) s hends
  · exact cleanup_conforms hends
  · exact cleanup_conforms hends

end Session

/-- `pause_after_seconds` as the command line sets it. -/
def pauseAfter (stod : Stod) (argv : List String) : Option ℚ :=
  (parseOptions stod argv).toOption.bind ExampleOptions.pause_after_seconds

/-- `main` conforms to the protocol of a session with the pause that its command line asks for. -/
theorem main_conforms (stod : Stod) (argv : List String) :
    Conforms (session (pauseAfter stod argv)) (main stod argv) MainEnds {} := by
  unfold main pauseAfter
  split_ifs with hhelp
  · exact .inr rfl
  · cases parseOptions stod argv with
    | error e => exact .inr rfl
    | ok options => exact runNavigation_conforms

/-- What the steps of a session preserve, together with the world and with the transcript, holds at
every point of every run of `main`. -/
theorem main_invariant {W : Type} {E : Environment Op.Answer W} {stod : Stod} {argv : List String}
    {w : W} {c : Config Op.Answer StdException W ℤ} {Inv : Session → W → List Action → Prop}
    (hinit : Inv {} w [])
    (hevent : ∀ s w l op a w' s', Inv s w l →
      Session.Step (pauseAfter stod argv) s (action ⟨op, a⟩) s' → E.answers w op a w' →
      Inv s' w' (l ++ (action ⟨op, a⟩).entries))
    (hmove : ∀ s w l w', Inv s w l → E.moves w w' → Inv s w' l)
    (hrun : Steps E ⟨main stod argv, w, []⟩ c) :
    ∃ s, Inv s c.world (transcript c.history) ∧
      Conforms (session (pauseAfter stod argv)) c.program MainEnds s := by
  refine Conforms.invariant (J := fun s w h => Inv s w (transcript h)) ?_ ?_ hrun
    (main_conforms stod argv) hinit
  · intro s w h op a w' s' hInv hP answer
    rw [transcript_append]
    exact hevent s w _ op a w' s' hInv hP answer
  · exact fun s w h w' hInv hw => hmove s w _ w' hInv hw

/-- What the steps of a session preserve together with its transcript holds at every point of every
run of `main`, in any environment. -/
theorem main_session_invariant {W : Type} {E : Environment Op.Answer W} {stod : Stod}
    {argv : List String} {w : W} {c : Config Op.Answer StdException W ℤ}
    {Inv : Session → List Action → Prop} (hinit : Inv {} [])
    (hstep : ∀ s l a s', Inv s l → Session.Step (pauseAfter stod argv) s a s' → Inv s' (l ++ [a]))
    (hrun : Steps E ⟨main stod argv, w, []⟩ c) :
    ∃ s, Inv s (transcript c.history) ∧
      Conforms (session (pauseAfter stod argv)) c.program MainEnds s := by
  refine @main_invariant W E stod argv w c (fun s _ l => Inv s l) hinit ?_
    (fun _ _ _ _ hInv _ => hInv) hrun
  intro s _ l op a _ s' hInv hs _
  by_cases hquiet : action ⟨op, a⟩ = .quiet
  · rw [hquiet] at hs ⊢
    rw [hs.eq_of_quiet, Action.entries, List.append_nil]
    exact hInv
  · rw [Action.entries_of_ne_quiet hquiet]
    exact hstep s l _ s' hInv hs

end FlexivAmr
