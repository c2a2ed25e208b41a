import FlexivAmr.NavigationSpec
import FlexivAmr.Runs
import FlexivAmr.Interaction.History

/-!
# Pausing and resuming

`PauseLaw` is the discipline of the pause block of `WaitForNavigation`: one pause at most, under its
guard, and one resume at most, right after a pause that was accepted. `CancelFollows` is what a run
owes for a pause that it does not resume. `PauseInv` carries both along a session, together with
what each stage knows of the pauses before it (`PauseKnown`).
-/

namespace FlexivAmr

open Interaction

def Action.isPauseOrResume (a : Action) : Bool := a.isPause || a.isResume

/-- The guard of a pause after the actions `earlier`: a pause is asked for, the clock has advanced
far enough between its first reading, at the start of `WaitForNavigation`, and its last, and the
last status that was read is 2. The clock counts nanoseconds, and the seconds are a `double`. -/
def PauseGuard (pause_after_seconds : Option ℚ) (earlier : List Action) : Prop :=
  ∃ seconds start now, pause_after_seconds = some seconds ∧
    (earlier.filterMap Action.reading).head? = some start ∧
    (earlier.filterMap Action.reading).getLast? = some now ∧
    seconds ≤ double (double (now - start : ℤ) / 1000000000) ∧
    (earlier.filterMap Action.statusCode).getLast? = some 2

/-- A pause was requested, and no resume has returned `true`. -/
def Unresumed (l : List Action) : Prop := (∃ a ∈ l, a.isPause = true) ∧ .resume (.ok true) ∉ l

/-- The first request after the last pause or resume is a cancel. -/
def CancelFollows (l : List Action) : Prop :=
  ∃ earlier last outcome later,
    l.filter Action.isRequest = earlier ++ last :: .cancel outcome :: later ∧
    last.isPauseOrResume = true ∧ ∀ a ∈ later, a.isPauseOrResume = false

/-- The discipline of pausing and resuming. -/
structure PauseLaw (pause_after_seconds : Option ℚ) (l : List Action) : Prop where
  pauses : l.countP Action.isPause ≤ 1
  pause_guard : Always (fun earlier a => a.isPause = true → PauseGuard pause_after_seconds earlier) l
  resumes : l.countP Action.isResume ≤ 1
  /-- A resume follows a pause that returned `true`, with no request in between. -/
  resume_guard : Always (fun earlier a => a.isResume = true →
    (earlier.filter Action.isRequest).getLast? = some (.pause (.ok true))) l
  /-- No `Disconnect` leaves behind a pause that is neither resumed nor cancelled. -/
  disconnect_guard : Always (fun earlier a => a.isDisconnect = true → Unresumed earlier →
    ∃ b ∈ earlier, b.isCancel = true) l

/-- What a stage knows of the pauses and resumes before it. -/
def PauseKnown (l : List Action) : Stage → Prop
  | .preparing | .refused | .unanswered _ | .navigating false => ∀ a ∈ l, a.isPauseOrResume = false
  | .paused => (l.filter Action.isRequest).getLast? = some (.pause (.ok true)) ∧
      ∀ a ∈ l, a.isResume = false
  | .navigating true => .resume (.ok true) ∈ l
  | .abandoned => Unresumed l → ∃ last, (l.filter Action.isRequest).getLast? = some last ∧
      last.isPauseOrResume = true
  | .settled _ => ¬Unresumed l
  | .canceled => Unresumed l → CancelFollows l

/-- The transcript of a run, as the session remembers it. -/
structure PauseInv (pause_after_seconds : Option ℚ) (s : Session) (l : List Action) : Prop where
  start : (l.filterMap Action.reading).head? = s.start
  now : (l.filterMap Action.reading).getLast? = s.now
  status : (l.filterMap Action.statusCode).getLast? = s.status
  law : PauseLaw pause_after_seconds l
  known : PauseKnown l s.stage

variable {pause_after_seconds : Option ℚ} {s s' : Session} {l : List Action} {a : Action}
  {stage : Stage}

/-- A request is the last one of a transcript that it ends. -/
theorem lastRequest_append (ha : a.isRequest = true) :
    ((l ++ [a]).filter Action.isRequest).getLast? = some a := by
  rw [filter_append_of_pos ha, List.getLast?_append, List.getLast?_singleton, Option.some_or]

/-- A transcript with no pause has none to resume. -/
theorem not_unresumed (h : ∀ a ∈ l, a.isPauseOrResume = false) : ¬Unresumed l := by
  rintro ⟨⟨a, ha, hpause⟩, -⟩
  have hnone := h a ha
  rw [Action.isPauseOrResume, hpause, Bool.true_or] at hnone
  cases hnone

/-- An action that is no pause leaves nothing more to resume. -/
theorem unresumed_of_append (ha : a.isPauseOrResume = false) (h : Unresumed (l ++ [a])) :
    Unresumed l := by
  obtain ⟨⟨b, hb, hpause⟩, hresume⟩ := h
  refine ⟨⟨b, ?_, hpause⟩, fun hmem => hresume (List.mem_append_left _ hmem)⟩
  rcases List.mem_append.1 hb with hb | hb
  · exact hb
  · rw [List.mem_singleton.1 hb] at hpause
    rw [Action.isPauseOrResume, hpause, Bool.true_or] at ha
    cases ha

/-- The cancel still follows when other actions follow it. -/
theorem CancelFollows.append (h : CancelFollows l) (ha : a.isPauseOrResume = false) :
    CancelFollows (l ++ [a]) := by
  obtain ⟨earlier, last, outcome, later, hl, hlast, hlater⟩ := h
  cases hreq : a.isRequest with
  | true =>
    refine ⟨earlier, last, outcome, later ++ [a], ?_, hlast, ?_⟩
    · rw [filter_append_of_pos hreq, hl, List.append_assoc, List.cons_append, List.cons_append]
    · intro b hb
      rcases List.mem_append.1 hb with hb | hb
      · exact hlater b hb
      · rw [List.mem_singleton.1 hb, ha]
  | false =>
    rw [← filter_append_of_neg hreq] at hl
    exact ⟨earlier, last, outcome, later, hl, hlast, hlater⟩

/-- The cancel that follows is in the transcript. -/
theorem CancelFollows.exists_cancel (h : CancelFollows l) : ∃ a ∈ l, a.isCancel = true := by
  obtain ⟨earlier, last, outcome, later, hl, -, -⟩ := h
  have hmem : .cancel outcome ∈ l.filter Action.isRequest := by
    rw [hl]
    simp
  exact ⟨_, List.mem_of_mem_filter hmem, rfl⟩

/-- A cancel follows the pause or resume that was the last request. -/
theorem cancelFollows_of_last {outcome : Except StdException Bool} {last : Action}
    (hlast : (l.filter Action.isRequest).getLast? = some last) (h : last.isPauseOrResume = true) :
    CancelFollows (l ++ [.cancel outcome]) := by
  obtain ⟨earlier, hl⟩ := List.getLast?_eq_some_iff.1 hlast
  refine ⟨earlier, last, outcome, [], ?_, h, fun b hb => absurd hb List.not_mem_nil⟩
  rw [filter_append_of_pos rfl, hl, List.append_assoc, List.cons_append, List.nil_append]

namespace PauseKnown

/-- A session that navigates has no pause to resume. -/
theorem not_unresumed_of_navigating {resumed : Bool} (h : PauseKnown l (.navigating resumed)) :
    ¬Unresumed l := by
  cases resumed with
  | false => exact not_unresumed h
  | true => exact fun hl => hl.2 h

/-- A session may disconnect when it owes no cancel for a pause. -/
theorem exists_cancel_of_isIdle (h : PauseKnown l stage) (hidle : stage.isIdle = true)
    (hl : Unresumed l) : stage = .canceled ∧ CancelFollows l := by
  cases stage with
  | preparing | refused | unanswered e => exact absurd hl (not_unresumed h)
  | settled result => exact absurd hl h
  | canceled => exact ⟨rfl, h hl⟩
  | navigating resumed | paused | abandoned => cases hidle

/-- What a stage knows stays true when an action follows that is no pause or resume, and no request
either while a pause is in force. -/
theorem append (h : PauseKnown l stage) (ha : a.isPauseOrResume = false)
    (hreq : a.isRequest = true → stage ≠ .paused ∧ stage ≠ .abandoned) :
    PauseKnown (l ++ [a]) stage := by
  match stage with
  | .preparing | .refused | .unanswered _ | .navigating false =>
    exact List.forall_mem_append.2 ⟨h, List.forall_mem_singleton.2 ha⟩
  | .navigating true => exact List.mem_append_left _ h
  | .paused =>
    have hno : a.isRequest = false := eq_false_of_ne_true fun hno => (hreq hno).1 rfl
    refine ⟨by rw [filter_append_of_neg hno]; exact h.1, ?_⟩
    exact List.forall_mem_append.2 ⟨h.2, List.forall_mem_singleton.2 (Bool.or_eq_false_iff.1 ha).2⟩
  | .abandoned =>
    have hno : a.isRequest = false := eq_false_of_ne_true fun hno => (hreq hno).2 rfl
    intro hl
    rw [filter_append_of_neg hno]
    exact h (unresumed_of_append ha hl)
  | .settled _ => exact fun hl => h (unresumed_of_append ha hl)
  | .canceled => exact fun hl => (h (unresumed_of_append ha hl)).append ha

/-- The steps of a session preserve what its stage knows. -/
theorem step (h : PauseKnown l s.stage) (hstep : Session.Step pause_after_seconds s a s') :
    PauseKnown (l ++ [a]) s'.stage := by
  cases hstep with
  -- The steps that are no pause or resume and leave the stage as it is.
  | quiet => exact h.append rfl nofun
  | construct _ hs | connect hs | connectFailed _ hs =>
    refine h.append rfl fun _ => ?_
    rw [hs]
    exact ⟨nofun, nofun⟩
  | inspect hs | clock _ _ hs | navigationStatus _ _ hs | taskStatus _ hs =>
    refine h.append rfl fun _ => ?_
    rw [hs.stage]
    exact ⟨nofun, nofun⟩
  | disconnect _ _ hidle =>
    refine h.append rfl fun _ => ⟨fun hs => ?_, fun hs => ?_⟩
    · rw [hs] at hidle
      cases hidle
    · rw [hs] at hidle
      cases hidle
  | start outcome hs =>
    rw [hs.stage] at h
    have hnext := h.append (a := .start outcome) rfl fun _ => ⟨nofun, nofun⟩
    rcases outcome with _ | _ | _ <;> exact hnext
  -- The steps that abandon the navigation.
  | navigationStatusFailed _ _ hs | taskStatusFailed _ _ hs =>
    rw [hs.stage] at h
    exact fun hl => absurd (unresumed_of_append rfl hl) h.not_unresumed_of_navigating
  | pause outcome hs _ =>
    rw [hs.stage] at h
    rcases outcome with e | _ | _
    · exact fun _ => ⟨_, lastRequest_append rfl, rfl⟩
    · exact fun _ => ⟨_, lastRequest_append rfl, rfl⟩
    · refine ⟨lastRequest_append rfl, List.forall_mem_append.2 ⟨fun b hb => ?_, ?_⟩⟩
      · exact (Bool.or_eq_false_iff.1 (h b hb)).2
      · exact List.forall_mem_singleton.2 rfl
  | resume outcome hs =>
    rcases outcome with e | _ | _
    · exact fun _ => ⟨_, lastRequest_append rfl, rfl⟩
    · exact fun _ => ⟨_, lastRequest_append rfl, rfl⟩
    · exact List.mem_append_right _ List.mem_cons_self
  | settle _ _ _ hs =>
    rw [hs.stage] at h
    exact fun hl => h.not_unresumed_of_navigating (unresumed_of_append rfl hl)
  | giveUp _ hs =>
    intro hl
    rcases hs with ⟨resumed, hs⟩ | hs
    · rw [hs.stage] at h
      exact absurd (unresumed_of_append rfl hl) h.not_unresumed_of_navigating
    · rw [hs.stage] at h
      exact ⟨_, by rw [filter_append_of_neg rfl]; exact h.1, rfl⟩
  | cancel outcome hs =>
    intro hl
    rw [hs.stage] at h
    obtain ⟨last, hlast, hpause⟩ := h (unresumed_of_append rfl hl)
    exact cancelFollows_of_last hlast hpause

end PauseKnown

namespace PauseInv

/-- The invariant holds of a session that has done nothing. -/
theorem init : PauseInv pause_after_seconds {} [] :=
  ⟨rfl, rfl, rfl, ⟨Nat.zero_le _, always_nil, Nat.zero_le _, always_nil, always_nil⟩,
    fun _ h => absurd h List.not_mem_nil⟩

/-- The steps of a session preserve the discipline. -/
theorem step_law (h : PauseInv pause_after_seconds s l)
    (hstep : Session.Step pause_after_seconds s a s') : PauseLaw pause_after_seconds (l ++ [a]) where
  pauses := by
    rw [List.countP_append, List.countP_singleton]
    cases hstep with
    | pause _ hs _ =>
      -- A session that may pause has not paused before.
      have hknown := h.known
      rw [hs.stage] at hknown
      have hnone : l.countP Action.isPause = 0 :=
        List.countP_eq_zero.2 fun b hb => by
          rw [(Bool.or_eq_false_iff.1 (hknown b hb)).1]
          exact Bool.false_ne_true
      rw [hnone]
      exact Nat.le_refl _
    | _ => exact h.law.pauses
  pause_guard := by
    refine always_append_singleton.2 ⟨h.law.pause_guard, fun ha => ?_⟩
    cases hstep with
    | pause _ _ due =>
      obtain ⟨seconds, start, now, hpause, hstart, hnow, helapsed, hstatus⟩ := due
      exact ⟨seconds, start, now, hpause, h.start.trans hstart, h.now.trans hnow, helapsed,
        h.status.trans hstatus⟩
    | _ => cases ha
  resumes := by
    rw [List.countP_append, List.countP_singleton]
    cases hstep with
    | resume _ hs =>
      -- The pause that is in force is the only one, and nothing has resumed it.
      have hknown := h.known
      rw [hs.stage] at hknown
      have hnone : l.countP Action.isResume = 0 :=
        List.countP_eq_zero.2 fun b hb => by
          rw [hknown.2 b hb]
          exact Bool.false_ne_true
      rw [hnone]
      exact Nat.le_refl _
    | _ => exact h.law.resumes
  resume_guard := by
    refine always_append_singleton.2 ⟨h.law.resume_guard, fun ha => ?_⟩
    cases hstep with
    | resume _ hs =>
      have hknown := h.known
      rw [hs.stage] at hknown
      exact hknown.1
    | _ => cases ha
  disconnect_guard := by
    refine always_append_singleton.2 ⟨h.law.disconnect_guard, fun ha hl => ?_⟩
    cases hstep with
    | disconnect _ _ hidle => exact (h.known.exists_cancel_of_isIdle hidle hl).2.exists_cancel
    | _ => cases ha

/-- The steps of a session preserve the invariant. -/
theorem step (h : PauseInv pause_after_seconds s l)
    (hstep : Session.Step pause_after_seconds s a s') :
    PauseInv pause_after_seconds s' (l ++ [a]) where
  start := by
    rw [List.filterMap_append, List.head?_append, h.start, hstep.start_eq]
    cases a <;> rfl
  now := by
    rw [List.filterMap_append, List.getLast?_append, h.now, hstep.now_eq]
    cases a <;> rfl
  status := by
    rw [List.filterMap_append, List.getLast?_append, h.status, hstep.status_eq]
    cases ha : a.statusCode <;> simp [List.filterMap, ha]
  law := h.step_law hstep
  known := h.known.step hstep

end PauseInv

/-- `main` pauses and resumes with discipline at every point of every run, and a run that has
returned cancels, before any other request, a navigation that it has paused and not resumed, and
returns 1. -/
theorem main_pauseResume {stod : Stod} {argv : List String} {w : Host}
    {c : Config Op.Answer StdException Host ℤ} (hrun : Steps host ⟨main stod argv, w, []⟩ c) :
    PauseLaw (pauseAfter stod argv) (transcript c.history) ∧
      ∀ code, c.program = .ret code → Unresumed (transcript c.history) →
        CancelFollows (transcript c.history) ∧ code = 1 := by
  obtain ⟨s, hinv, hends⟩ := main_session_invariant PauseInv.init (fun _ _ _ _ h => h.step) hrun
  refine ⟨hinv.law, fun code hcode hl => ?_⟩
  rw [hcode] at hends
  rcases hends with hended | rfl
  · obtain ⟨hstage, hfollows⟩ := hinv.known.exists_cancel_of_isIdle hended.idle hl
    refine ⟨hfollows, ?_⟩
    rw [hended.exit_code, hstage, if_neg nofun]
  · exact absurd hl (not_unresumed hinv.known)

/-! ## A resume that is refused -/

/-- A `std::stod` that reads the text `0.65` only. -/
def pauseStod : Stod := fun text =>
  if text = "0.65" then .ok (.finite (double (65 / 100)), 4) else .error (.invalid_argument "stod")

/-- The command line `seer_navigation_example 192.168.192.5 LM1 LM2 --pause-after 0.65`. -/
def pauseArgv : List String :=
  ["seer_navigation_example", "192.168.192.5", "LM1", "LM2", "--pause-after", "0.65"]

/-- What the command line `pauseArgv` asks for. -/
def pauseOptions : ExampleOptions :=
  { amr_ip := "192.168.192.5", source_id := "LM1", target_ids := ["LM2"],
    pause_after_seconds := some (double (65 / 100)) }

theorem parseOptions_pauseArgv : parseOptions pauseStod pauseArgv = .ok pauseOptions := by
  have hnonneg : ¬double (65 / 100) < 0 := not_lt.2 (double_pos (by norm_num)).le
  have hread : parseFiniteDouble pauseStod "0.65" "pause-after seconds" =
    .ok (double (65 / 100)) := rfl
  have hstation : ∀ station ∈ ["LM1", "LM2"], isOption station = false := by decide
  simp only [List.forall_mem_cons] at hstation
  simp [parseOptions, pauseArgv, parseOptionsLoop, hread, hstation, bind, Except.bind, hnonneg]
  rfl

/-- The pause is due once 650000000 nanoseconds have elapsed: both are the same `double`. -/
theorem pauseDue_pauseOptions :
    pauseDue pauseOptions false { task_status := 2 } (seconds (650000000 - 0)) = true := by
  have helapsed : seconds (650000000 - 0) = double (65 / 100) := by
    rw [seconds, double_intCast (by decide)]
    norm_num
  rw [helapsed]
  simp [pauseDue, pauseOptions, kNavigationRunning]

/-- The transcript of a run in which the AMR accepts the pause and refuses the resume. -/
def refusedResume : List Action :=
  [.construct (.ok ()), .connect (.ok ()), .inspect, .inspect, .inspect, .start (.ok true), .clock 0,
    .clock 0, .navigationStatus (.ok 2), .taskStatus (.ok ()), .clock 650000000,
    .pause (.ok true), .resume (.ok false), .cancel (.ok true), .disconnect (.ok ())]

/-- When the AMR refuses the resume, `main` cancels the navigation and returns 1. -/
theorem refusedResume_run : ∃ w' h,
    Steps host ⟨main pauseStod pauseArgv, ⟨false, 0⟩, []⟩ ⟨.ret 1, w', h⟩ ∧
      transcript h = refusedResume := by
  have hcalm : Calm host ⟨false, 0⟩ 0 := host_calm 0
  have hlater : Calm host ⟨false, 650000000⟩ 650000000 := host_calm 650000000
  have hready : Ready host ⟨false, 0⟩ := host_ready _
  have hrun : CanEnd host (main pauseStod pauseArgv)
      (fun r _ h => r = .ok 1 ∧ transcript h = refusedResume) ⟨false, 0⟩ [] := by
    have hwaiting := isBefore_deadlineAt_zero (show 0 < pauseOptions.timeout_seconds by decide)
    refine main_canEnd (by decide) parseOptions_pauseArgv hready.construct fun h₁ hh₁ => ?_
    refine navigate_canEnd hcalm hready (.ok true) (fun _ => ⟨false, 0⟩)
      (fun _ => host_answers _ _ _) (fun _ => host_answers _ _ _) fun commands h₂ hh₂ => ?_
    refine .bind (during_canEnd (sleepInterruptibly_canEnd hcalm fun h₃ hh₃ => ?_))
    refine .bind (during_canEnd (waitForNavigation_canEnd hcalm hwaiting fun h₄ hh₄ => ?_))
    -- The first round: the navigation is running, and the time of the pause comes.
    refine .bind (client_canEnd .getNavigationStatus (.ok { task_status := 2 })
      (host_answers _ _ _) ?_)
    refine .bind (sleepInterruptibly_canEnd hcalm fun h₅ hh₅ => ?_)
    refine .bind (stopRequested_canEnd hcalm fun h₆ hh₆ => ?_)
    refine .bind (client_canEnd .getTaskStatus (.ok {}) (host_answers _ _ _) ?_)
    refine .move (.tick _ 650000000 (by decide)) ?_
    refine .bind (steadyNow_canEnd hlater fun h₇ hh₇ => ?_)
    simp only [pauseDue_pauseOptions]
    refine .bind (.bind (client_canEnd .pauseNavigation (.ok true) (host_answers _ _ _) ?_))
    refine .bind (sleepInterruptibly_canEnd hlater fun h₈ hh₈ => ?_)
    refine .bind (stopRequested_canEnd hlater fun h₉ hh₉ => ?_)
    refine .bind (client_canEnd .resumeNavigation (.ok false) (host_answers _ _ _) ?_)
    refine .raise ⟨.error _, ?_, rfl⟩
    exact cleanup_canEnd (host_answers _ _ _) (host_answers _ _ _) fun h₁₀ hh₁₀ => ⟨rfl, by
      rw [hh₁₀, transcript_append, hh₉, hh₈, transcript_append, hh₇, transcript_append, hh₆, hh₅,
        transcript_append, hh₄, hh₃, hh₂, hh₁]
      rfl⟩
  obtain ⟨r, w', h, hsteps, rfl, hh⟩ := hrun
  exact ⟨w', h, hsteps, hh⟩

/-- The discipline, in the run in which the AMR refuses the resume. -/
theorem main_pauseResume_refusedResume : ∃ w' h,
    Steps host ⟨main pauseStod pauseArgv, ⟨false, 0⟩, []⟩ ⟨.ret 1, w', h⟩ ∧
      transcript h = refusedResume ∧ PauseLaw (some (double (65 / 100))) (transcript h) ∧
      CancelFollows (transcript h) := by
  obtain ⟨w', h, hrun, hh⟩ := refusedResume_run
  obtain ⟨hlaw, hends⟩ := main_pauseResume hrun
  have hunresumed : Unresumed (transcript h) := by
    rw [hh]
    exact ⟨⟨.pause (.ok true), by decide, rfl⟩, by decide⟩
  have hpause : pauseAfter pauseStod pauseArgv = some (double (65 / 100)) := by
    rw [pauseAfter, parseOptions_pauseArgv]
    rfl
  rw [hpause] at hlaw
  exact ⟨w', h, hrun, hh, hlaw, (hends 1 rfl hunresumed).1⟩

end FlexivAmr
