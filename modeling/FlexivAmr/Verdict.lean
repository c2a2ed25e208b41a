import FlexivAmr.Amr
import FlexivAmr.Cleanup
import FlexivAmr.CommandLine
import FlexivAmr.Runs

/-!
# Whose verdict it is

`WaitForNavigation` takes the first terminal status that the AMR reports for the verdict on the
navigation that the run has started. `Attributed` says that it is. `main_attributed_iff` shows for
which AMRs that holds in every run: for those that do not report an earlier task once they have
accepted a start request, or have none. One stale report is enough to break it (`stale_run`), also
of a task that has come to its end since: `main` then takes the earlier task's verdict for its own
and disconnects from an AMR that is still navigating.
-/

namespace FlexivAmr

open Interaction

/-- What the program has concluded about its navigation at the point `c` of a run is so. -/
structure Attributed (c : Config Op.Answer StdException Site ℤ) : Prop where
  /-- A verdict is the status that the navigation has reached. -/
  verdict : ∀ result code, .returned result ∈ transcript c.history → result.terminal = some code →
    c.world.amr.Reached code
  /-- An accepted navigation that was not cancelled is over when the program disconnects. -/
  disconnected : ∀ outcome, .disconnect outcome ∈ transcript c.history →
    .start (.ok true) ∈ transcript c.history →
    (∀ a ∈ transcript c.history, a.isCancel = false) →
    ∃ code, isTerminal code = true ∧ c.world.amr.Reached code
  /-- An accepted navigation is completed when the program reports success. -/
  completed : c.program = .ret 0 → .start (.ok true) ∈ transcript c.history →
    c.world.amr.Reached kNavigationCompleted

/-- What ties the AMR to the session and to its transcript. -/
structure AttributedInv (s : Session) (amr : Amr) (l : List Action) : Prop where
  cleanup : CleanupInv s l
  fresh : amr.Fresh
  accepted : s.stage.startOutcome = some (.ok true) → amr.navigation.isSome = true
  unread : s.stage.startOutcome = none → s.status = none
  read : ∀ code, s.status = some code → isTerminal code = true → amr.Reached code
  verdict : ∀ result code, .returned result ∈ l → result.terminal = some code → amr.Reached code
  settled : ∀ result, s.stage = .settled result → .returned result ∈ l
  closed : s.closed = true → s.stage.isIdle = true

variable {pause_after_seconds : Option ℚ} {s s' : Session} {amr amr' : Amr} {l : List Action}
  {a : Action}

namespace AttributedInv

/-- The invariant holds of a session that has done nothing, with a fresh AMR. -/
theorem init (hfresh : amr.Fresh) : AttributedInv {} amr [] :=
  ⟨CleanupInv.init, hfresh, nofun, fun _ => rfl, nofun, nofun, nofun, nofun⟩

/-- The invariant survives what the AMR does between two starts. -/
theorem follows (h : AttributedInv s amr l) (hamr : amr.Follows amr') : AttributedInv s amr' l where
  cleanup := h.cleanup
  fresh := hamr.fresh h.fresh
  accepted hs := hamr.navigation (h.accepted hs)
  unread := h.unread
  read code hcode hterminal := hamr.reached code hterminal (h.read code hcode hterminal)
  verdict result code hmem hcode := hamr.reached code
    (NavigationResult.isTerminal_of_terminal hcode) (h.verdict result code hmem hcode)
  settled := h.settled
  closed := h.closed

/-- No verdict is known before the start. -/
theorem no_verdict (h : AttributedInv s amr l) (hstart : s.stage.startOutcome = none)
    {result : NavigationResult} (hmem : .returned result ∈ l) : result.terminal = none := by
  have hverdict := h.cleanup.verdict
  have hsettled : s.stage.isSettled = false := by
    cases hs : s.stage with
    | preparing => rfl
    | _ => rw [hs] at hstart; cases hstart
  rw [hsettled, List.any_eq_false] at hverdict
  have hnone := hverdict _ hmem
  rwa [Action.isVerdict, Bool.not_eq_true, Option.isSome_eq_false_iff, Option.isNone_iff_eq_none]
    at hnone

/-- The invariant survives a start, which finds nothing concluded. -/
theorem starts (h : AttributedInv s amr l) (hstart : s.stage.startOutcome = none)
    (hfresh : amr'.Fresh) : AttributedInv s amr' l where
  cleanup := h.cleanup
  fresh := hfresh
  accepted hs := by
    rw [hstart] at hs
    cases hs
  unread := h.unread
  read code hcode _ := by
    rw [h.unread hstart] at hcode
    cases hcode
  verdict result code hmem hcode := by
    rw [h.no_verdict hstart hmem] at hcode
    cases hcode
  settled := h.settled
  closed := h.closed

/-- The steps of a session preserve the invariant, when a start that is accepted leaves the AMR with
a navigation, and a verdict that is reported is that of the navigation. -/
theorem step (h : AttributedInv s amr l) (hstep : Session.Step pause_after_seconds s a s')
    (haccepted : a = .start (.ok true) → amr.navigation.isSome = true)
    (hstatus : ∀ code, a = .navigationStatus (.ok code) → isTerminal code = true → amr.Reached code) :
    AttributedInv s' amr (l ++ [a]) where
  cleanup := h.cleanup.step hstep
  fresh := h.fresh
  accepted hs := by
    have houtcome := hstep.startOutcome
    rw [hs] at houtcome
    cases hstart : s.stage.startOutcome with
    | some outcome =>
      rw [hstart] at houtcome
      exact h.accepted (hstart.trans (congrArg some (List.cons.inj houtcome).1.symm))
    | none =>
      rw [hstart] at houtcome
      cases a with
      | start outcome => exact haccepted (congrArg _ (List.cons.inj houtcome).1.symm)
      | _ => cases houtcome
  -- Status requests come after the start request, so the last status is never an old one.
  unread hs := by
    have houtcome := hstep.startOutcome
    rw [hs] at houtcome
    have hstart : s.stage.startOutcome = none := by
      cases hstart : s.stage.startOutcome with
      | none => rfl
      | some outcome =>
        rw [hstart] at houtcome
        cases houtcome
    cases hstep with
    | navigationStatus _ _ hat =>
      rw [hat.stage] at hstart
      cases hstart
    | _ => exact h.unread hstart
  read := by
    cases hstep with
    | navigationStatus _ code _ =>
      intro code' hcode hterminal
      cases hcode
      exact hstatus code rfl hterminal
    | _ => exact h.read
  verdict result code hmem hcode := by
    rcases List.mem_append.1 hmem with hmem | hmem
    · exact h.verdict result code hmem hcode
    · obtain rfl := List.mem_singleton.1 hmem
      cases hstep with
      | settle _ _ code' _ hread hverdict =>
        rw [hverdict] at hcode
        cases hcode
        exact h.read code hread (NavigationResult.isTerminal_of_terminal hverdict)
      | giveUp _ _ hverdict =>
        rw [hverdict] at hcode
        cases hcode
  settled result hs := by
    cases hstep with
    | settle =>
      cases hs
      exact List.mem_append_right _ List.mem_cons_self
    | start outcome | pause outcome | resume outcome => rcases outcome with _ | _ | _ <;> cases hs
    | navigationStatusFailed | taskStatusFailed | giveUp | cancel => cases hs
    | _ => exact List.mem_append_left _ (h.settled result hs)
  closed hs := by
    cases hstep with
    | disconnect _ _ hidle => exact hidle
    | start _ hat | pause _ hat _ | resume _ hat | cancel _ hat | settle _ _ _ hat
    | navigationStatusFailed _ _ hat | taskStatusFailed _ _ hat =>
      exact absurd (hat.closed.symm.trans hs) nofun
    | giveUp _ hat =>
      obtain ⟨stage, hat, -⟩ := Session.exists_stage_of_waiting hat
      exact absurd (hat.closed.symm.trans hs) nofun
    | _ => exact h.closed hs

/-- A step that is no start and no status reply preserves the invariant. -/
theorem step_entries (h : AttributedInv s amr l) (hstep : Session.Step pause_after_seconds s a s')
    (haccepted : a ≠ .start (.ok true)) (hstatus : ∀ code, a ≠ .navigationStatus (.ok code)) :
    AttributedInv s' amr (l ++ a.entries) := by
  by_cases hquiet : a = .quiet
  · subst hquiet
    rw [hstep.eq_of_quiet, Action.entries, List.append_nil]
    exact h
  · rw [Action.entries_of_ne_quiet hquiet]
    exact h.step hstep (fun ha => absurd ha haccepted) fun code ha => absurd ha (hstatus code)

/-- A start request preserves the invariant, whatever comes of it. -/
theorem start_event (h : AttributedInv s amr l) {outcome : Except StdException Bool}
    (hstep : Session.Step pause_after_seconds s (.start outcome) s') (hfresh : amr'.Fresh)
    (haccepted : outcome = .ok true → amr'.navigation.isSome = true) :
    AttributedInv s' amr' (l ++ [.start outcome]) := by
  have hstart : s.stage.startOutcome = none := by
    cases hstep with
    | start _ hs => rw [hs.stage]; rfl
  exact (h.starts hstart hfresh).step hstep (fun ha => haccepted (Action.start.inj ha)) nofun

/-- A status request preserves the invariant: a verdict that is read is the navigation's own. -/
theorem status_event (h : AttributedInv s amr l) {outcome : Except StdException SeerNavigationStatus}
    (hstep : Session.Step pause_after_seconds s
      (.navigationStatus (outcome.map SeerNavigationStatus.task_status)) s')
    (hamr : amr.Answers .getNavigationStatus outcome amr') :
    AttributedInv s' amr'
      (l ++ [.navigationStatus (outcome.map SeerNavigationStatus.task_status)]) := by
  refine (h.follows (hamr.follows fun _ => rfl)).step hstep nofun ?_
  rintro code ha hterminal
  cases outcome with
  | error e => cases ha
  | ok status =>
    cases ha
    have hreports : amr.Reports status amr' := hamr
    refine hreports.reached h.fresh (h.accepted ?_) hterminal
    cases hstep with
    | navigationStatus _ _ hs => rw [hs.stage]; rfl

/-- The events of a run against the AMR preserve the invariant. -/
theorem event {w w' : Site} {op : Op} {answer : op.Answer} (h : AttributedInv s w.amr l)
    (hstep : Session.Step pause_after_seconds s (action ⟨op, answer⟩) s')
    (hanswer : site.answers w op answer w') :
    AttributedInv s' w'.amr (l ++ (action ⟨op, answer⟩).entries) := by
  cases op with
  | client request =>
    obtain ⟨-, hamr⟩ := hanswer
    cases request with
    | executeFixedPathNavigation command =>
      refine h.start_event hstep (hamr.fresh h.fresh) ?_
      rintro rfl
      exact Amr.Starts.isSome_navigation hamr
    | executeSpecifiedPathNavigation commands =>
      refine h.start_event hstep (hamr.fresh h.fresh) ?_
      rintro rfl
      exact Amr.Starts.isSome_navigation hamr
    | getNavigationStatus => exact h.status_event hstep hamr
    | _ => exact (h.follows (hamr.follows fun _ => rfl)).step_entries hstep nofun nofun
  | _ =>
    obtain ⟨-, rfl⟩ := hanswer
    exact h.step_entries hstep nofun nofun

/-- The moves of the site preserve the invariant. -/
theorem move {w w' : Site} (h : AttributedInv s w.amr l) (hmove : site.moves w w') :
    AttributedInv s w'.amr l := by
  cases hmove with
  | host => exact h
  | navigation navigation code hnavigation hcode =>
    -- The navigation that moves is not over, so no terminal status is lost.
    refine h.follows ⟨fun code' hterminal hreached => ?_, fun _ => rfl, id⟩
    obtain ⟨navigation', hnavigation', rfl⟩ := hreached
    rw [hnavigation] at hnavigation'
    cases hnavigation'
    rw [hcode] at hterminal
    cases hterminal
  | earlier status hcode =>
    -- Only an earlier task that is there can move.
    refine h.follows ⟨fun _ _ => id, id, fun hfresh => .inl (hfresh.resolve_right fun hnone => ?_)⟩
    rw [hnone] at hcode
    exact absurd hcode (by decide)

end AttributedInv

/-- Against a fresh AMR, what the program concludes about its navigation is so, at every point of
every run. -/
theorem attributed_of_fresh {stod : Stod} {argv : List String} {w : Site}
    {c : Config Op.Answer StdException Site ℤ} (hfresh : w.amr.Fresh)
    (hrun : Steps site ⟨main stod argv, w, []⟩ c) : Attributed c := by
  obtain ⟨s, hinv, hends⟩ := @main_invariant _ _ _ _ _ _ (fun s w l => AttributedInv s w.amr l)
    (AttributedInv.init hfresh) (fun _ _ _ _ _ _ _ h => h.event) (fun _ _ _ _ h => h.move) hrun
  refine ⟨hinv.verdict, fun outcome hmem hstart hcancel => ?_, fun hcode hstart => ?_⟩
  -- Once it disconnects, the session is idle: it has a verdict, or it has cancelled.
  · have hclosed : s.closed = true := by
      by_contra hopen
      have hnone := hinv.cleanup.isDisconnect_eq_false (eq_false_of_ne_true hopen) _ hmem
      cases hnone
    rcases hinv.cleanup.verdict_or_cancel (hinv.closed hclosed) hstart with
      ⟨result, hresult, hterminal⟩ | hcount
    · obtain ⟨code, hcode⟩ := Option.isSome_iff_exists.1 hterminal
      exact ⟨code, NavigationResult.isTerminal_of_terminal hcode, hinv.verdict _ _ hresult hcode⟩
    · have hnone : (transcript c.history).countP Action.isCancel = 0 :=
        List.countP_eq_zero.2 fun a ha => by
          rw [hcancel a ha]
          exact Bool.false_ne_true
      rw [hnone] at hcount
      cases hcount
  -- The exit code is 0 only for a session that is settled as completed.
  · rw [hcode] at hends
    rcases hends with hended | rfl
    · have hstage : s.stage = .settled .kCompleted := by
        by_contra hstage
        have hexit := hended.exit_code
        rw [if_neg hstage] at hexit
        cases hexit
      exact hinv.verdict _ _ (hinv.settled _ hstage) rfl
    · cases hinv.cleanup.start_mem_iff.1 hstart

/-! ## The report that is stale -/

/-- The AMR once it has accepted the commands of a run and is navigating. -/
def Amr.driving (amr : Amr) (commands : List SeerPathNaviCommand) : Amr :=
  { amr with navigation := some ⟨commands, kNavigationRunning⟩ }

/-- The site of a host that does nothing of its own. -/
theorem site_calm (amr : Amr) : Calm site ⟨⟨false, 0⟩, amr⟩ 0 where
  stopRequested := ⟨rfl, rfl⟩
  steadyNow := ⟨rfl, rfl⟩
  systemNow := ⟨trivial, rfl⟩
  sleepFor _ := ⟨trivial, rfl⟩
  returned _ := ⟨trivial, rfl⟩

/-- The AMR may find nothing amiss. -/
theorem site_ready (w : Site) : Ready site w :=
  ⟨fun _ => ⟨rfl, rfl⟩, ⟨rfl, rfl⟩, ⟨rfl, rfl⟩, ⟨rfl, rfl⟩, ⟨rfl, rfl⟩⟩

/-- Against an AMR that reports the verdict on an earlier task once it has accepted a start request,
some run takes that verdict for its own and disconnects while the AMR is navigating. -/
theorem stale_run {stod : Stod} {argv : List String} {options : ExampleOptions} {amr : Amr}
    {lag : ℕ} {result : NavigationResult}
    (hhelp : ¬(argv[1]? = some "--help" ∨ argv[1]? = some "-h"))
    (hparse : parseOptions stod argv = .ok options) (hlag : amr.lag = lag + 1)
    (hresult : result.terminal = some amr.earlier.task_status) :
    CanEnd site (main stod argv) (fun r w h => r = .ok (if result = .kCompleted then 0 else 1) ∧
      .returned result ∈ transcript h ∧
      ∃ commands, w.amr = { amr.driving commands with lag := lag }) ⟨⟨false, 0⟩, amr⟩ [] := by
  have hcalm := site_calm amr
  have hready := site_ready ⟨⟨false, 0⟩, amr⟩
  refine main_canEnd hhelp hparse hready.construct fun h₁ hh₁ => ?_
  refine navigate_canEnd hcalm hready (.ok true)
    (fun commands => ⟨⟨false, 0⟩, amr.driving commands⟩)
    (fun command => ⟨rfl, .accept kNavigationRunning rfl⟩)
    (fun commands => ⟨rfl, .accept kNavigationRunning rfl⟩) fun commands h₂ hh₂ => ?_
  -- The first status reply is the last one that is about the earlier task.
  have hstatus : site.answers ⟨⟨false, 0⟩, amr.driving commands⟩ (.client .getNavigationStatus)
      (.ok amr.earlier) ⟨⟨false, 0⟩, { amr.driving commands with lag := lag }⟩ :=
    ⟨rfl, .stale _ lag rfl hlag⟩
  -- `WaitForNavigation` leaves its loop in the first round.
  refine .bind (during_canEnd (sleepInterruptibly_canEnd (site_calm _) fun h₃ hh₃ => ?_))
  have hwaiting := isBefore_deadlineAt_zero (timeout_pos hparse)
  refine .bind (during_canEnd (waitForNavigation_canEnd (site_calm _) hwaiting fun h₄ hh₄ => ?_))
  refine waitForNavigationRound_canEnd hstatus (site_calm _) ⟨rfl, rfl⟩ hresult
    fun h₅ hh₅ => ⟨.ok result, ?_, rfl⟩
  refine .bind (during_canEnd (.call () ((site_calm _).returned result) (.ret (.ret ?_))))
  refine cleanup_canEnd ⟨rfl, rfl⟩ ⟨rfl, rfl⟩ fun h₆ hh₆ => ⟨?_, ?_, commands, rfl⟩
  · cases result <;> rfl
  · rw [hh₆, transcript_append]
    exact List.mem_append_left _ (List.mem_append_right _ List.mem_cons_self)

/-- An earlier task that is there is over, or it may come to its end at once. -/
theorem exists_over {amr : Amr} (htask : amr.earlier.task_status ≠ noTask) :
    ∃ earlier : SeerNavigationStatus, isTerminal earlier.task_status = true ∧
      ∀ v : Host, site.Drifts ⟨v, amr⟩ ⟨v, { amr with earlier := earlier }⟩ := by
  cases hterminal : isTerminal amr.earlier.task_status with
  | true => exact ⟨amr.earlier, hterminal, fun _ => .refl⟩
  | false =>
    have hcode : isUnfinished amr.earlier.task_status = true := by
      simp [isUnfinished, htask, hterminal]
    exact ⟨{ amr.earlier with task_status := kNavigationCanceled }, rfl,
      fun v => .single (.earlier ⟨v, amr⟩ _ hcode rfl)⟩

/-- Whose verdict it is: what the program concludes about its navigation is so in every run against
an AMR, exactly when the AMR does not report an earlier task once it has accepted a start request,
or there is no earlier task. -/
theorem main_attributed_iff {stod : Stod} {argv : List String} {options : ExampleOptions}
    {amr : Amr}
    (hhelp : ¬(argv[1]? = some "--help" ∨ argv[1]? = some "-h"))
    (hparse : parseOptions stod argv = .ok options) :
    (∀ (v : Host) (c : Config Op.Answer StdException Site ℤ),
      Steps site ⟨main stod argv, ⟨v, amr⟩, []⟩ c → Attributed c) ↔
      amr.lag = 0 ∨ amr.earlier.task_status = noTask := by
  refine ⟨fun h => ?_, fun hfresh v c => @attributed_of_fresh stod argv ⟨v, amr⟩ c hfresh⟩
  by_contra hstale
  -- A stale AMR has a run in which a verdict is returned while the navigation is running.
  rw [not_or] at hstale
  obtain ⟨hlag, htask⟩ := hstale
  obtain ⟨lag, hlag⟩ := Nat.exists_eq_succ_of_ne_zero hlag
  obtain ⟨earlier, hterminal, hover⟩ := exists_over htask
  obtain ⟨result, hresult⟩ := exists_result_of_isTerminal hterminal
  have hrun := @stale_run stod argv options { amr with earlier := earlier } lag result hhelp hparse
    hlag hresult
  obtain ⟨r, w, h', hrun, -, hmem, commands, hamr⟩ := hrun.drift (hover _)
  obtain ⟨navigation, hnavigation, hcode⟩ := (h _ _ hrun).verdict result _ hmem hresult
  rw [hamr] at hnavigation
  cases hnavigation
  rw [← hcode] at hterminal
  cases hterminal

/-- An AMR that has completed an earlier task, and reports that once more. -/
def staleAmr : Amr := { earlier := { task_status := 4, target_id := "LM9" }, lag := 1 }

/-- The equivalence, for the AMR that has completed an earlier task. -/
theorem main_attributed_iff_staleAmr :
    (∀ (v : Host) (c : Config Op.Answer StdException Site ℤ),
      Steps site ⟨main noStod oneTarget, ⟨v, staleAmr⟩, []⟩ c → Attributed c) ↔
      staleAmr.lag = 0 ∨ staleAmr.earlier.task_status = noTask := by
  have hparse : parseOptions noStod oneTarget =
    .ok { amr_ip := "192.168.192.5", source_id := "LM1", target_ids := ["LM2"] } := rfl
  exact main_attributed_iff (by decide) hparse

/-- Against that AMR, `main` may report success and leave the AMR navigating. -/
theorem main_not_attributed_staleAmr : ∃ w h,
    Steps site ⟨main noStod oneTarget, ⟨⟨false, 0⟩, staleAmr⟩, []⟩ ⟨.ret 0, w, h⟩ ∧
      .returned .kCompleted ∈ transcript h ∧ w.amr.Reached kNavigationRunning ∧
      ¬Attributed ⟨(.ret 0 : HostProgram StdException ℤ), w, h⟩ := by
  have hparse : parseOptions noStod oneTarget =
    .ok { amr_ip := "192.168.192.5", source_id := "LM1", target_ids := ["LM2"] } := rfl
  have hlag : staleAmr.lag = 0 + 1 := rfl
  have hresult : NavigationResult.kCompleted.terminal = some staleAmr.earlier.task_status := rfl
  obtain ⟨r, w, h, hrun, rfl, hmem, commands, hamr⟩ := stale_run (by decide) hparse hlag hresult
  refine ⟨w, h, hrun, hmem, ⟨_, by rw [hamr]; rfl, rfl⟩, fun hattributed => ?_⟩
  obtain ⟨navigation, hnavigation, hcode⟩ := hattributed.verdict _ _ hmem rfl
  rw [hamr] at hnavigation
  cases hnavigation
  cases hcode

end FlexivAmr
