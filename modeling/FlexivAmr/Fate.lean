import FlexivAmr.Amr
import FlexivAmr.Interaction.History
import FlexivAmr.Reasons

/-!
# What becomes of a verdict

The converse of `Reasons.lean`, with no assumption about the environment: when the AMR has reported
that the navigation is completed, failed or canceled, `main` asks for no further navigation status,
and the result is that verdict, unless the stop flag is read as set or the next request, which is
for the task status, throws (`main_fate`).
-/

namespace FlexivAmr

open Interaction

/-- The terminal status in a reply to a navigation status request. -/
def verdictOf : Event Op.Answer → Option ℤ
  | ⟨.client .getNavigationStatus, .ok navigation⟩ =>
    if isTerminal navigation.task_status then some navigation.task_status else none
  | _ => none

/-- The result with which `WaitForNavigation` returns. -/
def resultOf : Event Op.Answer → Option NavigationResult
  | ⟨.returned result, _⟩ => some result
  | _ => none

/-- The verdicts that the AMR has reported, and the results that `WaitForNavigation` has
returned. -/
def Heard (h : History) (verdicts : List ℤ) (results : List NavigationResult) : Prop :=
  h.filterMap verdictOf = verdicts ∧ h.filterMap resultOf = results

/-- The last request has returned this navigation status. -/
def Asked (navigation : SeerNavigationStatus) (h : History) : Prop :=
  ∃ earlier between, h = earlier ++ ⟨.client .getNavigationStatus, .ok navigation⟩ :: between ∧
    ∀ e ∈ between, isClient e = false

/-- The request after a navigation status with this code is for the task status, and it throws. -/
def TaskStatusThrew (code : ℤ) (h : History) : Prop :=
  ∃ navigation earlier e later, navigation.task_status = code ∧ Asked navigation earlier ∧
    h = earlier ++ ⟨.client .getTaskStatus, .error e⟩ :: later

/-- What has become of the verdicts when the exit code is known. -/
def Fate (exit_code : ℤ) (h : History) : Prop :=
  (∃ results, Heard h [] results) ∨
    ∃ code, (∃ result : NavigationResult, Heard h [code] [result] ∧ result.terminal = some code) ∨
      exit_code = 1 ∧ (Heard h [code] [.kInterrupted] ∨ Heard h [code] [] ∧ TaskStatusThrew code h)

variable {h : History} {e : Event Op.Answer} {verdicts : List ℤ} {results : List NavigationResult}

/-- A history with one more event. -/
theorem Heard.append (hh : Heard h verdicts results) (e : Event Op.Answer) :
    Heard (h ++ [e]) (verdicts ++ (verdictOf e).toList) (results ++ (resultOf e).toList) := by
  have hsingle : ∀ {β : Type} (f : Event Op.Answer → Option β), [e].filterMap f = (f e).toList := by
    intro β f
    cases hf : f e with
    | none => rw [List.filterMap_cons_none hf]; rfl
    | some b => rw [List.filterMap_cons_some hf]; rfl
  unfold Heard
  rw [List.filterMap_append, List.filterMap_append, hh.1, hh.2, hsingle, hsingle]
  exact ⟨rfl, rfl⟩

/-- A history with one more event that is neither a verdict nor a result. -/
theorem Heard.quiet (hh : Heard h verdicts results) (hverdict : verdictOf e = none)
    (hresult : resultOf e = none) : Heard (h ++ [e]) verdicts results := by
  have happend := hh.append e
  rw [hverdict, hresult, Option.toList_none, Option.toList_none, List.append_nil,
    List.append_nil] at happend
  exact happend

/-- A history with one more event that is no request. -/
theorem Asked.quiet {navigation : SeerNavigationStatus} (hh : Asked navigation h)
    (he : isClient e = false) : Asked navigation (h ++ [e]) := by
  obtain ⟨earlier, between, rfl, hbetween⟩ := hh
  refine ⟨earlier, between ++ [e], ?_,
    List.forall_mem_append.2 ⟨hbetween, List.forall_mem_singleton.2 he⟩⟩
  rw [List.append_assoc, List.cons_append]

/-- A history with one more event. -/
theorem TaskStatusThrew.append {code : ℤ} (hh : TaskStatusThrew code h) (e : Event Op.Answer) :
    TaskStatusThrew code (h ++ [e]) := by
  obtain ⟨navigation, earlier, error, later, hcode, hasked, rfl⟩ := hh
  refine ⟨navigation, earlier, error, later ++ [e], hcode, hasked, ?_⟩
  rw [List.append_assoc, List.cons_append]

/-- The fate of a verdict does not change. -/
theorem Fate.quiet {exit_code : ℤ} (hh : Fate exit_code h) (hverdict : verdictOf e = none)
    (hresult : resultOf e = none) : Fate exit_code (h ++ [e]) := by
  rcases hh with ⟨results, hh⟩ | ⟨code, ⟨result, hh, hterminal⟩ | ⟨hcode, hh | ⟨hh, hthrew⟩⟩⟩
  · exact .inl ⟨results, hh.quiet hverdict hresult⟩
  · exact .inr ⟨code, .inl ⟨result, hh.quiet hverdict hresult, hterminal⟩⟩
  · exact .inr ⟨code, .inr ⟨hcode, .inl (hh.quiet hverdict hresult)⟩⟩
  · exact .inr ⟨code, .inr ⟨hcode, .inr ⟨hh.quiet hverdict hresult, hthrew.append e⟩⟩⟩

namespace Point

/-- What has become of the verdicts at a point. -/
def Kept (h : History) : Point → Prop
  | .gapStop _ _ navigation | .getTaskStatus _ _ navigation =>
    Heard h (if isTerminal navigation.task_status then [navigation.task_status] else []) [] ∧
      Asked navigation h
  | .returned result => Heard h [] [] ∨ ∃ code, Heard h [code] [] ∧
    (result.terminal = some code ∨ result = .kInterrupted)
  | .cancelNavigation => Fate 1 h
  | .disconnect exit_code | .done exit_code => Fate exit_code h
  | .sleep _ next | .doze _ next => next.wakes = true ∧ Kept h next
  | .failed => True
  | _ => Heard h [] []

variable {options : ExampleOptions} {p p' : Point}

/-- The points after a sleep do not depend on what the sleep reads. -/
theorem Kept.quiet (hwakes : p.wakes = true) (hp : p.Kept h) (hverdict : verdictOf e = none)
    (hresult : resultOf e = none) (he : isClient e = false) : p.Kept (h ++ [e]) := by
  cases p with
  | getBlockStatus | begin | loopStop | pauseStop => exact Heard.quiet hp hverdict hresult
  | gapStop => exact ⟨hp.1.quiet hverdict hresult, hp.2.quiet he⟩
  | _ => cases hwakes

/-- Where nothing has been reported, the program may end. -/
theorem fate_of_heard (exit_code : ℤ) (hh : Heard h [] []) : Fate exit_code h := .inl ⟨[], hh⟩

/-- A step keeps a verdict that has been reported. -/
theorem Step.kept (hstep : Step options p e p') (hp : p.Kept h) : p'.Kept (h ++ [e]) := by
  have hquiet : Heard h [] [] → verdictOf e = none → resultOf e = none → Heard (h ++ [e]) [] [] :=
    Heard.quiet
  let K : Point → Prop := Kept (h ++ [e])
  cases hstep with
  | construct outcome =>
    have hh := hquiet hp rfl rfl
    exact orElse_cases K outcome trivial fun _ _ => hh
  | connect outcome | isConnected outcome | getBlockStatus outcome =>
    have hh := hquiet hp rfl rfl
    exact orElse_cases K outcome (fate_of_heard _ hh) fun _ _ => hh
  | getEmergencyStatus outcome =>
    have hh := hquiet hp rfl rfl
    exact emergency_cases K outcome (fate_of_heard _ hh) fun _ _ _ => ⟨rfl, hh⟩
  | checkStop stop =>
    have hh := hquiet hp rfl rfl
    exact flag_cases K stop (fun _ => fate_of_heard _ hh) fun _ => hh
  | build | begin => exact hquiet hp rfl rfl
  | startFixed _ _ outcome | startSpecified _ _ outcome | pauseNavigation _ outcome
  | resumeNavigation _ outcome =>
    have hh := hquiet hp rfl rfl
    exact command_cases K outcome (fate_of_heard _ hh) ⟨rfl, hh⟩
  | loopStop _ _ stop =>
    have hh := hquiet hp rfl rfl
    exact flag_cases K stop (fun _ => hh) fun _ => hh
  | pauseStop _ stop =>
    have hh := hquiet hp rfl rfl
    exact flag_cases K stop (fun _ => .inl hh) fun _ => hh
  | loopClock start pause_exercised now =>
    have hh := hquiet hp rfl rfl
    exact afterLoopClock_cases K (fun _ => hh) fun _ => hh
  | getNavigationStatus start pause_exercised outcome =>
    cases outcome with
    | error e => exact fate_of_heard _ (hquiet hp rfl rfl)
    | ok navigation =>
      have hh := Heard.append hp ⟨.client .getNavigationStatus, .ok navigation⟩
      have hasked : Asked navigation (h ++ [⟨.client .getNavigationStatus, .ok navigation⟩]) :=
        ⟨h, [], rfl, by simp⟩
      have hverdict : verdictOf ⟨.client .getNavigationStatus, .ok navigation⟩ =
        if isTerminal navigation.task_status then some navigation.task_status else none := rfl
      refine ⟨rfl, ?_, hasked⟩
      cases hterminal : isTerminal navigation.task_status with
      | true =>
        rw [hverdict, hterminal] at hh
        exact hh
      | false =>
        rw [hverdict, hterminal] at hh
        exact hh
  | gapStop start pause_exercised navigation stop =>
    obtain ⟨hp, hasked⟩ := hp
    have hh : Heard (h ++ [⟨.stopRequested, stop⟩]) _ [] := hp.quiet rfl rfl
    refine flag_cases K stop (fun _ => ?_) fun _ => ⟨hh, hasked.quiet rfl⟩
    cases hterminal : isTerminal navigation.task_status with
    | true =>
      rw [hterminal] at hh
      exact .inr ⟨navigation.task_status, hh, .inr rfl⟩
    | false =>
      rw [hterminal] at hh
      exact .inl hh
  | getTaskStatus start pause_exercised navigation outcome =>
    obtain ⟨hp, hasked⟩ := hp
    have hh : Heard (h ++ [⟨.client .getTaskStatus, outcome⟩]) _ [] := hp.quiet rfl rfl
    cases hterminal : isTerminal navigation.task_status with
    | true =>
      rw [hterminal] at hh
      cases outcome with
      | error e =>
        have hthrew : TaskStatusThrew navigation.task_status
            (h ++ [⟨.client .getTaskStatus, .error e⟩]) := ⟨navigation, h, e, [], rfl, hasked, rfl⟩
        exact .inr ⟨navigation.task_status, .inr ⟨rfl, .inr ⟨hh, hthrew⟩⟩⟩
      | ok task =>
        obtain ⟨result, hresult⟩ := exists_result_of_isTerminal hterminal
        exact afterTask_cases K (fun _ h => .inr ⟨navigation.task_status, hh, .inl h⟩)
          fun hnone => absurd hresult (hnone result)
    | false =>
      rw [hterminal] at hh
      refine orElse_cases K outcome (fate_of_heard _ hh) fun _ _ => ?_
      exact afterTask_cases K (fun _ _ => .inl hh) fun _ => hh
  | elapsed start pause_exercised navigation now =>
    have hh := hquiet hp rfl rfl
    exact afterElapsed_cases K (fun _ => hh) ⟨rfl, hh⟩
  | endStop stop =>
    have hh := hquiet hp rfl rfl
    cases stop <;> exact .inl hh
  | returned result =>
    rcases hp with hh | ⟨code, hh, hresult⟩
    · have hh' := Heard.append hh ⟨.returned result, ()⟩
      exact afterReturn_cases K result (.inl ⟨_, hh'⟩) fun _ => .inl ⟨_, hh'⟩
    · have hh' := Heard.append hh ⟨.returned result, ()⟩
      rcases hresult with hterminal | rfl
      · have hfate : ∀ exit_code, Fate exit_code (h ++ [⟨.returned result, ()⟩]) :=
          fun exit_code => .inr ⟨code, .inl ⟨result, hh', hterminal⟩⟩
        exact afterReturn_cases K result (hfate 1) hfate
      · exact .inr ⟨code, .inr ⟨rfl, .inl hh'⟩⟩
  | cancelNavigation | disconnect => exact Fate.quiet hp rfl rfl
  | sleepStop remaining next stop =>
    obtain ⟨hwakes, hp⟩ := hp
    have hnext := hp.quiet hwakes (e := ⟨.stopRequested, stop⟩) rfl rfl rfl
    exact sleepStop_cases K stop (fun _ => ⟨hwakes, hnext⟩) fun _ => hnext
  | doze remaining next =>
    obtain ⟨hwakes, hp⟩ := hp
    exact ⟨hwakes, hp.quiet hwakes rfl rfl rfl⟩

/-- Nothing has been reported where `main` starts. -/
theorem kept_initial (stod : Stod) (argv : List String) : (initial stod argv).Kept [] := by
  have hnone : Heard [] [] [] := ⟨rfl, rfl⟩
  unfold initial
  split_ifs
  · exact fate_of_heard _ hnone
  · cases parseOptions stod argv with
    | error e => exact fate_of_heard _ hnone
    | ok options => exact hnone

/-- A navigation status request is made while there is no verdict. -/
theorem Step.no_verdict (hstep : Step options p e p') (hp : p.Kept h) (hpoll : isPoll e = true) :
    h.filterMap verdictOf = [] := by
  cases hstep with
  | getNavigationStatus => exact hp.1
  | _ => cases hpoll

end Point

/-- In every run of `main`, in any environment, no navigation status is asked for after a verdict,
and a run that ends has returned the verdict, or `kInterrupted`, or the request after the verdict,
which is for the task status, has thrown. -/
theorem main_fate {W : Type} {E : Environment Op.Answer W} {stod : Stod} {argv : List String} {w : W}
    {c : Config Op.Answer StdException W ℤ} (hrun : Steps E ⟨main stod argv, w, []⟩ c) :
    Always (fun earlier e => isPoll e = true → earlier.filterMap verdictOf = []) c.history ∧
      ∀ exit_code, c.program = .ret exit_code → Fate exit_code c.history := by
  obtain ⟨p, ⟨hpolls, hkept⟩, hfollows⟩ := @main_point W E stod argv w c
    (fun p _ h => Always (fun earlier e => isPoll e = true → earlier.filterMap verdictOf = []) h ∧
      p.Kept h)
    ⟨always_nil, Point.kept_initial stod argv⟩
    (fun p w h op a w' p' hInv hstep _ => by
      obtain ⟨hpolls, hp⟩ := hInv
      exact ⟨always_append_singleton.2 ⟨hpolls, fun hpoll => hstep.no_verdict hp hpoll⟩,
        hstep.kept hp⟩)
    (fun _ _ _ _ hInv _ => hInv) hrun
  refine ⟨hpolls, fun exit_code hcode => ?_⟩
  rw [hcode] at hfollows
  obtain rfl : p = .done exit_code := hfollows
  exact hkept

/-- The fate of the verdict in the run that is completed. -/
theorem main_fate_completed : ∃ w' h,
    Steps host ⟨main noStod oneTarget, ⟨false, 0⟩, []⟩ ⟨.ret 0, w', h⟩ ∧ Fate 0 h := by
  obtain ⟨w', h, hrun⟩ := completed_run
  obtain ⟨-, hfate⟩ := main_fate hrun
  exact ⟨w', h, hrun, hfate 0 rfl⟩

end FlexivAmr
