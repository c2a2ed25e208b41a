import FlexivAmr.Interaction.History
import FlexivAmr.Timing

/-!
# What comes before a start request

Whatever the client answers, `main` does not start a navigation unless everything before it went
well, and then it starts the one that the command line asks for (`main_startLaw`): the only requests
so far are the constructor, `Connect`, `IsConnected`, `GetEmergencyStatus` and `GetBlockStatus`,
each of which has returned, the emergency status reports no emergency stop, the stop flag was last
read as unset, the system clock has been read once for each target, and the commands lead along the
stations of the command line, with task ids from these readings.
-/

namespace FlexivAmr

open Interaction

/-- The readings of the system clock. -/
def systemReadings (h : History) : List ℤ :=
  h.filterMap fun
    | ⟨.systemNow, now⟩ => some now
    | _ => none

/-- The last reading of the stop flag. -/
def lastStop (h : History) : Option Bool :=
  (h.filterMap fun
    | ⟨.stopRequested, stop⟩ => some stop
    | _ => none).getLast?

/-- A request to start a navigation, and the commands in it. -/
def startCommands (e : Event Op.Answer) : Option (List SeerPathNaviCommand) :=
  match e.1 with
  | .client (.executeFixedPathNavigation command) => some [command]
  | .client (.executeSpecifiedPathNavigation commands) => some commands
  | _ => none

/-- The construction of the client, which has returned. -/
def constructed (options : ExampleOptions) : Event Op.Answer :=
  ⟨.client (.construct { host := options.amr_ip, auto_connect := false }), .ok ()⟩

/-- `Connect`, which has returned. -/
def connected : Event Op.Answer := ⟨.client .connect, .ok ()⟩

/-- The requests before a start request have returned, and there is no emergency stop. -/
def Inspected (options : ExampleOptions) (h : History) : Prop :=
  ∃ is_connected emergency block, Point.isEmergency emergency = false ∧
    h.filter isClient = [constructed options, connected, ⟨.client .isConnected, .ok is_connected⟩,
      ⟨.client .getEmergencyStatus, .ok emergency⟩, ⟨.client .getBlockStatus, .ok block⟩]

/-- What a start request with these commands needs of the history before it. -/
structure StartLaw (options : ExampleOptions) (earlier : History)
    (commands : List SeerPathNaviCommand) : Prop where
  inspected : Inspected options earlier
  not_stopped : lastStop earlier = some false
  /-- One reading for each target, so no command is missing. -/
  readings : (systemReadings earlier).length = options.target_ids.length
  path : commands = pathCommands options.source_id 0 options.target_ids (systemReadings earlier)

namespace Point

/-- What the history holds at the points before the start request. -/
def Startup (options : ExampleOptions) : Point → History → Prop
  | .construct, h => systemReadings h = [] ∧ h.filter isClient = []
  | .connect, h => systemReadings h = [] ∧ h.filter isClient = [constructed options]
  | .isConnected, h =>
    systemReadings h = [] ∧ h.filter isClient = [constructed options, connected]
  | .getEmergencyStatus, h => systemReadings h = [] ∧ ∃ is_connected,
    h.filter isClient =
      [constructed options, connected, ⟨.client .isConnected, .ok is_connected⟩]
  | .getBlockStatus, h => systemReadings h = [] ∧ ∃ is_connected emergency,
    Point.isEmergency emergency = false ∧ h.filter isClient = [constructed options, connected,
      ⟨.client .isConnected, .ok is_connected⟩, ⟨.client .getEmergencyStatus, .ok emergency⟩]
  | .checkStop, h => systemReadings h = [] ∧ Inspected options h
  | .build left readings, h => systemReadings h = readings ∧
    readings.length + left = options.target_ids.length ∧ lastStop h = some false ∧
      Inspected options h
  | .sleep _ next, h | .doze _ next, h => next.wakes = true ∧ Startup options next h
  | _, _ => True

variable {options : ExampleOptions} {p p' : Point} {h : History} {e : Event Op.Answer}

/-- The points after a sleep do not depend on what the sleep reads. -/
theorem Startup.quiet (hwakes : p.wakes = true) (hp : p.Startup options h)
    (he : isClient e = false) (hread : systemReadings (h ++ [e]) = systemReadings h) :
    p.Startup options (h ++ [e]) := by
  cases p with
  | getBlockStatus =>
    unfold Startup at hp ⊢
    rwa [hread, filter_append_of_neg he]
  | begin | loopStop | gapStop | pauseStop => exact trivial
  | _ => cases hwakes

/-- A step leads on. -/
theorem Step.startup (hstep : Step options p e p') (hp : p.Startup options h) :
    p'.Startup options (h ++ [e]) := by
  have hread : ∀ e : Event Op.Answer, systemReadings (h ++ [e]) = systemReadings h ++
      systemReadings [e] := fun e => List.filterMap_append
  -- What is asked of the points after a failure, and of those after the start, is nothing.
  let S (p' : Point) : Prop := p'.Startup options (h ++ [e])
  cases hstep with
  | construct outcome | connect outcome =>
    obtain ⟨hreadings, hrequests⟩ := hp
    refine orElse_cases S outcome trivial fun reply hreply => ⟨by rw [hread, hreadings]; rfl, ?_⟩
    rw [filter_append_of_pos rfl, hrequests, hreply]
    rfl
  | isConnected outcome =>
    obtain ⟨hreadings, hrequests⟩ := hp
    refine orElse_cases S outcome trivial fun is_connected hreply =>
      ⟨by rw [hread, hreadings]; rfl, is_connected, ?_⟩
    rw [filter_append_of_pos rfl, hrequests, hreply]
    rfl
  | getEmergencyStatus outcome =>
    obtain ⟨hreadings, is_connected, hrequests⟩ := hp
    refine emergency_cases S outcome trivial fun emergency hreply hemergency =>
      ⟨rfl, by rw [hread, hreadings]; rfl, is_connected, emergency, hemergency, ?_⟩
    rw [filter_append_of_pos rfl, hrequests, hreply]
    rfl
  | getBlockStatus outcome =>
    obtain ⟨hreadings, is_connected, emergency, hemergency, hrequests⟩ := hp
    refine orElse_cases S outcome trivial fun block hreply =>
      ⟨by rw [hread, hreadings]; rfl, is_connected, emergency, block, hemergency, ?_⟩
    rw [filter_append_of_pos rfl, hrequests, hreply]
    rfl
  | checkStop stop =>
    obtain ⟨hreadings, hinspected⟩ := hp
    refine flag_cases S stop (fun _ => trivial) fun hstop =>
      ⟨by rw [hread, hreadings]; rfl, Nat.zero_add _, ?_, ?_⟩
    · simp [lastStop, List.filterMap_append, hstop]
    · unfold Inspected
      rwa [filter_append_of_neg rfl]
  | build left readings now =>
    obtain ⟨hreadings, hlength, hstop, hinspected⟩ := hp
    refine ⟨by rw [hread, hreadings]; rfl, ?_, ?_, ?_⟩
    · rw [List.length_append, List.length_singleton, Nat.add_right_comm]
      exact hlength
    · rw [← hstop]
      simp [lastStop, List.filterMap_append]
    · unfold Inspected
      rwa [filter_append_of_neg rfl]
  | sleepStop remaining next stop =>
    obtain ⟨hwakes, hp⟩ := hp
    have hnext := hp.quiet hwakes (e := ⟨.stopRequested, stop⟩) rfl
      (by rw [hread]; simp [systemReadings])
    exact sleepStop_cases S stop (fun _ => ⟨hwakes, hnext⟩) fun _ => hnext
  | doze remaining next =>
    obtain ⟨hwakes, hp⟩ := hp
    exact ⟨hwakes, hp.quiet hwakes rfl (by rw [hread]; simp [systemReadings])⟩
  | startFixed _ _ outcome | startSpecified _ _ outcome | pauseNavigation _ outcome
  | resumeNavigation _ outcome =>
    exact command_cases S outcome trivial ⟨rfl, trivial⟩
  | loopStop _ _ stop | gapStop _ _ _ stop | pauseStop _ stop =>
    exact flag_cases S stop (fun _ => trivial) fun _ => trivial
  | loopClock => exact afterLoopClock_cases S (fun _ => trivial) fun _ => trivial
  | getNavigationStatus _ _ outcome => exact orElse_cases S outcome trivial fun _ _ => ⟨rfl, trivial⟩
  | getTaskStatus _ _ _ outcome =>
    refine orElse_cases S outcome trivial fun _ _ => ?_
    exact afterTask_cases S (fun _ _ => trivial) fun _ => trivial
  | elapsed => exact afterElapsed_cases S (fun _ => trivial) ⟨rfl, trivial⟩
  | returned result => exact afterReturn_cases S result trivial fun _ => trivial
  | begin | endStop | cancelNavigation | disconnect => exact trivial

/-- A start request is made only when everything before it went well. -/
theorem Step.startLaw (hstep : Step options p e p') (hp : p.Startup options h) :
    ∀ commands ∈ startCommands e, StartLaw options h commands := by
  intro commands hcommands
  cases hstep with
  | startFixed readings command outcome path | startSpecified readings commands' outcome path =>
    obtain ⟨rfl, hlength, hstop, hinspected⟩ := hp
    exact ⟨hinspected, hstop, hlength, (Option.mem_some.1 hcommands).symm.trans path.symm⟩
  | _ => cases hcommands

/-- Nothing has happened where `main` starts. -/
theorem startup_initial (stod : Stod) (argv : List String) :
    (initial stod argv).Startup options [] := by
  unfold initial
  split_ifs
  · exact trivial
  · cases parseOptions stod argv with
    | error e => exact trivial
    | ok options => exact ⟨rfl, rfl⟩

end Point

/-- In every run of `main`, a start request comes only after everything before it went well, and it
asks for the path of the command line. -/
theorem main_startLaw {W : Type} {E : Environment Op.Answer W} {stod : Stod} {argv : List String}
    {w : W} {c : Config Op.Answer StdException W ℤ} (hrun : Steps E ⟨main stod argv, w, []⟩ c) :
    Always (fun earlier e => ∀ commands ∈ startCommands e,
      StartLaw (commandLineOptions stod argv) earlier commands) c.history := by
  obtain ⟨p, ⟨hlaw, -⟩, -⟩ := @main_point W E stod argv w c
    (fun p _ h => Always (fun earlier e => ∀ commands ∈ startCommands e,
      StartLaw (commandLineOptions stod argv) earlier commands) h ∧
        p.Startup (commandLineOptions stod argv) h)
    ⟨always_nil, Point.startup_initial stod argv⟩
    (fun p w h op a w' p' hInv hstep _ => by
      obtain ⟨hlaw, hp⟩ := hInv
      exact ⟨always_append_singleton.2 ⟨hlaw, hstep.startLaw hp⟩, hstep.startup hp⟩)
    (fun _ _ _ _ hInv _ => hInv) hrun
  exact hlaw

/-- The law, in the run whose first navigation status request throws. -/
theorem main_startLaw_failedPoll : ∃ w' h,
    Steps punctual ⟨main noStod oneTarget, ⟨false, 0⟩, []⟩ ⟨.ret 1, w', h⟩ ∧
      h.countP isPoll = 1 ∧ Always (fun earlier e => ∀ commands ∈ startCommands e,
        StartLaw (commandLineOptions noStod oneTarget) earlier commands) h := by
  obtain ⟨w', h, hrun, hpoll, -⟩ := failedPoll_run
  have hlaw := main_startLaw hrun
  exact ⟨w', h, hrun, hpoll, hlaw⟩

end FlexivAmr
