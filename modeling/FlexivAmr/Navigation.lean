import FlexivAmr.Arguments
import FlexivAmr.Clock
import FlexivAmr.Host

/-!
# The navigation program

`example/seer_navigation_example.cpp` as programs of the host: `SleepInterruptibly`, `MakeTaskId`,
`BuildNavigationCommands`, `WaitForNavigation`, and `main`. Loops are `Program.loop`, whose round
yields `Sum.inl` to leave the loop and `Sum.inr` to go around once more.

The local variables that `main`'s handlers and cleanup read (`Locals`) must survive the exception
that leaves its `try` block, so an exception in the block carries their values at that point:
`Locals.during` runs a statement of the block.
-/

namespace FlexivAmr

open Interaction Program

variable {α : Type}

def kNavigationRunning : ℤ := 2
def kNavigationCompleted : ℤ := 4
def kNavigationFailed : ℤ := 5
def kNavigationCanceled : ℤ := 6

/-- `kStatusRequestGap`, in milliseconds. -/
def kStatusRequestGap : ℤ := 150

/-- `kPollInterval`, in milliseconds. -/
def kPollInterval : ℤ := 350

/-- `kPauseDuration`, in milliseconds. -/
def kPauseDuration : ℤ := 2000

/-- `kStep` of `SleepInterruptibly`, in milliseconds. -/
def kStep : ℤ := 50

/-- The reading of `g_stop_requested`. -/
def stopRequested : HostProgram StdException Bool := perform Op.stopRequested

/-- `std::chrono::steady_clock::now`. -/
def steadyNow : HostProgram StdException ℤ := perform Op.steadyNow

/-- `std::chrono::system_clock::now`. -/
def systemNow : HostProgram StdException ℤ := perform Op.systemNow

/-- `std::this_thread::sleep_for`. -/
def sleepFor (duration : ℤ) : HostProgram StdException Unit := perform (Op.sleepFor duration)

/-- `SleepInterruptibly`. -/
def sleepInterruptibly (duration : ℤ) : HostProgram StdException Unit :=
  loop duration fun remaining => do
    -- The flag is read before each step, so a signal ends the sleep within `kStep`.
    if !(← stopRequested) && 0 < remaining then
      let sleep_duration := if remaining < kStep then remaining else kStep
      sleepFor sleep_duration
      return .inr (remaining - sleep_duration)
    else
      return .inl ()

/-- The text of a task id, from the milliseconds since the epoch and the index. -/
def taskId (timestamp : ℤ) (index : ℕ) : String :=
  "seer_navigation_example_" ++ toString timestamp ++ "_" ++ toString index

/-- `MakeTaskId`. The cast to milliseconds rounds towards zero. -/
def makeTaskId (index : ℕ) : HostProgram StdException String := do
  let now ← systemNow
  let timestamp := now.tdiv 1000000
  return taskId timestamp index

/-- The loop of `BuildNavigationCommands` over the targets that are left. -/
def buildNavigationCommandsLoop :
    (source_id : String) → (index : ℕ) → (target_ids : List String) →
      (commands : List SeerPathNaviCommand) → HostProgram StdException (List SeerPathNaviCommand)
  | _, _, [], commands => return commands
  | source_id, index, target_id :: target_ids, commands => do
    let task_id ← makeTaskId index
    let command : SeerPathNaviCommand :=
      { source_id := some source_id, id := some target_id, task_id := some task_id }
    buildNavigationCommandsLoop target_id (index + 1) target_ids (commands ++ [command])

/-- `BuildNavigationCommands`. -/
def buildNavigationCommands (options : ExampleOptions) :
    HostProgram StdException (List SeerPathNaviCommand) :=
  buildNavigationCommandsLoop options.source_id 0 options.target_ids []

/-- The condition of the pause block: a pause is asked for and not yet exercised, the navigation is
running, and enough time has elapsed. -/
def pauseDue (options : ExampleOptions) (pause_exercised : Bool)
    (navigation : SeerNavigationStatus) (elapsed_seconds : ℚ) : Bool :=
  !pause_exercised && options.pause_after_seconds.any fun pause_after_seconds =>
    navigation.task_status == kNavigationRunning && pause_after_seconds ≤ elapsed_seconds

/-- The pause block of `WaitForNavigation` up to the assignment of `pause_exercised`: the result
that it makes `WaitForNavigation` return, if any. -/
def pauseBlock : HostProgram StdException (Option NavigationResult) := do
  if !(← client .pauseNavigation) then
    throw (.runtime_error "SEER AMR rejected the pause command")
  sleepInterruptibly kPauseDuration
  -- A signal during the pause leaves the navigation paused.
  if ← stopRequested then
    return some .kInterrupted
  if !(← client .resumeNavigation) then
    throw (.runtime_error "SEER AMR rejected the resume command")
  return none

/-- One round of the loop of `WaitForNavigation`: the result that it returns from inside the loop,
or the next value of `pause_exercised`. -/
def waitForNavigationRound (options : ExampleOptions) (start : ℤ) (pause_exercised : Bool) :
    HostProgram StdException (NavigationResult ⊕ Bool) := do
  let navigation ← client .getNavigationStatus
  sleepInterruptibly kStatusRequestGap
  if ← stopRequested then
    return .inl .kInterrupted
  -- The task status is only logged.
  let _ ← client .getTaskStatus
  -- The verdict is read off `task_status` alone: `target_id` is only logged.
  if navigation.task_status = kNavigationCompleted then
    return .inl .kCompleted
  if navigation.task_status = kNavigationFailed then
    return .inl .kFailed
  if navigation.task_status = kNavigationCanceled then
    return .inl .kCanceled
  let now ← steadyNow
  let elapsed_seconds := seconds (now - start)
  let mut pause_exercised := pause_exercised
  if pauseDue options pause_exercised navigation elapsed_seconds then
    if let some result ← pauseBlock then
      return .inl result
    -- Only after the resume: a pause block that throws or returns leaves the loop for good.
    pause_exercised := true
  sleepInterruptibly kPollInterval
  return .inr pause_exercised

/-- The condition of the loop of `WaitForNavigation`. The clock is read only when the stop flag is
not set. -/
def keepWaiting (deadline : ℚ) : HostProgram StdException Bool := do
  if ← stopRequested then
    return false
  let now ← steadyNow
  return isBefore now deadline

/-- `WaitForNavigation`. -/
def waitForNavigation (options : ExampleOptions) : HostProgram StdException NavigationResult := do
  let start ← steadyNow
  let deadline := deadlineAt start options.timeout_seconds
  loop false fun pause_exercised => do
    if ← keepWaiting deadline then
      waitForNavigationRound options start pause_exercised
    -- The flag is read once more after the loop, and decides between the two results.
    else if ← stopRequested then
      return .inl .kInterrupted
    else
      return .inl .kTimedOut

/-- The local variables of `main` that outlive its `try` block. -/
structure Locals where
  connected : Bool := false
  navigation_active : Bool := false
  exit_code : ℤ := 1

/-- An exception on its way to `main`'s handlers, and the local variables as they stand. -/
structure Thrown where
  exception : StdException
  locals : Locals

/-- A statement of `main`'s `try` block, with the local variables as they stand. -/
def Locals.during (v : Locals) (p : HostProgram StdException α) : HostProgram Thrown α :=
  p.mapError fun e => ⟨e, v⟩

/-- A `throw` in `main`'s `try` block. -/
def Locals.throw (v : Locals) (e : StdException) : HostProgram Thrown α := .raise ⟨e, v⟩

/-- The log lines that name a command read its optional fields. -/
def logCommand (command : SeerPathNaviCommand) : HostProgram StdException Unit := do
  let _ ← value command.source_id
  let _ ← value command.id
  let _ ← value command.task_id

/-- The log lines that name each command of a list. -/
def logCommands : List SeerPathNaviCommand → HostProgram StdException Unit
  | [] => return ()
  | command :: commands => do
    logCommand command
    logCommands commands

/-- The start request of `main`: one command is a fixed path, several are a specified path. -/
def startNavigation (v : Locals) (commands : List SeerPathNaviCommand) :
    HostProgram Thrown Unit := do
  match commands with
  | [command] =>
    v.during (logCommand command)
    if !(← v.during (client (.executeFixedPathNavigation command))) then
      v.throw (.runtime_error "SEER AMR rejected fixed path navigation")
  | commands =>
    v.during (logCommands commands)
    if !(← v.during (client (.executeSpecifiedPathNavigation commands))) then
      v.throw (.runtime_error "SEER AMR rejected specified path navigation")

/-- The assignments of `main` that follow the result of `WaitForNavigation`. -/
def Locals.afterWait (v : Locals) (result : NavigationResult) : Locals :=
  if result = .kCompleted then
    { v with navigation_active := false, exit_code := 0 }
  else if result = .kFailed then
    { v with navigation_active := false }
  else if result = .kCanceled then
    { v with navigation_active := false }
  -- Timed out or interrupted: the navigation stays active, and the cleanup cancels it.
  else
    v

/-- The `try` block of `main` from the assignment of `navigation_active` on. -/
def monitorNavigation (v : Locals) (example_options : ExampleOptions) :
    HostProgram Thrown Locals := do
  let v := { v with navigation_active := true }
  v.during (sleepInterruptibly kStatusRequestGap)
  let result ← v.during (waitForNavigation example_options)
  v.during (perform (Op.returned result))
  return v.afterWait result

/-- The `try` block of `main`: the local variables as it leaves them. -/
def navigate (example_options : ExampleOptions) : HostProgram Thrown Locals := do
  let mut v : Locals := {}
  v.during (client .connect)
  v := { v with connected := true }
  -- A log line whose argument is a request.
  let _ ← v.during (client .isConnected)
  let emergency ← v.during (client .getEmergencyStatus)
  if emergency.emergency || emergency.driver_emc || emergency.soft_emc then
    v.throw (.runtime_error "AMR emergency stop is active; navigation is not started")
  v.during (sleepInterruptibly kStatusRequestGap)
  -- A blocked AMR gets a warning, and the navigation is started all the same.
  let _ ← v.during (client .getBlockStatus)
  if ← v.during stopRequested then
    v.throw (.runtime_error "navigation interrupted before start")
  let commands ← v.during (buildNavigationCommands example_options)
  -- `navigation_active` is set only once the start request has returned.
  startNavigation v commands
  monitorNavigation v example_options

/-- The cleanup of `main`: the requests' results and exceptions are dropped. -/
def cleanup (v : Locals) : HostProgram StdException ℤ := do
  if v.navigation_active then
    let _ ← (client .cancelNavigation).attempt
  if v.connected then
    let _ ← (client .disconnect).attempt
  return v.exit_code

/-- `main` from the construction of the client on. -/
def runNavigation (example_options : ExampleOptions) : HostProgram StdException ℤ := do
  let client_options : SeerAmrOptions :=
    { host := example_options.amr_ip, auto_connect := false, auto_reconnect := true }
  -- The constructor runs before the `try` block.
  client (.construct client_options)
  match ← (navigate example_options).attempt with
  | .ok v => cleanup v
  -- Both handlers log the exception and go on to the cleanup.
  | .error thrown => cleanup thrown.locals

/-- `main`: its exit code. Only the client's constructor can throw out of it. -/
def main (stod : Stod) (argv : List String) : HostProgram StdException ℤ :=
  if argv[1]? = some "--help" ∨ argv[1]? = some "-h" then
    return 0
  else
    match parseOptions stod argv with
    | .error _ => return 1
    | .ok example_options => runNavigation example_options

end FlexivAmr
