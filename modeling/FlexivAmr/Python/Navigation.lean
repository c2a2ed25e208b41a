import FlexivAmr.Navigation
import FlexivAmr.Python.Host
import Mathlib.Algebra.Order.Field.Rat

/-!
# The navigation program in Python

`example_py/seer_navigation_example.py` as programs of the host: `sleep_interruptibly`,
`make_task_id`, `build_navigation_commands`, `wait_for_navigation`, and `main` from the construction
of the client on. The arguments are `ExampleOptions`, as `parse_arguments` hands them over. The
bindings give the client the requests of the C++ class, under names in snake case.

The strings that `wait_for_navigation` returns are the members of `NavigationResult`: `"completed"`
is `kCompleted`, and so on.
-/

namespace FlexivAmr.Python

open Interaction Program

variable {α : Type}

/-- A program of the host, with exceptions in `ε`. -/
abbrev NavigationProgram (ε : Type) : Type → Type 1 := Program (Op.Answer Request.Reply) ε

def navigationRunning : ℤ := 2
def navigationCompleted : ℤ := 4
def navigationFailed : ℤ := 5
def navigationCanceled : ℤ := 6
def statusRequestGapSeconds : ℚ := double (15 / 100)
def pollIntervalSeconds : ℚ := double (35 / 100)
def pauseDurationSeconds : ℚ := 2

/-- A request to the client, whose exception the program raises. -/
def client (request : Request) : NavigationProgram PyException request.Reply :=
  .call (.client request) fun (outcome : Except PyException request.Reply) => .ended outcome

/-- The reading of `stop_requested`. -/
def stopRequested : NavigationProgram PyException Bool := perform Op.stopRequested

/-- `time.monotonic`. -/
def monotonic : NavigationProgram PyException ℚ := perform Op.monotonic

/-- `time.time_ns`. -/
def timeNs : NavigationProgram PyException ℤ := perform Op.timeNs

/-- `time.sleep`. -/
def sleep (secs : ℚ) : NavigationProgram PyException Unit := perform (Op.sleep secs)

/-- `sleep_interruptibly`. -/
def sleepInterruptibly (duration_seconds : ℚ) : NavigationProgram PyException Unit := do
  let now ← monotonic
  let deadline := double (now + duration_seconds)
  loop () fun _ => do
    if ← stopRequested then
      return .inl ()
    -- The time that remains is read off the clock, so a step that oversleeps shortens the rest.
    let now ← monotonic
    let remaining := double (deadline - now)
    if remaining ≤ 0 then
      return .inl ()
    sleep (min remaining (double (5 / 100)))
    return .inr ()

/-- `make_task_id`. The time is in nanoseconds. -/
def makeTaskId (index : ℕ) : NavigationProgram PyException String := do
  let now ← timeNs
  return taskId now index

/-- The loop of `build_navigation_commands` over the targets that are left. -/
def buildNavigationCommandsLoop :
    (current_source : String) → (index : ℕ) → (target_ids : List String) →
      (commands : List SeerPathNaviCommand) →
        NavigationProgram PyException (List SeerPathNaviCommand)
  | _, _, [], commands => return commands
  | current_source, index, target_id :: target_ids, commands => do
    let task_id ← makeTaskId index
    let command : SeerPathNaviCommand :=
      { source_id := some current_source, id := some target_id, task_id := some task_id }
    buildNavigationCommandsLoop target_id (index + 1) target_ids (commands ++ [command])

/-- `build_navigation_commands`. -/
def buildNavigationCommands (source_id : String) (target_ids : List String) :
    NavigationProgram PyException (List SeerPathNaviCommand) :=
  buildNavigationCommandsLoop source_id 0 target_ids []

/-- The condition of the pause block: a pause is asked for and not yet exercised, the navigation is
running, and enough time has elapsed. -/
def pauseDue (pause_after_seconds : Option ℚ) (pause_exercised : Bool)
    (navigation : SeerNavigationStatus) (elapsed_seconds : ℚ) : Bool :=
  !pause_exercised && pause_after_seconds.any fun pause_after_seconds =>
    navigation.task_status == navigationRunning && pause_after_seconds ≤ elapsed_seconds

/-- The pause block of `wait_for_navigation` up to the assignment of `pause_exercised`: the result
that it makes `wait_for_navigation` return, if any. -/
def pauseBlock : NavigationProgram PyException (Option NavigationResult) := do
  if !(← client .pauseNavigation) then
    throw (.runtimeError "SEER AMR rejected the pause command")
  sleepInterruptibly pauseDurationSeconds
  if ← stopRequested then
    return some .kInterrupted
  if !(← client .resumeNavigation) then
    throw (.runtimeError "SEER AMR rejected the resume command")
  return none

/-- One round of the loop of `wait_for_navigation`: the result that it returns from inside the loop,
or the next value of `pause_exercised`. -/
def waitForNavigationRound (pause_after_seconds : Option ℚ) (start : ℚ) (pause_exercised : Bool) :
    NavigationProgram PyException (NavigationResult ⊕ Bool) := do
  let navigation ← client .getNavigationStatus
  sleepInterruptibly statusRequestGapSeconds
  if ← stopRequested then
    return .inl .kInterrupted
  -- The task status is only logged.
  let _ ← client .getTaskStatus
  if navigation.task_status = navigationCompleted then
    return .inl .kCompleted
  if navigation.task_status = navigationFailed then
    return .inl .kFailed
  if navigation.task_status = navigationCanceled then
    return .inl .kCanceled
  let now ← monotonic
  let elapsed_seconds := double (now - start)
  let mut pause_exercised := pause_exercised
  if pauseDue pause_after_seconds pause_exercised navigation elapsed_seconds then
    if let some result ← pauseBlock then
      return .inl result
    pause_exercised := true
  sleepInterruptibly pollIntervalSeconds
  return .inr pause_exercised

/-- The condition of the loop of `wait_for_navigation`. -/
def keepWaiting (deadline : ℚ) : NavigationProgram PyException Bool := do
  if ← stopRequested then
    return false
  let now ← monotonic
  return decide (now < deadline)

/-- `wait_for_navigation`. -/
def waitForNavigation (pause_after_seconds : Option ℚ) (timeout_seconds : ℚ) :
    NavigationProgram PyException NavigationResult := do
  let start ← monotonic
  let deadline := double (start + timeout_seconds)
  loop false fun pause_exercised => do
    if ← keepWaiting deadline then
      waitForNavigationRound pause_after_seconds start pause_exercised
    else if ← stopRequested then
      return .inl .kInterrupted
    else
      return .inl .kTimedOut

/-- An exception on its way to `main`'s handlers, and the local variables as they stand. -/
structure Thrown where
  exception : PyException
  locals : Locals

/-- A statement of `main`'s `try` block, with the local variables as they stand. -/
def during (v : Locals) (p : NavigationProgram PyException α) : NavigationProgram Thrown α :=
  p.mapError fun e => ⟨e, v⟩

/-- A `raise RuntimeError` in `main`'s `try` block. -/
def raiseError (v : Locals) (message : String) : NavigationProgram Thrown α :=
  .raise ⟨.runtimeError message, v⟩

/-- The start request of `main`. -/
def startNavigation (v : Locals) (commands : List SeerPathNaviCommand) :
    NavigationProgram Thrown Unit := do
  match commands with
  | [command] =>
    if !(← during v (client (.executeFixedPathNavigation command))) then
      raiseError v "SEER AMR rejected fixed path navigation"
  | commands =>
    if !(← during v (client (.executeSpecifiedPathNavigation commands))) then
      raiseError v "SEER AMR rejected specified path navigation"

/-- The assignments of `main` that follow the result of `wait_for_navigation`. -/
def afterWait (v : Locals) (result : NavigationResult) : Locals :=
  if result = .kCompleted then
    { v with navigation_active := false, exit_code := 0 }
  else if result = .kFailed then
    { v with navigation_active := false }
  else if result = .kCanceled then
    { v with navigation_active := false }
  else
    v

/-- The `try` block of `main`: the local variables as it leaves them. -/
def navigate (args : ExampleOptions) : NavigationProgram Thrown Locals := do
  let mut v : Locals := {}
  during v (client .connect)
  v := { v with connected := true }
  let _ ← during v (client .isConnected)
  let emergency ← during v (client .getEmergencyStatus)
  if emergency.emergency || emergency.driver_emc || emergency.soft_emc then
    raiseError v "AMR emergency stop is active; navigation is not started"
  during v (sleepInterruptibly statusRequestGapSeconds)
  let _ ← during v (client .getBlockStatus)
  if ← during v stopRequested then
    raiseError v "navigation interrupted before start"
  let commands ← during v (buildNavigationCommands args.source_id args.target_ids)
  startNavigation v commands
  v := { v with navigation_active := true }
  during v (sleepInterruptibly statusRequestGapSeconds)
  let result ← during v (waitForNavigation args.pause_after_seconds args.timeout_seconds)
  return afterWait v result

/-- The `finally` block of `main`. -/
def cleanup (v : Locals) : NavigationProgram PyException ℤ := do
  if v.navigation_active then
    let _ ← (client .cancelNavigation).attempt
  if v.connected then
    let _ ← (client .disconnect).attempt
  return v.exit_code

/-- `main` from the construction of the client on: its exit code. -/
def main (args : ExampleOptions) : NavigationProgram PyException ℤ := do
  let client_options : SeerAmrOptions :=
    { host := args.amr_ip, auto_connect := false, auto_reconnect := true }
  -- The constructor runs before the `try` block.
  client (.construct client_options)
  match ← (navigate args).attempt with
  | .ok v => cleanup v
  -- Both handlers log the exception.
  | .error thrown => cleanup thrown.locals

end FlexivAmr.Python
