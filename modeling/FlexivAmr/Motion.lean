import FlexivAmr.Calls
import FlexivAmr.Interaction.Protocol

/-!
# The motion program

`example/seer_motion_example.cpp` as a program of the host: one open-loop velocity command of three
seconds, the wait for its end or for a signal, and the stop. What the handlers and the cleanup of
`main` read of its local variables is `motion_started`, so an exception in the `try` block carries
its value (`Thrown`).

The control points of `main` (`Point`) and the steps between them (`Point.Step`) are the machine
that the program follows (`main_follows`), as for the navigation program.
-/

namespace FlexivAmr.Motion

open Interaction Program Call

/-- `SeerOpenLoopMotionCommand`, with the fields that the program sets. The others stay empty. -/
structure SeerOpenLoopMotionCommand where
  vx : Option ℚ := none
  vy : Option ℚ := none
  w : Option ℚ := none
  /-- In milliseconds. Zero keeps moving until the motion is stopped. -/
  duration : Option ℤ := none
  deriving DecidableEq

/-- The requests of `SeerAmrClient` that the motion program makes. -/
inductive Request
  /-- The constructor. -/
  | construct (options : SeerAmrOptions)
  | connect
  | disconnect
  | isConnected
  | executeOpenLoopMotion (command : SeerOpenLoopMotionCommand)
  | stopOpenLoopMotion
  deriving DecidableEq

/-- What a request returns when it does not throw. -/
abbrev Request.Reply : Request → Type
  | .construct _ | .connect | .disconnect => Unit
  | .isConnected | .executeOpenLoopMotion _ | .stopOpenLoopMotion => Bool

/-- A program of the host, with exceptions in `ε`. -/
abbrev MotionProgram (ε : Type) : Type → Type 1 := Program (Call.Answer Request.Reply) ε

/-- The calls and answers of a run, oldest first. -/
abbrev History : Type := List (Event (Call.Answer Request.Reply))

def kLinearVelocityX : ℚ := 1 / 10
def kLinearVelocityY : ℚ := 0
def kAngularVelocity : ℚ := 1 / 10
def kMotionDurationMs : ℤ := 3000

/-- `kWaitInterval`, in milliseconds. -/
def kWaitInterval : ℤ := 50

/-- The command that `main` sends. -/
def command : SeerOpenLoopMotionCommand where
  vx := some kLinearVelocityX
  vy := some kLinearVelocityY
  w := some kAngularVelocity
  duration := some kMotionDurationMs

/-- A request to the client. -/
def client (request : Request) : MotionProgram StdException request.Reply := make request

/-- The wait of `main` for the end of the motion, or for a signal. -/
def waitForMotion : MotionProgram StdException Unit := do
  let now ← perform Call.steadyNow
  let deadline := now + kMotionDurationMs * 1000000
  loop () fun _ => do
    if ← perform Call.stopRequested then
      return .inl ()
    let now ← perform Call.steadyNow
    if now < deadline then
      perform (Call.sleepFor kWaitInterval)
      return .inr ()
    else
      return .inl ()

/-- An exception on its way to `main`'s handlers, and `motion_started` as it stands. -/
structure Thrown where
  exception : StdException
  motion_started : Bool

/-- A statement of `main`'s `try` block, with `motion_started` as it stands. -/
def during {α : Type} (motion_started : Bool) (p : MotionProgram StdException α) :
    MotionProgram Thrown α :=
  p.mapError fun e => ⟨e, motion_started⟩

/-- The `try` block of `main`. -/
def drive : MotionProgram Thrown Unit := do
  during false (client .connect)
  -- A log line whose argument is a request.
  let _ ← during false (client .isConnected)
  if !(← during false (client (.executeOpenLoopMotion command))) then
    throw ⟨.runtime_error "SEER AMR rejected the open-loop motion command", false⟩
  during true waitForMotion
  if !(← during true (client .stopOpenLoopMotion)) then
    throw ⟨.runtime_error "SEER AMR rejected the stop command", true⟩
  during false (client .disconnect)

/-- The cleanup of `main`, which follows the handlers: the requests' results and exceptions are
dropped. -/
def cleanup (motion_started : Bool) : MotionProgram StdException ℤ := do
  if motion_started then
    let _ ← (client .stopOpenLoopMotion).attempt
  let _ ← (client .disconnect).attempt
  return 1

/-- `main`: its exit code. Only the client's constructor can throw out of it. -/
def main (argv : List String) : MotionProgram StdException ℤ := do
  match argv with
  | _ :: amr_ip :: _ =>
    client (.construct { host := amr_ip, auto_connect := false })
    match ← drive.attempt with
    | .ok () => return 0
    | .error thrown => cleanup thrown.motion_started
  | _ => return 1

/-! ## The control points -/

/-- A control point of `main`: the call that comes next. -/
inductive Point
  | construct
  | connect
  | isConnected
  | execute
  /-- The clock is read for the deadline. -/
  | begin
  /-- The condition of the loop reads the flag. -/
  | flag (deadline : ℤ)
  /-- The condition of the loop reads the clock. -/
  | clock (deadline : ℤ)
  | doze (deadline : ℤ)
  | stop
  | disconnect
  /-- The cleanup stops the motion. -/
  | stopAgain
  /-- The cleanup disconnects. -/
  | disconnectAgain
  /-- `main` has returned. -/
  | done (exit_code : ℤ)
  /-- The client's constructor has thrown. -/
  | failed

namespace Point

/-- The point that the outcome of a request leads to: `next` when it returns, and else `thrown`. -/
def orElse {R : Type} (next : R → Point) (thrown : Point) : Except StdException R → Point
  | .ok reply => next reply
  | .error _ => thrown

/-- The steps of the machine: the point's call, the answer, and the point that it leads to. -/
inductive Step (amr_ip : String) : Point → Event (Call.Answer Request.Reply) → Point → Prop
  | construct (outcome : Except StdException Unit) : Step _ .construct
      ⟨.ask (.construct { host := amr_ip, auto_connect := false }), outcome⟩
      (orElse (fun _ => .connect) .failed outcome)
  | connect (outcome : Except StdException Unit) : Step _ .connect ⟨.ask .connect, outcome⟩
      (orElse (fun _ => .isConnected) .disconnectAgain outcome)
  | isConnected (outcome : Except StdException Bool) :
      Step _ .isConnected ⟨.ask .isConnected, outcome⟩
        (orElse (fun _ => .execute) .disconnectAgain outcome)
  | execute (outcome : Except StdException Bool) :
      Step _ .execute ⟨.ask (.executeOpenLoopMotion command), outcome⟩
        (orElse (fun accepted => if accepted then .begin else .disconnectAgain) .disconnectAgain
          outcome)
  | begin (now) : Step _ .begin ⟨.steadyNow, now⟩ (.flag (now + kMotionDurationMs * 1000000))
  | flag (deadline stop) : Step _ (.flag deadline) ⟨.stopRequested, stop⟩
      (if stop then .stop else .clock deadline)
  | clock (deadline now) : Step _ (.clock deadline) ⟨.steadyNow, now⟩
      (if now < deadline then .doze deadline else .stop)
  | doze (deadline) : Step _ (.doze deadline) ⟨.sleepFor kWaitInterval, ()⟩ (.flag deadline)
  | stop (outcome : Except StdException Bool) : Step _ .stop ⟨.ask .stopOpenLoopMotion, outcome⟩
      (orElse (fun accepted => if accepted then .disconnect else .stopAgain) .stopAgain outcome)
  | disconnect (outcome : Except StdException Unit) : Step _ .disconnect ⟨.ask .disconnect, outcome⟩
      (orElse (fun _ => .done 0) .disconnectAgain outcome)
  | stopAgain (outcome : Except StdException Bool) :
      Step _ .stopAgain ⟨.ask .stopOpenLoopMotion, outcome⟩ .disconnectAgain
  | disconnectAgain (outcome : Except StdException Unit) :
      Step _ .disconnectAgain ⟨.ask .disconnect, outcome⟩ (.done 1)

end Point

/-- The machine as a protocol over the program's events. -/
def machine (amr_ip : String) : Protocol (Call.Answer Request.Reply) Point := Point.Step amr_ip

/-! ## The program follows its control points -/

section Follows

variable {amr_ip : String}

/-- Where `main` leaves the machine. -/
def Ends : Except StdException ℤ → Point → Prop
  | .ok code, p => p = .done code
  | .error _, p => p = .failed

/-- Where the `try` block of `main` leaves the machine. -/
def DriveEnds : Except Thrown Unit → Point → Prop
  | .ok _, p => p = .done 0
  | .error thrown, p => p = if thrown.motion_started then .stopAgain else .disconnectAgain

/-- A request in the `try` block: its exception leaves the block, and its reply goes on. -/
theorem request_follows {α : Type} {motion_started : Bool} {request : Request}
    {f : request.Reply → MotionProgram Thrown α} {p : Point} {Q : Except Thrown α → Point → Prop}
    (herror : ∀ e, ∃ p', p.Step amr_ip ⟨.ask request, .error e⟩ p' ∧
      Q (.error ⟨e, motion_started⟩) p')
    (hok : ∀ reply, ∃ p', p.Step amr_ip ⟨.ask request, .ok reply⟩ p' ∧
      Conforms (machine amr_ip) (f reply) Q p') :
    Conforms (machine amr_ip) ((during motion_started (client request)).bind f) Q p := by
  refine conforms_bind.2 (conforms_mapError.2 (conforms_make.2 ?_))
  rintro (e | reply)
  · exact herror e
  · exact hok reply

/-- The wait for the end of the motion. -/
theorem waitForMotion_follows : Conforms (machine amr_ip) waitForMotion
    (fun r p => r = .ok () ∧ p = .stop) .begin := by
  refine conforms_bind.2 fun now => ⟨_, .begin now, ?_⟩
  refine conforms_loop (fun _ p => p = .flag (now + kMotionDurationMs * 1000000)) rfl ?_
  rintro ⟨⟩ p rfl
  refine conforms_bind.2 fun stop => ⟨_, .flag _ stop, ?_⟩
  cases stop with
  | true => exact ⟨rfl, rfl⟩
  | false =>
    refine conforms_bind.2 fun now' => ⟨_, .clock _ now', ?_⟩
    by_cases hwaiting : now' < now + kMotionDurationMs * 1000000
    · rw [if_pos hwaiting, conforms_ret, afterFirst_ok, if_pos hwaiting]
      exact conforms_bind.2 fun _ => ⟨_, .doze _, rfl⟩
    · rw [if_neg hwaiting, conforms_ret, afterFirst_ok, if_neg hwaiting]
      exact ⟨rfl, rfl⟩

/-- The `try` block of `main`. -/
theorem drive_follows : Conforms (machine amr_ip) drive DriveEnds .connect := by
  refine request_follows (fun e => ⟨_, .connect (.error e), rfl⟩) fun _ => ⟨_, .connect (.ok ()), ?_⟩
  refine request_follows (fun e => ⟨_, .isConnected (.error e), rfl⟩)
    fun connected => ⟨_, .isConnected (.ok connected), ?_⟩
  refine request_follows (fun e => ⟨_, .execute (.error e), rfl⟩)
    fun accepted => ⟨_, .execute (.ok accepted), ?_⟩
  cases accepted with
  | false => exact rfl
  | true =>
    refine conforms_bind.2 (conforms_mapError.2 (waitForMotion_follows.mono ?_))
    rintro r p ⟨rfl, rfl⟩
    refine request_follows (fun e => ⟨_, .stop (.error e), rfl⟩)
      fun accepted => ⟨_, .stop (.ok accepted), ?_⟩
    cases accepted with
    | false => exact rfl
    | true =>
      refine conforms_mapError.2 (conforms_make.2 ?_)
      rintro (e | _)
      · exact ⟨_, .disconnect (.error e), rfl⟩
      · exact ⟨_, .disconnect (.ok ()), rfl⟩

/-- The cleanup of `main`. -/
theorem cleanup_follows {motion_started : Bool} :
    Conforms (machine amr_ip) (cleanup motion_started) Ends
      (if motion_started then .stopAgain else .disconnectAgain) := by
  have hdisconnect : Conforms (machine amr_ip)
      ((client .disconnect).attempt.bind fun (_ : Except StdException Unit) =>
        (.ret 1 : MotionProgram StdException ℤ)) Ends .disconnectAgain := by
    refine conforms_bind.2 (conforms_attempt.2 (conforms_make.2 fun outcome => ?_))
    exact ⟨_, .disconnectAgain outcome, rfl⟩
  cases motion_started with
  | false => exact hdisconnect
  | true =>
    refine conforms_bind.2 (conforms_attempt.2 (conforms_make.2 fun outcome => ?_))
    exact ⟨_, .stopAgain outcome, hdisconnect⟩

/-- The point at which `main` starts. -/
def Point.initial : List String → Point
  | _ :: _ :: _ => .construct
  | _ => .done 1

/-- The address on the command line. -/
def address (argv : List String) : String := argv.getD 1 ""

/-- `main` follows the machine. -/
theorem main_follows (argv : List String) :
    Conforms (machine (address argv)) (main argv) Ends (.initial argv) := by
  rcases argv with _ | ⟨program, _ | ⟨amr_ip, rest⟩⟩
  · exact rfl
  · exact rfl
  · refine conforms_bind.2 (conforms_make.2 ?_)
    rintro (e | _)
    · exact ⟨_, .construct (.error e), rfl⟩
    refine ⟨_, .construct (.ok ()), ?_⟩
    refine conforms_bind.2 (conforms_attempt.2 (drive_follows.mono ?_))
    rintro (thrown | _) p rfl
    · exact cleanup_follows
    · exact rfl

end Follows

end FlexivAmr.Motion
