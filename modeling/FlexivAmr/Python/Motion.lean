import FlexivAmr.Motion
import FlexivAmr.Python.Host
import Mathlib.Algebra.Order.Field.Rat

/-!
# The motion program in Python

`example_py/seer_motion_example.py` as a program of the host, from the construction of the client
on, with the machine of its control points that it follows (`main_follows`), as for the C++ program.
The program assigns a `float` to the integer field `duration` of its command. What comes of that is
up to the bindings, so it is a parameter: `assigned` is the duration that the command gets, or the
exception that is raised.
-/

namespace FlexivAmr.Python.Motion

open Interaction Program
open FlexivAmr.Motion (SeerOpenLoopMotionCommand)

/-- A program of the host, with exceptions in `ε`. -/
abbrev MotionProgram (ε : Type) : Type → Type 1 := Program (Op.Answer Motion.Request.Reply) ε

/-- The calls and answers of a run, oldest first. -/
abbrev History : Type := List (Event (Op.Answer Motion.Request.Reply))

def linearVelocityX : ℚ := 1 / 10
def linearVelocityY : ℚ := 0
def angularVelocity : ℚ := 1 / 10
def motionDurationMs : ℚ := 3000
def waitIntervalSeconds : ℚ := 5 / 100

variable {α : Type}

/-- A request to the client, whose exception the program raises. -/
def client (request : Motion.Request) : MotionProgram PyException request.Reply :=
  .call (.client request) fun (outcome : Except PyException request.Reply) => .ended outcome

/-- The command that `main` sends. -/
def command (duration : ℤ) : SeerOpenLoopMotionCommand where
  vx := some linearVelocityX
  vy := some linearVelocityY
  w := some angularVelocity
  duration := some duration

/-- The wait of `main` for the end of the motion, or for a signal. -/
def waitForMotion : MotionProgram PyException Unit := do
  let now ← perform Op.monotonic
  let deadline := now + motionDurationMs / 1000
  loop () fun _ => do
    if ← perform Op.stopRequested then
      return .inl ()
    let now ← perform Op.monotonic
    if now < deadline then
      perform (Op.sleep waitIntervalSeconds)
      return .inr ()
    else
      return .inl ()

/-- An exception on its way to `main`'s handlers, and `motion_started` as it stands. -/
structure Thrown where
  exception : PyException
  motion_started : Bool

/-- A statement of `main`'s `try` block, with `motion_started` as it stands. -/
def during (motion_started : Bool) (p : MotionProgram PyException α) : MotionProgram Thrown α :=
  p.mapError fun e => ⟨e, motion_started⟩

/-- The `try` block of `main`. -/
def drive (assigned : Except PyException ℤ) : MotionProgram Thrown Unit := do
  during false (client .connect)
  let _ ← during false (client .isConnected)
  let duration ← during false (.ended assigned)
  if !(← during false (client (.executeOpenLoopMotion (command duration)))) then
    throw ⟨.runtimeError "SEER AMR rejected the open-loop motion command", false⟩
  during true waitForMotion

/-- The request with which the `finally` block stops the motion, and the exit code after it. -/
def stopMotion (motion_started : Bool) (exit_code : ℤ) : MotionProgram PyException ℤ := do
  if motion_started then
    match ← (client .stopOpenLoopMotion).attempt with
    | .ok true => return exit_code
    | _ => return 1
  else
    return exit_code

/-- The requests with which the `finally` block disconnects. -/
def close : MotionProgram PyException Unit := do
  if ← client .isConnected then
    client .disconnect

/-- The `finally` block of `main`: the exit code. -/
def cleanup (motion_started : Bool) (exit_code : ℤ) : MotionProgram PyException ℤ := do
  let exit_code ← stopMotion motion_started exit_code
  match ← close.attempt with
  | .ok () => return exit_code
  | .error _ => return 1

/-- `main` from the construction of the client on: its exit code. -/
def main (assigned : Except PyException ℤ) (amr_ip : String) : MotionProgram PyException ℤ := do
  client (.construct { host := amr_ip, auto_connect := false, auto_reconnect := true })
  match ← (drive assigned).attempt with
  | .ok () => cleanup true 0
  -- Both handlers set the exit code.
  | .error thrown => cleanup thrown.motion_started 1

/-! ## The control points -/

/-- A control point of `main`: the call that comes next. -/
inductive Point
  | construct
  | connect
  | isConnected
  | execute
  /-- The clock is read for the deadline. -/
  | begin
  /-- The condition of the loop reads the flag. -/
  | flag (deadline : ℚ)
  /-- The condition of the loop reads the clock. -/
  | clock (deadline : ℚ)
  | doze (deadline : ℚ)
  | stop
  /-- The `finally` block asks whether the client is connected. -/
  | close (exit_code : ℤ)
  | disconnect (exit_code : ℤ)
  /-- `main` has returned. -/
  | done (exit_code : ℤ)
  /-- The client's constructor has raised. -/
  | failed

namespace Point

/-- The point that the outcome of a request leads to: `next` when it returns, and else `raised`. -/
def orElse {R : Type} (next : R → Point) (raised : Point) : Except PyException R → Point
  | .ok reply => next reply
  | .error _ => raised

/-- The point after the command has been made, if it has. -/
def assign : Except PyException ℤ → Point
  | .ok _ => .execute
  | .error _ => .close 1

/-- The steps of the machine: the point's call, the answer, and the point that it leads to. -/
inductive Step (assigned : Except PyException ℤ) (amr_ip : String) :
    Point → Event (Op.Answer Motion.Request.Reply) → Point → Prop
  | construct (outcome : Except PyException Unit) : Step _ _ .construct
      ⟨.client (.construct { host := amr_ip, auto_connect := false, auto_reconnect := true }), outcome⟩
      (orElse (fun _ => .connect) .failed outcome)
  | connect (outcome : Except PyException Unit) : Step _ _ .connect ⟨.client .connect, outcome⟩
      (orElse (fun _ => .isConnected) (.close 1) outcome)
  | isConnected (outcome : Except PyException Bool) :
      Step _ _ .isConnected ⟨.client .isConnected, outcome⟩
        (orElse (fun _ => assign assigned) (.close 1) outcome)
  | execute (duration) (outcome : Except PyException Bool) (hassigned : assigned = .ok duration) :
      Step _ _ .execute ⟨.client (.executeOpenLoopMotion (command duration)), outcome⟩
        (orElse (fun accepted => if accepted then .begin else .close 1) (.close 1) outcome)
  | begin (now) : Step _ _ .begin ⟨.monotonic, now⟩ (.flag (now + motionDurationMs / 1000))
  | flag (deadline stop) : Step _ _ (.flag deadline) ⟨.stopRequested, stop⟩
      (if stop then .stop else .clock deadline)
  | clock (deadline now) : Step _ _ (.clock deadline) ⟨.monotonic, now⟩
      (if now < deadline then .doze deadline else .stop)
  | doze (deadline) : Step _ _ (.doze deadline) ⟨.sleep waitIntervalSeconds, ()⟩ (.flag deadline)
  | stop (outcome : Except PyException Bool) :
      Step _ _ .stop ⟨.client .stopOpenLoopMotion, outcome⟩
        (orElse (fun accepted => .close (if accepted then 0 else 1)) (.close 1) outcome)
  | close (exit_code) (outcome : Except PyException Bool) :
      Step _ _ (.close exit_code) ⟨.client .isConnected, outcome⟩
        (orElse (fun connected => if connected then .disconnect exit_code else .done exit_code)
          (.done 1) outcome)
  | disconnect (exit_code) (outcome : Except PyException Unit) :
      Step _ _ (.disconnect exit_code) ⟨.client .disconnect, outcome⟩
        (orElse (fun _ => .done exit_code) (.done 1) outcome)

end Point

/-- The machine as a protocol over the program's events. -/
def machine (assigned : Except PyException ℤ) (amr_ip : String) :
    Protocol (Op.Answer Motion.Request.Reply) Point :=
  Point.Step assigned amr_ip

/-! ## The program follows its control points -/

section Follows

variable {assigned : Except PyException ℤ} {amr_ip : String}

/-- Where `main` leaves the machine. -/
def Ends : Except PyException ℤ → Point → Prop
  | .ok code, p => p = .done code
  | .error _, p => p = .failed

/-- Where the `try` block of `main` leaves the machine. -/
def DriveEnds : Except Thrown Unit → Point → Prop
  | .ok _, p => p = .stop
  | .error thrown, p => thrown.motion_started = false ∧ p = .close 1

/-- A request conforms when the protocol can follow each of its outcomes. -/
theorem conforms_client {S : Type} {P : Protocol (Op.Answer Motion.Request.Reply) S}
    {request : Motion.Request} {Q : Except PyException request.Reply → S → Prop} {s : S} :
    Conforms P (client request) Q s ↔
      ∀ outcome : Except PyException request.Reply,
        ∃ s', P s ⟨.client request, outcome⟩ s' ∧ Q outcome s' :=
  forall_congr' fun _ => exists_congr fun s' => and_congr_right' (by rw [conforms_ended])

/-- A request in the `try` block: its exception leaves the block, and its reply goes on. -/
theorem request_follows {request : Motion.Request} {f : request.Reply → MotionProgram Thrown α}
    {p : Point} {Q : Except Thrown α → Point → Prop}
    (herror : ∀ e, ∃ p', p.Step assigned amr_ip ⟨.client request, .error e⟩ p' ∧
      Q (.error ⟨e, false⟩) p')
    (hok : ∀ reply, ∃ p', p.Step assigned amr_ip ⟨.client request, .ok reply⟩ p' ∧
      Conforms (machine assigned amr_ip) (f reply) Q p') :
    Conforms (machine assigned amr_ip) ((during false (client request)).bind f) Q p := by
  refine conforms_bind.2 (conforms_mapError.2 (conforms_client.2 ?_))
  rintro (e | reply)
  · exact herror e
  · exact hok reply

/-- The wait for the end of the motion. -/
theorem waitForMotion_follows : Conforms (machine assigned amr_ip) waitForMotion
    (fun r p => r = .ok () ∧ p = .stop) .begin := by
  refine conforms_bind.2 fun now => ⟨_, .begin now, ?_⟩
  refine conforms_loop (fun _ p => p = .flag (now + motionDurationMs / 1000)) rfl ?_
  rintro ⟨⟩ p rfl
  refine conforms_bind.2 fun stop => ⟨_, .flag _ stop, ?_⟩
  cases stop with
  | true => exact ⟨rfl, rfl⟩
  | false =>
    refine conforms_bind.2 fun now' => ⟨_, .clock _ now', ?_⟩
    by_cases hwaiting : now' < now + motionDurationMs / 1000
    · rw [if_pos hwaiting, conforms_ret, afterFirst_ok, if_pos hwaiting]
      exact conforms_bind.2 fun _ => ⟨_, .doze _, rfl⟩
    · rw [if_neg hwaiting, conforms_ret, afterFirst_ok, if_neg hwaiting]
      exact ⟨rfl, rfl⟩

/-- The `try` block of `main`. -/
theorem drive_follows :
    Conforms (machine assigned amr_ip) (drive assigned) DriveEnds .connect := by
  refine request_follows (fun e => ⟨_, .connect (.error e), rfl, rfl⟩)
    fun _ => ⟨_, .connect (.ok ()), ?_⟩
  refine request_follows (fun e => ⟨_, .isConnected (.error e), rfl, rfl⟩)
    fun connected => ⟨_, .isConnected (.ok connected), ?_⟩
  refine conforms_bind.2 (conforms_mapError.2 ?_)
  rw [conforms_ended]
  cases hassigned : assigned with
  | error e => exact ⟨rfl, rfl⟩
  | ok duration =>
    refine request_follows (fun e => ⟨_, .execute duration (.error e) rfl, rfl, rfl⟩)
      fun accepted => ⟨_, .execute duration (.ok accepted) rfl, ?_⟩
    cases accepted with
    | false => exact ⟨rfl, rfl⟩
    | true =>
      refine conforms_mapError.2 (waitForMotion_follows.mono ?_)
      rintro r p ⟨rfl, rfl⟩
      exact rfl

/-- The requests with which the `finally` block disconnects. -/
theorem close_follows {exit_code : ℤ} :
    Conforms (machine assigned amr_ip) (close.attempt.bind fun ended =>
      match ended with
      | .ok () => .ret exit_code
      | .error _ => .ret 1) Ends (.close exit_code) := by
  refine conforms_bind.2 (conforms_attempt.2 (conforms_bind.2 (conforms_client.2 ?_)))
  rintro (e | _ | _)
  · exact ⟨_, .close exit_code (.error e), rfl⟩
  · exact ⟨_, .close exit_code (.ok false), rfl⟩
  · refine ⟨_, .close exit_code (.ok true), conforms_client.2 ?_⟩
    rintro (e | _)
    · exact ⟨_, .disconnect exit_code (.error e), rfl⟩
    · exact ⟨_, .disconnect exit_code (.ok ()), rfl⟩

/-- `main` follows the machine. -/
theorem main_follows :
    Conforms (machine assigned amr_ip) (main assigned amr_ip) Ends .construct := by
  refine conforms_bind.2 (conforms_client.2 ?_)
  rintro (e | _)
  · exact ⟨_, .construct (.error e), rfl⟩
  refine ⟨_, .construct (.ok ()), ?_⟩
  refine conforms_bind.2 (conforms_attempt.2 (drive_follows.mono ?_))
  rintro (thrown | _) p hp
  · obtain ⟨exception, motion_started⟩ := thrown
    obtain ⟨rfl, rfl⟩ := hp
    exact close_follows
  · obtain rfl : p = .stop := hp
    refine conforms_bind.2 (conforms_bind.2 (conforms_attempt.2 (conforms_client.2 ?_)))
    rintro (e | _ | _)
    · exact ⟨_, .stop (.error e), close_follows⟩
    · exact ⟨_, .stop (.ok false), close_follows⟩
    · exact ⟨_, .stop (.ok true), close_follows⟩

end Follows

end FlexivAmr.Python.Motion
