import FlexivAmr.Calls

/-!
# The basic program

`example/seer_basic_example.cpp` as a program of the host: it connects, and then reports the status
of the AMR over and over until the signal comes or a request fails. The structures keep the fields
that the program logs. Log lines have no effect on the program and are left out, but for
`nlohmann::json::dump` in the lines about the encoders, which can throw. JSON values are a type `J`,
and `dump` is a parameter.
-/

namespace FlexivAmr.Basic

open Interaction Program Call

/-- `SeerAmrInfo`. -/
structure SeerAmrInfo where
  amr_id : String := ""
  amr_name : String := ""
  robokit_version : String := ""
  amr_model_name : String := ""
  current_map : String := ""

/-- `SeerAmrPose`. -/
structure SeerAmrPose where
  x : ℚ := 0
  y : ℚ := 0
  angle : ℚ := 0
  confidence : ℚ := 0
  localization_method : ℤ := 0
  current_station : String := ""
  last_station : String := ""

/-- `SeerBatteryStatus`. -/
structure SeerBatteryStatus where
  battery_level : ℚ := 0
  voltage : ℚ := 0
  current : ℚ := 0
  charging : Bool := false

/-- `SeerUltrasonicNode`. -/
structure SeerUltrasonicNode where
  id : ℤ := 0
  dist : ℚ := 0
  valid : Bool := false

/-- `SeerUltrasonicData`. -/
structure SeerUltrasonicData where
  ultrasonic_nodes : List SeerUltrasonicNode := []

/-- `SeerEncoderData`. -/
structure SeerEncoderData (J : Type) where
  motor_encoders : List J := []
  legacy_encoder_pulses : List ℤ := []

/-- `SeerImuData`. -/
structure SeerImuData where
  yaw : ℚ := 0
  roll : ℚ := 0
  pitch : ℚ := 0
  acc_x : ℚ := 0
  acc_y : ℚ := 0
  acc_z : ℚ := 0
  rot_x : ℚ := 0
  rot_y : ℚ := 0
  rot_z : ℚ := 0

/-- The requests of `SeerAmrClient` that the basic program makes. -/
inductive Request
  /-- The constructor. -/
  | construct (options : SeerAmrOptions)
  | connect
  | disconnect
  | isConnected
  | getAmrInfo
  | getAmrPose
  | getBatteryStatus
  | getNavigationStatus
  | getTaskStatus
  | getLocationStatus
  | getUltrasonicData
  | getEncoderData
  | getImuData
  deriving DecidableEq

/-- What a request returns when it does not throw. -/
abbrev Request.Reply (J : Type) : Request → Type
  | .construct _ | .connect | .disconnect => Unit
  | .isConnected => Bool
  | .getAmrInfo => SeerAmrInfo
  | .getAmrPose => SeerAmrPose
  | .getBatteryStatus => SeerBatteryStatus
  | .getNavigationStatus => SeerNavigationStatus
  | .getTaskStatus => SeerTaskStatus
  | .getLocationStatus => ℤ
  | .getUltrasonicData => SeerUltrasonicData
  | .getEncoderData => SeerEncoderData J
  | .getImuData => SeerImuData

variable {J : Type}

/-- A program of the host, with exceptions in `ε`. -/
abbrev BasicProgram (J ε : Type) : Type → Type 1 := Program (Call.Answer (Request.Reply J)) ε

/-- The calls and answers of a run, oldest first. -/
abbrev History (J : Type) : Type := List (Event (Call.Answer (Request.Reply J)))

/-- A request to the client. -/
def client (request : Request) : BasicProgram J StdException (request.Reply J) := make request

/-- `std::isspace`. -/
def isspace (c : Char) : Bool :=
  [' ', '\t', '\n', '\x0b', '\x0c', '\r'].contains c

/-- `std::stoi`: white space, a sign, and digits, up to the first other character. -/
def stoi (text : String) : Except StdException ℤ :=
  let chars := text.toList.dropWhile isspace
  let digits := (if chars.head? = some '-' ∨ chars.head? = some '+' then chars.tail else chars).takeWhile
    Char.isDigit
  let value : ℤ := Nat.ofDigitChars 10 digits 0
  let value := if chars.head? = some '-' then -value else value
  if digits = [] then
    .error (.invalid_argument "stoi")
  else if value < -2147483648 ∨ 2147483647 < value then
    .error (.other "stoi")
  else
    .ok value

example : stoi " -250ms" = .ok (-250) := by decide
example : stoi "2147483648" = .error (.other "stoi") := by decide

/-- The lines for `motor_encoders`. -/
def logMotorEncoders (dump : J → Except StdException String) : List J → Except StdException Unit
  | [] => .ok ()
  | motor_encoder :: rest => do
    let _ ← dump motor_encoder
    logMotorEncoders dump rest

/-- The `try` block of a round. -/
def pollStatus (dump : J → Except StdException String) : BasicProgram J StdException Unit := do
  let _ ← client .getAmrPose
  let _ ← client .getBatteryStatus
  let _ ← client .getNavigationStatus
  let _ ← client .getTaskStatus
  let _ ← client .getLocationStatus
  let _ ← client .getUltrasonicData
  let encoder_data ← client .getEncoderData
  .ended (logMotorEncoders dump encoder_data.motor_encoders)
  let _ ← client .getImuData
  let _ ← client .isConnected

/-- The body of the loop. -/
def poll (dump : J → Except StdException String) (interval_ms : ℤ) :
    BasicProgram J StdException (Unit ⊕ Unit) := do
  match ← (pollStatus dump).attempt with
  -- Both handlers break out of the loop.
  | .error _ => return .inl ()
  | .ok () =>
    perform (Call.sleepFor interval_ms)
    return .inr ()

/-- A round of the loop: its condition and its body. -/
def pollRound (dump : J → Except StdException String) (interval_ms : ℤ) :
    BasicProgram J StdException (Unit ⊕ Unit) := do
  if ← perform Call.stopRequested then
    return .inl ()
  else
    poll dump interval_ms

/-- The `try` block of `main`. -/
def session (dump : J → Except StdException String) (amr_ip : String) (interval_ms : ℤ) :
    BasicProgram J StdException Unit := do
  client (.construct { host := amr_ip, auto_connect := false })
  client .connect
  let _ ← client .isConnected
  let _ ← client .getAmrInfo
  loop () fun _ => pollRound dump interval_ms
  client .disconnect

/-- The interval on the command line. -/
def interval : List String → Except StdException ℤ
  | [] => .ok 1000
  | text :: _ => stoi text

/-- `main`: its exit code. What `std::stoi` throws leaves it. -/
def main (dump : J → Except StdException String) (argv : List String) :
    BasicProgram J StdException ℤ := do
  match argv with
  | _ :: amr_ip :: rest =>
    let interval_ms ← (.ended (interval rest) : BasicProgram J StdException ℤ)
    match ← (session dump amr_ip interval_ms).attempt with
    | .ok () => return 0
    | .error _ => return 1
  | _ => return 1

end FlexivAmr.Basic
