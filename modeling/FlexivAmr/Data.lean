import Mathlib.Data.Rat.Defs

/-!
# The data of the SDK

The exceptions of `include/flexiv/amr/exceptions.h`, and of
`include/flexiv/amr/vendor/seer/seer_data.h` and `seer_options.h` the structures that the
navigation program exchanges with `SeerAmrClient`. Structures keep the fields that the program sets
or reads, with their defaults. A `double` that the client reports is a rational.
-/

namespace FlexivAmr

/-- `AmrErrorCode`: what an SDK exception says went wrong. -/
inductive AmrErrorCode
  | kUnknown
  | kConnectTimeout
  | kSendTimeout
  | kRecvTimeout
  | kResolveFailed
  | kConnectFailed
  | kSendFailed
  | kRecvFailed
  | kDisconnected
  | kInvalidHeader
  | kInvalidJson
  | kInvalidFrame
  | kRobotRejected
  | kUnsupportedCommand
  | kInternalError
  deriving DecidableEq

/-- A `std::exception`, by the dynamic type that the program's handlers can tell apart. -/
inductive StdException
  /-- `AmrException` and its subclasses. -/
  | amr (code : AmrErrorCode) (message : String)
  /-- `std::invalid_argument`. -/
  | invalid_argument (message : String)
  /-- `std::runtime_error`, thrown by the program itself. -/
  | runtime_error (message : String)
  /-- `std::bad_optional_access`, thrown by `std::optional::value`. -/
  | bad_optional_access
  /-- Any other exception. -/
  | other (message : String)
  deriving DecidableEq

/-- `SeerTimeoutOptions`, in milliseconds. -/
structure SeerTimeoutOptions where
  connect_timeout_ms : ℤ := 3000
  send_timeout_ms : ℤ := 3000
  recv_timeout_ms : ℤ := 3000
  deriving DecidableEq

/-- `SeerPortOptions`. -/
structure SeerPortOptions where
  status_port : UInt16 := 19204
  control_port : UInt16 := 19205
  navigation_port : UInt16 := 19206
  config_port : UInt16 := 19207
  operation_port : UInt16 := 19210
  push_port : UInt16 := 19301
  deriving DecidableEq

/-- `SeerAmrOptions`. -/
structure SeerAmrOptions where
  host : String := ""
  time_out : SeerTimeoutOptions := {}
  ports : SeerPortOptions := {}
  auto_connect : Bool := true
  auto_reconnect : Bool := true
  deriving DecidableEq

/-- `SeerEmergencyStatus`. -/
structure SeerEmergencyStatus where
  emergency : Bool := false
  driver_emc : Bool := false
  electric : Bool := false
  soft_emc : Bool := false
  deriving DecidableEq

/-- `SeerBlockStatus`, with the fields that the program logs. -/
structure SeerBlockStatus where
  blocked : Bool := false
  block_reason : ℤ := -1
  block_id : ℤ := -1
  deriving DecidableEq

/-- `SeerNavigationStatus`. `task_status` uses SEER values: 0 none, 2 running, 3 suspended,
4 completed, 5 failed, and 6 canceled. -/
structure SeerNavigationStatus where
  task_status : ℤ := 0
  task_type : ℤ := 0
  target_id : String := ""
  finished_path : List String := []
  unfinished_path : List String := []
  deriving DecidableEq

/-- `SeerTaskState`. -/
structure SeerTaskState where
  status : ℤ := 0
  type : ℤ := 0
  task_id : String := ""
  deriving DecidableEq

/-- `SeerTaskStatus`. -/
structure SeerTaskStatus where
  percentage : ℚ := 0
  distance : ℚ := 0
  closest_target : String := ""
  source_name : String := ""
  target_name : String := ""
  info : String := ""
  task_states : List SeerTaskState := []
  deriving DecidableEq

/-- `SeerPathNaviCommand`, with the fields that the program sets. The others stay empty. -/
structure SeerPathNaviCommand where
  source_id : Option String := none
  id : Option String := none
  task_id : Option String := none
  deriving DecidableEq

end FlexivAmr
