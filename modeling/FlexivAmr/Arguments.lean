import FlexivAmr.Data

/-!
# The command line of the navigation program

`ParseFiniteDouble` and `ParseOptions` of `example/seer_navigation_example.cpp`. `std::stod` is a
parameter: from a string it makes a `double` and the number of characters it has read, or it throws.
The loop over `argv` is a recursion on the tokens that are left, and `argv[++i]` is the next of
them. A finite `double` is the rational that it stands for.
-/

namespace FlexivAmr

/-- A `double`: a finite value, an infinity, or not a number. -/
inductive Double
  | finite (value : ℚ)
  | infinite (negative : Bool)
  | nan
  deriving DecidableEq

/-- `std::stod` with its second argument: the value, and how many characters were read. -/
abbrev Stod : Type := String → Except StdException (Double × ℕ)

/-- `ExampleOptions`. -/
structure ExampleOptions where
  amr_ip : String := ""
  source_id : String := ""
  target_ids : List String := []
  pause_after_seconds : Option ℚ := none
  timeout_seconds : ℚ := 300
  deriving DecidableEq

/-- `ParseFiniteDouble`: the whole of `text` as a finite number. -/
def parseFiniteDouble (stod : Stod) (text name : String) : Except StdException ℚ :=
  match stod text with
  | .error e => .error e
  | .ok (.finite value, parsed) =>
    -- `text.size()` counts bytes.
    if parsed ≠ text.utf8ByteSize then
      .error (.invalid_argument (name ++ " must be a finite number"))
    else
      .ok value
  -- An infinity or not a number: the error is the same, however much was read.
  | .ok _ => .error (.invalid_argument (name ++ " must be a finite number"))

/-- `argument.rfind("--", 0) == 0`: the argument begins with `--`. -/
def isOption (argument : String) : Bool := "--".toList.isPrefixOf argument.toList

/-- The loop of `ParseOptions` over the tokens that are left, with the options and the stations
found so far. -/
def parseOptionsLoop (stod : Stod) :
    List String → ExampleOptions → List String → Except StdException (ExampleOptions × List String)
  | [], options, stations => .ok (options, stations)
  | argument :: rest, options, stations =>
    if argument = "--pause-after" then
      -- `i + 1 >= argc` when no token is left. The value is taken as it is, also when it is itself
      -- the name of an option.
      match rest with
      | [] => .error (.invalid_argument "--pause-after requires seconds")
      | text :: rest => do
        let seconds ← parseFiniteDouble stod text "pause-after seconds"
        if seconds < 0 then
          throw (.invalid_argument "pause-after seconds must be non-negative")
        parseOptionsLoop stod rest { options with pause_after_seconds := some seconds } stations
    else if argument = "--timeout" then
      match rest with
      | [] => .error (.invalid_argument "--timeout requires seconds")
      | text :: rest => do
        let seconds ← parseFiniteDouble stod text "timeout seconds"
        if seconds ≤ 0 then
          throw (.invalid_argument "timeout seconds must be greater than zero")
        parseOptionsLoop stod rest { options with timeout_seconds := seconds } stations
    else if isOption argument then
      .error (.invalid_argument ("unknown option: " ++ argument))
    else
      parseOptionsLoop stod rest options (stations ++ [argument])

/-- `ParseOptions`, on `argv` as a list. -/
def parseOptions (stod : Stod) (argv : List String) : Except StdException ExampleOptions :=
  match argv with
  | _ :: amr_ip :: token₂ :: token₃ :: rest => do
    -- `argc` is at least 4, and the loop starts at `argv[2]`.
    let (options, stations) ←
      parseOptionsLoop stod (token₂ :: token₃ :: rest) { amr_ip := amr_ip } []
    match stations with
    | source_id :: target_id :: target_ids =>
      return { options with source_id := source_id, target_ids := target_id :: target_ids }
    | _ => throw (.invalid_argument "source_id and at least one target_id are required")
  | _ => .error (.invalid_argument "amr_ip, source_id, and at least one target_id are required")

end FlexivAmr
