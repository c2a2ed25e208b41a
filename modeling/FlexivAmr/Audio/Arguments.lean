import FlexivAmr.Audio.Path

/-!
# The command line of the audio program

`ParseArguments` of `example/seer_audio_example.cpp`. The loop over `argv` is a recursion on the
tokens that are left, and `argv[++i]` is the next of them.
-/

namespace FlexivAmr.Audio

/-- `ProgramOptions`. -/
structure ProgramOptions where
  amr_ip : String := ""
  audio_name : String := ""
  upload_file : String := ""
  download_file : String := ""
  loop : Bool := false
  pause : Bool := false
  deriving DecidableEq

/-- The loop of `ParseArguments` over the tokens that are left, with the options found so far. -/
def parseArgumentsLoop : List String → ProgramOptions → Except StdException ProgramOptions
  | [], options => .ok options
  | arg :: rest, options =>
    if arg = "--loop" then
      parseArgumentsLoop rest { options with loop := true }
    else if arg = "--pause" then
      parseArgumentsLoop rest { options with pause := true }
    else if arg = "--download" then
      -- The next token is the file, also when it is itself the name of an option.
      match rest with
      | [] => .error (.invalid_argument "--download requires an output file path")
      | file :: rest => parseArgumentsLoop rest { options with download_file := file }
    else if hasUnsupportedAudioExtension arg then
      .error (.invalid_argument "only .wav audio files are supported")
    else if isAudioFilePath arg && options.upload_file = "" then
      parseArgumentsLoop rest { options with upload_file := arg }
    else if options.audio_name = "" then
      parseArgumentsLoop rest { options with audio_name := arg }
    else
      .error (.invalid_argument ("unexpected argument: " ++ arg))

/-- The last checks of `ParseArguments`. -/
def requireName (options : ProgramOptions) : Except StdException ProgramOptions :=
  if !options.pause && options.audio_name = "" then
    .error (.invalid_argument "audio_name is required unless --pause is used alone")
  else if options.download_file ≠ "" && options.audio_name = "" then
    .error (.invalid_argument "audio_name is required when downloading audio")
  else
    .ok options

/-- `ParseArguments` after its loop. -/
def checkArguments (options : ProgramOptions) : Except StdException ProgramOptions :=
  if options.upload_file ≠ "" then do
    let audio_name ← audioNameFromPath options.upload_file
    requireName { options with audio_name := audio_name }
  else
    requireName options

/-- `ParseArguments`, on `argv` as a list. -/
def parseArguments (argv : List String) : Except StdException ProgramOptions :=
  match argv with
  | _ :: amr_ip :: rest => do
    let options ← parseArgumentsLoop rest { amr_ip := amr_ip }
    checkArguments options
  | _ => .error (.invalid_argument "missing required arguments")

end FlexivAmr.Audio
