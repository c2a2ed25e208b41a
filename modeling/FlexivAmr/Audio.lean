import FlexivAmr.Audio.Arguments
import FlexivAmr.Interaction.Steps

/-!
# The audio program

`example/seer_audio_example.cpp` as a program: requests to a `SeerAmrClient`, pauses, and the files
that it reads and writes. The log lines that report what a check has found are calls; those that
announce a request or print a status are left out. `main` is cut at its `if` statements, one
definition for each (`pauseBlock`, `downloadBlock`, `uploadBlock`, `playBlock`).
-/

namespace FlexivAmr.Audio

open Interaction Program

/-- `SeerAudioStatus`. -/
structure SeerAudioStatus where
  status : ℤ := 0
  sound_name : String := ""
  loop : Bool := false
  count : ℤ := 0
  deriving DecidableEq

/-- The requests of `SeerAmrClient` that the audio program makes. -/
inductive Request
  /-- The constructor. -/
  | construct (options : SeerAmrOptions)
  | connect
  | disconnect
  | isConnected
  | getAudioStatus
  | pauseAudio
  | playAudio (name : String) (loop : Bool)
  | uploadAudio (audio_file : String)
  | downloadAudio (name : String)
  deriving DecidableEq

/-- What a request returns when it does not throw. -/
abbrev Request.Reply : Request → Type
  | .construct _ | .connect | .disconnect => Unit
  | .isConnected | .pauseAudio | .playAudio _ _ | .uploadAudio _ => Bool
  | .getAudioStatus => SeerAudioStatus
  | .downloadAudio _ => List UInt8

/-- The calls that the program makes. -/
inductive Op
  /-- A request to the client. -/
  | client (request : Request)
  /-- `std::this_thread::sleep_for`, in milliseconds. -/
  | sleepFor (duration : ℤ)
  /-- The constructor of `std::ifstream`, and whether the stream is good. -/
  | openInput (path : String)
  /-- The characters of an open file up to its end. -/
  | readInput (path : String)
  /-- The constructor of `std::ofstream`, and whether the stream is good. -/
  | openOutput (path : String)
  /-- `std::ofstream::write`, and whether the stream is still good. -/
  | writeOutput (path : String) (data : List UInt8)
  /-- The destructor of `std::ofstream`, and whether what was left to write could be written. -/
  | closeOutput (path : String)
  /-- A log line. -/
  | log (message : String)
  deriving DecidableEq

/-- The answers to the program's calls. -/
abbrev Op.Answer : Op → Type
  | .client request => Except StdException request.Reply
  | .openInput _ | .openOutput _ | .writeOutput _ _ | .closeOutput _ => Bool
  | .readInput _ => List UInt8
  | .sleepFor _ | .log _ => Unit

/-- An audio program, with exceptions in `ε`. -/
abbrev AudioProgram (ε : Type) : Type → Type 1 := Program Op.Answer ε

/-- The calls and answers of a run, oldest first. -/
abbrev History : Type := List (Event Op.Answer)

/-- `kUploadReadyDelay`, in milliseconds. -/
def kUploadReadyDelay : ℤ := 1000

/-- `kStatusPollInterval`, in milliseconds. -/
def kStatusPollInterval : ℤ := 300

def kStatusPollCount : ℕ := 8

/-- A request to the client, whose exception the program throws. -/
def client (request : Request) : AudioProgram StdException request.Reply :=
  .call (.client request) fun (outcome : Except StdException request.Reply) => .ended outcome

/-- A log line. -/
def log (message : String) : AudioProgram StdException Unit := perform (Op.log message)

/-- `WriteBinaryFile`. -/
def writeBinaryFile (path : String) (data : List UInt8) : AudioProgram StdException Unit := do
  if !(← perform (Op.openOutput path)) then
    throw (.runtime_error ("failed to open output file: " ++ path))
  let written ← perform (Op.writeOutput path data)
  -- The stream is closed on the way out, with an exception or without.
  let _ ← perform (Op.closeOutput path)
  if !written then
    throw (.runtime_error ("failed to write output file: " ++ path))

/-- `ReadBinaryFile`. -/
def readBinaryFile (path : String) : AudioProgram StdException (List UInt8) := do
  if !(← perform (Op.openInput path)) then
    throw (.runtime_error ("failed to open input file: " ++ path))
  perform (Op.readInput path)

/-- `LogAudioStatus`. -/
def logAudioStatus : AudioProgram StdException SeerAudioStatus := client .getAudioStatus

/-- The log line of a verification that finds another size. -/
def sizeMessage (downloaded_size local_size : ℕ) : String :=
  "Downloaded size " ++ toString downloaded_size ++ " differs from local size " ++
    toString local_size ++
    ". The upload was readable by name, but the bytes are not identical."

/-- The log line of a verification that finds other bytes. -/
def contentMessage (audio_name : String) : String :=
  "Downloaded audio '" ++ audio_name ++
    "' has the same size as the local file but different content."

/-- The log line of a verification that finds the same bytes. -/
def verifiedMessage (audio_name : String) : String :=
  "Upload verification succeeded: '" ++ audio_name ++ "' is readable by name and bytes match."

/-- `VerifyUploadedAudio`. -/
def verifyUploadedAudio (audio_name upload_file : String) : AudioProgram StdException Unit := do
  perform (Op.sleepFor kUploadReadyDelay)
  let local_data ← readBinaryFile upload_file
  let downloaded_data ← client (.downloadAudio audio_name)
  if downloaded_data.length ≠ local_data.length then
    log (sizeMessage downloaded_data.length local_data.length)
  else if downloaded_data ≠ local_data then
    log (contentMessage audio_name)
  else
    log (verifiedMessage audio_name)

/-- The loop of `PollAudioStatusAfterPlay`, with the polls that are left. -/
def pollAudioStatusLoop (audio_name : String) : ℕ → AudioProgram StdException Unit
  | 0 => log ("AMR did not report '" ++ audio_name ++ "' as current sound after the play " ++
      "command. If upload verification succeeded, check audio format/codec support and robot " ++
      "speaker configuration.")
  | polls + 1 => do
    perform (Op.sleepFor kStatusPollInterval)
    let status ← logAudioStatus
    if status.sound_name = audio_name || status.sound_name = audio_name ++ ".wav" then
      log ("AMR reports requested audio '" ++ audio_name ++ "' as current sound.")
    else
      pollAudioStatusLoop audio_name polls

/-- `PollAudioStatusAfterPlay`. -/
def pollAudioStatusAfterPlay (audio_name : String) : AudioProgram StdException Unit :=
  pollAudioStatusLoop audio_name kStatusPollCount

/-- The pause of `main`. -/
def pauseBlock (options : ProgramOptions) : AudioProgram StdException Unit := do
  if options.pause then
    if !(← client .pauseAudio) then
      throw (.runtime_error "SEER AMR rejected the pause audio command")
    perform (Op.sleepFor 200)
    let _ ← logAudioStatus

/-- The download of `main`. -/
def downloadBlock (options : ProgramOptions) : AudioProgram StdException Unit := do
  if options.download_file ≠ "" then
    let audio_data ← client (.downloadAudio options.audio_name)
    writeBinaryFile options.download_file audio_data

/-- The upload of `main`. -/
def uploadBlock (options : ProgramOptions) : AudioProgram StdException Unit := do
  if options.upload_file ≠ "" then
    if !(← client (.uploadAudio options.upload_file)) then
      throw (.runtime_error "SEER AMR rejected the upload audio command")
    verifyUploadedAudio options.audio_name options.upload_file

/-- The playback of `main`. -/
def playBlock (options : ProgramOptions) : AudioProgram StdException Unit := do
  if options.audio_name ≠ "" && options.download_file = "" then
    if !(← client (.playAudio options.audio_name options.loop)) then
      throw (.runtime_error "SEER AMR rejected the play audio command")
    pollAudioStatusAfterPlay options.audio_name

/-- The second `try` block of `main`. -/
def session (options : ProgramOptions) : AudioProgram StdException Unit := do
  client (.construct { host := options.amr_ip, auto_connect := false })
  client .connect
  -- A log line whose argument is a request.
  let _ ← client .isConnected
  let _ ← logAudioStatus
  pauseBlock options
  downloadBlock options
  uploadBlock options
  playBlock options
  client .disconnect

/-- `main`: its exit code. -/
def main (argv : List String) : AudioProgram StdException ℤ := do
  match parseArguments argv with
  | .error _ => return 1
  | .ok options =>
    match ← (session options).attempt with
    | .ok () => return 0
    | .error _ => return 1

end FlexivAmr.Audio
