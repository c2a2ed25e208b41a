import FlexivAmr.Audio
import FlexivAmr.Python.Audio.Path

/-!
# The audio program in Python

`example_py/seer_audio_example.py` from the namespace that `argparse` hands over on. The client, its
requests, and the log lines that are kept are those of the C++ program. `Path.read_bytes` and
`Path.write_bytes` are single calls, which raise when anything fails, closing the file included. An
exception on its way to the handlers of `main` carries the value of `connected` (`Thrown`).
-/

namespace FlexivAmr.Python.Audio

open Interaction Program
open FlexivAmr.Audio (SeerAudioStatus sizeMessage contentMessage verifiedMessage toLower)

/-- The calls that the program makes. -/
inductive Op
  /-- A request to the client. -/
  | client (request : Audio.Request)
  /-- `time.sleep`, in seconds. -/
  | sleep (secs : ℚ)
  /-- `Path.read_bytes`. -/
  | readBytes (path : String)
  /-- `Path.write_bytes`. -/
  | writeBytes (path : String) (data : List UInt8)
  /-- A reading of `stop_requested`. -/
  | stopRequested
  /-- A log line. -/
  | log (message : String)
  deriving DecidableEq

/-- The answers to the program's calls. -/
abbrev Op.Answer : Op → Type
  | .client request => Except PyException request.Reply
  | .readBytes _ => Except PyException (List UInt8)
  | .writeBytes _ _ => Except PyException Unit
  | .stopRequested => Bool
  | .sleep _ | .log _ => Unit

/-- An audio program, with exceptions in `ε`. -/
abbrev AudioProgram (ε : Type) : Type → Type 1 := Program Op.Answer ε

/-- The calls and answers of a run, oldest first. -/
abbrev History : Type := List (Event Op.Answer)

def uploadReadyDelaySeconds : ℚ := 1
def statusPollIntervalSeconds : ℚ := 3 / 10
def statusPollCount : ℕ := 8

/-- The namespace that `argparse` makes of the command line. -/
structure Namespace where
  amr_ip : String
  audio : Option String := none
  loop : Bool := false
  download : Option String := none
  pause : Bool := false
  deriving DecidableEq

/-- The checks of `parse_arguments`. In its conditions, an argument that is empty counts as one that
is left out. -/
def checkArguments (args : Namespace) : Except String Unit :=
  if !args.pause && args.audio.getD "" = "" then
    .error "audio is required unless --pause is used alone"
  else if args.download.getD "" ≠ "" && args.audio.getD "" = "" then
    .error "audio is required when downloading audio"
  else if args.audio.getD "" ≠ "" && toLower (suffix (args.audio.getD "")) = ".mp3" then
    .error "only .wav audio files are supported"
  else
    .ok ()

/-- A request to the client, whose exception the program raises. -/
def client (request : Audio.Request) : AudioProgram PyException request.Reply :=
  .call (.client request) fun (outcome : Except PyException request.Reply) => .ended outcome

/-- `Path.read_bytes`. -/
def readBytes (path : String) : AudioProgram PyException (List UInt8) :=
  .call (.readBytes path) fun (outcome : Except PyException (List UInt8)) => .ended outcome

/-- `Path.write_bytes`. -/
def writeBytes (path : String) (data : List UInt8) : AudioProgram PyException Unit :=
  .call (.writeBytes path data) fun (outcome : Except PyException Unit) => .ended outcome

/-- A log line. -/
def log (message : String) : AudioProgram PyException Unit := perform (Op.log message)

/-- `log_audio_status`. -/
def logAudioStatus : AudioProgram PyException SeerAudioStatus := client .getAudioStatus

/-- `verify_uploaded_audio`. -/
def verifyUploadedAudio (audio_name upload_file : String) : AudioProgram PyException Unit := do
  perform (Op.sleep uploadReadyDelaySeconds)
  let local_data ← readBytes upload_file
  let downloaded_data ← client (.downloadAudio audio_name)
  if downloaded_data.length ≠ local_data.length then
    log (sizeMessage downloaded_data.length local_data.length)
  else if downloaded_data ≠ local_data then
    log (contentMessage audio_name)
  else
    log (verifiedMessage audio_name)

/-- The loop of `poll_audio_status_after_play`, with the polls that are left. -/
def pollAudioStatusLoop (audio_name : String) : ℕ → AudioProgram PyException Unit
  | 0 => log ("AMR did not report '" ++ audio_name ++ "' as current sound after the play " ++
      "command. If upload verification succeeded, check audio format/codec support and robot " ++
      "speaker configuration.")
  | polls + 1 => do
    perform (Op.sleep statusPollIntervalSeconds)
    let status ← logAudioStatus
    if status.sound_name = audio_name || status.sound_name = audio_name ++ ".wav" then
      log ("AMR reports requested audio '" ++ audio_name ++ "' as current sound.")
    else
      pollAudioStatusLoop audio_name polls

/-- `poll_audio_status_after_play`. -/
def pollAudioStatusAfterPlay (audio_name : String) : AudioProgram PyException Unit :=
  pollAudioStatusLoop audio_name statusPollCount

/-- The pause of `main`. -/
def pauseBlock (args : Namespace) : AudioProgram PyException Unit := do
  if args.pause then
    if !(← client .pauseAudio) then
      throw (.runtimeError "SEER AMR rejected the pause audio command")
    perform (Op.sleep (2 / 10))
    let _ ← logAudioStatus

/-- `audio_name` and `upload_file` of `main`. -/
def names (args : Namespace) : Except PyException (String × String) :=
  let audio_name := args.audio.getD ""
  if audio_name ≠ "" && isAudioFilePath audio_name then do
    let name ← audioNameFromPath audio_name
    return (name, audio_name)
  else
    return (audio_name, "")

/-- The download of `main`. -/
def downloadBlock (args : Namespace) (audio_name : String) : AudioProgram PyException Unit := do
  if args.download.getD "" ≠ "" then
    let audio_data ← client (.downloadAudio audio_name)
    writeBytes (args.download.getD "") audio_data

/-- The upload of `main`. -/
def uploadBlock (audio_name upload_file : String) : AudioProgram PyException Unit := do
  if upload_file ≠ "" then
    if !(← client (.uploadAudio upload_file)) then
      throw (.runtimeError "SEER AMR rejected the upload audio command")
    verifyUploadedAudio audio_name upload_file

/-- The playback of `main`. -/
def playBlock (args : Namespace) (audio_name : String) : AudioProgram PyException Unit := do
  if audio_name ≠ "" && args.download.getD "" = "" then
    if !(← perform Op.stopRequested) then
      if !(← client (.playAudio audio_name args.loop)) then
        throw (.runtimeError "SEER AMR rejected the play audio command")
      pollAudioStatusAfterPlay audio_name

/-- The `try` block of `main` from the connection on. -/
def connectedSession (args : Namespace) : AudioProgram PyException Unit := do
  -- A log line whose argument is a request.
  let _ ← client .isConnected
  let _ ← logAudioStatus
  pauseBlock args
  let (audio_name, upload_file) ← (.ended (names args) : AudioProgram PyException _)
  downloadBlock args audio_name
  uploadBlock audio_name upload_file
  playBlock args audio_name
  client .disconnect

/-- An exception on its way to `main`'s handlers, and `connected` as it stands. -/
structure Thrown where
  exception : PyException
  connected : Bool

/-- The `try` block of `main`. -/
def session (args : Namespace) : AudioProgram Thrown Unit := do
  (client .connect).mapError fun e => ⟨e, false⟩
  (connectedSession args).mapError fun e => ⟨e, true⟩

/-- The `finally` block of `main`. -/
def cleanup (connected : Bool) : AudioProgram PyException Unit := do
  if connected then
    let _ ← (client .disconnect).attempt

/-- `main`: its exit code. -/
def main (args : Namespace) : AudioProgram PyException ℤ := do
  match checkArguments args with
  -- `parser.error` leaves the program with the status 2.
  | .error _ => return 2
  | .ok () =>
    client (.construct { host := args.amr_ip, auto_connect := false, auto_reconnect := true })
    match ← (session args).attempt with
    | .ok () =>
      cleanup false
      return 0
    -- Both handlers log the exception.
    | .error thrown =>
      cleanup thrown.connected
      return 1

end FlexivAmr.Python.Audio
