import FlexivAmr.Audio
import FlexivAmr.Interaction.Triple
import Mathlib.Logic.Function.Basic

/-!
# The files, and the sounds of the AMR

What is around the audio program: the host's files, the sounds that the AMR has stored under their
names, what it plays, and the log. The AMR does what it replies (`Serves`). A request that throws
may have been carried out or not. An upload may leave anything under its name, also when the AMR
accepts it. Nobody else writes files or sounds, but what is played may come to its end at any time.

Two paths may lead to one file. Which file a path leads to, from the working directory and through
links, is `resolve`; a file is named by its canonical path.
-/

namespace FlexivAmr.Audio

open Interaction

/-- The host's files, and the AMR. -/
structure Site where
  /-- The contents of the files, by their canonical paths. -/
  files : String → Option (List UInt8)
  sounds : String → Option (List UInt8)
  /-- The sound that is being played, and whether in a loop. -/
  playing : Option (String × Bool)
  log : List String

/-- The file now has these contents. -/
def Site.write (w : Site) (file : String) (data : List UInt8) : Site :=
  { w with files := Function.update w.files file (some data) }

/-- The AMR serves a request. -/
def Serves (w : Site) : (request : Request) → Except StdException request.Reply → Site → Prop
  | .uploadAudio audio_file, .ok true, w' | .uploadAudio audio_file, .error _, w' => ∃ sound,
    w' = { w with sounds := Function.update w.sounds (stem audio_file) sound }
  | .downloadAudio name, .ok data, w' => w.sounds name = some data ∧ w' = w
  | .pauseAudio, .ok true, w' => w' = { w with playing := none }
  | .pauseAudio, .error _, w' => w' = w ∨ w' = { w with playing := none }
  | .playAudio name loop, .ok true, w' =>
    (w.sounds name).isSome = true ∧ w' = { w with playing := some (name, loop) }
  | .playAudio name loop, .error _, w' => w' = w ∨ w' = { w with playing := some (name, loop) }
  | _, _, w' => w' = w

/-- The site's own moves: what is played comes to its end. -/
inductive Site.Moves : Site → Site → Prop
  | finish (w : Site) : Site.Moves w { w with playing := none }

/-- The environment of the audio program. With `flushes`, what a stream has taken can still be
written when it is closed. -/
def site (resolve : String → String) (flushes : Bool) : Environment Op.Answer Site where
  answers w op a w' :=
    match op with
    | .client request => Serves w request a w'
    | .sleepFor _ => w' = w
    | .openInput path => (a = true → (w.files (resolve path)).isSome = true) ∧ w' = w
    | .readInput path => w.files (resolve path) = some a ∧ w' = w
    | .openOutput path => w' = if a = true then w.write (resolve path) [] else w
    | .writeOutput path data => ∃ written, written <+: data ∧ (a = true → written = data) ∧
      w' = w.write (resolve path) written
    | .closeOutput path => ∃ data written, w.files (resolve path) = some data ∧ written <+: data ∧
      (a = true ∨ flushes = true → written = data) ∧ w' = w.write (resolve path) written
    | .log message => w' = { w with log := w.log ++ [message] }
  moves := Site.Moves

end FlexivAmr.Audio
