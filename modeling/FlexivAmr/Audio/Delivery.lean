import FlexivAmr.Audio.CommandLine
import FlexivAmr.Audio.Site

/-!
# What the audio program delivers

Of the files, `main` writes the one to download to and no other, and of the sounds the one with the
audio name (`Kept`), however it ends. When it returns zero, it has done what the command line asks
for (`Delivered`): the downloaded file is the sound that the AMR had, the sound that has been
uploaded has been compared with the file, and the sound that is asked for has been started. An AMR
that has stored other bytes is a line of the log, and not a failure.
-/

namespace FlexivAmr.Audio

open Interaction Program

/-- All files but the one to download to, and all sounds but the one to upload to, are as they
were. -/
structure Kept (resolve : String → String) (options : ProgramOptions) (w w' : Site) : Prop where
  files : ∀ file, (options.download_file = "" ∨ file ≠ resolve options.download_file) →
    w'.files file = w.files file
  sounds : ∀ name, (options.upload_file = "" ∨ name ≠ options.audio_name) →
    w'.sounds name = w.sounds name

/-- The files, the sounds and the log are known, and what is played if anything. -/
structure Holds (files sounds : String → Option (List UInt8)) (playing : Option (String × Bool))
    (lines : List String) (w : Site) : Prop where
  files : w.files = files
  sounds : w.sounds = sounds
  playing : w.playing = playing ∨ w.playing = none
  log : w.log = lines

/-- A part of `main` that throws has kept what it has to, and else ends as `P` says. -/
def EndsIn {α : Type} (resolve : String → String) (options : ProgramOptions) (w₀ : Site) (P : Site → Prop) :
    Except StdException α → Site → Prop
  | .ok _, w => P w
  | .error _, w => Kept resolve options w₀ w

/-- A part of `main` that ends in a known state, unless it throws. -/
abbrev Ends {α : Type} (resolve : String → String) (options : ProgramOptions) (w₀ : Site)
    (files sounds : String → Option (List UInt8)) (playing : Option (String × Bool))
    (lines : List String) : Except StdException α → Site → Prop :=
  EndsIn resolve options w₀ (Holds files sounds playing lines)

section Blocks

variable {resolve : String → String} {flushes : Bool} {options : ProgramOptions} {w₀ w w' : Site}
  {files sounds : String → Option (List UInt8)} {playing : Option (String × Bool)}
  {lines : List String} {α : Type}

/-- The site's moves keep what is known. -/
theorem holds_stable : Stable (site resolve flushes) (Holds files sounds playing lines) := by
  intro w w' h hmove
  cases hmove with
  | finish => exact ⟨h.files, h.sounds, .inr rfl, h.log⟩

/-- The site's moves keep what is to be kept. -/
theorem kept_stable : Stable (site resolve flushes) (Kept resolve options w₀) := by
  intro w w' h hmove
  cases hmove with
  | finish => exact ⟨h.files, h.sounds⟩

/-- With all files and sounds, what is to be kept is there. -/
theorem Holds.kept (h : Holds w₀.files w₀.sounds playing lines w) : Kept resolve options w₀ w where
  files file _ := by rw [h.files]
  sounds name _ := by rw [h.sounds]

/-- An exception leaves what is to be kept. -/
theorem raise_triple {e : StdException} :
    Triple (site resolve flushes) (Kept resolve options w₀) (.raise e : AudioProgram StdException α)
      (Ends resolve options w₀ files sounds playing lines) :=
  Triple.ended (r := .error e) kept_stable fun _ h => h

/-- A value leaves what is known. -/
theorem ret_triple {a : α} :
    Triple (site resolve flushes) (Holds files sounds playing lines) (.ret a : AudioProgram StdException α)
      (Ends resolve options w₀ files sounds playing lines) :=
  Triple.ended (r := .ok a) holds_stable fun _ h => h

/-- A sequence of two parts of `main`. -/
theorem bind_triple {β : Type} {p : AudioProgram StdException α} {f : α → AudioProgram StdException β}
    {P R : Site → Prop} {Q : Except StdException β → Site → Prop}
    (hp : Triple (site resolve flushes) P p (EndsIn resolve options w₀ R))
    (hf : ∀ a, Triple (site resolve flushes) R (f a) Q) (hQ : ∀ e w, Kept resolve options w₀ w → Q (.error e) w) :
    Triple (site resolve flushes) P (p.bind f) Q :=
  .bind _ hp hf fun _ => Triple.ended kept_stable fun w h => hQ _ w h

/-- A request, by what its replies come to, and by what is kept when it throws. -/
theorem client_triple (request : Request) {P : Site → Prop}
    {R : request.Reply → Site → Prop} {f : request.Reply → AudioProgram StdException α}
    {Q : Except StdException α → Site → Prop} (hP : Stable (site resolve flushes) P)
    (hok : ∀ w reply w', P w → Serves w request (.ok reply) w' → R reply w')
    (herror : ∀ w e w', P w → Serves w request (.error e) w' → Kept resolve options w₀ w')
    (hf : ∀ reply, Triple (site resolve flushes) (R reply) (f reply) Q)
    (hQ : ∀ e w, Kept resolve options w₀ w → Q (.error e) w) :
    Triple (site resolve flushes) P ((client request).bind f) Q := by
  refine .call hP (fun (outcome : Except StdException request.Reply) w =>
    match outcome with
    | .ok reply => R reply w
    | .error _ => Kept resolve options w₀ w) ?_ ?_
  · rintro w (e | reply) w' hw answer
    · exact herror w e w' hw answer
    · exact hok w reply w' hw answer
  · rintro (e | reply)
    · exact Triple.ended (r := .error e) kept_stable fun w h => hQ e w h
    · exact hf reply

/-- A request that only asks, and whose reply is not looked at. -/
theorem ask_triple (request : Request) {f : request.Reply → AudioProgram StdException α}
    {Q : Except StdException α → Site → Prop}
    (hask : ∀ w outcome w', Serves w request outcome w' → w' = w)
    (hkept : ∀ w, Holds files sounds playing lines w → Kept resolve options w₀ w)
    (hf : ∀ reply, Triple (site resolve flushes) (Holds files sounds playing lines) (f reply) Q)
    (hQ : ∀ e w, Kept resolve options w₀ w → Q (.error e) w) :
    Triple (site resolve flushes) (Holds files sounds playing lines) ((client request).bind f) Q := by
  refine client_triple request holds_stable ?_ ?_ hf hQ
  · intro w reply w' hw hserves
    rw [hask w _ w' hserves]
    exact hw
  · intro w e w' hw hserves
    rw [hask w _ w' hserves]
    exact hkept w hw

/-- A sleep. -/
theorem sleepFor_triple {duration : ℤ} {f : Unit → AudioProgram StdException α}
    {Q : Except StdException α → Site → Prop}
    (hf : Triple (site resolve flushes) (Holds files sounds playing lines) (f ()) Q) :
    Triple (site resolve flushes) (Holds files sounds playing lines)
      ((perform (Op.sleepFor duration)).bind f) Q := by
  refine .call holds_stable (fun _ w => Holds files sounds playing lines w) ?_ fun _ => hf
  rintro w a _ hw rfl
  exact hw

/-- A log line. -/
theorem log_triple {message : String} :
    Triple (site resolve flushes) (Holds files sounds playing lines) (log message)
      (Ends resolve options w₀ files sounds playing (lines ++ [message])) := by
  refine .call holds_stable (fun _ w => Holds files sounds playing (lines ++ [message]) w) ?_
    fun _ => ret_triple
  rintro w a _ hw rfl
  exact ⟨hw.files, hw.sounds, hw.playing, congrArg (· ++ [message]) hw.log⟩

/-- The status is read, and logged. -/
theorem logAudioStatus_triple {f : SeerAudioStatus → AudioProgram StdException α}
    {Q : Except StdException α → Site → Prop}
    (hkept : ∀ w, Holds files sounds playing lines w → Kept resolve options w₀ w)
    (hf : ∀ status, Triple (site resolve flushes) (Holds files sounds playing lines) (f status) Q)
    (hQ : ∀ e w, Kept resolve options w₀ w → Q (.error e) w) :
    Triple (site resolve flushes) (Holds files sounds playing lines) (logAudioStatus.bind f) Q :=
  ask_triple .getAudioStatus (fun _ _ _ hserves => hserves) hkept hf hQ

/-- The pause. -/
theorem pauseBlock_triple (hkept : ∀ w, Holds files sounds playing lines w → Kept resolve options w₀ w) :
    Triple (site resolve flushes) (Holds files sounds playing lines) (pauseBlock options)
      (Ends resolve options w₀ files sounds (if options.pause then none else playing) lines) := by
  unfold pauseBlock
  cases options.pause with
  | false => exact ret_triple
  | true =>
    have hkept' : ∀ w, Holds files sounds none lines w → Kept resolve options w₀ w :=
      fun w hw => hkept w ⟨hw.files, hw.sounds, .inr (hw.playing.elim id id), hw.log⟩
    refine client_triple .pauseAudio holds_stable
      (R := fun accepted => Holds files sounds (if accepted then none else playing) lines) ?_ ?_ ?_
      fun _ _ h => h
    · rintro w (_ | _) w' hw hserves
      · rw [show w' = w from hserves]
        exact hw
      · rw [show w' = _ from hserves]
        exact ⟨hw.files, hw.sounds, .inl rfl, hw.log⟩
    · rintro w e w' hw (rfl | rfl)
      · exact hkept _ hw
      · exact hkept _ ⟨hw.files, hw.sounds, .inr rfl, hw.log⟩
    · rintro (_ | _)
      · exact .mono raise_triple hkept fun _ _ h => h
      · refine sleepFor_triple (logAudioStatus_triple hkept' (fun _ => ret_triple) fun _ _ h => h)

/-- The file to download to holds a part of the data, which is the whole of it where that is
certain. -/
def Wrote (resolve : String → String) (options : ProgramOptions) (files sounds : String → Option (List UInt8))
    (playing : Option (String × Bool)) (lines : List String) (data : List UInt8) (whole : Prop)
    (w : Site) : Prop :=
  ∃ written, (written <+: data ∧ (whole → written = data)) ∧
    Holds (Function.update files (resolve options.download_file) (some written)) sounds playing lines w

/-- The site's moves keep what has been written. -/
theorem wrote_stable {data : List UInt8} {whole : Prop} :
    Stable (site resolve flushes) (Wrote resolve options files sounds playing lines data whole) :=
  .exists fun _ => .and holds_stable

/-- Writing the file to download to keeps the others. -/
theorem kept_of_wrote {data : List UInt8} {whole : Prop} (hdownload : options.download_file ≠ "")
    (hkept : ∀ w, Holds files sounds playing lines w → Kept resolve options w₀ w)
    (hw : Wrote resolve options files sounds playing lines data whole w) : Kept resolve options w₀ w := by
  obtain ⟨written, -, hw⟩ := hw
  have hbefore : Kept resolve options w₀ { w with files := files } :=
    hkept _ ⟨rfl, hw.sounds, hw.playing, hw.log⟩
  refine ⟨?_, hbefore.sounds⟩
  intro file hfile
  rw [hw.files, Function.update_of_ne (hfile.resolve_left hdownload)]
  exact hbefore.files file hfile

/-- One more write to the file replaces what it held. -/
theorem Wrote.write {data written : List UInt8} {whole whole' : Prop}
    (hw : Wrote resolve options files sounds playing lines data whole w) (hwritten : written <+: data)
    (hwhole : whole' → written = data) :
    Wrote resolve options files sounds playing lines data whole'
      (w.write (resolve options.download_file) written) := by
  obtain ⟨_, -, hfiles, hsounds, hplaying, hlog⟩ := hw
  refine ⟨written, ⟨hwritten, hwhole⟩, ?_, hsounds, hplaying, hlog⟩
  rw [Site.write, hfiles, Function.update_idem]

/-- `WriteBinaryFile`, on the file to download to. -/
theorem writeBinaryFile_triple {data : List UInt8} {Q : Except StdException Unit → Site → Prop}
    (hdownload : options.download_file ≠ "")
    (hkept : ∀ w, Holds files sounds playing lines w → Kept resolve options w₀ w)
    (hok : ∀ w, Wrote resolve options files sounds playing lines data (flushes = true) w → Q (.ok ()) w)
    (hQ : ∀ e w, Kept resolve options w₀ w → Q (.error e) w) :
    Triple (site resolve flushes) (Holds files sounds playing lines)
      (writeBinaryFile options.download_file data) Q := by
  have hraise : ∀ (e : StdException) (P : Site → Prop), Stable (site resolve flushes) P →
      (∀ w, P w → Kept resolve options w₀ w) →
      Triple (site resolve flushes) P (.raise e : AudioProgram StdException Unit) Q :=
    fun e P hP h => Triple.ended (r := .error e) hP fun w hw => hQ e w (h w hw)
  refine .call holds_stable (fun
    | true => Wrote resolve options files sounds playing lines data False
    | false => Holds files sounds playing lines) ?_ ?_
  · rintro w (_ | _) _ hw rfl
    · exact hw
    · refine ⟨[], ⟨List.nil_prefix, False.elim⟩, ?_, hw.sounds, hw.playing, hw.log⟩
      rw [← hw.files]
      rfl
  rintro (_ | _)
  · exact hraise _ _ holds_stable hkept
  refine .call wrote_stable (fun good => Wrote resolve options files sounds playing lines data (good = true))
    ?_ ?_
  · rintro w good _ hw ⟨written, hwritten, hwhole, rfl⟩
    exact hw.write hwritten hwhole
  intro good
  refine .call wrote_stable
    (fun _ => Wrote resolve options files sounds playing lines data (good = true ∧ flushes = true)) ?_ ?_
  · rintro w closed _ hw ⟨held, written, hheld, hwritten, hwhole, rfl⟩
    obtain ⟨before, ⟨hbefore, hgood⟩, hbeforeFiles, -⟩ := id hw
    -- What the file held before it is closed is what has been written.
    have heq : held = before := by
      rw [hbeforeFiles, Function.update_self] at hheld
      exact (Option.some.inj hheld).symm
    subst heq
    refine hw.write (hwritten.trans hbefore) ?_
    rintro ⟨hg, hflushes⟩
    rw [hwhole (.inr hflushes), hgood hg]
  intro _
  cases good with
  | false => exact hraise _ _ wrote_stable fun w hw => kept_of_wrote hdownload hkept hw
  | true =>
    refine Triple.ended (r := .ok ()) wrote_stable ?_
    rintro w ⟨written, ⟨hwritten, hwhole⟩, hw⟩
    exact hok w ⟨written, ⟨hwritten, fun hflushes => hwhole ⟨rfl, hflushes⟩⟩, hw⟩

/-- What the download makes of the files. -/
structure Downloads (resolve : String → String) (flushes : Bool) (options : ProgramOptions)
    (sounds files files' : String → Option (List UInt8)) : Prop where
  none : options.download_file = "" → files' = files
  written : options.download_file ≠ "" → ∃ data written,
    sounds options.audio_name = some data ∧ written <+: data ∧ (flushes = true → written = data) ∧
      files' = Function.update files (resolve options.download_file) (some written)

/-- The download keeps the other files. -/
theorem Downloads.kept {files' : String → Option (List UInt8)}
    (h : Downloads resolve flushes options sounds files files') (file : String)
    (hfile : options.download_file = "" ∨ file ≠ resolve options.download_file) :
    files' file = files file := by
  by_cases hdownload : options.download_file = ""
  · rw [h.none hdownload]
  · obtain ⟨data, written, -, -, -, hfiles⟩ := h.written hdownload
    rw [hfiles, Function.update_of_ne (hfile.resolve_left hdownload)]

/-- The download. -/
theorem downloadBlock_triple
    (hkept : ∀ w, Holds files sounds playing lines w → Kept resolve options w₀ w) :
    Triple (site resolve flushes) (Holds files sounds playing lines) (downloadBlock options)
      (EndsIn resolve options w₀ fun w => ∃ files', Downloads resolve flushes options sounds files files' ∧
        Holds files' sounds playing lines w) := by
  unfold downloadBlock
  by_cases hdownload : options.download_file = ""
  · rw [if_neg (not_not_intro hdownload)]
    exact Triple.ended (r := .ok ()) holds_stable fun w hw =>
      ⟨files, ⟨fun _ => rfl, fun h => absurd hdownload h⟩, hw⟩
  · rw [if_pos hdownload]
    refine client_triple (.downloadAudio options.audio_name) holds_stable
      (R := fun data w => sounds options.audio_name = some data ∧
        Holds files sounds playing lines w) ?_ ?_ ?_ fun _ _ h => h
    · rintro w data _ hw ⟨hdata, rfl⟩
      rw [hw.sounds] at hdata
      exact ⟨hdata, hw⟩
    · rintro w e _ hw rfl
      exact hkept _ hw
    · intro data
      refine .and_pre fun hdata => writeBinaryFile_triple hdownload hkept ?_ fun _ _ h => h
      rintro w ⟨written, ⟨hwritten, hwhole⟩, hw⟩
      exact ⟨_, ⟨fun h => absurd h hdownload,
        fun _ => ⟨data, written, hdata, hwritten, hwhole, rfl⟩⟩, hw⟩

/-- `ReadBinaryFile`. -/
theorem readBinaryFile_triple {path : String} {f : List UInt8 → AudioProgram StdException α}
    {Q : Except StdException α → Site → Prop}
    (hkept : ∀ w, Holds files sounds playing lines w → Kept resolve options w₀ w)
    (hf : ∀ data, files (resolve path) = some data →
      Triple (site resolve flushes) (Holds files sounds playing lines) (f data) Q)
    (hQ : ∀ e w, Kept resolve options w₀ w → Q (.error e) w) :
    Triple (site resolve flushes) (Holds files sounds playing lines)
      ((readBinaryFile path).bind f) Q := by
  refine .call holds_stable (fun _ => Holds files sounds playing lines) ?_ ?_
  · rintro w opened _ hw ⟨-, rfl⟩
    exact hw
  rintro (_ | _)
  · exact Triple.ended (r := .error _) holds_stable fun w hw => hQ _ w (hkept w hw)
  refine .call holds_stable (fun data w => files (resolve path) = some data ∧
    Holds files sounds playing lines w) ?_ fun data => .and_pre (hf data)
  rintro w data _ hw ⟨hdata, rfl⟩
  rw [hw.files] at hdata
  exact ⟨hdata, hw⟩

/-- A text begins as its first part does. -/
theorem head?_append {text text' : String} {c : Char} (h : text.toList.head? = some c) :
    (text ++ text').toList.head? = some c := by
  rw [String.toList_append, List.head?_append, h]
  rfl

/-- A message that does not begin with `U` does not report a verification that succeeds. -/
theorem ne_verifiedMessage {message audio_name : String} {c : Char}
    (hmessage : message.toList.head? = some c) (hc : c ≠ 'U') :
    message ≠ verifiedMessage audio_name := by
  rintro rfl
  have hfirst : (verifiedMessage audio_name).toList.head? = some 'U' :=
    head?_append (head?_append (by decide))
  rw [hfirst] at hmessage
  exact hc (Option.some.inj hmessage).symm

/-- A verification that finds another size does not report a success. -/
theorem sizeMessage_ne {downloaded_size local_size : ℕ} {audio_name : String} :
    sizeMessage downloaded_size local_size ≠ verifiedMessage audio_name := by
  refine ne_verifiedMessage (c := 'D') ?_ (by decide)
  exact head?_append (head?_append (head?_append (head?_append (by decide))))

/-- A verification that finds other bytes does not report a success. -/
theorem contentMessage_ne {audio_name : String} :
    contentMessage audio_name ≠ verifiedMessage audio_name := by
  refine ne_verifiedMessage (c := 'D') ?_ (by decide)
  exact head?_append (head?_append (by decide))

/-- What a verification has read, and the line that it has logged. -/
structure Verifies (resolve : String → String) (files sounds : String → Option (List UInt8))
    (audio_name upload_file : String) (message : String) : Prop where
  readable : (files (resolve upload_file)).isSome = true
  stored : (sounds audio_name).isSome = true
  /-- The success is logged exactly when the bytes are the same. -/
  verified : message = verifiedMessage audio_name ↔
    sounds audio_name = files (resolve upload_file)

/-- `VerifyUploadedAudio`. -/
theorem verifyUploadedAudio_triple {audio_name upload_file : String}
    (hkept : ∀ w, Holds files sounds playing lines w → Kept resolve options w₀ w) :
    Triple (site resolve flushes) (Holds files sounds playing lines)
      (verifyUploadedAudio audio_name upload_file)
      (EndsIn resolve options w₀ fun w => ∃ message,
        Verifies resolve files sounds audio_name upload_file message ∧
          Holds files sounds playing (lines ++ [message]) w) := by
  refine sleepFor_triple (readBinaryFile_triple hkept (fun data hdata => ?_) fun _ _ h => h)
  refine client_triple (.downloadAudio audio_name) holds_stable
    (R := fun downloaded w => sounds audio_name = some downloaded ∧
      Holds files sounds playing lines w) ?_ ?_ (fun downloaded => ?_) fun _ _ h => h
  · rintro w downloaded _ hw ⟨hdownloaded, rfl⟩
    rw [hw.sounds] at hdownloaded
    exact ⟨hdownloaded, hw⟩
  · rintro w e _ hw rfl
    exact hkept _ hw
  refine .and_pre fun hdownloaded => ?_
  -- Whichever line is logged, it is the one for success only if the bytes are the same.
  have hlog : ∀ message, (message = verifiedMessage audio_name ↔ downloaded = data) →
      Triple (site resolve flushes) (Holds files sounds playing lines) (log message)
        (EndsIn resolve options w₀ fun w => ∃ message,
          Verifies resolve files sounds audio_name upload_file message ∧
            Holds files sounds playing (lines ++ [message]) w) := by
    intro message hmessage
    have hline : Triple (site resolve flushes) (Holds files sounds playing lines) (log message)
        (Ends resolve options w₀ files sounds playing (lines ++ [message])) := log_triple
    refine hline.mono (fun _ h => h) ?_
    rintro (e | _) w hw
    · exact hw
    · refine ⟨message, ⟨by rw [hdata]; rfl, by rw [hdownloaded]; rfl, ?_⟩, hw⟩
      rw [hmessage, hdata, hdownloaded, Option.some.injEq]
  split_ifs with hsize hcontent
  · refine hlog _ ⟨fun h => absurd h sizeMessage_ne, fun h => absurd (congrArg _ h) hsize⟩
  · exact hlog _ ⟨fun h => absurd h contentMessage_ne, fun h => absurd h hcontent⟩
  · exact hlog _ ⟨fun _ => not_not.1 hcontent, fun _ => rfl⟩

/-- What the upload makes of the sounds, and of the log. -/
structure Uploads (resolve : String → String) (options : ProgramOptions)
    (files sounds sounds' : String → Option (List UInt8)) (lines lines' : List String) : Prop where
  none : options.upload_file = "" → sounds' = sounds ∧ lines' = lines
  stored : options.upload_file ≠ "" → ∃ sound message,
    sounds' = Function.update sounds options.audio_name sound ∧ lines' = lines ++ [message] ∧
      Verifies resolve files sounds' options.audio_name options.upload_file message

/-- The upload keeps the other sounds. -/
theorem Uploads.kept {sounds' : String → Option (List UInt8)} {lines' : List String}
    (h : Uploads resolve options files sounds sounds' lines lines') (name : String)
    (hother : options.upload_file = "" ∨ name ≠ options.audio_name) :
    sounds' name = sounds name := by
  by_cases hupload : options.upload_file = ""
  · rw [(h.none hupload).1]
  · obtain ⟨sound, message, hsounds, -⟩ := h.stored hupload
    rw [hsounds, Function.update_of_ne (hother.resolve_left hupload)]

/-- The upload, and the verification that follows it. -/
theorem uploadBlock_triple (hname : options.upload_file ≠ "" →
      options.audio_name = stem options.upload_file)
    (hkept : ∀ lines w, Holds files sounds playing lines w → Kept resolve options w₀ w) :
    Triple (site resolve flushes) (Holds files sounds playing lines) (uploadBlock options)
      (EndsIn resolve options w₀ fun w => ∃ sounds' lines',
        Uploads resolve options files sounds sounds' lines lines' ∧
          Holds files sounds' playing lines' w) := by
  unfold uploadBlock
  by_cases hupload : options.upload_file = ""
  · rw [if_neg (not_not_intro hupload)]
    exact Triple.ended (r := .ok ()) holds_stable fun w hw =>
      ⟨sounds, lines, ⟨fun _ => ⟨rfl, rfl⟩, fun h => absurd hupload h⟩, hw⟩
  rw [if_pos hupload]
  have hstem := hname hupload
  have hkept' : ∀ sound lines w,
      Holds files (Function.update sounds options.audio_name sound) playing lines w →
        Kept resolve options w₀ w := by
    intro sound lines w hw
    have hbefore : Kept resolve options w₀ { w with sounds := sounds } :=
      hkept lines _ ⟨hw.files, rfl, hw.playing, hw.log⟩
    refine ⟨hbefore.files, ?_⟩
    intro name hother
    rw [hw.sounds, Function.update_of_ne (hother.resolve_left hupload)]
    exact hbefore.sounds name hother
  refine client_triple (.uploadAudio options.upload_file) holds_stable
    (R := fun
      | true => fun w => ∃ sound,
        Holds files (Function.update sounds options.audio_name sound) playing lines w
      | false => Holds files sounds playing lines) ?_ ?_ ?_ fun _ _ h => h
  · rintro w (_ | _) w' hw hserves
    · rw [show w' = w from hserves]
      exact hw
    · obtain ⟨sound, rfl⟩ := hserves
      refine ⟨sound, hw.files, ?_, hw.playing, hw.log⟩
      rw [← hw.sounds, hstem]
  · rintro w e _ hw ⟨sound, rfl⟩
    refine hkept' sound lines _ ⟨hw.files, ?_, hw.playing, hw.log⟩
    rw [← hw.sounds, hstem]
  rintro (_ | _)
  · exact Triple.ended (r := .error _) holds_stable fun w hw => hkept lines w hw
  refine .exists_pre fun sound => ?_
  refine (verifyUploadedAudio_triple (hkept' sound lines)).mono (fun _ h => h) ?_
  rintro (e | _) w hw
  · exact hw
  · obtain ⟨message, hverifies, hw⟩ := hw
    exact ⟨_, _, ⟨fun h => absurd h hupload, fun _ => ⟨sound, message, rfl, rfl, hverifies⟩⟩, hw⟩

/-- The loop of `PollAudioStatusAfterPlay`. What it logs does not report a verification. -/
theorem pollAudioStatusLoop_triple {audio_name : String} {polls : ℕ}
    (hkept : ∀ w, Holds files sounds playing lines w → Kept resolve options w₀ w) :
    Triple (site resolve flushes) (Holds files sounds playing lines)
      (pollAudioStatusLoop audio_name polls)
      (EndsIn resolve options w₀ fun w => ∃ message, message ≠ verifiedMessage audio_name ∧
        Holds files sounds playing (lines ++ [message]) w) := by
  have hlog : ∀ message, message ≠ verifiedMessage audio_name →
      Triple (site resolve flushes) (Holds files sounds playing lines) (log message)
        (EndsIn resolve options w₀ fun w => ∃ message, message ≠ verifiedMessage audio_name ∧
          Holds files sounds playing (lines ++ [message]) w) := by
    intro message hmessage
    have hline : Triple (site resolve flushes) (Holds files sounds playing lines) (log message)
        (Ends resolve options w₀ files sounds playing (lines ++ [message])) := log_triple
    refine hline.mono (fun _ h => h) ?_
    rintro (e | _) w hw
    · exact hw
    · exact ⟨message, hmessage, hw⟩
  have hother : ∀ {message : String}, message.toList.head? = some 'A' →
      message ≠ verifiedMessage audio_name := fun h => ne_verifiedMessage h (by decide)
  induction polls with
  | zero =>
    exact hlog _ (hother (head?_append (head?_append (head?_append (head?_append (by decide))))))
  | succ polls ih =>
    refine sleepFor_triple (logAudioStatus_triple hkept (fun status => ?_) fun _ _ h => h)
    by_cases hstatus :
        (status.sound_name = audio_name || status.sound_name = audio_name ++ ".wav") = true
    · rw [if_pos hstatus]
      exact hlog _ (hother (head?_append (head?_append (by decide))))
    · rw [if_neg hstatus]
      exact ih

/-- What is played when the playback is over, if anything. -/
def played (options : ProgramOptions) (playing : Option (String × Bool)) : Option (String × Bool) :=
  if options.audio_name ≠ "" && options.download_file = "" then
    some (options.audio_name, options.loop)
  else
    playing

/-- The playback. What it logs does not report a verification. -/
theorem playBlock_triple
    (hkept : ∀ playing w, Holds files sounds playing lines w → Kept resolve options w₀ w) :
    Triple (site resolve flushes) (Holds files sounds playing lines) (playBlock options)
      (EndsIn resolve options w₀ fun w =>
        ((options.audio_name ≠ "" && options.download_file = "") = true →
          (sounds options.audio_name).isSome = true) ∧
        ∃ new, verifiedMessage options.audio_name ∉ new ∧
          Holds files sounds (played options playing) (lines ++ new) w) := by
  unfold playBlock played
  by_cases hplay : (options.audio_name ≠ "" && options.download_file = "") = true
  · rw [if_pos hplay, if_pos hplay]
    refine client_triple (.playAudio options.audio_name options.loop) holds_stable
      (R := fun
        | true => fun w => (sounds options.audio_name).isSome = true ∧
          Holds files sounds (some (options.audio_name, options.loop)) lines w
        | false => Holds files sounds playing lines) ?_ ?_ ?_ fun _ _ h => h
    · rintro w (_ | _) w' hw hserves
      · rw [show w' = w from hserves]
        exact hw
      · obtain ⟨hsound, rfl⟩ := hserves
        rw [hw.sounds] at hsound
        exact ⟨hsound, hw.files, hw.sounds, .inl rfl, hw.log⟩
    · rintro w e _ hw (rfl | rfl)
      · exact hkept _ _ hw
      · exact hkept (some (options.audio_name, options.loop)) _
          ⟨hw.files, hw.sounds, .inl rfl, hw.log⟩
    rintro (_ | _)
    · exact Triple.ended (r := .error _) holds_stable fun w hw => hkept _ w hw
    refine .and_pre fun hsound => ?_
    refine (pollAudioStatusLoop_triple (hkept _)).mono (fun _ h => h) ?_
    rintro (e | _) w hw
    · exact hw
    · obtain ⟨message, hmessage, hw⟩ := hw
      exact ⟨fun _ => hsound, [message], fun h => hmessage (List.mem_singleton.1 h).symm, hw⟩
  · rw [if_neg hplay, if_neg hplay]
    refine Triple.ended (r := .ok ()) holds_stable fun w hw => ⟨fun h => absurd h hplay, [], ?_, ?_⟩
    · exact List.not_mem_nil
    · rwa [List.append_nil]

/-- What `main` has done when it returns zero. -/
structure Delivered (resolve : String → String) (flushes : Bool) (options : ProgramOptions)
    (w w' : Site) : Prop where
  /-- The file that has been downloaded to holds the sound that the AMR had. -/
  downloaded : options.download_file ≠ "" → ∃ data written,
    w.sounds options.audio_name = some data ∧
      w'.files (resolve options.download_file) = some written ∧
      written <+: data ∧ (flushes = true → written = data)
  /-- The file to upload is there, and the AMR has something under the audio name. -/
  uploaded : options.upload_file ≠ "" →
    (w'.files (resolve options.upload_file)).isSome = true ∧
      (w'.sounds options.audio_name).isSome = true
  /-- The success of the verification is logged exactly when they are the same bytes. -/
  verified : options.upload_file ≠ "" → ∃ new, w'.log = w.log ++ new ∧
    (verifiedMessage options.audio_name ∈ new ↔
      w'.sounds options.audio_name = w'.files (resolve options.upload_file))
  /-- What is still being played is the sound that has been started. -/
  playing : w'.playing = none ∨ w'.playing =
    played options (if options.pause then none else w.playing)
  /-- The AMR has the sound that has been started. -/
  playable : options.audio_name ≠ "" → options.download_file = "" →
    (w'.sounds options.audio_name).isSome = true

/-- What has been delivered when the playback has been left out if `stop` says so. -/
structure DeliveredUnless (resolve : String → String) (stop flushes : Bool)
    (options : ProgramOptions) (w w' : Site) : Prop where
  downloaded : options.download_file ≠ "" → ∃ data written,
    w.sounds options.audio_name = some data ∧
      w'.files (resolve options.download_file) = some written ∧
      written <+: data ∧ (flushes = true → written = data)
  uploaded : options.upload_file ≠ "" →
    (w'.files (resolve options.upload_file)).isSome = true ∧
      (w'.sounds options.audio_name).isSome = true
  verified : options.upload_file ≠ "" → ∃ new, w'.log = w.log ++ new ∧
    (verifiedMessage options.audio_name ∈ new ↔
      w'.sounds options.audio_name = w'.files (resolve options.upload_file))
  playing : w'.playing = none ∨ w'.playing =
    if stop then if options.pause then none else w.playing
    else played options (if options.pause then none else w.playing)
  playable : stop = false → options.audio_name ≠ "" → options.download_file = "" →
    (w'.sounds options.audio_name).isSome = true

/-- The playback, unless `stop` says to leave it out. -/
def playUnless (stop : Bool) (options : ProgramOptions) : AudioProgram StdException Unit :=
  if stop then .ret () else playBlock options

/-- The requests from the check of the connection on. -/
def rest (stop : Bool) (options : ProgramOptions) : AudioProgram StdException Unit := do
  let _ ← client .isConnected
  let _ ← logAudioStatus
  pauseBlock options
  downloadBlock options
  uploadBlock options
  playUnless stop options
  client .disconnect

/-- The playback, or none. -/
theorem playUnless_triple {stop : Bool}
    (hkept : ∀ playing w, Holds files sounds playing lines w → Kept resolve options w₀ w) :
    Triple (site resolve flushes) (Holds files sounds playing lines) (playUnless stop options)
      (EndsIn resolve options w₀ fun w =>
        (stop = false → (options.audio_name ≠ "" && options.download_file = "") = true →
          (sounds options.audio_name).isSome = true) ∧
        ∃ new, verifiedMessage options.audio_name ∉ new ∧
          Holds files sounds (if stop then playing else played options playing) (lines ++ new)
            w) := by
  cases stop with
  | true =>
    refine Triple.ended (r := .ok ()) holds_stable fun w hw => ⟨(nomatch ·), [], ?_, ?_⟩
    · exact List.not_mem_nil
    · rwa [List.append_nil]
  | false =>
    refine (playBlock_triple hkept).mono (fun _ h => h) ?_
    rintro (e | _) w hw
    · exact hw
    · exact ⟨fun _ => hw.1, hw.2⟩

/-- What is to be kept is there after the download. -/
theorem Downloads.kept_of_holds (h : Downloads resolve flushes options w₀.sounds w₀.files files)
    (hw : Holds files w₀.sounds playing lines w) : Kept resolve options w₀ w where
  files file hfile := by
    rw [hw.files]
    exact h.kept file hfile
  sounds name _ := by rw [hw.sounds]

/-- What is to be kept is there after the upload. -/
theorem Uploads.kept_of_holds {before messages : List String}
    (hdownloads : Downloads resolve flushes options w₀.sounds w₀.files files)
    (h : Uploads resolve options files w₀.sounds sounds before lines)
    (hw : Holds files sounds playing messages w) : Kept resolve options w₀ w where
  files file hfile := by
    rw [hw.files]
    exact hdownloads.kept file hfile
  sounds name hother := by
    rw [hw.sounds]
    exact h.kept name hother

/-- What the download, the upload and the playback leave has been delivered. -/
theorem deliveredUnless_of_holds {stop : Bool} {new : List String}
    (hdownloads : Downloads resolve flushes options w₀.sounds w₀.files files)
    (huploads : Uploads resolve options files w₀.sounds sounds w₀.log lines)
    (hplayable : stop = false → (options.audio_name ≠ "" && options.download_file = "") = true →
      (sounds options.audio_name).isSome = true)
    (hplaying : (if options.pause then none else w₀.playing) = playing)
    (hnew : verifiedMessage options.audio_name ∉ new)
    (hw : Holds files sounds (if stop then playing else played options playing) (lines ++ new) w) :
    DeliveredUnless resolve stop flushes options w₀ w where
  downloaded hdownload := by
    obtain ⟨data, written, hdata, hwritten, hwhole, hfiles⟩ := hdownloads.written hdownload
    refine ⟨data, written, hdata, ?_, hwritten, hwhole⟩
    rw [hw.files, hfiles, Function.update_self]
  uploaded hupload := by
    obtain ⟨sound, message, -, -, hverifies⟩ := huploads.stored hupload
    rw [hw.files, hw.sounds]
    exact ⟨hverifies.readable, hverifies.stored⟩
  verified hupload := by
    obtain ⟨sound, message, -, rfl, hverifies⟩ := huploads.stored hupload
    refine ⟨message :: new, ?_, ?_⟩
    · rw [hw.log, List.append_assoc, List.singleton_append]
    · rw [hw.files, hw.sounds, ← hverifies.verified, List.mem_cons, or_iff_left hnew, eq_comm]
  playing := by
    rw [hplaying]
    exact hw.playing.symm
  playable hstop hname hdownload := by
    rw [hw.sounds]
    exact hplayable hstop (by simp [hname, hdownload])

/-- The requests from the check of the connection on. -/
theorem rest_triple (stop : Bool) (hname : options.upload_file ≠ "" →
      options.audio_name = stem options.upload_file) :
    Triple (site resolve flushes) (Holds w₀.files w₀.sounds w₀.playing w₀.log) (rest stop options)
      (fun r w => Kept resolve options w₀ w ∧
        (r = .ok () → DeliveredUnless resolve stop flushes options w₀ w)) := by
  have hQ : ∀ (e : StdException) w, Kept resolve options w₀ w → Kept resolve options w₀ w ∧
      ((.error e : Except StdException Unit) = .ok () →
        DeliveredUnless resolve stop flushes options w₀ w) :=
    fun e w hw => ⟨hw, fun h => nomatch h⟩
  refine ask_triple _ (fun _ _ _ hserves => hserves) (fun _ => Holds.kept) (fun _ => ?_) hQ
  refine logAudioStatus_triple (fun _ => Holds.kept) (fun _ => ?_) hQ
  refine bind_triple (pauseBlock_triple fun _ => Holds.kept) (fun _ => ?_) hQ
  generalize hplaying : (if options.pause then none else w₀.playing) = playing
  refine bind_triple (downloadBlock_triple fun _ => Holds.kept) (fun _ => ?_) hQ
  refine .exists_pre fun files => .and_pre fun hdownloads => ?_
  refine bind_triple (uploadBlock_triple hname fun _ _ => hdownloads.kept_of_holds) (fun _ => ?_) hQ
  refine .exists_pre fun sounds => .exists_pre fun lines => .and_pre fun huploads => ?_
  have hkept : ∀ playing lines w, Holds files sounds playing lines w → Kept resolve options w₀ w :=
    fun _ _ _ => huploads.kept_of_holds hdownloads
  refine bind_triple (playUnless_triple fun playing => hkept playing lines) (fun _ => ?_) hQ
  refine .and_pre fun hplayable => .exists_pre fun new => .and_pre fun hnew => ?_
  refine .call holds_stable (fun _ =>
    Holds files sounds (if stop then playing else played options playing) (lines ++ new)) ?_ ?_
  · rintro w outcome _ hw rfl
    exact hw
  rintro (e | _)
  · exact Triple.ended (r := .error e) holds_stable fun w hw => hQ e w (hkept _ _ w hw)
  · refine Triple.ended (r := .ok ()) holds_stable fun w hw => ⟨hkept _ _ w hw, fun _ => ?_⟩
    exact deliveredUnless_of_holds hdownloads huploads hplayable hplaying hnew hw

/-- The second `try` block of `main`. -/
theorem session_triple (hname : options.upload_file ≠ "" →
      options.audio_name = stem options.upload_file) :
    Triple (site resolve flushes) (Holds w₀.files w₀.sounds w₀.playing w₀.log) (session options)
      (fun r w => Kept resolve options w₀ w ∧
        (r = .ok () → Delivered resolve flushes options w₀ w)) := by
  have hQ : ∀ (e : StdException) w, Kept resolve options w₀ w → Kept resolve options w₀ w ∧
      ((.error e : Except StdException Unit) = .ok () →
        Delivered resolve flushes options w₀ w) :=
    fun e w hw => ⟨hw, fun h => nomatch h⟩
  refine ask_triple _ (fun _ _ _ hserves => hserves) (fun _ => Holds.kept) (fun _ => ?_) hQ
  refine ask_triple _ (fun _ _ _ hserves => hserves) (fun _ => Holds.kept) (fun _ => ?_) hQ
  -- What is left of the session is all there is without a signal.
  refine (rest_triple false hname).mono (fun _ h => h) ?_
  rintro r w ⟨hkept, hdelivered⟩
  refine ⟨hkept, fun hr => ?_⟩
  obtain ⟨hdownloaded, huploaded, hverified, hplaying, hplayable⟩ := hdelivered hr
  exact ⟨hdownloaded, huploaded, hverified, hplaying, hplayable rfl⟩

end Blocks

variable {resolve : String → String} {flushes : Bool} {argv : List String}
  {options : ProgramOptions} {w w' : Site} {h : History} {r : Except StdException ℤ}

/-- What is played may come to its end after all has been delivered. -/
theorem sessionEnds_stable (result : Except StdException Unit) :
    Stable (site resolve flushes) fun w' => Kept resolve options w w' ∧
      (result = .ok () → Delivered resolve flushes options w w') := by
  rintro w₁ w₂ ⟨hkept, hdelivered⟩ hmove
  refine ⟨kept_stable _ _ hkept hmove, fun hresult => ?_⟩
  cases hmove with
  | finish =>
    obtain ⟨hdownloaded, huploaded, hverified, -, hplayable⟩ := hdelivered hresult
    exact ⟨hdownloaded, huploaded, hverified, .inl rfl, hplayable⟩

/-- A run that begins with a request that returns. -/
theorem reply_canEnd {α : Type} {request : Request}
    {f : request.Reply → AudioProgram StdException α}
    {Q : Except StdException α → Site → History → Prop} (reply : request.Reply)
    (answer : Serves w request (.ok reply) w')
    (hnext : CanEnd (site resolve flushes) (f reply) Q w' (h ++ [⟨.client request, .ok reply⟩])) :
    CanEnd (site resolve flushes) ((client request).bind f) Q w h :=
  .bind (.call (.ok reply) answer (.ret hnext))

/-- The command line `seer_audio_example 192.168.192.5 ./welcome.wav`. -/
def uploadWelcome : List String := ["seer_audio_example", "192.168.192.5", "./welcome.wav"]

/-- The working directory is `/home`. -/
def home (path : String) : String :=
  if path = "./welcome.wav" ∨ path = "welcome.wav" then "/home/welcome.wav" else path

/-- A host that has one file. -/
def oneFile : Site where
  files := Function.update (fun _ => none) "/home/welcome.wav" (some [82, 73, 70, 70])
  sounds := fun _ => none
  playing := none
  log := []

/-- The file is uploaded, found again, and played. -/
theorem uploadWelcome_run : ∃ w' h,
    Steps (site home true) ⟨main uploadWelcome, oneFile, []⟩ ⟨.ret 0, w', h⟩ ∧
      verifiedMessage "welcome" ∈ w'.log := by
  have hrun : CanEnd (site home true) (main uploadWelcome)
      (fun r w' _ => r = .ok 0 ∧ verifiedMessage "welcome" ∈ w'.log) oneFile [] := by
    refine .bind (.attempt ?_)
    refine reply_canEnd () rfl (reply_canEnd () rfl (reply_canEnd true rfl (reply_canEnd {} rfl ?_)))
    refine .bind (.ret (.bind (.ret (.bind ?_))))
    refine reply_canEnd true ⟨some [82, 73, 70, 70], rfl⟩ (.call () rfl ?_)
    refine .bind (.ret (.bind ?_))
    refine .call true ⟨fun _ => rfl, rfl⟩ ?_
    refine .call [82, 73, 70, 70] ⟨rfl, rfl⟩ (.ret ?_)
    refine reply_canEnd [82, 73, 70, 70] ⟨rfl, rfl⟩ ?_
    refine .call () rfl (.ret (.bind ?_))
    refine reply_canEnd true ⟨rfl, rfl⟩ (.call () rfl ?_)
    refine reply_canEnd { sound_name := "welcome" } rfl (.call () rfl (.ret ?_))
    exact .call (.ok ()) rfl (.ret (.ret ⟨rfl, List.mem_cons_self⟩))
  obtain ⟨r, w', h, hsteps, rfl, hlog⟩ := hrun
  exact ⟨w', h, hsteps, hlog⟩

end FlexivAmr.Audio
