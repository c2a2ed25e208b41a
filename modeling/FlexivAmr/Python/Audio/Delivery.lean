import FlexivAmr.Audio.Delivery
import FlexivAmr.Interaction.Equivalence
import FlexivAmr.Python.Audio.CommandLine

/-!
# What the Python program delivers

The parts of the Python program do what those of the C++ program do, among the same files and with
the same AMR (`Follows`), so what the C++ program delivers is delivered here too (`main_delivered`).
There are two differences. A file that could not be flushed is an exception here, so a file that has
been downloaded is the whole sound. And the playback is left out when the signal has come.
-/

namespace FlexivAmr.Python.Audio

open Interaction Program
open FlexivAmr.Audio (Site ProgramOptions Kept Holds DeliveredUnless Serves holds_stable kept_stable
  playUnless rest rest_triple verifiedMessage)

/-- The environment of the program, with the files and the AMR of the C++ program. The stop flag is
read once at most, as `stop`. -/
def site (resolve : String → String) (stop : Bool) : Environment Op.Answer Site where
  answers w op a w' :=
    match op with
    -- What the AMR has done does not depend on the exception.
    | .client request => Serves w request (Except.mapError (fun _ => StdException.other "") a) w'
    | .sleep _ => w' = w
    | .readBytes path => (∀ data, a = .ok data → w.files (resolve path) = some data) ∧ w' = w
    | .writeBytes path data => (∃ e, a = .error e ∧ w' = w) ∨
      ∃ written, written <+: data ∧ (a = .ok () → written = data) ∧
        w' = w.write (resolve path) written
    | .stopRequested => a = stop ∧ w' = w
    | .log message => w' = { w with log := w.log ++ [message] }
  moves := FlexivAmr.Audio.Site.Moves

/-- The two programs around the same site. Nothing is compared but what they leave. -/
def programs (resolve : String → String) (stop : Bool) : Comparison Op.Answer FlexivAmr.Audio.Op.Answer Site Empty where
  left := site resolve stop
  right := FlexivAmr.Audio.site resolve true
  observeLeft _ := none
  observeRight _ := none
  moves_iff _ _ := Iff.rfl

variable {α : Type} {resolve : String → String} {stop : Bool} {args : Namespace} {w w' : Site}

/-- The Python program does what the C++ program can do. -/
abbrev Follows (resolve : String → String) (stop : Bool) (p : AudioProgram PyException α)
    (p' : FlexivAmr.Audio.AudioProgram StdException α) : Prop :=
  Refines (programs resolve stop) Eq (fun _ _ => True) p p'

/-- The two sites move alike. -/
theorem stable {A : Site → Prop} (hA : Stable (FlexivAmr.Audio.site resolve true) A) :
    Stable (site resolve stop) A := hA

/-! ## The calls -/

/-- A request. -/
theorem client_follows (request : FlexivAmr.Audio.Request) :
    Follows resolve stop (client request) (FlexivAmr.Audio.client request) := by
  refine .call (fun outcome outcome' =>
    outcome' = Except.mapError (fun _ => StdException.other "") outcome) ?_ (fun _ _ _ => rfl) ?_
  · intro w outcome w' answer
    exact ⟨_, rfl, answer⟩
  · rintro (e | reply) _ rfl
    · exact .raise trivial
    · exact .ret rfl

/-- A sleep. -/
theorem sleep_follows {secs : ℚ} {duration : ℤ} :
    Refines (programs resolve stop) Eq (fun _ _ => True)
      (perform (Op.sleep secs) : AudioProgram PyException Unit)
      (perform (FlexivAmr.Audio.Op.sleepFor duration) :
        FlexivAmr.Audio.AudioProgram StdException Unit) :=
  .call (fun _ _ => True) (fun _ _ _ answer => ⟨(), trivial, answer⟩) (fun _ _ _ => rfl)
    fun _ _ _ => .ret rfl

/-- A log line. -/
theorem log_follows {message : String} : Follows resolve stop (log message) (FlexivAmr.Audio.log message) :=
  .call (fun _ _ => True) (fun _ _ _ answer => ⟨(), trivial, answer⟩) (fun _ _ _ => rfl)
    fun _ _ _ => .ret rfl

/-- `Path.read_bytes` does what `ReadBinaryFile` does. -/
theorem readBytes_follows {path : String} :
    Follows resolve stop (readBytes path) (FlexivAmr.Audio.readBinaryFile path) := by
  refine .atomic (C := programs resolve stop) (.readBytes path)
    (f := fun outcome : Except PyException (List UInt8) => outcome) (fun _ => rfl) ?_
  rintro w (e | data) _ ⟨hdata, rfl⟩
  · exact .call false ⟨(nomatch ·), rfl⟩ (.raise ⟨.error trivial, rfl, rfl⟩)
  · have hfile := hdata data rfl
    refine .call true ⟨fun _ => by rw [hfile]; rfl, rfl⟩ ?_
    exact .call data ⟨hfile, rfl⟩ (.ret ⟨.ok rfl, rfl, rfl⟩)

/-- Writing a file again replaces what it held. -/
theorem write_write (w : Site) (path : String) (data data' : List UInt8) :
    (w.write path data).write path data' = w.write path data' := by
  unfold FlexivAmr.Audio.Site.write
  rw [Function.update_idem]

/-- `Path.write_bytes` does what `WriteBinaryFile` does when the file can be flushed. -/
theorem writeBytes_follows {path : String} {data : List UInt8} :
    Follows resolve stop (writeBytes path data) (FlexivAmr.Audio.writeBinaryFile path data) := by
  refine .atomic (C := programs resolve stop) (.writeBytes path data)
    (f := fun outcome : Except PyException Unit => outcome) (fun _ => rfl) ?_
  rintro w outcome w' (⟨e, rfl, rfl⟩ | ⟨written, hwritten, hwhole, rfl⟩)
  · exact .call false rfl (.raise ⟨.error trivial, rfl, rfl⟩)
  -- The stream takes what the file holds in the end, and all of it is flushed.
  have hheld : ∀ written : List UInt8,
      ((w.write (resolve path) []).write (resolve path) written).files (resolve path) =
        some written :=
    fun written => Function.update_self _ _ _
  have hend : ∀ written, ((((w.write (resolve path) []).write (resolve path) written).write
      (resolve path) written)) = w.write (resolve path) written := by
    intro written
    rw [write_write, write_write]
  refine .call true rfl ?_
  cases outcome with
  | error e =>
    refine .call false ⟨written, hwritten, (nomatch ·), rfl⟩ ?_
    refine .call true ⟨written, written, hheld written, List.prefix_rfl, fun _ => rfl, rfl⟩ ?_
    exact .raise ⟨.error trivial, hend written, rfl⟩
  | ok _ =>
    obtain rfl := hwhole rfl
    refine .call true ⟨written, List.prefix_rfl, fun _ => rfl, rfl⟩ ?_
    refine .call true ⟨written, written, hheld written, List.prefix_rfl, fun _ => rfl, rfl⟩ ?_
    exact .ret ⟨.ok rfl, hend written, rfl⟩

/-! ## The parts of the program -/

/-- The names never raise. -/
theorem names_eq : names args = .ok ((options args).audio_name, (options args).upload_file) := by
  unfold names options
  cases haudio : isAudioFilePath (args.audio.getD "") with
  | true =>
    have hne : args.audio.getD "" ≠ "" := by
      intro hempty
      rw [hempty] at haudio
      cases haudio
    simp [hne, haudio, audioNameFromPath_eq_ok haudio]
  | false =>
    simp [haudio]
    rfl

/-- The pause. -/
theorem pauseBlock_follows :
    Follows resolve stop (pauseBlock args) (FlexivAmr.Audio.pauseBlock (options args)) := by
  unfold pauseBlock FlexivAmr.Audio.pauseBlock
  rw [show (options args).pause = args.pause from rfl]
  cases args.pause with
  | false => exact .ret rfl
  | true =>
    refine (client_follows .pauseAudio).bind_same fun accepted => ?_
    cases accepted with
    | false => exact .raise trivial
    | true =>
      refine sleep_follows.bind_same fun _ => ?_
      refine (client_follows .getAudioStatus).bind_same fun status => ?_
      exact .ret rfl

/-- The download. -/
theorem downloadBlock_follows : Follows resolve stop (downloadBlock args (options args).audio_name)
    (FlexivAmr.Audio.downloadBlock (options args)) := by
  unfold downloadBlock FlexivAmr.Audio.downloadBlock
  rw [show (options args).download_file = args.download.getD "" from rfl]
  by_cases hdownload : args.download.getD "" = ""
  · rw [if_neg (not_not_intro hdownload), if_neg (not_not_intro hdownload)]
    exact .ret rfl
  · rw [if_pos hdownload, if_pos hdownload]
    refine (client_follows (.downloadAudio _)).bind_same fun audio_data => ?_
    exact writeBytes_follows

/-- The verification. -/
theorem verifyUploadedAudio_follows {audio_name upload_file : String} :
    Follows resolve stop (verifyUploadedAudio audio_name upload_file)
      (FlexivAmr.Audio.verifyUploadedAudio audio_name upload_file) := by
  refine sleep_follows.bind_same fun _ => ?_
  refine readBytes_follows.bind_same fun local_data => ?_
  refine (client_follows (.downloadAudio audio_name)).bind_same fun downloaded_data => ?_
  split_ifs
  · exact log_follows
  · exact log_follows
  · exact log_follows

/-- The upload. -/
theorem uploadBlock_follows :
    Follows resolve stop (uploadBlock (options args).audio_name (options args).upload_file)
      (FlexivAmr.Audio.uploadBlock (options args)) := by
  unfold uploadBlock FlexivAmr.Audio.uploadBlock
  by_cases hupload : (options args).upload_file = ""
  · rw [if_neg (not_not_intro hupload), if_neg (not_not_intro hupload)]
    exact .ret rfl
  · rw [if_pos hupload, if_pos hupload]
    refine (client_follows (.uploadAudio _)).bind_same fun accepted => ?_
    cases accepted with
    | false => exact .raise trivial
    | true => exact verifyUploadedAudio_follows

/-- The polls after the playback has started. -/
theorem pollAudioStatusLoop_follows {audio_name : String} {polls : ℕ} :
    Follows resolve stop (pollAudioStatusLoop audio_name polls)
      (FlexivAmr.Audio.pollAudioStatusLoop audio_name polls) := by
  induction polls with
  | zero => exact log_follows
  | succ polls ih =>
    refine sleep_follows.bind_same fun _ => ?_
    refine (client_follows .getAudioStatus).bind_same fun status => ?_
    split_ifs
    · exact log_follows
    · exact ih

/-- The playback, which the signal prevents. -/
theorem playBlock_follows : Follows resolve stop (playBlock args (options args).audio_name)
    (playUnless stop (options args)) := by
  unfold playBlock playUnless FlexivAmr.Audio.playBlock
  rw [show (options args).download_file = args.download.getD "" from rfl,
    show (options args).loop = args.loop from rfl]
  by_cases hplay : ((options args).audio_name ≠ "" && args.download.getD "" = "") = true
  · rw [if_pos hplay, if_pos hplay]
    refine .known stop (fun _ _ _ answer => answer) rfl ?_
    cases stop with
    | true => exact .ret rfl
    | false =>
      refine (client_follows (.playAudio _ _)).bind_same fun accepted => ?_
      cases accepted with
      | false => exact .raise trivial
      | true => exact pollAudioStatusLoop_follows
  · rw [if_neg hplay, if_neg hplay]
    cases stop with
    | true => exact .ret rfl
    | false => exact .ret rfl

/-- The `try` block from the connection on. -/
theorem connectedSession_follows :
    Follows resolve stop (connectedSession args) (rest stop (options args)) := by
  unfold connectedSession rest
  rw [names_eq]
  refine (client_follows .isConnected).bind_same fun connected => ?_
  refine (client_follows .getAudioStatus).bind_same fun status => ?_
  refine pauseBlock_follows.bind_same fun _ => ?_
  refine downloadBlock_follows.bind_same fun _ => ?_
  refine uploadBlock_follows.bind_same fun _ => ?_
  refine playBlock_follows.bind_same fun _ => ?_
  exact client_follows .disconnect

/-! ## What is delivered -/

/-- Where the `try` block leaves the site. -/
def SessionEnds (resolve : String → String) (stop : Bool) (args : Namespace) (w : Site) (r : Except Thrown Unit) (w' : Site) :
    Prop :=
  Kept resolve (options args) w w' ∧ (r = .ok () → DeliveredUnless resolve stop true (options args) w w')

/-- What is played may come to its end after all has been delivered. -/
theorem sessionEnds_stable {r : Except Thrown Unit} :
    Stable (site resolve stop) (SessionEnds resolve stop args w r) := by
  rintro w₁ w₂ ⟨hkept, hdelivered⟩ hmove
  refine ⟨stable kept_stable _ _ hkept hmove, fun hr => ?_⟩
  cases hmove with
  | finish =>
    obtain ⟨hdownloaded, huploaded, hverified, -, hplayable⟩ := hdelivered hr
    exact ⟨hdownloaded, huploaded, hverified, .inl rfl, hplayable⟩

/-- A request that only asks. -/
theorem ask_triple {request : FlexivAmr.Audio.Request}
    {files sounds : String → Option (List UInt8)} {playing : Option (String × Bool)}
    {lines : List String}
    (hask : ∀ w outcome w', Serves w request outcome w' → w' = w) :
    Triple (site resolve stop) (Holds files sounds playing lines) (client request)
      fun _ => Holds files sounds playing lines := by
  refine .call (stable holds_stable) (fun _ => Holds files sounds playing lines) ?_ fun outcome => ?_
  · intro w outcome w' hw answer
    rw [hask _ _ _ answer]
    exact hw
  · exact Triple.ended (stable holds_stable) fun _ hw => hw

/-- The `try` block. -/
theorem session_triple (hname : (options args).upload_file ≠ "" →
      (options args).audio_name = FlexivAmr.Audio.stem (options args).upload_file) :
    Triple (site resolve stop) (Holds w.files w.sounds w.playing w.log) (session args)
      (SessionEnds resolve stop args w) := by
  have hconnect : Triple (site resolve stop) (Holds w.files w.sounds w.playing w.log)
      ((client .connect).mapError fun e => (⟨e, false⟩ : Thrown))
      fun _ => Holds w.files w.sounds w.playing w.log :=
    .mapError (fun _ => stable holds_stable) (ask_triple fun _ _ _ hserves => hserves)
  refine .bind _ hconnect (fun _ => ?_) fun e => ?_
  · refine .mapError (fun _ => sessionEnds_stable) ?_
    refine connectedSession_follows.triple (rest_triple stop hname) ?_
    rintro r r' w' hr ⟨hkept, hdelivered⟩
    cases hr with
    | ok ha =>
      cases ha
      exact ⟨hkept, fun _ => hdelivered rfl⟩
    | error he => exact ⟨hkept, (nomatch ·)⟩
  · exact Triple.ended (r := .error e) (stable holds_stable) fun w' hw => ⟨hw.kept, (nomatch ·)⟩

/-- The `finally` block leaves the site as it is. -/
theorem cleanup_triple {A : Site → Prop} {connected : Bool} (hA : Stable (site resolve stop) A) :
    Triple (site resolve stop) A (cleanup connected) fun r w => r = .ok () ∧ A w := by
  cases connected with
  | false => exact Triple.ended (r := .ok ()) hA fun _ hw => ⟨rfl, hw⟩
  | true =>
    have hdisconnect : Triple (site resolve stop) A (client .disconnect) fun _ => A := by
      refine .call hA (fun _ => A) ?_ fun outcome => Triple.ended hA fun _ hw => hw
      rintro w outcome _ hw rfl
      exact hw
    refine .bind (fun
      | .ok _ => A
      | .error _ => fun _ => False) (.attempt hdisconnect) (fun _ => ?_) fun e => ?_
    · exact Triple.ended (r := .ok ()) hA fun _ hw => ⟨rfl, hw⟩
    · intro n w h r w' hw
      exact hw.elim

/-- The end of `main`. -/
theorem exit_triple {A : Site → Prop} {connected : Bool} {exit_code : ℤ}
    (hA : Stable (site resolve stop) A) :
    Triple (site resolve stop) A ((cleanup connected).bind fun _ => .ret exit_code)
      fun r w => r = .ok exit_code ∧ A w := by
  refine .bind _ (cleanup_triple hA) (fun _ => ?_) fun e => ?_
  · exact .and_pre fun _ => Triple.ended (r := .ok exit_code) hA fun _ hw => ⟨rfl, hw⟩
  · exact .and_pre fun he => nomatch he

/-- The audio name is that under which the SDK stores the file to upload. -/
theorem audio_name_eq (hpath : ∀ audio, args.audio = some audio → isAudioFilePath audio = true →
      FlexivAmr.Audio.filename audio ≠ [] ∧ FlexivAmr.Audio.filename audio ≠ ['.'])
    (hupload : (options args).upload_file ≠ "") :
    (options args).audio_name = FlexivAmr.Audio.stem (options args).upload_file := by
  revert hupload
  unfold options
  cases haudio : isAudioFilePath (args.audio.getD "") with
  | false => exact fun hupload => absurd rfl hupload
  | true =>
    intro _
    cases hargs : args.audio with
    | none =>
      rw [hargs] at haudio
      cases haudio
    | some audio =>
      rw [hargs] at haudio
      obtain ⟨hempty, hperiod⟩ := hpath audio hargs haudio
      exact stem_eq haudio hempty hperiod

/-- A request that returns. -/
theorem reply_canEnd {request : FlexivAmr.Audio.Request}
    {f : request.Reply → AudioProgram PyException α}
    {Q : Except PyException α → Site → History → Prop} {h : History} (reply : request.Reply)
    (answer : Serves w request (.ok reply) w')
    (hnext : CanEnd (site resolve stop) (f reply) Q w' (h ++ [⟨.client request, .ok reply⟩])) :
    CanEnd (site resolve stop) ((client request).bind f) Q w h :=
  .bind (.call (.ok reply) answer (.ret hnext))

/-- The namespace of the command line `seer_audio_example.py 192.168.192.5 ./welcome.wav`. -/
def uploadWelcome : Namespace := { amr_ip := "192.168.192.5", audio := some "./welcome.wav" }

end FlexivAmr.Python.Audio
