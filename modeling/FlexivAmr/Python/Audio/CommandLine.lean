import FlexivAmr.Audio.Arguments
import FlexivAmr.Python.Audio

/-!
# The two command lines of the audio program

`options` is what the Python program makes of its namespace, in the terms of the C++ program. The
C++ program makes the same of the command line for the namespace (`parseArguments_commandLine`), and
refuses the same, but for a path whose last part is no name: there `pathlib` still finds the suffix
of an audio file, and `std::filesystem` does not (`toOption_parseArguments_eq_accepted_iff`).
-/

namespace FlexivAmr.Python.Audio

open FlexivAmr.Audio (ProgramOptions filename splitExtension extension toLower
  hasUnsupportedAudioExtension parseArguments parseArgumentsLoop requireName)

variable {args : Namespace} {program path : String}

/-- The options of the C++ program for the namespace. -/
def options (args : Namespace) : ProgramOptions where
  amr_ip := args.amr_ip
  audio_name := if isAudioFilePath (args.audio.getD "") then stem (args.audio.getD "")
    else args.audio.getD ""
  upload_file := if isAudioFilePath (args.audio.getD "") then args.audio.getD "" else ""
  download_file := args.download.getD ""
  loop := args.loop
  pause := args.pause

/-- The options, if `parse_arguments` returns. -/
def accepted (args : Namespace) : Option ProgramOptions :=
  match checkArguments args with
  | .ok () => some (options args)
  | .error _ => none

/-- The options of a namespace as tokens. -/
def flags (args : Namespace) : List String :=
  (if args.loop then ["--loop"] else []) ++ (if args.pause then ["--pause"] else []) ++
    (args.download.elim [] fun file => ["--download", file])

/-- The command line of the C++ program for a namespace. -/
def commandLine (program : String) (args : Namespace) : List String :=
  program :: args.amr_ip :: (args.audio.toList ++ flags args)

/-- The path ends with a name, or has the suffix of no sound in either program. -/
def Agrees (path : String) : Prop :=
  (filename path ≠ [] ∧ filename path ≠ ['.']) ∨
    (isAudioFilePath path = false ∧ toLower (suffix path) ≠ ".mp3")

instance : DecidablePred Agrees := fun _ => inferInstanceAs (Decidable (_ ∨ _))

/-! ## The C++ program on these command lines -/

/-- The tokens of the options. -/
theorem parseArgumentsLoop_flags {given : ProgramOptions} (hloop : given.loop = false)
    (hpause : given.pause = false) (hdownload : given.download_file = "") :
    parseArgumentsLoop (flags args) given = .ok { given with
      loop := args.loop, pause := args.pause, download_file := args.download.getD "" } := by
  obtain ⟨amr_ip, audio, loop, download, pause⟩ := args
  obtain ⟨_, _, _, _, _, _⟩ := given
  subst hloop hpause hdownload
  cases loop <;> cases pause <;> cases download <;> simp [flags, parseArgumentsLoop]

/-- The audio argument, when it is no option. -/
theorem parseArgumentsLoop_audio {audio : String} {tokens : List String} {amr_ip : String}
    (haudio : audio ∉ ["--loop", "--pause", "--download"]) :
    parseArgumentsLoop (audio :: tokens) { amr_ip := amr_ip } =
      if hasUnsupportedAudioExtension audio then
        .error (.invalid_argument "only .wav audio files are supported")
      else if FlexivAmr.Audio.isAudioFilePath audio then
        parseArgumentsLoop tokens { amr_ip := amr_ip, upload_file := audio }
      else
        parseArgumentsLoop tokens { amr_ip := amr_ip, audio_name := audio } := by
  simp only [List.mem_cons, List.not_mem_nil, or_false, not_or] at haudio
  obtain ⟨hne_loop, hne_pause, hne_download⟩ := haudio
  rw [FlexivAmr.Audio.parseArgumentsLoop.eq_def]
  simp only [if_neg hne_loop, if_neg hne_pause, if_neg hne_download, decide_true, Bool.and_true,
    if_true]

/-- What the loop has made of the tokens. -/
def parsed (args : Namespace) : ProgramOptions where
  amr_ip := args.amr_ip
  audio_name := if FlexivAmr.Audio.isAudioFilePath (args.audio.getD "") then ""
    else args.audio.getD ""
  upload_file := if FlexivAmr.Audio.isAudioFilePath (args.audio.getD "") then args.audio.getD ""
    else ""
  download_file := args.download.getD ""
  loop := args.loop
  pause := args.pause

/-- The command line for a namespace whose audio argument is no option. -/
theorem parseArguments_commandLine
    (haudio : ∀ audio ∈ args.audio, audio ∉ ["--loop", "--pause", "--download"]) :
    parseArguments (commandLine program args) =
      if hasUnsupportedAudioExtension (args.audio.getD "") then
        .error (.invalid_argument "only .wav audio files are supported")
      else
        FlexivAmr.Audio.checkArguments (parsed args) := by
  have hloop : parseArgumentsLoop (args.audio.toList ++ flags args) { amr_ip := args.amr_ip } =
      if hasUnsupportedAudioExtension (args.audio.getD "") then
        .error (.invalid_argument "only .wav audio files are supported")
      else
        .ok (parsed args) := by
    unfold parsed
    cases hargs : args.audio with
    | none => exact parseArgumentsLoop_flags rfl rfl rfl
    | some audio =>
      rw [Option.toList_some, List.singleton_append, Option.getD_some,
        parseArgumentsLoop_audio (haudio audio hargs)]
      split_ifs
      · rfl
      · exact parseArgumentsLoop_flags rfl rfl rfl
      · exact parseArgumentsLoop_flags rfl rfl rfl
  show (parseArgumentsLoop (args.audio.toList ++ flags args) { amr_ip := args.amr_ip }).bind
    FlexivAmr.Audio.checkArguments = _
  rw [hloop]
  split_ifs
  · rfl
  · rw [Except.bind]

/-! ## The two paths -/

/-- The C++ program finds no extension in a path that ends with no name. -/
theorem extension_eq_empty (hend : ¬ (filename path ≠ [] ∧ filename path ≠ ['.'])) :
    extension path = "" := by
  have hfilename : filename path = [] ∨ filename path = ['.'] := by
    by_cases hempty : filename path = []
    · exact .inl hempty
    · exact .inr (not_not.1 fun hperiod => hend ⟨hempty, hperiod⟩)
  unfold extension
  rcases hfilename with h | h
  · rw [h]
    rfl
  · rw [h]
    rfl

/-- A suffix of more than a period is the same in both programs. -/
theorem toLower_extension_iff {text : String} (hne : text ≠ "") (hperiod : text ≠ ".")
    (hend : filename path ≠ [] ∧ filename path ≠ ['.']) :
    toLower (extension path) = text ↔ toLower (suffix path) = text := by
  unfold suffix extension
  rw [name_eq_filename hend.1 hend.2]
  by_cases hsuffix : (splitSuffix (filename path)).2 = []
  · rw [hsuffix]
    have hextension : (splitExtension (filename path)).2 = [] ∨
        (splitExtension (filename path)).2 = ['.'] := splitExtension_snd hsuffix
    have hnone : toLower (String.ofList []) ≠ text := fun h => hne h.symm
    have hdot : toLower (String.ofList ['.']) ≠ text := fun h => hperiod h.symm
    rcases hextension with h | h
    · rw [h]
    · rw [h]
      exact iff_of_false hdot hnone
  · rw [splitExtension_eq hsuffix]

/-! ## The two programs -/

/-- Without an audio argument, both programs look at the other options only. -/
theorem toOption_parseArguments_of_eq_empty (hempty : args.audio.getD "" = "")
    (haudio : ∀ audio ∈ args.audio, audio ∉ ["--loop", "--pause", "--download"]) :
    (parseArguments (commandLine program args)).toOption = accepted args := by
  have hmp3 : hasUnsupportedAudioExtension "" = false := by decide
  have hwav : FlexivAmr.Audio.isAudioFilePath "" = false := by decide
  have hwav' : isAudioFilePath "" = false := by decide
  rw [parseArguments_commandLine haudio, accepted, FlexivAmr.Audio.checkArguments, requireName,
    checkArguments, parsed, options, hempty, hmp3, hwav, hwav']
  by_cases hdownload : args.download.getD "" = ""
  · cases args.pause <;> simp [hdownload, Except.toOption]
  · cases args.pause <;> simp [hdownload, Except.toOption]

/-- With an audio argument, the Python program refuses the `.mp3` files only. -/
theorem accepted_of_ne_empty (hne : args.audio.getD "" ≠ "") :
    accepted args =
      if toLower (suffix (args.audio.getD "")) = ".mp3" then none else some (options args) := by
  unfold accepted checkArguments
  by_cases hmp3 : toLower (suffix (args.audio.getD "")) = ".mp3"
  · simp [hne, hmp3]
  · simp [hne, hmp3]

/-- With an audio argument, so does the C++ program. -/
theorem toOption_parseArguments_of_ne_empty (hne : args.audio.getD "" ≠ "")
    (haudio : ∀ audio ∈ args.audio, audio ∉ ["--loop", "--pause", "--download"]) :
    (parseArguments (commandLine program args)).toOption =
      if hasUnsupportedAudioExtension (args.audio.getD "") then none
      else if FlexivAmr.Audio.isAudioFilePath (args.audio.getD "") then
        some { parsed args with audio_name := FlexivAmr.Audio.stem (args.audio.getD "") }
      else some (parsed args) := by
  rw [parseArguments_commandLine haudio]
  cases hmp3 : hasUnsupportedAudioExtension (args.audio.getD "") with
  | true => rfl
  | false =>
    simp only [Bool.false_eq_true, if_false]
    unfold FlexivAmr.Audio.checkArguments
    cases hwav : FlexivAmr.Audio.isAudioFilePath (args.audio.getD "") with
    | true =>
      have hstem := FlexivAmr.Audio.stem_ne_empty hwav
      simp [parsed, requireName, hwav, hne, hstem, Except.toOption, bind, Except.bind,
        FlexivAmr.Audio.audioNameFromPath_eq_ok hwav]
    | false => simp [parsed, requireName, hwav, hne, Except.toOption]

/-- The C++ program takes the command line of a namespace as the Python program takes the namespace,
exactly when the audio argument ends with a name or has the suffix of no sound. -/
theorem toOption_parseArguments_eq_accepted_iff
    (haudio : ∀ audio ∈ args.audio, audio ∉ ["--loop", "--pause", "--download"]) :
    (parseArguments (commandLine program args)).toOption = accepted args ↔
      Agrees (args.audio.getD "") := by
  by_cases hempty : args.audio.getD "" = ""
  · refine iff_of_true (toOption_parseArguments_of_eq_empty hempty haudio) (.inr ?_)
    rw [hempty]
    decide
  rw [toOption_parseArguments_of_ne_empty hempty haudio, accepted_of_ne_empty hempty]
  unfold parsed options
  generalize args.audio.getD "" = path at hempty
  by_cases hend : filename path ≠ [] ∧ filename path ≠ ['.']
  · -- The two programs find the same suffix.
    refine iff_of_true ?_ (.inl hend)
    have hmp3 : toLower (extension path) = ".mp3" ↔ toLower (suffix path) = ".mp3" :=
      toLower_extension_iff (by decide) (by decide) hend
    have hwav : toLower (extension path) = ".wav" ↔ toLower (suffix path) = ".wav" :=
      toLower_extension_iff (by decide) (by decide) hend
    have hwav' : FlexivAmr.Audio.isAudioFilePath path = isAudioFilePath path :=
      decide_eq_decide.2 hwav
    rw [hasUnsupportedAudioExtension, hwav']
    simp only [hmp3, decide_eq_true_eq]
    cases haudio' : isAudioFilePath path with
    | true => simp [stem_eq haudio' hend.1 hend.2]
    | false => simp
  · -- There is no extension for the C++ program to find, and the argument is a name to it.
    have hextension := extension_eq_empty hend
    have hmp3 : hasUnsupportedAudioExtension path = false := by
      rw [hasUnsupportedAudioExtension, hextension]
      decide
    have hwav : FlexivAmr.Audio.isAudioFilePath path = false := by
      rw [FlexivAmr.Audio.isAudioFilePath, hextension]
      decide
    unfold Agrees
    rw [hmp3, hwav]
    by_cases hmp3' : toLower (suffix path) = ".mp3"
    · simp [hend, hmp3']
    · cases hwav' : isAudioFilePath path with
      | true => simp [hend, hmp3', hempty]
      | false => simp [hmp3']

/-- The two programs agree on a file, and not when a slash follows it, which `pathlib` ignores. -/
theorem toOption_parseArguments_welcome_and_slash :
    (parseArguments (commandLine "seer_audio_example"
        { amr_ip := "192.168.192.5", audio := some "./welcome.wav" })).toOption =
        accepted { amr_ip := "192.168.192.5", audio := some "./welcome.wav" } ∧
      (parseArguments (commandLine "seer_audio_example"
        { amr_ip := "192.168.192.5", audio := some "./welcome.wav/" })).toOption ≠
        accepted { amr_ip := "192.168.192.5", audio := some "./welcome.wav/" } := by
  constructor
  · refine (toOption_parseArguments_eq_accepted_iff ?_).2 (by decide)
    rintro _ ⟨⟩
    decide
  · refine fun h => absurd ((toOption_parseArguments_eq_accepted_iff ?_).1 h) (by decide)
    rintro _ ⟨⟩
    decide

end FlexivAmr.Python.Audio
