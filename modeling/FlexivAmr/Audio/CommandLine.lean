import FlexivAmr.Audio.Arguments
import Mathlib.Tactic.TFAE

/-!
# Which command lines the audio program accepts

The part of the command line after the address is a list of items (`Item`), and the options are what
the items ask for (`Asks`, `parseArguments_eq_ok_iff`). The options that come out are exactly the
well-formed ones, and each of them has a command line in a canonical order (`parseArguments_range`).
-/

namespace FlexivAmr.Audio

/-! ## The grammar -/

/-- The text is an argument of its own, and not the name of an option or an `.mp3` file. -/
structure Positional (text : String) : Prop where
  ne_loop : text ≠ "--loop"
  ne_pause : text ≠ "--pause"
  ne_download : text ≠ "--download"
  supported : hasUnsupportedAudioExtension text = false

/-- A part of the command line after the address. -/
inductive Item
  | loop
  | pause
  | download (file : String)
  /-- An audio name, or an audio file. -/
  | audio (text : String) (h : Positional text)

namespace Item

/-- The tokens of an item. -/
def tokens : Item → List String
  | .loop => ["--loop"]
  | .pause => ["--pause"]
  | .download file => ["--download", file]
  | .audio text _ => [text]

/-- The item is `--loop`. -/
def isLoop : Item → Bool
  | .loop => true
  | _ => false

/-- The item is `--pause`. -/
def isPause : Item → Bool
  | .pause => true
  | _ => false

/-- The file of a `--download`. -/
def file : Item → Option String
  | .download file => some file
  | _ => none

/-- The audio name or the audio file that an item gives. -/
def text : Item → Option String
  | .audio text _ => some text
  | _ => none

end Item

/-- The audio file to upload: the first one among the texts. -/
def uploadFile (texts : List String) : String := (texts.find? isAudioFilePath).getD ""

/-- The texts that are taken for names: those that are not the file to upload. -/
def names (texts : List String) : List String := texts.eraseP isAudioFilePath

/-- What a list of items asks for. -/
structure Asks (items : List Item) (options : ProgramOptions) : Prop where
  loop : options.loop = items.any Item.isLoop
  pause : options.pause = items.any Item.isPause
  /-- The last `--download` is the one in force. -/
  download_file : options.download_file = (items.filterMap Item.file).getLast?.getD ""
  upload_file : options.upload_file = uploadFile (items.filterMap Item.text)
  /-- There is one name at most. An empty argument before it does no harm. -/
  one_name : ∀ name ∈ (names (items.filterMap Item.text)).dropLast, name = ""
  /-- The file to upload gives the name, whatever other name there is. -/
  audio_name : options.audio_name =
    if options.upload_file = "" then (names (items.filterMap Item.text)).getLast?.getD ""
    else stem options.upload_file
  named : options.pause = true ∨ options.audio_name ≠ ""
  download_named : options.download_file ≠ "" → options.audio_name ≠ ""

/-! ## The parser -/

/-- What a text makes of the options, after the options' names have been ruled out. -/
def takeText (text : String) (options : ProgramOptions) : Except StdException ProgramOptions :=
  if isAudioFilePath text && options.upload_file = "" then
    .ok { options with upload_file := text }
  else if options.audio_name = "" then
    .ok { options with audio_name := text }
  else
    .error (.invalid_argument ("unexpected argument: " ++ text))

/-- What an item makes of the options. -/
def Item.take (options : ProgramOptions) : Item → Except StdException ProgramOptions
  | .loop => .ok { options with loop := true }
  | .pause => .ok { options with pause := true }
  | .download file => .ok { options with download_file := file }
  | .audio text _ => takeText text options

/-- The loop of `ParseArguments` takes the tokens of an item in one step. -/
theorem parseArgumentsLoop_item (item : Item) (rest : List String) (options : ProgramOptions) :
    parseArgumentsLoop (item.tokens ++ rest) options =
      (item.take options).bind (parseArgumentsLoop rest) := by
  cases item with
  | loop | pause | download file =>
    simp only [Item.tokens, List.cons_append, List.nil_append]
    rw [parseArgumentsLoop.eq_def]
    simp [Item.take, Except.bind]
  | audio text h =>
    show parseArgumentsLoop (text :: rest) options = _
    rw [parseArgumentsLoop.eq_def]
    simp only [if_neg h.ne_loop, if_neg h.ne_pause, if_neg h.ne_download, h.supported,
      Bool.false_eq_true, if_false, Item.take, takeText]
    split_ifs <;> rfl

/-- When the loop of `ParseArguments` succeeds, its tokens start with an item. -/
theorem exists_item_of_parseArgumentsLoop_eq_ok {arg : String} {rest : List String}
    {options result : ProgramOptions} (h : parseArgumentsLoop (arg :: rest) options = .ok result) :
    ∃ (item : Item) (rest' : List String), arg :: rest = item.tokens ++ rest' := by
  rw [parseArgumentsLoop.eq_def] at h
  by_cases hloop : arg = "--loop"
  · exact ⟨.loop, rest, by rw [hloop]; rfl⟩
  by_cases hpause : arg = "--pause"
  · exact ⟨.pause, rest, by rw [hpause]; rfl⟩
  by_cases hdownload : arg = "--download"
  · subst hdownload
    cases rest with
    | nil => cases h
    | cons file rest => exact ⟨.download file, rest, rfl⟩
  simp only [if_neg hloop, if_neg hpause, if_neg hdownload] at h
  cases hsupported : hasUnsupportedAudioExtension arg with
  | true =>
    rw [if_pos hsupported] at h
    cases h
  | false => exact ⟨.audio arg ⟨hloop, hpause, hdownload, hsupported⟩, rest, rfl⟩

/-- The loop of `ParseArguments` succeeds on the tokens of a list of items, and on no others. -/
theorem parseArgumentsLoop_eq_ok_iff {tokens : List String} {options result : ProgramOptions} :
    parseArgumentsLoop tokens options = .ok result ↔
      ∃ items : List Item, tokens = items.flatMap Item.tokens ∧
        items.foldlM Item.take options = .ok result := by
  constructor
  · -- Each step takes an item off the tokens, which get fewer.
    generalize hn : tokens.length = n
    induction n using Nat.strongRecOn generalizing tokens options with
    | ind n ih =>
      intro h
      cases tokens with
      | nil => exact ⟨[], rfl, by rw [← h]; rfl⟩
      | cons arg rest =>
        obtain ⟨item, rest', hrest⟩ := exists_item_of_parseArgumentsLoop_eq_ok h
        rw [hrest, parseArgumentsLoop_item] at h
        cases htake : item.take options with
        | error e =>
          rw [htake] at h
          cases h
        | ok options' =>
          rw [htake] at h
          have hlt : rest'.length < n := by
            rw [← hn, hrest, List.length_append]
            cases item <;> simp [Item.tokens]
          obtain ⟨items, hitems, hresult⟩ := ih _ hlt rfl h
          refine ⟨item :: items, by rw [hrest, hitems, List.flatMap_cons], ?_⟩
          rw [List.foldlM_cons, htake]
          exact hresult
  · rintro ⟨items, rfl, h⟩
    induction items generalizing options with
    | nil => exact h
    | cons item items ih =>
      rw [List.foldlM_cons] at h
      rw [List.flatMap_cons, parseArgumentsLoop_item]
      cases htake : item.take options with
      | error e =>
        rw [htake] at h
        cases h
      | ok options' =>
        rw [htake] at h
        exact ih h

/-- The names among the texts, with the name that has been found before. -/
def namesAfter (options : ProgramOptions) (texts : List String) : List String :=
  options.audio_name :: if options.upload_file = "" then names texts else texts

/-- What a list of items makes of the options. -/
def grown (options : ProgramOptions) (items : List Item) : ProgramOptions where
  amr_ip := options.amr_ip
  audio_name := (namesAfter options (items.filterMap Item.text)).getLast?.getD ""
  upload_file :=
    if options.upload_file = "" then uploadFile (items.filterMap Item.text)
    else options.upload_file
  download_file := (items.filterMap Item.file).getLast?.getD options.download_file
  loop := options.loop || items.any Item.isLoop
  pause := options.pause || items.any Item.isPause

/-- The empty argument is no audio file. -/
theorem ne_empty_of_isAudioFilePath {text : String} (h : isAudioFilePath text = true) :
    text ≠ "" := by
  rintro rfl
  exact absurd h (by decide)

/-- Without texts there is no further name. -/
theorem namesAfter_nil (options : ProgramOptions) :
    namesAfter options [] = [options.audio_name] := by
  unfold namesAfter
  split_ifs <;> rfl

/-- The names after a text that is taken for the file to upload. -/
theorem namesAfter_upload {text : String} {texts : List String} {options : ProgramOptions}
    (haudio : isAudioFilePath text = true) (hempty : options.upload_file = "") :
    namesAfter options (text :: texts) = namesAfter { options with upload_file := text } texts := by
  unfold namesAfter names
  rw [if_pos hempty, if_neg (ne_empty_of_isAudioFilePath haudio), List.eraseP_cons_of_pos haudio]

/-- The names after a text that is taken for a name. -/
theorem namesAfter_name {text : String} {texts : List String} {options : ProgramOptions}
    (htext : isAudioFilePath text = true → options.upload_file ≠ "") :
    namesAfter options (text :: texts) =
      options.audio_name :: namesAfter { options with audio_name := text } texts := by
  unfold namesAfter names
  by_cases hempty : options.upload_file = ""
  · have haudio : ¬isAudioFilePath text = true := fun haudio => htext haudio hempty
    rw [if_pos hempty, if_pos hempty, List.eraseP_cons_of_neg haudio]
  · rw [if_neg hempty, if_neg hempty]

/-- The file to upload, after a text that is taken for a name. -/
theorem uploadFile_cons_of_neg {text : String} {texts : List String}
    (haudio : ¬isAudioFilePath text = true) : uploadFile (text :: texts) = uploadFile texts := by
  unfold uploadFile
  rw [List.find?_cons_of_neg haudio]

/-- The options after a text that is taken for the file to upload. -/
theorem grown_upload {text : String} {h : Positional text} {items : List Item}
    {options : ProgramOptions} (haudio : isAudioFilePath text = true)
    (hempty : options.upload_file = "") :
    grown options (.audio text h :: items) = grown { options with upload_file := text } items := by
  have htext : uploadFile (text :: items.filterMap Item.text) = text := by
    unfold uploadFile
    rw [List.find?_cons_of_pos haudio, Option.getD_some]
  unfold grown
  simp only [List.filterMap_cons, Item.text, Item.file, List.any_cons, Item.isLoop, Item.isPause,
    Bool.false_or, namesAfter_upload haudio hempty, if_pos hempty, htext,
    if_neg (ne_empty_of_isAudioFilePath haudio)]

/-- The options after a text that is taken for a name. -/
theorem grown_name {text : String} {h : Positional text} {items : List Item}
    {options : ProgramOptions} (htext : isAudioFilePath text = true → options.upload_file ≠ "") :
    grown options (.audio text h :: items) = grown { options with audio_name := text } items := by
  have hupload : (if options.upload_file = "" then uploadFile (text :: items.filterMap Item.text)
      else options.upload_file) = if options.upload_file = "" then
        uploadFile (items.filterMap Item.text) else options.upload_file := by
    by_cases hempty : options.upload_file = ""
    · rw [if_pos hempty, if_pos hempty, uploadFile_cons_of_neg fun haudio => htext haudio hempty]
    · rw [if_neg hempty, if_neg hempty]
  have hlast : ∀ other : ProgramOptions, ∀ texts : List String,
      (options.audio_name :: namesAfter other texts).getLast? = (namesAfter other texts).getLast? :=
    fun _ _ => List.getLast?_cons_cons
  unfold grown
  simp only [List.filterMap_cons, Item.text, Item.file, List.any_cons, Item.isLoop, Item.isPause,
    Bool.false_or, namesAfter_name htext, hlast, hupload]

/-- Without items the options stay as they are. -/
theorem grown_nil (options : ProgramOptions) : grown options [] = options := by
  have hupload : (if options.upload_file = "" then uploadFile [] else options.upload_file) =
      options.upload_file := by
    split_ifs with hempty
    · exact hempty.symm
    · rfl
  unfold grown
  simp only [List.filterMap_nil, namesAfter_nil, List.getLast?_singleton, Option.getD_some, hupload,
    List.getLast?_nil, Option.getD_none, List.any_nil, Bool.or_false]

/-- Items are taken when there is one name at most among them. -/
theorem foldlM_take_eq_ok_iff {items : List Item} {options result : ProgramOptions} :
    items.foldlM Item.take options = .ok result ↔
      (∀ name ∈ (namesAfter options (items.filterMap Item.text)).dropLast, name = "") ∧
        result = grown options items := by
  induction items generalizing options with
  | nil =>
    rw [List.filterMap_nil, namesAfter_nil, grown_nil]
    show Except.ok options = Except.ok result ↔ _
    rw [Except.ok.injEq, eq_comm]
    exact (and_iff_right (by simp)).symm
  | cons item items ih =>
    rw [List.foldlM_cons]
    cases item with
    | loop =>
      have hloop : (options.loop || (Item.loop :: items).any Item.isLoop) =
          (true || items.any Item.isLoop) := by simp [Item.isLoop]
      have hgrown : grown options (.loop :: items) = grown { options with loop := true } items := by
        unfold grown
        rw [hloop]
        rfl
      rw [hgrown]
      exact ih
    | pause =>
      have hpause : (options.pause || (Item.pause :: items).any Item.isPause) =
          (true || items.any Item.isPause) := by simp [Item.isPause]
      have hgrown : grown options (.pause :: items) =
          grown { options with pause := true } items := by
        unfold grown
        rw [hpause]
        rfl
      rw [hgrown]
      exact ih
    | download file =>
      have hfile : ((Item.download file :: items).filterMap Item.file).getLast?.getD
          options.download_file = (items.filterMap Item.file).getLast?.getD file := by
        simp [Item.file, List.getLast?_cons]
      have hgrown : grown options (.download file :: items) =
          grown { options with download_file := file } items := by
        unfold grown
        rw [hfile]
        rfl
      rw [hgrown]
      exact ih
    | audio text h =>
      have htexts : (Item.audio text h :: items).filterMap Item.text =
          text :: items.filterMap Item.text := rfl
      have htake : Item.take options (.audio text h) = takeText text options := rfl
      rw [htexts, htake, takeText]
      by_cases hupload : isAudioFilePath text = true ∧ options.upload_file = ""
      · obtain ⟨haudio, hempty⟩ := hupload
        rw [if_pos (by rw [haudio, hempty]; rfl), namesAfter_upload haudio hempty,
          grown_upload haudio hempty]
        exact ih
      · have hname : isAudioFilePath text = true → options.upload_file ≠ "" :=
          fun haudio hempty => hupload ⟨haudio, hempty⟩
        rw [if_neg (by simpa using hupload), namesAfter_name hname, grown_name hname]
        have hcons : ∀ other : ProgramOptions, (options.audio_name :: namesAfter other
            (items.filterMap Item.text)).dropLast = options.audio_name :: (namesAfter other
              (items.filterMap Item.text)).dropLast := fun _ => rfl
        rw [hcons, List.forall_mem_cons]
        by_cases hempty : options.audio_name = ""
        · rw [if_pos hempty]
          exact ih.trans (by simp [hempty])
        · rw [if_neg hempty]
          constructor
          · intro h
            cases h
          · rintro ⟨⟨hnil, -⟩, -⟩
            exact absurd hnil hempty

/-! ## Which command lines are accepted -/

/-- The last checks accept the options that have a name where they need one. -/
theorem requireName_eq_ok_iff {options result : ProgramOptions} :
    requireName options = .ok result ↔ result = options ∧
      (result.pause = true ∨ result.audio_name ≠ "") ∧
        (result.download_file ≠ "" → result.audio_name ≠ "") := by
  unfold requireName
  constructor
  · intro h
    split_ifs at h with hpause hdownload
    cases h
    simp only [Bool.and_eq_true, Bool.not_eq_true', decide_eq_true_eq, not_and] at hpause hdownload
    refine ⟨rfl, ?_, hdownload⟩
    cases hvalue : options.pause with
    | true => exact .inl rfl
    | false => exact .inr (hpause hvalue)
  · rintro ⟨rfl, hpause, hdownload⟩
    have hpause' : ¬(!result.pause && result.audio_name = "") = true := by
      simp only [Bool.and_eq_true, Bool.not_eq_true', decide_eq_true_eq, not_and]
      intro hvalue
      exact hpause.resolve_left (by rw [hvalue]; exact Bool.false_ne_true)
    have hdownload' : ¬(result.download_file ≠ "" && result.audio_name = "") = true := by
      simpa only [Bool.and_eq_true, decide_eq_true_eq, not_and] using hdownload
    rw [if_neg hpause', if_neg hdownload']

/-- The checks after the loop keep the options, with the name of the file to upload. -/
theorem checkArguments_eq_ok_iff {options result : ProgramOptions}
    (haudio : options.upload_file ≠ "" → isAudioFilePath options.upload_file = true) :
    checkArguments options = .ok result ↔
      result = { options with
        audio_name :=
          if options.upload_file = "" then options.audio_name else stem options.upload_file } ∧
      (result.pause = true ∨ result.audio_name ≠ "") ∧
      (result.download_file ≠ "" → result.audio_name ≠ "") := by
  unfold checkArguments
  by_cases hempty : options.upload_file = ""
  · rw [if_neg (not_not_intro hempty), if_pos hempty]
    exact requireName_eq_ok_iff
  · rw [if_pos hempty, if_neg hempty, audioNameFromPath_eq_ok (haudio hempty)]
    exact requireName_eq_ok_iff

/-- The file to upload is an audio file. -/
theorem isAudioFilePath_uploadFile {texts : List String} (h : uploadFile texts ≠ "") :
    isAudioFilePath (uploadFile texts) = true := by
  unfold uploadFile at h ⊢
  cases hfind : texts.find? isAudioFilePath with
  | none =>
    rw [hfind] at h
    exact absurd rfl h
  | some text => exact List.find?_some hfind

/-- The options that the loop makes of a list of items, and the name of the file to upload. -/
def named (amr_ip : String) (items : List Item) : ProgramOptions :=
  let options := grown { amr_ip := amr_ip } items
  { options with
    audio_name :=
      if options.upload_file = "" then options.audio_name else stem options.upload_file }

/-- The names that the loop collects from the start. -/
theorem namesAfter_start (amr_ip : String) (texts : List String) :
    namesAfter { amr_ip := amr_ip } texts = "" :: names texts := by
  unfold namesAfter
  rw [if_pos rfl]

/-- The options that the loop makes of a list of items, in terms of what the items say. -/
theorem named_eq (amr_ip : String) (items : List Item) :
    named amr_ip items =
      { amr_ip := amr_ip
        audio_name :=
          if uploadFile (items.filterMap Item.text) = "" then
            (names (items.filterMap Item.text)).getLast?.getD ""
          else stem (uploadFile (items.filterMap Item.text))
        upload_file := uploadFile (items.filterMap Item.text)
        download_file := (items.filterMap Item.file).getLast?.getD ""
        loop := items.any Item.isLoop
        pause := items.any Item.isPause } := by
  unfold named grown
  simp only [if_true, Bool.false_or, namesAfter_start, List.getLast?_cons, Option.getD_some]

/-- A list of items asks for the options that the loop makes of it, when these pass the checks. -/
theorem asks_iff {items : List Item} {options : ProgramOptions} :
    Asks items options ↔
      (∀ name ∈ (namesAfter { amr_ip := options.amr_ip } (items.filterMap Item.text)).dropLast,
        name = "") ∧ options = named options.amr_ip items ∧
      (options.pause = true ∨ options.audio_name ≠ "") ∧
      (options.download_file ≠ "" → options.audio_name ≠ "") := by
  have hone : (∀ name ∈ ("" :: names (items.filterMap Item.text)).dropLast, name = "") ↔
      ∀ name ∈ (names (items.filterMap Item.text)).dropLast, name = "" := by
    cases names (items.filterMap Item.text) with
    | nil => simp
    | cons name names => simp
  rw [namesAfter_start, hone, named_eq]
  constructor
  · rintro ⟨hloop, hpause, hdownload, hupload, hone, haudio, hnamed, hdownload_named⟩
    refine ⟨hone, ?_, hnamed, hdownload_named⟩
    rw [hupload] at haudio
    rw [← hloop, ← hpause, ← hdownload, ← haudio, ← hupload]
  · rintro ⟨hone, heq, hnamed, hdownload_named⟩
    have hupload : options.upload_file = uploadFile (items.filterMap Item.text) := by rw [heq]
    refine ⟨by rw [heq], by rw [heq], by rw [heq], hupload, hone, ?_, hnamed, hdownload_named⟩
    rw [hupload, heq]

/-- `ParseArguments` accepts the command lines whose items ask for options, and returns these. -/
theorem parseArguments_eq_ok_iff {argv : List String} {options : ProgramOptions} :
    parseArguments argv = .ok options ↔
      ∃ (program : String) (items : List Item),
        argv = program :: options.amr_ip :: items.flatMap Item.tokens ∧ Asks items options := by
  have haudio : ∀ (amr_ip : String) (items : List Item),
      (grown { amr_ip := amr_ip } items).upload_file ≠ "" →
        isAudioFilePath (grown { amr_ip := amr_ip } items).upload_file = true :=
    fun amr_ip items => isAudioFilePath_uploadFile
  constructor
  · intro h
    rcases argv with _ | ⟨program, _ | ⟨amr_ip, rest⟩⟩
    · cases h
    · cases h
    · replace h : (parseArgumentsLoop rest { amr_ip := amr_ip }).bind checkArguments = .ok options :=
        h
      cases hloop : parseArgumentsLoop rest { amr_ip := amr_ip } with
      | error e =>
        rw [hloop] at h
        cases h
      | ok found =>
        rw [hloop] at h
        obtain ⟨items, rfl, hitems⟩ := parseArgumentsLoop_eq_ok_iff.1 hloop
        obtain ⟨hone, rfl⟩ := foldlM_take_eq_ok_iff.1 hitems
        obtain ⟨rfl, hnamed⟩ := (checkArguments_eq_ok_iff (haudio amr_ip items)).1 h
        exact ⟨program, items, rfl, asks_iff.2 ⟨hone, rfl, hnamed⟩⟩
  · rintro ⟨program, items, rfl, h⟩
    obtain ⟨hone, heq, hnamed⟩ := asks_iff.1 h
    have hloop := parseArgumentsLoop_eq_ok_iff.2 ⟨items, rfl, foldlM_take_eq_ok_iff.2 ⟨hone, rfl⟩⟩
    show (parseArgumentsLoop (items.flatMap Item.tokens) { amr_ip := options.amr_ip }).bind
      checkArguments = .ok options
    rw [hloop]
    exact (checkArguments_eq_ok_iff (haudio options.amr_ip items)).2 ⟨heq, hnamed⟩

/-! ## Which options come out -/

/-- What the options that `ParseArguments` returns have in common. -/
structure WellFormed (options : ProgramOptions) : Prop where
  /-- A file to upload is an audio file, and it gives the name. -/
  upload : options.upload_file ≠ "" →
    isAudioFilePath options.upload_file = true ∧ options.audio_name = stem options.upload_file
  /-- Any other name is an argument of its own, and no audio file. -/
  name : options.upload_file = "" → options.audio_name ≠ "" →
    Positional options.audio_name ∧ isAudioFilePath options.audio_name = false
  named : options.pause = true ∨ options.audio_name ≠ ""
  download_named : options.download_file ≠ "" → options.audio_name ≠ ""

namespace ProgramOptions

/-- The items for the options that have names of their own. -/
def flags (options : ProgramOptions) : List Item :=
  (if options.loop then [.loop] else []) ++ (if options.pause then [.pause] else []) ++
    if options.download_file = "" then [] else [.download options.download_file]

/-- The text that gives the name: the file to upload, or the name itself. -/
def nameText (options : ProgramOptions) : List String :=
  if options.upload_file ≠ "" then [options.upload_file]
  else if options.audio_name ≠ "" then [options.audio_name]
  else []

/-- A command line for the options, in the order of the usage message. -/
def commandLine (program : String) (options : ProgramOptions) : List String :=
  program :: options.amr_ip :: (options.nameText ++ options.flags.flatMap Item.tokens)

variable {options : ProgramOptions}

theorem filterMap_text_flags : options.flags.filterMap Item.text = [] := by
  unfold flags
  split_ifs <;> rfl

theorem getD_file_flags :
    (options.flags.filterMap Item.file).getLast?.getD "" = options.download_file := by
  unfold flags
  by_cases hdownload : options.download_file = ""
  · rw [if_pos hdownload, hdownload]
    split_ifs <;> rfl
  · rw [if_neg hdownload]
    split_ifs <;> rfl

theorem any_isLoop_flags : options.flags.any Item.isLoop = options.loop := by
  unfold flags
  split_ifs <;> simp_all [Item.isLoop]

theorem any_isPause_flags : options.flags.any Item.isPause = options.pause := by
  unfold flags
  split_ifs <;> simp_all [Item.isPause]

end ProgramOptions

/-- An audio file is an argument of its own. -/
theorem positional_of_isAudioFilePath {text : String} (h : isAudioFilePath text = true) :
    Positional text := by
  refine ⟨?_, ?_, ?_, ?_⟩
  · rintro rfl
    exact absurd h (by decide)
  · rintro rfl
    exact absurd h (by decide)
  · rintro rfl
    exact absurd h (by decide)
  · unfold isAudioFilePath at h
    unfold hasUnsupportedAudioExtension
    rw [of_decide_eq_true h]
    decide

/-- Without a file to upload there is no audio file. -/
theorem not_isAudioFilePath_of_uploadFile {texts : List String} (h : uploadFile texts = "") :
    ∀ text ∈ texts, ¬isAudioFilePath text = true := by
  unfold uploadFile at h
  cases hfind : texts.find? isAudioFilePath with
  | none => exact List.find?_eq_none.1 hfind
  | some text =>
    rw [hfind] at h
    exact absurd h (ne_empty_of_isAudioFilePath (List.find?_some hfind))

/-- What items ask for is well-formed. -/
theorem Asks.wellFormed {items : List Item} {options : ProgramOptions} (h : Asks items options) :
    WellFormed options where
  upload hupload := by
    refine ⟨?_, ?_⟩
    · rw [h.upload_file] at hupload ⊢
      exact isAudioFilePath_uploadFile hupload
    · rw [h.audio_name, if_neg hupload]
  name hupload hname := by
    rw [h.upload_file] at hupload
    have hnone := not_isAudioFilePath_of_uploadFile hupload
    have haudio := h.audio_name
    rw [h.upload_file, if_pos hupload, names, List.eraseP_of_forall_not hnone] at haudio
    have hmem : options.audio_name ∈ items.filterMap Item.text := by
      cases hlast : (items.filterMap Item.text).getLast? with
      | none =>
        rw [hlast] at haudio
        exact absurd haudio hname
      | some text =>
        rw [haudio, hlast]
        exact List.mem_of_getLast? hlast
    refine ⟨?_, Bool.eq_false_iff.2 (hnone _ hmem)⟩
    obtain ⟨item, -, htext⟩ := List.mem_filterMap.1 hmem
    cases item with
    | audio text hpositional =>
      obtain rfl : text = options.audio_name := Option.some.inj htext
      exact hpositional
    | loop | pause | download => cases htext
  named := h.named
  download_named := h.download_named

/-- Texts that are arguments of their own make up a list of items. -/
theorem exists_audio_items {texts : List String} (h : ∀ text ∈ texts, Positional text) :
    ∃ items : List Item, items.flatMap Item.tokens = texts ∧ items.filterMap Item.text = texts ∧
      items.filterMap Item.file = [] ∧ items.any Item.isLoop = false ∧
      items.any Item.isPause = false := by
  induction texts with
  | nil => exact ⟨[], rfl, rfl, rfl, rfl, rfl⟩
  | cons text texts ih =>
    obtain ⟨htext, htexts⟩ := List.forall_mem_cons.1 h
    obtain ⟨items, htokens, hitems, hfile, hloop, hpause⟩ := ih htexts
    refine ⟨.audio text htext :: items, ?_, ?_, hfile, ?_, ?_⟩
    · rw [List.flatMap_cons, htokens]
      rfl
    · rw [List.filterMap_cons, hitems]
      rfl
    · rw [List.any_cons, hloop]
      rfl
    · rw [List.any_cons, hpause]
      rfl

/-- The text of the canonical command line is read as it was meant. -/
theorem WellFormed.nameText {options : ProgramOptions} (h : WellFormed options) :
    (∀ text ∈ options.nameText, Positional text) ∧
      options.upload_file = uploadFile options.nameText ∧
      (∀ name ∈ (names options.nameText).dropLast, name = "") ∧
      options.audio_name = if options.upload_file = "" then
        (names options.nameText).getLast?.getD "" else stem options.upload_file := by
  unfold ProgramOptions.nameText uploadFile names
  by_cases hupload : options.upload_file = ""
  · rw [if_neg (not_not_intro hupload)]
    by_cases hname : options.audio_name = ""
    · rw [if_neg (not_not_intro hname), if_pos hupload]
      exact ⟨by simp, hupload, by simp, hname⟩
    · obtain ⟨hpositional, haudio⟩ := h.name hupload hname
      have hneg : ¬isAudioFilePath options.audio_name = true := Bool.eq_false_iff.1 haudio
      rw [if_pos hname, if_pos hupload, List.find?_cons_of_neg hneg, List.eraseP_cons_of_neg hneg]
      exact ⟨by simpa using hpositional, hupload, by simp, rfl⟩
  · obtain ⟨haudio, hname⟩ := h.upload hupload
    rw [if_pos hupload, if_neg hupload, List.find?_cons_of_pos haudio,
      List.eraseP_cons_of_pos haudio]
    exact ⟨by simpa using positional_of_isAudioFilePath haudio, rfl, by simp, hname⟩

/-- Well-formed options have a command line. -/
theorem WellFormed.exists_items {options : ProgramOptions} (h : WellFormed options) :
    ∃ items : List Item,
      options.nameText ++ options.flags.flatMap Item.tokens = items.flatMap Item.tokens ∧
        Asks items options := by
  obtain ⟨hpositional, hupload, hone, hname⟩ := h.nameText
  obtain ⟨audio, htokens, htexts, hfile, hloop, hpause⟩ := exists_audio_items hpositional
  have hall : (audio ++ options.flags).filterMap Item.text = options.nameText := by
    rw [List.filterMap_append, htexts, ProgramOptions.filterMap_text_flags, List.append_nil]
  refine ⟨audio ++ options.flags, by rw [List.flatMap_append, htokens], ?_⟩
  refine ⟨?_, ?_, ?_, ?_, ?_, ?_, h.named, h.download_named⟩
  · rw [List.any_append, hloop, Bool.false_or, ProgramOptions.any_isLoop_flags]
  · rw [List.any_append, hpause, Bool.false_or, ProgramOptions.any_isPause_flags]
  · rw [List.filterMap_append, hfile, List.nil_append, ProgramOptions.getD_file_flags]
  · rw [hall]
    exact hupload
  · rw [hall]
    exact hone
  · rw [hall]
    exact hname

/-- The options that `ParseArguments` returns are the well-formed ones. It returns them also for
their command line in the canonical order. -/
theorem parseArguments_range (program : String) (options : ProgramOptions) :
    [∃ argv, parseArguments argv = .ok options, WellFormed options,
      parseArguments (options.commandLine program) = .ok options].TFAE := by
  tfae_have 1 → 2 := by
    rintro ⟨argv, hargv⟩
    obtain ⟨_, items, -, hasks⟩ := parseArguments_eq_ok_iff.1 hargv
    exact hasks.wellFormed
  tfae_have 2 → 3 := by
    intro h
    obtain ⟨items, htokens, hasks⟩ := h.exists_items
    refine parseArguments_eq_ok_iff.2 ⟨program, items, ?_, hasks⟩
    rw [ProgramOptions.commandLine, htokens]
  tfae_have 3 → 1 := fun h => ⟨_, h⟩
  tfae_finish

end FlexivAmr.Audio
