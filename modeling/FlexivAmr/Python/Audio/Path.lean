import FlexivAmr.Audio.Path
import FlexivAmr.Python.Host

/-!
# Audio files and their names, in Python

`is_audio_file_path` and `audio_name_from_path` of `example_py/seer_audio_example.py`. They take the
suffix and the stem of a `pathlib.Path`, which ignores a slash or a period at the end of a path
where `std::filesystem::path` does not, and takes a period at the end of a name for no suffix. The
stems agree on the audio files whose path ends with a name (`stem_eq`).
-/

namespace FlexivAmr.Python.Audio

open FlexivAmr.Audio (filename splitExtension toLower)

/-- `PurePath.name`: the last component of a path. What is empty or a single period is none. -/
def name (path : String) : List Char :=
  ((path.toList.splitOn '/').filter fun part => part ≠ [] && part ≠ ['.']).getLastD []

/-- A name split before its last period, when there is something on either side of it. -/
def splitSuffix (name : List Char) : List Char × List Char :=
  match (name.rdropWhile (· != '.')).dropLast, name.rtakeWhile (· != '.') with
  | c :: stem, d :: suffix => (c :: stem, '.' :: d :: suffix)
  | _, _ => (name, [])

/-- `PurePath.stem`. -/
def stem (path : String) : String := String.ofList (splitSuffix (name path)).1

/-- `PurePath.suffix`. -/
def suffix (path : String) : String := String.ofList (splitSuffix (name path)).2

/-- `is_audio_file_path`. The letters of `.wav` are lower case for no others than those from `A` to
`Z`, so `toLower` stands for `str.lower`. -/
def isAudioFilePath (path : String) : Bool := toLower (suffix path) = ".wav"

/-- `audio_name_from_path`. -/
def audioNameFromPath (path : String) : Except PyException String :=
  if stem path = "" then
    .error (.other "audio file path must contain a file name")
  else
    .ok (stem path)

example : (stem "sounds/welcome.wav/.", suffix "sounds/welcome.wav/.") = ("welcome", ".wav") := by
  decide

variable {path : String}

/-- The last part of a path is what follows its last slash. -/
theorem getLast?_splitOn (path : String) :
    (path.toList.splitOn '/').getLast? = some (filename path) := by
  have hsplit : path.toList.rdropWhile (· != '/') ++ filename path = path.toList :=
    List.rdropWhile_append_rtakeWhile
  have hmem : '/' ∉ filename path := by
    intro h
    have hne := List.mem_rtakeWhile_imp h
    simp at hne
  rw [← hsplit]
  by_cases hbefore : path.toList.rdropWhile (· != '/') = []
  · rw [hbefore, List.nil_append, List.splitOn_eq_singleton hmem]
    rfl
  · -- What `rdropWhile` leaves ends with the slash.
    have hslash : (path.toList.rdropWhile (· != '/')).getLast hbefore = '/' := by
      have hlast := List.rdropWhile_last_not (· != '/') path.toList hbefore
      simpa using hlast
    have hbefore' := List.dropLast_append_getLast hbefore
    rw [hslash] at hbefore'
    rw [← hbefore', List.append_assoc, List.singleton_append, List.splitOn_append_cons_self,
      List.splitOn_eq_singleton hmem]
    exact List.getLast?_concat

/-- A path that ends with a name has that name. -/
theorem name_eq_filename (hempty : filename path ≠ []) (hperiod : filename path ≠ ['.']) :
    name path = filename path := by
  obtain ⟨parts, hparts⟩ := List.getLast?_eq_some_iff.1 (getLast?_splitOn path)
  unfold name
  rw [hparts, List.filter_append, List.filter_singleton]
  simp [hempty, hperiod]

/-- A suffix is an extension. -/
theorem splitExtension_eq {n : List Char} (hsuffix : (splitSuffix n).2 ≠ []) :
    splitExtension n = splitSuffix n := by
  have hdots : n ≠ ['.', '.'] := by
    rintro rfl
    exact hsuffix rfl
  unfold splitExtension
  rw [if_neg hdots]
  revert hsuffix
  unfold splitSuffix
  cases (n.rdropWhile (· != '.')).dropLast with
  | nil => exact fun hsuffix => absurd rfl hsuffix
  | cons c stem =>
    cases n.rtakeWhile (· != '.') with
    | nil => exact fun hsuffix => absurd rfl hsuffix
    | cons d suffix => exact fun _ => rfl

/-- Without a suffix there is no extension but a period at the end of the name. -/
theorem splitExtension_snd {n : List Char} (hsuffix : (splitSuffix n).2 = []) :
    (splitExtension n).2 = [] ∨ (splitExtension n).2 = ['.'] := by
  revert hsuffix
  unfold splitSuffix splitExtension
  by_cases hdots : n = ['.', '.']
  · rw [if_pos hdots]
    exact fun _ => .inl rfl
  rw [if_neg hdots]
  cases (n.rdropWhile (· != '.')).dropLast with
  | nil => exact fun _ => .inl rfl
  | cons c stem =>
    cases n.rtakeWhile (· != '.') with
    | nil => exact fun _ => .inr rfl
    | cons d suffix => exact fun hsuffix => nomatch hsuffix

/-- An audio file has a suffix. -/
theorem suffix_ne_nil (haudio : isAudioFilePath path = true) : (splitSuffix (name path)).2 ≠ [] := by
  intro hnil
  rw [isAudioFilePath, suffix, hnil] at haudio
  cases haudio

/-- The two stems of an audio file agree. -/
theorem stem_eq (haudio : isAudioFilePath path = true) (hempty : filename path ≠ [])
    (hperiod : filename path ≠ ['.']) : stem path = FlexivAmr.Audio.stem path := by
  have hsuffix := suffix_ne_nil haudio
  have hname := name_eq_filename hempty hperiod
  rw [hname] at hsuffix
  rw [stem, FlexivAmr.Audio.stem, hname, splitExtension_eq hsuffix]

/-- A name without a stem has no suffix. -/
theorem splitSuffix_snd_eq_nil {n : List Char} (hstem : (splitSuffix n).1 = []) :
    (splitSuffix n).2 = [] := by
  revert hstem
  unfold splitSuffix
  cases (n.rdropWhile (· != '.')).dropLast with
  | nil => exact fun _ => rfl
  | cons c stem =>
    cases n.rtakeWhile (· != '.') with
    | nil => exact fun _ => rfl
    | cons d suffix => exact fun hstem => absurd hstem (List.cons_ne_nil _ _)

/-- `audio_name_from_path` does not raise on an audio file. -/
theorem audioNameFromPath_eq_ok (haudio : isAudioFilePath path = true) :
    audioNameFromPath path = .ok (stem path) := by
  refine if_neg fun hstem => suffix_ne_nil haudio (splitSuffix_snd_eq_nil ?_)
  have hlist := congrArg String.toList hstem
  rwa [stem, String.toList_ofList] at hlist

end FlexivAmr.Python.Audio
