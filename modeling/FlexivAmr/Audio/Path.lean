import FlexivAmr.Data
import Mathlib.Data.List.DropRight

/-!
# Audio files and their names

The helpers of `example/seer_audio_example.cpp` on the paths of the command line: `ToLower`,
`IsAudioFilePath`, `HasUnsupportedAudioExtension`, and `AudioNameFromPath`. Of
`std::filesystem::path` they use the extension and the stem, which split the last part of the path
(`splitExtension`). Paths are POSIX paths, whose parts are separated by `/` alone: on Windows `\`
and `:` separate too.

The two predicates are about how the text of the path ends (`isAudioFilePath_iff`,
`hasUnsupportedAudioExtension_iff`). A path with an extension has a stem, so `AudioNameFromPath` does
not throw where `ParseArguments` calls it (`audioNameFromPath_eq_ok`).
-/

namespace FlexivAmr.Audio

/-- `std::filesystem::path::filename`: what follows the last `/`. -/
def filename (path : String) : List Char := path.toList.rtakeWhile (· != '/')

/-- A filename split before its last period. A period at the front does not count, and `..` is not
split. -/
def splitExtension (name : List Char) : List Char × List Char :=
  if name = ['.', '.'] then
    (name, [])
  else
    -- What stands before the last period: nothing also when there is no period.
    match (name.rdropWhile (· != '.')).dropLast with
    | [] => (name, [])
    | c :: stem => (c :: stem, '.' :: name.rtakeWhile (· != '.'))

/-- `std::filesystem::path::stem`. -/
def stem (path : String) : String := String.ofList (splitExtension (filename path)).1

/-- `std::filesystem::path::extension`. -/
def extension (path : String) : String := String.ofList (splitExtension (filename path)).2

/-- `ToLower`. In the locale that the program runs in, `std::tolower` changes the letters from `A`
to `Z`. -/
def toLower (text : String) : String := String.ofList (text.toList.map Char.toLower)

/-- `IsAudioFilePath`. -/
def isAudioFilePath (path : String) : Bool := toLower (extension path) = ".wav"

/-- `HasUnsupportedAudioExtension`. -/
def hasUnsupportedAudioExtension (path : String) : Bool := toLower (extension path) = ".mp3"

/-- `AudioNameFromPath`. -/
def audioNameFromPath (path : String) : Except StdException String :=
  if stem path = "" then
    .error (.invalid_argument "audio file path must contain a file name")
  else
    .ok (stem path)

/-- What a predicate holds of at the end of a list, and further on. -/
theorem rtakeWhile_append {p : Char → Bool} (l : List Char) {e : List Char}
    (he : ∀ x ∈ e, p x = true) : (l ++ e).rtakeWhile p = l.rtakeWhile p ++ e := by
  rw [List.rtakeWhile, List.reverse_append, List.takeWhile_append_of_pos (by simpa using he),
    List.reverse_append, List.reverse_reverse, List.rtakeWhile]

/-- What follows the last place where a predicate fails. -/
theorem rtakeWhile_append_cons {p : Char → Bool} {l e : List Char} {c : Char}
    (he : ∀ x ∈ e, p x = true) (hc : p c = false) : (l ++ c :: e).rtakeWhile p = e := by
  rw [List.append_cons, rtakeWhile_append _ he,
    List.rtakeWhile_concat_neg _ _ c (by simp [hc]), List.nil_append]

/-- What comes before it. -/
theorem rdropWhile_append_cons {p : Char → Bool} {l e : List Char} {c : Char}
    (he : ∀ x ∈ e, p x = true) (hc : p c = false) : (l ++ c :: e).rdropWhile p = l ++ [c] := by
  have hsplit := List.rdropWhile_append_rtakeWhile (p := p) (l := l ++ c :: e)
  rw [rtakeWhile_append_cons he hc] at hsplit
  rw [List.append_cons] at hsplit ⊢
  exact List.append_cancel_right hsplit

/-- A name that ends with an extension is split there. -/
theorem splitExtension_append {name e : List Char} (hname : name ≠ []) (he : '.' ∉ e)
    (hne : e ≠ []) : splitExtension (name ++ '.' :: e) = (name, '.' :: e) := by
  have hperiods : ∀ x ∈ e, (x != '.') = true := fun x hx => by
    rw [bne_iff_ne]
    rintro rfl
    exact he hx
  have hdots : name ++ '.' :: e ≠ ['.', '.'] := by
    intro h
    have hlength := congrArg List.length h
    have hpos := List.length_pos_iff.2 hname
    have hpos' := List.length_pos_iff.2 hne
    simp at hlength
    omega
  rw [splitExtension, if_neg hdots, rdropWhile_append_cons hperiods (by decide),
    rtakeWhile_append_cons hperiods (by decide), List.dropLast_concat]
  cases name with
  | nil => exact absurd rfl hname
  | cons c name => rfl

/-- An extension is what follows the last period of a name, and something comes before it. -/
theorem eq_append_of_splitExtension {name e : List Char} {d : Char}
    (h : (splitExtension name).2 = d :: e) : ∃ l c, name = l ++ c :: '.' :: e := by
  revert h
  unfold splitExtension
  by_cases hdots : name = ['.', '.']
  · rw [if_pos hdots]
    exact nofun
  rw [if_neg hdots]
  generalize hstem : (name.rdropWhile (· != '.')).dropLast = stem
  cases stem with
  | nil => exact nofun
  | cons c stem =>
    intro h
    have hne : name.rdropWhile (· != '.') ≠ [] := by
      intro hnil
      rw [hnil] at hstem
      cases hstem
    -- The last character that is not taken is the period.
    have hlast : (name.rdropWhile (· != '.')).getLast hne = '.' := by
      simpa using List.rdropWhile_last_not (· != '.') name hne
    have hdrop := List.dropLast_append_getLast hne
    rw [hstem, hlast] at hdrop
    obtain ⟨l, c', hl⟩ := List.eq_nil_or_concat' (c :: stem) |>.resolve_left nofun
    refine ⟨l, c', ?_⟩
    rw [← List.rdropWhile_append_rtakeWhile (p := (· != '.')) (l := name), ← hdrop, hl,
      (List.cons.inj h).2]
    simp

/-- A path has an extension, in letters of either case, when its text ends so, and something other
than `/` comes before. -/
theorem toLower_extension_eq_iff {path : String} {letters : List Char} (hdot : '.' ∉ letters)
    (hslash : '/' ∉ letters) (hne : letters ≠ []) :
    toLower (extension path) = String.ofList ('.' :: letters) ↔
      ∃ front c e, path.toList = front ++ c :: '.' :: e ∧ c ≠ '/' ∧ e.map Char.toLower = letters := by
  have hfront : path.toList.rdropWhile (· != '/') ++ filename path = path.toList :=
    List.rdropWhile_append_rtakeWhile
  unfold toLower extension
  rw [String.toList_ofList, String.ofList_inj]
  constructor
  · intro h
    obtain ⟨d, e, hsplit, -, rfl⟩ := List.map_eq_cons_iff.1 h
    obtain ⟨l, c, hname⟩ := eq_append_of_splitExtension hsplit
    refine ⟨path.toList.rdropWhile (· != '/') ++ l, c, e, ?_, ?_, rfl⟩
    · rw [List.append_assoc, ← hname, hfront]
    · rintro rfl
      have hmem : '/' ∈ filename path := by simp [hname]
      have hslash := List.mem_rtakeWhile_imp hmem
      simp at hslash
  · rintro ⟨front, c, e, hpath, hc, rfl⟩
    have hkeep : ∀ x ∈ '.' :: e, (x != '/') = true := by
      intro x hx
      rw [bne_iff_ne]
      rintro rfl
      rcases List.mem_cons.1 hx with hx | hx
      · cases hx
      · exact hslash (List.mem_map.2 ⟨'/', hx, by decide⟩)
    have hname : filename path = (front.rtakeWhile (· != '/') ++ [c]) ++ '.' :: e := by
      rw [filename, hpath, List.append_cons, rtakeWhile_append _ hkeep,
        List.rtakeWhile_concat_pos _ _ c (by simpa using hc)]
    have hperiod : '.' ∉ e := fun h => hdot (List.mem_map.2 ⟨'.', h, by decide⟩)
    rw [hname, splitExtension_append (by simp) hperiod fun h => hne (by rw [h]; rfl)]
    rfl

/-- An audio file path ends with `.wav`, in letters of either case, after something other than
`/`. -/
theorem isAudioFilePath_iff {path : String} : isAudioFilePath path = true ↔
    ∃ front c e, path.toList = front ++ c :: '.' :: e ∧ c ≠ '/' ∧
      e.map Char.toLower = ['w', 'a', 'v'] := by
  rw [isAudioFilePath, decide_eq_true_iff]
  exact toLower_extension_eq_iff (by decide) (by decide) (by decide)

/-- A path is refused when it ends with `.mp3`, in letters of either case, after something other
than `/`. -/
theorem hasUnsupportedAudioExtension_iff {path : String} :
    hasUnsupportedAudioExtension path = true ↔
      ∃ front c e, path.toList = front ++ c :: '.' :: e ∧ c ≠ '/' ∧
        e.map Char.toLower = ['m', 'p', '3'] := by
  rw [hasUnsupportedAudioExtension, decide_eq_true_iff]
  exact toLower_extension_eq_iff (by decide) (by decide) (by decide)

/-- Without a stem there is no extension. -/
theorem splitExtension_snd_eq_nil {name : List Char} (h : (splitExtension name).1 = []) :
    (splitExtension name).2 = [] := by
  revert h
  unfold splitExtension
  by_cases hdots : name = ['.', '.']
  · rw [if_pos hdots]
    exact fun _ => rfl
  rw [if_neg hdots]
  cases (name.rdropWhile (· != '.')).dropLast with
  | nil => exact fun _ => rfl
  | cons c stem =>
    intro h
    cases h

/-- A path without a stem has no extension. -/
theorem extension_eq_empty {path : String} (h : stem path = "") : extension path = "" := by
  have hnil : (splitExtension (filename path)).1 = [] := by
    have hlist := congrArg String.toList h
    rwa [stem, String.toList_ofList] at hlist
  rw [extension, splitExtension_snd_eq_nil hnil]

/-- An audio file has a name. -/
theorem stem_ne_empty {path : String} (haudio : isAudioFilePath path = true) : stem path ≠ "" := by
  intro hstem
  rw [isAudioFilePath, extension_eq_empty hstem] at haudio
  cases haudio

/-- `AudioNameFromPath` does not throw on an audio file. -/
theorem audioNameFromPath_eq_ok {path : String} (haudio : isAudioFilePath path = true) :
    audioNameFromPath path = .ok (stem path) :=
  if_neg (stem_ne_empty haudio)

example : (stem "./sounds/welcome.home.WAV", extension "./sounds/welcome.home.WAV") =
    ("welcome.home", ".WAV") := by decide

example : (stem "a/.wav", extension "a/.wav") = (".wav", "") := by decide

end FlexivAmr.Audio
