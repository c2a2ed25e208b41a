import FlexivAmr.Path
import Mathlib.Tactic.NormNum

/-!
# From the command line to the path

The grammar of the command line (`Item`), which tokens `parseOptions` accepts
(`parseOptions_items`), and the path that `buildNavigationCommands` makes of the stations
(`pathCommands_leadsThrough`). An item carries the proof that its tokens are acceptable, so a list of
items is an acceptable command line by construction.
-/

namespace FlexivAmr

open Interaction Program

/-! ## The grammar -/

/-- A part of the command line after the address. -/
inductive Item (stod : Stod)
  /-- A station: any token that does not begin with `--`. -/
  | station (name : String) (hname : ∀ rest, name.toList ≠ '-' :: '-' :: rest)
  /-- `--pause-after` and its value. -/
  | pauseAfter (text : String) (seconds : ℚ)
      (hread : stod text = .ok (.finite seconds, text.utf8ByteSize)) (hseconds : 0 ≤ seconds)
  /-- `--timeout` and its value. -/
  | timeout (text : String) (seconds : ℚ)
      (hread : stod text = .ok (.finite seconds, text.utf8ByteSize)) (hseconds : 0 < seconds)

namespace Item

variable {stod : Stod}

/-- The tokens of an item. -/
def tokens : Item stod → List String
  | .station name _ => [name]
  | .pauseAfter text _ _ _ => ["--pause-after", text]
  | .timeout text _ _ _ => ["--timeout", text]

/-- The station that an item names. -/
def name : Item stod → Option String
  | .station name _ => some name
  | _ => none

/-- The seconds of a `--pause-after`. -/
def pauseSeconds : Item stod → Option ℚ
  | .pauseAfter _ seconds _ _ => some seconds
  | _ => none

/-- The seconds of a `--timeout`. -/
def timeoutSeconds : Item stod → Option ℚ
  | .timeout _ seconds _ _ => some seconds
  | _ => none

end Item

/-- What a list of items asks for. -/
structure Asks {stod : Stod} (items : List (Item stod)) (options : ExampleOptions) : Prop where
  /-- The stations, in order of appearance. -/
  stations : items.filterMap Item.name = options.source_id :: options.target_ids
  /-- There is at least one target. -/
  targets : options.target_ids ≠ []
  /-- The last `--pause-after` is the one in force. -/
  pause_after_seconds : options.pause_after_seconds = (items.filterMap Item.pauseSeconds).getLast?
  /-- The last `--timeout` is the one in force. -/
  timeout_seconds : options.timeout_seconds =
    (items.filterMap Item.timeoutSeconds).getLast?.getD 300

/-! ## The parser -/

variable {stod : Stod}

/-- `ParseFiniteDouble` returns the finite values that `std::stod` reads from the whole text. -/
theorem parseFiniteDouble_eq_ok_iff {text name : String} {seconds : ℚ} :
    parseFiniteDouble stod text name = .ok seconds ↔
      stod text = .ok (.finite seconds, text.utf8ByteSize) := by
  unfold parseFiniteDouble
  rcases stod text with e | ⟨value | negative | _, parsed⟩
  · simp
  · by_cases hparsed : parsed = text.utf8ByteSize
    · simp [hparsed]
    · simp [hparsed]
  · simp
  · simp

/-- The names of options are the tokens that begin with `--`. -/
theorem isOption_eq_true_iff {argument : String} :
    isOption argument = true ↔ ∃ rest, argument.toList = '-' :: '-' :: rest := by
  rw [isOption, List.isPrefixOf_iff_prefix]
  exact exists_congr fun rest => eq_comm

/-- The other tokens name stations. -/
theorem isOption_eq_false_iff {argument : String} :
    isOption argument = false ↔ ∀ rest, argument.toList ≠ '-' :: '-' :: rest := by
  rw [← Bool.not_eq_true, isOption_eq_true_iff, not_exists]

/-- An option's name is no station. -/
theorem ne_of_isOption_eq_false {name option : String} (hname : isOption name = false)
    (hoption : isOption option = true) : name ≠ option := by
  rintro rfl
  rw [hname] at hoption
  cases hoption

/-- The options after one more item. -/
def Item.apply (options : ExampleOptions) : Item stod → ExampleOptions
  | .station _ _ => options
  | .pauseAfter _ seconds _ _ => { options with pause_after_seconds := some seconds }
  | .timeout _ seconds _ _ => { options with timeout_seconds := seconds }

/-- The loop of `ParseOptions` takes the tokens of an item in one step. -/
theorem parseOptionsLoop_item (item : Item stod) (rest : List String) (options : ExampleOptions)
    (stations : List String) :
    parseOptionsLoop stod (item.tokens ++ rest) options stations =
      parseOptionsLoop stod rest (Item.apply options item) (stations ++ item.name.toList) := by
  cases item with
  | station name hname =>
    have hname := isOption_eq_false_iff.2 hname
    have hpause : name ≠ "--pause-after" := ne_of_isOption_eq_false hname (by decide)
    have htimeout : name ≠ "--timeout" := ne_of_isOption_eq_false hname (by decide)
    show parseOptionsLoop stod (name :: rest) options stations = _
    rw [parseOptionsLoop.eq_def]
    simp only [if_neg hpause, if_neg htimeout, hname]
    rfl
  | pauseAfter text seconds hread hseconds =>
    show parseOptionsLoop stod ("--pause-after" :: text :: rest) options stations = _
    rw [parseOptionsLoop.eq_def]
    simp only [parseFiniteDouble_eq_ok_iff.2 hread, Item.name, Option.toList_none, List.append_nil]
    exact if_neg (not_lt.2 hseconds)
  | timeout text seconds hread hseconds =>
    show parseOptionsLoop stod ("--timeout" :: text :: rest) options stations = _
    rw [parseOptionsLoop.eq_def]
    simp only [parseFiniteDouble_eq_ok_iff.2 hread, Item.name, Option.toList_none, List.append_nil]
    exact if_neg (not_le.2 hseconds)

/-- A value that is read and then checked is read, and passes the check, when all goes well. -/
theorem checked_eq_ok {ε α β : Type} {x : Except ε α} {bad : α → Prop} [DecidablePred bad] {e : ε}
    {f : α → Except ε β} {b : β} (h : (x.bind fun a => if bad a then .error e else f a) = .ok b) :
    ∃ a, x = .ok a ∧ ¬bad a := by
  cases x with
  | error e => cases h
  | ok a => exact ⟨a, rfl, fun ha => nomatch (if_pos ha).symm.trans h⟩

/-- When the loop of `ParseOptions` succeeds, its tokens start with an item. -/
theorem exists_item_of_parseOptionsLoop_eq_ok {argument : String} {rest : List String}
    {options : ExampleOptions} {stations : List String} {result : ExampleOptions × List String}
    (h : parseOptionsLoop stod (argument :: rest) options stations = .ok result) :
    ∃ (item : Item stod) (rest' : List String), argument :: rest = item.tokens ++ rest' := by
  rw [parseOptionsLoop.eq_def] at h
  -- The cases follow the branches of the loop. An option whose value is missing or bad throws.
  by_cases hpause : argument = "--pause-after"
  · subst hpause
    cases rest with
    | nil => cases h
    | cons text rest =>
      obtain ⟨seconds, hread, hseconds⟩ := checked_eq_ok ((if_pos rfl).symm.trans h)
      exact ⟨.pauseAfter text seconds (parseFiniteDouble_eq_ok_iff.1 hread) (not_lt.1 hseconds),
        rest, rfl⟩
  simp only [if_neg hpause] at h
  by_cases htimeout : argument = "--timeout"
  · subst htimeout
    cases rest with
    | nil => cases h
    | cons text rest =>
      obtain ⟨seconds, hread, hseconds⟩ := checked_eq_ok ((if_pos rfl).symm.trans h)
      exact ⟨.timeout text seconds (parseFiniteDouble_eq_ok_iff.1 hread) (not_le.1 hseconds),
        rest, rfl⟩
  simp only [if_neg htimeout] at h
  cases hname : isOption argument with
  | true =>
    rw [if_pos hname] at h
    cases h
  | false => exact ⟨.station argument (isOption_eq_false_iff.1 hname), rest, rfl⟩

/-- The loop of `ParseOptions` succeeds on the tokens of a list of items, and on no others. -/
theorem parseOptionsLoop_eq_ok_iff {tokens : List String} {options : ExampleOptions}
    {stations : List String} {result : ExampleOptions × List String} :
    parseOptionsLoop stod tokens options stations = .ok result ↔
      ∃ items : List (Item stod), tokens = items.flatMap Item.tokens ∧
        result = (items.foldl Item.apply options, stations ++ items.filterMap Item.name) := by
  constructor
  · -- Each step takes an item off the tokens, which get fewer.
    generalize hn : tokens.length = n
    induction n using Nat.strong_induction_on generalizing tokens options stations with
    | _ n ih =>
      intro h
      cases tokens with
      | nil =>
        cases h
        exact ⟨[], rfl, by simp⟩
      | cons argument rest =>
        obtain ⟨item, rest', hrest⟩ := exists_item_of_parseOptionsLoop_eq_ok h
        rw [hrest, parseOptionsLoop_item] at h
        have hlt : rest'.length < n := by
          rw [← hn, hrest, List.length_append]
          cases item <;> simp [Item.tokens]
        obtain ⟨items, hitems, hresult⟩ := ih _ hlt rfl h
        refine ⟨item :: items, by rw [hrest, hitems, List.flatMap_cons], ?_⟩
        rw [hresult, List.foldl_cons, List.filterMap_cons]
        cases item <;> simp [Item.name]
  · rintro ⟨items, rfl, rfl⟩
    induction items generalizing options stations with
    | nil => simp [parseOptionsLoop]
    | cons item items ih =>
      rw [List.flatMap_cons, parseOptionsLoop_item, ih, List.filterMap_cons]
      cases item <;> simp [Item.name, Item.apply]

/-- What the items ask for is what the options say, after the loop of `ParseOptions`. -/
theorem foldl_apply (items : List (Item stod)) (options : ExampleOptions) :
    items.foldl Item.apply options =
      { options with
        pause_after_seconds :=
          (items.filterMap Item.pauseSeconds).getLast?.or options.pause_after_seconds
        timeout_seconds :=
          (items.filterMap Item.timeoutSeconds).getLast?.getD options.timeout_seconds } := by
  induction items generalizing options with
  | nil => rfl
  | cons item items ih =>
    rw [List.foldl_cons, ih]
    cases item with
    | station name hname => rfl
    | pauseAfter text seconds hread hseconds =>
      simp only [Item.apply, Item.pauseSeconds, Item.timeoutSeconds, List.filterMap_cons,
        List.getLast?_cons]
      cases (items.filterMap Item.pauseSeconds).getLast? <;> rfl
    | timeout text seconds hread hseconds =>
      simp only [Item.apply, Item.pauseSeconds, Item.timeoutSeconds, List.filterMap_cons,
        List.getLast?_cons]
      rfl

/-- Each station of a list of items has a token. -/
theorem length_filterMap_name_le (items : List (Item stod)) :
    (items.filterMap Item.name).length ≤ (items.flatMap Item.tokens).length := by
  induction items with
  | nil => exact Nat.le_refl _
  | cons item items ih =>
    cases item with
    | station name hname => exact Nat.succ_le_succ ih
    | pauseAfter text seconds hread hseconds => exact Nat.le_add_right_of_le (Nat.le_succ_of_le ih)
    | timeout text seconds hread hseconds => exact Nat.le_add_right_of_le (Nat.le_succ_of_le ih)

/-- When `ParseOptions` succeeds, the tokens after the address are those of a list of items. -/
theorem exists_items_of_parseOptions {argv : List String} {options : ExampleOptions}
    (h : parseOptions stod argv = .ok options) :
    ∃ items : List (Item stod), argv.drop 2 = items.flatMap Item.tokens := by
  match argv with
  | _ :: amr_ip :: token₂ :: token₃ :: rest =>
    unfold parseOptions at h
    cases hloop : parseOptionsLoop stod (token₂ :: token₃ :: rest) { amr_ip := amr_ip } [] with
    | error e =>
      simp only [hloop] at h
      cases h
    | ok result =>
      obtain ⟨items, htokens, -⟩ := parseOptionsLoop_eq_ok_iff.1 hloop
      exact ⟨items, htokens⟩

/-- `ParseOptions` returns what the items of the command line ask for. -/
theorem parseOptions_items {argv : List String} {options : ExampleOptions}
    {items : List (Item stod)} (htokens : argv.drop 2 = items.flatMap Item.tokens) :
    parseOptions stod argv = .ok options ↔
      argv[1]? = some options.amr_ip ∧ Asks items options := by
  obtain ⟨ip, source_id, target_ids, pause_after_seconds, timeout_seconds⟩ := options
  constructor
  · intro h
    match argv with
    | _ :: amr_ip :: token₂ :: token₃ :: rest =>
      have hloop : parseOptionsLoop stod (token₂ :: token₃ :: rest) { amr_ip := amr_ip } [] = _ :=
        parseOptionsLoop_eq_ok_iff.2 ⟨items, htokens, rfl⟩
      unfold parseOptions at h
      simp only [hloop, foldl_apply, List.nil_append] at h
      -- With no station, or with one, `ParseOptions` throws after the loop.
      rcases hstations : items.filterMap Item.name with _ | ⟨source_id, _ | ⟨target_id, target_ids⟩⟩
      · simp only [hstations] at h
        cases h
      · simp only [hstations] at h
        cases h
      · simp only [hstations] at h
        cases h
        exact ⟨rfl, hstations, nofun, Option.or_none, rfl⟩
  · rintro ⟨hip, hstations, htargets, hpause, htimeout⟩
    obtain ⟨target_id, target_ids, rfl⟩ := List.exists_cons_of_ne_nil htargets
    have hlength := length_filterMap_name_le items
    rw [hstations, ← htokens] at hlength
    -- Two stations make two tokens, so `argc` is at least 4.
    match argv with
    | [] | [_] | [_, _] | [_, _, _] => simp at hlength
    | _ :: _ :: token₂ :: token₃ :: rest =>
      cases hip
      have hloop : parseOptionsLoop stod (token₂ :: token₃ :: rest) { amr_ip := ip } [] = _ :=
        parseOptionsLoop_eq_ok_iff.2 ⟨items, htokens, rfl⟩
      dsimp only at hstations hpause htimeout
      subst hpause htimeout
      unfold parseOptions
      simp only [hloop, foldl_apply, List.nil_append, hstations, Option.or_none]
      rfl

/-- `ParseOptions` succeeds on the command lines that consist of items with two stations at
least. -/
theorem parseOptions_isOk_iff {argv : List String} :
    (∃ options, parseOptions stod argv = .ok options) ↔ ∃ items : List (Item stod),
      argv.drop 2 = items.flatMap Item.tokens ∧ 2 ≤ (items.filterMap Item.name).length := by
  constructor
  · rintro ⟨options, h⟩
    obtain ⟨items, htokens⟩ := exists_items_of_parseOptions h
    refine ⟨items, htokens, ?_⟩
    obtain ⟨-, hasks⟩ := (parseOptions_items htokens).1 h
    rw [hasks.stations]
    exact Nat.succ_le_succ (List.length_pos_iff.2 hasks.targets)
  · rintro ⟨items, htokens, hlength⟩
    have hargv := length_filterMap_name_le items
    rw [← htokens, List.length_drop] at hargv
    obtain ⟨amr_ip, hip⟩ : ∃ amr_ip, argv[1]? = some amr_ip :=
      ⟨_, List.getElem?_eq_getElem (by omega)⟩
    match hstations : items.filterMap Item.name with
    | [] | [_] => simp [hstations] at hlength
    | source_id :: target_id :: target_ids =>
      exact ⟨⟨amr_ip, source_id, target_id :: target_ids, _, _⟩,
        (parseOptions_items htokens).2 ⟨hip, hstations, nofun, rfl, rfl⟩⟩

/-- The timeout that `ParseOptions` returns is positive. -/
theorem timeout_pos {argv : List String} {options : ExampleOptions}
    (h : parseOptions stod argv = .ok options) : 0 < options.timeout_seconds := by
  obtain ⟨items, htokens⟩ := exists_items_of_parseOptions h
  obtain ⟨-, hasks⟩ := (parseOptions_items htokens).1 h
  rw [hasks.timeout_seconds]
  cases hlast : (items.filterMap Item.timeoutSeconds).getLast? with
  | none => norm_num
  | some seconds =>
    obtain ⟨item, -, hitem⟩ := List.mem_filterMap.1 (List.mem_of_getLast? hlast)
    cases item with
    | timeout text seconds hread hseconds =>
      cases hitem
      exact hseconds
    | _ => cases hitem

/-! ## From the command line to the path -/

/-- The commands lead through the stations in order, and their task ids differ. -/
structure LeadsThrough (commands : List SeerPathNaviCommand) (stations : List String) : Prop where
  length : commands.length + 1 = stations.length
  segments : ∀ k < commands.length, ∃ command, commands[k]? = some command ∧
    command.source_id = stations[k]? ∧ command.id = stations[k + 1]?
  task_id : ∀ command ∈ commands, command.task_id.isSome = true
  task_id_nodup : (commands.map SeerPathNaviCommand.task_id).Nodup

/-- A path leads through its stations. -/
theorem pathCommands_leadsThrough {source_id : String} {index : ℕ} {target_ids : List String}
    {readings : List ℤ} (hlength : readings.length = target_ids.length) :
    LeadsThrough (pathCommands source_id index target_ids readings) (source_id :: target_ids) where
  length := congrArg Nat.succ (length_pathCommands hlength)
  segments := by
    intro k hk
    rw [length_pathCommands hlength] at hk
    obtain ⟨task_id, hcommand⟩ := pathCommands_getElem? hlength hk
    exact ⟨_, hcommand, rfl, rfl⟩
  task_id := fun _ hcommand => (loggable_of_mem hcommand).task_id
  task_id_nodup := pathCommands_task_id_nodup

/-- Every run of `BuildNavigationCommands` that ends returns a path through the stations. -/
theorem buildNavigationCommands_leadsThrough {options : ExampleOptions} {w w' : Host} {h : History}
    {r : Except StdException (List SeerPathNaviCommand)}
    (hrun : Steps host ⟨buildNavigationCommands options, w, []⟩ ⟨.ended r, w', h⟩) :
    ∃ commands, r = .ok commands ∧
      LeadsThrough commands (options.source_id :: options.target_ids) := by
  have hconforms : Conforms systemClock (buildNavigationCommands options) _ [] :=
    buildNavigationCommandsLoop_systemClock
  obtain ⟨readings, -, hends⟩ := Conforms.invariant (J := fun _ _ _ => True)
    (fun _ _ _ _ _ _ _ _ _ _ => trivial) (fun _ _ _ _ _ _ => trivial) hrun hconforms trivial
  rw [conforms_ended] at hends
  obtain ⟨new, hlength, -, rfl⟩ := hends
  exact ⟨_, rfl, pathCommands_leadsThrough hlength⟩

/-- The command line from its tokens to the path. `ParseOptions` accepts the command lines that
consist of items with two stations at least, and returns what the items ask for.
`BuildNavigationCommands` makes a path through their stations, whatever the system clock reads, and
it may read anything. -/
theorem commandLine_path (stod : Stod) (argv : List String) :
    ((∃ options, parseOptions stod argv = .ok options) ↔ ∃ items : List (Item stod),
      argv.drop 2 = items.flatMap Item.tokens ∧ 2 ≤ (items.filterMap Item.name).length) ∧
    ∀ (items : List (Item stod)) (options : ExampleOptions),
      argv.drop 2 = items.flatMap Item.tokens → parseOptions stod argv = .ok options →
      Asks items options ∧
      (∀ w r w' h, Steps host ⟨buildNavigationCommands options, w, []⟩ ⟨.ended r, w', h⟩ →
        ∃ commands, r = .ok commands ∧ LeadsThrough commands (items.filterMap Item.name)) ∧
      ∀ (w : Host) (readings : List ℤ), readings.length = options.target_ids.length →
        ∃ commands, Steps host ⟨buildNavigationCommands options, w, []⟩
          ⟨.ret commands, w, readings.map fun now => ⟨.systemNow, now⟩⟩ := by
  refine ⟨parseOptions_isOk_iff, fun items options htokens hparse => ?_⟩
  obtain ⟨-, hasks⟩ := (parseOptions_items htokens).1 hparse
  refine ⟨hasks, fun w r w' h hrun => ?_, fun w readings hlength => ?_⟩
  · rw [hasks.stations]
    exact buildNavigationCommands_leadsThrough hrun
  · exact ⟨_, buildNavigationCommandsLoop_steps (fun _ _ => ⟨trivial, rfl⟩) hlength⟩

/-- A `std::stod` that reads the texts `5` and `7` only. -/
def digitStod : Stod := fun text =>
  if text = "5" then .ok (.finite 5, 1)
  else if text = "7" then .ok (.finite 7, 1)
  else .error (.invalid_argument "stod")

/-- The items of a command line with a timeout before and after its second station. -/
def twoTimeouts : List (Item digitStod) :=
  [.station "LM1" (isOption_eq_false_iff.1 rfl), .timeout "5" 5 rfl (by norm_num),
    .station "LM2" (isOption_eq_false_iff.1 rfl), .timeout "7" 7 rfl (by norm_num),
    .station "AP1" (isOption_eq_false_iff.1 rfl)]

/-- The command line of `twoTimeouts` is accepted, its second timeout is in force, and its path
leads from `LM1` through `LM2` to `AP1`. -/
theorem commandLine_path_twoTimeouts : ∃ options,
    parseOptions digitStod ("seer_navigation_example" :: "192.168.192.5" ::
      twoTimeouts.flatMap Item.tokens) = .ok options ∧ options.timeout_seconds = 7 ∧
      ∀ w r w' h, Steps host ⟨buildNavigationCommands options, w, []⟩ ⟨.ended r, w', h⟩ →
        ∃ commands, r = .ok commands ∧ LeadsThrough commands ["LM1", "LM2", "AP1"] := by
  obtain ⟨haccepts, hmeans⟩ := commandLine_path digitStod ("seer_navigation_example" ::
    "192.168.192.5" :: twoTimeouts.flatMap Item.tokens)
  obtain ⟨options, hparse⟩ := haccepts.2 ⟨twoTimeouts, rfl, by decide⟩
  obtain ⟨hasks, hruns, -⟩ := hmeans twoTimeouts options rfl hparse
  exact ⟨options, hparse, hasks.timeout_seconds, hruns⟩

end FlexivAmr
