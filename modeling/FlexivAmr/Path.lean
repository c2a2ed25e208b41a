import FlexivAmr.Navigation

/-!
# The path of a navigation

`pathCommands` is what `BuildNavigationCommands` computes, as a function of the stations and of the
readings of the system clock. `buildNavigationCommandsLoop_systemClock` says that every run computes
it, and `buildNavigationCommandsLoop_steps` that every sequence of readings has a run. The commands
lead from station to station (`pathCommands_getElem?`), and their task ids differ whatever the clock
reads (`pathCommands_task_id_nodup`).
-/

namespace FlexivAmr

open Interaction Program

/-- The entries after the last separator are determined by the whole. -/
theorem append_cons_right_inj {α : Type} {x₁ x₂ z₁ z₂ : List α} {a : α} (h₁ : a ∉ z₁) (h₂ : a ∉ z₂)
    (h : x₁ ++ a :: z₁ = x₂ ++ a :: z₂) : z₁ = z₂ := by
  rcases List.append_eq_append_iff.1 h with ⟨bs, -, hbs⟩ | ⟨bs, -, hbs⟩
  · cases bs with
    | nil => exact (List.cons.inj hbs).2
    | cons b bs =>
      rw [(List.cons.inj hbs).2] at h₁
      exact absurd (by simp) h₁
  · cases bs with
    | nil => exact (List.cons.inj hbs).2.symm
    | cons b bs =>
      rw [(List.cons.inj hbs).2] at h₂
      exact absurd (by simp) h₂

/-- A task id ends with its index in decimal, after an underscore. -/
theorem toList_taskId (timestamp : ℤ) (index : ℕ) : (taskId timestamp index).toList =
    ("seer_navigation_example_" ++ toString timestamp).toList ++ '_' :: Nat.toDigits 10 index := by
  unfold taskId
  rw [String.toList_append, String.toList_append, List.append_assoc]
  congr 1
  exact congrArg _ Nat.toList_repr

/-- Task ids with different indices are different, whatever the times are. -/
theorem taskId_injective {timestamp timestamp' : ℤ} {index index' : ℕ}
    (h : taskId timestamp index = taskId timestamp' index') : index = index' := by
  have hchars := congrArg String.toList h
  rw [toList_taskId, toList_taskId] at hchars
  -- The digits of the index hold no underscore, and the text before the last underscore does not
  -- matter.
  have hdigits := append_cons_right_inj Nat.underscore_not_in_toDigits
    Nat.underscore_not_in_toDigits hchars
  calc
    index = Nat.ofDigitChars 10 (Nat.toDigits 10 index) 0 := Nat.ofDigitChars_ten_toDigits.symm
    _ = Nat.ofDigitChars 10 (Nat.toDigits 10 index') 0 := by rw [hdigits]
    _ = index' := Nat.ofDigitChars_ten_toDigits

/-- The commands that lead from `source_id` through `target_ids`, when the system clock reads
`readings`. -/
def pathCommands : (source_id : String) → (index : ℕ) → (target_ids : List String) →
    (readings : List ℤ) → List SeerPathNaviCommand
  | source_id, index, target_id :: target_ids, now :: readings =>
    { source_id := some source_id, id := some target_id,
      task_id := some (taskId (now.tdiv 1000000) index) } ::
        pathCommands target_id (index + 1) target_ids readings
  | _, _, _, _ => []

/-- One command leads to each target. -/
theorem length_pathCommands {source_id : String} {index : ℕ} {target_ids : List String}
    {readings : List ℤ} (hlength : readings.length = target_ids.length) :
    (pathCommands source_id index target_ids readings).length = target_ids.length := by
  induction target_ids generalizing source_id index readings with
  | nil => cases readings <;> rfl
  | cons target_id target_ids ih =>
    cases readings with
    | nil => cases hlength
    | cons now readings => exact congrArg Nat.succ (ih (Nat.succ.inj hlength))

/-- The command number `k` leads from the station number `k` to the next. -/
theorem pathCommands_getElem? {source_id : String} {index : ℕ} {target_ids : List String}
    {readings : List ℤ} (hlength : readings.length = target_ids.length) {k : ℕ}
    (hk : k < target_ids.length) :
    ∃ task_id, (pathCommands source_id index target_ids readings)[k]? =
      some { source_id := (source_id :: target_ids)[k]?, id := target_ids[k]?,
             task_id := some task_id } := by
  induction target_ids generalizing source_id index readings k with
  | nil => exact absurd hk (Nat.not_lt_zero k)
  | cons target_id target_ids ih =>
    cases readings with
    | nil => cases hlength
    | cons now readings =>
      cases k with
      | zero => exact ⟨_, rfl⟩
      | succ k => exact ih (Nat.succ.inj hlength) (Nat.lt_of_succ_lt_succ hk)

/-- The command has the fields that the log lines read. -/
structure Loggable (command : SeerPathNaviCommand) : Prop where
  source_id : command.source_id.isSome = true
  id : command.id.isSome = true
  task_id : command.task_id.isSome = true

/-- The log lines can name the commands of a path. -/
theorem loggable_of_mem {source_id : String} {index : ℕ} {target_ids : List String}
    {readings : List ℤ} {command : SeerPathNaviCommand}
    (hcommand : command ∈ pathCommands source_id index target_ids readings) : Loggable command := by
  induction target_ids generalizing source_id index readings with
  | nil => cases readings <;> cases hcommand
  | cons target_id target_ids ih =>
    cases readings with
    | nil => cases hcommand
    | cons now readings =>
      rcases List.mem_cons.1 hcommand with rfl | hcommand
      · exact ⟨rfl, rfl, rfl⟩
      · exact ih hcommand

/-- The task ids of a path carry indices from `index` on. -/
theorem exists_task_id_of_mem {source_id : String} {index : ℕ} {target_ids : List String}
    {readings : List ℤ} {command : SeerPathNaviCommand}
    (hcommand : command ∈ pathCommands source_id index target_ids readings) :
    ∃ timestamp index', index ≤ index' ∧ command.task_id = some (taskId timestamp index') := by
  induction target_ids generalizing source_id index readings with
  | nil => cases readings <;> cases hcommand
  | cons target_id target_ids ih =>
    cases readings with
    | nil => cases hcommand
    | cons now readings =>
      rcases List.mem_cons.1 hcommand with rfl | hcommand
      · exact ⟨_, index, Nat.le_refl _, rfl⟩
      · obtain ⟨timestamp, index', hindex, htask⟩ := ih hcommand
        exact ⟨timestamp, index', Nat.le_of_succ_le hindex, htask⟩

/-- The task ids of a path differ, also when the clock repeats a reading or goes back. -/
theorem pathCommands_task_id_nodup {source_id : String} {index : ℕ} {target_ids : List String}
    {readings : List ℤ} :
    ((pathCommands source_id index target_ids readings).map SeerPathNaviCommand.task_id).Nodup := by
  induction target_ids generalizing source_id index readings with
  | nil => cases readings <;> exact List.nodup_nil
  | cons target_id target_ids ih =>
    cases readings with
    | nil => exact List.nodup_nil
    | cons now readings =>
      refine List.nodup_cons.2 ⟨fun hmem => ?_, ih⟩
      -- A later command has a larger index.
      obtain ⟨command, hcommand, htask⟩ := List.mem_map.1 hmem
      obtain ⟨timestamp, index', hindex, htask'⟩ := exists_task_id_of_mem hcommand
      have hindex' := taskId_injective (Option.some.inj (htask'.symm.trans htask))
      omega

/-! ## The runs of `BuildNavigationCommands` -/

/-- The protocol of a program that only reads the system clock. Its states are the readings. -/
def systemClock : Protocol Op.Answer (List ℤ) := fun readings e readings' =>
  ∃ now, e = ⟨.systemNow, now⟩ ∧ readings' = readings ++ [now]

/-- The loop of `BuildNavigationCommands` takes one reading for each target, and appends the
commands of the path. -/
theorem buildNavigationCommandsLoop_systemClock {source_id : String} {index : ℕ}
    {target_ids : List String} {commands : List SeerPathNaviCommand} {readings : List ℤ} :
    Conforms systemClock (buildNavigationCommandsLoop source_id index target_ids commands)
      (fun r readings' => ∃ new, new.length = target_ids.length ∧ readings' = readings ++ new ∧
        r = .ok (commands ++ pathCommands source_id index target_ids new)) readings := by
  induction target_ids generalizing source_id index commands readings with
  | nil => exact ⟨[], rfl, (List.append_nil _).symm, congrArg _ (List.append_nil _).symm⟩
  | cons target_id target_ids ih =>
    intro now
    refine ⟨_, ⟨now, rfl, rfl⟩, ih.mono ?_⟩
    rintro r readings' ⟨new, hlength, rfl, rfl⟩
    refine ⟨now :: new, congrArg Nat.succ hlength, List.append_assoc _ _ _, ?_⟩
    rw [List.append_assoc]
    rfl

/-- Every sequence of readings of the system clock has its run. -/
theorem buildNavigationCommandsLoop_steps {W : Type} {E : Environment Op.Answer W} {w : W}
    {h : History} {source_id : String} {index : ℕ} {target_ids : List String}
    {commands : List SeerPathNaviCommand} {readings : List ℤ}
    (hnow : ∀ now ∈ readings, E.answers w .systemNow now w)
    (hlength : readings.length = target_ids.length) :
    Steps E ⟨buildNavigationCommandsLoop source_id index target_ids commands, w, h⟩
      ⟨.ret (commands ++ pathCommands source_id index target_ids readings), w,
        h ++ readings.map fun now => ⟨.systemNow, now⟩⟩ := by
  induction target_ids generalizing source_id index commands readings h with
  | nil =>
    obtain rfl : readings = [] := List.eq_nil_of_length_eq_zero hlength
    have hnone : pathCommands source_id index [] [] = [] := rfl
    rw [hnone, List.append_nil, List.map_nil, List.append_nil]
    exact .refl
  | cons target_id target_ids ih =>
    cases readings with
    | nil => cases hlength
    | cons now readings =>
      rw [pathCommands, List.map_cons, List.append_cons commands, List.append_cons h]
      exact .head (.call (hnow now List.mem_cons_self))
        (ih (fun t ht => hnow t (List.mem_cons_of_mem _ ht)) (Nat.succ.inj hlength))

end FlexivAmr
