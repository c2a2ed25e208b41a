import FlexivAmr.Path
import FlexivAmr.Session
import Mathlib.Tactic.Linarith

/-!
# Runs in a calm world

Rules of `CanEnd` for the functions of the program, from which particular runs are put together. The
world is calm: the stop flag stays unset and the steady clock stands still. What the client answers
is up to the rules' hypotheses. The postconditions speak of the history through its transcript, so
the sleeps and the readings of the stop flag between two actions do not have to be written down.
-/

namespace FlexivAmr

open Interaction Program

variable {W α β : Type} {E : Environment Op.Answer W} {w w' : W} {t : ℤ} {h : History}

/-- In the world `w`, whatever is asked of the host has an answer that leaves the world as it is,
the stop flag is not set, and the steady clock reads `t`. -/
structure Calm (E : Environment Op.Answer W) (w : W) (t : ℤ) : Prop where
  stopRequested : E.answers w .stopRequested false w
  steadyNow : E.answers w .steadyNow t w
  systemNow : E.answers w .systemNow t w
  sleepFor : ∀ duration, E.answers w (.sleepFor duration) () w
  returned : ∀ result, E.answers w (.returned result) () w

/-- A request to the client, by the choice of its outcome. -/
theorem client_canEnd (request : Request)
    {Q : Except StdException request.Reply → W → History → Prop}
    (outcome : Except StdException request.Reply)
    (answer : E.answers w (.client request) outcome w')
    (hQ : Q outcome w' (h ++ [⟨.client request, outcome⟩])) : CanEnd E (client request) Q w h :=
  .call outcome answer ⟨outcome, w', _, .refl, hQ⟩

/-- A statement of `main`'s `try` block. -/
theorem during_canEnd {v : Locals} {p : HostProgram StdException α}
    {Q : Except Thrown α → W → History → Prop}
    (hp : CanEnd E p (fun r w h => Q (r.mapError (⟨·, v⟩)) w h) w h) :
    CanEnd E (v.during p) Q w h := by
  refine .bind (.attempt (hp.mono ?_))
  intro r w h hQ
  exact ⟨_, w, h, .refl, hQ⟩

/-- `SleepInterruptibly` ends when its time is up. -/
theorem sleepInterruptibly_canEnd (hcalm : Calm E w t) {duration : ℤ}
    {Q : Except StdException Unit → W → History → Prop}
    (hQ : ∀ h', transcript h' = transcript h → Q (.ok ()) w h') :
    CanEnd E (sleepInterruptibly duration) Q w h := by
  unfold sleepInterruptibly
  -- The induction is on the time that remains, rounded up to zero.
  generalize hn : duration.toNat = n
  induction n using Nat.strong_induction_on generalizing duration h with
  | _ n ih =>
    have hstop : transcript (h ++ [⟨.stopRequested, false⟩]) = transcript h := by
      rw [transcript_append, action, Action.entries, List.append_nil]
    refine .round (.call false hcalm.stopRequested ?_)
    by_cases hd : 0 < duration
    · simp only [hd]
      refine .call () (hcalm.sleepFor _) (ih _ ?_ (fun h' hh' => hQ h' ?_) rfl)
      · rw [← hn]
        unfold kStep
        split_ifs <;> omega
      · rw [hh', transcript_append, hstop, action, Action.entries, List.append_nil]
    · simp only [hd]
      exact .ret (hQ _ hstop)

/-- A reading of the stop flag. -/
theorem stopRequested_canEnd (hcalm : Calm E w t)
    {Q : Except StdException Bool → W → History → Prop}
    (hQ : ∀ h', transcript h' = transcript h → Q (.ok false) w h') :
    CanEnd E stopRequested Q w h :=
  .call false hcalm.stopRequested (.ret (hQ _ (by simp [transcript_append, action, Action.entries])))

/-- A reading of the steady clock. -/
theorem steadyNow_canEnd (hcalm : Calm E w t) {Q : Except StdException ℤ → W → History → Prop}
    (hQ : ∀ h', transcript h' = transcript h ++ [.clock t] → Q (.ok t) w h') :
    CanEnd E steadyNow Q w h :=
  .call t hcalm.steadyNow (.ret (hQ _ (transcript_append h ⟨.steadyNow, t⟩)))

/-- The log lines of a command do not throw. -/
theorem logCommand_eq {command : SeerPathNaviCommand} (hlog : Loggable command) :
    logCommand command = .ret () := by
  obtain ⟨hsource, hid, htask⟩ := hlog
  obtain ⟨source_id, hsource⟩ := Option.isSome_iff_exists.1 hsource
  obtain ⟨id, hid⟩ := Option.isSome_iff_exists.1 hid
  obtain ⟨task_id, htask⟩ := Option.isSome_iff_exists.1 htask
  unfold logCommand
  rw [hsource, hid, htask]
  rfl

/-- The log lines of a list of commands do not throw. -/
theorem logCommands_eq {commands : List SeerPathNaviCommand}
    (hlog : ∀ command ∈ commands, Loggable command) : logCommands commands = .ret () := by
  induction commands with
  | nil => rfl
  | cons command commands ih =>
    unfold logCommands
    rw [logCommand_eq (hlog command List.mem_cons_self),
      ih fun command hcommand => hlog command (List.mem_cons_of_mem _ hcommand)]
    rfl

/-- Readings of the system clock leave the transcript as it is. -/
theorem transcript_append_systemNow (h : History) (readings : List ℤ) :
    transcript (h ++ readings.map fun now => ⟨.systemNow, now⟩) = transcript h := by
  simp [transcript, action, Action.entries]

/-- `BuildNavigationCommands` ends with commands that the log lines can name. -/
theorem buildNavigationCommands_canEnd (hcalm : Calm E w t) {options : ExampleOptions}
    {Q : Except StdException (List SeerPathNaviCommand) → W → History → Prop}
    (hQ : ∀ commands h', transcript h' = transcript h →
      (∀ command ∈ commands, Loggable command) → Q (.ok commands) w h') :
    CanEnd E (buildNavigationCommands options) Q w h := by
  have hnow : ∀ now ∈ List.replicate options.target_ids.length t, E.answers w .systemNow now w := by
    intro now hmem
    rw [List.eq_of_mem_replicate hmem]
    exact hcalm.systemNow
  exact ⟨.ok _, w, _, buildNavigationCommandsLoop_steps hnow List.length_replicate,
    hQ _ _ (transcript_append_systemNow h _) fun _ => loggable_of_mem⟩

/-- How the start request of `main` ends, by its outcome. -/
def StartEnds (v : Locals) : Except StdException Bool → Except Thrown Unit → Prop
  | .ok true, r => r = .ok ()
  | .ok false, r => ∃ message, r = .error ⟨.runtime_error message, v⟩
  | .error e, r => r = .error ⟨e, v⟩

/-- The start request of `main`, whichever of the two it is, by the choice of its outcome. -/
theorem startRequest_canEnd {v : Locals} {request : HostProgram StdException Bool}
    {message : String} {outcome : Except StdException Bool}
    {Q : Except Thrown Unit → W → History → Prop}
    (hrequest : ∀ R : Except StdException Bool → W → History → Prop,
      (∀ h', transcript h' = transcript h ++ [.start outcome] → R outcome w' h') →
        CanEnd E request R w h)
    (hQ : ∀ r h', StartEnds v outcome r → transcript h' = transcript h ++ [.start outcome] →
      Q r w' h') :
    CanEnd E ((v.during request).bind fun accepted =>
      if (!accepted) = true then v.throw (.runtime_error message) else .ret ()) Q w h := by
  refine .bind (during_canEnd (hrequest _ fun h' hh' => ?_))
  rcases outcome with e | _ | _
  · exact hQ _ _ rfl hh'
  · exact .raise (hQ _ _ ⟨_, rfl⟩ hh')
  · exact .ret (hQ _ _ rfl hh')

/-- The start of the navigation, by the choice of an outcome that either request may have. -/
theorem startNavigation_canEnd {v : Locals} {commands : List SeerPathNaviCommand}
    {Q : Except Thrown Unit → W → History → Prop} (outcome : Except StdException Bool)
    (after : List SeerPathNaviCommand → W) (hlog : ∀ command ∈ commands, Loggable command)
    (hfixed : ∀ command, E.answers w (.client (.executeFixedPathNavigation command)) outcome
      (after [command]))
    (hspecified : ∀ commands, E.answers w (.client (.executeSpecifiedPathNavigation commands)) outcome
      (after commands))
    (hQ : ∀ r h', StartEnds v outcome r → transcript h' = transcript h ++ [.start outcome] →
      Q r (after commands) h') :
    CanEnd E (startNavigation v commands) Q w h := by
  unfold startNavigation
  split
  · rename_i command
    rw [logCommand_eq (hlog command List.mem_cons_self)]
    refine .bind (during_canEnd (.ret (startRequest_canEnd (fun R hR => ?_) hQ)))
    exact client_canEnd (.executeFixedPathNavigation command) outcome (hfixed command)
      (hR _ (transcript_append _ _))
  · rw [logCommands_eq hlog]
    refine .bind (during_canEnd (.ret (startRequest_canEnd (fun R hR => ?_) hQ)))
    exact client_canEnd (.executeSpecifiedPathNavigation commands) outcome (hspecified commands)
      (hR _ (transcript_append _ _))

/-- The actions of the `try` block of `main` up to the start request, when nothing is amiss. -/
def begun : List Action := [.connect (.ok ()), .inspect, .inspect, .inspect]

/-- What the client answers in the world `w` before the start request, when nothing is amiss. -/
structure Ready (E : Environment Op.Answer W) (w : W) : Prop where
  construct : ∀ options, E.answers w (.client (.construct options)) (.ok ()) w
  connect : E.answers w (.client .connect) (.ok ()) w
  isConnected : E.answers w (.client .isConnected) (.ok true) w
  getEmergencyStatus : E.answers w (.client .getEmergencyStatus) (.ok {}) w
  getBlockStatus : E.answers w (.client .getBlockStatus) (.ok {}) w

/-- The `try` block of `main`, by the choice of an outcome of the start request. -/
theorem navigate_canEnd {options : ExampleOptions} {Q : Except Thrown Locals → W → History → Prop}
    (hcalm : Calm E w t) (hready : Ready E w) (outcome : Except StdException Bool)
    (after : List SeerPathNaviCommand → W)
    (hfixed : ∀ command, E.answers w (.client (.executeFixedPathNavigation command)) outcome
      (after [command]))
    (hspecified : ∀ commands, E.answers w (.client (.executeSpecifiedPathNavigation commands)) outcome
      (after commands))
    (hstart : ∀ commands h', transcript h' = transcript h ++ begun ++ [.start outcome] →
      match outcome with
      | .ok true => CanEnd E (monitorNavigation { connected := true } options) Q (after commands) h'
      | .ok false => ∀ e, Q (.error ⟨e, { connected := true }⟩) (after commands) h'
      | .error e => Q (.error ⟨e, { connected := true }⟩) (after commands) h') :
    CanEnd E (navigate options) Q w h := by
  unfold navigate
  refine .bind (during_canEnd (client_canEnd .connect (.ok ()) hready.connect ?_))
  refine .bind (during_canEnd (client_canEnd .isConnected (.ok true) hready.isConnected ?_))
  refine .bind (during_canEnd (client_canEnd .getEmergencyStatus (.ok {})
    hready.getEmergencyStatus ?_))
  refine .bind (during_canEnd (sleepInterruptibly_canEnd hcalm fun h₁ hh₁ => ?_))
  refine .bind (during_canEnd (client_canEnd .getBlockStatus (.ok {}) hready.getBlockStatus ?_))
  refine .bind (during_canEnd (stopRequested_canEnd hcalm fun h₂ hh₂ => ?_))
  refine .bind (during_canEnd (buildNavigationCommands_canEnd hcalm
    fun commands h₃ hh₃ hlog => ?_))
  refine .bind (startNavigation_canEnd outcome after hlog hfixed hspecified
    fun r h₄ hr hh₄ => ?_)
  have hh : transcript h₄ = transcript h ++ begun ++ [.start outcome] := by
    simp only [hh₄, hh₃, hh₂, hh₁, transcript_append]
    simp only [List.append_assoc]
    rfl
  have hnext := hstart commands h₄ hh
  -- The three ends of the start request: it throws, is refused, or is accepted.
  rcases outcome with e | _ | _
  · rw [show r = _ from hr]
    exact hnext
  · obtain ⟨message, rfl⟩ := hr
    exact hnext _
  · rw [show r = _ from hr]
    exact hnext

/-- `WaitForNavigation`, by its first round. -/
theorem waitForNavigation_canEnd {options : ExampleOptions}
    {Q : Except StdException NavigationResult → W → History → Prop} (hcalm : Calm E w t)
    (hwaiting : isBefore t (deadlineAt t options.timeout_seconds) = true)
    (hround : ∀ h', transcript h' = transcript h ++ [.clock t, .clock t] →
      CanEnd E (waitForNavigationRound options t false) (fun r w h => ∃ r', Q r' w h ∧
        r = r'.map .inl) w h') :
    CanEnd E (waitForNavigation options) Q w h := by
  unfold waitForNavigation
  refine .bind (steadyNow_canEnd hcalm fun h₁ hh₁ => ?_)
  refine .round (.bind (.bind ?_))
  refine .bind (stopRequested_canEnd hcalm fun h₂ hh₂ => ?_)
  refine .bind (steadyNow_canEnd hcalm fun h₃ hh₃ => .ret ?_)
  simp only [hwaiting]
  refine (hround h₃ (by simp [hh₃, hh₂, hh₁])).mono ?_
  rintro _ w' h' ⟨r, hQ, rfl⟩
  rcases r with e | result
  · exact hQ
  · exact .ret hQ

/-- A round of `WaitForNavigation`, up to the reply to the task status request. -/
theorem waitForNavigationRound_canEnd {options : ExampleOptions} {start : ℤ}
    {Q : Except StdException (NavigationResult ⊕ Bool) → W → History → Prop}
    {status : SeerNavigationStatus} {result : NavigationResult}
    (hstatus : E.answers w (.client .getNavigationStatus) (.ok status) w') (hcalm : Calm E w' t)
    (htask : E.answers w' (.client .getTaskStatus) (.ok {}) w')
    (hverdict : result.terminal = some status.task_status)
    (hQ : ∀ h', transcript h' = transcript h ++
      [.navigationStatus (.ok status.task_status), .taskStatus (.ok ())] →
        Q (.ok (.inl result)) w' h') :
    CanEnd E (waitForNavigationRound options start false) Q w h := by
  unfold waitForNavigationRound
  refine .bind (client_canEnd .getNavigationStatus (.ok status) hstatus ?_)
  refine .bind (sleepInterruptibly_canEnd hcalm fun h₁ hh₁ => ?_)
  refine .bind (stopRequested_canEnd hcalm fun h₂ hh₂ => ?_)
  refine .bind (client_canEnd .getTaskStatus (.ok {}) htask ?_)
  have hh := hQ (h₂ ++ [⟨.client .getTaskStatus, .ok {}⟩])
    (by simp only [hh₂, hh₁, transcript_append, List.append_assoc]; rfl)
  cases result with
  | kCompleted =>
    have hcode : status.task_status = kNavigationCompleted := (Option.some.inj hverdict).symm
    rw [if_pos hcode]
    exact .ret hh
  | kFailed =>
    have hcode : status.task_status = kNavigationFailed := (Option.some.inj hverdict).symm
    rw [if_neg (by rw [hcode]; decide), if_pos hcode]
    exact .ret hh
  | kCanceled =>
    have hcode : status.task_status = kNavigationCanceled := (Option.some.inj hverdict).symm
    rw [if_neg (by rw [hcode]; decide), if_neg (by rw [hcode]; decide), if_pos hcode]
    exact .ret hh
  | kInterrupted => cases hverdict
  | kTimedOut => cases hverdict

/-- The local variables that the `try` block of `main` leaves to the cleanup. -/
def Locals.left : Except Thrown Locals → Locals
  | .ok v => v
  | .error thrown => thrown.locals

/-- The cleanup of `main`, with a client that agrees to everything. -/
theorem cleanup_canEnd {v : Locals} {Q : Except StdException ℤ → W → History → Prop}
    (hcancel : E.answers w (.client .cancelNavigation) (.ok true) w)
    (hdisconnect : E.answers w (.client .disconnect) (.ok ()) w)
    (hQ : ∀ h', transcript h' = transcript h ++
      ((if v.navigation_active then [.cancel (.ok true)] else []) ++
        if v.connected then [.disconnect (.ok ())] else []) → Q (.ok v.exit_code) w h') :
    CanEnd E (cleanup v) Q w h := by
  obtain ⟨connected, navigation_active, exit_code⟩ := v
  unfold cleanup
  cases navigation_active with
  | true =>
    refine .bind (.attempt (client_canEnd .cancelNavigation (.ok true) hcancel ?_))
    cases connected with
    | true =>
      refine .bind (.attempt (client_canEnd .disconnect (.ok ()) hdisconnect (.ret (hQ _ ?_))))
      rw [transcript_append, transcript_append, List.append_assoc]
      rfl
    | false => exact .ret (hQ _ (transcript_append _ _))
  | false =>
    cases connected with
    | true =>
      refine .bind (.attempt (client_canEnd .disconnect (.ok ()) hdisconnect (.ret (hQ _ ?_))))
      exact transcript_append _ _
    | false => exact .ret (hQ _ (List.append_nil _).symm)

/-- `main` on a command line with a navigation in it. -/
theorem main_canEnd {stod : Stod} {argv : List String} {options : ExampleOptions}
    {Q : Except StdException ℤ → W → History → Prop}
    (hhelp : ¬(argv[1]? = some "--help" ∨ argv[1]? = some "-h"))
    (hparse : parseOptions stod argv = .ok options)
    (hconstruct : ∀ options, E.answers w (.client (.construct options)) (.ok ()) w)
    (hnavigate : ∀ h', transcript h' = transcript h ++ [.construct (.ok ())] →
      CanEnd E (navigate options) (fun r w h => CanEnd E (cleanup (.left r)) Q w h) w h') :
    CanEnd E (main stod argv) Q w h := by
  unfold main
  rw [if_neg hhelp, hparse]
  refine .bind (client_canEnd (.construct _) (.ok ()) (hconstruct _) ?_)
  refine .bind (.attempt ((hnavigate _ (transcript_append _ _)).mono fun r w h hr => ?_))
  cases r with
  | ok v => exact hr
  | error thrown => exact hr

/-- A host that answers at once. -/
theorem host_calm (steady : ℤ) : Calm host ⟨false, steady⟩ steady where
  stopRequested := ⟨rfl, rfl⟩
  steadyNow := ⟨rfl, rfl⟩
  systemNow := ⟨trivial, rfl⟩
  sleepFor _ := ⟨trivial, rfl⟩
  returned _ := ⟨trivial, rfl⟩

/-- The client of the host may answer a request with anything. -/
theorem host_answers (w : Host) (request : Request) (outcome : Except StdException request.Reply) :
    host.answers w (.client request) outcome w := ⟨trivial, rfl⟩

/-- The client of the host may find nothing amiss. -/
theorem host_ready (w : Host) : Ready host w :=
  ⟨fun _ => host_answers _ _ _, host_answers _ _ _, host_answers _ _ _, host_answers _ _ _,
    host_answers _ _ _⟩

/-- The `std::stod` of a run whose command line has no numbers in it. -/
def noStod : Stod := fun _ => .error (.invalid_argument "stod")

/-- The command line `seer_navigation_example 192.168.192.5 LM1 LM2`. -/
def oneTarget : List String := ["seer_navigation_example", "192.168.192.5", "LM1", "LM2"]

end FlexivAmr
