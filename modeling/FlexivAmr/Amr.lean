import FlexivAmr.Navigation
import FlexivAmr.Session

/-!
# The AMR as the other party

The AMR is not part of the program. This is what is assumed of it: it may accept or refuse a start
request; a navigation that it has accepted goes through its own transitions, at any time, until it
reaches a terminal status, and so does an earlier task that is unfinished (a new task cancels it);
and it answers a navigation status request with the report of the earlier task for some number of
replies (`lag`) before it reports the navigation that it has accepted. A request whose reply is lost
may have been handled or not. The clock, the stop flag, and the replies to the other requests are as
unconstrained as those of `host`.
-/

namespace FlexivAmr

open Interaction

/-- The status codes of a navigation that is over. -/
def isTerminal (code : ℤ) : Bool :=
  code == kNavigationCompleted || code == kNavigationFailed || code == kNavigationCanceled

/-- The status code of an AMR that has no task. -/
def noTask : ℤ := 0

/-- The status codes of a task that may still come to its end. -/
def isUnfinished (code : ℤ) : Bool := code != noTask && !isTerminal code

/-- A result of `WaitForNavigation` with a verdict stands for a terminal status. -/
theorem NavigationResult.isTerminal_of_terminal {result : NavigationResult} {code : ℤ}
    (h : result.terminal = some code) : isTerminal code = true := by
  cases result <;> cases h <;> rfl

/-- Every terminal status is a verdict. -/
theorem exists_result_of_isTerminal {code : ℤ} (h : isTerminal code = true) :
    ∃ result : NavigationResult, result.terminal = some code := by
  simp only [isTerminal, Bool.or_eq_true, beq_iff_eq] at h
  rcases h with (rfl | rfl) | rfl
  · exact ⟨.kCompleted, rfl⟩
  · exact ⟨.kFailed, rfl⟩
  · exact ⟨.kCanceled, rfl⟩

/-- A navigation that the AMR has accepted. -/
structure Navigation where
  /-- The commands of the start request. -/
  commands : List SeerPathNaviCommand
  /-- The navigation's own status code. -/
  task_status : ℤ
  deriving DecidableEq

/-- The AMR, as the program sees it. -/
structure Amr where
  /-- The report of a task that was there before the run, as it stands. -/
  earlier : SeerNavigationStatus := {}
  /-- The number of status replies that still report the earlier task, once a start is accepted. -/
  lag : ℕ := 0
  /-- The navigation that was accepted last. -/
  navigation : Option Navigation := none
  deriving DecidableEq

namespace Amr

/-- The navigation that was accepted has the status `code`. -/
def Reached (amr : Amr) (code : ℤ) : Prop :=
  ∃ navigation, amr.navigation = some navigation ∧ navigation.task_status = code

/-- The AMR answers a start request: it refuses, or it accepts and the navigation is pending. -/
inductive Starts (amr : Amr) (commands : List SeerPathNaviCommand) : Bool → Amr → Prop
  | refuse : Starts amr commands false amr
  | accept (code : ℤ) (hcode : isTerminal code = false) :
      Starts amr commands true { amr with navigation := some ⟨commands, code⟩ }

/-- The AMR answers a navigation status request. -/
inductive Reports (amr : Amr) : SeerNavigationStatus → Amr → Prop
  /-- It has accepted no start request, and reports the earlier task. -/
  | idle (hidle : amr.navigation = none) : Reports amr amr.earlier amr
  /-- It has accepted a start request, and still reports the earlier task. -/
  | stale (navigation lag) (hnavigation : amr.navigation = some navigation)
      (hlag : amr.lag = lag + 1) : Reports amr amr.earlier { amr with lag := lag }
  /-- It reports the navigation that it has accepted, truthfully. -/
  | current (navigation status) (hnavigation : amr.navigation = some navigation)
      (hlag : amr.lag = 0) (hstatus : status.task_status = navigation.task_status)
      (htarget : ∃ command ∈ navigation.commands, command.id = some status.target_id) :
      Reports amr status amr

/-- The AMR handles a request: what it may reply, and what that makes of it. -/
def Handles (amr : Amr) : (request : Request) → request.Reply → Amr → Prop
  | .executeFixedPathNavigation command, accepted, amr' => amr.Starts [command] accepted amr'
  | .executeSpecifiedPathNavigation commands, accepted, amr' => amr.Starts commands accepted amr'
  | .getNavigationStatus, status, amr' => amr.Reports status amr'
  | _, _, amr' => amr' = amr

/-- The outcome of a request: a reply to a request that the AMR has handled, or an exception, when
the request or its reply is lost. -/
def Answers (amr : Amr) (request : Request) : Except StdException request.Reply → Amr → Prop
  | .ok reply, amr' => amr.Handles request reply amr'
  | .error _, amr' => amr' = amr ∨ ∃ reply, amr.Handles request reply amr'

end Amr

/-- The host and the AMR. -/
structure Site where
  host : Host
  amr : Amr
  deriving DecidableEq

/-- The moves of the site: those of the host, and the own transitions of the navigation and of the
earlier task, until they are over. -/
inductive Site.Moves : Site → Site → Prop
  | host (w : Site) (v : Host) (hmove : Host.Moves w.host v) : Site.Moves w { w with host := v }
  | navigation (w : Site) (navigation : Navigation) (code : ℤ)
      (hnavigation : w.amr.navigation = some navigation)
      (hcode : isTerminal navigation.task_status = false) :
      Site.Moves w
        { w with amr := { w.amr with navigation := some { navigation with task_status := code } } }
  | earlier (w : Site) (status : SeerNavigationStatus)
      (hcode : isUnfinished w.amr.earlier.task_status = true)
      (htarget : status.target_id = w.amr.earlier.target_id) :
      Site.Moves w { w with amr := { w.amr with earlier := status } }

/-- The answers of the site: the client's come from the AMR, the others from the host. -/
def Site.Answers (w : Site) : (op : Op) → op.Answer → Site → Prop
  | .client request, outcome, w' => w'.host = w.host ∧ w.amr.Answers request outcome w'.amr
  | op, answer, w' => w.host.Allows op answer ∧ w' = w

/-- The environment of a program that runs against the AMR. -/
def site : Environment Op.Answer Site where
  answers := Site.Answers
  moves := Site.Moves

/-! ## What the AMR does between two starts -/

namespace Amr

variable {amr amr' : Amr} {code : ℤ}

/-- The AMR will not report a verdict on an earlier task for the navigation that it accepts: it makes
no further report of the earlier task, or there is none. -/
def Fresh (amr : Amr) : Prop := amr.lag = 0 ∨ amr.earlier.task_status = noTask

/-- From `amr` to `amr'`, no start request is accepted: a navigation that is over stays over, and no
report gets older. -/
structure Follows (amr amr' : Amr) : Prop where
  reached : ∀ code, isTerminal code = true → amr.Reached code → amr'.Reached code
  navigation : amr.navigation.isSome = true → amr'.navigation.isSome = true
  fresh : amr.Fresh → amr'.Fresh

/-- An AMR that stays as it is. -/
theorem Follows.rfl : amr.Follows amr := ⟨fun _ _ h => h, id, id⟩

/-- A start request leaves the reports as old as they are. -/
theorem Starts.fresh {commands : List SeerPathNaviCommand} {accepted : Bool}
    (h : amr.Starts commands accepted amr') (hfresh : amr.Fresh) : amr'.Fresh := by
  cases h with
  | refuse => exact hfresh
  | accept => exact hfresh

/-- A start request that is accepted leaves a navigation. -/
theorem Starts.isSome_navigation {commands : List SeerPathNaviCommand}
    (h : amr.Starts commands true amr') : amr'.navigation.isSome = true := by
  cases h
  rfl

/-- A status request moves the AMR towards the truth. -/
theorem Reports.follows {status : SeerNavigationStatus} (h : amr.Reports status amr') :
    amr.Follows amr' := by
  cases h with
  | idle => exact .rfl
  | stale navigation lag hnavigation hlag =>
    refine ⟨fun _ _ h => h, id, fun hfresh => .inr (hfresh.resolve_left ?_)⟩
    rw [hlag]
    exact Nat.succ_ne_zero lag
  | current => exact .rfl

/-- A verdict that a fresh AMR reports is that of the navigation that it has accepted. -/
theorem Reports.reached {status : SeerNavigationStatus} (h : amr.Reports status amr')
    (hfresh : amr.Fresh) (hnavigation : amr.navigation.isSome = true)
    (hterminal : isTerminal status.task_status = true) : amr'.Reached status.task_status := by
  cases h with
  | idle hidle =>
    rw [hidle] at hnavigation
    cases hnavigation
  | stale navigation lag _ hlag =>
    rcases hfresh with hzero | hearlier
    · rw [hlag] at hzero
      cases hzero
    · rw [hearlier] at hterminal
      exact absurd hterminal (by decide)
  | current navigation _ hnavigation _ hstatus => exact ⟨navigation, hnavigation, hstatus.symm⟩

/-- No request makes the reports older. -/
theorem Handles.fresh {request : Request} {reply : request.Reply}
    (h : amr.Handles request reply amr') (hfresh : amr.Fresh) : amr'.Fresh := by
  cases request with
  | executeFixedPathNavigation command => exact Starts.fresh h hfresh
  | executeSpecifiedPathNavigation commands => exact Starts.fresh h hfresh
  | getNavigationStatus => exact (Reports.follows h).fresh hfresh
  | _ => exact h ▸ hfresh

/-- A request that is no start request. -/
theorem Handles.follows {request : Request} {reply : request.Reply}
    (h : amr.Handles request reply amr') (hrequest : ∀ outcome,
      (action ⟨.client request, outcome⟩).isStart = false) : amr.Follows amr' := by
  cases request with
  | executeFixedPathNavigation command => cases hrequest (.ok true)
  | executeSpecifiedPathNavigation commands => cases hrequest (.ok true)
  | getNavigationStatus => exact Reports.follows h
  | _ => exact h ▸ .rfl

/-- No request makes the reports older, whether or not it is lost. -/
theorem Answers.fresh {request : Request} {outcome : Except StdException request.Reply}
    (h : amr.Answers request outcome amr') (hfresh : amr.Fresh) : amr'.Fresh := by
  cases outcome with
  | ok reply => exact Handles.fresh h hfresh
  | error e =>
    rcases h with rfl | ⟨reply, h⟩
    · exact hfresh
    · exact h.fresh hfresh

/-- The outcome of a request that is no start request, whether or not it is lost. -/
theorem Answers.follows {request : Request} {outcome : Except StdException request.Reply}
    (h : amr.Answers request outcome amr') (hrequest : ∀ outcome,
      (action ⟨.client request, outcome⟩).isStart = false) : amr.Follows amr' := by
  cases outcome with
  | ok reply => exact Handles.follows h hrequest
  | error e =>
    rcases h with rfl | ⟨reply, h⟩
    · exact .rfl
    · exact h.follows hrequest

end Amr

end FlexivAmr
