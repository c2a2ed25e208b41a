import FlexivAmr.Clock
import FlexivAmr.Host

/-!
# The protocol of a navigation session

What the navigation program may do with the AMR, as an abstract protocol. A session prepares and
connects, makes one start request, and then answers for the navigation that it has started: it waits
for a verdict, may pause the navigation once and resume it, and cancels it when it gives up waiting.
It disconnects only when no navigation is left in its charge, or when it does not know of one.

An `Action` is what an event means to the session, and `Session.Step` says which actions may follow
which. `NavigationSpec.lean` shows that `main` conforms to the protocol. The claims about its runs
are then invariants of the protocol's steps.
-/

namespace FlexivAmr

open Interaction

/-- The status code that a result of `WaitForNavigation` stands for, when the navigation is over. -/
def NavigationResult.terminal : NavigationResult → Option ℤ
  | .kCompleted => some 4
  | .kFailed => some 5
  | .kCanceled => some 6
  | .kInterrupted | .kTimedOut => none

/-- What an event means to a session. -/
inductive Action
  | construct (outcome : Except StdException Unit)
  | connect (outcome : Except StdException Unit)
  | disconnect (outcome : Except StdException Unit)
  /-- A request that only looks at the AMR before the start. -/
  | inspect
  /-- A start request, for a fixed or for a specified path. -/
  | start (outcome : Except StdException Bool)
  /-- A navigation status request, and the status code of the reply. -/
  | navigationStatus (outcome : Except StdException ℤ)
  | taskStatus (outcome : Except StdException Unit)
  | pause (outcome : Except StdException Bool)
  | resume (outcome : Except StdException Bool)
  | cancel (outcome : Except StdException Bool)
  /-- A reading of the steady clock. -/
  | clock (reading : ℤ)
  /-- The return of `WaitForNavigation`. -/
  | returned (result : NavigationResult)
  /-- Anything else: the stop flag, the system clock, a sleep. -/
  | quiet
  deriving DecidableEq

/-- The action of an event. -/
def action : Event Op.Answer → Action
  | ⟨.client (.construct _), outcome⟩ => .construct outcome
  | ⟨.client .connect, outcome⟩ => .connect outcome
  | ⟨.client .disconnect, outcome⟩ => .disconnect outcome
  | ⟨.client .isConnected, _⟩ => .inspect
  | ⟨.client .getBlockStatus, _⟩ => .inspect
  | ⟨.client .getEmergencyStatus, _⟩ => .inspect
  | ⟨.client .getNavigationStatus, outcome⟩ =>
    .navigationStatus (Except.map SeerNavigationStatus.task_status outcome)
  | ⟨.client .getTaskStatus, outcome⟩ =>
    .taskStatus (Except.map (fun (_ : SeerTaskStatus) => ()) outcome)
  | ⟨.client (.executeFixedPathNavigation _), outcome⟩ => .start outcome
  | ⟨.client (.executeSpecifiedPathNavigation _), outcome⟩ => .start outcome
  | ⟨.client .pauseNavigation, outcome⟩ => .pause outcome
  | ⟨.client .resumeNavigation, outcome⟩ => .resume outcome
  | ⟨.client .cancelNavigation, outcome⟩ => .cancel outcome
  | ⟨.steadyNow, reading⟩ => .clock reading
  | ⟨.returned result, _⟩ => .returned result
  | ⟨.stopRequested, _⟩ => .quiet
  | ⟨.systemNow, _⟩ => .quiet
  | ⟨.sleepFor _, _⟩ => .quiet

/-- The entries of an action in a transcript: none when it is quiet. -/
def Action.entries : Action → List Action
  | .quiet => []
  | a => [a]

/-- An action that is not quiet has one entry. -/
theorem Action.entries_of_ne_quiet {a : Action} (ha : a ≠ .quiet) : a.entries = [a] := by
  cases a <;> first | rfl | exact absurd rfl ha

/-- The actions of a run, oldest first, without the quiet ones. -/
def transcript (h : History) : List Action := h.flatMap fun e => (action e).entries

/-- The transcript grows with each event by the entries of its action. -/
theorem transcript_append (h : History) (e : Event Op.Answer) :
    transcript (h ++ [e]) = transcript h ++ (action e).entries := by
  simp [transcript]

namespace Action

/-- The requests to the client. The clock, the flag, and the return of a function are not. -/
def isRequest : Action → Bool
  | .clock _ | .returned _ | .quiet => false
  | _ => true

/-- A connection that was opened. -/
def isConnection : Action → Bool
  | .connect (.ok _) => true
  | _ => false

def isStart : Action → Bool
  | .start _ => true
  | _ => false

def isPause : Action → Bool
  | .pause _ => true
  | _ => false

def isResume : Action → Bool
  | .resume _ => true
  | _ => false

def isCancel : Action → Bool
  | .cancel _ => true
  | _ => false

def isDisconnect : Action → Bool
  | .disconnect _ => true
  | _ => false

/-- A return of `WaitForNavigation` with a verdict on the navigation. -/
def isVerdict : Action → Bool
  | .returned result => result.terminal.isSome
  | _ => false

/-- The outcome of a start request. -/
def startOutcome : Action → Option (Except StdException Bool)
  | .start outcome => some outcome
  | _ => none

/-- The reading of the steady clock. -/
def reading : Action → Option ℤ
  | .clock t => some t
  | _ => none

/-- The status code that a navigation status request has returned. -/
def statusCode : Action → Option ℤ
  | .navigationStatus (.ok code) => some code
  | _ => none

end Action

/-- Where a session stands with the navigation that it starts. -/
inductive Stage
  /-- No start request yet. -/
  | preparing
  /-- The start request returned `false`. -/
  | refused
  /-- The start request threw. -/
  | unanswered (e : StdException)
  /-- The start request returned `true`, and no pause is in force. `resumed` says that one was. -/
  | navigating (resumed : Bool)
  /-- `PauseNavigation` returned `true`, and the navigation is not resumed. -/
  | paused
  /-- The session has given up waiting, and owes a cancel. -/
  | abandoned
  /-- `WaitForNavigation` returned a verdict. -/
  | settled (result : NavigationResult)
  /-- `CancelNavigation` has been attempted. -/
  | canceled
  deriving DecidableEq

namespace Stage

/-- The outcome of the start request, once there is one. -/
def startOutcome : Stage → Option (Except StdException Bool)
  | .preparing => none
  | .refused => some (.ok false)
  | .unanswered e => some (.error e)
  | _ => some (.ok true)

/-- How many cancels have been attempted. -/
def cancels : Stage → ℕ
  | .canceled => 1
  | _ => 0

def isSettled : Stage → Bool
  | .settled _ => true
  | _ => false

/-- The session may disconnect: as far as it knows, no navigation is left in its charge. -/
def isIdle : Stage → Bool
  | .preparing | .refused | .unanswered _ | .settled _ | .canceled => true
  | .navigating _ | .paused | .abandoned => false

/-- The stage that the outcome of the start request leads to. -/
def afterStart : Except StdException Bool → Stage
  | .ok true => .navigating false
  | .ok false => .refused
  | .error e => .unanswered e

/-- The stage that the outcome of a request leads to, from which only `true` goes on. -/
def orAbandoned (accepted : Stage) : Except StdException Bool → Stage
  | .ok true => accepted
  | _ => .abandoned

end Stage

/-- A session: its stage, its connection, and what it has read while waiting. -/
structure Session where
  stage : Stage := .preparing
  /-- `Connect` has returned. -/
  connected : Bool := false
  /-- `Disconnect` has been attempted. -/
  closed : Bool := false
  /-- The first reading of the steady clock. -/
  start : Option ℤ := none
  /-- The last reading of the steady clock. -/
  now : Option ℤ := none
  /-- The status code of the last navigation status. -/
  status : Option ℤ := none
  deriving DecidableEq

namespace Session

/-- The session is connected, and at the stage `stage`. -/
structure At (s : Session) (stage : Stage) : Prop where
  stage : s.stage = stage
  connected : s.connected = true
  closed : s.closed = false

/-- The session has waited long enough for the pause that the command line asks for, and the
navigation was last seen running. -/
def PauseDue (pause_after_seconds : Option ℚ) (s : Session) : Prop :=
  ∃ seconds start now, pause_after_seconds = some seconds ∧ s.start = some start ∧
    s.now = some now ∧ seconds ≤ FlexivAmr.seconds (now - start) ∧ s.status = some 2

/-- The steps of a session, when the command line asks for a pause after `pause_after_seconds`. -/
inductive Step (pause_after_seconds : Option ℚ) : Session → Action → Session → Prop
  | quiet (s) : Step _ s .quiet s
  | construct (s outcome) (hs : s = {}) : Step _ s (.construct outcome) s
  | connect (s) (hs : s = {}) : Step _ s (.connect (.ok ())) { s with connected := true }
  | connectFailed (s e) (hs : s = {}) : Step _ s (.connect (.error e)) s
  | inspect (s) (hs : s.At .preparing) : Step _ s .inspect s
  | start (s outcome) (hs : s.At .preparing) :
      Step _ s (.start outcome) { s with stage := .afterStart outcome }
  | clock (s resumed t) (hs : s.At (.navigating resumed)) :
      Step _ s (.clock t) { s with start := some (s.start.getD t), now := some t }
  | navigationStatus (s resumed code) (hs : s.At (.navigating resumed)) :
      Step _ s (.navigationStatus (.ok code)) { s with status := some code }
  | navigationStatusFailed (s resumed e) (hs : s.At (.navigating resumed)) :
      Step _ s (.navigationStatus (.error e)) { s with stage := .abandoned }
  | taskStatus (s resumed) (hs : s.At (.navigating resumed)) : Step _ s (.taskStatus (.ok ())) s
  | taskStatusFailed (s resumed e) (hs : s.At (.navigating resumed)) :
      Step _ s (.taskStatus (.error e)) { s with stage := .abandoned }
  | pause (s outcome) (hs : s.At (.navigating false)) (due : s.PauseDue pause_after_seconds) :
      Step _ s (.pause outcome) { s with stage := .orAbandoned .paused outcome }
  | resume (s outcome) (hs : s.At .paused) :
      Step _ s (.resume outcome) { s with stage := .orAbandoned (.navigating true) outcome }
  | settle (s resumed result code) (hs : s.At (.navigating resumed)) (status : s.status = some code)
      (verdict : result.terminal = some code) :
      Step _ s (.returned result) { s with stage := .settled result }
  | giveUp (s result) (hs : (∃ resumed, s.At (.navigating resumed)) ∨ s.At .paused)
      (verdict : result.terminal = none) :
      Step _ s (.returned result) { s with stage := .abandoned }
  | cancel (s outcome) (hs : s.At .abandoned) :
      Step _ s (.cancel outcome) { s with stage := .canceled }
  | disconnect (s outcome) (hs : s.At s.stage) (idle : s.stage.isIdle = true) :
      Step _ s (.disconnect outcome) { s with closed := true }

/-! ## What a step changes -/

/-- A session that gives up waiting has its navigation under way, or paused: there is no cancel yet,
and no verdict. -/
theorem exists_stage_of_waiting {s : Session}
    (hs : (∃ resumed, s.At (.navigating resumed)) ∨ s.At .paused) :
    ∃ stage, s.At stage ∧ stage.startOutcome = some (.ok true) ∧ stage.cancels = 0 ∧
      stage.isSettled = false := by
  rcases hs with ⟨resumed, hs⟩ | hs
  · exact ⟨.navigating resumed, hs, rfl, rfl, rfl⟩
  · exact ⟨.paused, hs, rfl, rfl, rfl⟩

namespace Step

variable {pause_after_seconds : Option ℚ} {s s' : Session} {a : Action}

/-- A quiet step leaves the session as it is. -/
theorem eq_of_quiet (h : Step pause_after_seconds s .quiet s') : s' = s := by
  cases h
  rfl

/-- The stage remembers the outcome of the one start request. -/
theorem startOutcome (h : Step pause_after_seconds s a s') :
    s'.stage.startOutcome.toList = s.stage.startOutcome.toList ++ a.startOutcome.toList := by
  cases h with
  | start outcome hs | pause outcome hs _ | resume outcome hs =>
    rw [hs.stage]
    rcases outcome with _ | _ | _ <;> rfl
  | settle _ _ _ hs | navigationStatusFailed _ _ hs | taskStatusFailed _ _ hs | cancel _ hs =>
    rw [hs.stage]
    rfl
  | giveUp _ hs =>
    obtain ⟨stage, hs, hstart, -, -⟩ := exists_stage_of_waiting hs
    rw [hs.stage, hstart]
    rfl
  | _ => exact (List.append_nil _).symm

/-- The stage counts the cancels. -/
theorem cancels (h : Step pause_after_seconds s a s') :
    s'.stage.cancels = s.stage.cancels + if a.isCancel then 1 else 0 := by
  cases h with
  | start outcome hs | pause outcome hs _ | resume outcome hs =>
    rw [hs.stage]
    rcases outcome with _ | _ | _ <;> rfl
  | settle _ _ _ hs | navigationStatusFailed _ _ hs | taskStatusFailed _ _ hs | cancel _ hs =>
    rw [hs.stage]
    rfl
  | giveUp _ hs =>
    obtain ⟨stage, hs, -, hcancels, -⟩ := exists_stage_of_waiting hs
    rw [hs.stage, hcancels]
    rfl
  | _ => rfl

/-- The stage remembers a verdict. -/
theorem isSettled (h : Step pause_after_seconds s a s') :
    s'.stage.isSettled = (s.stage.isSettled || a.isVerdict) := by
  cases h with
  | start outcome hs | pause outcome hs _ | resume outcome hs =>
    rw [hs.stage]
    rcases outcome with _ | _ | _ <;> rfl
  | navigationStatusFailed _ _ hs | taskStatusFailed _ _ hs | cancel _ hs =>
    rw [hs.stage]
    rfl
  | settle _ result _ hs _ hverdict =>
    rw [hs.stage, Action.isVerdict, hverdict]
    rfl
  | giveUp result hs hverdict =>
    obtain ⟨stage, hs, -, -, hsettled⟩ := exists_stage_of_waiting hs
    rw [hs.stage, hsettled, Action.isVerdict, hverdict]
    rfl
  | _ => exact (Bool.or_false _).symm

/-- The session knows whether it is connected. -/
theorem connected (h : Step pause_after_seconds s a s') :
    s'.connected = (s.connected || a.isConnection) := by
  cases h with
  | connect hs => exact (Bool.or_true _).symm
  | _ => exact (Bool.or_false _).symm

/-- The session counts its attempts to disconnect. -/
theorem closed (h : Step pause_after_seconds s a s') :
    s'.closed.toNat = s.closed.toNat + if a.isDisconnect then 1 else 0 := by
  cases h with
  | disconnect _ hs => rw [hs.closed]; rfl
  | _ => rfl

/-- No request follows the attempt to disconnect. -/
theorem closed_of_isRequest (h : Step pause_after_seconds s a s') (ha : a.isRequest = true) :
    s.closed = false := by
  cases h with
  | quiet | clock | settle | giveUp => exact Bool.noConfusion ha
  | construct _ hs | connect hs | connectFailed _ hs => rw [hs]
  | inspect hs | start _ hs | navigationStatus _ _ hs | navigationStatusFailed _ _ hs
  | taskStatus _ hs | taskStatusFailed _ _ hs | pause _ hs | resume _ hs | cancel _ hs
  | disconnect _ hs => exact hs.closed

/-- The session remembers the first reading of the steady clock. -/
theorem start_eq (h : Step pause_after_seconds s a s') : s'.start = s.start.or a.reading := by
  cases h with
  | clock _ t hs => cases hstart : s.start <;> rfl
  | _ => exact (Option.or_none).symm

/-- The session remembers the last reading of the steady clock. -/
theorem now_eq (h : Step pause_after_seconds s a s') : s'.now = a.reading.or s.now := by
  cases h <;> rfl

/-- The session remembers the last status code that it has read. -/
theorem status_eq (h : Step pause_after_seconds s a s') : s'.status = a.statusCode.or s.status := by
  cases h <;> rfl

end Step

end Session

/-- The protocol of a session over the program's events. -/
def session (pause_after_seconds : Option ℚ) : Protocol Op.Answer Session :=
  fun s e s' => Session.Step pause_after_seconds s (action e) s'

end FlexivAmr
