import FlexivAmr.Data
import FlexivAmr.Interaction.Protocol

/-!
# What the navigation program asks of its host

The program's calls (`Op`): the requests to a `SeerAmrClient`, the stop flag that the signal handler
sets, the two clocks, and `std::this_thread::sleep_for`. Each request is answered with a reply or
with a thrown exception, `Except StdException`. The calls are answered by an `Environment`; `host`
is the one that assumes nothing of the client.

Clock readings are in nanoseconds. Log lines have no effect on the program and are left out, but for
the `std::optional::value` calls in their arguments, which can throw.
-/

namespace FlexivAmr

open Interaction

/-- `NavigationResult`: what `WaitForNavigation` returns. -/
inductive NavigationResult
  | kCompleted
  | kFailed
  | kCanceled
  | kInterrupted
  | kTimedOut
  deriving DecidableEq

/-- The requests of `SeerAmrClient` that the navigation program makes. -/
inductive Request
  /-- The constructor. -/
  | construct (options : SeerAmrOptions)
  | connect
  | disconnect
  | isConnected
  | getBlockStatus
  | getEmergencyStatus
  | getNavigationStatus
  | getTaskStatus
  | executeFixedPathNavigation (command : SeerPathNaviCommand)
  | executeSpecifiedPathNavigation (commands : List SeerPathNaviCommand)
  | pauseNavigation
  | resumeNavigation
  | cancelNavigation
  deriving DecidableEq

/-- What a request returns when it does not throw. -/
abbrev Request.Reply : Request → Type
  | .construct _ | .connect | .disconnect => Unit
  | .isConnected => Bool
  | .getBlockStatus => SeerBlockStatus
  | .getEmergencyStatus => SeerEmergencyStatus
  | .getNavigationStatus => SeerNavigationStatus
  | .getTaskStatus => SeerTaskStatus
  | .executeFixedPathNavigation _ | .executeSpecifiedPathNavigation _ => Bool
  | .pauseNavigation | .resumeNavigation | .cancelNavigation => Bool

/-- The calls that the program makes. -/
inductive Op
  /-- A request to the client. -/
  | client (request : Request)
  /-- A reading of `g_stop_requested`. -/
  | stopRequested
  /-- `std::chrono::steady_clock::now`. -/
  | steadyNow
  /-- `std::chrono::system_clock::now`. -/
  | systemNow
  /-- `std::this_thread::sleep_for`, in milliseconds. -/
  | sleepFor (duration : ℤ)
  /-- No call of the source: the mark that `WaitForNavigation` has returned. -/
  | returned (result : NavigationResult)
  deriving DecidableEq

/-- The answers to the program's calls. -/
abbrev Op.Answer : Op → Type
  | .client request => Except StdException request.Reply
  | .stopRequested => Bool
  | .steadyNow | .systemNow => ℤ
  | .sleepFor _ | .returned _ => Unit

/-- A program of the host, with exceptions in `ε`. -/
abbrev HostProgram (ε : Type) : Type → Type 1 := Program Op.Answer ε

/-- The calls and answers of a run, oldest first. -/
abbrev History : Type := List (Event Op.Answer)

variable {α : Type}

/-- A request to the client, whose exception the program throws. -/
def client (request : Request) : HostProgram StdException request.Reply :=
  .call (.client request) fun (outcome : Except StdException request.Reply) => .ended outcome

/-- `std::optional::value`. -/
def value : Option α → HostProgram StdException α
  | some a => .ret a
  | none => .raise .bad_optional_access

/-- The host's own part of the world. -/
structure Host where
  /-- `g_stop_requested`. -/
  stop_requested : Bool
  /-- The steady clock. -/
  steady : ℤ
  deriving DecidableEq

/-- The host's moves: `SignalHandler` sets the stop flag, and time passes on the steady clock. -/
inductive Host.Moves : Host → Host → Prop
  | signalHandler (w : Host) : Host.Moves w { w with stop_requested := true }
  | tick (w : Host) (t : ℤ) (ht : w.steady ≤ t) : Host.Moves w { w with steady := t }

/-- What the host allows as an answer: the stop flag and the steady clock as they are, any reading
of the system clock, and anything at all from the client. -/
def Host.Allows (w : Host) : (op : Op) → op.Answer → Prop
  | .client _, _ => True
  | .stopRequested, b => b = w.stop_requested
  | .steadyNow, t => t = w.steady
  -- The system clock may be set back at any time, so it is not part of the host's state.
  | .systemNow, _ | .sleepFor _, _ | .returned _, _ => True

/-- The environment that assumes nothing of the client: every request may return any value or throw
any exception. The stop flag may become set at any step, and stays set. The steady clock never goes
backwards. -/
def host : Environment Op.Answer Host where
  answers w op a w' := w.Allows op a ∧ w' = w
  moves := Host.Moves

/-- The environment in which time passes while the program sleeps: `sleep_for` returns when the
steady clock has advanced by its duration, or later. All else is as for `host`. -/
def punctual : Environment Op.Answer Host where
  answers w op a w' :=
    match op with
    | .sleepFor duration =>
      w'.stop_requested = w.stop_requested ∧ w.steady + duration * 1000000 ≤ w'.steady
    | op => w.Allows op a ∧ w' = w
  moves := Host.Moves

/-- 46 days, in nanoseconds: up to there, the `double` nearest to a time is less than half a
nanosecond away from it. -/
def clockLimit : ℤ := 4000000000000000

/-- A host whose steady clock reads at most `clockLimit`. -/
structure HostInRange extends Host where
  in_range : 0 ≤ steady ∧ steady ≤ clockLimit

/-- `punctual` up to `slack` nanoseconds, on a host in range: a reading of the steady clock may be
off, and a sleep may end early, by that much. -/
def punctualWithin (slack : ℤ) : Environment Op.Answer HostInRange where
  answers w op a w' :=
    match op with
    | .sleepFor duration => w'.stop_requested = w.stop_requested ∧ w.steady ≤ w'.steady ∧
      w.steady + duration * 1000000 ≤ w'.steady + slack
    | .steadyNow => (w.steady - slack ≤ a ∧ a ≤ w.steady + slack) ∧ w' = w
    | op => w.Allows op a ∧ w' = w
  moves w w' := Host.Moves w.toHost w'.toHost

end FlexivAmr
