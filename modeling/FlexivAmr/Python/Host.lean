import FlexivAmr.Clock
import FlexivAmr.Host
import FlexivAmr.Interaction.Traces

/-!
# What the Python programs ask of their host

The calls of the programs under `example_py/`: requests to a `flexiv_amr.SeerAmrClient`, the global
`stop_requested` that the signal handler sets, `time.monotonic`, `time.time_ns`, and `time.sleep`.
The world around them is the `Host` of the C++ programs, whose clock counts nanoseconds;
`time.monotonic` and `time.sleep` count seconds, in a `float`, which is a `double`: the rational that
it stands for.
-/

namespace FlexivAmr.Python

open Interaction Program

/-- An `Exception`, by the class that the programs' handlers can tell apart. -/
inductive PyException
  /-- `flexiv_amr.AmrException`. -/
  | amrException (message : String)
  /-- `RuntimeError`, raised by the program itself. -/
  | runtimeError (message : String)
  /-- Any other `Exception`. -/
  | other (message : String)
  deriving DecidableEq

/-- The calls that a program makes, whose requests to the client are in `R`. -/
inductive Op (R : Type)
  /-- A request to the client. -/
  | client (request : R)
  /-- A reading of `stop_requested`. -/
  | stopRequested
  /-- `time.monotonic`, in seconds. -/
  | monotonic
  /-- `time.time_ns`. -/
  | timeNs
  /-- `time.sleep`, in seconds. -/
  | sleep (secs : ℚ)
  deriving DecidableEq

variable {R : Type} {Reply : R → Type} {α : Type}

/-- The answers to a program's calls. -/
abbrev Op.Answer (Reply : R → Type) : Op R → Type
  | .client request => Except PyException (Reply request)
  | .stopRequested => Bool
  | .monotonic => ℚ
  | .timeNs => ℤ
  | .sleep _ => Unit

/-- A clock's reading in seconds. Whole seconds are converted as they are. -/
def asSeconds (nanoseconds : ℤ) : ℚ :=
  if nanoseconds % 1000000000 = 0 then double (nanoseconds / 1000000000 : ℤ)
  else double (double nanoseconds / 1000000000)

/-- What the host allows as an answer: the stop flag and the clock as they are, any reading of the
system clock, and anything at all from the client. -/
def Allows (w : Host) : (op : Op R) → op.Answer Reply → Prop
  | .client _, _ => True
  | .stopRequested, b => b = w.stop_requested
  | .monotonic, t => t = asSeconds w.steady
  | .timeNs, _ | .sleep _, _ => True

/-- The environment of the Python programs in which time passes while the program sleeps, on a host
in range, up to `slack` nanoseconds: a reading of the clock may be off, and a sleep may end early, by
that much. -/
def punctualWithin (Reply : R → Type) (slack : ℤ) : Environment (Op.Answer Reply) HostInRange where
  answers w op a w' :=
    match op with
    | .sleep secs => w'.stop_requested = w.stop_requested ∧ w.steady ≤ w'.steady ∧
      w.steady + secs * 1000000000 ≤ w'.steady + slack
    | .monotonic =>
      (∃ t, (w.steady - slack ≤ t ∧ t ≤ w.steady + slack) ∧ a = asSeconds t) ∧ w' = w
    | op => Allows w.toHost op a ∧ w' = w
  moves w w' := Host.Moves w.toHost w'.toHost

/-- The environment that assumes nothing of the client. -/
def anyReply (Reply : R → Type) : Environment (Op.Answer Reply) Host where
  answers w op a w' := Allows w op a ∧ w' = w
  moves := Host.Moves

/-- What a trace shows of a call: a request, with its outcome. -/
def observed (e : Event (Op.Answer Reply)) : Option ((request : R) × Except PyException (Reply request)) :=
  match e with
  | ⟨.client request, outcome⟩ => some ⟨request, outcome⟩
  | _ => none

section Traces

variable {ε : Type} {w w' : Host} {t : List ((request : R) × Except PyException (Reply request))}

/-- A request may end in any way. -/
theorem traces_client {request : R} {outcome : Except PyException (Reply request)} :
    Traces (anyReply Reply) observed (.call (.client request)
        fun (outcome : Except PyException (Reply request)) => .ended outcome) w t outcome w' ↔
      t = [⟨request, outcome⟩] ∧ (anyReply Reply).Drifts w w' := by
  refine traces_call_ended.trans ⟨?_, ?_⟩
  · rintro ⟨w₁, a, w₂, hdrift, ⟨-, rfl⟩, hdrift', rfl, rfl⟩
    exact ⟨rfl, hdrift.trans hdrift'⟩
  · rintro ⟨rfl, hdrift⟩
    exact ⟨w, outcome, w, .refl, ⟨trivial, rfl⟩, hdrift, rfl, rfl⟩

/-- A reading of `stop_requested` shows nothing. -/
theorem traces_stopRequested {r : Except ε Bool} :
    Traces (anyReply Reply) observed (perform Op.stopRequested) w t r w' ↔
      ∃ w₁, (anyReply Reply).Drifts w w₁ ∧ (anyReply Reply).Drifts w₁ w' ∧
        r = .ok w₁.stop_requested ∧ t = [] := by
  refine traces_perform.trans ⟨?_, ?_⟩
  · rintro ⟨w₁, stop, w₂, hdrift, ⟨hstop, rfl⟩, hdrift', rfl, rfl⟩
    exact ⟨w₂, hdrift, hdrift', congrArg Except.ok hstop, rfl⟩
  · rintro ⟨w₁, hdrift, hdrift', rfl, rfl⟩
    exact ⟨w₁, _, w₁, hdrift, ⟨rfl, rfl⟩, hdrift', rfl, rfl⟩

/-- A sleep shows nothing. -/
theorem traces_sleep {secs : ℚ} {r : Except ε Unit} :
    Traces (anyReply Reply) observed (perform (Op.sleep secs)) w t r w' ↔
      r = .ok () ∧ t = [] ∧ (anyReply Reply).Drifts w w' := by
  refine traces_perform.trans ⟨?_, ?_⟩
  · rintro ⟨w₁, a, w₂, hdrift, ⟨-, rfl⟩, hdrift', rfl, rfl⟩
    exact ⟨rfl, rfl, hdrift.trans hdrift'⟩
  · rintro ⟨rfl, rfl, hdrift⟩
    exact ⟨w, (), w, .refl, ⟨trivial, rfl⟩, hdrift, rfl, rfl⟩

end Traces

end FlexivAmr.Python
