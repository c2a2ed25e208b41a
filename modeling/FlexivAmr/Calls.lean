import FlexivAmr.Host
import FlexivAmr.Interaction.Protocol
import FlexivAmr.Interaction.Traces

/-!
# What the other examples ask of their host

The calls of the example programs beside the navigation program: requests, the stop flag, the steady
clock, and `std::this_thread::sleep_for`. What a program may request, and what it is told in reply,
is a parameter. Every request is answered with a reply or with a thrown exception. The world around
the programs is the `Host` of the navigation program.
-/

namespace FlexivAmr

open Interaction Program

/-- The calls that a program makes, whose requests are in `R`. -/
inductive Call (R : Type)
  | ask (request : R)
  /-- A reading of `g_stop_requested`. -/
  | stopRequested
  /-- `std::chrono::steady_clock::now`. -/
  | steadyNow
  /-- `std::this_thread::sleep_for`, in milliseconds. -/
  | sleepFor (duration : ℤ)
  deriving DecidableEq

namespace Call

variable {R : Type} {Reply : R → Type} {ε α : Type}

/-- The answers to a program's calls. -/
abbrev Answer (Reply : R → Type) : Call R → Type
  | .ask request => Except StdException (Reply request)
  | .stopRequested => Bool
  | .steadyNow => ℤ
  | .sleepFor _ => Unit

/-- A request, whose exception the program throws. -/
def make (request : R) : Program (Answer Reply) StdException (Reply request) :=
  .call (.ask request) fun (outcome : Except StdException (Reply request)) => .ended outcome

/-- A request conforms when the protocol can follow each of its outcomes. -/
theorem conforms_make {S : Type} {P : Protocol (Answer Reply) S} {request : R}
    {Q : Except StdException (Reply request) → S → Prop} {s : S} :
    Conforms P (make request) Q s ↔
      ∀ outcome : Except StdException (Reply request), ∃ s', P s ⟨.ask request, outcome⟩ s' ∧
        Q outcome s' :=
  forall_congr' fun _ => exists_congr fun s' => and_congr_right' (by rw [conforms_ended])

/-- A run of a request, by the choice of its outcome. -/
theorem canEnd_make {W : Type} {E : Environment (Answer Reply) W} {request : R} {w w' : W}
    {h : List (Event (Answer Reply))}
    {Q : Except StdException (Reply request) → W → List (Event (Answer Reply)) → Prop}
    (outcome : Except StdException (Reply request)) (answer : E.answers w (.ask request) outcome w')
    (hQ : Q outcome w' (h ++ [⟨.ask request, outcome⟩])) : CanEnd E (make request) Q w h :=
  .call outcome answer ⟨outcome, w', _, .refl, hQ⟩

/-- What the host allows as an answer: the stop flag and the steady clock as they are, and anything
at all in reply to a request. -/
def Allows (w : Host) : (call : Call R) → call.Answer Reply → Prop
  | .ask _, _ => True
  | .stopRequested, b => b = w.stop_requested
  | .steadyNow, t => t = w.steady
  | .sleepFor _, _ => True

/-- The environment that assumes nothing of what is requested. -/
def anyReply (Reply : R → Type) : Environment (Answer Reply) Host where
  answers w call a w' := Allows w call a ∧ w' = w
  moves := Host.Moves

/-- A request and how it has ended. -/
abbrev Made (Reply : R → Type) : Type := (request : R) × Except StdException (Reply request)

/-- The requests of a history, with their outcomes. -/
def made (h : List (Event (Answer Reply))) : List (Made Reply) :=
  h.filterMap fun
    | ⟨.ask request, outcome⟩ => some ⟨request, outcome⟩
    | _ => none

@[simp] theorem made_nil : made ([] : List (Event (Answer Reply))) = [] := rfl

/-- A history with one more request. -/
@[simp] theorem made_append_ask (h : List (Event (Answer Reply))) (request : R)
    (outcome : Except StdException (Reply request)) :
    made (h ++ [⟨.ask request, outcome⟩]) = made h ++ [⟨request, outcome⟩] :=
  List.filterMap_append

/-- A history with one more reading of the stop flag. -/
@[simp] theorem made_append_stopRequested (h : List (Event (Answer Reply))) (stop : Bool) :
    made (h ++ [⟨.stopRequested, stop⟩]) = made h :=
  List.filterMap_append.trans (List.append_nil _)

/-- A history with one more reading of the clock. -/
@[simp] theorem made_append_steadyNow (h : List (Event (Answer Reply))) (now : ℤ) :
    made (h ++ [⟨.steadyNow, now⟩]) = made h :=
  List.filterMap_append.trans (List.append_nil _)

/-- A history with one more sleep. -/
@[simp] theorem made_append_sleepFor (h : List (Event (Answer Reply))) (duration : ℤ) :
    made (h ++ [⟨.sleepFor duration, ()⟩]) = made h :=
  List.filterMap_append.trans (List.append_nil _)

/-! ## Traces -/

/-- What a trace shows of a call: a request, with its outcome. -/
def observed (e : Event (Answer Reply)) : Option (Made Reply) :=
  match e with
  | ⟨.ask request, outcome⟩ => some ⟨request, outcome⟩
  | _ => none

variable {w w' : Host} {t : List (Made Reply)}

/-- A request may end in any way. -/
theorem traces_make {request : R} {outcome : Except StdException (Reply request)} :
    Traces (anyReply Reply) observed (make request) w t outcome w' ↔
      t = [⟨request, outcome⟩] ∧ (anyReply Reply).Drifts w w' := by
  refine traces_call_ended.trans ⟨?_, ?_⟩
  · rintro ⟨w₁, a, w₂, hdrift, ⟨-, rfl⟩, hdrift', rfl, rfl⟩
    exact ⟨rfl, hdrift.trans hdrift'⟩
  · rintro ⟨rfl, hdrift⟩
    exact ⟨w, outcome, w, .refl, ⟨trivial, rfl⟩, hdrift, rfl, rfl⟩

/-- A reading of the stop flag shows nothing. -/
theorem traces_stopRequested {r : Except ε Bool} :
    Traces (anyReply Reply) observed (perform Call.stopRequested) w t r w' ↔
      ∃ w₁, (anyReply Reply).Drifts w w₁ ∧ (anyReply Reply).Drifts w₁ w' ∧
        r = .ok w₁.stop_requested ∧ t = [] := by
  refine traces_perform.trans ⟨?_, ?_⟩
  · rintro ⟨w₁, stop, w₂, hdrift, ⟨hstop, rfl⟩, hdrift', rfl, rfl⟩
    exact ⟨w₂, hdrift, hdrift', congrArg Except.ok hstop, rfl⟩
  · rintro ⟨w₁, hdrift, hdrift', rfl, rfl⟩
    exact ⟨w₁, _, w₁, hdrift, ⟨rfl, rfl⟩, hdrift', rfl, rfl⟩

/-- A sleep shows nothing. -/
theorem traces_sleepFor {duration : ℤ} {r : Except ε Unit} :
    Traces (anyReply Reply) observed (perform (Call.sleepFor duration)) w t r w' ↔
      r = .ok () ∧ t = [] ∧ (anyReply Reply).Drifts w w' := by
  refine traces_perform.trans ⟨?_, ?_⟩
  · rintro ⟨w₁, a, w₂, hdrift, ⟨-, rfl⟩, hdrift', rfl, rfl⟩
    exact ⟨rfl, rfl, hdrift.trans hdrift'⟩
  · rintro ⟨rfl, rfl, hdrift⟩
    exact ⟨w, (), w, .refl, ⟨trivial, rfl⟩, hdrift, rfl, rfl⟩

end Call

end FlexivAmr
