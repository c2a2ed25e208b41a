import FlexivAmr.Motion
import FlexivAmr.Sleep

/-!
# The AMR under open-loop motion

What the AMR does with the requests of the motion program (`seer_data.h`, `seer_amr.h`): an
open-loop command drives it for the duration of the command, or without end when that is zero, and a
stop request ends the motion. The program sees only the replies. A request that throws may have been
carried out or not, and a request takes time, in which the AMR carries it out at some moment.
-/

namespace FlexivAmr.Motion

open Interaction

/-- What the AMR's drives do. -/
inductive Drives
  | still
  /-- The AMR moves until a time of the steady clock. -/
  | movingUntil (time : ℤ)
  /-- The AMR moves until it is stopped. -/
  | moving
  deriving DecidableEq

/-- The host and the AMR. -/
structure Scene where
  host : Host
  drives : Drives
  deriving DecidableEq

/-- The AMR moves. -/
def Scene.Moving (w : Scene) : Prop :=
  match w.drives with
  | .still => False
  | .movingUntil time => w.host.steady < time
  | .moving => True

/-- What a command that arrives at the time `t` makes the drives do. A duration that is left out is
taken as one without end. -/
def SeerOpenLoopMotionCommand.drives (command : SeerOpenLoopMotionCommand) (t : ℤ) : Drives :=
  match command.duration with
  | none | some 0 => .moving
  | some duration => .movingUntil (t + duration * 1000000)

/-- What the drives do when the AMR has carried out a request at the time `t`. -/
def Request.carryOut (t : ℤ) (drives : Drives) : Request → Drives
  | .executeOpenLoopMotion command => command.drives t
  | .stopOpenLoopMotion => .still
  | .construct _ | .connect | .disconnect | .isConnected => drives

/-- The reply says that the AMR has carried out the request. -/
def Request.accepts : (request : Request) → request.Reply → Bool
  | .executeOpenLoopMotion _, accepted | .stopOpenLoopMotion, accepted => accepted
  | .construct _, _ | .connect, _ | .disconnect, _ | .isConnected, _ => true

/-- The AMR serves a request: it carries it out or it does not, as the reply says. An exception says
neither. -/
def Serves {ε : Type} (w : Scene) (request : Request) (outcome : Except ε request.Reply)
    (w' : Scene) : Prop :=
  w.host.Later w'.host ∧
    (((∃ t, w.host.steady ≤ t ∧ t ≤ w'.host.steady ∧ w'.drives = request.carryOut t w.drives) ∧
        ∀ reply, outcome = .ok reply → request.accepts reply = true) ∨
      (w'.drives = w.drives ∧ ∀ reply, outcome = .ok reply → request.accepts reply = false))

/-- The scene's own moves: those of the host, and the AMR coming to a halt by itself. -/
inductive Scene.Moves : Scene → Scene → Prop
  | host {w w' : Host} (drives : Drives) (h : Host.Moves w w') : Scene.Moves ⟨w, drives⟩ ⟨w', drives⟩
  | halt (w : Host) (drives : Drives) : Scene.Moves ⟨w, drives⟩ ⟨w, .still⟩

/-- The environment of the motion program: the AMR serves the requests, and sleeping takes time. -/
def scene : Environment (Call.Answer Request.Reply) Scene where
  answers w call a w' :=
    match call with
    | .ask request => Serves w request a w'
    | .stopRequested => a = w.host.stop_requested ∧ w' = w
    | .steadyNow => a = w.host.steady ∧ w' = w
    | .sleepFor duration =>
      w.host.Later w'.host ∧ w'.drives = w.drives ∧
        w.host.steady + duration * 1000000 ≤ w'.host.steady
  moves := Scene.Moves

/-- The AMR no longer moves at the time `t`. -/
def Drives.EndsBy (t : ℤ) : Drives → Prop
  | .still => True
  | .movingUntil time => time ≤ t
  | .moving => False

/-- The scene has moved on, and nothing has set the AMR in motion. -/
structure Scene.Later (w w' : Scene) : Prop where
  host : w.host.Later w'.host
  drives : w'.drives = w.drives ∨ w'.drives = .still

variable {ε : Type} {w w' : Scene} {t t' : ℤ}

/-- A motion that has ended stays ended. -/
theorem Drives.EndsBy.mono {drives : Drives} (h : drives.EndsBy t) (ht : t ≤ t') :
    drives.EndsBy t' := by
  cases drives with
  | still => exact trivial
  | movingUntil time => exact Int.le_trans h ht
  | moving => exact h.elim

/-- A motion that ends by some time still does in a later scene. -/
theorem Scene.Later.endsBy (hlater : w.Later w') (h : w.drives.EndsBy t) : w'.drives.EndsBy t := by
  rcases hlater.drives with hdrives | hdrives
  · rw [hdrives]
    exact h
  · rw [hdrives]
    exact trivial

/-- The AMR moves when its motion has not ended by now. -/
theorem Scene.moving_iff : w.Moving ↔ ¬ w.drives.EndsBy w.host.steady := by
  obtain ⟨host, drives⟩ := w
  cases drives with
  | still => exact iff_of_false id (not_not_intro trivial)
  | movingUntil time => exact Int.not_le.symm
  | moving => exact iff_of_true trivial id

/-- An AMR that stands still does not move. -/
theorem Scene.not_moving_of_still (h : w.drives = .still) : ¬ w.Moving := by
  unfold Moving
  rw [h]
  exact id

/-- An AMR that moves in a later scene has been moving. -/
theorem Scene.Later.moving (hlater : w.Later w') (h : w'.Moving) : w.Moving := by
  rw [Scene.moving_iff] at h ⊢
  intro hends
  exact h ((hlater.endsBy hends).mono hlater.host.steady)

/-- The scene's own moves set nothing in motion. -/
theorem Scene.Moves.later (hmove : Scene.Moves w w') : w.Later w' := by
  cases hmove with
  | host drives h => exact ⟨h.later, .inl rfl⟩
  | halt host drives => exact ⟨.refl host, .inr rfl⟩

section Serves

variable {request : Request} {outcome : Except ε request.Reply}

/-- Only a start request can set the AMR in motion. -/
theorem Serves.later (h : Serves w request outcome w')
    (hrequest : ∀ command, request ≠ .executeOpenLoopMotion command) : w.Later w' := by
  obtain ⟨hhost, ⟨⟨t, -, -, hdrives⟩, -⟩ | ⟨hdrives, -⟩⟩ := h
  · refine ⟨hhost, ?_⟩
    rw [hdrives]
    cases request with
    | executeOpenLoopMotion command => exact absurd rfl (hrequest command)
    | stopOpenLoopMotion => exact .inr rfl
    | _ => exact .inl rfl
  · exact ⟨hhost, .inl hdrives⟩

/-- A request that is refused sets nothing in motion. -/
theorem Serves.later_of_refused {reply : request.Reply}
    (h : Serves w request (.ok reply : Except ε request.Reply) w')
    (hrefused : request.accepts reply = false) : w.Later w' := by
  obtain ⟨hhost, ⟨-, haccepted⟩ | ⟨hdrives, -⟩⟩ := h
  · rw [haccepted reply rfl] at hrefused
    cases hrefused
  · exact ⟨hhost, .inl hdrives⟩

/-- A request that is accepted has been carried out before the reply. -/
theorem Serves.carriedOut {reply : request.Reply}
    (h : Serves w request (.ok reply : Except ε request.Reply) w')
    (haccepted : request.accepts reply = true) :
    ∃ t, t ≤ w'.host.steady ∧ w'.drives = request.carryOut t w.drives := by
  obtain ⟨-, ⟨⟨t, -, ht, hdrives⟩, -⟩ | ⟨-, hrefused⟩⟩ := h
  · exact ⟨t, ht, hdrives⟩
  · rw [hrefused reply rfl] at haccepted
    cases haccepted

/-- The AMR may carry out a request at once. -/
theorem serves_carryOut (h : ∀ reply, outcome = .ok reply → request.accepts reply = true) :
    Serves w request outcome ⟨w.host, request.carryOut w.host.steady w.drives⟩ :=
  ⟨.refl _, .inl ⟨⟨_, Int.le_refl _, Int.le_refl _, rfl⟩, h⟩⟩

/-- The AMR may leave a request undone. -/
theorem serves_refuse (h : ∀ reply, outcome = .ok reply → request.accepts reply = false) :
    Serves w request outcome w :=
  ⟨.refl _, .inr ⟨rfl, h⟩⟩

end Serves

end FlexivAmr.Motion
