import FlexivAmr.Control
import FlexivAmr.Interaction.Bound

/-!
# The stop signal

Once the stop flag is set, `main` is about to return, whatever the client answers: every point has
only so many calls left when all further readings of the flag find it set (`Point.callsLeft`), and
only so many requests (`Point.requestsLeft`). The bound does not depend on how long the navigation
was meant to take, and no clock is assumed to advance.
-/

namespace FlexivAmr

open Interaction

/-- A request to the client. -/
def isClient (e : Event Op.Answer) : Bool :=
  match e.1 with
  | .client _ => true
  | _ => false

namespace Point

/-- The calls that `main` has left at most once the flag is set. -/
def callsLeft : Point → ℕ
  | .construct => 8
  | .connect => 7
  | .isConnected => 6
  | .getEmergencyStatus => 5
  | .getBlockStatus => 3
  | .checkStop => 2
  | .build left _ => left + 8
  | .begin => 6
  | .loopStop _ _ => 5
  | .loopClock _ _ => 7
  | .getNavigationStatus _ _ => 6
  | .gapStop _ _ _ => 4
  | .getTaskStatus _ _ _ => 8
  | .elapsed _ _ _ => 7
  | .pauseNavigation _ => 6
  | .pauseStop _ => 4
  | .resumeNavigation _ => 7
  | .endStop => 4
  | .returned _ => 3
  | .cancelNavigation => 2
  | .disconnect _ => 1
  | .done _ => 0
  | .failed => 0
  | .sleep _ next => callsLeft next + 1
  | .doze _ next => callsLeft next + 2

/-- The requests that `main` has left at most once the flag is set. -/
def requestsLeft : Point → ℕ
  | .construct => 6
  | .connect => 5
  | .isConnected => 4
  | .getEmergencyStatus => 3
  | .getBlockStatus => 2
  | .checkStop => 1
  | .build _ _ => 3
  | .begin => 2
  | .loopStop _ _ => 2
  | .loopClock _ _ => 3
  | .getNavigationStatus _ _ => 3
  | .gapStop _ _ _ => 2
  | .getTaskStatus _ _ _ => 4
  | .elapsed _ _ _ => 3
  | .pauseNavigation _ => 3
  | .pauseStop _ => 2
  | .resumeNavigation _ => 3
  | .endStop => 2
  | .returned _ => 2
  | .cancelNavigation => 2
  | .disconnect _ => 1
  | .done _ => 0
  | .failed => 0
  | .sleep _ next => requestsLeft next
  | .doze _ next => requestsLeft next

/-- What the points of a run have in common: the loop of `BuildNavigationCommands` has no more to do
than there are targets, and nothing long follows a sleep. -/
def Regular (targets : ℕ) : Point → Prop
  | .build left _ => left ≤ targets
  | .sleep _ next | .doze _ next =>
    callsLeft next ≤ 6 ∧ requestsLeft next ≤ 2 ∧ Regular targets next
  | _ => True

variable {options : ExampleOptions} {p p' : Point} {e : Event Op.Answer} {targets : ℕ}

/-- A regular point has few calls left. -/
theorem callsLeft_le (hp : p.Regular targets) : p.callsLeft ≤ targets + 8 := by
  cases p with
  | build left readings => exact Nat.add_le_add_right hp 8
  | sleep remaining next | doze remaining next =>
    obtain ⟨hcalls, -, -⟩ := hp
    unfold callsLeft
    omega
  | _ => unfold callsLeft; omega

/-- A regular point has few requests left. -/
theorem requestsLeft_le (hp : p.Regular targets) : p.requestsLeft ≤ 6 := by
  cases p with
  | sleep remaining next | doze remaining next =>
    obtain ⟨-, hrequests, -⟩ := hp
    unfold requestsLeft
    omega
  | _ => unfold requestsLeft; omega

/-- The steps of the machine lead from regular points to regular points. -/
theorem Step.regular (hstep : Step options p e p')
    (hp : p.Regular options.target_ids.length) : p'.Regular options.target_ids.length := by
  cases hstep with
  | construct outcome | connect outcome | isConnected outcome | getBlockStatus outcome =>
    cases outcome <;> exact trivial
  | getEmergencyStatus outcome =>
    cases outcome with
    | error e => exact trivial
    | ok emergency =>
      simp only [orElse]
      split_ifs
      · exact trivial
      · exact ⟨by simp [callsLeft], by simp [requestsLeft], trivial⟩
  | checkStop stop =>
    cases stop with
    | true => exact trivial
    | false => exact Nat.le_refl _
  | build left readings now => exact Nat.le_of_succ_le hp
  | startFixed _ _ outcome | startSpecified _ _ outcome | pauseNavigation _ outcome
  | resumeNavigation _ outcome =>
    rcases outcome with e | _ | _
    · exact trivial
    · exact trivial
    · exact ⟨by simp [callsLeft], by simp [requestsLeft], trivial⟩
  | begin | cancelNavigation | disconnect | endStop => exact trivial
  | loopStop _ _ stop | gapStop _ _ _ stop | pauseStop _ stop => cases stop <;> exact trivial
  | loopClock start pause_exercised now =>
    unfold afterLoopClock
    split_ifs <;> exact trivial
  | getNavigationStatus start pause_exercised outcome =>
    cases outcome with
    | error e => exact trivial
    | ok navigation => exact ⟨by simp [callsLeft], by simp [requestsLeft], trivial⟩
  | getTaskStatus start pause_exercised navigation outcome =>
    cases outcome with
    | error e => exact trivial
    | ok task =>
      simp only [orElse, afterTask]
      split_ifs <;> exact trivial
  | elapsed start pause_exercised navigation now =>
    unfold afterElapsed
    split_ifs
    · exact trivial
    · exact ⟨by simp [callsLeft], by simp [requestsLeft], trivial⟩
  | returned result => cases result <;> exact trivial
  | sleepStop remaining next stop =>
    split_ifs
    · exact hp
    · exact hp.2.2
  | doze remaining next => exact hp

/-- With the flag set, each call of the machine is one call less, and each request one request
less. -/
theorem Step.left_lt (hstep : Step options p e p')
    (hstop : ∀ stop, e = ⟨.stopRequested, stop⟩ → stop = true) :
    p'.callsLeft < p.callsLeft ∧
      p'.requestsLeft + (if isClient e then 1 else 0) ≤ p.requestsLeft := by
  cases hstep with
  | construct outcome | connect outcome | isConnected outcome | getBlockStatus outcome
  | getNavigationStatus _ _ outcome =>
    cases outcome <;> simp [orElse, callsLeft, requestsLeft, isClient]
  | getEmergencyStatus outcome =>
    cases outcome with
    | error e => simp [orElse, callsLeft, requestsLeft, isClient]
    | ok emergency =>
      simp only [orElse]
      split_ifs <;> simp_all [callsLeft, requestsLeft, isClient]
  | startFixed _ _ outcome | startSpecified _ _ outcome | pauseNavigation _ outcome
  | resumeNavigation _ outcome =>
    rcases outcome with e | _ | _ <;>
      simp [orElse, ifAccepted, callsLeft, requestsLeft, isClient]
  | checkStop stop | loopStop _ _ stop | gapStop _ _ _ stop | pauseStop _ stop | endStop stop
  | sleepStop _ _ stop =>
    rw [hstop stop rfl]
    simp [callsLeft, requestsLeft, isClient]
  | begin | build | cancelNavigation | disconnect | doze =>
    simp [callsLeft, requestsLeft, isClient]
  | loopClock start pause_exercised now =>
    unfold afterLoopClock
    split_ifs <;> simp_all [callsLeft, requestsLeft, isClient]
  | getTaskStatus start pause_exercised navigation outcome =>
    cases outcome with
    | error e => simp [orElse, callsLeft, requestsLeft, isClient]
    | ok task =>
      simp only [orElse, afterTask]
      split_ifs <;> simp_all [callsLeft, requestsLeft, isClient]
  | elapsed start pause_exercised navigation now =>
    unfold afterElapsed
    split_ifs <;> simp_all [callsLeft, requestsLeft, isClient]
  | returned result => cases result <;> simp [afterReturn, callsLeft, requestsLeft, isClient]

/-- `main` starts at a regular point. -/
theorem regular_initial (stod : Stod) (argv : List String) :
    (initial stod argv).Regular targets := by
  unfold initial
  split_ifs
  · exact trivial
  · cases parseOptions stod argv <;> exact trivial

end Point

/-- From any point of a run at which the stop flag is set, `main` makes no more calls than it has
targets and eight, and no more than six requests. -/
theorem main_stops {stod : Stod} {argv : List String} {w : Host}
    {c c' : Config Op.Answer StdException Host ℤ} (hrun : Steps host ⟨main stod argv, w, []⟩ c)
    (hstop : c.world.stop_requested = true) (hrun' : Steps host c c') :
    c'.history.length ≤ c.history.length + ((commandLineOptions stod argv).target_ids.length + 8) ∧
      c'.history.countP isClient ≤ c.history.countP isClient + 6 := by
  obtain ⟨p, hregular, hc⟩ := @main_point Host host stod argv w c
    (fun p _ _ => p.Regular (commandLineOptions stod argv).target_ids.length)
    (Point.regular_initial stod argv) (fun _ _ _ _ _ _ _ hp hstep _ => hstep.regular hp)
    (fun _ _ _ _ hp _ => hp) hrun
  -- The flag stays set, so every reading of it finds it set.
  have hevent : ∀ (p : Point) (w : Host) (h : History) (op : Op) (a : op.Answer) (w' : Host)
      (p' : Point), w.stop_requested = true → machine (commandLineOptions stod argv) p ⟨op, a⟩ p' →
      host.answers w op a w' → w'.stop_requested = true ∧ p'.callsLeft < p.callsLeft ∧
        p'.requestsLeft + (if isClient ⟨op, a⟩ then 1 else 0) ≤ p.requestsLeft := by
    rintro p w h op a w' p' hw hstep ⟨hallows, rfl⟩
    refine ⟨hw, hstep.left_lt ?_⟩
    rintro stop ⟨⟩
    exact hallows.trans hw
  have hmove : ∀ (w w' : Host), w.stop_requested = true → host.moves w w' →
      w'.stop_requested = true := by
    intro w w' hw hmove
    cases hmove with
    | signalHandler => exact rfl
    | tick => exact hw
  have hcalls := Conforms.length_le (I := fun _ w _ => w.stop_requested = true)
    (fun p w h op a w' p' hw hstep answer =>
      (hevent p w h op a w' p' hw hstep answer).imp_right And.left)
    (fun p w h w' hw hm => ⟨hmove w w' hw hm, Nat.le_refl (p.callsLeft)⟩) hrun' hc hstop
  have hrequests := Conforms.countP_le (I := fun _ w _ => w.stop_requested = true) isClient
    (fun p w h op a w' p' hw hstep answer =>
      (hevent p w h op a w' p' hw hstep answer).imp_right And.right)
    (fun p w h w' hw hm => ⟨hmove w w' hw hm, Nat.le_refl (p.requestsLeft)⟩) hrun' hc hstop
  have hcallsLeft := Point.callsLeft_le hregular
  have hrequestsLeft := Point.requestsLeft_le hregular
  exact ⟨by omega, by omega⟩

/-! ## The signal that comes first -/

/-- In a world where the stop flag is set, `main` gets as far as the block status. -/
theorem stopped_run : ∃ w' h,
    Steps host ⟨main noStod oneTarget, ⟨true, 0⟩, []⟩ ⟨.ret 1, w', h⟩ ∧
      h.countP isClient = 6 := by
  have hstop : host.answers ⟨true, 0⟩ .stopRequested true ⟨true, 0⟩ := ⟨rfl, rfl⟩
  have hrun : CanEnd host (main noStod oneTarget)
      (fun r _ h => r = .ok 1 ∧ h.countP isClient = 6) ⟨true, 0⟩ [] := by
    refine .bind (client_canEnd (.construct _) (.ok ()) (host_answers _ _ _) ?_)
    refine .bind (.attempt (.bind (during_canEnd ?_)))
    refine client_canEnd .connect (.ok ()) (host_answers _ _ _) ?_
    refine .bind (during_canEnd (client_canEnd .isConnected (.ok true) (host_answers _ _ _) ?_))
    refine .bind (during_canEnd (client_canEnd .getEmergencyStatus (.ok {})
      (host_answers _ _ _) ?_))
    refine .bind (during_canEnd (.round (.call true hstop (.ret ?_))))
    refine .bind (during_canEnd (client_canEnd .getBlockStatus (.ok {}) (host_answers _ _ _) ?_))
    refine .bind (during_canEnd (.call true hstop (.ret (.raise ?_))))
    refine .bind (.attempt (client_canEnd .disconnect (.ok ()) (host_answers _ _ _) (.ret ?_)))
    exact ⟨rfl, rfl⟩
  obtain ⟨r, w', h, hsteps, rfl, hh⟩ := hrun
  exact ⟨w', h, hsteps, hh⟩

/-- The bounds, in that run. -/
theorem main_stops_stopped : ∃ w' h,
    Steps host ⟨main noStod oneTarget, ⟨true, 0⟩, []⟩ ⟨.ret 1, w', h⟩ ∧ h.length ≤ 9 ∧
      h.countP isClient = 6 := by
  obtain ⟨w', h, hrun, hh⟩ := stopped_run
  have htargets : (commandLineOptions noStod oneTarget).target_ids.length = 1 := rfl
  obtain ⟨hcalls, -⟩ := main_stops (c := ⟨main noStod oneTarget, ⟨true, 0⟩, []⟩) .refl rfl hrun
  rw [htargets, List.length_nil] at hcalls
  exact ⟨w', h, hrun, hcalls, hh⟩

end FlexivAmr
