import FlexivAmr.Timing
import Mathlib.Data.List.Chain

/-!
# The pace of the requests

The program keeps a distance between its requests: 150 milliseconds between two status requests and
after the start, 350 before each later round of status requests, and two seconds between the pause
and the resume. The environment `recorded` keeps a record of the
requests with the times at which they are made, and `main_paced` says that each keeps its distance
from the one before (`Spaced`). A signal ends every sleep, so only what is requested with the flag
unread may come early: that is `GetBlockStatus`.
-/

namespace FlexivAmr

open Interaction

/-- A request, with the time and the stop flag at which it is made. -/
structure Stamp where
  time : ℤ
  stop_requested : Bool
  request : Request

/-- The distance in milliseconds that the program keeps between a request and the one before it. -/
def gap (previous : Request) : Request → ℤ
  | .getBlockStatus | .getTaskStatus => 150
  | .getNavigationStatus =>
    match previous with
    | .executeFixedPathNavigation _ | .executeSpecifiedPathNavigation _ => 150
    | _ => 350
  | .resumeNavigation => 2000
  | _ => 0

/-- A request keeps its distance from the one before, but for a `GetBlockStatus` after a signal. -/
def Spaced (s s' : Stamp) : Prop :=
  (s'.request = .getBlockStatus ∧ s'.stop_requested = true) ∨
    s.time + gap s.request s'.request * 1000000 ≤ s'.time

/-- What a call adds to the record of requests. -/
def stamps (w : Host) : Op → List Stamp
  | .client request => [⟨w.steady, w.stop_requested, request⟩]
  | _ => []

/-- The environment where sleeping takes time, with a record of the requests, oldest first. -/
def recorded : Environment Op.Answer (Host × List Stamp) where
  answers w op a w' := punctual.answers w.1 op a w'.1 ∧ w'.2 = w.2 ++ stamps w.1 op
  moves w w' := Host.Moves w.1 w'.1 ∧ w'.2 = w.2

namespace Point

/-- The distance to the last request is kept by a request made now. -/
def Due (last : Option Stamp) (request : Request) (now : ℤ) : Prop :=
  ∀ s ∈ last, s.time + gap s.request request * 1000000 ≤ now

/-- What the clock says at a point about the last request: a sleep counts as slept, and where the
flag is read next, or the request is made whether it is set or not, it may be set instead. -/
def Paced (last : Option Stamp) (stop : Bool) : Point → (now : ℤ) → Prop
  | .sleep remaining next, now =>
    next.wakes = true ∧ Paced last stop next (now + max remaining 0 * 1000000)
  | .doze remaining next, now =>
    0 < remaining ∧ next.wakes = true ∧ Paced last stop next (now + remaining * 1000000)
  | .getBlockStatus, now => stop = true ∨ Due last .getBlockStatus now
  | .begin, now | .loopStop _ _, now => stop = true ∨ Due last .getNavigationStatus now
  | .loopClock _ _, now | .getNavigationStatus _ _, now => Due last .getNavigationStatus now
  | .gapStop _ _ _, now => stop = true ∨ Due last .getTaskStatus now
  | .getTaskStatus _ _ _, now => Due last .getTaskStatus now
  | .elapsed _ _ _, now => Due last .getNavigationStatus (now + kPollInterval * 1000000)
  | .pauseStop _, now => stop = true ∨ Due last .resumeNavigation now
  | .resumeNavigation _, now => Due last .resumeNavigation now
  | _, _ => True

variable {options : ExampleOptions} {p p' : Point} {last : Option Stamp} {request : Request}
  {stop stop' : Bool} {now now' : ℤ}

/-- A distance that is kept now is kept later. -/
theorem Due.mono (hdue : Due last request now) (hnow : now ≤ now') : Due last request now' :=
  fun s hs => (hdue s hs).trans hnow

/-- Time passes in favour, and so does a flag that is set. -/
theorem Paced.mono (hp : p.Paced last stop now) (hnow : now ≤ now')
    (hstop : stop = true → stop' = true) : p.Paced last stop' now' := by
  induction p generalizing now now' with
  | sleep remaining next ih =>
    obtain ⟨hwakes, hp⟩ := hp
    exact ⟨hwakes, ih hp (Int.add_le_add_right hnow _)⟩
  | doze remaining next ih =>
    obtain ⟨hremaining, hwakes, hp⟩ := hp
    exact ⟨hremaining, hwakes, ih hp (Int.add_le_add_right hnow _)⟩
  | getBlockStatus | begin | loopStop | gapStop | pauseStop =>
    exact hp.imp hstop fun hdue => hdue.mono hnow
  | loopClock | getNavigationStatus | getTaskStatus | resumeNavigation => exact Due.mono hp hnow
  | elapsed => exact Due.mono hp (Int.add_le_add_right hnow _)
  | _ => exact hp

/-- A sleep ends when its time has passed, or when the flag is set. -/
theorem Paced.wake {remaining : ℤ} (hp : (sleep remaining p).Paced last stop now)
    (hend : stop = true ∨ remaining ≤ 0) : p.Paced last stop now := by
  obtain ⟨hwakes, hp⟩ := hp
  rcases hend with hstop | hremaining
  · cases p with
    | getBlockStatus | begin | loopStop | gapStop | pauseStop => exact .inl hstop
    | _ => cases hwakes
  · rwa [max_eq_right hremaining, Int.zero_mul, Int.add_zero] at hp

/-- Between requests the clock keeps up with the last of them. -/
theorem Step.paced {op : Op} {a : op.Answer} {w w' : Host} (hstep : Step options p ⟨op, a⟩ p')
    (hquiet : isClient ⟨op, a⟩ = false) (answer : punctual.answers w op a w')
    (hp : p.Paced last w.stop_requested w.steady) :
    p'.Paced last w'.stop_requested w'.steady := by
  cases hstep with
  | sleepStop remaining next stop =>
    obtain ⟨hstop, rfl⟩ := answer
    split_ifs with hdoze
    · rw [Bool.and_eq_true, decide_eq_true_eq] at hdoze
      obtain ⟨hwakes, hp⟩ := hp
      rw [max_eq_left hdoze.2.le] at hp
      exact ⟨hdoze.2, hwakes, hp⟩
    · rw [Bool.and_eq_true, decide_eq_true_eq, not_and_or, Bool.not_eq_true', Bool.not_eq_false,
        not_lt, show stop = _ from hstop] at hdoze
      exact hp.wake hdoze
  | doze remaining next =>
    obtain ⟨hstop, hslept⟩ := answer
    obtain ⟨-, hwakes, hp⟩ := hp
    exact ⟨hwakes, hp.mono (by omega) (by rw [hstop]; exact id)⟩
  | checkStop stop =>
    cases stop <;> exact trivial
  | build => exact trivial
  | begin start =>
    obtain ⟨-, rfl⟩ := answer
    exact hp
  | loopStop start pause_exercised stop | gapStop start pause_exercised navigation stop
  | pauseStop start stop =>
    obtain ⟨hstop, rfl⟩ := answer
    cases stop with
    | true => exact trivial
    | false => exact hp.resolve_left (by rw [← hstop]; exact Bool.false_ne_true)
  | loopClock start pause_exercised now =>
    obtain ⟨-, rfl⟩ := answer
    unfold afterLoopClock
    split_ifs
    · exact hp
    · exact trivial
  | elapsed start pause_exercised navigation now =>
    obtain ⟨-, rfl⟩ := answer
    unfold afterElapsed
    split_ifs
    · exact trivial
    · exact ⟨rfl, .inr hp⟩
  | returned result => cases result <;> exact trivial
  | endStop => exact trivial
  | _ => cases hquiet

/-- The clock does not go back. -/
theorem Step.steady_le {op : Op} {a : op.Answer} {w w' : Host} (hstep : Step options p ⟨op, a⟩ p')
    (answer : punctual.answers w op a w') (hp : p.Paced last w.stop_requested w.steady) :
    w.steady ≤ w'.steady := by
  cases hstep with
  | doze remaining next =>
    obtain ⟨-, hslept⟩ := answer
    have hremaining := hp.1
    have hdoze : 0 ≤ dozeStep remaining := by
      unfold dozeStep kStep
      split_ifs <;> omega
    omega
  | _ =>
    obtain ⟨-, rfl⟩ := answer
    exact Int.le_refl _

/-- A request keeps its distance from the last one, and the next request its distance from it. -/
theorem Step.spaced {a : (Op.client request).Answer} {w : Host}
    (hstep : Step options p ⟨.client request, a⟩ p')
    (hp : p.Paced last w.stop_requested w.steady) (hlast : ∀ s ∈ last, s.time ≤ w.steady) :
    (∀ s ∈ last, Spaced s ⟨w.steady, w.stop_requested, request⟩) ∧
      p'.Paced (some ⟨w.steady, w.stop_requested, request⟩) w.stop_requested w.steady := by
  have hfree : (∀ previous, gap previous request = 0) →
      ∀ s ∈ last, Spaced s ⟨w.steady, w.stop_requested, request⟩ := by
    intro hgap s hs
    refine .inr ?_
    simpa only [hgap, Int.zero_mul, Int.add_zero] using hlast s hs
  have hafter : ∀ next : Request, Due (some ⟨w.steady, w.stop_requested, request⟩) next
      (w.steady + max (gap request next) 0 * 1000000) := by
    intro next s hs
    obtain rfl := Option.mem_some.1 hs
    have hle := Int.le_max_left (gap request next) 0
    dsimp only
    omega
  cases hstep with
  | construct outcome | connect outcome | isConnected outcome =>
    refine ⟨hfree fun _ => rfl, ?_⟩
    cases outcome <;> exact trivial
  | getEmergencyStatus outcome =>
    refine ⟨hfree fun _ => rfl, ?_⟩
    cases outcome with
    | error e => exact trivial
    | ok emergency =>
      simp only [orElse]
      split_ifs
      · exact trivial
      · exact ⟨rfl, .inr (hafter .getBlockStatus)⟩
  | getBlockStatus outcome =>
    refine ⟨fun s hs => ?_, ?_⟩
    · rcases hp with hstop | hdue
      · exact .inl ⟨rfl, hstop⟩
      · exact .inr (hdue s hs)
    · cases outcome <;> exact trivial
  | startFixed _ _ outcome | startSpecified _ _ outcome =>
    refine ⟨hfree fun _ => rfl, ?_⟩
    rcases outcome with e | _ | _
    · exact trivial
    · exact trivial
    · exact ⟨rfl, .inr (hafter .getNavigationStatus)⟩
  | getNavigationStatus start pause_exercised outcome =>
    refine ⟨fun s hs => .inr (hp s hs), ?_⟩
    cases outcome with
    | error e => exact trivial
    | ok navigation => exact ⟨rfl, .inr (hafter .getTaskStatus)⟩
  | getTaskStatus start pause_exercised navigation outcome =>
    refine ⟨fun s hs => .inr (hp s hs), ?_⟩
    cases outcome with
    | error e => exact trivial
    | ok task =>
      simp only [orElse, afterTask]
      split_ifs
      · exact trivial
      · exact trivial
      · exact trivial
      · exact hafter .getNavigationStatus
  | pauseNavigation start outcome =>
    refine ⟨hfree fun _ => rfl, ?_⟩
    rcases outcome with e | _ | _
    · exact trivial
    · exact trivial
    · exact ⟨rfl, .inr (hafter .resumeNavigation)⟩
  | resumeNavigation start outcome =>
    refine ⟨fun s hs => .inr (hp s hs), ?_⟩
    rcases outcome with e | _ | _
    · exact trivial
    · exact trivial
    · exact ⟨rfl, .inr (hafter .getNavigationStatus)⟩
  | cancelNavigation outcome | disconnect exit_code outcome =>
    exact ⟨hfree fun _ => rfl, trivial⟩

/-- No request has been made where `main` starts. -/
theorem paced_initial (stod : Stod) (argv : List String) :
    (initial stod argv).Paced none stop now := by
  unfold initial
  split_ifs
  · exact trivial
  · cases parseOptions stod argv <;> exact trivial

end Point

/-- What a run has in common at all its points: the record of requests keeps the distances, and the
next request will. -/
structure Keeps (p : Point) (w : Host × List Stamp) : Prop where
  chain : w.2.IsChain Spaced
  past : ∀ s ∈ w.2.getLast?, s.time ≤ w.1.steady
  paced : p.Paced w.2.getLast? w.1.stop_requested w.1.steady

/-- Every event keeps the distances. -/
theorem Keeps.event {options : ExampleOptions} {p p' : Point} {op : Op} {a : op.Answer}
    {w w' : Host × List Stamp} (hkeeps : Keeps p w) (hstep : p.Step options ⟨op, a⟩ p')
    (answer : recorded.answers w op a w') : Keeps p' w' := by
  obtain ⟨w, record⟩ := w
  obtain ⟨w', record'⟩ := w'
  obtain ⟨answer, hrecord⟩ := answer
  obtain ⟨hchain, hpast, hpaced⟩ := hkeeps
  cases hop : isClient ⟨op, a⟩ with
  | true =>
    cases op with
    | client request =>
      obtain ⟨-, rfl⟩ := answer
      obtain ⟨hspaced, hnext⟩ := hstep.spaced hpaced hpast
      obtain rfl : record' = record ++ [⟨w'.steady, w'.stop_requested, request⟩] := hrecord
      refine ⟨?_, ?_, ?_⟩
      · refine hchain.append (List.isChain_singleton _) ?_
        intro s hs s' hs'
        obtain rfl := Option.mem_some.1 hs'
        exact hspaced s hs
      · simp
      · simpa using hnext
    | _ => cases hop
  | false =>
    have hquiet : stamps w op = [] := by
      cases op with
      | client request => cases hop
      | _ => rfl
    rw [show record' = record ++ stamps w op from hrecord, hquiet, List.append_nil]
    exact ⟨hchain, fun s hs => (hpast s hs).trans (hstep.steady_le answer hpaced),
      hstep.paced hop answer hpaced⟩

/-- The host's moves keep the distances. -/
theorem Keeps.move {p : Point} {w w' : Host × List Stamp} (hkeeps : Keeps p w)
    (hmove : recorded.moves w w') : Keeps p w' := by
  obtain ⟨w, record⟩ := w
  obtain ⟨w', record'⟩ := w'
  obtain ⟨hmove, rfl⟩ := hmove
  obtain ⟨hchain, hpast, hpaced⟩ := hkeeps
  have hlater := Host.Moves.later hmove
  exact ⟨hchain, fun s hs => (hpast s hs).trans hlater.steady,
    hpaced.mono hlater.steady hlater.stop_requested⟩

/-- In every run of `main`, each request keeps its distance from the one before. -/
theorem main_paced {stod : Stod} {argv : List String} {w : Host}
    {c : Config Op.Answer StdException (Host × List Stamp) ℤ}
    (hrun : Steps recorded ⟨main stod argv, (w, []), []⟩ c) : c.world.2.IsChain Spaced := by
  obtain ⟨p, hkeeps, -⟩ := @main_point _ recorded stod argv (w, []) c (fun p w _ => Keeps p w)
    ⟨.nil, nofun, Point.paced_initial stod argv⟩
    (fun _ _ _ _ _ _ _ hkeeps hstep answer => hkeeps.event hstep answer)
    (fun _ _ _ _ hkeeps hmove => hkeeps.move hmove) hrun
  exact hkeeps.chain

/-! ## The record of a run -/

/-- A run can be recorded: the record grows by an entry for each request. -/
theorem exists_recorded {ε α : Type} {c c' : Config Op.Answer ε Host α} (hrun : Steps punctual c c')
    {record : List Stamp} (hrecord : record.length = c.history.countP isClient) :
    ∃ record' : List Stamp, record'.length = c'.history.countP isClient ∧
      Steps recorded ⟨c.program, (c.world, record), c.history⟩
        ⟨c'.program, (c'.world, record'), c'.history⟩ := by
  induction hrun with
  | refl => exact ⟨record, hrecord, .refl⟩
  | tail _ hstep ih =>
    obtain ⟨record', hlength, hrun'⟩ := ih
    cases hstep with
    | @call op next w w' h a answer =>
      refine ⟨record' ++ stamps w op, ?_, hrun'.tail (.call ⟨answer, rfl⟩)⟩
      rw [List.length_append, List.countP_append, List.countP_singleton, hlength]
      cases op <;> rfl
    | round => exact ⟨record', hlength, hrun'.tail .round⟩
    | move hmove => exact ⟨record', hlength, hrun'.tail (.move ⟨hmove, rfl⟩)⟩

/-- The distances, in the run whose first navigation status request throws. -/
theorem main_paced_failedPoll : ∃ w' record h,
    Steps recorded ⟨main noStod oneTarget, (⟨false, 0⟩, []), []⟩ ⟨.ret 1, (w', record), h⟩ ∧
      record.length = h.countP isClient ∧ h.countP isPoll = 1 ∧ record.IsChain Spaced := by
  obtain ⟨w', h, hrun, hpoll, -⟩ := failedPoll_run
  obtain ⟨record, hlength, hrecorded⟩ := @exists_recorded _ _ _ _ hrun [] rfl
  dsimp only at hrecorded
  have hchain := main_paced hrecorded
  exact ⟨w', record, h, hrecorded, hlength, hpoll, hchain⟩

end FlexivAmr
