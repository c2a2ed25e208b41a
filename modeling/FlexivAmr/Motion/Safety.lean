import FlexivAmr.Motion.Drives

/-!
# What the motion program leaves behind

When `main` returns, the AMR stands still, but for two kinds of runs (`LeavesMoving`): the AMR has
started and the reply to the start request was lost, or the signal has cut the motion short and
neither stop request was acknowledged. These are all the ways, and each of them is possible
(`main_leavesMoving_iff`).

Where the motion runs its full time there is no third way: the wait ends when the clock has passed
the deadline, which is later than the moment at which the AMR ends the motion by itself.
-/

namespace FlexivAmr.Motion

open Interaction Program Call

/-- The requests before the start of the motion. -/
def beforeStart (amr_ip : String) (is_connected : Bool) : List (Made Request.Reply) :=
  [⟨.construct { host := amr_ip, auto_connect := false }, .ok ()⟩, ⟨.connect, .ok ()⟩,
    ⟨.isConnected, .ok is_connected⟩]

/-- The requests of a motion that has been started. -/
def started (amr_ip : String) (is_connected : Bool) : List (Made Request.Reply) :=
  beforeStart amr_ip is_connected ++ [⟨.executeOpenLoopMotion command, .ok true⟩]

/-- The runs of `main` that leave the AMR moving, by their requests and by the stop flag at their
end. -/
inductive LeavesMoving (amr_ip : String) : Bool → List (Made Request.Reply) → Prop
  /-- The reply to the start request is lost, and `main` knows of no motion to stop. -/
  | startLost (stop is_connected : Bool) (e : StdException) (last : Except StdException Unit) :
    LeavesMoving _ stop (beforeStart amr_ip is_connected ++
      [⟨.executeOpenLoopMotion command, .error e⟩, ⟨.disconnect, last⟩])
  /-- The signal comes before the end of the motion, and no stop request is acknowledged. -/
  | notStopped (is_connected : Bool) (first second : Except StdException Bool)
      (last : Except StdException Unit) (hfirst : first ≠ .ok true) (hsecond : second ≠ .ok true) :
    LeavesMoving _ true (started amr_ip is_connected ++ [⟨.stopOpenLoopMotion, first⟩,
      ⟨.stopOpenLoopMotion, second⟩, ⟨.disconnect, last⟩])

namespace Point

/-- The motion is over, or the signal has come. -/
def Due (w : Scene) : Prop := w.host.stop_requested = true ∨ w.drives.EndsBy w.host.steady

/-- What is known at a point of the AMR and of the requests so far. -/
def Facts (amr_ip : String) (w : Scene) (t : List (Made Request.Reply)) : Point → Prop
  | .construct => w.drives = .still ∧ t = []
  | .connect => w.drives = .still ∧
    t = [⟨.construct { host := amr_ip, auto_connect := false }, .ok ()⟩]
  | .isConnected => w.drives = .still ∧
    t = [⟨.construct { host := amr_ip, auto_connect := false }, .ok ()⟩, ⟨.connect, .ok ()⟩]
  | .execute => w.drives = .still ∧ ∃ is_connected, t = beforeStart amr_ip is_connected
  | .begin => w.drives.EndsBy (w.host.steady + kMotionDurationMs * 1000000) ∧
    ∃ is_connected, t = started amr_ip is_connected
  | .flag deadline | .clock deadline | .doze deadline =>
    w.drives.EndsBy deadline ∧ ∃ is_connected, t = started amr_ip is_connected
  | .stop => Due w ∧ ∃ is_connected, t = started amr_ip is_connected
  | .stopAgain => Due w ∧ ∃ is_connected first, first ≠ .ok true ∧
    t = started amr_ip is_connected ++ [⟨.stopOpenLoopMotion, first⟩]
  | .disconnect | .failed => w.drives = .still
  | .disconnectAgain => w.Moving → ∀ last : Except StdException Unit,
    LeavesMoving amr_ip w.host.stop_requested (t ++ [⟨.disconnect, last⟩])
  | .done exit_code => w.Moving → exit_code = 1 ∧ LeavesMoving amr_ip w.host.stop_requested t

variable {amr_ip : String} {w w' : Scene} {t : List (Made Request.Reply)} {p p' : Point}

/-- The stop flag may become set. -/
theorem leavesMoving_later (h : LeavesMoving amr_ip w.host.stop_requested t)
    (hlater : w.Later w') : LeavesMoving amr_ip w'.host.stop_requested t := by
  generalize hstop : w.host.stop_requested = stop at h
  cases h with
  | startLost => exact .startLost _ _ _ _
  | notStopped is_connected first second last hfirst hsecond =>
    rw [hlater.host.stop_requested hstop]
    exact .notStopped _ _ _ _ hfirst hsecond

/-- An AMR that stands still does so in a later scene. -/
theorem still_later (h : w.drives = .still) (hlater : w.Later w') : w'.drives = .still := by
  rcases hlater.drives with hdrives | hdrives
  · exact hdrives.trans h
  · exact hdrives

/-- What was due is due in a later scene. -/
theorem Due.later (h : Due w) (hlater : w.Later w') : Due w' := by
  rcases h with hstop | hends
  · exact .inl (hlater.host.stop_requested hstop)
  · exact .inr ((hlater.endsBy hends).mono hlater.host.steady)

/-- What is known at a point is known in a later scene. -/
theorem Facts.later (hp : p.Facts amr_ip w t) (hlater : w.Later w') : p.Facts amr_ip w' t := by
  cases p with
  | construct | connect | isConnected | execute => exact ⟨still_later hp.1 hlater, hp.2⟩
  | disconnect | failed => exact still_later hp hlater
  | begin =>
    refine ⟨(hlater.endsBy hp.1).mono ?_, hp.2⟩
    have hle := hlater.host.steady
    omega
  | flag | clock | doze => exact ⟨hlater.endsBy hp.1, hp.2⟩
  | stop | stopAgain => exact ⟨hp.1.later hlater, hp.2⟩
  | disconnectAgain =>
    intro hmoving last
    exact leavesMoving_later (hp (hlater.moving hmoving) last) hlater
  | done exit_code =>
    intro hmoving
    obtain ⟨hcode, hleaves⟩ := hp (hlater.moving hmoving)
    exact ⟨hcode, leavesMoving_later hleaves hlater⟩

/-- An AMR that stands still may be left. -/
theorem facts_disconnectAgain (h : w.drives = .still) : Facts amr_ip w t .disconnectAgain :=
  fun hmoving => absurd hmoving (Scene.not_moving_of_still h)

/-- The steps of the machine keep what is known. -/
theorem Step.facts {h : List (Event (Call.Answer Request.Reply))} {call : Call Request}
    {a : call.Answer Request.Reply} (hp : p.Facts amr_ip w (made h))
    (hstep : p.Step amr_ip ⟨call, a⟩ p') (answer : scene.answers w call a w') :
    p'.Facts amr_ip w' (made (h ++ [⟨call, a⟩])) := by
  cases hstep with
  | construct outcome =>
    have hlater := Serves.later answer (by intro command hcommand; cases hcommand)
    obtain ⟨hstill, hmade⟩ := hp.later hlater
    rw [made_append_ask, hmade]
    cases outcome with
    | error e => exact hstill
    | ok _ => exact ⟨hstill, rfl⟩
  | connect outcome =>
    have hlater := Serves.later answer (by intro command hcommand; cases hcommand)
    obtain ⟨hstill, hmade⟩ := hp.later hlater
    rw [made_append_ask, hmade]
    cases outcome with
    | error e => exact facts_disconnectAgain hstill
    | ok _ => exact ⟨hstill, rfl⟩
  | isConnected outcome =>
    have hlater := Serves.later answer (by intro command hcommand; cases hcommand)
    obtain ⟨hstill, hmade⟩ := hp.later hlater
    rw [made_append_ask, hmade]
    cases outcome with
    | error e => exact facts_disconnectAgain hstill
    | ok is_connected => exact ⟨hstill, is_connected, rfl⟩
  | execute outcome =>
    rw [made_append_ask]
    obtain ⟨hstill, is_connected, hmade⟩ := hp
    rw [hmade]
    rcases outcome with e | _ | _
    · intro _ last
      rw [List.append_assoc]
      exact .startLost _ _ _ _
    · have hlater := Serves.later_of_refused answer rfl
      exact facts_disconnectAgain (still_later hstill hlater)
    · obtain ⟨time, htime, hdrives⟩ := Serves.carriedOut answer rfl
      refine ⟨?_, is_connected, rfl⟩
      rw [hdrives]
      exact Int.add_le_add_right htime _
  | begin now =>
    obtain ⟨hnow, rfl⟩ := answer
    rw [made_append_steadyNow, show now = _ from hnow]
    exact hp
  | flag deadline stop =>
    obtain ⟨hstop, rfl⟩ := answer
    rw [made_append_stopRequested]
    cases stop with
    | true => exact ⟨.inl hstop.symm, hp.2⟩
    | false => exact hp
  | clock deadline now =>
    obtain ⟨hnow, rfl⟩ := answer
    rw [made_append_steadyNow]
    split_ifs with hwaiting
    · exact hp
    · refine ⟨.inr (hp.1.mono ?_), hp.2⟩
      rw [← show now = _ from hnow]
      exact Int.not_lt.1 hwaiting
  | doze deadline =>
    obtain ⟨hhost, hdrives, -⟩ := answer
    rw [made_append_sleepFor]
    exact hp.later ⟨hhost, .inl hdrives⟩
  | stop outcome =>
    have hlater := Serves.later answer (by intro command hcommand; cases hcommand)
    obtain ⟨hdue, is_connected, hmade⟩ := hp.later hlater
    rw [made_append_ask, hmade]
    rcases outcome with e | _ | _
    · exact ⟨hdue, is_connected, _, by simp, rfl⟩
    · exact ⟨hdue, is_connected, _, by simp, rfl⟩
    · obtain ⟨time, -, hdrives⟩ := Serves.carriedOut answer rfl
      exact hdrives
  | disconnect outcome =>
    have hlater := Serves.later answer (by intro command hcommand; cases hcommand)
    have hstill : w'.drives = .still := hp.later hlater
    cases outcome with
    | error e => exact facts_disconnectAgain hstill
    | ok _ => exact fun hmoving => absurd hmoving (Scene.not_moving_of_still hstill)
  | stopAgain outcome =>
    have hlater := Serves.later answer (by intro command hcommand; cases hcommand)
    obtain ⟨hdue, is_connected, first, hfirst, hmade⟩ := hp.later hlater
    intro hmoving last
    -- An AMR that moves has not been stopped, and its motion is not over.
    have hsecond : outcome ≠ .ok true := by
      rintro rfl
      obtain ⟨time, -, hdrives⟩ := Serves.carriedOut answer rfl
      exact Scene.not_moving_of_still hdrives hmoving
    have hstop := hdue.resolve_right (Scene.moving_iff.1 hmoving)
    rw [made_append_ask, hmade, hstop, List.append_assoc, List.append_assoc]
    exact .notStopped _ _ _ _ hfirst hsecond
  | disconnectAgain outcome =>
    have hlater := Serves.later answer (by intro command hcommand; cases hcommand)
    intro hmoving
    rw [made_append_ask]
    exact ⟨rfl, hp.later hlater hmoving outcome⟩

/-- Nothing has happened where `main` starts. -/
theorem facts_initial (argv : List String) (hstill : w.drives = .still) :
    (initial argv).Facts amr_ip w [] := by
  unfold initial
  split
  · exact ⟨hstill, rfl⟩
  · exact fun hmoving => absurd hmoving (Scene.not_moving_of_still hstill)

end Point

variable {argv : List String} {amr_ip program : String} {rest : List String} {time : ℤ}
  {stop : Bool} {t : List (Made Request.Reply)} {r : Except StdException ℤ} {w w' : Scene}
  {h : History}

/-- A run of `main` that leaves the AMR moving is one of those in `LeavesMoving`. -/
theorem leavesMoving_of_steps (hstill : w.drives = .still)
    (hrun : Steps scene ⟨main argv, w, []⟩ ⟨.ended r, w', h⟩) (hmoving : w'.Moving) :
    r = .ok 1 ∧ LeavesMoving (address argv) w'.host.stop_requested (made h) := by
  obtain ⟨p, hp, hend⟩ := Conforms.invariant
    (J := fun (p : Point) w h => p.Facts (address argv) w (made h))
    (fun p w h call a w' p' hp hstep answer => Point.Step.facts hp hstep answer)
    (fun p w h w' hp hmove => hp.later hmove.later)
    hrun (main_follows argv) (Point.facts_initial argv hstill)
  rw [conforms_ended] at hend
  cases r with
  | ok exit_code =>
    obtain rfl : p = .done exit_code := hend
    obtain ⟨rfl, hleaves⟩ := hp hmoving
    exact ⟨rfl, hleaves⟩
  | error e =>
    obtain rfl : p = .failed := hend
    exact absurd hmoving (Scene.not_moving_of_still hp)

/-- A run that leaves the AMR moving has made requests. -/
theorem not_leavesMoving_nil : ¬ LeavesMoving amr_ip stop [] := by
  intro h
  cases h

/-- Without an address on the command line, `main` makes no call. -/
theorem history_eq_nil_of_usage (hargv : Point.initial argv = .done 1)
    (hrun : Steps scene ⟨main argv, w, []⟩ ⟨.ended r, w', h⟩) : h = [] := by
  have hfollows := main_follows argv
  rw [hargv] at hfollows
  obtain ⟨p, ⟨-, hnil⟩, -⟩ := Conforms.invariant
    (J := fun (p : Point) _ h => p = .done 1 ∧ h = [])
    (fun p w h call a w' p' hp hstep _ => by
      obtain ⟨rfl, -⟩ := hp
      cases hstep)
    (fun p w h w' hp _ => hp) hrun hfollows ⟨rfl, rfl⟩
  exact hnil

/-! ## Runs that leave the AMR moving -/

/-- A request that the AMR carries out as it is. -/
theorem serves_idle {ε : Type} {request : Request} {reply : request.Reply}
    (hcarryOut : request.carryOut w.host.steady w.drives = w.drives)
    (haccepts : request.accepts reply = true) :
    Serves w request (.ok reply : Except ε request.Reply) w := by
  have hserves : Serves w request (.ok reply : Except ε request.Reply)
      ⟨w.host, request.carryOut w.host.steady w.drives⟩ := by
    refine serves_carryOut ?_
    rintro _ ⟨⟩
    exact haccepts
  rwa [hcarryOut] at hserves

/-- A run of the `try` block that begins with a request that returns. -/
theorem reply_canEnd {α : Type} {motion_started : Bool} {request : Request}
    {f : request.Reply → MotionProgram Thrown α} {Q : Except Thrown α → Scene → History → Prop}
    (reply : request.Reply) (answer : Serves w request (.ok reply : Except StdException _) w')
    (hnext : CanEnd scene (f reply) Q w' (h ++ [⟨.ask request, .ok reply⟩])) :
    CanEnd scene ((during motion_started (client request)).bind f) Q w h :=
  .bind (.mapError (canEnd_make (.ok reply) answer hnext))

/-- The cleanup's last request, however it ends. -/
theorem disconnect_canEnd {Q : Except StdException ℤ → Scene → History → Prop}
    (last : Except StdException Unit) (hQ : Q (.ok 1) w (h ++ [⟨.ask .disconnect, last⟩])) :
    CanEnd scene (cleanup false) Q w h :=
  .bind (.attempt (canEnd_make last (serves_carryOut fun _ _ => rfl) (.ret hQ)))

/-- The reply to the start request may be lost. -/
theorem startLost_canEnd {is_connected : Bool} {e : StdException} {last : Except StdException Unit} :
    CanEnd scene (main (program :: amr_ip :: rest))
      (fun r w' h => r = .ok 1 ∧ w'.Moving ∧ w'.host.stop_requested = stop ∧
        made h = beforeStart amr_ip is_connected ++
          [⟨.executeOpenLoopMotion command, .error e⟩, ⟨.disconnect, last⟩])
      ⟨⟨stop, time⟩, .still⟩ [] := by
  refine .bind (canEnd_make (.ok ()) (serves_idle rfl rfl) (.bind (.attempt ?_)))
  refine reply_canEnd () (serves_idle rfl rfl) (reply_canEnd is_connected (serves_idle rfl rfl) ?_)
  refine .bind (.mapError (canEnd_make (.error e) (serves_carryOut fun _ he => by cases he) ?_))
  refine disconnect_canEnd last ⟨rfl, ?_, rfl, rfl⟩
  exact Int.lt_add_of_pos_right time (by decide)

/-- Two stop requests may go unacknowledged. -/
theorem notStopped_canEnd {is_connected : Bool} {first second : Except StdException Bool}
    {last : Except StdException Unit} (hfirst : first ≠ .ok true) (hsecond : second ≠ .ok true) :
    CanEnd scene (main (program :: amr_ip :: rest))
      (fun r w' h => r = .ok 1 ∧ w'.Moving ∧ w'.host.stop_requested = true ∧
        made h = started amr_ip is_connected ++ [⟨.stopOpenLoopMotion, first⟩,
          ⟨.stopOpenLoopMotion, second⟩, ⟨.disconnect, last⟩])
      ⟨⟨true, time⟩, .still⟩ [] := by
  have hrefuse : ∀ outcome : Except StdException Bool, outcome ≠ .ok true → ∀ w,
      Serves w .stopOpenLoopMotion outcome w := by
    intro outcome houtcome w
    refine serves_refuse ?_
    rintro reply rfl
    cases reply with
    | false => rfl
    | true => exact absurd rfl houtcome
  refine .bind (canEnd_make (.ok ()) (serves_idle rfl rfl) (.bind (.attempt ?_)))
  refine reply_canEnd () (serves_idle rfl rfl) (reply_canEnd is_connected (serves_idle rfl rfl) ?_)
  refine reply_canEnd true (serves_carryOut fun _ he => by cases he; rfl) ?_
  -- The wait ends at its first reading of the flag.
  refine .bind (.mapError (.call time ⟨rfl, rfl⟩ (.round (.call true ⟨rfl, rfl⟩ (.ret ?_)))))
  refine .bind (.mapError (canEnd_make first (hrefuse first hfirst _) ?_))
  have hcleanup : CanEnd scene (cleanup true)
      (fun r w' h => r = .ok 1 ∧ w'.Moving ∧ w'.host.stop_requested = true ∧
        made h = started amr_ip is_connected ++ [⟨.stopOpenLoopMotion, first⟩,
          ⟨.stopOpenLoopMotion, second⟩, ⟨.disconnect, last⟩])
      ⟨⟨true, time⟩, command.drives time⟩
      [⟨.ask (.construct { host := amr_ip, auto_connect := false }), .ok ()⟩,
        ⟨.ask .connect, .ok ()⟩, ⟨.ask .isConnected, .ok is_connected⟩,
        ⟨.ask (.executeOpenLoopMotion command), .ok true⟩, ⟨.steadyNow, time⟩,
        ⟨.stopRequested, true⟩, ⟨.ask .stopOpenLoopMotion, first⟩] := by
    refine .bind (.attempt (canEnd_make second (hrefuse second hsecond _) ?_))
    refine disconnect_canEnd last ⟨rfl, ?_, rfl, rfl⟩
    exact Int.lt_add_of_pos_right time (by decide)
  rcases first with e | _ | _
  · exact hcleanup
  · exact .raise hcleanup
  · exact absurd rfl hfirst

/-- The AMR may be left moving in the runs of `LeavesMoving`, and in no others. -/
theorem main_leavesMoving_iff :
    (∃ w' h, Steps scene ⟨main argv, ⟨⟨false, time⟩, .still⟩, []⟩ ⟨.ended r, w', h⟩ ∧
        w'.Moving ∧ w'.host.stop_requested = stop ∧ made h = t) ↔
      r = .ok 1 ∧ ∃ amr_ip, argv[1]? = some amr_ip ∧ LeavesMoving amr_ip stop t := by
  constructor
  · rintro ⟨w', h, hrun, hmoving, rfl, rfl⟩
    obtain ⟨hr, hleaves⟩ := leavesMoving_of_steps rfl hrun hmoving
    refine ⟨hr, ?_⟩
    rcases argv with _ | ⟨program, _ | ⟨amr_ip, rest⟩⟩
    · rw [history_eq_nil_of_usage rfl hrun] at hleaves
      exact (not_leavesMoving_nil hleaves).elim
    · rw [history_eq_nil_of_usage rfl hrun] at hleaves
      exact (not_leavesMoving_nil hleaves).elim
    · exact ⟨amr_ip, rfl, hleaves⟩
  · rintro ⟨rfl, amr_ip, hargv, hleaves⟩
    rcases argv with _ | ⟨program, _ | ⟨address, rest⟩⟩
    · cases hargv
    · cases hargv
    · obtain rfl : address = amr_ip := Option.some.inj hargv
      have hrun : ∃ r w' h,
          Steps scene ⟨main (program :: address :: rest), ⟨⟨stop, time⟩, .still⟩, []⟩
            ⟨.ended r, w', h⟩ ∧
          r = .ok 1 ∧ w'.Moving ∧ w'.host.stop_requested = stop ∧ made h = t := by
        cases hleaves with
        | startLost => exact startLost_canEnd
        | notStopped _ _ _ _ hfirst hsecond => exact notStopped_canEnd hfirst hsecond
      obtain ⟨r, w', h, hsteps, rfl, hend⟩ := hrun
      refine ⟨w', h, ?_, hend⟩
      cases stop with
      | false => exact hsteps
      | true => exact .head (.move (.host .still (.signalHandler ⟨false, time⟩))) hsteps

end FlexivAmr.Motion
