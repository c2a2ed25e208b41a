import FlexivAmr.Motion.Safety
import FlexivAmr.Python.Motion
import Mathlib.Tactic.Linarith

/-!
# What the motion program in Python leaves behind

As for the C++ program (`Motion/Safety.lean`), with the same AMR. The runs that leave it moving are
again those in which the reply to the start request is lost, and those in which the signal has come
and the motion is not stopped; but here a single stop request that is not acknowledged is enough
(`main_leavesMoving_closes_iff`).
-/

namespace FlexivAmr.Python.Motion

open Interaction Program
open FlexivAmr.Motion (Scene Serves Drives serves_carryOut serves_refuse serves_idle)
open FlexivAmr.Motion.Point (Due still_later)

/-- A request and how it has ended. -/
abbrev Exchange : Type := (request : Motion.Request) × Except PyException request.Reply

/-- The environment of the motion program: the AMR serves the requests, and sleeping takes time. -/
def scene : Environment (Op.Answer Motion.Request.Reply) Scene where
  answers w op a w' :=
    match op with
    | .client request => Serves w request a w'
    | .stopRequested => a = w.host.stop_requested ∧ w' = w
    | .monotonic => a = w.host.steady / 1000000000 ∧ w' = w
    | .timeNs => w' = w
    | .sleep secs => w.host.Later w'.host ∧ w'.drives = w.drives ∧
      w.host.steady + secs * 1000000000 ≤ w'.host.steady
  moves := Scene.Moves

/-- The requests of a history, with their outcomes. -/
def made (h : History) : List Exchange := h.filterMap observed

/-- The requests before the start of the motion. -/
def beforeStart (amr_ip : String) (is_connected : Bool) : List Exchange :=
  [⟨.construct { host := amr_ip, auto_connect := false, auto_reconnect := true }, .ok ()⟩,
    ⟨.connect, .ok ()⟩, ⟨.isConnected, .ok is_connected⟩]

/-- The requests of a motion that has been started. -/
def started (amr_ip : String) (is_connected : Bool) : List Exchange :=
  beforeStart amr_ip is_connected ++ [⟨.executeOpenLoopMotion (command 3000), .ok true⟩]

/-- The requests with which the `finally` block ends. -/
inductive Closes : List Exchange → Prop
  | unknown (e : PyException) : Closes [⟨.isConnected, .error e⟩]
  | closed : Closes [⟨.isConnected, .ok false⟩]
  | connected (last : Except PyException Unit) :
    Closes [⟨.isConnected, .ok true⟩, ⟨.disconnect, last⟩]

/-- The runs of `main` that leave the AMR moving, by their requests and by the stop flag at their
end. -/
inductive LeavesMoving (assigned : Except PyException ℤ) (amr_ip : String) :
    Bool → List Exchange → Prop
  /-- The reply to the start request is lost, and `main` knows of no motion to stop. -/
  | startLost (hassigned : assigned = .ok 3000) (stop is_connected : Bool) (e : PyException)
      {t : List Exchange} (closes : Closes t) :
    LeavesMoving _ _ stop (beforeStart amr_ip is_connected ++
      (⟨.executeOpenLoopMotion (command 3000), .error e⟩ :: t))
  /-- The signal comes before the end of the motion, and the stop request is not acknowledged. -/
  | notStopped (hassigned : assigned = .ok 3000) (is_connected : Bool)
      (outcome : Except PyException Bool) {t : List Exchange} (houtcome : outcome ≠ .ok true)
      (closes : Closes t) :
    LeavesMoving _ _ true (started amr_ip is_connected ++ (⟨.stopOpenLoopMotion, outcome⟩ :: t))

/-- A history with one more request. -/
theorem made_append_client (h : History) (request : Motion.Request)
    (outcome : Except PyException request.Reply) :
    made (h ++ [⟨.client request, outcome⟩]) = made h ++ [⟨request, outcome⟩] :=
  List.filterMap_append

/-- A history with one more event that is no request. -/
theorem made_append_quiet (h : History) {e : Event (Op.Answer Motion.Request.Reply)}
    (he : observed e = none) : made (h ++ [e]) = made h := by
  unfold made
  rw [List.filterMap_append, List.filterMap_cons_none he, List.filterMap_nil, List.append_nil]

namespace Point

/-- The motion has been started, with the duration that the program means. -/
def Started (assigned : Except PyException ℤ) (amr_ip : String) (t : List Exchange) : Prop :=
  assigned = .ok 3000 ∧ ∃ is_connected, t = started amr_ip is_connected

/-- What is known at a point of the AMR and of the requests so far. -/
def Facts (assigned : Except PyException ℤ) (amr_ip : String) (w : Scene) (t : List Exchange) :
    Point → Prop
  | .construct => w.drives = .still ∧ t = []
  | .connect => w.drives = .still ∧
    t = [⟨.construct { host := amr_ip, auto_connect := false, auto_reconnect := true }, .ok ()⟩]
  | .isConnected => w.drives = .still ∧
    t = [⟨.construct { host := amr_ip, auto_connect := false, auto_reconnect := true }, .ok ()⟩,
      ⟨.connect, .ok ()⟩]
  | .execute => w.drives = .still ∧ ∃ is_connected, t = beforeStart amr_ip is_connected
  | .begin => w.drives.EndsBy (w.host.steady + 3000000000) ∧ Started assigned amr_ip t
  | .flag deadline | .clock deadline | .doze deadline =>
    (∃ time : ℤ, deadline = time / 1000000000 ∧ w.drives.EndsBy time) ∧ Started assigned amr_ip t
  | .stop => Due w ∧ Started assigned amr_ip t
  | .close exit_code => w.Moving → exit_code = 1 ∧ ∀ t', Closes t' →
    LeavesMoving assigned amr_ip w.host.stop_requested (t ++ t')
  | .disconnect exit_code => w.Moving → exit_code = 1 ∧ ∀ last : Except PyException Unit,
    LeavesMoving assigned amr_ip w.host.stop_requested (t ++ [⟨.disconnect, last⟩])
  | .done exit_code => w.Moving → exit_code = 1 ∧
    LeavesMoving assigned amr_ip w.host.stop_requested t
  | .failed => w.drives = .still

variable {amr_ip : String} {w w' : Scene} {t : List Exchange} {p p' : Point}
  {assigned : Except PyException ℤ}

/-- The stop flag may become set. -/
theorem leavesMoving_later (h : LeavesMoving assigned amr_ip w.host.stop_requested t)
    (hlater : w.Later w') : LeavesMoving assigned amr_ip w'.host.stop_requested t := by
  generalize hstop : w.host.stop_requested = stop at h
  cases h with
  | startLost hassigned _ is_connected e closes => exact .startLost hassigned _ is_connected e closes
  | notStopped hassigned is_connected outcome houtcome closes =>
    rw [hlater.host.stop_requested hstop]
    exact .notStopped hassigned is_connected outcome houtcome closes

/-- What is known at a point is known in a later scene. -/
theorem Facts.later (hp : p.Facts assigned amr_ip w t) (hlater : w.Later w') :
    p.Facts assigned amr_ip w' t := by
  cases p with
  | construct | connect | isConnected | execute => exact ⟨still_later hp.1 hlater, hp.2⟩
  | failed => exact still_later hp hlater
  | begin =>
    refine ⟨(hlater.endsBy hp.1).mono ?_, hp.2⟩
    have hle := hlater.host.steady
    omega
  | flag | clock | doze =>
    obtain ⟨⟨time, hdeadline, hends⟩, hmade⟩ := hp
    exact ⟨⟨time, hdeadline, hlater.endsBy hends⟩, hmade⟩
  | stop => exact ⟨hp.1.later hlater, hp.2⟩
  | close exit_code =>
    intro hmoving
    obtain ⟨hcode, hleaves⟩ := hp (hlater.moving hmoving)
    exact ⟨hcode, fun t' closes => leavesMoving_later (hleaves t' closes) hlater⟩
  | disconnect exit_code =>
    intro hmoving
    obtain ⟨hcode, hleaves⟩ := hp (hlater.moving hmoving)
    exact ⟨hcode, fun last => leavesMoving_later (hleaves last) hlater⟩
  | done exit_code =>
    intro hmoving
    obtain ⟨hcode, hleaves⟩ := hp (hlater.moving hmoving)
    exact ⟨hcode, leavesMoving_later hleaves hlater⟩

/-- An AMR that stands still may be left. -/
theorem facts_close {exit_code : ℤ} (h : w.drives = .still) :
    Facts assigned amr_ip w t (.close exit_code) :=
  fun hmoving => absurd hmoving (Scene.not_moving_of_still h)

/-- The steps of the machine keep what is known. -/
theorem Step.facts {h : History} {op : Op Motion.Request} {a : op.Answer Motion.Request.Reply}
    (hassigned : ∀ duration, assigned = .ok duration → duration = 3000)
    (hp : p.Facts assigned amr_ip w (made h)) (hstep : p.Step assigned amr_ip ⟨op, a⟩ p')
    (answer : scene.answers w op a w') : p'.Facts assigned amr_ip w' (made (h ++ [⟨op, a⟩])) := by
  cases hstep with
  | construct outcome =>
    have hlater := Serves.later answer (by intro command hcommand; cases hcommand)
    obtain ⟨hstill, hmade⟩ := hp.later hlater
    rw [made_append_client, hmade]
    cases outcome with
    | error e => exact hstill
    | ok _ => exact ⟨hstill, rfl⟩
  | connect outcome =>
    have hlater := Serves.later answer (by intro command hcommand; cases hcommand)
    obtain ⟨hstill, hmade⟩ := hp.later hlater
    rw [made_append_client, hmade]
    cases outcome with
    | error e => exact facts_close hstill
    | ok _ => exact ⟨hstill, rfl⟩
  | isConnected outcome =>
    have hlater := Serves.later answer (by intro command hcommand; cases hcommand)
    obtain ⟨hstill, hmade⟩ := hp.later hlater
    rw [made_append_client, hmade]
    cases outcome with
    | error e => exact facts_close hstill
    | ok is_connected =>
      cases assigned with
      | error e => exact facts_close hstill
      | ok duration => exact ⟨hstill, is_connected, rfl⟩
  | execute duration outcome hduration =>
    obtain rfl := hassigned duration hduration
    rw [made_append_client]
    obtain ⟨hstill, is_connected, hmade⟩ := hp
    rw [hmade]
    rcases outcome with e | _ | _
    · refine fun _ => ⟨rfl, fun t' closes => ?_⟩
      rw [List.append_assoc]
      exact .startLost hduration _ _ e closes
    · have hlater := Serves.later_of_refused answer rfl
      exact facts_close (still_later hstill hlater)
    · obtain ⟨time, htime, hdrives⟩ := Serves.carriedOut answer rfl
      refine ⟨?_, hduration, is_connected, rfl⟩
      rw [hdrives]
      exact Int.add_le_add_right htime _
  | begin now =>
    obtain ⟨hnow, rfl⟩ := answer
    obtain ⟨hends, hmade⟩ := hp
    rw [made_append_quiet h rfl]
    refine ⟨⟨w'.host.steady + 3000000000, ?_, hends⟩, hmade⟩
    rw [show now = _ from hnow, motionDurationMs]
    push_cast
    linarith
  | flag deadline stop =>
    obtain ⟨hstop, rfl⟩ := answer
    rw [made_append_quiet h rfl]
    cases stop with
    | true => exact ⟨.inl hstop.symm, hp.2⟩
    | false => exact hp
  | clock deadline now =>
    obtain ⟨hnow, rfl⟩ := answer
    rw [made_append_quiet h rfl]
    split_ifs with hwaiting
    · exact hp
    · obtain ⟨⟨time, hdeadline, hends⟩, hmade⟩ := hp
      refine ⟨.inr (hends.mono ?_), hmade⟩
      have hle : (time : ℚ) ≤ w'.host.steady := by
        rw [hdeadline, show now = _ from hnow] at hwaiting
        linarith
      exact_mod_cast hle
  | doze deadline =>
    obtain ⟨hhost, hdrives, -⟩ := answer
    rw [made_append_quiet h rfl]
    exact hp.later ⟨hhost, .inl hdrives⟩
  | stop outcome =>
    have hlater := Serves.later answer (by intro command hcommand; cases hcommand)
    obtain ⟨hdue, hduration, is_connected, hmade⟩ := hp.later hlater
    have hleaves : outcome ≠ .ok true → w'.Moving → ∀ t', Closes t' →
        LeavesMoving assigned amr_ip w'.host.stop_requested
          (made (h ++ [⟨.client .stopOpenLoopMotion, outcome⟩]) ++ t') := by
      intro houtcome hmoving t' closes
      have hstop := hdue.resolve_right (Scene.moving_iff.1 hmoving)
      rw [made_append_client, hmade, hstop, List.append_assoc]
      exact .notStopped hduration is_connected outcome houtcome closes
    rcases outcome with e | _ | _
    · exact fun hmoving => ⟨rfl, hleaves (by simp) hmoving⟩
    · exact fun hmoving => ⟨rfl, hleaves (by simp) hmoving⟩
    · obtain ⟨time, -, hdrives⟩ := Serves.carriedOut answer rfl
      exact facts_close hdrives
  | close exit_code outcome =>
    have hlater := Serves.later answer (by intro command hcommand; cases hcommand)
    have hclose := hp.later hlater
    rw [made_append_client]
    rcases outcome with e | _ | _
    · exact fun hmoving => ⟨rfl, (hclose hmoving).2 _ (.unknown e)⟩
    · exact fun hmoving => ⟨(hclose hmoving).1, (hclose hmoving).2 _ .closed⟩
    · refine fun hmoving => ⟨(hclose hmoving).1, fun last => ?_⟩
      rw [List.append_assoc]
      exact (hclose hmoving).2 _ (.connected last)
  | disconnect exit_code outcome =>
    have hlater := Serves.later answer (by intro command hcommand; cases hcommand)
    have hdisconnect := hp.later hlater
    rw [made_append_client]
    cases outcome with
    | error e => exact fun hmoving => ⟨rfl, (hdisconnect hmoving).2 _⟩
    | ok _ => exact fun hmoving => ⟨(hdisconnect hmoving).1, (hdisconnect hmoving).2 _⟩

end Point

variable {assigned : Except PyException ℤ} {amr_ip : String} {w w' : Scene} {h : History}
  {t : List Exchange} {r : Except PyException ℤ} {stop : Bool} {time : ℤ}

/-- A run of `main` that leaves the AMR moving is one of those in `LeavesMoving`. -/
theorem leavesMoving_of_steps (hassigned : ∀ duration, assigned = .ok duration → duration = 3000)
    (hstill : w.drives = .still)
    (hrun : Steps scene ⟨main assigned amr_ip, w, []⟩ ⟨.ended r, w', h⟩) (hmoving : w'.Moving) :
    r = .ok 1 ∧ LeavesMoving assigned amr_ip w'.host.stop_requested (made h) := by
  have hinit : Point.construct.Facts assigned amr_ip w (made []) := ⟨hstill, rfl⟩
  obtain ⟨p, hp, hend⟩ := Conforms.invariant
    (J := fun (p : Point) w h => p.Facts assigned amr_ip w (made h))
    (fun p w h op a w' p' hp hstep answer => Point.Step.facts hassigned hp hstep answer)
    (fun p w h w' hp hmove => hp.later hmove.later)
    hrun main_follows hinit
  rw [conforms_ended] at hend
  cases r with
  | ok exit_code =>
    obtain rfl : p = .done exit_code := hend
    obtain ⟨rfl, hleaves⟩ := hp hmoving
    exact ⟨rfl, hleaves⟩
  | error e =>
    obtain rfl : p = .failed := hend
    exact absurd hmoving (Scene.not_moving_of_still hp)

/-! ## Runs that leave the AMR moving -/

/-- A run of a request, by the choice of its outcome. -/
theorem client_canEnd {request : Motion.Request}
    {Q : Except PyException request.Reply → Scene → History → Prop}
    (outcome : Except PyException request.Reply) (answer : Serves w request outcome w')
    (hQ : Q outcome w' (h ++ [⟨.client request, outcome⟩])) : CanEnd scene (client request) Q w h :=
  .call outcome answer ⟨outcome, w', _, .refl, hQ⟩

/-- A run of the `try` block that begins with a request that returns. -/
theorem reply_canEnd {α : Type} {request : Motion.Request}
    {f : request.Reply → MotionProgram Thrown α} {Q : Except Thrown α → Scene → History → Prop}
    (reply : request.Reply) (answer : Serves w request (.ok reply : Except PyException _) w')
    (hnext : CanEnd scene (f reply) Q w' (h ++ [⟨.client request, .ok reply⟩])) :
    CanEnd scene ((during false (client request)).bind f) Q w h :=
  .bind (.mapError (client_canEnd (.ok reply) answer hnext))

/-- The last requests of the `finally` block, however they end. -/
theorem close_canEnd {Q : Except PyException ℤ → Scene → History → Prop} (closes : Closes t)
    (hQ : ∀ h', made h' = made h ++ t → Q (.ok 1) w h') :
    CanEnd scene (cleanup false 1) Q w h := by
  refine .bind (.ret (.bind (.attempt (.bind ?_))))
  cases closes with
  | unknown e =>
    refine client_canEnd (.error e) (serves_carryOut fun _ _ => rfl) (.ret ?_)
    exact hQ _ (made_append_client _ _ _)
  | closed =>
    refine client_canEnd (.ok false) (serves_carryOut fun _ _ => rfl) (.ret (.ret ?_))
    exact hQ _ (made_append_client _ _ _)
  | connected last =>
    refine client_canEnd (.ok true) (serves_carryOut fun _ _ => rfl) ?_
    refine client_canEnd last (serves_carryOut fun _ _ => rfl) ?_
    have hlast := hQ ((h ++ [⟨.client .isConnected, .ok true⟩]) ++ [⟨.client .disconnect, last⟩])
      (by rw [made_append_client, made_append_client, List.append_assoc]; rfl)
    cases last with
    | error e => exact .ret hlast
    | ok _ => exact .ret hlast

/-- The reply to the start request may be lost. -/
theorem startLost_canEnd {is_connected : Bool} {e : PyException} (closes : Closes t) :
    CanEnd scene (main (.ok 3000) amr_ip)
      (fun r w' h => r = .ok 1 ∧ w'.Moving ∧ w'.host.stop_requested = stop ∧
        made h = beforeStart amr_ip is_connected ++
          (⟨.executeOpenLoopMotion (command 3000), .error e⟩ :: t))
      ⟨⟨stop, time⟩, .still⟩ [] := by
  refine .bind (client_canEnd (.ok ()) (serves_idle rfl rfl) (.bind (.attempt ?_)))
  refine reply_canEnd () (serves_idle rfl rfl) (reply_canEnd is_connected (serves_idle rfl rfl) ?_)
  refine .bind (.mapError (.ret (.bind (.mapError ?_))))
  refine client_canEnd (.error e) (serves_carryOut fun _ he => by cases he) ?_
  refine close_canEnd closes fun h' hh' => ⟨rfl, ?_, rfl, hh'⟩
  exact Int.lt_add_of_pos_right time (by decide)

/-- The stop request may go unacknowledged. -/
theorem notStopped_canEnd {is_connected : Bool} {outcome : Except PyException Bool}
    (houtcome : outcome ≠ .ok true) (closes : Closes t) :
    CanEnd scene (main (.ok 3000) amr_ip)
      (fun r w' h => r = .ok 1 ∧ w'.Moving ∧ w'.host.stop_requested = true ∧
        made h = started amr_ip is_connected ++ (⟨.stopOpenLoopMotion, outcome⟩ :: t))
      ⟨⟨true, time⟩, .still⟩ [] := by
  have hrefuse : ∀ reply, outcome = .ok reply →
      Motion.Request.accepts .stopOpenLoopMotion reply = false := by
    rintro reply rfl
    cases reply with
    | false => rfl
    | true => exact absurd rfl houtcome
  refine .bind (client_canEnd (.ok ()) (serves_idle rfl rfl) (.bind (.attempt ?_)))
  refine reply_canEnd () (serves_idle rfl rfl) (reply_canEnd is_connected (serves_idle rfl rfl) ?_)
  refine .bind (.mapError (.ret ?_))
  refine reply_canEnd true (serves_carryOut fun _ he => by cases he; rfl) ?_
  -- The wait ends at its first reading of the flag.
  refine .mapError (.call ((time : ℚ) / 1000000000) ⟨rfl, rfl⟩
    (.round (.call true ⟨rfl, rfl⟩ (.ret ?_))))
  refine .bind (.bind (.attempt (client_canEnd outcome (serves_refuse hrefuse) ?_)))
  have hclose : CanEnd scene (cleanup false 1)
      (fun r w' h => r = .ok 1 ∧ w'.Moving ∧ w'.host.stop_requested = true ∧
        made h = started amr_ip is_connected ++ (⟨.stopOpenLoopMotion, outcome⟩ :: t))
      ⟨⟨true, time⟩, (command 3000).drives time⟩
      [⟨.client (.construct { host := amr_ip, auto_connect := false, auto_reconnect := true }),
          .ok ()⟩,
        ⟨.client .connect, .ok ()⟩, ⟨.client .isConnected, .ok is_connected⟩,
        ⟨.client (.executeOpenLoopMotion (command 3000)), .ok true⟩,
        ⟨.monotonic, (time : ℚ) / 1000000000⟩, ⟨.stopRequested, true⟩,
        ⟨.client .stopOpenLoopMotion, outcome⟩] := by
    refine close_canEnd closes fun h' hh' => ⟨rfl, ?_, rfl, hh'⟩
    exact Int.lt_add_of_pos_right time (by decide)
  rcases outcome with e | _ | _
  · exact .ret hclose
  · exact .ret hclose
  · exact absurd rfl houtcome

end FlexivAmr.Python.Motion
