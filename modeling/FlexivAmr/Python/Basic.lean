import FlexivAmr.Basic.Poller
import FlexivAmr.Clock
import FlexivAmr.Python.Host

/-!
# The basic program in Python

`example_py/seer_basic_example.py` as programs of the host, from the construction of the client on.
The arguments are as `argparse` hands them over. Its requests are those of the C++ program, and so
are its rounds (`Basic/Poller.lean`); what differs is the `finally` block, which asks once more
whether the client is connected, and `time.sleep`, which may refuse its argument
(`main_requests_closes_iff`).

`slept` says which intervals the call `time.sleep(args.interval_ms / 1000.0)` takes. It refuses
negative ones, those that are too large for a `float`, and those that the platform's clock cannot
hold, and where the last begin depends on the version of Python and on the system.
-/

namespace FlexivAmr.Python.Basic

open Interaction Program
open FlexivAmr.Basic (Exchange Poller Session opening roundRequests exitCode session_cons_iff)

variable {J : Type}

/-- A program of the host, with exceptions in `ε`. -/
abbrev BasicProgram (J ε : Type) : Type → Type 1 := Program (Op.Answer (Basic.Request.Reply J)) ε

/-- A request to the client, whose exception the program raises. -/
def client (request : Basic.Request) : BasicProgram J PyException (request.Reply J) :=
  .call (.client request) fun (outcome : Except PyException (request.Reply J)) => .ended outcome

/-- `time.sleep(args.interval_ms / 1000.0)`. -/
def sleep (slept : ℤ → Except PyException Unit) (interval_ms : ℤ) :
    BasicProgram J PyException Unit := do
  .ended (slept interval_ms)
  perform (Op.sleep (double (double interval_ms / 1000)))

/-- `create_seer_options`. -/
def createSeerOptions (amr_ip : String) : SeerAmrOptions :=
  { host := amr_ip, auto_connect := false, auto_reconnect := true }

/-- `print_amr_info`. -/
def printAmrInfo : BasicProgram J PyException Unit := do
  let _ ← client .getAmrInfo

/-- `print_runtime_status`. -/
def printRuntimeStatus : BasicProgram J PyException Unit := do
  let _ ← client .getAmrPose
  let _ ← client .getBatteryStatus
  let _ ← client .getNavigationStatus
  let _ ← client .getTaskStatus
  let _ ← client .getLocationStatus
  let _ ← client .getUltrasonicData
  let _ ← client .getEncoderData
  let _ ← client .getImuData
  let _ ← client .isConnected

/-- A round of the loop of `main`. -/
def pollRound (slept : ℤ → Except PyException Unit) (interval_ms : ℤ) :
    BasicProgram J PyException (Unit ⊕ Unit) := do
  if ← perform Op.stopRequested then
    return .inl ()
  else
    match ← printRuntimeStatus.attempt with
    -- Both handlers break out of the loop.
    | .error _ => return .inl ()
    | .ok () =>
      sleep slept interval_ms
      return .inr ()

/-- The `try` block of `main`, up to its `return`. -/
def session (slept : ℤ → Except PyException Unit) (interval_ms : ℤ) :
    BasicProgram J PyException Unit := do
  client .connect
  let _ ← client .isConnected
  printAmrInfo
  loop () fun _ => pollRound slept interval_ms
  client .disconnect

/-- The `finally` block of `main`. -/
def cleanup : BasicProgram J PyException Unit := do
  let _ ← (do
    if ← client .isConnected then
      client .disconnect : BasicProgram J PyException Unit).attempt

/-- `main` from the construction of the client on: its exit code. -/
def main (slept : ℤ → Except PyException Unit) (amr_ip : String) (interval_ms : ℤ) :
    BasicProgram J PyException ℤ := do
  -- The constructor runs before the `try` block.
  client (.construct (createSeerOptions amr_ip))
  match ← (session slept interval_ms).attempt with
  | .ok () =>
    cleanup
    return 0
  -- Both handlers log the exception.
  | .error _ =>
    cleanup
    return 1

/-! ## What the program requests -/

/-- The requests of the `finally` block. -/
inductive Closes : List (Exchange J PyException) → Prop
  | unknown (e : PyException) : Closes [⟨.isConnected, .error e⟩]
  | closed : Closes [⟨.isConnected, .ok false⟩]
  | connected (last : Except PyException Unit) :
    Closes [⟨.isConnected, .ok true⟩, ⟨.disconnect, last⟩]

/-- The requests and the results of `main`. Attributes of replies are read and logged without
exceptions. -/
inductive Runs (slept : ℤ → Except PyException Unit) (amr_ip : String) (interval_ms : ℤ) :
    Except PyException ℤ → List (Exchange J PyException) → Prop
  | unconstructed (e : PyException) :
    Runs slept amr_ip interval_ms (.error e) [⟨.construct (createSeerOptions amr_ip), .error e⟩]
  | constructed {t t' : List (Exchange J PyException)} {last : Except PyException Unit}
    (session : Session (fun _ _ => .ok ()) (slept interval_ms) (opening amr_ip)
      (⟨.construct (createSeerOptions amr_ip), .ok ()⟩ :: t) last) (closes : Closes t') :
    Runs slept amr_ip interval_ms (.ok (exitCode last))
      (⟨.construct (createSeerOptions amr_ip), .ok ()⟩ :: (t ++ t'))

variable {slept : ℤ → Except PyException Unit} {amr_ip : String} {interval_ms : ℤ} {w w' : Host}
  {t : List (Exchange J PyException)}

/-- The program as one that polls. -/
def poller (slept : ℤ → Except PyException Unit) (interval_ms : ℤ) :
    Poller (Op.Answer (Basic.Request.Reply J)) J PyException where
  ask := client
  log _ _ := .ok ()
  stop := perform Op.stopRequested
  sleep := sleep slept interval_ms
  slept := slept interval_ms

/-- A round of the program is one of a program that polls. -/
theorem pollRound_eq : (pollRound slept interval_ms : BasicProgram J PyException _) =
    (poller slept interval_ms).pollRound := by
  have hstatus : (printRuntimeStatus : BasicProgram J PyException Unit) =
    (poller slept interval_ms).askAll roundRequests := rfl
  unfold pollRound Poller.pollRound Poller.poll
  rw [hstatus, bind_eq]
  congr 1
  funext stop
  cases stop with
  | true => rfl
  | false =>
    simp only [bind_eq, Bool.false_eq_true, if_false]
    congr 1
    funext ended
    cases ended <;> rfl

/-- The `try` block of `main` is the session of a program that polls, but for the constructor. -/
theorem session_eq (amr_ip : String) : (session slept interval_ms : BasicProgram J PyException Unit) =
    (poller slept interval_ms).session (opening amr_ip).tail := by
  unfold Poller.session
  rw [← pollRound_eq]
  simp only [session, printAmrInfo, opening, List.tail_cons, Poller.askAll, poller, bind_eq, pure_eq,
    bind_assoc, ended, ret_bind]

/-- The environment that assumes nothing of the client leaves the program what it is. -/
theorem plain : (poller slept interval_ms).Plain (anyReply (Basic.Request.Reply J)) observed where
  ask := traces_client
  stop := traces_stopRequested
  sleep := by
    intro w w' t r
    have hsleep : (poller slept interval_ms : Poller _ J _).sleep =
        (Program.ended (slept interval_ms)).bind fun _ =>
          perform (Op.sleep (double (double interval_ms / 1000))) :=
      rfl
    rw [hsleep, show (poller slept interval_ms : Poller _ J _).slept = slept interval_ms from rfl]
    cases slept interval_ms with
    | error e => exact traces_raise
    | ok _ => exact traces_sleep
  signal w := .single (.signalHandler w)

/-- What the `finally` block shows. -/
theorem traces_cleanup {r : Except PyException Unit} :
    Traces (anyReply (Basic.Request.Reply J)) observed cleanup w t r w' ↔
      r = .ok () ∧ Closes t ∧ (anyReply (Basic.Request.Reply J)).Drifts w w' := by
  have hclose : ∀ {t : List (Exchange J PyException)} {r w'},
      Traces (anyReply (Basic.Request.Reply J)) observed
        ((client .isConnected).bind fun connected => if connected then client .disconnect else .ret ())
        w t r w' → Closes t ∧ (anyReply (Basic.Request.Reply J)).Drifts w w' := by
    intro t r w' htrace
    obtain ⟨t₁, t₂, r₁, w₁, hfirst, hrest, rfl⟩ := traces_bind.1 htrace
    obtain ⟨rfl, hdrift⟩ := traces_client.1 hfirst
    rcases r₁ with e | _ | _
    · obtain ⟨-, rfl, hdrift'⟩ := traces_raise.1 hrest
      exact ⟨.unknown e, hdrift.trans hdrift'⟩
    · obtain ⟨-, rfl, hdrift'⟩ := traces_ret.1 hrest
      exact ⟨.closed, hdrift.trans hdrift'⟩
    · obtain ⟨rfl, hdrift'⟩ := traces_client.1 hrest
      exact ⟨.connected r, hdrift.trans hdrift'⟩
  constructor
  · intro htrace
    obtain ⟨t₁, t₂, r₁, w₁, hblock, hrest, rfl⟩ := traces_bind.1 htrace
    obtain ⟨r₂, rfl, hinner⟩ := traces_attempt.1 hblock
    obtain ⟨hcloses, hdrift⟩ := hclose hinner
    obtain ⟨rfl, rfl, hdrift'⟩ := traces_ret.1 hrest
    rw [List.append_nil]
    exact ⟨rfl, hcloses, hdrift.trans hdrift'⟩
  · rintro ⟨rfl, hcloses, hdrift⟩
    have hinner : ∃ r₂, Traces (anyReply (Basic.Request.Reply J)) observed
        ((client .isConnected).bind fun connected => if connected then client .disconnect else .ret ())
        w t r₂ w' := by
      cases hcloses with
      | unknown e =>
        exact ⟨.error e, traces_bind.2 ⟨_, [], .error e, w', traces_client.2 ⟨rfl, hdrift⟩,
          traces_raise.2 ⟨rfl, rfl, .refl⟩, rfl⟩⟩
      | closed =>
        exact ⟨.ok (), traces_bind.2 ⟨_, [], .ok false, w', traces_client.2 ⟨rfl, hdrift⟩,
          traces_ret.2 ⟨rfl, rfl, .refl⟩, rfl⟩⟩
      | connected last =>
        exact ⟨last, traces_bind.2 ⟨_, _, .ok true, w', traces_client.2 ⟨rfl, hdrift⟩,
          traces_client.2 ⟨rfl, .refl⟩, rfl⟩⟩
    obtain ⟨r₂, hinner⟩ := hinner
    exact traces_bind.2 ⟨t, [], .ok r₂, w', traces_attempt.2 ⟨r₂, rfl, hinner⟩,
      traces_ret.2 ⟨rfl, rfl, .refl⟩, (List.append_nil t).symm⟩

/-- What the end of `main` shows. -/
theorem traces_exit {exit_code : ℤ} {r : Except PyException ℤ} :
    Traces (anyReply (Basic.Request.Reply J)) observed (cleanup.bind fun _ => .ret exit_code) w t r w' ↔
      r = .ok exit_code ∧ Closes t ∧ (anyReply (Basic.Request.Reply J)).Drifts w w' := by
  refine traces_bind.trans ⟨?_, ?_⟩
  · rintro ⟨t₁, t₂, r₁, w₁, hcleanup, hret, rfl⟩
    obtain ⟨rfl, hcloses, hdrift⟩ := traces_cleanup.1 hcleanup
    obtain ⟨rfl, rfl, hdrift'⟩ := traces_ret.1 hret
    rw [List.append_nil]
    exact ⟨rfl, hcloses, hdrift.trans hdrift'⟩
  · rintro ⟨rfl, hcloses, hdrift⟩
    exact ⟨t, [], .ok (), w', traces_cleanup.2 ⟨rfl, hcloses, hdrift⟩,
      traces_ret.2 ⟨rfl, rfl, .refl⟩, (List.append_nil t).symm⟩

/-- The runs of `main` to its end, whatever the client answers and whenever the signal comes, are
those of `Runs`, and each of these is possible. -/
theorem main_requests_closes_iff {time : ℤ} {r : Except PyException ℤ} :
    (∃ w' h, Steps (anyReply (Basic.Request.Reply J)) ⟨main slept amr_ip interval_ms, ⟨false, time⟩, []⟩
        ⟨.ended r, w', h⟩ ∧ h.filterMap observed = t) ↔ Runs slept amr_ip interval_ms r t := by
  refine (exists_congr fun w' => traces_iff_steps.symm).trans ?_
  constructor
  · rintro ⟨w', htrace⟩
    obtain ⟨t₁, t₂, r₁, w₁, hconstruct, hrest, rfl⟩ := traces_bind.1 htrace
    obtain ⟨rfl, -⟩ := traces_client.1 hconstruct
    cases r₁ with
    | error e =>
      obtain ⟨rfl, rfl, -⟩ := traces_raise.1 hrest
      exact .unconstructed e
    | ok _ =>
      simp only [ended, ret_bind, bind_eq] at hrest
      obtain ⟨t₃, t₄, r₃, w₃, hblock, hend, rfl⟩ := traces_bind.1 hrest
      obtain ⟨last, rfl, hsession⟩ := traces_attempt.1 hblock
      rw [session_eq amr_ip] at hsession
      have hlast : Session (fun _ _ => .ok ()) (slept interval_ms) (opening amr_ip)
          (⟨.construct (createSeerOptions amr_ip), .ok ()⟩ :: t₃) last :=
        (session_cons_iff rfl).2 (Poller.session_of_traces plain hsession)
      simp only [ended, ret_bind] at hend
      rw [List.singleton_append]
      cases last with
      | error e =>
        obtain ⟨rfl, hcloses, -⟩ := traces_exit.1 hend
        exact .constructed hlast hcloses
      | ok _ =>
        obtain ⟨rfl, hcloses, -⟩ := traces_exit.1 hend
        exact .constructed hlast hcloses
  · intro hruns
    cases hruns with
    | unconstructed e =>
      exact ⟨⟨false, time⟩, traces_bind.2 ⟨_, [], .error e, _, traces_client.2 ⟨rfl, .refl⟩,
        traces_raise.2 ⟨rfl, rfl, .refl⟩, rfl⟩⟩
    | @constructed t t' last hsession hcloses =>
      have hlast : Session (fun _ _ => .ok ()) (slept interval_ms) (opening amr_ip).tail t
          last := (session_cons_iff rfl).1 hsession
      obtain ⟨w', htrace⟩ := Poller.traces_of_session (P := poller slept interval_ms) (w := ⟨false, time⟩)
        plain hlast rfl
      rw [← session_eq amr_ip] at htrace
      refine ⟨w', traces_bind.2 ⟨_, t ++ t', .ok (), ⟨false, time⟩, traces_client.2 ⟨rfl, .refl⟩, ?_,
        rfl⟩⟩
      simp only [ended, ret_bind, bind_eq]
      refine traces_bind.2 ⟨t, t', .ok last, w', traces_attempt.2 ⟨last, rfl, htrace⟩, ?_, rfl⟩
      cases last with
      | error e => exact traces_exit.2 ⟨rfl, hcloses, .refl⟩
      | ok _ => exact traces_exit.2 ⟨rfl, hcloses, .refl⟩

end FlexivAmr.Python.Basic
