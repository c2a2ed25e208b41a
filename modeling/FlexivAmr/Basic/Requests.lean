import FlexivAmr.Basic.Poller

/-!
# What the basic program requests

The requests of `main` and their outcomes, in every run to its end (`main_requests_iff`): first the
requests that open the session, then rounds of the same requests, and `Disconnect`. A request of the
opening that fails ends the program with the exit code 1, and it does not disconnect. A request of a
round that fails ends the rounds, and the exit code is 0 all the same if `Disconnect` returns.
-/

namespace FlexivAmr.Basic

open Interaction Program Call

variable {J : Type} {dump : J → Except StdException String} {interval_ms : ℤ} {amr_ip : String}

/-- What the log lines for a reply throw: JSON text is made for the encoders only. -/
def logReply (dump : J → Except StdException String) :
    (request : Request) → request.Reply J → Except StdException Unit
  | .getEncoderData, encoder_data => logMotorEncoders dump encoder_data.motor_encoders
  | _, _ => .ok ()

/-- The basic program as one that polls. -/
def poller (dump : J → Except StdException String) (interval_ms : ℤ) :
    Poller (Call.Answer (Request.Reply J)) J StdException where
  ask := client
  log := logReply dump
  stop := perform Call.stopRequested
  sleep := perform (Call.sleepFor interval_ms)
  slept := .ok ()

/-- A round of the basic program is one of a program that polls. -/
theorem pollRound_eq : pollRound dump interval_ms = (poller dump interval_ms).pollRound := by
  have hpollStatus : pollStatus dump = (poller dump interval_ms).askAll roundRequests := rfl
  have hpoll : poll dump interval_ms = (poller dump interval_ms).poll := by
    unfold poll Poller.poll
    rw [hpollStatus, bind_eq]
    congr 1
    funext ended
    cases ended <;> rfl
  unfold pollRound Poller.pollRound
  rw [hpoll]
  rfl

/-- The `try` block of `main` is the session of a program that polls. -/
theorem session_eq :
    session dump amr_ip interval_ms = (poller dump interval_ms).session (opening amr_ip) := by
  unfold Poller.session
  rw [← pollRound_eq]
  simp only [session, opening, Poller.askAll, poller, logReply, bind_eq, bind_assoc, ended, ret_bind]

/-- The environment that assumes nothing of the client leaves the program what it is. -/
theorem plain : (poller dump interval_ms).Plain (anyReply (Request.Reply J)) observed where
  ask := Call.traces_make
  stop := Call.traces_stopRequested
  sleep := Call.traces_sleepFor
  signal w := .single (.signalHandler w)

/-- The requests and the results of `main`, by its command line. -/
def Runs (dump : J → Except StdException String) (r : Except StdException ℤ)
    (t : List (Exchange J StdException)) : List String → Prop
  | _ :: amr_ip :: rest =>
    match interval rest with
    | .error e => r = .error e ∧ t = []
    | .ok _ => ∃ last, Session (logReply dump) (.ok ()) (opening amr_ip) t last ∧
      r = .ok (exitCode last)
  | _ => r = .ok 1 ∧ t = []

/-- The runs of `main` to its end, whatever the client answers and whenever the signal comes, are
those of `Runs`, and each of these is possible. -/
theorem main_requests_iff {argv : List String} {time : ℤ} {r : Except StdException ℤ}
    {t : List (Exchange J StdException)} :
    (∃ w' h, Steps (anyReply (Request.Reply J)) ⟨main dump argv, ⟨false, time⟩, []⟩
        ⟨.ended r, w', h⟩ ∧ made h = t) ↔ Runs dump r t argv := by
  refine (exists_congr fun w' => traces_iff_steps.symm).trans ?_
  have hended : ∀ r' : Except StdException ℤ, (∃ w', Traces (anyReply (Request.Reply J)) observed
      (.ended r') ⟨false, time⟩ t r w') ↔ r = r' ∧ t = [] := by
    intro r'
    constructor
    · rintro ⟨w', htrace⟩
      obtain ⟨hr, ht, -⟩ := traces_ended.1 htrace
      exact ⟨hr, ht⟩
    · rintro ⟨hr, ht⟩
      exact ⟨_, traces_ended.2 ⟨hr, ht, .refl⟩⟩
  rcases argv with _ | ⟨program, _ | ⟨amr_ip, rest⟩⟩
  · exact hended (.ok 1)
  · exact hended (.ok 1)
  simp only [main, Runs, bind_eq]
  generalize interval rest = parsed
  cases parsed with
  | error e => exact hended (.error e)
  | ok interval_ms =>
    simp only [ended, ret_bind]
    constructor
    · rintro ⟨w', htrace⟩
      obtain ⟨t₁, t₂, r₁, w₁, hblock, hrest, rfl⟩ := traces_bind.1 htrace
      obtain ⟨last, rfl, hsession⟩ := traces_attempt.1 hblock
      rw [session_eq] at hsession
      have hlast := Poller.session_of_traces plain hsession
      cases last with
      | error e =>
        obtain ⟨rfl, rfl, -⟩ := traces_ret.1 hrest
        rw [List.append_nil]
        exact ⟨_, hlast, rfl⟩
      | ok _ =>
        obtain ⟨rfl, rfl, -⟩ := traces_ret.1 hrest
        rw [List.append_nil]
        exact ⟨_, hlast, rfl⟩
    · rintro ⟨last, hsession, rfl⟩
      obtain ⟨w', htrace⟩ := Poller.traces_of_session (w := ⟨false, time⟩) plain hsession rfl
      rw [← session_eq] at htrace
      refine ⟨w', traces_bind.2 ⟨t, [], .ok last, w', traces_attempt.2 ⟨last, rfl, htrace⟩, ?_,
        (List.append_nil t).symm⟩⟩
      cases last with
      | error e => exact traces_ret.2 ⟨rfl, rfl, .refl⟩
      | ok _ => exact traces_ret.2 ⟨rfl, rfl, .refl⟩

end FlexivAmr.Basic
