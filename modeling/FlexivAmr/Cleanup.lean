import FlexivAmr.NavigationSpec
import FlexivAmr.Runs
import FlexivAmr.Interaction.History

/-!
# Cancelling and disconnecting

What `main` owes to the AMR when it returns (`CleanupLaw`): a navigation that may have been accepted
is seen through to a verdict or cancelled, a navigation of another party is never cancelled, and the
connection is closed. `CleanupInv` ties the transcript of a run to the session, and
`cleanupLaw_iff` reads off the law when the session has ended.

The law fails in one case only, the reply that is lost. `main` sets `navigation_active` after the
start request has returned, so when the request throws while it waits for the reply, an accepted
navigation goes on with no cancel.
-/

namespace FlexivAmr

open Interaction

/-- The error comes from the receive side of a request: the peer may have handled the request. -/
def AmrErrorCode.isReceiveSide : AmrErrorCode → Bool
  | .kRecvTimeout | .kRecvFailed | .kInvalidJson => true
  | _ => false

/-- The outcome of a start request after which the AMR may be navigating. -/
def possiblyAccepted : Except StdException Bool → Bool
  | .ok accepted => accepted
  | .error (.amr code _) => code.isReceiveSide
  | .error _ => false

/-- What a finished run of `main` owes to the AMR. -/
structure CleanupLaw (l : List Action) : Prop where
  /-- A navigation that may have been accepted gets a verdict, or one cancel, which comes after the
  start request and before `Disconnect`. -/
  accepted : ∀ outcome, .start outcome ∈ l → possiblyAccepted outcome = true →
    (∃ result, .returned result ∈ l ∧ result.terminal.isSome = true) ∨
      (l.countP Action.isCancel = 1 ∧ Always (fun earlier a => a.isCancel = true →
        .start outcome ∈ earlier ∧ ∀ b ∈ earlier, b.isDisconnect = false) l)
  /-- Nothing is cancelled when no navigation was accepted. -/
  refused : (∀ outcome, .start outcome ∈ l → outcome = .ok false) → ∀ a ∈ l, a.isCancel = false
  /-- One `Disconnect` answers a `Connect` that has returned. -/
  connected : .connect (.ok ()) ∈ l → l.countP Action.isDisconnect = 1
  /-- There is no `Disconnect` without a `Connect` that has returned. -/
  unconnected : .connect (.ok ()) ∉ l → ∀ a ∈ l, a.isDisconnect = false
  /-- No request follows `Disconnect`. -/
  last : Always (fun earlier a => a.isRequest = true → ∀ b ∈ earlier, b.isDisconnect = false) l

/-- The transcript of a run, as the session remembers it. -/
structure CleanupInv (s : Session) (l : List Action) : Prop where
  starts : l.filterMap Action.startOutcome = s.stage.startOutcome.toList
  cancels : l.countP Action.isCancel = s.stage.cancels
  verdict : l.any Action.isVerdict = s.stage.isSettled
  connections : l.any Action.isConnection = s.connected
  disconnects : l.countP Action.isDisconnect = s.closed.toNat
  cancel_after : Always (fun earlier a => a.isCancel = true →
    .start (.ok true) ∈ earlier ∧ ∀ b ∈ earlier, b.isDisconnect = false) l
  last : Always (fun earlier a => a.isRequest = true → ∀ b ∈ earlier, b.isDisconnect = false) l

variable {pause_after_seconds : Option ℚ} {s s' : Session} {l : List Action} {a : Action}

/-- The start requests of a transcript are the entries that have an outcome of one. -/
theorem mem_filterMap_startOutcome {outcome : Except StdException Bool} :
    outcome ∈ l.filterMap Action.startOutcome ↔ .start outcome ∈ l := by
  rw [List.mem_filterMap]
  constructor
  · rintro ⟨a, ha, houtcome⟩
    cases a with
    | start o =>
      cases houtcome
      exact ha
    | _ => cases houtcome
  · exact fun h => ⟨_, h, rfl⟩

namespace CleanupInv

/-- The one start request of a transcript is the one that the session remembers. -/
theorem start_mem_iff (h : CleanupInv s l) {outcome : Except StdException Bool} :
    .start outcome ∈ l ↔ s.stage.startOutcome = some outcome := by
  rw [← mem_filterMap_startOutcome, h.starts, Option.mem_toList]

/-- A session that is not closed has not disconnected. -/
theorem isDisconnect_eq_false (h : CleanupInv s l) (hs : s.closed = false) :
    ∀ b ∈ l, b.isDisconnect = false := by
  have hcount := h.disconnects
  rw [hs, Bool.toNat_false, List.countP_eq_zero] at hcount
  exact fun b hb => eq_false_of_ne_true (hcount b hb)

/-- The invariant holds of a session that has done nothing. -/
theorem init : CleanupInv {} [] :=
  ⟨rfl, rfl, rfl, rfl, rfl, always_nil, always_nil⟩

/-- The steps of a session preserve the invariant. -/
theorem step (h : CleanupInv s l) (hstep : Session.Step pause_after_seconds s a s') :
    CleanupInv s' (l ++ [a]) where
  starts := by
    rw [List.filterMap_append, h.starts, hstep.startOutcome]
    cases a <;> rfl
  cancels := by rw [List.countP_append, List.countP_singleton, h.cancels, hstep.cancels]
  verdict := by
    rw [List.any_append, List.any_cons, List.any_nil, Bool.or_false, h.verdict, hstep.isSettled]
  connections := by
    rw [List.any_append, List.any_cons, List.any_nil, Bool.or_false, h.connections, hstep.connected]
  disconnects := by rw [List.countP_append, List.countP_singleton, h.disconnects, hstep.closed]
  cancel_after := by
    refine always_append_singleton.2 ⟨h.cancel_after, fun ha => ?_⟩
    cases hstep with
    | cancel _ hs =>
      -- The session that cancels is abandoned: its navigation was accepted, and it is still open.
      have hstart : s.stage.startOutcome = some (.ok true) := by rw [hs.stage]; rfl
      exact ⟨h.start_mem_iff.2 hstart, h.isDisconnect_eq_false hs.closed⟩
    | _ => cases ha
  last := always_append_singleton.2
    ⟨h.last, fun ha => h.isDisconnect_eq_false (hstep.closed_of_isRequest ha)⟩

/-- A session whose navigation was accepted ends with a verdict or with a cancel. -/
theorem verdict_or_cancel (h : CleanupInv s l) (hidle : s.stage.isIdle = true)
    (hstart : .start (.ok true) ∈ l) :
    (∃ result, .returned result ∈ l ∧ result.terminal.isSome = true) ∨
      l.countP Action.isCancel = 1 := by
  have hstage := h.start_mem_iff.1 hstart
  have hverdict := h.verdict
  have hcancels := h.cancels
  -- Of the idle stages, only these two have a navigation that was accepted.
  cases hs : s.stage with
  | settled result =>
    rw [hs, Stage.isSettled, List.any_eq_true] at hverdict
    obtain ⟨a, ha, hterminal⟩ := hverdict
    cases a with
    | returned result => exact .inl ⟨result, ha, hterminal⟩
    | _ => cases hterminal
  | canceled =>
    rw [hs] at hcancels
    exact .inr hcancels
  | navigating resumed | paused | abandoned => rw [hs] at hidle; cases hidle
  | preparing | refused | unanswered e => rw [hs] at hstage; cases hstage

/-- A session whose start request threw knows of no verdict and cancels nothing. -/
theorem no_verdict_of_unanswered (h : CleanupInv s l) {e : StdException}
    (hstart : .start (.error e) ∈ l) :
    (¬∃ result, .returned result ∈ l ∧ result.terminal.isSome = true) ∧
      l.countP Action.isCancel = 0 := by
  have hstage : s.stage = .unanswered e := by
    have houtcome := h.start_mem_iff.1 hstart
    cases hs : s.stage with
    | unanswered e' =>
      rw [hs] at houtcome
      cases houtcome
      rfl
    | _ => rw [hs] at houtcome; cases houtcome
  have hverdict := h.verdict
  have hcancels := h.cancels
  rw [hstage] at hverdict hcancels
  refine ⟨?_, hcancels⟩
  rintro ⟨result, hmem, hterminal⟩
  exact Bool.noConfusion (hverdict.symm.trans (List.any_eq_true.2 ⟨_, hmem, hterminal⟩))

/-- A session that was never accepted cancels nothing. -/
theorem no_cancel_of_not_accepted (h : CleanupInv s l) (hstart : .start (.ok true) ∉ l) :
    ∀ a ∈ l, a.isCancel = false := by
  have hcancels := h.cancels
  have hstage : s.stage.cancels = 0 := by
    cases hs : s.stage with
    | canceled => exact absurd (h.start_mem_iff.2 (by rw [hs]; rfl)) hstart
    | _ => rfl
  rw [hstage, List.countP_eq_zero] at hcancels
  exact fun a ha => eq_false_of_ne_true (hcancels a ha)

/-- A session is connected when `Connect` has returned. -/
theorem connect_mem_iff (h : CleanupInv s l) : .connect (.ok ()) ∈ l ↔ s.connected = true := by
  rw [← h.connections, List.any_eq_true]
  constructor
  · exact fun hmem => ⟨_, hmem, rfl⟩
  · rintro ⟨a, hmem, ha⟩
    cases a with
    | connect outcome =>
      cases outcome with
      | error e => cases ha
      | ok u => exact hmem
    | _ => cases ha

/-- When a session has ended, its transcript meets the law unless the reply to the start request was
lost. -/
theorem cleanupLaw_iff (h : CleanupInv s l) (hidle : s.stage.isIdle = true)
    (hclosed : s.closed = s.connected) :
    CleanupLaw l ↔
      ∀ code message, .start (.error (.amr code message)) ∈ l → code.isReceiveSide = false := by
  constructor
  · intro hlaw code message hstart
    by_contra hcode
    rw [Bool.not_eq_false] at hcode
    -- The law asks for a verdict or a cancel, and there is neither.
    obtain ⟨hverdict, hcancel⟩ := h.no_verdict_of_unanswered hstart
    rcases hlaw.accepted _ hstart hcode with hlaw | ⟨hlaw, -⟩
    · exact hverdict hlaw
    · rw [hcancel] at hlaw
      cases hlaw
  · intro hanswered
    refine ⟨?_, ?_, ?_, ?_, h.last⟩
    · intro outcome hstart haccepted
      -- A start that was possibly accepted and did not throw returned `true`.
      obtain rfl : outcome = .ok true := by
        match outcome with
        | .ok accepted => exact congrArg _ haccepted
        | .error (.amr code message) =>
          exact Bool.noConfusion (haccepted.symm.trans (hanswered code message hstart))
      exact (h.verdict_or_cancel hidle hstart).imp_right fun hcancel => ⟨hcancel, h.cancel_after⟩
    · intro hrefused
      exact h.no_cancel_of_not_accepted fun hmem => nomatch hrefused _ hmem
    · intro hconnect
      rw [h.disconnects, hclosed, h.connect_mem_iff.1 hconnect, Bool.toNat_true]
    · intro hconnect
      rw [h.connect_mem_iff, Bool.not_eq_true] at hconnect
      exact h.isDisconnect_eq_false (hclosed.trans hconnect)

end CleanupInv

/-- A run of `main` that has returned has cancelled and disconnected as it should, exactly when no
start request threw an error of the receive side. -/
theorem main_cleanup {stod : Stod} {argv : List String} {w w' : Host} {code : ℤ} {h : History}
    (hrun : Steps host ⟨main stod argv, w, []⟩ ⟨.ret code, w', h⟩) :
    CleanupLaw (transcript h) ↔ ∀ code message,
      .start (.error (.amr code message)) ∈ transcript h → code.isReceiveSide = false := by
  obtain ⟨s, hinv, hends⟩ := main_session_invariant CleanupInv.init (fun _ _ _ _ h => h.step) hrun
  rcases hends with hended | rfl
  · exact hinv.cleanupLaw_iff hended.idle hended.closed
  · exact hinv.cleanupLaw_iff rfl rfl

/-! ## The reply that is lost -/

/-- The transcript of a run whose start request times out on its reply. -/
def lostReply : List Action :=
  [.construct (.ok ()), .connect (.ok ()), .inspect, .inspect, .inspect,
    .start (.error (.amr .kRecvTimeout "receive timeout")), .disconnect (.ok ())]

/-- When the reply to the start request is lost, `main` disconnects and cancels nothing. -/
theorem lostReply_run : ∃ w' h, Steps host ⟨main noStod oneTarget, ⟨false, 0⟩, []⟩ ⟨.ret 1, w', h⟩ ∧
    transcript h = lostReply := by
  have hrun : CanEnd host (main noStod oneTarget)
      (fun r _ h => r = .ok 1 ∧ transcript h = lostReply) ⟨false, 0⟩ [] := by
    have hparse : parseOptions noStod oneTarget =
      .ok { amr_ip := "192.168.192.5", source_id := "LM1", target_ids := ["LM2"] } := rfl
    refine main_canEnd (by decide) hparse (host_ready _).construct fun h₁ hh₁ => ?_
    refine navigate_canEnd (host_calm 0) (host_ready _) (.error (.amr .kRecvTimeout "receive timeout"))
      (fun _ => ⟨false, 0⟩) (fun _ => host_answers _ _ _) (fun _ => host_answers _ _ _)
      fun commands h₂ hh₂ => ?_
    exact cleanup_canEnd (host_answers _ _ _) (host_answers _ _ _) fun h₃ hh₃ =>
      ⟨rfl, by rw [hh₃, hh₂, hh₁]; rfl⟩
  obtain ⟨r, w', h, hsteps, rfl, hh⟩ := hrun
  exact ⟨w', h, hsteps, hh⟩

/-- The equivalence, in the run that loses the reply to its start request. -/
theorem main_cleanup_at_lostReply : ∃ w' h,
    Steps host ⟨main noStod oneTarget, ⟨false, 0⟩, []⟩ ⟨.ret 1, w', h⟩ ∧
      transcript h = lostReply ∧ (CleanupLaw (transcript h) ↔ ∀ code message,
        .start (.error (.amr code message)) ∈ transcript h → code.isReceiveSide = false) := by
  obtain ⟨w', h, hrun, hh⟩ := lostReply_run
  exact ⟨w', h, hrun, hh, main_cleanup hrun⟩

/-- A run that loses the reply to its start request breaks the law: the robot may drive on, and is
not told to stop. -/
theorem main_cleanup_lostReply : ∃ w' h,
    Steps host ⟨main noStod oneTarget, ⟨false, 0⟩, []⟩ ⟨.ret 1, w', h⟩ ∧
      transcript h = lostReply ∧ ¬CleanupLaw (transcript h) := by
  obtain ⟨w', h, hrun, hh⟩ := lostReply_run
  refine ⟨w', h, hrun, hh, fun hlaw => ?_⟩
  rw [hh] at hlaw
  rcases hlaw.accepted (.error (.amr .kRecvTimeout "receive timeout"))
    (by simp [lostReply]) rfl with ⟨result, hmem, -⟩ | ⟨hcancel, -⟩
  · simp [lostReply] at hmem
  · revert hcancel
    decide

end FlexivAmr
