import FlexivAmr.Basic

/-!
# Programs that poll

The basic program is written twice, in C++ and in Python, to one pattern: requests that open a
session, then rounds of the same requests until the signal comes or a request fails, and
`Disconnect`. `Poller` is the pattern, over the requests, the reading of the stop flag and the sleep
of either language, and `Session` is the language of its traces. The two are shown to agree once,
for both programs (`session_of_traces`, `traces_of_session`).
-/

namespace FlexivAmr.Basic

open Interaction Program

/-- The requests that open the session. -/
def opening (amr_ip : String) : List Request :=
  [.construct { host := amr_ip, auto_connect := false }, .connect, .isConnected, .getAmrInfo]

/-- The requests of a round. -/
def roundRequests : List Request :=
  [.getAmrPose, .getBatteryStatus, .getNavigationStatus, .getTaskStatus, .getLocationStatus,
    .getUltrasonicData, .getEncoderData, .getImuData, .isConnected]

variable {Op : Type} {Ans : Op → Type} {J ε : Type}

/-- A request of a trace, and how it has ended. -/
abbrev Exchange (J ε : Type) : Type := (request : Request) × Except ε (request.Reply J)

/-! ## The requests -/

section Language

-- What the log lines for a reply throw, and what the sleep between two rounds does, if they do.
variable (log : (request : Request) → request.Reply J → Except ε Unit) (slept : Except ε Unit)

/-- The requests are made one after the other, up to the first one that throws or whose reply cannot
be logged. -/
inductive Asked : List Request → List (Exchange J ε) → Except ε Unit → Prop
  | nil : Asked [] [] (.ok ())
  | thrown {request : Request} {requests : List Request} (e : ε) :
    Asked (request :: requests) [⟨request, .error e⟩] (.error e)
  | unlogged {request : Request} {requests : List Request} {reply : request.Reply J} {e : ε}
    (hlog : log request reply = .error e) :
    Asked (request :: requests) [⟨request, .ok reply⟩] (.error e)
  | replied {request : Request} {requests : List Request} {reply : request.Reply J}
    {t : List (Exchange J ε)} {r : Except ε Unit} (hlog : log request reply = .ok ())
    (later : Asked requests t r) : Asked (request :: requests) (⟨request, .ok reply⟩ :: t) r

/-- The requests of the rounds: the signal comes between two rounds, or a round fails, or the sleep
after a round does. -/
inductive Polls : List (Exchange J ε) → Except ε Unit → Prop
  | stopped : Polls [] (.ok ())
  | failed {t : List (Exchange J ε)} {e : ε} (round : Asked log roundRequests t (.error e)) :
    Polls t (.ok ())
  | unslept {t : List (Exchange J ε)} {e : ε} (round : Asked log roundRequests t (.ok ()))
    (sleep : slept = .error e) : Polls t (.error e)
  | round {t t' : List (Exchange J ε)} {r : Except ε Unit}
    (round : Asked log roundRequests t (.ok ())) (sleep : slept = .ok ()) (later : Polls t' r) :
    Polls (t ++ t') r

/-- The requests of a session that the given ones open, and how it ends. -/
inductive Session (requests : List Request) : List (Exchange J ε) → Except ε Unit → Prop
  | unopened {t : List (Exchange J ε)} {e : ε} (opened : Asked log requests t (.error e)) :
    Session requests t (.error e)
  | unslept {t t' : List (Exchange J ε)} {e : ε} (opened : Asked log requests t (.ok ()))
    (polls : Polls log slept t' (.error e)) : Session requests (t ++ t') (.error e)
  | disconnected {t t' : List (Exchange J ε)} (opened : Asked log requests t (.ok ()))
    (polls : Polls log slept t' (.ok ())) (last : Except ε Unit) :
    Session requests (t ++ (t' ++ [⟨.disconnect, last⟩])) last

/-- A session whose first request has returned and is logged goes on with the others. -/
theorem session_cons_iff {log : (request : Request) → request.Reply J → Except ε Unit}
    {slept : Except ε Unit} {request : Request} {requests : List Request} {reply : request.Reply J}
    {t : List (Exchange J ε)} {r : Except ε Unit} (hlog : log request reply = .ok ()) :
    Session log slept (request :: requests) (⟨request, .ok reply⟩ :: t) r ↔
      Session log slept requests t r := by
  have hlater : ∀ {t' r'}, Asked log (request :: requests) t' r' → ∀ t₂,
      t' ++ t₂ = ⟨request, .ok reply⟩ :: t →
      ∃ t₁, Asked log requests t₁ r' ∧ t₁ ++ t₂ = t := by
    intro t' r' hasked t₂ ht
    cases hasked with
    | thrown e => cases ht
    | unlogged hlog' =>
      cases ht
      rw [hlog] at hlog'
      cases hlog'
    | @replied _ _ _ t₁ _ _ later =>
      cases ht
      exact ⟨t₁, later, rfl⟩
  constructor
  · generalize ht : (⟨request, .ok reply⟩ :: t : List (Exchange J ε)) = t'
    intro hsession
    cases hsession with
    | unopened hopened =>
      obtain ⟨t₁, hopened', rfl⟩ := hlater hopened [] ((List.append_nil _).trans ht.symm)
      rw [List.append_nil]
      exact .unopened hopened'
    | unslept hopened hpolls =>
      obtain ⟨t₁, hopened', rfl⟩ := hlater hopened _ ht.symm
      exact .unslept hopened' hpolls
    | disconnected hopened hpolls =>
      obtain ⟨t₁, hopened', rfl⟩ := hlater hopened _ ht.symm
      exact .disconnected hopened' hpolls _
  · intro hsession
    cases hsession with
    | unopened hopened => exact .unopened (.replied hlog hopened)
    | unslept hopened hpolls => exact .unslept (.replied hlog hopened) hpolls
    | disconnected hopened hpolls => exact .disconnected (.replied hlog hopened) hpolls _

/-- The exit code that the end of the `try` block of `main` leads to. -/
def exitCode : Except ε Unit → ℤ
  | .ok () => 0
  | .error _ => 1

end Language

/-! ## The programs -/

/-- What a program that polls is made of. -/
structure Poller (Ans : Op → Type) (J ε : Type) where
  /-- A request to the client. -/
  ask : (request : Request) → Program Ans ε (request.Reply J)
  /-- The lines that log a reply. -/
  log : (request : Request) → request.Reply J → Except ε Unit
  /-- The reading of the stop flag. -/
  stop : Program Ans ε Bool
  /-- The sleep between two rounds, and how it ends. -/
  sleep : Program Ans ε Unit
  slept : Except ε Unit

namespace Poller

variable (P : Poller Ans J ε)

/-- Requests in a row, each of which is logged before the next one is made. -/
def askAll : List Request → Program Ans ε Unit
  | [] => .ret ()
  | request :: requests =>
    (P.ask request).bind fun reply =>
      (Program.ended (P.log request reply)).bind fun _ => askAll requests

/-- The body of the loop. -/
def poll : Program Ans ε (Unit ⊕ Unit) :=
  (P.askAll roundRequests).attempt.bind fun
    | .error _ => .ret (.inl ())
    | .ok () => P.sleep.bind fun _ => .ret (.inr ())

/-- A round of the loop: its condition and its body. -/
def pollRound : Program Ans ε (Unit ⊕ Unit) :=
  P.stop.bind fun stop => if stop then .ret (.inl ()) else P.poll

/-- The session that the requests open. -/
def session (requests : List Request) : Program Ans ε Unit :=
  (P.askAll requests).bind fun _ => (loop () fun _ => P.pollRound).bind fun _ => P.ask .disconnect

/-- The environment leaves the parts of the program what they are: a request may end in any way, the
flag is read as it is, and it can become set. -/
structure Plain (E : Environment Ans Host) (observe : Event Ans → Option (Exchange J ε)) : Prop where
  ask {request : Request} {w w' : Host} {t : List (Exchange J ε)}
    {outcome : Except ε (request.Reply J)} :
    Traces E observe (P.ask request) w t outcome w' ↔ t = [⟨request, outcome⟩] ∧ E.Drifts w w'
  stop {w w' : Host} {t : List (Exchange J ε)} {r : Except ε Bool} :
    Traces E observe P.stop w t r w' ↔
      ∃ w₁, E.Drifts w w₁ ∧ E.Drifts w₁ w' ∧ r = .ok w₁.stop_requested ∧ t = []
  sleep {w w' : Host} {t : List (Exchange J ε)} {r : Except ε Unit} :
    Traces E observe P.sleep w t r w' ↔ r = P.slept ∧ t = [] ∧ E.Drifts w w'
  signal (w : Host) : E.Drifts w { w with stop_requested := true }

variable {P} {E : Environment Ans Host} {observe : Event Ans → Option (Exchange J ε)} {w w' : Host}
  {t : List (Exchange J ε)} {requests : List Request}

/-- What requests in a row show. -/
theorem traces_askAll (hP : P.Plain E observe) {r : Except ε Unit} :
    Traces E observe (P.askAll requests) w t r w' ↔ Asked P.log requests t r ∧ E.Drifts w w' := by
  induction requests generalizing w t r with
  | nil =>
    constructor
    · intro htrace
      obtain ⟨rfl, rfl, hdrift⟩ := traces_ret.1 htrace
      exact ⟨.nil, hdrift⟩
    · rintro ⟨⟨⟩, hdrift⟩
      exact traces_ret.2 ⟨rfl, rfl, hdrift⟩
  | cons request requests ih =>
    have hnext : ∀ {reply : request.Reply J} {w t}, Traces E observe
        ((Program.ended (P.log request reply)).bind fun _ => P.askAll requests) w t r w' ↔
        ((∃ e, P.log request reply = .error e ∧ r = .error e ∧ t = []) ∨
          (P.log request reply = .ok () ∧ Asked P.log requests t r)) ∧ E.Drifts w w' := by
      intro reply w t
      cases hlog : P.log request reply with
      | error e =>
        refine traces_raise.trans ?_
        simp [and_assoc]
      | ok _ =>
        refine ih.trans ?_
        simp
    refine traces_bind.trans ?_
    constructor
    · rintro ⟨t₁, t₂, r₁, w₁, hfirst, hrest, rfl⟩
      obtain ⟨rfl, hdrift⟩ := hP.ask.1 hfirst
      rcases r₁ with e | reply
      · obtain ⟨rfl, rfl, hdrift'⟩ := traces_raise.1 hrest
        exact ⟨.thrown e, hdrift.trans hdrift'⟩
      · obtain ⟨⟨e, hlog, rfl, rfl⟩ | ⟨hlog, hlater⟩, hdrift'⟩ := hnext.1 hrest
        · exact ⟨.unlogged hlog, hdrift.trans hdrift'⟩
        · exact ⟨.replied hlog hlater, hdrift.trans hdrift'⟩
    · rintro ⟨hasked, hdrift⟩
      cases hasked with
      | thrown e =>
        exact ⟨[⟨request, .error e⟩], [], .error e, w', hP.ask.2 ⟨rfl, hdrift⟩,
          traces_raise.2 ⟨rfl, rfl, .refl⟩, rfl⟩
      | @unlogged _ _ reply e hlog =>
        exact ⟨[⟨request, .ok reply⟩], [], .ok reply, w', hP.ask.2 ⟨rfl, hdrift⟩,
          hnext.2 ⟨.inl ⟨e, hlog, rfl, rfl⟩, .refl⟩, rfl⟩
      | @replied _ _ reply t _ hlog later =>
        exact ⟨[⟨request, .ok reply⟩], t, .ok reply, w', hP.ask.2 ⟨rfl, hdrift⟩,
          hnext.2 ⟨.inr ⟨hlog, later⟩, .refl⟩, rfl⟩

/-- What the body of the loop may show, and where it leaves the loop. -/
inductive Polled (P : Poller Ans J ε) : List (Exchange J ε) → Except ε (Unit ⊕ Unit) → Prop
  | failed {t : List (Exchange J ε)} {e : ε} (round : Asked P.log roundRequests t (.error e)) :
    Polled P t (.ok (.inl ()))
  | unslept {t : List (Exchange J ε)} {e : ε} (round : Asked P.log roundRequests t (.ok ()))
    (sleep : P.slept = .error e) : Polled P t (.error e)
  | slept {t : List (Exchange J ε)} (round : Asked P.log roundRequests t (.ok ()))
    (sleep : P.slept = .ok ()) : Polled P t (.ok (.inr ()))

/-- What the body of the loop shows. -/
theorem traces_poll (hP : P.Plain E observe) {r : Except ε (Unit ⊕ Unit)} :
    Traces E observe P.poll w t r w' ↔ P.Polled t r ∧ E.Drifts w w' := by
  have hwait : ∀ {w t}, Traces E observe (P.sleep.bind fun _ => .ret (.inr ())) w t r w' ↔
      r = P.slept.map .inr ∧ t = [] ∧ E.Drifts w w' := by
    intro w t
    refine traces_bind.trans ⟨?_, ?_⟩
    · rintro ⟨t₁, t₂, r₁, w₁, hsleep, hrest, rfl⟩
      obtain ⟨rfl, rfl, hdrift⟩ := hP.sleep.1 hsleep
      cases hslept : P.slept with
      | error e =>
        rw [hslept] at hrest
        obtain ⟨rfl, rfl, hdrift'⟩ := traces_raise.1 hrest
        exact ⟨rfl, rfl, hdrift.trans hdrift'⟩
      | ok _ =>
        rw [hslept] at hrest
        obtain ⟨rfl, rfl, hdrift'⟩ := traces_ret.1 hrest
        exact ⟨rfl, rfl, hdrift.trans hdrift'⟩
    · rintro ⟨rfl, rfl, hdrift⟩
      refine ⟨[], [], P.slept, w', hP.sleep.2 ⟨rfl, rfl, hdrift⟩, ?_, rfl⟩
      cases P.slept with
      | error e => exact traces_raise.2 ⟨rfl, rfl, .refl⟩
      | ok _ => exact traces_ret.2 ⟨rfl, rfl, .refl⟩
  refine traces_bind.trans ?_
  constructor
  · rintro ⟨t₁, t₂, r₁, w₁, hpoll, hrest, rfl⟩
    obtain ⟨r₂, rfl, htrace⟩ := traces_attempt.1 hpoll
    obtain ⟨hasked, hdrift⟩ := (traces_askAll hP).1 htrace
    cases r₂ with
    | error e =>
      obtain ⟨rfl, rfl, hdrift'⟩ := traces_ret.1 hrest
      rw [List.append_nil]
      exact ⟨.failed hasked, hdrift.trans hdrift'⟩
    | ok _ =>
      obtain ⟨rfl, rfl, hdrift'⟩ := hwait.1 hrest
      rw [List.append_nil]
      refine ⟨?_, hdrift.trans hdrift'⟩
      cases hslept : P.slept with
      | error e => exact .unslept hasked hslept
      | ok _ => exact .slept hasked hslept
  · rintro ⟨hpolled, hdrift⟩
    have hpoll : ∀ {r₂ : Except ε Unit}, Asked P.log roundRequests t r₂ →
        Traces E observe ((P.askAll roundRequests).attempt : Program Ans ε _) w t (.ok r₂) w' := by
      intro r₂ hasked
      exact traces_attempt.2 ⟨r₂, rfl, (traces_askAll hP).2 ⟨hasked, hdrift⟩⟩
    cases hpolled with
    | failed hasked =>
      exact ⟨t, [], _, w', hpoll hasked, traces_ret.2 ⟨rfl, rfl, .refl⟩, (List.append_nil t).symm⟩
    | unslept hasked hslept | slept hasked hslept =>
      exact ⟨t, [], _, w', hpoll hasked, hwait.2 ⟨by rw [hslept]; rfl, rfl, .refl⟩,
        (List.append_nil t).symm⟩

/-- What a round shows: nothing when the signal has come, and else its requests. -/
theorem traces_pollRound (hP : P.Plain E observe) {r : Except ε (Unit ⊕ Unit)} :
    Traces E observe P.pollRound w t r w' ↔ ∃ w₁, E.Drifts w w₁ ∧ E.Drifts w₁ w' ∧
      ((w₁.stop_requested = true ∧ t = [] ∧ r = .ok (.inl ())) ∨
        (w₁.stop_requested = false ∧ P.Polled t r)) := by
  refine traces_bind.trans ?_
  constructor
  · rintro ⟨t₁, t₂, r₁, w₂, hstop, hrest, rfl⟩
    obtain ⟨w₁, hdrift, hdrift', rfl, rfl⟩ := hP.stop.1 hstop
    refine ⟨w₁, hdrift, ?_⟩
    cases hflag : w₁.stop_requested with
    | true =>
      rw [hflag] at hrest
      obtain ⟨rfl, rfl, hdrift''⟩ := traces_ret.1 hrest
      exact ⟨hdrift'.trans hdrift'', .inl ⟨rfl, rfl, rfl⟩⟩
    | false =>
      rw [hflag] at hrest
      obtain ⟨hpolled, hdrift''⟩ := (traces_poll hP).1 hrest
      exact ⟨hdrift'.trans hdrift'', .inr ⟨rfl, hpolled⟩⟩
  · rintro ⟨w₁, hdrift, hdrift', hround⟩
    refine ⟨[], t, .ok w₁.stop_requested, w₁, hP.stop.2 ⟨w₁, hdrift, .refl, rfl, rfl⟩, ?_, rfl⟩
    rcases hround with ⟨hflag, rfl, rfl⟩ | ⟨hflag, hpolled⟩
    · rw [hflag]
      exact traces_ret.2 ⟨rfl, rfl, hdrift'⟩
    · rw [hflag]
      exact (traces_poll hP).2 ⟨hpolled, hdrift'⟩

/-- The loop shows the requests of rounds. -/
theorem polls_of_rounds (hP : P.Plain E observe) {s : Unit} {r : Except ε Unit}
    (hrounds : Rounds E observe (fun _ => P.pollRound) s w t r w') : Polls P.log P.slept t r := by
  induction hrounds with
  | ended round =>
    obtain ⟨w₁, -, -, ⟨-, rfl, -⟩ | ⟨-, hpolled⟩⟩ := (traces_pollRound hP).1 round
    · exact .stopped
    · cases hpolled with
      | failed hasked => exact .failed hasked
  | raised round =>
    obtain ⟨w₁, -, -, ⟨-, -, hr⟩ | ⟨-, hpolled⟩⟩ := (traces_pollRound hP).1 round
    · cases hr
    · cases hpolled with
      | unslept hasked hslept => exact .unslept hasked hslept
  | more round _ ih =>
    obtain ⟨w₁, -, -, ⟨-, -, hr⟩ | ⟨-, hpolled⟩⟩ := (traces_pollRound hP).1 round
    · cases hr
    · cases hpolled with
      | slept hasked hslept => exact .round hasked hslept ih

/-- Before the signal, any rounds may follow. -/
theorem rounds_of_polls (hP : P.Plain E observe) {r : Except ε Unit}
    (hpolls : Polls P.log P.slept t r) (hstop : w.stop_requested = false) :
    ∃ w', Rounds E observe (fun _ => P.pollRound) () w t r w' := by
  have hround : ∀ {t : List (Exchange J ε)} {r₁ : Except ε (Unit ⊕ Unit)}, P.Polled t r₁ →
      Traces E observe P.pollRound w t r₁ w :=
    fun hpolled => (traces_pollRound hP).2 ⟨w, .refl, .refl, .inr ⟨hstop, hpolled⟩⟩
  induction hpolls with
  | stopped =>
    have hsignal := (traces_pollRound hP).2 ⟨_, hP.signal w, .refl, .inl ⟨rfl, rfl, rfl⟩⟩
    exact ⟨_, .ended hsignal⟩
  | failed hasked => exact ⟨w, .ended (hround (.failed hasked))⟩
  | unslept hasked hslept => exact ⟨w, .raised (hround (.unslept hasked hslept))⟩
  | round hasked hslept _ ih =>
    obtain ⟨w', hlater⟩ := ih
    exact ⟨w', .more (hround (.slept hasked hslept)) hlater⟩

/-- A session shows its requests. -/
theorem session_of_traces (hP : P.Plain E observe) {r : Except ε Unit}
    (htrace : Traces E observe (P.session requests) w t r w') :
    Session P.log P.slept requests t r := by
  obtain ⟨t₁, t₂, r₁, w₁, hopening, hrest, rfl⟩ := traces_bind.1 htrace
  obtain ⟨hopened, -⟩ := (traces_askAll hP).1 hopening
  cases r₁ with
  | error e =>
    obtain ⟨rfl, rfl, -⟩ := traces_raise.1 hrest
    rw [List.append_nil]
    exact .unopened hopened
  | ok _ =>
    have hloop : Traces E observe ((loop () fun _ => P.pollRound).bind fun _ => P.ask .disconnect) w₁
      t₂ r w' := hrest
    obtain ⟨t₃, t₄, r₃, w₃, hrounds, hdisconnect, rfl⟩ := traces_bind.1 hloop
    have hpolls := polls_of_rounds hP (traces_loop.1 hrounds)
    cases r₃ with
    | error e =>
      obtain ⟨rfl, rfl, -⟩ := traces_raise.1 hdisconnect
      rw [List.append_nil]
      exact .unslept hopened hpolls
    | ok _ =>
      obtain ⟨rfl, -⟩ := hP.ask.1 hdisconnect
      exact .disconnected hopened hpolls r

/-- Any requests of a session can be shown. -/
theorem traces_of_session (hP : P.Plain E observe) {r : Except ε Unit}
    (hsession : Session P.log P.slept requests t r) (hstop : w.stop_requested = false) :
    ∃ w', Traces E observe (P.session requests) w t r w' := by
  cases hsession with
  | @unopened t e hopened =>
    exact ⟨w, traces_bind.2 ⟨t, [], .error e, w, (traces_askAll hP).2 ⟨hopened, .refl⟩,
      traces_raise.2 ⟨rfl, rfl, .refl⟩, (List.append_nil t).symm⟩⟩
  | @unslept t t' e hopened hpolls =>
    obtain ⟨w', hrounds⟩ := rounds_of_polls hP hpolls hstop
    have hloop : Traces E observe ((loop () fun _ => P.pollRound).bind fun _ => P.ask .disconnect) w
        t' (.error e) w' :=
      traces_bind.2 ⟨t', [], .error e, w', traces_loop.2 hrounds, traces_raise.2 ⟨rfl, rfl, .refl⟩,
        (List.append_nil t').symm⟩
    exact ⟨w', traces_bind.2 ⟨t, t', .ok (), w, (traces_askAll hP).2 ⟨hopened, .refl⟩, hloop, rfl⟩⟩
  | @disconnected t t' hopened hpolls last =>
    obtain ⟨w', hrounds⟩ := rounds_of_polls hP hpolls hstop
    have hloop : Traces E observe ((loop () fun _ => P.pollRound).bind fun _ => P.ask .disconnect) w
        (t' ++ [⟨.disconnect, r⟩]) r w' :=
      traces_bind.2 ⟨t', _, .ok (), w', traces_loop.2 hrounds, hP.ask.2 ⟨rfl, .refl⟩, rfl⟩
    exact ⟨w', traces_bind.2 ⟨t, _, .ok (), w, (traces_askAll hP).2 ⟨hopened, .refl⟩, hloop, rfl⟩⟩

end Poller

end FlexivAmr.Basic
