import FlexivAmr.Interaction.Traces
import FlexivAmr.Interaction.Triple

/-!
# Programs with the same outcomes

Two programs over different calls are compared in two environments that surround them with the same
world (`Comparison`), by what an observer can see of their calls. `Refines` says that every finished
run of the first program is matched by one of the second, between the same worlds, with the same
observations and a related result, and `Equivalent` says so in both directions. The environments of
the two directions need not be the same, so a program may be allowed more when it is to match the
other than when it is matched. Calls that cannot be observed need not agree, nor be equally many.

Both are congruences (`Refines.bind`, `Refines.attempt`, `Refines.loop`), so two programs of the
same structure are compared part by part, and where they are built differently, by the outcomes of
that part alone.
-/

namespace Interaction

open Program

variable {Op Op' : Type} {Ans : Op → Type} {Ans' : Op' → Type} {ε ε' ζ ζ' W O : Type}
  {α α' β β' σ σ' : Type}

/-- Results that are both values, related by `A`, or both exceptions, related by `B`. -/
inductive Related (A : α → α' → Prop) (B : ε → ε' → Prop) : Except ε α → Except ε' α' → Prop
  | ok {a : α} {a' : α'} (ha : A a a') : Related A B (.ok a) (.ok a')
  | error {e : ε} {e' : ε'} (he : B e e') : Related A B (.error e) (.error e')

/-- Two environments around one world, that let it move alike, and what is observed of the calls
made in each. -/
structure Comparison (Ans : Op → Type) (Ans' : Op' → Type) (W O : Type) where
  left : Environment Ans W
  right : Environment Ans' W
  observeLeft : Event Ans → Option O
  observeRight : Event Ans' → Option O
  moves_iff : ∀ w w', left.moves w w' ↔ right.moves w w'

variable {C : Comparison Ans Ans' W O} {D : Comparison Ans' Ans W O} {A : α → α' → Prop}
  {B : ε → ε' → Prop} {p : Program Ans ε α} {p' : Program Ans' ε' α'}

/-- Every finished run of `p` is matched by one of `p'`. -/
def Refines (C : Comparison Ans Ans' W O) (A : α → α' → Prop) (B : ε → ε' → Prop)
    (p : Program Ans ε α) (p' : Program Ans' ε' α') : Prop :=
  ∀ n w h r w', Outcome C.left n p w h r w' → ∃ n' h' r', Outcome C.right n' p' w h' r' w' ∧
    Related A B r r' ∧ h'.filterMap C.observeRight = h.filterMap C.observeLeft

namespace Refines

/-- Programs that have ended. -/
theorem ended {r : Except ε α} {r' : Except ε' α'} (hr : Related A B r r') :
    Refines C A B (.ended r) (.ended r') := by
  intro n w h r₁ w' hp
  generalize hq : (Program.ended r : Program Ans ε α) = q at hp
  induction hp with
  | ret a w =>
    cases hr with
    | ok ha =>
      cases hq
      exact ⟨0, [], _, .ret _ w, .ok ha, rfl⟩
    | error he => cases hq
  | raise e w =>
    cases hr with
    | ok ha => cases hq
    | error he =>
      cases hq
      exact ⟨0, [], _, .raise _ w, .error he, rfl⟩
  | call => cases hr <;> cases hq
  | round => cases hr <;> cases hq
  | move hmove _ ih =>
    obtain ⟨n', h', r', hp', hr', hobs⟩ := ih hq
    exact ⟨n' + 1, h', r', .move ((C.moves_iff _ _).1 hmove) hp', hr', hobs⟩

/-- Programs that return. -/
theorem ret {a : α} {a' : α'} (ha : A a a') : Refines C A B (.ret a) (.ret a') :=
  (ended (.ok ha) :)

/-- Programs that raise. -/
theorem raise {e : ε} {e' : ε'} (he : B e e') : Refines C A B (.raise e) (.raise e') :=
  (ended (.error he) :)

/-- Two calls, by an answer of the second for each answer of the first. -/
theorem call {op : Op} {op' : Op'} {next : Ans op → Program Ans ε α}
    {next' : Ans' op' → Program Ans' ε' α'} (L : Ans op → Ans' op' → Prop)
    (hans : ∀ w a w', C.left.answers w op a w' → ∃ a', L a a' ∧ C.right.answers w op' a' w')
    (hobs : ∀ a a', L a a' → C.observeRight ⟨op', a'⟩ = C.observeLeft ⟨op, a⟩)
    (hnext : ∀ a a', L a a' → Refines C A B (next a) (next' a')) :
    Refines C A B (.call op next) (.call op' next') := by
  intro n w h r w' hp
  generalize hq : Program.call op next = q at hp
  induction hp with
  | ret | raise | round => cases hq
  | call answer hrest =>
    cases hq
    obtain ⟨a', hL, answer'⟩ := hans _ _ _ answer
    obtain ⟨n', h', r', hp', hr', hobs'⟩ := hnext _ a' hL _ _ _ _ _ hrest
    refine ⟨n' + 1, _, r', .call answer' hp', hr', ?_⟩
    rw [List.filterMap_cons, List.filterMap_cons, hobs _ a' hL, hobs']
  | move hmove _ ih =>
    obtain ⟨n', h', r', hp', hr', hobs'⟩ := ih hq
    exact ⟨n' + 1, h', r', .move ((C.moves_iff _ _).1 hmove) hp', hr', hobs'⟩

/-- A call of the first program that is not observed and leaves the world as it is. -/
theorem hidden {op : Op} {next : Ans op → Program Ans ε α}
    (hans : ∀ w a w', C.left.answers w op a w' → w' = w)
    (hobs : ∀ a, C.observeLeft ⟨op, a⟩ = none) (hnext : ∀ a, Refines C A B (next a) p') :
    Refines C A B (.call op next) p' := by
  intro n w h r w' hp
  generalize hq : Program.call op next = q at hp
  induction hp with
  | ret | raise | round => cases hq
  | call answer hrest =>
    cases hq
    obtain rfl := hans _ _ _ answer
    rw [List.filterMap_cons_none (hobs _)]
    exact hnext _ _ _ _ _ _ hrest
  | move hmove _ ih =>
    obtain ⟨n', h', r', hp', hr', hobs'⟩ := ih hq
    exact ⟨n' + 1, h', r', .move ((C.moves_iff _ _).1 hmove) hp', hr', hobs'⟩

/-- Such a call of the second program. -/
theorem hidden_right {op : Op'} {next : Ans' op → Program Ans' ε' α'} (a : Ans' op)
    (hans : ∀ w, C.right.answers w op a w) (hobs : C.observeRight ⟨op, a⟩ = none)
    (hnext : Refines C A B p (next a)) : Refines C A B p (.call op next) := by
  intro n w h r w' hp
  obtain ⟨n', h', r', hp', hr, hobs'⟩ := hnext _ _ _ _ _ hp
  refine ⟨n' + 1, _, r', .call (hans w) hp', hr, ?_⟩
  rw [List.filterMap_cons_none hobs, hobs']

/-- A call of the first program that is not observed, leaves the world as it is, and has one
answer. -/
theorem known {op : Op} {next : Ans op → Program Ans ε α} (a : Ans op)
    (hans : ∀ w a' w', C.left.answers w op a' w' → a' = a ∧ w' = w)
    (hobs : C.observeLeft ⟨op, a⟩ = none) (hnext : Refines C A B (next a) p') :
    Refines C A B (.call op next) p' := by
  intro n w h r w' hp
  generalize hq : Program.call op next = q at hp
  induction hp with
  | ret | raise | round => cases hq
  | call answer hrest =>
    cases hq
    obtain ⟨rfl, rfl⟩ := hans _ _ _ answer
    rw [List.filterMap_cons_none hobs]
    exact hnext _ _ _ _ _ hrest
  | move hmove _ ih =>
    obtain ⟨n', h', r', hp', hr', hobs'⟩ := ih hq
    exact ⟨n' + 1, h', r', .move ((C.moves_iff _ _).1 hmove) hp', hr', hobs'⟩

/-- A call that does at once what the second program does in calls that are not observed. -/
theorem atomic (op : Op) {f : Ans op → Except ε α} (hobs : ∀ a, C.observeLeft ⟨op, a⟩ = none)
    (hrun : ∀ w a w', C.left.answers w op a w' → CanEnd C.right p' (fun r' w₁ h' =>
      Related A B (f a) r' ∧ w₁ = w' ∧ h'.filterMap C.observeRight = []) w []) :
    Refines C A B (.call op fun a => .ended (f a)) p' := by
  intro n w h r w' hp
  generalize hq : (Program.call op fun a => .ended (f a)) = q at hp
  induction hp with
  | ret | raise | round => cases hq
  | @call n _ _ w w₁ w' a h r answer hrest =>
    cases hq
    obtain ⟨rfl, rfl, hdrift⟩ := outcome_ended_iff.1 ⟨n, hrest⟩
    obtain ⟨r', _, h', hsteps, hr', rfl, hobs'⟩ := hrun _ _ _ answer
    obtain ⟨n', h', rfl, hp'⟩ := exists_outcome hsteps
    have hdrift' := Relation.ReflTransGen.mono (fun _ _ hmove => (C.moves_iff _ _).1 hmove) _ _ hdrift
    obtain ⟨m, hp'⟩ := hp'.drift_right hdrift'
    refine ⟨m, h', r', hp', hr', ?_⟩
    rw [List.filterMap_cons_none (hobs a)]
    exact hobs'
  | move hmove _ ih =>
    obtain ⟨n', h', r', hp', hr', hobs'⟩ := ih hq
    exact ⟨n' + 1, h', r', .move ((C.moves_iff _ _).1 hmove) hp', hr', hobs'⟩

/-- Sequences. -/
theorem bind {G : β → β' → Prop} {f : α → Program Ans ε β} {f' : α' → Program Ans' ε' β'}
    (hp : Refines C A B p p') (hf : ∀ a a', A a a' → Refines C G B (f a) (f' a')) :
    Refines C G B (p.bind f) (p'.bind f') := by
  intro n w h r w' hpf
  obtain ⟨n₁, n₂, h₁, h₂, r₁, w₁, -, rfl, hp₁, hf₂⟩ := hpf.of_bind
  obtain ⟨n₁', h₁', r₁', hp₁', hr₁, hobs₁⟩ := hp _ _ _ _ _ hp₁
  have hrest : Refines C G B ((Program.ended r₁).bind f) ((Program.ended r₁').bind f') := by
    cases hr₁ with
    | ok ha => exact hf _ _ ha
    | error he => exact ended (.error he)
  obtain ⟨n₂', h₂', r', hf₂', hr, hobs₂⟩ := hrest _ _ _ _ _ hf₂
  refine ⟨n₁' + n₂', h₁' ++ h₂', r', hp₁'.bind hf₂', hr, ?_⟩
  rw [List.filterMap_append, List.filterMap_append, hobs₁, hobs₂]

/-- Sequences in which the two programs go on with the same value. -/
theorem bind_same {G : β → β' → Prop} {q : Program Ans ε α} {q' : Program Ans' ε' α}
    {f : α → Program Ans ε β} {f' : α → Program Ans' ε' β'} (hq : Refines C Eq B q q')
    (hf : ∀ a, Refines C G B (f a) (f' a)) : Refines C G B (q.bind f) (q'.bind f') := by
  refine hq.bind ?_
  rintro a _ rfl
  exact hf a

/-- `try` blocks. -/
theorem attempt {D : ζ → ζ' → Prop} (hp : Refines C A B p p') :
    Refines C (Related A B) D p.attempt p'.attempt := by
  intro n w h r w' hblock
  obtain ⟨r₁, rfl, hp₁⟩ := hblock.of_attempt
  obtain ⟨n', h', r', hp', hr, hobs⟩ := hp _ _ _ _ _ hp₁
  exact ⟨n', h', .ok r', hp'.attempt, .ok hr, hobs⟩

/-- Loops, by a relation between their states that matching rounds preserve. -/
theorem loop {body : σ → Program Ans ε (α ⊕ σ)} {body' : σ' → Program Ans' ε' (α' ⊕ σ')}
    {s : σ} {s' : σ'} (I : σ → σ' → Prop) (hs : I s s')
    (hround : ∀ s s', I s s' → Refines C (Sum.LiftRel A I) B (body s) (body' s')) :
    Refines C A B (.loop s body) (.loop s' body') := by
  intro n
  -- The rounds that are left after one round take fewer steps.
  induction n using Nat.strongRecOn generalizing s s' with
  | ind n ih =>
    intro w h r w' hp
    unfold Program.loop at hp
    cases hp with
    | round hrest =>
      obtain ⟨n₁, n₂, h₁, h₂, r₁, w₁, hn, rfl, hbody, hnext⟩ := hrest.of_bind
      obtain ⟨n₁', h₁', r₁', hbody', hr₁, hobs₁⟩ := hround s s' hs _ _ _ _ _ hbody
      have hrest : ∃ n' h' r', Outcome C.right n' ((Program.ended r₁').bind
          (Sum.elim .ret fun s' => .iter body' s' .ret)) w₁ h' r' w' ∧ Related A B r r' ∧
            h'.filterMap C.observeRight = h₂.filterMap C.observeLeft := by
        cases hr₁ with
        | ok hab =>
          cases hab with
          | inl ha => exact ended (.ok ha) _ _ _ _ _ hnext
          | inr hI => exact ih n₂ (by omega) hI _ _ _ _ hnext
        | error he => exact ended (.error he) _ _ _ _ _ hnext
      obtain ⟨n₂', h₂', r', hnext', hr, hobs₂⟩ := hrest
      refine ⟨n₁' + n₂' + 1, h₁' ++ h₂', r', .round (hbody'.bind hnext'), hr, ?_⟩
      rw [List.filterMap_append, List.filterMap_append, hobs₁, hobs₂]
    | move hmove hrest =>
      obtain ⟨n', h', r', hp', hr, hobs⟩ := ih _ (Nat.lt_succ_self _) hs _ _ _ _ hrest
      exact ⟨n' + 1, h', r', .move ((C.moves_iff _ _).1 hmove) hp', hr, hobs⟩

/-- What holds of the second program's runs holds of the first's. -/
theorem triple {P : W → Prop} {Q : Except ε α → W → Prop} {Q' : Except ε' α' → W → Prop}
    (hp : Refines C A B p p') (hp' : Triple C.right P p' Q')
    (hQ : ∀ r r' w, Related A B r r' → Q' r' w → Q r w) : Triple C.left P p Q := by
  intro n w h r w' hw hrun
  obtain ⟨n', h', r', hrun', hr, -⟩ := hp _ _ _ _ _ hrun
  exact hQ r r' w' hr (hp' _ _ _ _ _ hw hrun')

/-- A finer relation between the results. -/
theorem mono {A' : α → α' → Prop} {B' : ε → ε' → Prop} (hp : Refines C A B p p')
    (hA : ∀ a a', A a a' → A' a a') (hB : ∀ e e', B e e' → B' e e') : Refines C A' B' p p' := by
  intro n w h r w' hrun
  obtain ⟨n', h', r', hp', hr, hobs⟩ := hp _ _ _ _ _ hrun
  refine ⟨n', h', r', hp', ?_, hobs⟩
  cases hr with
  | ok ha => exact .ok (hA _ _ ha)
  | error he => exact .error (hB _ _ he)

end Refines

/-- Each program refines the other. -/
structure Equivalent (C : Comparison Ans Ans' W O) (D : Comparison Ans' Ans W O)
    (A : α → α' → Prop) (B : ε → ε' → Prop) (p : Program Ans ε α) (p' : Program Ans' ε' α') :
    Prop where
  refines : Refines C A B p p'
  refined : Refines D (flip A) (flip B) p' p

namespace Equivalent

/-- Programs that return. -/
theorem ret {a : α} {a' : α'} (ha : A a a') : Equivalent C D A B (.ret a) (.ret a') where
  refines := .ret ha
  refined := .ret ha

/-- Programs that raise. -/
theorem raise {e : ε} {e' : ε'} (he : B e e') : Equivalent C D A B (.raise e) (.raise e') where
  refines := .raise he
  refined := .raise he

/-- Two calls, by answers that correspond. -/
theorem call {op : Op} {op' : Op'} {next : Ans op → Program Ans ε α}
    {next' : Ans' op' → Program Ans' ε' α'} (L : Ans op → Ans' op' → Prop)
    (hans : ∀ w a w', C.left.answers w op a w' → ∃ a', L a a' ∧ C.right.answers w op' a' w')
    (hans' : ∀ w a' w', D.left.answers w op' a' w' → ∃ a, L a a' ∧ D.right.answers w op a w')
    (hobs : ∀ a a', L a a' → C.observeRight ⟨op', a'⟩ = C.observeLeft ⟨op, a⟩)
    (hobs' : ∀ a a', L a a' → D.observeRight ⟨op, a⟩ = D.observeLeft ⟨op', a'⟩)
    (hnext : ∀ a a', L a a' → Equivalent C D A B (next a) (next' a')) :
    Equivalent C D A B (.call op next) (.call op' next') where
  refines := .call L hans hobs fun a a' hL => (hnext a a' hL).refines
  refined := .call (flip L) hans' (fun a' a hL => hobs' a a' hL)
    fun a' a hL => (hnext a a' hL).refined

/-- A call of the first program that is not observed and leaves the world as it is. -/
theorem hidden {op : Op} {next : Ans op → Program Ans ε α} (a : Ans op)
    (hans : ∀ w a w', C.left.answers w op a w' → w' = w) (hans' : ∀ w, D.right.answers w op a w)
    (hobs : ∀ a, C.observeLeft ⟨op, a⟩ = none) (hobs' : D.observeRight ⟨op, a⟩ = none)
    (hnext : ∀ a, Equivalent C D A B (next a) p') : Equivalent C D A B (.call op next) p' where
  refines := .hidden hans hobs fun a => (hnext a).refines
  refined := .hidden_right a hans' hobs' (hnext a).refined

/-- Sequences. -/
theorem bind {G : β → β' → Prop} {f : α → Program Ans ε β} {f' : α' → Program Ans' ε' β'}
    (hp : Equivalent C D A B p p') (hf : ∀ a a', A a a' → Equivalent C D G B (f a) (f' a')) :
    Equivalent C D G B (p.bind f) (p'.bind f') where
  refines := hp.refines.bind fun a a' ha => (hf a a' ha).refines
  refined := hp.refined.bind fun a' a ha => (hf a a' ha).refined

/-- Sequences in which the two programs go on with the same value. -/
theorem bind_same {G : β → β' → Prop} {q : Program Ans ε α} {q' : Program Ans' ε' α}
    {f : α → Program Ans ε β} {f' : α → Program Ans' ε' β'} (hq : Equivalent C D Eq B q q')
    (hf : ∀ a, Equivalent C D G B (f a) (f' a)) :
    Equivalent C D G B (q.bind f) (q'.bind f') := by
  refine hq.bind ?_
  rintro a _ rfl
  exact hf a

/-- `try` blocks. -/
theorem attempt {F : ζ → ζ' → Prop} (hp : Equivalent C D A B p p') :
    Equivalent C D (Related A B) F p.attempt p'.attempt where
  refines := hp.refines.attempt
  refined := hp.refined.attempt.mono (fun r' r hr => by cases hr with
    | ok ha => exact .ok ha
    | error he => exact .error he) fun _ _ hF => hF

/-- Loops. -/
theorem loop {body : σ → Program Ans ε (α ⊕ σ)} {body' : σ' → Program Ans' ε' (α' ⊕ σ')}
    {s : σ} {s' : σ'} (I : σ → σ' → Prop) (hs : I s s')
    (hround : ∀ s s', I s s' → Equivalent C D (Sum.LiftRel A I) B (body s) (body' s')) :
    Equivalent C D A B (.loop s body) (.loop s' body') where
  refines := .loop I hs fun s s' hI => (hround s s' hI).refines
  refined := .loop (flip I) hs fun s' s hI => (hround s s' hI).refined.mono
    (fun r' r hr => by cases hr with
      | inl ha => exact .inl ha
      | inr hI => exact .inr hI) fun _ _ hB => hB

/-- Replaced exceptions. -/
theorem mapError {F : ζ → ζ' → Prop} {f : ε → ζ} {f' : ε' → ζ'} (hp : Equivalent C D A B p p')
    (hf : ∀ e e', B e e' → F (f e) (f' e')) :
    Equivalent C D A F (p.mapError f) (p'.mapError f') := by
  refine hp.attempt.bind fun r r' hr => ?_
  cases hr with
  | ok ha => exact .ret ha
  | error he => exact .raise (hf _ _ he)

end Equivalent

/-- A run of the first program to its end, and the run of the second that matches it. -/
theorem Refines.exists_steps (hp : Refines C A B p p') {w w' : W} {r : Except ε α}
    {h : List (Event Ans)} (hrun : Steps C.left ⟨p, w, []⟩ ⟨.ended r, w', h⟩) :
    ∃ r' h', Steps C.right ⟨p', w, []⟩ ⟨.ended r', w', h'⟩ ∧ Related A B r r' ∧
      h'.filterMap C.observeRight = h.filterMap C.observeLeft := by
  obtain ⟨n, h, rfl, houtcome⟩ := exists_outcome hrun
  obtain ⟨n', h', r', houtcome', hr, hobs⟩ := hp _ _ _ _ _ houtcome
  exact ⟨r', h', houtcome'.steps [], hr, hobs⟩

end Interaction
