import FlexivAmr.Interaction.Program
import Mathlib.Logic.Relation

/-!
# Runs of a program in an environment

An `Environment` says which answers the world may give to each call, and how the world may move on
its own between two calls. A program runs in it by single steps (`Step`) over configurations that
carry the rest of the program, the world, and the history of calls and answers so far. A loop takes
a step of its own to start its next round.

`CanEnd` says that some run of a program ends with a given postcondition. Its rules follow the
program's structure, and they construct runs the way that a proof about all runs takes them apart.
-/

namespace Interaction

variable {Op : Type} {Ans : Op → Type} {ε ε' W W' α β σ : Type}

/-- A call and its answer. -/
abbrev Event (Ans : Op → Type) : Type := (op : Op) × Ans op

/-- What surrounds a program: the answers it may get, and the world's own moves. -/
structure Environment (Ans : Op → Type) (W : Type) where
  /-- In the world `w`, the call `op` may be answered with `a`, leaving the world `w'`. -/
  answers (w : W) (op : Op) (a : Ans op) (w' : W) : Prop
  /-- The world may move from `w` to `w'` with no call of the program. -/
  moves (w w' : W) : Prop

/-- The world moves on its own, any number of times. -/
abbrev Environment.Drifts (E : Environment Ans W) : W → W → Prop := Relation.ReflTransGen E.moves

/-- A point of a run: the rest of the program, the world, and the history so far. -/
structure Config (Ans : Op → Type) (ε W α : Type) where
  /-- The rest of the program. -/
  program : Program Ans ε α
  /-- The world around it. -/
  world : W
  /-- The calls made so far, each with its answer. -/
  history : List (Event Ans)

/-- One step of a run: a call with its answer, the start of a loop's round, or a move of the
world. -/
inductive Step (E : Environment Ans W) : Config Ans ε W α → Config Ans ε W α → Prop
  /-- The program makes a call, and the environment answers it. -/
  | call {op : Op} {next : Ans op → Program Ans ε α} {w w' : W} {h : List (Event Ans)}
      {a : Ans op} (answer : E.answers w op a w') :
      Step E ⟨.call op next, w, h⟩ ⟨next a, w', h ++ [⟨op, a⟩]⟩
  /-- A loop starts a round. -/
  | round {σ β : Type} {body : σ → Program Ans ε (β ⊕ σ)} {s : σ}
      {next : β → Program Ans ε α} {w : W} {h : List (Event Ans)} :
      Step E ⟨.iter body s next, w, h⟩
        ⟨(body s).bind (Sum.elim next fun s' => .iter body s' next), w, h⟩
  /-- The world moves on its own. -/
  | move {p : Program Ans ε α} {w w' : W} {h : List (Event Ans)} (move : E.moves w w') :
      Step E ⟨p, w, h⟩ ⟨p, w', h⟩

/-- A run of any number of steps. -/
abbrev Steps (E : Environment Ans W) : Config Ans ε W α → Config Ans ε W α → Prop :=
  Relation.ReflTransGen (Step E)

variable {E : Environment Ans W}

/-- The configuration of a program inside a longer one. -/
def Config.bind (c : Config Ans ε W α) (f : α → Program Ans ε β) : Config Ans ε W β :=
  ⟨c.program.bind f, c.world, c.history⟩

/-- The configuration of a program inside a `try` block. -/
def Config.attempt (c : Config Ans ε W α) : Config Ans ε' W (Except ε α) :=
  ⟨c.program.attempt, c.world, c.history⟩

/-- A step of a program is a step of any longer one. -/
theorem Step.bind {c c' : Config Ans ε W α} (hstep : Step E c c') (f : α → Program Ans ε β) :
    Step E (c.bind f) (c'.bind f) := by
  cases hstep with
  | call answer => exact .call answer
  | @round σ' β' body s next w h =>
    -- The continuation after one round is the same, whichever sequencing comes first.
    have hnext : (fun r => (Sum.elim next (fun s' => .iter body s' next) r).bind f) =
        Sum.elim (fun b => (next b).bind f) fun s' => .iter body s' fun b => (next b).bind f := by
      funext r
      cases r <;> rfl
    simp only [Config.bind, Program.bind_assoc, hnext]
    exact .round
  | move hmove => exact .move hmove

/-- A step of a program is a step of the `try` block around it. -/
theorem Step.attempt {c c' : Config Ans ε W α} (hstep : Step E c c') :
    Step E (c.attempt : Config Ans ε' W (Except ε α)) c'.attempt := by
  cases hstep with
  | call answer => exact .call answer
  | @round σ' β' body s next w h =>
    simp only [Config.attempt, Program.attempt_round]
    exact .round
  | move hmove => exact .move hmove

/-- A run of a program is a run of any longer one. -/
theorem Steps.bind {c c' : Config Ans ε W α} (hrun : Steps E c c') (f : α → Program Ans ε β) :
    Steps E (c.bind f) (c'.bind f) :=
  hrun.lift (Config.bind · f) fun _ _ hstep => hstep.bind f

/-- A run of a program is a run of the `try` block around it. -/
theorem Steps.attempt {c c' : Config Ans ε W α} (hrun : Steps E c c') :
    Steps E (c.attempt : Config Ans ε' W (Except ε α)) c'.attempt :=
  hrun.lift Config.attempt fun _ _ hstep => hstep.attempt

/-! ## Runs in other environments -/

/-- The configuration around which the world is only seen through `f`. -/
def Config.mapWorld (f : W → W') (c : Config Ans ε W α) : Config Ans ε W' α :=
  ⟨c.program, f c.world, c.history⟩

/-- A run in one environment is a run in every environment that allows more. -/
theorem Steps.mapWorld {E' : Environment Ans W'} (f : W → W')
    (hanswers : ∀ w op a w', E.answers w op a w' → E'.answers (f w) op a (f w'))
    (hmoves : ∀ w w', E.moves w w' → E'.moves (f w) (f w')) {c c' : Config Ans ε W α}
    (hrun : Steps E c c') : Steps E' (c.mapWorld f) (c'.mapWorld f) := by
  refine hrun.lift (Config.mapWorld f) fun _ _ hstep => ?_
  cases hstep with
  | call answer => exact .call (hanswers _ _ _ _ answer)
  | round => exact .round
  | move hmove => exact .move (hmoves _ _ hmove)

/-- The environment that gives only those answers that `P` allows. -/
def Environment.restrict (E : Environment Ans W) (P : Event Ans → Prop) : Environment Ans W where
  answers w op a w' := E.answers w op a w' ∧ P ⟨op, a⟩
  moves := E.moves

/-- A run in whose history every event satisfies `P` is a run in the environment restricted to
`P`. -/
theorem Steps.restrict {P : Event Ans → Prop} {c c' : Config Ans ε W α} (hrun : Steps E c c')
    (hP : ∀ e ∈ c'.history, P e) : Steps (E.restrict P) c c' := by
  induction hrun with
  | refl => exact .refl
  | tail _ hstep ih =>
    cases hstep with
    | call answer =>
      -- What came before the last call satisfies `P` too.
      have hlast := hP _ (List.mem_append_right _ (List.mem_singleton_self _))
      exact .tail (ih fun e he => hP e (List.mem_append_left _ he)) (.call ⟨answer, hlast⟩)
    | round => exact .tail (ih hP) .round
    | move hmove => exact .tail (ih hP) (.move hmove)

/-! ## Runs that end -/

/-- Some run of `p` from the world `w` and the history `h` ends, and `Q` holds of its result and of
the world and the history that it leaves. -/
def CanEnd (E : Environment Ans W) (p : Program Ans ε α)
    (Q : Except ε α → W → List (Event Ans) → Prop) (w : W) (h : List (Event Ans)) : Prop :=
  ∃ r w' h', Steps E ⟨p, w, h⟩ ⟨.ended r, w', h'⟩ ∧ Q r w' h'

namespace CanEnd

variable {p : Program Ans ε α} {Q Q' : Except ε α → W → List (Event Ans) → Prop} {w w' : W}
  {h : List (Event Ans)}

/-- A program that returns. -/
theorem ret {a : α} (hQ : Q (.ok a) w h) : CanEnd E (.ret a) Q w h := ⟨_, _, _, .refl, hQ⟩

/-- A program that raises. -/
theorem raise {e : ε} (hQ : Q (.error e) w h) : CanEnd E (.raise e) Q w h := ⟨_, _, _, .refl, hQ⟩

/-- A call, by the choice of an answer that the environment may give. -/
theorem call {op : Op} {next : Ans op → Program Ans ε α} (a : Ans op)
    (answer : E.answers w op a w') (hnext : CanEnd E (next a) Q w' (h ++ [⟨op, a⟩])) :
    CanEnd E (.call op next) Q w h := by
  obtain ⟨r, v, g, hrun, hQ⟩ := hnext
  exact ⟨r, v, g, .head (.call answer) hrun, hQ⟩

/-- A loop, by its next round. -/
theorem round {body : σ → Program Ans ε (β ⊕ σ)} {s : σ} {next : β → Program Ans ε α}
    (hround : CanEnd E ((body s).bind (Sum.elim next fun s' => .iter body s' next)) Q w h) :
    CanEnd E (.iter body s next) Q w h := by
  obtain ⟨r, v, g, hrun, hQ⟩ := hround
  exact ⟨r, v, g, .head .round hrun, hQ⟩

/-- A world that moves first. -/
theorem move (hmove : E.moves w w') (hp : CanEnd E p Q w' h) : CanEnd E p Q w h := by
  obtain ⟨r, v, g, hrun, hQ⟩ := hp
  exact ⟨r, v, g, .head (.move hmove) hrun, hQ⟩

/-- A world that drifts first. -/
theorem drift (hdrift : E.Drifts w w') (hp : CanEnd E p Q w' h) : CanEnd E p Q w h := by
  induction hdrift using Relation.ReflTransGen.head_induction_on with
  | refl => exact hp
  | head hmove _ ih => exact .move hmove ih

/-- A weaker postcondition. -/
theorem mono (hp : CanEnd E p Q w h) (himp : ∀ r w h, Q r w h → Q' r w h) :
    CanEnd E p Q' w h := by
  obtain ⟨r, v, g, hrun, hQ⟩ := hp
  exact ⟨r, v, g, hrun, himp _ _ _ hQ⟩

/-- A sequence, by its first program. -/
theorem bind {f : α → Program Ans ε β} {R : Except ε β → W → List (Event Ans) → Prop}
    (hp : CanEnd E p (fun
      | .ok a, w, h => CanEnd E (f a) R w h
      | .error e, w, h => R (.error e) w h) w h) :
    CanEnd E (p.bind f) R w h := by
  obtain ⟨r, v, g, hrun, hR⟩ := hp
  have hfirst := hrun.bind f
  cases r with
  | ok a =>
    obtain ⟨r, v', g', hrun', hR⟩ := hR
    exact ⟨r, v', g', hfirst.trans hrun', hR⟩
  | error e => exact ⟨.error e, v, g, hfirst, hR⟩

/-- A `try` block, by the program inside it. -/
theorem attempt {R : Except ε' (Except ε α) → W → List (Event Ans) → Prop}
    (hp : CanEnd E p (fun r w h => R (.ok r) w h) w h) : CanEnd E p.attempt R w h := by
  obtain ⟨r, v, g, hrun, hR⟩ := hp
  refine ⟨.ok r, v, g, ?_, hR⟩
  have hblock : Steps E (Config.attempt ⟨p, w, h⟩ : Config Ans ε' W (Except ε α)) _ :=
    hrun.attempt
  cases r <;> exact hblock

/-- A replaced exception, by the program that it leaves. -/
theorem mapError {f : ε → ε'} {R : Except ε' α → W → List (Event Ans) → Prop}
    (hp : CanEnd E p (fun r w h => R (r.mapError f) w h) w h) : CanEnd E (p.mapError f) R w h := by
  refine .bind (.attempt (hp.mono ?_))
  intro r w h hR
  exact ⟨_, w, h, .refl, hR⟩

end CanEnd

end Interaction
