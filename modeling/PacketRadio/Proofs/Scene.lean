import PacketRadio.Proofs.Mirror

/-!
# Scenes

A radio in its world, and what becomes of both while turns are taken.

A `Scene` is all that determines how things go on. `Scene.after` is the scene
some turns later, and `Scene.calls` are the calls that were made on the way.
The former is the plain run, the latter the record of a run in observed
surroundings, and `Scene.observed_turns` says that these are one run: observed
or not, the answers, the radio and the world are the same. From here on, what a
radio does is read off `Scene.calls`, and what it is off `Scene.after`.

Both are compatible with cutting a run into parts, and for a single turn
`Scene.turned` gives the rule that was followed. An induction over turns that
puts the last one apart needs nothing else.

## Main definitions

* `Radio.turns`: Taking turns one after another.
* `Scene`: A radio in its world.
* `Scene.start`: A radio that was just built.
* `Scene.after`, `Scene.calls`: The outcome of turns, and the calls in them.

## Theorems

* `Scene.observed_turns`: A run is not disturbed by being observed.
* `Scene.after_append`, `Scene.calls_append`: Runs in parts.
* `Scene.turned`: One turn follows the rules.
-/

namespace PacketRadio

variable {τ σ ω : Type}

namespace Radio

/-- Take turns one after another. The answers come in their order. -/
def turns [Transport τ ω] [Link σ ω] (radio : Radio τ σ ω) :
    List (Turn ω) → StateM ω (List Bool × Radio τ σ ω)
  | [] => pure ([], radio)
  | turn :: rest => do
    let (wish, radio) ← radio.turn turn
    let (wishes, radio) ← radio.turns rest
    return (wish :: wishes, radio)

theorem turns_append [Transport τ ω] [Link σ ω] (radio : Radio τ σ ω)
    (first second : List (Turn ω)) :
    radio.turns (first ++ second) =
      (do
        let (wishes, radio) ← radio.turns first
        let (more, radio) ← radio.turns second
        return (wishes ++ more, radio)) := by
  induction first generalizing radio with
  | nil => rfl
  | cons turn rest ih => simp only [List.cons_append, turns, ih, bind_assoc, pure_bind]

theorem mirrors_turns [Transport τ ω] [Link σ ω] (radio : Radio τ σ ω)
    (turns : List (Turn ω)) (world : ω) :
    Mirrors (radio.observed.turns (turns.map Turn.observed)) (radio.turns turns)
      (Prod.map id observed) world fun _ _ => True := by
  induction turns generalizing radio world with
  | nil => exact Mirrors.pure (Prod.map id observed) ([], radio) trivial
  | cons turn rest ih =>
      refine Mirrors.bind (radio.mirrors_turn turn world) fun answer calls _ => ?_
      refine Mirrors.bind (ih answer.2 _) fun last more _ => ?_
      exact Mirrors.pure (Prod.map id observed) (answer.1 :: last.1, last.2) trivial

end Radio

/-- A radio in its world. -/
structure Scene (τ σ ω : Type) where
  radio : Radio τ σ ω
  -- The radio shares it with its surroundings.
  world : ω

namespace Scene

/-- The scene in which a radio was just built. -/
def start [Transport τ ω] (settings : Settings) (period : Period) (link : σ) (world : ω) :
    Scene τ σ ω :=
  let (radio, world) := Radio.start settings period link world
  ⟨radio, world⟩

variable [Transport τ ω] [Link σ ω]

/-- The scene after some turns. -/
def after (scene : Scene τ σ ω) (turns : List (Turn ω)) : Scene τ σ ω :=
  let ((_, radio), world) := scene.radio.turns turns scene.world
  ⟨radio, world⟩

/-- The answers to some turns. -/
def wishes (scene : Scene τ σ ω) (turns : List (Turn ω)) : List Bool :=
  (scene.radio.turns turns scene.world).1.1

/-- The calls made in some turns: what is recorded if the turns are taken in
    observed surroundings. -/
def calls (scene : Scene τ σ ω) (turns : List (Turn ω)) : List (Call ω) :=
  (scene.radio.observed.turns (turns.map Turn.observed) ⟨scene.world, []⟩).2.events

/-- A run is not disturbed by being observed, whatever was recorded before. -/
theorem observed_turns (scene : Scene τ σ ω) (turns : List (Turn ω)) (earlier : List (Call ω)) :
    scene.radio.observed.turns (turns.map Turn.observed) ⟨scene.world, earlier⟩ =
      ((scene.wishes turns, (scene.after turns).radio.observed),
        ⟨(scene.after turns).world, earlier ++ scene.calls turns⟩) :=
  (scene.radio.mirrors_turns turns scene.world).recorded.1 earlier

@[simp] theorem after_nil (scene : Scene τ σ ω) : scene.after [] = scene := rfl

@[simp] theorem calls_nil (scene : Scene τ σ ω) : scene.calls [] = [] := rfl

theorem after_append (scene : Scene τ σ ω) (first second : List (Turn ω)) :
    scene.after (first ++ second) = (scene.after first).after second := by
  simp only [after, Radio.turns_append]
  rfl

theorem calls_append (scene : Scene τ σ ω) (first second : List (Turn ω)) :
    scene.calls (first ++ second) =
      scene.calls first ++ (scene.after first).calls second := by
  have hfirst := scene.observed_turns first []
  -- The second part is recorded behind the first, which does not change it.
  have hsecond := (scene.after first).observed_turns second ([] ++ scene.calls first)
  simp only [calls, List.map_append, Radio.turns_append, bind, StateT.bind]
  rw [hfirst]
  simp only [hsecond]
  rfl

/-- One turn follows the rules. -/
theorem turned (scene : Scene τ σ ω) (turn : Turn ω) :
    scene.radio.Turned turn (scene.calls [turn]) (scene.radio.turn turn scene.world).1.1
      (scene.after [turn]).radio :=
  (scene.radio.mirrors_turn turn scene.world).recorded.2

end Scene

end PacketRadio
