import Mathlib.Data.List.Induction
import Mathlib.Data.Option.Basic
import PacketRadio.Proofs.Abreast
import PacketRadio.Proofs.Scene

/-!
# Runs Side by Side

Two runs of the same turns, in surroundings that are alike.

Radios that are alike take the same turns in the same way, whatever their
surroundings (`Proofs.Abreast`). The calls they make are not part of their
state, so they are compared in observed surroundings, where they are part of the
world. Calls of alike radios need not be equal: packets and answers are alike
and no more. What they have in common is said by a view `seen` of calls, and two
records are alike if they look the same through it, call by call. A pairing of
plain surroundings together with such a view is a pairing of observed ones
(`Pairing.watched`), and if the former is lawful, so is the latter.

`Scene.Alongside` is what two scenes have in common after some turns. It is kept
by one turn more, so an induction over turns carries it through a run. Ticks
have their condition: where somebody receives, the links must have the same for
him.

## Main definitions

* `Pairing.watched`, `Pairing.Sees`: Alike surroundings that are observed, and
  views through which alike calls look the same.
* `Scene.Alongside`: Two scenes go side by side.

## Theorems

* `Pairing.Lawful.watched`: Observed surroundings stay alike if plain ones do.
* `Scene.Alongside.start`, `Scene.Alongside.step`, `Scene.Alongside.run`: Scenes
  that go side by side from the start.
* `Scene.Alongside.filterMap_eq`, `Scene.Alongside.bindings_eq`: What is the same
  on both sides: whatever can be read off the calls, and the callbacks bound.
-/

namespace PacketRadio

variable {τ τ' σ σ' ω α β γ γ' κ : Type}

/-- What a callback does in a watched world, seen in the plain one. -/
def Binding.unobserved
    (binding : Binding (UInt64 → List UInt8 → Bool → StateM (Watched ω) β)) :
    Binding (UInt64 → List UInt8 → Bool → StateM ω β) where
  callback told bytes before world :=
    let (answer, after) := binding.callback told bytes before ⟨world, []⟩
    (answer, after.world)
  context := binding.context

/-- A callback that writes down what it is asked still does what it did. -/
theorem Binding.observedSource_injective :
    Function.Injective (Binding.observedSource (ω := ω)) :=
  Function.LeftInverse.injective (g := unobserved) fun _ => rfl

theorem Binding.observedSink_injective :
    Function.Injective (Binding.observedSink (ω := ω)) :=
  Function.LeftInverse.injective (g := unobserved) fun _ => rfl

theorem Exchange.Alike.bind {likeness : Likeness ω} {middle : α → β → Prop}
    {results : γ → γ' → Prop} {exchange : Exchange ω α} {exchange' : Exchange ω β}
    {next : α → Exchange ω γ} {next' : β → Exchange ω γ'}
    (h : exchange.Alike likeness middle exchange')
    (hnext : ∀ result result', middle result result' →
      (next result).Alike likeness results (next' result')) :
    (exchange >>= next).Alike likeness results (exchange' >>= next') := by
  induction h with
  | done hresult => exact hnext _ _ hresult
  | send hpacket _ ih => exact .send hpacket ih
  | accept _ ih => exact .accept ih
  | setBaud _ ih => exact .setBaud ih
  | look _ ih => exact .look ih
  | put hworlds _ ih => exact .put hworlds ih

namespace Pairing

/-- Observed surroundings are alike if the plain ones are, and if what was
    recorded looks the same. -/
def watched (pairing : Pairing τ τ' σ σ' ω) (seen : Call ω → κ) :
    Pairing (Observed τ) (Observed τ') (Observed σ) (Observed σ') (Watched ω) where
  worlds world world' :=
    pairing.worlds world.world world'.world ∧ world.events.map seen = world'.events.map seen
  links link link' := pairing.links link.inner link'.inner
  transports transport transport' := pairing.transports transport.inner transport'.inner
  packets := pairing.packets
  answers := pairing.answers

/-- Seen in this way, calls look the same in alike surroundings. -/
structure Sees (pairing : Pairing τ τ' σ σ' ω) (seen : Call ω → κ) : Prop where
  lease {granted granted' : Option Packet} :
    Option.Rel pairing.packets (granted.map fun packet => packet.reset .data)
      (granted'.map fun packet => packet.reset .data) →
    seen (.lease granted) = seen (.lease granted')
  transmit {packet packet' : Packet} :
    pairing.packets packet packet' → seen (.transmit packet) = seen (.transmit packet')
  pull {source : Binding (Source ω)} {packet packet' : Packet} {before after : Bool} {fill : Fill} :
    pairing.packets packet packet' →
    seen (.pull source packet.spare before fill after) =
      seen (.pull source packet'.spare before fill after)
  send {packet packet' : Packet} {answer answer' : Except LinkError Unit} :
    pairing.packets packet packet' → pairing.answers answer answer' →
    seen (.send packet.payload answer) = seen (.send packet'.payload answer')
  receive {fill fill' : Fill} :
    fill.claimed Junction.chunk = fill'.claimed Junction.chunk →
    seen (.receive Junction.chunk fill) = seen (.receive Junction.chunk fill')
  poll {answer answer' : Except LinkError Unit} :
    pairing.answers answer answer' → seen (.poll answer) = seen (.poll answer')

variable {pairing : Pairing τ τ' σ σ' ω} {seen : Call ω → κ} {world world' : Watched ω}

theorem abreast_lift {act : StateM ω γ} {act' : StateM ω γ'} {results : γ → γ' → Prop}
    (h : Abreast pairing.worlds act act' results world.world world'.world)
    (hevents : world.events.map seen = world'.events.map seen) :
    Abreast (pairing.watched seen).worlds (Recorded.lift act) (Recorded.lift act') results
      world world' :=
  ⟨h.1, h.2, hevents⟩

theorem worlds_note {call call' : Call ω} (h : (pairing.watched seen).worlds world world')
    (hseen : seen call = seen call') :
    (pairing.watched seen).worlds ⟨world.world, world.events ++ [call]⟩
      ⟨world'.world, world'.events ++ [call']⟩ := by
  refine ⟨h.1, ?_⟩
  rw [List.map_append, List.map_append, h.2, List.map_singleton, List.map_singleton, hseen]

theorem abreast_note {call call' : Call ω} (h : (pairing.watched seen).worlds world world')
    (hseen : seen call = seen call') :
    Abreast (pairing.watched seen).worlds (Recorded.note call) (Recorded.note call') Eq
      world world' :=
  ⟨rfl, worlds_note h hseen⟩

/-- Exchanges that are alike are so when they are observed. -/
theorem alike_observed {results : α → β → Prop} {exchange : Exchange ω α}
    {exchange' : Exchange ω β} (h : exchange.Alike pairing.toLikeness results exchange') :
    exchange.observed.Alike (pairing.watched seen).toLikeness results exchange'.observed := by
  induction h with
  | done hresult => exact .done hresult
  | send hpacket _ ih => exact .send hpacket ih
  | accept _ ih => exact .look fun _ _ hworlds => .put (worlds_note hworlds rfl) (.accept ih)
  | setBaud _ ih => exact .setBaud ih
  | look _ ih => exact .look fun _ _ hworlds => ih _ _ hworlds.1
  | put hleft _ ih => exact .look fun _ _ hworlds => .put ⟨hleft, hworlds.2⟩ ih

theorem alike_noted {call call' : Call ω} (hseen : seen call = seen call')
    {exchange : Exchange ω τ} {exchange' : Exchange ω τ'}
    (h : exchange.Alike pairing.toLikeness pairing.transports exchange') :
    (exchange.noted call).Alike (pairing.watched seen).toLikeness
      (pairing.watched seen).transports (exchange'.noted call') :=
  .look fun _ _ hworlds => .put (worlds_note hworlds hseen)
    ((alike_observed h).bind fun _ _ hresult => .done hresult)

theorem SteadySink.observed {sink : Binding (Sink ω)} (h : pairing.SteadySink sink) :
    (pairing.watched seen).SteadySink sink.observedSink := by
  intro data before world world' hworlds
  refine (abreast_lift (h data before hworlds.1) hworlds.2).bind
    fun answer answer' world world' hsame hworlds => ?_
  rw [← hsame]
  exact (abreast_note hworlds rfl).bind fun _ _ _ _ _ hworlds => .pure rfl hworlds

theorem SteadySource.observed (hsees : pairing.Sees seen) {source : Binding (Source ω)}
    (h : pairing.SteadySource source) :
    (pairing.watched seen).SteadySource source.observedSource := by
  intro packet packet' hpacket world world' hworlds
  refine (abreast_lift (h hpacket hworlds.1) hworlds.2).bind
    fun answer answer' world world' hanswer hworlds => ?_
  rw [← hanswer.1]
  exact (abreast_note hworlds (hsees.pull hpacket)).bind fun _ _ _ _ _ hworlds =>
    .pure ⟨rfl, hanswer.2⟩ hworlds

theorem SteadyTurn.observed (hsees : pairing.Sees seen) {turn : Turn ω}
    (h : pairing.SteadyTurn turn) : (pairing.watched seen).SteadyTurn turn.observed := by
  cases turn with
  | tick => trivial
  | request asked =>
      cases asked with
      | bindReceiver sink => exact SteadySink.observed h
      | bindSource source => exact SteadySource.observed hsees h
      | transmitReady available => trivial
      | receiveReady available => trivial
      | setBaud rate => trivial
      | inbound packet => trivial

variable [Transport τ ω] [Transport τ' ω] [Link σ ω] [Link σ' ω]

/-- Every observed component does what the plain one does, and then writes it
    down. -/
theorem Lawful.watched (h : pairing.Lawful) (hsees : pairing.Sees seen) :
    (pairing.watched seen).Lawful where
  length_eq := h.length_eq
  send hlink hpacket hworlds :=
    (abreast_lift (h.send hlink hpacket hworlds.1) hworlds.2).bind fun _ _ _ _ hanswer hworlds =>
      (abreast_note hworlds (hsees.send hpacket hanswer.1)).bind fun _ _ _ _ _ hworlds =>
        .pure hanswer hworlds
  poll hlink hworlds :=
    (abreast_lift (h.poll hlink hworlds.1) hworlds.2).bind fun _ _ _ _ hanswer hworlds =>
      (abreast_note hworlds (hsees.poll hanswer.1)).bind fun _ _ _ _ _ hworlds =>
        .pure hanswer hworlds
  read hlink hworlds hsame := by
    rcases h.read hlink hworlds.1 hsame with ⟨hlink, hnow⟩
    exact ⟨hlink, worlds_note ⟨hnow, hworlds.2⟩ (hsees.receive hsame)⟩
  start terms _ _ hworlds :=
    (abreast_lift (h.start terms hworlds.1) hworlds.2).bind fun _ _ _ _ hstarted hworlds =>
      .pure hstarted hworlds
  lease htransport hworlds :=
    (abreast_lift (h.lease htransport hworlds.1) hworlds.2).bind fun _ _ _ _ hanswer hworlds =>
      (abreast_note hworlds (hsees.lease hanswer.1)).bind fun _ _ _ _ _ hworlds =>
        .pure hanswer hworlds
  transmit htransport hpacket :=
    alike_noted (hsees.transmit hpacket) (h.transmit htransport hpacket)
  receive packet htransport := alike_noted rfl (h.receive packet htransport)

end Pairing

namespace Scene

section

variable [Transport τ ω] [Link σ ω]

/-- A turn in observed surroundings, whatever was recorded before. -/
theorem observed_turn (scene : Scene τ σ ω) (turn : Turn ω) (earlier : List (Call ω)) :
    scene.radio.observed.turn turn.observed ⟨scene.world, earlier⟩ =
      (((scene.radio.turn turn scene.world).1.1, (scene.after [turn]).radio.observed),
        ⟨(scene.after [turn]).world, earlier ++ scene.calls [turn]⟩) := by
  rcases scene.radio.mirrors_turn turn scene.world with ⟨events, hrun, -⟩
  have hcalls : scene.calls [turn] = events := by
    show (scene.radio.observed.turn turn.observed ⟨scene.world, []⟩).2.events = events
    rw [hrun []]
    rfl
  rw [hrun earlier, hcalls]
  rfl

theorem wishes_append (scene : Scene τ σ ω) (first second : List (Turn ω)) :
    scene.wishes (first ++ second) =
      scene.wishes first ++ (scene.after first).wishes second := by
  simp only [wishes, after, Radio.turns_append]
  rfl

end

variable [Transport τ ω] [Transport τ' ω] [Link σ ω] [Link σ' ω]

/-- Through some turns two scenes go side by side. -/
structure Alongside (pairing : Pairing τ τ' σ σ' ω) (seen : Call ω → κ) (scene : Scene τ σ ω)
    (scene' : Scene τ' σ' ω) (turns : List (Turn ω)) : Prop where
  -- What is bound are callbacks that write down what they are asked.
  radios : (pairing.watched seen).Radios (scene.after turns).radio.observed
    (scene'.after turns).radio.observed
  worlds : pairing.worlds (scene.after turns).world (scene'.after turns).world
  calls_eq : (scene.calls turns).map seen = (scene'.calls turns).map seen
  wishes_eq : scene.wishes turns = scene'.wishes turns

namespace Alongside

variable {pairing : Pairing τ τ' σ σ' ω} {seen : Call ω → κ} {scene : Scene τ σ ω}
  {scene' : Scene τ' σ' ω} {turns : List (Turn ω)}

/-- Radios start side by side that are built in alike surroundings. -/
theorem start (hlawful : pairing.Lawful) (settings : Settings) (period : Period) {link : σ}
    {link' : σ'} (hlink : pairing.links link link') {world world' : ω}
    (hworlds : pairing.worlds world world') :
    Alongside pairing seen (Scene.start settings period link world)
      (Scene.start settings period link' world') [] := by
  rcases hlawful.start (Radio.terms settings) hworlds with ⟨htransport, hnow⟩
  refine ⟨⟨rfl, rfl, rfl, rfl, nofun, ⟨hlink, rfl, nofun, rfl⟩, htransport, .none⟩, hnow, rfl, rfl⟩

theorem step (hlawful : pairing.Lawful) (hsees : pairing.Sees seen) {turn : Turn ω}
    (h : Alongside pairing seen scene scene' turns) (hsteady : pairing.SteadyTurn turn)
    (hintake : turn = .tick → (scene.after turns).radio.junction.receiver ≠ none →
      (scene.after turns).radio.junction.intake (scene.after turns).world =
        (scene'.after turns).radio.junction.intake (scene'.after turns).world) :
    Alongside pairing seen scene scene' (turns ++ [turn]) := by
  have hobserved : turn.observed = .tick →
      (scene.after turns).radio.observed.junction.receiver ≠ none →
      (scene.after turns).radio.observed.junction.intake
          ⟨(scene.after turns).world, scene.calls turns⟩ =
        (scene'.after turns).radio.observed.junction.intake
          ⟨(scene'.after turns).world, scene'.calls turns⟩ := by
    intro hturn hreceiver
    have htick : turn = .tick := by
      cases turn with
      | tick => rfl
      | request asked => exact nomatch hturn
    refine hintake htick fun hnone => hreceiver ?_
    exact congrArg (Option.map Binding.observedSink) hnone
  have hworlds : (pairing.watched seen).worlds ⟨(scene.after turns).world, scene.calls turns⟩
      ⟨(scene'.after turns).world, scene'.calls turns⟩ := ⟨h.worlds, h.calls_eq⟩
  have hturn := Pairing.abreast_turn (hlawful.watched hsees) h.radios hworlds
    (hsteady.observed hsees) hobserved
  rw [Abreast, observed_turn, observed_turn] at hturn
  rcases hturn with ⟨⟨hwish, hradios⟩, hworlds, hcalls⟩
  refine ⟨?_, ?_, ?_, ?_⟩
  · rw [after_append, after_append]
    exact hradios
  · rw [after_append, after_append]
    exact hworlds
  · rw [calls_append, calls_append]
    exact hcalls
  · rw [wishes_append, wishes_append, h.wishes_eq]
    exact congrArg (fun wish => scene'.wishes turns ++ [wish]) hwish

/-- From one turn to a run. Before a tick it is known that the scenes have gone
    side by side so far. -/
theorem run (hlawful : pairing.Lawful) (hsees : pairing.Sees seen)
    (h : Alongside pairing seen scene scene' [])
    (hsteady : ∀ turn ∈ turns, pairing.SteadyTurn turn)
    (hintake : ∀ earlier, earlier ++ [.tick] <+: turns →
      Alongside pairing seen scene scene' earlier →
      (scene.after earlier).radio.junction.receiver ≠ none →
      (scene.after earlier).radio.junction.intake (scene.after earlier).world =
        (scene'.after earlier).radio.junction.intake (scene'.after earlier).world) :
    Alongside pairing seen scene scene' turns := by
  induction turns using List.reverseRecOn with
  | nil => exact h
  | append_singleton turns turn ih =>
      have hso := ih (fun asked hmem => hsteady asked (List.mem_append_left _ hmem))
        fun before hbefore => hintake before (hbefore.trans (List.prefix_append _ _))
      refine hso.step hlawful hsees
        (hsteady turn (List.mem_append_right _ List.mem_cons_self)) fun htick => ?_
      rw [htick] at hintake
      exact hintake turns List.prefix_rfl hso

/-- Whatever can be read off the calls as they are seen is the same on both
    sides. -/
theorem filterMap_eq (h : Alongside pairing seen scene scene' turns) {face : Call ω → Option β}
    (view : κ → Option β) (hface : ∀ call, view (seen call) = face call) :
    (scene.calls turns).filterMap face = (scene'.calls turns).filterMap face := by
  have hview : face = view ∘ seen := funext fun call => (hface call).symm
  rw [hview, ← List.filterMap_map, ← List.filterMap_map, h.calls_eq]

/-- Side by side, the same callbacks are bound. -/
theorem bindings_eq (h : Alongside pairing seen scene scene' turns) :
    (scene.after turns).radio.source = (scene'.after turns).radio.source ∧
      (scene.after turns).radio.junction.receiver =
        (scene'.after turns).radio.junction.receiver :=
  ⟨Option.map_injective Binding.observedSource_injective h.radios.source_eq,
    Option.map_injective Binding.observedSink_injective h.radios.junction.receiver_eq⟩

end Alongside

end Scene

end PacketRadio
