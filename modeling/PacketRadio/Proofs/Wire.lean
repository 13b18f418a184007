import Mathlib.Data.List.Induction
import PacketRadio.Proofs.Scene
import PacketRadio.Proofs.Serial.Conservation

/-!
# From a Radio to the Wire

What the turns of a radio put on the wire of its serial link.

`Serial.Conservation` follows the bytes of a link that is dealt with directly.
A radio deals with its link in the middle of other things: it polls the link
and reads from it on every tick, and its transport may send any number of
payloads whenever it is called. Here the transport is still an arbitrary one.
Whatever it does, in a course of calls the bytes that are outgoing grow by what
the sends among the calls contributed, and by nothing else (`Grows`).

The wire belongs to the channel. What a channel does may depend on the world,
and so on what the callbacks do, but nobody else writes to its wire.

## Main definitions

* `SerialLink.outgoing`: What is on the wire or waits for it.
* `SerialLink.Grows`: Some calls make the outgoing bytes grow.

## Theorems

* `SerialLink.outgoing_send`, `SerialLink.outgoing_receive`,
  `SerialLink.outgoing_poll`: The three questions that a link is asked.
* `Exchange.Course.grows`: An exchange of any transport.
* `Radio.Turned.grows`, `Scene.grows`: A turn, and any number of turns.
-/

namespace PacketRadio

variable {κ ω τ α : Type}

open Call

namespace SerialLink

/-- What is on the wire, and behind it what waits for it. -/
def outgoing (wire : κ → List UInt8) (link : SerialLink κ) : List UInt8 :=
  wire link.channel ++ link.backlog.toList

/-- Some calls lead from one link to another, and the outgoing bytes grow by
    what the sends among the calls contribute. -/
def Grows (wire : κ → List UInt8) (link : SerialLink κ) (calls : List (Call ω))
    (after : SerialLink κ) : Prop :=
  ∃ parts, List.Forall₂ (fun sent part => Contributes (.send sent.1 sent.2) part) (sends calls)
      parts ∧
    after.outgoing wire = link.outgoing wire ++ parts.flatten

variable {wire : κ → List UInt8} {link middle after : SerialLink κ}

theorem Grows.of_sends_eq_nil {calls : List (Call ω)} (hsends : sends calls = [])
    (hsame : after.outgoing wire = link.outgoing wire) : Grows wire link calls after := by
  refine ⟨[], ?_, ?_⟩
  · rw [hsends]
    exact .nil
  · rw [hsame, List.flatten_nil, List.append_nil]

theorem Grows.append {first second : List (Call ω)} (hfirst : Grows wire link first middle)
    (hsecond : Grows wire middle second after) : Grows wire link (first ++ second) after := by
  rcases hfirst with ⟨parts, hparts, hgrown⟩
  rcases hsecond with ⟨more, hmore, hmoregrown⟩
  refine ⟨parts ++ more, ?_, ?_⟩
  · rw [sends_append]
    exact List.rel_append hparts hmore
  · rw [hmoregrown, hgrown, List.append_assoc, List.flatten_append]

variable [Channel κ ω]

theorem outgoing_send (honest : Channel.Honest fun channel (_ : ω) => wire channel)
    {payload : List UInt8} {answer : Except LinkError Unit}
    (h : Possible (Link.send (ω := ω) link payload) (answer, after)) :
    ∃ part, Contributes (.send payload answer) part ∧
      after.outgoing wire = link.outgoing wire ++ part := by
  rcases h with ⟨world, hrun⟩
  have hsent := link.send_sent payload world
  have hresult : (link.send payload world).1 = (answer, after) := hrun
  rw [hresult] at hsent
  exact hsent.conserves honest

theorem outgoing_receive (honest : Channel.Honest fun channel (_ : ω) => wire channel)
    {buffer : List UInt8} {fill : Fill}
    (h : Possible (Link.receive (ω := ω) link buffer) (fill, after)) :
    after.outgoing wire = link.outgoing wire := by
  rcases h with ⟨world, hrun⟩
  rcases receive_conserves honest (Prod.ext hrun rfl) with ⟨hwire, hbacklog⟩
  rw [outgoing, outgoing, hwire, hbacklog]

theorem outgoing_poll (honest : Channel.Honest fun channel (_ : ω) => wire channel)
    {answer : Except LinkError Unit}
    (h : Possible (Link.poll (ω := ω) link) (answer, after)) :
    after.outgoing wire = link.outgoing wire := by
  rcases h with ⟨world, hrun⟩
  have hpumped := link.pump_pumped world
  have hresult : (link.pump world).1 = (answer, after) := hrun
  rw [hresult] at hpumped
  rcases hpumped.conserves honest with ⟨out, hwire, hbacklog⟩
  rw [outgoing, outgoing, hwire, hbacklog, List.append_assoc]

end SerialLink

theorem Junction.Delivered.link_eq {σ : Type} {junction after : Junction σ ω}
    {data : List UInt8} {calls : List (Call ω)} (h : junction.Delivered data calls after) :
    sends calls = [] ∧ after.link = junction.link := by
  cases h with
  | nowhere _ => exact ⟨rfl, rfl⟩
  | received _ _ _ => exact ⟨rfl, rfl⟩

theorem Radio.Fetched.sends_eq_nil {σ : Type} [Transport τ ω] {radio : Radio τ σ ω}
    {calls : List (Call ω)} {fetched : Option Packet} {transport : τ}
    (h : radio.Fetched calls fetched transport) : sends calls = [] := by
  cases h <;> rfl

theorem Junction.Serviced.sends_eq_nil {σ : Type} [Link σ ω] {junction after : Junction σ ω}
    {calls : List (Call ω)} {wish : Bool} (h : junction.Serviced calls wish after) :
    sends calls = [] := by
  rcases h with ⟨_, hdrain⟩
  cases hdrain with
  | unbound _ => rfl
  | moved _ _ hdeliver => simp [hdeliver.link_eq.1]

variable [Channel κ ω] {wire : κ → List UInt8}

open SerialLink

/-- Whatever a transport does in an exchange, the outgoing bytes grow by what
    it sends. -/
theorem Exchange.Course.grows (honest : Channel.Honest fun channel (_ : ω) => wire channel)
    {exchange : Exchange ω α} {junction after : Junction (SerialLink κ) ω}
    {calls : List (Call ω)} {result : α} (h : exchange.Course junction calls result after) :
    Grows wire junction.link calls after.link := by
  induction h with
  | done => exact .of_sends_eq_nil rfl rfl
  | send hsend _ ih =>
      rcases outgoing_send honest hsend with ⟨part, hpart, hgrown⟩
      rcases ih with ⟨parts, hparts, hrest⟩
      refine ⟨part :: parts, .cons hpart hparts, ?_⟩
      rw [hrest, hgrown, List.append_assoc, List.flatten_cons]
  | @accept data _ junction middle _ first _ _ hdeliver _ ih =>
      -- The receiver has no way to the link.
      rcases hdeliver.link_eq with ⟨hsends, hlink⟩
      have hquiet : Grows wire junction.link (Call.accept data :: first) middle.link :=
        .of_sends_eq_nil hsends (congrArg _ hlink)
      exact hquiet.append ih
  | setBaud _ ih => exact ih
  | look _ ih => exact ih
  | put _ ih => exact ih

theorem Junction.Serviced.grows (honest : Channel.Honest fun channel (_ : ω) => wire channel)
    {junction after : Junction (SerialLink κ) ω} {calls : List (Call ω)} {wish : Bool}
    (h : junction.Serviced calls wish after) : Grows wire junction.link calls after.link := by
  refine .of_sends_eq_nil h.sends_eq_nil ?_
  rcases h with ⟨hpoll, hdrain⟩
  -- The poll moves bytes onto the wire, which is no change to both together.
  have hpolled := outgoing_poll honest hpoll
  cases hdrain with
  | unbound _ => exact hpolled
  | moved _ hread hdeliver =>
      exact (congrArg _ hdeliver.link_eq.2).trans ((outgoing_receive honest hread).trans hpolled)

namespace Radio

variable [Transport τ ω] {radio after : Radio τ (SerialLink κ) ω} {calls : List (Call ω)}

theorem HandedOver.grows (honest : Channel.Honest fun channel (_ : ω) => wire channel)
    {packet : Packet} (h : radio.HandedOver packet calls after) :
    Grows wire radio.junction.link calls after.junction.link := by
  rcases h with ⟨hcourse⟩
  exact hcourse.grows honest

theorem Filled.grows (honest : Channel.Honest fun channel (_ : ω) => wire channel)
    (h : radio.Filled calls after) :
    Grows wire radio.junction.link calls after.junction.link := by
  cases h with
  | unsourced _ => exact .of_sends_eq_nil rfl rfl
  | unfetched _ hfetch => exact .of_sends_eq_nil hfetch.sends_eq_nil rfl
  | kept _ hfetch _ _ =>
      refine .of_sends_eq_nil ?_ rfl
      simp [hfetch.sends_eq_nil]
  | @sent source calls more packet transport fill wish after _ hfetch _ _ hover =>
      -- Before the packet leaves, the link is left alone.
      have hfetched : Grows wire radio.junction.link calls radio.junction.link :=
        .of_sends_eq_nil hfetch.sends_eq_nil rfl
      have hpulled : Grows wire radio.junction.link [Call.pull source packet.spare false fill wish]
          radio.junction.link := .of_sends_eq_nil rfl rfl
      have hsent := hover.grows honest
      exact hfetched.append (hpulled.append hsent)

theorem Ticked.grows (honest : Channel.Honest fun channel (_ : ω) => wire channel)
    {wish : Bool} (h : radio.Ticked calls wish after) :
    Grows wire radio.junction.link calls after.junction.link := by
  cases h with
  | waiting hservice _ => exact hservice.grows honest
  | empty hservice _ _ => exact hservice.grows honest
  | flushed hservice _ _ hover => exact (hservice.grows honest).append (hover.grows honest)

/-- In one turn the outgoing bytes grow by what is sent in it. -/
theorem Turned.grows (honest : Channel.Honest fun channel (_ : ω) => wire channel)
    {turn : Turn ω} {wish : Bool} (h : radio.Turned turn calls wish after) :
    Grows wire radio.junction.link calls after.junction.link := by
  cases h with
  | bindReceiver => exact .of_sends_eq_nil rfl rfl
  | bindSource => exact .of_sends_eq_nil rfl rfl
  | receiveReady => exact .of_sends_eq_nil rfl rfl
  | setBaud => exact .of_sends_eq_nil rfl rfl
  | transmitReady hfill => exact hfill.grows honest
  | inbound hcourse => exact hcourse.grows honest
  | tick htick => exact htick.grows honest

end Radio

/-- In any number of turns the outgoing bytes grow by what is sent in them. -/
theorem Scene.grows [Transport τ ω]
    (honest : Channel.Honest fun channel (_ : ω) => wire channel)
    (scene : Scene τ (SerialLink κ) ω) (turns : List (Turn ω)) :
    Grows wire scene.radio.junction.link (scene.calls turns)
      (scene.after turns).radio.junction.link := by
  induction turns using List.reverseRecOn with
  | nil => exact .of_sends_eq_nil rfl rfl
  | append_singleton turns turn ih =>
      rw [after_append, calls_append]
      exact ih.append (((scene.after turns).turned turn).grows honest)

end PacketRadio
