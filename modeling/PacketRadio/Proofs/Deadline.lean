import Mathlib.Data.List.Induction
import PacketRadio.Proofs.Serial.Honest
import PacketRadio.Proofs.Stream
import PacketRadio.Transport.Immediate

/-!
# The Deadline of a Packet

How long a packet can stay in flight, and when it leaves.

The countdown of a radio is counted by ticks and armed anew from two places, by
the tick that expires and by a request that completes a packet. It is never
armed while a packet stays in flight, and that is what makes it a deadline: as
long as a packet is there, the ticks since any moment and the ticks left add up
to what was left at that moment (`Scene.Keeps`). The count never rests at zero,
so the packet must be gone when as many ticks were counted as were left, and
since only the last tick forces a packet out, it is not forced out before.

`Radio.Turned.fate` says this for one turn, by the rules of `Conduct`. The rest
is an induction over turns that puts the last one apart.

## Main definitions

* `Turn.ticks`: The number of ticks among some turns.
* `Radio.remaining`, `Radio.reload`: The countdown of a radio in numbers.
* `Radio.Fate`: What a turn does with the packet in flight.
* `Scene.Keeps`, `Scene.Leaves`: A packet stays through some turns, or leaves
  after them.

## Theorems

* `Radio.Turned.fate`: The three fates are all there are.
* `Radio.Turned.rearmed`: Handing a packet over arms the countdown anew.
* `Scene.keeps_or_leaves`: What becomes of a packet in flight in a run.
* `Scene.deadline`: A packet leaves on the tick of its deadline, or earlier by
  being completed, and in no other way.
-/

namespace PacketRadio

variable {τ σ ω : Type}

open Call

namespace Turn

def isTick : Turn ω → Bool
  | .request _ => false
  | .tick => true

/-- The number of ticks among some turns. -/
def ticks (turns : List (Turn ω)) : Nat := turns.countP isTick

theorem ticks_append (first second : List (Turn ω)) :
    ticks (first ++ second) = ticks first + ticks second :=
  List.countP_append

end Turn

open Turn

namespace Radio

/-- How many ticks are left. -/
def remaining (radio : Radio τ σ ω) : Nat := radio.countdown.remaining.toNat

/-- How many ticks there are from one deadline to the next. -/
def reload (radio : Radio τ σ ω) : Nat := radio.countdown.reload.toNat

theorem one_le_remaining (radio : Radio τ σ ω) : 1 ≤ radio.remaining :=
  UInt32.lt_iff_toNat_lt.1 radio.countdown.remaining_pos

theorem remaining_le_reload (radio : Radio τ σ ω) : radio.remaining ≤ radio.reload :=
  UInt32.le_iff_toNat_le.1 radio.countdown.remaining_le

theorem isDue_eq_true_iff (settings : Settings) (packet : Packet) :
    isDue settings packet = true ↔
      settings.minPacketSize.toNat ≤ packet.length ∨ packet.length = maxPayload := by
  have hle := packet.length_le
  rw [isDue, Packet.isFull, Bool.or_eq_true, decide_eq_true_iff, decide_eq_true_iff]
  constructor
  · rintro (hmin | hfull)
    · exact .inl hmin
    · exact .inr (by omega)
  · rintro (hmin | hfull)
    · exact .inl hmin
    · exact .inr (by omega)

/-- What a turn does with the packet in flight. -/
inductive Fate (radio : Radio τ σ ω) (packet : Packet) (turn : Turn ω) (calls : List (Call ω))
    (after : Radio τ σ ω) : Prop where
  -- It stays, perhaps with more bytes, and only a tick is counted.
  | stays {grown : Packet} (hover : handedOver calls = []) (hslot : after.inFlight = some grown)
      (hgrown : packet.payload <+: grown.payload)
      (hcount : after.remaining + ticks [turn] = radio.remaining)
  -- It is forced out as it is.
  | flushed (hover : handedOver calls = [packet]) (hturn : turn = .tick)
      (hcount : radio.remaining = 1) (hslot : after.inFlight = none)
  -- It gets enough bytes to leave.
  | completed {grown : Packet} {available : UInt16} (hover : handedOver calls = [grown])
      (hgrown : packet.payload <+: grown.payload)
      (hturn : turn = .request (.transmitReady available))
      (hdue : isDue radio.settings grown = true) (hslot : after.inFlight = none)

section

variable [Transport τ ω] {radio after : Radio τ σ ω} {calls : List (Call ω)} {packet : Packet}

theorem Fetched.of_inFlight {fetched : Option Packet} {transport : τ}
    (hslot : radio.inFlight = some packet) (h : radio.Fetched calls fetched transport) :
    calls = [] ∧ fetched = some packet := by
  cases h with
  | held hheld => exact ⟨rfl, hheld.symm.trans hslot⟩
  | leased hnone _ => exact nomatch hslot.symm.trans hnone
  | refused hnone _ => exact nomatch hslot.symm.trans hnone

variable [Link σ ω]

theorem HandedOver.unaltered (h : radio.HandedOver packet calls after) :
    after.countdown = radio.countdown ∧ after.settings = radio.settings := by
  rcases h with ⟨_⟩
  exact ⟨rfl, rfl⟩

/-- No turn changes what the countdown is armed to, or the settings. -/
theorem Turned.unaltered {turn : Turn ω} {wish : Bool} (h : radio.Turned turn calls wish after) :
    after.countdown.reload = radio.countdown.reload ∧ after.settings = radio.settings := by
  cases h with
  | bindReceiver => exact ⟨rfl, rfl⟩
  | bindSource => exact ⟨rfl, rfl⟩
  | receiveReady => exact ⟨rfl, rfl⟩
  | setBaud => exact ⟨rfl, rfl⟩
  | inbound _ => exact ⟨rfl, rfl⟩
  | transmitReady hfill =>
      cases hfill with
      | unsourced _ => exact ⟨rfl, rfl⟩
      | unfetched _ _ => exact ⟨rfl, rfl⟩
      | kept _ _ _ _ => exact ⟨rfl, rfl⟩
      | sent _ _ _ _ hover =>
          rcases hover.unaltered with ⟨hcountdown, hsettings⟩
          have hreload := congrArg Countdown.reload hcountdown
          exact ⟨hreload, hsettings⟩
  | tick htick =>
      cases htick with
      | waiting _ hcount =>
          have hreload := radio.countdown.reload_tick
          rw [hcount] at hreload
          exact ⟨hreload, rfl⟩
      | empty _ hcount _ =>
          have hreload := radio.countdown.reload_tick
          rw [hcount] at hreload
          exact ⟨hreload, rfl⟩
      | flushed _ hcount _ hover =>
          have hreload := radio.countdown.reload_tick
          rw [hcount] at hreload
          rcases hover.unaltered with ⟨hcountdown, hsettings⟩
          exact ⟨(congrArg Countdown.reload hcountdown).trans hreload, hsettings⟩

/-- A turn that hands a packet over leaves a full count. -/
theorem Turned.rearmed {turn : Turn ω} {wish : Bool} (h : radio.Turned turn calls wish after)
    (hover : handedOver calls ≠ []) : after.countdown.remaining = after.countdown.reload := by
  cases h with
  | bindReceiver => exact absurd rfl hover
  | bindSource => exact absurd rfl hover
  | receiveReady => exact absurd rfl hover
  | setBaud => exact absurd rfl hover
  | inbound hcourse =>
      refine absurd ?_ hover
      simp [hcourse.quiet.1]
  | transmitReady hfill =>
      cases hfill with
      | unsourced _ => exact absurd rfl hover
      | unfetched _ hfetch => exact absurd hfetch.stream.1 hover
      | kept _ hfetch _ _ =>
          refine absurd ?_ hover
          simp [hfetch.stream.1]
      | sent _ _ _ _ _ => rfl
  | tick htick =>
      cases htick with
      | waiting hservice _ => exact absurd hservice.quiet.1 hover
      | empty hservice _ _ => exact absurd hservice.quiet.1 hover
      | flushed _ hcount _ hleft =>
          -- The tick that expires has armed the countdown before the packet
          -- leaves.
          rw [hleft.unaltered.1]
          show Countdown.remaining _ = Countdown.reload _
          rw [(Countdown.eq_rearm_of_tick_eq_true hcount).2]
          rfl

/-- The three fates are all there are. -/
theorem Turned.fate {turn : Turn ω} {wish : Bool} (hslot : radio.inFlight = some packet)
    (h : radio.Turned turn calls wish after) : radio.Fate packet turn calls after := by
  cases h with
  | bindReceiver => exact .stays rfl hslot List.prefix_rfl rfl
  | bindSource => exact .stays rfl hslot List.prefix_rfl rfl
  | receiveReady => exact .stays rfl hslot List.prefix_rfl rfl
  | setBaud => exact .stays rfl hslot List.prefix_rfl rfl
  | inbound hcourse =>
      have hnone := hcourse.quiet.1
      exact .stays hnone hslot List.prefix_rfl rfl
  | transmitReady hfill =>
      cases hfill with
      | unsourced _ => exact .stays rfl hslot List.prefix_rfl rfl
      -- No lease is needed, so none can be refused.
      | unfetched _ hfetch => exact nomatch (hfetch.of_inFlight hslot).2
      | kept _ hfetch _ _ =>
          rcases hfetch.of_inFlight hslot with ⟨rfl, hsame⟩
          cases hsame
          exact .stays rfl rfl ⟨_, (packet.payload_absorb _).symm⟩ rfl
      | sent _ hfetch _ hdue hover =>
          rcases hfetch.of_inFlight hslot with ⟨rfl, hsame⟩
          cases hsame
          rcases hover.stream with ⟨hpacket, _, hnone⟩
          exact .completed hpacket ⟨_, (packet.payload_absorb _).symm⟩ rfl hdue hnone
  | tick htick =>
      cases htick with
      | waiting hservice hcount =>
          have hnone := hservice.quiet.1
          exact .stays hnone hslot List.prefix_rfl (Countdown.remaining_of_tick_eq_false hcount)
      | empty _ _ hnone => exact nomatch hslot.symm.trans hnone
      | flushed hservice hcount hheld hover =>
          cases hheld.symm.trans hslot
          have hquiet := hservice.quiet.1
          rcases hover.stream with ⟨hpacket, _, hnone⟩
          refine .flushed ?_ rfl ?_ hnone
          · rw [handedOver_append, hquiet, hpacket, List.nil_append]
          · exact congrArg UInt32.toNat (Countdown.eq_rearm_of_tick_eq_true hcount).1

end

end Radio

namespace Scene

variable [Transport τ ω] [Link σ ω]

/-- A packet in flight stays there through some turns. It may grow, and the
    ticks are counted. -/
structure Keeps (scene : Scene τ σ ω) (turns : List (Turn ω)) (packet grown : Packet) :
    Prop where
  handedOver_eq : handedOver (scene.calls turns) = []
  inFlight_eq : (scene.after turns).radio.inFlight = some grown
  payload_le : packet.payload <+: grown.payload
  -- Every tick takes one, and no other turn takes any.
  remaining_add : (scene.after turns).radio.remaining + ticks turns = scene.radio.remaining

/-- A packet in flight leaves in a turn that comes after some others. -/
inductive Leaves (scene : Scene τ σ ω) (packet : Packet) (earlier : List (Turn ω)) :
    Turn ω → Packet → Prop where
  -- It leaves on the tick of its deadline, as it is.
  | flushed {kept : Packet} (hkept : scene.Keeps earlier packet kept)
      (hover : handedOver ((scene.after earlier).calls [.tick]) = [kept])
      (hlast : ticks earlier + 1 = scene.radio.remaining)
      (hslot : (scene.after (earlier ++ [.tick])).radio.inFlight = none) :
      Leaves scene packet earlier .tick kept
  -- It leaves in time because it is large enough.
  | completed {kept grown : Packet} {available : UInt16} (hkept : scene.Keeps earlier packet kept)
      (hover : handedOver ((scene.after earlier).calls [.request (.transmitReady available)]) =
        [grown])
      (hgrown : kept.payload <+: grown.payload)
      (hdue : scene.radio.settings.minPacketSize.toNat ≤ grown.length ∨
        grown.length = maxPayload)
      (htime : ticks earlier < scene.radio.remaining)
      (hslot : (scene.after (earlier ++ [.request (.transmitReady available)])).radio.inFlight =
        none) :
      Leaves scene packet earlier (.request (.transmitReady available)) grown

theorem Keeps.ticks_lt {scene : Scene τ σ ω} {turns : List (Turn ω)} {packet grown : Packet}
    (h : scene.Keeps turns packet grown) : ticks turns < scene.radio.remaining := by
  have hleft := (scene.after turns).radio.one_le_remaining
  have hsum := h.remaining_add
  omega

theorem unaltered (scene : Scene τ σ ω) (turns : List (Turn ω)) :
    (scene.after turns).radio.countdown.reload = scene.radio.countdown.reload ∧
      (scene.after turns).radio.settings = scene.radio.settings := by
  induction turns using List.reverseRecOn with
  | nil => exact ⟨rfl, rfl⟩
  | append_singleton turns turn ih =>
      rcases ((scene.after turns).turned turn).unaltered with ⟨hreload, hsettings⟩
      rw [after_append]
      exact ⟨hreload.trans ih.1, hsettings.trans ih.2⟩

/-- After a packet was kept, one more turn keeps it or makes it leave. -/
theorem Keeps.step {scene : Scene τ σ ω} {turns : List (Turn ω)} {packet kept : Packet}
    (h : scene.Keeps turns packet kept) (turn : Turn ω) :
    (∃ grown, scene.Keeps (turns ++ [turn]) packet grown) ∨
      ∃ leaving, scene.Leaves packet turns turn leaving := by
  have hfate := ((scene.after turns).turned turn).fate h.inFlight_eq
  cases hfate with
  | @stays grown hover hslot hgrown hcount =>
      refine .inl ⟨grown, ?_, ?_, h.payload_le.trans hgrown, ?_⟩
      · rw [calls_append, handedOver_append, h.handedOver_eq, hover, List.append_nil]
      · rw [after_append, hslot]
      · have hsum := h.remaining_add
        rw [after_append, ticks_append]
        omega
  | flushed hover hturn hcount hslot =>
      have hsum := h.remaining_add
      cases hturn
      refine .inr ⟨kept, .flushed h hover (by omega) ?_⟩
      rw [after_append, hslot]
  | @completed grown available hover hgrown hturn hdue hslot =>
      rw [(scene.unaltered turns).2] at hdue
      cases hturn
      refine .inr ⟨grown, .completed h hover hgrown ((Radio.isDue_eq_true_iff _ _).1 hdue)
        h.ticks_lt ?_⟩
      rw [after_append, hslot]

theorem Leaves.handedOver_eq {scene : Scene τ σ ω} {packet leaving : Packet}
    {earlier : List (Turn ω)} {turn : Turn ω} (h : scene.Leaves packet earlier turn leaving) :
    handedOver (scene.calls (earlier ++ [turn])) = [leaving] := by
  cases h with
  | flushed hkept hover _ _ =>
      rw [calls_append, handedOver_append, hkept.handedOver_eq, hover, List.nil_append]
  | completed hkept hover _ _ _ _ =>
      rw [calls_append, handedOver_append, hkept.handedOver_eq, hover, List.nil_append]

/-- What becomes of a packet in flight in a run: it is kept all the time, or
    it leaves in one of the turns. -/
theorem keeps_or_leaves (scene : Scene τ σ ω) {packet : Packet}
    (hslot : scene.radio.inFlight = some packet) (turns : List (Turn ω)) :
    (∃ grown, scene.Keeps turns packet grown) ∨
      ∃ earlier turn later leaving, turns = earlier ++ turn :: later ∧
        scene.Leaves packet earlier turn leaving := by
  induction turns using List.reverseRecOn with
  | nil => exact .inl ⟨packet, rfl, hslot, List.prefix_rfl, rfl⟩
  | append_singleton turns turn ih =>
      rcases ih with ⟨kept, hkept⟩ | ⟨earlier, last, later, leaving, rfl, hleaves⟩
      · rcases hkept.step turn with hkeeps | ⟨leaving, hleaves⟩
        · exact .inl hkeeps
        · exact .inr ⟨turns, turn, [], leaving, rfl, hleaves⟩
      · refine .inr ⟨earlier, last, later ++ [turn], leaving, ?_, hleaves⟩
        rw [List.append_assoc, List.cons_append]

/-- No tick before the last one forces a packet out. -/
theorem Keeps.handedOver_tick_of_lt {scene : Scene τ σ ω} {turns : List (Turn ω)}
    {packet kept : Packet} (h : scene.Keeps turns packet kept)
    (hearly : ticks turns + 1 < scene.radio.remaining) :
    handedOver ((scene.after turns).calls [.tick]) = [] := by
  rcases h.step .tick with ⟨grown, hkeeps⟩ | ⟨leaving, hleaves⟩
  · -- If the packet is still there then nothing left, on the tick either.
    have hnone := hkeeps.handedOver_eq
    rw [calls_append, handedOver_append] at hnone
    exact (List.append_eq_nil_iff.1 hnone).2
  · cases hleaves with
    | flushed _ _ hlast _ => exact absurd hlast (Nat.ne_of_lt hearly)

/-- The last tick forces out what is in flight then. -/
theorem Keeps.handedOver_tick_of_eq {scene : Scene τ σ ω} {turns : List (Turn ω)}
    {packet kept : Packet} (h : scene.Keeps turns packet kept)
    (hlast : ticks turns + 1 = scene.radio.remaining) :
    handedOver ((scene.after turns).calls [.tick]) = [kept] := by
  rcases h.step .tick with ⟨grown, hkeeps⟩ | ⟨leaving, hleaves⟩
  · -- A packet cannot be kept through its last tick: the count would be zero.
    have hlt := hkeeps.ticks_lt
    rw [ticks_append] at hlt
    exact absurd hlast (Nat.ne_of_lt hlt)
  · cases hleaves with
    | flushed hkept hover _ _ =>
        rw [hover, Option.some.inj (hkept.inFlight_eq.symm.trans h.inFlight_eq)]

omit [Link σ ω] in
theorem reload_start (settings : Settings) (period : Period) (link : σ) (world : ω) :
    (start settings period link world : Scene τ σ ω).radio.countdown.reload =
      settings.flushTicks period :=
  Countdown.reload_new_of_ne_zero (settings.flushTicks_ne_zero period)

/-- The deadline of a packet in flight is met exactly.

    In a radio that was built for a period, let a packet be in flight at some
    moment. The ticks left are at least one and at most as many as the timeout
    has. As long as nothing is handed over, in whatever turns, the packet stays
    in flight, loses no byte, and a tick takes exactly one from the ticks left
    while no other turn takes any. No tick but the last hands it over, and the
    last one does. If something was handed over, then the first such thing was
    the packet, on its last tick or earlier because it was large enough.

    Whenever a packet is handed over, the count is full again. -/
theorem deadline (settings : Settings) (period : Period) (link : σ) (world : ω) :
    let fresh : Scene τ σ ω := start settings period link world
    (∀ before packet, (fresh.after before).radio.inFlight = some packet →
      let scene := fresh.after before
      (1 ≤ scene.radio.remaining ∧ scene.radio.remaining ≤ scene.radio.reload ∧
        scene.radio.countdown.reload = settings.flushTicks period) ∧
      ∀ turns,
        (handedOver (scene.calls turns) = [] →
          ∃ kept, scene.Keeps turns packet kept ∧ ticks turns < scene.radio.remaining ∧
            (ticks turns + 1 < scene.radio.remaining →
              handedOver ((scene.after turns).calls [.tick]) = []) ∧
            (ticks turns + 1 = scene.radio.remaining →
              handedOver ((scene.after turns).calls [.tick]) = [kept])) ∧
        (handedOver (scene.calls turns) ≠ [] →
          ∃ earlier turn later leaving, turns = earlier ++ turn :: later ∧
            scene.Leaves packet earlier turn leaving)) ∧
    ∀ turns turn, handedOver ((fresh.after turns).calls [turn]) ≠ [] →
      (fresh.after (turns ++ [turn])).radio.countdown.remaining = settings.flushTicks period := by
  intro fresh
  have hreload (turns : List (Turn ω)) :
      (fresh.after turns).radio.countdown.reload = settings.flushTicks period :=
    (fresh.unaltered turns).1.trans (reload_start settings period link world)
  refine ⟨fun before packet hslot => ?_, fun turns turn hover => ?_⟩
  · intro scene
    refine ⟨⟨scene.radio.one_le_remaining, scene.radio.remaining_le_reload, hreload before⟩,
      fun turns => ⟨fun hnone => ?_, fun hsome => ?_⟩⟩
    · rcases scene.keeps_or_leaves hslot turns with
        ⟨kept, hkept⟩ | ⟨earlier, turn, later, leaving, rfl, hleaves⟩
      · exact ⟨kept, hkept, hkept.ticks_lt, hkept.handedOver_tick_of_lt,
          hkept.handedOver_tick_of_eq⟩
      · -- Something was handed over when the packet left.
        rw [List.append_cons, calls_append, handedOver_append, hleaves.handedOver_eq] at hnone
        exact nomatch hnone
    · rcases scene.keeps_or_leaves hslot turns with ⟨kept, hkept⟩ | hleaves
      · exact absurd hkept.handedOver_eq hsome
      · exact hleaves
  · have hfull := ((fresh.after turns).turned turn).rearmed hover
    rw [← after_append] at hfull
    exact hfull.trans (hreload (turns ++ [turn]))

/-- A byte that is too few for a packet waits for one tick of two and leaves on
    the other. -/
theorem deadline_of_two_ticks :
    let source : Binding (Source Unit) := ⟨fun _ _ wish => pure (⟨[7], 1⟩, wish), 0⟩
    let fresh : Scene Immediate (SerialLink ScriptedChannel) Unit :=
      start ⟨2, 3, 1, 1, 0⟩ ⟨1000, by decide⟩ (.ofChannel ⟨[], []⟩) ()
    let scene := fresh.after [.request (.bindSource source), .request (.transmitReady 1)]
    scene.radio.inFlight.map Packet.payload = some [7] ∧ scene.radio.remaining = 2 ∧
      handedOver (scene.calls [.tick]) = [] ∧
      ∃ packet, packet.payload = [7] ∧
        handedOver ((scene.after [.tick]).calls [.tick]) = [packet] := by
  intro source fresh scene
  have hpayload : scene.radio.inFlight.map Packet.payload = some [7] := by decide +kernel
  have hleft : scene.radio.remaining = 2 := by decide +kernel
  rcases Option.map_eq_some_iff.1 hpayload with ⟨packet, hslot, -⟩
  rcases (deadline _ _ _ _).1 _ packet hslot with ⟨-, hrun⟩
  rcases (hrun []).1 rfl with ⟨_, -, -, hearly, -⟩
  have hwaits : handedOver (scene.calls [.tick]) = [] := hearly (by rw [hleft]; decide)
  rcases (hrun [.tick]).1 hwaits with ⟨kept, hkept, -, -, hlast⟩
  refine ⟨hpayload, hleft, hwaits, kept, ?_, hlast hleft.symm⟩
  have hheld : (scene.after [.tick]).radio.inFlight.map Packet.payload = some [7] := by
    decide +kernel
  rw [hkept.inFlight_eq] at hheld
  exact Option.some.inj hheld

end Scene

end PacketRadio
