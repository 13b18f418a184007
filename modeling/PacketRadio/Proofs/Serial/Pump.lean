import Mathlib.Control.Monad.Basic
import PacketRadio.Link.Serial

/-!
# The Course of a Pump

What a pump and a send of a serial link can do, as rules.

A pump is a loop whose every step is decided by the channel, and the channel
may answer anything. `Pumped` lists how a pump ends, and what one more round
is; a derivation of it is the pump written out round by round. A fact about
pumps is then an induction over derivations with a case for each answer of the
channel, and the recursion of `pumpOut`, which goes by the size of the backlog,
is gone through only once, in `pumpOut_pumped`.

`Sent` does the same for a send, which has two pumps in it and treats their
faults differently.

The worlds are part of the rules: every premise names the world a channel was
asked in and the one it left.

## Main definitions

* `SerialLink.Pumped`: The rounds of a pump.
* `SerialLink.Sent`: The outcomes of a send.
* `SerialLink.Ask`, `SerialLink.Dealing`: What is asked of a link, and what
  was asked together with the answer.
* `SerialLink.deal`, `SerialLink.deals`: Asking once, and asking on and on.

## Theorems

* `SerialLink.pumpOut_pumped`, `SerialLink.send_sent`: The programs follow the
  rules.
-/

namespace PacketRadio

namespace SerialLink

variable {κ ω : Type} [Channel κ ω]

/-- A backlog is pumped into a channel, from one world to another. -/
inductive Pumped : κ → RingBuffer UInt8 maxPayload → ω → Except LinkError Unit →
    SerialLink κ → ω → Prop where
  | finished {channel : κ} {backlog : RingBuffer UInt8 maxPayload} {world : ω}
      (hempty : backlog.isEmpty = true) :
      Pumped channel backlog world (.ok ()) ⟨channel, backlog⟩ world
  -- The channel cannot say whether it is ready.
  | unknown {channel channel' : κ} {backlog : RingBuffer UInt8 maxPayload} {world world' : ω}
      (hmore : ¬ backlog.isEmpty = true)
      (hready : Channel.writeReady channel world = ((none, channel'), world')) :
      Pumped channel backlog world (.error .io) ⟨channel', backlog⟩ world'
  | unready {channel channel' : κ} {backlog : RingBuffer UInt8 maxPayload} {world world' : ω}
      (hmore : ¬ backlog.isEmpty = true)
      (hready : Channel.writeReady channel world = ((some false, channel'), world')) :
      Pumped channel backlog world (.ok ()) ⟨channel', backlog⟩ world'
  | faulted {channel channel' channel'' : κ} {backlog : RingBuffer UInt8 maxPayload}
      {world world' world'' : ω} (hmore : ¬ backlog.isEmpty = true)
      (hready : Channel.writeReady channel world = ((some true, channel'), world'))
      (hwrite : Channel.write channel' backlog.front world' = ((none, channel''), world'')) :
      Pumped channel backlog world (.error .io) ⟨channel'', backlog⟩ world''
  -- Ready, and yet nothing is taken.
  | stuck {channel channel' channel'' : κ} {backlog : RingBuffer UInt8 maxPayload}
      {world world' world'' : ω} (hmore : ¬ backlog.isEmpty = true)
      (hready : Channel.writeReady channel world = ((some true, channel'), world'))
      (hwrite : Channel.write channel' backlog.front world' = ((some 0, channel''), world'')) :
      Pumped channel backlog world (.ok ()) ⟨channel'', backlog⟩ world''
  -- What the channel claims to have taken leaves the backlog.
  | round {channel channel' channel'' : κ} {backlog : RingBuffer UInt8 maxPayload}
      {world world' world'' last : ω} {count : Nat} {result : Except LinkError Unit}
      {link : SerialLink κ} (hmore : ¬ backlog.isEmpty = true)
      (hready : Channel.writeReady channel world = ((some true, channel'), world'))
      (hwrite : Channel.write channel' backlog.front world' =
        ((some (count + 1), channel''), world''))
      (rest : Pumped channel'' (backlog.drop (count + 1)) world'' result link last) :
      Pumped channel backlog world result link last

theorem pumpOut_pumped (channel : κ) (backlog : RingBuffer UInt8 maxPayload) (world : ω) :
    Pumped channel backlog world (pumpOut channel backlog world).1.1
      (pumpOut channel backlog world).1.2 (pumpOut channel backlog world).2 := by
  induction hsize : backlog.size using Nat.strongRecOn generalizing channel backlog world with
  | ind size ih =>
      rw [pumpOut]
      by_cases hempty : backlog.isEmpty = true
      · rw [dif_pos hempty]
        exact .finished hempty
      · rw [dif_neg hempty]
        rcases hready : Channel.writeReady channel world with ⟨⟨ready, channel'⟩, world'⟩
        simp only [bind, StateT.bind, hready]
        cases ready with
        | none => exact .unknown hempty hready
        | some ready =>
            cases ready with
            | false => exact .unready hempty hready
            | true =>
                rcases hwrite : Channel.write channel' backlog.front world' with
                  ⟨⟨taken, channel''⟩, world''⟩
                simp only [StateT.bind, hwrite]
                cases taken with
                | none => exact .faulted hempty hready hwrite
                | some count =>
                    cases count with
                    | zero => exact .stuck hempty hready hwrite
                    | succ count =>
                        -- The backlog got smaller, whatever the channel claims.
                        have hless := size_drop_lt hempty count
                        rw [hsize] at hless
                        exact .round hempty hready hwrite (ih _ hless channel'' _ world'' rfl)

/-- A payload is given to a link, from one world to another. -/
inductive Sent (link : SerialLink κ) (payload : List UInt8) (world : ω) :
    Except LinkError Unit → SerialLink κ → ω → Prop where
  -- What waited could not be pumped out, and it is kept.
  | blocked {error : LinkError} {after : SerialLink κ} {last : ω}
      (hfirst : Pumped link.channel link.backlog world (.error error) after last) :
      Sent link payload world (.error error) after last
  | refused {after : SerialLink κ} {last : ω}
      (hfirst : Pumped link.channel link.backlog world (.ok ()) after last)
      (hrefuse : after.accepts payload = false) :
      Sent link payload world (.error .busy) after last
  -- The payload was queued, and what waits of it is thrown away.
  | broken {error : LinkError} {middle after : SerialLink κ} {between last : ω}
      (hfirst : Pumped link.channel link.backlog world (.ok ()) middle between)
      (haccept : middle.accepts payload = true)
      (hsecond : Pumped middle.channel (middle.queue payload).backlog between (.error error)
        after last) :
      Sent link payload world (.error error) after.discard last
  | accepted {middle after : SerialLink κ} {between last : ω}
      (hfirst : Pumped link.channel link.backlog world (.ok ()) middle between)
      (haccept : middle.accepts payload = true)
      (hsecond : Pumped middle.channel (middle.queue payload).backlog between (.ok ())
        after last) :
      Sent link payload world (.ok ()) after last

theorem pump_pumped (link : SerialLink κ) (world : ω) :
    Pumped link.channel link.backlog world (link.pump world).1.1 (link.pump world).1.2
      (link.pump world).2 :=
  pumpOut_pumped link.channel link.backlog world

theorem send_sent (link : SerialLink κ) (payload : List UInt8) (world : ω) :
    Sent link payload world (link.send payload world).1.1 (link.send payload world).1.2
      (link.send payload world).2 := by
  have hfirst := link.pump_pumped world
  rcases hpump : link.pump world with ⟨⟨earlier, middle⟩, between⟩
  rw [hpump] at hfirst
  simp only [send, bind, StateT.bind, hpump]
  cases earlier with
  | error error => exact .blocked hfirst
  | ok _ =>
      by_cases haccept : middle.accepts payload = true
      · simp only [haccept, if_true]
        have hsecond := (middle.queue payload).pump_pumped between
        rcases hagain : (middle.queue payload).pump between with ⟨⟨result, after⟩, last⟩
        rw [hagain] at hsecond
        simp only [StateT.bind, hagain]
        cases result with
        | error error => exact .broken hfirst haccept hsecond
        | ok _ => exact .accepted hfirst haccept hsecond
      · simp only [haccept]
        exact .refused hfirst (Bool.eq_false_iff.2 haccept)

/-- What is asked of a link. -/
inductive Ask where
  | send (payload : List UInt8)
  | receive (buffer : List UInt8)
  | poll

/-- What was asked of a link, with its answer. -/
inductive Dealing where
  | send (payload : List UInt8) (answer : Except LinkError Unit)
  | receive (buffer : List UInt8) (fill : Fill)
  | poll (answer : Except LinkError Unit)
deriving DecidableEq

/-- What a dealing was about. -/
def Dealing.ask : Dealing → Ask
  | .send payload _ => .send payload
  | .receive buffer _ => .receive buffer
  | .poll _ => .poll

/-- Ask one thing of a link. -/
def deal (link : SerialLink κ) : Ask → StateM ω (Dealing × SerialLink κ)
  | .send payload => do
    let (answer, link) ← link.send payload
    return (.send payload answer, link)
  | .receive buffer => do
    let (fill, link) ← link.receive buffer
    return (.receive buffer fill, link)
  | .poll => do
    let (answer, link) ← link.poll
    return (.poll answer, link)

/-- Ask one thing after another. -/
def deals (link : SerialLink κ) : List Ask → StateM ω (List Dealing × SerialLink κ)
  | [] => pure ([], link)
  | ask :: rest => do
    let (dealing, link) ← link.deal ask
    let (dealings, link) ← link.deals rest
    return (dealing :: dealings, link)

end SerialLink

end PacketRadio
