import PacketRadio.Link.Serial

/-!
# Honest Channels

What a byte channel has to keep to before anything can be said about the bytes
that were given to it.

The wire is what a channel has put out so far. A channel is honest about it if
a write that succeeds puts out exactly as many of the offered bytes as it
reports, and if nothing else puts out anything. It is not asked to be ready at
any time, to take all it is offered, or to work: it may fault between any two
bytes. Where the wire is found is left open. It may be part of the channel, or
lie in the world.

A scripted channel is the plainest honest one. Its script says how much each
write may take, and which writes fault.

## Main definitions

* `Channel.Honest`: A channel that is honest about its wire.
* `ScriptedChannel`: A channel whose writes follow a script.

## Theorems

* `ScriptedChannel.honest`: A scripted channel is honest.
-/

namespace PacketRadio

variable {κ ω : Type} [Channel κ ω]

/-- The channel is honest about its wire: a write that succeeds takes no more
    than it was offered and puts out exactly what it takes, and nothing else
    puts anything out. -/
structure Channel.Honest (wire : κ → ω → List UInt8) : Prop where
  write_some {channel channel' : κ} {data : List UInt8} {world world' : ω} {count : Nat}
    (h : Channel.write channel data world = ((some count, channel'), world')) :
    count ≤ data.length ∧ wire channel' world' = wire channel world ++ data.take count
  write_none {channel channel' : κ} {data : List UInt8} {world world' : ω}
    (h : Channel.write channel data world = ((none, channel'), world')) :
    wire channel' world' = wire channel world
  -- Asking is not writing, whatever the answer.
  writeReady {channel channel' : κ} {world world' : ω} {ready : Option Bool}
    (h : Channel.writeReady channel world = ((ready, channel'), world')) :
    wire channel' world' = wire channel world
  readReady {channel channel' : κ} {world world' : ω} {ready : Option Bool}
    (h : Channel.readReady channel world = ((ready, channel'), world')) :
    wire channel' world' = wire channel world
  read {channel channel' : κ} {buffer : List UInt8} {world world' : ω} {fill : Option Fill}
    (h : Channel.read channel buffer world = ((fill, channel'), world')) :
    wire channel' world' = wire channel world

/-- A channel whose writes follow a script: how many bytes each may take, or
    `none` for a fault. When the script is over it is no longer ready. -/
structure ScriptedChannel where
  script : List (Option Nat)
  -- The wire is part of the channel.
  written : List UInt8

namespace ScriptedChannel

-- Nothing ever arrives on a scripted channel.
instance {ω : Type} : Channel ScriptedChannel ω where
  writeReady channel := pure (some (!channel.script.isEmpty), channel)
  write channel data := pure <|
    match channel.script with
    | [] => (some 0, channel)
    | none :: rest => (none, { channel with script := rest })
    | some room :: rest => (some (min room data.length), ⟨rest, channel.written ++ data.take room⟩)
  readReady channel := pure (some false, channel)
  read channel _ := pure (some Fill.nothing, channel)

theorem honest {ω : Type} :
    Channel.Honest fun (channel : ScriptedChannel) (_ : ω) => channel.written where
  write_some {channel channel' data world world' count} h := by
    rcases channel with ⟨_ | ⟨_ | room, rest⟩, written⟩
    · cases h
      exact ⟨Nat.zero_le _, (List.append_nil written).symm⟩
    · cases h
    · cases h
      refine ⟨Nat.min_le_right room data.length, ?_⟩
      -- A write that may take more than it is offered takes all of it.
      show written ++ data.take room = written ++ data.take (min room data.length)
      rw [← List.take_take, List.take_length]
  write_none {channel channel' data world world'} h := by
    rcases channel with ⟨_ | ⟨_ | room, rest⟩, written⟩ <;> cases h
    rfl
  writeReady h := by
    cases h
    rfl
  readReady h := by
    cases h
    rfl
  read h := by
    cases h
    rfl

end ScriptedChannel

end PacketRadio
