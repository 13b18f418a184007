/-!
# Recorded Worlds

A world with a record of what happened in it, and actions that keep the
record without doing anything else.

What a radio does to its surroundings does not show in its state: a packet
that was handed over is gone. To speak about it, the same program is run in a
world that keeps a record, where every call to the surroundings is written
down by the one who is called. The program does not know about the record. It
is the same definition, taken at another world.

`Mirrors` is what makes such a run worth looking at. An action in the recorded
world mirrors a plain one if it gives the same result, leaves the same world
behind, and only adds to the record, whatever the record held before. Mirrors
compose: `Mirrors.bind` follows a program line by line, and what each line
wrote down is appended. The last argument of `Mirrors` says what was written,
so that the walk through a program which shows that it is undisturbed also
collects what it did.

## Main definitions

* `Possible`: Some world lets an action have a result.
* `Recorded`: A world with the events that happened in it.
* `Recorded.lift`, `Recorded.note`: Acting without a record, and recording.
* `Recorded.record`: What an action writes down.
* `Mirrors`: Doing the same as a plain action, and recording.

## Theorems

* `Possible.result`: What an action did was possible.
* `Mirrors.pure`, `Mirrors.bind`: Mirrors compose.
* `Mirrors.noted`: An event in front of what a mirror records.
* `Mirrors.mono`: Saying less about what was recorded.
* `Mirrors.recorded`, `Mirrors.exact`: What a mirror adds to a record.
-/

namespace PacketRadio

/-- The action can have this result: there is a world in which it does. -/
def Possible {ω α : Type} (act : StateM ω α) (result : α) : Prop :=
  ∃ world, (act world).1 = result

theorem Possible.result {ω α : Type} (act : StateM ω α) (world : ω) :
    Possible act (act world).1 :=
  ⟨world, rfl⟩

theorem Possible.of_eq {ω α : Type} {act : StateM ω α} {world last : ω} {result : α}
    (h : act world = (result, last)) : Possible act result :=
  ⟨world, congrArg Prod.fst h⟩

/-- A world together with what happened in it, the earliest event first. -/
structure Recorded (ε ω : Type) where
  world : ω
  events : List ε

namespace Recorded

variable {ε ω α : Type}

/-- Act on the world and leave the record alone. -/
def lift (act : StateM ω α) : StateM (Recorded ε ω) α := fun recorded =>
  ((act recorded.world).1, ⟨(act recorded.world).2, recorded.events⟩)

/-- Write an event down and leave the world alone. -/
def note (event : ε) : StateM (Recorded ε ω) Unit := fun recorded =>
  ((), ⟨recorded.world, recorded.events ++ [event]⟩)

/-- What an action writes down, starting from an empty record. -/
def record (act : StateM (Recorded ε ω) α) (world : ω) : List ε :=
  (act ⟨world, []⟩).2.events

end Recorded

/-- Done in a recorded world, the first action does what the second does in
    the plain one: its result is the same one, seen through `view`, the world
    it leaves is the same, and the events it adds to the record do not depend
    on the record. What they are is said by `tells`. -/
def Mirrors {ε ω α α' : Type} (recorded : StateM (Recorded ε ω) α') (plain : StateM ω α)
    (view : α → α') (world : ω) (tells : α → List ε → Prop) : Prop :=
  ∃ events,
    (∀ earlier, recorded ⟨world, earlier⟩ =
      (view (plain world).1, ⟨(plain world).2, earlier ++ events⟩)) ∧
    tells (plain world).1 events

namespace Mirrors

variable {ε ω α α' β β' : Type} {world : ω}

theorem pure (view : α → α') {tells : α → List ε → Prop} (result : α) (h : tells result []) :
    Mirrors (pure (view result)) (pure result) view world tells := by
  refine ⟨[], fun earlier => ?_, h⟩
  rw [List.append_nil]
  rfl

/-- A line of a program and the rest of it. What the rest records comes behind
    what the line recorded. -/
theorem bind {first' : StateM (Recorded ε ω) α'} {first : StateM ω α}
    {rest' : α' → StateM (Recorded ε ω) β'} {rest : α → StateM ω β}
    {view : α → α'} {view' : β → β'}
    {tells : α → List ε → Prop} {tells' : β → List ε → Prop}
    (hfirst : Mirrors first' first view world tells)
    (hrest : ∀ result events, tells result events →
      Mirrors (rest' (view result)) (rest result) view' (first world).2
        fun last more => tells' last (events ++ more)) :
    Mirrors (first' >>= rest') (first >>= rest) view' world tells' := by
  rcases hfirst with ⟨events, hrun, htells⟩
  rcases hrest _ _ htells with ⟨more, hmore, htells'⟩
  refine ⟨events ++ more, fun earlier => ?_, htells'⟩
  -- The rest starts from the record that the first line left.
  show rest' (first' ⟨world, earlier⟩).1 (first' ⟨world, earlier⟩).2 = _
  rw [hrun earlier, hmore, List.append_assoc]
  rfl

theorem mono {recorded : StateM (Recorded ε ω) α'} {plain : StateM ω α} {view : α → α'}
    {tells tells' : α → List ε → Prop} (h : Mirrors recorded plain view world tells)
    (himp : ∀ result events, tells result events → tells' result events) :
    Mirrors recorded plain view world tells' := by
  rcases h with ⟨events, hrun, htells⟩
  exact ⟨events, hrun, himp _ _ htells⟩

theorem noted {plain : StateM ω α} {view : α → α'} {tells : α → List ε → Prop} (event : ε)
    (recorded : StateM (Recorded ε ω) α')
    (h : Mirrors recorded plain view world fun result events => tells result (event :: events)) :
    Mirrors (Recorded.note event >>= fun _ => recorded) plain view world tells := by
  rcases h with ⟨events, hrun, htells⟩
  refine ⟨event :: events, fun earlier => ?_, htells⟩
  show recorded ⟨world, earlier ++ [event]⟩ = _
  rw [hrun, List.append_assoc, List.singleton_append]

/-- What a mirror adds to any record is what it writes into an empty one. -/
theorem recorded {act : StateM (Recorded ε ω) α'} {plain : StateM ω α} {view : α → α'}
    {tells : α → List ε → Prop} (h : Mirrors act plain view world tells) :
    (∀ earlier, act ⟨world, earlier⟩ =
      (view (plain world).1, ⟨(plain world).2, earlier ++ Recorded.record act world⟩)) ∧
    tells (plain world).1 (Recorded.record act world) := by
  rcases h with ⟨events, hrun, htells⟩
  have hevents : Recorded.record act world = events := by
    rw [Recorded.record, hrun []]
    rfl
  rw [hevents]
  exact ⟨hrun, htells⟩

/-- A mirror in its own words: the plain result, and what is recorded. -/
theorem exact {act : StateM (Recorded ε ω) α'} {plain : StateM ω α} {view : α → α'}
    {tells : α → List ε → Prop} (h : Mirrors act plain view world tells) :
    Mirrors act plain view world fun result events =>
      result = (plain world).1 ∧ events = Recorded.record act world :=
  ⟨_, h.recorded.1, rfl, rfl⟩

end Mirrors

end PacketRadio
