import PacketRadio.Proofs.Serial.Bounds

/-!
# What a Send Leaves Behind

What is in the backlog of a serial link after a send, however the send ended.

There are two pumps in a send, and between them the payload is queued. Before
that, the backlog belongs to payloads that were accepted. It loses what the
channel claims to have taken, and what is left of it is kept, whether the pump
failed or the new payload was refused. So the new payload has touched neither
the backlog nor the channel: the send was a pump and nothing else
(`Despatch.of_unqueued`). Afterwards the backlog is the new payload and nothing
else. If its pump fails, all of it goes.

None of this depends on the channel being honest. One that claims too much makes
the backlog shorter, and a shorter suffix is a suffix as well.

## Theorems

* `SerialLink.pump_suffix`: A pump leaves a suffix of the backlog.
* `SerialLink.Despatch.suffix_of_error`, `SerialLink.Despatch.busy_iff`,
  `SerialLink.Despatch.of_blocked`, `SerialLink.Despatch.of_unqueued`,
  `SerialLink.Despatch.discarded`, `SerialLink.Despatch.of_accepted`: The ways a
  send can end.
* `SerialLink.send_leaves`: All of it, and what a poll leaves.
-/

namespace PacketRadio

open Access

namespace SerialLink

variable {κ ω : Type} [Channel κ ω] {link after : SerialLink κ} {payload : List UInt8}
  {world last : ω} {steps : List Step} {answer : Except LinkError Unit}

theorem pump_suffix (link : SerialLink κ) (world : ω) :
    (link.pump world).1.2.backlog.toList <:+ link.backlog.toList := by
  rw [(link.pump_rounds world).toList_eq]
  exact List.drop_suffix _ _

/-- A pump that fails does so because of its channel. -/
theorem eq_io_of_pump {error : LinkError}
    (h : link.pump world = ((.error error, after), last)) : error = .io := by
  have hpumped := link.pump_pumped world
  rw [h] at hpumped
  rcases hpumped.error_eq_io with hok | hio
  · exact nomatch hok
  · exact Except.error.inj hio

/-- What is offered to the channel in a pump lies in one piece in the backlog. -/
theorem infix_of_mem_pumpAccesses {offered : List UInt8} {taken : Option Nat}
    (h : .write offered taken ∈ link.pumpAccesses world) : offered <:+: link.backlog.toList := by
  rcases List.append_of_mem h with ⟨before, rest, hsplit⟩
  rcases (link.pump_rounds world).write hsplit with ⟨-, -, hprefix⟩
  exact hprefix.isInfix.trans (List.drop_suffix _ _).isInfix

namespace Despatch

/-- A send that fails leaves some of what waited before it. -/
theorem suffix_of_error (h : Despatch link payload world steps answer after last)
    (hanswer : answer ≠ .ok ()) : after.backlog.toList <:+ link.backlog.toList := by
  have hsuffix := link.pump_suffix world
  cases h with
  | blocked hfirst =>
      rw [hfirst] at hsuffix
      exact hsuffix
  | refused hfirst _ =>
      rw [hfirst] at hsuffix
      exact hsuffix
  | broken _ _ _ => exact List.nil_suffix
  | accepted _ _ _ => exact absurd rfl hanswer

/-- The link is busy if something still waits or the payload does not fit. -/
theorem busy_iff (h : Despatch link payload world steps answer after last) :
    answer = .error .busy ↔ (link.pump world).1.1 = .ok () ∧
      ((link.pump world).1.2.backlog.toList ≠ [] ∨ maxPayload < payload.length) := by
  cases h with
  | blocked hfirst =>
      rw [hfirst, eq_io_of_pump hfirst]
      simp
  | @refused after _ hfirst hrefuse =>
      rw [accepts_eq_true_iff] at hrefuse
      rw [hfirst]
      simp only [true_and, true_iff]
      by_cases hempty : after.backlog.toList = []
      · right
        have hlong : ¬ payload.length ≤ maxPayload := fun hfits => hrefuse ⟨hempty, hfits⟩
        omega
      · exact .inl hempty
  | @broken error middle _ _ _ hfirst haccept hsecond =>
      rcases (accepts_eq_true_iff _ _).1 haccept with ⟨hempty, hfits⟩
      rw [hfirst, eq_io_of_pump hsecond]
      simp [hempty, hfits]
  | @accepted middle _ _ _ hfirst haccept _ =>
      rcases (accepts_eq_true_iff _ _).1 haccept with ⟨hempty, hfits⟩
      rw [hfirst]
      simp [hempty, hfits]

/-- A send whose first pump fails is that pump. -/
theorem of_blocked (h : Despatch link payload world steps answer after last)
    (hfault : (link.pump world).1.1 ≠ .ok ()) : ((answer, after), last) = link.pump world := by
  cases h with
  | blocked hfirst => exact hfirst.symm
  | refused hfirst _ =>
      rw [hfirst] at hfault
      exact absurd rfl hfault
  | broken hfirst _ _ =>
      rw [hfirst] at hfault
      exact absurd rfl hfault
  | accepted hfirst _ _ =>
      rw [hfirst] at hfault
      exact absurd rfl hfault

/-- A send that does not come to queue its payload does what a pump does. -/
theorem of_unqueued (h : Despatch link payload world steps answer after last)
    (hunqueued : (link.pump world).1.1 = .ok () →
      ¬ (link.pump world).1.2.accepts payload = true) :
    steps = link.pumpHistory world ∧ after = (link.pump world).1.2 ∧ answer ≠ .ok () := by
  cases h with
  | blocked hfirst =>
      rw [hfirst]
      exact ⟨rfl, rfl, nofun⟩
  | refused hfirst _ =>
      rw [hfirst]
      exact ⟨rfl, rfl, nofun⟩
  | broken hfirst haccept _ =>
      rw [hfirst] at hunqueued
      exact absurd haccept (hunqueued rfl)
  | accepted hfirst haccept _ =>
      rw [hfirst] at hunqueued
      exact absurd haccept (hunqueued rfl)

/-- A payload that was queued and then failed is thrown away. -/
theorem discarded (h : Despatch link payload world steps answer after last)
    (hfirst : (link.pump world).1.1 = .ok ()) (hanswer : answer = .error .io) :
    after.backlog.toList = [] := by
  cases h with
  | blocked hpump =>
      rw [hpump] at hfirst
      exact nomatch hfirst
  | refused _ _ => exact nomatch hanswer
  | broken _ _ _ => rfl
  | accepted _ _ _ => exact nomatch hanswer

/-- A payload is accepted behind nothing, and some of it may still wait. -/
theorem of_accepted (h : Despatch link payload world steps answer after last)
    (hanswer : answer = .ok ()) :
    (link.pump world).1.1 = .ok () ∧ (link.pump world).1.2.backlog.toList = [] ∧
      after.backlog.toList <:+ payload := by
  cases h with
  | blocked _ => exact nomatch hanswer
  | refused _ _ => exact nomatch hanswer
  | broken _ _ _ => exact nomatch hanswer
  | @accepted middle _ between _ hfirst haccept hsecond =>
      have hsuffix := (middle.queue payload).pump_suffix between
      rw [hsecond, toList_queue haccept] at hsuffix
      rw [hfirst]
      exact ⟨rfl, ((accepts_eq_true_iff _ _).1 haccept).1, hsuffix⟩

end Despatch

/-- A payload is not queued if it is too long, if something still waits, or if
    the first pump failed. -/
theorem unqueued_of_refused
    (h : (link.send payload world).1.1 = .error .busy ∨ (link.pump world).1.1 = .error .io ∨
      maxPayload < payload.length) (hfirst : (link.pump world).1.1 = .ok ()) :
    ¬ (link.pump world).1.2.accepts payload = true := by
  intro haccept
  rcases (accepts_eq_true_iff _ _).1 haccept with ⟨hempty, hfits⟩
  rcases h with hbusy | hfault | hlong
  · rcases ((link.send_despatch payload world).busy_iff.1 hbusy).2 with hmore | hlong
    · exact hmore hempty
    · omega
  · exact nomatch hfirst.symm.trans hfault
  · omega

/-- What a send leaves in the backlog, whatever the channel does.

    A send that fails leaves a suffix of what waited before. If it was refused
    as busy, or its first pump failed, or the payload is too long, then it was
    that pump and nothing else: the channel was offered some of what waited
    before and nothing of the payload. It is refused as busy if and only if the
    first pump succeeded and left something, or the payload is too long. If it
    fails after the payload was queued, nothing waits. If it succeeds, nothing
    waited before the payload, and a suffix of the payload waits now. A poll
    takes out what the channel claims and leaves the suffix behind that. -/
theorem send_leaves (link : SerialLink κ) (payload : List UInt8) (world : ω) :
    let first := link.pump world
    let sent := link.send payload world
    let answer := sent.1.1
    let kept := sent.1.2.backlog.toList
    let accesses := link.accesses [.send payload] world
    (answer ≠ .ok () → kept <:+ link.backlog.toList) ∧
      (first.1.1 ≠ .ok () → sent = first) ∧
      (answer = .error .busy ∨ first.1.1 = .error .io ∨ maxPayload < payload.length →
        answer ≠ .ok () ∧ sent.1.2 = first.1.2 ∧ accesses = link.pumpAccesses world ∧
          ∀ offered taken, .write offered taken ∈ accesses →
            offered <:+: link.backlog.toList) ∧
      (answer = .error .busy ↔ first.1.1 = .ok () ∧
        (first.1.2.backlog.toList ≠ [] ∨ maxPayload < payload.length)) ∧
      (first.1.1 = .ok () → answer = .error .io → kept = []) ∧
      (answer = .ok () →
        first.1.1 = .ok () ∧ first.1.2.backlog.toList = [] ∧ kept <:+ payload) ∧
      let polled := (link.poll world).1.2.backlog.toList
      polled <:+ link.backlog.toList ∧
        polled = link.backlog.toList.drop (claims (link.accesses [.poll] world)) := by
  intro first sent answer kept accesses
  have hsend : Despatch link payload world _ answer sent.1.2 sent.2 :=
    link.send_despatch payload world
  refine ⟨hsend.suffix_of_error, hsend.of_blocked, fun hrefused => ?_, hsend.busy_iff,
    hsend.discarded, hsend.of_accepted, link.pump_suffix world, ?_⟩
  · rcases hsend.of_unqueued (unqueued_of_refused hrefused) with ⟨hsteps, hafter, hfailed⟩
    have haccesses : accesses = link.pumpAccesses world := by
      rw [← accesses_pumpHistory, ← hsteps]
      exact link.accesses_send payload world
    refine ⟨hfailed, hafter, haccesses, fun offered taken hmem => ?_⟩
    rw [haccesses] at hmem
    exact infix_of_mem_pumpAccesses hmem
  · rw [accesses_poll]
    exact (link.pump_rounds world).toList_eq

/-- Three bytes wait, and two more are sent: the link is busy; the first pump
    faults; the second pump faults behind a first one that the channel
    overstated; and the payload is accepted, where one byte of it is left. -/
theorem send_leaves_overstated :
    let waiting (ready : List (Option Bool)) (taken : List (Option Nat)) :=
      (ofChannel (PresetChannel.mk ready taken)).queue [1, 2, 3]
    let refused := waiting [some true] [some 2]
    let blocked := waiting [some true, none] [some 1]
    let broken := waiting [some true, some true] [some 5, none]
    let accepted := waiting [some true, some true] [some 5, some 1]
    let kept (link : SerialLink PresetChannel) := (link.send [8, 9] ()).1.2.backlog.toList
    ((refused.send [8, 9] ()).1.1 = .error .busy ∧ kept refused <:+ refused.backlog.toList ∧
      refused.accesses [.send [8, 9]] () = refused.pumpAccesses ()) ∧
      ((blocked.pump ()).1.1 = .error .io ∧ blocked.send [8, 9] () = blocked.pump ()) ∧
      ((broken.pump ()).1.1 = .ok () ∧ (broken.send [8, 9] ()).1.1 = .error .io ∧
        kept broken = []) ∧
      ((accepted.send [8, 9] ()).1.1 = .ok () ∧ kept accepted <:+ [8, 9]) ∧
      kept refused = [3] ∧ kept blocked = [2, 3] ∧ kept accepted = [9] := by
  intro waiting refused blocked broken accepted kept
  have hrefused : (refused.send [8, 9] ()).1.1 = .error .busy := by decide +kernel
  have hblocked : (blocked.pump ()).1.1 = .error .io := by decide +kernel
  have hfirst : (broken.pump ()).1.1 = .ok () := by decide +kernel
  have hbroken : (broken.send [8, 9] ()).1.1 = .error .io := by decide +kernel
  have haccepted : (accepted.send [8, 9] ()).1.1 = .ok () := by decide +kernel
  rcases send_leaves refused [8, 9] () with ⟨hsuffix, -, hpump, -⟩
  rcases send_leaves blocked [8, 9] () with ⟨-, hfault, -⟩
  rcases send_leaves broken [8, 9] () with ⟨-, -, -, -, hdiscarded, -⟩
  rcases send_leaves accepted [8, 9] () with ⟨-, -, -, -, -, hqueued, -⟩
  refine ⟨⟨hrefused, hsuffix (hrefused ▸ nofun), (hpump (.inl hrefused)).2.2.1⟩,
    ⟨hblocked, hfault (hblocked ▸ nofun)⟩, ⟨hfirst, hbroken, hdiscarded hfirst hbroken⟩,
    ⟨haccepted, (hqueued haccepted).2.2⟩, ?_⟩
  decide +kernel

end SerialLink

end PacketRadio
