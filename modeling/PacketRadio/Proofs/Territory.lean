import Mathlib.Logic.Function.Basic
import PacketRadio.Proofs.Confined
import PacketRadio.Proofs.Journal

/-!
# Territories

The radios of a pool, each in its own part of the world.

What radios have in common is the world. It consists of places: the lines that
links are connected to, and what the contexts of callbacks stand for. A
`Layout` says how to look at a place, which lines a link has, and that a link
stays on them. A place is given to one radio at most, and what is given to a
radio is its territory.

A pool is guarded if each of its radios keeps to its territory. Then an errand
for one radio is of no consequence to another: it changes neither the other
radio nor anything in its territory. And two pools that agree on a radio and
on its territory still agree, and have the same to enter in the journal, when
that radio has taken the same turn in both. So of all the errands that a pool
is made to go on, a radio can tell only those that were for itself
(`Pool.Agrees.errands`).

## Main definitions

* `Place`: A line, or what a context stands for.
* `inside`, `outside`: The world in an area, and around it.
* `Layout`: How the places lie in the world, and which lines links have.
* `Turn.Local`: A callback that is brought keeps to its context.
* `Loop`, `Loop.layout`: A link for which all of this is so.
* `errandsOf`: The errands for one radio.
* `Separate`: Nothing lies in two territories.
* `Pool.Guarded`, `Pool.Covered`: Every radio keeps to its territory, or at
  least its link does.
* `Pool.Retains`: Radios stay where they are.
* `Pool.Agrees`: Two pools look the same to a radio.

## Theorems

* `Confined.widen`: Who keeps to an area keeps to every larger one.
* `Layout.lines_turn`: A radio stays on its lines.
* `Pool.Guarded.errand`: No turn leads out of a territory.
* `Pool.Agrees.own`, `Pool.Agrees.aside`, `Pool.Agrees.errands`: Errands, as a
  radio sees them.
* `Station.retains_run`, `Station.guarded_run`: The same for whole runs.
-/

namespace PacketRadio

/-- A piece of the world that somebody can have to himself. -/
inductive Place (ι : Type) where
  | line (line : ι)
  /-- Whatever the context of a callback stands for. -/
  | endpoint (context : UInt64)
deriving DecidableEq

variable {tables capacity : Nat} {ι ρ τ σ ω γ : Type}

/-- The places in an area, as they are in a world. -/
def inside (part : Place ι → ω → ρ) (area : Place ι → Prop) (world : ω) :
    { place // area place } → ρ :=
  fun place => part place.1 world

/-- The places around an area. -/
def outside (part : Place ι → ω → ρ) (area : Place ι → Prop) (world : ω) :
    { place // ¬ area place } → ρ :=
  fun place => part place.1 world

variable {part : Place ι → ω → ρ} {area wider : Place ι → Prop}

theorem inside_eq_iff {world world' : ω} :
    inside part area world = inside part area world' ↔
      ∀ place, area place → part place world = part place world' :=
  ⟨fun h place hplace => congrFun h ⟨place, hplace⟩, fun h => funext fun place => h _ place.2⟩

namespace Confined

theorem part_eq {act : StateM ω γ} {result : γ → Prop}
    (h : Confined (inside part area) (outside part area) act result) {place : Place ι}
    (hplace : ¬ area place) (world : ω) : part place (act world).2 = part place world :=
  congrFun (h.rest_eq world) ⟨place, hplace⟩

/-- Who keeps to an area keeps to every larger one. -/
theorem widen {act : StateM ω γ} {result : γ → Prop}
    (h : Confined (inside part area) (outside part area) act result)
    (hwider : ∀ place, area place → wider place) :
    Confined (inside part wider) (outside part wider) act result where
  result_of := h.result_of
  rest_eq world := by
    funext place
    exact h.part_eq (fun harea => place.2 (hwider _ harea)) world
  alike {world world'} hsame := by
    rw [inside_eq_iff] at hsame
    rcases h.alike (inside_eq_iff.2 fun place hplace => hsame place (hwider place hplace)) with
      ⟨hvalue, hinside⟩
    refine ⟨hvalue, inside_eq_iff.2 fun place hplace => ?_⟩
    by_cases harea : area place
    · exact inside_eq_iff.1 hinside place harea
    · -- What lies in between is left alone on both sides.
      rw [h.part_eq harea, h.part_eq harea]
      exact hsame place hplace

/-- If all of the world is one's own, what is left to say is what comes out. -/
theorem anywhere {act : StateM ω γ} {result : γ → Prop} (h : ∀ world, result (act world).1) :
    Confined id (fun _ => ()) act result where
  result_of := h
  rest_eq _ := rfl
  alike {world world'} hsame := by
    have hworld : world = world' := hsame
    rw [hworld]
    exact ⟨rfl, rfl⟩

end Confined

theorem Turn.within_anywhere (turn : Turn ω) : turn.Within id fun _ => () := by
  cases turn with
  | tick => trivial
  | request asked =>
      cases asked with
      | bindReceiver sink => exact fun _ _ => .anywhere fun _ => trivial
      | bindSource source => exact fun _ _ => .anywhere fun _ => trivial
      | transmitReady available => trivial
      | receiveReady available => trivial
      | setBaud rate => trivial
      | inbound packet => trivial

/-- The lines, and no other places. -/
def onLines (lines : ι → Prop) : Place ι → Prop
  | .line line => lines line
  | .endpoint _ => False

/-- How the places lie in the world, and which lines a link has. A link is
    connected to the same lines all the time, and to nothing else. -/
structure Layout (ι ρ σ ω : Type) [Link σ ω] where
  part : Place ι → ω → ρ
  lines : σ → ι → Prop
  send (link : σ) (payload : List UInt8) :
    Confined (inside part (onLines (lines link))) (outside part (onLines (lines link)))
      (Link.send link payload) fun answer => lines answer.2 = lines link
  receive (link : σ) (buffer : List UInt8) :
    Confined (inside part (onLines (lines link))) (outside part (onLines (lines link)))
      (Link.receive link buffer) fun answer => lines answer.2 = lines link
  poll (link : σ) :
    Confined (inside part (onLines (lines link))) (outside part (onLines (lines link)))
      (Link.poll link) fun answer => lines answer.2 = lines link

namespace Layout

variable [Link σ ω] (layout : Layout ι ρ σ ω)

/-- All lines of a link lie in an area. -/
def Covers (area : Place ι → Prop) (link : σ) : Prop :=
  ∀ line, layout.lines link line → area (.line line)

variable {layout}

theorem Covers.onLines {area : Place ι → Prop} {link : σ} (h : layout.Covers area link) :
    ∀ place, onLines (layout.lines link) place → area place
  | .line line, hline => h line hline

variable (layout)

theorem links_within (area : Place ι → Prop) :
    Link.Within (inside layout.part area) (outside layout.part area) (layout.Covers area) where
  send {link} h payload :=
    ((layout.send link payload).mono fun answer hlines => by
      rw [Covers, hlines]
      exact h).widen h.onLines
  receive {link} h buffer :=
    ((layout.receive link buffer).mono fun answer hlines => by
      rw [Covers, hlines]
      exact h).widen h.onLines
  poll {link} h :=
    ((layout.poll link).mono fun answer hlines => by
      rw [Covers, hlines]
      exact h).widen h.onLines

theorem links_keep (lines : ι → Prop) :
    Link.Within id (fun _ : ω => ()) fun link : σ => layout.lines link = lines where
  send {link} h payload :=
    .anywhere fun world => ((layout.send link payload).result_of world).trans h
  receive {link} h buffer :=
    .anywhere fun world => ((layout.receive link buffer).result_of world).trans h
  poll {link} h := .anywhere fun world => ((layout.poll link).result_of world).trans h

/-- A radio stays on its lines, and stays live. -/
theorem lines_turn [Transport τ ω] (hsecluded : Transport.Secluded τ ω) {radio : Radio τ σ ω}
    (hlive : radio.isLive = true) (turn : Turn ω) (world : ω) :
    let after := (radio.turn turn world).1.2
    after.isLive = true ∧ layout.lines after.junction.link = layout.lines radio.junction.link := by
  intro after
  have hlinks := layout.links_keep (layout.lines radio.junction.link)
  have hradio : radio.Within id (fun _ => ())
      fun link => layout.lines link = layout.lines radio.junction.link :=
    ⟨hlive, ⟨rfl, fun sink _ _ _ => .anywhere fun _ => trivial⟩,
      fun source _ _ _ => .anywhere fun _ => trivial⟩
  have hafter := (Radio.confined_turn (hsecluded.within hlinks) hlinks hradio
    turn.within_anywhere).result_of world
  exact ⟨hafter.live, hafter.junction.link⟩

end Layout

/-- Act on one place of a world that is nothing but its places. -/
def Place.visit [DecidableEq ι] (place : Place ι) (act : ρ → γ × ρ) : StateM (Place ι → ρ) γ :=
  fun world => ((act (world place)).1, Function.update world place (act (world place)).2)

theorem Place.confined_visit [DecidableEq ι] (area : Place ι → Prop) {place : Place ι}
    (hplace : area place) (act : ρ → γ × ρ) {result : γ → Prop}
    (hresult : ∀ held, result (act held).1) :
    Confined (inside (fun place world => world place) area)
      (outside (fun place world => world place) area) (place.visit act) result where
  result_of world := hresult (world place)
  rest_eq world := by
    funext other
    have hne : other.1 ≠ place := fun heq => other.2 (heq.symm ▸ hplace)
    exact Function.update_of_ne hne _ world
  alike {world world'} hsame := by
    rw [inside_eq_iff] at hsame
    have hheld : world place = world' place := hsame place hplace
    refine ⟨congrArg (fun held => (act held).1) hheld, inside_eq_iff.2 fun other hother => ?_⟩
    show Function.update world place _ other = Function.update world' place _ other
    rw [hheld]
    by_cases heq : other = place
    · rw [heq, Function.update_self, Function.update_self]
    · rw [Function.update_of_ne heq, Function.update_of_ne heq]
      exact hsame other hother

namespace Turn

/-- The context of the callback that a turn brings. -/
def context? : Turn ω → Option UInt64
  | .request (.bindReceiver sink) => some sink.context
  | .request (.bindSource source) => some source.context
  | _ => none

/-- The callback that a turn brings keeps to what its context stands for. -/
def Local (part : Place ι → ω → ρ) (turn : Turn ω) : Prop :=
  ∀ context, turn.context? = some context →
    turn.Within (inside part fun place => place = .endpoint context)
      (outside part fun place => place = .endpoint context)

theorem Local.within {turn : Turn ω} (h : turn.Local part)
    (hcontext : ∀ context, turn.context? = some context → area (.endpoint context)) :
    turn.Within (inside part area) (outside part area) := by
  have hwider (context : UInt64) (hbound : turn.context? = some context) :
      ∀ place, place = .endpoint context → area place := by
    intro place hplace
    rw [hplace]
    exact hcontext context hbound
  cases turn with
  | tick => trivial
  | request asked =>
      cases asked with
      | bindReceiver sink => exact fun data before => (h _ rfl data before).widen (hwider _ rfl)
      | bindSource source =>
          exact fun buffer before => (h _ rfl buffer before).widen (hwider _ rfl)
      | transmitReady available => trivial
      | receiveReady available => trivial
      | setBaud rate => trivial
      | inbound packet => trivial

end Turn

/-- A link that gets back what it sends, by way of its line. It counts what it
    has sent. -/
structure Loop where
  line : Nat
  sent : Nat

namespace Loop

instance : Link Loop (Place Nat → List UInt8) where
  send link payload := (Place.line link.line).visit fun held =>
    ((.ok (), { link with sent := link.sent + 1 }), held ++ payload)
  receive link buffer := (Place.line link.line).visit fun held =>
    ((⟨held.take buffer.length, min held.length buffer.length⟩, link), held.drop buffer.length)

/-- The line of a loop is all that it touches. -/
def layout : Layout Nat (List UInt8) Loop (Place Nat → List UInt8) where
  part place world := world place
  lines link line := line = link.line
  send link _ := Place.confined_visit _ (Eq.refl link.line) _ fun _ => rfl
  receive link _ := Place.confined_visit _ (Eq.refl link.line) _ fun _ => rfl
  poll _ := .pure rfl

/-- Fill a buffer with the first bytes that are held. -/
def supply (buffer : List UInt8) (wish : Bool) (held : List UInt8) :
    (Fill × Bool) × List UInt8 :=
  ((⟨held.take buffer.length, min held.length buffer.length⟩, wish), held.drop buffer.length)

/-- Hold some bytes behind those that are held, and ask for a yield. -/
def store (data held : List UInt8) : (Nat × Bool) × List UInt8 :=
  ((data.length, true), held ++ data)

/-- A source that supplies what is held under its context. -/
def source (context : UInt64) : Binding (Source (Place Nat → List UInt8)) :=
  ⟨fun context buffer wish => (Place.endpoint context).visit (supply buffer wish), context⟩

/-- A sink that stores what it is given under its context. -/
def sink (context : UInt64) : Binding (Sink (Place Nat → List UInt8)) :=
  ⟨fun context data _ => (Place.endpoint context).visit (store data), context⟩

theorem local_source (context : UInt64) :
    Turn.Local layout.part (.request (.bindSource (source context))) := by
  rintro _ ⟨⟩ buffer before
  exact Place.confined_visit (fun place => place = .endpoint context) rfl (supply buffer before)
    fun _ => trivial

theorem local_sink (context : UInt64) :
    Turn.Local layout.part (.request (.bindReceiver (sink context))) := by
  rintro _ ⟨⟩ data before
  exact Place.confined_visit (fun place => place = .endpoint context) rfl (store data)
    fun _ => trivial

end Loop

/-- The errand is for the radio that the handle names. -/
def Errand.concerns (handle : Handle) : Errand ω → Bool
  | .turn asked _ => asked = handle
  | .handler _ => false

/-- The errands for one radio, among those for all. -/
def errandsOf (handle : Handle) (errands : List (Errand ω)) : List (Errand ω) :=
  errands.filter (Errand.concerns handle)

theorem errandsOf_append (handle : Handle) (first second : List (Errand ω)) :
    errandsOf handle (first ++ second) = errandsOf handle first ++ errandsOf handle second :=
  List.filter_append first second

theorem errandsOf_own (handle : Handle) (turn : Turn ω) (rest : List (Errand ω)) :
    errandsOf handle (.turn handle turn :: rest) = .turn handle turn :: errandsOf handle rest :=
  List.filter_cons_of_pos (by rw [Errand.concerns]; exact decide_eq_true rfl)

theorem errandsOf_other {handle other : Handle} (h : other ≠ handle) (turn : Turn ω)
    (rest : List (Errand ω)) :
    errandsOf handle (.turn other turn :: rest) = errandsOf handle rest :=
  List.filter_cons_of_neg (by rw [Errand.concerns, decide_eq_true_iff]; exact h)

/-- No place lies in two territories. -/
def Separate (territory : Handle → Place ι → Prop) : Prop :=
  ∀ handle other place, territory handle place → territory other place → handle = other

section

variable [Link σ ω] (layout : Layout ι ρ σ ω) (territory : Handle → Place ι → Prop)

/-- The turn of an entry brings no callback that leads out of the territory of
    its radio. -/
def Entry.Within (entry : Entry ω) : Prop :=
  entry.turn.Within (inside layout.part (territory entry.handle))
    (outside layout.part (territory entry.handle))

/-- Every radio of a pool keeps to its territory. -/
def Pool.Guarded (pool : Pool capacity τ σ ω) : Prop :=
  ∀ handle radio, pool.radio? handle = some radio →
    radio.Within (inside layout.part (territory handle)) (outside layout.part (territory handle))
      (layout.Covers (territory handle))

/-- Every radio of a pool is connected to its territory only. -/
def Pool.Covered (pool : Pool capacity τ σ ω) : Prop :=
  ∀ handle radio, pool.radio? handle = some radio →
    layout.Covers (territory handle) radio.junction.link

/-- Every radio of the first pool is in the second one, and has the same lines. -/
def Pool.Retains (pool after : Pool capacity τ σ ω) : Prop :=
  ∀ handle radio, pool.radio? handle = some radio → ∃ now, after.radio? handle = some now ∧
    layout.lines now.junction.link = layout.lines radio.junction.link

/-- A radio that is found in two pools is the same one, in surroundings that are
    the same to it. -/
structure Pool.Agrees (handle : Handle) (pool pool' : Pool capacity τ σ ω) (world world' : ω) :
    Prop where
  radio_eq : pool.radio? handle = pool'.radio? handle
  inside_eq : inside layout.part (territory handle) world =
    inside layout.part (territory handle) world'

end

section

variable [Transport τ ω] [Link σ ω] {layout : Layout ι ρ σ ω}
  {territory : Handle → Place ι → Prop} (hsecluded : Transport.Secluded τ ω)
  {pool pool' : Pool capacity τ σ ω} {world world' : ω}

include hsecluded

namespace Pool

/-- What a turn does in a guarded pool is confined to the territory of the radio
    that takes it. -/
theorem Guarded.confined_turn (h : pool.Guarded layout territory) {handle : Handle}
    {radio : Radio τ σ ω} (hradio : pool.radio? handle = some radio) {turn : Turn ω}
    (hturn : turn.Within (inside layout.part (territory handle))
      (outside layout.part (territory handle))) :
    Confined (inside layout.part (territory handle)) (outside layout.part (territory handle))
      (radio.turn turn) fun answer =>
        answer.2.Within (inside layout.part (territory handle))
          (outside layout.part (territory handle)) (layout.Covers (territory handle)) :=
  Radio.confined_turn (hsecluded.within (layout.links_within _)) (layout.links_within _)
    (h handle radio hradio) hturn

/-- Everybody stays in his territory. -/
theorem Guarded.errand (h : pool.Guarded layout territory) (errand : Errand ω)
    (hentries : ∀ entry ∈ (pool.errand errand world).1.1, entry.Within layout territory) :
    (leaving (pool.errand errand) world).1.Guarded layout territory := by
  cases errand with
  | handler act => exact h
  | turn asked turn =>
      cases hradio : pool.radio? asked with
      | none =>
          rw [errand_of_radio?_eq_none hradio]
          exact h
      | some radio =>
          rw [entries_errand hradio] at hentries
          have hturn := List.forall_mem_singleton.1 hentries
          have hafter := (h.confined_turn hsecluded hradio hturn).result_of world
          rw [leaving_errand hradio]
          intro handle other hother
          rw [radio?_update hradio hafter.live] at hother
          split at hother
          · rename_i hsame
            rw [← Option.some.inj hother, ← hsame]
            exact hafter
          · exact h handle other hother

/-- A turn that a radio takes in both pools is the same turn. -/
theorem Agrees.own {handle : Handle}
    (hagrees : pool.Agrees layout territory handle pool' world world')
    (h : pool.Guarded layout territory) (turn : Turn ω)
    (hentries : ∀ entry ∈ (pool.errand (.turn handle turn) world).1.1,
      entry.Within layout territory) :
    (leaving (pool.errand (.turn handle turn)) world).1.Agrees layout territory handle
        (leaving (pool'.errand (.turn handle turn)) world').1
        (leaving (pool.errand (.turn handle turn)) world).2
        (leaving (pool'.errand (.turn handle turn)) world').2 ∧
      entriesOf handle (pool.errand (.turn handle turn) world).1.1 =
        (pool'.errand (.turn handle turn) world').1.1 := by
  cases hradio : pool.radio? handle with
  | none =>
      have hradio' : pool'.radio? handle = none := hagrees.radio_eq ▸ hradio
      rw [errand_of_radio?_eq_none hradio, errand_of_radio?_eq_none hradio']
      exact ⟨hagrees, rfl⟩
  | some radio =>
      have hradio' : pool'.radio? handle = some radio := hagrees.radio_eq ▸ hradio
      rw [entries_errand hradio] at hentries
      have hturn := List.forall_mem_singleton.1 hentries
      have hlive := ((h.confined_turn hsecluded hradio hturn).result_of world).live
      have hlive' := ((h.confined_turn hsecluded hradio hturn).result_of world').live
      rcases Scene.alike hsecluded (layout.links_within _) (h handle radio hradio) hturn
        hagrees.inside_eq with ⟨hanswer, hcalls, hinside⟩
      rw [leaving_errand hradio, leaving_errand hradio', entries_errand hradio,
        entries_errand hradio', hcalls]
      refine ⟨⟨?_, hinside⟩, ?_⟩
      · rw [radio?_update hradio hlive, radio?_update hradio' hlive', if_pos rfl, if_pos rfl,
          hanswer]
      · rw [entriesOf_singleton, if_pos rfl, hanswer]

/-- A turn that another radio takes goes unnoticed. -/
theorem Agrees.aside {handle other : Handle}
    (hagrees : pool.Agrees layout territory handle pool' world world')
    (h : pool.Guarded layout territory) (hseparate : Separate territory) (hother : other ≠ handle)
    (turn : Turn ω)
    (hentries : ∀ entry ∈ (pool.errand (.turn other turn) world).1.1,
      entry.Within layout territory) :
    (leaving (pool.errand (.turn other turn)) world).1.Agrees layout territory handle pool'
        (leaving (pool.errand (.turn other turn)) world).2 world' ∧
      entriesOf handle (pool.errand (.turn other turn) world).1.1 = [] := by
  cases hradio : pool.radio? other with
  | none =>
      rw [errand_of_radio?_eq_none hradio]
      exact ⟨hagrees, rfl⟩
  | some radio =>
      rw [entries_errand hradio] at hentries
      have hturn := List.forall_mem_singleton.1 hentries
      have hconfined := h.confined_turn hsecluded hradio hturn
      have hlive := (hconfined.result_of world).live
      rw [leaving_errand hradio, entries_errand hradio]
      refine ⟨⟨?_, ?_⟩, ?_⟩
      · rw [radio?_update hradio hlive, if_neg hother]
        exact hagrees.radio_eq
      · -- What belongs to one radio lies around the territory of the other.
        refine inside_eq_iff.2 fun place hplace => ?_
        have haround : ¬ territory other place := fun hin =>
          hother (hseparate other handle place hin hplace)
        exact (hconfined.part_eq haround world).trans
          (inside_eq_iff.1 hagrees.inside_eq place hplace)
      · rw [entriesOf_singleton, if_neg hother]

/-- Of all the errands that a pool goes on, a radio can tell its own. -/
theorem Agrees.errands {handle : Handle} (hseparate : Separate territory)
    (errands : List (Errand ω)) (hturns : ∀ act, .handler act ∉ errands)
    (hagrees : pool.Agrees layout territory handle pool' world world')
    (h : pool.Guarded layout territory)
    (hentries : ∀ entry ∈ (pool.errands errands world).1.1, entry.Within layout territory) :
    (leaving (pool.errands errands) world).1.Agrees layout territory handle
        (leaving (pool'.errands (errandsOf handle errands)) world').1
        (leaving (pool.errands errands) world).2
        (leaving (pool'.errands (errandsOf handle errands)) world').2 ∧
      entriesOf handle (pool.errands errands world).1.1 =
        (pool'.errands (errandsOf handle errands) world').1.1 := by
  induction errands generalizing pool pool' world world' with
  | nil => exact ⟨hagrees, rfl⟩
  | cons errand rest ih =>
      rw [entries_cons] at hentries
      rcases List.forall_mem_append.1 hentries with ⟨hfirst, hlater⟩
      have hguarded := h.errand hsecluded errand hfirst
      have hrest : ∀ act, .handler act ∉ rest := fun act hmem =>
        hturns act (List.mem_cons_of_mem _ hmem)
      cases errand with
      | handler act => exact absurd List.mem_cons_self (hturns act)
      | turn asked turn =>
          rw [leaving_errands_cons, entries_cons, entriesOf_append]
          by_cases hsame : asked = handle
          · -- Both pools go on this errand.
            subst hsame
            rw [errandsOf_own, leaving_errands_cons, entries_cons]
            rcases hagrees.own hsecluded h turn hfirst with ⟨hnow, hentry⟩
            rcases ih hrest hnow hguarded hlater with ⟨hlast, hmore⟩
            exact ⟨hlast, by rw [hentry, hmore]⟩
          · rw [errandsOf_other hsame]
            rcases hagrees.aside hsecluded h hseparate hsame turn hfirst with ⟨hnow, hentry⟩
            rcases ih hrest hnow hguarded hlater with ⟨hlast, hmore⟩
            exact ⟨hlast, by rw [hentry, hmore, List.nil_append]⟩

/-- Everybody stays in his territory, errand after errand. -/
theorem Guarded.errands (h : pool.Guarded layout territory) (errands : List (Errand ω))
    (hentries : ∀ entry ∈ (pool.errands errands world).1.1, entry.Within layout territory) :
    (leaving (pool.errands errands) world).1.Guarded layout territory := by
  induction errands generalizing pool world with
  | nil => exact h
  | cons errand rest ih =>
      rw [entries_cons] at hentries
      rcases List.forall_mem_append.1 hentries with ⟨hfirst, hlater⟩
      exact ih (h.errand hsecluded errand hfirst) hlater

omit [Transport τ ω] hsecluded in
theorem Retains.trans {middle after : Pool capacity τ σ ω} (h : pool.Retains layout middle)
    (hafter : middle.Retains layout after) : pool.Retains layout after := by
  intro handle radio hradio
  rcases h handle radio hradio with ⟨between, hbetween, hlines⟩
  rcases hafter handle between hbetween with ⟨now, hnow, hmore⟩
  exact ⟨now, hnow, hmore.trans hlines⟩

omit [Transport τ ω] hsecluded in
/-- Where a radio is connected can be seen at any later time. -/
theorem Retains.covered {after : Pool capacity τ σ ω} (h : pool.Retains layout after)
    (hafter : after.Covered layout territory) : pool.Covered layout territory := by
  intro handle radio hradio
  rcases h handle radio hradio with ⟨now, hnow, hlines⟩
  have hcovers := hafter handle now hnow
  rw [Layout.Covers, hlines] at hcovers
  exact hcovers

variable (layout) in
theorem retains_errand (errand : Errand ω) (world : ω) :
    pool.Retains layout (leaving (pool.errand errand) world).1 := by
  have hidle : pool.Retains layout pool := fun _ radio hradio => ⟨radio, hradio, rfl⟩
  cases errand with
  | handler act => exact hidle
  | turn asked turn =>
      cases hasked : pool.radio? asked with
      | none =>
          rw [errand_of_radio?_eq_none hasked]
          exact hidle
      | some old =>
          have hlive : old.isLive = true := (radio?_eq_some_iff.1 hasked).2
          rcases layout.lines_turn hsecluded hlive turn world with ⟨hnow, hlines⟩
          rw [leaving_errand hasked]
          intro handle radio hradio
          rw [radio?_update hasked hnow]
          by_cases hsame : asked = handle
          · rw [if_pos hsame]
            rw [← hsame, hasked] at hradio
            exact ⟨_, rfl, Option.some.inj hradio ▸ hlines⟩
          · rw [if_neg hsame]
            exact ⟨radio, hradio, rfl⟩

variable (layout) in
theorem retains_errands (errands : List (Errand ω)) (world : ω) :
    pool.Retains layout (leaving (pool.errands errands) world).1 := by
  induction errands generalizing pool world with
  | nil => exact fun _ radio hradio => ⟨radio, hradio, rfl⟩
  | cons errand rest ih =>
      exact (retains_errand layout hsecluded errand world).trans (ih _)

omit hsecluded in
/-- The slot of a new radio was empty. -/
theorem radio?_insert {entries : List (Entry ω)} (hattested : pool.Attested entries)
    {handle : Handle} {old : Radio τ σ ω} (hold : pool.radio? handle = some old)
    (radio : Radio τ σ ω) : (pool.insert radio).2.radio? handle = some old := by
  rcases radio?_eq_some_iff.1 hold with ⟨hslot, hlive⟩
  have hother : ¬ (pool.allocated = handle.index ∧ handle.index < capacity) := fun hnext =>
    nomatch (hattested.vacant handle (Nat.le_of_eq hnext.1)).1.symm.trans hslot
  refine radio?_eq_some_iff.2 ⟨?_, hlive⟩
  rw [slot?_insert, if_neg hother]
  exact hslot

omit hsecluded in
variable (layout) in
theorem retains_insert {entries : List (Entry ω)} (hattested : pool.Attested entries)
    (radio : Radio τ σ ω) : pool.Retains layout (pool.insert radio).2 :=
  fun _ old hold => ⟨old, radio?_insert hattested hold radio, rfl⟩

omit [Transport τ ω] hsecluded in
theorem guarded_empty : (Pool.empty : Pool capacity τ σ ω).Guarded layout territory := by
  intro handle radio hradio
  exact nomatch (slot?_empty _).symm.trans (radio?_eq_some_iff.1 hradio).1

omit hsecluded in
/-- A radio that was just started calls nobody, so all that matters is where it
    is connected. -/
theorem Guarded.insert (h : pool.Guarded layout territory) (settings : Settings) (period : Period)
    (link : σ) (world : ω)
    (hcovered : (pool.insert (Scene.start settings period link world).radio).2.Covered
      layout territory) :
    (pool.insert (Scene.start settings period link world).radio).2.Guarded layout territory := by
  intro handle radio hradio
  have hcovers := hcovered handle radio hradio
  rcases radio?_eq_some_iff.1 hradio with ⟨hslot, hlive⟩
  rw [slot?_insert] at hslot
  split at hslot
  · rw [← Option.some.inj hslot] at hcovers hlive ⊢
    exact ⟨hlive, ⟨hcovers, fun sink hsink => nomatch hsink⟩, fun source hsource => nomatch hsource⟩
  · exact h handle radio (radio?_eq_some_iff.2 ⟨hslot, hlive⟩)

end Pool

namespace Station

variable (layout) in
theorem retains_execute {station : Station tables capacity τ σ ω} {entries : List (Entry ω)}
    (hattested : station.pool.Attested entries) (command : Command tables σ ω) (world : ω) :
    station.pool.Retains layout (leaving (station.execute command) world).1.pool := by
  rcases station.execute_cases command world with ⟨_, _, _, -, hpool, -⟩ | ⟨hpool, -⟩
  · rw [hpool]
    exact Pool.retains_insert layout hattested _
  · rw [hpool]
    exact Pool.retains_errands layout hsecluded _ world

variable (layout) in
/-- A radio stays in its slot and on its lines, whatever happens. -/
theorem retains_run {station : Station tables capacity τ σ ω} {entries : List (Entry ω)}
    (hattested : station.pool.Attested entries) (commands : List (Command tables σ ω))
    (world : ω) : station.pool.Retains layout (leaving (station.run commands) world).1.pool := by
  induction commands generalizing station entries world with
  | nil => exact fun _ radio hradio => ⟨radio, hradio, rfl⟩
  | cons command rest ih =>
      have hfirst := retains_execute layout hsecluded hattested command world
      exact hfirst.trans (ih (attested_execute hattested command world) _)

theorem guarded_execute {station : Station tables capacity τ σ ω}
    (h : station.pool.Guarded layout territory) (command : Command tables σ ω) (world : ω)
    (hcovered : (leaving (station.execute command) world).1.pool.Covered layout territory)
    (hentries : ∀ entry ∈ (station.pool.errands (station.errands command) world).1.1,
      entry.Within layout territory) :
    (leaving (station.execute command) world).1.pool.Guarded layout territory := by
  rcases station.execute_cases command world with ⟨_, _, _, -, hpool, -⟩ | ⟨hpool, -⟩
  · rw [hpool] at hcovered ⊢
    exact h.insert _ _ _ _ hcovered
  · rw [hpool]
    exact h.errands hsecluded _ hentries

/-- Everybody stays in his territory, if only the lines of the radios that are
    there in the end lie in theirs. -/
theorem guarded_run {station : Station tables capacity τ σ ω} {entries : List (Entry ω)}
    (hattested : station.pool.Attested entries) (h : station.pool.Guarded layout territory)
    (commands : List (Command tables σ ω)) (world : ω)
    (hcovered : (leaving (station.run commands) world).1.pool.Covered layout territory)
    (hentries : ∀ entry ∈ station.journal commands world, entry.Within layout territory) :
    (leaving (station.run commands) world).1.pool.Guarded layout territory := by
  induction commands generalizing station entries world with
  | nil => exact h
  | cons command rest ih =>
      rcases List.forall_mem_append.1 hentries with ⟨hfirst, hlater⟩
      have hattested' := attested_execute hattested command world
      have hretains := retains_run layout hsecluded hattested' rest
        (leaving (station.execute command) world).2
      have hnow := guarded_execute hsecluded h command world (hretains.covered hcovered) hfirst
      exact ih hattested' hnow _ hcovered hlater

end Station

end

end PacketRadio
