import Telemetry.Proofs.Run.Bridges
import Telemetry.Proofs.Run.Readings
import Telemetry.Proofs.Runner.Stopping

/-!
# The ticks of a heartbeat

A heartbeat ticks beside a manager whose pipeline comes and goes. Its instruments belong to the
bridge that its last tick found, so a tick makes them anew just if it finds another bridge, or the
first one after a tick that found none. A tick that finds a bridge records one heartbeat and one
uptime there, and nothing anywhere else. The bridge counts them if it was open when the instruments
were made.

* `tick_spec`: what one tick does.
* `bridge_operation`: the bridge that an operation leaves.
* `isSound_step`, `isSound_run`: instruments belong to a bridge of the past.
* `isSettled_step`, `isSettled_run`: instruments of a bridge record if it was open at its start.
* `bound_run`: which bridge the instruments belong to after a run.
* `exists_ticks_of_sleep`: a heartbeat that goes on by itself makes such ticks.
-/

namespace Telemetry

theorem Instrument.isSame_eq_false_of_meter_ne {i j : Instrument} (other : i.meter ≠ j.meter) :
    i.isSame j = false := by
  rw [isSame, decide_eq_false_iff_not]
  intro same
  have meters : i.key.meter = j.key.meter := congrArg Instrument.meter same
  exact other meters

namespace Runner

/-! ## One tick -/

namespace Heartbeat

theorem isValid_beats : beats.isValid = true := by decide +kernel

/-- The event of instruments being made. -/
def bindingEvent (clock : Timestamp) : Event :=
  .report clock .debug target "binding heartbeat instruments to metrics bridge"

/-- A bridge with one heartbeat and one uptime recorded. -/
def counted (uptime : Duration) (b : Bridge) : Bridge :=
  (b.record beats ∅ (.whole 1)).record uptimeSeconds ∅ (.seconds uptime)

/-- The milestones of making instruments, unless the heartbeat has those of the bridge already. -/
def bindingEffects (b : Heartbeat) (g : Generation) (h : Host) : List Effect :=
  if b.bound.map Binding.bridge = some g then [] else [.emitted .heartbeat (bindingEvent h.clock)]

/-- What the instruments of a heartbeat record at a tick: one heartbeat and one uptime. -/
def recordings (uptime : Duration) (binding : Binding) : List Effect :=
  [.recorded binding.bridge beats ∅ (.whole 1) binding.live,
    .recorded binding.bridge uptimeSeconds ∅ (.seconds uptime) binding.live]

variable {b : Heartbeat} {g : Generation} {h : Host}

/-- The instruments for a bridge are those that the heartbeat has, or they are made now. -/
theorem bind_cases (b : Heartbeat) (g : Generation) (h : Host) :
    (∃ binding, b.bound = some binding ∧ binding.bridge = g ∧ b.bind g h = (binding, h)) ∨
      b.bound.map Binding.bridge ≠ some g ∧ b.bind g h = (⟨g, h.offers g beats⟩,
        h.emit .heartbeat (bindingEvent h.clock)) := by
  cases bound : b.bound with
  | none => exact Or.inr ⟨nofun, by simp [bind, bound, report, bindingEvent]⟩
  | some binding =>
    by_cases mine : binding.bridge = g
    · exact Or.inl ⟨binding, rfl, mine, by simp [bind, bound, Option.filter, mine]⟩
    · exact Or.inr ⟨by simpa using mine,
        by simp [bind, bound, Option.filter, mine, report, bindingEvent]⟩

/-- The instruments for a bridge belong to it, and making them changes nothing but the journal. -/
theorem bind_spec (b : Heartbeat) (g : Generation) (h : Host) :
    (b.bind g h).1.bridge = g ∧ h.Reaches (b.bindingEffects g h) (b.bind g h).2 ∧
      (b.bind g h).2.unwritten = h.unwritten := by
  rcases b.bind_cases g h with ⟨binding, bound, mine, kept⟩ | ⟨other, made⟩
  · rw [bindingEffects, if_pos (by rw [bound, ← mine]; rfl), kept]
    exact ⟨mine, .refl h, rfl⟩
  · rw [bindingEffects, if_neg other, made]
    exact ⟨rfl, h.reaches_emit .heartbeat _, h.unwritten_emit .heartbeat _⟩

theorem snd_tick (b : Heartbeat) (g : Generation) (h : Host) :
    (b.tick (some g) h).2 =
      let binding := (b.bind g h).1
      binding.record uptimeSeconds (.seconds b.uptime)
        (binding.record beats (.whole 1) (b.bind g h).2) := rfl

/-- Live instruments of a bridge count a heartbeat and an uptime there. -/
theorem reaches_record_of_found {binding : Binding} {bridge : Bridge}
    (found : h.bridges[binding.bridge]? = some bridge) (uptime : Duration) :
    let k := binding.record uptimeSeconds (.seconds uptime) (binding.record beats (.whole 1) h)
    h.Reaches (recordings uptime binding) k ∧ ∀ j, k.bridges[j]? =
      if j = binding.bridge ∧ binding.live = true then h.bridges[j]?.map (counted uptime)
      else h.bridges[j]? := by
  intro k
  let once := if binding.live then bridge.record beats ∅ (.whole 1) else bridge
  have first : binding.record beats (.whole 1) h =
      (h.note (.recorded binding.bridge beats ∅ (.whole 1) binding.live)).setBridge
        binding.bridge once := by
    rw [Binding.record, Host.record, found]
    rfl
  have there : (binding.record beats (.whole 1) h).bridges[binding.bridge]? = some once := by
    rw [first]
    exact Std.ExtTreeMap.getElem?_insert_self
  have second : k = ((binding.record beats (.whole 1) h).note
      (.recorded binding.bridge uptimeSeconds ∅ (.seconds uptime) binding.live)).setBridge
        binding.bridge
          (if binding.live then once.record uptimeSeconds ∅ (.seconds uptime) else once) := by
    rw [show k = (binding.record beats (.whole 1) h).record binding.bridge uptimeSeconds ∅
      (.seconds uptime) binding.live from rfl, Host.record, there]
    rfl
  constructor
  · have counts := h.reaches_record binding.bridge beats ∅ (.whole 1) binding.live
    have measures := (binding.record beats (.whole 1) h).reaches_record binding.bridge
      uptimeSeconds ∅ (.seconds uptime) binding.live
    rw [found] at counts
    rw [there] at measures
    exact counts.trans measures
  · intro j
    by_cases here : j = binding.bridge
    · subst here
      rw [second, Host.setBridge]
      refine Std.ExtTreeMap.getElem?_insert_self.trans ?_
      cases live : binding.live <;> simp [once, live, found, counted]
    · have other : ¬ binding.bridge = j := fun same => here same.symm
      simp [second, first, Host.setBridge, Host.note, Std.ExtTreeMap.getElem?_insert, here, other]

/-- A tick that finds a bridge makes its instruments if they are of another one, and records one
heartbeat and one uptime. The bridge counts them if the instruments are live, and no other bridge is
touched. -/
theorem tick_spec {bridge : Bridge} (found : h.bridges[g]? = some bridge) :
    let binding := (b.bind g h).1
    (b.tick (some g) h).1.bound = some binding ∧
    h.Reaches (b.bindingEffects g h ++ recordings b.uptime binding) (b.tick (some g) h).2 ∧
    ∀ j, (b.tick (some g) h).2.bridges[j]? =
      if j = g ∧ binding.live = true then h.bridges[j]?.map (counted b.uptime)
      else h.bridges[j]? := by
  intro binding
  obtain ⟨mine, told, same⟩ := b.bind_spec g h
  have bridges := Host.bridges_of_unwritten same
  have there : (b.bind g h).2.bridges[binding.bridge]? = some bridge := by
    rw [bridges, mine, found]
  obtain ⟨recorded, counts⟩ := reaches_record_of_found there b.uptime
  refine ⟨rfl, told.trans recorded, fun j => ?_⟩
  rw [snd_tick]
  exact (counts j).trans (by rw [mine, bridges])

/-- A tick asks nothing of any bridge. -/
theorem attends_tick (b : Heartbeat) (g j : Generation) (h : Host) :
    h.Attends .metrics j [] (b.tick (some g) h).2 := by
  have told : h.Attends .metrics j [] (b.bind g h).2 := by
    rcases b.bind_cases g h with ⟨binding, -, -, kept⟩ | ⟨-, made⟩
    · rw [kept]
      exact .refl h
    · rw [made]
      exact h.attends_emit .heartbeat _
  exact (told.trans (Host.attends_record _ _ _ _ _ _)).trans (Host.attends_record _ _ _ _ _ _)

/-- The two recordings of a tick are of two instruments. -/
theorem filterMap_recording?_recordings (uptime : Duration) (binding : Binding) (k : Generation) :
    (recordings uptime binding).filterMap (Effect.recording? k beats) =
        (if binding.bridge = k then [⟨∅, .whole 1, binding.live⟩] else []) ∧
      (recordings uptime binding).filterMap (Effect.recording? k uptimeSeconds) =
        (if binding.bridge = k then [⟨∅, .seconds uptime, binding.live⟩] else []) := by
  have same : beats.isSame beats = true ∧ uptimeSeconds.isSame uptimeSeconds = true ∧
      beats.isSame uptimeSeconds = false ∧ uptimeSeconds.isSame beats = false := by
    decide +kernel
  by_cases here : binding.bridge = k <;> simp [recordings, here, Effect.recording?, same]

/-- Making instruments records nothing on them. -/
theorem isUnrecorded_bindingEffects (b : Heartbeat) (g : Generation) (h : Host) :
    IsUnrecorded (b.bindingEffects g h) := .of_ite .nil (.single rfl)

/-- What a tick records on an instrument follows on what this has come to. -/
theorem value?_tick {bridge : Bridge} (found : h.bridges[g]? = some bridge) (k : Generation)
    (instrument : Instrument) (attributes : Attributes) :
    (b.tick (some g) h).2.value? k instrument attributes =
      (h.value? k instrument attributes).map fun value =>
        instrument.kind.replay attributes value
          ((recordings b.uptime (b.bind g h).1).filterMap (Effect.recording? k instrument)) := by
  obtain ⟨mine, -, same⟩ := b.bind_spec g h
  let binding := (b.bind g h).1
  let told := (b.bind g h).2
  let once := binding.record beats (.whole 1) told
  have there : told.bridges[binding.bridge]? = some bridge := by
    rw [Host.bridges_of_unwritten same, mine, found]
  obtain ⟨later, still⟩ : ∃ later, once.bridges[binding.bridge]? = some later := by
    have kept := (Host.retains_record told binding.bridge beats ∅ (.whole 1) binding.live).bridges
      binding.bridge (Std.ExtTreeMap.mem_iff_isSome_getElem?.mpr (by rw [there]; rfl))
    exact Option.isSome_iff_exists.mp (Std.ExtTreeMap.mem_iff_isSome_getElem?.mp kept)
  have first := told.value?_record binding.bridge beats ∅ (.whole 1) binding.live k instrument
    attributes
  have second := once.value?_record binding.bridge uptimeSeconds ∅ (.seconds b.uptime) binding.live
    k instrument attributes
  rw [there, Option.elim_some] at first
  rw [still, Option.elim_some, show once.value? k instrument attributes = _ from first,
    Option.map_map] at second
  rw [snd_tick]
  refine second.trans ?_
  rw [Host.value?_of_unwritten same]
  refine congrArg (Option.map · _) (funext fun value => ?_)
  rw [Function.comp_apply, ← InstrumentKind.replay_append, ← List.filterMap_append]
  rfl

end Heartbeat

/-! ## A manager with a heartbeat -/

/-- A heartbeat beside the system whose manager it asks for a bridge. -/
structure Attended where
  system : System
  heartbeat : Heartbeat

/-- What may come next: an operation, or a tick at some uptime. -/
inductive Turn
  | operation (op : Operation)
  | tick (uptime : Duration)

/-- A tick of a run, with what it finds. -/
structure Tick where
  before : Attended
  uptime : Duration

namespace Attended

/-- A heartbeat that has not ticked yet. -/
def idle (s : System) (interval : Duration) : Attended := ⟨s, ⟨interval, interval, .zero, none⟩⟩

def tick (a : Attended) (uptime : Duration) : Attended :=
  let due := { a.heartbeat with uptime := uptime }
  let (heartbeat, host) := due.tick a.system.manager.bridge a.system.host
  ⟨⟨a.system.manager, host⟩, heartbeat⟩

def step (a : Attended) : Turn → Attended
  | .operation op => { a with system := (a.system.step op).2 }
  | .tick uptime => a.tick uptime

def run (a : Attended) (turns : List Turn) : Attended := turns.foldl step a

/-- The ticks of a run. -/
def ticks (a : Attended) : List Turn → List Tick
  | [] => []
  | .operation op :: rest => (a.step (.operation op)).ticks rest
  | .tick uptime :: rest => ⟨a, uptime⟩ :: (a.tick uptime).ticks rest

end Attended

namespace Tick

variable (t : Tick)

/-- The bridge that a tick finds. -/
def found : Option Generation := t.before.system.manager.bridge

def after : Attended := t.before.tick t.uptime

/-- What a tick adds to the journal. -/
def effects : List Effect :=
  t.after.system.host.journal.drop t.before.system.host.journal.length

/-- Whether the instruments are live that a tick uses on a bridge. -/
def isLive (g : Generation) : Bool :=
  (t.before.heartbeat.bind g t.before.system.host).1.live

/-- Whether a tick finds a bridge. -/
def finds (g : Generation) : Bool := t.found = some g

/-- Whether a bridge counts a tick. -/
def counts (g : Generation) : Bool := t.finds g && t.isLive g

end Tick

/-- Nobody but the manager shuts a bridge down, and nobody but the heartbeat uses its meter. -/
def Turn.SparesHeartbeat : Turn → Prop
  | .operation (.shutdownBridge ..) => False
  | .operation (.record _ instrument _ _) => instrument.meter ≠ Heartbeat.meter
  | _ => True

namespace Attended

/-- The system is sound, and the bridges that the pipeline and the instruments belong to have
numbers of starts that have been. -/
structure IsSound (a : Attended) : Prop where
  system : a.system.IsSound
  numbered : ∀ g, a.system.manager.bridge = some g → g ≤ a.system.host.generation
  older : ∀ binding, a.heartbeat.bound = some binding →
    binding.bridge ≤ a.system.host.generation

/-- While the pipeline has a bridge the bridge is settled, and instruments of it are live just if it
is open. -/
structure IsSettled (g : Generation) (opened : Bool) (a : Attended) : Prop where
  old : g ≤ a.system.host.generation
  settles : a.system.manager.bridge = some g → a.system.host.Settles g opened
  live : ∀ binding, a.heartbeat.bound = some binding → binding.bridge = g →
    binding.live = opened

theorem isSound_idle {s : System} (new : s.IsNew) (interval : Duration) :
    (idle s interval).IsSound := by
  refine ⟨new.isSound, fun g bridge => ?_, fun binding bound => ?_⟩
  · rw [show (idle s interval).system = s from rfl, Manager.bridge, new.active] at bridge
    cases bridge
  · cases bound

variable {a : Attended} {g : Generation} {opened : Bool}

/-- The bridge of the pipeline exists. -/
theorem IsSound.exists_bridge (sound : a.IsSound) (found : a.system.manager.bridge = some g) :
    ∃ b, a.system.host.bridges[g]? = some b := by
  obtain ⟨p, active, held⟩ := Option.bind_eq_some_iff.mp found
  exact (sound.system.backed p active).bridge_found held

theorem generation_operation (sound : a.IsSound) (op : Operation) :
    a.system.host.generation ≤ (a.step (.operation op)).system.host.generation :=
  System.generation_le_run sound.system [op]

/-- The bridge that an operation leaves was there before, or it is that of a start and has a new
number. -/
theorem bridge_operation (sound : a.IsSound) {op : Operation}
    (bridge : (a.step (.operation op)).system.manager.bridge = some g) :
    (op.endsPipeline = false ∧ a.system.manager.bridge = some g) ∨
    (op.isEffectiveStart = true ∧ g = a.system.host.generation + 1) := by
  cases ends : op.endsPipeline with
  | false =>
    rw [show (a.step (.operation op)).system.manager.bridge = a.system.manager.bridge from
      System.bridge_step_of_not_endsPipeline ends] at bridge
    exact .inl ⟨rfl, bridge⟩
  | true => exact .inr (System.bridge_step_of_endsPipeline sound.system ends bridge)

/-- An operation leaves the heartbeat alone. -/
theorem isSound_operation (sound : a.IsSound) (op : Operation) :
    (a.step (.operation op)).IsSound := by
  have later := generation_operation sound op
  refine ⟨System.isSound_step sound.system op, fun g bridge => ?_, fun binding bound =>
    Nat.le_trans (sound.older binding bound) later⟩
  rcases bridge_operation sound bridge with ⟨-, same⟩ | ⟨started, rfl⟩
  · exact Nat.le_trans (sound.numbered g same) later
  · have counted : (a.system.step op).2.host.generation =
        a.system.host.generation + System.startsOf op :=
      System.generation_step sound.system.backed op
    rw [Operation.startsOf_eq, if_pos started] at counted
    exact Nat.le_of_eq counted.symm

/-- A bridge that is settled stays so as long as it is that of the pipeline. -/
theorem isSettled_operation (sound : a.IsSound) (settled : a.IsSettled g opened) {op : Operation}
    (spares : Turn.SparesHeartbeat (.operation op)) :
    (a.step (.operation op)).IsSettled g opened := by
  refine ⟨Nat.le_trans settled.old (generation_operation sound op), fun bridge => ?_, settled.live⟩
  rcases bridge_operation sound bridge with ⟨ends, same⟩ | ⟨-, rfl⟩
  · have others : ∀ k deadline, op ≠ .shutdownBridge k deadline := by
      rintro k deadline rfl
      exact spares
    exact System.settles_step sound.system ends others settled.old (settled.settles same)
  · exact absurd settled.old (Nat.not_succ_le_self _)

theorem tick_of_found {g : Generation} (found : a.system.manager.bridge = some g)
    (uptime : Duration) :
    a.tick uptime =
      ⟨⟨a.system.manager, ({ a.heartbeat with uptime := uptime }.tick (some g) a.system.host).2⟩,
        ({ a.heartbeat with uptime := uptime }.tick (some g) a.system.host).1⟩ := by
  simp only [tick, found]

theorem tick_of_none (found : a.system.manager.bridge = none) (uptime : Duration) :
    a.tick uptime = ⟨a.system, { a.heartbeat with uptime := uptime, bound := none }⟩ := by
  simp only [tick, found]
  rfl

/-- After a tick the instruments belong to the bridge that it has found. -/
theorem isSound_tick (sound : a.IsSound) (uptime : Duration) :
    (a.tick uptime).IsSound ∧
      (a.tick uptime).heartbeat.bound.map Binding.bridge = a.system.manager.bridge := by
  cases found : a.system.manager.bridge with
  | none =>
    rw [tick_of_none found]
    exact ⟨⟨sound.system, sound.numbered, nofun⟩, rfl⟩
  | some g =>
    let due : Heartbeat := { a.heartbeat with uptime := uptime }
    obtain ⟨b, there⟩ := sound.exists_bridge found
    obtain ⟨bound, reached, -⟩ := Heartbeat.tick_spec (b := due) there
    have mine := (due.bind_spec g a.system.host).1
    have spared := due.spares_tick (some g) a.system.host
    rw [tick_of_found found]
    refine ⟨⟨sound.system.of_spares spared, fun k bridge => ?_, fun binding made => ?_⟩, ?_⟩
    · exact reached.generation ▸ sound.numbered k bridge
    · obtain rfl := Option.some.inj (bound.symm.trans made)
      rw [mine]
      exact reached.generation ▸ sound.numbered g found
    · exact (congrArg (Option.map Binding.bridge) bound).trans (congrArg some mine)

theorem isSound_step (sound : a.IsSound) (turn : Turn) : (a.step turn).IsSound := by
  cases turn with
  | operation op => exact isSound_operation sound op
  | tick uptime => exact (isSound_tick sound uptime).1

theorem isSound_run (sound : a.IsSound) (turns : List Turn) : (a.run turns).IsSound := by
  induction turns generalizing a with
  | nil => exact sound
  | cons turn rest ih => exact ih (isSound_step sound turn)

/-- The instruments of a settled bridge are live just if it is open, and a tick makes no others. -/
theorem live_bind (settled : a.IsSettled g opened) (found : a.system.manager.bridge = some g) :
    (a.heartbeat.bind g a.system.host).1.live = opened := by
  rcases a.heartbeat.bind_cases g a.system.host with ⟨binding, bound, mine, kept⟩ | ⟨-, made⟩
  · rw [kept]
    exact settled.live binding bound mine
  · rw [made]
    exact (settled.settles found).offers Heartbeat.isValid_beats

theorem isSettled_tick (sound : a.IsSound) (settled : a.IsSettled g opened) (uptime : Duration) :
    (a.tick uptime).IsSettled g opened := by
  cases found : a.system.manager.bridge with
  | none =>
    rw [tick_of_none found]
    exact ⟨settled.old, settled.settles, nofun⟩
  | some k =>
    let due : Heartbeat := { a.heartbeat with uptime := uptime }
    obtain ⟨b, there⟩ := sound.exists_bridge found
    obtain ⟨bound, reached, -⟩ := Heartbeat.tick_spec (b := due) there
    rw [tick_of_found found]
    refine ⟨reached.generation ▸ settled.old, fun bridge => ?_, fun binding made mine => ?_⟩
    · exact (settled.settles bridge).of_attends (due.attends_tick k g a.system.host) rfl
    · obtain rfl := Option.some.inj (bound.symm.trans made)
      obtain rfl : k = g := (due.bind_spec k a.system.host).1.symm.trans mine
      exact live_bind settled found

theorem isSettled_step (sound : a.IsSound) (settled : a.IsSettled g opened) {turn : Turn}
    (spares : turn.SparesHeartbeat) : (a.step turn).IsSettled g opened := by
  cases turn with
  | operation op => exact isSettled_operation sound settled spares
  | tick uptime => exact isSettled_tick sound settled uptime

theorem isSettled_run (sound : a.IsSound) (settled : a.IsSettled g opened) {turns : List Turn}
    (spares : ∀ turn ∈ turns, turn.SparesHeartbeat) : (a.run turns).IsSettled g opened := by
  induction turns generalizing a with
  | nil => exact settled
  | cons turn rest ih =>
    obtain ⟨first, later⟩ := List.forall_mem_cons.mp spares
    exact ih (isSound_step sound turn) (isSettled_step sound settled first) later

/-! ## The ticks of a run -/

/-- What stands before a tick of a run is a run. -/
theorem exists_of_ticks_eq {turns : List Turn} {past future : List Tick} {t : Tick}
    (split : a.ticks turns = past ++ t :: future) :
    ∃ xs ys, turns = xs ++ .tick t.uptime :: ys ∧ past = a.ticks xs ∧ t.before = a.run xs := by
  induction turns generalizing a past with
  | nil => simp [ticks] at split
  | cons turn rest ih =>
    cases turn with
    | operation op =>
      obtain ⟨xs, ys, rfl, rfl, before⟩ := ih split
      exact ⟨.operation op :: xs, ys, rfl, rfl, before⟩
    | tick uptime =>
      cases past with
      | nil =>
        obtain ⟨rfl, -⟩ := List.cons.inj split
        exact ⟨[], rest, rfl, rfl, rfl⟩
      | cons first past =>
        obtain ⟨rfl, tail⟩ := List.cons.inj split
        obtain ⟨xs, ys, rfl, rfl, before⟩ := ih tail
        exact ⟨.tick uptime :: xs, ys, rfl, rfl, before⟩

/-- The instruments belong to the bridge that the last tick has found. -/
theorem bound_run (sound : a.IsSound) (turns : List Turn) :
    (a.run turns).heartbeat.bound.map Binding.bridge =
      ((a.ticks turns).getLast?.map Tick.found).getD (a.heartbeat.bound.map Binding.bridge) := by
  induction turns generalizing a with
  | nil => rfl
  | cons turn rest ih =>
    have rest_of_run := ih (isSound_step sound turn)
    cases turn with
    | operation op => exact rest_of_run
    | tick uptime =>
      rw [show a.run (.tick uptime :: rest) = (a.step (.tick uptime)).run rest from rfl,
        rest_of_run,
        show (a.step (.tick uptime)).heartbeat.bound.map Binding.bridge = a.system.manager.bridge
          from (isSound_tick sound uptime).2]
      simp only [ticks, List.getLast?_cons, Option.map_some, Option.getD_some]
      rw [show a.step (.tick uptime) = a.tick uptime from rfl]
      cases ((a.tick uptime).ticks rest).getLast? <;> rfl

end Attended

/-! ## Heartbeats that go on by themselves -/

/-- What a tick does depends on the instruments and on the uptime only. -/
theorem Heartbeat.tick_congr {b c : Heartbeat} (bound : c.bound = b.bound)
    (uptime : c.uptime = b.uptime) (bridge : Option Generation) (h : Host) :
    (c.tick bridge h).2 = (b.tick bridge h).2 ∧
      (c.tick bridge h).1.bound = (b.tick bridge h).1.bound := by
  cases bridge with
  | none => exact ⟨rfl, rfl⟩
  | some g => simp only [tick, bind, bound, uptime, and_self]

namespace Attended

/-- A heartbeat that is started ticks at once. -/
theorem spawn_eq_tick (s : System) {interval : Duration} (positive : interval ≠ .zero) :
    let a := (idle s interval).tick .zero
    Task.spawn interval s.manager.bridge s.host = (.beating a.heartbeat, a.system.host) := by
  simp only [Task.spawn, if_neg positive]
  rfl

theorem exists_ticks_of_beat (m : Manager) (n : Nat) {b c : Heartbeat} (same : c.bound = b.bound)
    (h : Host) :
    ∃ uptimes : List Duration, uptimes.length = n ∧
      let beaten := Heartbeat.beat m.bridge n b h
      (run ⟨⟨m, h⟩, c⟩ (uptimes.map .tick)).system = ⟨m, beaten.2⟩ ∧
      (run ⟨⟨m, h⟩, c⟩ (uptimes.map .tick)).heartbeat.bound = beaten.1.bound := by
  induction n generalizing b c h with
  | zero => exact ⟨[], rfl, rfl, same⟩
  | succ n ih =>
    let uptime := b.uptime.add b.untilNext
    let due : Heartbeat := { b with uptime := uptime, untilNext := b.interval }
    obtain ⟨host, bound⟩ := Heartbeat.tick_congr (b := due) (c := { c with uptime := uptime }) same
      rfl m.bridge h
    obtain ⟨uptimes, counted, system, rest_bound⟩ := ih bound (due.tick m.bridge h).2
    have first : tick ⟨⟨m, h⟩, c⟩ uptime = ⟨⟨m, (due.tick m.bridge h).2⟩,
        (Heartbeat.tick { c with uptime := uptime } m.bridge h).1⟩ := by
      rw [← host]
      rfl
    refine ⟨uptime :: uptimes, by rw [List.length_cons, counted], ?_⟩
    simp only [List.map_cons, run, List.foldl_cons, step, first]
    exact ⟨system, rest_bound⟩

/-- A heartbeat that sleeps makes the ticks that are due. -/
theorem exists_ticks_of_sleep (a : Attended) (d : Duration) :
    ∃ uptimes : List Duration, uptimes.length = a.heartbeat.ticksWithin d ∧
      let slept := a.heartbeat.sleep d a.system.manager.bridge a.system.host
      (a.run (uptimes.map .tick)).system = ⟨a.system.manager, slept.2⟩ ∧
      (a.run (uptimes.map .tick)).heartbeat.bound = slept.1.bound :=
  exists_ticks_of_beat a.system.manager (a.heartbeat.ticksWithin d) rfl a.system.host

end Attended

end Runner

end Telemetry
