import Telemetry.Proofs.Host.Frame

/-!
# How events are routed

The journal of a host tells which emitter each sink holds at any time: what was attached last,
unless it was detached since. A milestone is an effect other than a record on its way out. After the
milestone of an event come the calls that the layers make for it, one for each layer that the event
passes and whose sink holds an emitter, in the order of the layers; calls are made nowhere else.

* `Reaches`: a host gets to another one over some milestones, and calls only where events ask for
  it.
* `reaches_emit`, `reaches_closeEmitter`, `reaches_shutdownBridge`, `reaches_wake`: the milestones
  of the operations of a host.
* `Routed.filterMap_delivery?`: the milestones determine the calls.
-/

namespace Telemetry

/-- The emitters that sinks hold. -/
abbrev Sinks := Std.ExtTreeMap SinkName Generation

/-- A call of an emitter by the layer of a sink. -/
structure Delivery where
  sink : SinkName
  emitter : Generation
  entry : Entry

namespace Effect

def delivery? : Effect → Option Delivery
  | .forwarded sink g entry => some ⟨sink, g, entry⟩
  | _ => none

def event? : Effect → Option Event
  | .emitted _ event => some event
  | _ => none

/-- Whether an effect is other than a record on its way out. -/
def isMilestone : Effect → Bool
  | .forwarded .. | .handed .. | .dropped .. => false
  | _ => true

/-- Whether an effect is a milestone that neither concerns a sink nor is an event. -/
def isPlain : Effect → Bool
  | .built .. | .closeRequested .. | .shutdownRequested .. | .shutDown .. | .collected ..
  | .hookRun .. | .recorded .. => true
  | _ => false

def isAttachment : Effect → Bool
  | .attached .. => true
  | _ => false

def isSwitch : Effect → Bool
  | .attached .. | .detached .. => true
  | _ => false

/-- What an effect does to the sinks. -/
def act (σ : Sinks) : Effect → Sinks
  | .attached sink g => σ.insert sink g
  | .detached sink => σ.erase sink
  | _ => σ

theorem act_of_not_milestone {effect : Effect} (h : effect.isMilestone = false) (σ : Sinks) :
    act σ effect = σ := by
  cases effect <;> first | rfl | cases h

theorem isMilestone_of_isPlain {effect : Effect} (h : effect.isPlain = true) :
    effect.isMilestone = true := by
  cases effect <;> first | rfl | cases h

theorem event?_of_isPlain {effect : Effect} (h : effect.isPlain = true) :
    effect.event? = none := by
  cases effect <;> first | rfl | cases h

theorem delivery?_of_isPlain {effect : Effect} (h : effect.isPlain = true) :
    effect.delivery? = none := by
  cases effect <;> first | rfl | cases h

theorem act_of_isPlain {effect : Effect} (h : effect.isPlain = true) (σ : Sinks) :
    act σ effect = σ := by
  cases effect <;> first | rfl | cases h

theorem act_of_not_switch {effect : Effect} (h : effect.isSwitch = false) (σ : Sinks) :
    act σ effect = σ := by
  cases effect <;> first | rfl | cases h

theorem foldl_act_of_not_milestone {block : List Effect}
    (h : ∀ x ∈ block, x.isMilestone = false) (σ : Sinks) : block.foldl act σ = σ := by
  induction block with
  | nil => rfl
  | cons x rest ih =>
    rw [List.foldl_cons, act_of_not_milestone (h x List.mem_cons_self)]
    exact ih fun y hy => h y (List.mem_cons_of_mem x hy)

theorem foldl_act_filter (σ : Sinks) (effects : List Effect) :
    (effects.filter isMilestone).foldl act σ = effects.foldl act σ := by
  induction effects generalizing σ with
  | nil => rfl
  | cons x rest ih =>
    cases hx : x.isMilestone with
    | true => rw [List.filter_cons_of_pos hx, List.foldl_cons, List.foldl_cons, ih]
    | false =>
      rw [List.filter_cons_of_neg (by simp [hx]), List.foldl_cons, act_of_not_milestone hx, ih]

theorem foldl_act_filter_isSwitch (σ : Sinks) (effects : List Effect) :
    (effects.filter isSwitch).foldl act σ = effects.foldl act σ := by
  induction effects generalizing σ with
  | nil => rfl
  | cons x rest ih =>
    cases hx : x.isSwitch with
    | true => rw [List.filter_cons_of_pos hx, List.foldl_cons, List.foldl_cons, ih]
    | false =>
      rw [List.filter_cons_of_neg (by simp [hx]), List.foldl_cons, act_of_not_switch hx, ih]

end Effect

/-- The call that a layer makes for an event. -/
def Layer.delivery? (σ : Sinks) (event : Event) (layer : Layer) : Option Delivery :=
  if !layer.admits event || Target.isOfTransport event.target then none
  else σ[layer.sink]?.map fun g => ⟨layer.sink, g, .ofEvent event⟩

def deliveries (layers : List Layer) (σ : Sinks) (event : Event) : List Delivery :=
  layers.filterMap (·.delivery? σ event)

theorem deliveries_cons (layer : Layer) (rest : List Layer) (σ : Sinks) (event : Event) :
    deliveries (layer :: rest) σ event =
      (layer.delivery? σ event).toList ++ deliveries rest σ event := by
  cases h : layer.delivery? σ event <;> simp [deliveries, h]

/-- The calls that layers make in the course of some milestones. -/
def routes (layers : List Layer) : Sinks → List Effect → List Delivery
  | _, [] => []
  | σ, effect :: rest =>
    effect.event?.elim [] (deliveries layers σ) ++ routes layers (effect.act σ) rest

/-- Effects among which the calls stand where the events ask for them. -/
inductive Routed (layers : List Layer) : Sinks → List Effect → Prop
  | nil (σ : Sinks) : Routed layers σ []
  | event {σ : Sinks} {origin : Origin} {event : Event} {block rest : List Effect}
      (carried : ∀ x ∈ block, x.isMilestone = false)
      (calls : block.filterMap Effect.delivery? = deliveries layers σ event)
      (tail : Routed layers σ rest) : Routed layers σ (.emitted origin event :: (block ++ rest))
  | other {σ : Sinks} {effect : Effect} {rest : List Effect} (silent : effect.event? = none)
      (noCall : effect.delivery? = none) (tail : Routed layers (effect.act σ) rest) :
      Routed layers σ (effect :: rest)

namespace Routed

variable {layers : List Layer} {σ : Sinks} {xs ys : List Effect}

theorem append (hx : Routed layers σ xs) (hy : Routed layers (xs.foldl Effect.act σ) ys) :
    Routed layers σ (xs ++ ys) := by
  induction hx with
  | nil σ => exact hy
  | @event σ origin event block rest carried calls tail ih =>
    rw [List.cons_append, List.append_assoc]
    refine .event carried calls (ih ?_)
    rw [List.foldl_cons, List.foldl_append, Effect.foldl_act_of_not_milestone carried] at hy
    exact hy
  | other silent noCall tail ih => exact .other silent noCall (ih hy)

/-- Effects that are neither events nor calls ask for nothing. -/
theorem of_silent (h : ∀ x ∈ xs, x.event? = none ∧ x.delivery? = none) : Routed layers σ xs := by
  induction xs generalizing σ with
  | nil => exact .nil σ
  | cons x rest ih =>
    obtain ⟨silent, noCall⟩ := h x List.mem_cons_self
    exact .other silent noCall (ih fun y hy => h y (List.mem_cons_of_mem x hy))

/-- The milestones determine the calls. -/
theorem filterMap_delivery? (h : Routed layers σ xs) :
    xs.filterMap Effect.delivery? = routes layers σ (xs.filter Effect.isMilestone) := by
  induction h with
  | nil σ => rfl
  | @event σ origin event block rest carried calls tail ih =>
    have none_left : block.filter Effect.isMilestone = [] := by
      simpa [List.filter_eq_nil_iff] using carried
    rw [List.filter_cons_of_pos rfl, List.filter_append, none_left, List.nil_append, routes,
      List.filterMap_cons_none rfl, List.filterMap_append, calls, ih]
    rfl
  | @other σ effect rest silent noCall tail ih =>
    rw [List.filterMap_cons_none noCall, ih]
    cases hm : effect.isMilestone with
    | true => rw [List.filter_cons_of_pos hm, routes, silent, Option.elim_none, List.nil_append]
    | false =>
      rw [List.filter_cons_of_neg (by simp [hm]), Effect.act_of_not_milestone hm]

end Routed

namespace Host

/-! ## From host to host -/

theorem journal_note (h : Host) (effect : Effect) :
    (h.note effect).journal = h.journal ++ [effect] := by
  simp [journal, note]

/-- From `h` to `k` some records go out and the layers make some calls. -/
def Carries (h : Host) (calls : List Delivery) (k : Host) : Prop :=
  ∃ block, k.journal = h.journal ++ block ∧ (∀ x ∈ block, x.isMilestone = false) ∧
    block.filterMap Effect.delivery? = calls

/-- The host `h` gets to `k`, on the same ground, over some milestones. -/
structure Reaches (h : Host) (milestones : List Effect) (k : Host) : Prop where
  ground : k.ground = h.ground
  added : ∃ effects, k.journal = h.journal ++ effects ∧
    effects.filter Effect.isMilestone = milestones ∧ Routed h.layers h.sinks effects ∧
    k.sinks = effects.foldl Effect.act h.sinks

variable {h k l : Host}

theorem Carries.of_past (hk : k.past = h.past) : Carries h [] k :=
  ⟨[], by simp [journal, hk], by simp, rfl⟩

theorem Carries.trans {c d : List Delivery} (hk : Carries h c k) (hl : Carries k d l) :
    Carries h (c ++ d) l := by
  obtain ⟨b₁, j₁, m₁, f₁⟩ := hk
  obtain ⟨b₂, j₂, m₂, f₂⟩ := hl
  refine ⟨b₁ ++ b₂, by rw [j₂, j₁, List.append_assoc], fun x hx => ?_, ?_⟩
  · rcases List.mem_append.mp hx with hx | hx
    · exact m₁ x hx
    · exact m₂ x hx
  · rw [List.filterMap_append, f₁, f₂]

theorem Carries.note (h : Host) (effect : Effect) (hm : effect.isMilestone = false) :
    Carries h effect.delivery?.toList (h.note effect) := by
  refine ⟨[effect], journal_note h effect, by simpa using hm, ?_⟩
  cases hd : effect.delivery? <;> simp [hd]

namespace Reaches

theorem layers {ms : List Effect} (r : Reaches h ms k) : k.layers = h.layers :=
  (congrArg Host.layers r.ground :)

theorem clock {ms : List Effect} (r : Reaches h ms k) : k.clock = h.clock :=
  (congrArg Host.clock r.ground :)

theorem generation {ms : List Effect} (r : Reaches h ms k) : k.generation = h.generation :=
  (congrArg Host.generation r.ground :)

theorem resource {ms : List Effect} (r : Reaches h ms k) (c : Config) (version : String) :
    k.resource c version = h.resource c version :=
  (congrArg (fun h : Host => h.resource c version) r.ground :)

/-- The milestones determine the sinks. -/
theorem sinks {ms : List Effect} (r : Reaches h ms k) : k.sinks = ms.foldl Effect.act h.sinks := by
  obtain ⟨effects, -, hm, -, hs⟩ := r.added
  rw [hs, ← hm, Effect.foldl_act_filter]

/-- Among effects of a kind that are all milestones, the milestones are all there are. -/
theorem exists_added {ms : List Effect} (r : Reaches h ms k) {keep : Effect → Bool}
    (milestones : ∀ effect, keep effect = true → effect.isMilestone = true) :
    ∃ added, k.journal = h.journal ++ added ∧ added.filter keep = ms.filter keep := by
  obtain ⟨effects, journal, hm, -, -⟩ := r.added
  refine ⟨effects, journal, ?_⟩
  rw [← hm, List.filter_filter]
  congr 1
  funext effect
  cases kept : keep effect with
  | false => rfl
  | true => rw [milestones effect kept]; rfl

/-- What the journal has gained has the milestones. -/
theorem filter_drop_journal {ms : List Effect} (r : Reaches h ms k) :
    (k.journal.drop h.journal.length).filter Effect.isMilestone = ms := by
  obtain ⟨effects, journal, hm, -, -⟩ := r.added
  rw [journal, List.drop_left, hm]

/-- What is read off the journal, and off nothing but milestones, is read off the milestones. -/
theorem filterMap_journal {α : Type} {ms : List Effect} (r : Reaches h ms k)
    {f : Effect → Option α} (carried : ∀ effect, effect.isMilestone = false → f effect = none) :
    k.journal.filterMap f = h.journal.filterMap f ++ ms.filterMap f := by
  obtain ⟨effects, journal, hm, -, -⟩ := r.added
  rw [journal, List.filterMap_append, ← hm, List.filterMap_filter]
  congr 2
  funext effect
  cases milestone : effect.isMilestone with
  | false => rw [carried effect milestone]; rfl
  | true => rfl

/-- What is neither in the journal nor at the sinks counts for nothing. -/
theorem of_same (hp : k.past = h.past) (hs : k.sinks = h.sinks) (hg : k.ground = h.ground) :
    Reaches h [] k :=
  ⟨hg, [], by simp [journal, hp], rfl, .nil _, hs⟩

theorem refl (h : Host) : Reaches h [] h := of_same rfl rfl rfl

theorem trans {ms ns : List Effect} (hk : Reaches h ms k) (hl : Reaches k ns l) :
    Reaches h (ms ++ ns) l := by
  obtain ⟨d₁, j₁, m₁, r₁, s₁⟩ := hk.added
  obtain ⟨d₂, j₂, m₂, r₂, s₂⟩ := hl.added
  refine ⟨hl.ground.trans hk.ground, d₁ ++ d₂, by rw [j₂, j₁, List.append_assoc],
    by rw [List.filter_append, m₁, m₂], r₁.append ?_, ?_⟩
  · rwa [hk.layers, s₁] at r₂
  · rw [s₂, s₁, List.foldl_append]

variable {ms : List Effect}

theorem pass (hk : Reaches h ms k) (d : Duration) : Reaches h ms (k.pass d) :=
  ⟨hk.ground, hk.added⟩

theorem setEmitter (hk : Reaches h ms k) (g : Generation) (e : Emitter) :
    Reaches h ms (k.setEmitter g e) :=
  ⟨hk.ground, hk.added⟩

theorem setBridge (hk : Reaches h ms k) (g : Generation) (b : Bridge) :
    Reaches h ms (k.setBridge g b) :=
  ⟨hk.ground, hk.added⟩

/-- Records that go out without a call. -/
theorem of_carries (hc : Carries h [] k) (same : k.unwritten = h.unwritten) :
    Reaches h [] k := by
  obtain ⟨block, hj, hm, hd⟩ := hc
  refine ⟨ground_of_unwritten same, block, hj, by simpa [List.filter_eq_nil_iff] using hm,
    .of_silent fun x hx => ⟨?_, List.filterMap_eq_nil_iff.mp hd x hx⟩, ?_⟩
  · have hx := hm x hx
    cases x <;> first | rfl | cases hx
  · rw [sinks_of_unwritten same, Effect.foldl_act_of_not_milestone hm]

end Reaches

/-! ## The milestones of the operations of a host -/

theorem carries_noteHanded (h : Host) (g : Generation) (records : List Record) :
    Carries h [] (h.noteHanded g records) := by
  unfold noteHanded
  induction records generalizing h with
  | nil => exact .of_past rfl
  | cons record rest ih =>
    exact (Carries.note h (.handed g record) rfl).trans (ih (h.note (.handed g record)))

theorem carries_fire (h : Host) (g : Generation) (entry : Entry) :
    Carries h [] (h.fire g entry).2 := by
  unfold fire
  split
  · exact .of_past rfl
  · exact (Carries.of_past rfl).trans (carries_noteHanded _ _ _)

theorem carries_noteLoss (h : Host) (g : Generation) (result : Option (Except EmitError Unit)) :
    Carries h [] (h.noteLoss g result) := by
  unfold noteLoss
  split
  · exact Carries.note h (.dropped g _) rfl
  · exact .of_past rfl

theorem carries_forward (h : Host) (event : Event) (layer : Layer) :
    Carries h (layer.delivery? h.sinks event).toList (h.forward event layer) := by
  unfold forward Layer.delivery?
  split
  · exact .of_past rfl
  · cases h.sinks[layer.sink]? with
    | none => exact .of_past rfl
    | some g =>
      have called := Carries.note h (.forwarded layer.sink g (.ofEvent event)) rfl
      exact (called.trans (carries_fire _ _ _)).trans (carries_noteLoss _ _ _)

theorem carries_foldl_forward (event : Event) (layers : List Layer) (h : Host) :
    Carries h (deliveries layers h.sinks event)
      (layers.foldl (fun h layer => h.forward event layer) h) := by
  induction layers generalizing h with
  | nil => exact .of_past rfl
  | cons layer rest ih =>
    have later := ih (h.forward event layer)
    rw [sinks_of_unwritten (unwritten_forward h event layer)] at later
    rw [deliveries_cons]
    exact (carries_forward h event layer).trans later

theorem reaches_emit (h : Host) (origin : Origin) (event : Event) :
    Reaches h [.emitted origin event] (h.emit origin event) := by
  obtain ⟨block, hj, hm, hd⟩ :=
    carries_foldl_forward event h.layers (h.note (.emitted origin event))
  refine ⟨ground_of_unwritten (unwritten_emit h origin event), .emitted origin event :: block,
    ?_, ?_, ?_, ?_⟩
  · rw [emit, hj, journal_note, List.append_assoc]
    rfl
  · rw [List.filter_cons_of_pos rfl, List.filter_eq_nil_iff.mpr (by simpa using hm)]
  · simpa using Routed.event hm hd (.nil h.sinks)
  · rw [sinks_emit, List.foldl_cons]
    exact (Effect.foldl_act_of_not_milestone hm _).symm

theorem reaches_emitAll (h : Host) (origin : Origin) (events : List Event) :
    Reaches h (events.map (.emitted origin)) (h.emitAll origin events) := by
  unfold emitAll
  induction events generalizing h with
  | nil => exact .refl h
  | cons event rest ih => exact (reaches_emit h origin event).trans (ih (h.emit origin event))

theorem reaches_report (h : Host) (level : EventLevel) (message : String)
    (fields : List (String × Value)) :
    Reaches h [.emitted .manager (.report h.clock level Manager.target message fields)]
      (h.report level message fields) :=
  reaches_emit h _ _

theorem reaches_note (h : Host) (effect : Effect) (plain : effect.isPlain = true) :
    Reaches h [effect] (h.note effect) := by
  refine ⟨rfl, [effect], journal_note h effect, ?_, ?_, (Effect.act_of_isPlain plain _).symm⟩
  · rw [List.filter_cons_of_pos (Effect.isMilestone_of_isPlain plain), List.filter_nil]
  · exact .other (Effect.event?_of_isPlain plain) (Effect.delivery?_of_isPlain plain) (.nil _)

theorem reaches_attach (h : Host) (sink : SinkName) (g : Generation) :
    Reaches h [.attached sink g] (h.attach sink g) :=
  ⟨rfl, [.attached sink g], journal_note h _, rfl, .other rfl rfl (.nil _), rfl⟩

theorem reaches_detach (h : Host) (sink : SinkName) :
    Reaches h [.detached sink] (h.detach sink) :=
  ⟨rfl, [.detached sink], journal_note h _, rfl, .other rfl rfl (.nil _), rfl⟩

theorem reaches_fire (h : Host) (g : Generation) (entry : Entry) :
    Reaches h [] (h.fire g entry).2 :=
  .of_carries (carries_fire h g entry) (unwritten_fire h g entry)

theorem reaches_updateLabels (h : Host) (g : Generation) (labels : List (String × String)) :
    Reaches h [] (h.updateLabels g labels) := by
  unfold updateLabels
  cases h.emitters[g]? with
  | none => exact .refl h
  | some e => exact .of_same rfl rfl rfl

theorem reaches_noteShutDown (h : Host) (signal : Signal) (g : Generation) (asked : Bool) :
    Reaches h (if asked then [.shutDown signal g] else []) (h.noteShutDown signal g asked) := by
  cases asked with
  | true => exact reaches_note h _ rfl
  | false => exact .refl h

theorem reaches_noteCollected (h : Host) (g : Generation) (collected : Option (List Series)) :
    Reaches h (collected.map (.collected g)).toList (h.noteCollected g collected) := by
  cases collected with
  | none => exact .refl h
  | some series => exact reaches_note h _ rfl

theorem reaches_record (h : Host) (g : Generation) (instrument : Instrument)
    (attributes : Attributes) (reading : Reading) (live : Bool) :
    Reaches h (h.bridges[g]?.elim [] fun _ => [.recorded g instrument attributes reading live])
      (h.record g instrument attributes reading live) := by
  unfold record
  cases h.bridges[g]? with
  | none => exact .refl h
  | some b => exact (reaches_note h _ rfl).setBridge g _

end Host

/-- The milestones of shutting the provider of an emitter down. -/
def LoggerProvider.shutdownEffects (p : LoggerProvider) (g : Generation) : List Effect :=
  (if p.shutdown.asked then [.shutDown .logs g] else []) ++
    p.shutdown.events.map (.emitted .component)

/-- The milestones of shutting the provider of a bridge down. -/
def Bridge.readerEffects (b : Bridge) (g : Generation) : List Effect :=
  (if b.shutReader.asked then [.shutDown .metrics g] else []) ++
    (b.shutReader.collected.map (.collected g)).toList ++
      b.shutReader.events.map (.emitted .component)

/-- The milestones of a request to close an emitter. What its worker does shows once that has
begun. -/
def Emitter.closingEffects (e : Emitter) (g : Generation) (bound : Duration) : List Effect :=
  .closeRequested g bound ::
    if e.workers.next.isTimely bound then e.provider.shutdownEffects g else []

/-- The milestones of a request to shut a bridge down. -/
def Bridge.shutdownEffects (b : Bridge) (g : Generation) (deadline : Deadline) (now : Instant) :
    List Effect :=
  .shutdownRequested g deadline ::
    if b.workers.next.isTimely (deadline.remaining now) then b.readerEffects g else []

/-- The milestones of letting an emitter go. -/
def Emitter.dropEffects (e : Emitter) (g : Generation) : List Effect :=
  if e.workers.waiting = 0 then e.provider.shutdownEffects g else []

namespace Host

/-- The milestones of a worker that was left behind. -/
def wakeEffects (h : Host) : Signal → Generation → List Effect
  | .logs, g => h.emitters[g]?.elim [] fun e =>
    if e.workers.waiting = 0 then [] else e.provider.shutdownEffects g
  | .metrics, g => h.bridges[g]?.elim [] fun b =>
    if b.workers.waiting = 0 then [] else b.readerEffects g

theorem reaches_closeEmitter {h : Host} {g : Generation} {e : Emitter}
    (found : h.emitters[g]? = some e) (bound : Duration) :
    Reaches h (e.closingEffects g bound) (h.closeEmitter g bound).2 := by
  simp only [closeEmitter, found]
  have requested := (reaches_note h (.closeRequested g bound) rfl).setEmitter g
    (e.closeWithin bound).emitter
  have asked := requested.trans (reaches_noteShutDown _ .logs g (e.closeWithin bound).asked)
  have told := asked.trans (reaches_emitAll _ .component (e.closeWithin bound).events)
  have passed := told.pass (e.closeWithin bound).elapsed
  cases begun : e.workers.next.isTimely bound <;>
    simpa [Emitter.closingEffects, LoggerProvider.shutdownEffects, Emitter.closeWithin, begun]
      using passed

theorem reaches_shutdownBridge {h : Host} {g : Generation} {b : Bridge}
    (found : h.bridges[g]? = some b) (deadline : Deadline) :
    Reaches h (b.shutdownEffects g deadline h.now) (h.shutdownBridge g deadline).2 := by
  simp only [shutdownBridge, found]
  have requested := (reaches_note h (.shutdownRequested g deadline) rfl).setBridge g
    (b.shutdown deadline h.now).bridge
  have asked := requested.trans
    (reaches_noteShutDown _ .metrics g (b.shutdown deadline h.now).asked)
  have collected := asked.trans
    (reaches_noteCollected _ g (b.shutdown deadline h.now).collected)
  have told := collected.trans (reaches_emitAll _ .component (b.shutdown deadline h.now).events)
  have passed := told.pass (b.shutdown deadline h.now).elapsed
  cases begun : b.workers.next.isTimely (deadline.remaining h.now) <;>
    simpa [Bridge.shutdownEffects, Bridge.readerEffects, Bridge.shutdown, begun] using passed

theorem reaches_wake (h : Host) (signal : Signal) (g : Generation) :
    Reaches h (h.wakeEffects signal g) (h.wake signal g) := by
  cases signal with
  | logs =>
    simp only [wake, wakeEffects, wakeEmitter]
    cases h.emitters[g]? with
    | none => exact .refl h
    | some e =>
      by_cases none_left : e.workers.waiting = 0
      · simpa [none_left] using Reaches.refl h
      · have asked := ((Reaches.refl h).setEmitter g e.closeLate).trans
          (reaches_noteShutDown _ .logs g e.provider.shutdown.asked)
        simpa [none_left, LoggerProvider.shutdownEffects] using
          asked.trans (reaches_emitAll _ .component e.provider.shutdown.events)
  | metrics =>
    simp only [wake, wakeEffects, wakeBridge]
    cases h.bridges[g]? with
    | none => exact .refl h
    | some b =>
      by_cases none_left : b.workers.waiting = 0
      · simpa [none_left] using Reaches.refl h
      · have asked := ((Reaches.refl h).setBridge g b.shutdownLate).trans
          (reaches_noteShutDown _ .metrics g b.shutReader.asked)
        have collected := asked.trans (reaches_noteCollected _ g b.shutReader.collected)
        simpa [none_left, Bridge.readerEffects] using
          collected.trans (reaches_emitAll _ .component b.shutReader.events)

theorem reaches_dropEmitter (h : Host) (g : Generation) :
    Reaches h (h.emitters[g]?.elim [] (·.dropEffects g)) (h.dropEmitter g).2 := by
  unfold dropEmitter
  cases h.emitters[g]? with
  | none => exact .refl h
  | some e =>
    by_cases none_left : e.workers.waiting = 0
    · have erased : Reaches h [] { h with emitters := h.emitters.erase g } := .of_same rfl rfl rfl
      have asked := erased.trans (reaches_noteShutDown _ .logs g e.provider.shutdown.asked)
      have told := asked.trans (reaches_emitAll _ .component e.provider.shutdown.events)
      simpa [Emitter.dropEffects, none_left, LoggerProvider.shutdownEffects] using
        told.pass e.provider.shutdown.work.time
    · simpa [Emitter.dropEffects, none_left] using Reaches.refl h

end Host

end Telemetry
