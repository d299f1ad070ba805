import Telemetry.Proofs.Manager.Past

/-!
# What the announcement of a replacement leaves behind

Before a pipeline is taken down for another one an event says so, and the emitter of the pipeline,
if it has one, hands the record of this event to its processor. Nothing else comes of the
announcement: the host differs in its journal only, so the teardown takes the same course, and what
is left of the host in the end is the same.

* `Emitter.eq_recordOf_of_mem_handed`: an emission hands over no record but its own.
* `Host.feeds_emit`: the way of an event where the sinks hold one emitter.
* `retire_eq_shutdown`, `start_eq_start_shutdown`: a replacement beside a shutdown.
-/

namespace Telemetry

/-! ## Emitters -/

theorem LoggerProvider.eq_of_mem_emit {p : LoggerProvider} {r x : Record} {handed : List Record}
    (done : p.emit r = .ok handed) (hx : x ∈ handed) : x = r := by
  unfold emit at done
  repeat' split at done
  · cases done; cases hx
  · cases done
  · cases done; exact List.mem_singleton.mp hx

namespace Emitter

/-- The record of an entry that is emitted on a thread at a reading of the clock. -/
def recordOf (e : Emitter) (ambient : Ambient) (clock : Timestamp) (entry : Entry) : Record :=
  .ofEntry e.listing (ambient.enter entry.context).current clock entry

theorem eq_recordOf_of_mem_handed {e : Emitter} {ambient : Ambient} {clock : Timestamp}
    {entry : Entry} {record : Record} (hr : record ∈ (e.fire ambient clock entry).handed) :
    record = e.recordOf ambient clock entry := by
  unfold fire at hr
  split at hr
  · cases hr
  · dsimp only at hr
    split at hr
    · rename_i handed sent
      unfold send at sent
      split at sent
      · cases sent; cases hr
      · split at sent
        · cases sent; cases hr
        · exact LoggerProvider.eq_of_mem_emit sent hr
    · cases hr

end Emitter

/-! ## Hosts -/

/-- Whether an effect brings an entry to an emitter, or takes its record out of there, or drops
it. -/
def Effect.Conveys (g : Generation) (entry : Entry) (record : Record) : Effect → Prop
  | .forwarded _ g' entry' => g' = g ∧ entry' = entry
  | .handed g' record' => g' = g ∧ record' = record
  | .dropped g' _ => g' = g
  | _ => False

namespace Host

/-- The host `k` is as `h`, and in its journal there follows on `old` nothing but the way of an
entry through an emitter. -/
structure Feeds (g : Generation) (e : Emitter) (entry : Entry) (old : List Effect) (h k : Host) :
    Prop where
  unwritten : k.unwritten = h.unwritten
  conveyed : ∃ block, k.journal = old ++ block ∧
    ∀ x ∈ block, x.Conveys g entry (e.recordOf h.ambient h.clock entry)

namespace Feeds

variable {g : Generation} {e : Emitter} {entry : Entry} {old : List Effect} {h k : Host}

theorem of_note (entry : Entry) (effect : Effect) :
    Feeds g e entry (h.journal ++ [effect]) h (h.note effect) :=
  ⟨rfl, [], by simp [journal_note], by simp⟩

theorem note (feeds : Feeds g e entry old h k) {effect : Effect}
    (conveys : effect.Conveys g entry (e.recordOf h.ambient h.clock entry)) :
    Feeds g e entry old h (k.note effect) := by
  obtain ⟨block, journal, carried⟩ := feeds.conveyed
  refine ⟨feeds.unwritten, block ++ [effect], ?_, ?_⟩
  · rw [journal_note, journal, List.append_assoc]
  · intro x hx
    rcases List.mem_append.mp hx with hx | hx
    · exact carried x hx
    · rw [List.mem_singleton.mp hx]
      exact conveys

theorem noteHanded (feeds : Feeds g e entry old h k) {records : List Record}
    (own : ∀ x ∈ records, x = e.recordOf h.ambient h.clock entry) :
    Feeds g e entry old h (k.noteHanded g records) := by
  unfold Host.noteHanded
  induction records generalizing k with
  | nil => exact feeds
  | cons record rest ih =>
    obtain ⟨first, later⟩ := List.forall_mem_cons.mp own
    exact ih (feeds.note ⟨rfl, first⟩) later

theorem fire (feeds : Feeds g e entry old h k) (found : h.emitters[g]? = some e) :
    Feeds g e entry old h (k.fire g entry).2 := by
  have ambient : k.ambient = h.ambient := (congrArg Host.ambient feeds.unwritten :)
  have clock : k.clock = h.clock := (congrArg Host.clock feeds.unwritten :)
  have there : k.emitters[g]? = some e := by rw [emitters_of_unwritten feeds.unwritten, found]
  have fired : Feeds g e entry old h
      (Host.setEmitter { k with ambient := (e.fire k.ambient k.clock entry).ambient } g
        (e.fire k.ambient k.clock entry).emitter) := by
    rw [Emitter.ambient_fire, Emitter.emitter_fire, setEmitter_self there]
    exact feeds
  simp only [Host.fire, there]
  refine fired.noteHanded fun x hx => ?_
  rw [Emitter.eq_recordOf_of_mem_handed hx, ambient, clock]

theorem noteLoss (feeds : Feeds g e entry old h k) (result : Option (Except EmitError Unit)) :
    Feeds g e entry old h (k.noteLoss g result) := by
  unfold Host.noteLoss
  split
  · exact feeds.note rfl
  · exact feeds

/-- Where the sinks hold one emitter only, an event is brought to no other one. -/
theorem forward {event : Event} (feeds : Feeds g e (.ofEvent event) old h k)
    (found : h.emitters[g]? = some e)
    (held : ∀ sink : SinkName, ∀ g', h.sinks[sink]? = some g' → g' = g) (layer : Layer) :
    Feeds g e (.ofEvent event) old h (k.forward event layer) := by
  unfold Host.forward
  split
  · exact feeds
  · split
    · exact feeds
    · rename_i g' there
      rw [sinks_of_unwritten feeds.unwritten] at there
      obtain rfl := held _ _ there
      have called : Feeds g' e (.ofEvent event) old h
          (k.note (.forwarded layer.sink g' (.ofEvent event))) := feeds.note ⟨rfl, rfl⟩
      exact (called.fire found).noteLoss _

end Feeds

theorem feeds_emit {h : Host} {g : Generation} {e : Emitter} (found : h.emitters[g]? = some e)
    (held : ∀ sink : SinkName, ∀ g', h.sinks[sink]? = some g' → g' = g) (origin : Origin)
    (event : Event) :
    Feeds g e (.ofEvent event) (h.journal ++ [.emitted origin event]) h (h.emit origin event) := by
  suffices kept : ∀ (layers : List Layer) (k : Host),
      Feeds g e (.ofEvent event) (h.journal ++ [.emitted origin event]) h k →
        Feeds g e (.ofEvent event) (h.journal ++ [.emitted origin event]) h
          (layers.foldl (fun h layer => h.forward event layer) k) from
    kept h.layers _ (.of_note _ _)
  intro layers
  induction layers with
  | nil => exact fun k feeds => feeds
  | cons layer rest ih => exact fun k feeds => ih _ (feeds.forward found held layer)

/-- Where no sink holds anything an event is just noted. -/
theorem emit_of_free {h : Host} (free : ∀ sink : SinkName, h.sinks[sink]? = none) (origin : Origin)
    (event : Event) : h.emit origin event = h.note (.emitted origin event) := by
  suffices kept : ∀ (layers : List Layer) (k : Host), k.sinks = h.sinks →
      layers.foldl (fun h layer => h.forward event layer) k = k from
    kept h.layers (h.note (.emitted origin event)) rfl
  intro layers
  induction layers with
  | nil => exact fun _ _ => rfl
  | cons layer rest ih =>
    intro k sinks
    have passed : k.forward event layer = k := by simp [Host.forward, sinks, free]
    rw [List.foldl_cons, passed, ih k sinks]

end Host

namespace Pipeline

variable {p : Pipeline} {h : Host}

/-- The sinks hold the emitter of a pipeline at its sink and nothing else. -/
def HoldsAlone (p : Pipeline) (h : Host) : Prop :=
  ∀ sink : SinkName, h.sinks[sink]? = if p.sink = sink then p.logHook else none

theorem HoldsAlone.eq_some (alone : p.HoldsAlone h) {sink : SinkName} {g : Generation}
    (held : h.sinks[sink]? = some g) : p.logHook = some g := by
  rw [alone sink] at held
  split at held
  · exact held
  · cases held

/-- After its teardown a pipeline leaves all sinks free. -/
theorem HoldsAlone.free_teardown (alone : p.HoldsAlone h) (deadline : Deadline) (sink : SinkName) :
    (p.teardown deadline h).2.sinks[sink]? = none := by
  rw [sinks_teardown]
  have held := alone sink
  cases hook : p.logHook with
  | none => simpa [hook] using held
  | some g =>
    rw [Option.isSome_some, if_pos rfl, Host.detach, Std.ExtTreeMap.getElem?_erase]
    split
    · rfl
    · rename_i other
      rw [held, if_neg (by simpa using other)]

end Pipeline

namespace Manager

/-- The entry of the event that announces a replacement. -/
def replacingEntry (clock : Timestamp) : Entry := .ofEvent (replacingEvent clock)

/-- Whether an effect belongs to the way of the announcement through the emitter of a pipeline. -/
def BelongsToAnnouncement (p : Pipeline) (h : Host) (effect : Effect) : Prop :=
  ∃ g e, p.logHook = some g ∧ h.emitters[g]? = some e ∧
    effect.Conveys g (replacingEntry h.clock)
      (e.recordOf h.ambient h.clock (replacingEntry h.clock))

/-- What a start reports of the teardown that it has made. -/
def complaint (clock : Timestamp) : Except ShutdownError Unit → List Effect
  | .ok _ => []
  | .error e => [.emitted .manager (uncleanEvent clock e)]

variable {p : Pipeline} {h : Host}

/-- A complaint is noted where all sinks are free, and goes nowhere. -/
theorem note_complaint (free : ∀ sink : SinkName, h.sinks[sink]? = none) (e : ShutdownError) :
    h.report .warn "previous telemetry pipeline did not shut down cleanly"
        [("error", .display e.message)] =
      h.unwritten.following (h.journal ++ complaint h.clock (.error e)) := by
  rw [Host.report, Host.emit_of_free free, ← Host.following_unwritten (h.note _),
    Host.journal_note]
  rfl

/-- An announcement changes nothing but the journal, where its way through the emitter of the
pipeline follows on it. -/
theorem announced_eq (alone : p.HoldsAlone h) (backed : p.IsBacked h) :
    ∃ block, (∀ x ∈ block, BelongsToAnnouncement p h x) ∧
      announced h = h.unwritten.following
        (h.journal ++ .emitted .manager (replacingEvent h.clock) :: block) := by
  have same : (announced h).unwritten = h.unwritten := Host.unwritten_report h _ _ _
  cases hook : p.logHook with
  | none =>
    have noted : announced h = h.note (.emitted .manager (replacingEvent h.clock)) :=
      Host.emit_of_free (fun sink => by rw [alone sink, hook, ite_self]) _ _
    refine ⟨[], by simp, (Host.eq_following_of_unwritten same).trans ?_⟩
    rw [noted, Host.journal_note]
  | some g =>
    obtain ⟨e, found⟩ := backed.emitter_found hook
    have feeds : h.Feeds g e (replacingEntry h.clock)
        (h.journal ++ [.emitted .manager (replacingEvent h.clock)]) (announced h) :=
      Host.feeds_emit found (fun sink g' held =>
        (Option.some.inj (hook.symm.trans (alone.eq_some held))).symm) _ _
    obtain ⟨block, journal, conveyed⟩ := feeds.conveyed
    refine ⟨block, fun x hx => ⟨g, e, hook, found, conveyed x hx⟩,
      (Host.eq_following_of_unwritten same).trans ?_⟩
    rw [journal, List.append_assoc, List.singleton_append]

/-- A replaced pipeline is taken down as by a shutdown with the same deadline. The state of the host
is the same afterwards. -/
theorem retire_eq_shutdown {m : Manager} (active : m.active = some p) (alone : p.HoldsAlone h)
    (backed : p.IsBacked h) :
    ∃ (result : Except ShutdownError Unit) (k : Host) (block last : List Effect),
      k.past = [] ∧ (∀ x ∈ block, BelongsToAnnouncement p h x) ∧
      m.shutdown (.after h.now replaceTimeout) h =
        (result, { m with active := none }, k.following (h.journal ++ last)) ∧
      m.retire h = ({ m with active := none },
        k.following (h.journal ++ (.emitted .manager (replacingEvent h.clock) :: block ++ last ++
          complaint h.clock result))) := by
  have now : (announced h).now = h.now := Host.now_of_unwritten (Host.unwritten_report h _ _ _)
  have deadline : replaceDeadline h = .after h.now replaceTimeout := by rw [replaceDeadline, now]
  obtain ⟨block, conveyed, told⟩ := announced_eq alone backed
  -- both ways take the pipeline down in the same state, with other journals before
  let done := p.teardown (.after h.now replaceTimeout) h.unwritten
  have torn : p.teardown (.after h.now replaceTimeout) h =
      (done.1, done.2.following h.journal) := by
    rw [← Pipeline.teardown_following, Host.following_unwritten]
  have replaced : p.teardown (replaceDeadline h) (announced h) = (done.1, done.2.following
      (h.journal ++ .emitted .manager (replacingEvent h.clock) :: block)) := by
    rw [deadline, told, Pipeline.teardown_following]
  have rebased (old : List Effect) :
      done.2.following old = done.2.unwritten.following (old ++ done.2.journal) := by
    rw [← Host.following_following, Host.following_unwritten]
  refine ⟨done.1, done.2.unwritten, block, done.2.journal, rfl, conveyed, ?_, ?_⟩
  · simp only [shutdown, active, torn]
    rw [rebased]
  · have free : ∀ sink : SinkName, done.2.sinks[sink]? = none := by
      intro sink
      have left := alone.free_teardown (.after h.now replaceTimeout) sink
      rwa [torn] at left
    have clock : done.2.clock = h.clock := by
      have grounded := (Pipeline.reaches_teardown (.after h.now replaceTimeout) backed).clock
      rwa [torn] at grounded
    cases result : done.1 with
    | ok _ =>
      rw [result] at replaced
      rw [retire_of_ok active replaced, rebased]
      simp [complaint]
    | error e =>
      rw [result] at replaced
      rw [retire_of_error active replaced, Host.report_following, note_complaint free,
        Host.following_following, clock]
      simp

/-- A start that replaces a pipeline comes to what a start comes to after a shutdown. -/
theorem start_eq_start_shutdown {m : Manager} (active : m.active = some p)
    (alone : p.HoldsAlone h) (backed : p.IsBacked h) (factory : Factory) {config : Config}
    (version : String) (sink : Option SinkName) (effective : config.isEffective = true) :
    let emptied : Manager := { m with active := none }
    ∃ (result : Except ShutdownError Unit) (k : Host) (block last : List Effect)
        (installed : StartResult × Manager × Host),
      k.past = [] ∧ (∀ x ∈ block, BelongsToAnnouncement p h x) ∧
      m.shutdown (.after h.now replaceTimeout) h =
        (result, emptied, k.following (h.journal ++ last)) ∧
      emptied.start factory config version sink (k.following (h.journal ++ last)) =
        (installed.1, installed.2.1, installed.2.2.following (h.journal ++ last)) ∧
      m.start factory config version sink h =
        (installed.1, installed.2.1, installed.2.2.following (h.journal ++
          (.emitted .manager (replacingEvent h.clock) :: block ++ last ++
            complaint h.clock result))) := by
  intro emptied
  obtain ⟨result, k, block, last, fresh, conveyed, shut, retired⟩ :=
    retire_eq_shutdown active alone backed
  refine ⟨result, k, block, last, emptied.install factory config version sink k, fresh, conveyed,
    shut, ?_, ?_⟩
  · rw [start_of_effective _ _ _ _ _ effective, retire_of_inactive rfl, install_following]
  · rw [start_of_effective _ _ _ _ _ effective, retired, install_following]

end Manager

end Telemetry
