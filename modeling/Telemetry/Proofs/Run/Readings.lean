import Telemetry.Proofs.Run.Closing
import Telemetry.Proofs.Run.History

/-!
# What is recorded on an instrument

Readings come only from those who hold a bridge and record on it. No start, no shutdown and no
closing of a component records anything, so the recordings of an instrument grow only where somebody
records on it. What an instrument has come to on a bridge is the replay of its recordings, of which
those count that a live instrument has made.

* `isUnrecorded_teardownEffects`, `isUnrecorded_installEffects`: a manager records nothing.
* `reading?_ite_record`: one recording on a bridge.
* `value?_step`, `value?_run`: what an instrument comes to in an operation and in a run.
* `recordings_step`: an operation that records nothing on an instrument leaves its recordings.
-/

namespace Telemetry

/-- A reading that was recorded on an instrument, which was live or recorded nothing. -/
structure Recording where
  attributes : Attributes
  reading : Reading
  live : Bool

namespace Effect

/-- The recording that an effect is, if it was made on an instrument of a bridge. -/
def recording? (g : Generation) (instrument : Instrument) : Effect → Option Recording
  | .recorded k other attributes reading live =>
    if k = g ∧ other.isSame instrument = true then some ⟨attributes, reading, live⟩ else none
  | _ => none

def isRecorded : Effect → Bool
  | .recorded .. => true
  | _ => false

theorem recording?_of_not_isRecorded {effect : Effect} (h : effect.isRecorded = false)
    (g : Generation) (instrument : Instrument) : effect.recording? g instrument = none := by
  cases effect <;> first | rfl | cases h

theorem recording?_of_not_isMilestone {effect : Effect} (h : effect.isMilestone = false)
    (g : Generation) (instrument : Instrument) : effect.recording? g instrument = none := by
  cases effect <;> first | rfl | cases h

end Effect

/-- Effects among which nothing is recorded. -/
def IsUnrecorded (effects : List Effect) : Prop := ∀ x ∈ effects, x.isRecorded = false

namespace IsUnrecorded

variable {xs ys : List Effect}

theorem nil : IsUnrecorded [] := fun _ hx => absurd hx List.not_mem_nil

theorem cons {x : Effect} (hx : x.isRecorded = false) (hxs : IsUnrecorded xs) :
    IsUnrecorded (x :: xs) :=
  List.forall_mem_cons.mpr ⟨hx, hxs⟩

theorem append (hx : IsUnrecorded xs) (hy : IsUnrecorded ys) : IsUnrecorded (xs ++ ys) :=
  List.forall_mem_append.mpr ⟨hx, hy⟩

theorem single {x : Effect} (hx : x.isRecorded = false) : IsUnrecorded [x] := .cons hx .nil

theorem of_emitted (origin : Origin) (events : List Event) :
    IsUnrecorded (events.map (.emitted origin)) := by
  intro x hx
  obtain ⟨event, -, rfl⟩ := List.mem_map.mp hx
  rfl

theorem of_asked (asked : Bool) (signal : Signal) (g : Generation) :
    IsUnrecorded (if asked then [.shutDown signal g] else []) := by
  cases asked with
  | true => exact .single rfl
  | false => exact .nil

theorem of_ite {p : Prop} [Decidable p] (hx : IsUnrecorded xs) (hy : IsUnrecorded ys) :
    IsUnrecorded (if p then xs else ys) := by
  split <;> assumption

theorem filterMap_recording? (h : IsUnrecorded xs) (g : Generation) (instrument : Instrument) :
    xs.filterMap (Effect.recording? g instrument) = [] :=
  List.filterMap_eq_nil_iff.mpr fun x hx =>
    Effect.recording?_of_not_isRecorded (h x hx) g instrument

end IsUnrecorded

/-! ## Components -/

theorem LoggerProvider.isUnrecorded_shutdownEffects (p : LoggerProvider) (g : Generation) :
    IsUnrecorded (p.shutdownEffects g) :=
  (IsUnrecorded.of_asked _ _ _).append (.of_emitted _ _)

theorem Bridge.isUnrecorded_readerEffects (b : Bridge) (g : Generation) :
    IsUnrecorded (b.readerEffects g) := by
  have collected : ∀ series : Option (List Series),
      IsUnrecorded (series.map (.collected g)).toList := by
    intro series
    cases series with
    | none => exact .nil
    | some series => exact .single rfl
  exact ((IsUnrecorded.of_asked _ _ _).append (collected _)).append (.of_emitted _ _)

theorem Emitter.isUnrecorded_closingEffects (e : Emitter) (g : Generation) (bound : Duration) :
    IsUnrecorded (e.closingEffects g bound) :=
  .cons rfl (.of_ite (e.provider.isUnrecorded_shutdownEffects g) .nil)

theorem Bridge.isUnrecorded_shutdownEffects (b : Bridge) (g : Generation) (deadline : Deadline)
    (now : Instant) : IsUnrecorded (b.shutdownEffects g deadline now) :=
  .cons rfl (.of_ite (b.isUnrecorded_readerEffects g) .nil)

theorem Host.isUnrecorded_wakeEffects (h : Host) (signal : Signal) (g : Generation) :
    IsUnrecorded (h.wakeEffects signal g) := by
  cases signal with
  | logs =>
    rw [wakeEffects]
    cases h.emitters[g]? with
    | none => exact .nil
    | some e => exact .of_ite .nil (e.provider.isUnrecorded_shutdownEffects g)
  | metrics =>
    rw [wakeEffects]
    cases h.bridges[g]? with
    | none => exact .nil
    | some b => exact .of_ite .nil (b.isUnrecorded_readerEffects g)

theorem Part.isUnrecorded_effects (deadline : Deadline) (now : Instant) (part : Part) :
    IsUnrecorded (part.effects deadline now) := by
  cases part with
  | log sink g e => exact .cons rfl (e.isUnrecorded_closingEffects g _)
  | metrics g b => exact b.isUnrecorded_shutdownEffects g deadline now
  | hook hook => exact .cons rfl (.of_emitted _ _)

/-! ## Managers -/

theorem Pipeline.isUnrecorded_teardownEffects (p : Pipeline) (deadline : Deadline) (h : Host) :
    IsUnrecorded (p.teardownEffects deadline h) := by
  refine IsUnrecorded.append (fun x hx => ?_) ?_
  · obtain ⟨step, -, hx⟩ := List.mem_flatMap.mp hx
    exact step.part.isUnrecorded_effects deadline step.now x hx
  · split
    · exact .single rfl
    · exact .nil

namespace Manager

theorem isUnrecorded_replacementEffects (m : Manager) (h : Host) :
    IsUnrecorded (m.replacementEffects h) := by
  rw [replacementEffects]
  cases m.active with
  | none => exact .nil
  | some p =>
    refine .cons rfl (IsUnrecorded.append (p.isUnrecorded_teardownEffects _ _) ?_)
    split
    · exact .single rfl
    · exact .nil

theorem isUnrecorded_callEffects {α : Type} (clock : Timestamp) (signal : Signal) (wanted : Bool)
    (config : Config) (resource : Resource) (failed : String) (build : Build α) :
    IsUnrecorded (callEffects clock signal wanted config resource failed build) := by
  cases wanted with
  | false => exact .nil
  | true => exact .cons rfl (.of_emitted _ _)

theorem isUnrecorded_callsEffects (factory : Factory) (config : Config) (version : String)
    (h : Host) : IsUnrecorded (callsEffects factory config version h) := by
  refine ((IsUnrecorded.of_emitted _ _).append (isUnrecorded_callEffects _ _ _ _ _ _ _)).append ?_
  split
  · exact .nil
  · exact isUnrecorded_callEffects _ _ _ _ _ _ _

theorem isUnrecorded_openingEffects (clock : Timestamp) (p : Pipeline) :
    IsUnrecorded (openingEffects clock p) := by
  rw [openingEffects]
  cases p.logHook with
  | none => exact .single rfl
  | some g => exact .cons rfl (.single rfl)

theorem isUnrecorded_releaseEffects (factory : Factory) (config : Config) (resource : Resource)
    (g : Generation) : IsUnrecorded (releaseEffects factory config resource g) := by
  rw [releaseEffects]
  cases (factory.logs config resource).component? config.exportLogs with
  | none => exact .nil
  | some e => exact .of_ite (e.provider.isUnrecorded_shutdownEffects g) .nil

theorem isUnrecorded_installEffects (m : Manager) (factory : Factory) (config : Config)
    (version : String) (sink : Option SinkName) (h : Host) :
    IsUnrecorded (installEffects m factory config version sink h) := by
  refine (isUnrecorded_callsEffects factory config version h).append ?_
  split
  · exact isUnrecorded_openingEffects _ _
  · exact isUnrecorded_releaseEffects _ _ _ _

end Manager

/-! ## Values -/

/-- What an instrument of a kind has come to under some attributes when recordings have followed on
a value. -/
def InstrumentKind.replay (kind : InstrumentKind) (attributes : Attributes) (value : Option Reading)
    (recordings : List Recording) : Option Reading :=
  recordings.foldl (fun value r =>
    if r.live = true ∧ r.attributes = attributes then
      some (value.elim r.reading (kind.combine · r.reading))
    else value) value

theorem InstrumentKind.replay_append (kind : InstrumentKind) (attributes : Attributes)
    (value : Option Reading) (xs ys : List Recording) :
    kind.replay attributes value (xs ++ ys) =
      kind.replay attributes (kind.replay attributes value xs) ys :=
  List.foldl_append

/-- Two spellings of an instrument have one value. -/
theorem Bridge.reading?_of_isSame (b : Bridge) {i j : Instrument} (same : i.isSame j = true)
    (attributes : Attributes) : b.reading? i attributes = b.reading? j attributes := by
  simp only [reading?, seriesOf?, Instrument.isSame, Instrument.isSame_iff.mp same]

/-- A recording on a bridge counts for its own instrument, if that is live. -/
theorem Bridge.reading?_ite_record (b : Bridge) (g : Generation) (i j : Instrument)
    (attributes others : Attributes) (reading : Reading) (live : Bool) :
    (if live then b.record i attributes reading else b).reading? j others =
      j.kind.replay others (b.reading? j others)
        ([.recorded g i attributes reading live].filterMap (Effect.recording? g j)) := by
  cases live with
  | false =>
    by_cases same : i.isSame j = true <;> simp [Effect.recording?, same, InstrumentKind.replay]
  | true =>
    rw [if_pos rfl, reading?_record]
    by_cases same : i.isSame j = true
    · by_cases here : others = attributes
      · subst here
        simp [Effect.recording?, same, InstrumentKind.replay, b.reading?_of_isSame same,
          Instrument.kind_eq_of_isSame same]
      · simp [Effect.recording?, same, InstrumentKind.replay, here, Ne.symm here]
    · simp [Effect.recording?, same, InstrumentKind.replay]

namespace Host

/-- The recordings that have been made on an instrument of a bridge, in order. -/
def recordings (h : Host) (g : Generation) (instrument : Instrument) : List Recording :=
  h.journal.filterMap (Effect.recording? g instrument)

/-- What an instrument has come to on a bridge under some attributes, if there is the bridge. -/
def value? (h : Host) (g : Generation) (instrument : Instrument) (attributes : Attributes) :
    Option (Option Reading) :=
  h.bridges[g]?.map (·.reading? instrument attributes)

variable {h k : Host} {g : Generation} {instrument : Instrument} {attributes : Attributes}

theorem Reaches.recordings {ms : List Effect} (r : h.Reaches ms k) (g : Generation)
    (instrument : Instrument) :
    k.recordings g instrument =
      h.recordings g instrument ++ ms.filterMap (Effect.recording? g instrument) :=
  r.filterMap_journal fun _ carried => Effect.recording?_of_not_isMilestone carried g instrument

theorem value?_of_series (same : k.series g = h.series g) :
    k.value? g instrument attributes = h.value? g instrument attributes := by
  have value_eq (h : Host) : h.value? g instrument attributes =
      (h.series g).map fun series =>
        { series := series : Bridge }.reading? instrument attributes := by
    rw [series, Option.map_map]
    rfl
  rw [value_eq, value_eq, same]

theorem value?_of_unwritten (same : k.unwritten = h.unwritten) :
    k.value? g instrument attributes = h.value? g instrument attributes :=
  value?_of_series (congrFun (series_of_kept (kept_of_unwritten same)) g)

/-- What a recording leaves of the values of a bridge. -/
theorem value?_record (h : Host) (j : Generation) (other : Instrument) (others : Attributes)
    (reading : Reading) (live : Bool) (g : Generation) (instrument : Instrument)
    (attributes : Attributes) :
    (h.record j other others reading live).value? g instrument attributes =
      (h.value? g instrument attributes).map fun value =>
        instrument.kind.replay attributes value ((h.bridges[j]?.elim [] fun _ =>
          [.recorded j other others reading live]).filterMap (Effect.recording? g instrument)) := by
  unfold record
  cases found : h.bridges[j]? with
  | none => exact Option.map_id'.symm
  | some b =>
    rw [Option.elim_some, Option.elim_some, value?, value?, setBridge,
      Std.ExtTreeMap.getElem?_insert]
    by_cases here : j = g
    · subst here
      rw [if_pos Std.ReflCmp.compare_self, found, Option.map_some, Option.map_some, Option.map_some,
        b.reading?_ite_record j]
    · have silent : (Effect.recorded j other others reading live).recording? g instrument =
          none := if_neg fun at_bridge => here at_bridge.1
      simp [here, note, silent, InstrumentKind.replay, Function.comp_def]

end Host

/-! ## Operations -/

/-- An operation records nothing on an instrument. -/
def Operation.LeavesAlone (instrument : Instrument) : Operation → Prop
  | .record _ other _ _ => other.isSame instrument = false
  | _ => True

namespace System

variable {s : System} {g : Generation} {instrument : Instrument}

/-- Nothing is recorded by an operation that is no recording. -/
theorem isUnrecorded_effectsOf (s : System) {op : Operation}
    (silent : op.isRecording = false) : IsUnrecorded (s.effectsOf op) := by
  cases op with
  | start factory config version sink =>
    exact .of_ite ((s.manager.isUnrecorded_replacementEffects s.host).append
      (Manager.isUnrecorded_installEffects _ factory config version sink _))
        (.of_ite .nil (.single rfl))
  | shutdown deadline =>
    rw [effectsOf]
    cases s.manager.active with
    | none => exact .nil
    | some p => exact p.isUnrecorded_teardownEffects deadline s.host
  | event event => exact .single rfl
  | closeEmitter k bound =>
    rw [effectsOf]
    cases s.host.emitters[k]? with
    | none => exact .nil
    | some e => exact e.isUnrecorded_closingEffects k bound
  | shutdownBridge k deadline =>
    rw [effectsOf]
    cases s.host.bridges[k]? with
    | none => exact .nil
    | some b => exact b.isUnrecorded_shutdownEffects k deadline s.host.now
  | record k other others reading => cases silent
  | wake signal k => exact s.host.isUnrecorded_wakeEffects signal k
  | _ => exact .nil

/-- An operation that is no recording leaves what was recorded on a bridge. -/
theorem series_step (backed : s.IsBacked) (old : g ≤ s.host.generation) {op : Operation}
    (silent : op.isRecording = false) :
    (s.step op).2.host.series g = s.host.series g := by
  cases builds : op.isEffectiveStart with
  | false => exact congrFun (Host.series_of_kept (kept_step builds silent)) g
  | true =>
    cases op with
    | start factory config version sink =>
      have retired := Manager.reaches_replacement backed
      have installed := Manager.series_install factory config
        (s.manager.retire s.host).1 version sink (retired.generation ▸ old)
      change (s.manager.start factory config version sink s.host).2.2.series g = s.host.series g
      rw [Manager.start_of_effective _ _ _ _ _ builds, installed]
      exact congrFun (Host.series_of_kept (s.manager.kept_retire s.host)) g
    | _ => cases builds

/-- In an operation the recordings of an instrument follow on the value that it has come to. -/
theorem value?_step (backed : s.IsBacked) (old : g ≤ s.host.generation) (op : Operation)
    (instrument : Instrument) (attributes : Attributes) :
    (s.step op).2.host.value? g instrument attributes =
      (s.host.value? g instrument attributes).map fun value =>
        instrument.kind.replay attributes value
          ((s.effectsOf op).filterMap (Effect.recording? g instrument)) := by
  have of_silent (silent : op.isRecording = false) :
      (s.step op).2.host.value? g instrument attributes =
        (s.host.value? g instrument attributes).map fun value =>
          instrument.kind.replay attributes value
            ((s.effectsOf op).filterMap (Effect.recording? g instrument)) := by
    rw [(s.isUnrecorded_effectsOf silent).filterMap_recording?,
      Host.value?_of_series (series_step backed old silent)]
    exact Option.map_id'.symm
  cases op with
  | record j other others reading =>
    exact s.host.value?_record j other others reading _ g instrument attributes
  | _ => exact of_silent rfl

/-- What an instrument has come to on a bridge after a run is the replay of the recordings of the
run on what it had come to before. -/
theorem value?_run (sound : s.IsSound) (old : g ≤ s.host.generation) (ops : List Operation)
    (instrument : Instrument) (attributes : Attributes) :
    (s.run ops).host.value? g instrument attributes =
      (s.host.value? g instrument attributes).map fun value =>
        instrument.kind.replay attributes value
          (((s.moments ops).flatMap Moment.effects).filterMap
            (Effect.recording? g instrument)) := by
  induction ops generalizing s with
  | nil => exact Option.map_id'.symm
  | cons op rest ih =>
    have extends_ := Moment.extends_of_isBacked (m := ⟨s, op⟩) sound.backed
    have recorded : (Moment.effects ⟨s, op⟩).filterMap (Effect.recording? g instrument) =
        (s.effectsOf op).filterMap (Effect.recording? g instrument) :=
      extends_.filterMap_effects fun x => by cases x <;> rfl
    have older : g ≤ (s.step op).2.host.generation :=
      Nat.le_trans old (generation_le_run sound [op])
    have later := ih (isSound_step sound op) older
    rw [value?_step sound.backed old op instrument attributes, Option.map_map] at later
    rw [moments, List.flatMap_cons, List.filterMap_append, recorded]
    refine later.trans (congrArg (Option.map · _) (funext fun value => ?_))
    exact (InstrumentKind.replay_append _ _ _ _ _).symm

/-- An operation that records nothing on an instrument leaves its recordings as they are. -/
theorem filterMap_recording?_effectsOf (s : System) {op : Operation}
    (alone : op.LeavesAlone instrument) (g : Generation) :
    (s.effectsOf op).filterMap (Effect.recording? g instrument) = [] := by
  cases op with
  | record k other others reading =>
    have different : ¬ (k = g ∧ other.isSame instrument = true) := by
      rintro ⟨-, same⟩
      rw [show other.isSame instrument = false from alone] at same
      cases same
    rw [effectsOf]
    cases s.host.bridges[k]? with
    | none => rfl
    | some b => simp [Effect.recording?, different]
  | _ => exact (s.isUnrecorded_effectsOf rfl).filterMap_recording? g instrument

theorem recordings_step (backed : s.IsBacked) {op : Operation} (alone : op.LeavesAlone instrument)
    (g : Generation) :
    (s.step op).2.host.recordings g instrument = s.host.recordings g instrument := by
  have reached := (reaches_step backed op).recordings g instrument
  rw [s.filterMap_recording?_effectsOf alone, List.append_nil] at reached
  exact reached

end System

end Telemetry
