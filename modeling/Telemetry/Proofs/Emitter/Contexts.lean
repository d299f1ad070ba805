import Telemetry.Proofs.Emitter.Records

/-!
# The context of an emission

An entry is emitted in its own context if it has one, and in the current context of its thread if it
has none. Where that context suppresses telemetry the fire succeeds and no processor hears of it;
otherwise the processor is handed one record, which carries the span of that context and no other.
The own context of an entry is current for the time of the fire only, however the fire ends, so the
fires of a thread all find the contexts that the first one has found.

* `emits_of_live`: what a fire does, for every processor.
* `thread_kept`: what the fires of a thread leave as it is.
* `fires_resolve_contexts`: the context of every fire of a thread.
-/

namespace Telemetry

/-- The context that an entry is emitted in: its own one, even if that is empty, or else the current
one. -/
def Entry.contextIn (entry : Entry) (ambient : Ambient) : Context :=
  match entry.context with
  | some own => own
  | none => ambient.current

theorem Entry.contextIn_eq (entry : Entry) (ambient : Ambient) :
    entry.contextIn ambient = entry.context.getD ambient.current := by
  rw [contextIn]
  cases entry.context <;> rfl

namespace Emitter

/-- The emitter with another processor, or with none. -/
def withProcessor (e : Emitter) (processor : Option LogProcessor) : Emitter :=
  { e with provider := { e.provider with processor } }

/-- What comes of handing one record to a processor of the emitter, and of nothing else. -/
def handOver (e : Emitter) (ambient : Ambient) (r : Record) (processor : LogProcessor) : Firing :=
  let e := e.withProcessor (some processor)
  match processor.onEmit r with
  | some payload => ⟨.error (.panicked payload.message), [], e, ambient⟩
  | none => ⟨.ok (), [r], e, ambient⟩

/-- Firing the entry emits the record: whichever processor the emitter has, the fire hands it this
record and does nothing else. -/
def Emits (e : Emitter) (ambient : Ambient) (clock : Timestamp) (entry : Entry) (r : Record) :
    Prop :=
  ∀ processor, (e.withProcessor (some processor)).fire ambient clock entry =
    e.handOver ambient r processor

variable {e : Emitter} {ambient : Ambient} {clock : Timestamp} {entry : Entry}

/-- A fire emits no more than one record. -/
theorem Emits.unique {r r' : Record} (first : e.Emits ambient clock entry r)
    (second : e.Emits ambient clock entry r') : r = r' := by
  have same := (first {}).symm.trans (second {})
  have handed : [r] = [r'] := congrArg Firing.handed same
  exact (List.cons.inj handed).1

/-! ## One fire -/

theorem fire_of_live_of_suppressed (live : e.logger = some .live)
    (suppressed : (entry.contextIn ambient).suppressed = true) :
    e.fire ambient clock entry = ⟨.ok (), [], e, ambient⟩ := by
  rw [Entry.contextIn_eq] at suppressed
  exact fire_of_suppressed live suppressed clock

/-- Where telemetry is not suppressed, a fire emits the record of its entry in the context of the
entry. -/
theorem emits_of_live (live : e.logger = some .live)
    (heard : (entry.contextIn ambient).suppressed = false) :
    e.Emits ambient clock entry (.ofEntry e.listing (entry.contextIn ambient) clock entry) := by
  intro processor
  let r : Record := .ofEntry e.listing (entry.contextIn ambient) clock entry
  let e' := e.withProcessor (some processor)
  have live' : e'.logger = some .live := live
  have sent : e'.send .live (ambient.enter entry.context).current clock entry =
      match processor.onEmit r with
      | some payload => .error payload
      | none => .ok [r] := by
    rw [Ambient.current_enter, ← Entry.contextIn_eq]
    simp only [send, heard, Bool.false_eq_true, if_false]
    rfl
  change e'.fire ambient clock entry = e.handOver ambient r processor
  simp only [fire, live', handOver, Ambient.leave_enter, sent]
  cases processor.onEmit r <;> rfl

/-! ## The fires of a thread -/

/-- The emitter and the contexts of a thread after some fires, each of which finds what the one
before it has left. -/
def thread (e : Emitter) (ambient : Ambient) (fired : List (Timestamp × Entry)) :
    Emitter × Ambient :=
  fired.foldl (fun now next =>
    let firing := now.1.fire now.2 next.1 next.2
    (firing.emitter, firing.ambient)) (e, ambient)

/-- The fires of a thread may as well each be made in the contexts that the first one finds. -/
theorem thread_eq (e : Emitter) (ambient : Ambient) (fired : List (Timestamp × Entry)) :
    e.thread ambient fired =
      (e.after (fired.map fun next => .fire ambient next.1 next.2), ambient) := by
  induction fired generalizing e with
  | nil => rfl
  | cons next rest ih =>
    have later := ih (e.fire ambient next.1 next.2).emitter
    rw [thread, List.foldl_cons]
    dsimp only
    rw [ambient_fire]
    exact later

/-- The fires of a thread leave its contexts and the logger as they are. -/
theorem thread_kept (e : Emitter) (ambient : Ambient) (fired : List (Timestamp × Entry)) :
    (e.thread ambient fired).2 = ambient ∧ (e.thread ambient fired).1.logger = e.logger := by
  rw [thread_eq]
  exact ⟨rfl, e.logger_after _⟩

/-- Whatever has been fired on a thread before, an entry is emitted in its own context, if it has
one, and otherwise in the context that was current at first: as one record with the span of that
context, or not at all if that context is suppressed, which no processor can tell. However the fire
ends, the contexts of the thread are what they were. Without a logger every fire fails. -/
theorem fires_resolve_contexts (e : Emitter) (ambient : Ambient) (fired : List (Timestamp × Entry))
    (clock : Timestamp) (entry : Entry) :
    let now := e.thread ambient fired
    let firing := now.1.fire now.2 clock entry
    let context := entry.contextIn ambient
    (now.2 = ambient ∧ firing.ambient = ambient) ∧
    (e.logger = none → firing.result = .error .uninitialised) ∧
    (e.logger = some .live → context.suppressed = true → ∀ processor,
      (now.1.withProcessor processor).fire now.2 clock entry =
        ⟨.ok (), [], now.1.withProcessor processor, ambient⟩) ∧
    (e.logger = some .live → context.suppressed = false →
      ∃ r, (∀ other, now.1.Emits now.2 clock entry other ↔ other = r) ∧
        r.trace = context.span) := by
  intro now firing context
  obtain ⟨contexts, logger⟩ := e.thread_kept ambient fired
  have contexts : now.2 = ambient := contexts
  refine ⟨⟨contexts, ?_⟩, fun missing => ?_, fun live suppressed processor => ?_,
    fun live heard => ?_⟩
  · exact (now.1.ambient_fire now.2 clock entry).trans contexts
  · exact congrArg Firing.result (fire_of_uninitialised now.1 now.2 clock entry
      (logger.trans missing))
  · have live' : (now.1.withProcessor processor).logger = some .live := logger.trans live
    rw [contexts]
    exact fire_of_live_of_suppressed live' suppressed
  · rw [contexts]
    have sent : now.1.Emits ambient clock entry _ := emits_of_live (logger.trans live) heard
    refine ⟨_, fun other => ⟨fun too => too.unique sent, ?_⟩, rfl⟩
    rintro rfl
    exact sent

/-- A thread with an active span has fired an entry over which the processor panicked in a context
of its own, and one in a suppressed context. Then an entry without a context gets the active span,
and one with an empty context none. -/
theorem fires_resolve_contexts_of_nesting :
    let processor : LogProcessor :=
      { onEmit := fun r => if r.body = "lost" then some .other else none }
    let e : Emitter := .ofProvider ⟨some processor, false⟩
    let ambient : Ambient := ⟨[{ span := some ⟨1, 2, 1⟩ }]⟩
    let entry (message : String) (context : Option Context) : Entry :=
      { time := 0, level := .info, message, context }
    let unheard := entry "unheard" (some { span := some ⟨3, 4, 0⟩, suppressed := true })
    let fired : List (Timestamp × Entry) :=
      [(1, entry "lost" (some { span := some ⟨3, 4, 0⟩ })), (2, unheard)]
    let now := e.thread ambient fired
    e.logger = some .live ∧ now.2 = ambient ∧
      (now.1.withProcessor (some processor)).fire now.2 3 unheard =
        ⟨.ok (), [], now.1.withProcessor (some processor), ambient⟩ ∧
      (∃ r, (∀ other, now.1.Emits now.2 3 (entry "plain" none) other ↔ other = r) ∧
        r.trace = some ⟨1, 2, 1⟩) ∧
      (∃ r, (∀ other, now.1.Emits now.2 3 (entry "apart" (some {})) other ↔ other = r) ∧
        r.trace = none) ∧
      (uninitialised.fire ambient 3 unheard).result = .error .uninitialised := by
  intro processor e ambient entry unheard fired now
  have live : e.logger = some .live := rfl
  obtain ⟨⟨contexts, -⟩, -, silent, -⟩ := fires_resolve_contexts e ambient fired 3 unheard
  obtain ⟨-, -, -, plain⟩ := fires_resolve_contexts e ambient fired 3 (entry "plain" none)
  obtain ⟨-, -, -, apart⟩ := fires_resolve_contexts e ambient fired 3 (entry "apart" (some {}))
  obtain ⟨-, missing, -⟩ := fires_resolve_contexts uninitialised ambient [] 3 unheard
  exact ⟨live, contexts, silent live rfl (some processor), plain live rfl, apart live rfl,
    missing rfl⟩

end Emitter

end Telemetry
