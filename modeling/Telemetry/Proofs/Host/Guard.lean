import Telemetry.Proofs.Host.Routing

/-!
# What layers keep from the emitters

A layer takes no notice of an event whose target is the name of a library of the transport, or goes
on behind such a name with an underscore or a colon. For any other event that it admits it calls the
emitter that its sink holds. So an event passes whose target goes on behind such a name with another
character, as the name of a package does that is written with a hyphen.

* `emit_of_isOfTransport`: an event that is kept out adds nothing but itself to the journal.
* `isOfTransport_eq_false_iff`: the targets that pass.
* `transport_kept_out`: what becomes of an event at a layer, by its target.
-/

namespace Telemetry

def Effect.isHandover : Effect → Bool
  | .handed .. => true
  | _ => false

/-- A host in which a sink holds an emitter. -/
def Host.listening (sink : SinkName) : Host :=
  Host.attach (.setEmitter { platform := ⟨"linux", "x86_64", 1, none⟩ } 1
    (.ofProvider ⟨some {}, false⟩)) sink 1

/-! ## Targets -/

namespace Target

/-- A target passes if behind the name of a library it always goes on with a character that is no
boundary. -/
theorem isOfTransport_eq_false_iff {target : String} :
    isOfTransport target = false ↔ ∀ library ∈ transports, ∀ tail,
      target.toList = library.toList ++ tail →
        ∃ c rest, tail = c :: rest ∧ isBoundary c = false := by
  rw [← Bool.not_eq_true, isOfTransport_iff]
  constructor
  · intro passes library hl tail split
    cases tail with
    | nil => exact absurd ⟨library, hl, Or.inl (by simpa using split)⟩ passes
    | cons c rest =>
      refine ⟨c, rest, rfl, Bool.eq_false_iff.mpr fun boundary => ?_⟩
      exact passes ⟨library, hl, Or.inr ⟨c, rest, boundary, split⟩⟩
  · rintro goesOn ⟨library, hl, whole | ⟨c, rest, boundary, split⟩⟩
    · obtain ⟨c, rest, impossible, -⟩ := goesOn library hl [] (by simpa using whole)
      cases impossible
    · obtain ⟨_, _, same, other⟩ := goesOn library hl (c :: rest) split
      obtain ⟨rfl, rfl⟩ := List.cons.inj same
      rw [boundary] at other
      cases other

/-- The names of the libraries begin differently, so a target begins with one of them at most. -/
theorem eq_of_prefix {library other tail tail' : List Char}
    (hl : library ∈ transports.map String.toList) (ho : other ∈ transports.map String.toList)
    (same : library ++ tail = other ++ tail') : library = other ∧ tail = tail' := by
  have apart : ∀ l ∈ transports.map String.toList, ∀ l' ∈ transports.map String.toList,
      l.length ≤ l'.length → l'.take l.length = l → l = l' := by decide +kernel
  have named : library = other := by
    rcases Nat.le_total library.length other.length with order | order
    · refine apart _ hl _ ho order ?_
      have taken := congrArg (List.take library.length) same
      rwa [List.take_left, List.take_append_of_le_length order, eq_comm] at taken
    · refine (apart _ ho _ hl order ?_).symm
      have taken := congrArg (List.take other.length) same
      rwa [List.take_left, List.take_append_of_le_length order] at taken
  subst named
  exact ⟨rfl, List.append_cancel_left same⟩

end Target

/-! ## Layers -/

namespace Host

theorem forward_of_isOfTransport {event : Event} (carried : Target.isOfTransport event.target)
    (h : Host) (layer : Layer) : h.forward event layer = h := by
  simp [forward, carried]

theorem emit_of_isOfTransport {event : Event} (carried : Target.isOfTransport event.target)
    (h : Host) (origin : Origin) : h.emit origin event = h.note (.emitted origin event) := by
  have kept : ∀ (layers : List Layer) (k : Host),
      layers.foldl (fun h layer => h.forward event layer) k = k := by
    intro layers
    induction layers with
    | nil => exact fun _ => rfl
    | cons layer rest ih =>
      intro k
      rw [List.foldl_cons, forward_of_isOfTransport carried, ih]
  exact kept h.layers _

/-- From `h` to `k` the layer of a sink calls the emitter that the sink holds, once. -/
def CallsOnce (h : Host) (layer : Layer) (event : Event) (k : Host) : Prop :=
  ∀ g, h.sinks[layer.sink]? = some g → ∃ rest,
    k.journal = h.journal ++ .forwarded layer.sink g (.ofEvent event) :: rest ∧
      rest.filterMap Effect.delivery? = []

/-- An event that passes is the matter of one call. -/
theorem callsOnce_forward {event : Event} {layer : Layer}
    (passes : Target.isOfTransport event.target = false) (admitted : layer.admits event = true)
    (h : Host) : h.CallsOnce layer event (h.forward event layer) := by
  intro g held
  have called : h.forward event layer =
      ((h.note (.forwarded layer.sink g (.ofEvent event))).fire g (.ofEvent event)).2.noteLoss g
        ((h.note (.forwarded layer.sink g (.ofEvent event))).fire g (.ofEvent event)).1 := by
    simp [forward, passes, admitted, held]
  obtain ⟨rest, journal, -, calls⟩ :=
    (carries_fire (h.note (.forwarded layer.sink g (.ofEvent event))) g (.ofEvent event)).trans
      (carries_noteLoss _ g
        ((h.note (.forwarded layer.sink g (.ofEvent event))).fire g (.ofEvent event)).1)
  refine ⟨rest, ?_, calls⟩
  rw [called, journal, journal_note, List.append_assoc]
  rfl

/-- A layer takes no notice of an event whose target is a library's name or goes on behind one with
an underscore or a colon. If the target goes on with another character, the event is forwarded, and
so is one whose target begins with no library's name. -/
theorem transport_kept_out (h : Host) (layer : Layer) (event : Event) :
    (∀ library ∈ ["opentelemetry", "tonic", "h2", "hyper", "reqwest", "tower"], ∀ tail,
      event.target.toList = library.toList ++ tail →
        (∀ c ∈ tail.head?, c = '_' ∨ c = ':') → h.forward event layer = h ∧
          ∀ origin, h.emit origin event = h.note (.emitted origin event)) ∧
    (layer.admits event = true →
      (∀ library ∈ ["opentelemetry", "tonic", "h2", "hyper", "reqwest", "tower"], ∀ c rest,
        event.target.toList = library.toList ++ c :: rest → c ≠ '_' → c ≠ ':' →
          h.CallsOnce layer event (h.forward event layer)) ∧
      ((∀ library ∈ ["opentelemetry", "tonic", "h2", "hyper", "reqwest", "tower"], ∀ tail,
        event.target.toList ≠ library.toList ++ tail) →
          h.CallsOnce layer event (h.forward event layer))) := by
  refine ⟨fun library hl tail split ends => ?_, fun admitted => ⟨?_, fun foreign => ?_⟩⟩
  · have carried : Target.isOfTransport event.target = true := by
      refine Target.isOfTransport_iff.mpr ⟨library, hl, ?_⟩
      cases tail with
      | nil => exact Or.inl (by simpa using split)
      | cons c rest => exact Or.inr ⟨c, rest, by simpa [Target.isBoundary] using ends c rfl, split⟩
    exact ⟨forward_of_isOfTransport carried h layer, emit_of_isOfTransport carried h⟩
  · intro library hl c rest split underscore colon
    refine callsOnce_forward (Target.isOfTransport_eq_false_iff.mpr fun other ho tail cut => ?_)
      admitted h
    -- the target begins with one name only, and goes on behind it as it does
    obtain ⟨-, rfl⟩ := Target.eq_of_prefix (List.mem_map_of_mem hl) (List.mem_map_of_mem ho)
      (split.symm.trans cut)
    exact ⟨c, rest, rfl, by simp [Target.isBoundary, underscore, colon]⟩
  · exact callsOnce_forward (Target.isOfTransport_eq_false_iff.mpr fun library hl tail split =>
      absurd split (foreign library hl tail)) admitted h

/-- Of two events of packages of one library the one whose name is written with an underscore is
kept out, and the one whose name is written with a hyphen is forwarded. -/
theorem transport_kept_out_of_hyphen :
    let h := listening "own"
    let event (target : String) : Event := .report 0 .warn target "export timed out"
    h.forward (event "opentelemetry_sdk") { sink := "own" } = h ∧
      h.CallsOnce { sink := "own" } (event "opentelemetry-otlp")
        (h.forward (event "opentelemetry-otlp") { sink := "own" }) := by
  intro h event
  obtain ⟨kept, -⟩ := transport_kept_out h { sink := "own" } (event "opentelemetry_sdk")
  obtain ⟨-, forwarded⟩ := transport_kept_out h { sink := "own" } (event "opentelemetry-otlp")
  exact ⟨(kept "opentelemetry" (by simp) "_sdk".toList (by decide +kernel)
      fun c hc => .inl (by simpa using hc.symm)).1,
    (forwarded rfl).1 "opentelemetry" (by simp) '-' "otlp".toList (by decide +kernel) (by decide)
      (by decide)⟩

/-- A target that begins with the name of a library does not keep an event out: the event of a
package whose name is written with a hyphen becomes a record of the attached emitter. -/
theorem not_kept_out_of_prefix :
    ¬ ∀ (h : Host) (layer : Layer) (event : Event),
      "opentelemetry".toList <+: event.target.toList →
        ∀ g record, .handed g record ∈ (h.forward event layer).journal →
          .handed g record ∈ h.journal := by
  intro kept
  let h := listening "own"
  let event : Event := .report 0 .warn "opentelemetry-otlp" "export timed out"
  have handed : (h.forward event { sink := "own" }).journal.any Effect.isHandover = true := by
    decide +kernel
  have before : h.journal.any Effect.isHandover = false := by decide +kernel
  obtain ⟨effect, he, is⟩ := List.any_eq_true.mp handed
  cases effect with
  | handed g record =>
    have earlier := kept h { sink := "own" } event (by decide +kernel) g record he
    rw [List.any_eq_false] at before
    exact before _ earlier rfl
  | _ => cases is

end Host

end Telemetry
