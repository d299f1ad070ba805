import Telemetry.Proofs.Host.Routing

/-!
# The calls for an event

In a routed journal the calls that follow an event are those of the layers whose sinks are attached
at that time, and every call follows an event in this way. Where each sink has one layer an event
makes at most one call through a sink, and where no sink is attached it makes none.

* `Routed.callsAfter_eq`: the calls after an event.
* `Routed.exists_event`: the event of a call.
* `Routed.emitter_ne`, `Routed.isSilent`: without an attachment there is no call.
-/

namespace Telemetry

/-- What the sinks hold after some effects, if at first they held nothing. -/
def attachments (effects : List Effect) : Sinks := effects.foldl Effect.act ∅

/-- The calls that come before the next milestone. -/
def callsAfter (effects : List Effect) : List Delivery :=
  (effects.takeWhile fun x => !x.isMilestone).filterMap Effect.delivery?

/-- No call is made before an emitter is attached. -/
def IsSilent (effects : List Effect) : Prop :=
  (effects.takeWhile fun x => !x.isAttachment).filterMap Effect.delivery? = []

/-- Each sink has at most one layer, and layers take every event. -/
structure Host.HasPlainLayers (h : Host) : Prop where
  distinct : (h.layers.map Layer.sink).Nodup
  admits : ∀ layer ∈ h.layers, ∀ event, layer.admits event = true

theorem Host.HasPlainLayers.of_eq {h k : Host} (plain : h.HasPlainLayers)
    (same : k.layers = h.layers) : k.HasPlainLayers :=
  ⟨by rw [same]; exact plain.distinct, by rw [same]; exact plain.admits⟩

/-! ## Calls through a sink -/

theorem mem_deliveries_iff {layers : List Layer} {σ : Sinks} {event : Event} {d : Delivery} :
    d ∈ deliveries layers σ event ↔
      ∃ layer ∈ layers, layer.admits event = true ∧ Target.isOfTransport event.target = false ∧
        layer.sink = d.sink ∧ σ[d.sink]? = some d.emitter ∧ d.entry = .ofEvent event := by
  rw [deliveries, List.mem_filterMap]
  refine exists_congr fun layer => and_congr_right fun _ => ?_
  obtain ⟨sink, g, entry⟩ := d
  cases admitted : layer.admits event with
  | false => simp [Layer.delivery?, admitted]
  | true =>
    cases carried : Target.isOfTransport event.target with
    | true => simp [Layer.delivery?, admitted, carried]
    | false =>
      simp only [Layer.delivery?, admitted, carried, Bool.not_true, Bool.or_self,
        Bool.false_eq_true, if_false, true_and, Option.map_eq_some_iff, Delivery.mk.injEq]
      constructor
      · rintro ⟨g, held, rfl, rfl, rfl⟩
        exact ⟨rfl, held, rfl⟩
      · rintro ⟨rfl, held, rfl⟩
        exact ⟨g, held, rfl, rfl, rfl⟩

theorem filter_delivery?_of_ne {layer : Layer} {sink : SinkName} (other : layer.sink ≠ sink)
    (σ : Sinks) (event : Event) :
    (layer.delivery? σ event).toList.filter (fun d => d.sink = sink) = [] := by
  rw [Layer.delivery?]
  split
  · rfl
  · cases σ[layer.sink]? <;> simp [other]

/-- Through the sink of a layer that is alone there goes the call of that layer. -/
theorem filter_deliveries {layers : List Layer} (distinct : (layers.map Layer.sink).Nodup)
    {layer : Layer} (hl : layer ∈ layers) (σ : Sinks) (event : Event) :
    (deliveries layers σ event).filter (fun d => d.sink = layer.sink) =
      (layer.delivery? σ event).toList := by
  induction layers with
  | nil => cases hl
  | cons first rest ih =>
    obtain ⟨alone, distinct⟩ := List.nodup_cons.mp distinct
    rw [deliveries_cons, List.filter_append]
    rcases List.mem_cons.mp hl with rfl | hl
    · have own : (layer.delivery? σ event).toList.filter (fun d => d.sink = layer.sink) =
          (layer.delivery? σ event).toList := by
        rw [Layer.delivery?]
        split
        · rfl
        · cases σ[layer.sink]? <;> simp
      have others : (deliveries rest σ event).filter (fun d => d.sink = layer.sink) = [] := by
        rw [List.filter_eq_nil_iff]
        intro d hd same
        obtain ⟨other, ho, -, -, sink, -⟩ := mem_deliveries_iff.mp hd
        exact alone (List.mem_map.mpr ⟨other, ho, sink.trans (of_decide_eq_true same)⟩)
      rw [own, others, List.append_nil]
    · have other : first.sink ≠ layer.sink := fun same =>
        alone (List.mem_map.mpr ⟨layer, hl, same.symm⟩)
      rw [filter_delivery?_of_ne other, List.nil_append, ih distinct hl]

/-! ## Routed effects -/

theorem attached_of_foldl_act {effects : List Effect} {σ : Sinks} {sink : SinkName} {g : Generation}
    (held : (effects.foldl Effect.act σ)[sink]? = some g) :
    σ[sink]? = some g ∨ .attached sink g ∈ effects := by
  induction effects generalizing σ with
  | nil => exact Or.inl held
  | cons x rest ih =>
    rcases ih held with before | later
    · cases x with
      | attached k g' =>
        rw [Effect.act, Std.ExtTreeMap.getElem?_insert] at before
        split at before
        · rename_i same
          obtain rfl := Std.LawfulEqOrd.compare_eq_iff_eq.mp same
          obtain rfl := Option.some.inj before
          exact Or.inr List.mem_cons_self
        · exact Or.inl before
      | detached k =>
        rw [Effect.act, Std.ExtTreeMap.getElem?_erase] at before
        split at before
        · cases before
        · exact Or.inl before
      | _ => exact Or.inl before
    · exact Or.inr (List.mem_cons_of_mem x later)

namespace Routed

variable {layers : List Layer} {σ : Sinks} {xs past future : List Effect}

theorem callsAfter_eq_nil (h : Routed layers σ xs) : callsAfter xs = [] := by
  induction h with
  | nil σ => rfl
  | event carried calls tail ih => rfl
  | @other σ effect rest silent noCall tail ih =>
    rw [callsAfter, List.takeWhile_cons]
    split
    · rw [List.filterMap_cons_none noCall]
      exact ih
    · rfl

theorem callsAfter_append {block rest : List Effect} (carried : ∀ x ∈ block, x.isMilestone = false)
    (tail : Routed layers σ rest) :
    callsAfter (block ++ rest) = block.filterMap Effect.delivery? := by
  have passed : ∀ x ∈ block, (!x.isMilestone) = true := by simpa using carried
  rw [callsAfter, List.takeWhile_append_of_pos passed, List.filterMap_append]
  exact (congrArg _ tail.callsAfter_eq_nil).trans (List.append_nil _)

/-- An event that is none of the first effects stands after all of them. -/
theorem eq_append_of_not_mem {first rest : List Effect} {origin : Origin} {event : Event}
    (absent : .emitted origin event ∉ first)
    (split : past ++ .emitted origin event :: future = first ++ rest) :
    ∃ between, past = first ++ between ∧ rest = between ++ .emitted origin event :: future := by
  rcases List.append_eq_append_iff.mp split with ⟨inside, rfl, cut⟩ | ⟨between, rfl, cut⟩
  · cases inside with
    | nil => exact ⟨[], by simp, cut.symm⟩
    | cons x inside =>
      obtain ⟨rfl, -⟩ := List.cons.inj cut
      exact absurd (by simp) absent
  · exact ⟨between, rfl, cut⟩

theorem emitted_not_mem_of_block {block : List Effect}
    (carried : ∀ x ∈ block, x.isMilestone = false) (origin : Origin) (event : Event) :
    .emitted origin event ∉ block := by
  intro mem
  have impossible := carried _ mem
  cases impossible

/-- After an event come the calls that the layers make for it. -/
theorem callsAfter_eq {origin : Origin} {event : Event}
    (h : Routed layers σ (past ++ .emitted origin event :: future)) :
    callsAfter future = deliveries layers (past.foldl Effect.act σ) event := by
  generalize hxs : past ++ .emitted origin event :: future = xs at h
  induction h generalizing past with
  | nil σ => simp at hxs
  | @event σ origin' event' block rest carried calls tail ih =>
    cases past with
    | nil =>
      obtain ⟨same, rfl⟩ := List.cons.inj hxs
      obtain ⟨-, rfl⟩ := Effect.emitted.inj same
      rw [callsAfter_append carried tail, calls]
      rfl
    | cons x past =>
      obtain ⟨rfl, split⟩ := List.cons.inj hxs
      -- the event stands after all calls for the first one
      obtain ⟨between, rfl, later⟩ := eq_append_of_not_mem
        (emitted_not_mem_of_block carried origin _) split
      rw [ih later.symm, List.foldl_cons, List.foldl_append,
        Effect.foldl_act_of_not_milestone carried]
      rfl
  | @other σ effect rest silent noCall tail ih =>
    cases past with
    | nil =>
      obtain ⟨rfl, -⟩ := List.cons.inj hxs
      cases silent
    | cons x past =>
      obtain ⟨rfl, split⟩ := List.cons.inj hxs
      exact ih split

/-- Every call follows an event that asks for it. -/
theorem exists_event {sink : SinkName} {g : Generation} {entry : Entry}
    (h : Routed layers σ (past ++ .forwarded sink g entry :: future)) :
    ∃ before origin event between, past = before ++ .emitted origin event :: between ∧
      (∀ x ∈ between, x.isMilestone = false) ∧
      ⟨sink, g, entry⟩ ∈ deliveries layers (before.foldl Effect.act σ) event := by
  generalize hxs : past ++ .forwarded sink g entry :: future = xs at h
  induction h generalizing past with
  | nil σ => simp at hxs
  | @event σ origin event block rest carried calls tail ih =>
    cases past with
    | nil =>
      obtain ⟨same, -⟩ := List.cons.inj hxs
      cases same
    | cons x past =>
      obtain ⟨rfl, split⟩ := List.cons.inj hxs
      have called : ∀ inside, block = past ++ .forwarded sink g entry :: inside →
          ∃ before origin' event' between, .emitted origin event :: past =
            before ++ .emitted origin' event' :: between ∧
            (∀ x ∈ between, x.isMilestone = false) ∧
            ⟨sink, g, entry⟩ ∈ deliveries layers (before.foldl Effect.act σ) event' := by
        intro inside hb
        refine ⟨[], origin, event, past, rfl, fun x hx => carried x (by rw [hb]; simp [hx]), ?_⟩
        rw [List.foldl_nil, ← calls, List.mem_filterMap]
        exact ⟨.forwarded sink g entry, by rw [hb]; simp, rfl⟩
      rcases List.append_eq_append_iff.mp split with ⟨inside, rfl, cut⟩ | ⟨between, rfl, cut⟩
      · cases inside with
        | nil =>
          obtain ⟨before, _, _, _, hb, -, -⟩ := @ih [] (by simpa using cut)
          simp at hb
        | cons y inside =>
          obtain ⟨rfl, -⟩ := List.cons.inj cut
          exact called inside rfl
      · obtain ⟨before, origin', event', gap, rfl, quiet, asked⟩ := ih cut.symm
        refine ⟨.emitted origin event :: (block ++ before), origin', event', gap, by simp, quiet,
          ?_⟩
        rw [List.foldl_cons, List.foldl_append, Effect.foldl_act_of_not_milestone carried]
        exact asked
  | @other σ effect rest silent noCall tail ih =>
    cases past with
    | nil =>
      obtain ⟨rfl, -⟩ := List.cons.inj hxs
      cases noCall
    | cons x past =>
      obtain ⟨rfl, split⟩ := List.cons.inj hxs
      obtain ⟨before, origin, event, between, rfl, quiet, asked⟩ := ih split
      exact ⟨x :: before, origin, event, between, rfl, quiet, asked⟩

/-- An emitter that no sink holds is not called before it is attached. -/
theorem emitter_ne (h : Routed layers σ xs) {g : Generation}
    (free : ∀ sink : SinkName, σ[sink]? ≠ some g) (never : ∀ sink, .attached sink g ∉ xs)
    {d : Delivery} (hd : d ∈ xs.filterMap Effect.delivery?) : d.emitter ≠ g := by
  rintro rfl
  obtain ⟨x, hx, call⟩ := List.mem_filterMap.mp hd
  cases x with
  | forwarded sink k entry =>
    obtain rfl := Option.some.inj call
    obtain ⟨past, future, rfl⟩ := List.append_of_mem hx
    obtain ⟨before, origin, event, between, rfl, -, asked⟩ := h.exists_event
    obtain ⟨-, -, -, -, -, held, -⟩ := mem_deliveries_iff.mp asked
    rcases attached_of_foldl_act held with at_first | attached
    · exact free sink at_first
    · exact never sink (by simp [attached])
  | _ => cases call

/-- Once no sink holds anything no call is made before the next attachment. -/
theorem isSilent (h : Routed layers σ xs) {first rest : List Effect}
    (milestones : xs.filter Effect.isMilestone = first ++ rest)
    (silent : ∀ x ∈ first, x.event? = none)
    (free : ∀ sink : SinkName, (first.foldl Effect.act σ)[sink]? = none) : IsSilent xs := by
  rw [IsSilent, List.filterMap_eq_nil_iff]
  intro x hx
  cases x with
  | forwarded sink g entry =>
    obtain ⟨front, back, cut⟩ := List.append_of_mem hx
    have whole := List.takeWhile_append_dropWhile (p := fun x : Effect => !x.isAttachment) (l := xs)
    rw [cut, List.append_assoc, List.cons_append] at whole
    generalize xs.dropWhile (fun x => !x.isAttachment) = later at whole
    obtain ⟨before, origin, event, between, rfl, -, asked⟩ := exists_event (whole ▸ h)
    obtain ⟨-, -, -, -, -, held, -⟩ := mem_deliveries_iff.mp asked
    have detached : ∀ y ∈ before, y.isAttachment = false := by
      intro y hy
      have passed := List.all_eq_true.mp
        (List.all_takeWhile (p := fun x : Effect => !x.isAttachment) (l := xs)) y
        (by simp [cut, hy])
      simpa using passed
    -- the first milestones stand before the event
    have split : before.filter Effect.isMilestone ++ .emitted origin event ::
        (between ++ .forwarded sink g entry :: (back ++ later)).filter Effect.isMilestone =
          first ++ rest := by
      rw [← milestones, ← whole, List.append_assoc, List.cons_append, List.filter_append before,
        List.filter_cons_of_pos (a := Effect.emitted origin event) rfl]
    obtain ⟨others, first_others, -⟩ := eq_append_of_not_mem (fun mem => by
      have impossible := silent _ mem
      cases impossible) split
    rw [← Effect.foldl_act_filter, first_others, List.foldl_append] at held
    rcases attached_of_foldl_act held with at_first | attached
    · rw [free] at at_first
      cases at_first
    · have mem : .attached sink g ∈ before.filter Effect.isMilestone := by
        rw [first_others]
        exact List.mem_append_right _ attached
      have impossible := detached _ (List.mem_filter.mp mem).1
      cases impossible
  | _ => rfl

/-- Effects whose first milestone is an event part after the calls for it. -/
theorem exists_lead {origin : Origin} {event : Event} {ms : List Effect} (h : Routed layers σ xs)
    (milestones : xs.filter Effect.isMilestone = .emitted origin event :: ms) :
    ∃ lead tail, xs = lead ++ tail ∧ lead.filter Effect.isMilestone = [.emitted origin event] ∧
      lead.filterMap Effect.delivery? = deliveries layers σ event ∧ Routed layers σ tail ∧
      tail.filter Effect.isMilestone = ms := by
  induction h with
  | nil σ => cases milestones
  | @event σ origin' event' block rest carried calls tail ih =>
    have none_left : block.filter Effect.isMilestone = [] := by
      simpa [List.filter_eq_nil_iff] using carried
    rw [List.filter_cons_of_pos rfl, List.filter_append, none_left, List.nil_append] at milestones
    obtain ⟨same, left⟩ := List.cons.inj milestones
    obtain ⟨rfl, rfl⟩ := Effect.emitted.inj same
    refine ⟨.emitted origin' event' :: block, rest, rfl, ?_, calls, tail, left⟩
    rw [List.filter_cons_of_pos rfl, none_left]
  | @other σ effect rest silent noCall tail ih =>
    cases hm : effect.isMilestone with
    | true =>
      rw [List.filter_cons_of_pos hm] at milestones
      obtain ⟨rfl, -⟩ := List.cons.inj milestones
      cases silent
    | false =>
      rw [List.filter_cons_of_neg (by simp [hm])] at milestones
      rw [Effect.act_of_not_milestone hm] at tail ih
      obtain ⟨lead, later, rfl, first, calls, routed, left⟩ := ih milestones
      refine ⟨effect :: lead, later, rfl, ?_, ?_, routed, left⟩
      · rw [List.filter_cons_of_neg (by simp [hm]), first]
      · rw [List.filterMap_cons_none noCall, calls]

end Routed

theorem mem_of_mem_callsAfter {effects rest : List Effect} {x : Effect} (hx : x.isMilestone = true)
    {d : Delivery} (hd : d ∈ callsAfter (effects ++ x :: rest)) :
    d ∈ effects.filterMap Effect.delivery? := by
  induction effects with
  | nil => simp [callsAfter, hx] at hd
  | cons y effects ih =>
    rw [callsAfter, List.cons_append, List.takeWhile_cons] at hd
    split at hd
    · rw [List.filterMap_cons] at hd ⊢
      split at hd
      · exact ih hd
      · rcases List.mem_cons.mp hd with same | later
        · exact List.mem_cons.mpr (Or.inl same)
        · exact List.mem_cons_of_mem _ (ih later)
    · cases hd

end Telemetry
