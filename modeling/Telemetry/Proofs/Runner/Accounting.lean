import Telemetry.Proofs.Runner.Ticks

/-!
# What a heartbeat counts

In a run of ticks and operations the heartbeat is the only one that records on its instruments. So
what is recorded there is one heartbeat and one uptime for each tick that found the bridge. The bridge
of a start counts them, if the factory has returned it open and has left no worker behind that shuts
it down. Its counter then shows how many they were, and its gauge the last uptime.

* `recordings_run`, `value?_run`: what is recorded in a run on an instrument of the heartbeat, and
  what the instrument comes to by that.
* `replay_beats`, `replay_uptimes`: what heartbeats and uptimes come to.
* `heartbeats_count_ticks`: all ticks of a run, all that they record, and what the bridges count.
-/

namespace Telemetry

namespace Runner

namespace Tick

variable {t : Tick}

/-- The recordings that a tick makes on an instrument of a bridge. -/
def recordings (t : Tick) (g : Generation) (instrument : Instrument) : List Recording :=
  t.found.elim [] fun k =>
    (Heartbeat.recordings t.uptime (t.before.heartbeat.bind k t.before.system.host).1).filterMap
      (Effect.recording? g instrument)

/-- A tick that finds no bridge changes nothing but the heartbeat. -/
theorem system_after_of_none (found : t.found = none) : t.after.system = t.before.system := by
  rw [after, Attended.tick_of_none found]

/-- What a tick does that finds a bridge. -/
theorem after_of_found (sound : t.before.IsSound) {g : Generation} (found : t.found = some g) :
    t.before.system.host.Reaches
      (t.before.heartbeat.bindingEffects g t.before.system.host ++
        [.recorded g Heartbeat.beats ∅ (.whole 1) (t.isLive g),
          .recorded g Heartbeat.uptimeSeconds ∅ (.seconds t.uptime) (t.isLive g)])
      t.after.system.host ∧
    ∀ j, t.after.system.host.bridges[j]? =
      if j = g ∧ t.isLive g = true then
        t.before.system.host.bridges[j]?.map (Heartbeat.counted t.uptime)
      else t.before.system.host.bridges[j]? := by
  let due := { t.before.heartbeat with uptime := t.uptime }
  obtain ⟨bridge, there⟩ := sound.exists_bridge found
  have mine := (due.bind_spec g t.before.system.host).1
  obtain ⟨-, reached, bridges⟩ := Heartbeat.tick_spec (b := due) there
  rw [Heartbeat.recordings, mine] at reached
  rw [after, Attended.tick_of_found found]
  exact ⟨reached, bridges⟩

/-- A tick makes one recording on each of its two instruments of the bridge that it finds. -/
theorem recordings_eq (t : Tick) (g : Generation) :
    t.recordings g Heartbeat.beats =
        (if t.finds g = true then [⟨∅, .whole 1, t.isLive g⟩] else []) ∧
      t.recordings g Heartbeat.uptimeSeconds =
        (if t.finds g = true then [⟨∅, .seconds t.uptime, t.isLive g⟩] else []) := by
  cases found : t.found with
  | none => simp [recordings, finds, found]
  | some k =>
    have mine := (t.before.heartbeat.bind_spec k t.before.system.host).1
    obtain ⟨beat, uptime⟩ := Heartbeat.filterMap_recording?_recordings t.uptime
      (t.before.heartbeat.bind k t.before.system.host).1 g
    rw [mine] at beat uptime
    rw [recordings, recordings, finds, found, Option.elim_some, Option.elim_some, beat, uptime]
    by_cases here : k = g
    · subst here
      simp [isLive]
    · simp [here]

/-- The recordings that some ticks make on their two instruments of a bridge. -/
theorem flatMap_recordings (ticks : List Tick) (g : Generation) :
    ticks.flatMap (·.recordings g Heartbeat.beats) =
        (ticks.filter (·.finds g)).map (fun t => ⟨∅, .whole 1, t.isLive g⟩) ∧
      ticks.flatMap (·.recordings g Heartbeat.uptimeSeconds) =
        (ticks.filter (·.finds g)).map (fun t => ⟨∅, .seconds t.uptime, t.isLive g⟩) := by
  induction ticks with
  | nil => exact ⟨rfl, rfl⟩
  | cons t rest ih =>
    obtain ⟨beats, uptimes⟩ := ih
    obtain ⟨beat, uptime⟩ := t.recordings_eq g
    rw [List.flatMap_cons, List.flatMap_cons, beats, uptimes, beat, uptime, List.filter_cons]
    split <;> exact ⟨rfl, rfl⟩

/-- The recordings of a tick are those of the journal. -/
theorem recordings_after (sound : t.before.IsSound) (g : Generation) (instrument : Instrument) :
    t.after.system.host.recordings g instrument =
      t.before.system.host.recordings g instrument ++ t.recordings g instrument := by
  cases found : t.found with
  | none => rw [system_after_of_none found, recordings, found, Option.elim_none, List.append_nil]
  | some k =>
    let due := { t.before.heartbeat with uptime := t.uptime }
    obtain ⟨bridge, there⟩ := sound.exists_bridge found
    obtain ⟨-, reached, -⟩ := Heartbeat.tick_spec (b := due) there
    have added := reached.recordings g instrument
    rw [List.filterMap_append,
      (due.isUnrecorded_bindingEffects k t.before.system.host).filterMap_recording?,
      List.nil_append] at added
    rw [after, Attended.tick_of_found found, recordings, found]
    exact added

/-- What a tick records on an instrument follows on what this has come to. -/
theorem value?_after (sound : t.before.IsSound) (g : Generation) (instrument : Instrument)
    (attributes : Attributes) :
    t.after.system.host.value? g instrument attributes =
      (t.before.system.host.value? g instrument attributes).map fun value =>
        instrument.kind.replay attributes value (t.recordings g instrument) := by
  cases found : t.found with
  | none =>
    rw [system_after_of_none found, recordings, found]
    exact Option.map_id'.symm
  | some k =>
    let due := { t.before.heartbeat with uptime := t.uptime }
    obtain ⟨bridge, there⟩ := sound.exists_bridge found
    rw [after, Attended.tick_of_found found, recordings, found]
    exact Heartbeat.value?_tick (b := due) there g instrument attributes

end Tick

/-! ## Runs -/

namespace Attended

variable {a : Attended} {g : Generation} {instrument : Instrument}

theorem ticks_append (a : Attended) (xs ys : List Turn) :
    a.ticks (xs ++ ys) = a.ticks xs ++ (a.run xs).ticks ys := by
  induction xs generalizing a with
  | nil => rfl
  | cons turn rest ih =>
    cases turn with
    | operation op => exact ih (a.step (.operation op))
    | tick uptime => exact congrArg (_ :: ·) (ih (a.tick uptime))

theorem run_append (a : Attended) (xs ys : List Turn) :
    a.run (xs ++ ys) = (a.run xs).run ys := List.foldl_append

theorem leavesAlone_of_spares {op : Operation} (spares : Turn.SparesHeartbeat (.operation op))
    (own : instrument.meter = Heartbeat.meter) : op.LeavesAlone instrument := by
  cases op with
  | record k other attributes reading =>
    refine Instrument.isSame_eq_false_of_meter_ne ?_
    rw [own]
    exact spares
  | _ => trivial

/-- What is recorded in a run on an instrument of the heartbeat is what its ticks record. -/
theorem recordings_run (sound : a.IsSound) {turns : List Turn}
    (spares : ∀ turn ∈ turns, turn.SparesHeartbeat) (own : instrument.meter = Heartbeat.meter)
    (g : Generation) :
    (a.run turns).system.host.recordings g instrument =
      a.system.host.recordings g instrument ++
        (a.ticks turns).flatMap (·.recordings g instrument) := by
  induction turns generalizing a with
  | nil => exact (List.append_nil _).symm
  | cons turn rest ih =>
    obtain ⟨first, later⟩ := List.forall_mem_cons.mp spares
    refine (ih (isSound_step sound turn) later).trans ?_
    cases turn with
    | operation op =>
      have kept := System.recordings_step sound.system.backed (leavesAlone_of_spares first own) g
      rw [show (a.step (.operation op)).system = (a.system.step op).2 from rfl, kept]
      rfl
    | tick uptime =>
      have added := Tick.recordings_after (t := ⟨a, uptime⟩) sound g instrument
      rw [show a.step (.tick uptime) = Tick.after ⟨a, uptime⟩ from rfl, added, ticks,
        List.flatMap_cons, List.append_assoc]
      rfl

/-- What is recorded on a bridge from the beginning of the journal is one heartbeat and one uptime for
each tick that found it. -/
theorem recordings_of_new (sound : a.IsSound) (empty : a.system.host.past = []) {turns : List Turn}
    (spares : ∀ turn ∈ turns, turn.SparesHeartbeat) (g : Generation) :
    (a.run turns).system.host.recordings g Heartbeat.beats =
        ((a.ticks turns).filter (·.finds g)).map (fun t => ⟨∅, .whole 1, t.isLive g⟩) ∧
      (a.run turns).system.host.recordings g Heartbeat.uptimeSeconds =
        ((a.ticks turns).filter (·.finds g)).map
          (fun t => ⟨∅, .seconds t.uptime, t.isLive g⟩) := by
  have fresh (instrument : Instrument) : a.system.host.recordings g instrument = [] := by
    rw [Host.recordings, Host.journal, empty]
    rfl
  have recorded {instrument : Instrument} (own : instrument.meter = Heartbeat.meter) :
      (a.run turns).system.host.recordings g instrument =
        (a.ticks turns).flatMap (·.recordings g instrument) := by
    rw [recordings_run sound spares own g, fresh, List.nil_append]
  obtain ⟨beats, uptimes⟩ := Tick.flatMap_recordings (a.ticks turns) g
  exact ⟨(recorded rfl).trans beats, (recorded rfl).trans uptimes⟩

theorem generation_step (sound : a.IsSound) (turn : Turn) :
    a.system.host.generation ≤ (a.step turn).system.host.generation := by
  cases turn with
  | operation op => exact generation_operation sound op
  | tick uptime =>
    cases found : a.system.manager.bridge with
    | none =>
      have same : (a.step (.tick uptime)).system = a.system := by rw [step, tick_of_none found]
      exact Nat.le_of_eq (congrArg (·.host.generation) same.symm)
    | some k =>
      have reached := (Tick.after_of_found (t := ⟨a, uptime⟩) sound found).1
      exact Nat.le_of_eq reached.generation.symm

theorem generation_run (sound : a.IsSound) (turns : List Turn) :
    a.system.host.generation ≤ (a.run turns).system.host.generation := by
  induction turns generalizing a with
  | nil => exact Nat.le_refl _
  | cons turn rest ih =>
    exact Nat.le_trans (generation_step sound turn) (ih (isSound_step sound turn))

/-- What an instrument of the heartbeat has come to after a run is the replay of what the ticks have
recorded. -/
theorem value?_run (sound : a.IsSound) (old : g ≤ a.system.host.generation) {turns : List Turn}
    (spares : ∀ turn ∈ turns, turn.SparesHeartbeat) (instrument : Instrument)
    (own : instrument.meter = Heartbeat.meter) (attributes : Attributes) :
    (a.run turns).system.host.value? g instrument attributes =
      (a.system.host.value? g instrument attributes).map fun value =>
        instrument.kind.replay attributes value
          ((a.ticks turns).flatMap (·.recordings g instrument)) := by
  induction turns generalizing a with
  | nil => exact Option.map_id'.symm
  | cons turn rest ih =>
    obtain ⟨first, later⟩ := List.forall_mem_cons.mp spares
    have older := Nat.le_trans old (generation_step sound turn)
    refine (ih (isSound_step sound turn) older later).trans ?_
    cases turn with
    | operation op =>
      have kept := System.value?_step sound.system.backed old op instrument attributes
      rw [a.system.filterMap_recording?_effectsOf (leavesAlone_of_spares first own)] at kept
      rw [show (a.step (.operation op)).system = (a.system.step op).2 from rfl, kept,
        Option.map_map]
      rfl
    | tick uptime =>
      have added := Tick.value?_after (t := ⟨a, uptime⟩) sound g instrument attributes
      rw [show a.step (.tick uptime) = Tick.after ⟨a, uptime⟩ from rfl, added, ticks,
        List.flatMap_cons, Option.map_map]
      refine congrArg (Option.map · _) (funext fun value => ?_)
      exact (InstrumentKind.replay_append _ _ _ _ _).symm

/-- No tick finds a bridge before its start. -/
theorem finds_eq_false_of_mem_ticks (sound : a.IsSound) {turns : List Turn}
    (later : (a.run turns).system.host.generation < g) {t : Tick} (ht : t ∈ a.ticks turns) :
    t.finds g = false := by
  obtain ⟨past, future, split⟩ := List.append_of_mem ht
  obtain ⟨xs, ys, rfl, -, before⟩ := exists_of_ticks_eq split
  rw [Tick.finds, decide_eq_false_iff_not]
  intro found
  have here : (a.run xs).IsSound := isSound_run sound xs
  have numbered := here.numbered g (before ▸ found)
  have grown := generation_run here (.tick t.uptime :: ys)
  rw [← run_append] at grown
  exact Nat.lt_irrefl _ (Nat.lt_of_lt_of_le later (Nat.le_trans numbered grown))

/-- Among the ticks of a run those that find a bridge come after its start. -/
theorem filter_ticks_append (sound : a.IsSound) {xs : List Turn} (ys : List Turn)
    (later : (a.run xs).system.host.generation < g) {keep : Tick → Bool}
    (kept : ∀ t, keep t = true → t.finds g = true) :
    (a.ticks (xs ++ ys)).filter keep = ((a.run xs).ticks ys).filter keep := by
  have none_before : (a.ticks xs).filter keep = [] := by
    refine List.filter_eq_nil_iff.mpr fun t ht counted => ?_
    have found := kept t counted
    rw [finds_eq_false_of_mem_ticks sound later ht] at found
    cases found
  rw [ticks_append, List.filter_append, none_before, List.nil_append]

end Attended

/-! ## Counters and gauges -/

/-- The number that a counter shows. -/
def tally : Option Reading → Int
  | some (.whole n) => n
  | _ => 0

/-- What a counter shows that has counted some more. It goes around after 64 bits. -/
def countOn (value : Option Reading) (n : Nat) : Option Reading :=
  if n = 0 then value else some (.whole ((tally value + n) % Nat.pow 2 64))

theorem countOn_countOn_one (value : Option Reading) (n : Nat) :
    countOn (countOn value 1) n = countOn value (n + 1) := by
  cases n with
  | zero => rfl
  | succ n =>
    have sum : tally value + (n + 1 + 1 : Nat) = tally value + (1 : Nat) + (n + 1 : Nat) := by
      omega
    rw [countOn, if_neg n.succ_ne_zero, countOn, if_neg Nat.one_ne_zero, countOn,
      if_neg (n + 1).succ_ne_zero, tally, Int.emod_add_emod, sum]

/-- A counter shows how many heartbeats it has counted, which are those of live instruments. -/
theorem replay_beats {α : Type} (live : α → Bool) (value : Option Reading) (xs : List α) :
    InstrumentKind.counter.replay ∅ value (xs.map fun x => ⟨∅, .whole 1, live x⟩) =
      countOn value (xs.countP live) := by
  have one (value : Option Reading) :
      some (value.elim (.whole 1) (InstrumentKind.counter.combine · (.whole 1))) =
        countOn value 1 := by
    rcases value with _ | ⟨n⟩ | ⟨d⟩ <;> rfl
  induction xs generalizing value with
  | nil => rfl
  | cons x rest ih =>
    rw [List.map_cons, InstrumentKind.replay, List.foldl_cons, ← InstrumentKind.replay]
    cases counted : live x with
    | false => simpa [counted] using ih value
    | true => simp only [and_self, if_true, one, ih, countOn_countOn_one, List.countP_cons, counted]

/-- A gauge shows the last uptime that a live instrument has seen. -/
theorem replay_uptimes {α : Type} (live : α → Bool) (uptime : α → Duration)
    (value : Option Reading) (xs : List α) :
    InstrumentKind.secondsGauge.replay ∅ value
        (xs.map fun x => ⟨∅, .seconds (uptime x), live x⟩) =
      (((xs.filter live).getLast?.map fun x => .seconds (uptime x)).or value) := by
  have last (value : Option Reading) (d : Duration) :
      some (value.elim (.seconds d) (InstrumentKind.secondsGauge.combine · (.seconds d))) =
        some (.seconds d) := by
    cases value <;> rfl
  induction xs generalizing value with
  | nil => rfl
  | cons x rest ih =>
    rw [List.map_cons, InstrumentKind.replay, List.foldl_cons, ← InstrumentKind.replay]
    cases seen : live x with
    | false => simpa [seen] using ih value
    | true =>
      simp only [and_self, if_true, last, ih, List.filter_cons, seen, List.getLast?_cons]
      cases (rest.filter live).getLast? <;> rfl

/-- What recordings add to a counter together. -/
def total : List Recording → Int
  | [] => 0
  | r :: rest => tally (some r.reading) + total rest

/-- Heartbeats are added one by one. -/
theorem total_beats {α : Type} (live : α → Bool) (xs : List α) :
    total (xs.map fun x => ⟨∅, .whole 1, live x⟩) = xs.length := by
  induction xs with
  | nil => rfl
  | cons x rest ih =>
    rw [List.map_cons, total, ih, List.length_cons]
    exact Int.add_comm 1 rest.length

namespace Attended

variable {a : Attended} {g : Generation}

/-! ## The bridge of a start -/

/-- After a start its bridge is what the factory has returned. It is found by no tick before, and it
is settled if what was returned is. -/
theorem bridge_of_start (sound : a.IsSound) {factory : Factory} {config : Config} {version : String}
    {sink : Option SinkName} (effective : config.isEffective = true) :
    let started := a.step (.operation (.start factory config version sink))
    started.system.manager.bridge = some g →
      a.system.host.generation < g ∧
      ∃ b, factory.metrics config (a.system.host.resource config version) = .built b ∧
        started.system.host.bridges[g]? = some b ∧
        ∀ opened, b.closable.IsSettled opened → started.IsSettled g opened := by
  intro started bridge
  obtain ⟨b, built, found⟩ := System.exists_bridge_of_start sound.system effective bridge
  have later : a.system.host.generation < g := by
    rcases bridge_operation sound bridge with ⟨ends, -⟩ | ⟨-, rfl⟩
    · rw [show config.isEffective = false from ends] at effective
      cases effective
    · exact Nat.lt_succ_self _
  refine ⟨later, b, built, found, fun opened settled =>
    ⟨?_, fun _ => ?_, fun binding bound mine => ?_⟩⟩
  · exact (isSound_operation sound (.start factory config version sink)).numbered g bridge
  · exact Host.settles_of_found found settled
  · -- the instruments belong to an older bridge
    have old := sound.older binding bound
    rw [mine] at old
    exact absurd (Nat.lt_of_lt_of_le later old) (Nat.lt_irrefl _)

/-- After a run a bridge shows the heartbeats that it has counted, and the last uptime. -/
theorem exists_bridge_run (sound : a.IsSound) (old : g ≤ a.system.host.generation)
    {turns : List Turn} (spares : ∀ turn ∈ turns, turn.SparesHeartbeat) {b : Bridge}
    (found : a.system.host.bridges[g]? = some b) :
    ∃ b', (a.run turns).system.host.bridges[g]? = some b' ∧
      b'.reading? Heartbeat.beats ∅ =
        countOn (b.reading? Heartbeat.beats ∅) ((a.ticks turns).countP (·.counts g)) ∧
      b'.reading? Heartbeat.uptimeSeconds ∅ =
        (((a.ticks turns).filter (·.counts g)).getLast?.map (.seconds ·.uptime)).or
          (b.reading? Heartbeat.uptimeSeconds ∅) := by
  have live : ((a.ticks turns).filter (·.finds g)).filter (·.isLive g) =
      (a.ticks turns).filter (·.counts g) := by
    rw [List.filter_filter]
    exact congrArg (List.filter · _) (funext fun t => Bool.and_comm _ _)
  obtain ⟨beats, uptimes⟩ := Tick.flatMap_recordings (a.ticks turns) g
  have counted := value?_run sound old spares Heartbeat.beats rfl ∅
  have measured := value?_run sound old spares Heartbeat.uptimeSeconds rfl ∅
  rw [beats, Host.value?, Host.value?, found, Option.map_some, Option.map_some] at counted
  rw [uptimes, Host.value?, Host.value?, found, Option.map_some, Option.map_some] at measured
  obtain ⟨b', there, counts⟩ := Option.map_eq_some_iff.mp counted
  rw [there, Option.map_some, Option.some.injEq] at measured
  refine ⟨b', there, counts.trans ?_, measured.trans ?_⟩
  · refine (replay_beats (Tick.isLive · g) _ _).trans ?_
    rw [List.countP_eq_length_filter, live, ← List.countP_eq_length_filter]
  · refine (replay_uptimes (Tick.isLive · g) Tick.uptime _ _).trans ?_
    rw [live]

/-- The instruments that a tick uses on a settled bridge are live just if this is open. -/
theorem isLive_of_mem_ticks (sound : a.IsSound) {opened : Bool} (settled : a.IsSettled g opened)
    {turns : List Turn} (spares : ∀ turn ∈ turns, turn.SparesHeartbeat) {t : Tick}
    (ht : t ∈ a.ticks turns) (finds : t.finds g = true) : t.isLive g = opened := by
  obtain ⟨past, future, split⟩ := List.append_of_mem ht
  obtain ⟨xs, ys, rfl, -, before⟩ := exists_of_ticks_eq split
  have still := isSettled_run sound settled fun turn hx => spares turn (List.mem_append_left _ hx)
  rw [← before] at still
  exact live_bind still (of_decide_eq_true finds)

/-- An open bridge that is settled counts the ticks that find it, and one that is shut down counts
none. -/
theorem filter_counts_ticks (sound : a.IsSound) {opened : Bool} (settled : a.IsSettled g opened)
    {turns : List Turn} (spares : ∀ turn ∈ turns, turn.SparesHeartbeat) :
    (a.ticks turns).filter (·.counts g) =
      if opened then (a.ticks turns).filter (·.finds g) else [] := by
  have live : ∀ t ∈ a.ticks turns, t.counts g = (t.finds g && opened) := by
    intro t ht
    cases finds : t.finds g with
    | false => rw [Tick.counts, finds, Bool.false_and, Bool.false_and]
    | true =>
      rw [Tick.counts, finds, isLive_of_mem_ticks sound settled spares ht finds]
  rw [List.filter_congr live]
  cases opened <;> simp

/-! ## Accounting -/

/-- A tick that finds no bridge changes nothing. One that finds a bridge makes instruments unless
the tick before it has found the same one, and records one heartbeat and one uptime on this bridge,
and nothing on any other. Nothing else is recorded there in a run, so the heartbeats added on a
bridge are as many as the ticks that found it.

The bridge of a start counts those whose instruments are live, and shows the last uptime that they
have recorded. If the factory has returned it open and no worker was left behind that could shut it
down, these are all ticks that found it. If it was shut down before, none of them counts. -/
theorem heartbeats_count_ticks {s : System} (new : s.IsNew) (interval : Duration)
    {turns : List Turn} (spares : ∀ turn ∈ turns, turn.SparesHeartbeat) :
    let a := idle s interval
    let ticks := a.ticks turns
    let host := (a.run turns).system.host
    (∀ past t future, ticks = past ++ t :: future →
      (t.found = none → t.after.system = t.before.system) ∧
      ∀ g, t.found = some g →
        t.effects.filter Effect.isMilestone =
          (if past.getLast?.bind Tick.found = some g then []
            else [.emitted .heartbeat (Heartbeat.bindingEvent t.before.system.host.clock)]) ++
          [.recorded g Heartbeat.beats ∅ (.whole 1) (t.isLive g),
            .recorded g Heartbeat.uptimeSeconds ∅ (.seconds t.uptime) (t.isLive g)] ∧
        ∀ j, t.after.system.host.bridges[j]? =
          if j = g ∧ t.isLive g = true then
            t.before.system.host.bridges[j]?.map (Heartbeat.counted t.uptime)
          else t.before.system.host.bridges[j]?) ∧
    (∀ g,
      host.recordings g Heartbeat.beats =
        (ticks.filter (·.finds g)).map (fun t => ⟨∅, .whole 1, t.isLive g⟩) ∧
      host.recordings g Heartbeat.uptimeSeconds =
        (ticks.filter (·.finds g)).map (fun t => ⟨∅, .seconds t.uptime, t.isLive g⟩) ∧
      total (host.recordings g Heartbeat.beats) = ticks.countP (·.finds g)) ∧
    ∀ xs factory config version sink ys,
      turns = xs ++ .operation (.start factory config version sink) :: ys →
      config.isEffective = true →
      let before := a.run xs
      let started := before.step (.operation (.start factory config version sink))
      ∀ g, started.system.manager.bridge = some g →
        ∃ b b', factory.metrics config (before.system.host.resource config version) = .built b ∧
          host.bridges[g]? = some b' ∧
          b'.reading? Heartbeat.beats ∅ =
            countOn (b.reading? Heartbeat.beats ∅) (ticks.countP (·.counts g)) ∧
          b'.reading? Heartbeat.uptimeSeconds ∅ =
            ((ticks.filter (·.counts g)).getLast?.map (.seconds ·.uptime)).or
              (b.reading? Heartbeat.uptimeSeconds ∅) ∧
          (b.closable.IsIdle → ticks.countP (·.counts g) = ticks.countP (·.finds g)) ∧
          (b.isShutdown = true → ticks.countP (·.counts g) = 0) := by
  intro a ticks host
  have sound : a.IsSound := isSound_idle new interval
  refine ⟨fun past t future split => ?_, fun g => ?_, ?_⟩
  · obtain ⟨xs, ys, rfl, rfl, before⟩ := exists_of_ticks_eq split
    have sound_here : t.before.IsSound := by
      rw [before]
      exact isSound_run sound xs
    refine ⟨Tick.system_after_of_none, fun g found => ?_⟩
    obtain ⟨reached, bridges⟩ := Tick.after_of_found sound_here found
    refine ⟨?_, bridges⟩
    -- the instruments are those of the tick before, if there was one
    have bound : t.before.heartbeat.bound.map Binding.bridge =
        (a.ticks xs).getLast?.bind Tick.found := by
      rw [before, bound_run sound xs]
      cases (a.ticks xs).getLast? <;> rfl
    rw [Tick.effects, reached.filter_drop_journal, Heartbeat.bindingEffects, bound]
  · obtain ⟨beats, uptimes⟩ := recordings_of_new sound new.past spares g
    refine ⟨beats, uptimes, ?_⟩
    rw [beats, total_beats, List.countP_eq_length_filter]
  · rintro xs factory config version sink ys rfl effective before started g bridge
    have sound_before : before.IsSound := isSound_run sound xs
    have sound_started : started.IsSound :=
      isSound_operation sound_before (.start factory config version sink)
    obtain ⟨later, b, built, found, settles⟩ := bridge_of_start sound_before effective bridge
    have spares_ys : ∀ turn ∈ ys, turn.SparesHeartbeat := fun turn hy =>
      spares turn (List.mem_append_right _ (List.mem_cons_of_mem _ hy))
    obtain ⟨b', there, counts, shows⟩ := exists_bridge_run sound_started
      (sound_started.numbered g bridge) spares_ys found
    have counting : ticks.filter (·.counts g) = (started.ticks ys).filter (·.counts g) :=
      filter_ticks_append sound _ later fun t counted => (Bool.and_eq_true_iff.mp counted).1
    have finding : ticks.filter (·.finds g) = (started.ticks ys).filter (·.finds g) :=
      filter_ticks_append sound _ later fun t found => found
    simp only [List.countP_eq_length_filter, counting, finding]
    rw [List.countP_eq_length_filter] at counts
    refine ⟨b, b', built, ?_, counts, shows, fun idle => ?_, fun shut => ?_⟩
    · have ended : host = (started.run ys).system.host :=
        congrArg (·.system.host) (run_append a xs _)
      rw [ended, there]
    · exact congrArg List.length
        (filter_counts_ticks sound_started (settles true idle) spares_ys)
    · exact congrArg List.length
        (filter_counts_ticks sound_started (settles false shut) spares_ys)

/-- A heartbeat beside a manager whose second pipeline has no bridge, whose third one is shut down,
and whose fourth one has a bridge that was shut down before. The ticks before the first start, while
the bridge is missing and after the shutdown count for nothing, and those of the last pipeline are
not counted. -/
theorem heartbeats_count_ticks_of_restarts :
    let s := System.fresh "own" ⟨"linux", "x86_64", 1, none⟩ [{ sink := "own" }]
    let exporter := Emitter.ofProvider { processor := some {} }
    let factory (metrics : Build Bridge) : Factory := .constant (.built exporter) metrics
    let start (metrics : Build Bridge) : Turn :=
      .operation (.start (factory metrics) .toLocalhost "" none)
    let turns : List Turn := [.tick .zero, start (.built {}), .tick (.ofSecs 1), .tick (.ofSecs 2),
      start (.failed .missingEndpoint), .tick (.ofSecs 3), start (.built {}), .tick (.ofSecs 4),
      .operation (.shutdown (.expired .zero)), .tick (.ofSecs 5),
      start (.built { isShutdown := true }), .tick (.ofSecs 6)]
    let host := ((idle s (.ofSecs 1)).run turns).system.host
    s.IsNew ∧ total (host.recordings 1 Heartbeat.beats) = 2 ∧
      total (host.recordings 2 Heartbeat.beats) = 0 ∧
      total (host.recordings 3 Heartbeat.beats) = 1 ∧
      total (host.recordings 4 Heartbeat.beats) = 1 ∧
      (∃ b, host.bridges[1]? = some b ∧ b.reading? Heartbeat.beats ∅ = some (.whole 2) ∧
        b.reading? Heartbeat.uptimeSeconds ∅ = some (.seconds (.ofSecs 2))) ∧
      ∃ b, host.bridges[4]? = some b ∧ b.reading? Heartbeat.beats ∅ = none := by
  intro s exporter factory start turns host
  have new : s.IsNew := System.isNew_fresh _ _ _
  have spares : ∀ turn ∈ turns, turn.SparesHeartbeat := by simp [turns, start, Turn.SparesHeartbeat]
  obtain ⟨-, totals, starts⟩ := heartbeats_count_ticks new (.ofSecs 1) spares
  obtain ⟨b, first, built, found, counts, shows, idle, -⟩ := starts [.tick .zero]
    (factory (.built {})) .toLocalhost "" none (turns.drop 2) rfl (by decide +kernel) 1
    (by decide +kernel)
  obtain ⟨b', last, built', found', counts', -, -, shut⟩ := starts (turns.take 10)
    (factory (.built { isShutdown := true })) .toLocalhost "" none (turns.drop 11) rfl
    (by decide +kernel) 4 (by decide +kernel)
  obtain rfl := Build.built.inj built
  obtain rfl := Build.built.inj built'
  refine ⟨new, (totals 1).2.2.trans ?_, (totals 2).2.2.trans ?_, (totals 3).2.2.trans ?_,
    (totals 4).2.2.trans ?_, ⟨first, found, ?_, ?_⟩, last, found', ?_⟩
  · decide +kernel
  · decide +kernel
  · decide +kernel
  · decide +kernel
  · rw [counts, idle ⟨rfl, rfl⟩]
    decide +kernel
  · rw [shows]
    decide +kernel
  · rw [counts', shut rfl]
    rfl

end Attended

end Runner

end Telemetry
