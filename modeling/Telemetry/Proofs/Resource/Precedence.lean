import Telemetry.Proofs.HeaderList.Pieces
import Telemetry.Runner.Program

/-!
# What a resource says

A resource is built on top of given attributes, and nine keys are its own: three of the service,
five of the platform and the host name. The service name is always that of the configuration. A
version that is passed in comes before the configured one and this before a given one, as the
configured environment comes before a given one; an empty text is passed over. All other keys keep
what is given. A host that is not known leaves the host name as it is given, is warned of, and has
no other consequence.

The host name is that of the first source that is not blank; the variables of the environment come
before the names that the machine has.

* `getElem?_build`: the value of a key, by who gives it.
* `eq_build_iff`: the attributes of a resource determine it.
* `hostName?_eq_some_iff`, `hostName?_eq_none_iff`: the first source that is not blank.
* `resource_by_precedence`: all this for the resource of a process.
-/

namespace Telemetry

namespace Resource

open HeaderList (IsBlank)

/-- The keys that a resource sets, or may set. -/
def ownKeys : List String :=
  ["service.name", "service.version", "deployment.environment.name", "os.type", "host.arch",
    "process.pid", "process.runtime.name", "process.executable.name", "host.name"]

/-- What a resource has at its keys, over given attributes. -/
structure Describes (r base : Resource) (platform : Platform) (c : Config) (version : String)
    (host : Option String) : Prop where
  service : r["service.name"]? = some (.str c.serviceName)
  version : r["service.version"]? =
    if version ≠ "" then some (.str version)
    else if c.serviceVersion ≠ "" then some (.str c.serviceVersion)
    else base["service.version"]?
  environment : r["deployment.environment.name"]? =
    if c.environment ≠ "" then some (.str c.environment)
    else base["deployment.environment.name"]?
  os : r["os.type"]? = some (.str platform.os)
  arch : r["host.arch"]? = some (.str platform.arch)
  pid : r["process.pid"]? = some (.int platform.pid)
  runtime : r["process.runtime.name"]? = some (.str "rust")
  executable : r["process.executable.name"]? =
    (platform.executable.map .str).or base["process.executable.name"]?
  host : r["host.name"]? = (host.map .str).or base["host.name"]?
  others : ∀ key, key ∉ ownKeys → r[key]? = base[key]?

/-- The name is the trimmed text of the first source that is not blank. -/
def Names (sources : List (Option String)) (name : String) : Prop :=
  ∃ before text behind, sources = before ++ some text :: behind ∧
    (∀ source ∈ before, ∀ earlier ∈ source, IsBlank earlier) ∧ ¬ IsBlank text ∧
    name = Text.trim text

variable {base r r' : Resource} {platform : Platform} {c : Config} {version key : String}
  {host : Option String}

/-! ## The value of a key -/

theorem getElem?_withTexts (r : Resource) (attributes : List (String × String)) (key : String) :
    (r.withTexts attributes)[key]? =
      ((TextMap.lastValue? key attributes).map Value.str).or r[key]? := by
  induction attributes generalizing r with
  | nil => simp [withTexts, TextMap.lastValue?]
  | cons a rest ih =>
    have step : r.withTexts (a :: rest) = withTexts (r.insert a.1 (.str a.2)) rest := rfl
    rw [step, ih, TextMap.lastValue?_cons, Std.ExtTreeMap.getElem?_insert]
    by_cases h : a.1 = key <;> cases TextMap.lastValue? key rest <;> simp [h]

theorem lastValue?_unlessEmpty (key name text : String) :
    TextMap.lastValue? key (unlessEmpty name text) =
      if name = key ∧ text ≠ "" then some text else none := by
  by_cases empty : text = "" <;> by_cases same : name = key <;>
    simp [unlessEmpty, TextMap.lastValue?, empty, same]

theorem lastValue?_toList (key name : String) (text : Option String) :
    TextMap.lastValue? key (text.map fun text => (name, text)).toList =
      if name = key then text else none := by
  by_cases same : name = key <;> cases text <;> simp [TextMap.lastValue?, same]

/-- The attributes with texts that a resource has whatever its host. -/
def ownTexts (platform : Platform) (c : Config) (version : String) : List (String × String) :=
  serviceAttributes c version ++ platformAttributes platform

/-- The text that a resource gives to a key: that of the platform, or that of the service. -/
theorem lastValue?_ownTexts (platform : Platform) (c : Config) (version key : String) :
    TextMap.lastValue? key (ownTexts platform c version) =
      ((if "process.executable.name" = key then platform.executable else none).or
        (TextMap.lastValue? key [("os.type", platform.os), ("host.arch", platform.arch),
          ("process.runtime.name", "rust")])).or
      ((if "deployment.environment.name" = key ∧ c.environment ≠ "" then some c.environment
          else none).or
        ((if "service.version" = key ∧ versionOf c version ≠ "" then some (versionOf c version)
            else none).or (TextMap.lastValue? key [("service.name", c.serviceName)]))) := by
  simp only [ownTexts, serviceAttributes, platformAttributes, TextMap.lastValue?_append,
    lastValue?_unlessEmpty, lastValue?_toList]

theorem getElem?_build_none (base : Resource) (platform : Platform) (c : Config)
    (version key : String) :
    (build base platform c version none)[key]? =
      (if "process.pid" = key then some (.int platform.pid) else none).or
        (((TextMap.lastValue? key (ownTexts platform c version)).map Value.str).or base[key]?) := by
  have texts : (base.withTexts (serviceAttributes c version)).withTexts
      (platformAttributes platform) = base.withTexts (ownTexts platform c version) := by
    simp [withTexts, ownTexts, List.foldl_append]
  simp only [build, Option.elim_none, texts, Std.ExtTreeMap.getElem?_insert, getElem?_withTexts]
  by_cases same : "process.pid" = key <;> simp [same]

/-- What is given counts for a key that neither the host nor the process has a value for. -/
theorem getElem?_build (base : Resource) (platform : Platform) (c : Config) (version : String)
    (host : Option String) (key : String) :
    (build base platform c version host)[key]? =
      (if "host.name" = key then host.map Value.str else none).or
        ((if "process.pid" = key then some (.int platform.pid) else none).or
          (((TextMap.lastValue? key (ownTexts platform c version)).map Value.str).or
            base[key]?)) := by
  rw [← getElem?_build_none]
  cases host with
  | none => simp
  | some name =>
    rw [build_eq_insert_host, Std.ExtTreeMap.getElem?_insert, hostKey]
    by_cases same : "host.name" = key <;> simp [same]

theorem describes_build (base : Resource) (platform : Platform) (c : Config) (version : String)
    (host : Option String) :
    Describes (build base platform c version host) base platform c version host := by
  constructor
  case others =>
    intro key foreign
    simp only [ownKeys, List.mem_cons, List.not_mem_nil, or_false, not_or] at foreign
    rw [getElem?_build, lastValue?_ownTexts]
    simp [TextMap.lastValue?, eq_comm (b := key), foreign]
  all_goals rw [getElem?_build, lastValue?_ownTexts]
  case version =>
    by_cases passed : version = "" <;> by_cases configured : c.serviceVersion = "" <;>
      simp [TextMap.lastValue?, versionOf, passed, configured]
  case environment =>
    by_cases configured : c.environment = "" <;> simp [TextMap.lastValue?, configured]
  all_goals simp [TextMap.lastValue?]

/-- Two resources that say the same at their keys, over what is given, are equal. -/
theorem Describes.unique (describes : Describes r base platform c version host)
    (describes' : Describes r' base platform c version host) : r = r' := by
  refine Std.ExtTreeMap.ext_getElem? fun key => ?_
  -- No other key than the own ones can differ, and each of these has a field that fixes its value.
  by_cases own : key ∈ ownKeys
  · simp only [ownKeys, List.mem_cons, List.not_mem_nil, or_false] at own
    rcases own with rfl | rfl | rfl | rfl | rfl | rfl | rfl | rfl | rfl
    · rw [describes.service, describes'.service]
    · rw [describes.version, describes'.version]
    · rw [describes.environment, describes'.environment]
    · rw [describes.os, describes'.os]
    · rw [describes.arch, describes'.arch]
    · rw [describes.pid, describes'.pid]
    · rw [describes.runtime, describes'.runtime]
    · rw [describes.executable, describes'.executable]
    · rw [describes.host, describes'.host]
  · rw [describes.others key own, describes'.others key own]

theorem eq_build_iff :
    r = build base platform c version host ↔ Describes r base platform c version host :=
  ⟨fun same => same ▸ describes_build base platform c version host,
    fun describes => describes.unique (describes_build base platform c version host)⟩

/-- Without a host the resource says the same but for the host name. -/
theorem getElem?_build_of_ne (name : String) (other : key ≠ "host.name") :
    (build base platform c version none)[key]? =
      (build base platform c version (some name))[key]? := by
  rw [getElem?_build, getElem?_build, if_neg other.symm, if_neg other.symm]

/-! ## The host name -/

variable {sources : List (Option String)} {name : String}

theorem isEmpty_trim_iff {text : String} : (Text.trim text).isEmpty = true ↔ IsBlank text := by
  rw [← HeaderList.isEmpty_trimChars_iff]
  simp [Text.trim]

/-- What a source says of the host. -/
theorem filter_trim_eq_some_iff {source : Option String} :
    (source.map Text.trim).filter (!·.isEmpty) = some name ↔
      ∃ text, source = some text ∧ ¬ IsBlank text ∧ name = Text.trim text := by
  simp only [Option.filter_eq_some_iff, Option.map_eq_some_iff, Bool.not_eq_true',
    ← isEmpty_trim_iff, Bool.not_eq_true]
  constructor
  · rintro ⟨⟨text, rfl, rfl⟩, told⟩
    exact ⟨text, rfl, told, rfl⟩
  · rintro ⟨text, rfl, told, rfl⟩
    exact ⟨⟨text, rfl, rfl⟩, told⟩

theorem filter_trim_eq_none_iff {source : Option String} :
    (source.map Text.trim).filter (!·.isEmpty) = none ↔ ∀ text ∈ source, IsBlank text := by
  simp [Option.filter_eq_none_iff, ← isEmpty_trim_iff]

theorem hostName?_eq_some_iff : hostName? sources = some name ↔ Names sources name := by
  simp only [hostName?, List.findSome?_eq_some_iff, filter_trim_eq_some_iff,
    filter_trim_eq_none_iff, Names]
  constructor
  · rintro ⟨before, _, behind, cut, ⟨text, rfl, told, trimmed⟩, blank⟩
    exact ⟨before, text, behind, cut, blank, told, trimmed⟩
  · rintro ⟨before, text, behind, cut, blank, told, trimmed⟩
    exact ⟨before, some text, behind, cut, ⟨text, rfl, told, trimmed⟩, blank⟩

theorem hostName?_eq_none_iff :
    hostName? sources = none ↔ ∀ source ∈ sources, ∀ text ∈ source, IsBlank text := by
  simp only [hostName?, List.findSome?_eq_none_iff, filter_trim_eq_none_iff]

/-- A resource says what its own keys have, by who has a value for them first, and keeps what is
given for all other keys, each of which it has once. A host that is not known changes nothing but
the host name and is warned of. In a program the host is named by the first text that is not blank
among two variables of the environment and the names that the machine has. -/
theorem resource_by_precedence (base : Resource) (platform : Platform) (c : Config)
    (version : String) :
    (∀ host r, r = build base platform c version host ↔
      Describes r base platform c version host) ∧
    (∀ host, ((build base platform c version host).toList.map Prod.fst).Nodup) ∧
    (∀ name key : String, key ≠ "host.name" →
      (build base platform c version none)[key]? =
        (build base platform c version (some name))[key]?) ∧
    (∀ clock, (∀ name, warnings clock (some name) = []) ∧
      warnings clock none = [.report clock .warn "otel_bridge::resource"
        "host name not detectable; omitting host.name"]) ∧
    ∀ (s : Runner.Surroundings) (filter : Runner.Filter),
      let h := Runner.Program.hostOf s filter
      let sources := TextMap.lastValue? "HOSTNAME" s.env ::
        TextMap.lastValue? "COMPUTERNAME" s.env :: s.machineNames
      h.resource c version = build s.baseResource s.platform c version
        (hostName? h.hostNames) ∧
      (∀ name, hostName? h.hostNames = some name ↔ Names sources name) ∧
      (hostName? h.hostNames = none ↔ ∀ source ∈ sources, ∀ text ∈ source, IsBlank text) := by
  refine ⟨fun host r => eq_build_iff, fun host => ?_, fun name key other =>
    getElem?_build_of_ne name other, fun clock => ⟨fun _ => rfl, rfl⟩, fun s filter => ?_⟩
  · rw [Std.ExtTreeMap.map_fst_toList_eq_keys]
    exact Std.ExtTreeMap.nodup_keys
  · exact ⟨rfl, fun name => hostName?_eq_some_iff, hostName?_eq_none_iff⟩

/-- A process without a service name, whose version and zone are given, in an environment with a
blank host name. -/
theorem resource_by_precedence_of_blank :
    let base : Resource := (∅ : Resource).withTexts
      [("service.name", "base"), ("service.version", "0.1"), ("zone", "eu")]
    let s : Runner.Surroundings :=
      { env := [("HOSTNAME", " \t"), ("COMPUTERNAME", " box-7\n")], baseResource := base,
        platform := ⟨"linux", "x86_64", 1, none⟩, machineNames := [some "machine"] }
    let c : Config := { serviceName := "", environment := "staging" }
    let r := (Runner.Program.hostOf s ⟨[]⟩).resource c ""
    r["service.name"]? = some (.str "") ∧ r["service.version"]? = some (.str "0.1") ∧
      r["deployment.environment.name"]? = some (.str "staging") ∧
      r["host.name"]? = some (.str "box-7") ∧ r["zone"]? = some (.str "eu") ∧
      (build base s.platform c "" none)["zone"]? = some (.str "eu") := by
  intro base s c r
  obtain ⟨described, -, unhosted, -, program⟩ := resource_by_precedence base s.platform c ""
  obtain ⟨built, named, -⟩ := program s ⟨[]⟩
  have host : hostName? (Runner.Program.hostOf s ⟨[]⟩).hostNames = some "box-7" :=
    (named "box-7").mpr ⟨[some " \t"], " box-7\n", [some "machine"], by decide +kernel,
      by simpa using (by decide +kernel : IsBlank " \t"), by decide +kernel, by decide +kernel⟩
  rw [host] at built
  have describes := (described (some "box-7") r).mp built
  have given : base["service.version"]? = some (.str "0.1") ∧ base["zone"]? = some (.str "eu") := by
    decide +kernel
  have zone := (describes.others "zone" (by decide)).trans given.2
  refine ⟨describes.service, describes.version.trans given.1, describes.environment,
    describes.host, zone, ?_⟩
  rw [unhosted "box-7" "zone" (by decide), ← built]
  exact zone

end Resource

end Telemetry
