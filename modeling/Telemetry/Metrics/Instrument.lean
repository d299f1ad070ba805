import Telemetry.Duration
import Telemetry.Text.LowerCase
import Telemetry.TextMap

/-!
# Instruments and their points

An instrument is identified by its meter, its name, its description, its unit and its kind, where
the case of the letters A to Z in the name makes no difference. A name starts with such a letter,
goes on in letters, digits and `_ . - /`, and has at most 255 characters.

What is recorded on an instrument is kept per set of attributes: the sums of the kinds that add, the
last reading of the gauges. Sums are words of 64 bits and wrap around.

Main statements:

* `getPoint?_record`: a reading changes one point.
* `isSame_of_eqIgnoreCase`: two spellings of a name are one instrument.
-/

namespace Telemetry

/-- The kinds of instruments. -/
inductive InstrumentKind
  | counter
  | upDownCounter
  | gauge
  | secondsGauge
  deriving DecidableEq, Repr

/-- The name of the data that an instrument of a kind yields. -/
def InstrumentKind.dataName : InstrumentKind → String
  | counter => "u64_sum"
  | upDownCounter => "i64_sum"
  | gauge => "i64_gauge"
  | secondsGauge => "f64_gauge"

/-- An instrument of a meter. -/
structure Instrument where
  meter : String
  name : String
  description : String := ""
  unit : String := ""
  kind : InstrumentKind
  deriving DecidableEq, Repr

namespace Instrument

/-- The name of an instrument has at most this many characters. -/
def nameLimit : Nat := 255

/-- The characters that may follow the first one in the name of an instrument. -/
def isNameChar (c : Char) : Bool :=
  c.isAlphanum || c ∈ ['_', '.', '-', '/']

def isName (name : String) : Bool :=
  match name.toList with
  | [] => false
  | c :: rest => c.isAlpha && rest.all isNameChar && rest.length < nameLimit

/-- Whether the name of an instrument is one that it may have. -/
def isValid (i : Instrument) : Bool := isName i.name

/-- The instrument with its name in lower case. -/
def key (i : Instrument) : Instrument :=
  { i with name := Text.toLowerAscii i.name }

/-- Whether two instruments record on the same series. -/
def isSame (i j : Instrument) : Bool := i.key = j.key

theorem isSame_iff {i j : Instrument} : i.isSame j = true ↔ i.key = j.key := decide_eq_true_iff

theorem kind_eq_of_isSame {i j : Instrument} (same : i.isSame j = true) : i.kind = j.kind :=
  (congrArg kind (isSame_iff.mp same) :)

theorem isSame_of_eqIgnoreCase (i : Instrument) {name : String}
    (h : Text.eqIgnoreCaseAscii name i.name) : isSame { i with name := name } i = true := by
  have lowered : Text.toLowerAscii name = Text.toLowerAscii i.name := eq_of_beq h
  simp [isSame, key, lowered]

end Instrument

/-- A value that an instrument yields. -/
inductive Reading
  | whole (n : Int)
  | seconds (d : Duration)
  deriving DecidableEq, Repr

/-- The attributes of a point. -/
abbrev Attributes := TextMap

/-- What was recorded on one instrument. -/
structure Series where
  instrument : Instrument
  points : List (Attributes × Reading)

namespace InstrumentKind

/-- The reading after another one was recorded on top of it. -/
def combine (kind : InstrumentKind) (old new : Reading) : Reading :=
  match kind, old, new with
  | counter, .whole m, .whole n => .whole ((m + n) % Nat.pow 2 64)
  | upDownCounter, .whole m, .whole n => .whole (Int.bmod (m + n) (Nat.pow 2 64))
  | _, _, _ => new

end InstrumentKind

namespace Series

/-- The reading under a set of attributes. -/
def getPoint? (s : Series) (attributes : Attributes) : Option Reading :=
  (s.points.find? fun point => point.1 = attributes).map Prod.snd

/-- Points with a reading recorded under a set of attributes. -/
def recordPoint (kind : InstrumentKind) (attributes : Attributes) (reading : Reading) :
    List (Attributes × Reading) → List (Attributes × Reading)
  | [] => [(attributes, reading)]
  | point :: rest =>
    if point.1 = attributes then (attributes, kind.combine point.2 reading) :: rest
    else point :: recordPoint kind attributes reading rest

/-- Records a reading under a set of attributes. -/
def record (s : Series) (attributes : Attributes) (reading : Reading) : Series :=
  { s with points := recordPoint s.instrument.kind attributes reading s.points }

theorem find?_recordPoint (kind : InstrumentKind) (a b : Attributes) (reading : Reading)
    (points : List (Attributes × Reading)) :
    ((recordPoint kind a reading points).find? fun point => point.1 = b).map Prod.snd =
      if b = a then
        some (((points.find? fun point => point.1 = a).map Prod.snd).elim reading
          (kind.combine · reading))
      else (points.find? fun point => point.1 = b).map Prod.snd := by
  induction points with
  | nil => by_cases h : b = a <;> simp [recordPoint, h, eq_comm]
  | cons point rest ih =>
    obtain ⟨key, old⟩ := point
    by_cases hp : key = a
    · subst hp
      by_cases h : b = key
      · simp [recordPoint, h]
      · simp [recordPoint, h, Ne.symm h]
    · by_cases hb : key = b
      · subst hb
        simp [recordPoint, hp]
      · simpa [recordPoint, hp, hb] using ih

/-- Recording changes the point of its attributes and no other. -/
theorem getPoint?_record (s : Series) (a b : Attributes) (reading : Reading) :
    (s.record a reading).getPoint? b =
      if b = a then
        some ((s.getPoint? a).elim reading (s.instrument.kind.combine · reading))
      else s.getPoint? b :=
  find?_recordPoint s.instrument.kind a b reading s.points

end Series

end Telemetry
