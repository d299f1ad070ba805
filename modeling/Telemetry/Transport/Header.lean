import Telemetry.Config.Basic

/-!
# Transport headers

A header is fit for the wire when its name is an HTTP token of at most 65535 bytes and its value has
no control byte but the tab. The name is looked at before the value. OTLP over HTTP sends the
headers as they are configured; gRPC metadata has names in lower case, and of several names that
differ in case only the last one in order counts.

Main statements: `Header.check_eq_ok_iff` and `forHttp_eq_ok_iff`.
-/

namespace Telemetry.Header

/-- The punctuation that a token may hold. -/
def tokenMarks : List Char := "!#$%&'*+-.^_`|~".toList

def isTokenChar (c : Char) : Bool := c.isAlphanum || c ∈ tokenMarks

def maxNameLength : Nat := 65535

/-- A name that may stand on the wire. Its characters are ASCII, so their count is the bytes. -/
def isName (name : String) : Bool :=
  let chars := name.toList
  !chars.isEmpty && chars.length ≤ maxNameLength && chars.all isTokenChar

/-- A character of a header value: no control but the tab. -/
def isValueChar (c : Char) : Bool :=
  c == '\t' || (0x20 ≤ c.toNat && c.toNat ≠ 0x7F)

/-- A value that may stand on the wire. -/
def isValue (value : String) : Bool := value.toList.all isValueChar

/-- Refuses a header that is not fit for the wire. -/
def check (name value : String) : Except SetupError Unit :=
  if !isName name then .error (.invalidHeader name "invalid HTTP header name")
  else if !isValue value then .error (.invalidHeader name "failed to parse header value")
  else .ok ()

theorem check_eq_ok_iff {name value : String} :
    check name value = .ok () ↔ isName name = true ∧ isValue value = true := by
  cases hn : isName name <;> cases hv : isValue value <;> simp [check, hn, hv]

/-- Refuses a list of headers at its first unfit one. -/
def checkAll : List (String × String) → Except SetupError Unit
  | [] => .ok ()
  | header :: rest =>
    match check header.1 header.2 with
    | .error e => .error e
    | .ok () => checkAll rest

theorem checkAll_eq_ok_iff {headers : List (String × String)} :
    checkAll headers = .ok () ↔ ∀ h ∈ headers, isName h.1 = true ∧ isValue h.2 = true := by
  induction headers with
  | nil => simp [checkAll]
  | cons header rest ih =>
    cases hc : check header.1 header.2 with
    | ok _ =>
      simp only [checkAll, hc, ih, List.forall_mem_cons, check_eq_ok_iff.1 hc, and_self, true_and]
    | error e =>
      have : ¬(isName header.1 = true ∧ isValue header.2 = true) := fun h => by
        simp [check_eq_ok_iff.2 h] at hc
      simp only [checkAll, hc, reduceCtorEq, List.forall_mem_cons, this, false_and]

/-- The headers of OTLP over HTTP, taken in the order of the list. -/
def httpOfList (headers : List (String × String)) : Except SetupError Headers :=
  (checkAll headers).map fun _ => TextMap.ofPairs headers

/-- The metadata of gRPC, taken in the order of the list. -/
def grpcOfList (headers : List (String × String)) : Except SetupError Headers :=
  (checkAll headers).map fun _ =>
    TextMap.ofPairs (headers.map fun header => (Text.toLowerAscii header.1, header.2))

/-- The headers that a configuration sends over HTTP. -/
def forHttp (headers : Headers) : Except SetupError Headers := httpOfList headers.toList

/-- The metadata that a configuration sends over gRPC. -/
def forGrpc (headers : Headers) : Except SetupError Headers := grpcOfList headers.toList

theorem forHttp_eq_ok_iff {headers : Headers} :
    (∃ sent, forHttp headers = .ok sent) ↔
      ∀ h ∈ headers.toList, isName h.1 = true ∧ isValue h.2 = true := by
  rw [← checkAll_eq_ok_iff]
  cases h : checkAll headers.toList with
  | ok _ => simp [forHttp, httpOfList, h, Except.map]
  | error e => simp [forHttp, httpOfList, h, Except.map]

end Telemetry.Header
