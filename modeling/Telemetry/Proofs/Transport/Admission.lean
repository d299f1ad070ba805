import Telemetry.Transport.Header

/-!
# Which headers the two transports accept

A header may be sent if its name is an HTTP token of admissible length and its value has no control
byte but the tab. Both transports look at the headers one after the other, in whatever order the map
gives them, and refuse them at the first one that may not be sent. So they accept the same headers,
and all others are refused with the fault of one of them, which is the fault of its name if that is
no token.

* `isName_iff`, `isValue_iff`: names and values by their bytes.
* `checkAll_eq_error_iff`: which fault headers are refused with.
-/

namespace Telemetry.Header

/-- The bytes of a text. -/
def bytes (text : String) : List UInt8 := text.toUTF8.data.toList

/-- The bytes of a token that are no digits and no letters. -/
def markBytes : List UInt8 :=
  [0x21, 0x23, 0x24, 0x25, 0x26, 0x27, 0x2A, 0x2B, 0x2D, 0x2E, 0x5E, 0x5F, 0x60, 0x7C, 0x7E]

/-- A byte of a token: a digit, a letter or one of fifteen marks. -/
def IsTokenByte (b : UInt8) : Prop :=
  (0x30 ≤ b ∧ b ≤ 0x39) ∨ (0x41 ≤ b ∧ b ≤ 0x5A) ∨ (0x61 ≤ b ∧ b ≤ 0x7A) ∨ b ∈ markBytes

def IsControlByte (b : UInt8) : Prop := b < 0x20 ∨ b = 0x7F

instance (b : UInt8) : Decidable (IsTokenByte b) := inferInstanceAs (Decidable (_ ∨ _))

instance (b : UInt8) : Decidable (IsControlByte b) := inferInstanceAs (Decidable (_ ∨ _))

/-- An HTTP token of admissible length. -/
structure IsToken (name : String) : Prop where
  present : bytes name ≠ []
  short : (bytes name).length ≤ 65535
  token : ∀ b ∈ bytes name, IsTokenByte b

/-- No control byte but the tab. -/
def IsClean (value : String) : Prop := ∀ b ∈ bytes value, IsControlByte b → b = 0x09

/-- A header that may be sent. -/
def IsAdmissible (header : String × String) : Prop := IsToken header.1 ∧ IsClean header.2

/-- What a header that may not be sent is refused with, the fault of its name first. -/
inductive Refused (name value : String) : SetupError → Prop
  | name (bad : ¬ IsToken name) :
      Refused name value (.invalidHeader name "invalid HTTP header name")
  | value (good : IsToken name) (bad : ¬ IsClean value) :
      Refused name value (.invalidHeader name "failed to parse header value")

variable {name value : String} {c : Char}

/-! ## Characters and their bytes -/

theorem bytes_eq (text : String) : bytes text = text.toList.flatMap String.utf8EncodeChar := by
  rw [bytes, String.toUTF8, ← String.utf8Encode_toList, List.utf8Encode,
    List.toList_data_toByteArray]

theorem utf8EncodeChar_of_ascii (ascii : c.toNat ≤ 0x7F) :
    String.utf8EncodeChar c = [UInt8.ofNat c.toNat] := by
  rw [String.utf8EncodeChar]
  exact if_pos ascii

/-- The bytes of a character that is not ASCII are not ASCII either. -/
theorem le_of_mem_utf8EncodeChar (wide : ¬ c.toNat ≤ 0x7F) :
    ∀ b ∈ String.utf8EncodeChar c, 0x80 ≤ b := by
  intro b mem
  have wide' : ¬ c.val.toNat ≤ 0x7F := wide
  rw [UInt8.le_iff_toNat_le]
  simp only [String.utf8EncodeChar, wide', if_false] at mem
  split at mem
  · simp only [List.mem_cons, List.not_mem_nil, or_false] at mem
    rcases mem with rfl | rfl <;> simp <;> omega
  · split at mem
    · simp only [List.mem_cons, List.not_mem_nil, or_false] at mem
      rcases mem with rfl | rfl | rfl <;> simp <;> omega
    · simp only [List.mem_cons, List.not_mem_nil, or_false] at mem
      rcases mem with rfl | rfl | rfl | rfl <;> simp <;> omega

theorem lt_of_isTokenByte {b : UInt8} (token : IsTokenByte b) : b < 0x80 := by
  rcases token with digit | capital | small | mark
  · exact UInt8.lt_of_le_of_lt digit.2 (by decide)
  · exact UInt8.lt_of_le_of_lt capital.2 (by decide)
  · exact UInt8.lt_of_le_of_lt small.2 (by decide)
  · have low : markBytes.all (· < 0x80) = true := by decide
    simpa using List.all_eq_true.mp low b mark

theorem lt_of_isControlByte {b : UInt8} (control : IsControlByte b) : b < 0x80 := by
  rcases control with low | rfl
  · exact UInt8.lt_trans low (by decide)
  · decide

theorem toNat_le_of_isTokenChar (token : isTokenChar c = true) : c.toNat ≤ 0x7F := by
  rw [isTokenChar, Bool.or_eq_true, decide_eq_true_eq] at token
  rcases token with alphanumeric | mark
  · have val : c.toNat = c.val.toNat := rfl
    have ranges : c.isAlphanum = (decide (0x41 ≤ c.val ∧ c.val ≤ 0x5A) ||
        (decide (0x61 ≤ c.val) && decide (c.val ≤ 0x7A)) ||
        (decide (0x30 ≤ c.val) && decide (c.val ≤ 0x39))) := rfl
    simp [ranges, UInt32.le_iff_toNat_le] at alphanumeric
    omega
  · have ascii : tokenMarks.all (·.toNat ≤ 0x7F) = true := by decide
    simpa using List.all_eq_true.mp ascii c mark

theorem isTokenChar_iff :
    isTokenChar c = true ↔ ∀ b ∈ String.utf8EncodeChar c, IsTokenByte b := by
  by_cases ascii : c.toNat ≤ 0x7F
  · have table : ∀ n < 0x80,
        isTokenChar (Char.ofNat n) = true ↔ IsTokenByte (UInt8.ofNat n) := by decide +kernel
    have entry := table c.toNat (by omega)
    rw [Char.ofNat_toNat] at entry
    simpa [utf8EncodeChar_of_ascii ascii] using entry
  · refine iff_of_false (mt toNat_le_of_isTokenChar ascii) fun token => ?_
    obtain ⟨b, mem⟩ := List.exists_mem_of_ne_nil _ (String.utf8EncodeChar_ne_nil (c := c))
    exact UInt8.not_lt.mpr (le_of_mem_utf8EncodeChar ascii b mem) (lt_of_isTokenByte (token b mem))

theorem isValueChar_iff :
    isValueChar c = true ↔ ∀ b ∈ String.utf8EncodeChar c, IsControlByte b → b = 0x09 := by
  by_cases ascii : c.toNat ≤ 0x7F
  · have table : ∀ n < 0x80, isValueChar (Char.ofNat n) = true ↔
        (IsControlByte (UInt8.ofNat n) → UInt8.ofNat n = 0x09) := by decide +kernel
    have entry := table c.toNat (by omega)
    rw [Char.ofNat_toNat] at entry
    simpa [utf8EncodeChar_of_ascii ascii] using entry
  · refine iff_of_true ?_ fun b mem control => ?_
    · simp [isValueChar]
      omega
    · exact absurd (lt_of_isControlByte control)
        (UInt8.not_lt.mpr (le_of_mem_utf8EncodeChar ascii b mem))

theorem forall_mem_bytes_iff {P : UInt8 → Prop} (text : String) :
    (∀ b ∈ bytes text, P b) ↔ ∀ c ∈ text.toList, ∀ b ∈ String.utf8EncodeChar c, P b := by
  simp only [bytes_eq, List.mem_flatMap]
  exact ⟨fun all c mem b here => all b ⟨c, mem, here⟩, fun all b ⟨c, mem, here⟩ => all c mem b here⟩

/-- Tokens have as many bytes as characters. -/
theorem length_bytes_of_token (token : ∀ c ∈ name.toList, isTokenChar c = true) :
    (bytes name).length = name.toList.length := by
  have single : ∀ c ∈ name.toList, String.utf8EncodeChar c = [UInt8.ofNat c.toNat] :=
    fun c mem => utf8EncodeChar_of_ascii (toNat_le_of_isTokenChar (token c mem))
  rw [bytes_eq, List.flatMap_def, List.map_congr_left single, ← List.flatMap_def,
    ← List.map_eq_flatMap, List.length_map]

theorem isName_iff : isName name = true ↔ IsToken name := by
  have all_iff : (∀ c ∈ name.toList, isTokenChar c = true) ↔ ∀ b ∈ bytes name, IsTokenByte b := by
    rw [forall_mem_bytes_iff]
    simp only [isTokenChar_iff]
  have parts : isName name = true ↔ (name.toList ≠ [] ∧ name.toList.length ≤ maxNameLength) ∧
      ∀ c ∈ name.toList, isTokenChar c = true := by
    simp [isName]
  rw [parts]
  constructor
  · rintro ⟨⟨present, short⟩, token⟩
    have length := length_bytes_of_token token
    refine ⟨fun nothing => present ?_, length ▸ short, all_iff.mp token⟩
    exact List.length_eq_zero_iff.mp (by rw [← length, nothing]; rfl)
  · rintro ⟨present, short, token⟩
    have length := length_bytes_of_token (all_iff.mpr token)
    refine ⟨⟨fun nothing => present ?_, length ▸ short⟩, all_iff.mpr token⟩
    exact List.length_eq_zero_iff.mp (by rw [length, nothing]; rfl)

theorem isValue_iff : isValue value = true ↔ IsClean value := by
  rw [IsClean, forall_mem_bytes_iff, isValue, List.all_eq_true]
  simp only [isValueChar_iff]

instance (name : String) : Decidable (IsToken name) := decidable_of_iff _ isName_iff

instance (value : String) : Decidable (IsClean value) := decidable_of_iff _ isValue_iff

/-! ## The first header that may not be sent -/

theorem check_eq_ok_iff_isAdmissible : check name value = .ok () ↔ IsAdmissible (name, value) := by
  rw [check_eq_ok_iff, isName_iff, isValue_iff, IsAdmissible]

theorem check_eq_error_iff {e : SetupError} :
    check name value = .error e ↔ Refused name value e := by
  constructor
  · intro failed
    rw [check] at failed
    split at failed
    case isTrue bad =>
      obtain rfl := Except.error.inj failed
      exact .name (mt isName_iff.mpr (by simpa using bad))
    case isFalse good =>
      split at failed
      case isTrue bad =>
        obtain rfl := Except.error.inj failed
        exact .value (isName_iff.mp (by simpa using good)) (mt isValue_iff.mpr (by simpa using bad))
      case isFalse fine => cases failed
  · intro refused
    cases refused with
    | name bad =>
      rw [check, if_pos (by simpa using mt isName_iff.mp bad)]
    | value good bad =>
      rw [check, if_neg (by simpa using isName_iff.mpr good),
        if_pos (by simpa using mt isValue_iff.mp bad)]

theorem Refused.not_isAdmissible {e : SetupError} (refused : Refused name value e) :
    ¬ IsAdmissible (name, value) := by
  rintro ⟨token, clean⟩
  cases refused with
  | name bad => exact bad token
  | value _ bad => exact bad clean

theorem exists_refused (bad : ¬ IsAdmissible (name, value)) : ∃ e, Refused name value e := by
  by_cases token : IsToken name
  · exact ⟨_, .value token fun clean => bad ⟨token, clean⟩⟩
  · exact ⟨_, .name token⟩

theorem Refused.unique {e e' : SetupError} (refused : Refused name value e)
    (refused' : Refused name value e') : e = e' := by
  cases refused with
  | name bad =>
    cases refused' with
    | name => rfl
    | value good => exact absurd good bad
  | value good =>
    cases refused' with
    | name bad => exact absurd good bad
    | value => rfl

theorem checkAll_eq_ok_iff_isAdmissible {order : List (String × String)} :
    checkAll order = .ok () ↔ ∀ header ∈ order, IsAdmissible header := by
  simp only [checkAll_eq_ok_iff, isName_iff, isValue_iff, IsAdmissible]

/-- Headers are refused with the fault of the first one that may not be sent. -/
theorem checkAll_eq_error_iff {order : List (String × String)} {e : SetupError} :
    checkAll order = .error e ↔ ∃ before header behind, order = before ++ header :: behind ∧
      (∀ h ∈ before, IsAdmissible h) ∧ Refused header.1 header.2 e := by
  constructor
  · intro failed
    induction order with
    | nil => cases failed
    | cons header rest ih =>
      rw [checkAll] at failed
      cases here : check header.1 header.2 with
      | error e' =>
        rw [here] at failed
        obtain rfl := Except.error.inj failed
        exact ⟨[], header, rest, rfl, by simp, check_eq_error_iff.mp here⟩
      | ok _ =>
        rw [here] at failed
        obtain ⟨before, bad, behind, cut, fine, refused⟩ := ih failed
        have admissible := check_eq_ok_iff_isAdmissible.mp here
        exact ⟨header :: before, bad, behind, by rw [cut]; rfl,
          List.forall_mem_cons.mpr ⟨admissible, fine⟩, refused⟩
  · rintro ⟨before, bad, behind, rfl, fine, refused⟩
    induction before with
    | nil => simp [checkAll, check_eq_error_iff.mpr refused]
    | cons header before ih =>
      obtain ⟨admissible, fine⟩ := List.forall_mem_cons.mp fine
      rw [List.cons_append, checkAll, check_eq_ok_iff_isAdmissible.mpr admissible]
      exact ih fine

/-! ## Both transports -/

variable {headers : Headers} {order : List (String × String)} {e : SetupError}

/-- Whatever is made of headers once they are checked, they are accepted if all may be sent. -/
theorem exists_map_checkAll_iff (made : Unit → Headers) :
    (∃ sent, (checkAll order).map made = .ok sent) ↔ ∀ header ∈ order, IsAdmissible header := by
  rw [← checkAll_eq_ok_iff_isAdmissible]
  cases checkAll order <;> simp [Except.map]

theorem map_checkAll_eq_error_iff (made : Unit → Headers) :
    (checkAll order).map made = .error e ↔ checkAll order = .error e := by
  cases checkAll order <;> simp [Except.map]

/-- Over HTTP the headers are sent as they are. -/
theorem eq_of_httpOfList {sent : Headers} (perm : order.Perm headers.toList)
    (accepted : httpOfList order = .ok sent) : sent = headers := by
  rw [httpOfList] at accepted
  cases checked : checkAll order with
  | error e => simp [checked, Except.map] at accepted
  | ok _ =>
    rw [checked, TextMap.ofPairs_of_perm perm] at accepted
    exact (Except.ok.inj accepted).symm

theorem forall_mem_order_iff (perm : order.Perm headers.toList) {P : String × String → Prop} :
    (∀ header ∈ order, P header) ↔
      ∀ name value : String, headers[name]? = some value → P (name, value) := by
  simp only [perm.mem_iff, Prod.forall, Std.ExtTreeMap.mem_toList_iff_getElem?_eq_some]

/-- A single header that may not be sent is the one that is complained of. -/
theorem checkAll_of_single (perm : order.Perm headers.toList) (held : headers[name]? = some value)
    (refused : Refused name value e)
    (others : ∀ other v, headers[other]? = some v → other ≠ name → IsAdmissible (other, v)) :
    checkAll order = .error e := by
  have mem : (name, value) ∈ order :=
    perm.mem_iff.mpr (Std.ExtTreeMap.mem_toList_iff_getElem?_eq_some.mpr held)
  cases checked : checkAll order with
  | ok _ =>
    exact absurd (checkAll_eq_ok_iff_isAdmissible.mp checked _ mem) refused.not_isAdmissible
  | error e' =>
    obtain ⟨before, ⟨other, v⟩, behind, cut, -, refused'⟩ := checkAll_eq_error_iff.mp checked
    have other_mem : (other, v) ∈ order := cut ▸ List.mem_append_right _ List.mem_cons_self
    have other_held := Std.ExtTreeMap.mem_toList_iff_getElem?_eq_some.mp (perm.mem_iff.mp other_mem)
    by_cases same : other = name
    · subst same
      obtain rfl := Option.some.inj (other_held.symm.trans held)
      rw [refused'.unique refused]
    · exact absurd (others other v other_held same) refused'.not_isAdmissible

/-- Whatever order the headers are taken in, both transports accept them if every name is a token
of admissible length and every value is free of control bytes but the tab. Over HTTP they are then
sent as they are. Otherwise both transports complain of a header that may not be sent, of its name
first; taken in one order they complain of the same one, and if there is only one they complain of
it in any order. -/
theorem transports_agree (headers : Headers) :
    (∀ order, order.Perm headers.toList →
      ((∃ sent, httpOfList order = .ok sent) ↔
        ∀ name value : String, headers[name]? = some value → IsToken name ∧ IsClean value) ∧
      ((∃ sent, grpcOfList order = .ok sent) ↔
        ∀ name value : String, headers[name]? = some value → IsToken name ∧ IsClean value) ∧
      (∀ sent, httpOfList order = .ok sent → sent = headers) ∧
      (∀ e, httpOfList order = .error e ↔ grpcOfList order = .error e) ∧
      ∀ e, httpOfList order = .error e →
        ∃ name value, headers[name]? = some value ∧ Refused name value e) ∧
    ∀ name value, headers[name]? = some value → ¬ (IsToken name ∧ IsClean value) →
      (∀ other v : String, headers[other]? = some v → other ≠ name →
        IsToken other ∧ IsClean v) →
      ∃ e, Refused name value e ∧ ∀ order, order.Perm headers.toList →
        httpOfList order = .error e ∧ grpcOfList order = .error e := by
  refine ⟨fun order perm => ⟨?_, ?_, fun sent => eq_of_httpOfList perm, fun e => ?_, ?_⟩,
    fun name value held bad others => ?_⟩
  · exact (exists_map_checkAll_iff _).trans (forall_mem_order_iff perm)
  · exact (exists_map_checkAll_iff _).trans (forall_mem_order_iff perm)
  · exact (map_checkAll_eq_error_iff _).trans (map_checkAll_eq_error_iff _).symm
  · intro e failed
    obtain ⟨before, ⟨name, value⟩, behind, cut, -, refused⟩ :=
      checkAll_eq_error_iff.mp ((map_checkAll_eq_error_iff _).mp failed)
    have mem : (name, value) ∈ order := cut ▸ List.mem_append_right _ List.mem_cons_self
    exact ⟨name, value,
      Std.ExtTreeMap.mem_toList_iff_getElem?_eq_some.mp (perm.mem_iff.mp mem), refused⟩
  · obtain ⟨e, refused⟩ := exists_refused bad
    refine ⟨e, refused, fun order perm => ?_⟩
    have failed := checkAll_of_single perm held refused others
    exact ⟨(map_checkAll_eq_error_iff _).mpr failed, (map_checkAll_eq_error_iff _).mpr failed⟩

/-- A name with a blank in it is complained of on both transports before the line break in its
value, also if they take the headers in different orders. -/
theorem transports_agree_of_blank :
    let headers : Headers := .ofPairs [("x-ok", "é\t"), ("bad header", "line\nbreak")]
    let fault : SetupError := .invalidHeader "bad header" "invalid HTTP header name"
    httpOfList headers.toList = .error fault ∧
      grpcOfList headers.toList.reverse = .error fault := by
  intro headers fault
  have held_iff {name value : String} : headers[name]? = some value ↔
      TextMap.Gives [("x-ok", "é\t"), ("bad header", "line\nbreak")] name value :=
    TextMap.getElem?_ofPairs_eq_some_iff
  have held : headers["bad header"]? = some "line\nbreak" :=
    held_iff.mpr ⟨[("x-ok", "é\t")], [], rfl, by simp⟩
  have bad : ¬ IsToken "bad header" := by decide +kernel
  have others : ∀ other v : String, headers[other]? = some v → other ≠ "bad header" →
      IsToken other ∧ IsClean v := by
    intro other v other_held differs
    rcases List.mem_cons.mp (held_iff.mp other_held).mem with first | second
    · obtain ⟨rfl, rfl⟩ := Prod.mk.inj first
      decide +kernel
    · exact absurd (Prod.mk.inj (List.mem_singleton.mp second)).1 differs
  obtain ⟨-, single⟩ := transports_agree headers
  obtain ⟨e, refused, both⟩ := single _ _ held (fun fine => bad fine.1) others
  cases refused with
  | name => exact ⟨(both _ (List.Perm.refl _)).1, (both _ (List.reverse_perm _)).2⟩
  | value good => exact absurd good bad

end Telemetry.Header
