import Mathlib.Data.List.Nodup
import Mathlib.Data.List.Perm.Subperm
import Telemetry.Transport.Header

/-!
# Headers as gRPC metadata

A configuration holds its headers in a map that knows capital letters and has no order. Over HTTP
all of them are sent, in whatever order they are taken. The names of gRPC metadata are in lower
case, and a header that is taken later takes the place of one with the same name. So of headers
whose names differ in case only one is sent, and which one hangs on the order.

* `httpOfList_of_isFit`, `grpcOfList_of_isFit`: fit headers are sent.
* `exists_order`: any header is sent in some order.
* `keepsAll_iff`: when all headers are sent.
-/

namespace Telemetry

namespace TextMap

/-- A map has as many entries as the pairs it is made of if no two of them have one key. -/
theorem size_ofPairs_eq_iff {pairs : List (String × String)} :
    (ofPairs pairs).size = pairs.length ↔ (pairs.map Prod.fst).Nodup := by
  have same : ∀ key, key ∈ (ofPairs pairs).keys ↔ key ∈ pairs.map Prod.fst := fun _ =>
    Std.ExtTreeMap.mem_keys.trans mem_ofPairs_iff
  have nodup : (ofPairs pairs).keys.Nodup := Std.ExtTreeMap.nodup_keys
  have length : (pairs.map Prod.fst).length = pairs.length := List.length_map _
  rw [← Std.ExtTreeMap.length_keys, ← length]
  constructor
  · intro lengths
    have sub := nodup.subperm fun key mem => (same key).mp mem
    exact (sub.perm_of_length_le (Nat.le_of_eq lengths.symm)).nodup_iff.mp nodup
  · intro keys
    exact ((List.perm_ext_iff_of_nodup nodup keys).mpr same).length_eq

end TextMap

namespace Header

open Text (toLowerAscii)

/-- A header as it stands in metadata. -/
def lowered (header : String × String) : String × String := (toLowerAscii header.1, header.2)

/-- The metadata of headers that are taken in this order. -/
def metadata (order : List (String × String)) : Headers := TextMap.ofPairs (order.map lowered)

/-- Every header is fit for the wire. -/
def IsFit (headers : Headers) : Prop :=
  ∀ name value, headers[name]? = some value → check name value = .ok ()

/-- No two names differ in case only. -/
def NamesApart (headers : Headers) : Prop :=
  ∀ n ∈ headers, ∀ m ∈ headers, toLowerAscii n = toLowerAscii m → n = m

/-- Headers whose names differ in case only have one value. -/
def ValuesAgree (headers : Headers) : Prop :=
  ∀ n m v w, headers[n]? = some v → headers[m]? = some w → toLowerAscii n = toLowerAscii m → v = w

/-- In any order the same metadata is sent, and it holds every value under its name in lower case
and one entry for each header. -/
def KeepsAll (headers : Headers) : Prop :=
  ∃ sent, (∀ order, order.Perm headers.toList → grpcOfList order = .ok sent) ∧
    (∀ name value, headers[name]? = some value → sent[toLowerAscii name]? = some value) ∧
    sent.size = headers.size

variable {headers : Headers} {order : List (String × String)}

/-! ## Fit headers are sent -/

theorem checkAll_of_isFit (fit : IsFit headers) (perm : order.Perm headers.toList) :
    checkAll order = .ok () := by
  refine checkAll_eq_ok_iff.mpr fun header mem => check_eq_ok_iff.mp (fit _ _ ?_)
  exact Std.ExtTreeMap.mem_toList_iff_getElem?_eq_some.mp (perm.mem_iff.mp mem)

/-- Over HTTP the headers are sent as they are, in whatever order they are taken. -/
theorem httpOfList_of_isFit (fit : IsFit headers) (perm : order.Perm headers.toList) :
    httpOfList order = .ok headers := by
  rw [httpOfList, checkAll_of_isFit fit perm, ← TextMap.ofPairs_of_perm perm]
  rfl

theorem grpcOfList_of_isFit (fit : IsFit headers) (perm : order.Perm headers.toList) :
    grpcOfList order = .ok (metadata order) := by
  rw [grpcOfList, checkAll_of_isFit fit perm]
  rfl

/-! ## What metadata hold -/

theorem getElem?_metadata {key value : String} :
    (metadata order)[key]? = some value ↔ TextMap.Gives (order.map lowered) key value :=
  TextMap.getElem?_ofPairs_eq_some_iff

/-- What is sent under a name is the value of a header with that name in lower case. -/
theorem exists_header (perm : order.Perm headers.toList) {key value : String}
    (sent : (metadata order)[key]? = some value) :
    ∃ name, headers[name]? = some value ∧ toLowerAscii name = key := by
  obtain ⟨⟨name, value⟩, mem, same⟩ := List.mem_map.mp (getElem?_metadata.mp sent).mem
  obtain ⟨rfl, rfl⟩ := Prod.mk.inj same
  exact ⟨name, Std.ExtTreeMap.mem_toList_iff_getElem?_eq_some.mp (perm.mem_iff.mp mem), rfl⟩

theorem map_fst_lowered :
    (order.map lowered).map Prod.fst = (order.map Prod.fst).map toLowerAscii := by
  rw [List.map_map, List.map_map]
  rfl

theorem names_perm (perm : order.Perm headers.toList) :
    (order.map Prod.fst).Perm headers.keys :=
  (perm.map Prod.fst).trans (.of_eq Std.ExtTreeMap.map_fst_toList_eq_keys)

theorem mem_metadata_iff (perm : order.Perm headers.toList) {key : String} :
    key ∈ metadata order ↔ ∃ name ∈ headers, toLowerAscii name = key := by
  rw [metadata, TextMap.mem_ofPairs_iff, map_fst_lowered, List.mem_map]
  simp only [(names_perm perm).mem_iff, Std.ExtTreeMap.mem_keys]

/-- Any header is sent in some order: the one that takes it last. -/
theorem exists_order {name value : String} (held : headers[name]? = some value) :
    ∃ order, order.Perm headers.toList ∧
      (metadata order)[toLowerAscii name]? = some value := by
  have mem := Std.ExtTreeMap.mem_toList_iff_getElem?_eq_some.mpr held
  refine ⟨headers.toList.erase (name, value) ++ [(name, value)], ?_, ?_⟩
  · exact (List.perm_append_comm).trans (List.perm_cons_erase mem).symm
  · rw [getElem?_metadata, List.map_append]
    exact ⟨_, [], rfl, List.not_mem_nil⟩

/-- There are as many entries as headers if no two names differ in case only. -/
theorem size_metadata_eq_iff (perm : order.Perm headers.toList) :
    (metadata order).size = headers.size ↔ NamesApart headers := by
  have nodup : (order.map Prod.fst).Nodup :=
    (names_perm perm).nodup_iff.mpr Std.ExtTreeMap.nodup_keys
  have sizes : headers.size = (order.map lowered).length := by
    rw [List.length_map, perm.length_eq, Std.ExtTreeMap.length_toList]
  rw [sizes, metadata, TextMap.size_ofPairs_eq_iff, map_fst_lowered,
    List.nodup_map_iff_inj_on nodup]
  simp only [(names_perm perm).mem_iff, Std.ExtTreeMap.mem_keys, NamesApart]

/-! ## When nothing hangs on the order -/

theorem NamesApart.valuesAgree (apart : NamesApart headers) : ValuesAgree headers := by
  intro n m v w first second same
  have n_mem : n ∈ headers := Std.ExtTreeMap.mem_iff_isSome_getElem?.mpr (by simp [first])
  have m_mem : m ∈ headers := Std.ExtTreeMap.mem_iff_isSome_getElem?.mpr (by simp [second])
  obtain rfl := apart n n_mem m m_mem same
  exact Option.some.inj (first.symm.trans second)

/-- If headers whose names differ in case only have one value, then every value is sent. -/
theorem getElem?_metadata_of_agree (agree : ValuesAgree headers)
    (perm : order.Perm headers.toList) {name value : String} (held : headers[name]? = some value) :
    (metadata order)[toLowerAscii name]? = some value := by
  have mem : toLowerAscii name ∈ metadata order :=
    (mem_metadata_iff perm).mpr
      ⟨name, Std.ExtTreeMap.mem_iff_isSome_getElem?.mpr (by simp [held]), rfl⟩
  obtain ⟨other, sent⟩ := Option.isSome_iff_exists.mp
    (Std.ExtTreeMap.mem_iff_isSome_getElem?.mp mem)
  obtain ⟨m, from_header, same⟩ := exists_header perm sent
  rw [sent, agree m name other value from_header held same]

/-- If headers whose names differ in case only have one value, then any order sends the same. -/
theorem metadata_of_agree (agree : ValuesAgree headers) {order' : List (String × String)}
    (perm : order.Perm headers.toList) (perm' : order'.Perm headers.toList) :
    metadata order = metadata order' := by
  refine Std.ExtTreeMap.ext_getElem? fun key => Option.ext fun value => ?_
  constructor <;> intro sent
  · obtain ⟨name, held, rfl⟩ := exists_header perm sent
    exact getElem?_metadata_of_agree agree perm' held
  · obtain ⟨name, held, rfl⟩ := exists_header perm' sent
    exact getElem?_metadata_of_agree agree perm held

/-- The order does not matter if headers whose names differ in case only have one value. -/
theorem same_in_any_order_iff (fit : IsFit headers) :
    (∃ sent, ∀ order, order.Perm headers.toList → grpcOfList order = .ok sent) ↔
      ValuesAgree headers := by
  constructor
  · rintro ⟨sent, always⟩ n m v w first second same
    obtain ⟨order, perm, last⟩ := exists_order first
    obtain ⟨order', perm', last'⟩ := exists_order second
    have eq := Except.ok.inj ((grpcOfList_of_isFit fit perm).symm.trans (always order perm))
    have eq' := Except.ok.inj ((grpcOfList_of_isFit fit perm').symm.trans (always order' perm'))
    rw [eq, same] at last
    rw [eq'] at last'
    exact Option.some.inj (last.symm.trans last')
  · intro agree
    refine ⟨metadata headers.toList, fun order perm => ?_⟩
    rw [grpcOfList_of_isFit fit perm, metadata_of_agree agree perm (List.Perm.refl _)]

/-- All headers are sent if no two names differ in case only. -/
theorem keepsAll_iff (fit : IsFit headers) : KeepsAll headers ↔ NamesApart headers := by
  have listed : grpcOfList headers.toList = .ok (metadata headers.toList) :=
    grpcOfList_of_isFit fit (List.Perm.refl _)
  constructor
  · rintro ⟨sent, always, -, size⟩
    obtain rfl := Except.ok.inj (listed.symm.trans (always _ (List.Perm.refl _)))
    exact (size_metadata_eq_iff (List.Perm.refl _)).mp size
  · intro apart
    obtain ⟨sent, always⟩ := (same_in_any_order_iff fit).mpr apart.valuesAgree
    obtain rfl := Except.ok.inj (listed.symm.trans (always _ (List.Perm.refl _)))
    exact ⟨_, always,
      fun name value => getElem?_metadata_of_agree apart.valuesAgree (List.Perm.refl _),
      (size_metadata_eq_iff (List.Perm.refl _)).mpr apart⟩

/-- Fit headers are sent in any order, over HTTP just as they are. Metadata hold the last value for
each name in lower case and lose no such name, but of headers whose names differ in case only they
hold one, which may be any of them. The order does not matter if such headers have one value, and
nothing is lost if there are none. -/
theorem metadata_of_headers (headers : Headers) (fit : IsFit headers) :
    (∀ order, order.Perm headers.toList →
      httpOfList order = .ok headers ∧
      ∃ sent, grpcOfList order = .ok sent ∧
        (∀ key value, sent[key]? = some value ↔ TextMap.Gives (order.map lowered) key value) ∧
        (∀ key, key ∈ sent ↔ ∃ name ∈ headers, toLowerAscii name = key) ∧
        (sent.size = headers.size ↔ NamesApart headers)) ∧
    (∀ name value, headers[name]? = some value →
      ∃ order, order.Perm headers.toList ∧
        ∃ sent, grpcOfList order = .ok sent ∧ sent[toLowerAscii name]? = some value) ∧
    ((∃ sent, ∀ order, order.Perm headers.toList → grpcOfList order = .ok sent) ↔
      ValuesAgree headers) ∧
    (KeepsAll headers ↔ NamesApart headers) := by
  refine ⟨fun order perm => ?_, fun name value held => ?_, same_in_any_order_iff fit,
    keepsAll_iff fit⟩
  · exact ⟨httpOfList_of_isFit fit perm, metadata order, grpcOfList_of_isFit fit perm,
      fun _ _ => getElem?_metadata, fun _ => mem_metadata_iff perm, size_metadata_eq_iff perm⟩
  · obtain ⟨order, perm, last⟩ := exists_order held
    exact ⟨order, perm, metadata order, grpcOfList_of_isFit fit perm, last⟩

theorem isFit_ofPairs {pairs : List (String × String)}
    (fit : ∀ h ∈ pairs, isName h.1 = true ∧ isValue h.2 = true) :
    IsFit (TextMap.ofPairs pairs) := by
  intro name value held
  have mem : (name, value) ∈ pairs := (TextMap.getElem?_ofPairs_eq_some_iff.mp held).mem
  exact check_eq_ok_iff.mpr (fit (name, value) mem)

theorem namesApart_ofPairs_iff {pairs : List (String × String)} :
    NamesApart (TextMap.ofPairs pairs) ↔
      ∀ n ∈ pairs.map Prod.fst, ∀ m ∈ pairs.map Prod.fst,
        toLowerAscii n = toLowerAscii m → n = m := by
  simp only [NamesApart, TextMap.mem_ofPairs_iff]

/-- Headers with different names are kept. -/
theorem metadata_of_headers_of_token :
    let headers : Headers := .ofPairs [("Authorization", "Bearer token123"), ("x-custom", "value")]
    IsFit headers ∧ KeepsAll headers := by
  intro headers
  have fit : IsFit headers := isFit_ofPairs (by decide +kernel)
  obtain ⟨-, -, -, keeps⟩ := metadata_of_headers headers fit
  exact ⟨fit, keeps.mpr (namesApart_ofPairs_iff.mpr (by decide +kernel))⟩

/-- Of two names that differ in case only one is sent, even if their values are the same. -/
theorem not_always_keepsAll : ¬ ∀ headers : Headers, IsFit headers → KeepsAll headers := by
  intro keeps
  let headers : Headers := .ofPairs [("Authorization", "a"), ("authorization", "a")]
  have fit : IsFit headers := isFit_ofPairs (by decide +kernel)
  have apart := namesApart_ofPairs_iff.mp ((keepsAll_iff fit).mp (keeps headers fit))
  exact absurd (apart "Authorization" (by decide) "authorization" (by decide) (by decide +kernel))
    (by decide)

end Header

end Telemetry
