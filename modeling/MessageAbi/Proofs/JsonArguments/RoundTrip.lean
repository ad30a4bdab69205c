import Mathlib
import MessageAbi.Proofs.Json.Members
import MessageAbi.Proofs.JsonArguments.Reading
import MessageAbi.Proofs.Numeral

/-!
This module contains that every value of a type is written as JSON and read back from it. How an integer
is written depends on the width of its type and on its value; each of the forms is one that is read.
-/

namespace MessageAbi

namespace JsonArguments

theorem hexDigits?_eq_none {text : String} (h : 'x' ∉ text.toList) : hexDigits? text = none := by
  rw [hexDigits?_eq_none_iff]
  intro digits heq
  simp [heq] at h

theorem hexDigits?_append (digits : String) : hexDigits? ("0x" ++ digits) = some digits := by
  rw [hexDigits?_eq_some_iff, String.toList_append]
  rfl

theorem readBytes_encode (path : JsonPath) (bytes : Bytes) :
    readBytes path ("0x" ++ Hex.encode bytes) = .ok bytes := by
  rw [readBytes, hexDigits?_append]
  simp only [Hex.decode_encode]

theorem readWord_integer (path : JsonPath) (n : Word) :
    readWord path (.integer n.toNat) = .ok n := by
  rw [Json.integer, readWord, if_pos (Int.natCast_nonneg _), Int.toNat_natCast, Word.ofNat,
    BitVec.ofNat_toNat, BitVec.setWidth_eq]

theorem readWord_toDecimal (path : JsonPath) (n : Word) :
    readWord path (.string n.toDecimal) = .ok n := by
  have hplain : 'x' ∉ n.toDecimal.toList := by
    intro hmem
    exact absurd (Word.isDigit_of_mem_toDecimal hmem) (by decide)
  simp only [readWord, hexDigits?_eq_none hplain, Word.ofDigits?_toDecimal]

theorem readInt256_integer {n : Int256} (h : n.toInt < 2 ^ 63) (path : JsonPath) :
    readInt256 path (.integer n.toInt) = .ok n := by
  have hlt : n.toInt < Nat.pow 2 63 := by exact_mod_cast h
  rw [Json.integer, readInt256, if_pos hlt, Int256.ofInt_toInt]

theorem readInt256_toDecimal (path : JsonPath) (n : Int256) :
    readInt256 path (.string n.toDecimal) = .ok n := by
  have hdigits : ∀ word : Word, 'x' ∉ word.toDecimal.toList := by
    intro word hmem
    exact absurd (Word.isDigit_of_mem_toDecimal hmem) (by decide)
  have hplain : 'x' ∉ n.toDecimal.toList := by
    unfold Int256.toDecimal
    split
    . simp [hdigits]
    . exact hdigits n.raw
  simp only [readInt256, hexDigits?_eq_none hplain, Int256.ofDecimal?_toDecimal]

def RoundTrips (type : AbiType) (value : Value) : Prop :=
  ∃ json, writeValue type value = .ok json ∧ ∀ path, readAt type json path = .ok value

theorem roundTrips_uint {bits : Nat} {n : Word} (h : n.toNat < 2 ^ bits) :
    RoundTrips (.uint bits) (.uint n) := by
  have hread : ∀ json, (∀ path, readWord path json = .ok n) →
      ∀ path, readAt (.uint bits) json path = .ok (.uint n) := by
    intro json hjson path
    exact (readAt_uint_eq_ok_iff bits).mpr ⟨n, hjson path, h, rfl⟩
  unfold RoundTrips
  rw [writeValue]
  split
  . exact ⟨_, rfl, hread _ fun path => readWord_integer path n⟩
  . exact ⟨_, rfl, hread _ fun path => readWord_toDecimal path n⟩

theorem roundTrips_int {bits : Nat} {n : Int256} (h : n.fits bits = true) :
    RoundTrips (.int bits) (.int n) := by
  have hread : ∀ json, (∀ path, readInt256 path json = .ok n) →
      ∀ path, readAt (.int bits) json path = .ok (.int n) := by
    intro json hjson path
    exact (readAt_int_eq_ok_iff bits).mpr ⟨n, hjson path, h, rfl⟩
  have hdecimal : ∀ path, readInt256 path (.string n.toDecimal) = .ok n := fun path =>
    readInt256_toDecimal path n
  unfold RoundTrips
  rw [writeValue]
  split
  . split
    next small hsmall =>
      rcases (n.toInt128?_eq_some_iff small).mp hsmall with ⟨rfl, _⟩
      split
      next hrange => exact ⟨_, rfl, hread _ (readInt256_integer hrange.2)⟩
      next => exact ⟨_, rfl, hread _ hdecimal⟩
    next => exact ⟨_, rfl, hread _ hdecimal⟩
  . exact ⟨_, rfl, hread _ hdecimal⟩

theorem roundTrips_array {element : AbiType} {items : List Value}
    (h : ∀ item ∈ items, RoundTrips element item) : RoundTrips (.array element) (.array items) := by
  rcases (exists_forall₂_iff _ _).mpr h with ⟨jsons, hjsons⟩
  have hwrite : items.mapM (writeValue element) = .ok jsons := by
    rw [mapM_eq_ok_iff]
    exact hjsons.imp fun _ _ hitem => hitem.1
  refine ⟨.array jsons, ?_, ?_⟩
  . rw [writeValue, hwrite]
    rfl
  . intro path
    rw [readAt_array_eq_ok_iff]
    refine ⟨jsons, items, rfl, ?_, rfl⟩
    have hflip : List.Forall₂ (fun json item => ∀ path, readAt element json path = .ok item)
        jsons items := List.Forall₂.flip (hjsons.imp fun _ _ hitem => hitem.2)
    rw [← List.zipIdx_map_fst 0 jsons, List.forall₂_map_left_iff] at hflip
    rw [readItems_eq_ok_iff]
    exact hflip.imp fun _ _ hread => hread _

/--
Members that have each value under the name of its parameter, as it is read.
-/
def Provides (members : List (String × Json)) (params : List Param) (values : List Value) : Prop :=
  List.Forall₂ (fun param value => ∃ json, (param.name, json) ∈ members
    ∧ ∀ path, readAt param.type json path = .ok value) params values

variable {params : List Param} {values : List Value} {members : List (String × Json)}

theorem readMembers_of_provides (hnodup : (params.map (·.name)).Nodup)
    (hnames : members.map (·.1) = params.map (·.name)) (h : Provides members params values)
    (path : JsonPath) : readMembers params (.object members) path = .ok values := by
  rw [readMembers_object_eq_ok_iff, readByName_eq_ok_iff]
  constructor
  . intro member hmember
    exact hnames ▸ List.mem_map_of_mem hmember
  . apply h.imp
    rintro param value ⟨json, hmem, hread⟩
    have hlookup := lookup_eq_some_iff_mem_of_nodup (hnames ▸ hnodup) param.name json
    exact ⟨json, hlookup.mpr hmem, hread _⟩

theorem exists_writeMembers
    (h : List.Forall₂ (fun param value => RoundTrips param.type value) params values) :
    ∃ members, writeMembers params values = .ok members
      ∧ members.map (·.1) = params.map (·.name) ∧ Provides members params values := by
  induction h with
  | nil => exact ⟨[], rfl, rfl, .nil⟩
  | @cons param value params values hvalue _ ih =>
    rcases param with ⟨name, type⟩
    rcases hvalue with ⟨json, hwrite, hread⟩
    rcases ih with ⟨members, hmembers, hnames, hprovides⟩
    refine ⟨(name, json) :: members, ?_, ?_, ?_⟩
    . rw [writeMembers, hwrite, hmembers]
      rfl
    . rw [List.map_cons, List.map_cons, hnames]
    . refine .cons ⟨json, List.mem_cons_self, hread⟩ (hprovides.imp ?_)
      rintro param value ⟨other, hother, hread⟩
      exact ⟨other, List.mem_cons_of_mem _ hother, hread⟩

theorem exists_write_readMembers (hnodup : (params.map (·.name)).Nodup)
    (h : List.Forall₂ (fun param value => RoundTrips param.type value) params values) :
    ∃ json, write params values = .ok json ∧ ∀ path, readMembers params json path = .ok values := by
  rcases exists_writeMembers h with ⟨members, hmembers, hnames, hprovides⟩
  have hnodup' : (members.map (·.1)).Nodup := hnames ▸ hnodup
  refine ⟨.object members, ?_, readMembers_of_provides hnodup hnames hprovides⟩
  rw [write, hmembers]
  simp only [ne_eq, h.length_eq, not_true_eq_false, if_false]
  rw [← Json.ofMembers_of_nodup hnodup']
  rfl

theorem writeValue_tuple (name : String) (components : List Param) (members : List Value) :
    writeValue (.tuple name components) (.tuple members) = write components members := by
  rw [writeValue, write]

theorem roundTrips_of_hasType {type : AbiType} {value : Value} (hnames : type.namesDistinct = true)
    (h : HasType type value) : RoundTrips type value := by
  induction type generalizing value with
  | bool =>
    cases h with
    | bool b => exact ⟨.bool b, rfl, fun path => readAt_bool_eq_ok_iff.mpr ⟨b, rfl, rfl⟩⟩
  | uint bits =>
    cases h with
    | uint _ n hn => exact roundTrips_uint hn
  | int bits =>
    cases h with
    | int _ n hpos hlower hupper =>
      exact roundTrips_int ((n.fits_iff bits).mpr ⟨hpos, hlower, hupper⟩)
  | address =>
    cases h with
    | address a =>
      refine ⟨_, rfl, fun path => ?_⟩
      rw [readAt_address_eq_ok_iff]
      exact ⟨_, _, rfl, readBytes_encode path a.toBytes, a.length_toBytes, by simp⟩
  | bytes =>
    cases h with
    | bytes b =>
      refine ⟨_, rfl, fun path => ?_⟩
      rw [readAt_bytes_eq_ok_iff]
      exact ⟨_, b, rfl, readBytes_encode path b, rfl⟩
  | string =>
    cases h with
    | string s => exact ⟨.string s, rfl, fun path => readAt_string_eq_ok_iff.mpr ⟨s, rfl, rfl⟩⟩
  | array element ih =>
    cases h with
    | array _ items hitems =>
      apply roundTrips_array
      intro item hitem
      exact ih hnames (hitems item hitem)
  | tuple name components ih =>
    cases h with
    | tuple _ _ members hmembers =>
      rw [AbiType.namesDistinct_tuple_iff] at hnames
      rcases hnames with ⟨hnodup, hcomponents⟩
      have hall : List.Forall₂ (fun param member => RoundTrips param.type member)
          components members := by
        apply forall₂_imp_of_mem hmembers
        intro param hparam member _
        exact ih param hparam (hcomponents param hparam)
      rcases exists_write_readMembers hnodup hall with ⟨json, hwrite, hread⟩
      refine ⟨json, ?_, ?_⟩
      . rw [writeValue_tuple, hwrite]
      . intro path
        exact (readAt_tuple_eq_ok_iff name components).mpr ⟨members, hread path, rfl⟩

theorem exists_write_read (hnodup : (params.map (·.name)).Nodup)
    (hnames : ∀ param ∈ params, param.type.namesDistinct = true)
    (h : List.Forall₂ (fun param value => HasType param.type value) params values) :
    ∃ json, write params values = .ok json ∧ read params json = .ok values := by
  have hall : List.Forall₂ (fun param value => RoundTrips param.type value) params values := by
    apply forall₂_imp_of_mem h
    intro param hparam value _
    exact roundTrips_of_hasType (hnames param hparam)
  rcases exists_write_readMembers hnodup hall with ⟨json, hwrite, hread⟩
  exact ⟨json, hwrite, hread []⟩

theorem json_round_trip :
    (∀ (type : AbiType) (value : Value), type.namesDistinct = true → HasType type value →
      ∃ json, writeValue type value = .ok json ∧ readValue type json = .ok value)
    ∧ (∀ (params : List Param) (values : List Value), (params.map (·.name)).Nodup →
      (∀ param ∈ params, param.type.namesDistinct = true) →
      List.Forall₂ (fun param value => HasType param.type value) params values →
        ∃ json, write params values = .ok json ∧ read params json = .ok values)
    ∧ ∀ (type : AbiType) (value : Value),
      HasType type value ↔ ∃ data, Codec.encode [type] [value] = .ok data := by
  refine ⟨?_, ?_, ?_⟩
  . intro type value hnames h
    rcases roundTrips_of_hasType hnames h with ⟨json, hwrite, hread⟩
    exact ⟨json, hwrite, hread []⟩
  . intro params values hnodup hnames h
    exact exists_write_read hnodup hnames h
  . intro type value
    constructor
    . intro h
      exact Codec.exists_encode (.cons h .nil)
    . rintro ⟨data, h⟩
      cases Codec.forall₂_hasType_of_encode h with
      | cons hvalue _ => exact hvalue

-- The least integer of 64 bits is written as a number, that of 72 bits as a decimal string.
theorem json_round_trip_limits :
    (∃ json, writeValue (.array (.tuple "Limits" [⟨"low", .int 64⟩, ⟨"wide", .int 72⟩]))
        (.array [.tuple [.int (.ofInt (-2 ^ 63)), .int (.ofInt (-2 ^ 71))]]) = .ok json
      ∧ readValue (.array (.tuple "Limits" [⟨"low", .int 64⟩, ⟨"wide", .int 72⟩])) json
        = .ok (.array [.tuple [.int (.ofInt (-2 ^ 63)), .int (.ofInt (-2 ^ 71))]]))
    ∧ ∃ json, write [⟨"high", .uint 7⟩, ⟨"data", .bytes⟩] [.uint 127, .bytes [0xc0, 0xff]] = .ok json
      ∧ read [⟨"high", .uint 7⟩, ⟨"data", .bytes⟩] json = .ok [.uint 127, .bytes [0xc0, 0xff]] := by
  have hlow : HasType (.int 64) (.int (.ofInt (-2 ^ 63))) :=
    .int _ _ (by decide) (by decide) (by decide)
  have hwide : HasType (.int 72) (.int (.ofInt (-2 ^ 71))) :=
    .int _ _ (by decide) (by decide) (by decide)
  constructor
  . apply json_round_trip.1
    . decide
    . apply HasType.array
      intro item hitem
      rw [List.mem_singleton.mp hitem]
      exact .tuple _ _ _ (.cons hlow (.cons hwide .nil))
  . apply json_round_trip.2.1
    . decide
    . decide
    . exact .cons (.uint _ _ (by decide)) (.cons (.bytes _) .nil)

end JsonArguments

end MessageAbi
