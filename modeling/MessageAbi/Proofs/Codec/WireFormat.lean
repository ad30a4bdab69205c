import Mathlib
import MessageAbi.Proofs.Codec.Layout

/-!
This module contains the wire format of the contract ABI, as the heads and tails of sequences whose
lengths are counted and not computed from the types, and the agreement of the encoder with it at every
depth of nesting.
-/

namespace MessageAbi

inductive AbiType.Dynamic : AbiType → Prop where
  | bytes : Dynamic .bytes
  | string : Dynamic .string
  | array (element : AbiType) : Dynamic (.array element)
  | tuple (name : String) (components : List Param) (param : Param) :
    param ∈ components → Dynamic param.type → Dynamic (.tuple name components)

theorem AbiType.isDynamic_iff (type : AbiType) : type.isDynamic = true ↔ type.Dynamic := by
  induction type with
  | bool | uint _ | int _ | address =>
    constructor
    . intro h
      contradiction
    . intro h
      cases h
  | bytes => exact ⟨fun _ => .bytes, fun _ => rfl⟩
  | string => exact ⟨fun _ => .string, fun _ => rfl⟩
  | array element _ => exact ⟨fun _ => .array element, fun _ => rfl⟩
  | tuple name components ih =>
    rw [isDynamic, anyDynamic_eq_any, List.any_eq_true]
    constructor
    . rintro ⟨param, hparam, hdyn⟩
      exact .tuple name components param hparam ((ih param hparam).mp hdyn)
    . rintro (_ | _ | _ | ⟨_, _, param, hparam, hdyn⟩)
      exact ⟨param, hparam, (ih param hparam).mpr hdyn⟩

instance (type : AbiType) : Decidable type.Dynamic :=
  decidable_of_iff (type.isDynamic = true) type.isDynamic_iff

namespace WireFormat

structure Item where
  isDynamic : Bool
  encoding : Bytes

def Item.tail (item : Item) : Bytes :=
  if item.isDynamic then item.encoding else []

def Item.head (item : Item) (offset : Nat) : Bytes :=
  if item.isDynamic then toBigEndian Word.size offset else item.encoding

def Item.headLength (item : Item) : Nat :=
  if item.isDynamic then Word.size else item.encoding.length

def tails (items : List Item) : Bytes :=
  items.flatMap Item.tail

def headsLength (items : List Item) : Nat :=
  (items.map Item.headLength).sum

def headsFrom (start : Nat) (items : List Item) : List Bytes :=
  items.mapIdx fun index item => item.head (start + (tails (items.take index)).length)

def heads (items : List Item) : List Bytes :=
  headsFrom (headsLength items) items

def sequence (items : List Item) : Bytes :=
  (heads items).flatten ++ tails items

def packed (data : Bytes) : Bytes :=
  let size := Word.size * ((data.length + (Word.size - 1)) / Word.size)
  toBigEndian Word.size data.length ++ (data ++ List.replicate (size - data.length) 0)

mutual

/--
The encoding of a value by itself. Values of another type than the given one have none.
-/
def encoding : AbiType → Value → Bytes
  | .bool, .bool b => toBigEndian Word.size (if b then 1 else 0)
  | .uint _, .uint n => toBigEndian Word.size n.toNat
  | .int _, .int n => toBigEndian Word.size (n.toInt % 2 ^ 256).toNat
  | .address, .address a => toBigEndian Word.size a.toNat
  | .bytes, .bytes b => packed b
  | .string, .string s => packed s.toUTF8.data.toList
  | .array element, .array members =>
    toBigEndian Word.size members.length
      ++ sequence (itemsOf (List.replicate members.length element) members)
  | .tuple _ components, .tuple members =>
    sequence (itemsOf (components.map (·.type)) members)
  | _, _ => []

def itemsOf : List AbiType → List Value → List Item
  | type :: types, value :: values =>
    ⟨decide type.Dynamic, encoding type value⟩ :: itemsOf types values
  | _, _ => []

end

/--
The head of a dynamic item is the number of bytes in front of its tail: those of all heads, and of the
tails before it.
-/
def OffsetsExact (items : List Item) : Prop :=
  ∀ (index : Nat) (item : Item), items[index]? = some item → item.isDynamic = true →
    ∃ head, (heads items)[index]? = some head ∧ head.length = Word.size
      ∧ ofBigEndian head = (heads items).flatten.length + (tails (items.take index)).length

/--
The sequences that go into the encoding of a sequence: itself, and the elements and members of the
arrays and tuples in it, at any depth.
-/
inductive Level (types : List AbiType) (values : List Value) :
    List AbiType → List Value → Prop where
  | top : Level types values types values
  | array {levelTypes : List AbiType} {levelValues : List Value} (element : AbiType)
    (members : List Value) : Level types values levelTypes levelValues →
      (.array element, .array members) ∈ levelTypes.zip levelValues →
        Level types values (List.replicate members.length element) members
  | tuple {levelTypes : List AbiType} {levelValues : List Value} (name : String)
    (components : List Param) (members : List Value) : Level types values levelTypes levelValues →
      (.tuple name components, .tuple members) ∈ levelTypes.zip levelValues →
        Level types values (components.map (·.type)) members

section Heads

variable (item : Item) (items : List Item)

@[simp]
theorem tails_cons : tails (item :: items) = item.tail ++ tails items := by
  rfl

theorem headsFrom_cons (start : Nat) :
    headsFrom start (item :: items)
      = item.head start :: headsFrom (start + item.tail.length) items := by
  rw [headsFrom, List.mapIdx_cons]
  congr 1
  simp only [List.take_succ_cons, tails_cons, List.length_append, headsFrom, Nat.add_assoc]

theorem length_head (offset : Nat) : (item.head offset).length = item.headLength := by
  rw [Item.head, Item.headLength]
  split
  . exact length_toBigEndian _ _
  . rfl

theorem length_flatten_headsFrom (start : Nat) :
    (headsFrom start items).flatten.length = headsLength items := by
  induction items generalizing start with
  | nil => rfl
  | cons item items ih =>
    rw [headsFrom_cons, List.flatten_cons, List.length_append, length_head, ih]
    rfl

theorem length_flatten_heads : (heads items).flatten.length = headsLength items :=
  length_flatten_headsFrom _ _

theorem getElem?_heads (index : Nat) :
    (heads items)[index]? = items[index]?.map fun item =>
      item.head ((heads items).flatten.length + (tails (items.take index)).length) := by
  rw [length_flatten_heads, heads, headsFrom, List.getElem?_mapIdx]

theorem length_tails_take_le (items : List Item) (index : Nat) :
    (tails (items.take index)).length ≤ (tails items).length := by
  conv_rhs => rw [← List.take_append_drop index items, tails, List.flatMap_append]
  rw [List.length_append]
  exact Nat.le_add_right _ _

theorem offsetsExact_of_length_lt {items : List Item} (h : (sequence items).length < 2 ^ 64) :
    OffsetsExact items := by
  intro index item hitem hdyn
  have hle := length_tails_take_le items index
  rw [sequence, List.length_append] at h
  rw [getElem?_heads, hitem, Option.map_some]
  refine ⟨_, rfl, ?_, ?_⟩
  . rw [length_head, Item.headLength, hdyn, if_pos rfl]
  . rw [Item.head, hdyn, if_pos rfl, ofBigEndian_toBigEndian, Word.size]
    exact Nat.mod_eq_of_lt (by omega)

end Heads

end WireFormat

namespace Codec

open WireFormat

theorem numberWord_eq (n : Nat) : numberWord n = toBigEndian Word.size n :=
  Word.toBytes_ofNat n

theorem encodePacked_eq (data : Bytes) : encodePacked data = packed data := by
  have hpadding : (Word.size - data.length % Word.size) % Word.size
      = Word.size * ((data.length + (Word.size - 1)) / Word.size) - data.length := by
    rw [Word.size]
    omega
  rw [encodePacked, packed, numberWord_eq, hpadding, List.append_assoc]

theorem encodeAddress_eq (a : Address) :
    List.replicate (Word.size - Address.size) 0 ++ a.toBytes = toBigEndian Word.size a.toNat := by
  have hlt : a.toNat < 256 ^ Address.size := Nat.lt_of_lt_of_eq a.isLt (by norm_num [Address.size])
  exact (toBigEndian_add_of_lt hlt (Word.size - Address.size)).symm

/--
The parts of a sequence are the heads and the tails of its items.
-/
structure IsLaidOut (offset : Nat) (types : List AbiType) (values : List Value) (parts : Parts) :
    Prop where
  head_eq : parts.head = (headsFrom offset (itemsOf types values)).flatten
  tail_eq : parts.tail = tails (itemsOf types values)
  headSize_eq : headSize types = headsLength (itemsOf types values)

theorem isLaidOut_of_partsOf {types : List AbiType} {values : List Value} {offset : Nat}
    {parts : Parts}
    (hvalues : ∀ type ∈ types, ∀ value bytes,
      encodeValue type value = .ok bytes → bytes = encoding type value)
    (h : PartsOf offset types values parts) : IsLaidOut offset types values parts := by
  induction h with
  | nil => exact ⟨rfl, rfl, rfl⟩
  | @dynamic offset type types value values bytes rest hdyn hbytes _ ih =>
    rcases List.forall_mem_cons.mp hvalues with ⟨htype, htypes⟩
    have hitem : decide type.Dynamic = true := decide_eq_true (type.isDynamic_iff.mp hdyn)
    have hrest := ih htypes
    have hencoding := htype _ _ hbytes
    subst hencoding
    constructor
    . rw [itemsOf, headsFrom_cons, List.flatten_cons, hitem, hrest.head_eq, numberWord_eq]
      rfl
    . rw [itemsOf, tails_cons, hitem, hrest.tail_eq]
      rfl
    . rw [itemsOf, headSize_cons, AbiType.headSize_of_isDynamic hdyn, hitem, hrest.headSize_eq]
      rfl
  | @static offset type types value values bytes rest hdyn hbytes _ ih =>
    rcases List.forall_mem_cons.mp hvalues with ⟨htype, htypes⟩
    have hitem : decide type.Dynamic = false := by
      rw [decide_eq_false_iff_not, ← type.isDynamic_iff, hdyn]
      exact Bool.false_ne_true
    have hrest := ih htypes
    have hlength := (measured_encodeValue hbytes).length_of_static hdyn
    have hencoding := htype _ _ hbytes
    subst hencoding
    constructor
    . rw [itemsOf, headsFrom_cons, List.flatten_cons, hitem, hrest.head_eq]
      rfl
    . rw [itemsOf, tails_cons, hitem, hrest.tail_eq]
      rfl
    . rw [itemsOf, headSize_cons, hitem, hrest.headSize_eq, ← hlength]
      rfl

theorem IsLaidOut.bytes_eq {types : List AbiType} {values : List Value} {parts : Parts}
    (h : IsLaidOut (headSize types) types values parts) :
    parts.bytes = sequence (itemsOf types values) := by
  rw [Parts.bytes, h.head_eq, h.tail_eq, h.headSize_eq]
  rfl

theorem encodeValue_eq {type : AbiType} {value : Value} {bytes : Bytes}
    (h : encodeValue type value = .ok bytes) : bytes = encoding type value := by
  induction type generalizing value bytes with
  | bool =>
    cases hasType_of_encodeValue h with
    | bool b =>
      injection h with h
      rw [← h, numberWord_eq]
      cases b
      . rfl
      . rfl
  | uint bits =>
    cases hasType_of_encodeValue h
    simp only [encodeValue] at h
    split at h
    . contradiction
    . injection h with h
      exact h.symm
  | int bits =>
    cases hasType_of_encodeValue h
    simp only [encodeValue] at h
    split at h
    . injection h with h
      rw [← h, Word.toBytes, Int256.toNat_raw]
      rfl
    . contradiction
  | address =>
    cases hasType_of_encodeValue h
    injection h with h
    rw [← h, encodeAddress_eq]
    rfl
  | bytes | string =>
    cases hasType_of_encodeValue h
    injection h with h
    rw [← h, encodePacked_eq]
    rfl
  | array element ih =>
    cases hasType_of_encodeValue h with
    | array _ members _ =>
      rw [encodeValue_array_eq_ok_iff] at h
      rcases h with ⟨parts, hparts, rfl⟩
      rw [← headSize_replicate] at hparts
      rw [(isLaidOut_of_partsOf ?_ hparts).bytes_eq, numberWord_eq, encoding]
      intro type htype value bytes
      rw [List.eq_of_mem_replicate htype]
      exact ih
  | tuple name components ih =>
    cases hasType_of_encodeValue h with
    | tuple _ _ members _ =>
      rw [encodeValue_tuple_eq_ok_iff] at h
      rcases h with ⟨parts, hparts, rfl⟩
      rw [(isLaidOut_of_partsOf ?_ hparts).bytes_eq, encoding]
      intro type htype value bytes
      rcases List.mem_map.mp htype with ⟨param, hparam, rfl⟩
      exact ih param hparam

theorem PartsOf.isLaidOut {types : List AbiType} {values : List Value} {offset : Nat}
    {parts : Parts} (h : PartsOf offset types values parts) : IsLaidOut offset types values parts :=
  isLaidOut_of_partsOf (fun _ _ _ _ => encodeValue_eq) h

theorem PartsOf.exists_of_mem {types : List AbiType} {values : List Value} {offset : Nat}
    {parts : Parts} (h : PartsOf offset types values parts) {type : AbiType} {value : Value}
    (hmem : (type, value) ∈ types.zip values) :
    ∃ bytes, encodeValue type value = .ok bytes ∧ bytes.length ≤ parts.bytes.length := by
  induction h with
  | nil => simp at hmem
  | dynamic _ hbytes _ ih | static _ hbytes _ ih =>
    simp only [Parts.bytes, List.length_append] at ih ⊢
    rw [List.zip_cons_cons, List.mem_cons] at hmem
    cases hmem with
    | inl heq =>
      injection heq with htype hvalue
      subst htype hvalue
      exact ⟨_, hbytes, by omega⟩
    | inr hmem =>
      rcases ih hmem with ⟨bytes, hbytes, hle⟩
      exact ⟨bytes, hbytes, by omega⟩

theorem exists_partsOf_of_level {types : List AbiType} {values : List Value} {parts : Parts}
    (h : PartsOf (headSize types) types values parts) {levelTypes : List AbiType}
    {levelValues : List Value} (hlevel : Level types values levelTypes levelValues) :
    ∃ levelParts, PartsOf (headSize levelTypes) levelTypes levelValues levelParts
      ∧ levelParts.bytes.length ≤ parts.bytes.length := by
  induction hlevel with
  | top => exact ⟨parts, h, Nat.le_refl _⟩
  | array element members _ hmem ih =>
    rcases ih with ⟨outer, houter, hle⟩
    rcases houter.exists_of_mem hmem with ⟨bytes, hbytes, hlength⟩
    rw [encodeValue_array_eq_ok_iff] at hbytes
    rcases hbytes with ⟨inner, hinner, rfl⟩
    rw [← headSize_replicate] at hinner
    rw [List.length_append] at hlength
    exact ⟨inner, hinner, by omega⟩
  | tuple name components members _ hmem ih =>
    rcases ih with ⟨outer, houter, hle⟩
    rcases houter.exists_of_mem hmem with ⟨bytes, hbytes, hlength⟩
    rw [encodeValue_tuple_eq_ok_iff] at hbytes
    rcases hbytes with ⟨inner, hinner, rfl⟩
    exact ⟨inner, hinner, by omega⟩

theorem encode_wire_format (types : List AbiType) (values : List Value) (data : Bytes)
    (h : encode types values = .ok data) (hsize : data.length < 2 ^ 64) :
    data = sequence (itemsOf types values)
    ∧ Word.size ∣ data.length
    ∧ ∀ (levelTypes : List AbiType) (levelValues : List Value),
      Level types values levelTypes levelValues →
        ∃ parts, encodeParts (headSize levelTypes) levelTypes levelValues = .ok parts
          ∧ parts.bytes = sequence (itemsOf levelTypes levelValues)
          ∧ parts.head = (heads (itemsOf levelTypes levelValues)).flatten
          ∧ parts.head.length = headSize levelTypes
          ∧ OffsetsExact (itemsOf levelTypes levelValues) := by
  rcases (encode_eq_ok_iff _ _ _).mp h with ⟨parts, hparts, rfl⟩
  refine ⟨hparts.isLaidOut.bytes_eq, hparts.measured.dvd_length, ?_⟩
  intro levelTypes levelValues hlevel
  rcases exists_partsOf_of_level hparts hlevel with ⟨inner, hinner, hle⟩
  have hlaid := hinner.isLaidOut
  refine ⟨inner, hinner.encodeParts_eq, hlaid.bytes_eq, ?_, hinner.measured.length_head, ?_⟩
  . rw [hlaid.head_eq, hlaid.headSize_eq]
    rfl
  . apply offsetsExact_of_length_lt
    rw [← hlaid.bytes_eq]
    omega

-- An array of one dynamic tuple, and the members of the tuple two levels down.
set_option maxRecDepth 8000 in
theorem encode_wire_format_notes :
    numberWord 32 ++ numberWord 1 ++ numberWord 32 ++ numberWord 5 ++ numberWord 64
        ++ encodePacked [1, 2]
      = sequence (itemsOf [.array (.tuple "Note" [⟨"id", .uint 8⟩, ⟨"body", .bytes⟩])]
          [.array [.tuple [.uint 5, .bytes [1, 2]]]])
    ∧ OffsetsExact (itemsOf [.uint 8, .bytes] [.uint 5, .bytes [1, 2]]) := by
  have hencode : encode [.array (.tuple "Note" [⟨"id", .uint 8⟩, ⟨"body", .bytes⟩])]
      [.array [.tuple [.uint 5, .bytes [1, 2]]]]
      = .ok (numberWord 32 ++ numberWord 1 ++ numberWord 32 ++ numberWord 5 ++ numberWord 64
        ++ encodePacked [1, 2]) := by
    rfl
  rcases encode_wire_format _ _ _ hencode (by simp [length_encodePacked, Word.size]) with
    ⟨hdata, _, hlevels⟩
  have htop := @Level.top [.array (.tuple "Note" [⟨"id", .uint 8⟩, ⟨"body", .bytes⟩])]
    [.array [.tuple [.uint 5, .bytes [1, 2]]]]
  have hnotes := Level.array _ _ htop List.mem_cons_self
  rcases hlevels _ _ (.tuple _ _ _ hnotes List.mem_cons_self) with ⟨_, _, _, _, _, hoffsets⟩
  exact ⟨hdata, hoffsets⟩

end Codec

end MessageAbi
