import Mathlib
import MessageAbi.Proofs.Codec.Call
import MessageAbi.Proofs.Codec.Machine
import MessageAbi.Proofs.Word

/-!
This module contains that the machine never stops while it reads values, whatever the data: its runs
are those of the reader that counts in natural numbers. An addition that nobody checks comes after the
reading of a word at the same place, so its sum lies in the data.
-/

namespace MessageAbi

namespace AbiType

mutual

def headSizesFit : AbiType → Bool
  | array element => element.headSizesFit
  | tuple name components =>
    decide ((tuple name components).headSize < 2 ^ 64) && allHeadSizesFit components
  | _ => true

def allHeadSizesFit : List Param → Bool
  | [] => true
  | ⟨_, type⟩ :: params => type.headSizesFit && allHeadSizesFit params

end

theorem allHeadSizesFit_iff (params : List Param) :
    allHeadSizesFit params = true ↔ ∀ param ∈ params, param.type.headSizesFit = true := by
  induction params with
  | nil => simp [allHeadSizesFit]
  | cons param params ih => cases param; simp [allHeadSizesFit, ih]

theorem headSizesFit_tuple_iff (name : String) (components : List Param) :
    (tuple name components).headSizesFit = true
      ↔ (tuple name components).headSize < 2 ^ 64
        ∧ ∀ param ∈ components, param.type.headSizesFit = true := by
  simp [headSizesFit, allHeadSizesFit_iff]

theorem headSize_lt_of_headSizesFit {type : AbiType} (h : type.headSizesFit = true) :
    type.headSize < 2 ^ 64 := by
  cases type with
  | tuple name components => exact ((headSizesFit_tuple_iff name components).mp h).1
  | _ => simp [headSize, Word.size]

end AbiType

namespace Codec

namespace Machine

/--
The run of a machine ends, from any budget, as that of a reader does, with results that are related.
-/
def Simulates {α β : Type} (x : Machine α) (y : Decoder β) (Q : α → β → Prop) : Prop :=
  ∀ budget : UInt64,
    match y.run budget.toNat with
    | .ok (b, rest) => ∃ a left, (x.run budget).run = .ok (.ok (a, left)) ∧ left.toNat = rest ∧ Q a b
    | .error error => (x.run budget).run = .ok (.error error)

namespace Simulates

variable {α β γ δ : Type} {Q : α → β → Prop} {P : γ → δ → Prop}

theorem pure {a : α} {b : β} (h : Q a b) : Simulates (pure a) (pure b) Q := by
  intro budget
  exact ⟨a, budget, rfl, rfl, h⟩

theorem fail (fault : PayloadFault) : Simulates (Machine.fail fault) (Metered.fail fault) Q := by
  intro budget
  rfl

theorem bind {x : Machine α} {y : Decoder β} {f : α → Machine γ} {g : β → Decoder δ}
    (hx : Simulates x y Q) (hf : ∀ a b, Q a b → Simulates (f a) (g b) P) :
    Simulates (x >>= f) (y >>= g) P := by
  intro budget
  have hrun := hx budget
  rw [StateT.run_bind, StateT.run_bind, ExceptT.run_bind]
  cases hy : y.run budget.toNat with
  | ok result =>
    rcases result with ⟨b, rest⟩
    simp only [hy] at hrun
    rcases hrun with ⟨a, left, hleft, rfl, hQ⟩
    rw [hleft]
    exact hf a b hQ left
  | error error =>
    simp only [hy] at hrun
    rw [hrun]
    rfl

theorem imp {x : Machine α} {y : Decoder β} {R : α → β → Prop} (hx : Simulates x y Q)
    (himp : ∀ a b, Q a b → R a b) : Simulates x y R := by
  intro budget
  have hrun := hx budget
  cases hy : y.run budget.toNat with
  | ok result =>
    simp only [hy] at hrun
    rcases hrun with ⟨a, left, hleft, hrest, hQ⟩
    exact ⟨a, left, hleft, hrest, himp _ _ hQ⟩
  | error error =>
    simp only [hy] at hrun
    exact hrun

theorem spend (count position : UInt64) :
    Simulates (Machine.spend count position) (Metered.spend count.toNat position.toNat)
      fun _ _ => True := by
  intro budget
  have hspend : (Metered.spend count.toNat position.toNat : Decoder Unit)
      = Decoder.spend count.toNat position.toNat := by
    rfl
  rw [hspend]
  simp only [Decoder.spend, Machine.spend, StateT.run_bind, StateT.run_get, pure_bind,
    UInt64.le_iff_toNat_le]
  by_cases h : count.toNat ≤ budget.toNat
  . rw [if_pos h, if_pos h]
    exact ⟨(), budget - count, rfl, UInt64.toNat_sub_of_le _ _ h, trivial⟩
  . rw [if_neg h, if_neg h]
    rfl

end Simulates

section Arithmetic

variable {a b : UInt64}

theorem toNat_ofNat_of_lt {n : Nat} (h : n < 2 ^ 64) : (UInt64.ofNat n).toNat = n :=
  UInt64.toNat_ofNat_of_lt' h

theorem toNat_add_of_lt (h : a.toNat + b.toNat < 2 ^ 64) : (a + b).toNat = a.toNat + b.toNat := by
  rw [UInt64.toNat_add]
  exact Nat.mod_eq_of_lt h

theorem add_eq_pure (h : a.toNat + b.toNat < 2 ^ 64) : add a b = pure (a + b) :=
  if_pos h

theorem toNat_max (a b : UInt64) : (max a b).toNat = max a.toNat b.toNat := by
  rw [Nat.max_def]
  change (if a ≤ b then b else a).toNat = _
  simp only [UInt64.le_iff_toNat_le]
  split
  . rfl
  . rfl

theorem divide_eq_pure (h : b ≠ 0) : divide a b = pure (a / b) :=
  if_neg h

theorem slice_front {bytes : Bytes} {stop : Nat} (h : stop ≤ bytes.length) :
    slice bytes 0 stop = pure (bytes.take stop) :=
  if_pos ⟨Nat.zero_le stop, h⟩

theorem slice_back {bytes : Bytes} {start : Nat} (h : start ≤ bytes.length) :
    slice bytes start bytes.length = pure (bytes.drop start) := by
  rw [slice, if_pos ⟨h, Nat.le_refl _⟩, List.take_of_length_le (by simp)]

theorem index_eq_pure {bytes : Bytes} {place : Nat} (h : place < bytes.length) :
    index bytes place = pure bytes[place] := by
  rw [index, List.getElem?_eq_getElem h]

theorem range?_eq (data : Bytes) (hdata : data.length < 2 ^ 64) (position count : UInt64) :
    range? data position count
      = if position.toNat + count.toNat ≤ data.length then
          some ((data.drop position.toNat).take count.toNat)
        else
          none := by
  unfold range? checkedAdd?
  by_cases hlt : position.toNat + count.toNat < 2 ^ 64
  . have hadd := toNat_add_of_lt hlt
    have hcount : position + count - position = count := by
      rw [UInt64.add_comm, UInt64.add_sub_cancel]
    simp only [if_pos hlt, Option.bind_some, UInt64.le_iff_toNat_le, hadd, hcount,
      Nat.le_add_right, true_and]
  . have hout : ¬ position.toNat + count.toNat ≤ data.length := by omega
    rw [if_neg hlt, if_neg hout]
    rfl

end Arithmetic

theorem headSizes_eq_pure {params : List Param}
    (hparams : ∀ param ∈ params, headSize param.type = pure (UInt64.ofNat param.type.headSize))
    (total : Nat) (h : total + AbiType.headSizes params < 2 ^ 64) :
    headSizes params (UInt64.ofNat total)
      = pure (UInt64.ofNat (total + AbiType.headSizes params)) := by
  induction params generalizing total with
  | nil => rfl
  | cons param params ih =>
    rcases param with ⟨name, type⟩
    rcases List.forall_mem_cons.mp hparams with ⟨htype, hrest⟩
    rw [AbiType.headSizes, ← Nat.add_assoc] at h ⊢
    have hadd : (UInt64.ofNat total).toNat + (UInt64.ofNat type.headSize).toNat < 2 ^ 64 := by
      rw [toNat_ofNat_of_lt (by omega), toNat_ofNat_of_lt (by omega)]
      omega
    rw [headSizes, htype, pure_bind, add_eq_pure hadd, pure_bind, ← UInt64.ofNat_add, ih hrest _ h]

theorem headSize_eq_pure {type : AbiType} (h : type.headSizesFit = true) :
    headSize type = pure (UInt64.ofNat type.headSize) := by
  induction type with
  | tuple name components ih =>
    have hlt := AbiType.headSize_lt_of_headSizesFit h
    rcases (AbiType.headSizesFit_tuple_iff name components).mp h with ⟨_, hcomponents⟩
    rw [headSize, AbiType.headSize]
    split
    . rfl
    . next hstatic =>
      rw [AbiType.headSize, if_neg hstatic] at hlt
      have hsum := headSizes_eq_pure
        (fun param hparam => ih param hparam (hcomponents param hparam)) 0 (by omega)
      rwa [Nat.zero_add] at hsum
  | _ => rfl

section Reading

variable {data : Bytes} (hdata : data.length < 2 ^ 63)

include hdata

theorem word_simulates (position : UInt64) :
    Simulates (word data position) (Metered.word data position.toNat) fun bytes others =>
      bytes = others ∧ bytes.length = Word.size
        ∧ position.toNat + Word.size ≤ data.length := by
  have hrange := range?_eq data (by omega) position wordSize
  have hsize : wordSize.toNat = Word.size := by rfl
  rw [hsize] at hrange
  unfold word Metered.word
  rw [hrange]
  by_cases hle : position.toNat + Word.size ≤ data.length
  . rw [if_pos hle, if_pos hle]
    apply (Simulates.spend wordSize position).bind
    intro _ _ _
    apply Simulates.pure
    refine ⟨rfl, ?_, hle⟩
    rw [List.length_take, List.length_drop]
    omega
  . rw [if_neg hle, if_neg hle]
    apply Simulates.fail

theorem number_simulates (position : UInt64) :
    Simulates (number data position) (Metered.number data position.toNat) fun n m =>
      n.toNat = m ∧ position.toNat + Word.size ≤ data.length := by
  unfold number Metered.number
  apply (word_simulates hdata position).bind
  rintro bytes _ ⟨rfl, hlength, hle⟩
  have hlt := ofBigEndian_lt_iff_take bytes 24
  have hpow : Nat.pow 2 64 = 256 ^ (bytes.length - 24) := by
    rw [hlength]
    norm_num [Word.size]
  rw [slice_front (by rw [hlength]; decide), pure_bind]
  cases hhigh : (bytes.take 24).any (· ≠ 0) with
  | true =>
    rw [hhigh, ← hpow] at hlt
    rw [if_pos rfl, if_neg (by simp [hlt])]
    apply Simulates.fail
  | false =>
    have hfits := hlt.mpr hhigh
    rw [← hpow] at hfits
    rw [if_neg Bool.false_ne_true, if_pos hfits, slice_back (by rw [hlength]; decide), pure_bind]
    apply Simulates.pure
    rw [← ofBigEndian_of_take hhigh]
    exact ⟨toNat_ofNat_of_lt hfits, hle⟩

theorem capacity_eq_pure {element : AbiType} (h : element.headSizesFit = true)
    (start : UInt64) :
    capacity data element start
      = pure (UInt64.ofNat ((data.length - start.toNat) / max element.headSize 1)) := by
  have hsize := toNat_ofNat_of_lt (AbiType.headSize_lt_of_headSizesFit h)
  have hlength : (UInt64.ofNat data.length).toNat = data.length := toNat_ofNat_of_lt (by omega)
  have hpositive : max (UInt64.ofNat element.headSize) 1 ≠ 0 := by
    intro hzero
    have := congrArg UInt64.toNat hzero
    rw [toNat_max] at this
    simp at this
  rw [capacity, headSize_eq_pure h, pure_bind, divide_eq_pure hpositive]
  congr 1
  apply UInt64.toNat_inj.mp
  have hle : (data.length - start.toNat) / max element.headSize 1 ≤ data.length :=
    (Nat.div_le_self _ _).trans (Nat.sub_le _ _)
  rw [UInt64.toNat_div, toNat_max, hsize, toNat_ofNat_of_lt (by omega)]
  congr 1
  split
  . next hinside =>
    rw [UInt64.toNat_sub_of_le _ _ hinside, hlength]
  . next houtside =>
    rw [UInt64.le_iff_toNat_le, hlength] at houtside
    simp
    omega

theorem packed_simulates (position : UInt64) :
    Simulates (packed data position) (Metered.packed data position.toNat) fun bytes others =>
      bytes = others := by
  unfold packed Metered.packed
  apply (number_simulates hdata position).bind
  rintro count _ ⟨rfl, hle⟩
  have hsize : wordSize.toNat = Word.size := by rfl
  have hadd : position.toNat + wordSize.toNat < 2 ^ 64 := by omega
  have hstart := toNat_add_of_lt hadd
  rw [hsize] at hstart
  rw [add_eq_pure hadd, pure_bind, range?_eq data (by omega), hstart]
  dsimp only
  by_cases hbytes : position.toNat + Word.size + count.toNat ≤ data.length
  . rw [if_pos hbytes, if_pos hbytes]
    have hspend := Simulates.spend count (position + wordSize)
    rw [hstart] at hspend
    apply hspend.bind
    intro _ _ _
    apply Simulates.pure
    rfl
  . rw [if_neg hbytes, if_neg hbytes]
    apply Simulates.fail

/--
What a member leaves behind it: the head after it begins within the data, or where it began itself.
-/
def Advances (data : Bytes) (head : UInt64) (size : Nat) : Prop :=
  size = 0 ∨ head.toNat + size ≤ data.length

theorem member_simulates {type : AbiType}
    (hvalue : ∀ position, Simulates (value data type position)
      (Metered.value data type position.toNat) fun v w =>
        v = w ∧ (type.isDynamic = false → Advances data position type.headSize))
    (base head : UInt64) :
    Simulates (member data type.isDynamic (value data type) base head)
      (Metered.member data type.isDynamic (Metered.value data type) base.toNat head.toNat)
      fun v w => v = w ∧ Advances data head type.headSize := by
  unfold member Metered.member
  cases hdyn : type.isDynamic with
  | true =>
    simp only [if_true]
    apply (number_simulates hdata head).bind
    rintro offset _ ⟨rfl, hle⟩
    unfold checkedAdd?
    by_cases hlt : base.toNat + offset.toNat < 2 ^ 64
    . have hpow : base.toNat + offset.toNat < Nat.pow 2 64 := hlt
      have hposition := hvalue (base + offset)
      rw [toNat_add_of_lt hlt] at hposition
      rw [if_pos hlt, if_pos hpow]
      apply hposition.imp
      rintro v w ⟨heq, _⟩
      rw [AbiType.headSize_of_isDynamic hdyn]
      exact ⟨heq, .inr hle⟩
    . have hpow : ¬ base.toNat + offset.toNat < Nat.pow 2 64 := hlt
      rw [if_neg hlt, if_neg hpow]
      apply Simulates.fail
  | false =>
    simp only [Bool.false_eq_true, if_false]
    apply (hvalue head).imp
    rintro v w ⟨heq, hstatic⟩
    exact ⟨heq, hstatic hdyn⟩

theorem sequence_simulates_of_values {types : List AbiType}
    (hfit : ∀ type ∈ types, type.headSizesFit = true)
    (hvalues : ∀ type ∈ types, ∀ position, Simulates (value data type position)
      (Metered.value data type position.toNat) fun v w =>
        v = w ∧ (type.isDynamic = false → Advances data position type.headSize))
    (base head : UInt64) :
    Simulates (sequence data types base head)
      (Metered.sequence data types base.toNat head.toNat) fun vs ws =>
        vs = ws ∧ Advances data head (Codec.headSize types) := by
  induction types generalizing head with
  | nil =>
    apply Simulates.pure
    exact ⟨rfl, .inl rfl⟩
  | cons type types ih =>
    rcases List.forall_mem_cons.mp hfit with ⟨htype, hrest⟩
    rcases List.forall_mem_cons.mp hvalues with ⟨hvalue, hvalues⟩
    have hlt := AbiType.headSize_lt_of_headSizesFit htype
    have hsize := toNat_ofNat_of_lt hlt
    unfold sequence Metered.sequence
    apply (member_simulates hdata hvalue base head).bind
    rintro first _ ⟨rfl, hfirst⟩
    rw [headSize_eq_pure htype, pure_bind]
    -- A member without bytes leaves the head where it is, any other one was read within the data.
    have hadd : head.toNat + (UInt64.ofNat type.headSize).toNat < 2 ^ 64 := by
      have := head.toNat_lt
      rw [hsize]
      cases hfirst with
      | inl hzero => omega
      | inr hle => omega
    have hhead := toNat_add_of_lt hadd
    rw [hsize] at hhead
    rw [add_eq_pure hadd, pure_bind, ← hhead]
    apply (ih hrest hvalues _).bind
    rintro rest _ ⟨rfl, hafter⟩
    apply Simulates.pure
    refine ⟨rfl, ?_⟩
    rw [Advances, hhead] at hafter
    rw [Advances, headSize_cons]
    cases hfirst with
    | inl hzero => omega
    | inr hle => omega

theorem scalar_simulates {type : AbiType} (hsize : type.headSize = Word.size)
    {f : Bytes → Machine Value} {g : Bytes → Decoder Value}
    (hread : ∀ bytes, bytes.length = Word.size → Simulates (f bytes) (g bytes) fun v w => v = w)
    (position : UInt64) :
    Simulates (word data position >>= f) (Metered.word data position.toNat >>= g) fun v w =>
      v = w ∧ (type.isDynamic = false → Advances data position type.headSize) := by
  apply (word_simulates hdata position).bind
  rintro bytes _ ⟨rfl, hlength, hle⟩
  apply (hread bytes hlength).imp
  intro v w heq
  rw [hsize]
  exact ⟨heq, fun _ => .inr hle⟩

theorem bool_simulates (position : UInt64) :
    Simulates (value data .bool position) (Metered.value data .bool position.toNat) fun v w =>
      v = w ∧ (AbiType.bool.isDynamic = false →
        Advances data position AbiType.bool.headSize) := by
  unfold value Metered.value
  apply scalar_simulates hdata rfl
  intro bytes hlength
  have hlast : 31 < bytes.length := by
    rw [hlength]
    decide
  have hlt := ofBigEndian_lt_iff_take bytes 31
  rw [hlength, show 256 ^ (Word.size - 31) = 256 from rfl] at hlt
  rw [slice_front hlast.le, pure_bind]
  cases hhigh : (bytes.take 31).any (· ≠ 0) with
  | true =>
    rw [hhigh] at hlt
    rw [if_pos rfl, if_neg (by simp at hlt; omega)]
    apply Simulates.fail
  | false =>
    have hdrop : bytes.drop 31 = [bytes[31]] := by
      rw [List.drop_eq_getElem_cons hlast, List.drop_of_length_le (i := 31 + 1) hlength.le]
    have hvalue := ofBigEndian_of_take hhigh
    rw [hdrop, show ofBigEndian [bytes[31]] = bytes[31].toNat by simp [ofBigEndian]] at hvalue
    rw [if_neg Bool.false_ne_true, index_eq_pure hlast, pure_bind, hvalue]
    have hover : bytes[31] > 1 ↔ ¬ bytes[31].toNat ≤ 1 := by
      rw [gt_iff_lt, UInt8.lt_iff_toNat_lt, Nat.not_le]
      rfl
    have hone : (bytes[31] == 1) = (bytes[31].toNat == 1) := by
      rw [Bool.eq_iff_iff, beq_iff_eq, beq_iff_eq, ← UInt8.toNat_inj]
      rfl
    simp only [hover, hone, ite_not]
    split
    . exact Simulates.pure rfl
    . apply Simulates.fail

theorem value_simulates {type : AbiType} (hfit : type.headSizesFit = true) (position : UInt64) :
    Simulates (value data type position) (Metered.value data type position.toNat) fun v w =>
      v = w ∧ (type.isDynamic = false → Advances data position type.headSize) := by
  induction type generalizing position with
  | bool => exact bool_simulates hdata position
  | uint bits =>
    unfold value Metered.value
    apply scalar_simulates hdata rfl
    intro bytes _
    dsimp only
    split
    . exact Simulates.pure rfl
    . apply Simulates.fail
  | int bits =>
    unfold value Metered.value
    apply scalar_simulates hdata rfl
    intro bytes _
    dsimp only
    split
    . exact Simulates.pure rfl
    . apply Simulates.fail
  | address =>
    unfold value Metered.value
    apply scalar_simulates hdata rfl
    intro bytes hlength
    rw [slice_front (by rw [hlength]; decide), pure_bind]
    change Simulates (if (bytes.take 12).any (· ≠ 0) then _ else _)
      (if (bytes.take 12).any (· ≠ 0) then _ else _) _
    split
    . apply Simulates.fail
    . rw [slice_back (by rw [hlength]; decide), pure_bind]
      exact Simulates.pure rfl
  | bytes =>
    unfold value Metered.value
    apply (packed_simulates hdata position).bind
    rintro bytes _ rfl
    apply Simulates.pure
    exact ⟨rfl, Bool.noConfusion⟩
  | string =>
    unfold value Metered.value
    apply (packed_simulates hdata position).bind
    rintro bytes _ rfl
    cases String.fromUTF8? ⟨bytes.toArray⟩ with
    | some s =>
      apply Simulates.pure
      exact ⟨rfl, Bool.noConfusion⟩
    | none => apply Simulates.fail
  | array element ih =>
    have helement : element.headSizesFit = true := hfit
    unfold value Metered.value
    apply (number_simulates hdata position).bind
    rintro count _ ⟨rfl, hle⟩
    have hadd : position.toNat + wordSize.toNat < 2 ^ 64 := by
      change position.toNat + Word.size < 2 ^ 64
      omega
    have hstart : (position + wordSize).toNat = position.toNat + Word.size := toNat_add_of_lt hadd
    have hle' : (data.length - (position.toNat + Word.size)) / max element.headSize 1 ≤ data.length :=
      (Nat.div_le_self _ _).trans (Nat.sub_le _ _)
    rw [add_eq_pure hadd, pure_bind, capacity_eq_pure hdata helement, pure_bind, hstart]
    simp only [gt_iff_lt, UInt64.lt_iff_toNat_lt]
    rw [toNat_ofNat_of_lt (by omega), ← hstart]
    split
    . apply Simulates.fail
    . rw [repeated_eq_sequence, Metered.repeated_eq_sequence]
      apply (sequence_simulates_of_values hdata ?_ ?_ _ _).bind
      . rintro items _ ⟨rfl, _⟩
        apply Simulates.pure
        exact ⟨rfl, Bool.noConfusion⟩
      . intro type htype
        rw [List.eq_of_mem_replicate htype]
        exact helement
      . intro type htype
        rw [List.eq_of_mem_replicate htype]
        exact ih helement
  | tuple name components ih =>
    rcases (AbiType.headSizesFit_tuple_iff name components).mp hfit with ⟨_, hcomponents⟩
    unfold value Metered.value
    rw [members_eq_sequence, Metered.members_eq_sequence]
    apply (sequence_simulates_of_values hdata ?_ ?_ position position).bind
    . rintro members _ ⟨rfl, hadvances⟩
      apply Simulates.pure
      refine ⟨rfl, ?_⟩
      intro hstatic
      rwa [AbiType.headSize_tuple_of_static hstatic]
    . intro type htype
      rcases List.mem_map.mp htype with ⟨param, hparam, rfl⟩
      exact hcomponents param hparam
    . intro type htype
      rcases List.mem_map.mp htype with ⟨param, hparam, rfl⟩
      exact ih param hparam (hcomponents param hparam)

theorem sequence_simulates {types : List AbiType}
    (hfit : ∀ type ∈ types, type.headSizesFit = true) (base head : UInt64) :
    Simulates (sequence data types base head)
      (Metered.sequence data types base.toNat head.toNat) fun vs ws => vs = ws := by
  have hvalues := fun type htype => value_simulates hdata (hfit type htype)
  apply (sequence_simulates_of_values hdata hfit hvalues base head).imp
  rintro vs ws ⟨heq, _⟩
  exact heq

theorem decode_eq {types : List AbiType} (hfit : ∀ type ∈ types, type.headSizesFit = true) :
    decode types data = .ok (Codec.decode types data) := by
  have hlength : (UInt64.ofNat data.length).toNat = data.length := toNat_ofNat_of_lt (by omega)
  have hrun := sequence_simulates hdata hfit 0 0 (UInt64.ofNat data.length)
  rw [hlength] at hrun
  rw [decode, Codec.decode, StateT.run'_eq, StateT.run'_eq]
  cases hvalues : (Metered.sequence data types 0 0 : Decoder (List Value)).run data.length with
  | ok result =>
    rcases result with ⟨values, rest⟩
    simp only [UInt64.toNat_zero, hvalues] at hrun
    rcases hrun with ⟨_, left, hleft, _, rfl⟩
    exact (ExceptT.run_map _ _).trans (congrArg (Except.map (Except.map Prod.fst)) hleft)
  | error error =>
    simp only [UInt64.toNat_zero, hvalues] at hrun
    exact (ExceptT.run_map _ _).trans (congrArg (Except.map (Except.map Prod.fst)) hrun)

end Reading

end Machine

theorem decode_never_traps (types : List AbiType) (data : Bytes)
    (hfit : ∀ type ∈ types, type.headSizesFit = true) (hdata : data.length ≤ 2 ^ 63 - 1) :
    Machine.decode types data = .ok (decode types data)
      ∧ ((∃ values, decode types data = .ok values)
        ∨ ∃ fault, decode types data = .error (.malformedPayload fault)) := by
  constructor
  . exact Machine.decode_eq (by omega) hfit
  . cases hdecode : decode types data with
    | ok values => exact .inl ⟨values, rfl⟩
    | error error =>
      rcases malformed_of_decode hdecode with ⟨fault, rfl⟩
      exact .inr ⟨fault, rfl⟩

-- The offset leads to the last 64-bit number, where a tuple without components is read before a text.
set_option maxRecDepth 8000 in
theorem decode_never_traps_farOffset :
    Machine.decode [.tuple "Far" [⟨"empty", .tuple "Empty" []⟩, ⟨"text", .string⟩]]
        (numberWord (2 ^ 64 - 1))
      = .ok (.error (.malformedPayload (.wordOutOfBounds (2 ^ 64 - 1) 32))) := by
  have hdecode : decode [.tuple "Far" [⟨"empty", .tuple "Empty" []⟩, ⟨"text", .string⟩]]
      (numberWord (2 ^ 64 - 1))
        = .error (.malformedPayload (.wordOutOfBounds (2 ^ 64 - 1) 32)) := by
    rfl
  rw [← hdecode]
  exact (decode_never_traps _ _ (by decide) (by decide)).1

end Codec

end MessageAbi
