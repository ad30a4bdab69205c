import Mathlib
import MessageAbi.Proofs.Json.Writing
import MessageAbi.Proofs.JsonArguments.RoundTrip

/-!
This module contains that the text of written arguments is read back as the JSON that was written, unless
their types nest deeper than the reader of JSON text allows.
-/

namespace MessageAbi

namespace AbiType

mutual

def nesting : AbiType → Nat
  | array element => element.nesting + 1
  | tuple _ components => nestingOf components + 1
  | _ => 0

def nestingOf : List Param → Nat
  | [] => 0
  | ⟨_, type⟩ :: params => max type.nesting (nestingOf params)

end

theorem nestingOf_le_iff (params : List Param) (depth : Nat) :
    nestingOf params ≤ depth ↔ ∀ param ∈ params, param.type.nesting ≤ depth := by
  induction params with
  | nil => simp [nestingOf]
  | cons param params ih =>
    cases param
    simp [nestingOf, ih]

end AbiType

namespace JsonArguments

open Json

theorem readable_integer {n : Int} (hmin : -2 ^ 63 ≤ n) (hlt : n < 2 ^ 64) (depth : Nat) :
    Readable depth (.integer n) :=
  .number (Reader.numberText_text_integer hmin hlt)

theorem readable_ofMembers {depth : Nat} {members : List (String × Json)}
    (h : ∀ member ∈ members, Readable depth member.2) : Readable (depth + 1) (.ofMembers members) := by
  rcases exists_ofMembers members with ⟨kept, hkept, hnodup, hmem⟩
  rw [hkept]
  exact .object hnodup fun member hmember => h member (hmem member hmember)

theorem readable_of_mem_writeMembers {depth : Nat} {params : List Param} {values : List Value}
    {members : List (String × Json)} (h : writeMembers params values = .ok members)
    (hwrite : ∀ param ∈ params, ∀ value json, writeValue param.type value = .ok json →
      Readable depth json) : ∀ member ∈ members, Readable depth member.2 := by
  induction params generalizing values members with
  | nil =>
    obtain rfl : [] = members := Except.ok.inj h
    nofun
  | cons param params ih =>
    rcases param with ⟨name, type⟩
    cases values with
    | nil =>
      obtain rfl : [] = members := Except.ok.inj h
      nofun
    | cons value values =>
      simp only [writeMembers, bind_eq_ok_iff, pure_eq_ok_iff] at h
      rcases h with ⟨json, hjson, rest, hrest, rfl⟩
      rw [List.forall_mem_cons]
      refine ⟨hwrite ⟨name, type⟩ List.mem_cons_self value json hjson, ih hrest ?_⟩
      exact fun other hother => hwrite other (List.mem_cons_of_mem _ hother)

theorem readable_of_write {depth : Nat} {params : List Param} {values : List Value} {json : Json}
    (h : write params values = .ok json)
    (hwrite : ∀ param ∈ params, ∀ value json, writeValue param.type value = .ok json →
      Readable depth json) : Readable (depth + 1) json := by
  simp only [write, ite_throw_eq_ok_iff, bind_eq_ok_iff, pure_eq_ok_iff] at h
  rcases h with ⟨_, members, hmembers, rfl⟩
  exact readable_ofMembers (readable_of_mem_writeMembers hmembers hwrite)

theorem readable_of_writeValue_uint {bits : Nat} {value : Value} {json : Json}
    (h : writeValue (.uint bits) value = .ok json) (depth : Nat) : Readable depth json := by
  cases value with
  | uint n =>
    rw [writeValue] at h
    split at h
    . next hsmall =>
      obtain rfl := Except.ok.inj h
      have hlt : n.toNat < 2 ^ 64 := (n.bitLength_le_iff 64).mp hsmall.2
      exact readable_integer (by omega) (by exact_mod_cast hlt) depth
    . obtain rfl := Except.ok.inj h
      exact .string _
  | _ => contradiction

theorem readable_of_writeValue_int {bits : Nat} {value : Value} {json : Json}
    (h : writeValue (.int bits) value = .ok json) (depth : Nat) : Readable depth json := by
  cases value with
  | int n =>
    rw [writeValue] at h
    split at h
    . split at h
      . split at h
        . next small _ hrange =>
          obtain rfl := Except.ok.inj h
          have hlt : small < 2 ^ 63 := hrange.2
          exact readable_integer hrange.1 (by omega) depth
        . obtain rfl := Except.ok.inj h
          exact .string _
      . obtain rfl := Except.ok.inj h
        exact .string _
    . obtain rfl := Except.ok.inj h
      exact .string _
  | _ => contradiction

theorem readable_of_writeValue {type : AbiType} {value : Value} {json : Json} {depth : Nat}
    (h : writeValue type value = .ok json) (hdepth : type.nesting ≤ depth) : Readable depth json := by
  induction type generalizing value json depth with
  | bool =>
    cases value with
    | bool b =>
      obtain rfl : .bool b = json := Except.ok.inj h
      exact .bool b
    | _ => contradiction
  | uint bits => exact readable_of_writeValue_uint h depth
  | int bits => exact readable_of_writeValue_int h depth
  | address =>
    cases value with
    | address a =>
      obtain rfl := Except.ok.inj h
      exact .string _
    | _ => contradiction
  | bytes =>
    cases value with
    | bytes b =>
      obtain rfl := Except.ok.inj h
      exact .string _
    | _ => contradiction
  | string =>
    cases value with
    | string s =>
      obtain rfl := Except.ok.inj h
      exact .string _
    | _ => contradiction
  | array element ih =>
    cases value with
    | array items =>
      simp only [writeValue, bind_eq_ok_iff, pure_eq_ok_iff, mapM_eq_ok_iff] at h
      rcases h with ⟨jsons, hjsons, rfl⟩
      cases depth with
      | zero => contradiction
      | succ depth =>
        apply Readable.array
        intro json hjson
        rcases exists_mem_of_forall₂ hjsons hjson with ⟨item, _, hitem⟩
        exact ih hitem (Nat.le_of_succ_le_succ hdepth)
    | _ => contradiction
  | tuple name components ih =>
    cases value with
    | tuple members =>
      rw [writeValue_tuple] at h
      cases depth with
      | zero => contradiction
      | succ depth =>
        apply readable_of_write h
        intro param hparam value json hjson
        apply ih param hparam hjson
        exact (AbiType.nestingOf_le_iff components depth).mp (Nat.le_of_succ_le_succ hdepth) param hparam
    | _ => contradiction

theorem readable_of_nesting {depth : Nat} {params : List Param} {values : List Value} {json : Json}
    (h : write params values = .ok json) (hdepth : ∀ param ∈ params, param.type.nesting ≤ depth) :
    Readable (depth + 1) json :=
  readable_of_write h fun param hparam _ _ hvalue => readable_of_writeValue hvalue (hdepth param hparam)

end JsonArguments

end MessageAbi
