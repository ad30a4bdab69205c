import Mathlib
import MessageAbi.Proofs.Json.Writing
import MessageAbi.Proofs.Yaml.JsonDocument
import MessageAbi.Yaml.Datum

/-!
This module contains the data that the text of JSON stands for as a YAML document.
-/

namespace MessageAbi.Yaml

mutual

def dataOf : Json → Datum
  | .string s => .scalar (.string s)
  | .array items => .sequence (itemData items)
  | .object members => .mapping (memberData members)
  | _ => .scalar .null

def itemData : List Json → List Datum
  | [] => []
  | item :: items => dataOf item :: itemData items

def memberData : List (String × Json) → List (Datum × Datum)
  | [] => []
  | (name, value) :: members => (.scalar (.string name), dataOf value) :: memberData members

end

namespace Datum

theorem ofTree?_string (s : String) :
    ofTree? (.scalar ⟨none, s, false⟩) = some (.scalar (.string s)) := by
  simp [ofTree?, localTag?, ScalarValue.ofScalar?, withTag?]

theorem isSame_string (s other : String) :
    isSame (.scalar (.string s)) (.scalar (.string other)) = decide (s = other) := by
  simp [isSame, ScalarValue.unsignedZero]

theorem memberData_append (members others : List (String × Json)) :
    memberData (members ++ others) = memberData members ++ memberData others := by
  induction members with
  | nil => rfl
  | cons member members ih => rw [List.cons_append, memberData, memberData, ih, List.cons_append]

theorem any_memberData (members : List (String × Json)) (name : String) :
    (memberData members).any (fun entry => isSame entry.1 (.scalar (.string name)))
      = decide (name ∈ members.map (·.1)) := by
  induction members with
  | nil => rfl
  | cons member members ih =>
    rw [memberData, List.any_cons, ih, isSame_string, ← Bool.decide_or, decide_eq_decide,
      List.map_cons, List.mem_cons, eq_comm]

theorem ofItems?_itemTrees {items : List Json}
    (h : ∀ item ∈ items, ofTree? (treeOf item) = some (dataOf item)) :
    ofItems? (itemTrees items) = some (itemData items) := by
  induction items with
  | nil => rfl
  | cons item items ih =>
    rw [List.forall_mem_cons] at h
    rw [itemTrees, ofItems?, h.1, ih h.2]
    rfl

theorem ofEntries?_memberEntries {members : List (String × Json)} (before : List (String × Json))
    (hnodup : ((before ++ members).map (·.1)).Nodup)
    (h : ∀ member ∈ members, ofTree? (treeOf member.2) = some (dataOf member.2)) :
    ofEntries? (memberEntries members) (memberData before) = some (memberData (before ++ members)) := by
  induction members generalizing before with
  | nil => rw [List.append_nil]; rfl
  | cons member members ih =>
    rw [List.forall_mem_cons] at h
    have hfresh : member.1 ∉ before.map (·.1) := by
      rw [List.map_append, List.map_cons] at hnodup
      exact fun hmem => (List.nodup_append.mp hnodup).2.2 _ hmem _ List.mem_cons_self rfl
    have hmore := ih (before ++ [member]) (by rwa [List.append_assoc]) h.2
    rw [memberData_append, List.append_assoc] at hmore
    have hany := any_memberData before member.1
    rw [decide_eq_false hfresh] at hany
    rw [memberEntries, ofEntries?, ofTree?_string, h.1]
    simpa [hany, memberData] using hmore

theorem ofTree?_treeOf {depth nesting : Nat} {json : Json} (h : OfStrings depth json)
    (hreadable : json.Readable nesting) : ofTree? (treeOf json) = some (dataOf json) := by
  induction h generalizing nesting with
  | string _ => exact ofTree?_string _
  | array _ ih =>
    cases hreadable with
    | array hitems =>
      rw [treeOf, ofTree?, ofItems?_itemTrees fun item hitem => ih item hitem (hitems item hitem)]
      rfl
  | object _ _ ih =>
    cases hreadable with
    | object hnodup hvalues =>
      have hentries := ofEntries?_memberEntries [] hnodup
        fun member hmember => ih member hmember (hvalues member hmember)
      rw [treeOf, ofTree?]
      rw [show ofEntries? (memberEntries _) [] = _ from hentries]
      rfl

end Datum

end MessageAbi.Yaml
