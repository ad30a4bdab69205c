import Mathlib
import MessageAbi.Json.Basic

/-!
This module contains what the members of an object are: different names always, and all members given if
no name is given twice.
-/

namespace MessageAbi.Json

theorem insertMember_of_fresh {name : String} {value : Json} {members : List (String × Json)}
    (h : name ∉ members.map (·.1)) :
    insertMember name value members = members ++ [(name, value)] := by
  induction members with
  | nil => rfl
  | cons member members ih =>
    rcases member with ⟨other, otherValue⟩
    simp only [List.map_cons, List.mem_cons, not_or] at h
    rw [insertMember, if_neg (Ne.symm h.1), ih h.2, List.cons_append]

theorem foldl_insertMember {members rest : List (String × Json)}
    (h : ((members ++ rest).map (·.1)).Nodup) :
    rest.foldl (fun acc (name, value) => insertMember name value acc) members
      = members ++ rest := by
  induction rest generalizing members with
  | nil => rw [List.foldl_nil, List.append_nil]
  | cons member rest ih =>
    rcases member with ⟨name, value⟩
    have hfresh : name ∉ members.map (·.1) := by
      rw [List.map_append, List.map_cons, List.nodup_middle, List.nodup_cons] at h
      intro hmem
      exact h.1 (List.mem_append_left _ hmem)
    rw [List.append_cons] at h ⊢
    rw [List.foldl_cons]
    simp only [insertMember_of_fresh hfresh, ih h]

theorem ofMembers_of_nodup {members : List (String × Json)} (h : (members.map (·.1)).Nodup) :
    ofMembers members = .object members := by
  rw [ofMembers, foldl_insertMember (by simpa using h), List.nil_append]

theorem mem_insertMember {name : String} {value : Json} {members : List (String × Json)}
    {member : String × Json} (h : member ∈ insertMember name value members) :
    member = (name, value) ∨ member ∈ members := by
  induction members with
  | nil => simpa [insertMember] using h
  | cons other members ih =>
    rw [insertMember] at h
    split at h
    . rcases List.mem_cons.mp h with rfl | h
      . exact .inl rfl
      . exact .inr (List.mem_cons_of_mem _ h)
    . rcases List.mem_cons.mp h with rfl | h
      . exact .inr List.mem_cons_self
      . exact (ih h).imp_right (List.mem_cons_of_mem _)

theorem nodup_insertMember (name : String) (value : Json) {members : List (String × Json)}
    (h : (members.map (·.1)).Nodup) : ((insertMember name value members).map (·.1)).Nodup := by
  induction members with
  | nil => simp [insertMember]
  | cons other members ih =>
    rw [List.map_cons, List.nodup_cons] at h
    rw [insertMember]
    split
    . next heq =>
      rw [List.map_cons, List.nodup_cons, ← heq]
      exact h
    . next hne =>
      rw [List.map_cons, List.nodup_cons]
      refine ⟨?_, ih h.2⟩
      intro hmem
      rcases List.mem_map.mp hmem with ⟨member, hmember, hname⟩
      rcases mem_insertMember hmember with rfl | hmember
      . exact hne hname.symm
      . exact h.1 (List.mem_map.mpr ⟨member, hmember, hname⟩)

theorem foldl_insertMember_spec (rest : List (String × Json)) {members : List (String × Json)}
    (h : (members.map (·.1)).Nodup) :
    ((rest.foldl (fun acc (name, value) => insertMember name value acc) members).map (·.1)).Nodup
    ∧ ∀ member ∈ rest.foldl (fun acc (name, value) => insertMember name value acc) members,
      member ∈ members ∨ member ∈ rest := by
  induction rest generalizing members with
  | nil => exact ⟨h, fun member hmember => .inl hmember⟩
  | cons other rest ih =>
    rcases ih (nodup_insertMember other.1 other.2 h) with ⟨hnodup, hmem⟩
    refine ⟨hnodup, ?_⟩
    intro member hmember
    rcases hmem member hmember with hmember | hmember
    . rcases mem_insertMember hmember with rfl | hmember
      . exact .inr List.mem_cons_self
      . exact .inl hmember
    . exact .inr (List.mem_cons_of_mem _ hmember)

theorem exists_ofMembers (members : List (String × Json)) :
    ∃ kept, ofMembers members = .object kept ∧ (kept.map (·.1)).Nodup
      ∧ ∀ member ∈ kept, member ∈ members := by
  have hempty : (([] : List (String × Json)).map (·.1)).Nodup := List.nodup_nil
  rcases foldl_insertMember_spec members hempty with ⟨hnodup, hmem⟩
  exact ⟨_, rfl, hnodup, fun member hmember => by simpa using hmem member hmember⟩

end MessageAbi.Json
