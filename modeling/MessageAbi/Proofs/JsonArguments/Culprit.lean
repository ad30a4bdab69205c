import Mathlib
import MessageAbi.Proofs.JsonArguments.Reading

/-!
This module contains where the reading of JSON fails. The path of an error leads past everything that can
be read to a part that cannot be read for a reason of its own, or to a member that is missing.
-/

namespace MessageAbi

namespace AbiError

def under (path : JsonPath) : AbiError → AbiError
  | invalidJson rest fault => invalidJson (path ++ rest) fault
  | error => error

def withPath (path : JsonPath) : AbiError → AbiError
  | invalidJson _ fault => invalidJson path fault
  | error => error

theorem under_withPath (path rest : JsonPath) (error : AbiError) :
    (error.withPath rest).under path = error.withPath (path ++ rest) := by
  cases error <;> rfl

theorem under_eq_invalidJson_iff {path whole : JsonPath} {error : AbiError} {fault : JsonFault} :
    error.under path = .invalidJson whole fault
      ↔ ∃ rest, error = .invalidJson rest fault ∧ whole = path ++ rest := by
  cases error with
  | invalidJson rest fault' =>
    simp only [under, invalidJson.injEq]
    constructor
    . rintro ⟨rfl, rfl⟩
      exact ⟨rest, ⟨rfl, rfl⟩, rfl⟩
    . rintro ⟨_, ⟨rfl, rfl⟩, rfl⟩
      exact ⟨rfl, rfl⟩
  | _ => simp [under]

end AbiError

namespace JsonArguments

structure Part where
  step : JsonStep
  type : AbiType
  given : Option Json

/--
The parts in the order in which they are read. There are none if JSON does not have the form of the type,
or has members that do not belong to it.
-/
def parts? : AbiType → Json → Option (List Part)
  | .array element, .array items =>
    some (items.zipIdx.map fun item => ⟨.element item.2, element, some item.1⟩)
  | .tuple _ components, .object members =>
    if ∀ member ∈ members, member.1 ∈ components.map (·.name) then
      some (components.map fun component =>
        ⟨.member component.name, component.type, members.lookup component.name⟩)
    else none
  | .tuple _ components, .array items =>
    if items.length = components.length then
      some ((components.zip items).map fun place =>
        ⟨.member place.1.name, place.1.type, some place.2⟩)
    else none
  | _, _ => none

def Part.Reads (part : Part) : Prop :=
  ∃ json value, part.given = some json ∧ readValue part.type json = .ok value

/--
A path from JSON of a type to a part of it, at any depth. Whatever is read before the part, at each step of
the path, can be read.
-/
inductive Leads : AbiType → Json → JsonPath → AbiType → Json → Prop where
  | here (type : AbiType) (json : Json) : Leads type json [] type json
  | step {type partType targetType : AbiType} {json part target : Json} {front back : List Part}
    {step : JsonStep} {path : JsonPath} :
    parts? type json = some (front ++ ⟨step, partType, some part⟩ :: back) →
      (∀ earlier ∈ front, earlier.Reads) → Leads partType part path targetType target →
        Leads type json (step :: path) targetType target

/--
What an error in JSON of a type is about: a part that cannot be read for a reason of its own, or a member
that is missing in an object.
-/
inductive Culprit (type : AbiType) (json : Json) : JsonPath → JsonFault → Prop where
  | part {path : JsonPath} {partType : AbiType} {part : Json} {fault : JsonFault} :
    Leads type json path partType part → readValue partType part = .error (.invalidJson [] fault) →
      Culprit type json path fault
  | missing {path : JsonPath} {struct name : String} {components : List Param} {memberType : AbiType}
    {members : List (String × Json)} {front back : List Part} :
    Leads type json path (.tuple struct components) (.object members) →
      parts? (.tuple struct components) (.object members)
        = some (front ++ ⟨.member name, memberType, none⟩ :: back) →
      members.lookup name = none → (∀ earlier ∈ front, earlier.Reads) →
        Culprit type json (path ++ [.member name]) .missing

def Local {α : Type} (read : JsonPath → Except AbiError α) : Prop :=
  ∀ path, read path = (read []).mapError (.withPath path)

section Local

variable {α β : Type}

theorem Local.bind {read : JsonPath → Except AbiError α}
    {next : α → JsonPath → Except AbiError β} (h : Local read) (hnext : ∀ a, Local (next a)) :
    Local fun path => read path >>= fun a => next a path := by
  intro path
  dsimp only
  rw [h path]
  cases read [] with
  | ok a => exact hnext a path
  | error error => rfl

theorem readBytes_local (text : String) : Local fun path => readBytes path text := by
  intro path
  dsimp only [readBytes]
  split
  . rfl
  . split <;> rfl

theorem readHexWord_local (digits : String) : Local fun path => readHexWord path digits := by
  intro path
  dsimp only [readHexWord]
  generalize Hex.decode _ = decoded
  split
  . rfl
  . split <;> rfl

theorem readWord_local (json : Json) : Local fun path => readWord path json := by
  cases json with
  | number n =>
    intro path
    cases n with
    | integer n =>
      dsimp only [readWord]
      split <;> rfl
    | real _ => rfl
  | string text =>
    dsimp only [readWord]
    split
    next digits _ => exact readHexWord_local digits
    next =>
      split
      . exact fun _ => rfl
      . exact fun _ => rfl
  | _ => exact fun _ => rfl

theorem readInt256_local (json : Json) : Local fun path => readInt256 path json := by
  cases json with
  | number n =>
    intro path
    cases n with
    | integer n =>
      dsimp only [readInt256]
      split <;> rfl
    | real _ => rfl
  | string text =>
    dsimp only [readInt256]
    split
    next digits _ =>
      apply Local.bind (readHexWord_local digits)
      intro magnitude path
      dsimp only
      split <;> rfl
    next =>
      split
      . exact fun _ => rfl
      . exact fun _ => rfl
  | _ => exact fun _ => rfl

theorem readAt_local {type : AbiType} {json : Json} (h : parts? type json = none) :
    Local (readAt type json) := by
  cases type with
  | uint bits =>
    intro path
    simp only [readAt]
    apply Local.bind (readWord_local json)
    intro n path
    dsimp only
    split <;> rfl
  | int bits =>
    intro path
    simp only [readAt]
    apply Local.bind (readInt256_local json)
    intro n path
    dsimp only
    split <;> rfl
  | address =>
    cases json with
    | string text =>
      intro path
      simp only [readAt]
      apply Local.bind (readBytes_local text)
      intro bytes path
      dsimp only
      split <;> rfl
    | _ => intro path; simp only [readAt]; rfl
  | bytes =>
    cases json with
    | string text =>
      intro path
      simp only [readAt]
      apply Local.bind (readBytes_local text)
      intro bytes path
      rfl
    | _ => intro path; simp only [readAt]; rfl
  | array element =>
    cases json with
    | array items => contradiction
    | _ => intro path; simp only [readAt]; rfl
  | tuple name components =>
    intro path
    cases json with
    | object members =>
      have hunknown : ¬ ∀ member ∈ members, member.1 ∈ components.map (·.name) := by
        intro hknown
        rw [parts?, if_pos hknown] at h
        contradiction
      rw [← find?_unknown_eq_none_iff] at hunknown
      simp only [readAt_tuple, readMembers]
      split
      next => rfl
      next hfind => exact absurd hfind hunknown
    | array items =>
      have hlength : items.length ≠ components.length := by
        intro hlength
        rw [parts?, if_pos hlength] at h
        contradiction
      simp only [readAt_tuple, readMembers, if_pos hlength]
      rfl
    | _ => simp only [readAt_tuple, readMembers]; rfl
  | _ =>
    intro path
    cases json <;> simp only [readAt] <;> rfl

end Local

def Part.readAt (path : JsonPath) (part : Part) : Except AbiError Value :=
  match part.given with
  | some json => JsonArguments.readAt part.type json (path ++ [part.step])
  | none => invalid (path ++ [part.step]) .missing

theorem readItems_eq_mapM (read : Json → JsonPath → Except AbiError Value) (path : JsonPath)
    (index : Nat) (items : List Json) :
    readItems read path index items
      = (items.zipIdx index).mapM fun item => read item.1 (path ++ [.element item.2]) := by
  induction items generalizing index with
  | nil => rfl
  | cons item items ih => rw [readItems, ih, List.zipIdx_cons, List.mapM_cons]

theorem readByName_eq_mapM (params : List Param) (members : List (String × Json))
    (path : JsonPath) :
    readByName params members path
      = params.mapM fun param =>
        Part.readAt path ⟨.member param.name, param.type, members.lookup param.name⟩ := by
  induction params with
  | nil =>
    rw [readByName, List.mapM_nil]
    rfl
  | cons param params ih =>
    rcases param with ⟨name, type⟩
    rw [readByName, ih, List.mapM_cons]
    dsimp only [Part.readAt]
    cases members.lookup name <;> rfl

theorem readByPlace_eq_mapM (params : List Param) (items : List Json) (path : JsonPath) :
    readByPlace params items path
      = (params.zip items).mapM fun place =>
        readAt place.1.type place.2 (path ++ [.member place.1.name]) := by
  induction params generalizing items with
  | nil => simp [readByPlace]; rfl
  | cons param params ih =>
    rcases param with ⟨name, type⟩
    cases items with
    | nil => simp [readByPlace]; rfl
    | cons item items => rw [readByPlace, ih, List.zip_cons_cons, List.mapM_cons]

theorem readAt_of_parts? {type : AbiType} {json : Json} {parts : List Part}
    (h : parts? type json = some parts) :
    ∃ whole : List Value → Value, ∀ path,
      readAt type json path = whole <$> parts.mapM (Part.readAt path) := by
  cases type with
  | array element =>
    cases json with
    | array items =>
      injection h with h
      refine ⟨.array, ?_⟩
      intro path
      rw [readAt_array, readItems_eq_mapM, ← h, List.mapM_map]
      rfl
    | _ => contradiction
  | tuple name components =>
    refine ⟨.tuple, ?_⟩
    intro path
    rw [readAt_tuple]
    cases json with
    | object members =>
      rw [parts?, Option.ite_none_right_eq_some, ← find?_unknown_eq_none_iff] at h
      rw [readMembers, h.1]
      dsimp only
      rw [readByName_eq_mapM, ← Option.some.inj h.2, List.mapM_map]
      rfl
    | array items =>
      rw [parts?, Option.ite_none_right_eq_some] at h
      rw [readMembers, if_neg (not_not.mpr h.1), readByPlace_eq_mapM, ← Option.some.inj h.2,
        List.mapM_map]
      rfl
    | _ => contradiction
  | _ => contradiction

theorem type_of_mem_parts? {type : AbiType} {json : Json} {parts : List Part}
    (h : parts? type json = some parts) {part : Part} (hpart : part ∈ parts) :
    type = .array part.type
      ∨ ∃ name components, type = .tuple name components
        ∧ ∃ component ∈ components, component.type = part.type := by
  cases type with
  | array element =>
    cases json with
    | array items =>
      injection h with h
      rw [← h, List.mem_map] at hpart
      rcases hpart with ⟨_, _, rfl⟩
      exact .inl rfl
    | _ => contradiction
  | tuple name components =>
    refine .inr ⟨name, components, rfl, ?_⟩
    cases json with
    | object members =>
      rw [parts?, Option.ite_none_right_eq_some] at h
      rw [← Option.some.inj h.2, List.mem_map] at hpart
      rcases hpart with ⟨component, hmem, rfl⟩
      exact ⟨component, hmem, rfl⟩
    | array items =>
      rw [parts?, Option.ite_none_right_eq_some] at h
      rw [← Option.some.inj h.2, List.mem_map] at hpart
      rcases hpart with ⟨place, hmem, rfl⟩
      exact ⟨place.1, (List.of_mem_zip hmem).1, rfl⟩
    | _ => contradiction
  | _ => contradiction

theorem induction_on_parts {motive : AbiType → Prop}
    (h : ∀ type, (∀ json parts, parts? type json = some parts → ∀ part ∈ parts, motive part.type) →
      motive type) (type : AbiType) : motive type := by
  induction type with
  | array element ih =>
    apply h
    intro json parts hparts part hpart
    rcases type_of_mem_parts? hparts hpart with heq | ⟨_, _, heq, _⟩
    . injection heq with heq
      rwa [← heq]
    . contradiction
  | tuple name components ih =>
    apply h
    intro json parts hparts part hpart
    rcases type_of_mem_parts? hparts hpart with heq | ⟨_, _, heq, component, hmem, htype⟩
    . contradiction
    . injection heq with _ heq
      rw [← htype]
      exact ih component (heq ▸ hmem)
  | _ =>
    apply h
    intro json parts hparts
    contradiction

theorem readAt_append (type : AbiType) (json : Json) (path rest : JsonPath) :
    readAt type json (path ++ rest) = (readAt type json rest).mapError (.under path) := by
  induction type using induction_on_parts generalizing json rest with
  | h type ih =>
    cases hparts : parts? type json with
    | none =>
      rw [readAt_local hparts, readAt_local hparts rest, mapError_mapError]
      simp only [AbiError.under_withPath]
    | some parts =>
      rcases readAt_of_parts? hparts with ⟨whole, hwhole⟩
      rw [hwhole, hwhole, mapError_map]
      congr 1
      apply mapM_eq_mapError
      intro part hpart
      unfold Part.readAt
      split
      next json' _ =>
        rw [List.append_assoc]
        exact ih json parts hparts part hpart json' _
      next =>
        rw [List.append_assoc]
        rfl

theorem readAt_eq_mapError (type : AbiType) (json : Json) (path : JsonPath) :
    readAt type json path = (readValue type json).mapError (.under path) := by
  rw [readValue, ← readAt_append, List.append_nil]

theorem Part.exists_readAt_iff (part : Part) (path : JsonPath) :
    (∃ value, part.readAt path = .ok value) ↔ part.Reads := by
  rcases part with ⟨step, type, given⟩
  cases given with
  | none => simp [Part.readAt, Reads, invalid]
  | some json =>
    simp only [Part.readAt, readAt_eq_mapError type json, mapError_eq_ok_iff, Reads,
      Option.some.injEq]
    constructor
    . rintro ⟨value, hvalue⟩
      exact ⟨json, value, rfl, hvalue⟩
    . rintro ⟨_, value, rfl, hvalue⟩
      exact ⟨value, hvalue⟩

theorem readValue_eq_error_iff {type : AbiType} {json : Json} {parts : List Part}
    (h : parts? type json = some parts) (error : AbiError) :
    readValue type json = .error error
      ↔ ∃ front part back, parts = front ++ part :: back ∧ (∀ earlier ∈ front, earlier.Reads)
        ∧ part.readAt [] = .error error := by
  rcases readAt_of_parts? h with ⟨whole, hwhole⟩
  rw [readValue, hwhole, map_eq_error_iff, mapM_eq_error_iff]
  simp only [Part.exists_readAt_iff]

theorem readAt_part_eq_error_iff (step : JsonStep) (type : AbiType) (json : Json)
    (error : AbiError) :
    Part.readAt [] ⟨step, type, some json⟩ = .error error
      ↔ ∃ inner, readValue type json = .error inner ∧ inner.under [step] = error := by
  rw [Part.readAt]
  dsimp only
  rw [readAt_eq_mapError, mapError_eq_error_iff]
  rfl

theorem Leads.readValue_eq_error {type target : AbiType} {json part : Json} {path : JsonPath}
    (h : Leads type json path target part) {error : AbiError}
    (herror : readValue target part = .error error) :
    readValue type json = .error (error.under path) := by
  induction h with
  | here type json =>
    cases error <;> exact herror
  | step hparts hfront _ ih =>
    rw [readValue_eq_error_iff hparts]
    refine ⟨_, _, _, rfl, hfront, ?_⟩
    rw [readAt_part_eq_error_iff]
    refine ⟨_, ih herror, ?_⟩
    cases error <;> rfl

theorem readValue_of_culprit {type : AbiType} {json : Json} {path : JsonPath} {fault : JsonFault}
    (h : Culprit type json path fault) : readValue type json = .error (.invalidJson path fault) := by
  cases h with
  | part hleads hfault =>
    rw [hleads.readValue_eq_error hfault, AbiError.under, List.append_nil]
  | missing hleads hparts _ hfront =>
    have hmissing : readValue (.tuple _ _) (.object _) = .error (.invalidJson [_] .missing) :=
      (readValue_eq_error_iff hparts _).mpr ⟨_, _, _, rfl, hfront, rfl⟩
    exact hleads.readValue_eq_error hmissing

theorem missing_of_parts? {type : AbiType} {json : Json} {parts : List Part} {step : JsonStep}
    {partType : AbiType} (h : parts? type json = some parts) (hpart : ⟨step, partType, none⟩ ∈ parts) :
    ∃ struct components members name, type = .tuple struct components ∧ json = .object members
      ∧ step = .member name ∧ members.lookup name = none := by
  cases type with
  | array element =>
    cases json with
    | array items =>
      injection h with h
      rw [← h, List.mem_map] at hpart
      rcases hpart with ⟨_, _, heq⟩
      injection heq with _ _ hgiven
      contradiction
    | _ => contradiction
  | tuple struct components =>
    cases json with
    | object members =>
      rw [parts?, Option.ite_none_right_eq_some] at h
      rw [← Option.some.inj h.2, List.mem_map] at hpart
      rcases hpart with ⟨component, _, heq⟩
      injection heq with hstep _ hgiven
      exact ⟨struct, components, members, component.name, rfl, rfl, hstep.symm, hgiven⟩
    | array items =>
      rw [parts?, Option.ite_none_right_eq_some] at h
      rw [← Option.some.inj h.2, List.mem_map] at hpart
      rcases hpart with ⟨_, _, heq⟩
      injection heq with _ _ hgiven
      contradiction
    | _ => contradiction
  | _ => contradiction

theorem Culprit.step {type partType : AbiType} {json part : Json} {front back : List Part}
    {step : JsonStep} {path : JsonPath} {fault : JsonFault}
    (hparts : parts? type json = some (front ++ ⟨step, partType, some part⟩ :: back))
    (hfront : ∀ earlier ∈ front, earlier.Reads) (h : Culprit partType part path fault) :
    Culprit type json (step :: path) fault := by
  cases h with
  | part hleads hfault => exact .part (.step hparts hfront hleads) hfault
  | missing hleads hmembers hlookup hreads =>
    exact .missing (.step hparts hfront hleads) hmembers hlookup hreads

theorem culprit_of_readValue {type : AbiType} {json : Json} {path : JsonPath} {fault : JsonFault}
    (h : readValue type json = .error (.invalidJson path fault)) : Culprit type json path fault := by
  induction type using induction_on_parts generalizing json path with
  | h type ih =>
    cases hparts : parts? type json with
    | none =>
      have hpath := readAt_local hparts []
      rw [← readValue, h] at hpath
      injection hpath with hpath
      injection hpath with hpath _
      rw [hpath] at h ⊢
      exact .part (.here type json) h
    | some parts =>
      rcases (readValue_eq_error_iff hparts _).mp h with ⟨front, part, back, rfl, hfront, hpart⟩
      have hmem : part ∈ front ++ part :: back := by simp
      rcases part with ⟨step, partType, given⟩
      cases given with
      | none =>
        injection hpart with hpart
        injection hpart with hpath hfault
        rcases missing_of_parts? hparts hmem with ⟨_, _, _, name, rfl, rfl, rfl, hlookup⟩
        rw [← hpath, ← hfault]
        exact .missing (.here _ _) hparts hlookup hfront
      | some part =>
        rcases (readAt_part_eq_error_iff _ _ _ _).mp hpart with ⟨inner, hinner, hunder⟩
        rcases AbiError.under_eq_invalidJson_iff.mp hunder with ⟨rest, rfl, rfl⟩
        exact .step hparts hfront (ih json _ hparts _ hmem hinner)

theorem invalidJson_culprit (type : AbiType) (json : Json) (path : JsonPath) (fault : JsonFault) :
    (readValue type json = .error (.invalidJson path fault) ↔ Culprit type json path fault)
    ∧ path.text = "$" ++ String.join (path.map fun
        | .member name => "." ++ name
        | .element index => "[" ++ toString index ++ "]")
    ∧ (AbiError.invalidJson path fault).message
      = "invalid JSON value at " ++ path.text ++ ": " ++ fault.message := by
  refine ⟨⟨culprit_of_readValue, readValue_of_culprit⟩, ?_, ?_⟩
  . have htext : JsonStep.text = fun
        | .member name => "." ++ name
        | .element index => "[" ++ toString index ++ "]" := by
      funext step
      cases step <;> rfl
    rw [JsonPath.text, htext]
  . rfl

example : readValue (.tuple "Book" [⟨"title", .string⟩,
      ⟨"chapters", .array (.tuple "Chapter" [⟨"title", .string⟩])⟩])
    (.object [("chapters", .array [.object [("title", .integer 5)]]), ("title", .string "Rust")])
    = .error (.invalidJson [.member "chapters", .element 0, .member "title"]
      (.expected "a string")) := by
  cbv

example : JsonPath.text [.member "chapters", .element 0, .member "title"]
    = "$.chapters[0].title" := by
  cbv

end JsonArguments

end MessageAbi
