import Mathlib
import MessageAbi.Proofs.JsonArguments.Reading

/-!
This module contains that the form in which the members of a tuple are given makes no difference: by name
in any order or by place, at any set of tuples in a document, what is read and what is reported is the
same.
-/

namespace MessageAbi.JsonArguments

inductive Gives (params : List Param) : Json → List Json → Prop where
  | byPlace {items : List Json} : items.length = params.length → Gives params (.array items) items
  | byName {members : List (String × Json)} {items : List Json} : items.length = params.length →
    members.Perm ((params.map (·.name)).zip items) → Gives params (.object members) items

mutual

/--
JSON that differs only in the form in which the members of some tuples are given.
-/
inductive SameValue : AbiType → Json → Json → Prop where
  | refl (type : AbiType) (json : Json) : SameValue type json json
  | array {element : AbiType} {items items' : List Json} : items.length = items'.length →
    (∀ pair ∈ items.zip items', SameValue element pair.1 pair.2) →
      SameValue (.array element) (.array items) (.array items')
  | tuple (name : String) {components : List Param} {json json' : Json} :
    SameMembers components json json' → SameValue (.tuple name components) json json'

inductive SameMembers : List Param → Json → Json → Prop where
  | refl (params : List Param) (json : Json) : SameMembers params json json
  | inForms {params : List Param} {json json' : Json} {items items' : List Json} :
    Gives params json items → Gives params json' items' →
      (∀ place ∈ params.zip (items.zip items'), SameValue place.1.type place.2.1 place.2.2) →
        SameMembers params json json'
  | byPlace {params : List Param} {items items' : List Json} : items.length = items'.length →
    (∀ place ∈ params.zip (items.zip items'), SameValue place.1.type place.2.1 place.2.2) →
      SameMembers params (.array items) (.array items')
  | byName {params : List Param} {members members' : List (String × Json)} :
    members.map (·.1) = members'.map (·.1) →
      (∀ param ∈ params, ∀ json json', members.lookup param.name = some json →
        members'.lookup param.name = some json' → SameValue param.type json json') →
      SameMembers params (.object members) (.object members')

end

variable {params : List Param} {json json' : Json} {path : JsonPath}

theorem Gives.length_eq {items : List Json} (h : Gives params json items) :
    items.length = params.length := by
  cases h with
  | byPlace hlength => exact hlength
  | byName hlength _ => exact hlength

theorem readItems_congr {read : Json → JsonPath → Except AbiError Value} {items items' : List Json}
    (hlength : items.length = items'.length)
    (h : ∀ pair ∈ items.zip items', read pair.1 = read pair.2) (index : Nat) :
    readItems read path index items = readItems read path index items' := by
  induction items generalizing items' index with
  | nil => rw [List.eq_nil_of_length_eq_zero hlength.symm]
  | cons item items ih =>
    cases items' with
    | nil => contradiction
    | cons item' items' =>
      rcases List.forall_mem_cons.mp h with ⟨hitem, hitems⟩
      rw [readItems, readItems, hitem, ih (Nat.succ.inj hlength) hitems]

theorem readByPlace_congr {items items' : List Json} (hlength : items.length = items'.length)
    (h : ∀ place ∈ params.zip (items.zip items'),
      readAt place.1.type place.2.1 = readAt place.1.type place.2.2) :
    readByPlace params items path = readByPlace params items' path := by
  induction params generalizing items items' with
  | nil => simp only [readByPlace]
  | cons param params ih =>
    rcases param with ⟨name, type⟩
    cases items with
    | nil => rw [List.eq_nil_of_length_eq_zero hlength.symm]
    | cons item items =>
      cases items' with
      | nil => contradiction
      | cons item' items' =>
        rcases List.forall_mem_cons.mp h with ⟨hitem, hitems⟩
        dsimp only at hitem
        rw [readByPlace, readByPlace, hitem, ih (Nat.succ.inj hlength) hitems]

theorem readByName_congr {members members' : List (String × Json)}
    (h : ∀ param ∈ params, (members.lookup param.name).map (readAt param.type)
      = (members'.lookup param.name).map (readAt param.type)) :
    readByName params members path = readByName params members' path := by
  induction params with
  | nil => simp only [readByName]
  | cons param params ih =>
    rcases param with ⟨name, type⟩
    rcases List.forall_mem_cons.mp h with ⟨hparam, hparams⟩
    rw [readByName, readByName, ih hparams]
    dsimp only at hparam
    cases hlookup : members.lookup name with
    | none =>
      rw [hlookup, Option.map_none, eq_comm, Option.map_eq_none_iff] at hparam
      rw [hparam]
    | some member =>
      rw [hlookup, Option.map_some, eq_comm, Option.map_eq_some_iff] at hparam
      rcases hparam with ⟨member', hlookup', hread⟩
      rw [hlookup']
      dsimp only
      rw [hread]

theorem readByName_eq_readByPlace {members : List (String × Json)} {items : List Json}
    (hlength : items.length = params.length)
    (h : ∀ place ∈ params.zip items, members.lookup place.1.name = some place.2) :
    readByName params members path = readByPlace params items path := by
  induction params generalizing items with
  | nil => simp only [readByName, readByPlace]
  | cons param params ih =>
    rcases param with ⟨name, type⟩
    cases items with
    | nil => contradiction
    | cons item items =>
      rcases List.forall_mem_cons.mp h with ⟨hitem, hitems⟩
      dsimp only at hitem
      rw [readByName, readByPlace, hitem, ih (Nat.succ.inj hlength) hitems]

theorem readMembers_object (params : List Param) (members : List (String × Json)) (path : JsonPath) :
    readMembers params (.object members) path
      = match (members.map (·.1)).find? fun name => !params.any (·.name == name) with
        | some name => invalid path (.unknownMember name)
        | none => readByName params members path := by
  rw [readMembers, List.find?_map]
  simp only [Function.comp_def]
  cases members.find? fun member => !params.any (·.name == member.1) with
  | none => rfl
  | some member => rfl

theorem readMembers_of_gives (hnodup : (params.map (·.name)).Nodup) {items : List Json}
    (h : Gives params json items) :
    readMembers params json path = readByPlace params items path := by
  cases h with
  | byPlace hlength => rw [readMembers, if_neg (not_not.mpr hlength)]
  | @byName members _ hlength hperm =>
    have hnames : (members.map (·.1)).Perm (params.map (·.name)) := by
      have := hperm.map (·.1)
      rwa [List.map_fst_zip] at this
      rw [List.length_map, hlength]
    have hknown : (members.map (·.1)).find? (fun name => !params.any (·.name == name)) = none := by
      rw [List.find?_eq_none]
      intro name hname
      rcases List.mem_map.mp (hnames.mem_iff.mp hname) with ⟨param, hparam, rfl⟩
      simp only [Bool.not_eq_true', Bool.not_eq_false, List.any_eq_true]
      exact ⟨param, hparam, beq_self_eq_true _⟩
    rw [readMembers_object, hknown]
    apply readByName_eq_readByPlace hlength
    intro place hplace
    rw [lookup_eq_some_iff_mem_of_nodup (hnames.nodup_iff.mpr hnodup), hperm.mem_iff, List.zip_map_left]
    exact List.mem_map.mpr ⟨place, hplace, rfl⟩

theorem map_lookup_congr {members members' : List (String × Json)} {name : String} {α : Type}
    {f : Json → α} (hnames : members.map (·.1) = members'.map (·.1))
    (h : ∀ json json', members.lookup name = some json → members'.lookup name = some json' →
      f json = f json') :
    (members.lookup name).map f = (members'.lookup name).map f := by
  have hnone : members.lookup name = none ↔ members'.lookup name = none := by
    rw [lookup_eq_none_iff_notMem, hnames, ← lookup_eq_none_iff_notMem]
  cases hlookup : members.lookup name with
  | none => rw [hnone.mp hlookup]
  | some json =>
    cases hlookup' : members'.lookup name with
    | none =>
      rw [hnone.mpr hlookup'] at hlookup
      contradiction
    | some json' => rw [Option.map_some, Option.map_some, h json json' hlookup hlookup']

theorem readMembers_of_sameMembers (hnodup : (params.map (·.name)).Nodup)
    (hparams : ∀ param ∈ params, ∀ json json', SameValue param.type json json' →
      readAt param.type json = readAt param.type json')
    (h : SameMembers params json json') :
    readMembers params json path = readMembers params json' path := by
  cases h with
  | refl => rfl
  | inForms hgives hgives' hitems =>
    rw [readMembers_of_gives hnodup hgives, readMembers_of_gives hnodup hgives']
    apply readByPlace_congr (hgives.length_eq.trans hgives'.length_eq.symm)
    intro place hplace
    exact hparams place.1 (List.of_mem_zip hplace).1 _ _ (hitems place hplace)
  | @byPlace _ items items' hlength hitems =>
    have hread : readByPlace params items path = readByPlace params items' path := by
      apply readByPlace_congr hlength
      intro place hplace
      exact hparams place.1 (List.of_mem_zip hplace).1 _ _ (hitems place hplace)
    rw [readMembers, readMembers, hlength, hread]
  | @byName _ members members' hnames hmembers =>
    have hread : readByName params members path = readByName params members' path := by
      apply readByName_congr
      intro param hparam
      apply map_lookup_congr hnames
      intro json json' hjson hjson'
      exact hparams param hparam json json' (hmembers param hparam json json' hjson hjson')
    rw [readMembers_object, readMembers_object, hnames, hread]

theorem readAt_of_sameValue {type : AbiType} (hnames : type.namesDistinct = true)
    (h : SameValue type json json') : readAt type json = readAt type json' := by
  induction type generalizing json json' with
  | bool | uint _ | int _ | address | bytes | string =>
    cases h
    rfl
  | array element ih =>
    cases h with
    | refl => rfl
    | array hlength hitems =>
      funext path
      rw [readAt_array, readAt_array]
      rw [readItems_congr hlength fun pair hpair => ih hnames (hitems pair hpair)]
  | tuple name components ih =>
    rw [AbiType.namesDistinct_tuple_iff] at hnames
    cases h with
    | refl => rfl
    | tuple _ hmembers =>
      funext path
      rw [readAt_tuple, readAt_tuple]
      rw [readMembers_of_sameMembers hnames.1 ?_ hmembers]
      intro param hparam json json'
      exact ih param hparam (hnames.2 param hparam)

theorem read_same_in_forms :
    (∀ (type : AbiType) (json json' : Json), type.namesDistinct = true → SameValue type json json' →
      readValue type json = readValue type json')
    ∧ ∀ (params : List Param) (json json' : Json), (params.map (·.name)).Nodup →
      (∀ param ∈ params, param.type.namesDistinct = true) → SameMembers params json json' →
        read params json = read params json' := by
  constructor
  . intro type json json' hnames h
    rw [readValue, readAt_of_sameValue hnames h]
    rfl
  . intro params json json' hnodup hnames h
    apply readMembers_of_sameMembers hnodup ?_ h
    intro param hparam json json'
    exact readAt_of_sameValue (hnames param hparam)

-- The objects have their members in the other order, and the last reading is an error inside of both.
theorem read_same_in_forms_chapters :
    readValue (.tuple "Chapter" [⟨"name", .string⟩, ⟨"pages", .uint 8⟩])
        (.object [("pages", .number (.integer 7)), ("name", .string "One")])
      = .ok (.tuple [.string "One", .uint 7])
    ∧ read [⟨"title", .string⟩,
          ⟨"chapters", .array (.tuple "Chapter" [⟨"name", .string⟩, ⟨"pages", .uint 8⟩])⟩]
        (.object [("chapters", .array [.object [("pages", .bool true), ("name", .string "One")]]),
          ("title", .string "Book")])
      = .error (.invalidJson [.member "chapters", .element 0, .member "pages"]
        (.expected "an integer")) := by
  have hchapter (pages : Json) : SameMembers [⟨"name", .string⟩, ⟨"pages", .uint 8⟩]
      (.object [("pages", pages), ("name", .string "One")]) (.array [.string "One", pages]) := by
    have hobject : Gives [⟨"name", .string⟩, ⟨"pages", .uint 8⟩]
        (.object [("pages", pages), ("name", .string "One")]) [.string "One", pages] :=
      .byName rfl (.swap _ _ _)
    apply SameMembers.inForms hobject (.byPlace rfl)
    simp [SameValue.refl]
  constructor
  . rw [read_same_in_forms.1 _ _ _ (by decide) (.tuple _ (hchapter _))]
    cbv
  . have hobject : Gives [⟨"title", .string⟩,
          ⟨"chapters", .array (.tuple "Chapter" [⟨"name", .string⟩, ⟨"pages", .uint 8⟩])⟩]
        (.object [("chapters", .array [.object [("pages", .bool true), ("name", .string "One")]]),
          ("title", .string "Book")])
        [.string "Book", .array [.object [("pages", .bool true), ("name", .string "One")]]] :=
      .byName rfl (.swap _ _ _)
    have hchapters : SameValue (.array (.tuple "Chapter" [⟨"name", .string⟩, ⟨"pages", .uint 8⟩]))
        (.array [.object [("pages", .bool true), ("name", .string "One")]])
        (.array [.array [.string "One", .bool true]]) := by
      refine .array rfl ?_
      simp [SameValue.tuple _ (hchapter _)]
    rw [read_same_in_forms.2 _ _ (.array [.string "Book", .array [.array [.string "One", .bool true]]])
      (by decide) (by decide)]
    . cbv
    . apply SameMembers.inForms hobject (.byPlace rfl)
      simp [SameValue.refl, hchapters]

end MessageAbi.JsonArguments
