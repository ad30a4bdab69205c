import Mathlib
import MessageAbi.Example.Library
import MessageAbi.Proofs.AbiDocument.TypeName
import MessageAbi.Proofs.Schema.Compiled

/-!
This module contains a reader of ABI documents and that it finds in them what they were made from: the
parameters of each message, and the signature that its selector is taken of. The reader sees the
document only.
-/

namespace MessageAbi

namespace AbiDocument

def textMember? (members : List (String × Json)) (name : String) : Option String :=
  match members.lookup name with
  | some (.string text) => some text
  | _ => none

mutual

def Argument.ofJson? : Json → Option Argument
  | .object members => do
    let name ← textMember? members "name"
    let type ← textMember? members "type"
    let internalType ← textMember? members "internalType"
    return ⟨name, type, internalType, ← componentsOfMembers? members⟩
  | _ => none

def componentsOfMembers? : List (String × Json) → Option (Option (List Argument))
  | [] => some none
  | (name, value) :: members =>
    if name = "components" then (argumentsOfJson? value).map some
    else componentsOfMembers? members

def argumentsOfJson? : Json → Option (List Argument)
  | .array items => argumentsOfItems? items
  | _ => none

def argumentsOfItems? : List Json → Option (List Argument)
  | [] => some []
  | item :: items => do
    let argument ← Argument.ofJson? item
    let arguments ← argumentsOfItems? items
    return argument :: arguments

end

def Function.ofJson? : Json → Option Function
  | .object members => do
    guard (textMember? members "type" = some "function")
    let name ← textMember? members "name"
    let inputs ← members.lookup "inputs"
    return ⟨name, ← argumentsOfJson? inputs⟩
  | _ => none

mutual

theorem Argument.ofJson?_toJson :
    ∀ argument : Argument, Argument.ofJson? argument.toJson = some argument
  | ⟨name, type, internalType, components⟩ => by
    have hcomponents := componentsOfMembers?_componentsToJson components
    simp [Argument.toJson, Argument.ofJson?, textMember?, componentsOfMembers?, hcomponents,
      List.lookup_cons]

theorem componentsOfMembers?_componentsToJson :
    ∀ components, componentsOfMembers? (componentsToJson components) = some components
  | none => rfl
  | some arguments => by
    simp [componentsToJson, componentsOfMembers?, argumentsOfJson?,
      argumentsOfItems?_argumentsToJson arguments]

theorem argumentsOfItems?_argumentsToJson :
    ∀ arguments, argumentsOfItems? (argumentsToJson arguments) = some arguments
  | [] => rfl
  | argument :: arguments => by
    simp [argumentsToJson, argumentsOfItems?, Argument.ofJson?_toJson argument,
      argumentsOfItems?_argumentsToJson arguments]

end

theorem Function.ofJson?_toJson (function : Function) :
    Function.ofJson? function.toJson = some function := by
  cases function
  simp [Function.toJson, Function.ofJson?, textMember?, argumentsOfJson?, List.lookup_cons,
    argumentsOfItems?_argumentsToJson]

def tuple? (internalName : List Char) (components : Option (List Param)) : Option AbiType := do
  let struct ← internalName.dropPrefix? "struct ".toList
  return .tuple (String.ofList struct) (← components)

mutual

def Argument.param? : Argument → Option Param
  | ⟨name, type, internalType, components⟩ =>
    let element :=
      if elementName type = "tuple".toList then
        tuple? (withoutBrackets (arrayDepth type) internalType) (componentParams? components)
      else scalar? (elementName type)
    element.map fun element => ⟨name, element.arrays (arrayDepth type)⟩

def componentParams? : Option (List Argument) → Option (List Param)
  | none => none
  | some arguments => params? arguments

def params? : List Argument → Option (List Param)
  | [] => some []
  | argument :: arguments => do
    let param ← argument.param?
    let params ← params? arguments
    return param :: params

end

def Argument.ofParam (param : Param) : Argument :=
  ⟨param.name, param.type.jsonType, param.type.internalType, componentsOf param.type⟩

theorem ofParams_eq_map (params : List Param) : ofParams params = params.map Argument.ofParam := by
  induction params with
  | nil => rfl
  | cons param params ih =>
    cases param
    rw [ofParams, ih]
    rfl

theorem params?_map_ofParam {params : List Param}
    (h : ∀ param ∈ params, (Argument.ofParam param).param? = some param) :
    params? (params.map Argument.ofParam) = some params := by
  induction params with
  | nil => rfl
  | cons param params ih =>
    rw [List.forall_mem_cons] at h
    simp [params?, h.1, ih h.2]

theorem param?_ofParam (param : Param) : (Argument.ofParam param).param? = some param := by
  rcases param with ⟨name, type⟩
  induction type using AbiType.arraysInduction generalizing name with
  | scalar element depth hscalar =>
    have hnames := namesScalar_jsonType hscalar
    have hname := element.toList_jsonType_arrays depth
    have htuple : element.jsonType.toList ≠ "tuple".toList := by
      intro heq
      have := hnames.not_tuple []
      rw [heq] at this
      contradiction
    simp only [Argument.ofParam, Argument.param?, elementName_eq hname hnames.plain,
      arrayDepth_eq hname hnames.plain, if_neg htuple, hnames.scalar?_eq, Option.map_some]
  | tuple struct components depth ih =>
    have hname := (AbiType.tuple struct components).toList_jsonType_arrays depth
    have hplain : '[' ∉ (AbiType.tuple struct components).jsonType.toList := by
      simp [AbiType.jsonType]
    have hinternal := withoutBrackets_eq
      ((AbiType.tuple struct components).toList_internalType_arrays depth)
    have hstruct : ("struct " ++ struct).toList.dropPrefix? "struct ".toList
        = some struct.toList := by
      rw [String.toList_append]
      exact List.dropPrefix?_append_of_beq _ (beq_self_eq_true _)
    have hcomponents : params? (ofParams components) = some components := by
      rw [ofParams_eq_map]
      apply params?_map_ofParam
      rintro ⟨other, type⟩ hparam
      exact ih _ hparam other
    have htuple : tuple? (AbiType.tuple struct components).internalType.toList
        (componentParams? (componentsOf (AbiType.tuple struct components)))
          = some (AbiType.tuple struct components) := by
      simp only [tuple?, AbiType.internalType, hstruct, componentsOf, componentParams?, hcomponents]
      simp
    simp only [Argument.ofParam, Argument.param?, elementName_eq hname hplain,
      arrayDepth_eq hname hplain, AbiType.jsonType, if_pos, hinternal, AbiType.componentsOf_arrays,
      htuple, Option.map_some]

theorem params?_ofParams (params : List Param) : params? (ofParams params) = some params := by
  rw [ofParams_eq_map]
  exact params?_map_ofParam fun param _ => param?_ofParam param

mutual

/--
The name that an argument's type has in a signature: in place of `tuple` stand the types of the
components.
-/
def Argument.signatureType : Argument → String
  | ⟨_, type, _, components⟩ =>
    match type.toList.dropPrefix? "tuple".toList with
    | some suffix =>
      "(" ++ AbiType.joinWithCommas (componentTypes components) ++ ")" ++ String.ofList suffix
    | none => type

def componentTypes : Option (List Argument) → List String
  | none => []
  | some arguments => signatureTypes arguments

def signatureTypes : List Argument → List String
  | [] => []
  | argument :: arguments => argument.signatureType :: signatureTypes arguments

end

def Function.signature (function : Function) : String :=
  function.name ++ "(" ++ AbiType.joinWithCommas (signatureTypes function.inputs) ++ ")"

theorem signatureTypes_eq_map (arguments : List Argument) :
    signatureTypes arguments = arguments.map (·.signatureType) := by
  induction arguments with
  | nil => rfl
  | cons argument arguments ih => rw [signatureTypes, ih, List.map_cons]

theorem signatureType_ofParam (param : Param) :
    (Argument.ofParam param).signatureType = param.type.canonical := by
  rcases param with ⟨name, type⟩
  induction type using AbiType.arraysInduction generalizing name with
  | scalar element depth hscalar =>
    have hname := element.toList_jsonType_arrays depth
    have hcanonical : element.jsonType = element.canonical := by
      cases element <;> first | rfl | contradiction
    have hnone := (namesScalar_jsonType hscalar).not_tuple (brackets depth)
    simp only [Argument.ofParam, Argument.signatureType, hname, hnone]
    rw [← String.toList_inj, hname, hcanonical, element.toList_canonical_arrays]
  | tuple struct components depth ih =>
    have hname := (AbiType.tuple struct components).toList_jsonType_arrays depth
    have hsuffix : ("tuple".toList ++ brackets depth).dropPrefix? "tuple".toList
        = some (brackets depth) :=
      List.dropPrefix?_append_of_beq _ (beq_self_eq_true _)
    have hcomponents : signatureTypes (ofParams components) = AbiType.canonicals components := by
      rw [signatureTypes_eq_map, ofParams_eq_map, AbiType.canonicals_eq_map, List.map_map]
      apply List.map_congr_left
      rintro ⟨other, type⟩ hparam
      exact ih _ hparam other
    rw [AbiType.jsonType] at hname
    simp only [Argument.ofParam, Argument.signatureType, hname, hsuffix,
      AbiType.componentsOf_arrays, componentsOf, componentTypes, hcomponents]
    rw [← String.toList_inj, AbiType.toList_canonical_arrays, AbiType.canonical,
      String.toList_append, String.toList_ofList]

theorem signature_ofSpec (spec : MessageSpec) : (Function.ofSpec spec).signature = spec.signature := by
  have htypes : signatureTypes (ofParams spec.params) = spec.params.map (·.type.canonical) := by
    rw [signatureTypes_eq_map, ofParams_eq_map, List.map_map]
    apply List.map_congr_left
    intro param _
    exact signatureType_ofParam param
  rw [Function.signature, Function.ofSpec, htypes]
  rfl

end AbiDocument

open AbiDocument in
theorem Schema.abiDocument_describes {schema : Schema} {document : Json}
    (h : schema.abiDocument = .ok document) :
    ∃ compiled items, schema.compile = .ok compiled ∧ document = .array items
      ∧ List.Forall₂ (fun message item => ∃ spec function,
        compiled.registry.byName? message.2.name = some spec
        ∧ message.2.CompilesTo compiled.structTypes spec
        ∧ Function.ofJson? item = some function
        ∧ function.name = spec.name
        ∧ params? function.inputs = some spec.params
        ∧ function.signature = spec.signature) schema.messages items := by
  rw [abiDocument, bind_eq_ok_iff] at h
  simp only [pure_eq_ok_iff] at h
  rcases h with ⟨compiled, hcompile, rfl⟩
  rcases Compiled.covers_of_compile hcompile with ⟨_, hcovers⟩
  refine ⟨compiled, _, hcompile, rfl, ?_⟩
  rw [Compiled.functions, List.map_map, List.forall₂_map_right_iff]
  apply hcovers.forall₂_byName?.imp
  rintro message ⟨category, spec⟩ ⟨_, hcompiles, hname⟩
  exact ⟨spec, .ofSpec spec, hname, hcompiles, Function.ofJson?_toJson _, rfl,
    params?_ofParams spec.params, signature_ofSpec spec⟩

-- The second message has a book, a tuple with an array of tuples in it, for an argument.
open AbiDocument in
theorem Schema.abiDocument_describes_library :
    ∃ schema document compiled items, Example.library.analyze .deny = .ok schema
      ∧ schema.abiDocument = .ok document ∧ schema.compile = .ok compiled
      ∧ document = .array items
      ∧ ∃ item function spec, items[1]? = some item
        ∧ compiled.registry.byName? "AddBook" = some spec
        ∧ Function.ofJson? item = some function
        ∧ params? function.inputs = some spec.params
        ∧ function.signature = spec.signature := by
  have hlibrary : (Example.library.analyze .deny).toOption.any (fun schema =>
      schema.abiDocument.toOption.isSome && schema.messages[1]?.any (·.2.name == "AddBook"))
        = true := by
    decide +kernel
  rcases exists_eq_ok_of_any hlibrary with ⟨schema, hschema, hok⟩
  rw [Bool.and_eq_true, Option.any_eq_true] at hok
  rcases hok with ⟨hdocument, message, hmessage, hname⟩
  rcases exists_eq_ok_of_isSome hdocument with ⟨document, hdocument⟩
  rcases abiDocument_describes hdocument with ⟨compiled, items, hcompile, hitems, hall⟩
  rcases List.getElem?_eq_some_iff.mp hmessage with ⟨hlt, rfl⟩
  have hlt' : 1 < items.length := hall.length_eq ▸ hlt
  rcases hall.get hlt hlt' with ⟨spec, function, hspec, _, hfunction, _, hparams, hsignature⟩
  rw [List.get_eq_getElem, eq_of_beq hname] at hspec
  exact ⟨schema, document, compiled, items, hschema, hdocument, hcompile, hitems, _, function, spec,
    List.getElem?_eq_getElem hlt', hspec, hfunction, hparams, hsignature⟩

end MessageAbi
