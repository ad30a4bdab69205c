import Mathlib
import MessageAbi.Bindings.Code
import MessageAbi.Bindings.Code.Evaluation
import MessageAbi.Proofs.Except
import MessageAbi.Proofs.List
import MessageAbi.Proofs.Word

/-!
This module contains what the code of bindings evaluates to: its terms give the types and the parameters
that they stand for, whichever item they ask for them.
-/

namespace MessageAbi.Bindings

namespace Code

/--
A scope in which the library has its name and structs give the types that `answer` says.
-/
structure Scope.Answers (scope : Scope) (answer : String → Option AbiType) : Prop where
  uses_eq : scope.uses = [("abi", Library.path [])]
  associated_eq (ident : String) :
    scope.associated none ident "abi_type" = (answer ident).map .type

section Terms

variable {scope : Scope} {answer : String → Option AbiType}

theorem listEval?_eq_mapM (scope : Scope) (exprs : List Expr) :
    Expr.listEval? scope exprs = exprs.mapM (·.eval? scope) := by
  induction exprs with
  | nil => rfl
  | cons expr exprs ih => simp [Expr.listEval?, ih]

theorem eval?_code (h : scope.Answers answer) (term : TypeTerm) :
    term.code.eval? scope = (term.eval? answer).map .type := by
  induction term with
  | array element ih =>
    simp only [TypeTerm.code, Expr.eval?, Expr.listEval?, ih, TypeTerm.eval?]
    cases element.eval? answer with
    | none => rfl
    | some type => simp [Scope.call?, h.uses_eq, resolve, abi, Library.path, Library.call?]
  | struct ident =>
    simp [TypeTerm.code, TypeTerm.eval?, Expr.eval?, Expr.listEval?, Scope.call?, h.associated_eq]
  | uint bits | int bits =>
    simp [TypeTerm.code, TypeTerm.eval?, Expr.eval?, Expr.listEval?, Scope.call?, h.uses_eq, resolve,
      abi, Library.path, Library.call?]
  | _ =>
    simp [TypeTerm.code, TypeTerm.eval?, Expr.eval?, h.uses_eq, resolve, abi, Library.path,
      Library.constant?]

theorem eval?_paramExpr (h : scope.Answers answer) (field : FieldBinding) :
    (paramExpr field).eval? scope
      = (field.type.eval? answer).map fun type => .param ⟨field.name, type⟩ := by
  simp only [paramExpr, Expr.eval?, Expr.listEval?, eval?_code h]
  cases field.type.eval? answer with
  | none => rfl
  | some type => simp [Scope.call?, h.uses_eq, resolve, abi, Library.path, Library.call?]

theorem eval?_paramsExpr (h : scope.Answers answer) (fields : List FieldBinding) :
    (paramsExpr fields).eval? scope
      = (params? answer fields).map fun params => .list (params.map .param) := by
  have hparams : ((fun expr => expr.eval? scope) ∘ paramExpr) = fun field =>
      (do let type ← field.type.eval? answer; return (⟨field.name, type⟩ : Param)).map .param := by
    funext field
    rw [Function.comp_apply, eval?_paramExpr h]
    cases field.type.eval? answer <;> rfl
  rw [paramsExpr, Expr.eval?, listEval?_eq_mapM, List.mapM_map, hparams, mapM_map_eq_map,
    Option.map_map]
  rfl

theorem params?_list (params : List Param) :
    Datum.params? (.list (params.map .param)) = some params := by
  rw [Datum.params?, List.mapM_map]
  exact List.mapM_pure.trans (congrArg some (List.map_id params))

theorem eval?_abiTypeExpr (h : scope.Answers answer) (struct : StructBinding) :
    (abiTypeExpr struct).eval? scope
      = (params? answer struct.fields).map fun params => .type (.tuple struct.name params) := by
  simp only [abiTypeExpr, Expr.eval?, Expr.memberEval?, Expr.listEval?, eval?_paramsExpr h]
  cases params? answer struct.fields with
  | none => simp
  | some params =>
    simp [Scope.call?, h.uses_eq, resolve, abi, List.lookup, Library.path, Library.call?,
      Library.construct?, params?_list]

theorem byte?_comp_number : (Datum.byte? ∘ fun byte : UInt8 => .number byte.toNat) = some := by
  funext byte
  simp [Datum.byte?, byte.toNat_lt]

theorem eval?_selectorExpr (h : scope.Answers answer) (selector : Selector) :
    (selectorExpr selector).eval? scope = some (.selector selector) := by
  have hitems : Expr.listEval? scope (selector.toBytes.map .byte)
      = some (selector.toBytes.map fun byte => .number byte.toNat) := by
    rw [listEval?_eq_mapM, List.mapM_map]
    exact List.mapM_pure
  have hbytes : selector.toBytes.mapM some = some selector.toBytes :=
    List.mapM_pure.trans (congrArg some (List.map_id _))
  simp [selectorExpr, Expr.eval?, Expr.listEval?, hitems, Scope.call?, h.uses_eq, resolve, abi,
    Library.path, Library.call?, byte?_comp_number, hbytes, Selector.ofBytes_toBytes]

end Terms

section Lookup

variable {γ : Type} (bindings : Bindings)

theorem filterMap_program (f : Item → Option γ) :
    bindings.program.filterMap f
      = (f (.useAs ["", "rollabi_abi"] "abi")).toList
        ++ bindings.structs.flatMap (fun struct => (structItems struct).filterMap f)
        ++ bindings.messages.flatMap (fun message => (messageItems message).filterMap f)
        ++ (commonItems bindings).filterMap f := by
  rw [Bindings.program, List.cons_append, List.cons_append, List.filterMap_cons,
    List.filterMap_append, List.filterMap_append, List.filterMap_flatMap, List.filterMap_flatMap]
  cases f (.useAs ["", "rollabi_abi"] "abi") <;> rfl

theorem findSome?_program (f : Item → Option γ)
    (huse : f (.useAs ["", "rollabi_abi"] "abi") = none) :
    bindings.program.findSome? f
      = ((bindings.structs.findSome? fun struct => (structItems struct).findSome? f).or
          (bindings.messages.findSome? fun message => (messageItems message).findSome? f)).or
        ((commonItems bindings).findSome? f) := by
  rw [Bindings.program, List.cons_append, List.cons_append, List.findSome?_cons, huse,
    List.findSome?_append, List.findSome?_append, findSome?_flatMap, findSome?_flatMap]

theorem uses_program : uses bindings.program = [("abi", Library.path [])] := by
  have hstruct (struct : StructBinding) : (structItems struct).filterMap Item.use? = [] := rfl
  have hmessage (message : MessageBinding) : (messageItems message).filterMap Item.use? = [] := rfl
  have hcommon : (commonItems bindings).filterMap Item.use? = [] := rfl
  simp only [uses, filterMap_program, hstruct, hmessage, hcommon]
  simp [Item.use?, Library.path]

theorem associatedBlock?_structItems (struct : StructBinding) (uses : List (String × Path))
    (ident : String) :
    (structItems struct).findSome? (·.associatedBlock? uses none ident "abi_type")
      = if struct.ident == ident then some ⟨[], abiTypeExpr struct⟩ else none := by
  by_cases h : struct.ident = ident <;>
    simp [structItems, structItem, Item.associatedBlock?, Part.block?, Function.block?, h]

theorem findSome?_abi_type (uses : List (String × Path)) (ident : String) :
    bindings.program.findSome? (·.associatedBlock? uses none ident "abi_type")
      = (bindings.structs.find? (·.ident == ident)).map fun struct => ⟨[], abiTypeExpr struct⟩ := by
  have hmessages : (bindings.messages.findSome? fun message => (messageItems message).findSome?
      (·.associatedBlock? uses none ident "abi_type")) = none := by
    rw [List.findSome?_eq_none_iff]
    intro message _
    simp [messageItems, structItem, Item.associatedBlock?]
  have hcommon : (commonItems bindings).findSome?
      (·.associatedBlock? uses none ident "abi_type") = none := by
    simp [commonItems, abiJsonItem, enumItem, enumImplementation, handlerItems, registryItem,
      Item.associatedBlock?, Part.block?, Function.block?, publicFunction]
  rw [findSome?_program _ _ rfl, hmessages, hcommon, Option.or_none, Option.or_none,
    ← findSome?_ite_eq_map_find?]
  simp only [associatedBlock?_structItems]

def messageBlock? (message : MessageBinding) (name : String) : Option Block :=
  (messageItems message).findSome? (·.associatedBlock? [("abi", Library.path [])]
    (some (Library.path ["Message"])) message.ident name)

theorem findSome?_message {message : MessageBinding} (hmessage : message ∈ bindings.messages)
    (hnodup : (bindings.messages.map (·.ident)).Nodup) (name : String) :
    bindings.program.findSome? (·.associatedBlock? [("abi", Library.path [])]
      (some (Library.path ["Message"])) message.ident name) = messageBlock? message name := by
  have hstructs : (bindings.structs.findSome? fun struct => (structItems struct).findSome?
      (·.associatedBlock? [("abi", Library.path [])] (some (Library.path ["Message"])) message.ident
        name)) = none := by
    rw [List.findSome?_eq_none_iff]
    intro struct _
    simp [structItems, structItem, Item.associatedBlock?, resolve, abi, Library.path]
  have hcommon : (commonItems bindings).findSome?
      (·.associatedBlock? [("abi", Library.path [])] (some (Library.path ["Message"])) message.ident
        name) = none := by
    simp [commonItems, abiJsonItem, enumItem, enumImplementation, handlerItems, registryItem,
      Item.associatedBlock?]
  rw [findSome?_program _ _ rfl, hstructs, hcommon, Option.or_none, Option.none_or]
  apply findSome?_eq_of_nodup hnodup hmessage
  intro other hother
  simp [messageItems, structItem, Item.associatedBlock?, hother]

theorem messageBlock?_name (message : MessageBinding) :
    messageBlock? message "NAME" = some ⟨[], .text message.name⟩ := by
  simp [messageBlock?, messageItems, structItem, Item.associatedBlock?, resolve, abi, Library.path,
    Part.block?]

theorem messageBlock?_signature (message : MessageBinding) :
    messageBlock? message "SIGNATURE" = some ⟨[], .text message.signature⟩ := by
  simp [messageBlock?, messageItems, structItem, Item.associatedBlock?, resolve, abi, Library.path,
    Part.block?]

theorem messageBlock?_selector (message : MessageBinding) :
    messageBlock? message "SELECTOR" = some ⟨[], selectorExpr message.selector⟩ := by
  simp [messageBlock?, messageItems, structItem, Item.associatedBlock?, resolve, abi, Library.path,
    Part.block?]

theorem messageBlock?_params (message : MessageBinding) :
    messageBlock? message "params" = some ⟨[], paramsExpr message.fields⟩ := by
  simp [messageBlock?, messageItems, structItem, Item.associatedBlock?, resolve, abi, Library.path,
    Part.block?, traitFunction, Function.block?]

theorem messageTypes_program :
    messageTypes bindings.program = bindings.messages.map (·.ident) := by
  have hstruct (struct : StructBinding) : (structItems struct).filterMap
      (·.implementor? [("abi", Library.path [])] (Library.path ["Message"])) = [] := by
    simp [structItems, structItem, Item.implementor?, resolve, abi, Library.path]
  have hmessage (message : MessageBinding) : (messageItems message).filterMap
      (·.implementor? [("abi", Library.path [])] (Library.path ["Message"])) = [message.ident] := by
    simp [messageItems, structItem, Item.implementor?, resolve, abi, Library.path]
  have hcommon : (commonItems bindings).filterMap
      (·.implementor? [("abi", Library.path [])] (Library.path ["Message"])) = [] := by
    rfl
  simp only [messageTypes, uses_program, filterMap_program, hstruct, hmessage, hcommon]
  simp [Item.implementor?, List.map_eq_flatMap]

theorem filterMap_typeName? : bindings.program.filterMap (·.typeName?)
    = bindings.structs.map (·.ident) ++ bindings.messages.map (·.ident) ++ generatedTypes := by
  have hstruct (struct : StructBinding) :
      (structItems struct).filterMap (·.typeName?) = [struct.ident] := rfl
  have hmessage (message : MessageBinding) :
      (messageItems message).filterMap (·.typeName?) = [message.ident] := rfl
  have hcommon : (commonItems bindings).filterMap (·.typeName?) = generatedTypes := rfl
  simp only [filterMap_program, hstruct, hmessage, hcommon]
  simp [Item.typeName?, List.map_eq_flatMap]

theorem findSome?_registry : bindings.program.findSome? (·.block? "registry")
    = some (registryBody bindings.messages) := by
  have hstructs : (bindings.structs.findSome? fun struct =>
      (structItems struct).findSome? (·.block? "registry")) = none := by
    rw [List.findSome?_eq_none_iff]
    intro struct _
    rfl
  have hmessages : (bindings.messages.findSome? fun message =>
      (messageItems message).findSome? (·.block? "registry")) = none := by
    rw [List.findSome?_eq_none_iff]
    intro message _
    rfl
  rw [findSome?_program _ _ rfl, hstructs, hmessages, Option.none_or, Option.none_or]
  simp [commonItems, abiJsonItem, enumItem, enumImplementation, handlerItems, registryItem,
    Item.block?, Function.block?, publicFunction]

end Lookup

section Evaluation

variable {bindings : Bindings}

theorem associated?_abi_type (fuel : Nat) (ident : String) :
    associated? bindings.program fuel none ident "abi_type"
      = (structType? bindings.structs fuel ident).map .type := by
  induction fuel generalizing ident with
  | zero => rfl
  | succ fuel ih =>
    rw [associated?, findSome?_abi_type, structType?]
    cases bindings.structs.find? (·.ident == ident) with
    | none => rfl
    | some struct =>
      have hanswers : Scope.Answers ⟨uses bindings.program, [], associated? bindings.program fuel⟩
          (structType? bindings.structs fuel) := ⟨uses_program bindings, ih⟩
      simp only [Option.map_some, Option.bind_eq_bind, Option.bind_some, Block.eval?, run?,
        eval?_abiTypeExpr hanswers]
      cases params? (structType? bindings.structs fuel) struct.fields <;> rfl

theorem answers_program (fuel : Nat) :
    Scope.Answers ⟨uses bindings.program, [], associated? bindings.program fuel⟩
      (structType? bindings.structs fuel) :=
  ⟨uses_program bindings, associated?_abi_type fuel⟩

section Message

variable {message : MessageBinding} (hmessage : message ∈ bindings.messages)
  (hnodup : (bindings.messages.map (·.ident)).Nodup) (fuel : Nat)

include hmessage hnodup

theorem associated?_of_messageBlock? {name : String} {expr : Expr}
    (hblock : messageBlock? message name = some ⟨[], expr⟩) :
    associated? bindings.program (fuel + 1) (some (Library.path ["Message"])) message.ident name
      = expr.eval? ⟨uses bindings.program, [], associated? bindings.program fuel⟩ := by
  have hfind : bindings.program.findSome? (·.associatedBlock? (uses bindings.program)
      (some (Library.path ["Message"])) message.ident name) = some ⟨[], expr⟩ := by
    rw [uses_program, findSome?_message bindings hmessage hnodup, hblock]
  rw [associated?, hfind]
  rfl

theorem associated?_name :
    associated? bindings.program (fuel + 1) (some (Library.path ["Message"])) message.ident "NAME"
      = some (.text message.name) := by
  rw [associated?_of_messageBlock? hmessage hnodup fuel (messageBlock?_name message), Expr.eval?]

theorem associated?_signature :
    associated? bindings.program (fuel + 1) (some (Library.path ["Message"])) message.ident
      "SIGNATURE" = some (.text message.signature) := by
  rw [associated?_of_messageBlock? hmessage hnodup fuel (messageBlock?_signature message), Expr.eval?]

theorem associated?_selector :
    associated? bindings.program (fuel + 1) (some (Library.path ["Message"])) message.ident
      "SELECTOR" = some (.selector message.selector) := by
  rw [associated?_of_messageBlock? hmessage hnodup fuel (messageBlock?_selector message),
    eval?_selectorExpr (answers_program fuel)]

theorem associated?_params :
    associated? bindings.program (fuel + 1) (some (Library.path ["Message"])) message.ident "params"
      = (params? (structType? bindings.structs fuel) message.fields).map fun params =>
        .list (params.map .param) := by
  rw [associated?_of_messageBlock? hmessage hnodup fuel (messageBlock?_params message),
    eval?_paramsExpr (answers_program fuel)]

end Message

theorem run?_registerStatements (spec : MessageBinding → MessageSpec) {messages : List MessageBinding}
    {scope : Scope} {registry : Registry} (huses : scope.uses = [("abi", Library.path [])])
    (hspec : ∀ message ∈ messages, scope.message? message.ident = some (spec message))
    (hvariable : scope.locals.lookup "registry" = some (.registry registry)) :
    run? scope (ok (.path ["registry"])) (messages.map registerStatement)
      = some (.result ((registry.registerAll (messages.map spec)).map .registry)) := by
  induction messages generalizing scope registry with
  | nil =>
    simp [run?, ok, Expr.eval?, Expr.listEval?, hvariable, Scope.call?, huses, resolve, List.lookup,
      Library.call?]
    rfl
  | cons message messages ih =>
    rcases List.forall_mem_cons.mp hspec with ⟨hfirst, hrest⟩
    rw [List.map_cons, List.map_cons, registerStatement, run?, hvariable, Registry.registerAll,
      List.foldlM_cons]
    simp only [hfirst, Option.bind_eq_bind, Option.bind_some]
    cases registry.register (spec message) with
    | error error => rfl
    | ok after =>
      show run? (scope.bind "registry" (.registry after)) _ _
        = some (.result ((after.registerAll (messages.map spec)).map .registry))
      apply ih
      . exact huses
      . exact hrest
      . simp [Scope.bind]

theorem message?_program {message : MessageBinding} (hmessage : message ∈ bindings.messages)
    (hnodup : (bindings.messages.map (·.ident)).Nodup) (fuel : Nat)
    (locals : List (String × Datum)) :
    Scope.message? ⟨uses bindings.program, locals, associated? bindings.program (fuel + 1)⟩
        message.ident
      = (params? (structType? bindings.structs fuel) message.fields).map (⟨message.name, ·⟩) := by
  simp only [Scope.message?, associated?_name hmessage hnodup, associated?_params hmessage hnodup]
  cases params? (structType? bindings.structs fuel) message.fields with
  | none => rfl
  | some params => simp [params?_list]

theorem call?_registry (hnodup : (bindings.messages.map (·.ident)).Nodup) (fuel : Nat)
    (spec : MessageBinding → MessageSpec)
    (hspec : ∀ message ∈ bindings.messages,
      (params? (structType? bindings.structs fuel) message.fields).map (⟨message.name, ·⟩)
        = some (spec message)) :
    call? bindings.program (fuel + 1) "registry"
      = some (.result ((Registry.empty.registerAll (bindings.messages.map spec)).map .registry)) := by
  have hnew (scope : Scope) (huses : scope.uses = [("abi", Library.path [])]) :
      (Expr.call (.path (abi ["Registry", "new"])) []).eval? scope
        = some (.registry Registry.empty) := by
    simp [Expr.eval?, Expr.listEval?, Scope.call?, huses, resolve, abi, Library.path, Library.call?]
  rw [call?, findSome?_registry]
  simp only [Option.bind_eq_bind, Option.bind_some, Block.eval?, registryBody, run?]
  rw [hnew _ (uses_program bindings), Option.bind_some]
  apply run?_registerStatements
  . exact uses_program bindings
  . intro message hmessage
    exact (message?_program hmessage hnodup fuel _).trans (hspec message hmessage)
  . simp [Scope.bind]

end Evaluation

end Code

end MessageAbi.Bindings
