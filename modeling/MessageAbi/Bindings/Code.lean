import MessageAbi.Bindings.Code.Text
import MessageAbi.Bindings.Typed

/-!
This module contains the code of bindings: the items that stand for their structs and messages, and the
text of the file or the module that holds the items.
-/

namespace MessageAbi.Bindings

namespace Code

def abi (names : List String) : Path :=
  "abi" :: names

def abiTy (name : String) : Ty :=
  .path (abi [name]) []

def selfTy : Ty :=
  .path ["Self"] []

def vecTy (element : Ty) : Ty :=
  .path ["", "std", "vec", "Vec"] [element]

def result (type error : Ty) : Ty :=
  .path ["", "core", "result", "Result"] [type, error]

def ok (value : Expr) : Expr :=
  .call (.path ["", "core", "result", "Result", "Ok"]) [value]

def error (value : Expr) : Expr :=
  .call (.path ["", "core", "result", "Result", "Err"]) [value]

def staticText : Ty :=
  .reference (some "'static") (.path ["str"] [])

def payloadTy : Ty :=
  .reference none (.slice (.path ["u8"] []))

def traitFunction (name : String) (receiver : Option Receiver) (parameters : List (String × Ty))
    (type : Ty) (body : Block) : Part :=
  .function ⟨none, false, name, [], receiver, parameters, type, some body⟩

end Code

open Code

def NativeType.code : NativeType → Ty
  | bool => .path ["bool"] []
  | unsigned width => .path [s!"u{width.bits}"] []
  | signed width => .path [s!"i{width.bits}"] []
  | wideUnsigned => abiTy "U256"
  | wideSigned => abiTy "I256"
  | address => abiTy "Address"
  | bytes => vecTy (.path ["u8"] [])
  | string => .path ["", "std", "string", "String"] []
  | list element => vecTy element.code
  | record ident _ => .path [ident] []

def TypeTerm.code : TypeTerm → Expr
  | bool => .path (abi ["AbiType", "Bool"])
  | uint bits => .call (.path (abi ["AbiType", "Uint"])) [.number bits]
  | int bits => .call (.path (abi ["AbiType", "Int"])) [.number bits]
  | address => .path (abi ["AbiType", "Address"])
  | bytes => .path (abi ["AbiType", "Bytes"])
  | string => .path (abi ["AbiType", "String"])
  | array element => .call (.path (abi ["AbiType", "array"])) [element.code]
  | struct ident => .call (.path [ident, "abi_type"]) []

namespace Code

/--
The value of the native one at a place. Lists are gone through item by item; `isReference` says that
the place already holds a reference.
-/
def toValue : NativeType → (place : Expr) → (isReference : Bool) → Expr
  | .list element, place, _ =>
    let items := Expr.method (.method place "iter" [] []) "map" []
      [.closure "item" (toValue element (.path ["item"]) true)]
    .call (.path (abi ["Value", "Array"])) [.method items "collect" [] []]
  | _, place, isReference =>
    .call (.path (abi ["AbiValue", "to_value"])) [if isReference then place else .borrow place]

def fromValue : NativeType → (value : Expr) → Expr
  | .list element, value =>
    let items := Expr.method (.propagate (.method value "into_array" [] [])) "into_iter" [] []
    let ok := Expr.generic ["", "core", "result", "Result"] [.inferred, abiTy "Error"] ["Ok"]
    let results := Expr.method items "map" []
      [.closure "item" (.call ok [fromValue element (.path ["item"])])]
    .propagate (.method results "collect" [result (vecTy .inferred) (abiTy "Error")] [])
  | type, value => .propagate (.call (.associated type.code (abiTy "AbiValue") "from_value") [value])

def paramExpr (field : FieldBinding) : Expr :=
  .call (.path (abi ["Param", "new"])) [.text field.name, field.type.code]

def paramsExpr (fields : List FieldBinding) : Expr :=
  .vec (fields.map paramExpr)

def toValues (fields : List FieldBinding) : Expr :=
  .vec (fields.map fun field => toValue field.native (.field (.path ["self"]) field.ident) false)

def fromValues (fields : List FieldBinding) (source : Expr) : Block :=
  let names := (List.range fields.length).map fun index => s!"field{index}"
  let members := (fields.zip names).map fun (field, name) =>
    Member.given field.ident (fromValue field.native (.path [name]))
  let values := Expr.call (.generic (abi ["fields"]) [.count fields.length] []) [source]
  ⟨[.bind (.array names) (.propagate values)], ok (.construct ["Self"] members)⟩

def structItem (ident : String) (fields : List FieldBinding) (doc : String) : Item :=
  .struct doc ident (fields.map fun field => (field.ident, field.native.code))

def abiTypeExpr (struct : StructBinding) : Expr :=
  .construct (abi ["AbiType", "Tuple"])
    [.given "name" (.call (.path ["", "std", "string", "String", "from"]) [.text struct.name]),
     .given "components" (paramsExpr struct.fields)]

def structItems (struct : StructBinding) : List Item :=
  [structItem struct.ident struct.fields s!" The \x60{struct.name}\x60 struct.",
   .implementation none struct.ident
     [.function ⟨none, true, "abi_type", [], none, [], abiTy "AbiType",
       some ⟨[], abiTypeExpr struct⟩⟩],
   .implementation (some (abi ["AbiValue"])) struct.ident
     [traitFunction "to_value" (some .shared) [] (abiTy "Value")
       ⟨[], .call (.path (abi ["Value", "Tuple"])) [toValues struct.fields]⟩,
      traitFunction "from_value" none [("value", abiTy "Value")] (result selfTy (abiTy "Error"))
        (fromValues struct.fields (.propagate (.method (.path ["value"]) "into_tuple" [] [])))]]

def selectorExpr (selector : Selector) : Expr :=
  .call (.path (abi ["Selector"])) [.array (selector.toBytes.map .byte)]

def messageItems (message : MessageBinding) : List Item :=
  let doc := s!" The \x60{message.signature}\x60 {message.category.name}, " ++
    s!"selector \x60{message.selector.toHex}\x60."
  [structItem message.ident message.fields doc,
   .implementation (some (abi ["Message"])) message.ident
     [.constant ⟨none, false, "NAME", staticText, .text message.name⟩,
      .constant ⟨none, false, "SIGNATURE", staticText, .text message.signature⟩,
      .constant ⟨none, false, "SELECTOR", abiTy "Selector", selectorExpr message.selector⟩,
      traitFunction "params" none [] (vecTy (abiTy "Param")) ⟨[], paramsExpr message.fields⟩,
      traitFunction "to_values" (some .shared) [] (vecTy (abiTy "Value"))
        ⟨[], toValues message.fields⟩,
      traitFunction "from_values" none [("values", vecTy (abiTy "Value"))]
        (result selfTy (abiTy "Error")) (fromValues message.fields (.path ["values"]))]]

def publicFunction (name : String) (receiver : Option Receiver) (parameters : List (String × Ty))
    (type : Ty) (body : Block) (doc : Option String) : Function :=
  ⟨doc, true, name, [], receiver, parameters, type, some body⟩

def ofMessage (message : MessageBinding) (name : String) : Expr :=
  .associated (.path [message.ident] []) (abiTy "Message") name

def selectorPattern (message : MessageBinding) : Pattern :=
  .constant (.path [message.ident] []) (abiTy "Message") "SELECTOR"

def decodeExpr (message : MessageBinding) : Expr :=
  .propagate (.call (ofMessage message "decode") [.path ["payload"]])

def selectByPayload (arms : List Arm) (otherwise : Expr) : Block :=
  ⟨[.bind (.named "selector")
      (.propagate (.call (.path (abi ["Selector", "from_payload"])) [.path ["payload"]]))],
    .select (.path ["selector"]) (arms ++ [.mk .wildcard otherwise])⟩

def enumItem (messages : List MessageBinding) : Item :=
  .enum " Any report, advance or inspect of the schema." "Message"
    (messages.map fun message => (message.ident, .path [message.ident] []))

def enumImplementation (messages : List MessageBinding) : Item :=
  let variant (message : MessageBinding) : Path := ["Self", message.ident]
  let select (content : Pattern) (body : MessageBinding → Expr) : Block :=
    ⟨[], .select (.deref (.path ["self"]))
      (messages.map fun message => .mk (.variant (variant message) content) (body message))⟩
  let decodeArms := messages.map fun message =>
    Arm.mk (selectorPattern message) (ok (.call (.path (variant message)) [decodeExpr message]))
  let notFound := error (.call (.path (abi ["Error", "SelectorNotFound"])) [.path ["selector"]])
  .implementation none "Message"
    [.function (publicFunction "decode" none [("payload", payloadTy)]
      (result selfTy (abiTy "Error")) (selectByPayload decodeArms notFound)
      (some " Decodes whichever message the payload's selector names.")),
     .function (publicFunction "encode" (some .shared) []
      (result (vecTy (.path ["u8"] [])) (abiTy "Error"))
      (select (.borrowed "message") fun _ =>
        .call (.path (abi ["Message", "encode"])) [.path ["message"]]) none),
     .function (publicFunction "selector" (some .shared) [] (abiTy "Selector")
      (select .wildcard fun message => ofMessage message "SELECTOR") none),
     .function (publicFunction "name" (some .shared) [] staticText
      (select .wildcard fun message => ofMessage message "NAME") none)]

def fromTrait (type : Ty) : Ty :=
  .path ["", "core", "convert", "From"] [type]

def handlerItems (category : Category) (trait function : String) (messages : List MessageBinding) :
    List Item :=
  let methods := messages.map fun message =>
    (⟨none, false, message.method.getD "", [], some .exclusive,
      [("message", .path [message.ident] [])], result .unit (.path ["Self", "Error"] []), none⟩ :
        Function)
  let arms := messages.map fun message =>
    Arm.mk (selectorPattern message)
      (.method (.path ["handler"]) (message.method.getD "") [] [decodeExpr message])
  let handlerError := Ty.path ["Handler_", "Error"] []
  let unsupported := error (.call (.associated handlerError (fromTrait (abiTy "Error")) "from")
    [.construct (abi ["Error", "UnsupportedMessage"])
      [.given "category" (.text category.name), .shorthand "selector"]])
  let bounds : List Bound :=
    [⟨false, .path [trait] []⟩, ⟨true, .path ["", "core", "marker", "Sized"] []⟩]
  [.trait s!" Application callbacks for every {category.name} message." trait
     [("Error", fromTrait (abiTy "Error"))] methods,
   .function ⟨s!" Decodes an {category.name} payload and passes it to the matching handler method.",
     true, function, [("Handler_", bounds)], none,
     [("handler", .reference (some "mut") (.path ["Handler_"] [])), ("payload", payloadTy)],
     result .unit handlerError, some (selectByPayload arms unsupported)⟩]

def registerStatement (message : MessageBinding) : Statement :=
  .run (.propagate (.method (.path ["registry"]) "register_message" [.path [message.ident] []] []))

def registryBody (messages : List MessageBinding) : Block :=
  ⟨.bind (.mutable "registry") (.call (.path (abi ["Registry", "new"])) [])
      :: messages.map registerStatement,
    ok (.path ["registry"])⟩

def registryItem (messages : List MessageBinding) : Item :=
  .function (publicFunction "registry" none [] (result (abiTy "Registry") (abiTy "Error"))
    (registryBody messages) (some " Builds the selector registry of every message of the schema."))

def abiJsonItem (abiJson : String) : Item :=
  .constant ⟨some " The Contract ABI of the schema.", true, "ABI_JSON",
    .reference none (.path ["str"] []), .text abiJson⟩

def commonItems (bindings : Bindings) : List Item :=
  [abiJsonItem bindings.abiJson, enumItem bindings.messages, enumImplementation bindings.messages]
    ++ handlerItems .advance "AdvanceHandler" "dispatch_advance" (bindings.messagesOf .advance)
    ++ handlerItems .inspect "InspectHandler" "dispatch_inspect" (bindings.messagesOf .inspect)
    ++ [registryItem bindings.messages]

end Code

/--
Code: the attributes in front, and with a module its opening, and then the items.
-/
structure Code where
  header : List String
  program : List Code.Item
  isModule : Bool

def program (bindings : Bindings) : List Item :=
  .useAs ["", "rollabi_abi"] "abi"
    :: bindings.structs.flatMap structItems
    ++ bindings.messages.flatMap messageItems
    ++ commonItems bindings

def generatorVersion : String :=
  "rollabi-generator 0.1.0"

def header : (moduleName : Option String) → List String
  | none =>
    [textOf ("#" :: "!" :: brackets [["doc", "=", literal ("Generated by " ++ generatorVersion)]]),
     "#![allow(dead_code,unused_imports,unused_variables)]"]
  | some name =>
    [textOf (docTokens ("Generated by " ++ generatorVersion)),
     "#[allow(dead_code,unused_imports,unused_variables)]", textOf ["pub", "mod", name]]

def code (bindings : Bindings) (moduleName : Option String) : Code :=
  ⟨header moduleName, bindings.program, moduleName.isSome⟩

/--
Generates the bindings of an analyzed schema and writes them as code, in the module with the given
name if there is one.
-/
def generate (schema : Schema) (moduleText : Option String) : Except GenerationError Code := do
  let _ ← schema.compile
  let name ← moduleText.mapM moduleName
  return (← ofSchema schema).code name

namespace Code

def items (code : Code) : List String :=
  code.program.map (·.text)

def text (code : Code) : String :=
  let lines := code.header ++ (if code.isModule then ["\x7b"] else []) ++ code.items
    ++ (if code.isModule then ["\x7d"] else [])
  String.join (lines.map (· ++ "\n"))

end Code

end MessageAbi.Bindings
