import MessageAbi.Bindings.Basic

/-!
This module contains what bindings do: the ABI types that their terms give, the packing and
unpacking of typed messages, and the dispatch of payloads to handlers.
-/

namespace MessageAbi.Bindings

def TypeTerm.eval? (structType? : String → Option AbiType) : TypeTerm → Option AbiType
  | bool => some .bool
  | uint bits => some (.uint bits)
  | int bits => some (.int bits)
  | address => some .address
  | bytes => some .bytes
  | string => some .string
  | array element => (element.eval? structType?).map .array
  | struct ident => structType? ident

def params? (structType? : String → Option AbiType) (fields : List FieldBinding) :
    Option (List Param) :=
  fields.mapM fun field => do
    let type ← field.type.eval? structType?
    return ⟨field.name, type⟩

/--
What a struct answers when asked for its ABI type, if structs do not ask each other more than `fuel`
deep.
-/
def structType? (structs : List StructBinding) : (fuel : Nat) → (ident : String) → Option AbiType
  | 0, _ => none
  | fuel + 1, ident => do
    let struct ← structs.find? (·.ident == ident)
    let components ← params? (structType? structs fuel) struct.fields
    return .tuple struct.name components

def params (bindings : Bindings) (message : MessageBinding) : List Param :=
  (params? (structType? bindings.structs bindings.structs.length) message.fields).getD []

def MessageBinding.natives (message : MessageBinding) : List NativeType :=
  message.fields.map (·.native)

abbrev MessageBinding.Carrier (message : MessageBinding) : Type :=
  NativeType.Fields message.natives

namespace MessageBinding

def toValues (message : MessageBinding) (content : message.Carrier) : List Value :=
  NativeType.toValues message.natives content

def ofValues (message : MessageBinding) (values : List Value) :
    Except AbiError message.Carrier := do
  let values ← Value.exactly message.natives.length values
  NativeType.ofValues message.natives values

end MessageBinding

def spec (bindings : Bindings) (message : MessageBinding) : MessageSpec :=
  ⟨message.name, bindings.params message⟩

def registry (bindings : Bindings) : Except AbiError Registry :=
  Registry.empty.registerAll (bindings.messages.map bindings.spec)

def encode (bindings : Bindings) (message : MessageBinding) (content : message.Carrier) :
    Except AbiError Bytes :=
  Codec.encodeCall message.selector (bindings.params message) (message.toValues content)

def decodeAs (bindings : Bindings) (message : MessageBinding) (payload : Bytes) :
    Except AbiError message.Carrier := do
  let values ← Codec.decodeCall message.selector (bindings.params message) payload
  message.ofValues values

structure TypedMessage where
  message : MessageBinding
  content : message.Carrier

def TypedMessage.values (typed : TypedMessage) : List Value :=
  typed.message.toValues typed.content

def decodeAmong (bindings : Bindings) (messages : List MessageBinding)
    (otherwise : Selector → AbiError) (payload : Bytes) : Except AbiError TypedMessage := do
  let selector ← Selector.ofPayload payload
  match messages.find? (·.selector = selector) with
  | some message => return ⟨message, ← bindings.decodeAs message payload⟩
  | none => throw (otherwise selector)

def decode (bindings : Bindings) (payload : Bytes) : Except AbiError TypedMessage :=
  bindings.decodeAmong bindings.messages .selectorNotFound payload

/--
The callbacks of an application, which has a state of its own and its own errors.
-/
structure Handler (σ ε : Type) where
  ofAbiError : AbiError → ε
  call : (method : String) → TypedMessage → ExceptT ε (StateM σ) Unit

inductive Request where
  | advance (payload : Bytes)
  | inspect (payload : Bytes)

namespace Request

def category : Request → Category
  | advance _ => .advance
  | inspect _ => .inspect

def payload : Request → Bytes
  | advance payload => payload
  | inspect payload => payload

end Request

namespace Handler

variable {σ ε : Type}

def receive (handler : Handler σ ε) (bindings : Bindings) (category : Category)
    (payload : Bytes) : ExceptT ε (StateM σ) Unit :=
  match bindings.decodeAmong (bindings.messagesOf category) (.unsupportedMessage category)
    payload with
  | .ok typed => handler.call (typed.message.method.getD typed.message.name) typed
  | .error error => throw (handler.ofAbiError error)

def session (handler : Handler σ ε) (bindings : Bindings) (requests : List Request) :
    StateM σ (List (Except ε Unit)) :=
  requests.mapM fun request => (handler.receive bindings request.category request.payload).run

end Handler

structure Call where
  method : String
  values : List Value

/--
A handler that writes down its calls, the latest first.
-/
def recorder : Handler (List Call) AbiError where
  ofAbiError error := error
  call method typed := modify fun calls => ⟨method, typed.values⟩ :: calls

def dispatch (bindings : Bindings) (category : Category) (payload : Bytes) (calls : List Call) :
    Except AbiError (List Call) :=
  match (recorder.receive bindings category payload).run.run calls with
  | (.ok (), calls) => .ok calls
  | (.error error, _) => .error error

end MessageAbi.Bindings
