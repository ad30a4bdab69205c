import MessageAbi.MessageSpec

/-!
This module contains the lookup table for a set of messages, by selector and by name.
-/

namespace MessageAbi

/--
A set of messages. Nothing registers itself: a registry is built from a list of specs and handed to
whatever routes payloads.
-/
structure Registry where
  messages : List (Selector × MessageSpec)
  names : List (String × Selector)

namespace Registry

def empty : Registry :=
  ⟨[], []⟩

def get? (registry : Registry) (selector : Selector) : Option MessageSpec :=
  registry.messages.lookup selector

def byName? (registry : Registry) (name : String) : Option MessageSpec :=
  (registry.names.lookup name).bind registry.get?

def toList (registry : Registry) : List MessageSpec :=
  registry.messages.map (·.2)

def size (registry : Registry) : Nat :=
  registry.messages.length

def isEmpty (registry : Registry) : Bool :=
  registry.messages.isEmpty

def insert (selector : Selector) (spec : MessageSpec) :
    List (Selector × MessageSpec) → List (Selector × MessageSpec)
  | [] => [(selector, spec)]
  | (other, otherSpec) :: rest =>
    if selector < other then (selector, spec) :: (other, otherSpec) :: rest
    else if selector = other then (selector, spec) :: rest
    else (other, otherSpec) :: insert selector spec rest

def register (registry : Registry) (spec : MessageSpec) : Except AbiError Registry :=
  if (registry.names.lookup spec.name).isSome then
    .error (.duplicateMessage spec.name)
  else
    match registry.get? spec.selector with
    | some existing =>
      .error (.duplicateSelector spec.selector existing.signature spec.signature)
    | none =>
      .ok ⟨insert spec.selector spec registry.messages,
        (spec.name, spec.selector) :: registry.names⟩

/--
Adds a message to the registry at hand and gives its selector. Both checks come before either table is
changed.
-/
def add (spec : MessageSpec) : ExceptT AbiError (StateM Registry) Selector := do
  if ((← get).names.lookup spec.name).isSome then
    throw (.duplicateMessage spec.name)
  if let some existing := (← get).get? spec.selector then
    throw (.duplicateSelector spec.selector existing.signature spec.signature)
  modify fun registry => { registry with names := (spec.name, spec.selector) :: registry.names }
  modify fun registry =>
    { registry with messages := insert spec.selector spec registry.messages }
  return spec.selector

def addEach (specs : List MessageSpec) : StateM Registry (List (Except AbiError Selector)) :=
  specs.mapM fun spec => (add spec).run

def registerAll (registry : Registry) (specs : List MessageSpec) : Except AbiError Registry :=
  specs.foldlM register registry

def pack (registry : Registry) (name : String) (values : List Value) : Except AbiError Bytes :=
  match registry.byName? name with
  | some spec => spec.pack values
  | none => .error (.unknownMessage name)

def unpack (registry : Registry) (payload : Bytes) :
    Except AbiError (MessageSpec × List Value) := do
  let (selector, _) ← Codec.splitPayload payload
  match registry.get? selector with
  | some spec => return (spec, ← spec.unpack payload)
  | none => throw (.selectorNotFound selector)

end Registry

end MessageAbi
