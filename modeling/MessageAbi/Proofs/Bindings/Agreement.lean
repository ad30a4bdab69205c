import Mathlib
import MessageAbi.Proofs.Bindings.Description
import MessageAbi.Proofs.Bindings.Native
import MessageAbi.Proofs.Registry.PackUnpack
import MessageAbi.Proofs.Schema.ParamTypes

/-!
This module contains how typed messages agree with a registry of their specs: both decode the same
payloads to the same values, fail with the same errors and encode the same values.
-/

namespace MessageAbi.Bindings

section Holds

variable {structs : List StructBinding} {types : List AbiType}

end Holds

namespace Agrees

variable {schema : Schema} {compiled : Schema.Compiled} {bindings : Bindings}
variable (h : Agrees schema compiled bindings)
variable (hcovers : Schema.Compiled.Covers compiled.structTypes schema.messages compiled)

include h hcovers

end Agrees

/--
Bindings whose messages are those of the registry. Their fields have room for all values of the
parameters, and messages that are dispatched have methods named after them.
-/
structure Serves (bindings : Bindings) (registry : Registry) : Prop where
  registry_eq : bindings.registry = .ok registry
  selector_eq : ∀ message ∈ bindings.messages, message.selector = (bindings.spec message).selector
  wellFormed : ∀ message ∈ bindings.messages, WellFormedParams (bindings.params message)
  holds : ∀ message ∈ bindings.messages, List.Forall₂ (fun native param => native.Holds param.type)
    message.natives (bindings.params message)
  method : ∀ message ∈ bindings.messages, message.category = .advance ∨ message.category = .inspect →
    ∃ method, toIdentifier (Text.snakeCase message.name) = .ok method
      ∧ message.method = some method

theorem decodeAs_eq_ok_iff (bindings : Bindings) (message : MessageBinding) (payload : Bytes)
    (content : message.Carrier) :
    bindings.decodeAs message payload = .ok content
      ↔ ∃ values, Codec.decodeCall message.selector (bindings.params message) payload = .ok values
        ∧ message.ofValues values = .ok content :=
  bind_eq_ok_iff _ _ _

theorem MessageBinding.toValues_of_ofValues {message : MessageBinding} {values : List Value}
    {content : message.Carrier} (h : message.ofValues values = .ok content) :
    message.toValues content = values := by
  rcases (bind_eq_ok_iff _ _ _).mp h with ⟨_, hexactly, hcontent⟩
  rcases (Value.exactly_eq_ok_iff _ _ _).mp hexactly with ⟨hlength, rfl⟩
  exact NativeType.toValues_of_ofValues message.natives hlength hcontent

section DecodeAmong

variable {bindings : Bindings} {messages : List MessageBinding} {message : MessageBinding}
variable {selector : Selector} {payload : Bytes} (otherwise : Selector → AbiError)

theorem decodeAmong_of_short {error : AbiError} (h : Selector.ofPayload payload = .error error) :
    bindings.decodeAmong messages otherwise payload = .error error := by
  rw [decodeAmong, h]
  rfl

theorem decodeAmong_of_notMem (h : Selector.ofPayload payload = .ok selector)
    (hnone : ∀ message ∈ messages, message.selector ≠ selector) :
    bindings.decodeAmong messages otherwise payload = .error (otherwise selector) := by
  have hfind : messages.find? (·.selector = selector) = none := by simpa using hnone
  rw [decodeAmong, h]
  simp only [bind, Except.bind, hfind]
  rfl

theorem decodeAmong_of_mem (hnodup : (messages.map (·.selector)).Nodup)
    (h : Selector.ofPayload payload = .ok message.selector) (hmessage : message ∈ messages) :
    bindings.decodeAmong messages otherwise payload
      = (bindings.decodeAs message payload).map fun content => ⟨message, content⟩ := by
  have hfind : messages.find? (·.selector = message.selector) = some message := by
    rw [find?_eq_some_iff_of_nodup (fun _ => decide_eq_true_iff) hnodup]
    exact ⟨hmessage, rfl⟩
  rw [decodeAmong, h]
  simp only [bind, Except.bind, hfind]
  rfl

theorem ofPayload_of_decodeAs {content : message.Carrier}
    (h : bindings.decodeAs message payload = .ok content) :
    Selector.ofPayload payload = .ok message.selector := by
  rcases (decodeAs_eq_ok_iff _ _ _ _).mp h with ⟨values, hvalues, _⟩
  rcases (Codec.decodeCall_eq_ok_iff _ _ _).mp hvalues with ⟨data, hsplit, _⟩
  rcases (bind_eq_ok_iff _ _ _).mp hsplit with ⟨selector, hselector, hpair⟩
  cases hpair
  exact hselector

theorem decodeAmong_eq_ok_iff (hnodup : (messages.map (·.selector)).Nodup) (typed : TypedMessage) :
    bindings.decodeAmong messages otherwise payload = .ok typed
      ↔ typed.message ∈ messages
        ∧ bindings.decodeAs typed.message payload = .ok typed.content := by
  constructor
  . intro h
    rcases (bind_eq_ok_iff _ _ _).mp h with ⟨selector, hselector, hfound⟩
    cases hfind : messages.find? (·.selector = selector) with
    | none => simp [hfind] at hfound
    | some message =>
      simp only [hfind, bind_eq_ok_iff, pure_eq_ok_iff] at hfound
      rcases hfound with ⟨content, hcontent, rfl⟩
      exact ⟨List.mem_of_find?_eq_some hfind, hcontent⟩
  . rintro ⟨hmessage, hcontent⟩
    rw [decodeAmong_of_mem otherwise hnodup (ofPayload_of_decodeAs hcontent) hmessage, hcontent]
    rfl

end DecodeAmong

namespace Serves

variable {bindings : Bindings} {registry : Registry} {message : MessageBinding}
variable {values : List Value} {payload : Bytes}

section Message

variable (h : Serves bindings registry) (hmessage : message ∈ bindings.messages)

include h hmessage

theorem encode_eq_pack (content : message.Carrier) :
    bindings.encode message content = (bindings.spec message).pack (message.toValues content) := by
  rw [encode, h.selector_eq message hmessage]
  rfl

end Message

theorem consistent (h : Serves bindings registry) :
    registry.Consistent
      ∧ ∀ spec, spec ∈ registry.toList
        ↔ ∃ message ∈ bindings.messages, bindings.spec message = spec := by
  rcases Registry.consistent_of_registerAll h.registry_eq with ⟨hconsistent, hmem⟩
  refine ⟨hconsistent, ?_⟩
  intro spec
  rw [hmem, List.mem_map]

theorem nodup (h : Serves bindings registry) :
    (bindings.messages.map (·.name)).Nodup ∧ (bindings.messages.map (·.selector)).Nodup := by
  rcases Registry.consistent_empty.pairwise_of_registerAll h.registry_eq with ⟨hpairwise, _⟩
  rw [List.pairwise_map] at hpairwise
  constructor
  . rw [List.Nodup, List.pairwise_map]
    exact hpairwise.imp fun hne => hne.1
  . rw [List.Nodup, List.pairwise_map]
    apply hpairwise.imp_of_mem
    intro left right hleft hright hne
    rw [h.selector_eq left hleft, h.selector_eq right hright]
    exact hne.2

theorem pack_eq_ok_iff (h : Serves bindings registry) (hmessage : message ∈ bindings.messages)
    (values : List Value) (payload : Bytes) :
    registry.pack message.name values = .ok payload
      ↔ (bindings.spec message).pack values = .ok payload := by
  rcases h.consistent with ⟨hconsistent, hmem⟩
  have hname : registry.byName? message.name = some (bindings.spec message) := by
    rw [hconsistent.byName?_eq_some_iff, hmem]
    exact ⟨⟨message, hmessage, rfl⟩, rfl⟩
  rw [Registry.pack, hname]

theorem decode_of_encode (h : Serves bindings registry) (hmessage : message ∈ bindings.messages)
    {content : message.Carrier} (hcontent : message.ofValues values = .ok content)
    (hencode : bindings.encode message content = .ok payload) (hsize : payload.length < 2 ^ 64) :
    bindings.decode payload = .ok ⟨message, content⟩ := by
  rw [decode, decodeAmong_eq_ok_iff _ h.nodup.2]
  refine ⟨hmessage, ?_⟩
  rw [h.encode_eq_pack hmessage, MessageBinding.toValues_of_ofValues hcontent] at hencode
  have hunpack := MessageSpec.unpack_of_pack
    (fun param hparam => ((h.wellFormed message hmessage).types param hparam).tuplesNonempty)
    hsize hencode
  rw [MessageSpec.unpack, ← h.selector_eq message hmessage] at hunpack
  rw [decodeAs_eq_ok_iff]
  exact ⟨values, hunpack, hcontent⟩

end Serves

end MessageAbi.Bindings
