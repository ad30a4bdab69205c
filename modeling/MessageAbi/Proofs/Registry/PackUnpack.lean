import Mathlib
import MessageAbi.Proofs.Codec.RoundTrip
import MessageAbi.Proofs.Registry.Consistent

/-!
This module contains how packing by name and unpacking by selector undo each other.
-/

namespace MessageAbi

namespace MessageSpec

variable {spec : MessageSpec} {values : List Value} {payload : Bytes}

theorem unpack_of_pack (htuples : ∀ param ∈ spec.params, param.type.tuplesNonempty = true)
    (hsize : payload.length < 2 ^ 64) (h : spec.pack values = .ok payload) :
    spec.unpack payload = .ok values :=
  Codec.decodeCall_of_encodeCall htuples hsize h

theorem exists_pack_of_unpack (h : spec.unpack payload = .ok values) :
    ∃ packed, spec.pack values = .ok packed ∧ packed.length ≤ 2 * payload.length :=
  Codec.exists_encodeCall_of_decodeCall h

theorem exists_pack_iff (spec : MessageSpec) (values : List Value) :
    (∃ payload, spec.pack values = .ok payload)
      ↔ List.Forall₂ (fun param value => HasType param.type value) spec.params values := by
  simp only [pack, Codec.encodeCall_eq_ok_iff]
  rw [← forall₂_hasType_map_iff]
  constructor
  . rintro ⟨_, data, hdata, _⟩
    exact Codec.forall₂_hasType_of_encode hdata
  . intro h
    rcases Codec.exists_encode h with ⟨data, hdata⟩
    exact ⟨_, data, hdata, rfl⟩

theorem exists_splitPayload_of_unpack (h : spec.unpack payload = .ok values) :
    ∃ data, Codec.splitPayload payload = .ok (spec.selector, data) := by
  rcases (Codec.decodeCall_eq_ok_iff _ _ _).mp h with ⟨data, hsplit, _⟩
  exact ⟨data, hsplit⟩

end MessageSpec

namespace Registry

variable {registry : Registry}

theorem unpack_of_splitPayload {payload data : Bytes} {selector : Selector}
    (hsplit : Codec.splitPayload payload = .ok (selector, data)) :
    registry.unpack payload = match registry.get? selector with
      | some spec => spec.unpack payload >>= fun values => .ok (spec, values)
      | none => .error (.selectorNotFound selector) := by
  rw [unpack, hsplit]
  rfl

theorem pack_eq_ok_iff (name : String) (values : List Value) (payload : Bytes) :
    registry.pack name values = .ok payload
      ↔ ∃ spec, registry.byName? name = some spec ∧ spec.pack values = .ok payload := by
  unfold pack
  split
  next hspec => simp [hspec]
  next hspec => simp [hspec]

namespace Consistent

variable (h : registry.Consistent)

include h

theorem unpack_eq_ok_iff (spec : MessageSpec) (values : List Value) (payload : Bytes) :
    registry.unpack payload = .ok (spec, values)
      ↔ spec ∈ registry.toList ∧ spec.unpack payload = .ok values := by
  constructor
  . intro hunpack
    rcases (bind_eq_ok_iff _ _ _).mp hunpack with ⟨⟨selector, data⟩, hsplit, _⟩
    rw [unpack_of_splitPayload hsplit] at hunpack
    split at hunpack
    next hget =>
      rcases (bind_eq_ok_iff _ _ _).mp hunpack with ⟨_, hvalues, heq⟩
      injection heq with heq
      injection heq with hspec hvalue
      subst hspec hvalue
      exact ⟨((h.get?_eq_some_iff _ _).mp hget).1, hvalues⟩
    next => contradiction
  . rintro ⟨hmem, hvalues⟩
    rcases MessageSpec.exists_splitPayload_of_unpack hvalues with ⟨data, hsplit⟩
    have hget := (h.get?_eq_some_iff _ _).mpr ⟨hmem, rfl⟩
    rw [unpack_of_splitPayload hsplit, hget]
    simp only [hvalues]
    rfl

theorem eq_of_unpack {left right : MessageSpec} {leftValues rightValues : List Value}
    {payload : Bytes} (hleft : left ∈ registry.toList) (hright : right ∈ registry.toList)
    (hunpackLeft : left.unpack payload = .ok leftValues)
    (hunpackRight : right.unpack payload = .ok rightValues) : left = right := by
  rcases MessageSpec.exists_splitPayload_of_unpack hunpackLeft with ⟨data, hsplitLeft⟩
  rcases MessageSpec.exists_splitPayload_of_unpack hunpackRight with ⟨_, hsplitRight⟩
  rw [hsplitLeft] at hsplitRight
  injection hsplitRight with heq
  injection heq with hselector _
  exact h.eq_of_selector_eq hleft hright hselector

theorem unpack_eq_error {payload : Bytes} {error : AbiError}
    (herror : registry.unpack payload = .error error) :
    (∃ fault, error = .malformedPayload fault) ∨ ∃ selector, error = .selectorNotFound selector := by
  cases (bind_eq_error_iff _ _ _).mp herror with
  | inl hsplit => exact .inl (Codec.malformed_of_splitPayload hsplit)
  | inr hfound =>
    rcases hfound with ⟨⟨selector, data⟩, hsplit, _⟩
    rw [unpack_of_splitPayload hsplit] at herror
    split at herror
    next spec hget =>
      -- The message is looked up under the selector of the payload, so it is the one it expects.
      rw [← ((h.get?_eq_some_iff _ _).mp hget).2] at hsplit
      cases (bind_eq_error_iff _ _ _).mp herror with
      | inl hunpack => exact .inl (Codec.malformed_of_decodeCall hsplit hunpack)
      | inr hreturn =>
        rcases hreturn with ⟨_, _, hreturn⟩
        contradiction
    next =>
      injection herror with herror
      exact .inr ⟨selector, herror.symm⟩

end Consistent

theorem pack_unpack_inverse (specs : List MessageSpec)
    (htuples : ∀ spec ∈ specs, ∀ param ∈ spec.params, param.type.tuplesNonempty = true) :
    (∀ (name : String) (values : List Value) (payload : Bytes),
      (offerAll specs).pack name values = .ok payload → payload.length < 2 ^ 63 →
        ∃ spec, spec.name = name ∧ (offerAll specs).unpack payload = .ok (spec, values))
    ∧ (∀ (payload : Bytes) (spec : MessageSpec) (values : List Value), payload.length < 2 ^ 62 →
      (offerAll specs).unpack payload = .ok (spec, values) →
        (offerAll specs).byName? spec.name = some spec
        ∧ (∀ other, other = spec
          ↔ other ∈ (offerAll specs).toList ∧ ∃ others, other.unpack payload = .ok others)
        ∧ ∃ packed, (offerAll specs).pack spec.name values = .ok packed
          ∧ (offerAll specs).unpack packed = .ok (spec, values))
    ∧ ∀ (payload : Bytes) (error : AbiError), (offerAll specs).unpack payload = .error error →
      (∃ fault, error = .malformedPayload fault)
      ∨ ∃ selector, error = .selectorNotFound selector := by
  have h := consistent_offerAll specs
  have hparams : ∀ spec ∈ (offerAll specs).toList, ∀ param ∈ spec.params,
      param.type.tuplesNonempty = true := by
    intro spec hmem
    exact htuples spec (mem_of_mem_offerAll hmem)
  refine ⟨?_, ?_, ?_⟩
  . intro name values payload hpack hsize
    rcases (pack_eq_ok_iff _ _ _).mp hpack with ⟨spec, hname, hpacked⟩
    rcases (h.byName?_eq_some_iff _ _).mp hname with ⟨hmem, hname⟩
    have hunpack := MessageSpec.unpack_of_pack (hparams spec hmem) (by omega) hpacked
    exact ⟨spec, hname, (h.unpack_eq_ok_iff _ _ _).mpr ⟨hmem, hunpack⟩⟩
  . intro payload spec values hsize hunpack
    rcases (h.unpack_eq_ok_iff _ _ _).mp hunpack with ⟨hmem, hvalues⟩
    have hname := (h.byName?_eq_some_iff spec.name spec).mpr ⟨hmem, rfl⟩
    refine ⟨hname, ?_, ?_⟩
    . intro other
      constructor
      . rintro rfl
        exact ⟨hmem, values, hvalues⟩
      . rintro ⟨hother, others, hothers⟩
        exact h.eq_of_unpack hother hmem hothers hvalues
    . -- The payload need not be the one that packing gives, but that one is at most twice as long.
      rcases MessageSpec.exists_pack_of_unpack hvalues with ⟨packed, hpacked, hle⟩
      have hagain := MessageSpec.unpack_of_pack (hparams spec hmem) (by omega) hpacked
      refine ⟨packed, ?_, ?_⟩
      . exact (pack_eq_ok_iff _ _ _).mpr ⟨spec, hname, hpacked⟩
      . exact (h.unpack_eq_ok_iff _ _ _).mpr ⟨hmem, hagain⟩
  . intro payload error
    exact h.unpack_eq_error

-- The second message is refused for its name.
set_option maxRecDepth 8000 in
theorem pack_unpack_inverse_ping :
    ∃ spec, spec.name = "Ping"
      ∧ (offerAll [⟨"Ping", [⟨"id", .uint 8⟩]⟩, ⟨"Ping", []⟩]).unpack
          (Selector.toBytes ⟨0x00efb13c⟩ ++ Codec.numberWord 7) = .ok (spec, [.uint 7])
      ∧ ∃ packed, (offerAll [⟨"Ping", [⟨"id", .uint 8⟩]⟩, ⟨"Ping", []⟩]).pack spec.name [.uint 7]
          = .ok packed
        ∧ (offerAll [⟨"Ping", [⟨"id", .uint 8⟩]⟩, ⟨"Ping", []⟩]).unpack packed
          = .ok (spec, [.uint 7]) := by
  have hselector : MessageSpec.selector ⟨"Ping", [⟨"id", .uint 8⟩]⟩ = ⟨0x00efb13c⟩ := by
    decide +kernel
  have htuples : ∀ spec ∈ [⟨"Ping", [⟨"id", .uint 8⟩]⟩, ⟨"Ping", []⟩],
      ∀ param ∈ MessageSpec.params spec, param.type.tuplesNonempty = true := by
    decide
  have hpack : (offerAll [⟨"Ping", [⟨"id", .uint 8⟩]⟩, ⟨"Ping", []⟩]).pack "Ping" [.uint 7]
      = .ok (Selector.toBytes ⟨0x00efb13c⟩ ++ Codec.numberWord 7) := by
    rw [pack_eq_ok_iff]
    refine ⟨⟨"Ping", [⟨"id", .uint 8⟩]⟩, ?_, ?_⟩
    . rw [(consistent_offerAll _).byName?_eq_some_iff]
      exact ⟨List.mem_singleton.mpr rfl, rfl⟩
    . rw [MessageSpec.pack, hselector]
      rfl
  have hsize : (Selector.toBytes ⟨0x00efb13c⟩ ++ Codec.numberWord 7).length < 2 ^ 62 := by
    simp [Word.size, Selector.size]
  rcases pack_unpack_inverse _ htuples with ⟨hforth, hback, _⟩
  rcases hforth _ _ _ hpack (by omega) with ⟨spec, hname, hunpack⟩
  rcases hback _ _ _ hsize hunpack with ⟨_, _, hpacked⟩
  exact ⟨spec, hname, hunpack, hpacked⟩

end Registry

end MessageAbi
