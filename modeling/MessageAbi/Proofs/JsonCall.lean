import Mathlib
import MessageAbi.JsonCall
import MessageAbi.Proofs.JsonArguments.RoundTrip
import MessageAbi.Proofs.Registry.PackUnpack
import MessageAbi.Proofs.Schema.ParamTypes

/-!
This module contains how packing messages from JSON arguments and unpacking them to JSON undo each other
for the messages of a schema document.
-/

namespace MessageAbi

namespace MessageSpec

variable {spec : MessageSpec} {values : List Value}

theorem exists_pack_of_read {json : Json} (h : JsonArguments.read spec.params json = .ok values) :
    ∃ payload, spec.pack values = .ok payload :=
  (spec.exists_pack_iff values).mpr (JsonArguments.forall₂_hasType_of_read h)

theorem packJson_of_read {json : Json} (h : JsonArguments.read spec.params json = .ok values) :
    spec.packJson json = spec.pack values := by
  rw [packJson, h]
  rfl

theorem exists_write_of_pack (hparams : WellFormedParams spec.params) {payload : Bytes}
    (h : spec.pack values = .ok payload) :
    ∃ json, JsonArguments.write spec.params values = .ok json
      ∧ JsonArguments.read spec.params json = .ok values := by
  apply JsonArguments.exists_write_read hparams.nodup
  . intro param hparam
    exact (hparams.types param hparam).namesDistinct
  . exact (spec.exists_pack_iff values).mp ⟨payload, h⟩

end MessageSpec

theorem Registry.unpackJson_of_write {registry : Registry} {payload : Bytes} {spec : MessageSpec}
    {values : List Value} {json : Json} (hunpack : registry.unpack payload = .ok (spec, values))
    (hwrite : JsonArguments.write spec.params values = .ok json) :
    registry.unpackJson payload = .ok (spec, json) := by
  rw [unpackJson, hunpack]
  simp only [bind, Except.bind, hwrite]
  rfl

namespace Schema

theorem wellFormedParams_of_read {document : Bytes} {policy : EmptySchemaPolicy} {schema : Schema}
    {compiled : Compiled} (hread : read document policy = .ok schema)
    (hcompile : schema.compile = .ok compiled) :
    ∀ spec ∈ compiled.registry.toList, WellFormedParams spec.params := by
  intro spec hspec
  rcases (read_eq_ok_iff _ _ _).mp hread with ⟨parsed, _, hanalyze⟩
  rcases Compiled.consistent_registry hcompile with ⟨_, hmem⟩
  rcases List.mem_map.mp ((hmem spec).mp hspec) with ⟨entry, hentry, rfl⟩
  exact wellFormedParams_of_compile hanalyze hcompile entry hentry

theorem Compiled.unpack_of_pack {document : Bytes} {policy : EmptySchemaPolicy} {schema : Schema}
    {compiled : Compiled} (hread : read document policy = .ok schema)
    (hcompile : schema.compile = .ok compiled) {spec : MessageSpec} {values : List Value}
    {payload : Bytes} (hspec : spec ∈ compiled.registry.toList) (hsize : payload.length < 2 ^ 64)
    (hpack : spec.pack values = .ok payload) :
    compiled.registry.unpack payload = .ok (spec, values) := by
  rcases Compiled.consistent_registry hcompile with ⟨hconsistent, _⟩
  rw [hconsistent.unpack_eq_ok_iff]
  refine ⟨hspec, MessageSpec.unpack_of_pack ?_ hsize hpack⟩
  intro param hparam
  exact ((wellFormedParams_of_read hread hcompile spec hspec).types param hparam).tuplesNonempty

theorem packJson_unpackJson {document : Bytes} {policy : EmptySchemaPolicy} {schema : Schema}
    {compiled : Compiled} (hread : read document policy = .ok schema)
    (hcompile : schema.compile = .ok compiled) :
    (∀ message ∈ schema.messages, ∃ spec,
      compiled.registry.byName? message.2.name = some spec
      ∧ ∀ (json : Json) (values : List Value), JsonArguments.read spec.params json = .ok values →
        ∃ payload written, spec.pack values = .ok payload
          ∧ JsonArguments.write spec.params values = .ok written
          ∧ JsonArguments.read spec.params written = .ok values
          ∧ (payload.length < 2 ^ 63 →
            compiled.registry.unpack payload = .ok (spec, values)
            ∧ compiled.registry.unpackJson payload = .ok (spec, written)))
    ∧ ∀ (payload : Bytes) (spec : MessageSpec) (values : List Value), payload.length < 2 ^ 62 →
      compiled.registry.unpack payload = .ok (spec, values) →
        ∃ written packed, JsonArguments.write spec.params values = .ok written
          ∧ compiled.registry.unpackJson payload = .ok (spec, written)
          ∧ JsonArguments.read spec.params written = .ok values
          ∧ spec.packJson written = .ok packed
          ∧ compiled.registry.unpack packed = .ok (spec, values) := by
  have hparams := wellFormedParams_of_read hread hcompile
  rcases Compiled.consistent_registry hcompile with ⟨hconsistent, _⟩
  constructor
  . intro message hmessage
    rcases Compiled.exists_byName?_of_mem hcompile hmessage with ⟨spec, hspec, hname⟩
    refine ⟨spec, hname, ?_⟩
    intro json values hvalues
    rcases MessageSpec.exists_pack_of_read hvalues with ⟨payload, hpack⟩
    rcases MessageSpec.exists_write_of_pack (hparams spec hspec) hpack with ⟨written, hwrite, hback⟩
    refine ⟨payload, written, hpack, hwrite, hback, ?_⟩
    intro hsize
    have hunpack := Compiled.unpack_of_pack hread hcompile hspec (by omega) hpack
    exact ⟨hunpack, Registry.unpackJson_of_write hunpack hwrite⟩
  . intro payload spec values hsize hunpack
    rcases (hconsistent.unpack_eq_ok_iff _ _ _).mp hunpack with ⟨hspec, hvalues⟩
    -- The payload need not be the one that packing gives, but that one is at most twice as long.
    rcases MessageSpec.exists_pack_of_unpack hvalues with ⟨packed, hpack, hle⟩
    rcases MessageSpec.exists_write_of_pack (hparams spec hspec) hpack with ⟨written, hwrite, hback⟩
    refine ⟨written, packed, hwrite, Registry.unpackJson_of_write hunpack hwrite, hback, ?_, ?_⟩
    . rw [MessageSpec.packJson_of_read hback, hpack]
    . exact Compiled.unpack_of_pack hread hcompile hspec (by omega) hpack

-- The arguments are given by place and the first number in hexadecimal; written, they have names and
-- the number is decimal.
set_option maxRecDepth 100000 in
theorem packJson_unpackJson_ping :
    ∃ schema compiled spec values payload written packed,
      read "advances:\n- name: Ping\n  fields:\n  - ids: int72[]\n".toUTF8.data.toList .deny
        = .ok schema
      ∧ schema.compile = .ok compiled
      ∧ JsonArguments.read spec.params
          (.array [.array [.string "0x07", .string "-2361183241434822606848"]]) = .ok values
      ∧ spec.pack values = .ok payload
      ∧ compiled.registry.unpackJson payload = .ok (spec, written)
      ∧ spec.packJson written = .ok packed
      ∧ compiled.registry.unpack packed = .ok (spec, values) := by
  have hread : read "advances:\n- name: Ping\n  fields:\n  - ids: int72[]\n".toUTF8.data.toList .deny
      = .ok ⟨[], [], [⟨"Ping", [⟨"ids", ⟨"int72", true⟩, some (.array (.int 72))⟩]⟩], []⟩ := by
    decide +kernel
  rcases hcompile : Schema.compile
    ⟨[], [], [⟨"Ping", [⟨"ids", ⟨"int72", true⟩, some (.array (.int 72))⟩]⟩], []⟩ with _ | compiled
  . exact absurd hcompile (by nofun)
  have hspec : compiled.registry.byName? "Ping" = some ⟨"Ping", [⟨"ids", .array (.int 72)⟩]⟩ := by
    cases hcompile
    simp [Registry.byName?, Registry.get?, Registry.insert, Registry.empty]
  have hvalues : JsonArguments.read [⟨"ids", .array (.int 72)⟩]
      (.array [.array [.string "0x07", .string "-2361183241434822606848"]])
      = .ok [.array [.int (.ofInt 7), .int (.ofInt (-2 ^ 71))]] := by
    have hseven : JsonArguments.readAt (.int 72) (.string "0x07")
        [.member "ids", .element 0] = .ok (.int (.ofInt 7)) :=
      (JsonArguments.readAt_int_eq_ok_iff 72).mpr ⟨_, by decide, by decide, rfl⟩
    have hleast : JsonArguments.readAt (.int 72) (.string "-2361183241434822606848")
        [.member "ids", .element 1] = .ok (.int (.ofInt (-2 ^ 71))) :=
      (JsonArguments.readAt_int_eq_ok_iff 72).mpr ⟨_, by decide, by decide, rfl⟩
    rw [JsonArguments.read, JsonArguments.readMembers_array_eq_ok_iff,
      JsonArguments.readByPlace_eq_ok_iff]
    refine ⟨rfl, .cons ?_ .nil⟩
    rw [JsonArguments.readAt_array_eq_ok_iff]
    refine ⟨_, _, rfl, ?_, rfl⟩
    rw [JsonArguments.readItems_eq_ok_iff]
    exact .cons hseven (.cons hleast .nil)
  have hdata : (Codec.encode [.array (.int 72)]
      [.array [.int (.ofInt 7), .int (.ofInt (-2 ^ 71))]]).toOption.any (·.length < 2 ^ 61) := by
    decide
  rcases exists_eq_ok_of_any hdata with ⟨data, hdata, hlt⟩
  rcases packJson_unpackJson hread hcompile with ⟨hforth, hback⟩
  rcases hforth _ List.mem_cons_self with ⟨spec, hname, hforth⟩
  obtain rfl : _ = spec := Option.some.inj (hspec.symm.trans hname)
  rcases hforth _ _ hvalues with ⟨payload, written, hpack, _, _, hunpack⟩
  have hsize : payload.length < 2 ^ 62 := by
    rcases (Codec.encodeCall_eq_ok_iff _ _ _ _).mp hpack with ⟨data', hdata', rfl⟩
    obtain rfl : data = data' := Except.ok.inj (hdata.symm.trans hdata')
    have hlt : data.length < 2 ^ 61 := of_decide_eq_true hlt
    rw [List.length_append, Selector.length_toBytes, Selector.size]
    omega
  rcases hunpack (by omega) with ⟨hunpack, _⟩
  rcases hback payload _ _ hsize hunpack with ⟨written', packed, _, hjson', _, hpacked, hagain⟩
  exact ⟨_, compiled, _, _, payload, written', packed, hread, hcompile, hvalues, hpack, hjson',
    hpacked, hagain⟩

end Schema

end MessageAbi
