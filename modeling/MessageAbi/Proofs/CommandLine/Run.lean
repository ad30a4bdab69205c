import Mathlib
import MessageAbi.CommandLine.Run
import MessageAbi.Proofs.CommandLine.Arguments
import MessageAbi.Proofs.CommandLine.Files
import MessageAbi.Proofs.JsonArguments.Text
import MessageAbi.Proofs.JsonCall

/-!
This module contains what runs of the commands do: only the generation of output into a file changes the
directory, and what one of the commands for packing and unpacking prints is taken back by the other.
-/

namespace MessageAbi

namespace Text

theorem dropWhile_isBlank_append {front text : List Char} (hfront : ∀ c ∈ front, isBlank c = true)
    (htext : ∀ c ∈ text, isBlank c = false) (hne : text ≠ []) (back : List Char) :
    (front ++ (text ++ back)).dropWhile isBlank = text ++ back := by
  rcases List.exists_cons_of_ne_nil hne with ⟨c, rest, rfl⟩
  rw [List.dropWhile_append_of_pos hfront, List.cons_append,
    List.dropWhile_cons_of_neg (by simp [htext c List.mem_cons_self])]

theorem trim_of_blanks {front text back : List Char} (hfront : ∀ c ∈ front, isBlank c = true)
    (htext : ∀ c ∈ text, isBlank c = false) (hne : text ≠ []) (hback : ∀ c ∈ back, isBlank c = true) :
    trim (front ++ (text ++ back)) = text := by
  have hreverse : (text ++ back).reverse = back.reverse ++ (text.reverse ++ []) := by simp
  rw [trim, dropWhile_isBlank_append hfront htext hne, hreverse, dropWhile_isBlank_append]
  . simp
  . simpa using hback
  . simpa using htext
  . simpa using hne

end Text

namespace CommandLine

section Payloads

theorem isBlank_digit (n : Nat) : Text.isBlank (Hex.digit n) = false := by
  have hall : ∀ n < 16, Text.isBlank (Nat.digitChar n) = false := by decide +kernel
  exact hall (n % 16) (Nat.mod_lt _ (by decide))

theorem readPayload_encode (payload : Bytes) :
    readPayload s!"0x{Hex.encode payload}\n" = .ok payload := by
  have htext : (s!"0x{Hex.encode payload}\n").toList
      = [] ++ (('0' :: 'x' :: (Hex.encode payload).toList) ++ ['\n']) := by
    simp [toString]
  have hblank : ∀ c ∈ '0' :: 'x' :: (Hex.encode payload).toList, Text.isBlank c = false := by
    intro c hc
    simp only [List.mem_cons, Hex.encode, String.toList_ofList, List.mem_flatMap] at hc
    rcases hc with rfl | rfl | ⟨byte, _, rfl | rfl | hc⟩
    . decide +kernel
    . decide +kernel
    . exact isBlank_digit _
    . exact isBlank_digit _
    . contradiction
  have hbreak : ∀ c ∈ ['\n'], Text.isBlank c = true := by
    intro c hc
    rw [List.mem_singleton.mp hc]
    decide +kernel
  rw [readPayload, htext, Text.trim_of_blanks (List.forall_mem_nil _) hblank (by simp) hbreak]
  simp [Hex.decode_encode]

end Payloads

section Runs

variable {arguments : List String} {command : Command} {start finish : Directory} {output : Output}

theorem run_load (command : Command) (start : Directory) :
    (command.load Directory.files).run start
      = (if isAddress command.source then .error ⟨s!"fetching {command.source}", []⟩
        else (start.read command.source).mapError fun fault =>
          ⟨s!"reading {command.source}", [fault.message]⟩, start) := by
  unfold Command.load
  split
  . rfl
  . simp only [Directory.files, StateT.run_bind, StateT.run_get, pure_bind, StateT.run_pure]
    cases start.read command.source with
    | ok document => rfl
    | error fault => rfl

theorem run_load_eq_ok_iff {document : Bytes} :
    (command.load Directory.files).run start = (.ok document, finish)
      ↔ isAddress command.source = false ∧ start.read command.source = .ok document
        ∧ start = finish := by
  rw [run_load]
  apply Prod.mk_inj.trans
  rw [← and_assoc]
  apply and_congr_left'
  cases isAddress command.source with
  | true => simp
  | false => simp [mapError_eq_ok_iff]

/--
What is left for the standard output, and what the directory holds, after output was passed on to the
file that takes it.
-/
def Delivers (start : Directory) (result : Output) : Option String → Output → Directory → Prop
  | none, output, finish => output = result ∧ finish = start
  | some path, output, finish => output = .text "" ∧ start.write path result = .ok finish

theorem run_deliver_eq_ok_iff (result : Output) :
    (command.deliver Directory.files result).run start = (.ok output, finish)
      ↔ Delivers start result command.action.destination? output finish := by
  cases hdestination : command.action.destination? with
  | none =>
    simp only [Command.deliver, hdestination, Delivers, run_pure_eq_iff, Except.ok.injEq]
    exact and_congr eq_comm eq_comm
  | some path =>
    simp only [Command.deliver, hdestination, Delivers, run_bind_eq_iff]
    constructor
    . rintro ⟨_ | ⟨⟩, after, hwrite, h⟩
      . simp only [run_pure_eq_iff, reduceCtorEq, false_and] at h
      . simp only [run_pure_eq_iff, Except.ok.injEq] at h
        rcases h with ⟨rfl, rfl⟩
        exact ⟨rfl, Directory.run_write_eq_ok_iff.mp hwrite⟩
    . rintro ⟨rfl, hwrite⟩
      exact ⟨.ok (), finish, Directory.run_write_eq_ok_iff.mpr hwrite, rfl⟩

theorem run_deliver_eq_error {report : Report} {result : Output}
    (h : (command.deliver Directory.files result).run start = (.error report, finish)) :
    start = finish := by
  cases hdestination : command.action.destination? with
  | none =>
    simp only [Command.deliver, hdestination, run_pure_eq_iff, reduceCtorEq, false_and] at h
  | some path =>
    simp only [Command.deliver, hdestination, run_bind_eq_iff] at h
    rcases h with ⟨_ | ⟨⟩, after, hwrite, h⟩
    . rw [run_pure_eq_iff] at h
      exact (Directory.run_write_eq_error_iff.mp hwrite).2.trans h.2
    . simp only [run_pure_eq_iff, reduceCtorEq, false_and] at h

theorem run_command_eq_ok_iff :
    (command.run Directory.files).run start = (.ok output, finish)
      ↔ ∃ document result, isAddress command.source = false
        ∧ start.read command.source = .ok document ∧ command.perform document = .ok result
        ∧ Delivers start result command.action.destination? output finish := by
  rw [Command.run, run_bind_eq_iff]
  constructor
  . rintro ⟨report | document, after, hload, h⟩
    . simp only [run_pure_eq_iff, reduceCtorEq, false_and] at h
    . rcases run_load_eq_ok_iff.mp hload with ⟨haddress, hread, rfl⟩
      cases hperform : command.perform document with
      | error report => simp only [hperform, run_pure_eq_iff, reduceCtorEq, false_and] at h
      | ok result =>
        simp only [hperform] at h
        exact ⟨document, result, haddress, hread, hperform, (run_deliver_eq_ok_iff result).mp h⟩
  . rintro ⟨document, result, haddress, hread, hperform, hdelivers⟩
    refine ⟨.ok document, start, run_load_eq_ok_iff.mpr ⟨haddress, hread, rfl⟩, ?_⟩
    simp only [hperform]
    exact (run_deliver_eq_ok_iff result).mpr hdelivers

theorem run_command_eq_error {report : Report}
    (h : (command.run Directory.files).run start = (.error report, finish)) : start = finish := by
  rw [Command.run, run_bind_eq_iff] at h
  rcases h with ⟨loaded, after, hload, h⟩
  rw [run_load] at hload
  obtain ⟨rfl, rfl⟩ := Prod.mk_inj.mp hload
  split at h
  . exact ((run_pure_eq_iff _ _ _ _).mp h).2
  . split at h
    . exact ((run_pure_eq_iff _ _ _ _).mp h).2
    . exact run_deliver_eq_error h

theorem run_eq_finished_iff :
    (run Directory.files arguments).run start = (.finished output, finish)
      ↔ ∃ command document result, Command.ofArguments? arguments = some command
        ∧ isAddress command.source = false ∧ start.read command.source = .ok document
        ∧ command.perform document = .ok result
        ∧ Delivers start result command.action.destination? output finish := by
  cases harguments : Command.ofArguments? arguments with
  | none =>
    simp only [run, harguments, run_pure_eq_iff, reduceCtorEq, false_and, exists_false]
  | some command =>
    simp only [run, harguments, run_bind_eq_iff, Option.some.injEq, exists_and_left,
      exists_eq_left']
    constructor
    . rintro ⟨report | result, after, hrun, h⟩
      . simp only [run_pure_eq_iff, reduceCtorEq, false_and] at h
      . simp only [run_pure_eq_iff, Outcome.finished.injEq] at h
        rcases h with ⟨rfl, rfl⟩
        simpa only [exists_and_left] using run_command_eq_ok_iff.mp hrun
    . intro h
      refine ⟨.ok output, finish, run_command_eq_ok_iff.mpr ?_, rfl⟩
      simpa only [exists_and_left] using h

theorem read_of_run {path : String} (hcommand : Command.ofArguments? arguments = some command)
    (hdestination : command.action.destination? = some path)
    (h : (run Directory.files arguments).run start = (.finished output, finish)) :
    ∃ document result, start.read command.source = .ok document
      ∧ command.perform document = .ok result ∧ finish.read path = .ok result.toBytes := by
  rcases run_eq_finished_iff.mp h with
    ⟨_, document, result, hcommand', _, hread, hperform, hdelivers⟩
  obtain rfl := Option.some.inj (hcommand.symm.trans hcommand')
  rw [hdestination] at hdelivers
  exact ⟨document, result, hread, hperform, Directory.read_of_write hdelivers.2⟩

theorem run_keeps_directory {outcome : Outcome}
    (h : (run Directory.files arguments).run start = (outcome, finish))
    (hfinished : ∀ output, outcome ≠ .finished output) : start = finish := by
  cases harguments : Command.ofArguments? arguments with
  | none =>
    simp only [run, harguments, run_pure_eq_iff] at h
    exact h.2
  | some command =>
    simp only [run, harguments, run_bind_eq_iff] at h
    rcases h with ⟨report | result, after, hrun, h⟩
    . rw [run_pure_eq_iff] at h
      exact (run_command_eq_error hrun).trans h.2
    . rw [run_pure_eq_iff] at h
      exact absurd h.1.symm (hfinished result)

end Runs

section Actions

variable {schema : Schema} {message text : String} {output : Output}

theorem perform_pack_eq_ok_iff :
    (Action.pack message text).perform schema = .ok output
      ↔ ∃ compiled spec json payload, schema.compile = .ok compiled
        ∧ compiled.registry.byName? message = some spec ∧ Json.parse? text = some json
        ∧ spec.packJson json = .ok payload ∧ output = .text s!"0x{Hex.encode payload}\n" := by
  simp only [Action.perform, bind_eq_ok_iff, orReportGeneration, mapError_eq_ok_iff, exists_and_left]
  apply exists_congr
  intro compiled
  apply and_congr_right
  intro _
  cases compiled.registry.byName? message with
  | none => simp [orReport, Except.mapError]
  | some spec =>
    cases Json.parse? text with
    | none => simp [throw_eq_error]
    | some json => simp [map_eq_ok_iff, orReport, mapError_eq_ok_iff, @eq_comm _ output]

def callJson (message : String) (json : Json) : Json :=
  .object [("message", .string message), ("args", json)]

theorem perform_unpack_eq_ok_iff :
    (Action.unpack text).perform schema = .ok output
      ↔ ∃ compiled payload spec json, schema.compile = .ok compiled
        ∧ readPayload text = .ok payload ∧ compiled.registry.unpackJson payload = .ok (spec, json)
        ∧ output = .text ((callJson spec.name json).pretty ++ "\n") := by
  simp only [Action.perform, callJson, bind_eq_ok_iff, orReportGeneration, mapError_eq_ok_iff,
    exists_and_left]
  apply exists_congr
  intro compiled
  apply and_congr_right
  intro _
  cases readPayload text with
  | error error => simp [throw_eq_error]
  | ok payload => simp [map_eq_ok_iff, orReport, mapError_eq_ok_iff, @eq_comm _ output]

theorem length_encode (payload : Bytes) : (Hex.encode payload).length = 2 * payload.length := by
  rw [Hex.encode, String.length_ofList]
  induction payload with
  | nil => rfl
  | cons byte payload ih =>
    rw [List.flatMap_cons, List.length_append, ih, List.length_cons]
    simp only [List.length_cons, List.length_nil]
    omega

theorem perform_unpack_of_perform_pack {document : Bytes} {policy : Schema.EmptySchemaPolicy}
    (hread : Schema.read document policy = .ok schema)
    (h : (Action.pack message text).perform schema = .ok output)
    (hsize : output.toText.length < 2 ^ 64) :
    ∃ params values json written, Json.parse? text = some json
      ∧ JsonArguments.read params json = .ok values ∧ JsonArguments.write params values = .ok written
      ∧ (Action.unpack output.toText).perform schema
        = .ok (.text ((callJson message written).pretty ++ "\n"))
      ∧ ∀ again, Json.parse? again = some written →
        (Action.pack message again).perform schema = .ok output := by
  rcases perform_pack_eq_ok_iff.mp h with
    ⟨compiled, spec, json, payload, hcompile, hname, hjson, hpack, rfl⟩
  rcases Schema.Compiled.consistent_registry hcompile with ⟨hconsistent, _⟩
  rcases (hconsistent.byName?_eq_some_iff message spec).mp hname with ⟨hspec, rfl⟩
  rcases (bind_eq_ok_iff _ _ _).mp hpack with ⟨values, hvalues, hpack⟩
  rcases MessageSpec.exists_write_of_pack (Schema.wellFormedParams_of_read hread hcompile spec hspec)
    hpack with ⟨written, hwritten, hback⟩
  have hlength : payload.length < 2 ^ 64 := by
    have hlength := length_encode payload
    simp [Output.toText, toString] at hsize
    omega
  have hunpack := Registry.unpackJson_of_write
    (Schema.Compiled.unpack_of_pack hread hcompile hspec hlength hpack) hwritten
  refine ⟨spec.params, values, json, written, hjson, hvalues, hwritten, ?_, ?_⟩
  . exact perform_unpack_eq_ok_iff.mpr
      ⟨compiled, payload, spec, written, hcompile, readPayload_encode payload, hunpack, rfl⟩
  . intro again hagain
    refine perform_pack_eq_ok_iff.mpr
      ⟨compiled, spec, written, payload, hcompile, hname, hagain, ?_, rfl⟩
    rw [MessageSpec.packJson_of_read hback, hpack]

theorem perform_pack_of_perform_unpack {document : Bytes} {policy : Schema.EmptySchemaPolicy}
    (hread : Schema.read document policy = .ok schema)
    (h : (Action.unpack text).perform schema = .ok output) {payload : Bytes}
    (hpayload : readPayload text = .ok payload) (hsize : payload.length < 2 ^ 62) :
    ∃ message params values written, JsonArguments.write params values = .ok written
      ∧ output = .text ((callJson message written).pretty ++ "\n")
      ∧ ∀ arguments, Json.parse? arguments = some written →
        ∃ packed, (Action.pack message arguments).perform schema = .ok packed
          ∧ (Action.unpack packed.toText).perform schema = .ok output := by
  rcases perform_unpack_eq_ok_iff.mp h with
    ⟨compiled, payload', spec, written, hcompile, hpayload', hunpack, rfl⟩
  obtain rfl : payload = payload' := Except.ok.inj (hpayload.symm.trans hpayload')
  rcases Schema.Compiled.consistent_registry hcompile with ⟨hconsistent, _⟩
  simp only [Registry.unpackJson, bind_eq_ok_iff, Prod.exists, pure_eq_ok_iff, Prod.mk.injEq] at hunpack
  rcases hunpack with ⟨_, values, hunpack, _, hwritten, rfl, rfl⟩
  rcases (hconsistent.unpack_eq_ok_iff _ _ _).mp hunpack with ⟨hspec, hvalues⟩
  rcases MessageSpec.exists_pack_of_unpack hvalues with ⟨packed, hpack, hle⟩
  rcases MessageSpec.exists_write_of_pack (Schema.wellFormedParams_of_read hread hcompile spec hspec)
    hpack with ⟨written', hwritten', hback⟩
  obtain rfl := Except.ok.inj (hwritten.symm.trans hwritten')
  have hname := (hconsistent.byName?_eq_some_iff spec.name spec).mpr ⟨hspec, rfl⟩
  have hagain := Registry.unpackJson_of_write
    (Schema.Compiled.unpack_of_pack hread hcompile hspec (by omega) hpack) hwritten
  refine ⟨spec.name, spec.params, values, written, hwritten, rfl, ?_⟩
  intro arguments harguments
  refine ⟨_, perform_pack_eq_ok_iff.mpr
      ⟨compiled, spec, written, packed, hcompile, hname, harguments, ?_, rfl⟩,
    perform_unpack_eq_ok_iff.mpr
      ⟨compiled, packed, spec, written, hcompile, readPayload_encode packed, hagain, rfl⟩⟩
  rw [MessageSpec.packJson_of_read hback, hpack]

theorem parse?_callJson {params : List Param} {values : List Value} {written : Json}
    (h : JsonArguments.write params values = .ok written)
    (hnesting : ∀ param ∈ params, param.type.nesting + 1 < Json.Reader.maxDepth) (message : String) :
    Json.parse? ((callJson message written).pretty ++ "\n") = some (callJson message written)
      ∧ Json.parse? written.compact = some written := by
  have hargs : ∀ depth, 125 ≤ depth → Json.Readable (depth + 1) written := by
    intro depth hdepth
    apply JsonArguments.readable_of_nesting h
    intro param hparam
    have hlt := hnesting param hparam
    rw [Json.Reader.maxDepth] at hlt
    omega
  have hcall : Json.Readable Json.Reader.maxDepth (callJson message written) := by
    apply Json.Readable.object (by simp)
    simp only [List.forall_mem_cons, List.not_mem_nil, false_implies, implies_true, and_true]
    exact ⟨.string message, hargs 125 le_rfl⟩
  have hbreak : Json.Reader.IsGap "\n".toList := by
    simp [Json.Reader.IsGap, Json.Reader.isSpace]
  exact ⟨Json.parse?_pretty hcall hbreak, Json.parse?_compact (hargs 126 (by decide))⟩

end Actions

section PackAndUnpack

variable {source message text : String} {start finish : Directory} {output : Output}

theorem perform_command_eq_ok_iff {command : Command} {document : Bytes} :
    command.perform document = .ok output
      ↔ ∃ schema, Schema.read document command.policy = .ok schema
        ∧ command.action.perform schema = .ok output := by
  unfold Command.perform
  cases Schema.read document command.policy with
  | error error => simp
  | ok schema => simp

def Loads (start : Directory) (source : String) (schema : Schema) : Prop :=
  isAddress source = false ∧ ∃ document, start.read source = .ok document
    ∧ Schema.read document .deny = .ok schema

theorem run_escaped_eq_finished_iff {name : String} {words : List String} {action : Action}
    (hname : Command.isOption name = false)
    (haction : Command.action? name ⟨[], source :: words⟩ words = some action)
    (hdestination : action.destination? = none) :
    (run Directory.files (name :: "--" :: source :: words)).run start = (.finished output, finish)
      ↔ (∃ schema, Loads start source schema ∧ action.perform schema = .ok output)
        ∧ finish = start := by
  rw [run_eq_finished_iff, Command.ofArguments?_escaped hname source words haction]
  constructor
  . rintro ⟨command, document, result, hcommand, haddress, hread, hperform, hdelivers⟩
    obtain rfl := Option.some.inj hcommand
    rw [hdestination] at hdelivers
    rcases hdelivers with ⟨rfl, rfl⟩
    rcases perform_command_eq_ok_iff.mp hperform with ⟨schema, hschema, hresult⟩
    exact ⟨⟨schema, ⟨haddress, document, hread, hschema⟩, hresult⟩, rfl⟩
  . rintro ⟨⟨schema, ⟨haddress, document, hread, hschema⟩, hperform⟩, rfl⟩
    refine ⟨⟨source, .deny, action⟩, document, output, rfl, haddress, hread, ?_, ?_⟩
    . exact perform_command_eq_ok_iff.mpr ⟨schema, hschema, hperform⟩
    . rw [hdestination]
      exact ⟨rfl, rfl⟩

theorem run_pack_eq_finished_iff :
    (run Directory.files ["pack", "--", source, message, text]).run start = (.finished output, finish)
      ↔ (∃ schema, Loads start source schema
          ∧ (Action.pack message text).perform schema = .ok output) ∧ finish = start :=
  run_escaped_eq_finished_iff rfl rfl rfl

theorem run_unpack_eq_finished_iff :
    (run Directory.files ["unpack", "--", source, text]).run start = (.finished output, finish)
      ↔ (∃ schema, Loads start source schema ∧ (Action.unpack text).perform schema = .ok output)
        ∧ finish = start :=
  run_escaped_eq_finished_iff rfl rfl rfl

theorem run_unpack_of_run_pack
    (h : (run Directory.files ["pack", "--", source, message, text]).run start
      = (.finished output, finish)) (hsize : output.toText.length < 2 ^ 64) :
    ∃ params values json written, Json.parse? text = some json
      ∧ JsonArguments.read params json = .ok values ∧ JsonArguments.write params values = .ok written
      ∧ (run Directory.files ["unpack", "--", source, output.toText]).run start
        = (.finished (.text ((callJson message written).pretty ++ "\n")), start)
      ∧ ∀ again, Json.parse? again = some written →
        (run Directory.files ["pack", "--", source, message, again]).run start
          = (.finished output, start) := by
  rcases run_pack_eq_finished_iff.mp h with ⟨⟨schema, hloads, hperform⟩, _⟩
  have ⟨_, document, _, hread⟩ := hloads
  rcases perform_unpack_of_perform_pack hread hperform hsize with
    ⟨params, values, json, written, hjson, hvalues, hwritten, hunpack, hagain⟩
  refine ⟨params, values, json, written, hjson, hvalues, hwritten, ?_, ?_⟩
  . exact run_unpack_eq_finished_iff.mpr ⟨⟨schema, hloads, hunpack⟩, rfl⟩
  . intro again hparse
    exact run_pack_eq_finished_iff.mpr ⟨⟨schema, hloads, hagain again hparse⟩, rfl⟩

theorem run_pack_of_run_unpack
    (h : (run Directory.files ["unpack", "--", source, text]).run start = (.finished output, finish))
    {payload : Bytes} (hpayload : readPayload text = .ok payload) (hsize : payload.length < 2 ^ 62) :
    ∃ message params values written, JsonArguments.write params values = .ok written
      ∧ output = .text ((callJson message written).pretty ++ "\n")
      ∧ ∀ arguments, Json.parse? arguments = some written →
        ∃ packed, (run Directory.files ["pack", "--", source, message, arguments]).run start
            = (.finished packed, start)
          ∧ (run Directory.files ["unpack", "--", source, packed.toText]).run start
            = (.finished output, start) := by
  rcases run_unpack_eq_finished_iff.mp h with ⟨⟨schema, hloads, hperform⟩, _⟩
  have ⟨_, document, _, hread⟩ := hloads
  rcases perform_pack_of_perform_unpack hread hperform hpayload hsize with
    ⟨message, params, values, written, hwritten, houtput, hpack⟩
  refine ⟨message, params, values, written, hwritten, houtput, ?_⟩
  intro arguments hparse
  rcases hpack arguments hparse with ⟨packed, hpacked, hunpack⟩
  exact ⟨packed, run_pack_eq_finished_iff.mpr ⟨⟨schema, hloads, hpacked⟩, rfl⟩,
    run_unpack_eq_finished_iff.mpr ⟨⟨schema, hloads, hunpack⟩, rfl⟩⟩

end PackAndUnpack

end CommandLine

end MessageAbi
