import MessageAbi.Bindings.Typed
import MessageAbi.Schema.Analysis

/-!
This module contains an example: messages about a library of books, whose fields have types of every
kind.
-/

namespace MessageAbi.Example

open Schema

def field (name base : String) : Field :=
  ⟨name, ⟨base, false⟩, none⟩

def arrayField (name base : String) : Field :=
  ⟨name, ⟨base, true⟩, none⟩

/--
The schema of the library, before analysis.
-/
def library : Schema where
  structs :=
    [⟨"Chapter", [field "title" "string"]⟩,
     ⟨"Book", [arrayField "chapters" "Chapter", field "isbn" "bytes", field "pages" "uint24"]⟩,
     ⟨"Point", [field "x" "int16", field "y" "int16"]⟩]
  reports :=
    [⟨"Notice", [field "text" "string", field "level" "int8"]⟩]
  advances :=
    [⟨"AddBook", [field "book" "Book", field "owner" "address"]⟩,
     ⟨"AddChapter", [field "book" "Chapter"]⟩,
     ⟨"transfer", [field "to" "address", field "amount" "uint256"]⟩,
     ⟨"Adjust", [field "delta" "int256", arrayField "flags" "bool", arrayField "counts" "uint64"]⟩,
     ⟨"Plot",
      [field "origin" "Point", arrayField "offsets" "int16", arrayField "owners" "address"]⟩]
  inspects :=
    [⟨"Count", []⟩,
     ⟨"Lookup", [arrayField "titles" "string"]⟩,
     ⟨"H", [arrayField "id" "uint8"]⟩]

def libraryBindings? : Option Bindings :=
  match library.analyze .deny with
  | .error _ => none
  | .ok schema => (Bindings.ofSchema schema).toOption

def libraryBindings : Bindings :=
  libraryBindings?.getD ⟨[], [], ""⟩

theorem exists_ofSchema_library :
    ∃ schema, library.analyze .deny = .ok schema ∧ Bindings.ofSchema schema = .ok libraryBindings := by
  have hsome : libraryBindings?.isSome = true := by
    decide +kernel
  unfold libraryBindings
  unfold libraryBindings? at hsome ⊢
  cases hschema : library.analyze .deny with
  | error error =>
    rw [hschema] at hsome
    contradiction
  | ok schema =>
    rw [hschema] at hsome
    cases hbindings : Bindings.ofSchema schema with
    | error error =>
      simp [hbindings, Except.toOption] at hsome
    | ok bindings =>
      refine ⟨schema, rfl, ?_⟩
      simp [hbindings, Except.toOption]

end MessageAbi.Example
