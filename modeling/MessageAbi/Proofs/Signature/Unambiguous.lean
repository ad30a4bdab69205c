import Mathlib
import MessageAbi.MessageSpec
import MessageAbi.Proofs.Schema.Identifier
import MessageAbi.Proofs.Signature.Erasure

/-!
This module contains that signatures are unambiguous: they tell the name of a message and the types of
its parameters, so two messages have one signature only if they have one name and one encoding. The
name of a type ends where no brackets, letters or digits follow, and what tuples hold is read from
left to right.
-/

namespace MessageAbi

open AbiDocument (brackets)

theorem brackets_succ (depth : Nat) : brackets (depth + 1) = '[' :: ']' :: brackets depth := by
  rw [brackets, List.replicate_succ, List.flatten_cons]
  rfl

/--
What stands behind the name of a type in a list of types: a comma, a parenthesis or nothing.
-/
def Delimited (rest : List Char) : Prop :=
  ∀ c ∈ rest.head?, c = ',' ∨ c = ')'

theorem delimited_cons {c : Char} (h : c = ',' ∨ c = ')') (rest : List Char) :
    Delimited (c :: rest) := by
  intro other hother
  cases hother
  exact h

theorem brackets_append_inj {depth otherDepth : Nat} {rest otherRest : List Char}
    (hrest : Delimited rest) (hother : Delimited otherRest)
    (h : brackets depth ++ rest = brackets otherDepth ++ otherRest) :
    depth = otherDepth ∧ rest = otherRest := by
  have hplain : ∀ {text : List Char}, Delimited text → ∀ behind, text ≠ '[' :: behind := by
    rintro _ htext behind rfl
    have := htext '[' rfl
    contradiction
  induction depth generalizing otherDepth with
  | zero =>
    cases otherDepth with
    | zero => exact ⟨rfl, h⟩
    | succ otherDepth =>
      rw [brackets_succ] at h
      exact absurd h (hplain hrest _)
  | succ depth ih =>
    rw [brackets_succ] at h
    cases otherDepth with
    | zero => exact absurd h.symm (hplain hother _)
    | succ otherDepth =>
      rw [brackets_succ] at h
      simp only [List.cons_append, List.cons.injEq, true_and] at h
      rcases ih h with ⟨rfl, heq⟩
      exact ⟨rfl, heq⟩

namespace AbiType

theorem isAlphanum_of_mem_canonical {type : AbiType} (h : type.isScalar = true) :
    ∀ c ∈ type.canonical.toList, c.isAlphanum = true := by
  have hdigits : ∀ bits, ∀ c ∈ Nat.toDigits 10 bits, c.isAlphanum = true := by
    intro bits c hc
    rw [Char.isAlphanum, Nat.isDigit_of_mem_toDigits (by decide) (by decide) hc, Bool.or_true]
  cases type with
  | uint bits =>
    have hname : (uint bits).canonical.toList = 'u' :: 'i' :: 'n' :: 't' :: Nat.toDigits 10 bits :=
      toList_jsonType_uint bits
    rw [hname]
    simp only [List.forall_mem_cons]
    exact ⟨by decide, by decide, by decide, by decide, hdigits bits⟩
  | int bits =>
    have hname : (int bits).canonical.toList = 'i' :: 'n' :: 't' :: Nat.toDigits 10 bits :=
      toList_jsonType_int bits
    rw [hname]
    simp only [List.forall_mem_cons]
    exact ⟨by decide, by decide, by decide, hdigits bits⟩
  | array element => contradiction
  | tuple name components => contradiction
  | _ => simp [canonical]

def commaSeparated (params : List Param) : List Char :=
  List.intercalate [','] (params.map (·.type.canonical.toList))

def withCommas (params : List Param) : List Char :=
  params.flatMap fun param => ',' :: param.type.canonical.toList

theorem commaSeparated_cons (param : Param) (params : List Param) :
    commaSeparated (param :: params) = param.type.canonical.toList ++ withCommas params := by
  rw [commaSeparated, withCommas]
  induction params generalizing param with
  | nil => simp
  | cons other params ih =>
    specialize ih other
    rw [List.map_cons] at ih
    rw [List.map_cons, List.map_cons, List.intercalate_cons_cons, ih, List.flatMap_cons]
    simp

theorem toList_joinWithCommas (params : List Param) :
    (joinWithCommas (params.map (·.type.canonical))).toList = commaSeparated params := by
  rw [joinWithCommas, String.toList_intercalate, List.map_map]
  rfl

theorem toList_canonical_tuple (name : String) (components : List Param) :
    (tuple name components).canonical.toList = '(' :: (commaSeparated components ++ [')']) := by
  rw [canonical, canonicals_eq_map, String.toList_append, String.toList_append,
    toList_joinWithCommas]
  rfl

/--
That the name of a type tells, whatever stands behind it, where it ends and what the type is.
-/
def Unambiguous (type : AbiType) : Prop :=
  ∀ (other : AbiType) (rest otherRest : List Char), Delimited rest → Delimited otherRest →
    type.canonical.toList ++ rest = other.canonical.toList ++ otherRest →
      type.erase = other.erase ∧ rest = otherRest

theorem delimited_withCommas (params : List Param) (rest : List Char) :
    Delimited (withCommas params ++ ')' :: rest) := by
  cases params with
  | nil => exact delimited_cons (.inr rfl) rest
  | cons param params => exact delimited_cons (.inl rfl) _

theorem withCommas_append_inj {params others : List Param} {rest otherRest : List Char}
    (hparams : ∀ param ∈ params, Unambiguous param.type)
    (h : withCommas params ++ ')' :: rest = withCommas others ++ ')' :: otherRest) :
    erasedTypes params = erasedTypes others ∧ rest = otherRest := by
  induction params generalizing others with
  | nil =>
    cases others with
    | nil =>
      injection h with _ heq
      exact ⟨rfl, heq⟩
    | cons other others =>
      injection h with hhead _
      contradiction
  | cons param params ih =>
    rw [List.forall_mem_cons] at hparams
    cases others with
    | nil =>
      injection h with hhead _
      contradiction
    | cons other others =>
      simp only [withCommas, List.flatMap_cons, List.cons_append, List.append_assoc,
        List.cons.injEq, true_and] at h
      rcases hparams.1 other.type _ _ (delimited_withCommas params rest)
        (delimited_withCommas others otherRest) h with ⟨htype, hbehind⟩
      rcases ih hparams.2 hbehind with ⟨htypes, heq⟩
      refine ⟨?_, heq⟩
      rw [erasedTypes, erasedTypes, List.map_cons, List.map_cons, htype]
      exact congrArg (other.type.erase :: ·) htypes

theorem exists_arrays (type : AbiType) :
    ∃ element depth, type = arrays element depth
      ∧ (element.isScalar = true ∨ ∃ name components, element = tuple name components) := by
  induction type using arraysInduction with
  | scalar element depth hscalar => exact ⟨element, depth, rfl, .inl hscalar⟩
  | tuple name components depth _ => exact ⟨_, depth, rfl, .inr ⟨name, components, rfl⟩⟩

theorem scalar?_canonical {type : AbiType} (h : type.isScalar = true) :
    AbiDocument.scalar? type.canonical.toList = some type := by
  have hname : type.jsonType = type.canonical := by
    cases type <;> first | rfl | contradiction
  rw [← hname]
  exact (AbiDocument.namesScalar_jsonType h).scalar?_eq

theorem takeWhile_isAlphanum_scalar {element : AbiType} (h : element.isScalar = true) (depth : Nat)
    {rest : List Char} (hrest : Delimited rest) :
    (element.canonical.toList ++ (brackets depth ++ rest)).takeWhile Char.isAlphanum
      = element.canonical.toList := by
  have hbehind : (brackets depth ++ rest).takeWhile Char.isAlphanum = [] := by
    cases depth with
    | zero =>
      cases rest with
      | nil => rfl
      | cons c rest =>
        rcases hrest c rfl with rfl | rfl
        . rfl
        . rfl
    | succ depth =>
      rw [brackets_succ]
      rfl
  rw [List.takeWhile_append_of_pos (isAlphanum_of_mem_canonical h), hbehind, List.append_nil]

theorem takeWhile_isAlphanum_tuple (name : String) (components : List Param) (rest : List Char) :
    ((tuple name components).canonical.toList ++ rest).takeWhile Char.isAlphanum = [] := by
  rw [toList_canonical_tuple]
  rfl

theorem scalar_append_ne {element : AbiType} (h : element.isScalar = true) {rest text : List Char}
    (htext : text.takeWhile Char.isAlphanum = []) : element.canonical.toList ++ rest ≠ text := by
  intro heq
  have htake := congrArg (List.takeWhile Char.isAlphanum) heq
  rw [List.takeWhile_append_of_pos (isAlphanum_of_mem_canonical h), htext,
    List.append_eq_nil_iff] at htake
  have hscalar := scalar?_canonical h
  rw [htake.1] at hscalar
  contradiction

theorem canonical_append_ne (type : AbiType) (text rest : List Char) :
    type.canonical.toList ++ text ≠ ')' :: rest := by
  rcases type.exists_arrays with ⟨element, depth, rfl, hkind⟩
  rw [toList_canonical_arrays, List.append_assoc]
  cases hkind with
  | inl hscalar => exact scalar_append_ne hscalar rfl
  | inr htuple =>
    rcases htuple with ⟨name, components, rfl⟩
    rw [toList_canonical_tuple]
    intro heq
    injection heq with hhead _
    contradiction

theorem eq_of_scalar_append {element other : AbiType} {depth otherDepth : Nat}
    {rest otherRest : List Char} (h : element.isScalar = true) (hother : other.isScalar = true)
    (hrest : Delimited rest) (hotherRest : Delimited otherRest)
    (heq : element.canonical.toList ++ (brackets depth ++ rest)
      = other.canonical.toList ++ (brackets otherDepth ++ otherRest)) :
    element = other ∧ brackets depth ++ rest = brackets otherDepth ++ otherRest := by
  have htake := congrArg (List.takeWhile Char.isAlphanum) heq
  rw [takeWhile_isAlphanum_scalar h depth hrest,
    takeWhile_isAlphanum_scalar hother otherDepth hotherRest] at htake
  constructor
  . have hscalar := scalar?_canonical h
    rw [htake, scalar?_canonical hother] at hscalar
    injection hscalar with hscalar
    exact hscalar.symm
  . rw [htake] at heq
    exact List.append_cancel_left heq

theorem commaSeparated_append_inj {params others : List Param} {rest otherRest : List Char}
    (hparams : ∀ param ∈ params, Unambiguous param.type)
    (h : commaSeparated params ++ ')' :: rest = commaSeparated others ++ ')' :: otherRest) :
    erasedTypes params = erasedTypes others ∧ rest = otherRest := by
  cases params with
  | nil =>
    cases others with
    | nil =>
      injection h with _ heq
      exact ⟨rfl, heq⟩
    | cons other others =>
      rw [commaSeparated_cons, List.append_assoc] at h
      exact absurd h.symm (other.type.canonical_append_ne _ _)
  | cons param params =>
    rw [commaSeparated_cons, List.append_assoc] at h
    cases others with
    | nil => exact absurd h (param.type.canonical_append_ne _ _)
    | cons other others =>
      rw [commaSeparated_cons, List.append_assoc] at h
      apply withCommas_append_inj hparams
      simp only [withCommas, List.flatMap_cons, List.cons_append, List.append_assoc] at h ⊢
      rw [h]

theorem unambiguous (type : AbiType) : type.Unambiguous := by
  induction type using arraysInduction with
  | scalar element depth hscalar =>
    intro other rest otherRest hrest hotherRest h
    rcases other.exists_arrays with ⟨otherElement, otherDepth, rfl, hkind⟩
    rw [toList_canonical_arrays, toList_canonical_arrays, List.append_assoc, List.append_assoc] at h
    cases hkind with
    | inl hother =>
      rcases eq_of_scalar_append hscalar hother hrest hotherRest h with ⟨rfl, hbrackets⟩
      rcases brackets_append_inj hrest hotherRest hbrackets with ⟨rfl, heq⟩
      exact ⟨rfl, heq⟩
    | inr htuple =>
      rcases htuple with ⟨name, components, rfl⟩
      exact absurd h (scalar_append_ne hscalar (takeWhile_isAlphanum_tuple name components _))
  | tuple name components depth ih =>
    intro other rest otherRest hrest hotherRest h
    rcases other.exists_arrays with ⟨otherElement, otherDepth, rfl, hkind⟩
    rw [toList_canonical_arrays, toList_canonical_arrays, List.append_assoc, List.append_assoc] at h
    cases hkind with
    | inl hother =>
      exact absurd h.symm (scalar_append_ne hother (takeWhile_isAlphanum_tuple name components _))
    | inr htuple =>
      rcases htuple with ⟨otherName, otherComponents, rfl⟩
      simp only [toList_canonical_tuple, List.cons_append, List.append_assoc, List.cons.injEq,
        true_and, List.nil_append] at h
      rcases commaSeparated_append_inj ih h with ⟨htypes, hbrackets⟩
      rcases brackets_append_inj hrest hotherRest hbrackets with ⟨rfl, heq⟩
      refine ⟨?_, heq⟩
      rw [erase_arrays, erase_arrays, erase, erase, eraseNames_eq_of_erasedTypes htypes]

end AbiType

theorem toList_signature (name : String) (params : List Param) :
    (signature name params).toList
      = name.toList ++ '(' :: (AbiType.commaSeparated params ++ [')']) := by
  simp [signature, AbiType.toList_joinWithCommas]

theorem map_canonical_erasedTypes (params : List Param) :
    (erasedTypes params).map (·.canonical) = params.map (·.type.canonical) := by
  rw [erasedTypes, List.map_map]
  apply List.map_congr_left
  intro param _
  exact param.type.canonical_erase

theorem signature_eq_iff {name otherName : String} (params others : List Param)
    (hname : '(' ∉ name.toList) (hother : '(' ∉ otherName.toList) :
    signature name params = signature otherName others
      ↔ name = otherName ∧ erasedTypes params = erasedTypes others := by
  have htake : ∀ {text : String} (rest : List Char), '(' ∉ text.toList →
      (text.toList ++ '(' :: rest).takeWhile (· != '(') = text.toList := by
    intro text rest htext
    have hall : ∀ c ∈ text.toList, (c != '(') = true := by
      intro c hc
      rw [bne_iff_ne]
      rintro rfl
      exact htext hc
    rw [List.takeWhile_append_of_pos hall, List.takeWhile_cons_of_neg (by decide), List.append_nil]
  constructor
  . intro h
    rw [← String.toList_inj, toList_signature, toList_signature] at h
    have hnames := congrArg (List.takeWhile (· != '(')) h
    rw [htake _ hname, htake _ hother] at hnames
    rw [hnames] at h
    have hlists := (List.cons.inj (List.append_cancel_left h)).2
    refine ⟨String.toList_inj.mp hnames, ?_⟩
    exact (AbiType.commaSeparated_append_inj (fun param _ => param.type.unambiguous) hlists).1
  . rintro ⟨rfl, htypes⟩
    rw [signature, signature, ← map_canonical_erasedTypes, htypes, map_canonical_erasedTypes]

theorem notMem_of_checkIdentifier {name : String} (h : Schema.checkIdentifier name = .ok ()) :
    '(' ∉ name.toList := by
  intro hmem
  have := Schema.isAlphanum_of_checkIdentifier h '(' hmem
  contradiction

theorem signature_unambiguous (params others : List Param) :
    (∀ name otherName : String, '(' ∉ name.toList → '(' ∉ otherName.toList →
      (signature name params = signature otherName others
        ↔ name = otherName ∧ erasedTypes params = erasedTypes others))
    ∧ (∀ name : String, Schema.checkIdentifier name = .ok () → '(' ∉ name.toList)
    ∧ (erasedTypes params = erasedTypes others →
      (∀ values, Codec.encode (params.map (·.type)) values
        = Codec.encode (others.map (·.type)) values)
      ∧ (∀ data, Codec.decode (params.map (·.type)) data = Codec.decode (others.map (·.type)) data)
      ∧ (∀ selector values, Codec.encodeCall selector params values
        = Codec.encodeCall selector others values)
      ∧ ∀ selector payload, Codec.decodeCall selector params payload
        = Codec.decodeCall selector others payload) := by
  refine ⟨?_, ?_, ?_⟩
  . intro name otherName
    exact signature_eq_iff params others
  . intro name
    exact notMem_of_checkIdentifier
  . intro h
    refine ⟨?_, ?_, ?_, ?_⟩
    . exact Codec.encode_eq_of_erasedTypes h
    . exact Codec.decode_eq_of_erasedTypes h
    . exact Codec.encodeCall_eq_of_erasedTypes h
    . exact Codec.decodeCall_eq_of_erasedTypes h

-- Two structs may stand for one tuple, but a tuple of two integers is not two integers.
theorem signature_unambiguous_points :
    signature "Plot" [⟨"origin", .array (.tuple "Point" [⟨"x", .int 16⟩, ⟨"y", .int 16⟩])⟩]
      = signature "Plot" [⟨"place", .array (.tuple "Place" [⟨"lat", .int 16⟩, ⟨"lon", .int 16⟩])⟩]
    ∧ (∀ values,
      Codec.encode [.array (.tuple "Point" [⟨"x", .int 16⟩, ⟨"y", .int 16⟩])] values
        = Codec.encode [.array (.tuple "Place" [⟨"lat", .int 16⟩, ⟨"lon", .int 16⟩])] values)
    ∧ signature "Plot" [⟨"origin", .tuple "Point" [⟨"x", .int 16⟩, ⟨"y", .int 16⟩]⟩]
      ≠ signature "Plot" [⟨"x", .int 16⟩, ⟨"y", .int 16⟩] := by
  have hname : '(' ∉ "Plot".toList := by
    decide
  rcases signature_unambiguous
    [⟨"origin", .array (.tuple "Point" [⟨"x", .int 16⟩, ⟨"y", .int 16⟩])⟩]
    [⟨"place", .array (.tuple "Place" [⟨"lat", .int 16⟩, ⟨"lon", .int 16⟩])⟩] with
    ⟨hsame, _, hcodec⟩
  rcases signature_unambiguous
    [⟨"origin", .tuple "Point" [⟨"x", .int 16⟩, ⟨"y", .int 16⟩]⟩]
    [⟨"x", .int 16⟩, ⟨"y", .int 16⟩] with ⟨hdiffer, _⟩
  refine ⟨(hsame _ _ hname hname).mpr ⟨rfl, rfl⟩, (hcodec rfl).1, ?_⟩
  intro h
  have htypes := ((hdiffer _ _ hname hname).mp h).2
  have hlength := congrArg List.length htypes
  contradiction

end MessageAbi
