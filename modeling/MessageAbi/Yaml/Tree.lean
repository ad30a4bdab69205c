import MessageAbi.Yaml.Node
import MessageAbi.Yaml.Scanner

/-!
This module contains document trees: nodes with every alias replaced by what it stands for.
-/

namespace MessageAbi.Yaml

structure Scalar where
  tag : Option String
  text : String
  isPlain : Bool
  deriving DecidableEq, Repr

mutual

inductive Tree where
  | scalar (scalar : Scalar)
  | sequence (tag : Option String) (items : List Tree)
  | mapping (tag : Option String) (entries : List Entry)

structure Entry where
  key : Tree
  /--
  What the value is called in descriptions of its place: the text of a key that is written as a
  scalar. A key that is a collection or an alias gives no name.
  -/
  label : Option String
  value : Tree

end

namespace Tree

mutual

def decEq : (tree other : Tree) → Decidable (tree = other)
  | .scalar s, .scalar s' =>
    decidable_of_decidable_of_iff (p := s = s') (by rw [Tree.scalar.injEq])
  | .sequence tag items, .sequence tag' items' =>
    have := decEqItems items items'
    decidable_of_decidable_of_iff (p := tag = tag' ∧ items = items') (by rw [Tree.sequence.injEq])
  | .mapping tag entries, .mapping tag' entries' =>
    have := decEqEntries entries entries'
    decidable_of_decidable_of_iff (p := tag = tag' ∧ entries = entries')
      (by rw [Tree.mapping.injEq])
  | .scalar _, .sequence .. => isFalse nofun
  | .scalar _, .mapping .. => isFalse nofun
  | .sequence .., .scalar _ => isFalse nofun
  | .sequence .., .mapping .. => isFalse nofun
  | .mapping .., .scalar _ => isFalse nofun
  | .mapping .., .sequence .. => isFalse nofun

def decEqItems : (items others : List Tree) → Decidable (items = others)
  | [], [] => isTrue rfl
  | [], _ :: _ => isFalse nofun
  | _ :: _, [] => isFalse nofun
  | item :: items, other :: others =>
    have := decEq item other
    have := decEqItems items others
    decidable_of_decidable_of_iff (p := item = other ∧ items = others) (by rw [List.cons.injEq])

def decEqEntries : (entries others : List Entry) → Decidable (entries = others)
  | [], [] => isTrue rfl
  | [], _ :: _ => isFalse nofun
  | _ :: _, [] => isFalse nofun
  | ⟨key, label, value⟩ :: entries, ⟨key', label', value'⟩ :: others =>
    have := decEq key key'
    have := decEq value value'
    have := decEqEntries entries others
    decidable_of_decidable_of_iff
      (p := (key = key' ∧ label = label' ∧ value = value') ∧ entries = others)
      (by rw [List.cons.injEq, Entry.mk.injEq])

end

instance : DecidableEq Tree := decEq

def maxDepth : Nat := 128

/--
Follows an alias and counts it. There is a limit, so that a document cannot stand for far more than
it holds.
-/
def follow (anchored : List (Nat × Node)) (limit : Nat) (anchor : Nat) :
    StateT Nat Option Node := do
  let count := (← get) + 1
  if count > limit then failure
  set count
  match anchored.lookup anchor with
  | some node => return node
  | none => failure

def labelOf : Node → Option String
  | .scalar _ _ text _ => some text
  | _ => none

def contentOf (anchored : List (Nat × Node)) (limit : Nat) : Node → StateT Nat Option Node
  | .aliasOf anchor => follow anchored limit anchor
  | node => return node

/--
Replaces the aliases of a node that nests no deeper than the given number of collections.
-/
def expand (anchored : List (Nat × Node)) (limit : Nat) : (depth : Nat) → Node →
    StateT Nat Option Tree
  | 0, node => do
    match ← contentOf anchored limit node with
    | .scalar _ tag text isPlain => return .scalar ⟨tag, text, isPlain⟩
    | _ => failure
  | depth + 1, node => do
    match ← contentOf anchored limit node with
    | .scalar _ tag text isPlain => return .scalar ⟨tag, text, isPlain⟩
    | .sequence _ tag items =>
      return .sequence tag (← items.mapM (expand anchored limit depth))
    | .mapping _ tag entries =>
      let entries ← entries.mapM fun (key, value) => do
        return ⟨← expand anchored limit depth key, labelOf key, ← expand anchored limit depth value⟩
      return .mapping tag entries
    | .aliasOf _ => failure

/--
The tree of a node. Of anchors with one number the last counts.
-/
def ofNode? (node : Node) : Option Tree :=
  (expand node.anchored.reverse (100 * node.eventCount) maxDepth node).run' 0

end Tree

inductive Stream where
  | malformed
  | empty
  | document (tree : Tree)
  deriving DecidableEq

def Stream.ofBytes (bytes : Bytes) : Stream :=
  match (chars? bytes).bind Token.ofChars? |>.bind Node.ofTokens? with
  | none => .malformed
  | some none => .empty
  | some (some node) =>
    match Tree.ofNode? node with
    | some tree => .document tree
    | none => .malformed

end MessageAbi.Yaml
