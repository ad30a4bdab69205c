import Mathlib
import MessageAbi.Yaml.Tree

/-!
This module contains the limits of document trees: how deep they are, and how often aliases are followed
while they are made.
-/

namespace MessageAbi.Yaml

namespace Tree

/--
That a tree nests no deeper than a number of collections.
-/
inductive Nests : (depth : Nat) → Tree → Prop where
  | scalar {depth : Nat} (s : Scalar) : Nests depth (.scalar s)
  | sequence {depth : Nat} {tag : Option String} {items : List Tree} :
    (∀ item ∈ items, Nests depth item) → Nests (depth + 1) (.sequence tag items)
  | mapping {depth : Nat} {tag : Option String} {entries : List Entry} :
    (∀ entry ∈ entries, Nests depth entry.key) → (∀ entry ∈ entries, Nests depth entry.value) →
      Nests (depth + 1) (.mapping tag entries)

/--
That a computation does not count beyond a limit, and what its results are.
-/
def Stays {α : Type} (limit : Nat) (x : StateT Nat Option α) (p : α → Prop) : Prop :=
  ∀ ⦃count⦄, count ≤ limit → ∀ ⦃a after⦄, x.run count = some (a, after) → p a ∧ after ≤ limit

variable {α β : Type} {limit : Nat} {anchored : List (Nat × Node)}

theorem stays_pure {p : α → Prop} {a : α} (h : p a) : Stays limit (pure a) p := by
  intro count hcount a' after hrun
  cases hrun
  exact ⟨h, hcount⟩

theorem stays_failure {p : α → Prop} : Stays limit failure p :=
  fun _ _ _ _ hrun => nomatch hrun

theorem Stays.bind {x : StateT Nat Option α} {f : α → StateT Nat Option β} {p : α → Prop}
    {q : β → Prop} (h : Stays limit x p) (h' : ∀ a, p a → Stays limit (f a) q) :
    Stays limit (x >>= f) q := by
  intro count hcount b after hrun
  rcases Option.bind_eq_some_iff.mp hrun with ⟨⟨a, middle⟩, hx, hf⟩
  rcases h hcount hx with ⟨ha, hmiddle⟩
  exact h' a ha hmiddle hf

theorem stays_mapM {f : α → StateT Nat Option β} {p : β → Prop} (h : ∀ a, Stays limit (f a) p)
    (as : List α) : Stays limit (as.mapM f) fun bs => ∀ b ∈ bs, p b := by
  induction as with
  | nil => exact stays_pure (List.forall_mem_nil p)
  | cons a as ih =>
    rw [List.mapM_cons]
    apply (h a).bind
    intro b hb
    apply ih.bind
    intro bs hbs
    exact stays_pure (List.forall_mem_cons.mpr ⟨hb, hbs⟩)

theorem stays_follow (anchor : Nat) : Stays limit (follow anchored limit anchor) fun _ => True := by
  intro count hcount node after hrun
  unfold follow at hrun
  rw [StateT.run_bind, StateT.run_get, pure_bind] at hrun
  dsimp only at hrun
  split_ifs at hrun with hlimit
  . contradiction
  . cases hlookup : anchored.lookup anchor with
    | none =>
      rw [hlookup] at hrun
      contradiction
    | some found =>
      rw [hlookup] at hrun
      cases hrun
      exact ⟨trivial, Nat.not_lt.mp hlimit⟩

theorem stays_contentOf (node : Node) :
    Stays limit (contentOf anchored limit node) fun _ => True := by
  unfold contentOf
  split
  . exact stays_follow _
  . exact stays_pure trivial

theorem stays_expand (depth : Nat) (node : Node) :
    Stays limit (expand anchored limit depth node) (Nests depth) := by
  induction depth generalizing node with
  | zero =>
    apply (stays_contentOf node).bind
    intro content _
    split
    . exact stays_pure (.scalar _)
    . exact stays_failure
  | succ depth ih =>
    apply (stays_contentOf node).bind
    intro content _
    split
    . exact stays_pure (.scalar _)
    . apply (stays_mapM ih _).bind
      intro items hitems
      exact stays_pure (.sequence hitems)
    . refine (stays_mapM (p := fun entry => Nests depth entry.key ∧ Nests depth entry.value)
        ?_ _).bind ?_
      . rintro ⟨key, value⟩
        apply (ih key).bind
        intro key hkey
        apply (ih value).bind
        intro value hvalue
        exact stays_pure ⟨hkey, hvalue⟩
      . intro entries hentries
        exact stays_pure (.mapping (fun entry hentry => (hentries entry hentry).1)
          fun entry hentry => (hentries entry hentry).2)
    . exact stays_failure

theorem nests_of_ofNode? {node : Node} {tree : Tree} (h : ofNode? node = some tree) :
    tree.Nests maxDepth ∧ ∃ follows ≤ 100 * node.eventCount,
      (expand node.anchored.reverse (100 * node.eventCount) maxDepth node).run 0
        = some (tree, follows) := by
  rw [ofNode?, StateT.run'_eq] at h
  rcases Option.map_eq_some_iff.mp h with ⟨⟨_, follows⟩, hrun, rfl⟩
  rcases stays_expand maxDepth node (Nat.zero_le _) hrun with ⟨hnests, hfollows⟩
  exact ⟨hnests, follows, hfollows, hrun⟩

end Tree

theorem Stream.nests_of_ofBytes {bytes : Bytes} {tree : Tree}
    (h : Stream.ofBytes bytes = .document tree) : tree.Nests Tree.maxDepth := by
  unfold Stream.ofBytes at h
  split at h
  . contradiction
  . contradiction
  next node _ =>
    cases hnode : Tree.ofNode? node with
    | none =>
      rw [hnode] at h
      contradiction
    | some found =>
      rw [hnode] at h
      cases h
      exact (Tree.nests_of_ofNode? hnode).1

end MessageAbi.Yaml
