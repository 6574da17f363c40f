import Mathlib.Data.List.Basic
import OpGpui.Library.Run

/-!
# Browsing a tree with listings

A browser stands at a node of a tree, shows the entries of its listing that a query keeps,
and has one of them selected. A listing takes its time: the browser shows nothing until it
has arrived, and it may also fail. An entry leads to a child, or it is an outcome that
the browser hands out.

The tree is only ever explored through its listings. `Within` are the nodes that can be
reached so, and `within_run` says that a browser stands nowhere else. `Obliging` trees
list all of them.
-/

namespace Browsing

open Machine

/-- A tree of nodes `ν` with entries `α`, outcomes `β`, failures `ε` and queries `κ`. -/
structure Tree (ν α β ε κ : Type*) where
  root : ν
  parent : ν → Option ν
  listing : ν → Except ε (List α)
  /-- What choosing an entry of a node comes to, if anything. -/
  choose : ν → α → Option (ν ⊕ β)
  /-- What leaving the root hands out. -/
  exit : β
  blank : κ
  keeps : κ → α → Bool

structure Browser (ν β κ : Type*) where
  node : ν
  arrived : Bool
  query : κ
  selected : Option Nat
  outcomes : List β

inductive Turn (κ : Type*) where
  /-- The listing of the node is there, or has failed. It is awaited once. -/
  | arrive
  | reload
  | up
  | exit
  | select (place : Nat)
  | search (query : κ)
  | choose (place : Nat)

variable {ν α β ε κ : Type*}

namespace Browser

/-- Stand at a node whose listing has not arrived. -/
def goto (t : Tree ν α β ε κ) (b : Browser ν β κ) (node : ν) : Browser ν β κ :=
  { b with node, arrived := false, query := t.blank, selected := none }

/-- At the root, with nothing handed out. -/
def start (t : Tree ν α β ε κ) : Browser ν β κ := ⟨t.root, false, t.blank, none, []⟩

def entries (t : Tree ν α β ε κ) (b : Browser ν β κ) : List α :=
  match b.arrived, t.listing b.node with
  | true, .ok entries => entries
  | _, _ => []

/-- The failure on show. -/
def failure (t : Tree ν α β ε κ) (b : Browser ν β κ) : Option ε :=
  match b.arrived, t.listing b.node with
  | true, .error failure => some failure
  | _, _ => none

/-- The entries on show. -/
def visible (t : Tree ν α β ε κ) (b : Browser ν β κ) : List α :=
  (b.entries t).filter (t.keeps b.query)

/-- Select the first entry on show. -/
def home (t : Tree ν α β ε κ) (b : Browser ν β κ) : Browser ν β κ :=
  { b with selected := if b.visible t = [] then none else some 0 }

/-- Show what the listing came to. -/
def receive (t : Tree ν α β ε κ) (b : Browser ν β κ) : Browser ν β κ :=
  home t { b with arrived := true }

/-- Choose the entry on show at that place. -/
def choose (t : Tree ν α β ε κ) (b : Browser ν β κ) (place : Nat) (entry : α) : Browser ν β κ :=
  match t.choose b.node entry with
  | none => { b with selected := some place }
  | some (.inl child) => b.goto t child
  | some (.inr outcome) =>
      { b with selected := some place, outcomes := b.outcomes ++ [outcome] }

def step (t : Tree ν α β ε κ) (b : Browser ν β κ) : Turn κ → Option (Browser ν β κ)
  | .arrive => if b.arrived then none else some (b.receive t)
  | .reload => some (b.goto t b.node)
  | .up => (t.parent b.node).map (b.goto t)
  | .exit =>
      if (t.parent b.node).isNone then some { b with outcomes := b.outcomes ++ [t.exit] } else none
  | .select place => if place < (b.visible t).length then some { b with selected := some place } else none
  | .search query => some (home t { b with query })
  | .choose place => (b.visible t)[place]?.map (b.choose t place)

end Browser

namespace Tree

variable {t : Tree ν α β ε κ} {b c : Browser ν β κ} {move : Turn κ} {moves : List (Turn κ)}

/-- The nodes that listings lead to from the root, and back. -/
inductive Within (t : Tree ν α β ε κ) : ν → Prop
  | root : Within t t.root
  | child {node child : ν} {entries : List α} {entry : α} (within : Within t node)
      (listed : t.listing node = .ok entries) (member : entry ∈ entries)
      (leads : t.choose node entry = some (.inl child)) : Within t child
  | parent {node parent : ν} (within : Within t node) (above : t.parent node = some parent) :
      Within t parent

/-- Every node that listings lead to has a listing. -/
def Obliging (t : Tree ν α β ε κ) : Prop := ∀ node, t.Within node → ∃ entries, t.listing node = .ok entries

/-- The entries of a browser belong to the listing of its node. -/
theorem listed_of_mem_entries {entry : α} (member : entry ∈ b.entries t) :
    ∃ entries, t.listing b.node = .ok entries ∧ entry ∈ entries := by
  simp only [Browser.entries] at member
  split at member
  · rename_i entries _ listed
    exact ⟨entries, listed, member⟩
  · cases member

theorem within_step (within : t.Within b.node) (h : b.step t move = some c) : t.Within c.node := by
  cases move with
  | arrive =>
      simp only [Browser.step, Option.ite_none_left_eq_some, Option.some.injEq] at h
      obtain ⟨_, rfl⟩ := h
      exact within
  | reload =>
      obtain rfl := Option.some.inj h
      exact within
  | up =>
      obtain ⟨parent, above, rfl⟩ := Option.map_eq_some_iff.mp h
      exact within.parent above
  | exit =>
      simp only [Browser.step, Option.ite_none_right_eq_some, Option.some.injEq] at h
      obtain ⟨_, rfl⟩ := h
      exact within
  | select place =>
      simp only [Browser.step, Option.ite_none_right_eq_some, Option.some.injEq] at h
      obtain ⟨_, rfl⟩ := h
      exact within
  | search query =>
      obtain rfl := Option.some.inj h
      exact within
  | choose place =>
      obtain ⟨entry, found, rfl⟩ := Option.map_eq_some_iff.mp h
      obtain ⟨shown, _⟩ := List.mem_filter.mp (List.mem_of_getElem? found)
      obtain ⟨entries, listed, member⟩ := listed_of_mem_entries shown
      simp only [Browser.choose]
      split
      · exact within
      · rename_i child leads
        exact within.child listed member leads
      · exact within

/-- A browser stands only where listings lead. -/
theorem within_run (run : Run (Browser.step t) (.start t) moves b) : t.Within b.node :=
  run.invariant (P := fun b => t.Within b.node) (fun _ _ _ within h => within_step within h) .root

/-- In an obliging tree no failure is ever on show. -/
theorem Obliging.run (obliging : t.Obliging) (run : Run (Browser.step t) (.start t) moves b) :
    b.failure t = none := by
  obtain ⟨entries, listed⟩ := obliging _ (within_run run)
  simp only [Browser.failure, listed]
  split
  · cases ‹Except.ok _ = Except.error _›
  · rfl

end Tree

end Browsing
