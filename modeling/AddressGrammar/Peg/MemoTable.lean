import Std.Data.TreeMap.Basic
import Std.Data.TreeMap.Lemmas
import AddressGrammar.Peg.Outcome

/-!
# What a run remembers

A run evaluates a rule at most once per position, growth of left recursion aside. The table keeps,
per rule and start position, how far that evaluation has come and how often it was asked for. While
a body is being evaluated its entry is in progress; a request that finds it so is a left recursion,
and the entry remembers that too.

The entries are filed by position: a position has one row, a row has one entry per rule.

## Main definitions

* `Progress`, `Entry` — what is remembered about one rule at one position
* `MemoTable`, `MemoTable.get?`, `MemoTable.size` — the table and its contents
* `MemoTable.begin`, `MemoTable.visit`, `MemoTable.reenter`, `MemoTable.finish` — the steps in the
  life of an entry

## Main results

* `MemoTable.get?_put` — reading after writing
* `MemoTable.get?_begin`, `MemoTable.get?_visit`, `MemoTable.get?_reenter`,
  `MemoTable.get?_finish` — what each step in the life of an entry does to the table
-/

namespace AddressGrammar.Peg

/-- How far the evaluation of a rule at a position has come. -/
inductive Progress where
  /-- The body is being evaluated, and `reentered` tells whether it asked for itself. -/
  | inProgress (reentered : Bool)
  /-- The body was evaluated. -/
  | done (outcome : Outcome)
  deriving DecidableEq, Repr

/-- What is remembered about a rule at a position. -/
structure Entry where
  /-- How far its evaluation has come. -/
  progress : Progress
  /-- How often it was asked for, the first time included. -/
  hits : Nat
  deriving DecidableEq, Repr

/-- The count of requests stops at the largest 32-bit number. -/
def Entry.maxHits : Nat := 4294967295

/-- The entry after one more request. -/
def Entry.visited (e : Entry) : Entry := { e with hits := min (e.hits + 1) maxHits }

/-- The entry of a first request. -/
def Entry.begun : Entry := ⟨.inProgress false, 1⟩

/-- The entries of one position: at most one per rule. -/
abbrev MemoRow (R : Type) := List (R × Entry)

namespace MemoRow

variable {R : Type} [DecidableEq R]

/-- The entry of a rule. -/
def get? : MemoRow R → R → Option Entry
  | [], _ => none
  | (q, e) :: rest, r => if q = r then some e else get? rest r

/-- Replaces the entry of a rule, or adds one behind the others. -/
def put : MemoRow R → R → Entry → MemoRow R
  | [], r, e => [(r, e)]
  | (q, d) :: rest, r, e => if q = r then (r, e) :: rest else (q, d) :: put rest r e

theorem get?_put (row : MemoRow R) (r q : R) (e : Entry) :
    (row.put r e).get? q = if r = q then some e else row.get? q := by
  induction row with
  | nil => rfl
  | cons x rest ih =>
    obtain ⟨p, d⟩ := x
    by_cases hp : p = r
    · subst hp
      by_cases hq : p = q <;> simp [put, get?, hq]
    · by_cases hq : p = q
      · subst hq
        simp [put, get?, hp, Ne.symm hp]
      · simp [put, get?, hp, hq, ih]

end MemoRow

/-- The entries of a run. -/
structure MemoTable (R : Type) where
  /-- The row of each position that was asked for. -/
  rows : Std.TreeMap Nat (MemoRow R)

namespace MemoTable

variable {R : Type} [DecidableEq R]

/-- The table that remembers nothing. -/
def empty : MemoTable R := ⟨∅⟩

/-- The row of a position. -/
def row (t : MemoTable R) (pos : Nat) : MemoRow R := t.rows.getD pos []

/-- The entry of a rule at a position. -/
def get? (t : MemoTable R) (r : R) (pos : Nat) : Option Entry := (t.row pos).get? r

/-- Sets the entry of a rule at a position. -/
def put (t : MemoTable R) (r : R) (pos : Nat) (e : Entry) : MemoTable R :=
  ⟨t.rows.insert pos ((t.row pos).put r e)⟩

/-- The number of entries. -/
def size (t : MemoTable R) : Nat := t.rows.foldl (fun n _ row => n + row.length) 0

/-- Starts an entry that is in progress. -/
def begin (t : MemoTable R) (r : R) (pos : Nat) : MemoTable R := t.put r pos Entry.begun

/-- Counts one more request for an entry. -/
def visit (t : MemoTable R) (r : R) (pos : Nat) : MemoTable R :=
  match t.get? r pos with
  | some e => t.put r pos e.visited
  | none => t

/-- Marks an entry as one that asked for itself. -/
def reenter (t : MemoTable R) (r : R) (pos : Nat) : MemoTable R :=
  match t.get? r pos with
  | some e => t.put r pos { e with progress := .inProgress true }
  | none => t

/-- Sets the outcome of an entry and keeps its count of requests. -/
def finish (t : MemoTable R) (r : R) (pos : Nat) (o : Outcome) : MemoTable R :=
  t.put r pos { (t.get? r pos).getD Entry.begun with progress := .done o }

/-- Whether an entry is in progress and has asked for itself. -/
def isReentered (t : MemoTable R) (r : R) (pos : Nat) : Bool :=
  (t.get? r pos).any fun e => e.progress == .inProgress true

@[simp] theorem get?_empty (r : R) (pos : Nat) : (empty : MemoTable R).get? r pos = none := by
  simp [empty, get?, row, MemoRow.get?]

/-- **Reading after writing.** An entry is found under its own rule and position and disturbs no
other. -/
theorem get?_put (t : MemoTable R) (r q : R) (p i : Nat) (e : Entry) :
    (t.put r p e).get? q i = if r = q ∧ p = i then some e else t.get? q i := by
  by_cases hp : p = i
  · subst hp
    by_cases hr : r = q <;> simp [put, get?, row, MemoRow.get?_put, hr]
  · simp [put, get?, row, Std.TreeMap.getD_insert, hp]

theorem get?_begin (t : MemoTable R) (r q : R) (p i : Nat) :
    (t.begin r p).get? q i = if r = q ∧ p = i then some Entry.begun else t.get? q i :=
  get?_put ..

theorem get?_visit (t : MemoTable R) (r q : R) (p i : Nat) :
    (t.visit r p).get? q i =
      if r = q ∧ p = i then (t.get? q i).map Entry.visited else t.get? q i := by
  rw [visit]
  split
  · next e he =>
    rw [get?_put]
    split
    · next h => rw [← h.1, ← h.2, he]; rfl
    · rfl
  · next he =>
    split
    · next h => rw [← h.1, ← h.2, he]; rfl
    · rfl

theorem get?_reenter (t : MemoTable R) (r q : R) (p i : Nat) :
    (t.reenter r p).get? q i =
      if r = q ∧ p = i then (t.get? q i).map fun e => { e with progress := .inProgress true }
      else t.get? q i := by
  rw [reenter]
  split
  · next e he =>
    rw [get?_put]
    split
    · next h => rw [← h.1, ← h.2, he]; rfl
    · rfl
  · next he =>
    split
    · next h => rw [← h.1, ← h.2, he]; rfl
    · rfl

theorem get?_finish (t : MemoTable R) (r q : R) (p i : Nat) (o : Outcome) :
    (t.finish r p o).get? q i =
      if r = q ∧ p = i then some { (t.get? q i).getD Entry.begun with progress := .done o }
      else t.get? q i := by
  rw [finish, get?_put]
  split
  · next h => rw [h.1, h.2]
  · rfl

end MemoTable

end AddressGrammar.Peg
