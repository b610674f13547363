/-!
# Open rules

While the body of a rule is being evaluated, the rule is open at the position where the body began.
Bodies open and close like brackets, so the open rules form a stack. Its height is asked for at
every rule application and is kept beside it.

## Main definitions

* `OpenRules`, `OpenRules.depth`, `OpenRules.innermost?` — the stack, its height and its top
* `OpenRules.none`, `OpenRules.push` — no open rule, and one more
-/

namespace AddressGrammar.Peg

/-- The rules whose bodies are being evaluated. -/
structure OpenRules (R : Type) where
  /-- The open rules and the positions where their bodies began, the innermost first. -/
  frames : List (R × Nat)
  /-- How many there are. -/
  depth : Nat
  /-- The count is right. -/
  depth_eq : depth = frames.length

namespace OpenRules

variable {R : Type}

/-- No rule is open. -/
def none : OpenRules R := ⟨[], 0, rfl⟩

/-- Opens one more rule at a position. -/
def push (o : OpenRules R) (r : R) (start : Nat) : OpenRules R :=
  ⟨(r, start) :: o.frames, o.depth + 1, congrArg (· + 1) o.depth_eq⟩

/-- The rule opened last. -/
def innermost? (o : OpenRules R) : Option R := o.frames.head?.map Prod.fst

@[ext] theorem ext {o p : OpenRules R} (h : o.frames = p.frames) : o = p := by
  obtain ⟨f, d, hd⟩ := o
  obtain ⟨g, e, he⟩ := p
  obtain rfl : f = g := h
  obtain rfl : d = e := hd.trans he.symm
  rfl

@[simp] theorem depth_push (o : OpenRules R) (r : R) (start : Nat) :
    (o.push r start).depth = o.depth + 1 := rfl

@[simp] theorem innermost?_push (o : OpenRules R) (r : R) (start : Nat) :
    (o.push r start).innermost? = some r := rfl

end OpenRules

end AddressGrammar.Peg
