import AddressGrammar.Settings.Config
import Mathlib.Data.List.Count
import Mathlib.Data.List.Perm.Basic

/-!
# The settings that fields make

What a list of fields says about the settings, without an order in which it is searched. A setting
has the value of the only field of its name, or its default if there is no such field. Since this
speaks of each name by itself, neither the order of the fields matters nor a field of another name.

The elements of an array have no names, so their order is all that they have. An array says what an
object says that has them under the names of the settings.

## Main definitions

* `Sets` — the fields give a setting this value
* `Overrides` — the fields give all settings the values of a validator
* `IsUnknownField` — a field that is no setting
* `inOrder` — the elements of an array under the names of the settings

## Main results

* `ofFields?_eq_some_iff` — the validator of the fields of an object
* `ofElements?_eq_some_iff` — the validator of the elements of an array
* `Overrides.append_unknown`, `Overrides.perm` — what does not change the settings
-/

namespace AddressGrammar.Settings

open Validation

variable {α : Type} {fields added : List (Option String × Json)} {elements : List Json} {name : String}
  {decode : Json → Option α} {default value : α} {v : Validator}

/-- The field has a name, and no setting has that name. -/
def IsUnknownField (field : Option String × Json) : Prop :=
  ∃ name, field.1 = some name ∧ name ∉ settingNames

/-- The fields give the setting of that name this value. -/
structure Sets (fields : List (Option String × Json)) (name : String) (decode : Json → Option α)
    (default value : α) : Prop where
  /-- No two fields have the name. -/
  once : (fields.map Prod.fst).count (some name) ≤ 1
  /-- The one that has it spells the value. -/
  listed : ∀ j, (some name, j) ∈ fields → decode j = some value
  /-- If none has it, the value is the default. -/
  unlisted : (∀ j, (some name, j) ∉ fields) → value = default

/-- The fields give all settings the values of the validator. Where they are silent, it is
`Validator.modern`. -/
structure Overrides (fields : List (Option String × Json)) (v : Validator) : Prop where
  /-- The name of every field is a text. -/
  named : ∀ f ∈ fields, f.1.isSome = true
  syntaxKind : Sets fields "syntax" syntaxOf? Validator.modern.syntaxKind v.syntaxKind
  startRule : Sets fields "start" startOf? Validator.modern.startRule v.startRule
  validateDomain :
    Sets fields "validate_domain" boolOf? Validator.modern.validateDomain v.validateDomain
  maxDepth : Sets fields "max_depth" depthOf? Validator.modern.maxDepth v.maxDepth

/-! ### Reading the fields -/

/-- **The value of a setting** is the one that the fields give it. -/
theorem fieldOr_eq_some_iff :
    fieldOr fields name decode default = some value ↔ Sets fields name decode default value := by
  -- Only the fields of that name matter, on both sides.
  obtain ⟨kept, hkept⟩ : ∃ kept, fields.filter (fun f => f.1 == some name) = kept := ⟨_, rfl⟩
  have hcount : (fields.map Prod.fst).count (some name) = kept.length := by
    rw [List.count, List.countP_map, List.countP_eq_length_filter, ← hkept]
    rfl
  have hmem : ∀ j, (some name, j) ∈ fields ↔ (some name, j) ∈ kept := by
    intro j
    simp [← hkept]
  have hname : ∀ f ∈ kept, f.1 = some name := by
    intro f hf
    rw [← hkept, List.mem_filter] at hf
    simpa using hf.2
  have hsets : Sets fields name decode default value ↔ kept.length ≤ 1 ∧
      (∀ j, (some name, j) ∈ kept → decode j = some value) ∧
      ((∀ j, (some name, j) ∉ kept) → value = default) := by
    rw [← hcount]
    simp only [← hmem]
    exact ⟨fun h => ⟨h.once, h.listed, h.unlisted⟩, fun h => ⟨h.1, h.2.1, h.2.2⟩⟩
  rw [hsets, fieldOr, hkept]
  match kept, hname with
  | [], _ => simp [eq_comm]
  | [(key, j)], hname =>
    obtain rfl : key = some name := hname (key, j) (List.mem_cons_self ..)
    simp
  | _ :: _ :: _, _ => simp

/-- **The validator of the fields of an object** is the one whose settings they give. -/
theorem ofFields?_eq_some_iff : ofFields? fields = some v ↔ Overrides fields v := by
  have hnamed : fields.all (·.1.isSome) = true ↔ ∀ f ∈ fields, f.1.isSome = true :=
    List.all_eq_true
  unfold ofFields?
  constructor
  · intro h
    split at h
    · next hall =>
      simp only [Option.bind_eq_bind, Option.pure_def, Option.bind_eq_some_iff] at h
      obtain ⟨syntaxKind, hs, startRule, ht, validateDomain, hd, maxDepth, hm, heq⟩ := h
      obtain rfl := Option.some.inj heq
      exact ⟨hnamed.mp hall, fieldOr_eq_some_iff.mp hs, fieldOr_eq_some_iff.mp ht,
        fieldOr_eq_some_iff.mp hd, fieldOr_eq_some_iff.mp hm⟩
    · simp at h
  · intro h
    rw [if_pos (hnamed.mpr h.named)]
    simp only [fieldOr_eq_some_iff.mpr h.syntaxKind, fieldOr_eq_some_iff.mpr h.startRule,
      fieldOr_eq_some_iff.mpr h.validateDomain, fieldOr_eq_some_iff.mpr h.maxDepth]
    rfl

/-! ### Reading elements in their order -/

/-- The elements of an array as fields, each under the name of the setting in its place. -/
def inOrder (elements : List Json) : List (Option String × Json) :=
  (settingNames.map some).zip elements

/-- Among values under distinct names, a name has the value in its place, if there is one. -/
theorem fieldOr_zip {names : List String} (hnames : names.Nodup) (place : Nat)
    (hplace : place < names.length) (elements : List Json) :
    fieldOr ((names.map some).zip elements) names[place] decode default =
      elementOr elements place decode default := by
  induction names generalizing place elements with
  | nil => exact absurd hplace (Nat.not_lt_zero place)
  | cons first names ih =>
    obtain ⟨hfirst, hnames⟩ := List.nodup_cons.mp hnames
    cases elements with
    | nil => rfl
    | cons j elements =>
      cases place with
      | zero =>
        have hothers : ((names.map some).zip elements).filter (fun f => f.1 == some first) = [] := by
          rw [List.filter_eq_nil_iff]
          intro f hf heq
          obtain ⟨other, hother, hname⟩ := List.mem_map.mp (List.of_mem_zip hf).1
          rw [beq_iff_eq, ← hname] at heq
          exact hfirst (Option.some.inj heq ▸ hother)
        simp [fieldOr, elementOr, hothers]
      | succ place =>
        have hlt : place < names.length := Nat.lt_of_succ_lt_succ hplace
        have hne : first ≠ names[place] := fun heq => hfirst (heq ▸ List.getElem_mem _)
        simpa [fieldOr, elementOr, hne] using ih hnames place hlt elements

/-- An array is read as the object that has its elements under the names of the settings. -/
theorem ofElements?_eq (h : elements.length ≤ settingNames.length) :
    ofElements? elements = ofFields? (inOrder elements) := by
  have hnamed : (inOrder elements).all (·.1.isSome) = true := by
    rw [List.all_eq_true]
    intro f hf
    obtain ⟨name, -, hname⟩ := List.mem_map.mp (List.of_mem_zip hf).1
    rw [← hname]
    rfl
  have hnames : settingNames.Nodup := by decide
  rw [ofElements?, if_pos h, ofFields?, if_pos hnamed]
  dsimp only
  rw [← fieldOr_zip hnames 0 (by decide), ← fieldOr_zip hnames 1 (by decide),
    ← fieldOr_zip hnames 2 (by decide), ← fieldOr_zip hnames 3 (by decide)]
  rfl

/-- **The validator of the elements of an array** is the one that they give in the order of the
settings. -/
theorem ofElements?_eq_some_iff : ofElements? elements = some v ↔
    elements.length ≤ settingNames.length ∧ Overrides (inOrder elements) v := by
  by_cases h : elements.length ≤ settingNames.length
  · rw [ofElements?_eq h, ofFields?_eq_some_iff, and_iff_right h]
  · rw [ofElements?, if_neg h]
    exact iff_of_false nofun fun hv => h hv.1

/-! ### What does not matter -/

theorem Sets.perm {fields' : List (Option String × Json)}
    (h : Sets fields name decode default value) (hperm : fields.Perm fields') :
    Sets fields' name decode default value where
  once := by
    rw [← (hperm.map Prod.fst).count_eq]
    exact h.once
  listed j hj := h.listed j (hperm.mem_iff.mpr hj)
  unlisted hj := h.unlisted fun j hmem => hj j (hperm.mem_iff.mp hmem)

/-- Fields of other names do not matter. -/
theorem Sets.append (h : Sets fields name decode default value)
    (hadded : ∀ f ∈ added, f.1 ≠ some name) :
    Sets (fields ++ added) name decode default value where
  once := by
    have hzero : (added.map Prod.fst).count (some name) = 0 := by
      rw [List.count_eq_zero]
      intro hmem
      obtain ⟨f, hf, heq⟩ := List.mem_map.mp hmem
      exact hadded f hf heq
    rw [List.map_append, List.count_append, hzero]
    exact h.once
  listed j hj := by
    rcases List.mem_append.mp hj with hj | hj
    · exact h.listed j hj
    · exact absurd rfl (hadded _ hj)
  unlisted hj := h.unlisted fun j hmem => hj j (List.mem_append_left _ hmem)

/-- **The order of the fields does not matter.** -/
theorem Overrides.perm {fields' : List (Option String × Json)} (h : Overrides fields v)
    (hperm : fields.Perm fields') : Overrides fields' v where
  named f hf := h.named f (hperm.mem_iff.mpr hf)
  syntaxKind := h.syntaxKind.perm hperm
  startRule := h.startRule.perm hperm
  validateDomain := h.validateDomain.perm hperm
  maxDepth := h.maxDepth.perm hperm

/-- **Unknown fields do not matter.** -/
theorem Overrides.append_unknown (h : Overrides fields v)
    (hadded : ∀ f ∈ added, IsUnknownField f) : Overrides (fields ++ added) v := by
  have hother : ∀ name ∈ settingNames, ∀ f ∈ added, f.1 ≠ some name := by
    intro name hname f hf heq
    obtain ⟨other, hother, hunknown⟩ := hadded f hf
    obtain rfl : other = name := Option.some.inj (hother.symm.trans heq)
    exact hunknown hname
  exact {
    named := by
      intro f hf
      rcases List.mem_append.mp hf with hf | hf
      · exact h.named f hf
      · obtain ⟨other, hother, -⟩ := hadded f hf
        rw [hother]
        rfl
    syntaxKind := h.syntaxKind.append (hother _ (by decide))
    startRule := h.startRule.append (hother _ (by decide))
    validateDomain := h.validateDomain.append (hother _ (by decide))
    maxDepth := h.maxDepth.append (hother _ (by decide)) }

end AddressGrammar.Settings
