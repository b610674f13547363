import AddressGrammar.Hostname.FormTable
import AddressGrammar.Text.Composed

/-!
# Forms of characters and names

A host name is compared without regard to the variants of its characters, so every character is
brought to its plain form and the whole to its composed form. A character in none of the tables is
its own form, even one that is not assigned yet, which lets a name have letters that are still to be
added. The conversion is the non-transitional one, which keeps `ß` and the final sigma.

## Main definitions

* `formOf?` — the form of a character
* `fold?` — the form of a name
-/

namespace AddressGrammar.Hostname

open Text

/-- The form of a character in a host name. It is empty for an ignored character and absent for one
that no name may have. -/
def formOf? (c : Char) : Option (List Char) :=
  if c.toNat < 0x80 then some [c.toLower]
  else if ignoredRanges.covers c then some []
  else
    match formBlocks.findSome? (·.form? c) <|> formRuns.findSome? (·.form? c) with
    | some d => some [d]
    | none =>
      match formExpansions.lookup c.toNat with
      | some ds => some (ds.map Char.ofNat)
      | none => if refusedRanges.covers c then none else some [c]

/-- The form of a name, which is composed of the forms of its characters. -/
def fold? (name : List Char) : Option (List Char) :=
  (name.mapM formOf?).map fun forms => composed forms.flatten

end AddressGrammar.Hostname
