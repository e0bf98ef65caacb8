import CssTheming.Entries
import CssTheming.Text.Characters

/-!
# Replacing names in a value

Names are replaced where they stand alone: neither the character before nor the character behind may
be part of a word or a dash. At each place the longest name that stands alone there is replaced. A
replacement is not searched again, and the empty name stands alone between any two characters that
are not part of words.
-/

namespace CssTheming.Replacement

/-- Whether a name that is followed or preceded by `c` does not stand alone. -/
def extendsName (c : Char) : Bool :=
  Text.isWordChar c || c == '-'

/-- The names with their replacements, longest names first. -/
def longestFirst (replacements : Entries Text) : Entries Text :=
  replacements.mergeSort fun r s => s.1.length ≤ r.1.length

/-- Whether `name` stands at the start of `t` and is not extended by what follows. -/
def standsAt (name t : Text) : Bool :=
  match name.isPrefixOf? t with
  | some behind => !behind.head?.any extendsName
  | none => false

/-- The first of the names that stands alone at the start of `t`, where `before` is the character in
    front of `t`. -/
def matchAt? (replacements : Entries Text) (before : Option Char) (t : Text) :
    Option (Text × Text) :=
  if before.any extendsName then none else replacements.find? fun r => standsAt r.1 t

/-- The text from a place on, with the names replaced. `before` is the character in front of the
    place, and `covered` counts the characters that belong to a name replaced before. -/
def replaceFrom (replacements : Entries Text) (before : Option Char) (covered : Nat) : Text → Text
  | [] => (matchAt? replacements before []).elim [] (·.2)
  | c :: t =>
    match covered with
    | covered + 1 => replaceFrom replacements (some c) covered t
    -- an empty name may stand right behind a name that was replaced, so this place counts anew
    | 0 =>
      match matchAt? replacements before (c :: t) with
      | none => c :: replaceFrom replacements (some c) 0 t
      | some (name, replacement) =>
        -- the empty name covers nothing, and `c` stays behind its replacement
        replacement ++
          (if name.isEmpty then [c] else []) ++
            replaceFrom replacements (some c) (name.length - 1) t

/-- The value with every name that stands alone replaced. -/
def replaceAll (replacements : Entries Text) (value : Text) : Text :=
  replaceFrom (longestFirst replacements) none 0 value

end CssTheming.Replacement
