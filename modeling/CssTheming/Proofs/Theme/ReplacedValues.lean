import CssTheming.Proofs.Stylesheet.Alternates
import CssTheming.Proofs.Stylesheet.AppendOnly
import CssTheming.Proofs.Theme.Segments
import Mathlib

/-!
# Declarations of replaced values

A literal value in which names are replaced is declared once with fallbacks, and once more with
`var()` expressions if the two values differ. Both are written into the same segments, and a `var()`
expression is longer than its fallback. So the two values differ just if one of the names that are
found stands for a custom property.

## Main definitions

- `Resolver.texts`: what a replacement gives to the two values
- `Resolver.filled`: what is written into the segments of a value
- `Resolver.findsCustom`: whether a name that is found stands for a custom property

## Key results

- `Resolver.length_filled_lt`, `Resolver.filled_eq_iff`: the two values are the same just if no
  custom property is found
- `Resolver.replaceWrites_eq`: the declarations of a value with names to be replaced
- `replaced_value_is_declared`: what is added to the innermost open rule
-/

namespace CssTheming

open Replacement

/-- Whether a value has a fallback, if it is a custom property. -/
def ThemeValue.hasFallback : ThemeValue → Bool
  | .custom c => c.fallback.isSome
  | .text _ => true

namespace Resolver

variable {r : Resolver} {replacements : Entries ThemeValue} {property name t : Text}
  {value : ThemeValue} {custom : CustomProperty} {segs : List Segment}

/-! ## The two texts of a replacement -/

/-- The texts of a custom property: its fallback, and its `var()` expression. -/
def textsOf (custom : CustomProperty) : ReplacementTexts where
  static := custom.fallback.getD []
  dynamic := custom.var

/-- The texts of a value: those of the custom property that it is or stands for, or twice the text
    itself. -/
def texts (r : Resolver) : ThemeValue → ReplacementTexts
  | .custom custom => textsOf custom
  | .text t => (r.roleProperty? t).elim { static := t, dynamic := t } textsOf

/-- The custom property of a role has a fallback, which is the value of the role. -/
private theorem exists_fallback_of_roleProperty? (h : r.roleProperty? t = some custom) :
    ∃ fallback, custom.fallback = some fallback := by
  obtain ⟨fallback, -, rfl⟩ := Option.map_eq_some_iff.1 h
  exact ⟨fallback, rfl⟩

/-- The custom property that a value stands for has a fallback, if the value does not lack one. -/
private theorem exists_fallback_of_customOf? (hvalue : value.hasFallback = true)
    (h : r.customOf? value = some custom) : ∃ fallback, custom.fallback = some fallback := by
  cases value with
  | custom custom' =>
    obtain rfl := Option.some.inj h
    exact Option.isSome_iff_exists.1 hvalue
  | text t => exact exists_fallback_of_roleProperty? h

/-- The texts of a value are those of the custom property that it stands for. -/
private theorem texts_of_customOf? (h : r.customOf? value = some custom) :
    r.texts value = textsOf custom := by
  cases value with
  | custom custom' =>
    obtain rfl := Option.some.inj h
    rfl
  | text t =>
    rw [customOf?] at h
    rw [texts, h, Option.elim_some]

/-- A value that stands for no custom property gives the same to both values. -/
private theorem dynamic_of_customOf?_eq_none (h : r.customOf? value = none) :
    (r.texts value).dynamic = (r.texts value).static := by
  cases value with
  | custom custom' => cases h
  | text t =>
    rw [customOf?] at h
    rw [texts, h, Option.elim_none]

/-- A custom property gives more to the second value than to the first. -/
private theorem length_static_lt (hvalue : value.hasFallback = true)
    (h : r.customOf? value = some custom) :
    (r.texts value).static.length < (r.texts value).dynamic.length := by
  obtain ⟨fallback, hfallback⟩ := exists_fallback_of_customOf? hvalue h
  rw [texts_of_customOf? h, textsOf, hfallback]
  exact CustomProperty.length_fallback_lt_length_var hfallback

/-- A custom property with a fallback has two texts. -/
private theorem customTexts_eq_ok {fallback : Text} (h : custom.fallback = some fallback) :
    customTexts property name custom = .ok (textsOf custom) := by
  rw [customTexts, textsOf, h]
  rfl

/-- A replacement that does not lack a fallback has two texts. -/
private theorem replacementTexts_eq_ok (h : value.hasFallback = true) :
    r.replacementTexts property name value = .ok (r.texts value) := by
  cases value with
  | custom custom =>
    obtain ⟨fallback, hfallback⟩ := Option.isSome_iff_exists.1 h
    exact customTexts_eq_ok hfallback
  | text t =>
    rw [replacementTexts, texts]
    -- a text is a replacement as it is, unless it is a role
    cases hrole : r.roleProperty? t with
    | none => rfl
    | some custom =>
      obtain ⟨fallback, hfallback⟩ := exists_fallback_of_roleProperty? hrole
      exact customTexts_eq_ok hfallback

/-! ## The two values -/

/-- One of the two texts that take the place of a name; the name itself if it has no replacement. -/
def textAt (r : Resolver) (replacements : Entries ThemeValue) (text : ReplacementTexts → Text)
    (name : Text) : Text :=
  ((replacements.get? name).map fun value => text (r.texts value)).getD name

/-- The value that consists of the segments of another one, with one of the two texts in the place
    of each name. -/
def filled (r : Resolver) (replacements : Entries ThemeValue) (text : ReplacementTexts → Text)
    (segs : List Segment) : Text :=
  segs.flatMap (Segment.fill (r.textAt replacements text))

/-- Whether a name is replaced by a custom property, or by a role that stands for one. -/
def isCustomName (r : Resolver) (replacements : Entries ThemeValue) (name : Text) : Bool :=
  (replacements.get? name).any fun value => (r.customOf? value).isSome

/-- Whether a custom property takes the place of one of the names among the segments of a value. -/
def findsCustom (r : Resolver) (replacements : Entries ThemeValue) (segs : List Segment) : Bool :=
  (segs.filterMap Segment.name?).any (r.isCustomName replacements)

/-- Where no custom property takes the place of a name, the same is written in both values. -/
private theorem textAt_of_isCustomName_eq_false (h : r.isCustomName replacements name = false) :
    r.textAt replacements (·.dynamic) name = r.textAt replacements (·.static) name := by
  rw [textAt, textAt]
  cases hget : replacements.get? name with
  | none => rfl
  | some value =>
    rw [isCustomName, hget, Option.any_some, Option.isSome_eq_false_iff, Option.isNone_iff_eq_none]
      at h
    simp only [Option.map_some, dynamic_of_customOf?_eq_none h]

/-- Where a custom property takes the place of a name, more is written in the second value. -/
private theorem length_textAt_lt (hfallbacks : ∀ entry ∈ replacements, entry.2.hasFallback = true)
    (h : r.isCustomName replacements name = true) :
    (r.textAt replacements (·.static) name).length <
      (r.textAt replacements (·.dynamic) name).length := by
  cases hget : replacements.get? name with
  | none =>
    rw [isCustomName, hget] at h
    cases h
  | some value =>
    rw [isCustomName, hget, Option.any_some] at h
    obtain ⟨custom, hcustom⟩ := Option.isSome_iff_exists.1 h
    have hvalue := hfallbacks _ (Entries.mem_of_get?_eq_some hget)
    rw [textAt, textAt, hget]
    exact length_static_lt hvalue hcustom

/-- No segment has less written for it in the second value. -/
private theorem length_fill_le (hfallbacks : ∀ entry ∈ replacements, entry.2.hasFallback = true)
    (seg : Segment) :
    (seg.fill (r.textAt replacements (·.static))).length ≤
      (seg.fill (r.textAt replacements (·.dynamic))).length := by
  cases seg with
  | kept c => exact Nat.le_refl 1
  | found name =>
    cases hname : r.isCustomName replacements name with
    | false => exact (congrArg List.length (textAt_of_isCustomName_eq_false hname)).ge
    | true => exact (length_textAt_lt hfallbacks hname).le

/-- One name that is found makes the dynamic value longer, because no other one makes it shorter. -/
theorem length_filled_lt (hfallbacks : ∀ entry ∈ replacements, entry.2.hasFallback = true)
    (h : r.findsCustom replacements segs = true) :
    (r.filled replacements (·.static) segs).length <
      (r.filled replacements (·.dynamic) segs).length := by
  obtain ⟨name, hname, hcustom⟩ := List.any_eq_true.1 h
  obtain ⟨seg, hseg, hsegname⟩ := List.mem_filterMap.1 hname
  -- all other segments have at least as much written for them
  refine List.length_flatMap_lt (fun other _ => length_fill_le hfallbacks other) ⟨seg, hseg, ?_⟩
  cases seg with
  | kept c => cases hsegname
  | found other =>
    obtain rfl := Option.some.inj hsegname
    exact length_textAt_lt hfallbacks hcustom

/-- If no custom property is found, the two values are the same. -/
private theorem filled_of_findsCustom_eq_false (h : r.findsCustom replacements segs = false) :
    r.filled replacements (·.dynamic) segs = r.filled replacements (·.static) segs := by
  rw [findsCustom, List.any_eq_false] at h
  refine List.flatMap_congr fun seg hseg => ?_
  cases seg with
  | kept c => rfl
  | found name =>
    have hname : name ∈ segs.filterMap Segment.name? := List.mem_filterMap.2 ⟨_, hseg, rfl⟩
    exact textAt_of_isCustomName_eq_false (Bool.eq_false_iff.2 (h name hname))

/-- The two values are the same just if no custom property is found. -/
theorem filled_eq_iff (hfallbacks : ∀ entry ∈ replacements, entry.2.hasFallback = true) :
    r.filled replacements (·.dynamic) segs = r.filled replacements (·.static) segs ↔
      r.findsCustom replacements segs = false := by
  constructor
  · intro heq
    rw [← Bool.not_eq_true]
    intro hfinds
    -- a custom property would make one value longer than the other
    have hlt := length_filled_lt hfallbacks hfinds
    rw [heq] at hlt
    exact Nat.lt_irrefl _ hlt
  · exact filled_of_findsCustom_eq_false

/-! ## The declarations -/

/-- Replacing names by one of their two texts is writing that text into the segments. -/
private theorem replaceAll_map_texts {value : Text}
    (hsegs : Segmented replacements.keys none value segs)
    (text : ReplacementTexts → Text) :
    replaceAll (replacements.map fun entry => (entry.1, text (r.texts entry.2))) value =
      r.filled replacements text segs := by
  -- the segments depend on the names alone, which are the same for both texts
  have hkeys := Entries.keys_map (fun value => text (r.texts value)) replacements
  rw [← hkeys] at hsegs
  rw [hsegs.replaceAll_eq, filled]
  refine List.flatMap_congr fun seg _ => congrArg (Segment.fill · seg) (funext fun name => ?_)
  rw [Entries.get?_map fun value => text (r.texts value), textAt]

/-- There is the declaration with the static texts, and its alternative with the dynamic ones if a
    custom property takes the place of a name. -/
theorem replaceWrites_eq {d : Declaration} (hsegs : Segmented replacements.keys none d.value segs)
    (hfallbacks : ∀ entry ∈ replacements, entry.2.hasFallback = true) :
    r.replaceWrites d replacements =
      .ok (Write.sequence []
        ({ d with value := r.filled replacements (·.static) segs } ::
          if r.findsCustom replacements segs then
            [d.alternative (r.filled replacements (·.dynamic) segs)]
          else [])) := by
  -- no replacement leads to an error, so both values are worked out
  rw [replaceWrites, List.mapM_eq_ok (g := fun entry => (entry.1, r.texts entry.2))]
  · simp only [bind, Except.bind, List.map_map, Function.comp_def, replaceAll_map_texts hsegs,
      filled_eq_iff hfallbacks]
    cases r.findsCustom replacements segs <;> rfl
  · intro entry hentry
    simp only [replacementTexts_eq_ok (hfallbacks entry hentry)]
    rfl

private theorem roleProperty?_of_isRole_eq_false (h : r.isRole t = false) :
    r.roleProperty? t = none := by
  rw [isRole, ← Bool.not_eq_true, Entries.contains_iff_mem_keys, ← Entries.get?_eq_none_iff] at h
  rw [roleProperty?, h, Option.map_none]

/-- A value that is no role is taken literally, and the names in it are replaced. -/
private theorem apply_eq_ok {annotations : Option Annotations} {important : Bool}
    {writes : List Write}
    (ht : r.isRole t = false) (hne : replacements ≠ [])
    (hwrites : r.replaceWrites
      { property, value := t, important, annotations := annotations.getD [] } replacements =
        .ok writes) :
    r.apply property (.text t) annotations important replacements = .ok { writes } := by
  have hempty : replacements.isEmpty = false := by simpa using hne
  simp only [apply, roleProperty?_of_isRole_eq_false ht, hempty, hwrites]
  rfl

end Resolver

/-- If names are replaced in a literal value, and all custom properties among the replacements have
    fallbacks, then the innermost open rule gets one declaration with the fallbacks, and right
    behind it one with the `var()` expressions just if a custom property or a role takes the place
    of a name that is found in the value. The second one has the mark of an alternative beside the
    annotations of the first. Both are written into the segments of the value, which can be read in
    one way only, and nothing else changes. -/
theorem replaced_value_is_declared {b : Builder} (hb : b.Reachable) (hopen : b.openRules ≠ [])
    {r : Resolver} (hemitting : b.emittingFor r.feature = true) (property : Text) {value : Text}
    (hvalue : r.isRole value = false) (annotations : Option Annotations) (important : Bool)
    {replacements : Entries ThemeValue} (hne : replacements ≠ [])
    (hfallbacks : ∀ entry ∈ replacements, entry.2.hasFallback = true) :
    ∃ before rule after segs, b.build.rules = before ++ rule :: after ∧
      b.openRules.head? = some before.length ∧
      Segmented replacements.keys none value segs ∧
      (∀ segs', Segmented replacements.keys none value segs' → segs' = segs) ∧
      let outcome := b.step (.apply r property (.text value) annotations important replacements)
      let first : Declaration :=
        { property
          value := r.filled replacements (·.static) segs
          important
          annotations := annotations.getD [] }
      let second : Declaration :=
        { property
          value := r.filled replacements (·.dynamic) segs
          important
          annotations := Entries.set (annotations.getD []) "alternate" (.bool true) }
      outcome.error? = none ∧
        outcome.builder.build =
          { root := b.build.root
            rules := before ++
              { rule with
                declarations := rule.declarations ++ first ::
                  if r.findsCustom replacements segs then [second] else [] } :: after } := by
  obtain ⟨segs, hsegs⟩ := exists_segmented replacements.keys none value
  let d : Declaration := { property, value, important, annotations := annotations.getD [] }
  have hwrites := Resolver.replaceWrites_eq (r := r) (d := d) hsegs hfallbacks
  have happly := Resolver.apply_eq_ok hvalue hne hwrites
  have hplan :
      (Step.apply r property (.text value) annotations important replacements).plan? =
        some (r.feature, .ok _) :=
    congrArg (fun result => some (r.feature, result)) happly
  obtain ⟨herror, before, rule, after, hrules, hindex, hbuild⟩ :=
    Builder.exists_build_step hb.stacked.exist hopen hplan hemitting rfl
  exact ⟨before, rule, after, segs, hrules, hindex, hsegs, fun _ hsegs' => hsegs'.unique hsegs,
    herror, hbuild⟩

/-- A name of which another one is a part, with punctuation, and the empty name. -/
def overlappingReplacements : Entries ThemeValue :=
  [("c", .text "primary"), ("(c)", .custom { name := "--x", fallback := some "0" }),
    ("", .text "~")]

/-- The longest name is found where it stands alone, the empty name behind it, and the role at the
    end, so that the inner one of two rules gets a pair of declarations, of which the second is
    marked as the alternative. -/
theorem replaced_value_is_declared_of_overlapping_names :
    (Builder.twoOpenRules.step
        (.apply {} "border" (.text "1px c-d (c) c") (some [("noflip", .bool true)]) true
          overlappingReplacements)).builder.build.rules.map
        (·.declarations.map fun d => (d.value, d.annotations)) =
      ([[("red", [])],
        [("1px c-d 0~ #6200ee", [("noflip", .bool true)]),
          ("1px c-d var(--x, 0)~ var(--theme-primary, #6200ee)",
            [("noflip", .bool true), ("alternate", .bool true)])]] :
        List (List (Text × Annotations))) ∧
    ∃ before rule after segs, Builder.twoOpenRules.build.rules = before ++ rule :: after ∧
      Builder.twoOpenRules.openRules.head? = some before.length ∧
      Segmented overlappingReplacements.keys none "1px c-d (c) c" segs ∧
      (∀ segs', Segmented overlappingReplacements.keys none "1px c-d (c) c" segs' →
        segs' = segs) ∧
      let outcome := Builder.twoOpenRules.step
        (.apply {} "border" (.text "1px c-d (c) c") (some [("noflip", .bool true)]) true
          overlappingReplacements)
      let first : Declaration :=
        { property := "border"
          value := Resolver.filled {} overlappingReplacements (·.static) segs
          important := true
          annotations := [("noflip", .bool true)] }
      let second : Declaration :=
        { property := "border"
          value := Resolver.filled {} overlappingReplacements (·.dynamic) segs
          important := true
          annotations := [("noflip", .bool true), ("alternate", .bool true)] }
      outcome.error? = none ∧
        outcome.builder.build =
          { root := Builder.twoOpenRules.build.root
            rules := before ++
              { rule with
                declarations := rule.declarations ++ first ::
                  if Resolver.findsCustom {} overlappingReplacements segs then [second]
                  else [] } :: after } := by
  have hb : Builder.twoOpenRules.Reachable := ⟨{}, _, rfl⟩
  have hfallbacks : ∀ entry ∈ overlappingReplacements, entry.2.hasFallback = true := by
    decide +kernel
  exact ⟨by cbv, replaced_value_is_declared hb (by decide +kernel) (by decide +kernel)
    "border" (by decide +kernel) (some [("noflip", .bool true)]) true (List.cons_ne_nil _ _)
    hfallbacks⟩

end CssTheming
