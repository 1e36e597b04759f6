import Bindery.Proofs.Kotlin.TypeTexts

/-!
# Which values are converted

A template of a custom type that has a place, and anything besides, changes every expression
(`fillPlaces_ne`). Signatures show a custom type wherever it is the innermost name of a type, but
the custom type of a conversion is looked up under the whole text of the type. So of the values
whose signature shows a custom type exactly those are converted whose type is its bare name
(`converted_iff_bare`).
-/

namespace Bindery

/-! ## Templates -/

/-- Filling a template that is not empty leaves a text that is not. -/
theorem fillPlaces_ne_nil {e template : Text} (filled : e ≠ []) (there : template ≠ []) :
    fillPlaces e template ≠ [] := by
  unfold fillPlaces
  split
  · exact List.append_ne_nil_of_left_ne_nil filled _
  · exact List.cons_ne_nil _ _
  · exact absurd rfl there

/-- A template with a place shows the expression, and something besides if it has more than that
place. -/
theorem exists_fillPlaces {e template : Text} (place : Text.ofString "\x7b\x7d" <:+: template) :
    ∃ before after, fillPlaces e template = before ++ e ++ after ∧
      (e ≠ [] → 2 < template.length → before ++ after ≠ []) := by
  fun_induction fillPlaces e template with
  | case1 rest ih =>
    refine ⟨[], fillPlaces e rest, rfl, fun filled long => ?_⟩
    refine fillPlaces_ne_nil filled ?_
    rintro rfl
    simp at long
  | case2 c rest single ih =>
    rcases List.infix_cons_iff.1 place with first | behind
    · obtain ⟨rest', same⟩ := first
      obtain ⟨rfl, rfl⟩ := List.cons.inj same
      exact absurd rfl (single rest' rfl)
    · obtain ⟨before, after, same, -⟩ := ih behind
      refine ⟨c :: before, after, by rw [same]; rfl, fun _ _ => List.cons_ne_nil _ _⟩
  | case3 => exact absurd (List.infix_nil.1 place) (by decide)

/-- A template with a place and anything besides changes every expression. -/
theorem fillPlaces_ne {e template : Text} (filled : e ≠ [])
    (place : Text.ofString "\x7b\x7d" <:+: template) (long : 2 < template.length) :
    fillPlaces e template ≠ e := by
  obtain ⟨before, after, same, more⟩ := exists_fillPlaces (e := e) place
  intro unchanged
  rw [same] at unchanged
  have length := congrArg List.length unchanged
  simp only [List.length_append] at length
  have none : (before ++ after).length = 0 := by
    rw [List.length_append]
    omega
  exact more filled long (List.length_eq_zero_iff.1 none)

/-- A template that has a place and something besides. -/
def Wraps (template : Option Text) : Prop :=
  ∃ t, template = some t ∧ Text.ofString "\x7b\x7d" <:+: t ∧ 2 < t.length

section Conversions

variable {customs : List (Text × CustomType)} {e s : Text} {custom : CustomType}
  {template : CustomType → Option Text}

/-- A type without a custom type is not converted. -/
theorem convert_of_missing (missing : customs.lookup s = none) :
    convert template customs e s = e := by
  rw [convert, missing]
  rfl

/-- A conversion that wraps changes the text. -/
theorem convert_ne (filled : e ≠ []) (found : customs.lookup s = some custom)
    (wraps : Wraps (template custom)) : convert template customs e s ≠ e := by
  obtain ⟨t, given, place, long⟩ := wraps
  have there : Text.filled? (template custom) = some t := by
    rw [given, Text.filled?, Option.filter_eq_some_iff]
    refine ⟨rfl, ?_⟩
    rw [List.isEmpty_eq_false_iff.2 (List.ne_nil_of_length_pos (by omega))]
    rfl
  rw [convert, found]
  dsimp only [Option.bind_some]
  rw [there]
  exact fillPlaces_ne filled place long

end Conversions

/-! ## Types that show a custom type -/

namespace TypeExpr

/-- The name that everything else of a type stands around. -/
def innermost : TypeExpr → Text
  | .named name => name
  | .optional t => t.innermost
  | .list t => t.innermost

/-- The custom type that is behind the innermost name of a type in Kotlin. -/
structure Shows (customs : List (Text × CustomType)) (t : TypeExpr) (custom : CustomType) :
    Prop where
  there : t.innermost ≠ ""
  found : customs.lookup t.innermost = some custom
  named : ∃ kotlin, custom.typeName = some kotlin ∧ kotlin ≠ ""

variable {customs : List (Text × CustomType)} {t : TypeExpr}

/-- A type that is written as a name is the bare name. -/
theorem eq_named_of_isName (free : IsName t.written) : t = .named t.innermost := by
  cases t with
  | named name => rfl
  | optional t => exact absurd rfl (free.1 t.written)
  | list t => exact absurd rfl (free.2 t.written)

/-- Under what something is found in a table of names is a name. -/
theorem isName_of_found (names : ∀ entry ∈ customs, IsName entry.1 ∧ entry.1 ≠ "") {s : Text}
    {custom : CustomType} (found : customs.lookup s = some custom) : IsName s ∧ s ≠ "" := by
  rw [Assoc.lookup_eq_get?] at found
  exact names _ (Assoc.mem_of_get? found)

/-- Of the values whose type shows a custom type exactly those of its bare name are converted, when
a table has names only. No other value is converted, and none without a type. -/
theorem converted_iff_bare (names : ∀ entry ∈ customs, IsName entry.1 ∧ entry.1 ≠ "") {e : Text}
    (filled : e ≠ "") :
    (∀ t custom, Shows customs t custom →
      (Wraps custom.lower → (lowerExpr customs e t.written ≠ e ↔ t = .named t.innermost)) ∧
      (Wraps custom.lift → (liftExpr customs e t.written ≠ e ↔ t = .named t.innermost))) ∧
    (∀ t : TypeExpr, customs.lookup t.innermost = none →
      lowerExpr customs e t.written = e ∧ liftExpr customs e t.written = e) ∧
    lowerExpr customs e "" = e ∧ liftExpr customs e "" = e := by
  have bare {t : TypeExpr} (template : CustomType → Option Text)
      (changed : convert template customs e t.written ≠ e) : t = .named t.innermost := by
    obtain ⟨custom, found⟩ := Option.ne_none_iff_exists'.1 (mt convert_of_missing changed)
    exact eq_named_of_isName (isName_of_found names found).1
  have shown {t : TypeExpr} {custom : CustomType} (shows : Shows customs t custom)
      (template : CustomType → Option Text) (wraps : Wraps (template custom)) :
      convert template customs e t.written ≠ e ↔ t = .named t.innermost := by
    refine ⟨bare template, fun same => ?_⟩
    have text : t.written = t.innermost := by rw [same]; rfl
    exact text ▸ convert_ne filled shows.found wraps
  have hidden {t : TypeExpr} (missing : customs.lookup t.innermost = none)
      (template : CustomType → Option Text) : convert template customs e t.written = e := by
    by_contra changed
    have text : t.written = t.innermost := by rw [bare template changed]; rfl
    exact changed (convert_of_missing (text ▸ missing))
  have typeless : customs.lookup ("" : Text) = none := by
    rw [Option.eq_none_iff_forall_ne_some]
    exact fun custom found => (isName_of_found names found).2 rfl
  exact ⟨fun t custom shows => ⟨shown shows CustomType.lower, shown shows CustomType.lift⟩,
    fun t missing => ⟨hidden missing CustomType.lower, hidden missing CustomType.lift⟩,
    convert_of_missing typeless, convert_of_missing typeless⟩

/-- A custom type with both conversions. -/
def tag : CustomType := ⟨[], some "Tag", some "Tag(\x7b\x7d)", some "\x7b\x7d.raw"⟩

theorem wraps_lower_tag : Wraps tag.lower := ⟨_, rfl, ⟨[], ".raw", rfl⟩, by decide +kernel⟩

theorem wraps_lift_tag : Wraps tag.lift := ⟨_, rfl, ⟨"Tag(", ")", rfl⟩, by decide +kernel⟩

/-- A tag is converted in both directions, a list of them in neither. -/
theorem converted_iff_bare_tags :
    IsName "tag" ∧ Shows [("tag", tag)] (.named "tag") tag ∧
      Shows [("tag", tag)] (.list (.named "tag")) tag ∧
      lowerExpr [("tag", tag)] "value" "tag" ≠ "value" ∧
      liftExpr [("tag", tag)] "value" "tag" ≠ "value" ∧
      lowerExpr [("tag", tag)] "value" "sequence<tag>" = "value" ∧
      liftExpr [("tag", tag)] "value" "sequence<tag>" = "value" := by
  have name : IsName "tag" := by decide +kernel
  have there : ("tag" : Text) ≠ "" := by decide +kernel
  have bare : Shows [("tag", tag)] (.named "tag") tag :=
    ⟨there, rfl, "Tag", rfl, by decide +kernel⟩
  have list : Shows [("tag", tag)] (.list (.named "tag")) tag :=
    ⟨there, rfl, "Tag", rfl, by decide +kernel⟩
  have names : ∀ entry ∈ [(("tag" : Text), tag)], IsName entry.1 ∧ entry.1 ≠ "" :=
    List.forall_mem_singleton.2 ⟨name, there⟩
  obtain ⟨shown, -⟩ := converted_iff_bare names (show ("value" : Text) ≠ "" by decide +kernel)
  obtain ⟨lower, lift⟩ := shown (.named "tag") tag bare
  obtain ⟨lower', lift'⟩ := shown (.list (.named "tag")) tag list
  exact ⟨name, bare, list, (lower wraps_lower_tag).2 rfl, (lift wraps_lift_tag).2 rfl,
    not_not.1 (mt (lower' wraps_lower_tag).1 nofun), not_not.1 (mt (lift' wraps_lift_tag).1 nofun)⟩

/-- The signature of an optional tag shows the custom type, and its values are passed on as they
are. Nothing keeps a table from having an entry for a value without a type, or for the whole text of
a type, and then there are conversions without a custom type in the signature. -/
theorem optional_not_converted :
    (Shows [("tag", tag)] (.optional (.named "tag")) tag ∧ Wraps tag.lower ∧ Wraps tag.lift ∧
      kotlinType [("tag", tag)] (.text "tag?") = .ok "Tag?" ∧
      lowerExpr [("tag", tag)] "value" "tag?" = "value" ∧
      liftExpr [("tag", tag)] "value" "tag?" = "value") ∧
    (kotlinType [("", tag)] .null = .ok "Unit" ∧
      lowerExpr [("", tag)] "value" "" = "value.raw") ∧
    List.lookup ("tag" : Text) [(("tag?" : Text), tag)] = none ∧
      lowerExpr [("tag?", tag)] "value" "tag?" = "value.raw" := by
  refine ⟨⟨⟨by decide +kernel, rfl, "Tag", rfl, by decide +kernel⟩, wraps_lower_tag,
    wraps_lift_tag, ?_, rfl, rfl⟩, ⟨rfl, rfl⟩, rfl, rfl⟩
  decide +kernel

end TypeExpr

end Bindery
