import Mathlib.Data.List.Basic
import Mathlib.Logic.ExistsUnique
import Bindery.Kotlin.TypeExpr
import Bindery.Proofs.Assoc

/-!
# Types and the texts that write them

A text writes one type that is built from names (`existsUnique_written`): the reader looks at the
end of a text and at both its ends, and no name has either form. So the Kotlin type of a text is
that of the type it writes, part by part (`Means`), as long as not too many types stand inside one
another (`kotlinType_written`).
-/

namespace Bindery.TypeExpr

/-! ## Types built from names -/

/-- A name: a text that writes neither an optional type nor a list type. -/
def IsName (s : Text) : Prop :=
  (∀ e : Text, s ≠ e ++ "?") ∧ ∀ e : Text, s ≠ "sequence<" ++ e ++ ">"

/-- A type that is built from names. The name may be empty. -/
inductive Formed : TypeExpr → Prop where
  | named {name : Text} (free : IsName name) : Formed (.named name)
  | optional {t : TypeExpr} (element : Formed t) : Formed (.optional t)
  | list {t : TypeExpr} (element : Formed t) : Formed (.list t)

theorem getLast?_eq_mark_iff {s : Text} :
    s.getLast? = some (.char '?') ↔ ∃ e : Text, s = e ++ "?" :=
  List.getLast?_eq_some_iff

/-- A list is written with its element between angle brackets. -/
theorem listElement?_eq_some_iff {s e : Text} :
    listElement? s = some e ↔ s = "sequence<" ++ e ++ ">" := by
  have opening : listOpening = Text.ofString "sequence<" := rfl
  unfold listElement?
  constructor
  · intro h
    split at h
    · rename_i both
      rw [Bool.and_eq_true, beq_iff_eq] at both
      obtain ⟨first, last⟩ := both
      obtain ⟨rest, rfl⟩ := List.isPrefixOf_iff_prefix.1 first
      -- The opening does not end with the closing bracket, so something stands behind it.
      obtain rfl | ⟨front, c, rfl⟩ := List.eq_nil_or_concat' rest
      · exact absurd last (by decide +kernel)
      · rw [← List.append_assoc, List.getLast?_concat] at last
        obtain rfl := Option.some.inj last
        rw [List.drop_left, List.dropLast_concat] at h
        obtain rfl := Option.some.inj h
        rw [opening, ← List.append_assoc]
        rfl
    · cases h
  · rintro rfl
    have first : listOpening.isPrefixOf (Text.ofString "sequence<" ++ e ++ Text.ofString ">") :=
      List.isPrefixOf_iff_prefix.2 ⟨e ++ Text.ofString ">", by rw [opening, List.append_assoc]⟩
    have last : (Text.ofString "sequence<" ++ e ++ Text.ofString ">").getLast? =
        some (CodePoint.char '>') := List.getLast?_concat
    rw [first, last, if_pos (by decide), opening, List.append_assoc, List.drop_left]
    exact congrArg some List.dropLast_concat

/-- A text is a name when it neither ends in a mark nor is written as a list. -/
theorem isName_iff {s : Text} :
    IsName s ↔ s.getLast? ≠ some (.char '?') ∧ listElement? s = none := by
  rw [IsName, Ne, getLast?_eq_mark_iff, not_exists, Option.eq_none_iff_forall_ne_some]
  exact and_congr_right fun _ => forall_congr' fun _ => not_congr listElement?_eq_some_iff.symm

instance (s : Text) : Decidable (IsName s) := decidable_of_iff _ isName_iff.symm

/-! ## Reading and writing -/

/-- A text with a mark at its end is an optional type. -/
theorem ofText_optional (e : Text) : ofText (e ++ "?") = .optional (ofText e) := by
  rw [ofText, dif_pos (getLast?_eq_mark_iff.2 ⟨e, rfl⟩)]
  exact congrArg (fun t => optional (ofText t)) List.dropLast_concat

/-- A text with angle brackets is a list. -/
theorem ofText_list (e : Text) : ofText ("sequence<" ++ e ++ ">") = .list (ofText e) := by
  have last : (Text.ofString "sequence<" ++ e ++ Text.ofString ">").getLast? ≠
      some (CodePoint.char '?') := by
    rw [show (Text.ofString "sequence<" ++ e ++ Text.ofString ">").getLast? =
      some (CodePoint.char '>') from List.getLast?_concat]
    decide
  rw [ofText, dif_neg last]
  split
  · rename_i element h
    rw [listElement?_eq_some_iff.2 rfl] at h
    rw [Option.some.inj h]
  · rename_i h
    rw [listElement?_eq_some_iff.2 rfl] at h
    cases h

/-- A text that is a name is one. -/
theorem ofText_name {s : Text} (h : IsName s) : ofText s = .named s := by
  obtain ⟨unmarked, unlisted⟩ := isName_iff.1 h
  rw [ofText, dif_neg unmarked]
  split
  · rename_i element h
    rw [unlisted] at h
    cases h
  · rfl

/-- The forms of a text. -/
theorem text_cases (s : Text) :
    (∃ e : Text, s = e ++ "?") ∨ (∃ e : Text, s = "sequence<" ++ e ++ ">") ∨ IsName s := by
  by_cases optional : ∃ e : Text, s = e ++ "?"
  · exact .inl optional
  by_cases list : ∃ e : Text, s = "sequence<" ++ e ++ ">"
  · exact .inr (.inl list)
  · exact .inr (.inr ⟨not_exists.1 optional, not_exists.1 list⟩)

/-- A type built from names is read back from its written form. -/
theorem ofText_written {t : TypeExpr} (h : t.Formed) : ofText t.written = t := by
  induction h with
  | named free => exact ofText_name free
  | optional _ ih => rw [written, ofText_optional, ih]
  | list _ ih => rw [written, ofText_list, ih]

/-- What is read from a text is built from names, and is written as that text. -/
theorem formed_ofText (s : Text) : (ofText s).Formed ∧ (ofText s).written = s := by
  induction hn : s.length using Nat.strongRecOn generalizing s with
  | _ n ih =>
    subst hn
    rcases text_cases s with ⟨e, rfl⟩ | ⟨e, rfl⟩ | free
    · obtain ⟨formed, same⟩ := ih e.length (by simp [Text.ofString, Text.ofChars]) e rfl
      rw [ofText_optional, written, same]
      exact ⟨.optional formed, rfl⟩
    · have shorter : e.length < List.length ("sequence<" ++ e ++ ">" : Text) :=
        length_listElement?_lt (listElement?_eq_some_iff.2 rfl)
      obtain ⟨formed, same⟩ := ih e.length shorter e rfl
      rw [ofText_list, written, same]
      exact ⟨.list formed, rfl⟩
    · rw [ofText_name free]
      exact ⟨.named free, rfl⟩

/-- Every text writes one type that is built from names. -/
theorem existsUnique_written (s : Text) : ∃! t : TypeExpr, t.Formed ∧ t.written = s := by
  refine ⟨ofText s, formed_ofText s, ?_⟩
  rintro t ⟨formed, rfl⟩
  exact (ofText_written formed).symm

/-! ## The Kotlin type -/

/-- A custom type that gives a name a Kotlin type of its own. -/
def Renames (customs : List (Text × CustomType)) (name kotlin : Text) : Prop :=
  ∃ custom, customs.lookup name = some custom ∧ custom.typeName = some kotlin ∧ kotlin ≠ ""

/-- What a type is in Kotlin. Of a name, the custom type goes before the builtin one, and that
before the class of the name; of no name at all it is the type without a value. -/
inductive Means (customs : List (Text × CustomType)) : TypeExpr → Text → Prop where
  | nothing : Means customs (.named "") "Unit"
  | custom {name kotlin : Text} (there : name ≠ "") (own : Renames customs name kotlin) :
      Means customs (.named name) kotlin
  | builtin {name kotlin : Text} (there : name ≠ "") (free : ∀ k, ¬Renames customs name k)
      (primitive : (name, kotlin) ∈ builtins) : Means customs (.named name) kotlin
  | other {name : Text} (there : name ≠ "") (free : ∀ k, ¬Renames customs name k)
      (composite : ∀ k, (name, k) ∉ builtins) : Means customs (.named name) (Naming.pascal name)
  | optional {t : TypeExpr} {kotlin : Text} (element : Means customs t kotlin) :
      Means customs (.optional t) (kotlin ++ "?")
  | list {t : TypeExpr} {kotlin : Text} (element : Means customs t kotlin) :
      Means customs (.list t) ("List<" ++ kotlin ++ ">")

variable {customs : List (Text × CustomType)} {name : Text}

/-- A name has a custom text when the table renames it. -/
theorem customName?_eq_some_iff {kotlin : Text} :
    customName? customs name = some kotlin ↔ Renames customs name kotlin := by
  simp only [customName?, Option.bind_eq_some_iff, Text.filled?, Option.filter_eq_some_iff]
  refine exists_congr fun custom => and_congr_right fun _ => and_congr_right fun _ => ?_
  simp [Text.ofString, Text.ofChars]

/-- And none when nothing renames it. -/
theorem customName?_eq_none_iff :
    customName? customs name = none ↔ ∀ k, ¬Renames customs name k := by
  rw [Option.eq_none_iff_forall_ne_some]
  exact forall_congr' fun _ => not_congr customName?_eq_some_iff

theorem lookup_builtins {kotlin : Text} :
    builtins.lookup name = some kotlin ↔ (name, kotlin) ∈ builtins := by
  rw [Assoc.lookup_eq_get?, Assoc.mem_iff_get? (by decide +kernel)]

/-- A name that is not empty is renamed, built in or spelled in Pascal case. -/
theorem kotlinName_of_ne (there : name ≠ "") :
    kotlinName customs name =
      (customName? customs name).getD ((builtins.lookup name).getD (Naming.pascal name)) :=
  if_neg (mt List.isEmpty_iff.1 there)

/-- A name has one Kotlin type. -/
theorem means_kotlinName (customs : List (Text × CustomType)) (name : Text) :
    Means customs (.named name) (kotlinName customs name) := by
  by_cases there : name = ""
  · subst there
    exact .nothing
  rw [kotlinName_of_ne there]
  cases own : customName? customs name with
  | some kotlin => exact .custom there (customName?_eq_some_iff.1 own)
  | none =>
    have free := customName?_eq_none_iff.1 own
    cases primitive : builtins.lookup name with
    | some kotlin => exact .builtin there free (lookup_builtins.1 primitive)
    | none =>
      refine .other there free fun k mem => ?_
      rw [lookup_builtins.2 mem] at primitive
      cases primitive

/-- Every type has one Kotlin type. -/
theorem means_iff {t : TypeExpr} {k : Text} : Means customs t k ↔ k = t.kotlin customs := by
  constructor
  · intro h
    induction h with
    | nothing => rfl
    | custom there own =>
      rw [kotlin, kotlinName_of_ne there, customName?_eq_some_iff.2 own]
      rfl
    | builtin there free primitive =>
      rw [kotlin, kotlinName_of_ne there, customName?_eq_none_iff.2 free,
        lookup_builtins.2 primitive]
      rfl
    | @other name there free composite =>
      have missing : builtins.lookup name = none := by
        rw [Option.eq_none_iff_forall_ne_some]
        exact fun k found => composite k (lookup_builtins.1 found)
      rw [kotlin, kotlinName_of_ne there, customName?_eq_none_iff.2 free, missing]
      rfl
    | optional _ ih => rw [kotlin, ih]
    | list _ ih => rw [kotlin, ih]
  · rintro rfl
    induction t with
    | named name => exact means_kotlinName customs name
    | optional t ih => exact .optional ih
    | list t ih => exact .list ih

/-- The Kotlin type of a text is that of the type which the text writes. -/
theorem kotlinType_text [Stack] (s : Text) :
    kotlinType customs (.text s) =
      if (ofText s).depth ≤ deepest then .ok ((ofText s).kotlin customs) else .error .tooDeep := by
  by_cases empty : s = []
  · rw [empty, ofText_name (by decide)]
    exact (if_pos (show (named []).depth ≤ deepest from Stack.types_pos)).symm
  have filled : (Value.text s).isVacuous = false := by simpa [Value.isVacuous, Scalar.isVacuous]
  unfold kotlinType
  rw [if_neg (by simp [filled])]
  by_cases deep : deepest < (ofText s).depth
  · rw [if_neg (Nat.not_le.2 deep)]
    exact if_pos deep
  · rw [if_pos (Nat.le_of_not_lt deep)]
    exact if_neg deep

/-- The Kotlin type of a written type is put together from its parts, unless too many types stand
inside one another, and every text is a written type. -/
theorem kotlinType_written [Stack] (customs : List (Text × CustomType)) :
    (∀ t : TypeExpr, t.Formed → ∃ kotlin, (∀ k, Means customs t k ↔ k = kotlin) ∧
      kotlinType customs (.text t.written) =
        if t.depth ≤ deepest then .ok kotlin else .error .tooDeep) ∧
    ∀ s : Text, ∃! t : TypeExpr, t.Formed ∧ t.written = s := by
  refine ⟨fun t formed => ⟨t.kotlin customs, fun k => means_iff, ?_⟩, existsUnique_written⟩
  rw [kotlinType_text, ofText_written formed]

/-- An optional list of optional tags, where tags are a custom type. -/
theorem kotlinType_written_tags :
    (optional (.list (.optional (.named "tag")))).Formed ∧
      (optional (.list (.optional (.named "tag")))).written = "sequence<tag?>?" ∧
      Means [("tag", ⟨[], some "Tag", none, none⟩)]
        (.optional (.list (.optional (.named "tag")))) "List<Tag?>?" ∧
      kotlinType [("tag", ⟨[], some "Tag", none, none⟩)] (.text "sequence<tag?>?") =
        .ok "List<Tag?>?" := by
  have formed : (optional (.list (.optional (.named "tag")))).Formed :=
    .optional (.list (.optional (.named (by decide +kernel))))
  obtain ⟨kotlin, means, typed⟩ :=
    (kotlinType_written [("tag", ⟨[], some "Tag", none, none⟩)]).1 _ formed
  have there : ("tag" : Text) ≠ "" := by decide +kernel
  have own : Renames [("tag", ⟨[], some "Tag", none, none⟩)] "tag" "Tag" :=
    ⟨_, rfl, rfl, by decide +kernel⟩
  have same : Text.ofString "List<Tag?>?" = kotlin :=
    (means _).1 (.optional (.list (.optional (.custom there own))))
  refine ⟨formed, rfl, (means _).2 same, ?_⟩
  rw [same]
  exact typed

/-- A number of optional types inside one another. -/
def optionals : Nat → TypeExpr
  | 0 => .named "u8"
  | n + 1 => .optional (optionals n)

/-- Types with marks around a name are formed. -/
theorem formed_optionals (n : Nat) : (optionals n).Formed := by
  induction n with
  | zero => exact .named (by decide +kernel)
  | succ n ih => exact .optional ih

/-- They are written as the name with these marks. -/
theorem written_optionals (n : Nat) :
    (optionals n).written = "u8" ++ List.replicate n (CodePoint.char '?') := by
  induction n with
  | zero => rfl
  | succ n ih =>
    rw [optionals, written, ih, List.replicate_succ', ← List.append_assoc]
    rfl

/-- And one type stands inside another for each mark. -/
theorem depth_optionals (n : Nat) : (optionals n).depth = n + 1 := by
  induction n with
  | zero => rfl
  | succ n ih => rw [optionals, depth, ih]

/-- Two thousand optional types inside one another are written by a text that is too deep for a
Kotlin type. -/
theorem optionals_too_deep :
    (optionals 2000).Formed ∧
      (optionals 2000).written = "u8" ++ List.replicate 2000 (CodePoint.char '?') ∧
      kotlinType [] (.text ("u8" ++ List.replicate 2000 (CodePoint.char '?'))) =
        .error .tooDeep := by
  refine ⟨formed_optionals 2000, written_optionals 2000, ?_⟩
  rw [← written_optionals, kotlinType_text, ofText_written (formed_optionals 2000),
    depth_optionals]
  rfl

end Bindery.TypeExpr
