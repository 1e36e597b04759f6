import Bindery.Proofs.Config.Alike
import Bindery.Proofs.Linking.Effect

/-!
# Keys of the tables of a configuration

No table of a configuration has a key twice: not when it is resolved from a document
(`Config.keyed_of_resolve`), and not after it was linked with others (`Linking.keyed_link`).
-/

namespace Bindery

open Outcome

/-- The tables of the configuration have every key once. -/
structure Config.Keyed (c : Config) : Prop where
  externalPackages : (c.externalPackages.map Prod.fst).Nodup
  customTypes : (c.customTypes.map Prod.fst).Nodup

namespace Config

variable {t : Table} {c : Config}

/-- A configuration described by a plain table has no key twice in its tables. -/
theorem Describes.keyed (h : Describes t c) (plain : t.Plain) : c.Keyed where
  externalPackages := by
    obtain ⟨given, hgiven, hxs⟩ := h.externalPackages
    rcases Table.gives_iff.1 hgiven with ⟨-, rfl⟩ | ⟨v, xs, hv, hx, rfl⟩
    · rw [← hxs]
      exact List.nodup_nil
    · obtain ⟨entries, hentries, read⟩ := Option.bind_eq_some_iff.1 hx
      rw [← hxs]
      refine ((plain.given? hv).of_table? hentries).named.nodup_texts ?_
      refine (mapM_some_iff.1 read).imp fun e x he => ?_
      rw [Reader.textEntry?_eq_some.1 he]
  customTypes := by
    obtain ⟨_, found, -, -, united⟩ := h.customTypes
    rw [← united]
    exact Assoc.nodup_ofPairs found

/-- What a plain document resolves to has every key once. -/
theorem keyed_of_resolve {d : Document} {force : Bool} {source : Option Text} (plain : d.Plain)
    (h : resolve d force source = .ok c) : c.Keyed := by
  simp only [resolve, bind_ok_iff, config_ok_iff, pure_ok_iff, ofTable_ok_iff] at h
  obtain ⟨selection, selected, own, described, rfl⟩ := h
  have keyed := described.keyed (select_plain selected plain)
  cases force with
  | false => exact keyed
  | true => exact ⟨keyed.externalPackages, keyed.customTypes⟩

end Config

/-- Linking adds only packages of crates that a component has no package of. -/
theorem Component.keyed_withPackages {c : Component} (keyed : c.config.Keyed)
    (packages : List (Text × Text)) : (c.withPackages packages).config.Keyed where
  externalPackages :=
    Assoc.distinct_iff_nodup.1
      (Assoc.distinct_union (Assoc.distinct_iff_nodup.2 keyed.externalPackages) _)
  customTypes := keyed.customTypes

/-- And linking adds no key twice. -/
theorem Linking.keyed_link {cdylib : Option Text} {components : List Component}
    (keyed : ∀ c ∈ components, c.config.Keyed) :
    ∀ c ∈ (link cdylib components).2, c.config.Keyed := by
  intro c hc
  obtain ⟨named, hnamed, rfl⟩ := List.mem_map.1 hc
  obtain ⟨own, hown, rfl⟩ := List.mem_map.1 hnamed
  have names : (own.withNames cdylib).config.Keyed :=
    ⟨(keyed own hown).externalPackages, (keyed own hown).customTypes⟩
  exact Component.keyed_withPackages names _

end Bindery
