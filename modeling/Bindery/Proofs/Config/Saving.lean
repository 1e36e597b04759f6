import Bindery.Proofs.Config.Visible
import Bindery.Proofs.FileTree.Making
import Bindery.Proofs.Value.Alike

/-!
# What is saved is loaded

A document that is saved in a file is what is loaded from it (`Document.load_save`), provided that
the reader of its notation undoes the writer (`Notation.Undoes`) and that the path names the file as
it stands, without a home in front. The file is UTF-8, so the text must have no surrogate.
-/

namespace Bindery

open Outcome

namespace Text

/-- Different strings are different texts. -/
theorem ofString_injective : Function.Injective ofString := by
  intro s t h
  have same := congrArg characters h
  rw [ofString, ofString, characters_ofChars, characters_ofChars] at same
  exact String.toList_inj.1 same

/-- A string is encoded as its bytes. -/
theorem encode_ofString (s : String) : encode (ofString s) = .ok s.toUTF8 := by
  have clean : surrogatesWhere (fun _ => true) (ofString s) = none := by
    rw [surrogatesWhere_eq_none_iff]
    intro c hc
    obtain ⟨x, -, rfl⟩ := List.mem_map.1 hc
    rfl
  unfold encode
  rw [clean, ofString, characters_ofChars, String.ofList_toList]

/-- A text without carriage returns is read as it stands. -/
theorem unifyLineEnds_eq {cs : List Char} (clean : '\r' ∉ cs) : unifyLineEnds cs = cs := by
  fun_induction unifyLineEnds cs with
  | case1 => rfl
  | case2 rest _ => simp at clean
  | case3 rest _ _ => simp at clean
  | case4 c rest _ _ ih => rw [ih fun h => clean (List.mem_cons_of_mem _ h)]

end Text

namespace FileTree

variable {t t' : FileTree} {cwd p : Path} {s : String}

/-- A text of characters that was written is there, and is what is read. -/
theorem readText_writeText [Stack] (h : t.writeText cwd p (Text.ofString s) = (t', .ok ()))
    (clean : '\r' ∉ s.toList) : t'.isThere cwd p = .ok true ∧ t'.readText cwd p = .ok s := by
  obtain ⟨bytes, hbytes, holds, -⟩ := writeText_ok h
  rw [Text.encode_ofString] at hbytes
  obtain rfl := Except.ok.inj hbytes
  constructor
  · unfold isThere
    rw [holds.1]
    dsimp only
    rw [kind?_eq_file.1 holds.2]
    rfl
  · have text : textOf s.toUTF8 = .ok s := by
      unfold textOf
      rw [Text.decode_toUTF8]
      dsimp only
      rw [Text.unifyLineEnds_eq clean, String.ofList_toList]
    unfold readText
    rw [holds.bytesOf]
    dsimp only
    rw [text]

end FileTree

/-- The reader of a notation undoes its writer on a document: from what is written, which has no
carriage return, the document is read, if maybe with its entries in another order. -/
structure Notation.Undoes [Stack] (written : Notation) (d : Document) : Prop where
  clean : ∀ source s, d.toText written source = .ok (Text.ofString s) → '\r' ∉ s.toList
  read : ∀ source s, d.toText written source = .ok (Text.ofString s) →
    ∃ v, Document.valueOf written s = .ok v ∧ (Value.table none d).Alike v

namespace Document

variable {host : Host} {tree : FileTree} {path : Path} {written : Notation} {s : String}
variable {d : Document}

/-- A document that holds something is read from its text. -/
theorem ofText_toText [Stack] {source : Text}
    (dumped : d.toText written source = .ok (Text.ofString s))
    (undone : written.Undoes d) (full : d ≠ []) (source' : Text) :
    ∃ d', ofText written source' s = .ok d' ∧ d.Alike d' := by
  obtain ⟨v, hv, alike⟩ := undone.read source s dumped
  have visible := visible_toText dumped full
  unfold ofText
  rw [visible.isAllBlank_eq, hv]
  obtain ⟨mark, d', rfl, same⟩ := alike.exists_table
  exact ⟨d', rfl, same⟩

/-- A document that is saved where a file can be written is what is loaded from there. -/
theorem load_save [Stack] (ending : Notation.ofEnding? path.ending = some written)
    (home : host.expand path = .ok path)
    (writable : (tree.writeText host.cwd path []).2 = .ok ())
    (dumped : d.toText written path.name = .ok (Text.ofString s))
    (undone : written.Undoes d) (full : d ≠ []) :
    ∃ tree' d', save host d path tree = (tree', .ok ()) ∧ load host tree' path = .ok d' ∧
      d.Alike d' := by
  obtain ⟨tree', saved⟩ :=
    FileTree.writeText_of_writable writable (Text.encode_ofString s)
  obtain ⟨there, read⟩ := FileTree.readText_writeText saved (undone.clean _ s dumped)
  obtain ⟨d', hd', alike⟩ := ofText_toText dumped undone full path.name
  refine ⟨tree', d', ?_, ?_, alike⟩
  · unfold save textFor
    rw [ending]
    dsimp only
    rw [dumped]
    dsimp only
    rw [saved]
    rfl
  · unfold load
    refine bind_ok_iff.2 ⟨path, fault_ok_iff.2 home, ?_⟩
    rw [there, read, ending]
    exact hd'

end Document

end Bindery
