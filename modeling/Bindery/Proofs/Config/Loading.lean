import Bindery.Config.Document
import Bindery.Proofs.FileTree.Writing
import Bindery.Proofs.Toml.Reading
import Bindery.Proofs.Yaml.Building

/-!
# What loading a document ends with

A file that is there gives a document, or is refused with its name. What its bytes and its text can
be stopped by beside that is no refusal of the configuration: it is listed in `Document.Unrefused`,
and there is nothing else (`Document.load_ends`).
-/

namespace Bindery

open Outcome

/-- Why a text in a notation is not read. -/
def Notation.Trouble [Stack] : Notation → String → ReadProblem → Prop
  | .toml, _ => Toml.Trouble
  | .yaml, s => Yaml.Trouble s

namespace FileTree.Holds

variable {t : FileTree} {cwd p : Path} {bytes : ByteArray}

theorem isThere (h : t.Holds cwd p bytes) : t.isThere cwd p = .ok true := by
  unfold FileTree.isThere
  rw [h.1]
  dsimp only
  rw [kind?_eq_file.1 h.2]
  rfl

/-- A text that is there is read from its bytes. -/
theorem readText (h : t.Holds cwd p bytes) :
    t.readText cwd p = (textOf bytes).mapError Failure.fault := by
  unfold FileTree.readText
  rw [h.bytesOf]
  dsimp only
  cases textOf bytes <;> rfl

end FileTree.Holds

namespace Document

variable {host : Host} {tree : FileTree} {path p : Path} {content : ByteArray}

/-- The notation of a file: that of its ending, else TOML. -/
def notationOf (path : Path) : Notation := (Notation.ofEnding? path.ending).getD .toml

/-- What stops the loading of a file without refusing it. -/
inductive Unrefused [Stack] (host : Host) (path : Path) (content : ByteArray) : Fault → Prop where
  /-- The path starts with a home that there is not. -/
  | homeless {f : Fault} (lost : host.expand path = .error f) : Unrefused host path content f
  | undecodable {reason : Undecodable} (undecoded : Text.decode content = .error reason) :
      Unrefused host path content (.undecodable reason)
  | text {p : Path} {s : String} {f : Fault} (expands : host.expand path = .ok p)
      (decoded : FileTree.textOf content = .ok s)
      (trouble : (notationOf p).Trouble s (.fault f)) : Unrefused host path content f

/-- How the loading of a file ends. -/
inductive Loads [Stack] (host : Host) (path : Path) (content : ByteArray) :
    Except Failure Document → Prop
  | loaded (d : Document) : Loads host path content (.ok d)
  | malformed {p : Path} (expands : host.expand path = .ok p) :
      Loads host path content (.error (.config ⟨.malformed (notationOf p), some p.name⟩))
  | notATable {p : Path} (expands : host.expand path = .ok p) :
      Loads host path content (.error (.config ⟨.notATable, some p.name⟩))
  | unrefused {f : Fault} (stopped : Unrefused host path content f) :
      Loads host path content (.error (.fault f))

/-- What a notation cannot make a value of is in trouble there. -/
theorem valueOf_only [Stack] (written : Notation) (s : String) :
    Only (written.Trouble s) (valueOf written s) := by
  cases written with
  | toml => exact only_map (Toml.read_ends s).fails _
  | yaml => exact Yaml.read_only s

/-- A text that was decoded ends the loading as it does in its notation. -/
theorem ofText_loads [Stack] {s : String} (expands : host.expand path = .ok p)
    (decoded : FileTree.textOf content = .ok s) :
    Loads host path content (ofText (notationOf p) p.name s) := by
  unfold ofText
  split
  · exact .loaded empty
  · split
    · exact .malformed expands
    · rename_i f failed
      exact .unrefused (.text expands decoded (valueOf_only _ s _ failed))
    · exact .loaded empty
    · exact .loaded _
    · exact .notATable expands

/-- A regular file is loaded from the text that its bytes hold. -/
theorem load_eq [Stack] (expands : host.expand path = .ok p)
    (holds : tree.Holds host.cwd p content) : load host tree path =
      (FileTree.textOf content).mapError Failure.fault >>= ofText (notationOf p) p.name := by
  have lifted : (liftM (host.expand path) : Except Failure Path) = .ok p := fault_ok_iff.2 expands
  unfold load
  rw [lifted]
  dsimp only [bind, Except.bind]
  rw [holds.isThere, holds.readText]
  cases FileTree.textOf content <;> rfl

/-- A document is loaded from its text, where it has one. -/
theorem load_of_text [Stack] {s : String} (expands : host.expand path = .ok p)
    (holds : tree.Holds host.cwd p content) (decoded : FileTree.textOf content = .ok s) :
    load host tree path = ofText (notationOf p) p.name s := by
  rw [load_eq expands holds, decoded]
  rfl

/-- Loading a regular file gives a document, or the file is refused with its name, or it is stopped
by what is listed. -/
theorem load_ends [Stack] (holds : ∀ p, host.expand path = .ok p → tree.Holds host.cwd p content) :
    Loads host path content (load host tree path) := by
  cases expands : host.expand path with
  | error f =>
    unfold load
    rw [expands]
    exact .unrefused (.homeless expands)
  | ok p =>
    cases decoded : FileTree.textOf content with
    | ok s =>
      rw [load_of_text expands (holds p expands) decoded]
      exact ofText_loads expands decoded
    | error f =>
      rw [load_eq expands (holds p expands), decoded]
      unfold FileTree.textOf at decoded
      split at decoded
      · cases decoded
      · rename_i reason undecoded
        obtain rfl := Except.error.inj decoded
        exact .unrefused (.undecodable undecoded)

/-! ## What is loaded from a file in TOML -/

/-- A document of TOML holds only scalars that TOML has. -/
theorem ofText_over [Stack] {source : Text} {s : String} {d : Document}
    (read : ofText .toml source s = .ok d) : Table.Over Scalar.IsToml d := by
  unfold ofText at read
  split at read
  · obtain rfl := Except.ok.inj read
    exact .nil
  · have valued : ∀ v, valueOf .toml s = .ok v → ∃ t : Table, v = .table none t ∧
        t.Over Scalar.IsToml := by
      intro v hv
      obtain ⟨t, ht, rfl⟩ := map_ok_iff.1 hv
      exact ⟨_, rfl, ((Toml.read_ends s).finds t ht).marked⟩
    split at read
    · cases read
    · cases read
    · rename_i found
      obtain ⟨_, ⟨⟩, -⟩ := valued _ found
    · rename_i found
      obtain ⟨_, same, held⟩ := valued _ found
      cases same
      obtain rfl := Except.ok.inj read
      exact held
    · cases read

/-- A document that is loaded from a file in TOML is made of what TOML has. -/
theorem load_over [Stack] {d : Document}
    (toml : ∀ p, host.expand path = .ok p → notationOf p = .toml)
    (loaded : load host tree path = .ok d) : Table.Over Scalar.IsToml d := by
  obtain ⟨p, expands, loaded⟩ := bind_ok_iff.1 loaded
  have written := toml p (fault_ok_iff.1 expands)
  unfold notationOf at written
  rw [written] at loaded
  split at loaded
  · cases loaded
  · obtain rfl := Except.ok.inj loaded
    exact .nil
  · split at loaded
    · cases loaded
    · cases loaded
    · exact ofText_over loaded

/-! ## Files that are not refused -/

/-- A host where the top is everybody's home. -/
def topHost : Host where
  cwd := ⟨.root, []⟩
  home := ⟨.root, []⟩
  respond := fun _ _ => .notFound

/-- A text that names a type it cannot be read as. -/
def wordyContent : ByteArray := "flag: !!bool maybe\n".toUTF8

/-- Files of which one is no text, and one is `wordyContent`. -/
def oddFiles : FileTree := .dir [("uniffi.toml", .file ⟨#[0xff]⟩), ("m.yml", .file wordyContent)]

/-- The one file is a single byte that no text has. -/
theorem oddFiles_holds_bytes :
    oddFiles.Holds topHost.cwd ⟨.here, ["uniffi.toml"]⟩ ⟨#[0xff]⟩ :=
  ⟨by decide +kernel, by decide +kernel⟩

/-- The other holds a word that is no truth value. -/
theorem oddFiles_holds_wordy : oddFiles.Holds topHost.cwd ⟨.here, ["m.yml"]⟩ wordyContent :=
  ⟨by decide +kernel, by decide +kernel⟩

/-- Loading it ends with a fault. -/
theorem load_wordy :
    load topHost oddFiles ⟨.here, ["m.yml"]⟩ = .error (.fault .unknownWord) :=
  map_error_iff.1 (by decide +kernel : Except.map (fun _ => ()) _ = _)

/-- The file with the word is there, and what loading it ends with is none of the refusals. -/
theorem load_ends_wordy :
    (∀ p, topHost.expand ⟨.here, ["m.yml"]⟩ = .ok p → oddFiles.Holds topHost.cwd p wordyContent) ∧
      ∃ f, Unrefused topHost ⟨.here, ["m.yml"]⟩ wordyContent f ∧
        load topHost oddFiles ⟨.here, ["m.yml"]⟩ = .error (.fault f) := by
  have holds : ∀ p, topHost.expand ⟨.here, ["m.yml"]⟩ = .ok p →
      oddFiles.Holds topHost.cwd p wordyContent := by
    intro p expands
    obtain rfl := Except.ok.inj expands
    exact oddFiles_holds_wordy
  refine ⟨holds, .unknownWord, ?_, load_wordy⟩
  have ends := load_ends holds
  rw [load_wordy] at ends
  cases ends with
  | unrefused stopped => exact stopped

/-- Neither a document nor a refusal comes of a file that is no text, or names a type that its text
cannot be read as. -/
theorem odd_files_unrefused :
    oddFiles.Holds topHost.cwd ⟨.here, ["uniffi.toml"]⟩ ⟨#[0xff]⟩ ∧
      load topHost oddFiles ⟨.here, ["uniffi.toml"]⟩ =
        .error (.fault (.undecodable ⟨0xff, 0, 1, .startByte⟩)) ∧
      oddFiles.Holds topHost.cwd ⟨.here, ["m.yml"]⟩ wordyContent ∧
      load topHost oddFiles ⟨.here, ["m.yml"]⟩ = .error (.fault .unknownWord) :=
  ⟨oddFiles_holds_bytes, map_error_iff.1 (by decide +kernel : Except.map (fun _ => ()) _ = _),
    oddFiles_holds_wordy, load_wordy⟩

end Document

end Bindery
