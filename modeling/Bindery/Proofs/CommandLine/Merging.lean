import Bindery.CommandLine.Run
import Bindery.Proofs.Build.Refusing
import Bindery.Proofs.Merge.Harvesting

/-!
# What is told of merging

Until it saves what it merged, the merging command changes nothing but what is recorded
(`Run.Quiet`). What it finds in other configurations is what is harvested from the documents in them
(`CommandLine.harvestOf_eq`). It tells of a refusal of a configuration, and of nothing else:
whatever stops it in another way, from the documents that it loads to the file that it saves, is
listed (`CommandLine.MergeEscapes`).
-/

namespace Bindery

open Outcome FileTree

/-! ## Computations that leave a world alike -/

namespace Run

variable {α β : Type} {P : Failure → Prop} {w₀ : World}

/-- A computation that changes nothing but what is recorded and fails in certain ways only, when it
is begun in a world that is alike a given one. -/
def Quiet (w₀ : World) (P : Failure → Prop) (x : Run α) : Prop :=
  ∀ w, w₀.Alike w → w₀.Alike (x w).2 ∧ ∀ e, (x w).1 = .error e → P e

theorem quiet_pure (a : α) : Quiet w₀ P (pure a) := fun _ alike => ⟨alike, nofun⟩

/-- Computations in a row are quiet when the first is, and the second after whatever the first
gave. -/
theorem quiet_bind_of {x : Run α} {f : α → Run β} (hx : Quiet w₀ P x)
    (hf : ∀ a w w', w₀.Alike w → x w = (.ok a, w') → Quiet w₀ P (f a)) :
    Quiet w₀ P (x >>= f) := by
  intro w alike
  obtain ⟨after, fails⟩ := hx w alike
  cases h : x w with
  | mk outcome w₁ =>
    rw [h] at after fails
    cases outcome with
    | ok a =>
      rw [bind_of_ok h]
      exact hf a w w₁ alike h w₁ after
    | error e =>
      rw [bind_of_error h]
      refine ⟨after, ?_⟩
      rintro _ ⟨⟩
      exact fails e rfl

theorem quiet_bind {x : Run α} {f : α → Run β} (hx : Quiet w₀ P x) (hf : ∀ a, Quiet w₀ P (f a)) :
    Quiet w₀ P (x >>= f) :=
  quiet_bind_of hx fun a _ _ _ _ => hf a

theorem quiet_map {x : Run α} (g : α → β) (hx : Quiet w₀ P x) : Quiet w₀ P (g <$> x) :=
  quiet_bind hx fun a => quiet_pure (g a)

/-- What looks at a world without changing it is quiet when it fails in the ways that are asked
for. -/
theorem quiet_of_eq {x : Run α} {outcome : World → Except Failure α}
    (h : ∀ w, x w = (outcome w, w)) (fails : ∀ w, w₀.Alike w → Only P (outcome w)) :
    Quiet w₀ P x := by
  intro w alike
  rw [h w]
  exact ⟨alike, fun e => fails w alike e⟩

theorem quiet_throw {e : Failure} (h : P e) : Quiet w₀ P (throw e : Run α) :=
  quiet_of_eq (fun _ => rfl) fun _ _ => only_error h

/-- What is no computation on worlds is quiet when its refusals are as asked for. -/
theorem quiet_ofExcept {ε : Type} {wrap : ε → Failure} {x : Except ε α}
    (fails : ∀ reason, x = .error reason → P (wrap reason)) : Quiet w₀ P (ofExcept wrap x) := by
  cases x with
  | ok a => exact quiet_pure a
  | error reason => exact quiet_throw (fails reason rfl)

/-- Recording is quiet, whatever failures are asked for. -/
theorem quiet_record (host : Host) (r : Record) : Quiet w₀ P (Run.record host r) :=
  fun w alike => ⟨alike.trans (.record host r w), nofun⟩

/-- Going through a list is quiet when every step is. -/
theorem quiet_foldlM {f : β → α → Run β} {xs : List α} (hf : ∀ b, ∀ x ∈ xs, Quiet w₀ P (f b x))
    (b : β) : Quiet w₀ P (xs.foldlM f b) := by
  induction xs generalizing b with
  | nil => exact quiet_pure b
  | cons x xs ih =>
    rw [List.foldlM_cons]
    refine quiet_bind (hf b x (.head _)) fun b' => ih (fun b x hx => hf b x (.tail _ hx)) b'

/-- A fold whose steps come to what another fold's steps come to, and change nothing but what is
recorded. -/
theorem foldlM_of_alike {f : β → α → Run β} {g : β → α → Except Failure β} {xs : List α}
    (steps : ∀ w, w₀.Alike w → ∀ b, ∀ x ∈ xs, ∃ w', f b x w = (g b x, w') ∧ w₀.Alike w')
    (b : β) {w : World} (alike : w₀.Alike w) :
    ∃ w', xs.foldlM f b w = (xs.foldlM g b, w') ∧ w₀.Alike w' := by
  induction xs generalizing b w with
  | nil => exact ⟨w, rfl, alike⟩
  | cons x xs ih =>
    obtain ⟨w₁, first, alike₁⟩ := steps w alike b x (.head _)
    rw [List.foldlM_cons, List.foldlM_cons]
    cases h : g b x with
    | error e =>
      rw [h] at first
      exact ⟨w₁, bind_of_error first, alike₁⟩
    | ok b' =>
      rw [h] at first
      rw [bind_of_ok first]
      exact ih (fun w alike b x hx => steps w alike b x (.tail _ hx)) b' alike₁

end Run

/-! ## Merging documents -/

open Run

namespace Merge

variable {own : Table} {s : Supplied} {w₀ : World} {P : Failure → Prop}

/-- What a document holds and what is supplied cannot be put together. -/
inductive Clashes (own : Table) (s : Supplied) : Fault → Prop where
  | list {e : Text × Option Value} {f : Fault} (listed : e ∈ s.lists)
      (clash : mergeList (own.given? e.1) e.2 = .error f) : Clashes own s f
  | customTypes {f : Fault}
      (clash : mergeTable (own.given? "custom_types") s.customTypes = .error f) : Clashes own s f
  | packages {found : Option Packages} {f : Fault}
      (clash : mergeTable (own.given? "external_packages")
        (found.map fun found => .table none (packageTable found)) = .error f) : Clashes own s f
  | version {f : Fault} (clash : s.version? = .error f) : Clashes own s f

/-- Lists that are merged fail only where they clash. -/
theorem lists_only (own : Table) (s : Supplied) : Only (Clashes own s) (lists own s) := by
  intro f h
  obtain ⟨e, member, failed⟩ := exists_of_mapM_error h
  have parts : Only (Clashes own s) (do
      return (e.1, (← mergeList (own.given? e.1) e.2).map (Value.list none))) :=
    only_bind (fun f clash => .list member clash) fun _ => only_pure _
  exact parts f failed

/-- What is combined fails with its fault. -/
theorem quiet_combined {α : Type} {x : Except Fault α}
    (fails : ∀ f, x = .error f → P (.fault f)) : Quiet w₀ P (combined x : Run α) := by
  cases x with
  | ok a => exact quiet_pure a
  | error f => exact quiet_throw (fails f rfl)

/-- Settings are merged quietly when their clashes are foreseen, and what is found elsewhere is
found quietly. -/
theorem quiet_settings {harvest : Option (Run Packages)}
    (clash : ∀ f, Clashes own s f → P (.fault f))
    (found : ∀ x, harvest = some x → Quiet w₀ P x) : Quiet w₀ P (settings own s harvest) := by
  refine quiet_bind (quiet_combined fun f h => clash f (lists_only own s f h)) fun _ => ?_
  refine quiet_bind (quiet_combined fun f h => clash f (.customTypes h)) fun _ => ?_
  have rest (harvested : Option Packages) (finish : Option Table → Option Value → Table) :
      Quiet w₀ P (do
        let packages ← combined (mergeTable (own.given? "external_packages")
          (harvested.map fun found => .table none (packageTable found)))
        let version ← combined s.version?
        return finish packages version) := by
    refine quiet_bind (quiet_combined fun f h => clash f (.packages h)) fun _ => ?_
    exact quiet_bind (quiet_combined fun f h => clash f (.version h)) fun _ => quiet_pure _
  cases harvest with
  | none => exact quiet_bind (quiet_pure none) fun harvested => rest harvested _
  | some x => exact quiet_bind (quiet_map some (found x rfl)) fun harvested => rest harvested _

end Merge

/-! ## The merging command -/

namespace CommandLine

variable {host : Host} {w w' : World} {e : Failure}

/-- The document that a merged one starts from. -/
def BaseOf [Stack] (host : Host) (args : MergeArguments) (w : World) (base : Option Document) :
    Prop :=
  args.config.mapM (Document.loadWanted host w.tree) = .ok base

/-- Merging comes to a document, and leaves a world in which only records are new. -/
def Merges [Stack] (host : Host) (args : MergeArguments) (w : World) (d : Document) (w' : World) :
    Prop :=
  ∃ base, BaseOf host args w base ∧
    Merge.merge base args.supplied (harvestOf host args) w = (.ok d, w')

/-- What ends a merging command that nothing is told of. -/
inductive MergeEscapes [Stack] (host : Host) (args : MergeArguments) (w : World) :
    Failure → Prop where
  | document {file : Path.Wanted} {tree : FileTree} {e : Failure}
      (named : file ∈ args.config.toList ++ args.externalConfigs)
      (alike : SameBut w.log.file w.tree tree)
      (unread : Document.loadWanted host tree file = .error e)
      (other : ∀ error, e ≠ .config error) : MergeEscapes host args w e
  | packages {file : Path.Wanted} {tree : FileTree} {d : Document} {f : Fault}
      (named : file ∈ args.externalConfigs) (alike : SameBut w.log.file w.tree tree)
      (read : Document.loadWanted host tree file = .ok d)
      (untold : Merge.contribution d = .error f) : MergeEscapes host args w (.fault f)
  | clash {base : Option Document} {selection : Selection} {f : Fault}
      (based : BaseOf host args w base)
      (selected : select (base.getD Document.empty) none = .ok selection)
      (clash : Merge.Clashes selection.table args.supplied f) : MergeEscapes host args w (.fault f)
  | output {f : Fault} (nowhere : args.output = .error f) : MergeEscapes host args w (.fault f)
  | text {d : Document} {w' : World} {path : Path} {e : Failure} (merged : Merges host args w d w')
      (named : args.output = .ok path) (unwritten : d.textFor path = .error e)
      (other : ∀ error, e ≠ .config error) : MergeEscapes host args w e
  | file {d : Document} {w' : World} {path : Path} {text : Text} {error : FileError}
      (merged : Merges host args w d w') (named : args.output = .ok path)
      (written : d.textFor path = .ok text)
      (unsaved : (w'.tree.writeText host.cwd path text).2 = .error error) :
      MergeEscapes host args w (.file error)

/-- A refusal of a configuration, or what escapes of merging. -/
def Foreseen [Stack] (host : Host) (args : MergeArguments) (w : World) (e : Failure) : Prop :=
  (∃ error, e = .config error) ∨ MergeEscapes host args w e

/-- A failure is foreseen when it escapes unless it is a refusal of a configuration. -/
theorem foreseen_of [Stack] {args : MergeArguments}
    (escapes : (∀ error, e ≠ .config error) → MergeEscapes host args w e) :
    Foreseen host args w e := by
  by_cases refused : ∃ error, e = .config error
  · exact .inl refused
  · exact .inr (escapes fun error h => refused ⟨error, h⟩)

/-- Loading a document in a merge records nothing, and fails as it does in any world alike. -/
theorem quiet_loadDocument [Stack] {w₀ : World} {P : Failure → Prop} {file : Path.Wanted}
    (fails : ∀ w, w₀.Alike w → Only P (Document.loadWanted host w.tree file)) :
    Quiet w₀ P (loadDocument host file) :=
  quiet_of_eq (Document.load_looks host file) fails

/-- What is found in other configurations is what is harvested from the documents in them, when
these do not change while it is recorded which of them are skipped. -/
theorem harvestOf_eq [Stack] {args : MergeArguments} {x : Run Merge.Packages}
    (h : harvestOf host args = some x)
    (steady : ∀ w', w.Alike w' → ∀ file ∈ args.externalConfigs,
      Document.loadWanted host w'.tree file = Document.loadWanted host w.tree file) :
    ∃ w', x w = (Merge.harvested (Document.loadWanted host w.tree) args.externalConfigs, w') ∧
      w.Alike w' := by
  unfold harvestOf at h
  split at h
  · cases h
  · obtain rfl := Option.some.inj h
    refine foldlM_of_alike (fun v alike found file named => ?_) [] (.refl w)
    have loads : loadDocument host file v = (Document.loadWanted host w.tree file, v) :=
      (Document.load_looks host file v).trans (by rw [steady v alike file named])
    cases loaded : Document.loadWanted host w.tree file with
    | error e =>
      rw [loaded] at loads
      exact ⟨v, bind_of_error loads, alike⟩
    | ok d =>
      rw [loaded] at loads
      rw [bind_of_ok loads]
      change ∃ v', _ = (Merge.combined (Merge.contribution d) >>= _, v') ∧ _
      cases Merge.contribution d with
      | error f => exact ⟨v, rfl, alike⟩
      | ok told =>
        cases told with
        | some told => exact ⟨v, rfl, alike⟩
        | none =>
          obtain ⟨path, rfl⟩ : ∃ path, file = .ok path := by
            cases file with
            | error f => cases loaded
            | ok path => exact ⟨path, rfl⟩
          exact ⟨_, rfl, alike.trans (.record host _ v)⟩

/-- Finding the packages of other components changes nothing but what is recorded. -/
theorem quiet_harvest [Stack] (host : Host) (args : MergeArguments) (w : World)
    {x : Run Merge.Packages}
    (h : harvestOf host args = some x) : Quiet w (Foreseen host args w) x := by
  unfold harvestOf at h
  split at h
  · cases h
  · obtain rfl := Option.some.inj h
    refine quiet_foldlM (fun found file named => ?_) []
    have listed : file ∈ args.config.toList ++ args.externalConfigs :=
      List.mem_append_right _ named
    refine quiet_bind_of (quiet_loadDocument fun w₁ alike e unread =>
      foreseen_of (.document listed alike.tree unread)) fun d w₁ w₂ alike loaded => ?_
    have read : Document.loadWanted host w₁.tree file = .ok d :=
      (Prod.mk.inj ((Document.load_looks host file w₁).symm.trans loaded)).1
    refine quiet_bind (Merge.quiet_combined fun f untold =>
      .inr (.packages named alike.tree read untold)) fun told => ?_
    cases told with
    | some told => exact quiet_pure _
    | none =>
      refine quiet_bind (quiet_bind (quiet_ofExcept fun f nowhere => ?_) fun _ =>
        quiet_record host _) fun _ => quiet_pure found
      rw [nowhere] at listed
      exact .inr (.document listed (SameBut.refl w.tree) rfl nofun)

/-- A merge is quiet: whatever it fails with is foreseen. -/
theorem quiet_merge [Stack] {args : MergeArguments} {base : Option Document}
    (based : BaseOf host args w base) :
    Quiet w (Foreseen host args w) (Merge.merge base args.supplied (harvestOf host args)) := by
  unfold Merge.merge
  dsimp only
  split
  · exact quiet_throw (.inl ⟨_, rfl⟩)
  · rename_i selection selected
    refine quiet_bind (Merge.quiet_settings (fun f clash => .inr (.clash based selected clash)) ?_)
      fun _ => quiet_pure _
    exact fun x h => quiet_harvest host args w h

/-- Saving fails for the text of a document or for the file. -/
theorem foreseen_of_save [Stack] {args : MergeArguments} {d : Document} {path : Path}
    (merged : Merges host args w d w') (named : args.output = .ok path)
    (unsaved : (d.save host path w'.tree).2 = .error e) : Foreseen host args w e := by
  unfold Document.save at unsaved
  split at unsaved
  · rename_i e' unwritten
    obtain rfl := Except.error.inj unsaved
    exact foreseen_of (.text merged named unwritten)
  · rename_i text written
    cases stored : (w'.tree.writeText host.cwd path text).2 with
    | ok _ =>
      dsimp only at unsaved
      rw [stored] at unsaved
      cases unsaved
    | error error =>
      dsimp only at unsaved
      rw [stored] at unsaved
      obtain rfl := Except.error.inj unsaved
      exact .inr (.file merged named written stored)

/-- Merging fails for a refusal of a configuration, or for something that escapes. -/
theorem mergeAndSave_error [Stack] {args : MergeArguments}
    (h : mergeAndSave host args w = (.error e, w')) : Foreseen host args w e := by
  have loads := optionMapM_of_looks (fun file => Document.load_looks host file w) args.config
  rcases bind_error_iff.1 h with h | ⟨base, w₁, loaded, h⟩
  · obtain ⟨unread, -⟩ := Prod.mk.inj (loads.symm.trans h)
    obtain ⟨file, named, failed⟩ := optionMapM_error_iff.1 unread
    exact foreseen_of (.document (by simp [named]) (.refl w.tree) failed)
  · obtain ⟨based, rfl⟩ := Prod.mk.inj (loads.symm.trans loaded)
    have quiet := quiet_merge based w (.refl w)
    rcases bind_error_iff.1 h with h | ⟨d, w₂, merged, h⟩
    · rw [h] at quiet
      exact quiet.2 e rfl
    · rw [merged] at quiet
      rcases bind_error_iff.1 h with h | ⟨path, w₃, wanted, h⟩
      · obtain ⟨f, nowhere, rfl, -⟩ := ofExcept_error_iff.1 h
        exact .inr (.output nowhere)
      · obtain ⟨named, rfl⟩ := ofExcept_ok_iff.1 wanted
        have saves : (Run.ofExcept id (d.save host path w₂.tree).2 >>= fun _ => pure path)
            { w₂ with tree := (d.save host path w₂.tree).1 } = (.error e, w') := h
        rcases bind_error_iff.1 saves with h | ⟨_, w₃, -, h⟩
        · obtain ⟨_, unsaved, rfl, -⟩ := ofExcept_error_iff.1 h
          exact foreseen_of_save ⟨base, based, merged⟩ named unsaved
        · cases h

end CommandLine

end Bindery
