import Bindery.Proofs.Build.SideBySide
import Bindery.Proofs.Config.Offences

/-!
# With what a build fails

A build of documents is refused for its configurations or for their number, or it stops at a
component, at a file, or over a call of the formatter that broke (`Failure.OfBuild`). Nothing else
can come of it (`Build.run_failsOnly`), whatever its components hold and however many of them are
emitted at once. A file or a call that stops it is one of an output that the build plans, and met
behind the start of the build (`World.Later`): calls are only ever added, so the one that broke is
among those that were made in the end (`Failure.OfBuild.mono`), and directories stay, so those that
were missing then were missing at the start (`World.Later.not_near`).
-/

namespace Bindery

open Outcome FileTree

/-! ## Later worlds -/

/-- A world and a later one: calls that were made were made, and directories are there still. -/
structure World.Later (w w' : World) : Prop where
  calls : w.calls <+: w'.calls
  dirs : ∀ place, w.tree.kind? place = some none → w'.tree.kind? place = some none

namespace World.Later

variable {w w' w'' : World}

theorem refl : w.Later w := ⟨List.prefix_rfl, fun _ h => h⟩

theorem trans (h : w.Later w') (h' : w'.Later w'') : w.Later w'' :=
  ⟨h.calls.trans h'.calls, fun place dir => h'.dirs place (h.dirs place dir)⟩

/-- What only touches files leads to a later world. -/
theorem of_keeps {touched : List (List Text)} (keeps : World.Keeps touched w w')
    (calls : w.calls <+: w'.calls) : w.Later w' := ⟨calls, keeps.tree.dirs⟩

theorem record (host : Host) (r : Record) (w : World) : w.Later (w.record host r) :=
  of_keeps (w.record_keeps host r) List.prefix_rfl

/-- Where too many directories are missing later on, too many were missing. -/
theorem not_near {cwd p : Path} {count : Nat} (h : w.Later w')
    (lacks : w'.tree.Lacks cwd p count) : ¬w.tree.Near cwd p count :=
  fun near => (near.of_dirs h.dirs).not_lacks lacks

end World.Later

namespace Writer

variable {host : Host} {writer : Writer} {o : Output} {w w' : World}

/-- An attempt to save an output leads to a later world, however it ends. -/
theorem save_later [Stack] {outcome : Except Failure Unit}
    (h : writer.save host o w = (outcome, w')) : w.Later w' := by
  rcases save_cases host writer o w with ⟨e, t, stored, saved⟩ | ⟨t, r, stored, saved⟩
  all_goals
    have dirs : ∀ place, w.tree.kind? place = some none →
        (w.tree.writeText host.cwd (writer.pathOf o) o.text).1.kind? place = some none :=
      (spreads_writeText o.text).dirs
    rw [stored] at dirs
    have later : w.Later { w with tree := t } := ⟨List.prefix_rfl, dirs⟩
    obtain ⟨-, rfl⟩ := Prod.mk.inj (h.symm.trans saved)
  · exact later
  · exact later.trans (.record host r _)

/-- And so does formatting a file. -/
theorem format_later {path : Path} {outcome : Except Failure FormatResult}
    (h : writer.format host path w = (outcome, w')) : w.Later w' := by
  obtain ⟨w₁, formatted, noted, made⟩ := format_noted host writer path w
  obtain ⟨-, rfl⟩ := Prod.mk.inj (h.symm.trans formatted)
  exact .of_keeps noted.keeps (made ▸ List.prefix_append _ _)

end Writer

/-! ## Ways to fail in a world -/

namespace Run

variable {α β : Type} {start : World} {P Q : World → Failure → Prop} {w w' : World}

/-- A computation that goes on to later worlds, when it is begun after the start, and fails in
certain ways only, in view of the world that it leaves. -/
def FailsOnly (start : World) (P : World → Failure → Prop) (x : Run α) : Prop :=
  ∀ w outcome w', start.Later w → x w = (outcome, w') →
    w.Later w' ∧ ∀ e, outcome = .error e → P w' e

theorem failsOnly_pure (a : α) : FailsOnly start P (pure a) := by
  rintro w outcome w' - ⟨⟩
  exact ⟨.refl, nofun⟩

theorem failsOnly_record (host : Host) (r : Record) : FailsOnly start P (Run.record host r) := by
  rintro w outcome w' - ⟨⟩
  exact ⟨.record host r w, nofun⟩

/-- Of two computations in a row each goes on, and the failure of either is judged by the world that
it leaves. -/
theorem failsOnly_bind_of {x : Run α} {f : α → Run β} (hx : FailsOnly start P x)
    (hf : ∀ a w w', x w = (.ok a, w') → FailsOnly start P (f a)) :
    FailsOnly start P (x >>= f) := by
  intro w outcome w' started h
  cases outcome with
  | ok b =>
    obtain ⟨a, w₁, first, last⟩ := bind_ok_iff.1 h
    have later := (hx w _ w₁ started first).1
    exact ⟨later.trans (hf a w w₁ first w₁ _ w' (started.trans later) last).1, nofun⟩
  | error e =>
    rcases bind_error_iff.1 h with failed | ⟨a, w₁, first, failed⟩
    · obtain ⟨later, fails⟩ := hx w _ w' started failed
      refine ⟨later, ?_⟩
      rintro _ ⟨⟩
      exact fails e rfl
    · have later := (hx w _ w₁ started first).1
      obtain ⟨more, fails⟩ := hf a w w₁ first w₁ _ w' (started.trans later) failed
      exact ⟨later.trans more, fails⟩

theorem failsOnly_bind {x : Run α} {f : α → Run β} (hx : FailsOnly start P x)
    (hf : ∀ a, FailsOnly start P (f a)) : FailsOnly start P (x >>= f) :=
  failsOnly_bind_of hx fun a _ _ _ => hf a

/-- What is no computation on worlds stays where it is, so its failures must do wherever that is. -/
theorem failsOnly_ofExcept {ε : Type} {wrap : ε → Failure} {x : Except ε α}
    (h : Only (fun e => ∀ w, P w (wrap e)) x) : FailsOnly start P (ofExcept wrap x) := by
  intro w outcome w' _ ended
  rw [ofExcept_eq] at ended
  obtain ⟨rfl, rfl⟩ := Prod.mk.inj ended
  refine ⟨.refl, fun e failed => ?_⟩
  obtain ⟨reason, hreason, rfl⟩ := mapError_error_iff.1 failed
  exact h reason hreason _

/-- A computation for each member of a list fails only as one of them does. -/
theorem failsOnly_mapM {f : α → Run β} {xs : List α} (hf : ∀ x ∈ xs, FailsOnly start P (f x)) :
    FailsOnly start P (xs.mapM f) := by
  induction xs with
  | nil => exact failsOnly_pure []
  | cons x xs ih =>
    obtain ⟨first, others⟩ := List.forall_mem_cons.1 hf
    rw [List.mapM_cons]
    exact failsOnly_bind first fun _ => failsOnly_bind (ih others) fun _ => failsOnly_pure _

/-- Renaming failures needs a renaming of what they are judged by. -/
theorem failsOnly_rethrow {x : Run α} {rename : Failure → Failure} (hx : FailsOnly start Q x)
    (renamed : ∀ w e, Q w e → P w (rename e)) :
    FailsOnly start P (tryCatch x fun e => throw (rename e)) := by
  intro w outcome w' started h
  cases outcome with
  | ok a => exact ⟨(hx w _ w' started (rethrow_ok h)).1, nofun⟩
  | error e =>
    obtain ⟨reason, failed, rfl⟩ := rethrow_error h
    obtain ⟨later, fails⟩ := hx w _ w' started failed
    refine ⟨later, ?_⟩
    rintro _ ⟨⟩
    exact renamed _ _ (fails reason rfl)

end Run

/-! ## Builds -/

open Run

/-- A failure that building documents can bring about in a world, begun at the start and with the
outputs of a plan. -/
inductive Failure.OfBuild [Stack] (host : Host) (writer : Writer) (plan : List Output)
    (start w : World) : Failure → Prop where
  | config (error : ConfigError) : OfBuild host writer plan start w (.config error)
  /-- The name of a custom type has no text. -/
  | textless : OfBuild host writer plan start w (.fault (.unconvertible .integerSize))
  | count (error : CountError) : OfBuild host writer plan start w (.count error)
  | build (error : BuildError) : OfBuild host writer plan start w (.build error)
  /-- An output is not stored. -/
  | file {o : Output} {v : World} {error : FileError} (planned : o ∈ plan)
      (reached : start.Later v)
      (unsaved : (v.tree.writeText host.cwd (writer.pathOf o) o.text).2 = .error error) :
      OfBuild host writer plan start w (.file error)
  /-- One of the calls that were made broke, the one for an output. -/
  | formatter {o : Output} {v : World} {after : List Formatter.Call} {f : Fault}
      (planned : o ∈ plan) (reached : start.Later v)
      (made : w.calls = v.calls ++ writer.callFor (writer.pathOf o) :: after)
      (broke : host.respond v.calls (writer.callFor (writer.pathOf o)) = .broken f) :
      OfBuild host writer plan start w (.fault f)

/-- A failure of a build stays one when more is done after it, as more calls are only added to those
that were made. -/
theorem Failure.OfBuild.mono [Stack] {host : Host} {writer : Writer} {plan : List Output}
    {start w w' : World} {e : Failure} (h : e.OfBuild host writer plan start w)
    (later : w.Later w') : e.OfBuild host writer plan start w' := by
  cases h with
  | config error => exact .config error
  | textless => exact .textless
  | count error => exact .count error
  | build error => exact .build error
  | file planned reached unsaved => exact .file planned reached unsaved
  | formatter planned reached made broke =>
    obtain ⟨rest, more⟩ := later.calls
    rw [made, List.append_assoc, List.cons_append] at more
    exact .formatter planned reached more.symm broke

namespace Build

variable {host : Host} {generator : Generator} {writer : Writer} {start : World}
variable {whole : List Output}

/-- Writing a planned output fails for its file, or for the formatter. -/
theorem write_output_failsOnly [Stack] (host : Host) (writer : Writer) {o : Output}
    (planned : o ∈ whole) :
    FailsOnly start
      (fun w e => (∃ error, e = .write error) ∨ e.OfBuild host writer whole start w)
      (writer.write host o) := by
  intro w outcome w' started h
  cases Writer.writes_of_write h with
  | unsaved failed =>
    refine ⟨Writer.save_later failed, ?_⟩
    rintro _ ⟨⟩
    obtain ⟨reason, rfl, stored, -⟩ := Writer.save_failed failed
    unfold Writer.failure
    split
    · exact .inl ⟨_, rfl⟩
    · exact .inr (.file planned started (congrArg Prod.snd stored))
  | plain saved => exact ⟨Writer.save_later saved, nofun⟩
  | formatted saved _ _ formatted _ =>
    exact ⟨(Writer.save_later saved).trans (Writer.format_later formatted), nofun⟩
  | broken saved breaks formatted made =>
    refine ⟨(Writer.save_later saved).trans (Writer.format_later formatted), ?_⟩
    rintro _ ⟨⟩
    obtain ⟨one, broke⟩ := breaks.broken
    rw [one] at made
    exact .inr (.formatter planned started made broke)

/-- Emitting one component fails only as a build does. -/
theorem emit_failsOnly [Stack] {c : Component} (sub : planned generator c ⊆ whole) :
    FailsOnly start (Failure.OfBuild host writer whole start) (emit host generator writer c) := by
  refine failsOnly_bind (failsOnly_record host _) fun _ => ?_
  refine failsOnly_bind_of (failsOnly_ofExcept fun error _ _ => .build error) ?_
  intro os w w' found
  rw [planned_of_ok (ofExcept_ok_iff.1 found).1] at sub
  refine failsOnly_bind ?_ fun _ =>
    failsOnly_bind (failsOnly_record host _) fun _ => failsOnly_pure _
  refine failsOnly_rethrow
    (failsOnly_mapM fun o ho => write_output_failsOnly host writer (sub ho)) ?_
  rintro w e (⟨error, rfl⟩ | failed)
  · exact .build _
  · cases failed with
    | config error => exact .config error
    | textless => exact .textless
    | count error => exact .count error
    | build error => exact .build error
    | file planned reached unsaved => exact .file planned reached unsaved
    | formatter planned reached made broke => exact .formatter planned reached made broke

/-- What became of components, each in view of the world in the end. -/
theorem attempts_failOnly [Stack] {components : List Component}
    {outcomes : List (Except Failure (List Written))} {w w' : World}
    (sub : ∀ c ∈ components, planned generator c ⊆ whole) (started : start.Later w)
    (h : components.mapM (attempt host generator writer) w = (.ok outcomes, w')) :
    w.Later w' ∧
      ∀ outcome ∈ outcomes, Only (Failure.OfBuild host writer whole start w') outcome := by
  induction components generalizing w outcomes with
  | nil =>
    obtain ⟨rfl, rfl⟩ := pure_ok_iff.1 h
    exact ⟨.refl, fun _ none => absurd none List.not_mem_nil⟩
  | cons c components ih =>
    obtain ⟨own, others⟩ := List.forall_mem_cons.1 sub
    obtain ⟨first, w₁, rest, hfirst, hrest, rfl⟩ := mapM_cons_ok_iff.1 h
    obtain ⟨ended, rfl⟩ := Prod.mk.inj hfirst
    obtain ⟨later, fails⟩ := emit_failsOnly own w _ _ started
      (show emit host generator writer c w = (_, _) from rfl)
    obtain ⟨more, rests⟩ := ih others (started.trans later) hrest
    refine ⟨later.trans more, List.forall_mem_cons.2 ⟨fun e failed => ?_, rests⟩⟩
    -- The calls of later components come after the one that broke.
    exact (fails e ((Except.ok.inj ended).trans failed)).mono more

/-- What is planned for one of some components is planned for all. -/
theorem planned_subset_plan {components : List Component} {c : Component} (hc : c ∈ components) :
    planned generator c ⊆ plan generator components := fun _ ho => mem_plan hc ho

/-- Emitting all components fails only as a build does, since each of them does. -/
theorem emitAll_failsOnly [Stack] (components : List Component) :
    FailsOnly start (Failure.OfBuild host writer (plan generator components) start)
      (emitAll host generator writer components) := by
  intro w outcome w' started h
  obtain ⟨outcomes, w₁, attempted, looked⟩ := attempts_of_emitAll h
  obtain ⟨later, fails⟩ := attempts_failOnly (fun _ hc => planned_subset_plan hc) started attempted
  have looks := mapM_of_looks (fun outcome => ofExcept_id outcome w₁) outcomes
  obtain ⟨rfl, rfl⟩ := Prod.mk.inj (looked.symm.trans looks)
  refine ⟨later, fun e failed => ?_⟩
  obtain ⟨outcome, member, ended⟩ := exists_of_mapM_error failed
  exact fails outcome member e ended

/-- Writing fails only as a build does, and for nothing else than emitting. -/
theorem write_failsOnly [Stack] (workers : Int) (components : List Component) :
    FailsOnly start (Failure.OfBuild host writer (plan generator components) start)
      (write host generator writer workers components) := by
  rw [write_eq]
  refine failsOnly_bind ?_ fun _ =>
    failsOnly_bind (failsOnly_record host _) fun _ => failsOnly_pure _
  split
  · exact emitAll_failsOnly components
  · exact failsOnly_mapM fun _ hc => emit_failsOnly (planned_subset_plan hc)

/-- Linking records and computes, and does not fail. -/
theorem link_failsOnly (host : Host) (cdylib : Option Text) (components : List Component)
    (P : World → Failure → Prop) : FailsOnly start P (link host cdylib components) := by
  intro w outcome w' _ h
  obtain ⟨r, linked⟩ := link_eq host cdylib components
  rw [linked] at h
  obtain ⟨rfl, rfl⟩ := Prod.mk.inj h
  exact ⟨.record host r w, nofun⟩

/-- Configurations that are refused are failures of a build, in every world. -/
theorem resolved_only [Stack] (force : Bool) (interfaces : List Interface)
    (documents : List Table) : Only (fun e => ∀ w, e.OfBuild host writer whole start w)
      (resolved force interfaces documents) := by
  unfold resolved
  split
  · exact only_error fun _ => .count _
  · refine only_mapM (fun x => ?_) _
    intro e h w
    rcases Config.resolve_error (resolve_of_component h) with ⟨error, rfl, -⟩ | rfl
    · exact .config error
    · exact .textless

/-- The outputs that a run plans: those of its components, once they are linked. -/
def runPlan (generator : Generator) (force : Bool) (cdylib : Option Text)
    (interfaces : List Interface) (documents : List Table) : List Output :=
  match resolved force interfaces documents with
  | .ok components => plan generator (Linking.link cdylib components).2
  | .error _ => []

/-- A build fails for its documents, for a component or a file, or over the formatter. -/
theorem run_failsOnly [Stack] (force : Bool) (settings : Settings) (workers : Int)
    (interfaces : List Interface) (documents : List Table) :
    FailsOnly start (Failure.OfBuild host settings.writer
        (runPlan generator force settings.cdylib interfaces documents) start)
      (run host generator force settings workers interfaces documents) := by
  rw [run_eq]
  refine failsOnly_bind_of (failsOnly_ofExcept (resolved_only force interfaces documents)) ?_
  intro components w w' found
  have planned : runPlan generator force settings.cdylib interfaces documents =
      plan generator (Linking.link settings.cdylib components).2 := by
    unfold runPlan
    rw [(ofExcept_ok_iff.1 found).1]
  refine failsOnly_bind_of (link_failsOnly host _ _ _) ?_
  intro components' w w' linked
  obtain ⟨r, links⟩ := link_eq host settings.cdylib components
  rw [links] at linked
  obtain rfl := Except.ok.inj (Prod.mk.inj linked).1
  rw [planned]
  exact write_failsOnly workers _

end Build

end Bindery
