import Bindery.Config.Save
import Bindery.Proofs.Outcome

/-!
# What is saved is not blank

A blank file counts as the empty document, so a document that holds something must not have a blank
text. In TOML a plain entry has an equals sign and every header a bracket; a table without either
holds nothing but tables, and the first of these is no blank text in turn (`Toml.visible_tables`).
In YAML the pen never takes anything back (`Pen.Grows`), and each entry has a colon.
-/

namespace Bindery

open Outcome

/-! ## Visible characters -/

/-- A character of the text is not blank. -/
def Text.Visible (s : Text) : Prop := ∃ c ∈ s, c.is Text.isBlank = false

namespace Text.Visible

variable {s t : Text}

/-- A visible text is not blank. -/
theorem isAllBlank_eq (h : Visible s) : isAllBlank s = false := by
  obtain ⟨c, hc, visible⟩ := h
  exact List.all_eq_false.2 ⟨c, hc, by simp [visible]⟩

theorem of_subset (h : Visible s) (sub : s ⊆ t) : Visible t := by
  obtain ⟨c, hc, visible⟩ := h
  exact ⟨c, sub hc, visible⟩

theorem append_left (h : Visible s) (t : Text) : Visible (s ++ t) :=
  h.of_subset (List.subset_append_left _ _)

theorem append_right (h : Visible t) (s : Text) : Visible (s ++ t) :=
  h.of_subset (List.subset_append_right _ _)

/-- A part that is visible is so among others. -/
theorem joined {parts : List Text} (h : Visible s) (mem : s ∈ parts) (sep : Text) :
    Visible (Text.joined sep parts) := by
  refine h.of_subset fun c hc => ?_
  unfold Text.joined
  induction parts with
  | nil => cases mem
  | cons part parts ih =>
    cases parts with
    | nil =>
      obtain rfl := List.mem_singleton.1 mem
      simpa using hc
    | cons part' parts =>
      rw [List.intercalate_cons_cons]
      rcases List.mem_cons.1 mem with rfl | mem
      · exact List.mem_append_left _ (List.mem_append_left _ hc)
      · exact List.mem_append_right _ (ih mem)

end Text.Visible

/-! ## TOML -/

namespace Toml

/-- A text was written. -/
def Writes {α : Type} (x : Written α) (a : α) : Prop := x.run = .ok (.ok a)

section Writes

variable {α β : Type}

/-- Writers in a row write what the second one writes after what the first one wrote. -/
theorem writes_bind {x : Written α} {f : α → Written β} {b : β} :
    Writes (x >>= f) b ↔ ∃ a, Writes x a ∧ Writes (f a) b := by
  unfold Writes
  rw [ExceptT.run_bind, bind_ok_iff]
  constructor
  · rintro ⟨outcome, hx, hf⟩
    cases outcome with
    | ok a => exact ⟨a, hx, hf⟩
    | error e => cases hf
  · rintro ⟨a, hx, hf⟩
    exact ⟨.ok a, hx, hf⟩

theorem writes_pure {a b : α} : Writes (pure a) b ↔ a = b := by
  simp [Writes, pure, ExceptT.pure, ExceptT.mk, ExceptT.run, Except.pure]

theorem writes_throw {e : Problem} {a : α} : ¬Writes (throw e : Written α) a := by
  intro h
  cases h

/-- A writer writes one thing only. -/
theorem writes_unique {x : Written α} {a b : α} (h : Writes x a) (h' : Writes x b) : a = b :=
  Except.ok.inj (Except.ok.inj (h.symm.trans h'))

theorem writes_lift {x : Except Fault α} {a : α} : Writes (liftM x : Written α) a ↔ x = .ok a := by
  cases x with
  | ok b => exact writes_pure.trans ⟨congrArg _, Except.ok.inj⟩
  | error f => exact ⟨nofun, nofun⟩

end Writes

/-- The text of a key is not empty. -/
theorem keyText_ne_nil {k : Value} {s : Text} (h : Writes (keyText k) s) : s ≠ [] := by
  unfold keyText at h
  split at h
  · rw [writes_pure] at h
    rw [← h, textKey]
    split
    · rename_i bare
      rintro rfl
      simp at bare
    · exact List.append_ne_nil_of_right_ne_nil _ (List.cons_ne_nil _ _)
  · exact absurd h writes_throw
  · split at h
    · rw [writes_lift, Value.literal, Value.literalIn] at h
      split at h
      · obtain rfl := pure_ok_iff.1 h
        exact List.cons_ne_nil _ _
      · obtain ⟨first, -, h⟩ := bind_ok_iff.1 h
        obtain ⟨second, -, h⟩ := bind_ok_iff.1 h
        obtain rfl := pure_ok_iff.1 h
        exact List.append_ne_nil_of_right_ne_nil _ (List.cons_ne_nil _ _)
    · exact absurd h writes_throw
  · obtain ⟨_, -, h⟩ := writes_bind.1 h
    exact absurd h writes_throw

/-- A key below another one is not empty. -/
theorem pathText_ne_nil {header key : Text} (h : key ≠ []) : pathText header key ≠ [] := by
  unfold pathText
  split
  · exact h
  · exact List.append_ne_nil_of_right_ne_nil _ h

/-- The line above a table can be seen. -/
theorem visible_headerLine (header : Text) (inList : Bool) :
    Text.Visible (headerLine header inList) := by
  unfold headerLine
  split
  · exact ⟨.char '[', List.mem_cons_self, by decide⟩
  · exact ⟨.char '[', List.mem_cons_self, by decide⟩

section Tables

variable {weight : Nat} {header s : Text} {inList : Bool} {t : Table} {mark : Mark}

/-- A plain entry has an equals sign. -/
theorem visible_plainLines [Stack] {k v : Value} {rest : Table}
    (plain : Writes (isHeaded weight v) false)
    (h : Writes (plainLines weight ((k, v) :: rest)) s) : Text.Visible s := by
  rw [plainLines] at h
  obtain ⟨isHeaded, hheaded, h⟩ := writes_bind.1 h
  obtain rfl := writes_unique plain hheaded
  obtain ⟨key, -, h⟩ := writes_bind.1 h
  obtain ⟨text, -, h⟩ := writes_bind.1 h
  obtain ⟨lines, -, h⟩ := writes_bind.1 h
  obtain rfl := writes_pure.1 h
  refine ⟨.char '=', ?_, by decide⟩
  simp [Text.ofString, Text.ofChars]

/-- What stands before the subtables of a table is visible where the table is one of a list, where
it is empty and has a name, and where its first entry has no header. -/
theorem visible_opening [Stack] {front : List Text}
    (h : Writes (opening weight header inList t) front)
    (shows : inList = true ∨ (header ≠ [] ∧ t = []) ∨
      ∃ k v rest, t = (k, v) :: rest ∧ Writes (isHeaded weight v) false) :
    ∃ s ∈ front, Text.Visible s := by
  unfold opening at h
  obtain ⟨flags, hflags, h⟩ := writes_bind.1 h
  obtain ⟨lines, hlines, h⟩ := writes_bind.1 h
  obtain rfl := writes_pure.1 h
  generalize hbare : (inList || !header.isEmpty && (flags.any (!·) || flags.isEmpty)) = bare
  have visible : Text.Visible ((if bare then headerLine header inList else "") ++ lines) := by
    rcases shows with rfl | ⟨named, rfl⟩ | ⟨k, v, rest, rfl, plain⟩
    · rw [← hbare]
      exact (visible_headerLine header true).append_left lines
    · obtain rfl := writes_pure.1 hflags
      have : bare = true := by simpa [← hbare] using .inr named
      rw [this]
      exact (visible_headerLine header inList).append_left lines
    · exact (visible_plainLines plain hlines).append_right _
  obtain ⟨c, hc, -⟩ := id visible
  have full := List.ne_nil_of_mem hc
  rw [if_neg (by simpa using full)]
  exact ⟨_, List.mem_singleton_self _, visible⟩

/-- The blocks of a table are its opening and those of its tables, with an empty line between any
two. -/
theorem tableBlocks_iff [Stack] : Writes (tableBlocks weight header inList (.table mark t)) s ↔
    Writes (checkWeight weight) () ∧ ∃ front subs, Writes (opening weight header inList t) front ∧
      Writes (subtables weight header t) subs ∧ Text.joined "\n" (front ++ subs) = s := by
  rw [tableBlocks]
  simp only [writes_bind, writes_pure]
  constructor
  · rintro ⟨_, hcheck, front, hfront, subs, hsubs, rfl⟩
    exact ⟨hcheck, front, subs, hfront, hsubs, rfl⟩
  · rintro ⟨hcheck, front, subs, hfront, hsubs, rfl⟩
    exact ⟨_, hcheck, front, hfront, subs, hsubs, rfl⟩

/-- A table of a list stands under its header. -/
theorem visible_listed [Stack] (h : Writes (tableBlocks weight header true (.table mark t)) s) :
    Text.Visible s := by
  obtain ⟨-, front, subs, hfront, -, rfl⟩ := tableBlocks_iff.1 h
  obtain ⟨part, mem, visible⟩ := visible_opening hfront (.inl rfl)
  exact visible.joined (List.mem_append_left _ mem) _

/-- Where a list is written under headers, tables are in it and nothing else. -/
theorem table_of_areHeaded [Stack] {items : List Value} (h : Writes (areHeaded weight items) true) :
    ∃ mark t rest, items = .table mark t :: rest := by
  unfold areHeaded at h
  split at h
  · rename_i tables
    cases items with
    | nil => simp at tables
    | cons v rest =>
      obtain ⟨t, ht⟩ : ∃ t, v.table? = some t := by
        simp only [allTables, List.all_cons, Bool.and_eq_true] at tables
        exact Option.isSome_iff_exists.1 tables.2.1
      cases v with
      | table mark t => exact ⟨mark, t, rest, rfl⟩
      | _ => cases ht
  · exact absurd (writes_pure.1 h) Bool.false_ne_true

/-- The first of the subtables of a table is visible, where the first entry has a header and a table
under a header is visible. -/
theorem visible_subtables [Stack] {k v : Value} {rest : Table} {subs : List Text}
    (headed : Writes (isHeaded weight v) true)
    (h : Writes (subtables weight header ((k, v) :: rest)) subs)
    (inner : ∀ mark u header s, v = .table mark u → header ≠ [] →
      Writes (tableBlocks (weight + 1) header false (.table mark u)) s → Text.Visible s) :
    ∃ s ∈ subs, Text.Visible s := by
  cases v with
  | table mark u =>
    rw [subtables] at h
    obtain ⟨key, hkey, h⟩ := writes_bind.1 h
    obtain ⟨block, hblock, h⟩ := writes_bind.1 h
    obtain ⟨blocks, -, h⟩ := writes_bind.1 h
    obtain rfl := writes_pure.1 h
    exact ⟨block, List.mem_cons_self,
      inner mark u _ block rfl (pathText_ne_nil (keyText_ne_nil hkey)) hblock⟩
  | list mark items =>
    obtain ⟨mark', u, more, rfl⟩ := table_of_areHeaded headed
    rw [subtables] at h
    obtain ⟨isHeaded, hheaded, h⟩ := writes_bind.1 h
    obtain rfl := writes_unique headed hheaded
    obtain ⟨key, -, h⟩ := writes_bind.1 h
    obtain ⟨blocks, hblocks, h⟩ := writes_bind.1 h
    obtain ⟨others, -, h⟩ := writes_bind.1 h
    obtain rfl := writes_pure.1 h
    rw [listBlocks] at hblocks
    obtain ⟨block, hblock, hblocks⟩ := writes_bind.1 hblocks
    obtain ⟨_, -, hblocks⟩ := writes_bind.1 hblocks
    obtain rfl := writes_pure.1 hblocks
    exact ⟨block, List.mem_append_left _ List.mem_cons_self, visible_listed hblock⟩
  | pair mark a b =>
    obtain ⟨mark', u, more, hitems⟩ := table_of_areHeaded headed
    obtain ⟨rfl, -⟩ := List.cons.inj hitems
    rw [subtables] at h
    obtain ⟨isHeaded, hheaded, h⟩ := writes_bind.1 h
    obtain rfl := writes_unique headed hheaded
    obtain ⟨key, -, h⟩ := writes_bind.1 h
    obtain ⟨block, hblock, h⟩ := writes_bind.1 h
    obtain ⟨_, -, h⟩ := writes_bind.1 h
    obtain ⟨others, -, h⟩ := writes_bind.1 h
    obtain rfl := writes_pure.1 h
    exact ⟨block, List.mem_append_left _ List.mem_cons_self, visible_listed hblock⟩
  | _ => exact absurd (writes_pure.1 headed) Bool.false_ne_true

/-- A table is visible if it holds something or has a name. -/
theorem visible_tables [Stack] (h : Writes (tableBlocks weight header false (.table mark t)) s)
    (full : header ≠ [] ∨ t ≠ []) : Text.Visible s := by
  -- By the size of the table, as nothing but its first entry may stand under a header.
  induction size : sizeOf t using Nat.strongRecOn generalizing t weight header s mark with
  | ind n ih =>
    obtain ⟨-, front, subs, hfront, hsubs, rfl⟩ := tableBlocks_iff.1 h
    cases t with
    | nil =>
      have named : header ≠ [] := full.resolve_right fun h => h rfl
      obtain ⟨part, mem, visible⟩ := visible_opening hfront (.inr (.inl ⟨named, rfl⟩))
      exact visible.joined (List.mem_append_left _ mem) _
    | cons e rest =>
      obtain ⟨k, v⟩ := e
      obtain ⟨flags, hflags, -⟩ := writes_bind.1 hfront
      obtain ⟨isHeaded, headed, -⟩ := writes_bind.1 hflags
      cases isHeaded with
      | false =>
        obtain ⟨part, mem, visible⟩ :=
          visible_opening hfront (.inr (.inr ⟨k, v, rest, rfl, headed⟩))
        exact visible.joined (List.mem_append_left _ mem) _
      | true =>
        obtain ⟨part, mem, visible⟩ := visible_subtables headed hsubs
          fun mark u header s hv named hu => by
            subst hv
            refine ih (sizeOf u) ?_ hu (.inl named) rfl
            simp only [List.cons.sizeOf_spec, Prod.mk.sizeOf_spec, Value.table.sizeOf_spec] at size
            omega
        exact visible.joined (List.mem_append_right _ mem) _

end Tables

/-- What is written of a document that holds something is visible. -/
theorem visible_write [Stack] {t : Table} {s : Text} (h : Writes (write t) s) (full : t ≠ []) :
    Text.Visible s :=
  visible_tables h (.inr full)

end Toml

/-! ## YAML -/

namespace Yaml

/-- The second pen has written more, or the same. -/
def Pen.Grows (p q : Pen) : Prop := ∃ more, q.text = p.text ++ more

namespace Pen.Grows

variable {p q r : Pen} {folds : Bool} {n : Nat}

theorem refl (p : Pen) : p.Grows p := ⟨"", by simp⟩

theorem trans (h : p.Grows q) (h' : q.Grows r) : p.Grows r := by
  obtain ⟨more, hq⟩ := h
  obtain ⟨more', hr⟩ := h'
  exact ⟨more ++ more', by rw [hr, hq, String.append_assoc]⟩

/-- Only the text of a pen counts for its growth. -/
theorem of_text (h : q.text = p.text) : p.Grows q := ⟨"", by simp [h]⟩

/-- Where there is a choice, the pen grows in both cases. -/
theorem ite {c : Prop} [Decidable c] (h : p.Grows q) (h' : p.Grows r) :
    p.Grows (if c then q else r) := by
  split
  · exact h
  · exact h'

theorem put (p : Pen) (s : String) : p.Grows (p.put s) := ⟨s, rfl⟩

theorem putChars (p : Pen) (s : List Char) : p.Grows (p.putChars s) := put p _

theorem newLine (p : Pen) : p.Grows p.newLine := ⟨"\n", by rw [Pen.newLine]; rfl⟩

theorem stale (h : p.Grows q) : p.Grows q.stale := h.trans (of_text rfl)

theorem indent (p : Pen) (n : Nat) : p.Grows (p.indent n) := by
  unfold Pen.indent
  have first : p.Grows (if !p.isFresh || n < p.column || (p.column = n && !p.afterBlank)
      then p.newLine else p) := ite (newLine p) (refl p)
  exact first.trans (ite ((put _ _).trans (of_text rfl)) (refl _))

theorem mark (p : Pen) (s : String) : p.Grows (p.mark s) := put p _

theorem word (p : Pen) (s : String) : p.Grows (p.word s) := (mark p s).stale

theorem close (p : Pen) (s : String) : p.Grows (p.close s) := (put p s).stale

/-- Runs of plain text only add to what is written. -/
theorem plainRuns (runs : List (List Char)) (p : Pen) : p.Grows (plainRuns folds n p runs) := by
  induction runs generalizing p with
  | nil => exact refl p
  | cons run rest ih =>
    exact (ite (indent p n).stale (putChars p run)).trans (ih _)

theorem plain (p : Pen) (s : List Char) : p.Grows (p.plain folds n s) := by
  unfold Pen.plain
  exact (ite (refl p) (put p " ")).stale.trans (plainRuns _ _)

theorem newLines (count : Nat) (p : Pen) : p.Grows (newLines count p) := by
  induction count generalizing p with
  | zero => exact refl p
  | succ count ih => exact (newLine p).trans (ih _)

/-- And so do runs between single quotes. -/
theorem singleRuns (runs : List (List Char)) (isFirst : Bool) (p : Pen) :
    p.Grows (singleRuns folds n isFirst p runs) := by
  induction runs generalizing isFirst p with
  | nil => exact refl p
  | cons run rest ih =>
    have step : p.Grows (if run.head? = some '\n' then (Pen.newLines (run.length + 1) p).indent n
        else if run = [' '] && folds && !isFirst && !rest.isEmpty && p.isFull then p.indent n
        else p.putChars (doubledQuotes run)) :=
      ite ((newLines _ p).trans (indent _ n)) (ite (indent p n) (putChars p _))
    exact step.trans (ih _ _)

theorem single (p : Pen) (s : List Char) : p.Grows (p.single folds n s) :=
  (word p "'").trans ((singleRuns _ _ _).trans (close _ _))

theorem breakQuoted (next : Option CodePoint) (p : Pen) : p.Grows (breakQuoted n next p) := by
  have broken : p.Grows ((p.put "\\").indent n).stale := ((put p _).trans (indent _ n)).stale
  exact ite (broken.trans (put _ _)) broken

/-- And characters between double quotes. -/
theorem doubleChars (s : Text) (isFirst : Bool) (waiting : List Char) (p : Pen) :
    p.Grows (doubleChars folds n isFirst waiting p s) := by
  induction s generalizing isFirst waiting p with
  | nil => exact putChars p _
  | cons c rest ih =>
    rw [Pen.doubleChars]
    split
    · refine trans ?_ (ih _ _ _)
      have escaped := (putChars p waiting.reverse).trans (putChars _ (escaped c))
      exact ite (escaped.trans (breakQuoted _ _)) escaped
    · split
      · exact ((putChars p _).trans (breakQuoted _ _)).trans (ih _ _ _)
      · exact ih _ _ _

theorem double (p : Pen) (s : Text) : p.Grows (p.double folds n s) :=
  (word p "\"").trans ((doubleChars _ _ _ _).trans (close _ _))

/-- And the lines of a block. -/
theorem blockLines (lines : List (List Char)) (p : Pen) : p.Grows (blockLines n p lines) := by
  fun_induction Pen.blockLines n p lines with
  | case1 p => exact refl p
  | case2 p => exact refl p
  | case3 p line rest _ ih => exact ((indent p n).trans ((putChars _ _).trans (newLine _))).trans ih

theorem block (p : Pen) (s : List Char) : p.Grows (p.block n s) :=
  (word p "|").trans ((newLine _).trans (blockLines _ _))

end Pen.Grows

namespace Draft

open Pen.Grows

theorem grows_putAnchor (anchor : Option Nat) (p : Pen) : p.Grows (putAnchor anchor p) := by
  cases anchor with
  | none => exact refl p
  | some number => exact word p _

/-- A scalar only adds to what is written, in whatever style it is. -/
theorem grows_putScalar (type : TypeTag) (text : Text) (asKey : Bool) (n : Nat) (p : Pen) :
    p.Grows (putScalar type text asKey n p) := by
  unfold putScalar
  dsimp only
  generalize styleOf type asKey text = style
  generalize tagOf type style = tag
  cases tag with
  | none =>
    cases style with
    | plain => exact Pen.Grows.plain p _
    | single => exact single p _
    | double => exact double p _
    | block => exact block p _
  | some tag =>
    cases style with
    | plain => exact (word p tag).trans (Pen.Grows.plain _ _)
    | single => exact (word p tag).trans (single _ _)
    | double => exact (word p tag).trans (double _ _)
    | block => exact (word p tag).trans (block _ _)

mutual

/-- Whatever is drawn, nothing is taken back. -/
theorem grows_put (outer : Option Nat) (isValue asKey : Bool) :
    (d : Draft) → (p : Pen) → p.Grows (put outer isValue asKey d p)
  | .alias n, p => by
    rw [put]
    exact word p _
  | .scalar anchor type text, p => by
    rw [put]
    exact (grows_putAnchor anchor p).trans (grows_putScalar ..)
  | .sequence anchor items, p => by
    rw [put]
    exact (grows_putAnchor anchor p).trans
      (ite ((mark _ _).trans (close _ _)) (grows_putItems _ items _))
  | .mapping anchor type entries, p => by
    rw [put]
    have tagged : p.Grows (if type = .map then putAnchor anchor p
        else (putAnchor anchor p).word (shortTag type)) :=
      (grows_putAnchor anchor p).trans (ite (refl _) (word _ _))
    exact tagged.trans (ite ((mark _ _).trans (close _ _)) (grows_putEntries _ entries _))

/-- And so do the items of a sequence. -/
theorem grows_putItems (n : Nat) : (items : List Draft) → (p : Pen) → p.Grows (putItems n items p)
  | [], p => refl p
  | item :: rest, p => by
    rw [putItems]
    exact ((indent p n).trans (mark _ _)).trans
      ((grows_put _ _ _ item _).trans (grows_putItems n rest _))

/-- And the entries of a mapping. -/
theorem grows_putEntries (n : Nat) :
    (entries : List (Draft × Draft)) → (p : Pen) → p.Grows (putEntries n entries p)
  | [], p => refl p
  | (key, value) :: rest, p => by
    rw [putEntries]
    have front : p.Grows
        (if key.isSimpleKey then (put (some n) true true key (p.indent n)).close ":"
        else ((put (some n) true false key ((p.indent n).mark "?")).indent n).mark ":") :=
      (indent p n).trans (ite ((grows_put _ _ _ key _).trans (close _ _))
        (((mark _ _).trans (grows_put _ _ _ key _)).trans ((indent _ n).trans (mark _ _))))
    exact front.trans ((grows_put _ _ _ value _).trans (grows_putEntries n rest _))

end

theorem colon_mark (p : Pen) : ':' ∈ (p.mark ":").text.toList := by
  unfold Pen.mark Pen.put
  dsimp only
  rw [String.toList_append]
  refine List.mem_append_right _ ?_
  split <;> simp

/-- A mapping with an entry has a colon. -/
theorem colon_putEntries (n : Nat) (e : Draft × Draft) (rest : List (Draft × Draft)) (p : Pen) :
    ':' ∈ (putEntries n (e :: rest) p).text.toList := by
  obtain ⟨key, value⟩ := e
  rw [putEntries]
  have front : ':' ∈
      (if key.isSimpleKey then (put (some n) true true key (p.indent n)).close ":"
      else ((put (some n) true false key ((p.indent n).mark "?")).indent n).mark
        ":").text.toList := by
    split
    · simp [Pen.close, Pen.stale, Pen.put]
    · exact colon_mark _
  obtain ⟨more, grown⟩ := (grows_put (some n) true false value _).trans (grows_putEntries n rest _)
  rw [grown, String.toList_append]
  exact List.mem_append_left _ front

/-- So a mapping with an entry is seen by its colon, whatever stands in front of it. -/
theorem colon_put (outer : Option Nat) (isValue asKey : Bool) (anchor : Option Nat)
    (type : TypeTag) (e : Draft × Draft) (rest : List (Draft × Draft)) (p : Pen) :
    ':' ∈ (put outer isValue asKey (.mapping anchor type (e :: rest)) p).text.toList := by
  rw [put]
  exact colon_putEntries _ _ _ _

end Draft

namespace Outline

section Survey

variable {α β : Type} {marks marks' : List Nat}

/-- Surveys in a row meet the marks that the first has left for the second. -/
theorem survey_bind {x : Survey α} {f : α → Survey β} {b : β} :
    (x >>= f) marks = .ok (b, marks') ↔
      ∃ a met, x marks = .ok (a, met) ∧ f a met = .ok (b, marks') := by
  show (x marks >>= fun r => f r.1 r.2) = .ok (b, marks') ↔ _
  rw [bind_ok_iff, Prod.exists]

theorem survey_pure {a b : α} :
    (pure a : Survey α) marks = .ok (b, marks') ↔ a = b ∧ marks = marks' := by
  show (pure (a, marks) : Except Fault (α × List Nat)) = _ ↔ _
  rw [pure_ok_iff, Prod.mk.injEq]

end Survey

/-- The outline of a document that holds something is a mapping with an entry. -/
theorem ofValue_table [Stack] {t : Table} {o : Outline} (h : ofValue (.table none t) = .ok o)
    (full : t ≠ []) : ∃ e rest, o = .mapping none .map (e :: rest) := by
  obtain ⟨⟨o', marks⟩, surveyed, rfl⟩ := map_ok_iff.1 h
  obtain ⟨⟨k, v⟩, rest, rfl⟩ := List.exists_cons_of_ne_nil full
  simp only [survey, meet, surveyEntries, survey_bind, survey_pure] at surveyed
  obtain ⟨_, _, -, _, _, ⟨key, _, -, value, _, -, others, _, -, rfl, -⟩, rfl, -⟩ := surveyed
  exact ⟨(key, value), others, rfl⟩

end Outline

/-- What is written of a document that holds something is visible. -/
theorem visible_write [Stack] {t : Table} {s : String} (h : write t = .ok s) (full : t ≠ []) :
    Text.Visible (Text.ofString s) := by
  obtain ⟨draft, hdraft, h⟩ := bind_ok_iff.1 h
  obtain rfl := pure_ok_iff.1 h
  obtain ⟨outline, houtline, hdraft⟩ := bind_ok_iff.1 hdraft
  obtain ⟨e, rest, rfl⟩ := Outline.ofValue_table houtline full
  obtain rfl := pure_ok_iff.1 hdraft
  obtain ⟨k, v⟩ := e
  simp only [Draft.ofOutline, Draft.ofEntries]
  obtain ⟨more, grown⟩ := Pen.Grows.indent (Draft.put none false false _ {}) 0
  refine ⟨.char ':', ?_, by decide⟩
  rw [grown]
  refine List.mem_map_of_mem ?_
  rw [String.toList_append]
  exact List.mem_append_left _ (Draft.colon_put ..)

end Yaml

/-- The text of a document that holds something is not blank, in either notation. -/
theorem Document.visible_toText [Stack] {d : Document} {written : Notation} {source text : Text}
    (h : d.toText written source = .ok text) (full : d ≠ []) : Text.Visible text := by
  cases written with
  | toml =>
    unfold Document.toText at h
    dsimp only at h
    split at h
    · rename_i s hs
      obtain rfl := Except.ok.inj h
      exact Toml.visible_write hs full
    · cases h
    · cases h
  | yaml =>
    obtain ⟨s, hs, h⟩ := bind_ok_iff.1 (mapError_ok_iff.1 h)
    obtain rfl := pure_ok_iff.1 h
    exact Yaml.visible_write hs full

end Bindery
