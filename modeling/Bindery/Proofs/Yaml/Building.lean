import Bindery.Proofs.Yaml.Parsing
import Bindery.Yaml.Read

/-!
# What making the parts of a YAML document ends with

Merging mappings changes the entries of mappings and the types of keys, and nothing else of the
nodes (`Yaml.Graph.From`). So what stops the making of parts, apart from what is malformed or goes
round in a circle, is a node of the document itself: a moment that is a mapping, or a scalar that
does not convert under the type of a node (`Yaml.PartTrouble`). With what stops the scanning and the
parsing of a text this is all that can go wrong in reading one (`Yaml.read_only`).
-/

namespace Bindery.Yaml

open Std.Do Outcome

set_option mvcgen.warning false

/-- Why nodes make no parts. -/
inductive PartTrouble (g : Graph) : ReadProblem → Prop where
  | malformed : PartTrouble g .malformed
  | circle : PartTrouble g (.fault .tooDeep)
  | moment {n : Nat} (typed : g.typeOf n = .timestamp) (mapping : g.isMapping n = true) :
      PartTrouble g (.fault .wrongKind)
  /-- The text is that of the node, or stands under the key `=` of a mapping. -/
  | scalar {own n m : Nat} {text : Text} {problem : ReadProblem}
      (here : m = n ∨ g.isMapping n = true) (written : (g.node m).content = .scalar text)
      (unread : convert own (g.typeOf n) text = .error problem) : PartTrouble g problem

/-! ## Nodes -/

namespace Graph

/-- Nodes that came from others by merging mappings. -/
structure From (g g' : Graph) : Prop where
  scalar : ∀ n text, (g'.node n).content = .scalar text ↔ (g.node n).content = .scalar text
  mapping : ∀ n, g'.isMapping n = g.isMapping n
  type : ∀ n, g'.typeOf n = g.typeOf n ∨ g'.typeOf n = .str

variable {g g' : Graph} {n : Nat}

theorem node_modify (g : Graph) (n k : Nat) (f : Node → Node) :
    node (g.modify n f) k = if n = k ∧ k < g.size then f (g.node k) else g.node k := by
  unfold node
  by_cases inside : k < g.size
  · rw [Array.getElem?_modify]
    by_cases same : n = k
    · simp [same, inside]
    · simp [same]
  · rw [if_neg fun h => inside h.2, Array.getElem?_eq_none (by simpa using inside),
      Array.getElem?_eq_none (by simpa using inside)]

namespace From

theorem refl (g : Graph) : From g g := ⟨fun _ _ => .rfl, fun _ => rfl, fun _ => .inl rfl⟩

theorem setEntries (h : From g g') (mapping : g.isMapping n = true) (entries : List (Nat × Nat)) :
    From g (g'.setEntries n entries) := by
  have was : g'.isMapping n = true := (h.mapping n).trans mapping
  have typed (k : Nat) : (g'.setEntries n entries).typeOf k = g'.typeOf k := by
    unfold Graph.setEntries typeOf
    rw [node_modify]
    split <;> rfl
  have mapped (k : Nat) : (g'.setEntries n entries).isMapping k = g'.isMapping k := by
    unfold Graph.setEntries isMapping at *
    rw [node_modify]
    by_cases same : n = k ∧ k < g'.size
    · rw [if_pos same, ← same.1, was]
    · rw [if_neg same]
  refine ⟨fun k text => ?_, fun k => (mapped k).trans (h.mapping k), fun k => ?_⟩
  · rw [← h.scalar k text, Graph.setEntries, node_modify]
    split
    · rename_i same
      obtain ⟨rfl, -⟩ := same
      unfold isMapping at was
      constructor
      · rintro ⟨⟩
      · intro written
        rw [written] at was
        cases was
    · rfl
  · rw [typed]
    exact h.type k

/-- Keys that become texts. -/
theorem rename (h : From g g') (keys : List (Nat × Nat)) :
    From g (keys.foldl (fun g e =>
      if g.typeOf e.1 = .value then g.modify e.1 fun node => { node with type := .str } else g)
      g') := by
  induction keys generalizing g' with
  | nil => exact h
  | cons e keys ih =>
    rw [List.foldl_cons]
    refine ih ?_
    split
    · have content (k : Nat) :
          (node (g'.modify e.1 fun node => { node with type := .str }) k).content =
            (g'.node k).content := by
        rw [node_modify]
        split <;> rfl
      refine ⟨fun k text => ?_, fun k => ?_, fun k => ?_⟩
      · rw [content]
        exact h.scalar k text
      · rw [← h.mapping k]
        unfold isMapping
        rw [content]
      · unfold typeOf
        rw [node_modify]
        split
        · exact .inr rfl
        · exact h.type k
    · exact h

end From

/-- A text that a node stands for is its own, or that of another node when it is a mapping. -/
theorem scalarText_ends (g : Graph) (fuel n : Nat) :
    Ends (fun text => ∃ m, (m = n ∨ g.isMapping n = true) ∧ (g.node m).content = .scalar text)
      (fun e => e = .malformed ∨ e = .fault .tooDeep) (g.scalarText fuel n) := by
  induction fuel generalizing n with
  | zero => exact ends_error (.inr rfl)
  | succ fuel ih =>
    unfold scalarText
    split
    · rename_i text content
      exact ends_ok ⟨n, .inl rfl, content⟩
    · exact ends_error (.inl rfl)
    · rename_i entries content
      have mapping : g.isMapping n = true := by
        unfold isMapping
        rw [content]
      split
      · exact (ih _).mono (fun text ⟨m, _, written⟩ => ⟨m, .inr mapping, written⟩) fun _ => id
      · exact ends_error (.inl rfl)

end Graph

/-! ## Parts -/

namespace Graph.From

variable {g g' : Graph} {n : Nat}

theorem isMapping_of_content (h : From g g') {entries : List (Nat × Nat)}
    (content : (g'.node n).content = .mapping entries) : g.isMapping n = true := by
  rw [← h.mapping n, isMapping, content]

/-- What a scalar's text does not convert to under a type that merging has left. -/
theorem trouble_of_convert (h : From g g') {own m : Nat} {text : Text} {problem : ReadProblem}
    (here : m = n ∨ g'.isMapping n = true) (written : (g'.node m).content = .scalar text)
    (unread : convert own (g'.typeOf n) text = .error problem) : PartTrouble g problem := by
  rw [h.mapping] at here
  rw [h.scalar] at written
  rcases h.type n with same | renamed
  · exact .scalar here written (same ▸ unread)
  · rw [renamed] at unread
    cases unread

theorem trouble_of_moment (h : From g g') (typed : g'.typeOf n = .timestamp)
    (mapping : g'.isMapping n = true) : PartTrouble g (.fault .wrongKind) := by
  rcases h.type n with same | renamed
  · exact .moment (same ▸ typed) (h.mapping n ▸ mapping)
  · cases renamed.symm.trans typed

end Graph.From

namespace Builder

variable {g : Graph} {α β : Type}

abbrev Careful (g : Graph) (x : Build α) : Prop := Keeps (fun s => g.From s.nodes) (PartTrouble g) x

theorem fail_careful : Careful g (fail : Build α) := keeps_throw .malformed

theorem mapM_careful {f : α → Build β} (h : ∀ a, Careful g (f a)) (xs : List α) :
    Careful g (xs.mapM f) := keeps_mapM h xs

theorem setPart_careful (n : Nat) (part : Part) : Careful g (setPart n part) := by
  mvcgen [setPart]

theorem start_careful (n : Nat) (part : Part) : Careful g (start n part) := by
  have setPart_keeps := @setPart_careful g
  mvcgen [start, setPart_keeps]

theorem make_careful (n : Nat) : Careful g (make n) := by
  have setPart_keeps := @setPart_careful g
  have start_keeps := @start_careful g
  have fail_keeps := @fail_careful g Part
  have text_ends := fun g k n => ends_spec (Graph.scalarText_ends g k n)
  have convert_ends := fun own type text =>
    ends_spec (P := fun e => convert own type text = .error e) (Only.ends fun _ => id)
  mvcgen [make, setPart_keeps, start_keeps, fail_keeps, text_ends, convert_ends, checkMoment]
  · rename_i s merged _ _ _ _ _ _ _ _ _ _ typed _ _ moment
    simp only [Bool.and_eq_true, decide_eq_true_eq] at moment
    exact merged.trouble_of_moment (typed.trans moment.1) moment.2
  · rename_i s merged _ _ _ _ _ _ _ _ _ _ typed _ found _ _
    obtain ⟨m, here, written⟩ := found
    rw [← typed]
    exact merged.trouble_of_convert here written
  · rintro (rfl | rfl)
    · exact .malformed
    · exact .circle

theorem nameValueKeys_careful (n count : Nat) : Careful g (nameValueKeys n count) := by
  mvcgen [nameValueKeys]
  rename_i s merged _
  exact merged.rename _

theorem flattenFrom_careful (fuel n place : Nat) (merged : List (Nat × Nat))
    (mapping : g.isMapping n = true) : Careful g (flattenFrom fuel n place merged) := by
  have name_keeps := @nameValueKeys_careful g
  have mapM_keeps := @mapM_careful g
  induction fuel generalizing n place merged with
  | zero => exact fail_careful
  | succ fuel ih =>
    mvcgen [flattenFrom, fail, name_keeps, ih, mapM_keeps]
    case vc2 => exact Graph.From.setEntries ‹_› mapping _
    case vc4 =>
      rename_i s kept _ _ _ _ _ _ _ _ _ content
      exact kept.isMapping_of_content content
    case vc5 => exact Graph.From.setEntries ‹_› mapping _
    case vc8 => exact .malformed
    case vc9 =>
      rename_i s kept _ isMapping
      rw [← kept.mapping]
      simpa using isMapping
    case vc11 => exact Graph.From.setEntries ‹_› mapping _
    case vc13 => exact fun _ _ => mapping
    case vc14 => exact .malformed

theorem flatten_careful (n : Nat) : Careful g (flatten n) := by
  have flattenFrom_keeps := @flattenFrom_careful g
  mvcgen [flatten, fail, flattenFrom_keeps]
  · exact .malformed
  · rename_i s kept _ isMapping
    rw [← kept.mapping]
    simpa using isMapping

theorem makeEntries_careful (n : Nat) : Careful g (makeEntries n) := by
  have flatten_keeps := @flatten_careful g
  have make_keeps := @make_careful g
  have fail_keeps := @fail_careful g
  have mapM_keeps := @mapM_careful g
  mvcgen [makeEntries, flatten_keeps, make_keeps, fail_keeps, mapM_keeps]

theorem sequenceItems_careful (n : Nat) : Careful g (sequenceItems n) := by
  have fail_keeps := @fail_careful g
  mvcgen [sequenceItems, fail_keeps]

theorem makePair_careful (n : Nat) : Careful g (makePair n) := by
  have make_keeps := @make_careful g
  have fail_keeps := @fail_careful g
  mvcgen [makePair, make_keeps, fail_keeps]

theorem fill_careful (n : Nat) : Careful g (fill n) := by
  have entries_keep := @makeEntries_careful g
  have items_keep := @sequenceItems_careful g
  have pairs_keep := keeps_mapM (@makePair_careful g)
  have make_keeps := @make_careful g
  have setPart_keeps := @setPart_careful g
  mvcgen [fill, entries_keep, items_keep, pairs_keep, make_keeps, setPart_keeps]
  invariants
  · post⟨fun _ s => ⌜g.From s.nodes⌝, fun e => ⌜PartTrouble g e⌝⟩
  exact id

theorem fillAll_careful (fuel : Nat) : Careful g (fillAll fuel) := by
  have fill_keeps := keeps_forM (@fill_careful g)
  induction fuel with
  | zero => mvcgen [fillAll]
  | succ fuel ih => mvcgen [fillAll, fill_keeps, ih]

end Builder

/-- Nodes make parts, or fail to for what is listed. -/
theorem partsOf_only (g : Graph) : Only (PartTrouble g) (partsOf g) := by
  have make_keeps := @Builder.make_careful g
  have fillAll_keeps := @Builder.fillAll_careful g
  have careful : Builder.Careful g (do
      let _ ← Builder.make 0
      Builder.fillAll (g.size + 1)) := by
    mvcgen [make_keeps, fillAll_keeps]
  have ends := keeps_iff.1 careful { nodes := g, parts := g.map fun _ => none } (Graph.From.refl g)
  exact only_bind ends.fails fun _ => only_pure _

/-! ## Texts -/

/-- Why a text in YAML is not read. -/
inductive Trouble [Stack] (s : String) : ReadProblem → Prop where
  | malformed : Trouble s .malformed
  | depth : Trouble s (.fault .tooDeep)
  | lexeme {problem : ReadProblem} (told : .broken problem ∈ Token.scan s.toList)
      (trouble : LexemeTrouble problem) : Trouble s problem
  | part {g : Graph} {problem : ReadProblem} (nodes : Graph.ofTokens (Token.scan s.toList) = .ok g)
      (trouble : PartTrouble g problem) : Trouble s problem

theorem NodeTrouble.trouble [Stack] {s : String} {problem : ReadProblem}
    (h : NodeTrouble (Token.scan s.toList) problem) : Trouble s problem := by
  cases h with
  | malformed => exact .malformed
  | depth => exact .depth
  | told told => exact .lexeme told (Token.scan_broken told)

/-- Reading a text in YAML fails in one of the listed ways, if it does. -/
theorem read_only [Stack] (s : String) : Only (Trouble s) (read s) := by
  have nodes : Ends (fun g => Graph.ofTokens (Token.scan s.toList) = .ok g) (Trouble s)
      (Graph.ofTokens (Token.scan s.toList)) :=
    ⟨fun _ => id, fun problem failed => (Graph.ofTokens_only _ problem failed).trouble⟩
  have parts {g : Graph} (parsed : Graph.ofTokens (Token.scan s.toList) = .ok g) :
      Only (Trouble s) (partsOf g) :=
    fun problem failed => .part parsed (partsOf_only g problem failed)
  unfold read
  split
  · exact only_error .malformed
  · refine Ends.fails (?_ : Ends (fun _ => True) _ _)
    refine nodes.bind fun g parsed => ?_
    split
    · exact (only_pure _).ends
    · exact (only_bind (parts parsed) fun _ => only_pure _).ends

end Bindery.Yaml
