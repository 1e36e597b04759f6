import Bindery.Proofs.Yaml.Scanning
import Bindery.Yaml.Node

/-!
# What parsing YAML ends with

Tokens make no nodes when they are malformed, when collections stand too deep inside one another,
or when they say themselves what is wrong with their text (`Yaml.NodeTrouble`).
-/

namespace Bindery.Yaml

open Std.Do Outcome

set_option mvcgen.warning false

/-- Why tokens make no nodes. -/
inductive NodeTrouble (ts : List Token) : ReadProblem → Prop where
  | malformed : NodeTrouble ts .malformed
  | depth : NodeTrouble ts (.fault .tooDeep)
  | told {problem : ReadProblem} (told : .broken problem ∈ ts) : NodeTrouble ts problem

namespace Parser

variable {ts : List Token} {α : Type}

/-- What is left is among the tokens that there were. -/
def Within (ts : List Token) (s : Parser) : Prop := ∀ t ∈ s.tokens, t ∈ ts

abbrev Careful (ts : List Token) (x : Parse α) : Prop := Keeps (Within ts) (NodeTrouble ts) x

@[spec] theorem fail_careful : Careful ts (fail : Parse α) := keeps_throw .malformed

@[spec] theorem peek_careful : Careful ts peek := by
  mvcgen [peek]
  rename_i s within problem found
  exact .told (within _ (List.mem_of_mem_head? found))

@[spec] theorem drop_careful : Careful ts drop := by
  mvcgen [drop]
  rename_i s within _
  exact fun t ht => within t (List.mem_of_mem_drop ht)

@[spec] theorem accept_careful (t : Token) : Careful ts (accept t) := by mvcgen [accept]

@[spec] theorem isAt_careful (others : List Token) : Careful ts (isAt others) := by mvcgen [isAt]

@[spec] theorem add_careful (node : Node) : Careful ts (add node) := by mvcgen [add]

@[spec] theorem empty_careful : Careful ts empty := by mvcgen [empty]

@[spec] theorem anchorMark_careful : Careful ts anchorMark := by mvcgen [anchorMark]

@[spec] theorem tagMark_careful : Careful ts tagMark := by mvcgen [tagMark]

@[spec] theorem fullTag_careful (tag : Option String × String) : Careful ts (fullTag tag) := by
  mvcgen [fullTag]

@[spec] theorem optionMapM_careful {β : Type} {f : α → Parse β} (h : ∀ a, Careful ts (f a))
    (x : Option α) : Careful ts (x.mapM f) := by
  cases x with
  | none => mvcgen [Option.mapM]
  | some a => mvcgen [Option.mapM, h]

@[spec] theorem marks_careful : Careful ts marks := by
  mvcgen [marks]

@[spec] theorem introduce_careful (m : Marks) (number : Nat) : Careful ts (introduce m number) := by
  mvcgen [introduce]

@[spec] theorem scalar_careful (m : Marks) (isPlain : Bool) (text : Text) :
    Careful ts (scalar m isPlain text) := by mvcgen [scalar]

@[spec] theorem collection_careful (m : Marks) (default : TypeTag) {parts : Parse Content}
    (h : Careful ts parts) : Careful ts (collection m default parts) := by
  mvcgen [collection, h]

@[spec] theorem checkDepth_careful [Stack] : Careful ts checkDepth := by
  mvcgen [checkDepth]
  exact .depth

@[spec] theorem nothing_careful (m : Marks) : Careful ts (nothing m) := by mvcgen [nothing]

/-- The readers of nodes, whatever the bound of their calls. -/
theorem nodes_careful [Stack] (fuel : Nat) :
    (∀ inBlock atKey, Careful ts (node inBlock atKey fuel)) ∧
    (∀ inBlock atKey m, Careful ts (content inBlock atKey m fuel)) ∧
    Careful ts (blockItems fuel) ∧ Careful ts (looseItems fuel) ∧ Careful ts (blockEntries fuel) ∧
    (∀ first, Careful ts (flowItems first fuel)) ∧ Careful ts (singleEntry fuel) ∧
    ∀ first, Careful ts (flowEntries first fuel) := by
  induction fuel with
  | zero =>
    refine ⟨fun _ _ => ?_, fun _ _ _ => ?_, ?_, ?_, ?_, fun _ => ?_, ?_, fun _ => ?_⟩
    all_goals exact fail_careful
  | succ fuel ih =>
    obtain ⟨node_keeps, content_keeps, blockItems_keeps, looseItems_keeps, blockEntries_keeps,
      flowItems_keep, singleEntry_keeps, flowEntries_keep⟩ := ih
    refine ⟨fun _ _ => ?_, fun _ _ _ => ?_, ?_, ?_, ?_, fun _ => ?_, ?_, fun _ => ?_⟩
    · mvcgen [node, content_keeps]
    · mvcgen [content, blockItems_keeps, looseItems_keeps, blockEntries_keeps, flowItems_keep,
        flowEntries_keep]
    · mvcgen [blockItems, node_keeps, blockItems_keeps]
    · mvcgen [looseItems, node_keeps, looseItems_keeps]
    · mvcgen [blockEntries, node_keeps, blockEntries_keeps]
    · mvcgen [flowItems, node_keeps, flowItems_keep, singleEntry_keeps]
    · mvcgen [singleEntry, node_keeps]
    · mvcgen [flowEntries, node_keeps, flowEntries_keep]

@[spec] theorem node_careful [Stack] (inBlock atKey : Bool) (fuel : Nat) :
    Careful ts (node inBlock atKey fuel) := (nodes_careful fuel).1 inBlock atKey

@[spec] theorem direct_careful (given : List String) (versioned : Bool) (d : Directive) :
    Careful ts (direct given versioned d) := by mvcgen [direct]

@[spec] theorem directives_careful (fuel : Nat) (given : List String) (versioned : Bool) :
    Careful ts (directives fuel given versioned) := by
  induction fuel generalizing given versioned with
  | zero => mvcgen [directives]
  | succ fuel ih => mvcgen [directives, ih]

@[spec] theorem documentEnds_careful (fuel : Nat) : Careful ts (documentEnds fuel) := by
  induction fuel with
  | zero => mvcgen [documentEnds]
  | succ fuel ih => mvcgen [documentEnds, ih]

@[spec] theorem document_careful [Stack] (fuel : Nat) : Careful ts (document fuel) := by
  mvcgen [document]

end Parser

/-- Tokens make nodes, or fail to for what is listed. -/
theorem Graph.ofTokens_only [Stack] (ts : List Token) :
    Only (NodeTrouble ts) (Graph.ofTokens ts) := by
  have ends := keeps_iff.1 (@Parser.document_careful ts _ (5 * ts.length + 10)) { tokens := ts }
    fun _ ht => ht
  exact only_bind ends.fails fun _ => only_pure _

end Bindery.Yaml
