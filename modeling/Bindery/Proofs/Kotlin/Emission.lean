import Bindery.Proofs.Kotlin.Callable

/-!
# The texts of a bundle

A bundle holds the text of exactly the platforms that a configuration selects
(`text?_eq_some_iff`), and a header exactly when it holds a native text (`header_iff_native`). The
common and the platform texts go through the same functions (`exists_callables`), and each ends
with what it says about them (`common_eq`, `platform_eq`).
-/

namespace Bindery

open Outcome Kotlin

/-- The text of a platform, if the bundle holds one. -/
def Bundle.text? (b : Bundle) : Platform → Option Text
  | .target .jvm => b.jvm
  | .target .android => b.android
  | .target .native => b.native
  | .stub => b.stub

/-- The platforms that a configuration selects: its targets and, on request, the stub; the JVM
when it is not multiplatform. -/
def Kotlin.Platform.Selected (emitStub : Bool) (c : Config) : Platform → Prop
  | .target t => if c.multiplatform then t ∈ c.targets else t = .jvm
  | .stub => c.multiplatform = true ∧ emitStub = true

namespace Bundle

variable {emitStub : Bool} {c : Config} {i : Interface} {b : Bundle}

/-- The text found for a target among the texts of the targets. -/
theorem lookup_eq_some_iff {targets : List Target} {texts : List (Target × Text)}
    {render : Target → Except Fault Text}
    (h : List.Forall₂ (fun t e => e.1 = t ∧ render t = .ok e.2) targets texts) {t : Target}
    {text : Text} : texts.lookup t = some text ↔ t ∈ targets ∧ render t = .ok text := by
  induction h with
  | nil => simp
  | @cons u e targets texts he _ ih =>
    obtain ⟨u', text'⟩ := e
    obtain ⟨rfl, hr⟩ := he
    by_cases ht : t = u'
    · subst ht
      simp [hr]
    · have : (t == u') = false := by simpa using ht
      simp only [List.lookup_cons, this, ih, List.mem_cons, ht, false_or]

/-- What is generated when it is wanted. -/
def Rendered (wanted : Prop) [Decidable wanted] (x : Except Fault Text) (text : Option Text) :
    Prop :=
  if wanted then ∃ s, x = .ok s ∧ text = some s else text = none

/-- What is rendered only if it is wanted is there when it was rendered. -/
theorem rendered_iff {wanted : Prop} [Decidable wanted] {x : Except Fault Text}
    {text : Option Text} :
    (if wanted then some <$> x else .ok none) = .ok text ↔ Rendered wanted x text := by
  unfold Rendered
  split
  · rw [map_ok_iff]
    exact exists_congr fun s => and_congr_right fun _ => eq_comm
  · simp [eq_comm]

theorem exists_rendered {wanted : Prop} [Decidable wanted] {x : Except Fault Text}
    (h : wanted → ∃ s, x = .ok s) : ∃ text, Rendered wanted x text := by
  unfold Rendered
  split
  · obtain ⟨s, hs⟩ := h ‹_›
    exact ⟨some s, s, hs, rfl⟩
  · exact ⟨none, rfl⟩

/-- What generating a multiplatform bundle goes through. -/
theorem generate_of_multiplatform [Stack] (hm : c.multiplatform = true) : generate emitStub c i =
    (Kotlin.common c i >>= fun common =>
      (c.targets.mapM fun t => do return (t, ← platform c i (.target t))) >>= fun texts =>
        (if .native ∈ c.targets then some <$> Kotlin.header i else .ok none) >>= fun header =>
          (if emitStub = true then some <$> platform c i .stub else .ok none) >>= fun stub =>
            .ok ⟨common, texts.lookup .jvm, texts.lookup .android, texts.lookup .native, stub,
              header⟩) := by
  unfold generate
  simp only [hm, if_true]
  by_cases hn : Target.native ∈ c.targets <;> cases emitStub <;> simp only [hn, if_true, if_false]
  all_goals rfl

/-- What generating a multiplatform bundle comes to. -/
theorem generate_multiplatform [Stack] (hm : c.multiplatform = true)
    (h : generate emitStub c i = .ok b) :
    Kotlin.common c i = .ok b.common ∧ ∃ texts : List (Target × Text),
      List.Forall₂ (fun t e => e.1 = t ∧ platform c i (.target t) = .ok e.2) c.targets texts ∧
      (∀ t, b.text? (.target t) = texts.lookup t) ∧
      Rendered (.native ∈ c.targets) (Kotlin.header i) b.header ∧
      Rendered (emitStub = true) (platform c i .stub) b.stub := by
  rw [generate_of_multiplatform hm] at h
  simp only [bind_ok_iff, rendered_iff, Except.ok.injEq] at h
  obtain ⟨text, htext, texts, htexts, header, hheader, stub, hstub, rfl⟩ := h
  have targets : List.Forall₂ (fun t e => e.1 = t ∧ platform c i (.target t) = .ok e.2)
      c.targets texts := by
    refine (mapM_ok_iff.1 htexts).imp fun t e he => ?_
    obtain ⟨s, hs, he⟩ := bind_ok_iff.1 he
    obtain rfl := pure_ok_iff.1 he
    exact ⟨rfl, hs⟩
  exact ⟨htext, texts, targets, fun t => by cases t <;> rfl, hheader, hstub⟩

/-- What generating a bundle for the JVM alone goes through. -/
theorem generate_of_single [Stack] (hm : c.multiplatform = false) : generate emitStub c i =
    (Kotlin.common c i >>= fun common =>
      platform c i (.target .jvm) >>= fun jvm => .ok { common, jvm := some jvm }) := by
  unfold generate
  rw [hm]
  rfl

/-- What generating a bundle for the JVM alone comes to. -/
theorem generate_single [Stack] (hm : c.multiplatform = false) (h : generate emitStub c i = .ok b) :
    ∃ common jvm, Kotlin.common c i = .ok common ∧ platform c i (.target .jvm) = .ok jvm ∧
      b = { common, jvm := some jvm } := by
  rw [generate_of_single hm] at h
  simp only [bind_ok_iff, Except.ok.injEq] at h
  obtain ⟨text, htext, jvm, hjvm, rfl⟩ := h
  exact ⟨text, jvm, htext, hjvm, rfl⟩

/-- The common text of a bundle is the common source. -/
theorem generate_common [Stack] (h : generate emitStub c i = .ok b) :
    Kotlin.common c i = .ok b.common := by
  cases hm : c.multiplatform with
  | true => exact (generate_multiplatform hm h).1
  | false =>
    obtain ⟨_, _, hcommon, -, rfl⟩ := generate_single hm h
    exact hcommon

/-- A bundle holds the texts of the selected platforms and of no others. -/
theorem text?_eq_some_iff [Stack] (h : generate emitStub c i = .ok b) {p : Platform} {text : Text} :
    b.text? p = some text ↔ p.Selected emitStub c ∧ platform c i p = .ok text := by
  cases hm : c.multiplatform with
  | true =>
    obtain ⟨-, texts, htexts, htext, -, hstub⟩ := generate_multiplatform hm h
    cases p with
    | target t =>
      rw [htext, lookup_eq_some_iff htexts, Platform.Selected, if_pos hm]
    | stub =>
      unfold Rendered at hstub
      unfold Platform.Selected text?
      cases emitStub with
      | true =>
        rw [if_pos rfl] at hstub
        obtain ⟨s, hs, hb⟩ := hstub
        simp [hb, hs, hm, eq_comm]
      | false =>
        rw [if_neg Bool.false_ne_true] at hstub
        simp [hstub]
  | false =>
    obtain ⟨_, jvm, -, hjvm, rfl⟩ := generate_single hm h
    cases p with
    | target t => cases t <;> simp [text?, Platform.Selected, hm, hjvm]
    | stub => simp [text?, Platform.Selected, hm]

/-- Every selected platform has a text. -/
theorem exists_text? [Stack] (h : generate emitStub c i = .ok b) {p : Platform}
    (hp : p.Selected emitStub c) : ∃ text, b.text? p = some text := by
  suffices ∃ text, platform c i p = .ok text by
    obtain ⟨text, htext⟩ := this
    exact ⟨text, (text?_eq_some_iff h).2 ⟨hp, htext⟩⟩
  cases hm : c.multiplatform with
  | true =>
    obtain ⟨-, texts, htexts, -, -, hstub⟩ := generate_multiplatform hm h
    cases p with
    | target t =>
      rw [Platform.Selected, if_pos hm] at hp
      obtain ⟨e, -, he⟩ := exists_of_forall₂ htexts t hp
      exact ⟨e.2, he⟩
    | stub =>
      rw [Rendered, if_pos hp.2] at hstub
      obtain ⟨s, hs, -⟩ := hstub
      exact ⟨s, hs⟩
  | false =>
    obtain ⟨_, jvm, -, hjvm, -⟩ := generate_single hm h
    cases p with
    | target t =>
      rw [Platform.Selected, hm, if_neg Bool.false_ne_true] at hp
      exact ⟨jvm, hp ▸ hjvm⟩
    | stub => simp [Platform.Selected, hm] at hp

/-- The header is there exactly when the native text is, and its text is that of the interface. -/
theorem header_iff_native [Stack] (h : generate emitStub c i = .ok b) :
    b.header.isSome = b.native.isSome ∧
      ∀ text, b.header = some text → Kotlin.header i = .ok text := by
  cases hm : c.multiplatform with
  | true =>
    have hnative (text : Text) :
        b.native = some text ↔
          (Platform.target .native).Selected emitStub c ∧
            platform c i (.target .native) = .ok text :=
      text?_eq_some_iff h (p := .target .native)
    obtain ⟨-, -, -, -, hheader, -⟩ := generate_multiplatform hm h
    rw [Platform.Selected, if_pos hm] at hnative
    unfold Rendered at hheader
    split at hheader
    · obtain ⟨s, hs, hb⟩ := hheader
      obtain ⟨text, htext⟩ := exists_text? h (p := .target .native)
        (by rwa [Platform.Selected, if_pos hm])
      have hn : b.native = some text := htext
      rw [hb, hn]
      exact ⟨rfl, fun text ht => Option.some.inj ht ▸ hs⟩
    · rename_i hn
      have : b.native = none := by
        rw [Option.eq_none_iff_forall_ne_some]
        exact fun text ht => hn ((hnative text).1 ht).1
      simp [hheader, this]
  | false =>
    obtain ⟨_, _, -, -, rfl⟩ := generate_single hm h
    simp

/-- The header of a bundle is there for native targets, and is the header of the interface. -/
theorem header_eq_some_iff [Stack] (h : generate emitStub c i = .ok b) {text : Text} :
    b.header = some text ↔
      (Platform.target .native).Selected emitStub c ∧ Kotlin.header i = .ok text := by
  obtain ⟨same, rendered⟩ := header_iff_native h
  constructor
  · intro there
    have native : (b.text? (.target .native)).isSome = true := by
      rw [text?, ← same, there]
      rfl
    obtain ⟨_, hnative⟩ := Option.isSome_iff_exists.1 native
    exact ⟨((text?_eq_some_iff h).1 hnative).1, rendered text there⟩
  · rintro ⟨selected, htext⟩
    obtain ⟨_, hnative⟩ := exists_text? h selected
    rw [text?] at hnative
    rw [hnative, Option.isSome_some, Option.isSome_iff_exists] at same
    obtain ⟨text', there⟩ := same
    rw [there, Except.ok.inj ((rendered text' there).symm.trans htext)]

/-- A bundle is generated when every text that it is to hold is. -/
theorem exists_generate_iff [Stack] : (∃ b, generate emitStub c i = .ok b) ↔
    (∃ text, Kotlin.common c i = .ok text) ∧
    (∀ p : Platform, p.Selected emitStub c → ∃ text, platform c i p = .ok text) ∧
    ((Platform.target .native).Selected emitStub c → ∃ text, Kotlin.header i = .ok text) := by
  constructor
  · rintro ⟨b, h⟩
    have selected (p : Platform) (hp : p.Selected emitStub c) :
        ∃ text, b.text? p = some text ∧ platform c i p = .ok text := by
      obtain ⟨text, htext⟩ := exists_text? h hp
      exact ⟨text, htext, ((text?_eq_some_iff h).1 htext).2⟩
    refine ⟨⟨_, generate_common h⟩, fun p hp => (selected p hp).imp fun _ => And.right,
      fun hp => ?_⟩
    obtain ⟨text, htext, -⟩ := selected _ hp
    obtain ⟨same, hheader⟩ := header_iff_native h
    have native : b.native = some text := htext
    rw [native, Option.isSome_some, Option.isSome_iff_exists] at same
    exact same.imp hheader
  · rintro ⟨⟨common, hcommon⟩, hplatform, hheader⟩
    cases hm : c.multiplatform with
    | false =>
      obtain ⟨jvm, hjvm⟩ := hplatform (.target .jvm) (by simp [Platform.Selected, hm])
      rw [generate_of_single hm]
      exact ⟨_, bind_ok_iff.2 ⟨common, hcommon, bind_ok_iff.2 ⟨jvm, hjvm, rfl⟩⟩⟩
    | true =>
      have targets : ∀ t ∈ c.targets, ∃ e : Target × Text,
          (do return (t, ← platform c i (.target t))) = Except.ok e := by
        intro t ht
        obtain ⟨text, htext⟩ := hplatform (.target t) (by simpa [Platform.Selected, hm])
        exact ⟨(t, text), bind_ok_iff.2 ⟨text, htext, rfl⟩⟩
      obtain ⟨texts, htexts⟩ := exists_mapM_ok_iff.2 targets
      obtain ⟨header, hheader⟩ : ∃ text, Rendered (.native ∈ c.targets) (Kotlin.header i) text :=
        exists_rendered fun hn => hheader (by simpa [Platform.Selected, hm])
      obtain ⟨stub, hstub⟩ : ∃ text, Rendered (emitStub = true) (platform c i .stub) text :=
        exists_rendered fun he => hplatform .stub ⟨hm, he⟩
      rw [generate_of_multiplatform hm]
      exact ⟨_, bind_ok_iff.2 ⟨common, hcommon, bind_ok_iff.2 ⟨texts, htexts, bind_ok_iff.2
        ⟨header, rendered_iff.2 hheader, bind_ok_iff.2 ⟨stub, rendered_iff.2 hstub, rfl⟩⟩⟩⟩⟩

end Bundle

/-! ## What the texts consist of -/

namespace Kotlin

variable {c : Config} {i : Interface} {p : Platform} {ks : List Callable} {text : Text}

/-- A text for each function, made of its callable. -/
theorem mapM_of_reads [Stack] {fs : List Table} {g : Table → Except Fault Text}
    {render : Callable → Text} (hks : List.Forall₂ (Callable.Reads c.customTypes) fs ks)
    (hg : ∀ f k, Callable.Reads c.customTypes f k → g f = .ok (render k)) :
    fs.mapM g = .ok (ks.map render) := by
  rw [mapM_ok_iff, List.forall₂_map_right_iff]
  exact hks.imp hg

/-- What the common source has in front of what it expects of the platforms. -/
def commonFront [Stack] (c : Config) (i : Interface) : Except Fault Text := do
  let records ← i.records.mapM (record c)
  let enums ← i.enums.mapM (enum c)
  return opening (c.packageFor i.component) ++ packageImports c ++ customImportLines c ++ "\n" ++
    records.flatten ++ enums.flatten

/-- A common source is its front and the expected declarations. -/
theorem commonBody_eq [Stack] : commonBody c i = (commonFront c i >>= fun front =>
    expectations c i >>= fun functions => pure (front ++ functions)) := by
  unfold commonBody commonFront
  cases i.records.mapM (record c) <;> cases i.enums.mapM (enum c) <;> rfl

/-- The common source of a multiplatform build: its front, and what is expected of every
function. -/
theorem commonBody_cases [Stack] (hm : c.multiplatform = true) (h : commonBody c i = .ok text) :
    ∃ front functions, commonFront c i = .ok front ∧
      i.functions.mapM (expected c) = .ok functions ∧ text = front ++ functions.flatten := by
  rw [commonBody_eq] at h
  simp only [expectations, hm, if_true, bind_ok_iff, pure_ok_iff] at h
  obtain ⟨front, hfront, _, ⟨functions, hfunctions, rfl⟩, rfl⟩ := h
  exact ⟨front, functions, hfront, hfunctions, rfl⟩

/-- Its declarations are those of its callables, in order, and there are none without platforms. -/
theorem commonBody_of_reads [Stack]
    (hks : List.Forall₂ (Callable.Reads c.customTypes) i.functions ks) :
    commonBody c i = (commonFront c i >>= fun front => pure
      (front ++ if c.multiplatform then ks.flatMap Callable.expectation else [])) := by
  rw [commonBody_eq, expectations, mapM_of_reads hks fun _ _ h => h.expected_ok]
  cases c.multiplatform <;> rfl

/-- The common source of a multiplatform build ends with what is expected of every function. -/
theorem common_eq [Stack] (hm : c.multiplatform = true)
    (hks : List.Forall₂ (Callable.Reads c.customTypes) i.functions ks)
    (h : common c i = .ok text) :
    ∃ front, text = finished (front ++ ks.flatMap Callable.expectation) := by
  obtain ⟨_, hbody, rfl⟩ := map_ok_iff.1 h
  rw [commonBody_of_reads hks, if_pos hm] at hbody
  obtain ⟨front, -, hbody⟩ := bind_ok_iff.1 hbody
  obtain rfl := pure_ok_iff.1 hbody
  exact ⟨front, rfl⟩

/-- What a platform's source has in front of its functions and the interface to the library. -/
def front (c : Config) (i : Interface) (p : Platform) : Text :=
  opening (c.packageFor i.component) ++ platformImports c i p ++ packageImports c ++
    customImportLines c ++ "\n"

/-- The interface to the library, which only some platforms have. -/
def libraryPart [Stack] (c : Config) (i : Interface) (p : Platform) : Except Fault Text :=
  if p.isJava then libraryInterface c i p else .ok ""

/-- A platform's source: the interface to the library where there is one, then every function. -/
theorem platformBody_eq [Stack] : platformBody c i p = (libraryPart c i p >>= fun library =>
    i.functions.mapM (actual c i p) >>= fun functions =>
      pure (front c i p ++ library ++ functions.flatten)) := by
  unfold platformBody libraryPart
  cases p.isJava <;> rfl

/-- A platform source has its front, its library and its functions, in this order. -/
theorem platformBody_cases [Stack] (h : platformBody c i p = .ok text) :
    ∃ library functions, libraryPart c i p = .ok library ∧
      i.functions.mapM (actual c i p) = .ok functions ∧
      text = front c i p ++ library ++ functions.flatten := by
  rw [platformBody_eq] at h
  simp only [bind_ok_iff, pure_ok_iff] at h
  obtain ⟨library, hlibrary, functions, hfunctions, rfl⟩ := h
  exact ⟨library, functions, hlibrary, hfunctions, rfl⟩

/-- A platform's source can be made when its interface to the library and its functions can. -/
theorem exists_platform_iff [Stack] : (∃ text, platform c i p = .ok text) ↔
    (∃ library, libraryPart c i p = .ok library) ∧
      ∀ f ∈ i.functions, ∃ s, actual c i p f = .ok s := by
  constructor
  · rintro ⟨_, h⟩
    obtain ⟨_, hbody, -⟩ := map_ok_iff.1 h
    obtain ⟨library, functions, hlibrary, hfunctions, -⟩ := platformBody_cases hbody
    exact ⟨⟨library, hlibrary⟩, exists_mapM_ok_iff.1 ⟨functions, hfunctions⟩⟩
  · rintro ⟨⟨library, hlibrary⟩, defined⟩
    obtain ⟨functions, hfunctions⟩ := exists_mapM_ok_iff.2 defined
    rw [platform, platformBody_eq, hlibrary, hfunctions]
    exact ⟨_, rfl⟩

/-- Its functions are the definitions of its callables, in order. -/
theorem platformBody_of_reads [Stack]
    (hks : List.Forall₂ (Callable.Reads c.customTypes) i.functions ks) :
    platformBody c i p = (libraryPart c i p >>= fun library => pure
      (front c i p ++ library ++ ks.flatMap (Callable.definition c i p))) := by
  rw [platformBody_eq, mapM_of_reads hks fun _ _ h => h.actual_ok p, List.flatMap_def]
  rfl

/-- So its text is that front, that library and these definitions. -/
theorem platform_eq [Stack] (hks : List.Forall₂ (Callable.Reads c.customTypes) i.functions ks)
    (h : platform c i p = .ok text) :
    ∃ library, libraryPart c i p = .ok library ∧
      text = finished (front c i p ++ library ++ ks.flatMap (Callable.definition c i p)) := by
  obtain ⟨_, hbody, rfl⟩ := map_ok_iff.1 h
  rw [platformBody_of_reads hks] at hbody
  obtain ⟨library, hlibrary, hbody⟩ := bind_ok_iff.1 hbody
  obtain rfl := pure_ok_iff.1 hbody
  exact ⟨library, hlibrary, rfl⟩

end Kotlin

/-- Every function of an interface that a bundle was generated for is described by its table. -/
theorem Bundle.exists_callables [Stack] {emitStub : Bool} {c : Config} {i : Interface} {b : Bundle}
    (h : generate emitStub c i = .ok b) :
    ∃ ks, List.Forall₂ (Callable.Reads c.customTypes) i.functions ks := by
  suffices ∀ f ∈ i.functions, ∃ s, signature c.customTypes f = .ok s from
    exists_forall₂ fun f hf => (this f hf).elim fun _ => exists_reads
  cases hm : c.multiplatform with
  | true =>
    obtain ⟨_, hbody, -⟩ := map_ok_iff.1 (generate_common h)
    obtain ⟨-, functions, -, hfunctions, -⟩ := commonBody_cases hm hbody
    intro f hf
    obtain ⟨_, hexpected⟩ := exists_of_forall₂ (mapM_ok_iff.1 hfunctions) f hf
    obtain ⟨s, hs, -⟩ := bind_ok_iff.1 hexpected
    exact ⟨s, hs⟩
  | false =>
    obtain ⟨_, jvm, -, hjvm, -⟩ := generate_single hm h
    obtain ⟨_, hbody, -⟩ := map_ok_iff.1 hjvm
    obtain ⟨-, functions, -, hfunctions, -⟩ := platformBody_cases hbody
    intro f hf
    obtain ⟨_, hactual⟩ := exists_of_forall₂ (mapM_ok_iff.1 hfunctions) f hf
    obtain ⟨s, hs, -⟩ := bind_ok_iff.1 hactual
    exact ⟨s, hs⟩

end Bindery
