import Mathlib.Logic.Relation
import MetalLowering.Proofs.Acceptance

/-!
# Lines that do not matter

A pair is lowered by four scans, and each of them reads its own lines only.

* The attributes of a vertex source are read off the lines that start with `attribute`, its
  varyings off those that start with `varying` (`Declaration.collect_congr`). Where in the source a
  line stands shows in failures only.
* The kind of a texture is read off the last line that declares it (`Sampler.get?_of_collect`).
* A stage is lowered from the lines that are kept: those from the entry point on, and those before
  it that are not dropped (`Lowering.lowerLines_keptLines`).

Two pairs that agree in all this are lowered alike (`lowerPair_congr`). In particular, lines that no
scan reads can be put in and taken out before the entry point, and a line that is dropped there can
be moved past any other that is not read by the same scan (`Edits`).
-/

namespace MetalLowering

open Json (Value)

/-! ### Declarations -/

namespace Declaration

variable {kind : DeclarationKind} {stage : Stage} {vertex vertex' : Text}

/-- The number of a line shows in failures only. -/
lemma ofLine_eq_ok_iff {lineNumber lineNumber' ordinal : Nat} {line : Text} {d : Declaration} :
    ofLine kind stage lineNumber ordinal line = .ok d ↔
      ofLine kind stage lineNumber' ordinal line = .ok d := by
  unfold ofLine
  split
  · simp
  · rfl

/-- Lines that do not start with the keyword are passed over. -/
lemma collectFrom_filter (lines : List Text) (lineNumber lineNumber' ordinal : Nat)
    (ds : List Declaration) :
    (collectFrom kind stage lineNumber ordinal lines).result = .ok ds ↔
      (collectFrom kind stage lineNumber' ordinal (lines.filter (startsWith kind))).result =
        .ok ds := by
  induction lines generalizing lineNumber lineNumber' ordinal ds with
  | nil => rfl
  | cons line rest ih =>
      by_cases hline : startsWith kind line = true
      · rw [List.filter_cons_of_pos hline]
        simp only [collectFrom, hline, if_true, Traced.result_bind, Traced.result_ofExcept,
          Traced.result_note, ok_bind]
        refine bind_eq_ok.trans (Iff.trans ?_ bind_eq_ok.symm)
        refine exists_congr fun d => and_congr ofLine_eq_ok_iff ?_
        refine bind_eq_ok.trans (Iff.trans ?_ bind_eq_ok.symm)
        exact exists_congr fun rest => and_congr (ih _ _ _ _) Iff.rfl
      · rw [List.filter_cons_of_neg hline]
        simp only [collectFrom, hline]
        exact ih _ _ _ _

/-- The declarations of a kind are those on the lines with its keyword. -/
lemma collect_congr
    (h : (Text.lines vertex).filter (startsWith kind) =
      (Text.lines vertex').filter (startsWith kind))
    {ds : List Declaration} :
    (collect vertex kind stage).result = .ok ds ↔ (collect vertex' kind stage).result = .ok ds := by
  rw [collect, collect, collectFrom_filter _ 1 1, h, ← collectFrom_filter _ 1 1]

end Declaration

/-! ### Samplers -/

namespace Sampler

/-- The sampler type that a line declares a name with. -/
def typeOn (name line : Text) : Option Text :=
  match parts? line with
  | some (type, other) => if other = name then some type else none
  | none => none

/-- The sampler type of the last line that declares a name. -/
def declared (name : Text) : List Text → Option Text
  | [] => none
  | line :: rest => (declared name rest).or (typeOn name line)

/-- Among lines one after the other, the later ones decide on the type of a name. -/
lemma declared_append (name : Text) (lines rest : List Text) :
    declared name (lines ++ rest) = (declared name rest).or (declared name lines) := by
  induction lines with
  | nil => rw [List.nil_append, declared, Option.or_none]
  | cons line lines ih => rw [List.cons_append, declared, declared, ih, Option.or_assoc]

/-- What is found for a name after some lines is what they declare, or what was found before. -/
lemma get?_of_collectFrom {lines : List Text} {lineNumber : Nat} {types types' : List (Text × Text)}
    (h : (collectFrom lineNumber types lines).result = .ok types') (name : Text) :
    Table.get? name types' = (declared name lines).or (Table.get? name types) := by
  induction lines generalizing lineNumber types with
  | nil => rw [← Except.ok.inj h, declared, Option.none_or]
  | cons line rest ih =>
      rcases hparts : parts? line with _ | ⟨type, other⟩
      · simp only [collectFrom, hparts] at h
        rw [ih h, declared, typeOn, hparts, Option.or_none]
      · by_cases hother : Text.isIdentifier other = true
        · simp only [collectFrom, hparts, hother, if_true, Traced.result_bind, Traced.result_note,
            ok_bind] at h
          rw [ih h, Table.get?_put, declared, typeOn, hparts]
          by_cases hname : other = name
          · simp [hname]
          · simp [hname]
        · simp only [collectFrom, hparts, hother] at h
          cases h

/-- The type of a name is that of the last line which declares it. -/
lemma get?_of_collect {fragment : Text} {types : List (Text × Text)}
    (h : (collect fragment).result = .ok types) (name : Text) :
    Table.get? name types = declared name (Text.lines fragment) := by
  rw [get?_of_collectFrom h name, Table.get?, Option.or_none]

/-- Both sources give the same kind to each of the images. -/
def SameKinds (images : List Value) (fragment fragment' : Text) : Prop :=
  ∀ types types', (collect fragment).result = .ok types → (collect fragment').result = .ok types' →
    ∀ name, .text name ∈ images → ∀ kind,
      resolve name types = .ok kind ↔ resolve name types' = .ok kind

end Sampler

namespace Lowering

/-- Textures are bound alike if their kinds are the same. -/
lemma boundTextures_of_kinds {images : List Value} {types types' : List (Text × Text)}
    (h : ∀ name, .text name ∈ images → ∀ kind,
      Sampler.resolve name types = .ok kind → Sampler.resolve name types' = .ok kind)
    {textures : List EntryPoint.BoundTexture}
    (htextures : boundTextures images types = .ok textures) :
    boundTextures images types' = .ok textures := by
  obtain ⟨kinds, hkinds, htextures⟩ := bind_eq_ok.mp htextures
  refine bind_eq_ok.mpr ⟨kinds, mapM_eq_ok_of_imp (fun image himage given hgiven => ?_) hkinds,
    htextures⟩
  cases image with
  | text name =>
      obtain ⟨kind, hkind, hgiven⟩ := bind_eq_ok.mp hgiven
      exact bind_eq_ok.mpr ⟨kind, h name himage kind hkind, hgiven⟩
  | _ => exact hgiven

/-- The fragment lowering depends on the kinds that the images resolve to. -/
lemma fragment_of_kinds {metadata : Metadata} {varyings : List Text}
    {types types' : List (Text × Text)}
    (h : ∀ name, .text name ∈ metadata.images → ∀ kind,
      Sampler.resolve name types = .ok kind → Sampler.resolve name types' = .ok kind)
    {s : Lowering} (hs : (fragment metadata varyings types).result = .ok s) :
    (fragment metadata varyings types').result = .ok s := by
  simp only [fragment, Traced.result_bind, Traced.result_ofExcept] at hs ⊢
  obtain ⟨table, htable, hs⟩ := bind_eq_ok.mp hs
  obtain ⟨textures, htextures, hs⟩ := bind_eq_ok.mp hs
  rw [htable, ok_bind, boundTextures_of_kinds h htextures]
  exact hs

/-! ### Kept lines -/

/-- The lines that a stage is lowered from: those before the entry point that are not dropped, and
all lines from there on. -/
def keptLines (lines : List Text) : List Text :=
  (lines.takeWhile (!isEntryPoint ·)).filter (!isDropped ·) ++ lines.dropWhile (!isEntryPoint ·)

/-- From the entry point on all lines are kept. -/
lemma keptLines_of_entry {line : Text} (h : isEntryPoint line = true) (rest : List Text) :
    keptLines (line :: rest) = line :: rest := by
  simp [keptLines, h]

/-- Before the entry point the dropped lines are left out. -/
lemma keptLines_append (before : List Text) (h : ∀ line ∈ before, isEntryPoint line = false)
    (rest : List Text) :
    keptLines (before ++ rest) = before.filter (!isDropped ·) ++ keptLines rest := by
  have hpass : ∀ line ∈ before, (!isEntryPoint line) = true := by
    intro line hline
    rw [h line hline]
    rfl
  rw [keptLines, List.takeWhile_append_of_pos hpass, List.dropWhile_append_of_pos hpass,
    List.filter_append, List.append_assoc, ← keptLines]

/-- A dropped line is no entry point. -/
lemma isEntryPoint_of_isDropped {line : Text} (h : isDropped line = true) :
    isEntryPoint line = false := by
  rw [isEntryPoint, h]
  rfl

/-- A dropped line in front of others makes no difference. -/
lemma keptLines_of_dropped {line : Text} (h : isDropped line = true) (rest : List Text) :
    keptLines (line :: rest) = keptLines rest := by
  have happend := keptLines_append [line] (by simpa using isEntryPoint_of_isDropped h) rest
  simpa [h] using happend

/-- A line of the preamble is dropped or put out on its own. -/
lemma lowerLines_preamble_cons (s : Lowering) {line : Text} (h : isEntryPoint line = false)
    (rest : List Text) :
    s.lowerLines .preamble (line :: rest) =
      Emission.append ⟨if isDropped line then [] else [s.mapLine line], none⟩
        (s.lowerLines .preamble rest) := by
  rw [lowerLines, lowerLine_preamble_of_not_entry s h]

/-- A stage is lowered from its kept lines. -/
lemma lowerLines_keptLines (s : Lowering) (lines : List Text) :
    s.lowerLines .preamble (keptLines lines) = s.lowerLines .preamble lines := by
  induction lines with
  | nil => rfl
  | cons line rest ih =>
      by_cases hentry : isEntryPoint line = true
      · rw [keptLines_of_entry hentry]
      have hentry' : isEntryPoint line = false := by simpa using hentry
      rw [lowerLines_preamble_cons s hentry', ← ih]
      by_cases hdrop : isDropped line = true
      · rw [keptLines_of_dropped hdrop, if_pos hdrop]
        rfl
      · have hcons : keptLines (line :: rest) = line :: keptLines rest := by
          have happend := keptLines_append [line] (by simpa using hentry') rest
          simpa [hdrop] using happend
        rw [hcons, lowerLines_preamble_cons s hentry']

/-- Sources with the same kept lines are lowered to the same. -/
lemma run_congr {source source' : Text}
    (h : keptLines (Text.lines source) = keptLines (Text.lines source')) (s : Lowering) :
    (s.run source).result = (s.run source').result := by
  rw [run, run, lower, lower, ← lowerLines_keptLines, h, lowerLines_keptLines]

end Lowering

open Lowering (isDropped isEntryPoint keptLines)

/-! ### Sources that are read alike -/

/-- What is read of a vertex source. -/
structure VertexView where
  /-- The lines that start with `attribute`. -/
  attributes : List Text
  /-- The lines that start with `varying`. -/
  varyings : List Text
  /-- The lines that are kept. -/
  kept : List Text

/-- What is read of the lines of a vertex source. -/
def vertexView (lines : List Text) : VertexView where
  attributes := lines.filter (Declaration.startsWith .attribute)
  varyings := lines.filter (Declaration.startsWith .varying)
  kept := keptLines lines

/-- Fragment sources with the same kept lines that give the same kinds to the images. -/
structure SameFragment (images : List Value) (fragment fragment' : Text) : Prop where
  /-- The kept lines are the same. -/
  kept : keptLines (Text.lines fragment) = keptLines (Text.lines fragment')
  /-- The kinds are the same. -/
  kinds : Sampler.SameKinds images fragment fragment'

/-- A pair that is lowered is lowered alike from sources that are read alike, if only their samplers
can be read. -/
lemma lowerPair_of_same {fragment fragment' vertex vertex' : Text} {metadata : Metadata}
    {defines : List Text} {out : Text} {types' : List (Text × Text)}
    (hvertex : vertexView (Text.lines vertex) = vertexView (Text.lines vertex'))
    (hfragment : SameFragment metadata.images fragment fragment')
    (htypes' : (Sampler.collect fragment').result = .ok types')
    (h : (lowerPair fragment vertex metadata defines).result = .ok out) :
    (lowerPair fragment' vertex' metadata defines).result = .ok out := by
  simp only [lowerPair, Traced.result_bind, Traced.result_ofExcept, Traced.result_note,
    Metal.Struct.emit, ok_bind] at h ⊢
  obtain ⟨_, hvalid, h⟩ := bind_eq_ok.mp h
  obtain ⟨attributes, hattributes, h⟩ := bind_eq_ok.mp h
  obtain ⟨varyings, hvaryings, h⟩ := bind_eq_ok.mp h
  obtain ⟨types, htypes, h⟩ := bind_eq_ok.mp h
  obtain ⟨uniforms, huniforms, h⟩ := bind_eq_ok.mp h
  obtain ⟨vertexStage, hvertexStage, h⟩ := bind_eq_ok.mp h
  obtain ⟨fragmentStage, hfragmentStage, h⟩ := bind_eq_ok.mp h
  have hattributes' := (Declaration.collect_congr (congrArg (·.attributes) hvertex)).mp hattributes
  have hvaryings' := (Declaration.collect_congr (congrArg (·.varyings) hvertex)).mp hvaryings
  have hkinds : ∀ name, .text name ∈ metadata.images → ∀ kind,
      Sampler.resolve name types = .ok kind → Sampler.resolve name types' = .ok kind := by
    intro name hname kind
    exact (hfragment.kinds types types' htypes htypes' name hname kind).mp
  have hstage' := Lowering.fragment_of_kinds hkinds hfragmentStage
  rw [hvalid, hattributes', hvaryings', htypes', huniforms]
  simp only [ok_bind, hvertexStage, hstage']
  rw [← Lowering.run_congr (congrArg (·.kept) hvertex), ← Lowering.run_congr hfragment.kept]
  exact h

/-- A pair is lowered only if its samplers can be read. -/
lemma exists_types_of_lowerPair {fragment vertex : Text} {metadata : Metadata} {defines : List Text}
    {out : Text} (h : (lowerPair fragment vertex metadata defines).result = .ok out) :
    ∃ types, (Sampler.collect fragment).result = .ok types := by
  simp only [lowerPair, Traced.result_bind] at h
  obtain ⟨_, _, h⟩ := bind_eq_ok.mp h
  obtain ⟨_, _, h⟩ := bind_eq_ok.mp h
  obtain ⟨_, _, h⟩ := bind_eq_ok.mp h
  obtain ⟨types, htypes, _⟩ := bind_eq_ok.mp h
  exact ⟨types, htypes⟩

/-! ### Edits -/

/-- A change of the lines of a source that is made before the entry point: which lines are idle, and
which lines can be moved past each other. -/
inductive Edit (idle : Text → Prop) (apart : Text → Text → Prop) : List Text → List Text → Prop
  /-- An idle line is put in. -/
  | insert {before after : List Text} {line : Text} :
      (∀ l ∈ before, isEntryPoint l = false) → idle line →
        Edit idle apart (before ++ after) (before ++ line :: after)
  /-- A line that is dropped is moved past the next one. -/
  | exchange {before after : List Text} {line other : Text} :
      (∀ l ∈ before, isEntryPoint l = false) → isDropped line = true → isEntryPoint other = false →
      apart line other →
        Edit idle apart (before ++ line :: other :: after) (before ++ other :: line :: after)

/-- A source comes from another one by edits, made or taken back. -/
def Edits (idle : Text → Prop) (apart : Text → Text → Prop) (source source' : Text) : Prop :=
  Relation.EqvGen (Edit idle apart) (Text.lines source) (Text.lines source')

/-- A line of a vertex source that is dropped and declares nothing that is read. -/
def IdleInVertex (line : Text) : Prop :=
  ∃ word ∈ (["uniform", "precision", "#version"] : List Text), (Text.words line).head? = some word

/-- Lines of a vertex source that do not declare something of one kind. -/
def ApartInVertex (line other : Text) : Prop :=
  ∀ kind, Declaration.startsWith kind line = true → Declaration.startsWith kind other = false

/-- Edits of a vertex source. -/
def VertexEdits : Text → Text → Prop := Edits IdleInVertex ApartInVertex

/-- A line of a fragment source that is dropped and declares no image. -/
def IdleInFragment (images : List Value) (line : Text) : Prop :=
  isDropped line = true ∧
    ∀ type name, Sampler.parts? line = some (type, name) → .text name ∉ images

/-- Lines of a fragment source that do not declare one image. -/
def ApartInFragment (images : List Value) (line other : Text) : Prop :=
  ∀ type type' name, Sampler.parts? line = some (type, name) →
    Sampler.parts? other = some (type', name) → .text name ∉ images

/-- Edits of a fragment source whose images are given. -/
def FragmentEdits (images : List Value) : Text → Text → Prop :=
  Edits (IdleInFragment images) (ApartInFragment images)

section edits

variable {idle : Text → Prop} {apart : Text → Text → Prop} {lines lines' : List Text}

/-- What no single edit changes, edits do not change. -/
lemma Edits.eq_of_edit {α : Type} {view : List Text → α}
    (h : ∀ {lines lines'}, Edit idle apart lines lines' → view lines = view lines')
    {source source' : Text} (hedits : Edits idle apart source source') :
    view (Text.lines source) = view (Text.lines source') := by
  unfold Edits at hedits
  generalize Text.lines source = lines, Text.lines source' = lines' at hedits
  induction hedits with
  | rel _ _ hedit => exact h hedit
  | refl _ => rfl
  | symm _ _ _ ih => exact ih.symm
  | trans _ _ _ _ _ ih ih' => exact ih.trans ih'

/-- No edit changes the kept lines. -/
lemma Edit.keptLines_eq (hidle : ∀ line, idle line → isDropped line = true)
    (h : Edit idle apart lines lines') : keptLines lines = keptLines lines' := by
  cases h with
  | insert hbefore hline =>
      rw [Lowering.keptLines_append _ hbefore, Lowering.keptLines_append _ hbefore,
        Lowering.keptLines_of_dropped (hidle _ hline)]
  | @exchange before after line other hbefore hline hother =>
      have hpast : ∀ rest, keptLines (other :: rest) =
          [other].filter (!isDropped ·) ++ keptLines rest :=
        Lowering.keptLines_append [other] (by simpa using hother)
      rw [Lowering.keptLines_append _ hbefore, Lowering.keptLines_append _ hbefore,
        Lowering.keptLines_of_dropped hline, hpast, hpast, Lowering.keptLines_of_dropped hline]

/-- Lines of which at most one is in a class can be exchanged before the class is looked at. -/
lemma filter_exchange {p : Text → Bool} {line other : Text} (h : p line = true → p other = false)
    (before after : List Text) :
    (before ++ line :: other :: after).filter p = (before ++ other :: line :: after).filter p := by
  by_cases hline : p line = true
  · simp [hline, h hline]
  · simp [hline, List.filter_cons]

/-- A line that is idle in the vertex source is dropped. -/
lemma IdleInVertex.isDropped {line : Text} (h : IdleInVertex line) : isDropped line = true := by
  obtain ⟨word, hword, hhead⟩ := h
  have hsub : (["uniform", "precision", "#version"] : List Text) ⊆ Lowering.droppedWords := by
    decide
  rw [Lowering.isDropped, hhead, Option.any_some, List.contains_iff_mem]
  exact hsub hword

/-- A line that is idle in the vertex source declares nothing. -/
lemma IdleInVertex.startsWith {line : Text} (h : IdleInVertex line) (kind : DeclarationKind) :
    Declaration.startsWith kind line = false := by
  obtain ⟨word, hword, hhead⟩ := h
  have hkeyword : kind.keyword ∉ (["uniform", "precision", "#version"] : List Text) := by
    cases kind <;> decide
  rw [Declaration.startsWith, hhead, decide_eq_false_iff_not, Option.some.injEq]
  rintro rfl
  exact hkeyword hword

/-- No edit changes what is read of a vertex source. -/
lemma Edit.vertexView_eq (h : Edit IdleInVertex ApartInVertex lines lines') :
    vertexView lines = vertexView lines' := by
  have hkept := h.keptLines_eq fun _ => IdleInVertex.isDropped
  have hfilter : ∀ kind, lines.filter (Declaration.startsWith kind) =
      lines'.filter (Declaration.startsWith kind) := by
    intro kind
    cases h with
    | insert hbefore hline =>
        rw [List.filter_append, List.filter_append, List.filter_cons_of_neg]
        simp [hline.startsWith kind]
    | exchange hbefore hline hother hapart => exact filter_exchange (hapart kind) _ _
  rw [vertexView, vertexView, hfilter, hfilter, hkept]

/-- A line gives a type for a name exactly if it declares a sampler of that type and name. -/
lemma typeOn_eq_some_iff {name line type : Text} :
    Sampler.typeOn name line = some type ↔ Sampler.parts? line = some (type, name) := by
  unfold Sampler.typeOn
  rcases Sampler.parts? line with _ | ⟨type', other⟩
  · simp
  · simp [and_comm]

/-- No edit changes the type that an image is declared with. -/
lemma Edit.declared_eq {images : List Value}
    (h : Edit (IdleInFragment images) (ApartInFragment images) lines lines') {name : Text}
    (hname : .text name ∈ images) :
    Sampler.declared name lines = Sampler.declared name lines' := by
  cases h with
  | @insert before after line hbefore hline =>
      have hnone : Sampler.typeOn name line = none := by
        rw [Option.eq_none_iff_forall_ne_some]
        intro type htype
        exact hline.2 type name (typeOn_eq_some_iff.mp htype) hname
      rw [Sampler.declared_append, Sampler.declared_append, Sampler.declared, hnone, Option.or_none]
  | @exchange before after line other hbefore hline hother hapart =>
      have hcomm : (Sampler.typeOn name other).or (Sampler.typeOn name line) =
          (Sampler.typeOn name line).or (Sampler.typeOn name other) := by
        rcases htype : Sampler.typeOn name line with _ | type
        · rw [Option.or_none, Option.none_or]
        · have hnone : Sampler.typeOn name other = none := by
            rw [Option.eq_none_iff_forall_ne_some]
            intro type' htype'
            exact hapart type type' name (typeOn_eq_some_iff.mp htype)
              (typeOn_eq_some_iff.mp htype') hname
          rw [hnone, Option.or_none, Option.none_or]
      simp only [Sampler.declared_append, Sampler.declared, Option.or_assoc, hcomm]

end edits

/-- Edited fragment sources are the same as far as they are read. -/
lemma FragmentEdits.sameFragment {images : List Value} {fragment fragment' : Text}
    (h : FragmentEdits images fragment fragment') : SameFragment images fragment fragment' where
  kept := h.eq_of_edit (Edit.keptLines_eq fun _ hline => hline.1)
  kinds types types' htypes htypes' name hname kind := by
    have hdeclared := h.eq_of_edit fun hedit => hedit.declared_eq hname
    have hget : Table.get? name types = Table.get? name types' := by
      rw [Sampler.get?_of_collect htypes, Sampler.get?_of_collect htypes', hdeclared]
    rw [Sampler.resolve, Sampler.resolve, hget]

/-- Two pairs are lowered alike if their vertex sources have the same attribute lines, the same
varying lines and the same kept lines, and their fragment sources the same kept lines and the same
kinds of the images. So no edit before the entry points changes what a pair is lowered to, if only
the samplers can still be read after it. -/
theorem lowerPair_congr (fragment fragment' vertex vertex' : Text) (metadata : Metadata)
    (defines : List Text) :
    (vertexView (Text.lines vertex) = vertexView (Text.lines vertex') →
      SameFragment metadata.images fragment fragment' →
      ∀ out out', (lowerPair fragment vertex metadata defines).result = .ok out →
        (lowerPair fragment' vertex' metadata defines).result = .ok out' → out = out') ∧
    (VertexEdits vertex vertex' → FragmentEdits metadata.images fragment fragment' →
      (∀ line ∈ Text.lines fragment', Sampler.Readable line) →
      ∀ out, (lowerPair fragment vertex metadata defines).result = .ok out →
        (lowerPair fragment' vertex' metadata defines).result = .ok out) := by
  constructor
  · intro hvertex hfragment out out' hout hout'
    obtain ⟨types', htypes'⟩ := exists_types_of_lowerPair hout'
    have hsame := lowerPair_of_same hvertex hfragment htypes' hout
    exact Except.ok.inj (hsame.symm.trans hout')
  · intro hvertex hfragment hreadable out hout
    obtain ⟨types', htypes'⟩ := (Sampler.decides_collect fragment').ok_iff.mpr hreadable
    have hviews := hvertex.eq_of_edit Edit.vertexView_eq
    exact lowerPair_of_same hviews hfragment.sameFragment htypes' hout

/-- A vertex source with a line that is not read. -/
def idleVertex : Text :=
  "uniform mat4 m;\nattribute vec3 p;\nvarying vec2 u;\nvoid main() \x7b\n\x7d\n"

/-- The same without it, and with the declarations in another order. -/
def reorderedVertex : Text :=
  "varying vec2 u;\nattribute vec3 p;\nvoid main() \x7b\n\x7d\n"

/-- A fragment source with one texture. -/
def cubeFragment : Text := "uniform samplerCube env;\nvoid main() \x7b\n\x7d\n"

/-- The same with one more. -/
def extendedFragment : Text :=
  "uniform sampler2D free;\nuniform samplerCube env;\nvoid main() \x7b\n\x7d\n"

/-- The two pairs are lowered alike where only the first texture is bound. -/
theorem lowerPair_congr_reordered :
    vertexView (Text.lines idleVertex) = vertexView (Text.lines reorderedVertex) ∧
    SameFragment [.text "env"] cubeFragment extendedFragment ∧
    ∃ out, (lowerPair cubeFragment idleVertex ⟨[], [.text "env"]⟩ []).result = .ok out ∧
      (lowerPair extendedFragment reorderedVertex ⟨[], [.text "env"]⟩ []).result = .ok out ∧
      ∀ out', (lowerPair extendedFragment reorderedVertex ⟨[], [.text "env"]⟩ []).result = .ok out' →
        out = out' := by
  have hvertex : VertexEdits idleVertex reorderedVertex := by
    have hremove : Edit IdleInVertex ApartInVertex
        ["attribute vec3 p;", "varying vec2 u;", "void main() \x7b", "\x7d"]
        ["uniform mat4 m;", "attribute vec3 p;", "varying vec2 u;", "void main() \x7b", "\x7d"] :=
      Edit.insert (List.forall_mem_nil _) ⟨"uniform", by decide, by decide⟩
    have hexchange : Edit IdleInVertex ApartInVertex
        ["attribute vec3 p;", "varying vec2 u;", "void main() \x7b", "\x7d"]
        ["varying vec2 u;", "attribute vec3 p;", "void main() \x7b", "\x7d"] := by
      refine Edit.exchange (List.forall_mem_nil _) (by decide) (by decide) ?_
      rintro (_ | _ | _) <;> decide
    have hlines : Text.lines idleVertex =
        ["uniform mat4 m;", "attribute vec3 p;", "varying vec2 u;", "void main() \x7b", "\x7d"] := by
      decide +kernel
    have hlines' : Text.lines reorderedVertex =
        ["varying vec2 u;", "attribute vec3 p;", "void main() \x7b", "\x7d"] := by
      decide +kernel
    rw [VertexEdits, Edits, hlines, hlines']
    exact ((Relation.EqvGen.rel _ _ hremove).symm).trans _ _ _ (.rel _ _ hexchange)
  have hfragment : FragmentEdits [.text "env"] cubeFragment extendedFragment := by
    have hinsert : Edit (IdleInFragment [.text "env"]) (ApartInFragment [.text "env"])
        ["uniform samplerCube env;", "void main() \x7b", "\x7d"]
        ["uniform sampler2D free;", "uniform samplerCube env;", "void main() \x7b", "\x7d"] := by
      have hparts : Sampler.parts? "uniform sampler2D free;" =
          some ("sampler2D".toList, "free".toList) := rfl
      refine Edit.insert (List.forall_mem_nil _) ⟨by decide, ?_⟩
      intro type name hdeclared
      obtain ⟨-, rfl⟩ := Prod.mk.inj (Option.some.inj (hparts.symm.trans hdeclared))
      simp
    have hlines : Text.lines cubeFragment =
        ["uniform samplerCube env;", "void main() \x7b", "\x7d"] := by
      decide +kernel
    have hlines' : Text.lines extendedFragment =
        ["uniform sampler2D free;", "uniform samplerCube env;", "void main() \x7b", "\x7d"] := by
      decide +kernel
    rw [FragmentEdits, Edits, hlines, hlines']
    exact .rel _ _ hinsert
  have hreadable : ∀ line ∈ Text.lines extendedFragment, Sampler.Readable line :=
    (Sampler.decides_collect extendedFragment).ok_iff.mp ⟨_, rfl⟩
  have hviews := hvertex.eq_of_edit Edit.vertexView_eq
  obtain ⟨out, hout⟩ : ∃ out,
      (lowerPair cubeFragment idleVertex ⟨[], [.text "env"]⟩ []).result = .ok out := ⟨_, rfl⟩
  have hcongr := lowerPair_congr cubeFragment extendedFragment idleVertex reorderedVertex
    ⟨[], [.text "env"]⟩ []
  refine ⟨hviews, hfragment.sameFragment, out, hout, ?_, ?_⟩
  · exact hcongr.2 hvertex hfragment hreadable out hout
  · intro out'
    exact hcongr.1 hviews hfragment.sameFragment out out' hout

end MetalLowering
