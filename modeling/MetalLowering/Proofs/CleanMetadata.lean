import MetalLowering.Command.Job
import MetalLowering.Proofs.Acceptance

/-!
# Failures that the commands expect

The name of a uniform and the name of a texture can be any value of a document. If each of them is a
text and each texture name makes a valid template (`Metadata.Clean`), then whatever the sources are,
a lowering succeeds or fails in a way that the commands report (`lowerPair_reports`). The statement
is carried from step to step by `Reports.bind`.
-/

namespace MetalLowering

open EntryPoint (BoundTexture)
open Json (Value)

/-! ### Expected failures -/

/-- A failure that the commands report. -/
def JobFailure.Expected (e : JobFailure) : Prop := e.cause ≠ .unexpected

/-- A failure of a lowering that the commands report. -/
def Failure.Expected (e : Failure) : Prop := (JobFailure.lowering e).Expected

/-- An outcome that is a success or an expected failure. -/
def Reports {α : Type} (r : Except Failure α) : Prop := ∀ e, r = .error e → e.Expected

/-- A fault of a shader is reported. -/
lemma expected_shader (e : ShaderError) : (Failure.shader e).Expected := by
  simp [Failure.Expected, JobFailure.Expected, JobFailure.cause]

/-- A number with too many digits is reported. -/
lemma expected_tooManyDigits (count : Nat) : (Failure.tooManyDigits count).Expected := by
  simp [Failure.Expected, JobFailure.Expected, JobFailure.cause]

section outcomes

variable {α β : Type}

/-- A success is no failure to report. -/
lemma reports_ok (a : α) : Reports (.ok a : Except Failure α) := by
  intro e h
  cases h

/-- Two steps that fail in expected ways do so together. -/
lemma Reports.bind {r : Except Failure α} {k : α → Except Failure β} (h : Reports r)
    (h' : ∀ a, r = .ok a → Reports (k a)) : Reports (r.bind k) := by
  intro e he
  rcases r with e' | a
  · obtain rfl := Except.error.inj he
    exact h e' rfl
  · exact h' a rfl e he

/-- A check whose faults are expected failures. -/
lemma Decides.reports {r : Except Failure α} {holds : Prop} {fault : Failure → Prop}
    (h : Decides r holds fault) (hfault : ∀ e, fault e → e.Expected) : Reports r := by
  intro e he
  exact hfault e ((h.error_iff e).mp he)

end outcomes

/-- The fault of a scan is expected if each element has only expected ones. -/
lemma expected_of_firstFault {α : Type} {good : α → Prop} {fault : Nat → α → Failure → Prop}
    {first : Nat} {xs : List α} {e : Failure} (hfault : ∀ n, ∀ x ∈ xs, ∀ e, fault n x e → e.Expected)
    (h : FirstFault good fault first xs e) : e.Expected := by
  obtain ⟨before, x, after, rfl, -, hx⟩ := h
  exact hfault _ x (List.mem_append_right before List.mem_cons_self) e hx

/-! ### Checks of the sources -/

/-- Reading declarations fails in expected ways only. -/
lemma Declaration.reports_collect (source : Text) (kind : DeclarationKind) (stage : Stage) :
    Reports (Declaration.collect source kind stage).result := by
  refine (decides_collect source kind stage).reports fun e he => expected_of_firstFault ?_ he
  rintro n line - e ⟨-, hnone | ⟨hform, hlong⟩⟩
  · exact expected_shader _
  · exact expected_tooManyDigits _

/-- Reading samplers fails in expected ways only. -/
lemma Sampler.reports_collect (fragment : Text) : Reports (Sampler.collect fragment).result := by
  refine (decides_collect fragment).reports fun e he => expected_of_firstFault ?_ he
  rintro n line - e ⟨type, name, -, -, rfl⟩
  exact expected_shader _

/-- Uniforms of known kinds, as all documents give them. -/
def Metadata.Known (m : Metadata) : Prop := ∀ u ∈ m.uniforms, ∃ kind, u.kind = .known kind

/-- A uniform from a document has a known kind. -/
lemma Metadata.known_of_uniformOf {entry : Value} {u : Uniform} (h : uniformOf entry = .ok u) :
    ∃ kind, u.kind = .known kind := by
  unfold uniformOf at h
  obtain ⟨kind, -, h⟩ := bind_eq_ok.mp h
  obtain ⟨name, -, h⟩ := bind_eq_ok.mp h
  split at h
  next known _ =>
    obtain rfl := Except.ok.inj h
    exact ⟨known, rfl⟩
  next => cases h

/-- Metadata from a document has known kinds only. -/
lemma Metadata.known_of_ofJson {document : Value} {m : Metadata} (h : ofJson document = .ok m) :
    m.Known := by
  unfold ofJson at h
  split at h
  next =>
    obtain ⟨entries, -, h⟩ := bind_eq_ok.mp h
    obtain ⟨uniforms, huniforms, h⟩ := bind_eq_ok.mp h
    obtain ⟨images, -, h⟩ := bind_eq_ok.mp h
    obtain rfl := Except.ok.inj h
    intro u hu
    obtain ⟨entry, -, hentry⟩ := mem_of_mapM_eq_ok huniforms hu
    exact known_of_uniformOf hentry
  next => cases h

/-- Uniforms of known kinds are refused in expected ways only. -/
lemma Metadata.Known.reports_validate {m : Metadata} (h : m.Known) : Reports m.validate := by
  refine m.decides_validate.reports fun e he => expected_of_firstFault ?_ he
  rintro n u hu e ⟨-, rfl⟩
  obtain ⟨kind, hkind⟩ := h u hu
  rw [Uniform.kindFailure, hkind]
  exact expected_shader _

/-! ### Names that can be worked with -/

/-- A texture name from which a template can be made. -/
def Sampling.Usable (texture : Text) : Prop := ∃ parts, Template.parse (template texture) = .ok parts

/-- Every uniform has a text for its name, and every image is a text that makes a valid template. -/
structure Metadata.Clean (m : Metadata) : Prop where
  /-- Names of uniforms are texts. -/
  uniforms : ∀ u ∈ m.uniforms, ∃ name, u.name = .text name
  /-- Images are texts that make valid templates. -/
  images : ∀ image ∈ m.images, ∃ name, image = .text name ∧ Sampling.Usable name

/-- A texture that makes a template is sampled in any line. -/
lemma Sampling.exists_lower {texture : Text} (h : Usable texture) (line : Text) :
    ∃ out, lower texture line = .ok out := by
  obtain ⟨parts, hparts⟩ := h
  refine ⟨Text.substitute (rule texture parts) line, ?_⟩
  simp only [lower, hparts]

/-- Textures that make templates are sampled in any line, one after the other. -/
lemma Sampling.exists_foldlM {textures : List BoundTexture}
    (h : ∀ texture ∈ textures, Usable texture.name) (line : Text) :
    ∃ out, textures.foldlM (fun line texture => lower texture.name line) line = .ok out := by
  induction textures generalizing line with
  | nil => exact ⟨line, rfl⟩
  | cons texture textures ih =>
      obtain ⟨htexture, htextures⟩ := List.forall_mem_cons.mp h
      obtain ⟨out, hout⟩ := exists_lower htexture line
      rw [List.foldlM_cons, hout]
      exact ih htextures out

namespace Lowering

/-- A lowering whose names are texts and whose textures make templates lowers every line. -/
lemma total_of_usable {s : Lowering} {pairs : List (Text × Text)}
    (htable : s.table = FieldTable.ofPairs pairs)
    (htextures : ∀ texture ∈ s.textures, Sampling.Usable texture.name) : s.Total := by
  intro line
  simp only [lowerBodyLine, htable, FieldTable.lower_ofPairs]
  exact Sampling.exists_foldlM htextures _

/-- A lowering that fails on no line fails in expected ways only. -/
lemma Total.reports_run {s : Lowering} (h : s.Total) (source : Text) :
    Reports (s.run source).result := by
  refine (h.decides_lower source).reports fun e he => ?_
  rw [he.2]
  exact expected_shader _

/-- What is bound makes templates if the names do. -/
lemma usable_of_boundTextures {names : List Text} {types : List (Text × Text)}
    {textures : List BoundTexture} (h : boundTextures (names.map .text) types = .ok textures)
    (husable : ∀ name ∈ names, Sampling.Usable name) :
    ∀ texture ∈ textures, Sampling.Usable texture.name := by
  intro texture hmem
  apply husable
  rw [← names_of_boundTextures h]
  exact List.mem_map_of_mem hmem

/-- Binding textures whose names are texts fails in expected ways only. -/
lemma reports_boundTextures (names : List Text) (types : List (Text × Text)) :
    Reports (boundTextures (names.map .text) types) := by
  refine (decides_boundTextures names types).reports fun e he => expected_of_firstFault ?_ he
  rintro n name - e ⟨spelling, -, -, -, rfl⟩
  exact expected_shader _

end Lowering

/-- Clean images are texts that make templates. -/
lemma exists_texts_of_clean {images : List Value}
    (h : ∀ image ∈ images, ∃ name, image = .text name ∧ Sampling.Usable name) :
    ∃ names : List Text, images = names.map .text ∧ ∀ name ∈ names, Sampling.Usable name := by
  induction images with
  | nil => exact ⟨[], rfl, by simp⟩
  | cons image images ih =>
      obtain ⟨⟨name, rfl, hname⟩, himages⟩ := List.forall_mem_cons.mp h
      obtain ⟨names, rfl, hnames⟩ := ih himages
      exact ⟨name :: names, rfl, List.forall_mem_cons.mpr ⟨hname, hnames⟩⟩

/-- With clean metadata a pair of any sources fails in expected ways only. -/
lemma lowerPair_reports {m : Metadata} (hknown : m.Known) (hclean : m.Clean)
    (fragment vertex : Text) (defines : List Text) :
    Reports (lowerPair fragment vertex m defines).result := by
  obtain ⟨images, himages, husable⟩ := exists_texts_of_clean hclean.images
  simp only [lowerPair, Traced.result_bind, Traced.result_ofExcept]
  refine hknown.reports_validate.bind fun _ hvalid => ?_
  refine (Declaration.reports_collect vertex .attribute .vertex).bind fun attributes _ => ?_
  refine (Declaration.reports_collect vertex .varying .vertex).bind fun varyings _ => ?_
  refine (Sampler.reports_collect fragment).bind fun types _ => ?_
  obtain ⟨uniforms, huniforms⟩ :=
    Metal.uniforms_of_validate (m.decides_validate.ok_iff.mp ⟨_, hvalid⟩)
  simp only [huniforms, Lowering.vertex_result hclean.uniforms,
    Lowering.fragment_result hclean.uniforms, himages, Traced.result_note, Metal.Struct.emit, ok_bind]
  refine Reports.bind ((Lowering.reports_boundTextures images types).bind fun _ _ => reports_ok _)
    fun fragmentStage hstage => ?_
  obtain ⟨textures, htextures, hstage⟩ := bind_eq_ok.mp hstage
  obtain rfl := Except.ok.inj hstage
  refine ((Lowering.plain_ofVertex ..).total.reports_run vertex).bind fun _ _ => ?_
  have htotal : (Lowering.ofFragment m (varyings.map (·.name)) textures).Total :=
    Lowering.total_of_usable rfl (Lowering.usable_of_boundTextures htextures husable)
  exact (htotal.reports_run fragment).bind fun _ _ => reports_ok _

end MetalLowering
