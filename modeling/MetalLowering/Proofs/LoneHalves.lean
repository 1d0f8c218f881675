import Mathlib.Data.List.Nodup
import Mathlib.Data.List.Range
import MetalLowering.Command.Job
import MetalLowering.Proofs.StructFields

/-!
# Names in the result, and halves in names

Every name of the metadata comes into the result of a shader pair, uniforms as fields of their
struct and textures as parameters of the fragment function (`mem_of_lowerPair`). So a character that
stands in for half of a surrogate pair in a name stands in the result, which cannot be encoded then
(`HalvedText.exists_encode_eq_error`), while a text without stand-ins always can
(`HalvedText.encode_of_halves_eq_nil`).

A stand-in is told apart in the result because it occurs in nothing else that the result is made of,
and no two halves have the same one (`Job.fresh_of_mem_standIns`).
-/

namespace MetalLowering

open EntryPoint (BoundTexture)
open Json (Value)

/-! ### Lines of the result -/

/-- A character of a line is one of the code. -/
lemma mem_code {lines : List Text} {line : Text} {c : Char} (hline : line ∈ lines) (hc : c ∈ line) :
    c ∈ code lines :=
  List.mem_flatMap.mpr ⟨line, hline, List.mem_append_left _ hc⟩

/-- An emission after another one goes on only if the first was not stopped. -/
lemma Emission.append_failure_eq_none {a b : Emission} (h : (a.append b).failure = none) :
    a.failure = none ∧ b.failure = none := by
  unfold Emission.append at h
  split at h
  next failure hfailure =>
    rw [hfailure] at h
    cases h
  next hnone => exact ⟨hnone, h⟩

namespace Lowering

variable {s : Lowering} {line : Text}

/-- The entry point puts out the signature. -/
lemma mem_lowerLine_of_signature {entry : Text} (hentry : isEntryPoint entry = true)
    (hline : line ∈ s.signature) : line ∈ (s.lowerLine .preamble entry).1.lines := by
  rcases hcut : (Text.cutAt "\x7b" entry).2 with _ | rest
  · rw [lowerLine_entry_of_no_brace s hentry hcut]
    exact hline
  · rw [lowerLine_entry_of_brace s hentry hcut]
    exact List.mem_append_left _ hline

/-- A run that is not stopped puts out the signature. -/
lemma mem_lowerLines_of_signature {lines : List Text} (hline : line ∈ s.signature)
    (h : (s.lowerLines .preamble lines).failure = none) :
    line ∈ (s.lowerLines .preamble lines).lines := by
  induction lines with
  | nil => cases h
  | cons first rest ih =>
      simp only [lowerLines] at h ⊢
      obtain ⟨hfirst, hrest⟩ := Emission.append_failure_eq_none h
      rw [append_lines hfirst, List.mem_append]
      by_cases hentry : isEntryPoint first = true
      · exact Or.inl (mem_lowerLine_of_signature hentry hline)
      · rw [lowerLine_preamble_of_not_entry s (by simpa using hentry)] at hrest ⊢
        exact Or.inr (ih hrest)

/-- A source that is lowered has the signature among its lines. -/
lemma mem_lower_of_signature {source : Text} {lines : List Text} (hline : line ∈ s.signature)
    (h : (s.lower source).result = .ok lines) : line ∈ lines := by
  unfold Emission.result at h
  split at h
  next => cases h
  next hnone =>
    obtain rfl := Except.ok.inj h
    exact mem_lowerLines_of_signature hline hnone

/-- Each image that is a text is bound as a texture. -/
lemma exists_texture_of_image {images : List Value} {types : List (Text × Text)}
    {textures : List BoundTexture} (h : boundTextures images types = .ok textures) {name : Text}
    (hname : .text name ∈ images) : ∃ texture ∈ textures, texture.name = name := by
  obtain ⟨kinds, hkinds, h⟩ := bind_eq_ok.mp h
  obtain ⟨bound, hbound, hkind⟩ := exists_mem_of_mapM_eq_ok hkinds hname
  obtain ⟨kind, -, hbound'⟩ := bind_eq_ok.mp hkind
  obtain rfl := Except.ok.inj hbound'
  obtain ⟨texture, htexture, hok⟩ := exists_mem_of_mapM_eq_ok h hbound
  exact ⟨texture, htexture, by rw [← Except.ok.inj hok]⟩

/-- How the fragment stage is lowered: with the textures of the metadata. -/
lemma textures_of_fragment {metadata : Metadata} {varyings : List Text} {types : List (Text × Text)}
    (h : (fragment metadata varyings types).result = .ok s) :
    s.stage = .fragment ∧ boundTextures metadata.images types = .ok s.textures := by
  simp only [fragment, Traced.result_bind, Traced.result_ofExcept] at h
  obtain ⟨table, -, h⟩ := bind_eq_ok.mp h
  obtain ⟨textures, htextures, h⟩ := bind_eq_ok.mp h
  obtain rfl := Except.ok.inj h
  exact ⟨rfl, htextures⟩

end Lowering

/-! ### Names in lines -/

/-- The name of a texture stands in a parameter of its function. -/
lemma EntryPoint.exists_parameter {texture : BoundTexture} {textures : List BoundTexture}
    (h : texture ∈ textures) (slot : Nat) :
    ∃ parameter ∈ textureParameters slot textures, texture.name ⊆ parameter := by
  induction textures generalizing slot with
  | nil => cases h
  | cons first textures ih =>
      rcases List.mem_cons.mp h with rfl | h
      · refine ⟨_, List.mem_cons_self, fun c hc => ?_⟩
        simp only [List.mem_append]
        tauto
      · obtain ⟨parameter, hparameter, hname⟩ := ih h (slot + 1)
        exact ⟨parameter, List.mem_cons_of_mem _ (List.mem_cons_of_mem _ hparameter), hname⟩

/-- The name of a texture stands in the signature of the fragment function. -/
lemma EntryPoint.exists_signature_line {texture : BoundTexture} {textures : List BoundTexture}
    (h : texture ∈ textures) :
    ∃ line ∈ signature .fragment textures, texture.name ⊆ line := by
  obtain ⟨parameter, hparameter, hname⟩ := exists_parameter h 0
  have hmem : parameter ∈ parameters .fragment textures :=
    List.mem_cons_of_mem _ (List.mem_cons_of_mem _ hparameter)
  have hsignature : ∀ line ∈ separated (parameters .fragment textures),
      line ∈ signature .fragment textures := by
    intro line hline
    exact List.mem_append_left _ (List.mem_cons_of_mem _ hline)
  rcases Metal.mem_separated_or hmem with hplain | hcomma
  · exact ⟨parameter, hsignature _ hplain, hname⟩
  · exact ⟨_, hsignature _ hcomma, fun c hc => List.mem_append_left _ (hname hc)⟩

/-- The name of a field stands in its line. -/
lemma Metal.Field.name_subset_line (f : Field) : f.name ⊆ f.line := by
  intro c hc
  unfold Field.line
  split <;>
  · simp only [List.mem_append]
    tauto

/-- The name of a uniform stands in the struct of the uniforms. -/
lemma Metal.exists_line_of_uniform {metadata : Metadata} {struct : Struct}
    (h : uniforms metadata = .ok struct) {u : Uniform} (hu : u ∈ metadata.uniforms) :
    ∃ line ∈ struct.lines, u.name.display ⊆ line := by
  have hname : u.name.display ∈ struct.fields.map (·.name) := by
    rw [(uniforms_eq_ok h).2]
    exact List.mem_map_of_mem hu
  obtain ⟨field, hfield, hname⟩ := List.mem_map.mp hname
  refine ⟨field.line, ?_, hname ▸ field.name_subset_line⟩
  exact List.mem_append_left _ (List.mem_cons_of_mem _ (List.mem_map_of_mem hfield))

/-- Every character of a name comes into the result. -/
lemma mem_of_lowerPair {fragment vertex : Text} {metadata : Metadata} {defines : List Text}
    {out name : Text} {c : Char} (h : (lowerPair fragment vertex metadata defines).result = .ok out)
    (hname : name ∈ metadata.names) (hc : c ∈ name) : c ∈ out := by
  obtain ⟨attributes, varyings, types, uniforms, vertexStage, fragmentStage, vertexLines,
    fragmentLines, -, -, hstruct, -, hfragmentStage, -, hfragmentLines, rfl⟩ :=
    exists_parts_of_lowerPair h
  obtain ⟨value, hvalue, htext⟩ := List.mem_filterMap.mp hname
  obtain rfl : value = .text name := by
    cases value <;> first | exact congrArg Value.text (Option.some.inj htext) | cases htext
  rcases List.mem_append.mp hvalue with huniform | himage
  · obtain ⟨u, hu, hu_name⟩ := List.mem_map.mp huniform
    obtain ⟨line, hline, hsubset⟩ := Metal.exists_line_of_uniform hstruct hu
    rw [hu_name, Value.display_text] at hsubset
    refine mem_code ?_ (hsubset hc)
    simp only [List.mem_append]
    tauto
  · obtain ⟨hstage, htextures⟩ := Lowering.textures_of_fragment hfragmentStage
    obtain ⟨texture, htexture, rfl⟩ := Lowering.exists_texture_of_image htextures himage
    obtain ⟨line, hline, hsubset⟩ := EntryPoint.exists_signature_line htexture
    rw [← hstage] at hline
    refine mem_code ?_ (hsubset hc)
    exact List.mem_append_right _ (Lowering.mem_lower_of_signature hline hfragmentLines)

/-! ### Texts that can be encoded -/

namespace HalvedText

variable {t : HalvedText} {content : ByteArray}

/-- A text is encoded exactly if each of its characters is itself. -/
lemma encode_eq_ok_iff :
    t.encode = .ok content ↔ (∀ c ∈ t.text, t.isWhole c = true) ∧ content = encodeText t.text := by
  unfold encode
  split_ifs with hwhole
  · rw [List.all_eq_true] at hwhole
    exact ⟨fun h => ⟨hwhole, (Except.ok.inj h).symm⟩, fun h => congrArg Except.ok h.2.symm⟩
  · rw [List.all_eq_true] at hwhole
    exact iff_of_false nofun fun h => hwhole h.1

/-- A text without stand-ins can be encoded. -/
lemma encode_of_halves_eq_nil (h : t.halves = []) : t.encode = .ok (encodeText t.text) := by
  refine encode_eq_ok_iff.mpr ⟨fun c _ => ?_, rfl⟩
  rw [isWhole, half?, h]
  rfl

/-- A character that stands in for a half is not itself. -/
lemma isWhole_of_mem {c : Char} {half : Nat} (h : (c, half) ∈ t.halves) : t.isWhole c = false := by
  unfold isWhole half?
  generalize t.halves = halves at h
  induction halves with
  | nil => cases h
  | cons pair halves ih =>
      by_cases hc : pair.1 = c
      · simp [Table.get?, hc]
      · have hrest : (c, half) ∈ halves := by
          refine (List.mem_cons.mp h).resolve_left fun heq => hc ?_
          rw [← heq]
        simpa [Table.get?, hc] using ih hrest

/-- A text with a stand-in cannot be encoded. -/
lemma exists_encode_eq_error {c : Char} {half : Nat} (h : (c, half) ∈ t.halves) (hc : c ∈ t.text) :
    ∃ e, t.encode = .error e := by
  rcases hencode : t.encode with e | content
  · exact ⟨e, rfl⟩
  · have hwhole := (encode_eq_ok_iff.mp hencode).1 c hc
    rw [isWhole_of_mem h] at hwhole
    cases hwhole

end HalvedText

/-- The characters that are chosen do not occur in the text. -/
lemma Text.not_mem_of_mem_unused {count : Nat} {t : Text} {c : Char} (h : c ∈ unused count t) :
    c ∉ t := by
  intro hc
  obtain ⟨hfirst, hunused⟩ := Bool.and_eq_true_iff.mp (List.mem_filter.mp h).2
  have hused : c ∈ t.filter fun c => 0x40000 ≤ c.toNat := List.mem_filter.mpr ⟨hc, hfirst⟩
  rw [List.contains_iff_mem.mpr hused] at hunused
  cases hunused

/-- A number stands for itself, unless it stands for the null character. -/
lemma toNat_ofNat_of_pos {n : Nat} (h : 0 < (Char.ofNat n).toNat) : (Char.ofNat n).toNat = n := by
  by_cases hvalid : n.isValidChar
  · rw [Char.ofNat, dif_pos hvalid]
    rfl
  · rw [Char.ofNat, dif_neg hvalid] at h
    cases h

/-- The characters that are chosen are distinct. -/
lemma Text.nodup_unused (count : Nat) (t : Text) : (unused count t).Nodup := by
  unfold unused
  dsimp only
  rw [List.filter_map]
  refine List.Nodup.map_on ?_ (List.Nodup.filter _ List.nodup_range')
  intro m hm n hn hsame
  obtain ⟨hm, -⟩ := Bool.and_eq_true_iff.mp (List.mem_filter.mp hm).2
  obtain ⟨hn, -⟩ := Bool.and_eq_true_iff.mp (List.mem_filter.mp hn).2
  have hfirst : 0 < 0x40000 := by decide
  rw [← toNat_ofNat_of_pos (hfirst.trans_le (of_decide_eq_true hm)),
    ← toNat_ofNat_of_pos (hfirst.trans_le (of_decide_eq_true hn)), hsame]

namespace Job

variable {job : Job} {read : Reader}

/-- What stands in for a half occurs in nothing that the result of the job is made of, and stands in
for no other half. -/
theorem fresh_of_mem_standIns {c : Char} {half : Nat} (h : (c, half) ∈ job.standIns read) :
    half ∈ job.spelledHalves read ∧ c ∉ job.ingredients read ∧
      ∀ half', (c, half') ∈ job.standIns read → half' = half := by
  refine ⟨List.mem_eraseDups.mp (List.of_mem_zip h).2,
    Text.not_mem_of_mem_unused (List.of_mem_zip h).1, fun half' h' => ?_⟩
  obtain ⟨i, hi, hget⟩ := List.mem_iff_getElem.mp h
  obtain ⟨j, hj, hget'⟩ := List.mem_iff_getElem.mp h'
  simp only [standIns, List.getElem_zip, Prod.mk.injEq] at hget hget'
  obtain rfl : i = j :=
    (Text.nodup_unused _ _).getElem_inj_iff.mp (hget.1.trans hget'.1.symm)
  exact hget'.2.symm.trans hget.2

/-- If the metadata spells no half, there is none in its names. -/
lemma halves_eq_nil_of_spelledHalves (h : job.spelledHalves read = []) (room : Nat) :
    job.halves room read = [] := by
  have hstandIns : job.standIns read = [] := by
    simp only [standIns, h, List.eraseDups_nil, List.zip_nil_right]
  unfold halves
  split
  next => rw [hstandIns, List.filter_nil]
  next => rfl

end Job

end MetalLowering
