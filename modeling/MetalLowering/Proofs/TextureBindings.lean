import MetalLowering.Proofs.AttributeSlots
import MetalLowering.Proofs.SampledParts

/-!
# The parameters that bind images

The signature of a fragment stage has a parameter for each image and one for its sampler, both at
the slot of the image. Main statement: for different images that clash with no other parameter, the
parameters have different names, each slot is taken by one image and one sampler, and every sample
that is put into a body line is one of an image and a sampler at the same slot
(`signature_bindings`).

The lines of the signature are those of a list of `Parameter`s (`parameters_eq`), so names and
bindings are looked up there and not in the lines.
-/

namespace MetalLowering

namespace EntryPoint

open Text (Solid Word)

/-! ### Parameters -/

/-- A parameter of an entry point. -/
structure Parameter where
  /-- The type. -/
  type : Text
  /-- The name. -/
  name : Text
  /-- What it is bound to, in double brackets. -/
  binding : Text
  deriving Repr, DecidableEq

/-- The line of a parameter. -/
def Parameter.line (p : Parameter) : Text := "    " ++ p.type ++ " " ++ p.name ++ " " ++ p.binding

/-- What has slots. -/
inductive SlotKind
  | buffer
  | texture
  | sampler
  deriving Repr, DecidableEq

/-- The name of a kind of slots. -/
def SlotKind.name : SlotKind → Text
  | buffer => "buffer"
  | texture => "texture"
  | sampler => "sampler"

/-- The binding to a slot. -/
def slotBinding (kind : SlotKind) (slot : Nat) : Text :=
  "[[" ++ kind.name ++ "(" ++ Text.ofNat slot ++ ")]]"

/-- The type of the parameter for an image: a cube if it is declared as one. -/
def imageType (types : List (Text × Text)) (name : Text) : Text :=
  if Table.get? name types = some "samplerCube".toList then "texturecube<float>"
  else "texture2d<float>"

/-- The parameter for an image. -/
def imageParameter (types : List (Text × Text)) (slot : Nat) (name : Text) : Parameter :=
  ⟨imageType types name, name, slotBinding .texture slot⟩

/-- The parameter for the sampler of an image. -/
def samplerParameter (slot : Nat) (name : Text) : Parameter :=
  ⟨"sampler", name ++ "Smplr", slotBinding .sampler slot⟩

/-- The parameters for images and their samplers, from the given slot on. -/
def imageParameters (types : List (Text × Text)) : (slot : Nat) → List Text → List Parameter
  | _, [] => []
  | slot, name :: rest => imageParameter types slot name :: samplerParameter slot name ::
      imageParameters types (slot + 1) rest

/-- The parameters of a fragment stage. -/
def fragmentParameters (types : List (Text × Text)) (names : List Text) : List Parameter :=
  ⟨"RasterizerData", "in", "[[stage_in]]"⟩ ::
    ⟨"constant Uniforms&", "uniforms", slotBinding .buffer 0⟩ :: imageParameters types 0 names

/-- Lines that list parameters: one line for each, and a comma behind each but the last. -/
structure Lists (lines : List Text) (ps : List Parameter) : Prop where
  /-- There are as many lines as parameters. -/
  length_eq : lines.length = ps.length
  /-- Each line is the line of the parameter at its place, up to a comma. -/
  line_eq : ∀ (i : Nat) (line : Text), lines[i]? = some line →
    ∃ p : Parameter, ps[i]? = some p ∧ (line = p.line ∨ line = p.line ++ ",")
  /-- A line ends with a comma exactly if another one follows. -/
  comma_iff : ∀ (i : Nat) (line : Text), lines[i]? = some line →
    (line.getLast? = some ',' ↔ i + 1 < lines.length)

/-- The image `name` and its sampler are what is bound at a slot. -/
structure BoundAt (types : List (Text × Text)) (ps : List Parameter) (slot : Nat) (name : Text) :
    Prop where
  /-- The image is the one parameter at the slot of the texture. -/
  image_iff : ∀ p, p ∈ ps ∧ p.binding = slotBinding .texture slot ↔
    p = ⟨imageType types name, name, slotBinding .texture slot⟩
  /-- Its sampler is the one parameter at the slot of the sampler. -/
  sampler_iff : ∀ p, p ∈ ps ∧ p.binding = slotBinding .sampler slot ↔
    p = ⟨"sampler", name ++ "Smplr", slotBinding .sampler slot⟩

variable {types : List (Text × Text)} {names : List Text} {slot k : Nat} {name : Text}
  {p : Parameter}

/-! ### The lines of the parameters -/

/-- The commas of a list of lines. -/
lemma separated_getElem? (lines : List Text) (i : Nat) :
    (separated lines)[i]? =
      lines[i]?.map fun line : Text => if i + 1 < lines.length then line ++ "," else line := by
  fun_induction separated lines generalizing i with
  | case1 => rfl
  | case2 p => cases i <;> simp
  | case3 p q rest ih =>
      cases i with
      | zero => simp
      | succ i => simpa using ih i

/-- There is one line for each parameter. -/
lemma length_separated (lines : List Text) : (separated lines).length = lines.length := by
  fun_induction separated lines with
  | case1 => rfl
  | case2 p => rfl
  | case3 p q rest ih => rw [List.length_cons, ih]; rfl

/-- Lines with a comma behind each but the last list the parameters, if none of them ends with one
itself. -/
lemma lists_separated {ps : List Parameter} (h : ∀ p ∈ ps, p.line.getLast? = some ']') :
    Lists (separated (ps.map Parameter.line)) ps where
  length_eq := by rw [length_separated, List.length_map]
  line_eq i line hline := by
    rw [separated_getElem?, List.getElem?_map, List.length_map] at hline
    rcases hp : ps[i]? with _ | p
    · rw [hp] at hline
      cases hline
    · rw [hp] at hline
      obtain rfl := Option.some.inj hline
      refine ⟨p, rfl, ?_⟩
      split_ifs
      · exact Or.inr rfl
      · exact Or.inl rfl
  comma_iff i line hline := by
    rw [length_separated, List.length_map]
    rw [separated_getElem?, List.getElem?_map, List.length_map] at hline
    rcases hp : ps[i]? with _ | p
    · rw [hp] at hline
      cases hline
    · rw [hp] at hline
      obtain rfl := Option.some.inj hline
      have hlast := h p (List.mem_of_getElem? hp)
      split_ifs with hlt
      · simp [hlt]
      · simp [hlt, hlast]

/-- The kind of a bound texture gives the type of its parameter. -/
lemma metalType_of_bindTexture {texture : BoundTexture}
    (h : Lowering.bindTexture types name = .ok texture) :
    texture.name = name ∧ texture.kind.metalType ++ "<float>" = imageType types name := by
  unfold Lowering.bindTexture Sampler.resolve at h
  unfold imageType
  rcases htype : Table.get? name types with _ | type
  · rw [htype] at h
    obtain rfl := Except.ok.inj h
    exact ⟨rfl, (if_neg (by simp)).symm⟩
  · rw [htype] at h
    simp only at h
    unfold Sampler.kindOf? at h
    by_cases hplane : type = "sampler2D".toList
    · subst hplane
      obtain rfl := Except.ok.inj h
      exact ⟨rfl, (if_neg (by decide)).symm⟩
    · by_cases hcube : type = "samplerCube".toList
      · subst hcube
        obtain rfl := Except.ok.inj h
        exact ⟨rfl, (if_pos rfl).symm⟩
      · rw [if_neg hplane, if_neg hcube] at h
        cases h

/-- The lines for textures are those of the parameters for images. -/
lemma textureParameters_eq {textures : List BoundTexture}
    (h : names.mapM (Lowering.bindTexture types) = .ok textures) (slot : Nat) :
    textureParameters slot textures = (imageParameters types slot names).map Parameter.line := by
  induction names generalizing textures slot with
  | nil =>
      obtain rfl := Except.ok.inj h
      rfl
  | cons name names ih =>
      rw [List.mapM_cons] at h
      obtain ⟨texture, htexture, h⟩ := bind_eq_ok.mp h
      obtain ⟨rest, hrest, h⟩ := bind_eq_ok.mp h
      obtain rfl : texture :: rest = textures := Except.ok.inj h
      obtain ⟨hname, htype⟩ := metalType_of_bindTexture htexture
      rw [textureParameters, ih hrest (slot + 1), hname]
      refine congrArg₂ List.cons ?_ (congrArg₂ List.cons ?_ rfl)
      · have hspace : ("<float> ".toList : Text) = "<float>".toList ++ " ".toList := rfl
        have hopen : (" [[texture(".toList : Text) =
            " ".toList ++ "[[".toList ++ SlotKind.texture.name ++ "(".toList := rfl
        unfold imageParameter Parameter.line slotBinding
        rw [← htype, hspace, hopen]
        simp only [List.append_assoc]
      · have hfront : ("    sampler ".toList : Text) =
            "    ".toList ++ "sampler".toList ++ " ".toList := rfl
        have hopen : (" [[sampler(".toList : Text) =
            " ".toList ++ "[[".toList ++ SlotKind.sampler.name ++ "(".toList := rfl
        unfold samplerParameter Parameter.line slotBinding Metal.samplerSuffix
        rw [hfront, hopen]
        simp only [List.append_assoc]

/-- The parameters of the fragment function are the described ones. -/
lemma parameters_eq {textures : List BoundTexture}
    (h : names.mapM (Lowering.bindTexture types) = .ok textures) :
    parameters .fragment textures = (fragmentParameters types names).map Parameter.line := by
  unfold parameters fragmentParameters
  rw [List.map_cons, List.map_cons, textureParameters_eq h]
  rfl

/-! ### Names and bindings -/

/-- Each image has two parameters. -/
lemma length_imageParameters (types : List (Text × Text)) (slot : Nat) (names : List Text) :
    (imageParameters types slot names).length = 2 * names.length := by
  induction names generalizing slot with
  | nil => rfl
  | cons name names ih =>
      rw [imageParameters, List.length_cons, List.length_cons, ih, List.length_cons]
      omega

/-- A parameter for images is one for an image at its slot, or for its sampler. -/
lemma mem_imageParameters :
    p ∈ imageParameters types slot names ↔ ∃ k name, names[k]? = some name ∧
      (p = imageParameter types (slot + k) name ∨ p = samplerParameter (slot + k) name) := by
  induction names generalizing slot with
  | nil => simp [imageParameters]
  | cons name names ih =>
      rw [imageParameters, List.mem_cons, List.mem_cons, ih]
      constructor
      · rintro (rfl | rfl | ⟨k, other, hother, hp⟩)
        · exact ⟨0, name, rfl, Or.inl rfl⟩
        · exact ⟨0, name, rfl, Or.inr rfl⟩
        · refine ⟨k + 1, other, hother, ?_⟩
          rwa [Nat.add_right_comm, Nat.add_assoc] at hp
      · rintro ⟨_ | k, other, hother, hp⟩
        · obtain rfl := Option.some.inj hother
          exact hp.imp id Or.inl
        · refine Or.inr (Or.inr ⟨k, other, hother, ?_⟩)
          rwa [Nat.add_right_comm, Nat.add_assoc]

/-- The names of images and their samplers. -/
def imageNames (names : List Text) : List Text :=
  names.flatMap fun name : Text => [name, name ++ "Smplr".toList]

/-- The parameters of the images are named by them and their samplers. -/
lemma names_imageParameters (types : List (Text × Text)) (slot : Nat) (names : List Text) :
    (imageParameters types slot names).map (·.name) = imageNames names := by
  induction names generalizing slot with
  | nil => rfl
  | cons name names ih =>
      rw [imageParameters, List.map_cons, List.map_cons, ih]
      rfl

/-- A name of an image parameter is that of an image or of its sampler. -/
lemma mem_imageNames {n : Text} :
    n ∈ imageNames names ↔ n ∈ names ∨ ∃ name ∈ names, n = name ++ "Smplr".toList := by
  unfold imageNames
  simp only [List.mem_flatMap, List.mem_pair]
  constructor
  · rintro ⟨name, hname, rfl | rfl⟩
    · exact Or.inl hname
    · exact Or.inr ⟨name, hname, rfl⟩
  · rintro (hn | ⟨name, hname, rfl⟩)
    · exact ⟨n, hn, Or.inl rfl⟩
    · exact ⟨name, hname, Or.inr rfl⟩

/-- Images and samplers have different names if no image is called like a sampler. -/
lemma nodup_imageNames (hnodup : names.Nodup)
    (hsuffix : ∀ name ∈ names, name ++ "Smplr".toList ∉ names) : (imageNames names).Nodup := by
  induction names with
  | nil => exact List.nodup_nil
  | cons name names ih =>
      obtain ⟨hname, hnodup⟩ := List.nodup_cons.mp hnodup
      obtain ⟨hfirst, hothers⟩ := List.forall_mem_cons.mp hsuffix
      have hrest : (imageNames names).Nodup :=
        ih hnodup fun other hother hmem => hothers other hother (List.mem_cons_of_mem name hmem)
      have hsampler : name ++ "Smplr".toList ∉ imageNames names := by
        rw [mem_imageNames]
        rintro (hmem | ⟨other, hother, heq⟩)
        · exact hfirst (List.mem_cons_of_mem name hmem)
        · exact hname (List.append_cancel_right heq ▸ hother)
      have himage : name ∉ (name ++ "Smplr".toList) :: imageNames names := by
        rw [List.mem_cons, mem_imageNames]
        rintro (heq | hmem | ⟨other, hother, heq⟩)
        · exact hfirst (heq ▸ List.mem_cons_self)
        · exact hname hmem
        · exact hothers other hother (heq ▸ List.mem_cons_self)
      exact List.nodup_cons.mpr ⟨himage, List.nodup_cons.mpr ⟨hsampler, hrest⟩⟩

/-- All parameters of a fragment stage have different names. -/
lemma nodup_fragmentParameters (hnodup : names.Nodup) (hin : "in".toList ∉ names)
    (huniforms : "uniforms".toList ∉ names)
    (hsuffix : ∀ name ∈ names, name ++ "Smplr".toList ∉ names) :
    ((fragmentParameters types names).map (·.name)).Nodup := by
  have hlast : ∀ n : Text, n.getLast? ≠ some 'r' → n ∉ names → n ∉ imageNames names := by
    intro n hn hnames
    rw [mem_imageNames]
    rintro (hmem | ⟨name, -, rfl⟩)
    · exact hnames hmem
    · rw [List.getLast?_append] at hn
      exact hn rfl
  show ("in".toList :: "uniforms".toList :: (imageParameters types 0 names).map (·.name)).Nodup
  rw [names_imageParameters, List.nodup_cons, List.nodup_cons, List.mem_cons]
  refine ⟨?_, hlast _ (by decide) huniforms, nodup_imageNames hnodup hsuffix⟩
  rintro (heq | hmem)
  · cases heq
  · exact hlast _ (by decide) hin hmem

/-- The names of slot kinds are words. -/
lemma SlotKind.word_name (kind : SlotKind) : Word kind.name := by
  cases kind <;> decide

/-- Slot kinds have different names. -/
lemma SlotKind.name_inj {kind kind' : SlotKind} : kind.name = kind'.name ↔ kind = kind' := by
  cases kind <;> cases kind' <;> decide

/-- A binding is the name of its kind with the slot in brackets. -/
lemma slotBinding_eq (kind : SlotKind) (slot : Nat) :
    slotBinding kind slot = '[' :: '[' :: (kind.name ++ '(' :: (Text.ofNat slot ++ ")]]")) := by
  unfold slotBinding
  simp only [List.append_assoc]
  rfl

/-- A binding says the kind of its slot and the slot. -/
lemma slotBinding_inj {kind kind' : SlotKind} {slot slot' : Nat} :
    slotBinding kind slot = slotBinding kind' slot' ↔ kind = kind' ∧ slot = slot' := by
  constructor
  · intro heq
    rw [slotBinding_eq, slotBinding_eq] at heq
    obtain ⟨hkind, hrest⟩ := Text.word_append_inj kind.word_name.2 kind'.word_name.2
      (Sampling.ends_bracket _) (Sampling.ends_bracket _) (List.cons.inj (List.cons.inj heq).2).2
    have hdigits := List.append_cancel_right (List.cons.inj hrest).2
    refine ⟨SlotKind.name_inj.mp hkind, ?_⟩
    rw [← Text.numberOf_ofNat slot, hdigits, Text.numberOf_ofNat]
  · rintro ⟨rfl, rfl⟩
    rfl

/-- The stage input is bound to no slot. -/
lemma stageIn_ne_slotBinding (kind : SlotKind) (slot : Nat) :
    "[[stage_in]]".toList ≠ slotBinding kind slot := by
  -- no kind of slots has a `t` for its second letter
  intro heq
  have hletter := congrArg (fun t : Text => t[3]?) heq
  cases kind <;> cases hletter

/-- What is bound to a slot: the uniforms, an image or a sampler. -/
lemma binding_cases {kind : SlotKind} (hp : p ∈ fragmentParameters types names)
    (hbinding : p.binding = slotBinding kind slot) :
    kind = .buffer ∨ ∃ name, names[slot]? = some name ∧
      (kind = .texture ∧ p = imageParameter types slot name ∨
        kind = .sampler ∧ p = samplerParameter slot name) := by
  rcases List.mem_cons.mp hp with rfl | hp
  · exact absurd hbinding (stageIn_ne_slotBinding kind slot)
  rcases List.mem_cons.mp hp with rfl | hp
  · exact Or.inl (slotBinding_inj.mp hbinding).1.symm
  · right
    obtain ⟨k, name, hname, rfl | rfl⟩ := mem_imageParameters.mp hp
    · obtain ⟨htexture, rfl⟩ := slotBinding_inj.mp hbinding
      rw [Nat.zero_add]
      exact ⟨name, hname, Or.inl ⟨htexture.symm, rfl⟩⟩
    · obtain ⟨hsampler, rfl⟩ := slotBinding_inj.mp hbinding
      rw [Nat.zero_add]
      exact ⟨name, hname, Or.inr ⟨hsampler.symm, rfl⟩⟩

/-- Each image and its sampler are bound at the slot of the image. -/
lemma boundAt_fragmentParameters (types : List (Text × Text)) (hname : names[slot]? = some name) :
    BoundAt types (fragmentParameters types names) slot name := by
  have hmem : ∀ p, p = imageParameter types slot name ∨ p = samplerParameter slot name →
      p ∈ fragmentParameters types names := by
    intro p hp
    refine List.mem_cons_of_mem _ (List.mem_cons_of_mem _ (mem_imageParameters.mpr ?_))
    exact ⟨slot, name, hname, by rwa [Nat.zero_add]⟩
  constructor
  · intro p
    constructor
    · rintro ⟨hp, hbinding⟩
      rcases binding_cases hp hbinding with hkind | ⟨other, hother, himage | hsampler⟩
      · cases hkind
      · obtain rfl := Option.some.inj (hname.symm.trans hother)
        exact himage.2
      · cases hsampler.1
    · rintro rfl
      exact ⟨hmem _ (Or.inl rfl), rfl⟩
  · intro p
    constructor
    · rintro ⟨hp, hbinding⟩
      rcases binding_cases hp hbinding with hkind | ⟨other, hother, himage | hsampler⟩
      · cases hkind
      · cases himage.1
      · obtain rfl := Option.some.inj (hname.symm.trans hother)
        exact hsampler.2
    · rintro rfl
      exact ⟨hmem _ (Or.inr rfl), rfl⟩

/-! ### The words of a parameter -/

/-- A binding has no blanks. -/
lemma solid_slotBinding (kind : SlotKind) (slot : Nat) : Solid (slotBinding kind slot) := by
  rw [slotBinding_eq]
  refine ⟨List.cons_ne_nil _ _, ?_⟩
  intro c hc
  simp only [List.mem_cons, List.mem_append] at hc
  rcases hc with rfl | rfl | hc | rfl | hc | hc
  · rfl
  · rfl
  · exact Text.isBlank_of_isWordChar (kind.word_name.2 c hc)
  · rfl
  · exact Text.isBlank_of_isWordChar (Text.isWordChar_of_isDigit (Text.isDigit_of_mem_ofNat hc))
  · have hclosing : Solid (")]]".toList) := by decide
    exact hclosing.2 c hc

/-- A binding ends with a bracket. -/
lemma getLast?_slotBinding (kind : SlotKind) (slot : Nat) :
    (slotBinding kind slot).getLast? = some ']' := by
  unfold slotBinding
  rw [List.getLast?_append]
  rfl

/-- The type of an image has no blanks. -/
lemma solid_imageType (types : List (Text × Text)) (name : Text) :
    Solid (imageType types name) := by
  unfold imageType
  split_ifs <;> decide

/-- The words of a parameter whose type is one word. -/
lemma Parameter.words_line (htype : Solid p.type) (hname : Solid p.name)
    (hbinding : Solid p.binding) : Text.words p.line = [p.type, p.name, p.binding] := by
  refine Text.words_eq_three_iff.mpr ⟨htype, hname, hbinding, "    ", " ", " ", [],
    by decide, ⟨by decide, by decide⟩, ⟨by decide, by decide⟩, by decide, ?_⟩
  unfold Parameter.line
  simp only [List.append_assoc, List.append_nil]

/-- The line of a parameter reads as its type, its name and its binding. -/
lemma words_of_mem_fragmentParameters (hwords : ∀ name ∈ names, Word name)
    (hp : p ∈ fragmentParameters types names) :
    Text.words p.line = Text.words p.type ++ [p.name, p.binding] := by
  rcases List.mem_cons.mp hp with rfl | hp
  · rfl
  rcases List.mem_cons.mp hp with rfl | hp
  · rfl
  have hsolid : Solid p.type ∧ Solid p.name ∧ Solid p.binding := by
    obtain ⟨k, name, hname, rfl | rfl⟩ := mem_imageParameters.mp hp
    · have hword := hwords name (List.mem_of_getElem? hname)
      exact ⟨solid_imageType types name, Sampling.solid_of_word hword,
        solid_slotBinding _ _⟩
    · have hword := hwords name (List.mem_of_getElem? hname)
      exact ⟨Sampling.solid_of_word SlotKind.sampler.word_name,
        Sampling.solid_of_word (Sampling.word_sampler hword), solid_slotBinding _ _⟩
  obtain ⟨htype, hname, hbinding⟩ := hsolid
  have hone : Text.words p.type = [p.type] :=
    Text.words_eq_cons_iff.mpr ⟨[], [], by simp [Text.Blanks], htype, by simp [Text.Apart],
      by simp, rfl⟩
  rw [Parameter.words_line htype hname hbinding, hone]
  rfl

/-- The line of a parameter ends with its binding. -/
lemma getLast?_of_mem_fragmentParameters (hp : p ∈ fragmentParameters types names) :
    p.line.getLast? = some ']' := by
  have hbinding : p.binding.getLast? = some ']' := by
    rcases List.mem_cons.mp hp with rfl | hp
    · rfl
    rcases List.mem_cons.mp hp with rfl | hp
    · rfl
    obtain ⟨k, name, -, rfl | rfl⟩ := mem_imageParameters.mp hp
    · exact getLast?_slotBinding _ _
    · exact getLast?_slotBinding _ _
  unfold Parameter.line
  rw [List.getLast?_append, hbinding]
  rfl

end EntryPoint

namespace Lowering

open EntryPoint (Lists BoundAt)
open Sampling (Part)

/-- The signature of a fragment stage whose images are different identifiers, none of them called
like another parameter, lists two parameters and two more for each image. They have different names,
and the image and the sampler at a slot are those of the image with this number. What sampling puts
into a body line, in the place of a call, is the sample of an image through the sampler at the same
slot. -/
theorem signature_bindings (metadata : Metadata) (names varyings : List Text)
    (types : List (Text × Text)) (s : Lowering) (himages : metadata.images = names.map .text)
    (hidentifiers : ∀ name ∈ names, Text.isIdentifier name = true) (hnodup : names.Nodup)
    (hin : "in".toList ∉ names) (huniforms : "uniforms".toList ∉ names)
    (hsuffix : ∀ name ∈ names, name ++ "Smplr".toList ∉ names)
    (hs : (fragment metadata varyings types).result = .ok s) :
    ∃ (ps : List EntryPoint.Parameter) (lines : List Text),
      s.signature = "fragment float4 fragmentShader(".toList :: lines ++
        [") \x7b".toList, "    float4 msl_out_color;".toList] ∧
      Lists lines ps ∧ ps.length = 2 + 2 * names.length ∧ (ps.map (·.name)).Nodup ∧
      (∀ p ∈ ps, Text.words p.line = Text.words p.type ++ [p.name, p.binding]) ∧
      (∀ k t, names[k]? = some t → BoundAt types ps k t) ∧
      ∀ line named, s.table.lower (s.mapLine line) = .ok named →
        ∃ parts : List Part, parts.flatMap Part.source = Text.pieces named ∧
          s.lowerBodyLine line = .ok (parts.flatMap Part.lowered) ∧
          ∀ c, .call c ∈ parts → c.On names ∧
            Part.lowered (.call c) = c.texture ++ ".sample(" ++ c.texture ++ "Smplr" ∧
            ∃ k, names[k]? = some c.texture ∧ BoundAt types ps k c.texture := by
  obtain ⟨hstage, -, hbound⟩ := parts_of_fragment himages hs
  have hnames : s.textures.map (·.name) = names := names_of_boundTextures hbound
  have hwords : ∀ name ∈ names, Text.Word name := fun name hname =>
    Text.word_of_isIdentifier (hidentifiers name hname)
  rw [boundTextures_texts] at hbound
  refine ⟨EntryPoint.fragmentParameters types names, _, ?_,
    EntryPoint.lists_separated fun p hp => EntryPoint.getLast?_of_mem_fragmentParameters hp, ?_,
    EntryPoint.nodup_fragmentParameters hnodup hin huniforms hsuffix,
    fun p hp => EntryPoint.words_of_mem_fragmentParameters hwords hp,
    fun k t ht => EntryPoint.boundAt_fragmentParameters types ht, ?_⟩
  · rw [signature, hstage, EntryPoint.signature, EntryPoint.parameters_eq hbound]
    rfl
  · rw [EntryPoint.fragmentParameters, List.length_cons, List.length_cons,
      EntryPoint.length_imageParameters]
    omega
  · intro line named hnamed
    obtain ⟨parts, hparts, hsource, hlowered⟩ := exists_parts_samplingPasses
      (hnames.symm ▸ hwords) (hnames.symm ▸ hnodup) named
    rw [hnames] at hparts
    refine ⟨parts, hsource, ?_, fun c hc => ⟨hparts c hc, rfl, ?_⟩⟩
    · rw [lowerBodyLine_eq_map (hnames.symm ▸ hidentifiers), hnamed, ← hlowered]
      rfl
    · obtain ⟨k, hk⟩ := List.mem_iff_getElem?.mp (hparts c hc).texture_mem
      exact ⟨k, hk, EntryPoint.boundAt_fragmentParameters types hk⟩

/-- An image that is called like a sampling function, beside a cube. -/
theorem signature_bindings_function_name :
    ∃ (s : Lowering) (ps : List EntryPoint.Parameter) (lines : List Text),
      (fragment ⟨[], [.text "sky", .text "texture2D"]⟩ ["uv"] [("sky", "samplerCube")]).result =
        .ok s ∧
      s.signature = "fragment float4 fragmentShader(".toList :: lines ++
        [") \x7b".toList, "    float4 msl_out_color;".toList] ∧
      Lists lines ps ∧ ps.length = 6 ∧ (ps.map (·.name)).Nodup ∧
      BoundAt [("sky", "samplerCube")] ps 0 "sky" ∧
      BoundAt [("sky", "samplerCube")] ps 1 "texture2D" ∧
      s.lowerBodyLine "texture2D(texture2D, uv) + textureCube(sky, uv)" =
        .ok "texture2D.sample(texture2DSmplr, in.uv) + sky.sample(skySmplr, in.uv)" := by
  obtain ⟨ps, lines, hsignature, hlists, hlength, hnodup, -, hbound, -⟩ := signature_bindings
    ⟨[], [.text "sky", .text "texture2D"]⟩ ["sky", "texture2D"] ["uv"] [("sky", "samplerCube")] _
    rfl (by decide) (by decide) (by decide) (by decide) (by decide) rfl
  exact ⟨_, ps, lines, rfl, hsignature, hlists, hlength, hnodup, hbound 0 _ rfl, hbound 1 _ rfl,
    rfl⟩

end Lowering

end MetalLowering
