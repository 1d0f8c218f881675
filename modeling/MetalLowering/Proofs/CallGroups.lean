import MetalLowering.Proofs.WordPieces

/-!
# The sampling calls among the pieces of a line

The pieces of a line are grouped into the calls that sample one of the given textures and the pieces
that stand for themselves. `Grouped` says which grouping this is without any search: put together
the parts are the pieces, each call among them is one on the textures, and no call of the line is
left out.

If no texture is called like a sampling function, there is one such grouping only, the one that is
made from left to right (`grouped_iff`, `Groups.unique`). Its calls can be lowered one texture after
the other: what a sample gives holds no call, and a call on another texture stays in one piece
(`Groups.next`).
-/

namespace MetalLowering.Sampling

open Text (Word Blanks Solid)

/-! ### Calls -/

/-- A call that samples a texture, from its function to the end of the texture. -/
structure SampleCall where
  /-- The function. -/
  function : Text
  /-- The blanks before the bracket. -/
  gap : Text
  /-- The blanks behind the bracket. -/
  indent : Text
  /-- The texture. -/
  texture : Text

namespace SampleCall

/-- The pieces of a call behind its function. -/
def arguments (c : SampleCall) : List Text :=
  c.gap.map ([·]) ++ ['('] :: (c.indent.map ([·]) ++ [c.texture])

/-- The pieces of a call. -/
def pieces (c : SampleCall) : List Text := c.function :: c.arguments

/-- The pieces of the sample that a call becomes. -/
def sample (c : SampleCall) : List Text :=
  [c.texture, ".", "sample", "(", c.texture ++ Metal.samplerSuffix]

/-- A call of a sampling function on one of the textures. -/
structure On (textures : List Text) (c : SampleCall) : Prop where
  /-- The function samples a texture. -/
  function_mem : c.function ∈ functions
  /-- Only blanks stand before the bracket. -/
  gap_blanks : Blanks c.gap
  /-- Only blanks stand behind the bracket. -/
  indent_blanks : Blanks c.indent
  /-- The texture is one of those given. -/
  texture_mem : c.texture ∈ textures

end SampleCall

/-- Names that textures can be called by: words that are no sampling functions. -/
def Bindable (textures : List Text) : Prop := ∀ t ∈ textures, Word t ∧ t ∉ functions

variable {textures : List Text} {c c' : SampleCall}

/-- The sampling functions are words. -/
lemma word_functions : ∀ f ∈ functions, Word f := by decide

/-- A word has no blanks in it. -/
lemma solid_of_word {w : Text} (h : Word w) : Solid w :=
  ⟨h.1, fun d hd => Text.isBlank_of_isWordChar (h.2 d hd)⟩

/-- No blank belongs to a word. -/
lemma isWordChar_of_isBlank {d : Char} (h : Text.isBlank d = true) : Text.isWordChar d = false := by
  by_contra hword
  rw [Text.isBlank_of_isWordChar (by simpa using hword)] at h
  cases h

/-- The pieces of some blanks are no words. -/
lemma not_word_of_mem_map {b : Text} (hb : Blanks b) {p : Text} (hp : p ∈ b.map ([·])) :
    ¬Word p := by
  obtain ⟨d, hd, rfl⟩ := List.mem_map.mp hp
  exact Text.not_word_singleton (isWordChar_of_isBlank (hb d hd))

namespace SampleCall

/-- Of a call only the texture depends on which textures are given. -/
lemma On.of_mem {textures' : List Text} (h : c.On textures) (hmem : c.texture ∈ textures') :
    c.On textures' :=
  { h with texture_mem := hmem }

/-- Behind the function of a call the texture is the only word. -/
lemma On.eq_texture (h : c.On textures) {p : Text} (hp : p ∈ c.arguments) (hword : Word p) :
    p = c.texture := by
  simp only [arguments, List.mem_append, List.mem_cons, List.not_mem_nil, or_false] at hp
  rcases hp with hp | rfl | hp | rfl
  · exact absurd hword (not_word_of_mem_map h.gap_blanks hp)
  · exact absurd hword (by decide)
  · exact absurd hword (not_word_of_mem_map h.indent_blanks hp)
  · rfl

/-- No call starts behind the function of a call. -/
lemma On.not_mem_functions (h : c.On textures) (hnames : Bindable textures) :
    ∀ p ∈ c.arguments, p ∉ functions := by
  intro p hp hfunction
  obtain rfl := h.eq_texture hp (word_functions p hfunction)
  exact (hnames c.texture h.texture_mem).2 hfunction

/-- A call on one texture holds no other texture. -/
lemma On.not_mem_textures {t : Text} (h : c.On [t]) (hnames : Bindable textures)
    (ht : t ∉ textures) : ∀ p ∈ c.arguments, p ∉ textures := by
  intro p hp htexture
  obtain rfl := h.eq_texture hp (hnames p htexture).1
  exact ht (List.mem_singleton.mp h.texture_mem ▸ htexture)

/-- What ends like a sampler is no sampling function. -/
lemma suffix_not_mem_functions (t : Text) : t ++ Metal.samplerSuffix ∉ functions := by
  have hlast : ∀ f ∈ functions, f.getLast? ≠ some 'r' := by decide
  intro hmem
  refine hlast _ hmem ?_
  rw [List.getLast?_append]
  rfl

/-- No call starts in a sample. -/
lemma On.sample_not_mem_functions (h : c.On textures) (hnames : Bindable textures) :
    ∀ p ∈ c.sample, p ∉ functions := by
  intro p hp
  simp only [sample, List.mem_cons, List.not_mem_nil, or_false] at hp
  rcases hp with rfl | rfl | rfl | rfl | rfl
  · exact (hnames c.texture h.texture_mem).2
  · decide
  · decide
  · decide
  · exact suffix_not_mem_functions c.texture

/-- Blanks end where a piece stands that is no blank. -/
lemma blanks_append_inj {b b' : Text} (hb : Blanks b) (hb' : Blanks b') {p p' : Text}
    (hp : Solid p) (hp' : Solid p') {rest rest' : List Text}
    (h : b.map ([·]) ++ p :: rest = b'.map ([·]) ++ p' :: rest') :
    b = b' ∧ p = p' ∧ rest = rest' := by
  have hsolid : ∀ {p : Text}, Solid p → ∀ d, Text.isBlank d = true → p ≠ [d] := by
    rintro p hp d hd rfl
    rw [hp.2 d (List.mem_singleton_self d)] at hd
    cases hd
  induction b generalizing b' with
  | nil =>
      cases b' with
      | nil => exact ⟨rfl, List.cons.inj h⟩
      | cons d b' => exact absurd (List.cons.inj h).1 (hsolid hp d (hb' d List.mem_cons_self))
  | cons d b ih =>
      cases b' with
      | nil => exact absurd (List.cons.inj h).1.symm (hsolid hp' d (hb d List.mem_cons_self))
      | cons d' b' =>
          obtain ⟨hhead, htail⟩ := List.cons.inj h
          obtain ⟨rfl, hrest⟩ := ih hb.tail hb'.tail htail
          exact ⟨by rw [List.singleton_inj.mp hhead], hrest⟩

/-- Pieces start with one call at most. -/
lemma On.eq_of_append (h : c.On textures) (h' : c'.On textures) (hnames : Bindable textures)
    {rest rest' : List Text} (happend : c.pieces ++ rest = c'.pieces ++ rest') :
    c = c' ∧ rest = rest' := by
  have htexture : ∀ {c : SampleCall}, c.On textures → Solid c.texture := fun hc =>
    solid_of_word (hnames _ hc.texture_mem).1
  have hbracket : Solid ['('] := by simp [Solid, Text.isBlank]
  simp only [pieces, arguments, List.append_assoc, List.cons_append, List.nil_append,
    List.cons.injEq] at happend
  obtain ⟨hfunction, happend⟩ := happend
  obtain ⟨hgap, -, hinner⟩ :=
    blanks_append_inj h.gap_blanks h'.gap_blanks hbracket hbracket happend
  obtain ⟨hindent, htextures, hrest⟩ :=
    blanks_append_inj h.indent_blanks h'.indent_blanks (htexture h) (htexture h') hinner
  refine ⟨?_, hrest⟩
  cases c
  cases c'
  simp_all

end SampleCall

/-! ### Groupings -/

/-- A part of a grouping: a piece that stands for itself, or a call. -/
inductive Part
  | piece (text : Text)
  | call (c : SampleCall)

namespace Part

/-- The pieces that a part is made of. -/
def source : Part → List Text
  | piece text => [text]
  | call c => c.pieces

/-- What a part becomes: a call becomes one sample of its texture. -/
def lowered : Part → Text
  | piece text => text
  | call c => template c.texture

/-- The pieces of what a part becomes. -/
def given : Part → List Text
  | piece text => [text]
  | call c => c.sample

/-- Every part stands for some piece. -/
lemma source_ne_nil (part : Part) : part.source ≠ [] := by
  cases part <;> exact List.cons_ne_nil _ _

/-- What is put out for a part is its lowered text. -/
lemma flatten_given (part : Part) : part.given.flatten = part.lowered := by
  cases part with
  | piece text => simp [given, lowered]
  | call c => simp [given, lowered, SampleCall.sample, template]

end Part

/-- What is put out for some parts is the lowered text of all of them. -/
lemma flatten_flatMap_given (parts : List Part) :
    (parts.flatMap Part.given).flatten = parts.flatMap Part.lowered := by
  induction parts with
  | nil => rfl
  | cons part parts ih =>
      rw [List.flatMap_cons, List.flatten_append, ih, part.flatten_given, List.flatMap_cons]

/-- Pieces that stand for themselves are put out as they are. -/
lemma flatMap_given_piece (ps : List Text) : (ps.map Part.piece).flatMap Part.given = ps := by
  simp [List.flatMap_map, Part.given]

/-- Pieces grouped into the calls on the textures, all of them, and the pieces beside them. -/
structure Grouped (textures : List Text) (ps : List Text) (parts : List Part) : Prop where
  /-- Put together, the parts are the pieces. -/
  source_eq : parts.flatMap Part.source = ps
  /-- The calls are calls on the textures. -/
  call_on : ∀ c, .call c ∈ parts → c.On textures
  /-- Wherever a call on a texture stands among the pieces, there is a part for it. -/
  complete : ∀ before c after, SampleCall.On textures c → ps = before ++ (c.pieces ++ after) →
    ∃ front behind, parts = front ++ .call c :: behind ∧ front.flatMap Part.source = before ∧
      behind.flatMap Part.source = after

/-- Whether pieces start with a call on one of the textures. -/
def StartsWithCall (textures ps : List Text) : Prop :=
  ∃ c rest, SampleCall.On textures c ∧ ps = c.pieces ++ rest

/-- The grouping that is made from left to right. -/
inductive Groups (textures : List Text) : List Text → List Part → Prop
  /-- No pieces are left. -/
  | nil : Groups textures [] []
  /-- No call starts here. -/
  | piece {p : Text} {ps : List Text} {parts : List Part} : ¬StartsWithCall textures (p :: ps) →
      Groups textures ps parts → Groups textures (p :: ps) (.piece p :: parts)
  /-- A call starts here. -/
  | call {c : SampleCall} {ps : List Text} {parts : List Part} : c.On textures →
      Groups textures ps parts →
      Groups textures (c.function :: (c.arguments ++ ps)) (.call c :: parts)

variable {ps : List Text} {parts parts' : List Part}

/-- No call starts with a piece that is no sampling function. -/
lemma not_startsWithCall {p : Text} (h : p ∉ functions) (ps : List Text) :
    ¬StartsWithCall textures (p :: ps) := by
  rintro ⟨c, rest, hc, heq⟩
  exact h ((List.cons.inj heq).1 ▸ hc.function_mem)

/-- Without textures no piece is part of a call. -/
lemma groups_nil (ps : List Text) : Groups [] ps (ps.map .piece) := by
  induction ps with
  | nil => exact .nil
  | cons p ps ih =>
      refine .piece ?_ ih
      rintro ⟨c, rest, hc, -⟩
      exact List.not_mem_nil hc.texture_mem

/-- Only which textures there are matters, not their order. -/
lemma Groups.congr {textures' : List Text} (h : Groups textures ps parts)
    (hsame : ∀ t, t ∈ textures ↔ t ∈ textures') : Groups textures' ps parts := by
  have hon : ∀ {c : SampleCall}, c.On textures' ↔ c.On textures := by
    intro c
    exact ⟨fun hc => hc.of_mem ((hsame _).mpr hc.texture_mem),
      fun hc => hc.of_mem ((hsame _).mp hc.texture_mem)⟩
  induction h with
  | nil => exact .nil
  | piece hno _ ih =>
      refine .piece ?_ ih
      rintro ⟨c, rest, hc, heq⟩
      exact hno ⟨c, rest, hon.mp hc, heq⟩
  | call hc _ ih => exact .call (hon.mpr hc) ih

/-- The parts of a grouping are the pieces, put together. -/
lemma Groups.source_eq (h : Groups textures ps parts) : parts.flatMap Part.source = ps := by
  induction h with
  | nil => rfl
  | piece _ _ ih => rw [List.flatMap_cons, ih]; rfl
  | call _ _ ih => rw [List.flatMap_cons, ih]; rfl

/-- The calls of a grouping are calls on the textures. -/
lemma Groups.call_on (h : Groups textures ps parts) : ∀ c, .call c ∈ parts → c.On textures := by
  induction h with
  | nil =>
      intro c hc
      cases hc
  | piece _ _ ih =>
      intro c hc
      rcases List.mem_cons.mp hc with hc | hc
      · cases hc
      · exact ih c hc
  | call hon _ ih =>
      intro c hc
      rcases List.mem_cons.mp hc with hc | hc
      · obtain rfl := Part.call.inj hc
        exact hon
      · exact ih c hc

/-- There is one grouping of some pieces only. -/
lemma Groups.unique (hnames : Bindable textures) (h : Groups textures ps parts)
    (h' : Groups textures ps parts') : parts = parts' := by
  induction h generalizing parts' with
  | nil =>
      cases h'
      rfl
  | piece hno _ ih =>
      cases h' with
      | piece _ h' => rw [ih h']
      | call hc _ => exact absurd ⟨_, _, hc, rfl⟩ hno
  | @call c ps parts hc _ ih =>
      generalize hps : c.function :: (c.arguments ++ ps) = all at h'
      cases h' with
      | nil => cases hps
      | piece hno _ => exact absurd ⟨c, ps, hc, hps.symm⟩ hno
      | call hc' h' =>
          obtain ⟨rfl, rfl⟩ := hc.eq_of_append hc' hnames hps
          rw [ih h']

/-- Pieces that start no call are parts by themselves. -/
lemma groups_append_iff {idle : List Text} (hidle : ∀ p ∈ idle, p ∉ functions) :
    Groups textures (idle ++ ps) parts ↔
      ∃ rest, parts = idle.map .piece ++ rest ∧ Groups textures ps rest := by
  induction idle generalizing parts with
  | nil => simp
  | cons p idle ih =>
      obtain ⟨hp, hidle⟩ := List.forall_mem_cons.mp hidle
      constructor
      · intro h
        rw [List.cons_append] at h
        generalize idle ++ ps = all at h ih
        cases h with
        | piece _ h =>
            obtain ⟨rest, rfl, hrest⟩ := (ih hidle).mp h
            exact ⟨rest, rfl, hrest⟩
        | call hc _ => exact absurd hc.function_mem hp
      · rintro ⟨rest, rfl, hrest⟩
        exact .piece (not_startsWithCall hp _) ((ih hidle).mpr ⟨rest, rfl, hrest⟩)

/-- What stands in a lowered line and is no texture stood there before. -/
lemma Groups.exists_of_given {kept more : List Text} (h : Groups textures ps parts)
    (hkept : ∀ p ∈ kept, p ∉ textures) (hgiven : parts.flatMap Part.given = kept ++ more) :
    ∃ rest restParts, ps = kept ++ rest ∧ Groups textures rest restParts ∧
      restParts.flatMap Part.given = more := by
  induction kept generalizing ps parts with
  | nil => exact ⟨ps, parts, rfl, h, hgiven⟩
  | cons p kept ih =>
      obtain ⟨hp, hothers⟩ := List.forall_mem_cons.mp hkept
      cases h with
      | nil => cases hgiven
      | piece _ h =>
          obtain ⟨rfl, hmore⟩ := List.cons.inj hgiven
          obtain ⟨rest, restParts, rfl, hrest⟩ := ih h hothers hmore
          exact ⟨rest, restParts, rfl, hrest⟩
      | call hc _ =>
          obtain ⟨rfl, -⟩ := List.cons.inj hgiven
          exact absurd hc.texture_mem hp

/-- A piece that starts a call neither before nor after a lowering starts none on all textures: the
arguments of a call on a further texture are not touched. -/
lemma Groups.not_startsWithCall {t p : Text} (hname : Bindable [t])
    (h : Groups textures ps parts) (hno : ¬StartsWithCall textures (p :: ps))
    (hno' : ¬StartsWithCall [t] (p :: parts.flatMap Part.given)) :
    ¬StartsWithCall (t :: textures) (p :: ps) := by
  rintro ⟨c, rest, hc, hcall⟩
  rcases List.mem_cons.mp hc.texture_mem with htexture | htexture
  · have hon : c.On [t] := hc.of_mem (List.mem_singleton.mpr htexture)
    obtain ⟨rfl, rfl⟩ := List.cons.inj hcall
    obtain ⟨restParts, rfl, -⟩ := (groups_append_iff (hon.not_mem_functions hname)).mp h
    rw [List.flatMap_append, flatMap_given_piece] at hno'
    exact hno' ⟨c, _, hon, rfl⟩
  · exact hno ⟨c, rest, hc.of_mem htexture, hcall⟩

/-- The calls on one more texture can be lowered after the others: the grouping of the lowered
pieces comes from a grouping of the pieces themselves. -/
theorem Groups.next {t : Text} (hnames : Bindable (t :: textures)) (ht : t ∉ textures)
    (h : Groups textures ps parts) (h' : Groups [t] (parts.flatMap Part.given) parts') :
    ∃ both, Groups (t :: textures) ps both ∧
      both.flatMap Part.given = parts'.flatMap Part.given := by
  obtain ⟨hname, hnames⟩ := List.forall_mem_cons.mp hnames
  have hsingle : Bindable [t] := by simpa [Bindable] using hname
  -- a call takes several pieces at once, so the induction is on how many there are
  induction hlength : ps.length using Nat.strong_induction_on generalizing ps parts parts' with
  | _ n ih =>
      cases h with
      | nil =>
          cases h'
          exact ⟨[], .nil, rfl⟩
      | @piece p ps parts hno h =>
          generalize hgiven : parts.flatMap Part.given = given at h'
          rw [List.flatMap_cons, hgiven] at h'
          cases h' with
          | @piece _ _ parts' hno' h' =>
              subst hgiven
              obtain ⟨both, hboth, heq⟩ := ih ps.length (by simp [← hlength]) h h' rfl
              refine ⟨.piece p :: both, .piece (h.not_startsWithCall hsingle hno hno') hboth, ?_⟩
              rw [List.flatMap_cons, List.flatMap_cons, heq]
          | @call c more parts' hc h' =>
              obtain ⟨rest, restParts, rfl, hrest, rfl⟩ :=
                h.exists_of_given (hc.not_mem_textures hnames ht) hgiven
              obtain ⟨both, hboth, heq⟩ := ih rest.length
                (by simp only [← hlength, List.length_cons, List.length_append]; omega) hrest h' rfl
              have hon : c.On (t :: textures) :=
                hc.of_mem (List.mem_cons.mpr (Or.inl (List.mem_singleton.mp hc.texture_mem)))
              refine ⟨.call c :: both, .call hon hboth, ?_⟩
              rw [List.flatMap_cons, List.flatMap_cons, heq]
      | @call c ps parts hc h =>
          obtain ⟨restParts, rfl, hrest⟩ :=
            (groups_append_iff (hc.sample_not_mem_functions hnames)).mp h'
          obtain ⟨both, hboth, heq⟩ := ih ps.length
            (by simp only [← hlength, List.length_cons, List.length_append]; omega) h hrest rfl
          have hon : c.On (t :: textures) := hc.of_mem (List.mem_cons_of_mem t hc.texture_mem)
          refine ⟨.call c :: both, .call hon hboth, ?_⟩
          rw [List.flatMap_cons, heq, List.flatMap_append, flatMap_given_piece]
          rfl

/-! ### Both descriptions agree -/

/-- Every call among the pieces is found from left to right, since none starts inside another. -/
lemma Groups.complete (hnames : Bindable textures) (h : Groups textures ps parts)
    (before : List Text) {c : SampleCall} (after : List Text) (hc : c.On textures)
    (heq : ps = before ++ (c.pieces ++ after)) :
    ∃ front behind, parts = front ++ .call c :: behind ∧ front.flatMap Part.source = before ∧
      behind.flatMap Part.source = after := by
  induction h generalizing before with
  | nil => simp [SampleCall.pieces] at heq
  | @piece p ps parts hno _ ih =>
      cases before with
      | nil => exact absurd ⟨c, after, hc, heq⟩ hno
      | cons p' before =>
          obtain ⟨rfl, htail⟩ := List.cons.inj heq
          obtain ⟨front, behind, rfl, rfl, hbehind⟩ := ih before htail
          exact ⟨.piece p :: front, behind, rfl, rfl, hbehind⟩
  | @call c' ps parts hc' hrest ih =>
      cases before with
      | nil =>
          obtain ⟨rfl, rfl⟩ := hc'.eq_of_append hc hnames heq
          exact ⟨[], parts, rfl, rfl, hrest.source_eq⟩
      | cons p' before =>
          obtain ⟨rfl, htail⟩ := List.cons.inj heq
          have hbehind : ∃ between, before = c'.arguments ++ between ∧
              ps = between ++ (c.pieces ++ after) := by
            rcases List.append_eq_append_iff.mp htail with
              ⟨between, hbefore, hps⟩ | ⟨inside, hargs, hps⟩
            · exact ⟨between, hbefore, hps⟩
            · cases inside with
              | nil => exact ⟨[], by simpa using hargs.symm, by simpa using hps.symm⟩
              | cons p inside =>
                  obtain ⟨rfl, -⟩ := List.cons.inj hps
                  refine absurd hc.function_mem (hc'.not_mem_functions hnames c.function ?_)
                  rw [hargs]
                  simp
          obtain ⟨between, rfl, hbetween⟩ := hbehind
          obtain ⟨front, behind, rfl, rfl, hbehind⟩ := ih between hbetween
          exact ⟨.call c' :: front, behind, rfl, rfl, hbehind⟩

/-- What follows the first part of a grouping is grouped by the other parts. -/
lemma Grouped.tail {part : Part} (h : Grouped textures ps (part :: parts)) :
    ∃ rest, ps = part.source ++ rest ∧ Grouped textures rest parts := by
  refine ⟨parts.flatMap Part.source, h.source_eq.symm, rfl,
    fun c hc => h.call_on c (List.mem_cons_of_mem part hc), ?_⟩
  intro before c after hc heq
  have hps : ps = (part.source ++ before) ++ (c.pieces ++ after) := by
    rw [← h.source_eq, List.flatMap_cons, heq, List.append_assoc]
  obtain ⟨front, behind, hparts, hfront, hbehind⟩ := h.complete _ c after hc hps
  cases front with
  | nil => exact absurd (List.append_eq_nil_iff.mp hfront.symm).1 part.source_ne_nil
  | cons first front =>
      obtain ⟨rfl, rfl⟩ := List.cons.inj hparts
      exact ⟨front, behind, rfl, List.append_cancel_left hfront, hbehind⟩

/-- A grouping is the one that is made from left to right. -/
theorem grouped_iff (hnames : Bindable textures) :
    Grouped textures ps parts ↔ Groups textures ps parts := by
  constructor
  · intro h
    induction parts generalizing ps with
    | nil =>
        obtain rfl := h.source_eq
        exact .nil
    | cons part parts ih =>
        obtain ⟨rest, rfl, hrest⟩ := h.tail
        cases part with
        | call c => exact .call (h.call_on c List.mem_cons_self) (ih hrest)
        | piece p =>
            refine .piece ?_ (ih hrest)
            rintro ⟨c, after, hc, heq⟩
            obtain ⟨front, behind, hparts, hfront, -⟩ := h.complete [] c after hc heq
            cases front with
            | nil => cases hparts
            | cons first front =>
                exact absurd (List.append_eq_nil_iff.mp hfront).1 first.source_ne_nil
  · intro h
    exact ⟨h.source_eq, h.call_on,
      fun before _ after hc heq => h.complete hnames before after hc heq⟩

end MetalLowering.Sampling
