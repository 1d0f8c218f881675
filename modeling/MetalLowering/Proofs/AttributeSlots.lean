import Mathlib.Data.List.Pairwise
import MetalLowering.Proofs.DeclarationReading
import MetalLowering.Proofs.StructLines

/-!
# When attributes have different slots

An attribute has the slot that its tag names, or else the number of attributes before it. A number
by the place is given without a look at the tags, so it can be one that a tag names as well. Main
statement: if no slot is named twice, the slots of all attributes are different exactly if no place
of an attribute without a slot of its own is the slot that another one names. The fields of the
vertex struct carry different indices exactly if the same holds of the tags `[[attribute(n)]]`
(`slots_nodup_iff`).

Both are one fact about elements that give the numbers they name or that of their place
(`pairwise_numbers_iff`); `Reads.slot_iff` and `Reads.carriesIndex_iff` say that slots and indices
are such numbers.
-/

namespace MetalLowering

/-! ### Numbers by name and by place -/

section numbers

variable {α β : Type} {names : α → Nat → Prop} {unnamed : α → Prop}

/-- The number of an element and its place: one that the element names, or for an element without
one the place. -/
def Numbers (names : α → Nat → Prop) (unnamed : α → Prop) (p : α × Nat) (n : Nat) : Prop :=
  names p.1 n ∨ unnamed p.1 ∧ n = p.2

/-- If no number is named twice, the numbers of a list are different exactly if none is named that
is the place of an element without one. -/
lemma pairwise_numbers_iff {l : List α} (hunnamed : ∀ a, unnamed a → ∀ n, ¬names a n)
    (hnames : l.Pairwise fun a b => ∀ n, names a n → ¬names b n) :
    (l.zipIdx.Pairwise fun p q =>
        ∀ n, Numbers names unnamed p n → ¬Numbers names unnamed q n) ↔
      ∀ i a, l[i]? = some a → unnamed a → ∀ b ∈ l, ¬names b i := by
  constructor
  · intro hpairwise i a ha hun b hb hname
    obtain ⟨j, hj⟩ := List.mem_iff_getElem?.mp hb
    have hne : (a, i) ≠ (b, j) := by
      intro heq
      obtain ⟨rfl, -⟩ := Prod.mk.inj heq
      exact hunnamed a hun i hname
    have hsymm : Std.Symm fun p q : α × Nat =>
        ∀ n, Numbers names unnamed p n → ¬Numbers names unnamed q n :=
      ⟨fun _ _ h n hq hp => h n hp hq⟩
    have hdifferent := hpairwise.forall (List.mem_zipIdx_iff_getElem?.mpr ha)
      (List.mem_zipIdx_iff_getElem?.mpr hj) hne
    exact hdifferent i (Or.inr ⟨hun, rfl⟩) (Or.inl hname)
  · intro hplaces
    rw [List.pairwise_iff_getElem]
    intro i j hi hj hij n hfirst hsecond
    simp only [List.getElem_zipIdx, Nat.zero_add] at hfirst hsecond
    rw [List.length_zipIdx] at hi hj
    rcases hfirst with hfirst | ⟨hfirst, rfl⟩
    · rcases hsecond with hsecond | ⟨hsecond, rfl⟩
      · exact List.pairwise_iff_getElem.mp hnames i j hi hj hij n hfirst hsecond
      · exact hplaces n _ (List.getElem?_eq_getElem hj) hsecond _ (List.getElem_mem hi) hfirst
    · rcases hsecond with hsecond | ⟨-, hsame⟩
      · exact hplaces n _ (List.getElem?_eq_getElem hi) hfirst _ (List.getElem_mem hj) hsecond
      · exact absurd hsame (Nat.ne_of_lt hij)

/-- What holds of any two elements of a list holds of what they stand for. -/
lemma pairwise_iff_of_forall₂ {R : α → β → Prop} {S : α → α → Prop} {T : β → β → Prop} {l : List α}
    {l' : List β} (h : List.Forall₂ R l l')
    (hiff : ∀ {a b a' b'}, R a b → R a' b' → (S a a' ↔ T b b')) :
    l.Pairwise S ↔ l'.Pairwise T := by
  obtain ⟨hlength, hget⟩ := List.forall₂_iff_get.mp h
  rw [List.pairwise_iff_getElem, List.pairwise_iff_getElem]
  constructor
  · intro hl i j hi hj hij
    exact (hiff (hget i (hlength ▸ hi) hi) (hget j (hlength ▸ hj) hj)).mp
      (hl i j (hlength ▸ hi) (hlength ▸ hj) hij)
  · intro hl i j hi hj hij
    exact (hiff (hget i hi (hlength ▸ hi)) (hget j hj (hlength ▸ hj))).mpr
      (hl i j (hlength ▸ hi) (hlength ▸ hj) hij)

end numbers

/-! ### Numbers written in digits -/

namespace Text

/-- The value of an ASCII digit is its distance from zero. -/
lemma digitValue?_of_isDigit {c : Char} (h : c.isDigit = true) :
    digitValue? c = some (c.toNat - '0'.toNat) := by
  have hascii : c.toNat < 0x80 := by
    have hle : c.val ≤ '9'.val := of_decide_eq_true (Bool.and_eq_true_iff.mp h).2
    exact Nat.lt_of_le_of_lt (UInt32.le_iff_toNat_le.mp hle) (by decide)
  rw [digitValue?]
  simp only [hascii, h, if_true]
  rfl

/-- A number is read back from its digits. -/
lemma numberOf_ofNat (n : Nat) : numberOf (ofNat n) = n := by
  have hdigits : numberOf (ofNat n) = Nat.ofDigitChars 10 (ofNat n) 0 := by
    rw [numberOf, Nat.ofDigitChars_eq_foldl]
    refine List.foldl_ext _ _ _ fun m c hc => ?_
    rw [digitValue?_of_isDigit (isDigit_of_mem_ofNat hc), Option.getD_some]
  rw [hdigits, ofNat, Nat.ofDigitChars_ten_toDigits]

/-- A run of digits. -/
def Digits (t : Text) : Prop := t ≠ [] ∧ ∀ c ∈ t, isDecimal c = true

/-- A number is written in digits. -/
lemma digits_ofNat (n : Nat) : Digits (ofNat n) := by
  refine ⟨Nat.toDigits_ne_nil, fun c hc => ?_⟩
  rw [isDecimal, digitValue?_of_isDigit (isDigit_of_mem_ofNat hc)]
  rfl

end Text

namespace Declaration

open Text (Digits FirstRun)

variable {kind : DeclarationKind} {line tag : Text} {n : Nat}

/-! ### What a line names -/

/-- A declaration line with the given tag in its comment. -/
def HasTag (kind : DeclarationKind) (line tag : Text) : Prop :=
  ∃ type name comment, Form kind line type name comment ∧ StartsWithTag comment tag

/-- A declaration line whose tag names a slot: the first number in it. -/
def NamesSlot (kind : DeclarationKind) (line : Text) (n : Nat) : Prop :=
  ∃ tag digits, HasTag kind line tag ∧ FirstRun tag digits ∧ Text.numberOf digits = n

/-- The tag of an attribute index. -/
def indexTag (digits : Text) : Text := "[[attribute(" ++ digits ++ ")]]"

/-- A declaration line whose tag is that of an attribute index. -/
def NamesIndex (kind : DeclarationKind) (line : Text) (n : Nat) : Prop :=
  ∃ digits, HasTag kind line (indexTag digits) ∧ Digits digits ∧ Text.numberOf digits = n

/-- A field whose tag is that of an attribute index. -/
def CarriesIndex (f : Metal.Field) (n : Nat) : Prop :=
  ∃ digits, f.tag = some (indexTag digits) ∧ Digits digits ∧ Text.numberOf digits = n

/-- The tag of a declaration is that of its comment. -/
lemma hasTag_iff_of_form {type name comment : Text} (h : Form kind line type name comment) :
    HasTag kind line tag ↔ tagOf comment = some tag := by
  constructor
  · rintro ⟨type', name', comment', hform, htag⟩
    rw [(h.parts_unique hform).2.2, tagOf_eq_some_iff]
    exact htag
  · intro htag
    exact ⟨type, name, comment, h, tagOf_eq_some_iff.mp htag⟩

/-- The slot that a line names is the first number in the tag that is read off it. -/
lemma NamesSlot.of_parts? {type name : Text} {given : Option Text} (h : NamesSlot kind line n)
    (hparts : parts? line = some (type, name, given)) :
    ∃ tag, given = some tag ∧ Text.numberOf (Text.firstDigits tag) = n := by
  obtain ⟨tag, digits, ⟨type', name', comment, hform, htag⟩, hrun, rfl⟩ := h
  rw [parts?_of_form hform, tagOf_eq_some_iff.mpr htag] at hparts
  simp only [Option.some.injEq, Prod.mk.injEq] at hparts
  exact ⟨tag, hparts.2.2.symm, by rw [(Text.firstRun_iff.mp hrun).1]⟩

/-- A declaration names a slot exactly if the digits in its comment spell it. -/
lemma namesSlot_iff_of_form {type name comment : Text} (h : Form kind line type name comment) :
    NamesSlot kind line n ↔ slotDigits comment ≠ [] ∧ Text.numberOf (slotDigits comment) = n := by
  simp only [NamesSlot, hasTag_iff_of_form h, Text.firstRun_iff, slotDigits]
  rcases tagOf comment with _ | tag
  · have hnil : Text.firstDigits [] = [] := rfl
    simp [hnil]
  · simp

/-- The number in the tag of an index is its first number. -/
lemma firstRun_indexTag {digits : Text} (h : Digits digits) :
    FirstRun (indexTag digits) digits where
  ne_nil := h.1
  isDecimal := h.2
  exists_split := by
    refine ⟨"[[attribute(", ")]]", rfl, Text.firstDigits_eq_nil_iff.mp (by decide), fun c hc => ?_⟩
    obtain rfl : ')' = c := Option.some.inj hc
    decide

/-- Who names an index names the slot of this number. -/
lemma NamesIndex.namesSlot (h : NamesIndex kind line n) : NamesSlot kind line n := by
  obtain ⟨digits, htag, hdigits, hn⟩ := h
  exact ⟨_, digits, htag, firstRun_indexTag hdigits, hn⟩

/-- Tags with different digits are different. -/
lemma indexTag_inj {digits digits' : Text} (h : indexTag digits = indexTag digits') :
    digits = digits' :=
  List.append_cancel_left (List.append_cancel_right h)

/-! ### Slots and indices of what is read -/

variable {ordinal : Nat} {d : Declaration}

/-- The slot of a declaration is the one that its line names, or else the number of its place. -/
lemma Reads.slot_iff (h : Reads kind ordinal line d) :
    d.slot = n ↔
      Numbers (NamesSlot kind) (fun line => ∀ m, ¬NamesSlot kind line m) (line, ordinal) n := by
  obtain ⟨-, comment, hform, hmarking⟩ := h
  simp only [Numbers, namesSlot_iff_of_form hform]
  obtain ⟨hnil, hslot⟩ | ⟨hne, -, hslot⟩ := slotOf_eq_ok_iff.mp (marking_iff.mp hmarking).1
  · have hnil : slotDigits comment = [] := hnil
    simp [hslot, hnil, eq_comm]
  · have hne : slotDigits comment ≠ [] := hne
    have hslot : d.slot = Text.numberOf (slotDigits comment) := hslot
    simp [hslot, hne]

/-- The field of an attribute carries the index in the tag of its line, or without a tag the number
of its place. -/
lemma Reads.carriesIndex_iff (h : Reads .attribute ordinal line d) :
    CarriesIndex (.ofDeclaration d) n ↔
      Numbers (NamesIndex .attribute) (fun line => ∀ tag, ¬HasTag .attribute line tag)
        (line, ordinal) n := by
  obtain ⟨-, comment, hform, hmarking⟩ := h
  obtain ⟨hslot, htag⟩ := marking_iff.mp hmarking
  have hfield : (Metal.Field.ofDeclaration d).tag = d.tag := rfl
  simp only [CarriesIndex, Numbers, NamesIndex, hasTag_iff_of_form hform, hfield, ← htag]
  rcases htagOf : tagOf comment with _ | tag
  · rw [htagOf] at hslot
    obtain rfl : ordinal = d.slot := Except.ok.inj hslot
    have hsupplied : finalTag .attribute d.slot none = some (indexTag (Text.ofNat d.slot)) := rfl
    simp only [hsupplied, Option.some.injEq, reduceCtorEq, false_and, exists_false, false_or,
      not_false_eq_true, implies_true, true_and]
    constructor
    · rintro ⟨digits, hdigits, -, rfl⟩
      rw [← indexTag_inj hdigits, Text.numberOf_ofNat]
    · rintro rfl
      exact ⟨_, rfl, Text.digits_ofNat d.slot, Text.numberOf_ofNat d.slot⟩
  · have hgiven : finalTag .attribute d.slot (some tag) = some tag := rfl
    simp [hgiven]

/-! ### Slots and indices of a source -/

/-- No two attributes of a source name the same slot. -/
def NamesApart (source : Text) : Prop :=
  (keywordLines .attribute source).Pairwise fun line other =>
    ∀ n, NamesSlot .attribute line n → ¬NamesSlot .attribute other n

/-- No two fields of a struct carry the same index. -/
def IndicesApart (s : Metal.Struct) : Prop :=
  s.fields.Pairwise fun f g => ∀ n, CarriesIndex f n → ¬CarriesIndex g n

/-- Attributes of which no two name the same slot: their slots are different exactly if no attribute
without a named slot stands at the place that another one names, and the fields of the vertex struct
carry different indices exactly if no attribute without a tag stands at the place whose index
another one has in its tag. Each field is written on a line of its own, with its tag. -/
theorem slots_nodup_iff (source : Text) (ds : List Declaration)
    (hcollect : (collect source .attribute .vertex).result = .ok ds) (hnamed : NamesApart source) :
    ((ds.map (·.slot)).Nodup ↔
      ∀ i line, (keywordLines .attribute source)[i]? = some line →
        (∀ n, ¬NamesSlot .attribute line n) →
        ∀ other ∈ keywordLines .attribute source, ¬NamesSlot .attribute other i) ∧
    (IndicesApart (Metal.vertexInputs ds) ↔
      ∀ i line, (keywordLines .attribute source)[i]? = some line →
        (∀ tag, ¬HasTag .attribute line tag) →
        ∀ other ∈ keywordLines .attribute source, ¬NamesIndex .attribute other i) ∧
    ∀ i field, (Metal.vertexInputs ds).fields[i]? = some field →
      (Metal.vertexInputs ds).WritesField i field := by
  have hreads := collectFrom_eq_ok_iff.mp hcollect
  refine ⟨?_, ?_, fun _ _ => Metal.Struct.writesField⟩
  · rw [← pairwise_numbers_iff (fun _ h => h) hnamed, List.Nodup, List.pairwise_map]
    refine (pairwise_iff_of_forall₂ hreads fun hfirst hsecond => ?_).symm
    simp only [← hfirst.slot_iff, ← hsecond.slot_iff, forall_eq']
    exact ne_comm
  · have hindices : (keywordLines .attribute source).Pairwise fun line other =>
        ∀ n, NamesIndex .attribute line n → ¬NamesIndex .attribute other n :=
      List.Pairwise.imp (fun h n hline hother => h n hline.namesSlot hother.namesSlot) hnamed
    have huntagged : ∀ line, (∀ tag, ¬HasTag .attribute line tag) →
        ∀ n, ¬NamesIndex .attribute line n := by
      rintro line hnone n ⟨digits, htag, -⟩
      exact hnone _ htag
    rw [← pairwise_numbers_iff huntagged hindices, IndicesApart, Metal.vertexInputs,
      List.pairwise_map]
    refine (pairwise_iff_of_forall₂ hreads fun hfirst hsecond => ?_).symm
    simp only [← hfirst.carriesIndex_iff, ← hsecond.carriesIndex_iff]

/-- Of two attributes only the first names a slot. -/
lemma namesApart_of_keywordLines {source line other type name : Text}
    (hlines : keywordLines .attribute source = [line, other])
    (hother : parts? other = some (type, name, none)) : NamesApart source := by
  rw [NamesApart, hlines, List.pairwise_pair]
  intro n _ hnames
  obtain ⟨tag, hnone, -⟩ := hnames.of_parts? hother
  cases hnone

/-- A named slot behind all places, and an attribute without a tag: the slots are 2 and 1. -/
theorem slots_nodup_named_behind :
    ∃ ds, (collect "attribute vec2 a;//[[attribute(2)]]\nattribute vec2 b;" .attribute
        .vertex).result = .ok ds ∧
      (ds.map (·.slot)).Nodup ∧ IndicesApart (Metal.vertexInputs ds) ∧
      (Metal.vertexInputs ds).WritesField 1 ⟨"float2", "b", some "[[attribute(1)]]"⟩ := by
  let tagged : Text := "attribute vec2 a;//[[attribute(2)]]"
  let bare : Text := "attribute vec2 b;"
  have hlines : keywordLines .attribute (tagged ++ "\n" ++ bare) = [tagged, bare] := by decide
  have htagged : parts? tagged = some ("vec2".toList, "a".toList, some "[[attribute(2)]]".toList) :=
    by decide
  have hbare : parts? bare = some ("vec2".toList, "b".toList, none) := by decide
  have hnames : ∀ other ∈ [tagged, bare], ∀ n, NamesSlot .attribute other n → n = 2 := by
    simp only [List.mem_cons, List.not_mem_nil, or_false]
    rintro other (rfl | rfl) n hn
    · obtain ⟨tag, htag, rfl⟩ := hn.of_parts? htagged
      obtain rfl := Option.some.inj htag
      decide
    · obtain ⟨tag, hnone, -⟩ := hn.of_parts? hbare
      cases hnone
  have hcollect : (collect (tagged ++ "\n" ++ bare) .attribute .vertex).result =
    .ok [⟨.attribute, "vec2", "a", 2, some "[[attribute(2)]]"⟩,
      ⟨.attribute, "vec2", "b", 1, some "[[attribute(1)]]"⟩] := rfl
  obtain ⟨hslots, hindices, hwritten⟩ := slots_nodup_iff (tagged ++ "\n" ++ bare) _ hcollect
    (namesApart_of_keywordLines hlines hbare)
  rw [hlines] at hslots hindices
  have htwo : ∀ i line, [tagged, bare][i]? = some line → i ≠ 2 := by
    rintro i line hi rfl
    cases hi
  refine ⟨_, hcollect, hslots.mpr ?_, hindices.mpr ?_, hwritten 1 _ (by decide)⟩
  · intro i line hi _ other hother hn
    exact htwo i line hi (hnames other hother i hn)
  · intro i line hi _ other hother hn
    exact htwo i line hi (hnames other hother i hn.namesSlot)

/-- The first of two attributes names the slot at the place of the second: both have slot 1. -/
theorem slots_clash_by_place :
    ∃ ds, (collect "attribute vec2 a;//[[attribute(1)]]\nattribute vec2 b;" .attribute
        .vertex).result = .ok ds ∧
      NamesApart "attribute vec2 a;//[[attribute(1)]]\nattribute vec2 b;" ∧
      ¬(ds.map (·.slot)).Nodup ∧ ¬IndicesApart (Metal.vertexInputs ds) := by
  let tagged : Text := "attribute vec2 a;//[[attribute(1)]]"
  let bare : Text := "attribute vec2 b;"
  have hlines : keywordLines .attribute (tagged ++ "\n" ++ bare) = [tagged, bare] := by decide
  have hbare : parts? bare = some ("vec2".toList, "b".toList, none) := by decide
  refine ⟨[⟨.attribute, "vec2", "a", 1, some "[[attribute(1)]]"⟩,
      ⟨.attribute, "vec2", "b", 1, some "[[attribute(1)]]"⟩], rfl,
    namesApart_of_keywordLines hlines hbare, by decide, ?_⟩
  intro hapart
  have hcarries : ∀ type name : Text, CarriesIndex ⟨type, name, some "[[attribute(1)]]"⟩ 1 :=
    fun _ _ => ⟨Text.ofNat 1, rfl, Text.digits_ofNat 1, Text.numberOf_ofNat 1⟩
  exact (List.pairwise_pair.mp hapart) 1 (hcarries _ _) (hcarries _ _)

end Declaration

end MetalLowering
