import MetalLowering.Proofs.BodyLines

/-!
# What a pass takes, what it gives, and what it leaves alone

For each rule of the library it is said what a hit is: which text it takes at the front of the rest
of a line, and what it puts there (`wordRule_hit`, `matrixRule_hit`, `rule_hit`, `plainRule_hit`).

A rule spares a class of characters if no hit takes or gives one of them (`Spares`). A pass keeps
such characters (`Keeps`): all of them stay in the line, in their order, and a line starts with one
of them exactly if it did before.
-/

namespace MetalLowering

namespace Text

/-- A text without characters of the class `p`. -/
def Free (p : Char → Bool) (t : Text) : Prop := ∀ c ∈ t, p c = false

instance (p : Char → Bool) (t : Text) : Decidable (Free p t) := List.decidableBAll _ t

/-- A rule whose hits take and give text, but no character of the class `p`. -/
structure Spares (rule : Rule) (p : Char → Bool) : Prop where
  /-- No character of the class is taken. -/
  taken : ∀ {before text hit}, rule before text = some hit → Free p (text.take hit.length)
  /-- No character of the class is given. -/
  given : ∀ {before text hit}, rule before text = some hit → Free p hit.replacement
  /-- A hit takes something. -/
  length_pos : ∀ {before text hit}, rule before text = some hit → 0 < hit.length
  /-- A hit gives something. -/
  replacement_ne_nil : ∀ {before text hit}, rule before text = some hit → hit.replacement ≠ []

variable {rule : Rule} {p : Char → Bool}

/-- Two texts are free of some characters together exactly if each of them is. -/
@[simp] lemma free_append {t u : Text} : Free p (t ++ u) ↔ Free p t ∧ Free p u :=
  List.forall_mem_append

/-- A text that is free of some characters has none of them. -/
lemma Free.filter_eq_nil {t : Text} (h : Free p t) : t.filter p = [] := by
  rw [List.filter_eq_nil_iff]
  intro c hc
  rw [h c hc]
  exact Bool.false_ne_true

/-- A rule that spares some characters leaves those behind the skipped ones. -/
lemma Spares.filter_substituteFrom (h : Spares rule p) (before : Option Char) (skip : Nat)
    (t : Text) : (substituteFrom rule before skip t).filter p = (t.drop skip).filter p := by
  induction t generalizing before skip with
  | nil => simp [substituteFrom]
  | cons c t ih =>
      cases skip with
      | succ skip => rw [substituteFrom, ih, List.drop_succ_cons]
      | zero =>
          rw [List.drop_zero]
          rcases hhit : rule before (c :: t) with _ | ⟨_ | n, replacement⟩
          · simp only [substituteFrom, hhit, List.filter_cons, ih, List.drop_zero]
          · exact absurd (h.length_pos hhit) (lt_irrefl 0)
          · have hgiven := (h.given hhit).filter_eq_nil
            have htaken := (h.taken hhit).filter_eq_nil
            simp only [substituteFrom, hhit, List.filter_append, hgiven, List.nil_append, ih]
            conv_rhs => rw [← List.take_append_drop (n + 1) (c :: t), List.filter_append, htaken]
            rfl

/-- What a rule spares stays in the line, all of it and in its order. -/
lemma Spares.filter_substitute (h : Spares rule p) (line : Text) :
    (substitute rule line).filter p = line.filter p :=
  h.filter_substituteFrom none 0 line

/-- A pass neither puts a spared character at the front of a line nor takes one away from there. -/
lemma Spares.head?_substitute (h : Spares rule p) {c : Char} (hc : p c = true) (line : Text) :
    (substitute rule line).head? = some c ↔ line.head? = some c := by
  cases line with
  | nil => rfl
  | cons d t =>
      unfold substitute
      rcases hhit : rule none (d :: t) with _ | ⟨_ | n, replacement⟩
      · simp [substituteFrom, hhit]
      · exact absurd (h.length_pos hhit) (lt_irrefl 0)
      · obtain ⟨a, u, rfl⟩ := List.exists_cons_of_ne_nil (h.replacement_ne_nil hhit)
        have ha : p a = false := h.given hhit a List.mem_cons_self
        have hd : p d = false := h.taken hhit d (by simp)
        simp only [substituteFrom, hhit, List.cons_append, List.head?_cons, Option.some.injEq]
        constructor
        · rintro rfl
          rw [ha] at hc
          cases hc
        · rintro rfl
          rw [hd] at hc
          cases hc

/-- A text of spared characters only is left as it is. -/
lemma Spares.substituteFrom_eq_self (h : Spares rule p) {t : Text} (ht : ∀ c ∈ t, p c = true)
    (before : Option Char) : substituteFrom rule before 0 t = t := by
  induction t generalizing before with
  | nil => rfl
  | cons c t ih =>
      obtain ⟨hc, ht⟩ := List.forall_mem_cons.mp ht
      rcases hhit : rule before (c :: t) with _ | ⟨_ | n, replacement⟩
      · simp only [substituteFrom, hhit, ih ht]
      · exact absurd (h.length_pos hhit) (lt_irrefl 0)
      · have htaken := h.taken hhit c (by simp)
        rw [hc] at htaken
        cases htaken

/-- A change of lines that keeps the characters of a class: all of them, in their order, and where
they stand at the front. -/
structure Keeps (p : Char → Bool) (f : Text → Text) : Prop where
  /-- The characters of the class stay, in their order. -/
  filter_eq : ∀ line, (f line).filter p = line.filter p
  /-- A line starts with one of them exactly if it did before. -/
  head?_iff : ∀ c, p c = true → ∀ line, (f line).head? = some c ↔ line.head? = some c
  /-- A line of nothing else is left as it is. -/
  eq_self : ∀ line : Text, (∀ c ∈ line, p c = true) → f line = line

/-- A substitution by a rule that spares some characters keeps them. -/
lemma Spares.keeps (h : Spares rule p) : Keeps p (substitute rule) where
  filter_eq := h.filter_substitute
  head?_iff _ hc := h.head?_substitute hc
  eq_self _ hline := h.substituteFrom_eq_self hline none

/-- Changing nothing keeps all characters. -/
lemma Keeps.id (p : Char → Bool) : Keeps p id where
  filter_eq _ := rfl
  head?_iff _ _ _ := Iff.rfl
  eq_self _ _ := rfl

/-- Two changes that keep some characters keep them one after the other. -/
lemma Keeps.comp {f g : Text → Text} (hg : Keeps p g) (hf : Keeps p f) : Keeps p (g ∘ f) where
  filter_eq line := (hg.filter_eq (f line)).trans (hf.filter_eq line)
  head?_iff c hc line := (hg.head?_iff c hc (f line)).trans (hf.head?_iff c hc line)
  eq_self line hline := by
    rw [Function.comp_apply, hf.eq_self line hline, hg.eq_self line hline]

end Text

/-! ### The hits of the rules -/

namespace Vocabulary

/-- What the rule for words hits is the word of an entry, and its replacement is put there. -/
lemma wordRule_hit {names : List (Text × Text)} {before : Option Char} {text : Text} {hit : Text.Hit}
    (h : wordRule names before text = some hit) :
    ∃ entry ∈ names, ∃ rest, text = entry.1 ++ rest ∧ hit = ⟨entry.1.length, entry.2⟩ := by
  unfold wordRule at h
  split_ifs at h
  obtain ⟨entry, hfind, rfl⟩ := Option.map_eq_some_iff.mp h
  have hword : Text.startsWithWord before entry.1 text = true := by
    simpa using List.find?_some hfind
  obtain ⟨rest, hrest, -⟩ := Text.startsWithWord_iff.mp hword
  exact ⟨entry, List.mem_of_find?_eq_some hfind, rest, hrest, rfl⟩

/-- What the rule for matrix constructors hits is their word, and the helper is put there. -/
lemma matrixRule_hit {before : Option Char} {text : Text} {hit : Text.Hit}
    (h : matrixRule before text = some hit) :
    ∃ rest, text = "mat3" ++ rest ∧ hit = ⟨4, Metal.matrixHelper⟩ := by
  unfold matrixRule at h
  split at h
  next rest hrest =>
    split_ifs at h
    exact ⟨rest, Text.after?_eq_some_iff.mp hrest, (Option.some.inj h).symm⟩
  next => cases h

/-- The word pass spares what stands neither in its names nor in their spellings. -/
lemma spares_wordRule {names : List (Text × Text)} {p : Char → Bool}
    (hnames : ∀ entry ∈ names, entry.1 ≠ [] ∧ Text.Free p entry.1)
    (hspellings : ∀ entry ∈ names, entry.2 ≠ [] ∧ Text.Free p entry.2) :
    Text.Spares (wordRule names) p where
  taken h := by
    obtain ⟨entry, hentry, rest, rfl, rfl⟩ := wordRule_hit h
    rw [List.take_left]
    exact (hnames entry hentry).2
  given h := by
    obtain ⟨entry, hentry, rest, rfl, rfl⟩ := wordRule_hit h
    exact (hspellings entry hentry).2
  length_pos h := by
    obtain ⟨entry, hentry, rest, rfl, rfl⟩ := wordRule_hit h
    exact List.length_pos_of_ne_nil (hnames entry hentry).1
  replacement_ne_nil h := by
    obtain ⟨entry, hentry, rest, rfl, rfl⟩ := wordRule_hit h
    exact (hspellings entry hentry).1

/-- The rule for matrix constructors spares what neither their word nor the helper has. -/
lemma spares_matrixRule {p : Char → Bool} (hname : Text.Free p "mat3")
    (hhelper : Text.Free p Metal.matrixHelper) : Text.Spares matrixRule p where
  taken h := by
    obtain ⟨rest, rfl, rfl⟩ := matrixRule_hit h
    exact hname
  given h := by
    obtain ⟨rest, rfl, rfl⟩ := matrixRule_hit h
    exact hhelper
  length_pos h := by
    obtain ⟨rest, rfl, rfl⟩ := matrixRule_hit h
    exact Nat.succ_pos 3
  replacement_ne_nil h := by
    obtain ⟨rest, rfl, rfl⟩ := matrixRule_hit h
    decide

end Vocabulary

namespace FieldTable

/-- A pair that is put into an order stands among the others. -/
lemma mem_insertByLength {pair p : Text × Text} {pairs : List (Text × Text)} :
    p ∈ insertByLength pair pairs ↔ p = pair ∨ p ∈ pairs := by
  induction pairs with
  | nil => simp [insertByLength]
  | cons other rest ih =>
      unfold insertByLength
      split_ifs
      · rw [List.mem_cons, ih, List.mem_cons, or_left_comm]
      · rw [List.mem_cons]

/-- Ordering the names by their lengths loses none of them. -/
lemma mem_longestFirst {p : Text × Text} {pairs : List (Text × Text)} :
    p ∈ longestFirst pairs ↔ p ∈ pairs := by
  induction pairs with
  | nil => rfl
  | cons pair pairs ih =>
      rw [longestFirst, List.foldr_cons, ← longestFirst, mem_insertByLength, ih, List.mem_cons]

/-- What the rule of a table hits is a name of it, which stays or gives way to its access. -/
lemma rule_hit {pairs : List (Text × Text)} {owners : List Text} {before : Option Char} {text : Text}
    {hit : Text.Hit} (h : rule pairs owners before text = some hit) :
    ∃ pair ∈ pairs, ∃ rest, text = pair.1 ++ rest ∧ hit.length = pair.1.length ∧
      (hit.replacement = pair.1 ∨ hit.replacement = pair.2) := by
  unfold rule at h
  split_ifs at h
  obtain ⟨pair, hfind, hhit⟩ := Option.map_eq_some_iff.mp h
  have hword : Text.startsWithWord before pair.1 text = true := by
    simpa using List.find?_some hfind
  obtain ⟨rest, hrest, -⟩ := Text.startsWithWord_iff.mp hword
  refine ⟨pair, List.mem_of_find?_eq_some hfind, rest, hrest, ?_⟩
  dsimp only at hhit
  split_ifs at hhit
  · exact hhit ▸ ⟨rfl, Or.inl rfl⟩
  · exact hhit ▸ ⟨rfl, Or.inr rfl⟩

/-- The pass of a field table spares what stands neither in its names nor in their accesses. -/
lemma spares_rule {pairs : List (Text × Text)} {p : Char → Bool}
    (hnames : ∀ pair ∈ pairs, pair.1 ≠ [] ∧ Text.Free p pair.1)
    (haccesses : ∀ pair ∈ pairs, pair.2 ≠ [] ∧ Text.Free p pair.2) :
    Text.Spares (rule (longestFirst pairs) (owners pairs)) p where
  taken h := by
    obtain ⟨pair, hpair, rest, rfl, hlength, -⟩ := rule_hit h
    rw [hlength, List.take_left]
    exact (hnames pair (mem_longestFirst.mp hpair)).2
  given h := by
    obtain ⟨pair, hpair, rest, rfl, -, hname | haccess⟩ := rule_hit h
    · exact hname ▸ (hnames pair (mem_longestFirst.mp hpair)).2
    · exact haccess ▸ (haccesses pair (mem_longestFirst.mp hpair)).2
  length_pos h := by
    obtain ⟨pair, hpair, rest, rfl, hlength, -⟩ := rule_hit h
    exact hlength ▸ List.length_pos_of_ne_nil (hnames pair (mem_longestFirst.mp hpair)).1
  replacement_ne_nil h := by
    obtain ⟨pair, hpair, rest, rfl, -, hname | haccess⟩ := rule_hit h
    · exact hname ▸ (hnames pair (mem_longestFirst.mp hpair)).1
    · exact haccess ▸ (haccesses pair (mem_longestFirst.mp hpair)).1

end FieldTable

namespace Sampling

/-- Whether a texture can end before a text: a boundary lies between them. -/
def TextureEnds (texture rest : Text) : Prop :=
  ∃ before, Text.isBoundary (Text.lastOr before texture) rest.head? = true

/-- An argument is found behind some blanks, and the texture ends there. -/
lemma argumentLength_eq_some {texture : Text} {before : Char} {text : Text} {blanks n : Nat}
    (h : argumentLength texture before text blanks = some n) :
    ∃ k ≤ blanks, ∃ rest, text.drop k = texture ++ rest ∧ n = k + texture.length ∧
      TextureEnds texture rest := by
  induction blanks with
  | zero =>
      unfold argumentLength at h
      split_ifs at h with hword
      obtain ⟨rest, hrest, hends⟩ := Text.startsWithWord_iff.mp hword
      exact ⟨0, le_rfl, rest, hrest, by rw [Nat.zero_add, Option.some.inj h], _, hends⟩
  | succ blanks ih =>
      unfold argumentLength at h
      dsimp only at h
      split_ifs at h with hword
      · obtain ⟨rest, hrest, hends⟩ := Text.startsWithWord_iff.mp hword
        exact ⟨blanks + 1, le_rfl, rest, hrest, (Option.some.inj h).symm, _, hends⟩
      · obtain ⟨k, hk, hrest⟩ := ih h
        exact ⟨k, Nat.le_succ_of_le hk, hrest⟩

/-- The text of a call up to the end of its texture. -/
def Call (function texture call : Text) : Prop :=
  ∃ b₁ b₂, Text.Blanks b₁ ∧ Text.Blanks b₂ ∧ call = function ++ (b₁ ++ '(' :: (b₂ ++ texture))

/-- A call is taken from the name of its function to the end of its texture. -/
lemma callLength_eq_some {texture text function : Text} {n : Nat}
    (h : callLength texture text function = some n) :
    ∃ call rest, Call function texture call ∧ text = call ++ rest ∧ n = call.length ∧
      TextureEnds texture rest := by
  unfold callLength at h
  split at h
  next => cases h
  next rest hrest =>
    split at h
    next inner hinner =>
      obtain ⟨m, hm, rfl⟩ := Option.map_eq_some_iff.mp h
      obtain ⟨k, hk, after, hafter, rfl, hends⟩ := argumentLength_eq_some hm
      obtain ⟨b₁, hb₁, hb₁rest⟩ := Text.exists_trimLeft rest
      rw [hinner] at hb₁rest
      have hb₂ : Text.Blanks (inner.take k) := by
        intro c hc
        have hfront : inner.take (inner.takeWhile Text.isBlank).length =
            inner.takeWhile Text.isBlank :=
          (List.prefix_iff_eq_take.mp (List.takeWhile_prefix Text.isBlank)).symm
        have hmem := (List.take_prefix_take_left hk).subset hc
        rw [hfront] at hmem
        exact List.mem_takeWhile_imp hmem
      have hcut : inner = inner.take k ++ (texture ++ after) := by
        rw [← hafter, List.take_append_drop]
      have htext : text = function ++ (b₁ ++ '(' :: (inner.take k ++ texture)) ++ after := by
        conv_lhs => rw [Text.after?_eq_some_iff.mp hrest, hb₁rest, hcut]
        simp only [List.append_assoc, List.cons_append]
      refine ⟨_, after, ⟨b₁, inner.take k, hb₁, hb₂, rfl⟩, htext, ?_, hends⟩
      have hlength := congrArg List.length hcut
      have hlength' := congrArg List.length htext
      have htake : (inner.take k).length = k := by
        have := (List.takeWhile_prefix Text.isBlank (l := inner)).length_le
        rw [List.length_take]
        omega
      simp only [List.length_append, List.length_cons] at hlength hlength' ⊢
      omega
    next => cases h

/-- A hit of the sampling pass: a call is taken, and the sample of its texture given. -/
lemma plainRule_hit {texture : Text} {before : Option Char} {text : Text} {hit : Text.Hit}
    (h : plainRule texture before text = some hit) :
    ∃ function ∈ functions, ∃ call rest, Call function texture call ∧ text = call ++ rest ∧
      hit = ⟨call.length, template texture⟩ ∧ TextureEnds texture rest := by
  unfold plainRule rule at h
  split_ifs at h
  obtain ⟨n, hfind, rfl⟩ := Option.map_eq_some_iff.mp h
  obtain ⟨function, hfunction, hn⟩ := List.exists_of_findSome?_eq_some hfind
  obtain ⟨call, rest, hcall, htext, rfl, hends⟩ := callLength_eq_some hn
  exact ⟨function, hfunction, call, rest, hcall, htext, by rw [Template.expand_map_char], hends⟩

/-- The sampling pass spares what stands neither in a call nor in a sample of the texture. -/
lemma spares_plainRule {texture : Text} {p : Char → Bool}
    (htexture : Text.Free p texture) (hblank : ∀ c, Text.isBlank c = true → p c = false)
    (hbracket : p '(' = false) (hfunctions : ∀ f ∈ functions, Text.Free p f)
    (hsample : Text.Free p (".sample(" ++ Metal.samplerSuffix)) :
    Text.Spares (plainRule texture) p where
  taken h := by
    obtain ⟨function, hfunction, _, rest, ⟨b₁, b₂, hb₁, hb₂, rfl⟩, rfl, rfl, -⟩ :=
      plainRule_hit h
    intro c hc
    simp only [List.take_left, List.mem_append, List.mem_cons] at hc
    rcases hc with hc | hc | rfl | hc | hc
    · exact hfunctions function hfunction c hc
    · exact hblank c (hb₁ c hc)
    · exact hbracket
    · exact hblank c (hb₂ c hc)
    · exact htexture c hc
  given h := by
    obtain ⟨function, hfunction, call, rest, hcall, rfl, rfl, -⟩ := plainRule_hit h
    obtain ⟨hcall, hsuffix⟩ := Text.free_append.mp hsample
    simp only [template, Text.free_append]
    exact ⟨⟨⟨htexture, hcall⟩, htexture⟩, hsuffix⟩
  length_pos h := by
    obtain ⟨function, hfunction, _, rest, ⟨b₁, b₂, hb₁, hb₂, rfl⟩, rfl, rfl, -⟩ :=
      plainRule_hit h
    simp only [List.length_append, List.length_cons]
    omega
  replacement_ne_nil h := by
    obtain ⟨function, hfunction, call, rest, hcall, rfl, rfl, -⟩ := plainRule_hit h
    simp [template]

end Sampling

end MetalLowering
