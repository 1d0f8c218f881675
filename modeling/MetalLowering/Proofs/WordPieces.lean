import Mathlib.Data.List.SplitBy
import MetalLowering.Proofs.Registrations
import MetalLowering.Proofs.WordPasses

/-!
# Lowering a line piece by piece

A line can be cut in one way only into words, each as long as it goes, and single characters that
belong to no word (`cut_iff`). A pass from word to word is the same as looking at each of these
pieces once, with the character before it and the text behind it as they stand in the line
(`WordWise.substitute_eq_mapPieces`).

For a field table whose names are words this says without any search what becomes of a line: a piece
that is a registered name gives way to its access, unless a point stands before it, or it is an
owner and a point follows (`lower_eq_mapPieces`). Names that are parts of other names play no role
then.
-/

namespace MetalLowering

namespace Text

/-! ### Pieces -/

/-- Whether two neighbours belong to one word. -/
def sameWord (c d : Char) : Bool := isWordChar c && isWordChar d

/-- The pieces of a line: its words, and one by one the characters between them. -/
def pieces (line : Text) : List Text := line.splitBy sameWord

/-- A line cut into words, each as long as it goes, and single characters that are in no word. -/
structure Cut (line : Text) (pieces : List Text) : Prop where
  /-- Put together, the pieces are the line. -/
  flatten_eq : pieces.flatten = line
  /-- A piece is a word or a single character. -/
  piece : ∀ piece ∈ pieces, Word piece ∨ ∃ c, isWordChar c = false ∧ piece = [c]
  /-- No word stands right behind another one. -/
  apart : pieces.IsChain fun piece next => ¬(Word piece ∧ Word next)

/-- A mark is no word. -/
lemma not_word_singleton {c : Char} (hc : isWordChar c = false) : ¬Word [c] := by
  intro hword
  rw [hword.2 c (List.mem_singleton_self c)] at hc
  cases hc

/-- A mark is a piece of its own. -/
lemma pieces_mark {c : Char} (hc : isWordChar c = false) (t : Text) :
    pieces (c :: t) = [c] :: pieces t := by
  refine List.splitBy_append (l := [c]) ?_
  intro a ha b _
  obtain rfl : c = a := by simpa using ha
  rw [sameWord, hc, Bool.false_and]

/-- A word that ends is one piece. -/
lemma pieces_word {w t : Text} (hw : Word w) (ht : Ends t) : pieces (w ++ t) = w :: pieces t := by
  have hchain : w.IsChain fun c d => sameWord c d = true := by
    refine (List.pairwise_of_forall_mem_list fun c hc d hd => ?_).isChain
    rw [sameWord, hw.2 c hc, hw.2 d hd, Bool.and_self]
  have happend : pieces (w ++ t) = pieces w ++ pieces t := by
    refine List.splitBy_append fun c _ d hd => ?_
    rw [sameWord, ht d hd, Bool.and_false]
  rw [happend, pieces, List.splitBy_of_isChain hw.1 hchain, List.singleton_append]

/-- The pieces of a line are a cut of it. -/
lemma cut_pieces (line : Text) : Cut line (pieces line) := by
  induction wordsIn_true line with
  | nil => exact ⟨rfl, List.forall_mem_nil _, List.isChain_nil⟩
  | @mark c t hc _ ih =>
      rw [pieces_mark hc]
      refine ⟨congrArg (c :: ·) ih.flatten_eq,
        List.forall_mem_cons.mpr ⟨Or.inr ⟨c, hc, rfl⟩, ih.piece⟩,
        List.isChain_cons.mpr ⟨fun next _ hwords => ?_, ih.apart⟩⟩
      exact not_word_singleton hc hwords.1
  | @word w t hw ht _ _ ih =>
      rw [pieces_word hw ht]
      refine ⟨congrArg (w ++ ·) ih.flatten_eq,
        List.forall_mem_cons.mpr ⟨Or.inl hw, ih.piece⟩,
        List.isChain_cons.mpr ⟨fun next hnext hwords => ?_, ih.apart⟩⟩
      -- the text behind the word starts with a mark, if there is any
      cases t with
      | nil => cases hnext
      | cons c t =>
          have hc : isWordChar c = false := ht c rfl
          rw [pieces_mark hc, List.head?_cons, Option.mem_some_iff] at hnext
          exact not_word_singleton hc (hnext ▸ hwords.2)

/-- What follows a word in a cut line does not go on with the word. -/
lemma Cut.ends {line w : Text} {rest : List Text} (h : Cut line (w :: rest)) (hw : Word w) :
    Ends rest.flatten := by
  cases rest with
  | nil => exact ends_nil
  | cons next rest =>
      rcases h.piece next (List.mem_cons_of_mem w List.mem_cons_self) with hnext | ⟨c, hc, rfl⟩
      · exact absurd ⟨hw, hnext⟩ (List.isChain_cons_cons.mp h.apart).1
      · exact ends_cons hc rest.flatten

/-- A line has one cut only, its pieces. -/
lemma Cut.eq_pieces {line : Text} {cut : List Text} (h : Cut line cut) : cut = pieces line := by
  induction cut generalizing line with
  | nil => rw [← h.flatten_eq]; rfl
  | cons piece rest ih =>
      have hrest : rest = pieces rest.flatten :=
        ih ⟨rfl, fun p hp => h.piece p (List.mem_cons_of_mem piece hp), h.apart.tail⟩
      rw [← h.flatten_eq, List.flatten_cons]
      rcases h.piece piece List.mem_cons_self with hword | ⟨c, hc, rfl⟩
      · rw [pieces_word hword (h.ends hword), ← hrest]
      · rw [List.singleton_append, pieces_mark hc, ← hrest]

/-- A line is cut in one way only. -/
lemma cut_iff {line : Text} {cut : List Text} : Cut line cut ↔ cut = pieces line :=
  ⟨Cut.eq_pieces, fun h => h ▸ cut_pieces line⟩

/-! ### Passes piece by piece -/

/-- The pieces one after the other, with `f before piece behind` in the place of each. -/
def mapPieces (f : Option Char → Text → Text → Text) : Option Char → List Text → Text
  | _, [] => []
  | before, piece :: rest => f before piece rest.flatten ++ mapPieces f piece.getLast? rest

variable {rule : Rule} {f : Option Char → Text → Text → Text}

/-- A pass from word to word looks at each piece of the line once. -/
theorem WordWise.substitute_eq_mapPieces (h : WordWise rule f)
    (hmark : ∀ before c behind, isWordChar c = false → f before [c] behind = [c]) (line : Text) :
    substitute rule line = mapPieces f none (pieces line) := by
  have hfrom : ∀ before, isWord? before = false ∨ Ends line →
      substituteFrom rule before 0 line = mapPieces f before (pieces line) := by
    induction wordsIn_true line with
    | nil =>
        intro before _
        rfl
    | @mark c t hc _ ih =>
        intro before _
        rw [h.substituteFrom_mark before hc, pieces_mark hc, mapPieces, hmark _ _ _ hc,
          ih (some c) (Or.inl hc)]
        rfl
    | @word w t hw ht _ _ ih =>
        intro before hbefore
        rw [h.substituteFrom_word (hbefore.resolve_right (hw.not_ends_append t)) hw ht,
          pieces_word hw ht, mapPieces, (cut_pieces t).flatten_eq, ← ih _ (Or.inr ht),
          h.substituteFrom_of_ends ht w.getLast?]
  exact hfrom none (Or.inl rfl)

end Text

open Text (Word WordWise Cut pieces mapPieces)

namespace FieldTable

variable {pairs : List (Text × Text)}

/-- What stands before the first point of an access that has one. -/
def Owner (table : FieldTable) (w : Text) : Prop :=
  ∃ entry ∈ table.entries, '.' ∈ entry.2 ∧ entry.2.takeWhile (· ≠ '.') = w

instance (table : FieldTable) (w : Text) : Decidable (table.Owner w) :=
  List.decidableBEx _ table.entries

/-- What a table puts in the place of a piece between the character before it and the text behind
it. -/
def replacement (table : FieldTable) (before : Option Char) (piece behind : Text) : Text :=
  match table.find? (.text piece) with
  | some access =>
    if before = some '.' ∨ (table.Owner piece ∧ behind.head? = some '.') then piece else access
  | none => piece

/-- The names that own fields are those that the reference calls owners. -/
lemma contains_owners (pairs : List (Text × Text)) (w : Text) :
    (owners pairs).contains w = decide ((ofPairs pairs).Owner w) := by
  rw [Bool.eq_iff_iff, List.contains_iff_mem, decide_eq_true_eq, owners, List.mem_filterMap]
  simp only [Owner, ofPairs, entry, List.mem_map, exists_exists_and_eq_and, List.contains_iff_mem,
    Option.ite_none_right_eq_some, Option.some.injEq]

/-- The length of the names does not matter for a whole word. -/
lemma entryFor_longestFirst (hnodup : (pairs.map (·.1)).Nodup) (w : Text) :
    Text.entryFor (longestFirst pairs) w = pairs.find? (·.1 = w) := by
  rcases hfind : Text.entryFor (longestFirst pairs) w with _ | pair
  · symm
    rw [List.find?_eq_none]
    intro pair hpair
    simpa using Text.entryFor_eq_none_iff.mp hfind pair (mem_longestFirst.mpr hpair)
  · obtain ⟨hpair, hname⟩ := Text.entryFor_eq_some hfind
    exact ((find?_name_eq_some_iff hnodup).mpr ⟨mem_longestFirst.mp hpair, hname⟩).symm

/-- Where no word goes on, a name can start unless a point stands before it. -/
lemma mayStartAfter_eq {before : Option Char} (h : Text.isWord? before = false) :
    mayStartAfter before = decide (before ≠ some '.') := by
  rcases before with _ | c
  · rfl
  · have hc : Text.isWordChar c = false := h
    simp [mayStartAfter, hc]

/-- What a pass gives for a word. -/
lemma access_eq_replacement (hnodup : (pairs.map (·.1)).Nodup) {before : Option Char}
    (hbefore : Text.isWord? before = false) (w behind : Text) :
    access pairs before w behind = (ofPairs pairs).replacement before w behind := by
  rw [access, replacement, mayStartAfter_eq hbefore, entryFor_longestFirst hnodup, find?_ofPairs,
    contains_owners]
  rcases hfind : pairs.find? (·.1 = w) with _ | pair
  · rw [hfind]
    exact ite_self w
  · rw [hfind]
    by_cases hpoint : before = some '.'
    · simp [hpoint]
    · simp [hpoint]

/-- The pass of a table whose names are words replaces words as the table says. -/
lemma wordWise_replacement (hnames : ∀ pair ∈ pairs, Word pair.1)
    (hnodup : (pairs.map (·.1)).Nodup) :
    WordWise (rule (longestFirst pairs) (owners pairs)) (ofPairs pairs).replacement where
  mark := (wordWise_rule hnames).mark
  inside := (wordWise_rule hnames).inside
  word hbefore hw ht := by
    rw [← access_eq_replacement hnodup hbefore]
    exact (wordWise_rule hnames).word hbefore hw ht

/-- A mark is not replaced. -/
lemma replacement_mark (hnames : ∀ pair ∈ pairs, Word pair.1) (before : Option Char) {c : Char}
    (hc : Text.isWordChar c = false) (behind : Text) :
    (ofPairs pairs).replacement before [c] behind = [c] := by
  have hnone : (ofPairs pairs).find? (.text [c]) = none := by
    rw [find?_ofPairs_eq_none_iff]
    intro hmem
    obtain ⟨pair, hpair, hname⟩ := List.mem_map.mp hmem
    exact Text.not_word_singleton hc (hname ▸ hnames pair hpair)
  rw [replacement, hnone]

/-- A table whose names are words lowers a line piece by piece: it is cut into its words and single
other characters, which can be done in one way only, and each piece is looked up by itself. -/
theorem lower_eq_mapPieces (calls : List (Text × Text)) (hnames : ∀ call ∈ calls, Word call.1)
    (line : Text) :
    (∀ cut, Cut line cut ↔ cut = pieces line) ∧
      (ofCalls calls).lower line =
        .ok (mapPieces (ofCalls calls).replacement none (pieces line)) := by
  refine ⟨fun cut => Text.cut_iff, ?_⟩
  have hkept : ∀ pair ∈ kept calls, Word pair.1 := by
    intro pair hpair
    exact hnames pair (mem_of_mem_kept hpair)
  have hwise := wordWise_replacement hkept (nodup_names_kept calls)
  rw [ofCalls_eq, lower_ofPairs, lowerWith, hwise.substitute_eq_mapPieces]
  intro before c behind hc
  exact replacement_mark hkept before hc behind

/-- Names inside of others, behind a point, and as owners. -/
theorem lower_eq_mapPieces_shared_names :
    (ofCalls [("v", "s.v"), ("vUv", "s.vUv"), ("s", "t"), ("v", "w")]).lower
        "v*vUv.x+a.v-s.v+s" = .ok "s.v*s.vUv.x+a.v-s.v+t" :=
  (lower_eq_mapPieces [("v", "s.v"), ("vUv", "s.vUv"), ("s", "t"), ("v", "w")] (by decide)
    "v*vUv.x+a.v-s.v+s").2.trans rfl

end FieldTable

end MetalLowering
