import MetalLowering.Proofs.Passes

/-!
# What the past of a field table has to do with a lowered line

A table is used by registering names and lowering lines, in any order. What it makes of a line is
fixed by the first access registered for each name so far (`lower_after`): not by how often a name
was registered or in which order the names came, and not by the lines lowered before.

Two facts carry this, and neither asks anything of the names.

* The name that is taken at a place of a line is the longest one that is found there
(`find?_longestFirst_iff`). Two names of one length cannot both be found, so the order of the names
among those of one length does not matter (`lowerWith_congr`).
* The search order that a table keeps is always the one that would be made for its names now
  (`Agrees`): a registration that adds a name drops it, and any other leaves the names alone
  (`agrees_after`).
-/

namespace MetalLowering

open Json (Value)

/-- A use of a table. -/
inductive TableCall
  /-- A name is registered with its access. -/
  | register (name access : Text)
  /-- A line is lowered. -/
  | lower (line : Text)

namespace FieldTable

variable {pairs pairs' : List (Text × Text)}

/-! ### The longest name that is found -/

/-- A pair is put in so that longer names come first. -/
lemma pairwise_insertByLength (pair : Text × Text)
    (h : pairs.Pairwise fun p q => q.1.length ≤ p.1.length) :
    (insertByLength pair pairs).Pairwise fun p q => q.1.length ≤ p.1.length := by
  induction pairs with
  | nil => exact List.pairwise_singleton _ pair
  | cons other rest ih =>
      obtain ⟨hother, hrest⟩ := List.pairwise_cons.mp h
      unfold insertByLength
      split_ifs with hlonger
      · refine List.pairwise_cons.mpr ⟨fun p hp => ?_, ih hrest⟩
        rcases mem_insertByLength.mp hp with rfl | hp
        · exact hlonger.le
        · exact hother p hp
      · refine List.pairwise_cons.mpr ⟨fun p hp => ?_, h⟩
        have hle : other.1.length ≤ pair.1.length := not_lt.mp hlonger
        rcases List.mem_cons.mp hp with rfl | hp
        · exact hle
        · exact (hother p hp).trans hle

/-- No name stands before a longer one. -/
lemma pairwise_longestFirst (pairs : List (Text × Text)) :
    (longestFirst pairs).Pairwise fun p q => q.1.length ≤ p.1.length := by
  induction pairs with
  | nil => exact List.Pairwise.nil
  | cons pair pairs ih => exact pairwise_insertByLength pair ih

/-- Two names of one length that are found at the same place are one name. -/
lemma name_eq_of_startsWithWord {before : Option Char} {name other text : Text}
    (hname : Text.startsWithWord before name text = true)
    (hother : Text.startsWithWord before other text = true) (hlength : name.length = other.length) :
    name = other := by
  obtain ⟨rest, htext, -⟩ := Text.startsWithWord_iff.mp hname
  obtain ⟨rest', htext', -⟩ := Text.startsWithWord_iff.mp hother
  exact (List.append_inj (htext.symm.trans htext') hlength).1

/-- Of the names of a table, the longest one that stands at a place is taken there. -/
lemma find?_longestFirst_iff (hnodup : (pairs.map (·.1)).Nodup) {before : Option Char} {text : Text}
    {pair : Text × Text} :
    (longestFirst pairs).find? (fun p => Text.startsWithWord before p.1 text) = some pair ↔
      pair ∈ pairs ∧ Text.startsWithWord before pair.1 text = true ∧
        ∀ other ∈ pairs, Text.startsWithWord before other.1 text = true →
          other.1.length ≤ pair.1.length := by
  -- what is found first is not shorter than anything found behind it
  have hlongest : ∀ {found : Text × Text},
      (longestFirst pairs).find? (fun p => Text.startsWithWord before p.1 text) = some found →
        ∀ other ∈ pairs, Text.startsWithWord before other.1 text = true →
          other.1.length ≤ found.1.length := by
    intro found hfound other hother hstarts
    obtain ⟨-, front, behind, hsplit, hfront⟩ := List.find?_eq_some_iff_append.mp hfound
    have hmem : other ∈ longestFirst pairs := mem_longestFirst.mpr hother
    have hsorted := pairwise_longestFirst pairs
    rw [hsplit] at hmem hsorted
    rcases List.mem_append.mp hmem with hmem | hmem
    · have hnot := hfront other hmem
      rw [hstarts] at hnot
      cases hnot
    · rcases List.mem_cons.mp hmem with rfl | hmem
      · exact le_rfl
      · exact (List.pairwise_cons.mp (List.pairwise_append.mp hsorted).2.1).1 other hmem
  constructor
  · intro hfound
    have hstarts : Text.startsWithWord before pair.1 text = true := by
      simpa using List.find?_some hfound
    exact ⟨mem_longestFirst.mp (List.mem_of_find?_eq_some hfound), hstarts, hlongest hfound⟩
  · rintro ⟨hpair, hstarts, hmax⟩
    rcases hfound : (longestFirst pairs).find? fun p => Text.startsWithWord before p.1 text with
      _ | found
    · exact absurd hstarts (List.find?_eq_none.mp hfound pair (mem_longestFirst.mpr hpair))
    · have hmem : found ∈ pairs := mem_longestFirst.mp (List.mem_of_find?_eq_some hfound)
      have hfits : Text.startsWithWord before found.1 text = true := by
        simpa using List.find?_some hfound
      have hlength : found.1.length = pair.1.length :=
        le_antisymm (hmax found hmem hfits) (hlongest hfound pair hpair hstarts)
      have hname : found.1 = pair.1 := name_eq_of_startsWithWord hfits hstarts hlength
      rw [hfound, List.inj_on_of_nodup_map hnodup hmem hpair hname]

/-! ### Tables with the same pairs -/

/-- Which names own fields depends on which pairs there are, not on their order. -/
lemma contains_owners_congr (h : ∀ p, p ∈ pairs ↔ p ∈ pairs') (name : Text) :
    (owners pairs).contains name = (owners pairs').contains name := by
  rw [Bool.eq_iff_iff, List.contains_iff_mem, List.contains_iff_mem, owners, owners,
    List.mem_filterMap, List.mem_filterMap]
  exact exists_congr fun p => and_congr_left fun _ => h p

/-- A line is lowered alike with the same pairs, in whatever order they stand. -/
lemma lowerWith_congr (hnodup : (pairs.map (·.1)).Nodup) (hnodup' : (pairs'.map (·.1)).Nodup)
    (h : ∀ p, p ∈ pairs ↔ p ∈ pairs') (line : Text) :
    lowerWith pairs line = lowerWith pairs' line := by
  have hfind : ∀ before text,
      (longestFirst pairs).find? (fun p => Text.startsWithWord before p.1 text) =
        (longestFirst pairs').find? fun p => Text.startsWithWord before p.1 text := by
    intro before text
    ext found
    rw [find?_longestFirst_iff hnodup, find?_longestFirst_iff hnodup', h found]
    simp only [h]
  have hrule : rule (longestFirst pairs) (owners pairs) =
      rule (longestFirst pairs') (owners pairs') := by
    funext before text
    simp only [rule, hfind, contains_owners_congr h]
  rw [lowerWith, hrule, lowerWith]

/-- A pair is kept exactly if its access is the first one registered for its name. -/
lemma mem_kept_iff {calls : List (Text × Text)} {pair : Text × Text} :
    pair ∈ kept calls ↔ (calls.find? (·.1 = pair.1)).map (·.2) = some pair.2 := by
  rw [← find?_kept, find?_ofPairs, Option.map_eq_some_iff]
  simp only [find?_name_eq_some_iff (nodup_names_kept calls)]
  constructor
  · intro hpair
    exact ⟨pair, ⟨hpair, rfl⟩, rfl⟩
  · rintro ⟨found, ⟨hfound, hname⟩, haccess⟩
    exact Prod.ext hname haccess ▸ hfound

end FieldTable

namespace PreparedTable

open FieldTable (ofPairs kept longestFirst owners)

variable {pairs : List (Text × Text)} {t : PreparedTable}

/-! ### The order that a table keeps -/

/-- A table of the given pairs, with no order or with the one of its names. -/
structure Agrees (t : PreparedTable) (pairs : List (Text × Text)) : Prop where
  /-- The table holds the pairs. -/
  table_eq : t.table = ofPairs pairs
  /-- An order that is kept is that of the names. -/
  order_eq : ∀ names, t.order = some names → names = (longestFirst pairs).map (·.1)

/-- A table of pairs shows them all. -/
lemma shown_ofPairs (pairs : List (Text × Text)) : (ofPairs pairs).shown = pairs := by
  rw [FieldTable.shown, ofPairs, List.map_map]
  exact List.map_id _

/-- A table of pairs is tried with longer names first. -/
lemma order?_ofPairs (pairs : List (Text × Text)) :
    (ofPairs pairs).order? = some ((longestFirst pairs).map (·.1)) := by
  rw [FieldTable.order?, FieldTable.texts?_ofPairs, Option.map_some]

/-- Among pairs with distinct names, each is found for its name. -/
lemma find?_ofPairs_of_mem (hnodup : (pairs.map (·.1)).Nodup) {pair : Text × Text}
    (hpair : pair ∈ pairs) : (ofPairs pairs).find? (.text pair.1) = some pair.2 := by
  rw [FieldTable.find?_ofPairs,
    (FieldTable.find?_name_eq_some_iff hnodup).mpr ⟨hpair, rfl⟩, Option.map_some]

/-- Looked up in their order, the names bring their accesses back. -/
lemma inOrder_ofPairs (hnodup : (pairs.map (·.1)).Nodup) :
    (ofPairs pairs).inOrder ((longestFirst pairs).map (·.1)) = longestFirst pairs := by
  rw [FieldTable.inOrder, List.filterMap_map]
  refine (List.filterMap_congr fun pair hpair => ?_).trans List.filterMap_some
  have hfind := find?_ofPairs_of_mem hnodup (FieldTable.mem_longestFirst.mp hpair)
  rw [Function.comp_apply, hfind, Option.map_some]

/-- A table with a right order, or none, lowers a line as its pairs say, and its order stays
right. -/
lemma Agrees.lower (h : t.Agrees pairs) (hnodup : (pairs.map (·.1)).Nodup) (line : Text) :
    (t.lower line).1 = .ok (FieldTable.lowerWith pairs line) ∧ (t.lower line).2.Agrees pairs := by
  have hnames : t.order.or t.table.order? = some ((longestFirst pairs).map (·.1)) := by
    rcases horder : t.order with _ | names
    · rw [Option.none_or, h.table_eq, order?_ofPairs]
    · rw [Option.some_or, h.order_eq names horder]
  unfold PreparedTable.lower
  split_ifs with hempty
  · -- a table without names finds none
    have hnil : pairs = [] := by simpa [h.table_eq, ofPairs] using hempty
    subst hnil
    refine ⟨congrArg Except.ok ?_, h⟩
    exact (Text.substituteFrom_of_none (fun _ _ => ite_self none) none line).symm
  · rw [hnames]
    refine ⟨?_, h.table_eq, fun names hsome => (Option.some.inj hsome).symm⟩
    simp only [h.table_eq, inOrder_ofPairs hnodup, shown_ofPairs, FieldTable.lowerWith]

/-- A registration keeps the pairs that it should, and no order that is not theirs. -/
lemma Agrees.register (h : t.Agrees pairs) (name access : Text) :
    (t.register (.text name) access).Agrees (FieldTable.keep pairs (name, access)) := by
  unfold PreparedTable.register
  rcases hfind : t.table.find? (.text name) with _ | old
  · refine ⟨?_, fun names hnone => by cases hnone⟩
    rw [h.table_eq]
    exact FieldTable.register_ofPairs pairs (name, access)
  · have hold : name ∈ pairs.map (·.1) := by
      by_contra hnew
      rw [h.table_eq, FieldTable.find?_ofPairs_eq_none_iff.mpr hnew] at hfind
      cases hfind
    have hkeep : FieldTable.keep pairs (name, access) = pairs := if_pos hold
    rw [hkeep]
    exact h

/-! ### Tables after any calls -/

/-- The table after one more call. -/
def step (t : PreparedTable) : TableCall → PreparedTable
  | .register name access => t.register (.text name) access
  | .lower line => (t.lower line).2

/-- The table after some calls, which starts out empty. -/
def after (calls : List TableCall) : PreparedTable := calls.foldl step {}

/-- The names with their accesses that were registered, in order. -/
def registrations (calls : List TableCall) : List (Text × Text) :=
  calls.filterMap fun
    | .register name access => some (name, access)
    | .lower _ => none

/-- The access that a name was first registered with. -/
def firstAccess (name : Text) : List TableCall → Option Text
  | [] => none
  | .register other access :: rest => if other = name then some access else firstAccess name rest
  | .lower _ :: rest => firstAccess name rest

/-- What is found for a name is what it was first registered with. -/
lemma find?_registrations (calls : List TableCall) (name : Text) :
    ((registrations calls).find? (·.1 = name)).map (·.2) = firstAccess name calls := by
  induction calls with
  | nil => rfl
  | cons call calls ih =>
      cases call with
      | register other access =>
          by_cases hname : other = name
          · simp [registrations, firstAccess, hname]
          · simpa [registrations, firstAccess, hname] using ih
      | lower line => exact ih

/-- A table agrees with its registrations after any further calls. -/
lemma agrees_foldl (calls : List TableCall) (h : t.Agrees pairs)
    (hnodup : (pairs.map (·.1)).Nodup) :
    (calls.foldl step t).Agrees ((registrations calls).foldl FieldTable.keep pairs) := by
  induction calls generalizing t pairs with
  | nil => exact h
  | cons call calls ih =>
      cases call with
      | register name access =>
          exact ih (h.register name access) (FieldTable.nodup_names_keep hnodup (name, access))
      | lower line => exact ih (h.lower hnodup line).2 hnodup

/-- After any calls a table holds what is kept of the registrations among them. -/
lemma agrees_after (calls : List TableCall) : (after calls).Agrees (kept (registrations calls)) :=
  agrees_foldl calls ⟨rfl, fun names hnone => by cases hnone⟩ List.nodup_nil

/-- After any calls a line is lowered by what was registered. -/
lemma lower_after_eq (calls : List TableCall) (line : Text) :
    ((after calls).lower line).1 = .ok (FieldTable.lowerWith (kept (registrations calls)) line) :=
  ((agrees_after calls).lower (FieldTable.nodup_names_kept _) line).1

/-- After any calls, with any names, a line is lowered as by a new table with the same registrations
and no line before; and if each name was first registered with the same access, it is lowered alike
after any other calls. -/
theorem lower_after (calls : List TableCall) (line : Text) :
    ((after calls).lower line).1 = (FieldTable.ofCalls (registrations calls)).lower line ∧
    ∀ calls' : List TableCall, (∀ name, firstAccess name calls = firstAccess name calls') →
      ∃ out, ((after calls).lower line).1 = .ok out ∧ ((after calls').lower line).1 = .ok out := by
  constructor
  · rw [lower_after_eq, FieldTable.ofCalls_eq, FieldTable.lower_ofPairs]
  · intro calls' hfirst
    have hmem : ∀ p, p ∈ kept (registrations calls) ↔ p ∈ kept (registrations calls') := by
      intro p
      rw [FieldTable.mem_kept_iff, FieldTable.mem_kept_iff, find?_registrations,
        find?_registrations, hfirst]
    refine ⟨_, lower_after_eq calls line, ?_⟩
    rw [lower_after_eq, FieldTable.lowerWith_congr (FieldTable.nodup_names_kept _)
      (FieldTable.nodup_names_kept _) hmem]

/-- The empty name, a point and a star in names, and names that start with others: in another order,
with a line in between and one of them registered again. -/
theorem lower_after_reordered :
    ∃ out, ((after [.register "" "e", .register "a" "s.a", .lower "a.b", .register "a.b" "t",
        .register "a" "u", .register "a*" "w"]).lower "a.b+a*c ab").1 = .ok out ∧
      ((after [.register "a*" "w", .register "a.b" "t", .register "a" "s.a",
        .register "" "e"]).lower "a.b+a*c ab").1 = .ok out := by
  apply (lower_after _ _).2
  intro name
  by_cases hname : name ∈ (["", "a", "a.b", "a*"] : List Text)
  · revert name
    decide
  · simp only [List.mem_cons, List.not_mem_nil, or_false, not_or] at hname
    simp only [firstAccess, Ne.symm hname.1, Ne.symm hname.2.1, Ne.symm hname.2.2.1,
      Ne.symm hname.2.2.2, if_false]

end PreparedTable

end MetalLowering
