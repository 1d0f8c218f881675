import Mathlib.Tactic.Common
import MetalLowering.Metal.Struct

/-!
# The lines of a struct

A struct is written with its name on the first line, a line for each field in order, and a closing
line (`Struct.lines_getElem?`). So what is said of the fields of a struct is said of its lines, and
`Struct.WritesField` gives the text of each of them.
-/

namespace MetalLowering.Metal

/-- The line of a field with a tag behind the name. -/
def taggedLine (type name tag : Text) : Text := "    " ++ type ++ " " ++ name ++ " " ++ tag ++ ";"

/-- The line of a field with nothing behind the name. -/
def plainLine (type name : Text) : Text := "    " ++ type ++ " " ++ name ++ ";"

/-- The struct is written with a field: behind the first line, which has the name of the struct, the
line at the place of the field has its type, its name and the tag, if there is one. -/
structure Struct.WritesField (s : Struct) (i : Nat) (f : Field) : Prop where
  /-- The first line. -/
  first : s.lines[0]? = some ("struct " ++ s.name ++ " \x7b")
  /-- The line of the field. -/
  line : ∃ line, s.lines[i + 1]? = some line ∧
    ((f.tag = none ∨ f.tag = some []) ∧ line = plainLine f.type f.name ∨
      ∃ tag, f.tag = some tag ∧ tag ≠ [] ∧ line = taggedLine f.type f.name tag)

/-- A tag stands behind the name. -/
lemma Field.line_eq_taggedLine {f : Field} {tag : Text} (h : f.tag = some tag) (hne : tag ≠ []) :
    f.line = taggedLine f.type f.name tag := by
  obtain ⟨c, t, rfl⟩ := List.exists_cons_of_ne_nil hne
  rw [Field.line, h]
  rfl

/-- Without a tag, or with an empty one, nothing stands behind the name. -/
lemma Field.line_eq_plainLine {f : Field} (h : f.tag = none ∨ f.tag = some []) :
    f.line = plainLine f.type f.name := by
  rcases h with h | h <;> simp only [Field.line, h, plainLine]

/-- The lines of the fields stand behind the first line of a struct. -/
lemma Struct.lines_getElem? {s : Struct} {i : Nat} {f : Field} (h : s.fields[i]? = some f) :
    s.lines[i + 1]? = some f.line := by
  have hline : (s.fields.map Field.line)[i]? = some f.line := by
    rw [List.getElem?_map, h, Option.map_some]
  obtain ⟨hlt, -⟩ := List.getElem?_eq_some_iff.mp hline
  rw [Struct.lines, List.cons_append, List.getElem?_cons_succ, List.getElem?_append_left hlt, hline]

/-- Every field of a struct is written. -/
lemma Struct.writesField {s : Struct} {i : Nat} {f : Field} (h : s.fields[i]? = some f) :
    s.WritesField i f := by
  refine ⟨rfl, f.line, lines_getElem? h, ?_⟩
  rcases htag : f.tag with _ | tag
  · exact Or.inl ⟨Or.inl rfl, Field.line_eq_plainLine (Or.inl htag)⟩
  · by_cases hnil : tag = []
    · subst hnil
      exact Or.inl ⟨Or.inr rfl, Field.line_eq_plainLine (Or.inr htag)⟩
    · exact Or.inr ⟨tag, rfl, hnil, Field.line_eq_taggedLine htag hnil⟩

end MetalLowering.Metal
