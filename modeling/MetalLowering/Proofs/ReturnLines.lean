import MetalLowering.Proofs.IdentifierStages

/-!
# Where the output variable is returned

Behind the entry point every line that starts with a closing brace is preceded by a return of the
output variable, and no other line is (`Named.bodyBlock_lines`). The first such line ends the entry
point, and the run does not know it: a line of a later function that starts with a closing brace has
a return put before it as well.

The main theorem counts the returns of a source whose entry point ends with a brace on a line of its
own (`EntryLayout`). There is one before that brace, none earlier, and one for each later line that
starts with a closing brace; so there is exactly one return if and only if there is no such line. A
function behind the entry point is one too many.
-/

namespace MetalLowering.Lowering

variable {s : Lowering} {pairs : List (Text × Text)}

/-! ### The signature returns nothing -/

/-- Behind its indentation the return statement starts with its keyword. -/
lemma drop_returnLine (s : Lowering) : (s.returnLine.drop 4).head? = some 'r' := rfl

/-- What stands behind the indentation of a line does not change when the line goes on. -/
lemma head?_drop_append {line : Text} {c : Char} (h : (line.drop 4).head? = some c) (t : Text) :
    ((line ++ t).drop 4).head? = some c := by
  have hlength : 4 ≤ line.length := by
    by_contra hshort
    rw [List.drop_of_length_le (by omega)] at h
    cases h
  rw [List.drop_append_of_le_length hlength, List.head?_append, h]
  rfl

/-- Every parameter stands behind four blanks and does not start like a return. -/
lemma head?_drop_parameters (stage : Stage) (textures : List EntryPoint.BoundTexture) :
    ∀ line ∈ EntryPoint.parameters stage textures,
      ∃ c, (line.drop 4).head? = some c ∧ c ≠ 'r' := by
  intro line hline
  cases stage with
  | vertex =>
      rw [EntryPoint.parameters, List.mem_pair] at hline
      rcases hline with rfl | rfl
      · exact ⟨'V', rfl, by decide⟩
      · exact ⟨'c', rfl, by decide⟩
  | fragment =>
      rw [EntryPoint.parameters, List.mem_cons, List.mem_cons] at hline
      rcases hline with rfl | rfl | hline
      · exact ⟨'R', rfl, by decide⟩
      · exact ⟨'c', rfl, by decide⟩
      obtain ⟨texture, -, n, rfl | rfl⟩ := mem_textureParameters hline
      · cases texture.kind <;> exact ⟨'t', rfl, by decide⟩
      · exact ⟨'s', rfl, by decide⟩

/-- A line with something else behind its indentation is not the return statement. -/
lemma returnLine_ne {line : Text} (h : (line.drop 4).head? ≠ some 'r') : s.returnLine ≠ line := by
  rintro rfl
  exact h (drop_returnLine s)

/-- No line of the signature is a return. -/
lemma returnLine_not_mem_signature (s : Lowering) : s.returnLine ∉ s.signature := by
  intro hmem
  rw [signature, EntryPoint.signature, List.mem_append, List.mem_cons, List.mem_pair] at hmem
  rcases hmem with (hmem | hmem) | hmem | hmem
  · refine returnLine_ne ?_ hmem
    cases s.stage <;> decide
  · obtain ⟨parameter, hparameter, hline⟩ := mem_separated hmem
    obtain ⟨c, hc, hr⟩ := head?_drop_parameters s.stage s.textures parameter hparameter
    have hne : some c ≠ some 'r' := by
      intro heq
      exact hr (Option.some.inj heq)
    rcases hline with hline | hline
    · exact returnLine_ne (hc ▸ hne) hline
    · exact returnLine_ne (head?_drop_append hc "," ▸ hne) hline
  · exact returnLine_ne (by decide) hmem
  · refine returnLine_ne ?_ hmem
    cases s.stage <;> decide

/-! ### Returns of a body -/

/-- A line behind the entry point, with a return before it if it starts with a closing brace. -/
lemma Named.bodyBlock_lines (h : s.Named pairs) (line : Text) :
    (s.bodyBlock line).lines =
      (if line.head? = some '\x7d' then [s.returnLine] else []) ++ [s.bodyLine pairs line] := by
  have hhead := h.keeps_bodyLine.head?_iff '\x7d' (by decide) line
  simp only [bodyBlock, h.plain.lowerBodyLine_eq, Emission.ofLine, hhead]
  split_ifs <;> rfl

/-- Behind the entry point a run lowers line after line. -/
lemma Named.lowerLines_body_append (h : s.Named pairs) (lines rest : List Text) :
    (s.lowerLines .body (lines ++ rest)).lines =
      (s.lowerLines .body lines).lines ++ (s.lowerLines .body rest).lines := by
  induction lines with
  | nil => rfl
  | cons line lines ih =>
      rw [List.cons_append, h.plain.total.lowerLines_cons_lines, lowerLine_body, ih,
        h.plain.total.lowerLines_cons_lines, lowerLine_body, List.append_assoc]

/-- A body whose lines do not become returns themselves has one for each closing brace at the front
of a line. -/
lemma Named.count_returnLine_body (h : s.Named pairs) {lines : List Text}
    (hlines : ∀ line ∈ lines, s.bodyLine pairs line ≠ s.returnLine) :
    (s.lowerLines .body lines).lines.count s.returnLine =
      lines.countP (·.head? = some '\x7d') := by
  induction lines with
  | nil => rfl
  | cons line lines ih =>
      obtain ⟨hline, hlines⟩ := List.forall_mem_cons.mp hlines
      rw [h.plain.total.lowerLines_cons_lines, lowerLine_body, h.bodyBlock_lines,
        List.count_append, List.count_append, ih hlines, List.count_singleton, List.countP_cons]
      by_cases hhead : line.head? = some '\x7d'
      · simp [hhead, hline]
        omega
      · simp [hhead, hline]

/-- The closing brace of an entry point, on a line of its own. -/
lemma Named.lowerLines_closing (h : s.Named pairs) (rest : List Text) :
    (s.lowerLines .body ("\x7d".toList :: rest)).lines =
      s.returnLine :: "\x7d".toList :: (s.lowerLines .body rest).lines := by
  have hclosing : s.bodyLine pairs "\x7d" = "\x7d" :=
    h.keeps_bodyLine.eq_self "\x7d" (by simp [isBrace])
  rw [h.plain.total.lowerLines_cons_lines, lowerLine_body, h.bodyBlock_lines, hclosing]
  rfl

/-! ### Returns of a source -/

/-- A source whose entry point ends with a closing brace on a line of its own. -/
structure EntryLayout (source : Text) (before body trailing : List Text) : Prop where
  /-- The lines of the source. -/
  lines_eq : Text.lines source =
    before ++ "void main() \x7b".toList :: (body ++ "\x7d".toList :: trailing)
  /-- The entry point is the first line that can be one. -/
  before_entry : ∀ line ∈ before, isEntryPoint line = false
  /-- The first line behind it with a closing brace at its front ends it. -/
  body_open : ∀ line ∈ body, line.head? ≠ some '\x7d'

/-- The lines of a source in this layout: what comes before the return of the entry point, and what
is put out for the lines behind it. -/
lemma Named.lower_layout (h : s.Named pairs) {source : Text} {before body trailing : List Text}
    (hlayout : EntryLayout source before body trailing) :
    (s.lower source).result = .ok (((before.filter (!isDropped ·)).map s.mapLine ++ s.signature ++
      (s.lowerLines .body body).lines) ++
        s.returnLine :: "\x7d".toList :: (s.lowerLines .body trailing).lines) := by
  have hentry : isEntryPoint "void main() \x7b" = true := by decide
  have hcut : (Text.cutAt "\x7b" ("void main() \x7b" : Text)).2 = some [] := by decide
  have hopening : s.openingBlock [] = ⟨[], none⟩ := rfl
  rw [lower, hlayout.lines_eq, h.plain.total.lowerLines_split hlayout.before_entry hentry,
    lowerLine_entry_of_brace s hentry hcut, hopening, h.lowerLines_body_append, h.lowerLines_closing]
  simp only [Emission.result, List.append_nil, List.append_assoc]

/-- The returns of a source in this layout whose lines do not become returns themselves: one before
the closing brace of the entry point, none earlier, and one for each later line that starts with a
closing brace. -/
theorem count_return_lower (s : Lowering) (source : Text) (before body trailing : List Text)
    (hs : OfIdentifiers s) (hlayout : EntryLayout source before body trailing)
    (hlines : ∀ line ∈ Text.lines source,
      s.mapLine line ≠ s.returnLine ∧ s.lowerBodyLine line ≠ .ok s.returnLine) :
    ∃ front back,
      (s.lower source).result = .ok (front ++ s.returnLine :: "\x7d".toList :: back) ∧
      s.returnLine ∉ front ∧
      back.count s.returnLine = trailing.countP (·.head? = some '\x7d') ∧
      ((front ++ s.returnLine :: "\x7d".toList :: back).count s.returnLine = 1 ↔
        ∀ line ∈ trailing, line.head? ≠ some '\x7d') := by
  obtain ⟨pairs, h⟩ := hs.exists_named
  rw [hlayout.lines_eq] at hlines
  have hmapped : ∀ line ∈ before, s.mapLine line ≠ s.returnLine := by
    intro line hline
    exact (hlines line (List.mem_append_left _ hline)).1
  have hlowered : ∀ line ∈ body ++ trailing, s.bodyLine pairs line ≠ s.returnLine := by
    intro line hline heq
    refine (hlines line ?_).2 (h.plain.lowerBodyLine_eq_ok_iff.mpr heq)
    rcases List.mem_append.mp hline with hline | hline <;> simp [hline]
  obtain ⟨hbody, htrailing⟩ := List.forall_mem_append.mp hlowered
  have hfront : s.returnLine ∉ (before.filter (!isDropped ·)).map s.mapLine ++ s.signature ++
      (s.lowerLines .body body).lines := by
    rw [List.mem_append, List.mem_append, not_or, not_or]
    refine ⟨⟨?_, returnLine_not_mem_signature s⟩, ?_⟩
    · intro hmem
      obtain ⟨line, hline, heq⟩ := List.mem_map.mp hmem
      exact hmapped line (List.mem_of_mem_filter hline) heq
    · rw [← List.count_eq_zero, h.count_returnLine_body hbody, List.countP_eq_zero]
      intro line hline
      simpa using hlayout.body_open line hline
  have hback := h.count_returnLine_body htrailing
  refine ⟨_, _, h.lower_layout hlayout, hfront, hback, ?_⟩
  have hclosing : s.returnLine ≠ "\x7d".toList := returnLine_ne (by decide)
  rw [List.count_append, List.count_eq_zero.mpr hfront, List.count_cons_self,
    List.count_cons_of_ne hclosing.symm, hback]
  simp [List.countP_eq_zero]

/-- A fragment stage with a bound texture: the return stands before the closing brace. -/
theorem count_return_lower_fragment :
    ∃ front back,
      ((ofFragment ⟨[], [.text "t"]⟩ [] [⟨"t", .plane⟩]).lower
        "void main() \x7b\ngl_FragColor = texture2D(t, uv);\n\x7d\n// end").result =
          .ok (front ++ "    return msl_out_color;".toList :: "\x7d".toList :: back) ∧
      "    return msl_out_color;".toList ∉ front ∧ "    return msl_out_color;".toList ∉ back := by
  have hplain : (ofFragment ⟨[], [.text "t"]⟩ [] [⟨"t", .plane⟩]).Plain
      (FieldTable.kept (fragmentPairs ⟨[], [.text "t"]⟩ [])) :=
    plain_ofFragment _ _ (by decide)
  have himages : ∀ image ∈ [Json.Value.text "t"], IsIdentifierName image :=
    List.forall_mem_singleton.mpr ⟨"t", rfl, by decide⟩
  have hlines : ∀ line ∈ Text.lines "void main() \x7b\ngl_FragColor = texture2D(t, uv);\n\x7d\n// end",
      (ofFragment ⟨[], [.text "t"]⟩ [] [⟨"t", .plane⟩]).mapLine line ≠ "    return msl_out_color;" ∧
        (ofFragment ⟨[], [.text "t"]⟩ [] [⟨"t", .plane⟩]).bodyLine
          (FieldTable.kept (fragmentPairs ⟨[], [.text "t"]⟩ [])) line ≠
            "    return msl_out_color;" := by
    decide
  obtain ⟨front, back, hrun, hfront, hback, -⟩ :=
    count_return_lower (ofFragment ⟨[], [.text "t"]⟩ [] [⟨"t", .plane⟩])
      "void main() \x7b\ngl_FragColor = texture2D(t, uv);\n\x7d\n// end" []
      ["gl_FragColor = texture2D(t, uv);"] ["// end"]
      (.fragment ⟨[], [.text "t"]⟩ [] [] (by simp) (by simp) himages rfl)
      ⟨rfl, by simp, by decide⟩
      fun line hline => ⟨(hlines line hline).1,
        hplain.lowerBodyLine_eq_ok_iff.not.mpr (hlines line hline).2⟩
  exact ⟨front, back, hrun, hfront, List.count_eq_zero.mp hback⟩

/-- A function behind the entry point: its closing brace is taken for that of the entry point. -/
theorem return_lower_behind_entry :
    ¬∀ s source before body trailing, OfIdentifiers s → EntryLayout source before body trailing →
      (∀ line ∈ Text.lines source,
        s.mapLine line ≠ s.returnLine ∧ s.lowerBodyLine line ≠ .ok s.returnLine) →
      ∃ front back,
        (s.lower source).result = .ok (front ++ s.returnLine :: "\x7d".toList :: back) ∧
        s.returnLine ∉ front ∧ s.returnLine ∉ back := by
  intro h
  have hlines : ∀ line ∈ Text.lines "void main() \x7b\n\x7d\nfloat f() \x7b\n\x7d\n",
      (ofVertex ⟨[], []⟩ [] []).mapLine line ≠ (ofVertex ⟨[], []⟩ [] []).returnLine ∧
        (ofVertex ⟨[], []⟩ [] []).bodyLine (FieldTable.kept (vertexPairs ⟨[], []⟩ [] [])) line ≠
          (ofVertex ⟨[], []⟩ [] []).returnLine := by
    decide
  obtain ⟨front, back, hrun, hfront, hback⟩ :=
    h (ofVertex ⟨[], []⟩ [] []) "void main() \x7b\n\x7d\nfloat f() \x7b\n\x7d\n" [] []
      ["float f() \x7b", "\x7d"] (.vertex ⟨[], []⟩ [] [] (by simp) (by simp) (by simp) rfl)
      ⟨rfl, by simp, by simp⟩
      fun line hline => ⟨(hlines line hline).1,
        (plain_ofVertex ⟨[], []⟩ [] []).lowerBodyLine_eq_ok_iff.not.mpr (hlines line hline).2⟩
  have hcount := congrArg (List.count (ofVertex ⟨[], []⟩ [] []).returnLine) (Except.ok.inj hrun)
  have hclosing : "\x7d".toList ≠ (ofVertex ⟨[], []⟩ [] []).returnLine := by decide
  rw [List.count_append, List.count_cons_self, List.count_cons_of_ne hclosing,
    List.count_eq_zero.mpr hfront, List.count_eq_zero.mpr hback] at hcount
  exact absurd hcount (by decide)

end MetalLowering.Lowering
