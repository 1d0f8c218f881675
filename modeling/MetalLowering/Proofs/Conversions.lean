import Mathlib
import MetalLowering.Command.Watch
import MetalLowering.Proofs.Checks
import MetalLowering.Proofs.LoneHalves
import MetalLowering.Proofs.NestingRoom
import MetalLowering.Proofs.Notes
import MetalLowering.Proofs.Stores

/-!
# What one conversion does

A job reads its own files and no others (`Job.load_congr`), so what it makes of them is fixed by
their contents and, in the commented format, by the time (`Job.Makes`). A conversion that returns
either reports that the files do not convert and leaves the store as it is, or it has written the
text that the job makes to the output (`convert_cases`). To a writable output it returns exactly if
the job fails in an expected way or its result can be encoded (`convert_returns_iff`).

Conversions can be counted in the log: each one that returns notes at its end, and only there, that
it failed or that the output is written (`conversionsIn_convert`).
-/

namespace MetalLowering

open Traced (NotesOnly)

namespace Job

variable {job : Job} {room : Nat} {read read' : Reader} {clock : Clock} {store : Store}

/-! ### What a job reads -/

/-- The text of a file depends on what the file reads as. -/
lemma readText_congr {path : Path} (h : read path = read' path) :
    readText read path = readText read' path := by
  simp only [readText, h]

/-- A file whose text is known can be read. -/
lemma exists_read_of_readText {path : Path} {text : Text} (h : readText read path = .ok text) :
    ∃ content, read path = .ok content := by
  rcases hread : read path with problem | content
  · simp only [readText, hread] at h
    cases h
  · exact ⟨content, rfl⟩

/-- The stand-ins depend on what the files of the job read as. -/
lemma standIns_congr (h : ∀ file ∈ job.files, read file = read' file) :
    job.standIns read = job.standIns read' := by
  have htext : ∀ file ∈ job.files, textOr read file = textOr read' file := by
    intro file hfile
    rw [textOr, readText_congr (h file hfile), textOr]
  have hhalves : job.spelledHalves read = job.spelledHalves read' := by
    refine List.flatMap_congr fun file hfile => ?_
    rw [htext file (by simp_all [files])]
  have hingredients : job.ingredients read = job.ingredients read' := by
    rw [ingredients, ingredients, hhalves,
      List.flatMap_congr fun file hfile => congrArg (· ++ file.text) (htext file hfile)]
  rw [standIns, standIns, hhalves, hingredients]

/-- The metadata depends on what the files of the job read as. -/
lemma givenMetadata_congr (h : ∀ file ∈ job.files, read file = read' file) :
    job.givenMetadata room read = job.givenMetadata room read' := by
  have hstandIn : job.standIn read = job.standIn read' := by
    funext half
    rw [standIn, standIns_congr h, standIn]
  rcases hmetadata : job.metadata with _ | file
  · simp only [givenMetadata, hmetadata]
  · have hfile : read file = read' file := h file (by simp [files, hmetadata])
    simp only [givenMetadata, hmetadata, readMetadata, readText_congr hfile, hstandIn]

/-- The halves in names depend on what the files of the job read as. -/
lemma halves_congr (h : ∀ file ∈ job.files, read file = read' file) :
    job.halves room read = job.halves room read' := by
  rw [halves, halves, givenMetadata_congr h, standIns_congr h]

/-- A job depends on what its own files read as. -/
lemma load_congr (h : ∀ file ∈ job.files, read file = read' file) :
    job.load room read = job.load room read' := by
  have hvertex : readText read job.vertex = readText read' job.vertex :=
    readText_congr (h job.vertex (by simp [files]))
  have hfragment : readText read job.fragment = readText read' job.fragment :=
    readText_congr (h job.fragment (by simp [files]))
  rw [load, load, givenMetadata_congr h, hvertex, hfragment]

/-- With metadata and sources at hand, a job is their lowering. -/
lemma load_result_of_reads {m : Metadata} {vertex fragment : Text}
    (hm : job.givenMetadata room read = .ok m) (hvertex : readText read job.vertex = .ok vertex)
    (hfragment : readText read job.fragment = .ok fragment) :
    (job.load room read).result =
      (lowerPair fragment vertex m job.defines).result.mapError JobFailure.lowering := by
  simp only [load, Traced.result_bind, Traced.result_ofExcept, hm, hvertex, hfragment, ok_bind,
    Traced.result_note]
  rfl

/-- A job that fails cannot read a file, or it cannot lower what it has read. -/
lemma load_result_eq_error {e : JobFailure} (h : (job.load room read).result = .error e) :
    job.givenMetadata room read = .error e ∨ readText read job.vertex = .error e ∨
      readText read job.fragment = .error e ∨
      ∃ m vertex fragment f, job.givenMetadata room read = .ok m ∧
        (lowerPair fragment vertex m job.defines).result = .error f ∧ e = .lowering f := by
  simp only [load, Traced.result_bind, Traced.result_ofExcept, Traced.result_note, ok_bind] at h
  rcases bind_eq_error.mp h with hm | ⟨m, hm, h⟩
  · exact Or.inl hm
  rcases bind_eq_error.mp h with hvertex | ⟨vertex, -, h⟩
  · exact Or.inr (Or.inl hvertex)
  rcases bind_eq_error.mp h with hfragment | ⟨fragment, -, h⟩
  · exact Or.inr (Or.inr (Or.inl hfragment))
  refine Or.inr (Or.inr (Or.inr ?_))
  rcases hresult : (lowerPair fragment vertex m job.defines).result with f | source
  · rw [Traced.mapError, hresult] at h
    exact ⟨m, vertex, fragment, f, hm, hresult, (Except.error.inj h).symm⟩
  · rw [Traced.mapError, hresult] at h
    cases h

/-! ### What a job makes -/

/-- The source that a job comes to: its own sources, lowered with the metadata and the
definitions. -/
def Lowers (job : Job) (room : Nat) (read : Reader) (source : Text) : Prop :=
  ∃ m vertex fragment, job.givenMetadata room read = .ok m ∧
    readText read job.vertex = .ok vertex ∧ readText read job.fragment = .ok fragment ∧
    (lowerPair fragment vertex m job.defines).result = .ok source

/-- The text that a job makes of its files at a time: the source it comes to, in whose names there
is no half of a surrogate pair. If the format is the commented one, five lines stand before it. -/
def Makes (job : Job) (room : Nat) (read : Reader) (clock : Clock) (text : Text) : Prop :=
  ∃ source, job.Lowers room read source ∧ job.halves room read = [] ∧
    text =
      (if job.format = "commented".toList then
        code ["// Generated by glsl2msl v0.1.0", "// Generation time: " ++ clock.text,
          "// Vertex source: " ++ job.vertex.baseName,
          "// Fragment source: " ++ job.fragment.baseName, []]
      else []) ++ source

/-- A job succeeds with the source that it comes to. -/
lemma load_result_eq_ok_iff {source : Text} :
    (job.load room read).result = .ok source ↔ job.Lowers room read source := by
  constructor
  · intro h
    have hload := h
    simp only [load, Traced.result_bind, Traced.result_ofExcept] at h
    obtain ⟨m, hm, h⟩ := bind_eq_ok.mp h
    obtain ⟨vertex, hvertex, h⟩ := bind_eq_ok.mp h
    obtain ⟨fragment, hfragment, -⟩ := bind_eq_ok.mp h
    refine ⟨m, vertex, fragment, hm, hvertex, hfragment, ?_⟩
    rw [load_result_of_reads hm hvertex hfragment] at hload
    rcases hlowered : (lowerPair fragment vertex m job.defines).result with f | lowered
    · rw [hlowered] at hload
      cases hload
    · rw [hlowered] at hload
      exact congrArg Except.ok (Except.ok.inj hload)
  · rintro ⟨m, vertex, fragment, hm, hvertex, hfragment, hlowered⟩
    rw [load_result_of_reads hm hvertex hfragment, hlowered]
    rfl

/-- The header is five lines: the program with its version, the time, the two sources, and an empty
one. -/
lemma header_eq (job : Job) (clock : Clock) :
    job.header clock =
      code ["// Generated by glsl2msl v0.1.0", "// Generation time: " ++ clock.text,
        "// Vertex source: " ++ job.vertex.baseName,
        "// Fragment source: " ++ job.fragment.baseName, []] := by
  have hfirst : ("// Generated by glsl2msl v0.1.0\n// Generation time: " : Text) =
      "// Generated by glsl2msl v0.1.0" ++ (['\n'] ++ "// Generation time: ") := by decide
  have hvertex : ("\n// Vertex source: " : Text) = ['\n'] ++ "// Vertex source: " := by decide
  have hfragment : ("\n// Fragment source: " : Text) = ['\n'] ++ "// Fragment source: " := by decide
  have hlast : ("\n\n" : Text) = ['\n'] ++ ['\n'] := by decide
  unfold header code
  rw [hfirst, hvertex, hfragment, hlast]
  simp only [List.flatMap_cons, List.flatMap_nil, List.nil_append, List.append_nil,
    List.append_assoc]

/-- What is put out is what the job makes, unless there is a half in a name. -/
lemma makes_iff {text : Text} :
    job.Makes room read clock text ↔
      ∃ source, (job.load room read).result = .ok source ∧ job.halves room read = [] ∧
        text = job.formatted clock source := by
  have hformatted : ∀ source, job.formatted clock source =
      (if job.format = "commented".toList then job.header clock else []) ++ source := by
    intro source
    unfold formatted
    split_ifs <;> rfl
  simp only [Makes, load_result_eq_ok_iff, hformatted, header_eq]

/-- A job succeeds if it makes something. -/
lemma Makes.exists_load {text : Text} (h : job.Makes room read clock text) :
    ∃ source, (job.load room read).result = .ok source := by
  obtain ⟨source, hload, -⟩ := makes_iff.mp h
  exact ⟨source, hload⟩

/-- A job makes one text of its files at a time. -/
lemma Makes.unique {text text' : Text} (h : job.Makes room read clock text)
    (h' : job.Makes room read clock text') : text = text' := by
  obtain ⟨source, hload, -, rfl⟩ := makes_iff.mp h
  obtain ⟨source', hload', -, rfl⟩ := makes_iff.mp h'
  rw [hload] at hload'
  rw [Except.ok.inj hload']

/-- Whether a job makes something does not depend on the time. -/
lemma Makes.at_clock {text : Text} (h : job.Makes room read clock text) (clock' : Clock) :
    ∃ text', job.Makes room read clock' text' := by
  obtain ⟨source, hlowers, hhalves, -⟩ := h
  exact ⟨_, source, hlowers, hhalves, rfl⟩

/-- What a job makes depends on what its own files read as. -/
lemma makes_congr (h : ∀ file ∈ job.files, read file = read' file) {text : Text} :
    job.Makes room read clock text ↔ job.Makes room read' clock text := by
  rw [makes_iff, makes_iff, load_congr h, halves_congr h]

/-- A job that makes something has read all of its files. -/
lemma Makes.exists_read {text : Text} (h : job.Makes room read clock text) :
    ∀ file ∈ job.files, ∃ content, read file = .ok content := by
  obtain ⟨source, ⟨m, vertex, fragment, hm, hvertex, hfragment, -⟩, -⟩ := h
  intro file hfile
  simp only [files, List.mem_cons, Option.mem_toList] at hfile
  rcases hfile with rfl | rfl | hmetadata
  · exact exists_read_of_readText hvertex
  · exact exists_read_of_readText hfragment
  · rw [givenMetadata, hmetadata] at hm
    obtain ⟨text, htext, -⟩ := bind_eq_ok.mp hm
    exact exists_read_of_readText htext

/-- Writing to a file that the job does not read leaves what the job makes. -/
lemma Makes.write {output : Path} {content : ByteArray} {after : Store} {text : Text}
    (h : job.Makes room store.read clock text) (hwrite : store.write output content = .ok after)
    (hseparate : ∀ file ∈ job.files, store.partsOf file ≠ store.partsOf output) :
    job.Makes room after.read clock text := by
  refine (makes_congr fun file hfile => ?_).mp h
  obtain ⟨old, hold⟩ := h.exists_read file hfile
  rw [hold, Store.read_write_of_ne hwrite hold (hseparate file hfile)]

/-! ### What is put out -/

/-- A half in a name comes into the result. -/
lemma exists_mem_of_halves {source : Text} (h : job.Lowers room read source)
    (hhalves : job.halves room read ≠ []) :
    ∃ c half, (c, half) ∈ job.halves room read ∧ c ∈ source := by
  obtain ⟨m, vertex, fragment, hm, -, -, hlowered⟩ := h
  obtain ⟨⟨c, half⟩, hmem⟩ := List.exists_mem_of_ne_nil _ hhalves
  refine ⟨c, half, hmem, ?_⟩
  rw [halves, hm] at hmem
  obtain ⟨name, hname, hc⟩ := List.any_eq_true.mp (List.mem_filter.mp hmem).2
  exact mem_of_lowerPair hlowered hname (List.contains_iff_mem.mp hc)

variable {output : Path} {result : HalvedText} {after : Store}

/-- What is left of a result that is written. -/
lemma save_of_encoded {content : ByteArray} (hencode : result.encode = .ok content)
    (hwrite : store.write output content = .ok after) :
    save store output result = ⟨after, [savingNote output, savedNote output], none⟩ := by
  have hwrite' : store.write output
      ((.ok content : Except EncodingFailure ByteArray).toOption.getD .empty) = .ok after := hwrite
  simp only [save, hencode, hwrite']

/-- What is left of a result that cannot be encoded: an empty file. -/
lemma save_of_halved {e : EncodingFailure} (hencode : result.encode = .error e)
    (hwrite : store.write output .empty = .ok after) :
    save store output result = ⟨after, [savingNote output], some (.encoding e)⟩ := by
  have hwrite' : store.write output
      ((.error e : Except EncodingFailure ByteArray).toOption.getD .empty) = .ok after := hwrite
  simp only [save, hencode, hwrite']

/-- The result of a job with no half in a name is written, to an output that can be written. -/
lemma exists_save_of_halves_eq_nil (hhalves : job.halves room read = [])
    (hwritable : store.Writable output) (clock : Clock) (source : Text) :
    ∃ after, store.write output (encodeText (job.formatted clock source)) = .ok after ∧
      save store output ⟨job.formatted clock source, job.halves room read⟩ =
        ⟨after, [savingNote output, savedNote output], none⟩ := by
  obtain ⟨after, hwrite⟩ := hwritable.exists_write (encodeText (job.formatted clock source))
  exact ⟨after, hwrite, save_of_encoded (HalvedText.encode_of_halves_eq_nil hhalves) hwrite⟩

/-- The result of a job with a half in a name is not: it cannot be encoded, and what is left is an
empty file. -/
lemma Lowers.exists_save_of_halves_ne_nil {source : Text} (h : job.Lowers room read source)
    (hhalves : job.halves room read ≠ []) (hwritable : store.Writable output) (clock : Clock) :
    ∃ e after, store.write output .empty = .ok after ∧
      save store output ⟨job.formatted clock source, job.halves room read⟩ =
        ⟨after, [savingNote output], some (.encoding e)⟩ := by
  obtain ⟨c, half, hmem, hc⟩ := exists_mem_of_halves h hhalves
  have hformatted : c ∈ job.formatted clock source := by
    unfold formatted
    split_ifs
    · exact List.mem_append_right _ hc
    · exact hc
  obtain ⟨e, hencode⟩ := HalvedText.exists_encode_eq_error
    (t := ⟨job.formatted clock source, job.halves room read⟩) hmem hformatted
  obtain ⟨after, hwrite⟩ := hwritable.exists_write .empty
  exact ⟨e, after, hwrite, save_of_halved hencode hwrite⟩

/-- Nothing is left of a result that has no file to go to. -/
lemma save_of_unwritable (h : ¬store.Writable output) :
    ∃ problem, save store output result =
      ⟨store, [savingNote output], some (.file problem output)⟩ := by
  rcases hwrite : store.write output (result.encode.toOption.getD .empty) with problem | after
  · exact ⟨problem, by simp only [save, hwrite]⟩
  · exact absurd ⟨_, after, hwrite⟩ h

end Job

namespace Session

variable {s : Session} {store : Store} {clock : Clock} {written : Bool}

/-! ### How a conversion ends -/

/-- A failure that is not expected ends a conversion as it is. -/
lemma convert_of_unexpected {e : JobFailure}
    (hload : (s.job.load s.room store.read).result = .error e) (hcause : e.cause = .unexpected) :
    (s.convert store clock).result = .error e := by
  have hreport : report e = none := by simp only [report, hcause]
  simp only [convert, Job.prepare, hload, hreport]

/-- An expected failure is reported, and the files are left alone. -/
lemma convert_of_expected {e : JobFailure}
    (hload : (s.job.load s.room store.read).result = .error e) (hcause : e.cause ≠ .unexpected) :
    s.convert store clock =
      ⟨store, (s.job.load s.room store.read).log ++
        [⟨.error, "Transpilation error: " ++ e.message⟩], .ok false⟩ := by
  have hreport : report e = some ("Transpilation error: " ++ e.message) := by
    unfold report
    split
    next hunexpected => exact absurd hunexpected hcause
    next => rfl
  simp only [convert, Job.prepare, hload, hreport]

/-- A source that was lowered is saved. -/
lemma convert_of_loaded {source : Text} {saved : Job.Saved}
    (hload : (s.job.load s.room store.read).result = .ok source)
    (hsave : Job.save store s.output
      ⟨s.job.formatted clock source, s.job.halves s.room store.read⟩ = saved) :
    s.convert store clock =
      ⟨saved.store, (s.job.load s.room store.read).log ++ s.job.formatNotes ++ saved.log,
        saved.failure.elim (.ok true) .error⟩ := by
  simp only [convert, Job.prepare, hload, hsave]
  cases saved.failure <;> rfl

/-- A conversion that returns leaves the store alone where the job makes nothing, and has written
the text where it makes one. -/
lemma convert_cases (h : (s.convert store clock).result = .ok written) :
    ((∀ text, ¬s.job.Makes s.room store.read clock text) ∧ (s.convert store clock).store = store ∧
        (∃ e, (s.convert store clock).log =
          (s.job.load s.room store.read).log ++ [⟨.error, e⟩])) ∨
      ∃ text, s.job.Makes s.room store.read clock text ∧
        store.write s.output (encodeText text) = .ok (s.convert store clock).store ∧
        (s.convert store clock).log = (s.job.load s.room store.read).log ++ s.job.formatNotes ++
          [Job.savingNote s.output, Job.savedNote s.output] := by
  rcases hload : (s.job.load s.room store.read).result with e | source
  · by_cases hcause : e.cause = .unexpected
    · rw [convert_of_unexpected hload hcause] at h
      cases h
    · rw [convert_of_expected hload hcause]
      refine Or.inl ⟨fun text hmakes => ?_, rfl, _, rfl⟩
      obtain ⟨source, hsource⟩ := hmakes.exists_load
      rw [hload] at hsource
      cases hsource
  · have hlowers := Job.load_result_eq_ok_iff.mp hload
    by_cases hwritable : store.Writable s.output
    · by_cases hhalves : s.job.halves s.room store.read = []
      · obtain ⟨after, hwrite, hsave⟩ :=
          Job.exists_save_of_halves_eq_nil hhalves hwritable clock source
        rw [convert_of_loaded hload hsave]
        exact Or.inr ⟨_, Job.makes_iff.mpr ⟨source, hload, hhalves, rfl⟩, hwrite, rfl⟩
      · obtain ⟨e, after, -, hsave⟩ :=
          hlowers.exists_save_of_halves_ne_nil hhalves hwritable clock
        rw [convert_of_loaded hload hsave] at h
        cases h
    · obtain ⟨problem, hsave⟩ := Job.save_of_unwritable hwritable
      rw [convert_of_loaded hload hsave] at h
      cases h

/-- A conversion to a writable output returns unless the job fails in a way that is not expected, or
comes to a source with a half in a name. -/
lemma convert_returns_iff (hwritable : store.Writable s.output) :
    (∃ written, (s.convert store clock).result = .ok written) ↔
      (∀ e, (s.job.load s.room store.read).result = .error e → e.cause ≠ .unexpected) ∧
        ∀ source, s.job.Lowers s.room store.read source → s.job.halves s.room store.read = [] := by
  simp only [← Job.load_result_eq_ok_iff]
  rcases hload : (s.job.load s.room store.read).result with e | source
  · by_cases hcause : e.cause = .unexpected
    · simp [convert_of_unexpected hload hcause, hcause]
    · simp [convert_of_expected hload hcause, hcause]
  · have hlowers := Job.load_result_eq_ok_iff.mp hload
    by_cases hhalves : s.job.halves s.room store.read = []
    · obtain ⟨after, -, hsave⟩ :=
        Job.exists_save_of_halves_eq_nil hhalves hwritable clock source
      simp [convert_of_loaded hload hsave, hhalves]
    · obtain ⟨e, after, -, hsave⟩ :=
        hlowers.exists_save_of_halves_ne_nil hhalves hwritable clock
      simp [convert_of_loaded hload hsave, hhalves]

end Session

/-! ### Conversions in the log -/

/-- Whether an entry is the last one of a conversion: a reported failure, or the note that the
output is written. -/
def endsConversion (output : Path) (e : Entry) : Bool :=
  e.level = .error || e = Job.savedNote output

/-- How many conversions a log tells of. -/
def conversionsIn (output : Path) (log : List Entry) : Nat := log.countP (endsConversion output)

section counting

variable {output : Path}

/-- The conversions in two logs are those in both. -/
@[simp] lemma conversionsIn_append (log log' : List Entry) :
    conversionsIn output (log ++ log') = conversionsIn output log + conversionsIn output log' :=
  List.countP_append

/-- A log in which no entry ends a conversion tells of none. -/
lemma conversionsIn_eq_zero {log : List Entry} (h : ∀ e ∈ log, endsConversion output e = false) :
    conversionsIn output log = 0 :=
  List.countP_eq_zero.mpr fun e he => by simp [h e he]

/-- No conversion ends with a debug entry or a warning. -/
lemma endsConversion_of_isMinor {e : Entry} (h : e.IsMinor) : endsConversion output e = false := by
  have hsaved : e ≠ Job.savedNote output := by
    rintro rfl
    rcases h with h | h <;> cases h
  rcases h with h | h <;> simp [endsConversion, h, hsaved]

/-- The note of a written output is told apart by its first letter. -/
lemma endsConversion_info {message : Text} {c : Char} (h : message.head? = some c) (hc : c ≠ 'S') :
    endsConversion output ⟨.info, message⟩ = false := by
  have hsaved : (⟨.info, message⟩ : Entry) ≠ Job.savedNote output := by
    intro hsame
    have hmessage : message = (Job.savedNote output).message := congrArg Entry.message hsame
    rw [hmessage] at h
    exact hc (Option.some.inj h).symm
  simp [endsConversion, hsaved]

/-- Loading a job does not end a conversion. -/
lemma Job.conversionsIn_load (job : Job) (room : Nat) (read : Reader) :
    conversionsIn output (job.load room read).log = 0 := by
  refine conversionsIn_eq_zero ?_
  change NotesOnly (endsConversion output · = false) (job.load room read)
  unfold load
  refine (Traced.notesOnly_ofExcept _).bind fun m => ?_
  refine (Traced.notesOnly_ofExcept _).bind fun vertex => ?_
  refine (Traced.notesOnly_ofExcept _).bind fun fragment => ?_
  refine (Traced.notesOnly_note (endsConversion_info rfl (by decide))).bind fun _ => ?_
  exact ((notesOnly_lowerPair _ _ _ _).imp fun _ => endsConversion_of_isMinor).mapError _

/-- What is noted of the format does not end a conversion. -/
lemma Job.conversionsIn_formatNotes (job : Job) : conversionsIn output job.formatNotes = 0 := by
  refine conversionsIn_eq_zero fun e he => ?_
  unfold formatNotes at he
  split_ifs at he
  · cases he
  · rw [List.mem_singleton.mp he]
    exact endsConversion_of_isMinor (Or.inr rfl)

/-- What is noted of a written result tells of one conversion. -/
lemma conversionsIn_saved :
    conversionsIn output [Job.savingNote output, Job.savedNote output] = 1 := by
  have hsaving : endsConversion output (Job.savingNote output) = false :=
    endsConversion_info rfl (by decide)
  have hsaved : endsConversion output (Job.savedNote output) = true := by simp [endsConversion]
  simp [conversionsIn, hsaving, hsaved]

/-- A conversion that returns is told of once. -/
lemma Session.conversionsIn_convert {s : Session} {store : Store} {clock : Clock} {written : Bool}
    (h : (s.convert store clock).result = .ok written) :
    conversionsIn s.output (s.convert store clock).log = 1 := by
  rcases convert_cases h with ⟨-, -, e, hlog⟩ | ⟨text, -, -, hlog⟩
  · rw [hlog, conversionsIn_append, Job.conversionsIn_load]
    rfl
  · rw [hlog, conversionsIn_append, conversionsIn_append, Job.conversionsIn_load,
      Job.conversionsIn_formatNotes, conversionsIn_saved]

end counting

/-! ### A pair to convert -/

/-- A pair in the working directory. -/
def spriteJob : Job := { vertex := ⟨0, ["a.vert".toList]⟩, fragment := ⟨0, ["a.frag".toList]⟩ }

/-- Where the pair is converted to. -/
def spriteOutput : Path := ⟨0, ["a.metal".toList]⟩

/-- When it is converted. -/
def spriteClock : Clock := ⟨2024, 2, 29, 12, 0, 0⟩

/-- The source of both stages. -/
def spriteSource : Text := "void main() \x7b\n\x7d\n"

/-- The files of the pair. -/
def spriteStore : Store where
  base := ["shaders".toList]
  nodes := [([], .directory), (["shaders".toList], .directory),
    (["shaders".toList, "a.vert".toList], .file (encodeText spriteSource)),
    (["shaders".toList, "a.frag".toList], .file (encodeText spriteSource))]

/-- The lines that the pair is converted to. -/
def spriteLines : List Text := [
  "#include <metal_stdlib>",
  "using namespace metal;",
  "float3x3 sm_to_m3(float3 v0, float3 v1, float3 v2) \x7breturn float3x3(v0, v1, v2);\x7d",
  "float3x3 sm_to_m3(float4x4 m) \x7breturn float3x3(m[0].xyz, m[1].xyz, m[2].xyz);\x7d",
  "#define sm_level(x) level(x)",
  "struct Uniforms \x7b",
  "\x7d;",
  "struct Vertex \x7b",
  "\x7d;",
  "struct RasterizerData \x7b",
  "    float4 position [[position]];",
  "\x7d;",
  "vertex RasterizerData vertexShader(",
  "    Vertex v [[stage_in]],",
  "    constant Uniforms& uniforms [[buffer(0)]]",
  ") \x7b",
  "    RasterizerData msl_vertex_out;",
  "    return msl_vertex_out;",
  "\x7d",
  "fragment float4 fragmentShader(",
  "    RasterizerData in [[stage_in]],",
  "    constant Uniforms& uniforms [[buffer(0)]]",
  ") \x7b",
  "    float4 msl_out_color;",
  "    return msl_out_color;",
  "\x7d"]

/-- The pair in the commented format. -/
def commentedJob : Job := { spriteJob with format := "commented" }

/-- The lines before it, if it is converted at the given time. -/
def commentLines (time : Text) : List Text :=
  ["// Generated by glsl2msl v0.1.0", "// Generation time: " ++ time, "// Vertex source: a.vert",
    "// Fragment source: a.frag", []]

/-- The text of a file that holds the given one, up to line ends. -/
lemma readText_of_read {read : Job.Reader} {path : Path} {written text : Text}
    (h : read path = .ok (encodeText written)) (htext : Text.unifyBreaks written = text) :
    Job.readText read path = .ok text := by
  simp only [Job.readText, h, decodeText_encodeText, htext]

/-- The pair comes to its lines. -/
lemma lowers_spriteJob (room : Nat) : spriteJob.Lowers room spriteStore.read (code spriteLines) :=
  ⟨{}, spriteSource, spriteSource, rfl, readText_of_read rfl rfl, readText_of_read rfl rfl, rfl⟩

/-- In the commented format five lines stand before them. -/
lemma makes_commentedJob (room : Nat) (clock : Clock) :
    commentedJob.Makes room spriteStore.read clock
      (code (commentLines clock.text ++ spriteLines)) := by
  have hformat : commentedJob.format = "commented".toList := rfl
  refine ⟨code spriteLines, lowers_spriteJob room, rfl, ?_⟩
  rw [if_pos hformat, code, List.flatMap_append]
  rfl

/-! ### A pair with metadata beside it -/

/-- The pair, with metadata in the working directory. -/
def describedJob : Job := { spriteJob with metadata := some ⟨0, ["a.json".toList]⟩ }

/-- The files of the pair, with the given metadata. -/
def describedStore (document : Text) : Store :=
  spriteStore.put ["shaders".toList, "a.json".toList] (.file (encodeText document))

/-- Metadata with half of a surrogate pair as the name of a uniform. -/
def halvedDocument : Text :=
  "\x7b\"uniforms\":[\x7b\"name\":\"\\ud800\",\"kind\":\"float1\"\x7d]\x7d"

/-- A character that stands in for the half. -/
def halvedStandIn : Char := Char.ofNat 0x40000

section described

variable {document : Text}

/-- The pair can be converted to its place. -/
lemma writable_described : (describedStore document).Writable spriteOutput := ⟨.empty, _, rfl⟩

/-- The vertex source of the pair. -/
lemma readText_describedVertex :
    Job.readText (describedStore document).read describedJob.vertex = .ok spriteSource :=
  readText_of_read rfl rfl

/-- The fragment source of the pair. -/
lemma readText_describedFragment :
    Job.readText (describedStore document).read describedJob.fragment = .ok spriteSource :=
  readText_of_read rfl rfl

/-- The metadata of the pair. -/
lemma readText_describedMetadata (hbreaks : Text.unifyBreaks document = document) :
    Job.readText (describedStore document).read ⟨0, ["a.json".toList]⟩ = .ok document :=
  readText_of_read rfl hbreaks

/-- What the metadata of the pair gives. -/
lemma givenMetadata_described {room : Nat} {value : Json.Value} {m : Metadata}
    (hbreaks : Text.unifyBreaks document = document)
    (hread : Json.read (describedJob.standIn (describedStore document).read) room document =
      .ok value)
    (hm : Metadata.ofJson value = .ok m) :
    describedJob.givenMetadata room (describedStore document).read = .ok m := by
  change Job.readMetadata _ room (describedStore document).read ⟨0, ["a.json".toList]⟩ = _
  rw [Job.readMetadata, readText_describedMetadata hbreaks]
  simp only [Except.bind, hread, Job.metadataOf, hm]

end described

/-- One character stands in for the half. -/
lemma standIns_halved :
    describedJob.standIns (describedStore halvedDocument).read = [(halvedStandIn, 0xd800)] := by
  have hfiles : describedJob.files =
      [describedJob.vertex, describedJob.fragment, ⟨0, ["a.json".toList]⟩] := rfl
  have hvertex : Job.textOr (describedStore halvedDocument).read describedJob.vertex =
      spriteSource := by rw [Job.textOr, readText_describedVertex]; rfl
  have hfragment : Job.textOr (describedStore halvedDocument).read describedJob.fragment =
      spriteSource := by rw [Job.textOr, readText_describedFragment]; rfl
  have hmetadata : Job.textOr (describedStore halvedDocument).read ⟨0, ["a.json".toList]⟩ =
      halvedDocument := by rw [Job.textOr, readText_describedMetadata rfl]; rfl
  have hspelled : describedJob.spelledHalves (describedStore halvedDocument).read = [0xd800] :=
    congrArg (fun text => Json.spelledHalves text ++ []) hmetadata
  simp only [Job.standIns, Job.ingredients, hspelled, hfiles, List.flatMap_cons, List.flatMap_nil,
    hvertex, hfragment, hmetadata]
  rfl

/-- The metadata has that character as a name. -/
lemma givenMetadata_halved {room : Nat} (hroom : 3 ≤ room) :
    describedJob.givenMetadata room (describedStore halvedDocument).read =
      .ok ⟨[⟨.text [halvedStandIn], .known .float1⟩], []⟩ := by
  have hread : ∀ standIn : Nat → Char, Json.read standIn 3 halvedDocument =
      .ok (.object [("uniforms", .list [.object
        [("name", .text [standIn 0xd800]), ("kind", .text "float1")]])]) := by
    intro standIn
    cbv
  have hm : Metadata.ofJson (.object [("uniforms", .list [.object
      [("name", .text [halvedStandIn]), ("kind", .text "float1")]])]) =
      .ok ⟨[⟨.text [halvedStandIn], .known .float1⟩], []⟩ := rfl
  refine givenMetadata_described rfl ?_ hm
  have hshallow : ∀ container : Json.Container,
      Json.read (describedJob.standIn (describedStore halvedDocument).read) 3 halvedDocument ≠
        .error (.tooDeep container) := by
    intro container hdeep
    rw [hread] at hdeep
    cases hdeep
  rw [Json.read_extends hroom halvedDocument hshallow, hread, Job.standIn, standIns_halved]
  rfl

/-- The pair with this metadata comes to a source, with the half in a name. -/
lemma lowers_halved {room : Nat} (hroom : 3 ≤ room) :
    (∃ source, describedJob.Lowers room (describedStore halvedDocument).read source) ∧
      describedJob.halves room (describedStore halvedDocument).read ≠ [] := by
  refine ⟨⟨_, _, spriteSource, spriteSource, givenMetadata_halved hroom, readText_describedVertex,
    readText_describedFragment, rfl⟩, ?_⟩
  rw [Job.halves, givenMetadata_halved hroom, standIns_halved]
  decide

end MetalLowering
