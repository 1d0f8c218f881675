import MetalLowering.Proofs.MetadataNames
import MetalLowering.Proofs.WatchSteps

/-!
# Failures that a watched pair reports

Whatever the files of a job hold, most of what can go wrong is reported and the conversion returns.
Three things are not: metadata that is nested too deeply, metadata whose names cannot be worked with,
and half of a surrogate pair in a name, with which the result cannot be encoded (`Job.Workable`,
`Workable.expected`). Without them a conversion to a writable output returns, and a run of the watch
command is ended by nothing but the interruption. A pair that is fine otherwise ends in a failure that
nobody reports exactly if a name cannot be worked with or has half of a surrogate pair in it
(`convert_returns`).
-/

namespace MetalLowering

open Json (Value)

/-! ### What reading can fail with -/

/-- A file that cannot be read is reported. -/
lemma expected_file (problem : FileProblem) (path : Path) :
    (JobFailure.file problem path).Expected := by
  cases problem <;> simp [JobFailure.Expected, JobFailure.cause]

namespace Job

variable {job : Job} {room : Nat} {read : Reader} {e : JobFailure}

/-- A file without a text is reported. -/
lemma expected_of_readText {path : Path} (h : readText read path = .error e) : e.Expected := by
  unfold readText at h
  split at h
  next problem hproblem =>
    obtain rfl := Except.error.inj h
    exact expected_file problem path
  next content hcontent =>
    split at h
    next => cases h
    next =>
      obtain rfl := Except.error.inj h
      simp [JobFailure.Expected, JobFailure.cause]

/-- A document that gives no metadata is reported, unless it is nested too deeply. -/
lemma metadataOf_eq_error {file : Path} {r : Except Json.ReadError Value}
    (h : metadataOf file r = .error e) :
    e.Expected ∨ ∃ container, e = .document (.tooDeep container) := by
  rcases r with problem | document
  · obtain rfl := Except.error.inj h
    cases problem with
    | tooDeep container => exact Or.inr ⟨container, rfl⟩
    | malformed => exact Or.inl (by simp [JobFailure.Expected, JobFailure.cause])
    | tooManyDigits count => exact Or.inl (by simp [JobFailure.Expected, JobFailure.cause])
  · left
    simp only [metadataOf] at h
    split at h
    next => cases h
    all_goals
      obtain rfl := Except.error.inj h
      simp [JobFailure.Expected, JobFailure.cause]

/-- Metadata that cannot be read is reported, unless it is nested too deeply. -/
lemma readMetadata_eq_error {standIn : Nat → Char} {file : Path}
    (h : readMetadata standIn room read file = .error e) :
    e.Expected ∨ ∃ container, e = .document (.tooDeep container) := by
  rcases htext : readText read file with e' | text
  · rw [readMetadata, htext] at h
    obtain rfl := Except.error.inj h
    exact Or.inl (expected_of_readText htext)
  · rw [readMetadata, htext] at h
    exact metadataOf_eq_error h

/-- The kinds of uniforms in the metadata of a job are known. -/
lemma known_of_givenMetadata {m : Metadata} (h : job.givenMetadata room read = .ok m) :
    m.Known := by
  rcases hmetadata : job.metadata with _ | file
  · rw [givenMetadata, hmetadata] at h
    obtain rfl := Except.ok.inj h
    exact fun u hu => by cases hu
  · rw [givenMetadata, hmetadata] at h
    obtain ⟨text, -, h⟩ := bind_eq_ok.mp h
    rcases hread : Json.read (job.standIn read) room text with problem | document
    · rw [hread] at h
      cases h
    · rw [hread] at h
      simp only [metadataOf] at h
      split at h
      next metadata hmetadata =>
        obtain rfl := Except.ok.inj h
        exact Metadata.known_of_ofJson hmetadata
      all_goals cases h

/-! ### Jobs that fail in expected ways -/

/-- The metadata of a job, as it can be worked with: there is room for it, and if it can be read its
names are clean and whole. -/
structure Workable (job : Job) (room : Nat) (read : Reader) : Prop where
  /-- Reading it does not run out of room. -/
  shallow : job.Shallow room read
  /-- Its names are clean. -/
  clean : ∀ m, job.givenMetadata room read = .ok m → m.Clean
  /-- There is no half of a surrogate pair in a name. -/
  whole : job.halves room read = []

/-- If there is room for the metadata, its failures are reported. -/
lemma Shallow.expected (h : job.Shallow room read)
    (he : job.givenMetadata room read = .error e) : e.Expected := by
  rcases hmetadata : job.metadata with _ | file
  · rw [givenMetadata, hmetadata] at he
    cases he
  · have hread : readMetadata (job.standIn read) room read file = .error e := by
      rwa [givenMetadata, hmetadata] at he
    refine (readMetadata_eq_error hread).resolve_right ?_
    rintro ⟨container, rfl⟩
    exact h container he

/-- A workable job fails in expected ways only. -/
lemma Workable.expected (h : job.Workable room read) :
    ∀ e, (job.load room read).result = .error e → e.Expected := by
  intro e he
  rcases load_result_eq_error he with
    hm | hvertex | hfragment | ⟨m, vertex, fragment, f, hm, hf, rfl⟩
  · exact h.shallow.expected hm
  · exact expected_of_readText hvertex
  · exact expected_of_readText hfragment
  · exact lowerPair_reports (known_of_givenMetadata hm) (h.clean m hm) fragment vertex job.defines f
      hf

end Job

namespace Session

variable {s : Session} {store : Store} {clock : Clock}

/-- A conversion of workable metadata returns. -/
lemma exists_written (hwritable : store.Writable s.output) (h : s.job.Workable s.room store.read) :
    ∃ written, (s.convert store clock).result = .ok written :=
  (convert_returns_iff hwritable).mpr ⟨h.expected, fun _ _ => h.whole⟩

/-- With sources that are fine a conversion returns exactly if the names are clean and whole. -/
lemma convert_returns_iff_clean {m : Metadata} {vertex fragment : Text}
    (hwritable : store.Writable s.output) (hm : s.job.givenMetadata s.room store.read = .ok m)
    (hvertex : Job.readText store.read s.job.vertex = .ok vertex)
    (hfragment : Job.readText store.read s.job.fragment = .ok fragment)
    (hholds : ∀ c ∈ Condition.inOrder,
      c.Holds fragment vertex m (m.images.filterMap Value.text?))
    (hclosed : Lowering.Closed vertex ∧ Lowering.Closed fragment) :
    (∃ written, (s.convert store clock).result = .ok written) ↔
      m.Clean ∧ s.job.halves s.room store.read = [] := by
  constructor
  · intro hreturns
    obtain ⟨hexpected, hwhole⟩ := (convert_returns_iff hwritable).mp hreturns
    have hclean : m.Clean := by
      by_contra hunclean
      obtain ⟨f, hf, hunexpected⟩ :=
        lowerPair_stops hholds hclosed.1 hclosed.2 hunclean s.job.defines
      refine hunexpected (hexpected (.lowering f) ?_)
      rw [Job.load_result_of_reads hm hvertex hfragment, hf]
      rfl
    obtain ⟨source, hsource⟩ := exists_lowerPair_of_clean hholds hclean s.job.defines
    exact ⟨hclean, hwhole source ⟨m, vertex, fragment, hm, hvertex, hfragment, hsource⟩⟩
  · rintro ⟨hclean, hwhole⟩
    refine exists_written hwritable ⟨fun container => ?_, fun m' hm' => ?_, hwhole⟩
    · rw [hm]
      exact nofun
    · rw [hm] at hm'
      obtain rfl := Except.ok.inj hm'
      exact hclean

/-- To a writable output, a conversion of workable metadata returns, whatever else the files hold;
with sources that are fine it returns exactly if the names are clean and whole. Over any ticks, a run
that finds workable metadata and a writable output all along goes through all of them and is ended by
the interruption. -/
theorem convert_returns (job : Job) (output : Path) (room : Nat) (clock : Clock) :
    (∀ store : Store, store.Writable output → job.Workable room store.read →
      ∃ written, (convert { job, output, room } store clock).result = .ok written) ∧
    (∀ (store : Store) m vertex fragment, store.Writable output →
      job.givenMetadata room store.read = .ok m →
      Job.readText store.read job.vertex = .ok vertex →
      Job.readText store.read job.fragment = .ok fragment →
      (∀ c ∈ Condition.inOrder, c.Holds fragment vertex m (m.images.filterMap Value.text?)) →
      Lowering.Closed vertex ∧ Lowering.Closed fragment →
      ((∃ written, (convert { job, output, room } store clock).result = .ok written) ↔
        m.Clean ∧ job.halves room store.read = [])) ∧
    (∀ (store : Store) ticks run, watch { job, output, room } store clock ticks = run →
      (∀ p ∈ run.periods, p.before.Writable output ∧ job.Workable room p.before.read) →
      run.unexpected = none ∧ run.started = true ∧ run.periods.length = ticks.length + 2 ∧
        run.periods.getLast?.map (·.log) = some [stopNote]) := by
  refine ⟨fun store => exists_written (s := { job, output, room }), ?_, ?_⟩
  · intro store m vertex fragment hwritable hm hvertex hfragment
    exact convert_returns_iff_clean (s := { job, output, room }) hwritable hm hvertex hfragment
  · rintro store ticks run rfl hperiods
    have hunexpected : (watch { job, output, room } store clock ticks).unexpected = none :=
      watch_returns rfl fun p hp clock => exists_written (hperiods p hp).1 (hperiods p hp).2
    have hwatches := watches_of_unexpected_eq_none rfl hunexpected
    exact ⟨hunexpected, started_of_unexpected_eq_none hunexpected, hwatches.length_eq,
      hwatches.getLast?_log⟩

end Session

/-! ### A pair with metadata beside it -/

/-- Metadata with one texture. -/
def textureDocument : Text := "\x7b\"images\":[\"skin\"]\x7d"

/-- Metadata with a number in the place of a texture. -/
def numberDocument : Text := "\x7b\"images\":[5]\x7d"

/-- Metadata without an escape by number has no half in a name. -/
lemma halves_described {document : Text} (hbreaks : Text.unifyBreaks document = document)
    (hspelled : Json.spelledHalves document = []) (room : Nat) :
    describedJob.halves room (describedStore document).read = [] := by
  refine Job.halves_eq_nil_of_spelledHalves ?_ room
  have htext := readText_describedMetadata hbreaks
  simp only [Job.spelledHalves, describedJob, Option.toList_some, List.flatMap_cons,
    List.flatMap_nil, Job.textOr, htext, Except.toOption, Option.getD_some, hspelled,
    List.append_nil]

/-- One texture is given by the first document. -/
lemma givenMetadata_textureDocument :
    describedJob.givenMetadata sessionRoom (describedStore textureDocument).read =
      .ok ⟨[], [.text "skin"]⟩ := by
  have hread : ∀ standIn : Nat → Char, Json.read standIn sessionRoom textureDocument =
      .ok (.object [("images", .list [.text "skin"])]) := by
    intro standIn
    cbv
  exact givenMetadata_described rfl (hread _) rfl

/-- One number is given by the second document. -/
lemma givenMetadata_numberDocument :
    describedJob.givenMetadata sessionRoom (describedStore numberDocument).read =
      .ok ⟨[], [.int 5]⟩ := by
  have hread : ∀ standIn : Nat → Char, Json.read standIn sessionRoom numberDocument =
      .ok (.object [("images", .list [.int 5])]) := by
    intro standIn
    cbv
  exact givenMetadata_described rfl (hread _) rfl

/-- The source of the pair has an entry point, with nothing between its braces. -/
lemma closed_spriteSource : Lowering.Closed spriteSource :=
  ⟨[], "void main() \x7b", ["\x7d"], rfl, by simp, rfl, "\x7d", by simp, rfl⟩

/-- With uniforms of supported kinds and without names of textures, the sources fulfil all
conditions. -/
lemma holds_spriteSource {m : Metadata} (huniforms : ∀ u ∈ m.uniforms, u.Supported)
    (himages : m.images.filterMap Value.text? = []) : ∀ c ∈ Condition.inOrder,
      c.Holds spriteSource spriteSource m (m.images.filterMap Value.text?) := by
  have hlines : ∀ kind, ∀ line ∈ Text.lines spriteSource,
      Declaration.startsWith kind line = false := by
    intro kind
    cases kind <;> decide
  have hentry := Lowering.hasEntry_of_closed closed_spriteSource
  intro c _
  cases c with
  | kinds => exact huniforms
  | attributes => simp_all [Condition.Holds]
  | varyings => simp_all [Condition.Holds]
  | samplers => exact ⟨[], rfl⟩
  | spellings => simp [Condition.Holds, himages]
  | vertexEntry => exact hentry
  | fragmentEntry => exact hentry

/-- The vertex source vanishes and comes back as a directory, a second later each. -/
def losses : List Tick :=
  [{ changes := [(["shaders".toList, "a.vert".toList], none)]
     events := [.modified "a.vert"]
     clock := ⟨2024, 2, 29, 12, 0, 1⟩ },
    { changes := [(["shaders".toList, "a.vert".toList], some .directory)]
      events := [.created "/shaders/a.vert"]
      clock := ⟨2024, 2, 29, 12, 0, 2⟩ }]

/-- A conversion returns for one texture, and does not for a number in its place or for half of a
surrogate pair in a name. A run that loses a source is not ended by it. -/
theorem convert_returns_described :
    (∃ written, (Session.convert { job := describedJob, output := spriteOutput }
      (describedStore textureDocument) spriteClock).result = .ok written) ∧
    (¬∃ written, (Session.convert { job := describedJob, output := spriteOutput }
      (describedStore numberDocument) spriteClock).result = .ok written) ∧
    (¬∃ written, (Session.convert { job := describedJob, output := spriteOutput }
      (describedStore halvedDocument) spriteClock).result = .ok written) ∧
    (Session.watch { job := spriteJob, output := spriteOutput } spriteStore spriteClock
      losses).unexpected = none := by
  obtain ⟨hreturns, hreturns_iff, -⟩ :=
    Session.convert_returns describedJob spriteOutput sessionRoom spriteClock
  have hclosed := And.intro closed_spriteSource closed_spriteSource
  refine ⟨?texture, ?number, ?half, ?run⟩
  case texture =>
    refine hreturns _ writable_described ⟨?_, ?_, halves_described rfl rfl _⟩
    · intro container
      rw [givenMetadata_textureDocument]
      exact nofun
    · intro m hm
      rw [givenMetadata_textureDocument] at hm
      obtain rfl := Except.ok.inj hm
      refine ⟨by simp, fun image himage => ?_⟩
      obtain rfl := List.mem_singleton.mp himage
      exact ⟨"skin", rfl, _, rfl⟩
  case number =>
    rw [hreturns_iff _ _ _ _ writable_described givenMetadata_numberDocument
      readText_describedVertex readText_describedFragment (holds_spriteSource (by simp) rfl) hclosed]
    rintro ⟨hclean, -⟩
    obtain ⟨name, hname, -⟩ := hclean.images (.int 5) (List.mem_singleton_self _)
    cases hname
  case half =>
    have hroom : 3 ≤ sessionRoom := by decide
    have hsupported : ∀ u ∈ [(⟨.text [halvedStandIn], .known .float1⟩ : Uniform)], u.Supported := by
      intro u hu
      obtain rfl := List.mem_singleton.mp hu
      exact ⟨.float1, by decide, rfl⟩
    rw [hreturns_iff _ _ _ _ writable_described (givenMetadata_halved hroom)
      readText_describedVertex readText_describedFragment (holds_spriteSource hsupported rfl) hclosed]
    rintro ⟨-, hwhole⟩
    exact (lowers_halved hroom).2 hwhole
  case run =>
    have hwritable : ∀ p ∈ (Session.watch { job := spriteJob, output := spriteOutput } spriteStore
        spriteClock losses).periods, p.before.Writable spriteOutput := by decide +kernel
    obtain ⟨-, -, hends⟩ :=
      Session.convert_returns spriteJob spriteOutput sessionRoom spriteClock
    refine (hends _ losses _ rfl fun p hp => ⟨hwritable p hp, nofun, fun m hm => ?_,
      Job.halves_eq_nil_of_spelledHalves rfl _⟩).1
    obtain rfl := Except.ok.inj hm
    exact ⟨nofun, nofun⟩

/-- A number in the place of a texture ends a conversion, although there is room for the metadata and
the output can be written. -/
theorem convert_stops_at_number :
    ¬∀ (job : Job) (output : Path) (store : Store) (clock : Clock), store.Writable output →
      job.Shallow sessionRoom store.read →
      ∃ written, (Session.convert { job, output } store clock).result = .ok written := by
  intro hall
  have hload : (describedJob.load sessionRoom (describedStore numberDocument).read).result =
      .error (.lowering .shape) := by
    rw [Job.load_result_of_reads givenMetadata_numberDocument readText_describedVertex
      readText_describedFragment]
    rfl
  have hshallow : describedJob.Shallow sessionRoom (describedStore numberDocument).read := by
    intro container
    rw [givenMetadata_numberDocument]
    exact nofun
  obtain ⟨written, hwritten⟩ := hall describedJob spriteOutput (describedStore numberDocument)
    spriteClock writable_described hshallow
  have hfails : (Session.convert { job := describedJob, output := spriteOutput }
      (describedStore numberDocument) spriteClock).result = .error (.lowering .shape) :=
    Session.convert_of_unexpected hload rfl
  rw [hfails] at hwritten
  cases hwritten

end MetalLowering
