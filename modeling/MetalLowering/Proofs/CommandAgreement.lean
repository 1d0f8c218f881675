import MetalLowering.Command.Convert
import MetalLowering.Proofs.Conversions

/-!
# The command and a session agree

The convert command with an output file and the conversion of a session do the same work and sort
its failures by two tables of their own. The tables have different words, but words for the same
failures (`convertReport_eq_none_iff`, `Session.report_eq_none_iff`), so both come to the same
result or stop for the same reason (`Job.prepare_result_eq`), as long as both have room for the
metadata.

From there on both do one thing, they write the result. So they end alike from any store: both have
written what the job makes of its files and nothing else (`Session.Wrote`); or both have failed and
written nothing (`Session.Failed`); or both have emptied the output and failed, because a name with
half of a surrogate pair in it keeps the result from being encoded (`Session.Spoiled`). Which of
them it is, `Session.convert_agrees` says.
-/

namespace MetalLowering

/-! ### Expected failures -/

/-- The convert command has words for every failure but those that no command expects. -/
lemma convertReport_eq_none_iff {e : JobFailure} :
    convertReport e = none ↔ e.cause = .unexpected := by
  unfold convertReport
  rcases e.cause with _ | _ | _ | _ <;> simp

/-- A session has words for every failure but those that no command expects. -/
lemma Session.report_eq_none_iff {e : JobFailure} : report e = none ↔ e.cause = .unexpected := by
  unfold report
  rcases e.cause with _ | _ | _ | _ <;> simp

namespace Job

variable {job : Job} {room room' : Nat} {read : Reader} {clock : Clock}
  {report : JobFailure → Option Text}

/-- A failure is left only if there are no words for it. -/
lemma prepare_of_error {e : JobFailure} (hreport : report e = none ↔ e.cause = .unexpected)
    (hload : (job.load room read).result = .error e) (clock : Clock) :
    (job.prepare room read clock report).result =
      .error (if e.cause = .unexpected then some e else none) := by
  rcases hwords : report e with _ | words
  · simp only [prepare, hload, hwords, if_pos (hreport.mp hwords)]
  · have hcause : e.cause ≠ .unexpected := by
      intro hcause
      rw [hreport.mpr hcause] at hwords
      cases hwords
    simp only [prepare, hload, hwords, if_neg hcause]

/-- With the same metadata, the command and a session come to the same result, or to the same
failure. -/
lemma prepare_result_eq (h : job.givenMetadata room read = job.givenMetadata room' read) :
    (job.prepare room read clock convertReport).result =
      (job.prepare room' read clock Session.report).result := by
  have hload : job.load room read = job.load room' read := by rw [load, load, h]
  have hhalves : job.halves room read = job.halves room' read := by rw [halves, halves, h]
  rcases hresult : (job.load room' read).result with e | source
  · rw [prepare_of_error convertReport_eq_none_iff (hload ▸ hresult),
      prepare_of_error Session.report_eq_none_iff hresult]
  · simp only [prepare, hload, hresult, hhalves]

/-- A job that lowers its sources is prepared. -/
lemma Lowers.prepare_eq_ok {source : Text} (h : job.Lowers room read source) (clock : Clock)
    (report : JobFailure → Option Text) :
    (job.prepare room read clock report).result =
      .ok ⟨job.formatted clock source, job.halves room read⟩ := by
  simp only [prepare, load_result_eq_ok_iff.mpr h]

/-- Metadata that there is no room for ends the job. -/
lemma exists_tooDeep (h : ¬job.Shallow room read) :
    ∃ container, (job.load room read).result = .error (.document (.tooDeep container)) := by
  obtain ⟨container, hdeep⟩ := not_forall_not.mp h
  exact ⟨container, by simp only [load, Traced.result_bind, Traced.result_ofExcept, hdeep]; rfl⟩

/-- There is room for the metadata of a job that comes to a source. -/
lemma Lowers.shallow {source : Text} (h : job.Lowers room read source) : job.Shallow room read := by
  obtain ⟨m, vertex, fragment, hm, -⟩ := h
  intro container
  rw [hm]
  exact nofun

end Job

/-! ### How both end -/

namespace Session

variable {s : Session} {room : Nat} {store : Store} {clock : Clock}

/-- The convert command for the pair and the output of a session, with a room of its own. -/
def command (s : Session) (room : Nat) (store : Store) (clock : Clock) : Outcome :=
  MetalLowering.convert store clock room s.job (some s.output)

/-- The command and a conversion have both written the text of the job to the output, and to no
other file. -/
structure Wrote (s : Session) (room : Nat) (store : Store) (clock : Clock) (text : Text) :
    Prop where
  /-- The command ends well. -/
  status : (s.command room store clock).status = 0 ∧ (s.command room store clock).unexpected = none
  /-- The conversion ends well. -/
  result : (s.convert store clock).result = .ok true
  /-- The text is the one that the job makes. -/
  makes : s.job.Makes s.room store.read clock text
  /-- The text stands in the output. -/
  output : (s.convert store clock).store.read s.output = .ok (encodeText text)
  /-- Whatever stands elsewhere is as it was. -/
  others : ∀ place, place ≠ store.partsOf s.output →
    (s.convert store clock).store.node? place = store.node? place

/-- The command and a conversion have both failed, in an expected way or with one and the same
failure, and have left the files as they were. If they have different room, both can run out of it
at different places. -/
structure Failed (s : Session) (room : Nat) (store : Store) (clock : Clock) : Prop where
  /-- The command does not end well. -/
  status : (s.command room store clock).status = 1
  /-- The failure is reported by both, or left by both. -/
  result :
    (s.command room store clock).unexpected = none ∧ (s.convert store clock).result = .ok false ∨
    (∃ e, (s.command room store clock).unexpected = some e ∧
      (s.convert store clock).result = .error e) ∨
    room ≠ s.room ∧ ∃ container container',
      (s.command room store clock).unexpected = some (.document (.tooDeep container)) ∧
      (s.convert store clock).result = .error (.document (.tooDeep container'))
  /-- No file is created or changed. -/
  store_eq : (s.convert store clock).store = store

/-- The command and a conversion have both emptied the output, or created it empty, and have then
failed to encode the result. -/
structure Spoiled (s : Session) (room : Nat) (store : Store) (clock : Clock) (e : EncodingFailure) :
    Prop where
  /-- The command does not end well. -/
  status : (s.command room store clock).status = 1
  /-- The failure is left by both. -/
  result : (s.command room store clock).unexpected = some (.encoding e) ∧
    (s.convert store clock).result = .error (.encoding e)
  /-- The job comes to a source, with half of a surrogate pair in a name. -/
  halved : (∃ source, s.job.Lowers s.room store.read source) ∧ s.job.halves s.room store.read ≠ []
  /-- Nothing stands in the output. -/
  output : (s.convert store clock).store.read s.output = .ok .empty
  /-- Whatever stands elsewhere is as it was. -/
  others : ∀ place, place ≠ store.partsOf s.output →
    (s.convert store clock).store.node? place = store.node? place

/-- What both leave behind if there is nothing to write. -/
lemma ends_of_error {unexpected : Option JobFailure}
    (hcommand : (s.job.prepare room store.read clock convertReport).result = .error unexpected)
    (h : (s.job.prepare s.room store.read clock report).result = .error unexpected) :
    (s.command room store clock).store = store ∧ (s.command room store clock).printed = [] ∧
      s.Failed room store clock := by
  rcases unexpected with _ | e
  · refine ⟨?_, ?_, ?_, Or.inl ⟨?_, ?_⟩, ?_⟩ <;>
      simp only [command, MetalLowering.convert, convert, hcommand, h]
  · refine ⟨?_, ?_, ?_, Or.inr (Or.inl ⟨e, ?_, ?_⟩), ?_⟩ <;>
      simp only [command, MetalLowering.convert, convert, hcommand, h]

/-- The command changes nothing if it has no room for the metadata. -/
lemma command_of_tooDeep (h : ¬s.job.Shallow room store.read) (clock : Clock) :
    ∃ container, s.command room store clock =
      { store
        log := (s.job.prepare room store.read clock convertReport).log
        status := 1
        unexpected := some (.document (.tooDeep container)) } := by
  obtain ⟨container, hdeep⟩ := Job.exists_tooDeep h
  have hprepared := Job.prepare_of_error convertReport_eq_none_iff hdeep clock
  refine ⟨container, ?_⟩
  simp only [command, MetalLowering.convert, hprepared]
  rfl

/-- A conversion changes nothing if it has no room for the metadata. -/
lemma convert_of_tooDeep (h : ¬s.job.Shallow s.room store.read) (clock : Clock) :
    ∃ container, s.convert store clock =
      ⟨store, (s.job.prepare s.room store.read clock report).log,
        .error (.document (.tooDeep container))⟩ := by
  obtain ⟨container, hdeep⟩ := Job.exists_tooDeep h
  have hprepared := Job.prepare_of_error report_eq_none_iff hdeep clock
  refine ⟨container, ?_⟩
  simp only [convert, hprepared]
  rfl

variable {result : HalvedText} {saved : Job.Saved}

/-- What the command leaves behind of a result. -/
lemma command_of_saved
    (h : (s.job.prepare room store.read clock convertReport).result = .ok result)
    (hsave : Job.save store s.output result = saved) :
    (s.command room store clock).store = saved.store ∧ (s.command room store clock).printed = [] ∧
      (s.command room store clock).status = (if saved.failure.isSome then 1 else 0) ∧
      (s.command room store clock).unexpected = saved.failure := by
  simp only [command, MetalLowering.convert, h, hsave, and_self]

/-- What a conversion leaves behind of a result. -/
lemma convert_of_saved (h : (s.job.prepare s.room store.read clock report).result = .ok result)
    (hsave : Job.save store s.output result = saved) :
    (s.convert store clock).store = saved.store ∧
      (∀ e, saved.failure = some e → (s.convert store clock).result = .error e) ∧
      (saved.failure = none → (s.convert store clock).result = .ok true) := by
  refine ⟨?_, fun e he => ?_, fun hnone => ?_⟩
  · simp only [convert, h, hsave]
  · simp only [convert, h, hsave, he]
  · simp only [convert, h, hsave, hnone]

/-- Elsewhere a written store is as it was. -/
lemma node?_of_write {output : Path} {content : ByteArray} {after : Store}
    (hwrite : store.write output content = .ok after) :
    ∀ place, place ≠ store.partsOf output → after.node? place = store.node? place := by
  intro place hplace
  rw [(Store.write_eq_ok hwrite).2.2, Store.node?_put, if_neg hplace.symm]

/-- The command and a conversion have read the same metadata. -/
def Alike (s : Session) (room : Nat) (store : Store) : Prop :=
  s.job.givenMetadata room store.read = s.job.givenMetadata s.room store.read

variable {source : Text}

/-- What both leave behind if the result cannot be written. -/
lemma Alike.ends_of_unwritable (halike : s.Alike room store)
    (h : s.job.Lowers s.room store.read source) (hwritable : ¬store.Writable s.output)
    (clock : Clock) :
    (s.command room store clock).store = store ∧ (s.command room store clock).printed = [] ∧
      s.Failed room store clock := by
  have hprepared := h.prepare_eq_ok clock report
  obtain ⟨problem, hsave⟩ := Job.save_of_unwritable hwritable
  obtain ⟨hstore, hprinted, hstatus, hunexpected⟩ :=
    command_of_saved ((Job.prepare_result_eq halike).trans hprepared) hsave
  obtain ⟨hstore', hresult, -⟩ := convert_of_saved hprepared hsave
  exact ⟨hstore, hprinted, hstatus, Or.inr (Or.inl ⟨_, hunexpected, hresult _ rfl⟩), hstore'⟩

/-- What both leave behind if the result is written. -/
lemma Alike.ends_of_written (halike : s.Alike room store)
    (h : s.job.Lowers s.room store.read source) (hhalves : s.job.halves s.room store.read = [])
    (hwritable : store.Writable s.output) (clock : Clock) :
    (s.command room store clock).store = (s.convert store clock).store ∧
      (s.command room store clock).printed = [] ∧
      s.Wrote room store clock (s.job.formatted clock source) := by
  have hprepared := h.prepare_eq_ok clock report
  obtain ⟨after, hwrite, hsave⟩ :=
    Job.exists_save_of_halves_eq_nil hhalves hwritable clock source
  obtain ⟨hstore, hprinted, hstatus, hunexpected⟩ :=
    command_of_saved ((Job.prepare_result_eq halike).trans hprepared) hsave
  obtain ⟨hstore', -, hresult⟩ := convert_of_saved hprepared hsave
  refine ⟨hstore.trans hstore'.symm, hprinted, ⟨hstatus, hunexpected⟩, hresult rfl, ?makes, ?output,
    ?others⟩
  case makes =>
    exact Job.makes_iff.mpr ⟨source, Job.load_result_eq_ok_iff.mpr h, hhalves, rfl⟩
  case output =>
    rw [hstore']
    exact Store.read_write hwrite
  case others =>
    rw [hstore']
    exact node?_of_write hwrite

/-- What both leave behind if the result cannot be encoded. -/
lemma Alike.ends_of_halved (halike : s.Alike room store)
    (h : s.job.Lowers s.room store.read source) (hhalves : s.job.halves s.room store.read ≠ [])
    (hwritable : store.Writable s.output) (clock : Clock) :
    (s.command room store clock).store = (s.convert store clock).store ∧
      (s.command room store clock).printed = [] ∧ ∃ e, s.Spoiled room store clock e := by
  have hprepared := h.prepare_eq_ok clock report
  obtain ⟨e, after, hwrite, hsave⟩ := h.exists_save_of_halves_ne_nil hhalves hwritable clock
  obtain ⟨hstore, hprinted, hstatus, hunexpected⟩ :=
    command_of_saved ((Job.prepare_result_eq halike).trans hprepared) hsave
  obtain ⟨hstore', hresult, -⟩ := convert_of_saved hprepared hsave
  refine ⟨hstore.trans hstore'.symm, hprinted, e, hstatus, ⟨hunexpected, hresult _ rfl⟩,
    ⟨⟨source, h⟩, hhalves⟩, ?output, ?others⟩
  case output =>
    rw [hstore']
    exact Store.read_write hwrite
  case others =>
    rw [hstore']
    exact node?_of_write hwrite

/-- An output that was written or emptied can be written. -/
lemma writable_of_result (clock : Clock) (h : s.job.Lowers s.room store.read source)
    (hresult : ∀ problem, (s.convert store clock).result ≠ .error (.file problem s.output)) :
    store.Writable s.output := by
  by_contra hwritable
  obtain ⟨problem, hsave⟩ := Job.save_of_unwritable hwritable
  obtain ⟨-, hfailed, -⟩ := convert_of_saved (h.prepare_eq_ok clock report) hsave
  exact hresult problem (hfailed _ rfl)

/-- A text is written only if the job makes it, to an output that can be written. -/
lemma Wrote.writable {text : Text} (h : s.Wrote room store clock text) :
    store.Writable s.output := by
  obtain ⟨source, hlowers, -⟩ := h.makes
  exact writable_of_result clock hlowers fun problem => by rw [h.result]; exact nofun

/-- The output is emptied only if it can be written. -/
lemma Spoiled.writable {e : EncodingFailure} (h : s.Spoiled room store clock e) :
    store.Writable s.output := by
  obtain ⟨⟨source, hlowers⟩, -⟩ := h.halved
  exact writable_of_result clock hlowers fun problem => by rw [h.result.2]; exact nofun

/-- If both have read the same metadata, they end alike. -/
lemma Alike.ends (halike : s.Alike room store) (clock : Clock) :
    (s.command room store clock).store = (s.convert store clock).store ∧
    (s.command room store clock).printed = [] ∧
    ((∃ text, s.Wrote room store clock text) ∨ s.Failed room store clock ∨
      ∃ e, s.Spoiled room store clock e) := by
  rcases hload : (s.job.load s.room store.read).result with e | source
  · have h := Job.prepare_of_error report_eq_none_iff hload clock
    obtain ⟨hstore, hprinted, hfailed⟩ :=
      ends_of_error ((Job.prepare_result_eq halike).trans h) h
    exact ⟨hstore.trans hfailed.store_eq.symm, hprinted, Or.inr (Or.inl hfailed)⟩
  have hlowers := Job.load_result_eq_ok_iff.mp hload
  by_cases hwritable : store.Writable s.output
  · by_cases hhalves : s.job.halves s.room store.read = []
    · obtain ⟨hstore, hprinted, hwrote⟩ :=
        halike.ends_of_written hlowers hhalves hwritable clock
      exact ⟨hstore, hprinted, Or.inl ⟨_, hwrote⟩⟩
    · obtain ⟨hstore, hprinted, hspoiled⟩ :=
        halike.ends_of_halved hlowers hhalves hwritable clock
      exact ⟨hstore, hprinted, Or.inr (Or.inr hspoiled)⟩
  · obtain ⟨hstore, hprinted, hfailed⟩ :=
      halike.ends_of_unwritable hlowers hwritable clock
    exact ⟨hstore.trans hfailed.store_eq.symm, hprinted, Or.inr (Or.inl hfailed)⟩

/-- If neither has room for the metadata, they both fail. -/
lemma failed_of_tooDeep (hdiffer : room ≠ s.room) (hcommand : ¬s.job.Shallow room store.read)
    (hconvert : ¬s.job.Shallow s.room store.read) (clock : Clock) :
    (s.command room store clock).store = (s.convert store clock).store ∧
    (s.command room store clock).printed = [] ∧ s.Failed room store clock := by
  obtain ⟨container, h⟩ := command_of_tooDeep hcommand clock
  obtain ⟨container', h'⟩ := convert_of_tooDeep hconvert clock
  refine ⟨by rw [h, h'], by rw [h], by rw [h], ?_, by rw [h']⟩
  exact Or.inr (Or.inr ⟨hdiffer, container, container', by rw [h], by rw [h']⟩)

section room

variable (hroom : s.job.Shallow room store.read ↔ s.job.Shallow s.room store.read)

include hroom

/-- If the job comes to a source, both have read the same metadata. -/
lemma alike_of_lowers (h : s.job.Lowers s.room store.read source) : s.Alike room store :=
  (hroom.mpr h.shallow).givenMetadata_eq h.shallow

/-- Whoever has room for the metadata exactly where the other has ends like the other. -/
lemma ends_of_shallow_iff (clock : Clock) :
    (s.command room store clock).store = (s.convert store clock).store ∧
    (s.command room store clock).printed = [] ∧
    ((∃ text, s.Wrote room store clock text) ∨ s.Failed room store clock ∨
      ∃ e, s.Spoiled room store clock e) := by
  by_cases hsame : room = s.room
  · exact Alike.ends (by rw [Alike, hsame]) clock
  by_cases hconvert : s.job.Shallow s.room store.read
  · exact Alike.ends ((hroom.mpr hconvert).givenMetadata_eq hconvert) clock
  · obtain ⟨hstore, hprinted, hfailed⟩ :=
      failed_of_tooDeep hsame (mt hroom.mp hconvert) hconvert clock
    exact ⟨hstore, hprinted, Or.inr (Or.inl hfailed)⟩

end room

/-- From any store, the convert command with an output file and the conversion of a session leave
the same files, and nothing is printed, if one of them has room for the metadata exactly where the
other has: both have written what the job makes of its files, or both have failed and changed
nothing, or both have failed with the output emptied. They write exactly if the job makes something
and the output can be written; they empty it exactly if it can be written and the job comes to a
source with half of a surrogate pair in a name. Whichever of them has no room for the metadata fails
and changes nothing. -/
theorem convert_agrees (s : Session) (room : Nat) (store : Store) (clock : Clock) :
    ((s.job.Shallow room store.read ↔ s.job.Shallow s.room store.read) →
      (s.command room store clock).store = (s.convert store clock).store ∧
      (s.command room store clock).printed = [] ∧
      ((∃ text, s.Wrote room store clock text) ∨ s.Failed room store clock ∨
        ∃ e, s.Spoiled room store clock e) ∧
      ((∃ text, s.Wrote room store clock text) ↔
        (∃ text, s.job.Makes s.room store.read clock text) ∧ store.Writable s.output) ∧
      ((∃ e, s.Spoiled room store clock e) ↔
        (∃ source, s.job.Lowers s.room store.read source) ∧ s.job.halves s.room store.read ≠ [] ∧
          store.Writable s.output)) ∧
    (¬s.job.Shallow room store.read →
      (s.command room store clock).store = store ∧ (s.command room store clock).printed = [] ∧
      (s.command room store clock).status = 1 ∧
      ∃ container,
        (s.command room store clock).unexpected = some (.document (.tooDeep container))) ∧
    (¬s.job.Shallow s.room store.read →
      (s.convert store clock).store = store ∧
      ∃ container, (s.convert store clock).result = .error (.document (.tooDeep container))) := by
  refine ⟨fun hroom => ?_, fun hcommand => ?_, fun hconvert => ?_⟩
  · obtain ⟨hstore, hprinted, hends⟩ := ends_of_shallow_iff hroom clock
    refine ⟨hstore, hprinted, hends, ⟨?_, ?_⟩, ?_, ?_⟩
    · rintro ⟨text, h⟩
      exact ⟨⟨text, h.makes⟩, h.writable⟩
    · rintro ⟨⟨text, source, hlowers, hhalves, -⟩, hwritable⟩
      have halike := alike_of_lowers hroom hlowers
      exact ⟨_, (halike.ends_of_written hlowers hhalves hwritable clock).2.2⟩
    · rintro ⟨e, h⟩
      exact ⟨h.halved.1, h.halved.2, h.writable⟩
    · rintro ⟨⟨source, hlowers⟩, hhalves, hwritable⟩
      have halike := alike_of_lowers hroom hlowers
      exact (halike.ends_of_halved hlowers hhalves hwritable clock).2.2
  · obtain ⟨container, h⟩ := command_of_tooDeep hcommand clock
    rw [h]
    exact ⟨rfl, rfl, rfl, container, rfl⟩
  · obtain ⟨container, h⟩ := convert_of_tooDeep hconvert clock
    rw [h]
    exact ⟨rfl, container, rfl⟩

end Session

/-- A session for the pair, in the commented format. -/
def commentedSession : Session := { job := commentedJob, output := spriteOutput }

/-- A session for the pair, in the plain format. -/
def plainSession : Session := { job := spriteJob, output := spriteOutput }

/-- A session for the pair with metadata beside it. -/
def describedSession : Session := { job := describedJob, output := spriteOutput }

/-- What both write for the pair, in the commented format and in the plain one. With half of a
surrogate pair in the metadata, both empty the output. -/
theorem convert_agrees_sprite :
    commentedSession.Wrote convertRoom spriteStore spriteClock
      (code (commentLines "2024-02-29 12:00:00 UTC" ++ spriteLines)) ∧
    plainSession.Wrote convertRoom spriteStore spriteClock (code spriteLines) ∧
    ∃ e, describedSession.Spoiled convertRoom (describedStore halvedDocument) spriteClock e := by
  have hwritable : spriteStore.Writable spriteOutput := ⟨.empty, _, rfl⟩
  refine ⟨?commented, ?plain, ?described⟩
  case commented =>
    have hmakes := makes_commentedJob sessionRoom spriteClock
    obtain ⟨-, -, -, hwrote, -⟩ := (Session.convert_agrees commentedSession convertRoom spriteStore
      spriteClock).1 (iff_of_true nofun nofun)
    obtain ⟨text, h⟩ := hwrote.mpr ⟨⟨_, hmakes⟩, hwritable⟩
    have htime : spriteClock.text = "2024-02-29 12:00:00 UTC".toList := by decide
    rwa [h.makes.unique hmakes, htime] at h
  case plain =>
    have hmakes : spriteJob.Makes sessionRoom spriteStore.read spriteClock (code spriteLines) :=
      ⟨_, lowers_spriteJob sessionRoom, rfl, rfl⟩
    obtain ⟨-, -, -, hwrote, -⟩ := (Session.convert_agrees plainSession convertRoom spriteStore
      spriteClock).1 (iff_of_true nofun nofun)
    obtain ⟨text, h⟩ := hwrote.mpr ⟨⟨_, hmakes⟩, hwritable⟩
    rwa [h.makes.unique hmakes] at h
  case described =>
    obtain ⟨⟨source, hcommand⟩, -⟩ := lowers_halved (show 3 ≤ convertRoom by decide)
    obtain ⟨⟨source', hsession⟩, hhalves⟩ := lowers_halved (show 3 ≤ sessionRoom by decide)
    obtain ⟨-, -, -, -, hspoiled⟩ := (Session.convert_agrees describedSession convertRoom
      (describedStore halvedDocument) spriteClock).1 (iff_of_true hcommand.shallow hsession.shallow)
    exact hspoiled.mpr ⟨⟨source', hsession⟩, hhalves, writable_described⟩

/-- The pair with half of a surrogate pair in the metadata, and an output from before. -/
def halvedStore : Store :=
  (describedStore halvedDocument).put ["shaders".toList, "a.metal".toList]
    (.file (encodeText "old"))

/-- With the same room for both, an output from before is lost, although nothing is written. -/
theorem convert_spoils_output :
    ¬∀ (s : Session) (store : Store) (clock : Clock),
      (∃ text, s.Wrote s.room store clock text) ∨ s.Failed s.room store clock := by
  intro hall
  have hfiles : ∀ file ∈ describedJob.files,
      (describedStore halvedDocument).read file = halvedStore.read file := by decide +kernel
  obtain ⟨⟨source, hlowers⟩, hhalves⟩ := lowers_halved (show 3 ≤ sessionRoom by decide)
  rw [← Job.load_result_eq_ok_iff, Job.load_congr hfiles, Job.load_result_eq_ok_iff] at hlowers
  rw [Job.halves_congr hfiles] at hhalves
  have halike : describedSession.Alike sessionRoom halvedStore := rfl
  obtain ⟨-, -, e, hspoiled⟩ :=
    halike.ends_of_halved hlowers hhalves ⟨.empty, _, rfl⟩ spriteClock
  rcases hall describedSession halvedStore spriteClock with ⟨text, hwrote⟩ | hfailed
  · have hresult := hspoiled.result.2
    rw [hwrote.result] at hresult
    cases hresult
  · have hempty := hspoiled.output
    rw [hfailed.store_eq] at hempty
    have hold : halvedStore.read describedSession.output = .ok (encodeText "old") := rfl
    rw [hold] at hempty
    exact absurd (Except.ok.inj hempty) (by decide +kernel)

end MetalLowering
