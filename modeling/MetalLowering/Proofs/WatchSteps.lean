import MetalLowering.Proofs.Conversions

/-!
# Watching, tick by tick

A tick announces a change if one of its events names a file of the job (`Tick.Announces`). The
session remembers no more than that (`handleAll_eq`), and it has forgotten it at the end of each
period. So one tick does one of two things (`Session.Passes`): the session converts the files as the
tick left them, or it rests. A run whose conversions all return is made of such periods (`Watches`,
`watches_of_unexpected_eq_none`), between a first conversion and the interruption, and what each of
them keeps holds all along (`Watches.induction`).
-/

namespace MetalLowering

/-- One of the events names a file of the job: its path, or for a move its target, has the absolute
path of the file. -/
def Tick.Announces (tick : Tick) (job : Job) (base : Path) : Prop :=
  ∃ event ∈ tick.events, ∃ file ∈ job.files,
    (Path.ofText event.path).absolute base = file.absolute base

instance (tick : Tick) (job : Job) (base : Path) : Decidable (tick.Announces job base) :=
  inferInstanceAs (Decidable (∃ event ∈ tick.events, ∃ file ∈ job.files,
    (Path.ofText event.path).absolute base = file.absolute base))

/-- The changes of a tick do not move the working directory. -/
lemma Tick.base_apply (tick : Tick) (store : Store) : (tick.apply store).base = store.base := by
  unfold Tick.apply
  induction tick.changes generalizing store with
  | nil => rfl
  | cons change changes ih =>
      rw [List.foldl_cons, ih]
      split
      next => exact Store.base_install ..
      next => exact Store.base_erase ..

namespace Session

variable {s : Session} {base : Path} {clock : Clock} {store : Store} {tick : Tick}
  {ticks : List Tick}
  {period : Period}

/-! ### What events do -/

/-- An event concerns a session exactly if it names a file of its job. -/
lemma concerns_iff {event : FileEvent} :
    s.concerns base event = true ↔
      ∃ file ∈ s.job.files, (Path.ofText event.path).absolute base = file.absolute base := by
  have hfiles : [s.job.vertex, s.job.fragment] ++ s.job.metadata.toList = s.job.files := rfl
  simp only [concerns, watched, hfiles, List.contains_iff_mem, List.mem_eraseDups, List.mem_map]
  constructor <;> rintro ⟨file, hfile, h⟩ <;> exact ⟨file, hfile, h.symm⟩

/-- Events leave a session as it is, but for whether a change was seen. -/
lemma handleAll_eq (s : Session) (base : Path) (events : List FileEvent) :
    s.handleAll base events =
      { s with needsReload := s.needsReload || events.any (s.concerns base) } := by
  unfold handleAll
  induction events generalizing s with
  | nil => simp
  | cons event events ih =>
      rw [List.foldl_cons, ih, handle]
      split_ifs with h
      · have hconcerns : ({ s with needsReload := true } : Session).concerns base =
            s.concerns base := rfl
        simp [hconcerns, h]
      · simp [h]

/-- After a period without a seen change, a change is seen exactly if the tick announces one. -/
lemma needsReload_handleAll_iff (hidle : s.needsReload = false) :
    (s.handleAll base tick.events).needsReload = true ↔ tick.Announces s.job base := by
  rw [handleAll_eq, hidle, Bool.false_or, List.any_eq_true]
  constructor
  · rintro ⟨event, hevent, hconcerns⟩
    exact ⟨event, hevent, concerns_iff.mp hconcerns⟩
  · rintro ⟨event, hevent, hfile⟩
    exact ⟨event, hevent, concerns_iff.mpr hfile⟩

/-! ### What a tick does -/

/-- What is noted of the events of a tick. -/
def tickNotes (s : Session) (base : Path) (tick : Tick) : List Entry :=
  tick.events.flatMap (s.eventNotes base)

/-- The period of a tick that finds a store: the session converts, at the time that it is after the
tick, if the tick announces a change, and rests otherwise. -/
inductive Passes (s : Session) (base : Path) (store : Store) (tick : Tick) : Period → Prop
  | converts {written : Bool} (announces : tick.Announces s.job base)
      (result : (s.convert (tick.apply store) tick.clock).result = .ok written) :
      Passes s base store tick
        ⟨tick.apply store, (s.convert (tick.apply store) tick.clock).store,
          s.tickNotes base tick ++ (s.convert (tick.apply store) tick.clock).log⟩
  | rests (announces : ¬tick.Announces s.job base) :
      Passes s base store tick ⟨tick.apply store, tick.apply store, s.tickNotes base tick⟩

/-- A period starts with the files as its tick left them. -/
lemma Passes.before_eq (h : s.Passes base store tick period) :
    period.before = tick.apply store := by
  cases h <;> rfl

/-- A conversion does not move the working directory. -/
lemma base_convert {written : Bool} (h : (s.convert store clock).result = .ok written) :
    (s.convert store clock).store.base = store.base := by
  rcases convert_cases h with ⟨-, hstore, -⟩ | ⟨text, -, hwrite, -⟩
  · rw [hstore]
  · exact Store.base_write hwrite

/-- A period does not move the working directory. -/
lemma Passes.base_after (h : s.Passes base store tick period) :
    period.after.base = store.base := by
  cases h with
  | converts _ result => exact (base_convert result).trans (tick.base_apply store)
  | rests _ => exact tick.base_apply store

/-- What is noted of the events of a tick tells of no conversion. -/
lemma conversionsIn_tickNotes (output : Path) :
    conversionsIn output (s.tickNotes base tick) = 0 := by
  refine conversionsIn_eq_zero fun e he => ?_
  obtain ⟨event, -, hnote⟩ := List.mem_flatMap.mp he
  unfold eventNotes at hnote
  split_ifs at hnote
  · rw [List.mem_singleton.mp hnote]
    exact endsConversion_info rfl (by decide)
  · cases hnote

/-- The log of a period tells of one conversion if the tick announces a change, and of none
otherwise. -/
lemma Passes.conversionsIn_log (h : s.Passes base store tick period) :
    conversionsIn s.output period.log = if tick.Announces s.job base then 1 else 0 := by
  cases h with
  | converts announces result =>
      rw [conversionsIn_append, conversionsIn_tickNotes, conversionsIn_convert result,
        if_pos announces]
  | rests announces => rw [conversionsIn_tickNotes, if_neg announces]

/-! ### What a run does -/

/-- A tick that announces a change is followed by a conversion, which ends the run if it fails. -/
lemma watchTicks_of_announces (hidle : s.needsReload = false)
    (hannounces : tick.Announces s.job base) :
    s.watchTicks base store (tick :: ticks) =
      let done := s.convert (tick.apply store) tick.clock
      let period : Period := ⟨tick.apply store, done.store, s.tickNotes base tick ++ done.log⟩
      match done.result with
      | .error e => ([period], some e)
      | .ok _ =>
        (period :: (s.watchTicks base done.store ticks).1,
          (s.watchTicks base done.store ticks).2) := by
  have hreload := (needsReload_handleAll_iff hidle).mpr hannounces
  have hforget : ({ s.handleAll base tick.events with needsReload := false } : Session) = s := by
    rw [handleAll_eq, ← hidle]
  have hconvert : (s.handleAll base tick.events).convert = s.convert := by
    rw [handleAll_eq]
    rfl
  simp only [watchTicks, hreload, if_true, hconvert, hforget]
  rfl

/-- A tick that announces nothing leaves the files as they are. -/
lemma watchTicks_of_not_announces (hidle : s.needsReload = false)
    (hannounces : ¬tick.Announces s.job base) :
    s.watchTicks base store (tick :: ticks) =
      (⟨tick.apply store, tick.apply store, s.tickNotes base tick⟩ ::
          (s.watchTicks base (tick.apply store) ticks).1,
        (s.watchTicks base (tick.apply store) ticks).2) := by
  have hreload : (s.handleAll base tick.events).needsReload = false := by
    rw [Bool.eq_false_iff]
    exact fun hreload => hannounces ((needsReload_handleAll_iff hidle).mp hreload)
  have hsame : s.handleAll base tick.events = s := by
    rw [handleAll_eq] at hreload ⊢
    dsimp only at hreload
    rw [hreload, ← hidle]
  simp only [watchTicks, hsame, hidle]
  rfl

/-- One tick of a run that is not ended by a failure. -/
lemma watchTicks_cons (hidle : s.needsReload = false)
    (h : (s.watchTicks base store (tick :: ticks)).2 = none) :
    ∃ period, s.Passes base store tick period ∧
      (s.watchTicks base store (tick :: ticks)).1 =
        period :: (s.watchTicks base period.after ticks).1 ∧
      (s.watchTicks base period.after ticks).2 = none := by
  by_cases hannounces : tick.Announces s.job base
  · rw [watchTicks_of_announces hidle hannounces] at h ⊢
    rcases hresult : (s.convert (tick.apply store) tick.clock).result with e | written
    · simp only [hresult] at h
      cases h
    · simp only [hresult] at h ⊢
      exact ⟨_, .converts hannounces hresult, rfl, h⟩
  · rw [watchTicks_of_not_announces hidle hannounces] at h ⊢
    exact ⟨_, .rests hannounces, rfl, h⟩

/-- A run is ended by a conversion only if it does not return. -/
lemma watchTicks_returns (hidle : s.needsReload = false)
    (h : ∀ p ∈ (s.watchTicks base store ticks).1, ∀ clock,
      ∃ written, (s.convert p.before clock).result = .ok written) :
    (s.watchTicks base store ticks).2 = none := by
  induction ticks generalizing store with
  | nil => rfl
  | cons tick ticks ih =>
      by_cases hannounces : tick.Announces s.job base
      · rw [watchTicks_of_announces hidle hannounces] at h ⊢
        rcases hresult : (s.convert (tick.apply store) tick.clock).result with e | written
        · simp only [hresult] at h
          obtain ⟨written, hwritten⟩ := h _ List.mem_cons_self tick.clock
          rw [hresult] at hwritten
          cases hwritten
        · simp only [hresult] at h ⊢
          exact ih fun p hp => h p (List.mem_cons_of_mem _ hp)
      · rw [watchTicks_of_not_announces hidle hannounces] at h ⊢
        exact ih fun p hp => h p (List.mem_cons_of_mem _ hp)

/-- The periods of a run whose conversions all return. -/
structure Watches (s : Session) (store : Store) (clock : Clock) (ticks : List Tick)
    (periods : List Period) : Prop where
  /-- There is one period for each tick, one before them and one after. -/
  length_eq : periods.length = ticks.length + 2
  /-- The first period is a conversion. -/
  start : ∃ written, (s.convert store clock).result = .ok written ∧
    periods[0]? =
      some ⟨store, (s.convert store clock).store, (s.convert store clock).log ++ [startNote]⟩
  /-- Each tick leads from one period to the next. -/
  step : ∀ n p tick, periods[n]? = some p → ticks[n]? = some tick →
    ∃ q, periods[n + 1]? = some q ∧ s.Passes ⟨1, store.base⟩ p.after tick q
  /-- After the last tick the run is interrupted. -/
  stop : ∀ p, periods[ticks.length]? = some p →
    periods[ticks.length + 1]? = some ⟨p.after, p.after, [stopNote]⟩

/-- The periods of the ticks follow one another, from any period before them. -/
lemma steps_of_watchTicks (hidle : s.needsReload = false) (first : Period)
    (h : (s.watchTicks base first.after ticks).2 = none) {periods : List Period}
    (hperiods : periods = first :: (s.watchTicks base first.after ticks).1) :
    periods.length = ticks.length + 2 ∧
      (∀ n p tick, periods[n]? = some p → ticks[n]? = some tick →
        ∃ q, periods[n + 1]? = some q ∧ s.Passes base p.after tick q) ∧
      ∀ p, periods[ticks.length]? = some p →
        periods[ticks.length + 1]? = some ⟨p.after, p.after, [stopNote]⟩ := by
  induction ticks generalizing first periods with
  | nil =>
      subst hperiods
      refine ⟨rfl, ?_, ?_⟩
      · intro n p tick _ htick
        cases htick
      · intro p hp
        obtain rfl := Option.some.inj hp
        rfl
  | cons tick ticks ih =>
      obtain ⟨period, hpasses, hperiods', h'⟩ := watchTicks_cons hidle h
      obtain ⟨hlength, hstep, hstop⟩ := ih period h' rfl
      rw [hperiods'] at hperiods
      subst hperiods
      refine ⟨congrArg (· + 1) hlength, ?_, hstop⟩
      intro n p tick' hp htick
      cases n with
      | zero =>
          obtain rfl := Option.some.inj hp
          obtain rfl := Option.some.inj htick
          exact ⟨period, rfl, hpasses⟩
      | succ n => exact hstep n p tick' hp htick

/-- A run that is ended by the interruption alone is one conversion, the periods of the ticks, and
the interruption. -/
lemma watches_of_unexpected_eq_none (hidle : s.needsReload = false)
    (h : (s.watch store clock ticks).unexpected = none) :
    s.Watches store clock ticks (s.watch store clock ticks).periods := by
  rcases hresult : (s.convert store clock).result with e | written
  · simp only [watch, hresult] at h
    cases h
  · simp only [watch, hresult] at h ⊢
    obtain ⟨hlength, hstep, hstop⟩ := steps_of_watchTicks hidle
      ⟨store, (s.convert store clock).store, (s.convert store clock).log ++ [startNote]⟩ h rfl
    exact ⟨hlength, ⟨written, hresult, rfl⟩, hstep, hstop⟩

/-- A run in which every conversion returns is ended by the interruption. -/
lemma watch_returns (hidle : s.needsReload = false)
    (h : ∀ p ∈ (s.watch store clock ticks).periods, ∀ clock,
      ∃ written, (s.convert p.before clock).result = .ok written) :
    (s.watch store clock ticks).unexpected = none := by
  rcases hresult : (s.convert store clock).result with e | written
  · simp only [watch, hresult] at h
    obtain ⟨written, hwritten⟩ := h _ List.mem_cons_self clock
    rw [hresult] at hwritten
    cases hwritten
  · simp only [watch, hresult] at h ⊢
    exact watchTicks_returns hidle fun p hp => h p (List.mem_cons_of_mem _ hp)

/-- A run that no failure ended has started watching. -/
lemma started_of_unexpected_eq_none (h : (s.watch store clock ticks).unexpected = none) :
    (s.watch store clock ticks).started = true := by
  rcases hresult : (s.convert store clock).result with e | written
  · simp only [watch, hresult] at h
    cases h
  · simp only [watch, hresult]

/-- The last thing noted is the interruption. -/
lemma Watches.getLast?_log {periods : List Period} (h : s.Watches store clock ticks periods) :
    periods.getLast?.map (·.log) = some [stopNote] := by
  obtain ⟨p, hp⟩ : ∃ p, periods[ticks.length]? = some p :=
    ⟨_, List.getElem?_eq_getElem (by rw [h.length_eq]; omega)⟩
  have hlast : periods.length - 1 = ticks.length + 1 := by
    rw [h.length_eq]
    omega
  rw [List.getLast?_eq_getElem?, hlast, h.stop p hp]
  rfl

/-- What holds after the first conversion and is kept by every tick and by the interruption holds
after each period. -/
lemma Watches.induction {periods : List Period} (h : s.Watches store clock ticks periods)
    {motive : Nat → Period → Prop}
    (start : ∀ p, periods[0]? = some p → motive 0 p)
    (step : ∀ n p tick q, periods[n]? = some p → ticks[n]? = some tick → periods[n + 1]? = some q →
      s.Passes ⟨1, store.base⟩ p.after tick q → motive n p → motive (n + 1) q)
    (stop : ∀ p, periods[ticks.length + 1]? = some ⟨p.after, p.after, [stopNote]⟩ →
      motive ticks.length p → motive (ticks.length + 1) ⟨p.after, p.after, [stopNote]⟩) :
    ∀ n p, periods[n]? = some p → motive n p := by
  intro n
  induction n with
  | zero => exact start
  | succ n ih =>
      intro q hq
      have hn : n < ticks.length + 1 := by
        have hlength := (List.getElem?_eq_some_iff.mp hq).1
        rw [h.length_eq] at hlength
        omega
      obtain ⟨p, hp⟩ : ∃ p, periods[n]? = some p :=
        ⟨_, List.getElem?_eq_getElem (by rw [h.length_eq]; omega)⟩
      by_cases hlast : n = ticks.length
      · subst hlast
        have hstop := h.stop p hp
        obtain rfl := Option.some.inj (hq.symm.trans hstop)
        exact stop p hstop (ih p hp)
      · obtain ⟨tick, htick⟩ : ∃ tick, ticks[n]? = some tick :=
          ⟨_, List.getElem?_eq_getElem (by omega)⟩
        obtain ⟨q', hq', hpasses⟩ := h.step n p tick hp htick
        obtain rfl := Option.some.inj (hq.symm.trans hq')
        exact step n p tick q hp htick hq hpasses (ih p hp)

end Session

end MetalLowering
