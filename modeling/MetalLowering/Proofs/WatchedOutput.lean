import MetalLowering.Proofs.WatchSteps

/-!
# The output of a watched pair

A watched pair is converted once at the start and once for each tick that announces a change, each
time from the files that are there (`occasions`). After each period the output holds the text that
the job makes of the files, and at the time, of the last conversion that succeeded (`Job.Leaves`,
`watch_output`). Where no change stays unannounced, this is the text that the job makes of the files
as they are, with the time of the last conversion, as long as they convert.

The statement is about runs in which no tick touches the output (`Tick.Keeps`). That is so if ticks
replace other files (`Tick.ReplacesOthers.keeps`).
-/

namespace MetalLowering

/-! ### Ticks that leave a file alone -/

/-- The changes of a tick leave a file as it reads in the store they are made to. -/
def Tick.Keeps (tick : Tick) (store : Store) (path : Path) : Prop :=
  (tick.apply store).read path = store.read path

instance (tick : Tick) (store : Store) (path : Path) : Decidable (tick.Keeps store path) :=
  inferInstanceAs (Decidable ((tick.apply store).read path = store.read path))

/-- Whether a node is a file. -/
def Node.isFile : Node → Bool
  | .file _ => true
  | .directory => false

/-- A node that is a file has content. -/
lemma Node.exists_of_isFile {node : Node} (h : node.isFile = true) :
    ∃ content, node = .file content := by
  cases node with
  | file content => exact ⟨content, rfl⟩
  | directory => cases h

/-- The changes of a tick replace files of a store, and none of them is that of the path. -/
def Tick.ReplacesOthers (tick : Tick) (store : Store) (path : Path) : Prop :=
  ∀ change ∈ tick.changes, change.1 ≠ store.partsOf path ∧ change.2.any Node.isFile ∧
    (store.node? change.1).any Node.isFile ∧
    ∀ above ∈ Store.beginnings change.1.dropLast, (store.node? above).isSome

instance (tick : Tick) (store : Store) (path : Path) : Decidable (tick.ReplacesOthers store path) :=
  inferInstanceAs (Decidable (∀ change ∈ tick.changes, _ ∧ _ ∧ _ ∧
    ∀ above ∈ Store.beginnings change.1.dropLast, (store.node? above).isSome))

/-- A tick that replaces other files leaves the file alone. -/
lemma Tick.ReplacesOthers.keeps {tick : Tick} {store : Store} {path : Path}
    (h : tick.ReplacesOthers store path) : tick.Keeps store path := by
  unfold ReplacesOthers at h
  unfold Keeps Tick.apply
  generalize tick.changes = changes at h ⊢
  induction changes generalizing store with
  | nil => rfl
  | cons change changes ih =>
      obtain ⟨⟨hne, hnew, hold, habove⟩, hrest⟩ := List.forall_mem_cons.mp h
      obtain ⟨parts, node⟩ := change
      obtain ⟨node, rfl, hnode⟩ := (Option.any_eq_true _ _).mp hnew
      obtain ⟨content, rfl⟩ := node.exists_of_isFile hnode
      obtain ⟨found, hfound, hfile⟩ := (Option.any_eq_true _ _).mp hold
      obtain ⟨old, rfl⟩ := found.exists_of_isFile hfile
      have hinstall : store.install parts (.file content) = store.put parts (.file content) :=
        Store.install_eq_put habove _
      simp only [List.foldl_cons, hinstall]
      refine (ih ?_).trans (Store.read_put_of_file hfound hne content)
      -- the directories and files that the other changes need are still there
      intro other hother
      obtain ⟨hne', hnew', hold', habove'⟩ := hrest other hother
      refine ⟨hne', hnew', ?_, fun above hmem => ?_⟩
      · rw [Store.node?_put]
        split_ifs
        · rfl
        · exact hold'
      · rw [Store.node?_put]
        split_ifs
        · rfl
        · exact habove' above hmem

/-! ### Conversions and what they leave -/

/-- How many conversions happen in a period, as its log tells. -/
def Period.conversions (p : Period) (output : Path) : Nat := conversionsIn output p.log

/-- The files that a conversion finds, and the time at which it is made. -/
structure Occasion where
  /-- The files. -/
  store : Store
  /-- The time. -/
  clock : Clock

/-- The times of the periods of a run: that of its start, then those of the ticks. The interruption,
which converts nothing, has none. -/
def periodTimes (clock : Clock) (ticks : List Tick) : List Clock := clock :: ticks.map (·.clock)

/-- The occasions of the conversions in some periods, which come with their times. -/
def occasions (output : Path) (periods : List (Period × Clock)) : List Occasion :=
  (periods.filter fun p => 0 < p.1.conversions output).map fun p => ⟨p.1.before, p.2⟩

/-- What an output holds after conversions on the given occasions, if it held `initial` before: the
text that the job makes on the last occasion on which it makes one, or else what it held. -/
inductive Job.Leaves (job : Job) (room : Nat) (initial : Except FileProblem ByteArray)
    (occasions : List Occasion) : Except FileProblem ByteArray → Prop
  | made {before after : List Occasion} {occasion : Occasion} {text : Text}
      (split : occasions = before ++ occasion :: after)
      (makes : job.Makes room occasion.store.read occasion.clock text)
      (later : ∀ o ∈ after, ∀ text, ¬job.Makes room o.store.read o.clock text) :
      Leaves job room initial occasions (.ok (encodeText text))
  | kept (never : ∀ o ∈ occasions, ∀ text, ¬job.Makes room o.store.read o.clock text) :
      Leaves job room initial occasions initial

section steps

variable {job : Job} {room : Nat} {initial held : Except FileProblem ByteArray}
  {found : List Occasion} {occasion : Occasion} {output : Path}

/-- A text that is made last is what the output holds. -/
lemma Job.leaves_append_of_makes {text : Text}
    (h : job.Makes room occasion.store.read occasion.clock text) :
    job.Leaves room initial (found ++ [occasion]) (.ok (encodeText text)) :=
  .made rfl h (by simp)

/-- An occasion on which nothing is made leaves what the output holds. -/
lemma Job.Leaves.append_of_not_makes (h : job.Leaves room initial found held)
    (hnone : ∀ text, ¬job.Makes room occasion.store.read occasion.clock text) :
    job.Leaves room initial (found ++ [occasion]) held := by
  have hlast : ∀ o ∈ [occasion], ∀ text, ¬job.Makes room o.store.read o.clock text :=
    List.forall_mem_singleton.mpr hnone
  cases h with
  | @made before after last _ split makes later =>
      have hsplit : found ++ [occasion] = before ++ last :: (after ++ [occasion]) := by
        rw [split, List.append_assoc, List.cons_append]
      exact .made hsplit makes (List.forall_mem_append.mpr ⟨later, hlast⟩)
  | kept never => exact .kept (List.forall_mem_append.mpr ⟨never, hlast⟩)

/-- A conversion that returns leaves the output as it should be after it. -/
lemma Session.leaves_convert {s : Session} {written : Bool} {store : Store} {clock : Clock}
    (h : (s.convert store clock).result = .ok written)
    (hleaves : s.job.Leaves s.room initial found (store.read s.output)) :
    s.job.Leaves s.room initial (found ++ [⟨store, clock⟩])
      ((s.convert store clock).store.read s.output) := by
  rcases convert_cases h with ⟨hnone, hstore, -⟩ | ⟨text, hmakes, hwrite, -⟩
  · rw [hstore]
    exact hleaves.append_of_not_makes hnone
  · rw [Store.read_write hwrite]
    exact Job.leaves_append_of_makes hmakes

/-- The output holds what the job makes of the files that are there now, with the time of the last
conversion. -/
def Job.IsFresh (job : Job) (room : Nat) (output : Path) (store : Store) (found : List Occasion) :
    Prop :=
  ∃ last ∈ found.getLast?, ∃ text, job.Makes room store.read last.clock text ∧
    store.read output = .ok (encodeText text)

/-- After a conversion that returns, the output is fresh if the files convert. -/
lemma Session.isFresh_convert {s : Session} {written : Bool} {store : Store} {clock clock' : Clock}
    (h : (s.convert store clock).result = .ok written)
    (hseparate : ∀ file ∈ s.job.files, store.partsOf file ≠ store.partsOf s.output) {text : Text}
    (hmakes : s.job.Makes s.room (s.convert store clock).store.read clock' text) :
    s.job.IsFresh s.room s.output (s.convert store clock).store (found ++ [⟨store, clock⟩]) := by
  rcases convert_cases h with ⟨hnone, hstore, -⟩ | ⟨text', hmakes', hwrite, -⟩
  · rw [hstore] at hmakes
    obtain ⟨text', hmakes'⟩ := hmakes.at_clock clock
    exact absurd hmakes' (hnone text')
  · exact ⟨⟨store, clock⟩, by simp, text', hmakes'.write hwrite hseparate, Store.read_write hwrite⟩

/-- One more period adds an occasion if it converts. -/
lemma occasions_take_succ {periods : List (Period × Clock)} {n : Nat} {p : Period} {time : Clock}
    (h : periods[n]? = some (p, time)) :
    occasions output (periods.take (n + 1)) =
      occasions output (periods.take n) ++
        if 0 < p.conversions output then [⟨p.before, time⟩] else [] := by
  have hsplit : periods.take (n + 1) = periods.take n ++ [(p, time)] := by
    rw [List.take_add_one, h]
    rfl
  rw [occasions, hsplit, List.filter_append, List.map_append]
  congr 1
  by_cases hp : 0 < p.conversions output <;> simp [hp]

end steps

namespace Session.Watches

variable {s : Session} {store : Store} {clock : Clock} {ticks : List Tick} {periods : List Period}

/-! ### When a run converts -/

/-- The first period converts once. -/
lemma conversions_start (h : s.Watches store clock ticks periods) {p : Period}
    (hp : periods[0]? = some p) : p.conversions s.output = 1 := by
  obtain ⟨written, hresult, hfirst⟩ := h.start
  obtain rfl := Option.some.inj (hp.symm.trans hfirst)
  have hstart : conversionsIn s.output [startNote] = 0 := by
    refine conversionsIn_eq_zero fun e he => ?_
    rw [List.mem_singleton.mp he]
    exact endsConversion_info rfl (by decide)
  rw [Period.conversions, conversionsIn_append, conversionsIn_convert hresult, hstart]

/-- The last period does not convert. -/
lemma conversions_stop (output : Path) (store : Store) :
    Period.conversions ⟨store, store, [stopNote]⟩ output = 0 := by
  refine conversionsIn_eq_zero fun e he => ?_
  rw [List.mem_singleton.mp he]
  exact endsConversion_info rfl (by decide)

/-- The first period converts once, that of a tick if the tick announces a change, the last
never. -/
lemma map_conversions (h : s.Watches store clock ticks periods) :
    periods.map (·.conversions s.output) =
      1 :: ticks.map (fun tick => if tick.Announces s.job ⟨1, store.base⟩ then 1 else 0) ++ [0] := by
  have hperiod : ∀ (n : Nat) (p : Period), periods[n]? = some p →
      (1 :: ticks.map (fun tick => if tick.Announces s.job ⟨1, store.base⟩ then 1 else 0) ++
        [0])[n]? = some (p.conversions s.output) := by
    refine h.induction ?_ ?_ ?_
    · intro p hp
      rw [h.conversions_start hp]
      rfl
    · intro n p tick q hp htick hq hpasses _
      have hn : n < ticks.length := (List.getElem?_eq_some_iff.mp htick).1
      rw [Period.conversions, hpasses.conversionsIn_log, List.cons_append, List.getElem?_cons_succ,
        List.getElem?_append_left (by simpa using hn), List.getElem?_map, htick]
      rfl
    · intro p _ _
      rw [conversions_stop]
      simp
  refine List.ext_getElem? fun n => ?_
  rw [List.getElem?_map]
  rcases hp : periods[n]? with _ | p
  · have hn : periods.length ≤ n := List.getElem?_eq_none_iff.mp hp
    rw [h.length_eq] at hn
    rw [Option.map_none, eq_comm, List.getElem?_eq_none_iff]
    simp only [List.length_append, List.length_cons, List.length_map, List.length_nil]
    omega
  · exact (hperiod n p hp).symm

/-! ### What the output holds -/

/-- A tick is paired with the period before it. -/
lemma mem_zip {n : Nat} {p : Period} {tick : Tick} (hp : periods[n]? = some p)
    (htick : ticks[n]? = some tick) : (p, tick) ∈ periods.zip ticks :=
  List.mem_of_getElem? (List.getElem?_zip_eq_some.mpr ⟨hp, htick⟩)

/-- The first period has the time of the start. -/
lemma timed_start {p : Period} (hp : periods[0]? = some p) :
    (periods.zip (periodTimes clock ticks))[0]? = some (p, clock) :=
  List.getElem?_zip_eq_some.mpr ⟨hp, rfl⟩

/-- The period of a tick has the time of the tick. -/
lemma timed_step {n : Nat} {q : Period} {tick : Tick} (hq : periods[n + 1]? = some q)
    (htick : ticks[n]? = some tick) :
    (periods.zip (periodTimes clock ticks))[n + 1]? = some (q, tick.clock) := by
  refine List.getElem?_zip_eq_some.mpr ⟨hq, ?_⟩
  rw [periodTimes, List.getElem?_cons_succ, List.getElem?_map, htick, Option.map_some]

/-- The interruption adds no occasion. -/
lemma occasions_stop (output : Path) (periods : List Period) (clock : Clock) (ticks : List Tick) :
    occasions output ((periods.zip (periodTimes clock ticks)).take (ticks.length + 2)) =
      occasions output ((periods.zip (periodTimes clock ticks)).take (ticks.length + 1)) := by
  have hlength : (periods.zip (periodTimes clock ticks)).length ≤ ticks.length + 1 := by
    rw [List.length_zip, periodTimes, List.length_cons, List.length_map]
    exact Nat.min_le_right _ _
  rw [List.take_of_length_le hlength, List.take_of_length_le (hlength.trans (Nat.le_succ _))]

/-- The working directory stays the same. -/
lemma base_after (h : s.Watches store clock ticks periods) :
    ∀ (n : Nat) (p : Period), periods[n]? = some p → p.after.base = store.base := by
  refine h.induction ?_ ?_ ?_
  · intro p hp
    obtain ⟨written, hresult, hfirst⟩ := h.start
    obtain rfl := Option.some.inj (hp.symm.trans hfirst)
    exact base_convert hresult
  · intro n p tick q _ _ _ hpasses hbase
    exact hpasses.base_after.trans hbase
  · exact fun p _ hbase => hbase

/-- After each period the output is that of the conversions up to it, if no tick touches it. Ticks
are paired with the periods before them. -/
lemma leaves_output (h : s.Watches store clock ticks periods)
    (hkeeps : ∀ step ∈ periods.zip ticks, step.2.Keeps step.1.after s.output) :
    ∀ (n : Nat) (p : Period), periods[n]? = some p →
      s.job.Leaves s.room (store.read s.output)
        (occasions s.output ((periods.zip (periodTimes clock ticks)).take (n + 1)))
        (p.after.read s.output) := by
  refine h.induction ?_ ?_ ?_
  · intro p hp
    rw [occasions_take_succ (timed_start hp), h.conversions_start hp]
    obtain ⟨written, hresult, hfirst⟩ := h.start
    obtain rfl := Option.some.inj (hp.symm.trans hfirst)
    exact leaves_convert hresult (.kept (by simp [occasions]))
  · intro n p tick q hp htick hq hpasses hleaves
    rw [← hkeeps _ (mem_zip hp htick)] at hleaves
    rw [occasions_take_succ (timed_step hq htick), Period.conversions, hpasses.conversionsIn_log]
    cases hpasses with
    | converts announces result =>
        rw [if_pos announces]
        exact leaves_convert result hleaves
    | rests announces =>
        rw [if_neg announces, if_neg (Nat.lt_irrefl 0), List.append_nil]
        exact hleaves
  · intro p _ hleaves
    rw [occasions_stop]
    exact hleaves

/-- If every change is announced, the output is fresh after each period in which the files
convert. -/
lemma isFresh_output (h : s.Watches store clock ticks periods)
    (hseparate : ∀ file ∈ s.job.files, store.partsOf file ≠ store.partsOf s.output)
    (hkeeps : ∀ step ∈ periods.zip ticks, step.2.Keeps step.1.after s.output)
    (hannounced : ∀ step ∈ periods.zip ticks,
      (∃ file ∈ s.job.files, ¬step.2.Keeps step.1.after file) →
        step.2.Announces s.job ⟨1, store.base⟩) :
    ∀ (n : Nat) (p : Period), periods[n]? = some p →
      ∀ time text, s.job.Makes s.room p.after.read time text →
        s.job.IsFresh s.room s.output p.after
          (occasions s.output ((periods.zip (periodTimes clock ticks)).take (n + 1))) := by
  refine h.induction ?_ ?_ ?_
  · intro p hp time text hmakes
    rw [occasions_take_succ (timed_start hp), h.conversions_start hp]
    obtain ⟨written, hresult, hfirst⟩ := h.start
    obtain rfl := Option.some.inj (hp.symm.trans hfirst)
    exact isFresh_convert hresult hseparate hmakes
  · intro n p tick q hp htick hq hpasses hfresh time text hmakes
    rw [occasions_take_succ (timed_step hq htick), Period.conversions, hpasses.conversionsIn_log]
    cases hpasses with
    | converts announces result =>
        rw [if_pos announces]
        refine isFresh_convert result ?_ hmakes
        have hbase : (tick.apply p.after).base = store.base :=
          (tick.base_apply p.after).trans (h.base_after n p hp)
        simpa only [Store.partsOf, hbase] using hseparate
    | rests announces =>
        rw [if_neg announces, if_neg (Nat.lt_irrefl 0), List.append_nil]
        have hsame : ∀ file ∈ s.job.files, tick.Keeps p.after file := by
          intro file hfile
          by_contra hchanged
          exact announces (hannounced _ (mem_zip hp htick) ⟨file, hfile, hchanged⟩)
        obtain ⟨last, hlast, text', hmakes', hread⟩ :=
          hfresh time text ((Job.makes_congr hsame).mp hmakes)
        exact ⟨last, hlast, text', (Job.makes_congr hsame).mpr hmakes',
          (hkeeps _ (mem_zip hp htick)).trans hread⟩
  · intro p _ hfresh time text hmakes
    rw [occasions_stop]
    exact hfresh time text hmakes

end Session.Watches

/-- A watched pair, in a run that only the interruption ends, with an output that is none of its
files and that no tick touches. It is converted once at the start and once for each tick that
announces a change, from the files as the tick left them. After each period the output holds the
text that the job made on the last occasion on which it made one, of the files it found and at the
time of that conversion. If no change stays unannounced, that is the text made of the files as they
are, with the time of the last conversion, after each period in which they convert. -/
theorem watch_output {job : Job} {output : Path} {room : Nat} {store : Store} {clock : Clock}
    {ticks : List Tick} {run : WatchRun}
    (hrun : Session.watch { job, output, room } store clock ticks = run)
    (hreturns : run.unexpected = none)
    (hseparate : ∀ file ∈ job.files, store.partsOf file ≠ store.partsOf output)
    (hkeeps : ∀ step ∈ run.periods.zip ticks, step.2.Keeps step.1.after output) :
    run.periods.map (·.conversions output) =
        1 :: ticks.map (fun tick => if tick.Announces job ⟨1, store.base⟩ then 1 else 0) ++ [0] ∧
      run.periods.head?.map (·.before) = some store ∧
      (∀ (n : Nat) (p q : Period) (tick : Tick), run.periods[n]? = some p →
        ticks[n]? = some tick → run.periods[n + 1]? = some q → q.before = tick.apply p.after) ∧
      (∀ (n : Nat) (p : Period), run.periods[n]? = some p →
        job.Leaves room (store.read output)
          (occasions output ((run.periods.zip (periodTimes clock ticks)).take (n + 1)))
          (p.after.read output)) ∧
      ((∀ step ∈ run.periods.zip ticks, (∃ file ∈ job.files, ¬step.2.Keeps step.1.after file) →
          step.2.Announces job ⟨1, store.base⟩) →
        ∀ (n : Nat) (p : Period), run.periods[n]? = some p →
          ∀ time text, job.Makes room p.after.read time text →
            job.IsFresh room output p.after
              (occasions output ((run.periods.zip (periodTimes clock ticks)).take (n + 1)))) := by
  subst hrun
  have h := Session.watches_of_unexpected_eq_none rfl hreturns
  refine ⟨h.map_conversions, ?_, ?_, h.leaves_output hkeeps, h.isFresh_output hseparate hkeeps⟩
  · obtain ⟨written, -, hfirst⟩ := h.start
    rw [List.head?_eq_getElem?, hfirst]
    rfl
  · intro n p q tick hp htick hq
    obtain ⟨q', hq', hpasses⟩ := h.step n p tick hp htick
    obtain rfl := Option.some.inj (hq.symm.trans hq')
    exact hpasses.before_eq

/-! ### A pair that breaks and is mended -/

/-- The vertex source loses its entry point; another file is created and moved to its place. A
minute passes with each tick. -/
def edits : List Tick :=
  let vertex := ["shaders".toList, "a.vert".toList]
  [{ changes := [(vertex, some (.file (encodeText "void")))]
     events := [.modified "a.vert"]
     clock := ⟨2024, 2, 29, 12, 1, 0⟩ },
    { events := [.created "b.vert"]
      clock := ⟨2024, 2, 29, 12, 2, 0⟩ },
    { changes := [(vertex, some (.file (encodeText spriteSource)))]
      events := [.moved "b.vert" "/shaders/a.vert"]
      clock := ⟨2024, 2, 29, 12, 3, 0⟩ }]

/-- The run over the edits. -/
def editedRun : WatchRun :=
  Session.watch { job := commentedJob, output := spriteOutput } spriteStore spriteClock edits

/-- The run is not ended by a failure, its ticks announce all changes and replace other files than
the output, and after the third one the files are as at the start, and were last converted at the
time of that tick. -/
lemma editedRun_spec :
    editedRun.unexpected.isNone ∧
      (∀ step ∈ editedRun.periods.zip edits, step.2.ReplacesOthers step.1.after spriteOutput ∧
        ((∃ file ∈ commentedJob.files, ¬step.2.Keeps step.1.after file) →
          step.2.Announces commentedJob ⟨1, spriteStore.base⟩)) ∧
      (∃ p ∈ editedRun.periods[3]?, ∀ file ∈ commentedJob.files,
        p.after.read file = spriteStore.read file) ∧
      (occasions spriteOutput
        ((editedRun.periods.zip (periodTimes spriteClock edits)).take 4)).getLast?.map
          (·.clock.text) = some "2024-02-29 12:03:00 UTC".toList := by decide +kernel

/-- After the last tick the files convert again, and the output is fresh: its lines, with the time
of that tick in the second one. -/
theorem watch_output_edited :
    editedRun.unexpected = none ∧
      editedRun.periods.map (·.conversions spriteOutput) = [1, 1, 0, 1, 0] ∧
      ∃ p ∈ editedRun.periods[3]?, p.after.read spriteOutput =
        .ok (encodeText (code (commentLines "2024-02-29 12:03:00 UTC" ++ spriteLines))) := by
  obtain ⟨hnone, hsteps, ⟨p, hp, hfiles⟩, htime⟩ := editedRun_spec
  have hreturns : editedRun.unexpected = none := Option.isNone_iff_eq_none.mp hnone
  have hseparate : ∀ file ∈ commentedJob.files,
      spriteStore.partsOf file ≠ spriteStore.partsOf spriteOutput := by decide +kernel
  obtain ⟨hcounts, -, -, -, hfresh⟩ := watch_output (rfl : _ = editedRun) hreturns hseparate
    fun step hstep => (hsteps step hstep).1.keeps
  have hmakes : ∀ clock, commentedJob.Makes sessionRoom p.after.read clock
      (code (commentLines clock.text ++ spriteLines)) :=
    fun clock => (Job.makes_congr hfiles).mpr (makes_commentedJob sessionRoom clock)
  obtain ⟨last, hlast, text, htext, hread⟩ :=
    hfresh (fun step hstep => (hsteps step hstep).2) 3 p hp spriteClock _ (hmakes spriteClock)
  rw [Option.mem_def.mp hlast] at htime
  have hclock : last.clock.text = "2024-02-29 12:03:00 UTC".toList := Option.some.inj htime
  rw [htext.unique (hmakes last.clock), hclock] at hread
  exact ⟨hreturns, hcounts.trans (by decide +kernel), p, hp, hread⟩

end MetalLowering
