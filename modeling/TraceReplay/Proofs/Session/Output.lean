import TraceReplay.Proofs.Session.Stream
import TraceReplay.Session.Basic
import TraceReplay.Tool.Replay
import TraceReplay.Trace.Writer

/-!
# Standard output of a session that streams

With snapshots streamed and no dump, a session writes to standard output, trace by trace, the images of
its snapshots and then, if it reports the rate of frames, the lines of the report (`runList_told`). It
reports if more output was asked for or anything is measured, so only without both is standard output
nothing but the stream (`stdout_of_streaming`).
-/

namespace TraceReplay

/-- The lines of a report, each with its end. -/
def Report.text (r : Report) : List UInt8 :=
  r.lines.flatMap fun line => Text.utf8 line ++ Text.utf8 "\n"

/-- What a trace writes: the images of its shots, and its report if that is wanted. -/
def Config.output (config : Config) (shots : List Shot) (result : TraceResult) : List UInt8 :=
  shots.flatMap Shot.pnm ++ if config.reportsThroughput then result.report.text else []

theorem Report.text_length_pos (r : Report) : 0 < r.text.length := by
  have ends : 0 < (Text.utf8 "\n").length := by decide
  rw [text, lines, List.cons_append, List.flatMap_cons, List.length_append, List.length_append]
  omega

namespace Config

variable {config : Config} {shots : List (List Shot)} {results : List TraceResult}

/-- Without reports only the images are left. -/
theorem outputs_of_silent (silent : config.reportsThroughput = false)
    (same : results.length = shots.length) :
    (shots.zipWith config.output results).flatten = shots.flatten.flatMap Shot.pnm := by
  induction shots generalizing results with
  | nil => rfl
  | cons first shots ih =>
    cases results with
    | nil => cases same
    | cons result results =>
      rw [List.zipWith_cons_cons, List.flatten_cons, List.flatten_cons, List.flatMap_append,
        ih (Nat.succ.inj same), output, silent]
      simp

/-- With reports there is more for each trace. -/
theorem length_outputs_of_reports (reports : config.reportsThroughput = true)
    (same : results.length = shots.length) :
    (shots.flatten.flatMap Shot.pnm).length + results.length ≤
      (shots.zipWith config.output results).flatten.length := by
  induction shots generalizing results with
  | nil => simpa using same
  | cons first shots ih =>
    cases results with
    | nil => cases same
    | cons result results =>
      have rest := ih (Nat.succ.inj same)
      have more := result.report.text_length_pos
      rw [List.zipWith_cons_cons, List.flatten_cons, List.flatten_cons, List.flatMap_append,
        List.length_append, List.length_append, output, if_pos reports, List.length_append,
        List.length_cons]
      omega

theorem outputs_eq_images_iff (same : results.length = shots.length) (some : results ≠ []) :
    (shots.zipWith config.output results).flatten = shots.flatten.flatMap Shot.pnm ↔
      config.reportsThroughput = false := by
  constructor
  · intro images
    rw [Bool.eq_false_iff]
    intro reports
    have more := length_outputs_of_reports reports same
    have traces := List.length_pos_iff.2 some
    rw [images] at more
    omega
  · exact fun silent => outputs_of_silent silent same

/-- A replay that streams reports the rate of frames if more output was asked for, or if anything is
measured. -/
theorem Follows.reportsThroughput_of_stream {a : Arguments} (follows : config.Follows a)
    (streams : a.snapshot? = some streamMark) :
    config.reportsThroughput = false ↔
      a.verbose = 0 ∧ a.cpu = false ∧ a.gpu = false ∧ a.pixels = false := by
  have policy : config.policy.streams = true := by
    simp [SnapshotPolicy.streams, follows.writeTo _ streams]
  have verbosity : config.verbosity = -2 + a.verbose := by
    rw [follows.verbosity, verbosityOf, policy]
    simp
  rw [reportsThroughput, verbosity, follows.profiling, Profiling.isEnabled]
  simp only [Bool.or_eq_false_iff, decide_eq_false_iff_not, and_assoc]
  refine and_congr_left fun _ => ?_
  omega

end Config

/-- Surroundings that show standard output as it is, where `shown` is what was shown so far. A pause may
show some of what was written, and then that need not be shown again. -/
structure Surroundings.Faithful {τ : Type} (out : Surroundings (StateM τ)) (shown : τ → List UInt8) :
    Prop where
  now : ∀ t, shown (out.now t).2 = shown t
  pause : ∀ (s : Studio) t, s.Streams → (out.pause s t).1.Streams ∧
    shown (out.pause s t).2 ++ (out.pause s t).1.written = shown t ++ s.written

namespace Session

variable {codec : ImageCodec} {s t u : Session}

/-- The shots of a trace that is replayed next. -/
def shots (codec : ImageCodec) (s : Session) (path : String) : List Shot :=
  match s.player?, openTrace s.studio.files path with
  | some player, .ok reader =>
    let s := s.tell (.logged .info
      s!"Replaying {path} ({reader.header.recordCount.toNat} calls recorded)")
    Reference.shots (Studio.backend codec) reader.toSource player s.studio
  | _, _ => []

/-- The shots of traces that are replayed one after the other, up to the first that fails. -/
def shotsList {τ : Type} (out : Surroundings (StateM τ)) (codec : ImageCodec) :
    List String → Session → τ → List (List Shot)
  | [], _, _ => []
  | path :: paths, s, x =>
    s.shots codec path ::
      match runTrace out codec s path x with
      | ((.ok _, t), y) => shotsList out codec paths (t.pause out y).1 (t.pause out y).2
      | _ => []

/-- The session streams its snapshots to standard output and dumps nothing. -/
structure Streams (s : Session) : Prop where
  studio : s.studio.Streams
  player : ∃ p, s.player? = some p ∧ p.policy.streams = true ∧ p.dumpAt? = none

/-- What an action of a session leaves of it, having written some bytes. -/
structure Writes (s : Session) (bytes : List UInt8) (t : Session) : Prop where
  studio : s.studio.Writes bytes t.studio
  config : t.config = s.config

theorem Writes.trans {bytes more : List UInt8} (h : s.Writes bytes t) (h' : t.Writes more u) :
    s.Writes (bytes ++ more) u :=
  ⟨h.studio.trans h'.studio, h'.config.trans h.config⟩

theorem Writes.tell {bytes : List UInt8} (h : s.Writes bytes t) {message : Message}
    (silent : ∀ line, message ≠ .printed line) : s.Writes bytes (t.tell message) :=
  ⟨h.studio.tell silent, h.config⟩

/-- Lines that are printed one after the other. -/
theorem Writes.print {bytes : List UInt8} (h : s.Writes bytes t) (lines : List String) :
    s.Writes (bytes ++ lines.flatMap fun line => Text.utf8 line ++ Text.utf8 "\n")
      (lines.foldl (fun (t : Session) line => t.tell (.printed line)) t) := by
  induction lines generalizing t bytes with
  | nil => simpa using h
  | cons line lines ih =>
    rw [List.flatMap_cons, ← List.append_assoc]
    exact ih (t := t.tell (.printed line)) ⟨h.studio.print line, h.config⟩

/-- A race that completed is reported, if that is wanted, and its player is kept. -/
theorem Writes.conclude {bytes : List UInt8} (h : s.Writes bytes t) {name : String} {elapsed : Duration}
    {raceEnd : RaceEnd} {result : TraceResult}
    (ends : ∀ r, raceEnd = .finished r →
      r.player.policy.streams = true ∧ r.player.dumpAt? = none ∧ r.outcome = .completed)
    (concluded : t.conclude codec name elapsed raceEnd = (.ok result, u)) :
    u.Streams ∧ result.outcome = .completed ∧
      s.Writes (bytes ++ if s.config.reportsThroughput then result.report.text else []) u := by
  cases raceEnd with
  | failed e => cases concluded
  | crashed => cases concluded
  | finished r =>
    obtain ⟨streams, never, completed⟩ := ends r rfl
    simp only [Session.conclude, completed] at concluded
    obtain ⟨result_eq, rfl⟩ := Prod.mk.inj concluded
    obtain rfl := Except.ok.inj result_eq
    set report := Report.ofCounters r.player.counters r.legs.length elapsed
      ((Studio.backend codec).summary? t.studio)
    have logged : s.Writes bytes (t.tell (.logged .info
        s!"{name}: {report.calls} calls on {report.legs} legs")) :=
      h.tell fun _ => Message.noConfusion
    have wrote : s.Writes (bytes ++ if s.config.reportsThroughput then report.text else [])
        (if t.config.reportsThroughput then
          report.lines.foldl (fun (t : Session) line => t.tell (.printed line))
            (t.tell (.logged .info s!"{name}: {report.calls} calls on {report.legs} legs"))
        else t.tell (.logged .info s!"{name}: {report.calls} calls on {report.legs} legs")) := by
      rw [h.config]
      cases s.config.reportsThroughput with
      | true => exact logged.print report.lines
      | false => simpa using logged
    exact ⟨⟨wrote.studio.streams, _, rfl, streams, never⟩, rfl, wrote.studio, wrote.config⟩

/-- What is known of traces of which none failed. -/
theorem eq_of_runList_cons_eq_ok {τ : Type} {out : Surroundings (StateM τ)} {path : String}
    {paths : List String} {results : List TraceResult} {x y : τ}
    (ran : runList out codec (path :: paths) s x = ((.ok results, t), y)) :
    ∃ result u z, runTrace out codec s path x = ((.ok result, u), z) ∧
      ((∃ n, result.outcome = .stateDumped n ∧ results = [result] ∧ u = t ∧ z = y) ∨
        result.outcome = .completed ∧ ∃ rest, results = result :: rest ∧
          runList out codec paths (u.pause out z).1 (u.pause out z).2 = ((.ok rest, t), y)) := by
  rw [runList, bind_apply] at ran
  revert ran
  generalize runTrace out codec s path x = first
  obtain ⟨⟨_ | result, u⟩, z⟩ := first
  · intro ran
    cases ran
  · intro ran
    refine ⟨result, u, z, rfl, ?_⟩
    cases ended : result.outcome with
    | stateDumped n =>
      simp only [ended] at ran
      cases ran
      exact .inl ⟨n, rfl, rfl, rfl, rfl⟩
    | completed =>
      refine .inr ⟨rfl, ?_⟩
      simp only [ended, bind_apply] at ran
      revert ran
      generalize runList out codec paths (u.pause out z).1 (u.pause out z).2 = others
      obtain ⟨⟨_ | rest, v⟩, w⟩ := others
      · intro ran
        cases ran
      · intro ran
        cases ran
        exact ⟨rest, rfl, rfl⟩

section

variable {τ : Type} {out : Surroundings (StateM τ)} {shown : τ → List UInt8}
  (faithful : out.Faithful shown) {x y : τ}
include faithful

/-- A race writes the images of its shots, and its report if it is wanted. -/
theorem runSource_writes {p : Player} (player : s.player? = some p) (streams : p.policy.streams = true)
    (never : p.dumpAt? = none) (begun : s.studio.Streams) {name : String} {source : Source}
    {result : TraceResult} (ran : runSource out codec s name source x = ((.ok result, t), y)) :
    t.Streams ∧ result.outcome = .completed ∧
      s.Writes (s.config.output (Reference.shots (Studio.backend codec) source p s.studio) result) t ∧
      shown y = shown x := by
  rw [runSource, player] at ran
  simp only [Field.run_eq_reference] at ran
  obtain ⟨films, aims⟩ := run_films codec source p s.studio
  revert films aims ran
  generalize Reference.run (Studio.backend codec) source p s.studio = raced
  rintro ran ⟨_, _, _, _, reel⟩ aims
  have timed : ∃ elapsed, (({ s with studio := raced.2, player? := none } : Session).conclude codec name
      elapsed raced.1, (out.now (out.now x).2).2) = ((.ok result, t), y) := ⟨_, ran⟩
  obtain ⟨elapsed, timed⟩ := timed
  obtain ⟨concluded, rfl⟩ := Prod.mk.inj timed
  have filmed : s.Writes ((Reference.shots (Studio.backend codec) source p s.studio).flatMap Shot.pnm)
      { s with studio := raced.2, player? := none } :=
    ⟨reel.writes streams (absurd never) begun, rfl⟩
  have ends : ∀ r, raced.1 = .finished r →
      r.player.policy.streams = true ∧ r.player.dumpAt? = none ∧ r.outcome = .completed := by
    intro r finished
    obtain ⟨⟨policy, dumpAt⟩, completed⟩ := aims r finished
    exact ⟨policy ▸ streams, dumpAt.trans never, completed.resolve_right (absurd never)⟩
  obtain ⟨left, completed, wrote⟩ := filmed.conclude ends concluded
  exact ⟨left, completed, wrote, (faithful.now _).trans (faithful.now x)⟩

/-- So does a trace that can be opened. -/
theorem runTrace_writes (h : s.Streams) {path : String} {result : TraceResult}
    (ran : runTrace out codec s path x = ((.ok result, t), y)) :
    t.Streams ∧ result.outcome = .completed ∧
      s.Writes (s.config.output (s.shots codec path) result) t ∧ shown y = shown x := by
  obtain ⟨p, player, streams, never⟩ := h.player
  rw [shots, player]
  rw [runTrace] at ran
  cases opened : openTrace s.studio.files path with
  | error e =>
    rw [opened] at ran
    cases ran
  | ok reader =>
    rw [opened] at ran
    have begun : s.Writes [] (s.tell (.logged .info
        s!"Replaying {path} ({reader.header.recordCount.toNat} calls recorded)")) :=
      .tell ⟨.refl h.studio, rfl⟩ fun _ => Message.noConfusion
    obtain ⟨left, completed, wrote, same⟩ :=
      runSource_writes faithful (s := s.tell _) player streams never begun.studio.streams ran
    exact ⟨left, completed, begun.trans wrote, same⟩

/-- After a pause the same is to be seen of standard output, now or later. -/
theorem pause_told (h : s.Streams) :
    (s.pause out x).1.Streams ∧ (s.pause out x).1.config = s.config ∧
      shown (s.pause out x).2 ++ (s.pause out x).1.studio.written = shown x ++ s.studio.written := by
  rw [pause]
  split
  · have noted : s.studio.Writes [] (s.studio.tell (.noted "Press Enter to continue")) :=
      (Studio.Writes.refl h.studio).tell fun _ => Message.noConfusion
    obtain ⟨streams, told⟩ := faithful.pause _ x noted.streams
    refine ⟨⟨streams, h.player⟩, rfl, ?_⟩
    refine told.trans ?_
    rw [noted.written, List.append_nil]
  · exact ⟨h, rfl, rfl⟩

/-- Traces write what each of them writes, one after the other. -/
theorem runList_told {paths : List String} {results : List TraceResult} (h : s.Streams)
    (ran : runList out codec paths s x = ((.ok results, t), y)) :
    results.length = paths.length ∧ (shotsList out codec paths s x).length = paths.length ∧
      shown y ++ t.studio.written = shown x ++ s.studio.written ++
        ((shotsList out codec paths s x).zipWith s.config.output results).flatten := by
  induction paths generalizing s x results with
  | nil =>
    cases ran
    simp [shotsList]
  | cons path paths ih =>
    obtain ⟨result, u, z, first, rest⟩ := eq_of_runList_cons_eq_ok ran
    obtain ⟨left, completed, wrote, same⟩ := runTrace_writes faithful h first
    rcases rest with ⟨_, dumped, _⟩ | ⟨_, rest, rfl, others⟩
    · rw [completed] at dumped
      cases dumped
    · obtain ⟨streams, config, told⟩ := pause_told faithful left (x := z)
      obtain ⟨results_length, shots_length, told'⟩ := ih streams others
      rw [shotsList, first]
      refine ⟨congrArg (· + 1) results_length, congrArg (· + 1) shots_length, ?_⟩
      rw [told', told, config, wrote.config, wrote.studio.written, same]
      simp

end

end Session

/-- What standard output comes to when snapshots are streamed. -/
structure StreamedOutput (a : Arguments) (config : Config) (results : List TraceResult)
    (shots : List (List Shot)) (bytes : List UInt8) : Prop where
  each : results.length = config.traces.length ∧ shots.length = config.traces.length
  /-- Trace by trace, the images of the shots and then the report, if that is wanted. -/
  told : bytes = (shots.zipWith config.output results).flatten
  /-- It is nothing but the stream only if nothing more was asked for and nothing is measured. -/
  clean : bytes = shots.flatten.flatMap Shot.pnm ↔
    a.verbose = 0 ∧ a.cpu = false ∧ a.gpu = false ∧ a.pixels = false

/-- A replay that streams its snapshots, does not dump the state and replays all its traces writes
nothing to standard output besides the stream and the reports. -/
theorem stdout_of_streaming {τ : Type} {out : Surroundings (StateM τ)} {shown : τ → List UInt8}
    (faithful : out.Faithful shown) {codec : ImageCodec} {a : Arguments} {config : Config}
    {files : Files} {results : List TraceResult} {session : Session} {x y : τ}
    (accepted : Config.ofArguments a = .ok config) (streams : a.snapshot? = some streamMark)
    (never : a.dumpState? = none) (fresh : shown x = [])
    (ran : (Session.start config (ReplayProgram.studio config files)).runAll out codec x =
      ((.ok results, session), y)) :
    StreamedOutput a config results
      (Session.shotsList out codec config.traces
        (Session.start config (ReplayProgram.studio config files)) x)
      (shown y ++ session.studio.written) := by
  have follows := Config.follows_of_ofArguments_eq_ok accepted
  have begun : (Session.start config (ReplayProgram.studio config files)).Streams := by
    refine ⟨⟨rfl, rfl, rfl⟩, _, rfl, ?_, follows.dumpAt.trans never⟩
    change config.policy.streams = true
    simp [SnapshotPolicy.streams, follows.writeTo _ streams]
  obtain ⟨results_length, shots_length, told⟩ := Session.runList_told faithful begun ran
  have nothing : (Session.start config (ReplayProgram.studio config files)).studio.written = [] := rfl
  rw [fresh, nothing, List.nil_append, List.nil_append] at told
  refine ⟨⟨results_length, shots_length⟩, told, ?_⟩
  have some : results ≠ [] := by
    rw [← List.length_pos_iff, results_length]
    exact List.length_pos_iff.2 follows.nonempty
  rw [← follows.reportsThroughput_of_stream streams, told]
  exact Config.outputs_eq_images_iff (results_length.trans shots_length.symm) some

/-- Nobody has to be waited for, and what was written before a pause is shown. -/
def pager : Surroundings (StateM (List UInt8)) where
  now := pure 0
  pause studio := do
    modify (· ++ studio.written)
    pure { studio with stdout := studio.stdout.drain }

theorem faithful_pager : pager.Faithful id where
  now _ := rfl
  pause s t streams := by
    refine ⟨⟨streams.shared, streams.unlimited, streams.flushes⟩, ?_⟩
    exact List.append_nil _

/-- A trace of one frame, which clears the canvas. -/
def clearedFrame : List UInt8 := encodeTrace [⟨0, homeLeg, .endFrame, [1, 65, 66, 10, 68]⟩]

def clearedFiles : Files := { contents := [(["t"], ⟨clearedFrame.toArray⟩)] }

/-- The trace is replayed twice on one pixel, with a wait after each time, and more output is asked for. -/
def loudArguments : Arguments :=
  { snapshot? := some "-", verbose := 1, wait := true, width := 1, height := 1, traces := ["t", "t"] }

def loudConfig : Config where
  traces := ["t", "t"]
  verbosity := -1
  waits := true
  policy := { writeTo? := some "-", writeCalls := .everyFrame }
  width := 1
  height := 1

def loudSession : Session := .start loudConfig (ReplayProgram.studio loudConfig clearedFiles)

/-- Both times the image is streamed, and there is more than the stream. -/
theorem stdout_of_streaming_of_verbose :
    Config.ofArguments loudArguments = .ok loudConfig ∧
      (Session.shotsList pager Png.codec ["t", "t"] loudSession []).flatten.map Shot.image? =
        [some (.solid 1 1 ⟨65, 66, 10, 68⟩), some (.solid 1 1 ⟨65, 66, 10, 68⟩)] ∧
      ∃ results session shown, loudSession.runAll pager Png.codec [] = ((.ok results, session), shown) ∧
        StreamedOutput loudArguments loudConfig results
          (Session.shotsList pager Png.codec ["t", "t"] loudSession []) (shown ++ session.studio.written) := by
  have accepted : Config.ofArguments loudArguments = .ok loudConfig := rfl
  refine ⟨accepted, by decide +kernel, ?_⟩
  have completed : (loudSession.runAll pager Png.codec []).1.1.toBool = true := by decide +kernel
  revert completed
  generalize ran : loudSession.runAll pager Png.codec [] = replayed
  obtain ⟨⟨_ | results, session⟩, shown⟩ := replayed
  · exact fun failed => Bool.noConfusion failed
  · exact fun _ =>
      ⟨results, session, shown, rfl, stdout_of_streaming faithful_pager accepted rfl rfl rfl ran⟩

end TraceReplay
