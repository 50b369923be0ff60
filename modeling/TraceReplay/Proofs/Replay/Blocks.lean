import Mathlib.Data.List.Forall2
import TraceReplay.Proofs.Replay.Matching
import TraceReplay.Replay.Blocks

/-!
# A call is played in one block

A snapshot step adds its effects to the journal, whatever is in it (`take_journaled`), and so does each
other part of the playing of a call. `Player.play_block` puts them together: which parts there are depends
on the call, the policy, the threshold and what became of the effect (`Block.IsFor`), and on nothing else.
-/

namespace TraceReplay

variable {σ : Type} {b : Backend σ}

namespace SnapshotPolicy

variable (p : SnapshotPolicy)

/-- The report of a snapshot step keeps the number it began with. -/
theorem callNo_deliver (b : Backend σ) (image : Image) (report : SnapshotReport) (w : σ) :
    Ensures (p.deliver b image report) w fun r _ => r.callNo = report.callNo := by
  unfold deliver
  split
  · exact .pure rfl
  · split
    · refine .bind (P := fun _ _ => True) trivial ?_
      rintro (e | _) t -
      · exact .bind (P := fun _ _ => True) trivial fun _ _ _ => .pure rfl
      · exact .pure rfl
    · refine .bind (P := fun _ _ => True) trivial ?_
      rintro (_ | _) t -
      · exact .pure rfl
      · exact .bind (P := fun _ _ => True) trivial fun _ _ _ => .pure rfl

theorem callNo_judge (b : Backend σ) (image : Image) (reference? : Option Image) (report : SnapshotReport)
    (w : σ) : Ensures (p.judge b image reference? report) w fun r _ => r.callNo = report.callNo := by
  unfold judge
  split
  · exact .pure rfl
  · exact .bind (P := fun _ _ => True) trivial fun _ _ _ =>
      .bind (P := fun _ _ => True) trivial fun _ _ _ => .pure rfl

theorem callNo_capture (b : Backend σ) (reference? : Option Image) (report : SnapshotReport) (w : σ) :
    Ensures (p.capture b reference? report) w fun r _ => r.callNo = report.callNo := by
  unfold capture
  refine .bind (P := fun _ _ => True) trivial ?_
  rintro (_ | image) t -
  · exact .pure rfl
  · refine .bind (p.callNo_deliver b image _ t) fun r u same => ?_
    exact (p.callNo_judge b image reference? r u).mono fun _ _ eq => eq.trans same

/-- A snapshot step is filed under the number that it was asked for. -/
theorem callNo_take (b : Backend σ) (n : UInt32) (w : σ) :
    Ensures (p.take b n) w fun r _ => r.callNo = n := by
  unfold take
  dsimp only
  split
  · exact .pure rfl
  · split
    · exact p.callNo_capture b none _ w
    · refine .bind (P := fun _ _ => True) trivial ?_
      rintro (_ | reference) t -
      · exact .pure rfl
      · exact .bind (P := fun _ _ => True) trivial fun _ u _ => p.callNo_capture b _ _ u

theorem number_shoot (b : Backend σ) (early : Bool) (n : UInt32) (w : σ) :
    (p.shoot b early n w).number = n :=
  p.callNo_take b.journaled n ⟨w, []⟩

end SnapshotPolicy

namespace Journaled

/-- Two journals of one world, of which the first began with more, and all else is of a snapshot step. -/
structure Behind (before : List Effect) (s t : Journaled σ) : Prop where
  world : s.world = t.world
  effects : s.effects = before ++ t.effects
  ofSnapshot : ∀ e ∈ t.effects, e.ofSnapshot = true

variable {α : Type} {before : List Effect}

theorem behind_note {effect : α → Effect} (x : StateM σ α)
    (ofSnapshot : ∀ a, (effect a).ofSnapshot = true) :
    Matches (Behind before) (note x effect) (note x effect) := by
  rintro ⟨w, es⟩ ⟨v, fs⟩ ⟨world, effects, old⟩
  obtain rfl : w = v := world
  obtain rfl : es = before ++ fs := effects
  refine ⟨rfl, rfl, List.append_assoc .., fun e mem => ?_⟩
  rcases List.mem_append.1 mem with mem | mem
  · exact old e mem
  · rw [List.mem_singleton.1 mem]
    exact ofSnapshot _

theorem behind_pass (x : StateM σ α) : Matches (Behind before) (pass x) (pass x) := by
  rintro ⟨w, es⟩ ⟨v, fs⟩ ⟨world, effects, old⟩
  obtain rfl : w = v := world
  exact ⟨rfl, rfl, effects, old⟩

theorem snapsAlike_behind (b : Backend σ) (before : List Effect) :
    Backend.SnapsAlike (Behind before) b.journaled b.journaled where
  capture := behind_note _ fun _ => rfl
  load _ := behind_note _ fun _ => rfl
  write _ _ := behind_note _ fun _ => rfl
  stream _ _ := behind_note _ fun _ => rfl
  compare _ _ := behind_note _ fun _ => rfl
  tell _ := behind_pass _

end Journaled

/-- The shot is a snapshot step that is filed under its number, and asks for nothing else. -/
def Shot.IsStep (s : Shot) (b : Backend σ) (p : SnapshotPolicy) : Prop :=
  (∃ w, s = p.shoot b s.early s.number w) ∧ ∀ e ∈ s.effects, e.ofSnapshot = true

namespace SnapshotPolicy

variable (p : SnapshotPolicy) (b : Backend σ) (early : Bool) (n : UInt32)

/-- A snapshot step adds to the journal what its shot asks for. -/
theorem take_journaled (j : Journaled σ) :
    Ensures (p.take b.journaled n) j fun r s =>
      r = (p.shoot b early n j.world).report ∧
        s.effects = j.effects ++ (p.shoot b early n j.world).effects := by
  obtain ⟨report, behind⟩ := (Journaled.snapsAlike_behind b j.effects).take p n j ⟨j.world, []⟩
    ⟨rfl, (List.append_nil _).symm, fun _ => nofun⟩
  exact ⟨report, behind.effects⟩

theorem isStep_shoot (w : σ) : (p.shoot b early n w).IsStep b p := by
  obtain ⟨_, behind⟩ := (Journaled.snapsAlike_behind b []).take p n ⟨w, []⟩ ⟨w, []⟩
    ⟨rfl, rfl, fun _ => nofun⟩
  refine ⟨⟨w, ?_⟩, behind.ofSnapshot⟩
  rw [number_shoot]
  rfl

end SnapshotPolicy

/-- The block is what a player makes of a call. -/
structure Block.IsFor (b : Backend σ) (p : Player) (c : Call) (k : Block) : Prop where
  call : k.call = c
  /-- The output before a switch of the target is filed under the number before, if there is one, unless
  the switch ends a frame. -/
  early : k.early?.map (·.number.toNat) =
    if p.policy.selects c ∧ c.swapsTarget then some (if c.endsFrame then c.no.toNat else c.no.toNat - 1)
    else none
  late : k.late?.map Shot.number =
    if k.answer = .done ∧ p.policy.selects c ∧ ¬ c.swapsTarget then some c.no else none
  dump : k.dump?.isSome ↔
    k.answer = .done ∧ (∃ threshold, p.dumpAt? = some threshold ∧ threshold ≤ c.no) ∧ b.dump?.isSome
  taken : ∀ s ∈ k.shots, s.IsStep b p.policy
  once : k.shots.length ≤ 1
  unselected : p.policy.selects c = false → k.shots = []

/-- The counters before these calls were performed, and after it. -/
structure Counters.Grows (before after : Counters) (cs : List Call) : Prop where
  calls : after.calls = before.calls + cs.length
  frames : after.frames = before.frames + cs.countP Call.endsFrame
  totalCalls : after.totalCalls = before.totalCalls + cs.length
  samples : after.cpuSamples? = before.cpuSamples?.map (· + cs.length)

namespace Counters.Grows

variable {first second third : Counters} {cs ds : List Call}

/-- The number of the call reached last does not matter. -/
theorem nil {no : UInt32} (same : second = { first with callNo := no }) : first.Grows second [] := by
  subst same
  exact ⟨rfl, rfl, rfl, Option.map_id.symm ▸ rfl⟩

theorem trans (h : first.Grows second cs) (h' : second.Grows third ds) : first.Grows third (cs ++ ds) := by
  refine ⟨?_, ?_, ?_, ?_⟩
  · rw [h'.calls, h.calls, List.length_append, Nat.add_assoc]
  · rw [h'.frames, h.frames, List.countP_append, Nat.add_assoc]
  · rw [h'.totalCalls, h.totalCalls, List.length_append, Nat.add_assoc]
  · rw [h'.samples, h.samples, Option.map_map, List.length_append]
    simp only [Function.comp_def, Nat.add_assoc]

end Counters.Grows

namespace Player

/-- The policy and the place of the dump stay what they are. -/
def SameAims (p q : Player) : Prop := q.policy = p.policy ∧ q.dumpAt? = p.dumpAt?

theorem SameAims.trans {p q r : Player} (h : SameAims p q) (h' : SameAims q r) : SameAims p r :=
  ⟨h'.1.trans h.1, h'.2.trans h.2⟩

/-- What a block leaves of the player. -/
structure Played (b : Backend σ) (p : Player) (c : Call) (k : Block) (q : Player) : Prop where
  block : k.IsFor b p c
  aims : p.SameAims q
  last : q.lastSnapshot? = (k.shots.getLast?.map Shot.report).or p.lastSnapshot?
  callNo : q.counters.callNo = c.no
  grows : p.counters.Grows q.counters k.retraced

/-- The player has taken these snapshots since. -/
def reported (p : Player) (shots : List Shot) : Player :=
  { p with lastSnapshot? := (shots.getLast?.map Shot.report).or p.lastSnapshot? }

variable (p : Player) (c : Call) (j : Journaled σ)

/-- A snapshot step, if one is wanted, is noted by the journal and the player. -/
theorem snapshot_journaled (wanted early : Bool) (n : UInt32) :
    Ensures (if wanted then p.snapshot b.journaled n else pure p) j fun q s =>
      ∃ shot? : Option Shot, shot? = (if wanted then some (p.policy.shoot b early n j.world) else none) ∧
        q = p.reported shot?.toList ∧ s.effects = j.effects ++ shot?.toList.flatMap Shot.effects := by
  cases wanted with
  | false => exact .pure ⟨none, rfl, rfl, by simp⟩
  | true =>
    refine .bind (p.policy.take_journaled b early n j) ?_
    rintro _ s ⟨rfl, effects⟩
    refine .pure ⟨_, rfl, rfl, ?_⟩
    rw [effects]
    simp

/-- The CPU time is not noted. -/
theorem recordCpu_journaled :
    Ensures (p.recordCpu b.journaled) j fun q s =>
      (∃ times?, q = { p with counters := { p.counters with cpuTimes? := times? } }) ∧
        q.counters.cpuSamples? = p.counters.cpuSamples?.map (· + 1) ∧ s.effects = j.effects := by
  unfold recordCpu Counters.cpuSamples?
  cases times : p.counters.cpuTimes? with
  | none => exact .pure ⟨⟨none, by rw [← times]⟩, by rw [times]; rfl, rfl⟩
  | some h =>
    refine .bind (P := fun _ (s : Journaled σ) => s.effects = j.effects) rfl fun elapsed s same => ?_
    refine .pure ⟨⟨_, rfl⟩, ?_, same⟩
    simp [Counters.recordCpu, times]

/-- An attempt to dump the state is noted, if there is anything to try. -/
theorem tryDump_journaled :
    Ensures (tryDump b.journaled) j fun dumped s =>
      ∃ dump? : Option DumpAttempt, dump?.isSome = b.dump?.isSome ∧
        dumped = dump?.any DumpAttempt.works ∧
        s.effects = j.effects ++ dump?.toList.flatMap DumpAttempt.effects := by
  unfold tryDump
  have same : b.journaled.dump? = b.dump?.map fun dump => Journaled.note dump .dumped := rfl
  rw [same]
  cases b.dump? with
  | none => exact .pure ⟨none, rfl, rfl, by simp⟩
  | some dump =>
    refine .bind (P := fun dumped (s : Journaled σ) => s.effects = j.effects ++ [Effect.dumped dumped]) rfl ?_
    rintro (_ | _) s effects
    · exact .pure ⟨some .failed, rfl, rfl, effects⟩
    · refine .bind (P := fun passedOn (t : Journaled σ) =>
        t.effects = s.effects ++ [Effect.flushedDump passedOn]) rfl ?_
      rintro passedOn t effects'
      have all : t.effects = j.effects ++ [.dumped true, .flushedDump passedOn] := by
        rw [effects', effects, List.append_assoc]
        rfl
      have made : ∃ dump? : Option DumpAttempt, dump?.isSome = true ∧
          true = dump?.any DumpAttempt.works ∧
          t.effects = j.effects ++ dump?.toList.flatMap DumpAttempt.effects :=
        ⟨some (.made passedOn), rfl, rfl, all⟩
      cases passedOn with
      | ok _ => exact .pure made
      | error e =>
        exact .bind (P := fun _ (u : Journaled σ) => u.effects = t.effects) rfl
          fun _ u same => .pure (same ▸ made)

theorem wantsDump_iff :
    p.wantsDump c = true ↔ ∃ threshold, p.dumpAt? = some threshold ∧ threshold ≤ c.no := by
  rw [wantsDump]
  cases p.dumpAt? <;> simp

/-- From the threshold on there is one attempt after each call that was performed. -/
theorem conclude_journaled :
    Ensures (p.conclude b.journaled c) j fun verdict s =>
      ∃ dump? : Option DumpAttempt,
        (dump?.isSome ↔
          (∃ threshold, p.dumpAt? = some threshold ∧ threshold ≤ c.no) ∧ b.dump?.isSome) ∧
        verdict = (if dump?.any DumpAttempt.works then .stop else .proceed) ∧
        s.effects = j.effects ++ dump?.toList.flatMap DumpAttempt.effects := by
  unfold conclude
  by_cases wants : p.wantsDump c = true
  · rw [if_pos wants]
    refine .bind (tryDump_journaled (b := b) j) ?_
    rintro dumped s ⟨dump?, some, rfl, effects⟩
    have wanted := (p.wantsDump_iff c).1 wants
    have may : dump?.isSome ↔
        (∃ threshold, p.dumpAt? = .some threshold ∧ threshold ≤ c.no) ∧ b.dump?.isSome := by
      rw [some, and_iff_right wanted]
    cases worked : dump?.any DumpAttempt.works with
    | true => exact .pure ⟨dump?, may, by rw [worked]; rfl, effects⟩
    | false => exact .pure ⟨dump?, may, by rw [worked]; rfl, effects⟩
  · rw [if_neg wants]
    have unwanted := mt (p.wantsDump_iff c).2 wants
    refine .pure ⟨none, ?_, rfl, by simp⟩
    simp only [Option.isSome_none, Bool.false_eq_true, false_iff]
    exact fun dumps => unwanted dumps.1

theorem toNat_numberBefore :
    (numberBefore c).toNat = if c.endsFrame then c.no.toNat else c.no.toNat - 1 := by
  unfold numberBefore
  split
  · rfl
  · split
    · rename_i zero
      rw [zero]
      rfl
    · rename_i positive
      have : c.no.toNat ≠ 0 := fun zero => positive (UInt32.toNat_inj.1 zero)
      rw [UInt32.toNat_sub_of_le]
      · rfl
      · rw [UInt32.le_iff_toNat_le, UInt32.toNat_one]
        omega

/-- The parts make a block of the call. -/
theorem isFor_of_parts {early? late? : Option Shot} {answer : Performed} {dump? : Option DumpAttempt}
    {w v : σ}
    (early : early? = if p.policy.selects c && c.swapsTarget then
      some (p.policy.shoot b true (numberBefore c) w) else none)
    (late : late? = if decide (answer = .done) && (p.policy.selects c && !c.swapsTarget) then
      some (p.policy.shoot b false c.no v) else none)
    (dump : dump?.isSome ↔ answer = .done ∧
      (∃ threshold, p.dumpAt? = some threshold ∧ threshold ≤ c.no) ∧ b.dump?.isSome) :
    Block.IsFor b p c ⟨c, early?, answer, late?, dump?⟩ := by
  have number := fun early n => p.policy.number_shoot b early n
  have step := fun early n => p.policy.isStep_shoot b early n
  subst early late
  cases selects : p.policy.selects c <;> cases swaps : c.swapsTarget <;>
    by_cases done : answer = .done <;>
    constructor <;>
    simp [Block.shots, selects, swaps, done, number, toNat_numberBefore, step, dump]

theorem callNo_count (q : Player) : (q.count c).counters.callNo = q.counters.callNo := by
  unfold count
  cases c.endsFrame <;> rfl

/-- A call that was performed is counted. -/
theorem grows_count {q : Player} {times? : Option Histogram}
    (samples : Counters.cpuSamples? { q.counters.reach c.no with cpuTimes? := times? } =
      q.counters.cpuSamples?.map (· + 1)) :
    q.counters.Grows
      (count { q with counters := { q.counters.reach c.no with cpuTimes? := times? } } c).counters [c] := by
  unfold count
  cases ends : c.endsFrame <;> constructor <;>
    simp_all [Counters.countCall, Counters.countFrame, Counters.reach, Counters.cpuSamples?]

/-- Of two lists of shots the last report is that of the second, if it has any. -/
theorem reported_reported (shots shots' : List Shot) :
    (p.reported shots).reported shots' = p.reported (shots ++ shots') := by
  rw [reported, reported, reported, List.getLast?_append, Option.map_or, Option.or_assoc]

/-- A call that was not performed leaves nothing but its number and the snapshot step before it. -/
theorem played_of_ne_done {early? : Option Shot} {answer : Performed} {w : σ}
    (early : early? = if p.policy.selects c && c.swapsTarget then
      some (p.policy.shoot b true (numberBefore c) w) else none)
    (failed : answer ≠ .done) :
    p.Played b c ⟨c, early?, answer, none, none⟩
      { p.reported early?.toList with counters := (p.reported early?.toList).counters.reach c.no } := by
  refine ⟨p.isFor_of_parts c (v := w) early (by simp [failed]) (by simp [failed]), ⟨rfl, rfl⟩, ?_, rfl,
    ?_⟩
  · simp [Block.shots, reported]
  · rw [Block.retraced, if_neg failed]
    exact .nil rfl

/-- A call is played in one block. -/
theorem play_journaled :
    Ensures (p.play b.journaled c) j fun (verdict, q) s =>
      ∃ k, p.Played b c k q ∧ verdict = k.verdict ∧ s.effects = j.effects ++ k.effects := by
  unfold play
  refine .bind (p.snapshot_journaled j (p.policy.selects c && c.swapsTarget) true (numberBefore c)) ?_
  rintro _ s ⟨early?, early, rfl, before⟩
  refine .bind (P := fun answer (t : Journaled σ) =>
    t.effects = s.effects ++ [Effect.performed c answer]) rfl ?_
  rintro answer t performed
  cases answer with
  | done =>
    refine .bind (recordCpu_journaled _ t) ?_
    rintro _ u ⟨⟨times?, rfl⟩, samples, same⟩
    refine .bind (snapshot_journaled _ u (p.policy.selects c && !c.swapsTarget) false c.no) ?_
    rintro _ v ⟨late?, late, rfl, after⟩
    refine .bind (conclude_journaled (b := b) _ c v) ?_
    rintro verdict x ⟨dump?, dump, rfl, dumped⟩
    refine .pure ⟨⟨c, early?, .done, late?, dump?⟩, ⟨?_, ⟨rfl, rfl⟩, ?_, ?_, ?_⟩, rfl, ?_⟩
    · exact p.isFor_of_parts c early late (dump.trans (and_iff_right rfl).symm)
    · exact congrArg lastSnapshot? (p.reported_reported early?.toList late?.toList)
    · exact callNo_count c _
    · exact grows_count c samples
    · rw [dumped, after, same, performed, before, Block.effects]
      simp
  | failed fault =>
    refine .pure ⟨⟨c, early?, .failed fault, none, none⟩,
      p.played_of_ne_done c early Performed.noConfusion, rfl, ?_⟩
    rw [performed, before, Block.effects]
    simp
  | crashed =>
    refine .pure ⟨⟨c, early?, .crashed, none, none⟩,
      p.played_of_ne_done c early Performed.noConfusion, rfl, ?_⟩
    rw [performed, before, Block.effects]
    simp

end Player

/-- What calls come to that are played one after the other, whatever the verdicts. -/
structure Dispatched (b : Backend σ) (p : Player) (cs : List Call) (blocks : List Block)
    (verdicts : List Verdict) (q : Player) (effects : List Effect) : Prop where
  each : List.Forall₂ (Block.IsFor b p) cs blocks
  effects : effects = blocks.flatMap Block.effects
  verdicts : verdicts = blocks.map Block.verdict
  /-- The report that is remembered is that of the last snapshot step of all blocks. -/
  last : q.lastSnapshot? = ((blocks.flatMap Block.shots).getLast?.map Shot.report).or p.lastSnapshot?

/-- A block does not depend on what else the player knows. -/
theorem Block.IsFor.congr {p q : Player} (aims : p.SameAims q) {c : Call} {k : Block}
    (h : k.IsFor b q c) : k.IsFor b p c := by
  obtain ⟨policy, dumpAt⟩ := aims
  obtain ⟨call, early, late, dump, taken, once, unselected⟩ := h
  rw [policy] at early late taken unselected
  rw [dumpAt] at dump
  exact ⟨call, early, late, dump, taken, once, unselected⟩

theorem Player.playAll_journaled (p : Player) (cs : List Call) (j : Journaled σ) :
    Ensures (p.playAll b.journaled cs) j fun (verdicts, q) s =>
      ∃ blocks effects, Dispatched b p cs blocks verdicts q effects ∧ s.effects = j.effects ++ effects := by
  induction cs generalizing p j with
  | nil => exact .pure ⟨[], [], ⟨.nil, rfl, rfl, rfl⟩, (List.append_nil _).symm⟩
  | cons c cs ih =>
    refine .bind (p.play_journaled c j) ?_
    rintro ⟨_, q⟩ s ⟨k, played, rfl, effects⟩
    refine .bind (ih q s) ?_
    rintro ⟨_, r⟩ t ⟨blocks, _, ⟨each, rfl, rfl, last⟩, effects'⟩
    refine .pure ⟨k :: blocks, _, ⟨.cons played.block ?_, rfl, rfl, ?_⟩, ?_⟩
    · exact each.imp fun _ _ block => block.congr played.aims
    · rw [last, played.last, List.flatMap_cons, List.getLast?_append, Option.map_or, Option.or_assoc]
    · rw [effects', effects, List.flatMap_cons, List.append_assoc]

/-- Whatever the backend answers, each call is played in one block, in the order of the calls. -/
theorem played_in_blocks (b : Backend σ) (p : Player) (cs : List Call) (w : σ) :
    ∃ blocks, Dispatched b p cs blocks (p.playAll b.journaled cs ⟨w, []⟩).1.1
      (p.playAll b.journaled cs ⟨w, []⟩).1.2 (p.playAll b.journaled cs ⟨w, []⟩).2.effects := by
  obtain ⟨blocks, effects, dispatched, all⟩ := p.playAll_journaled (b := b) cs ⟨w, []⟩
  rw [List.nil_append] at all
  exact ⟨blocks, all ▸ dispatched⟩

end TraceReplay
