import TraceReplay.Proofs.Race.Counting
import TraceReplay.Proofs.Race.Mirror
import TraceReplay.Replay.Requests

/-!
# What a player has counted

Whatever a player is asked for, its counters are those of its history (`Counters.Tally`). One request keeps
this (`Tally.recount`), and so does a run of them (`Tally.recountAll`). To keep the history changes nothing
(`Player.serveAll_eq`), and a call that was not performed leaves its number and no more
(`Player.play_of_unperformed`).
-/

namespace TraceReplay

variable {σ : Type} {b : Backend σ}

theorem retracedIn_append (history more : List Episode) :
    retracedIn (history ++ more) = retracedIn history ++ retracedIn more := by
  simp [retracedIn]

theorem attempted_concat (history : List Episode) (e : Episode) :
    attempted (history ++ [e]) = attempted history ++ e.request.call?.toList := by
  rw [attempted, List.filterMap_append, ← attempted]
  cases call : e.request.call? <;> simp [call]

/-- A race begins. -/
theorem sinceRace_concat_of_begin {e : Episode} (begins : e.request = .beginRace)
    (history : List Episode) : sinceRace (history ++ [e]) = [] := by
  simp [sinceRace, begins]

/-- The race goes on. -/
theorem sinceRace_concat_of_ne {e : Episode} (goesOn : e.request ≠ .beginRace)
    (history : List Episode) : sinceRace (history ++ [e]) = sinceRace history ++ [e] := by
  simp [sinceRace, goesOn]

/-- A backend does what it does. -/
theorem Backend.Mirrors.refl (b : Backend σ) : Mirrors Eq b b := by
  have same : ∀ {α : Type} (x : StateM σ α), Matches Eq x x := by
    rintro α x s _ rfl
    exact ⟨rfl, rfl⟩
  refine ⟨⟨same _, fun _ => same _, fun _ _ => same _, fun _ _ => same _, fun _ _ => same _,
    fun _ => same _⟩, fun _ => same _, same _, same _, ?_, ?_, ?_, same _⟩
  · rintro s _ rfl
    rfl
  · rintro s _ rfl
    rfl
  · cases b.dump? with
    | none => exact .none
    | some dump => exact .some (same dump)

namespace Counters.Tally

variable {withCpu : Bool} {history : List Episode} {c d : Counters}

/-- Nothing is counted yet. -/
theorem start (withCpu : Bool) : (Counters.start withCpu).Tally withCpu [] :=
  ⟨rfl, rfl, rfl, rfl, by cases withCpu <;> rfl⟩

/-- A new race begins to count calls, frames and samples anew. -/
theorem beginRace (h : c.Tally withCpu history) :
    c.beginRace.Tally withCpu (history ++ [⟨.beginRace, []⟩]) := by
  have fresh := sinceRace_concat_of_begin (e := ⟨.beginRace, []⟩) rfl history
  constructor
  case calls =>
    rw [fresh]
    rfl
  case frames =>
    rw [fresh]
    rfl
  case totalCalls =>
    rw [retracedIn_append, List.length_append]
    exact h.totalCalls
  case callNo =>
    have same : attempted (history ++ [⟨.beginRace, []⟩]) = attempted history := by
      rw [attempted_concat]
      exact List.append_nil _
    rw [same]
    exact h.callNo
  case samples =>
    -- The histogram is emptied, but there is one only if it is wanted.
    have wanted : c.cpuTimes?.isSome = withCpu := by
      rw [← Option.isSome_map (f := Histogram.size), ← cpuSamples?, h.samples]
      cases withCpu <;> rfl
    subst wanted
    rw [fresh]
    unfold cpuSamples? Counters.beginRace
    cases c.cpuTimes? <;> rfl

/-- The race goes on with an episode in which these calls were performed. -/
theorem grows {e : Episode} (h : c.Tally withCpu history) (goesOn : e.request ≠ .beginRace)
    (grown : c.Grows d (retraced e.effects))
    (callNo : d.callNo = (e.request.call?.map Call.no).getD c.callNo) :
    d.Tally withCpu (history ++ [e]) := by
  have alone : retracedIn [e] = retraced e.effects := by simp [retracedIn]
  have race : retracedIn (sinceRace (history ++ [e])) =
      retracedIn (sinceRace history) ++ retraced e.effects := by
    rw [sinceRace_concat_of_ne goesOn, retracedIn_append, alone]
  constructor
  case calls => rw [grown.calls, h.calls, race, List.length_append]
  case frames => rw [grown.frames, h.frames, race, List.countP_append]
  case totalCalls => rw [grown.totalCalls, h.totalCalls, retracedIn_append, alone, List.length_append]
  case callNo =>
    rw [callNo, h.callNo, attempted_concat]
    cases e.request.call? with
    | none => simp
    | some call => simp
  case samples =>
    rw [grown.samples, h.samples, race, List.length_append]
    cases withCpu <;> rfl

/-- One request keeps the tally. -/
theorem recount {p : Player} (h : p.counters.Tally withCpu history) (r : Request) (w : σ) :
    Ensures (p.recount b r) w fun (episode, q) _ =>
      episode.request = r ∧ q.counters.Tally withCpu (history ++ [episode]) := by
  refine ⟨rfl, ?_⟩
  cases r with
  | beginRace => exact h.beginRace
  | play c =>
    obtain ⟨k, played, -, effects⟩ := p.play_journaled (b := b) c ⟨w, []⟩
    refine h.grows Request.noConfusion ?_ played.callNo
    change p.counters.Grows _ (retraced (p.play b.journaled c ⟨w, []⟩).2.effects)
    rw [effects, List.nil_append, played.block.retraced_effects]
    exact played.grows
  | handOver =>
    obtain ⟨flushed, effects, none⟩ := b.handOver_journaled ⟨w, []⟩
    refine h.grows Request.noConfusion ?_ rfl
    change p.counters.Grows p.counters (retraced (b.journaled.handOver ⟨w, []⟩).2.effects)
    rw [effects, List.nil_append, none]
    exact .nil rfl

end Counters.Tally

namespace Player

/-- First some requests, and then others. -/
theorem recountAll_append (p : Player) (first more : List Request) :
    p.recountAll b (first ++ more) = (do
      let (history, q) ← p.recountAll b first
      let (history', r) ← q.recountAll b more
      pure (history ++ history', r)) := by
  induction first generalizing p with
  | nil => rfl
  | cons r first ih =>
    simp only [List.cons_append, recountAll, ih]
    rfl

/-- To keep a history changes nothing. -/
theorem serve_recount (p : Player) (r : Request) (w : σ) :
    Ensures (p.recount b r) w fun (_, q) v => p.serve b r w = (q, v) := by
  have mirrors := (Backend.Mirrors.refl b).journaled_left
  cases r with
  | beginRace => exact rfl
  | play c =>
    obtain ⟨same, left⟩ := (mirrors.call c).play p ⟨w, []⟩ w rfl
    exact Prod.ext (congrArg Prod.snd same).symm left.symm
  | handOver => exact Prod.ext rfl (mirrors.handOver ⟨w, []⟩ w rfl).2.symm

theorem serveAll_recountAll (p : Player) (rs : List Request) (w : σ) :
    Ensures (p.recountAll b rs) w fun (_, q) v => p.serveAll b rs w = (q, v) := by
  induction rs generalizing p w with
  | nil => exact rfl
  | cons r rs ih =>
    refine .bind (p.serve_recount r w) ?_
    rintro ⟨_, q⟩ v served
    refine .bind (ih q v) ?_
    rintro ⟨_, q'⟩ v' rest
    refine .pure ?_
    rw [serveAll, bind_apply, served]
    exact rest

/-- Once a call was performed nothing fails. -/
theorem conclude_ne_failed (p : Player) (c : Call) (w : σ) :
    Ensures (p.conclude b c) w fun verdict _ => verdict = .proceed ∨ verdict = .stop := by
  unfold conclude
  split
  · refine .bind (P := fun _ _ => True) trivial ?_
    rintro (_ | _) v -
    · exact .pure (.inl rfl)
    · exact .pure (.inr rfl)
  · exact .pure (.inl rfl)

/-- The player that could not have a call performed. -/
def halted (p : Player) (b : Backend σ) (c : Call) (w : σ) : Player :=
  { p with
    counters := { p.counters with callNo := c.no }
    lastSnapshot? :=
      if p.policy.selects c ∧ c.swapsTarget then some (p.policy.take b (numberBefore c) w).1
      else p.lastSnapshot? }

theorem play_cases (p : Player) (c : Call) (w : σ) :
    Ensures (p.play b c) w fun (verdict, q) _ =>
      verdict = .proceed ∨ verdict = .stop ∨ q = p.halted b c w := by
  have early : Ensures (p.before b c) w fun q _ =>
      { q with counters := q.counters.reach c.no } = p.halted b c w := by
    unfold before halted
    by_cases wanted : p.policy.selects c = true ∧ c.swapsTarget = true
    · rw [if_pos wanted, if_pos (by simpa using wanted)]
      exact rfl
    · rw [if_neg wanted, if_neg (by simpa using wanted)]
      exact rfl
  unfold play
  refine .bind early ?_
  intro q v halted
  refine .bind (P := fun _ _ => True) trivial ?_
  rintro (_ | fault | _) u -
  · refine .bind (P := fun _ _ => True) trivial fun r x _ => ?_
    refine .bind (P := fun _ _ => True) trivial fun r y _ => ?_
    refine .bind (r.conclude_ne_failed c y) ?_
    rintro verdict z (rfl | rfl)
    · exact .pure (.inl rfl)
    · exact .pure (.inr (.inl rfl))
  · exact .pure (.inr (.inr halted))
  · exact .pure (.inr (.inr halted))

end Player

/-- In the journal of a block there is one answer to its call. -/
theorem Block.IsFor.answer_eq {p : Player} {c d : Call} {k : Block} {answer : Performed}
    (h : k.IsFor b p c) (mem : Effect.performed d answer ∈ k.effects) : answer = k.answer := by
  have step : ∀ s ∈ k.shots, Effect.performed d answer ∉ s.effects := fun s taken mem =>
    absurd ((h.taken s taken).2 _ mem) Bool.false_ne_true
  rw [effects, List.mem_append, List.mem_cons, List.mem_append, List.mem_flatMap, List.mem_flatMap,
    List.mem_flatMap] at mem
  obtain ⟨s, early, mem⟩ | same | ⟨s, late, mem⟩ | ⟨dump, -, mem⟩ := mem
  · exact absurd mem (step s (List.mem_append_left _ early))
  · cases same
    rfl
  · exact absurd mem (step s (List.mem_append_right _ late))
  · cases dump <;> simp [DumpAttempt.effects] at mem

/-- What is known of a player that was asked for these requests, one after the other. -/
structure Player.Recounted (b : Backend σ) (start : Player) (withCpu : Bool) (w : σ) (rs : List Request)
    (history : List Episode) (p : Player) (v : σ) : Prop where
  /-- The history is that of these requests, and nothing else comes of keeping it. -/
  requests : history.map Episode.request = rs
  served : start.serveAll b rs w = (p, v)
  tally : p.counters.Tally withCpu history
  /-- More requests never lower the total of calls. -/
  total_le : ∀ more, p.counters.totalCalls ≤ (start.serveAll b (rs ++ more) w).1.counters.totalCalls
  /-- A call that could not be performed leaves its number, and the report of a snapshot step if there was
  one before it. -/
  failed : ∀ c answer, .performed c answer ∈ (p.recount b (.play c) v).1.1.effects → answer ≠ .done →
    (p.serve b (.play c) v).1 = p.halted b c v

namespace Counters.Tally

variable {withCpu : Bool} {history : List Episode}

/-- A run of requests keeps the tally. -/
theorem recountAll {p : Player} (h : p.counters.Tally withCpu history) (rs : List Request) (w : σ) :
    Ensures (p.recountAll b rs) w fun (more, q) _ =>
      more.map Episode.request = rs ∧ q.counters.Tally withCpu (history ++ more) := by
  induction rs generalizing p history w with
  | nil => exact .pure ⟨rfl, (List.append_nil history).symm ▸ h⟩
  | cons r rs ih =>
    refine .bind (h.recount r w) ?_
    rintro ⟨episode, q⟩ v ⟨rfl, tally⟩
    refine .bind (ih tally v) ?_
    rintro ⟨more, q'⟩ v' ⟨rfl, tally'⟩
    refine .pure ⟨rfl, ?_⟩
    rw [List.append_cons]
    exact tally'

end Counters.Tally

theorem Player.serve_of_failed (p : Player) (c : Call) (v : σ) {answer : Performed}
    (asked : .performed c answer ∈ (p.recount b (.play c) v).1.1.effects) (failed : answer ≠ .done) :
    (p.serve b (.play c) v).1 = p.halted b c v := by
  obtain ⟨k, played, verdict, effects⟩ := p.play_journaled (b := b) c ⟨v, []⟩
  have mem : Effect.performed c answer ∈ k.effects := by
    rw [← List.nil_append k.effects, ← effects]
    exact asked
  have undone : k.answer ≠ .done := played.block.answer_eq mem ▸ failed
  have same := ((Backend.Mirrors.refl b).journaled_left.call c).play p ⟨v, []⟩ v rfl
  have ended : (p.play b c v).1.1 = k.verdict := (congrArg Prod.fst same.1).symm.trans verdict
  obtain goesOn | stops | halted := p.play_cases (b := b) c v
  · exact absurd (k.done_of_verdict (.inl (ended.symm.trans goesOn))) undone
  · exact absurd (k.done_of_verdict (.inr (ended.symm.trans stops))) undone
  · exact halted

/-- More requests never lower the total of calls. -/
theorem Player.totalCalls_le_serveAll_append {withCpu : Bool} {history : List Episode} {start p : Player}
    {w v : σ} {rs : List Request} (tally : p.counters.Tally withCpu history)
    (recounted : start.recountAll b rs w = ((history, p), v)) (more : List Request) :
    p.counters.totalCalls ≤ (start.serveAll b (rs ++ more) w).1.counters.totalCalls := by
  have whole : start.recountAll b (rs ++ more) w =
      ((history ++ (p.recountAll b more v).1.1, (p.recountAll b more v).1.2), (p.recountAll b more v).2) := by
    rw [recountAll_append, bind_apply, recounted]
    rfl
  have served := start.serveAll_recountAll (b := b) (rs ++ more) w
  rw [Ensures, whole] at served
  obtain ⟨-, tally'⟩ := tally.recountAll (b := b) more v
  calc
    p.counters.totalCalls = (retracedIn history).length := tally.totalCalls
    _ ≤ (retracedIn (history ++ (p.recountAll b more v).1.1)).length := by
      rw [retracedIn_append, List.length_append]
      exact Nat.le_add_right _ _
    _ = (p.recountAll b more v).1.2.counters.totalCalls := tally'.totalCalls.symm
    _ = (start.serveAll b (rs ++ more) w).1.counters.totalCalls := by rw [served]

/-- After any requests, whatever became of them, the counters are those of the history. -/
theorem counted_from_history (b : Backend σ) (policy : SnapshotPolicy) (dumpAt? : Option UInt32)
    (withCpu : Bool) (w : σ) (rs : List Request) :
    Ensures ((Player.start policy dumpAt? withCpu).recountAll b rs) w fun (history, p) v =>
      Player.Recounted b (.start policy dumpAt? withCpu) withCpu w rs history p v := by
  have fresh : (Player.start policy dumpAt? withCpu).counters.Tally withCpu [] := .start withCpu
  obtain ⟨requests, tally⟩ := fresh.recountAll (b := b) rs w
  exact ⟨requests, Player.serveAll_recountAll _ rs w, tally,
    Player.totalCalls_le_serveAll_append tally rfl, fun c _ => Player.serve_of_failed _ c _⟩

end TraceReplay
