import RustyDendrite.AxonUtils.Lemmas.Worker

/-!
# 受信ループが返った後

受信ループが返ると送り手 `tx` が落ち、その後に進むのは生成器だけである。生成器の残りの仕事の量
`System.rank` は一歩ごとに減るので、どの走りも有限で終わる。止まった状態では、生成器は終わり、
待ち行列は空である。
-/

namespace RustyDendrite.AxonUtils

/-- 送り手が落ちて待ち行列が空のとき、生成器が終わるまでの一歩の数の上界。 -/
def OutputStream.rank : OutputStream → Nat
  | .subscribing rest => rest.length + 2
  | .receiving _ => 1
  | .responded _ => 3
  | .granted _ => 2
  | .finished => 0

theorem outputStep_rank_lt {clientId : String} {closed : Bool} {g g' : OutputStream}
    {q q' : List AxonCommandResult} {o : Option CommandProviderOutbound}
    (h : outputStep clientId closed g q = some (g', q', o)) :
    g'.rank + 3 * q'.length < g.rank + 3 * q.length := by
  rcases outputStep_cases h with ⟨_, _, rfl, rfl, rfl, -⟩ | ⟨rfl, rfl, rfl, -⟩ | ⟨_, _, rfl, rfl, rfl, -⟩ |
    ⟨_, rfl, rfl, -, rfl, rfl, -⟩ | ⟨_, rfl, -, rfl, rfl, -⟩ | ⟨_, rfl, -, rfl, rfl, -⟩ |
    ⟨_, rfl, rfl, rfl, -⟩ <;>
    simp only [OutputStream.rank, List.length_cons, List.length_nil] <;> omega

variable {σ : Type} {registry : TheAggregateRegistry σ} {clientId : String}

/-- 系の残りの仕事の量。 -/
def System.rank (s : System σ) : Nat :=
  s.stream.rank + 3 * s.queue.length

theorem workerStep_of_isReturned {env : Env} {s : System σ} (hr : s.worker.isReturned = true) :
    workerStep registry env s = none := by
  obtain ⟨inbound, w, client, queue, stream, trace, received, results, taken⟩ := s
  cases w <;> first | rfl | cases hr

/-- 受信ループが返った後の一歩は生成器の一歩で、受信ループと受け取った命令を変えず、残りの仕事の量を減らす。 -/
theorem Step.of_isReturned {s s' : System σ} (hs : Step registry clientId s s')
    (hr : s.worker.isReturned = true) :
    s'.worker = s.worker ∧ s'.received = s.received ∧ s'.rank < s.rank := by
  cases hs with
  | worker env h => rw [workerStep_of_isReturned hr] at h; cases h
  | stream h =>
    simp only [AxonUtils.streamStep] at h
    split at h <;> obtain ⟨⟨⟩⟩ := h
    exact ⟨rfl, rfl, outputStep_rank_lt ‹_›⟩

theorem acc_of_isReturned : ∀ (n : Nat) (s : System σ), s.rank < n → s.worker.isReturned = true →
    Acc (fun t s => Step registry clientId s t) s
  | 0, _, hn, _ => absurd hn (Nat.not_lt_zero _)
  | n + 1, s, hn, hr => .intro s fun t hs => by
      obtain ⟨hw, -, hlt⟩ := hs.of_isReturned hr
      exact acc_of_isReturned n t (by omega) (hw ▸ hr)

/-- `Acc` な状態からは、無限に続く走りはない。 -/
theorem not_infinite_of_acc {s : System σ} (h : Acc (fun t s => Step registry clientId s t) s) :
    ¬ ∃ run : Nat → System σ, run 0 = s ∧ ∀ n, Step registry clientId (run n) (run (n + 1)) := by
  induction h with
  | intro s _ ih =>
    rintro ⟨run, rfl, hrun⟩
    exact ih (run 1) (hrun 0) ⟨fun n => run (n + 1), rfl, fun n => hrun (n + 1)⟩

theorem run_of_isReturned {s s' : System σ} (hrun : Relation.ReflTransGen (Step registry clientId) s s')
    (hr : s.worker.isReturned = true) : s'.worker = s.worker ∧ s'.received = s.received := by
  induction hrun with
  | refl => exact ⟨rfl, rfl⟩
  | tail _ hs ih =>
    obtain ⟨hw, hrec, -⟩ := hs.of_isReturned (ih.1 ▸ hr)
    exact ⟨hw.trans ih.1, hrec.trans ih.2⟩

theorem SystemInv.stuck_of_isReturned {commands : List String} {inbound₀ : Inbound} {s : System σ}
    (hi : SystemInv commands clientId inbound₀ s) (hr : s.worker.isReturned = true)
    (hstuck : ∀ s', ¬ Step registry clientId s s') : s.stream = .finished ∧ s.queue = [] := by
  rcases hs : AxonUtils.streamStep clientId s with _ | s'
  · rcases outputStep_eq_none (streamStep_eq_none hs) with hf | ⟨-, -, hc⟩
    · exact ⟨hf, (hi.finished hf).2⟩
    · rw [hr] at hc; cases hc
  · exact absurd (.stream hs) (hstuck s')

/-! ## 受信ループが返らないとき -/

/-- 受信ループが返っていない届く状態では、系はいつでも一歩進める。受信ループが待ち行列がいっぱいで送れ
なくても、生成器が結果を受け取れる。 -/
theorem SystemInv.exists_step {commands : List String} {inbound₀ : Inbound} {s : System σ}
    (hi : SystemInv commands clientId inbound₀ s) (hr : s.worker.isReturned = false) (env : Env) :
    ∃ s', Step registry clientId s s' := by
  rcases hw : AxonUtils.workerStep registry env s with _ | s'
  · rcases workerStep_eq_none hw with hret | ⟨_, -, hfull⟩
    · rw [hr] at hret; cases hret
    rcases hs : AxonUtils.streamStep clientId s with _ | s'
    · rcases outputStep_eq_none (streamStep_eq_none hs) with hf | ⟨-, hq, -⟩
      · rw [(hi.finished hf).1] at hr; cases hr
      · rw [hq] at hfull; cases hfull
    · exact ⟨s', .stream hs⟩
  · exact ⟨s', .worker env hw⟩

end RustyDendrite.AxonUtils
