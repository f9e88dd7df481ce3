import RustyDendrite.AxonUtils.Lemmas.Progress
import RustyDendrite.AxonUtils.Lemmas.Shutdown

/-!
# 受信の流れが失敗で終わるとき

受信の流れが失敗で終わるなら、届く状態のどこからでも、系は残りの命令をすべて受け取って処理し、受信ループが
返り、生成器が終わるまで進める。受信ループは、待ち行列がいっぱいなら生成器に空けさせてから結果を送る。
返った後の走りは `Lemmas/Shutdown.lean` の通り有限で、止まった状態ではすべてのコマンドに応答している。
-/

namespace RustyDendrite.AxonUtils

variable {σ : Type} {registry : TheAggregateRegistry σ} {clientId : String}

/-! ## 受信ループの一歩 -/

theorem workerStep_receive {env : Env} {s : System σ} {m : CommandProviderInbound}
    {ms : List CommandProviderInbound} (hw : s.worker = .awaitingMessage) (hm : s.inbound.messages = m :: ms) :
    ∃ s', workerStep registry env s = some s' ∧ s'.received = s.received ++ [m] ∧
      s'.worker.isReturned = false := by
  obtain ⟨⟨ms₀, e⟩, w, client, queue, stream, trace, received, results, taken⟩ := s
  dsimp only at hw hm
  subst hw hm
  refine ⟨_, rfl, rfl, ?_⟩
  cases m.command? <;> rfl

theorem workerStep_return {env : Env} {s : System σ} {status : Status} (hw : s.worker = .awaitingMessage)
    (hm : s.inbound.messages = []) (he : s.inbound.ending = some status) :
    ∃ s', workerStep registry env s = some s' ∧ s'.received = s.received ∧ s'.worker.isReturned = true := by
  obtain ⟨⟨ms₀, e⟩, w, client, queue, stream, trace, received, results, taken⟩ := s
  dsimp only at hw hm he
  subst hw hm he
  exact ⟨_, rfl, rfl, rfl⟩

theorem workerStep_messages_of_isReturned {env : Env} {s s' : System σ}
    (h : workerStep registry env s = some s')
    (hr : s'.worker.isReturned = true) : s'.inbound.messages = [] := by
  rcases workerStep_cases h with ⟨m, ms, -, -, rfl⟩ | ⟨hw, -, -, rfl⟩ | ⟨status, -, hm, -, rfl⟩ |
    ⟨command, -, rfl⟩ | ⟨r, -, -, rfl⟩
  · cases hc : m.command? <;> simp [hc, CommandWorker.isReturned] at hr
  · rw [hw] at hr; cases hr
  · exact hm
  · cases hr
  · cases hr

variable {inbound₀ : Inbound} {client₀ : EventStoreClient σ}

/-- 受信ループが返った届く状態では、受信の流れに命令は残っていない。 -/
theorem Reachable.messages_of_isReturned {s : System σ} (h : Reachable registry clientId inbound₀ client₀ s)
    (hr : s.worker.isReturned = true) : s.inbound.messages = [] := by
  induction h with
  | init => cases hr
  | step _ hs ih =>
    cases hs with
    | worker env h => exact workerStep_messages_of_isReturned h hr
    | stream h =>
      simp only [AxonUtils.streamStep] at h
      split at h <;> obtain ⟨⟨⟩⟩ := h
      exact ih hr

theorem Reachable.messages_eq_append {s s' : System σ} {l : List CommandProviderInbound}
    (h : Reachable registry clientId inbound₀ client₀ s) (h' : Reachable registry clientId inbound₀ client₀ s')
    (hr : s'.received = s.received ++ l) : s.inbound.messages = l ++ s'.inbound.messages := by
  have h₁ := h.systemInv.received
  have h₂ := h'.systemInv.received
  rw [hr, ← h₁, List.append_assoc] at h₂
  exact (List.append_cancel_left h₂).symm

/-! ## 残りの命令を受け取る走り -/

theorem Reachable.awaiting_of_sending {s : System σ} {r : AxonCommandResult}
    (h : Reachable registry clientId inbound₀ client₀ s) (hw : s.worker = .sending r) (env : Env) :
    ∃ s', Relation.ReflTransGen (Step registry clientId) s s' ∧ s'.worker = .awaitingMessage ∧
      s'.received = s.received := by
  obtain ⟨s₁, hrun, hq₁, hw₁, hr₁, -⟩ := @run_drains _ registry clientId s fun hf => (h.systemInv.finished hf).2
  obtain ⟨s₂, hs₂, hw₂, hr₂⟩ := @workerStep_sending _ registry env s₁ r (hw₁.trans hw) hq₁
  exact ⟨s₂, hrun.tail (.worker env hs₂), hw₂, hr₂.trans hr₁⟩

theorem Reachable.awaiting_of_not_isReturned {s : System σ} (h : Reachable registry clientId inbound₀ client₀ s)
    (hr : s.worker.isReturned = false) (env : Env) :
    ∃ s', Relation.ReflTransGen (Step registry clientId) s s' ∧ s'.worker = .awaitingMessage ∧
      s'.received = s.received := by
  rcases hw : s.worker with _ | command | r | code
  · exact ⟨s, .refl, hw, rfl⟩
  · obtain ⟨s₁, hs₁, ⟨r, hw₁⟩, -, hr₁⟩ := @workerStep_handling _ registry env s command hw
    obtain ⟨s', hrun, hw', hr'⟩ := (h.step (.worker env hs₁)).awaiting_of_sending hw₁ env
    exact ⟨s', .head (.worker env hs₁) hrun, hw', hr'.trans hr₁⟩
  · exact h.awaiting_of_sending hw env
  · rw [hw] at hr; cases hr

/-- 受信の流れが失敗で終わるなら、返っていない受信ループは、残りの命令 `ms` をすべて受け取って処理し、
返るところまで進める。 -/
theorem Reachable.returned_of_ending {status : Status} (he : inbound₀.ending = some status) (env : Env) :
    ∀ (ms : List CommandProviderInbound) (s : System σ), Reachable registry clientId inbound₀ client₀ s →
      s.worker.isReturned = false → s.inbound.messages = ms →
      ∃ s', Relation.ReflTransGen (Step registry clientId) s s' ∧ s'.worker.isReturned = true ∧
        s'.received = s.received ++ ms
  | ms, s, h, hr, hm => by
    obtain ⟨s₁, hrun₁, hw₁, hr₁⟩ := h.awaiting_of_not_isReturned hr env
    have h₁ := h.run hrun₁
    have hm₁ : s₁.inbound.messages = ms := by
      rw [← hm, h.messages_eq_append h₁ (by rw [hr₁, List.append_nil]), List.nil_append]
    cases ms with
    | nil =>
      obtain ⟨s₂, hs₂, hr₂, hret⟩ :=
        @workerStep_return _ registry env s₁ status hw₁ hm₁ (h₁.systemInv.ending.trans he)
      exact ⟨s₂, hrun₁.tail (.worker env hs₂), hret, by rw [hr₂, hr₁, List.append_nil]⟩
    | cons m ms =>
      obtain ⟨s₂, hs₂, hr₂, hret₂⟩ := @workerStep_receive _ registry env s₁ m ms hw₁ hm₁
      have h₂ := h₁.step (.worker env hs₂)
      have hm₂ : s₂.inbound.messages = ms := by
        have := h₁.messages_eq_append h₂ hr₂
        rw [hm₁] at this
        exact (List.cons.inj this).2.symm
      obtain ⟨s', hrun, hret, hr'⟩ := Reachable.returned_of_ending he env ms s₂ h₂ hret₂ hm₂
      exact ⟨s', hrun₁.trans (.head (.worker env hs₂) hrun), hret, by simp [hr', hr₂, hr₁]⟩

/-! ## 止まるまでの走り -/

theorem exists_stuck_of_acc {s : System σ} (h : Acc (fun t s => Step registry clientId s t) s) :
    ∃ s', Relation.ReflTransGen (Step registry clientId) s s' ∧ ∀ s'', ¬ Step registry clientId s' s'' := by
  induction h with
  | intro s _ ih =>
    by_cases hs : ∃ t, Step registry clientId s t
    · obtain ⟨t, ht⟩ := hs
      obtain ⟨s', hrun, hstuck⟩ := ih t ht
      exact ⟨s', .head ht hrun, hstuck⟩
    · exact ⟨s, .refl, fun t ht => hs ⟨t, ht⟩⟩

/-- 受信ループが返った届く状態からの走りが止まれば、生成器は終わり、待ち行列は空で、受け取ったすべての
コマンドに届いた順に応答を出している。 -/
theorem Reachable.stopped_of_isReturned {s s' : System σ} (h : Reachable registry clientId inbound₀ client₀ s)
    (hr : s.worker.isReturned = true) (hrun : Relation.ReflTransGen (Step registry clientId) s s')
    (hstuck : ∀ s'', ¬ Step registry clientId s' s'') :
    s'.stream = .finished ∧ s'.queue = [] ∧ s'.received = s.received ∧
      (responses s'.trace).map (·.requestIdentifier) = (commandsOf s.received).map (·.messageIdentifier) := by
  obtain ⟨hw, hrec⟩ := run_of_isReturned hrun hr
  have h' := h.run hrun
  obtain ⟨hf, hq⟩ := h'.systemInv.stuck_of_isReturned (hw ▸ hr) hstuck
  have hidle : s'.worker.inFlight = [] := by
    rw [hw]
    cases hws : s.worker <;> first | rfl | (rw [hws] at hr; cases hr)
  exact ⟨hf, hq, hrec, hrec ▸ h'.answered_of_idle hq hidle⟩

end RustyDendrite.AxonUtils
