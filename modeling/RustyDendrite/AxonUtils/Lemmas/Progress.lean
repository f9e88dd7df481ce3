import RustyDendrite.AxonUtils.Lemmas.Worker

/-!
# 応答を出し終える走り

生成器は `permits` の値で止まらず、待ち行列の結果を順に応答にする。ここから、届く状態のどこからでも、
新しい命令を受け取らずに、受け取ったすべてのコマンドに応答を出し終える走りがあることを導く。
-/

namespace RustyDendrite.AxonUtils

variable {σ : Type} {registry : TheAggregateRegistry σ} {clientId : String}

theorem Step.of_outputStep {s : System σ} {g : OutputStream} {q : List AxonCommandResult}
    {o : Option CommandProviderOutbound}
    (h : outputStep clientId s.worker.isReturned s.stream s.queue = some (g, q, o)) :
    Step registry clientId s
      { s with stream := g, queue := q, trace := s.trace ++ o.toList,
               taken := s.taken ++ s.stream.dequeued s.queue } :=
  .stream (by simp [streamStep, h])

theorem Reachable.run {inbound : Inbound} {client : EventStoreClient σ} {s s' : System σ}
    (h : Reachable registry clientId inbound client s)
    (hrun : Relation.ReflTransGen (Step registry clientId) s s') :
    Reachable registry clientId inbound client s' := by
  induction hrun with
  | refl => exact h
  | tail _ hs ih => exact ih.step hs

theorem run_trace_isPrefix {s s' : System σ} (hrun : Relation.ReflTransGen (Step registry clientId) s s') :
    s.trace <+: s'.trace := by
  induction hrun with
  | refl => exact List.prefix_refl _
  | tail _ hs ih => exact ih.trans hs.trace_isPrefix

/-! ## 応答を出さない走り -/

/-- `s'` には、応答を出さず、待ち行列も受信ループも変えない走りで届く。 -/
def Quiet (registry : TheAggregateRegistry σ) (clientId : String) (s s' : System σ) : Prop :=
  Relation.ReflTransGen (Step registry clientId) s s' ∧ s'.queue = s.queue ∧ s'.worker = s.worker ∧
    s'.received = s.received ∧ responses s'.trace = responses s.trace

theorem Quiet.refl (s : System σ) : Quiet registry clientId s s :=
  ⟨.refl, rfl, rfl, rfl, rfl⟩

theorem Quiet.trans {s₁ s₂ s₃ : System σ} (h₁ : Quiet registry clientId s₁ s₂)
    (h₂ : Quiet registry clientId s₂ s₃) : Quiet registry clientId s₁ s₃ :=
  ⟨h₁.1.trans h₂.1, h₂.2.1.trans h₁.2.1, h₂.2.2.1.trans h₁.2.2.1, h₂.2.2.2.1.trans h₁.2.2.2.1,
    h₂.2.2.2.2.trans h₁.2.2.2.2⟩

theorem Quiet.of_outputStep {s : System σ} {g : OutputStream} {o : Option CommandProviderOutbound}
    (h : outputStep clientId s.worker.isReturned s.stream s.queue = some (g, s.queue, o))
    (ho : responses o.toList = []) : ∃ s', Quiet registry clientId s s' ∧ s'.stream = g :=
  ⟨_, ⟨.single (Step.of_outputStep h), rfl, rfl, rfl, by simp [ho]⟩, rfl⟩

theorem quiet_from_subscribing (rest : List String) (s : System σ) (hs : s.stream = .subscribing rest) :
    ∃ s', Quiet registry clientId s s' ∧ s'.stream = .receiving (permitsBatchSize * 2) := by
  induction rest generalizing s with
  | nil => exact Quiet.of_outputStep (by rw [hs]; rfl) (by simp [flowControl])
  | cons c rest ih =>
    obtain ⟨s₁, hq, hg⟩ :=
      @Quiet.of_outputStep _ registry clientId s _ _ (by rw [hs]; rfl) (by simp [subscribeTo])
    obtain ⟨s₂, hq', hg'⟩ := ih s₁ hg
    exact ⟨s₂, hq.trans hq', hg'⟩

/-- 終わっていない生成器は、応答を出さずに受信まで進める。 -/
theorem quiet_to_receiving (s : System σ) (hs : s.stream ≠ .finished) :
    ∃ s' p, Quiet registry clientId s s' ∧ s'.stream = .receiving p := by
  rcases hst : s.stream with rest | p | p | p | _
  · obtain ⟨s', hq, hg⟩ := @quiet_from_subscribing _ registry clientId rest s hst
    exact ⟨s', _, hq, hg⟩
  · exact ⟨s, p, .refl s, hst⟩
  · by_cases hp : p - 1 ≤ permitsBatchSize
    · obtain ⟨s₁, hq, hg⟩ := @Quiet.of_outputStep _ registry clientId s (.granted (p - 1))
        (some (flowControl clientId permitsBatchSize)) (by rw [hst]; simp [outputStep, hp])
        (by simp [flowControl])
      obtain ⟨s₂, hq', hg'⟩ := @Quiet.of_outputStep _ registry clientId s₁
        (.receiving (p - 1 + permitsBatchSize)) none (by rw [hg]; rfl) rfl
      exact ⟨s₂, _, hq.trans hq', hg'⟩
    · obtain ⟨s₁, hq, hg⟩ := @Quiet.of_outputStep _ registry clientId s (.receiving (p - 1)) none
        (by rw [hst]; simp [outputStep, hp]) rfl
      exact ⟨s₁, _, hq, hg⟩
  · obtain ⟨s₁, hq, hg⟩ := @Quiet.of_outputStep _ registry clientId s (.receiving (p + permitsBatchSize)) none
      (by rw [hst]; rfl) rfl
    exact ⟨s₁, _, hq, hg⟩
  · exact absurd hst hs

/-! ## 待ち行列を空にする走り -/

theorem step_respond {s : System σ} {p : Int} {r : AxonCommandResult} {q : List AxonCommandResult}
    (hs : s.stream = .receiving p) (hq : s.queue = r :: q) :
    ∃ s', Step registry clientId s s' ∧ s'.stream = .responded p ∧ s'.queue = q ∧ s'.worker = s.worker ∧
      s'.received = s.received ∧ responses s'.trace = responses s.trace ++ [r.toCommandResponse] :=
  ⟨_, @Step.of_outputStep _ registry clientId s (.responded p) q (some (.commandResponse r.toCommandResponse))
    (by rw [hs, hq]; rfl), rfl, rfl, rfl, rfl, by simp⟩

theorem run_drains_receiving (q : List AxonCommandResult) (s : System σ) (p : Int)
    (hs : s.stream = .receiving p) (hq : s.queue = q) :
    ∃ s', Relation.ReflTransGen (Step registry clientId) s s' ∧ s'.queue = [] ∧ s'.worker = s.worker ∧
      s'.received = s.received ∧ responses s'.trace = responses s.trace ++ q.map (·.toCommandResponse) := by
  induction q generalizing s p with
  | nil => exact ⟨s, .refl, hq, rfl, rfl, by simp⟩
  | cons r q ih =>
    obtain ⟨s₁, h₁, hs₁, hq₁, hw₁, hr₁, hresp₁⟩ := @step_respond _ registry clientId s p r q hs hq
    obtain ⟨s₂, p', ⟨hrun, hq₂, hw₂, hr₂, hresp₂⟩, hg₂⟩ :=
      @quiet_to_receiving _ registry clientId s₁ (by rw [hs₁]; nofun)
    obtain ⟨s', hrun', hq', hw, hr, hresp'⟩ := ih s₂ p' hg₂ (by rw [hq₂, hq₁])
    refine ⟨s', (Relation.ReflTransGen.single h₁).trans (hrun.trans hrun'), hq', by rw [hw, hw₂, hw₁],
      by rw [hr, hr₂, hr₁], ?_⟩
    rw [hresp', hresp₂, hresp₁]
    simp

/-- 生成器は、終わっていても終わっていなくても、待ち行列を空にできる。 -/
theorem run_drains (s : System σ) (hfin : s.stream = .finished → s.queue = []) :
    ∃ s', Relation.ReflTransGen (Step registry clientId) s s' ∧ s'.queue = [] ∧ s'.worker = s.worker ∧
      s'.received = s.received ∧
        responses s'.trace = responses s.trace ++ s.queue.map (·.toCommandResponse) := by
  by_cases hf : s.stream = .finished
  · exact ⟨s, .refl, hfin hf, rfl, rfl, by simp [hfin hf]⟩
  obtain ⟨s₁, p, ⟨hrun, hq₁, hw₁, hr₁, hresp₁⟩, hg₁⟩ := @quiet_to_receiving _ registry clientId s hf
  obtain ⟨s', hrun', hq', hw, hr, hresp'⟩ := @run_drains_receiving _ registry clientId s.queue s₁ p hg₁ hq₁
  exact ⟨s', hrun.trans hrun', hq', hw.trans hw₁, hr.trans hr₁, by rw [hresp', hresp₁]⟩

/-! ## 受信ループの走り -/

theorem workerStep_handling {env : Env} {s : System σ} {command : Command} (hw : s.worker = .handling command) :
    ∃ s', workerStep registry env s = some s' ∧ (∃ r, s'.worker = .sending r) ∧ s'.queue = s.queue ∧
      s'.received = s.received := by
  obtain ⟨inbound, worker, client, queue, stream, trace, received, results, taken⟩ := s
  subst hw
  exact ⟨_, rfl, ⟨_, rfl⟩, rfl, rfl⟩

theorem workerStep_sending {env : Env} {s : System σ} {r : AxonCommandResult} (hw : s.worker = .sending r)
    (hq : s.queue = []) :
    ∃ s', workerStep registry env s = some s' ∧ s'.worker = .awaitingMessage ∧ s'.received = s.received := by
  obtain ⟨inbound, worker, client, queue, stream, trace, received, results, taken⟩ := s
  subst hw hq
  exact ⟨_, rfl, rfl, rfl⟩

/-! ## 応答を出し終える走り -/

variable {inbound : Inbound} {client : EventStoreClient σ}

theorem Reachable.answered_of_idle {s : System σ} (h : Reachable registry clientId inbound client s)
    (hq : s.queue = []) (hw : s.worker.inFlight = []) :
    (responses s.trace).map (·.requestIdentifier) = (commandsOf s.received).map (·.messageIdentifier) := by
  simpa [hq, hw] using h.systemInv.correlation

theorem Reachable.answered_of_sending {s : System σ} {r : AxonCommandResult}
    (h : Reachable registry clientId inbound client s) (hq : s.queue = []) (hw : s.worker = .sending r)
    (env : Env) :
    ∃ s', Relation.ReflTransGen (Step registry clientId) s s' ∧ s'.received = s.received ∧
      (responses s'.trace).map (·.requestIdentifier) = (commandsOf s.received).map (·.messageIdentifier) := by
  obtain ⟨s₁, hs₁, hw₁, hr₁⟩ := @workerStep_sending _ registry env s r hw hq
  have h₁ := h.step (.worker env hs₁)
  obtain ⟨s', hrun, hq', hw', hr', -⟩ :=
    @run_drains _ registry clientId s₁ fun hf => (h₁.systemInv.finished hf).2
  have hr : s'.received = s.received := hr'.trans hr₁
  exact ⟨s', .head (.worker env hs₁) hrun, hr, hr ▸ (h₁.run hrun).answered_of_idle hq' (by rw [hw', hw₁]; rfl)⟩

/-- 待ち行列が空の届く状態からは、受信ループが処理中のコマンドを終えて、受け取ったコマンドにすべて応答する
走りがある。 -/
theorem Reachable.answered_of_empty_queue {s : System σ} (h : Reachable registry clientId inbound client s)
    (hq : s.queue = []) (env : Env) :
    ∃ s', Relation.ReflTransGen (Step registry clientId) s s' ∧ s'.received = s.received ∧
      (responses s'.trace).map (·.requestIdentifier) = (commandsOf s.received).map (·.messageIdentifier) := by
  rcases hw : s.worker with _ | command | r | code
  · exact ⟨s, .refl, rfl, h.answered_of_idle hq (by rw [hw]; rfl)⟩
  · obtain ⟨s₁, hs₁, ⟨r, hw₁⟩, hq₁, hr₁⟩ := @workerStep_handling _ registry env s command hw
    obtain ⟨s', hrun, hr, hans⟩ := (h.step (.worker env hs₁)).answered_of_sending (hq₁.trans hq) hw₁ env
    exact ⟨s', .head (.worker env hs₁) hrun, hr.trans hr₁, by rw [hans, hr₁]⟩
  · exact h.answered_of_sending hq hw env
  · exact ⟨s, .refl, rfl, h.answered_of_idle hq (by rw [hw]; rfl)⟩

/-- 届く状態のどこからでも、新しい命令を受け取らずに、受け取ったすべてのコマンドに届いた順に一つずつ応答を
出し終える走りがある。待ち行列の結果も、受信ループが処理中か送ろうとしているコマンドも応答になり、
出した命令は消えない。 -/
theorem Reachable.exists_answered {s : System σ} (h : Reachable registry clientId inbound client s) (env : Env) :
    ∃ s', Relation.ReflTransGen (Step registry clientId) s s' ∧ s'.received = s.received ∧ s.trace <+: s'.trace ∧
      (responses s'.trace).map (·.requestIdentifier) = (commandsOf s.received).map (·.messageIdentifier) := by
  obtain ⟨s₁, hrun₁, hq₁, -, hr₁, -⟩ := @run_drains _ registry clientId s fun hf => (h.systemInv.finished hf).2
  obtain ⟨s', hrun, hr, hans⟩ := (h.run hrun₁).answered_of_empty_queue hq₁ env
  exact ⟨s', hrun₁.trans hrun, hr.trans hr₁, run_trace_isPrefix (hrun₁.trans hrun), by rw [hans, hr₁]⟩

end RustyDendrite.AxonUtils
