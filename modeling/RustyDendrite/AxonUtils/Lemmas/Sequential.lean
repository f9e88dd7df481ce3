import RustyDendrite.AxonUtils.Lemmas.Worker

/-!
# 順に処理する受信ループ

受信ループと生成器がどう入り混じっても、受信ループの結果とイベントストアのクライアントの状態は、
受け取ったコマンドを届いた順に一つずつ、前のコマンドが残したクライアントで振り分けたものに等しい。
生成器はクライアントを読まず書かないので、入り混じり方は結果に影響しない。
-/

namespace RustyDendrite.AxonUtils

variable {σ : Type}

/-- 受け取って、まだ振り分けていないコマンド。 -/
def CommandWorker.unhandled : CommandWorker → List Command
  | .handling command => [command]
  | _ => []

/-- コマンドを、それぞれの `Env` で順に振り分けた結果と、最後のクライアント。 -/
def handleInOrder (mapping : HashMap String) (registry : TheAggregateRegistry σ) (steps : List (Env × Command))
    (client : EventStoreClient σ) : List AxonCommandResult × EventStoreClient σ :=
  steps.foldl (fun acc step =>
      let handled := dispatch mapping registry step.1 step.2 acc.2
      (acc.1 ++ [{ messageIdentifier := step.2.messageIdentifier, result := handled.1 }], handled.2))
    ([], client)

@[simp] theorem handleInOrder_nil (mapping : HashMap String) (registry : TheAggregateRegistry σ)
    (client : EventStoreClient σ) : handleInOrder mapping registry [] client = ([], client) :=
  rfl

theorem handleInOrder_append_singleton (mapping : HashMap String) (registry : TheAggregateRegistry σ)
    (steps : List (Env × Command)) (env : Env) (command : Command) (client : EventStoreClient σ) :
    handleInOrder mapping registry (steps ++ [(env, command)]) client =
      ((handleInOrder mapping registry steps client).1 ++
          [{ messageIdentifier := command.messageIdentifier,
             result :=
              (dispatch mapping registry env command (handleInOrder mapping registry steps client).2).1 }],
        (dispatch mapping registry env command (handleInOrder mapping registry steps client).2).2) := by
  simp only [handleInOrder, List.foldl_append, List.foldl_cons, List.foldl_nil]

section Steps

variable {registry : TheAggregateRegistry σ} {clientId : String} {client₀ : EventStoreClient σ}

/-- 結果とクライアントは、受け取ったコマンドのうち振り分けを終えたものを順に振り分けたものである。 -/
def HandledInOrder (registry : TheAggregateRegistry σ) (client₀ : EventStoreClient σ) (s : System σ) : Prop :=
  ∃ steps : List (Env × Command), commandsOf s.received = steps.map (·.2) ++ s.worker.unhandled ∧
    handleInOrder (registry.register [] ∅).2 registry steps client₀ = (s.results, s.client)

theorem HandledInOrder.init (inbound : Inbound) :
    HandledInOrder registry client₀ (System.init registry inbound client₀) :=
  ⟨[], rfl, rfl⟩

theorem HandledInOrder.workerStep {env : Env} {s s' : System σ} (hi : HandledInOrder registry client₀ s)
    (h : workerStep registry env s = some s') : HandledInOrder registry client₀ s' := by
  obtain ⟨steps, hc, hr⟩ := hi
  rcases workerStep_cases h with ⟨m, ms, hw, -, rfl⟩ | ⟨-, -, -, rfl⟩ | ⟨status, hw, -, -, rfl⟩ |
    ⟨command, hw, rfl⟩ | ⟨r, hw, -, rfl⟩
  · refine ⟨steps, ?_, hr⟩
    rw [hw] at hc
    cases hm : m.command? <;> simp [hc, hm, CommandWorker.unhandled]
  · exact ⟨steps, hc, hr⟩
  · exact ⟨steps, by simpa [hw, CommandWorker.unhandled] using hc, hr⟩
  · refine ⟨steps ++ [(env, command)], by simpa [hw, CommandWorker.unhandled] using hc, ?_⟩
    rw [handleInOrder_append_singleton, hr]
  · exact ⟨steps, by simpa [hw, CommandWorker.unhandled] using hc, hr⟩

theorem HandledInOrder.streamStep {s s' : System σ} (hi : HandledInOrder registry client₀ s)
    (h : streamStep clientId s = some s') : HandledInOrder registry client₀ s' := by
  simp only [AxonUtils.streamStep] at h
  split at h <;> obtain ⟨⟨⟩⟩ := h
  exact hi

theorem Reachable.handledInOrder {inbound : Inbound} {s : System σ}
    (h : Reachable registry clientId inbound client₀ s) : HandledInOrder registry client₀ s := by
  induction h with
  | init => exact HandledInOrder.init inbound
  | step _ hs ih =>
    cases hs with
    | worker env h => exact ih.workerStep h
    | stream h => exact ih.streamStep h

end Steps

/-! ## 出した応答 -/

section Responses

variable {commands : List String} {clientId : String} {inbound₀ : Inbound} {s : System σ}

/-- 出した応答は、処理の結果の始めの部分の応答である。 -/
theorem SystemInv.responses_isPrefix (hi : SystemInv commands clientId inbound₀ s) :
    responses s.trace <+: s.results.map (·.toCommandResponse) := by
  rw [hi.responses_eq, hi.queue, List.append_assoc, List.map_append]
  exact List.prefix_append _ _

theorem expectedTrace_isPrefix {k k' : List AxonCommandResult} (h : k <+: k') :
    expectedTrace clientId commands k <+: expectedTrace clientId commands k' := by
  obtain ⟨l, rfl⟩ := h
  induction l using List.reverseRecOn with
  | nil => rw [List.append_nil]
  | append_singleton l r ih =>
    rw [← List.append_assoc, expectedTrace_append_singleton]
    exact ih.trans (List.prefix_append _ _)

/-- 出した命令は、受信ループが出したすべての結果に対する仕様の列の始まりである。 -/
theorem SystemInv.trace_isPrefix (hi : SystemInv commands clientId inbound₀ s) :
    s.trace <+: expectedTrace clientId commands s.results := by
  refine hi.stream.isPrefixOf.trans (expectedTrace_isPrefix ?_)
  rw [hi.queue, List.append_assoc]
  exact List.prefix_append _ _

theorem SystemInv.received_isPrefix (hi : SystemInv commands clientId inbound₀ s) :
    s.received <+: inbound₀.messages :=
  ⟨_, hi.received⟩

end Responses

end RustyDendrite.AxonUtils
