import RustyDendrite.AxonUtils.Lemmas.OutputStream
import RustyDendrite.AxonUtils.Lemmas.Worker
import RustyDendrite.AxonUtils.Lemmas.Progress
import RustyDendrite.AxonUtils.Lemmas.Pipeline
import RustyDendrite.AxonUtils.Lemmas.Registry
import RustyDendrite.AxonUtils.Lemmas.Sequence
import RustyDendrite.AxonUtils.Lemmas.Sequential
import RustyDendrite.AxonUtils.Lemmas.Shutdown
import RustyDendrite.AxonUtils.Lemmas.Completion
import RustyDendrite.AxonUtils.Lemmas.Writes

/-!
# 主な結果

証明に使う補題は `Lemmas/` に置く。
-/

namespace RustyDendrite.AxonUtils

/-! ## 例に使う集約と命令 -/

/-- 数を数える集約。`"Increment"` は識別子を名前から取り出し、`"Create"` は応答 `"Created"` から取り出す。
どちらも `"Incremented"` を一つ出し、射影はその数を数える。 -/
def counterAggregate : AggregateDefinition Nat where
  projectionName := "Counter"
  emptyProjection _ := 0
  aggregateIdExtractorRegistry :=
    ⟨[⟨"Increment", ⟨fun _ _ => .ok (some "a")⟩⟩, ⟨"Created", ⟨fun _ _ => .ok (some "a")⟩⟩].toAList⟩
  commandHandlerRegistry :=
    ⟨[⟨"Increment", ⟨fun _ _ => .ok (some ⟨[("Incremented", ⟨[]⟩)], none⟩)⟩⟩,
      ⟨"Create", ⟨fun _ _ => .ok (some ⟨[("Incremented", ⟨[]⟩)], some ⟨"Created", "", []⟩⟩)⟩⟩].toAList⟩
  sourcingHandlerRegistry := ⟨[⟨"Incremented", ⟨fun _ p => .ok (some (p + 1))⟩⟩].toAList⟩

/-- 集約 `"a"` の二つのイベントの履歴。 -/
def counterHistory : List Event :=
  [⟨"m0", 0, "a", 0, "Greeting", some ⟨"Incremented", "", []⟩, false⟩,
    ⟨"m1", 0, "a", 1, "Greeting", some ⟨"Incremented", "", []⟩, false⟩]

/-- 数を数える集約のコマンドのハンドラは、一度に一つのイベントを出す。 -/
theorem counterAggregate_emits_one {name : String}
    {handler : SubscriptionHandle Nat (EmitApplicableEventsAndResponse Nat)} {data : Bytes} {projection : Nat}
    {o : EmitApplicableEventsAndResponse Nat}
    (hh : counterAggregate.commandHandlerRegistry.get name = some handler)
    (ho : handler.handle data projection = .ok (some o)) : o.events.length ≤ 1 := by
  simp only [counterAggregate, TheHandlerRegistry.get, List.toAList, AList.lookup, List.dlookup_dedupKeys,
    List.dlookup] at hh
  split_ifs at hh with h₁ h₂
  · subst h₁; obtain ⟨⟨⟩⟩ := hh; obtain ⟨⟨⟩⟩ := ho; decide
  · subst h₂; obtain ⟨⟨⟩⟩ := hh; obtain ⟨⟨⟩⟩ := ho; decide

/-- コマンド `name` を識別子 `id` で運ぶ命令。中身は空のバイト列。 -/
def commandInbound (name id : String) : CommandProviderInbound :=
  ⟨some (.command ⟨name, id, some ⟨name, "", []⟩⟩)⟩

/-- 二つの `"Increment"` コマンド `"i1"`、`"i2"` を運び、閉じて終わる受信の流れ。 -/
def counterInbound : Inbound :=
  ⟨[commandInbound "Increment" "i1", commandInbound "Increment" "i2"], none⟩

/-- 数を数える集約の登録簿で、購読二つと最初の許可を出し、`"i1"` と `"i2"` をそれぞれ受け取り、処理し、
待ち行列に入れて、応答する順番。 -/
def counterTurns : List Turn :=
  [.stream, .stream, .stream, .worker ⟨"e", 0⟩, .worker ⟨"e", 0⟩, .worker ⟨"e", 0⟩, .stream, .stream,
    .worker ⟨"e", 0⟩, .worker ⟨"e", 0⟩, .worker ⟨"e", 0⟩, .stream]

/-! ## 生成器の出す命令と `permits` -/

/-- 結果を `n` 個待ち行列に入れて生成器を進めると、購読、最初の許可 6、応答と三つごとの許可 3 を
この順に出し、受信で止まる。届く状態ではいつでも、出した命令は仕様の列の始まりで、`permits` は
3 から 6 の間にある。`permits` が許可の和と応答の数の差に等しいのは、ループの頭と、`yield` の後の
文を走らせた後である。応答の `yield` の後では 1 だけ大きく、許可の追加の `yield` の後では 3 だけ小さい。 -/
theorem output_stream_schedule (clientId : String) (commands : List String) :
    (∀ (results : List AxonCommandResult) (fuel : Nat), commands.length + 1 + 3 * results.length ≤ fuel →
      drain clientId fuel (.subscribing commands, results, []) =
        (.receiving (6 - (results.length % 3 : Nat)), [], expectedTrace clientId commands results)) ∧
    ∀ g q t k, OutputReachable clientId commands g q t k →
      t <+: expectedTrace clientId commands k ∧
      (∀ p, g.permits? = some p → 3 ≤ p ∧ p ≤ 6) ∧
      (∀ p, g = .receiving p →
        p = grantedPermits t - (responses t).length ∧ p = 6 - ((responses t).length % 3 : Nat)) ∧
      (∀ p, g = .responded p → p - 1 = grantedPermits t - (responses t).length) ∧
      (∀ p, g = .granted p → p + 3 = grantedPermits t - (responses t).length) := by
  refine ⟨fun results fuel h => drain_init results fuel h, fun g q t k h => ?_⟩
  have hi := h.outInv
  refine ⟨hi.isPrefixOf, fun p hp => hi.permits_bounds hp, ?_, ?_, ?_⟩
  · rintro p rfl; exact hi.receiving_permits
  · rintro p rfl; exact hi.responded_permits
  · rintro p rfl; exact hi.granted_permits

theorem output_stream_schedule_after_one_response :
    drain "" 4 (.subscribing [], [⟨"m", .ok none⟩], []) =
        (.receiving 5, [], expectedTrace "" [] [⟨"m", .ok none⟩]) ∧
      ∃ t, OutputReachable "" [] (.responded 6) [] t [⟨"m", .ok none⟩] ∧ (responses t).length = 1 ∧
        t <+: expectedTrace "" [] [⟨"m", .ok none⟩] ∧ (6 : Int) - 1 = grantedPermits t - (responses t).length := by
  have hr := (((@OutputReachable.init "" []).arrive ⟨"m", .ok none⟩).step false rfl).step false rfl
  obtain ⟨hdrain, hreach⟩ := output_stream_schedule "" []
  obtain ⟨hp, -, -, hresp, -⟩ := hreach _ _ _ _ hr
  exact ⟨hdrain _ 4 (by decide), _, hr, rfl, hp, hresp 6 rfl⟩

/-- 最初の応答を出して止まった生成器では、`permits` はまだ 6 で、許可の和と応答の数の差は 5 である。 -/
theorem permits_lag_after_response :
    ¬ ∀ g q t k, OutputReachable "" [] g q t k →
      ∀ p, g.permits? = some p → p = grantedPermits t - (responses t).length := by
  intro h
  have hr := (((@OutputReachable.init "" []).arrive
    ⟨"m", .ok none⟩).step false rfl).step false rfl
  have := h _ _ _ _ hr 6 rfl
  simp [outputStep, permitsBatchSize, flowControl, AxonCommandResult.toCommandResponse] at this

/-! ## 要求と応答の対応 -/

/-- 受信ループと生成器がどう入り混じっても、届く状態ではいつでも、出した応答の `request_identifier`、
待ち行列の結果の識別子、受信ループが処理中か送ろうとしているコマンドの識別子をこの順に並べると、
受け取ったコマンドの識別子を届いた順に並べたものになる。待ち行列は容量を越えず、`i` 番目の応答は
`i` 番目の処理の結果を伝えている。そしてどの届く状態からも、新しい命令を受け取らずに、出した命令を消さずに
進んで、受け取ったコマンドのそれぞれにちょうど一つずつ、届いた順に応答を出し終える走りがある。 -/
theorem command_responses_correlate {σ : Type} (registry : TheAggregateRegistry σ) (clientId : String)
    (inbound : Inbound) (client : EventStoreClient σ) (s : System σ)
    (h : Reachable registry clientId inbound client s) (env : Env) :
    (responses s.trace).map (·.requestIdentifier) ++ s.queue.map (·.messageIdentifier) ++
        s.worker.inFlight = (commandsOf s.received).map (·.messageIdentifier) ∧
      s.queue.length ≤ channelCapacity ∧
      (∀ (i : Nat) (response : CommandResponse), (responses s.trace)[i]? = some response →
        ∃ r : AxonCommandResult, s.results[i]? = some r ∧ response.requestIdentifier = r.messageIdentifier ∧
          ResponseCarries r.result response) ∧
      ∃ s', Relation.ReflTransGen (Step registry clientId) s s' ∧ s'.received = s.received ∧
        s.trace <+: s'.trace ∧
        (responses s'.trace).map (·.requestIdentifier) = (commandsOf s.received).map (·.messageIdentifier) := by
  have hi := h.systemInv
  refine ⟨hi.correlation, hi.capacity, fun i response hr => ?_, h.exists_answered env⟩
  obtain ⟨r, hres, rfl⟩ := hi.response_result hr
  exact ⟨r, hres, r.toCommandResponse_requestIdentifier, r.toCommandResponse_carries⟩

/-- `"i1"` に応答し、`"i2"` を処理している状態。 -/
theorem command_responses_correlate_mid_run :
    ∃ s : System (List Event),
      Reachable (registryOf memoryStore [⟨Nat, counterAggregate⟩]) "" counterInbound ⟨[], []⟩ s ∧
      (responses s.trace).map (·.requestIdentifier) = ["i1"] ∧ s.queue = [] ∧ s.worker.inFlight = ["i2"] ∧
      ((responses s.trace).map (·.requestIdentifier) ++ s.queue.map (·.messageIdentifier) ++
          s.worker.inFlight = (commandsOf s.received).map (·.messageIdentifier) ∧
        s.queue.length ≤ channelCapacity ∧
        (∀ (i : Nat) (response : CommandResponse), (responses s.trace)[i]? = some response →
          ∃ r : AxonCommandResult, s.results[i]? = some r ∧ response.requestIdentifier = r.messageIdentifier ∧
            ResponseCarries r.result response) ∧
        ∃ s', Relation.ReflTransGen (Step (registryOf memoryStore [⟨Nat, counterAggregate⟩]) "") s s' ∧
          s'.received = s.received ∧ s.trace <+: s'.trace ∧
          (responses s'.trace).map (·.requestIdentifier) = (commandsOf s.received).map (·.messageIdentifier)) :=
  have h : Reachable (registryOf memoryStore [⟨Nat, counterAggregate⟩]) "" counterInbound ⟨[], []⟩ _ :=
    Reachable.turns .init [.stream, .stream, .stream, .worker ⟨"e", 0⟩, .worker ⟨"e", 0⟩, .worker ⟨"e", 0⟩,
      .stream, .worker ⟨"e", 0⟩] rfl
  ⟨_, h, rfl, rfl, rfl, command_responses_correlate _ "" _ _ _ h ⟨"e", 0⟩⟩

/-- コマンドを受け取って処理に入った受信ループの状態では、応答も待ち行列の結果もまだない。 -/
theorem command_in_flight_uncorrelated :
    ¬ ∀ s : System (List Event),
      Reachable emptyAggregateRegistry "" ⟨[⟨some (.command ⟨"n", "m", none⟩)⟩], none⟩ ⟨[], []⟩ s →
        (responses s.trace).map (·.requestIdentifier) ++ s.queue.map (·.messageIdentifier) =
          (commandsOf s.received).map (·.messageIdentifier) := by
  intro h
  have := h _ (.step .init (.worker ⟨"", 0⟩ rfl))
  simp [System.init, commandsOf, CommandProviderInbound.command?] at this

/-! ## 止まらないこと -/

/-- 受信ループと生成器がどう入り混じっても、届く状態ではいつでもどちらかが一歩進める。容量 10 の待ち行列が
いっぱいでも、生成器が結果を受け取れる。どちらも進めないのは、受信ループが返り、生成器が終わり、待ち行列が
空のときだけである。 -/
theorem command_worker_never_deadlocks {σ : Type} (registry : TheAggregateRegistry σ) (clientId : String)
    (inbound : Inbound) (client : EventStoreClient σ) (s : System σ)
    (h : Reachable registry clientId inbound client s) (env : Env) :
    (∃ s', workerStep registry env s = some s') ∨ (∃ s', streamStep clientId s = some s') ∨
      (s.worker.isReturned = true ∧ s.stream = .finished ∧ s.queue = []) := by
  have hi := h.systemInv
  rcases hw : workerStep registry env s with _ | s'
  · rcases hs : streamStep clientId s with _ | s'
    · right; right
      rcases outputStep_eq_none (streamStep_eq_none hs) with hf | ⟨-, hq, hc⟩
      · exact ⟨(hi.finished hf).1, hf, (hi.finished hf).2⟩
      · rcases workerStep_eq_none hw with hr | ⟨_, -, hfull⟩
        · rw [hr] at hc; cases hc
        · rw [hq] at hfull; cases hfull
    · exact .inr (.inl ⟨s', rfl⟩)
  · exact .inl ⟨s', rfl⟩

/-- 容量 10 の待ち行列がいっぱいで、受信ループが十一番目の結果を送れない状態。 -/
theorem command_worker_never_deadlocks_on_full_channel :
    ∃ s : System (List Event),
      Reachable emptyAggregateRegistry "" ⟨List.replicate 11 (commandInbound "n" "m"), none⟩ ⟨[], []⟩ s ∧
      s.queue.length = channelCapacity ∧ workerStep emptyAggregateRegistry ⟨"e", 0⟩ s = none ∧
      ((∃ s', workerStep emptyAggregateRegistry ⟨"e", 0⟩ s = some s') ∨ (∃ s', streamStep "" s = some s') ∨
        (s.worker.isReturned = true ∧ s.stream = .finished ∧ s.queue = [])) :=
  have h : Reachable emptyAggregateRegistry "" ⟨List.replicate 11 (commandInbound "n" "m"), none⟩ ⟨[], []⟩ _ :=
    Reachable.turns .init (List.replicate 32 (.worker ⟨"e", 0⟩)) rfl
  ⟨_, h, rfl, rfl, command_worker_never_deadlocks _ "" _ _ _ h ⟨"e", 0⟩⟩

/-- 受信ループと生成器がどう入り混じっても、届く状態ではいつでも、受け取った命令は受信の流れの始めの部分で、
受信ループの結果とイベントストアのクライアントは、受け取ったコマンドのうち処理を終えたものを届いた順に
一つずつ、前のコマンドが残したクライアントで振り分けたものに等しい。出した応答は、その結果の始めの部分の
応答である。 -/
theorem command_worker_handles_commands_in_order {σ : Type} (registry : TheAggregateRegistry σ)
    (clientId : String) (inbound : Inbound) (client : EventStoreClient σ) (s : System σ)
    (h : Reachable registry clientId inbound client s) :
    s.received <+: inbound.messages ∧
      ∃ steps : List (Env × Command), commandsOf s.received = steps.map (·.2) ++ s.worker.unhandled ∧
        handleInOrder (registry.register [] ∅).2 registry steps client = (s.results, s.client) ∧
        responses s.trace <+: s.results.map (·.toCommandResponse) := by
  have hi := h.systemInv
  obtain ⟨steps, hc, hr⟩ := h.handledInOrder
  exact ⟨hi.received_isPrefix, steps, hc, hr, hi.responses_isPrefix⟩

theorem command_worker_handles_counter_commands_in_order :
    ∃ s : System (List Event),
      Reachable (registryOf memoryStore [⟨Nat, counterAggregate⟩]) "" counterInbound ⟨[], []⟩ s ∧
      s.results.length = 2 ∧ s.client.store.length = 2 ∧
      s.received <+: counterInbound.messages ∧
      ∃ steps : List (Env × Command), commandsOf s.received = steps.map (·.2) ++ s.worker.unhandled ∧
        handleInOrder ((registryOf memoryStore [⟨Nat, counterAggregate⟩]).register [] ∅).2
            (registryOf memoryStore [⟨Nat, counterAggregate⟩]) steps ⟨[], []⟩ = (s.results, s.client) ∧
        responses s.trace <+: s.results.map (·.toCommandResponse) :=
  have h : Reachable (registryOf memoryStore [⟨Nat, counterAggregate⟩]) "" counterInbound ⟨[], []⟩ _ :=
    Reachable.turns .init counterTurns rfl
  ⟨_, h, rfl, rfl, command_worker_handles_commands_in_order _ "" _ _ _ h⟩

/-- 受信ループと生成器がどう入り混じっても、届く状態ではいつでも、系が出した命令は、`register` が返した
コマンドの名前ごとの購読をその順に、最初の許可 6、それから受信ループが出した結果ごとに出た順の応答と、
三つごとの許可 3 を並べた列の始まりである。 -/
theorem command_worker_sends_expected_instructions {σ : Type} (registry : TheAggregateRegistry σ)
    (clientId : String) (inbound : Inbound) (client : EventStoreClient σ) (s : System σ)
    (h : Reachable registry clientId inbound client s) :
    s.trace <+: expectedTrace clientId (registry.register [] ∅).1 s.results :=
  h.systemInv.trace_isPrefix

theorem command_worker_sends_expected_counter_instructions :
    ∃ s : System (List Event),
      Reachable (registryOf memoryStore [⟨Nat, counterAggregate⟩]) "" counterInbound ⟨[], []⟩ s ∧
      s.trace.length = 5 ∧
      s.trace <+: expectedTrace "" ((registryOf memoryStore [⟨Nat, counterAggregate⟩]).register [] ∅).1 s.results :=
  have h : Reachable (registryOf memoryStore [⟨Nat, counterAggregate⟩]) "" counterInbound ⟨[], []⟩ _ :=
    Reachable.turns .init counterTurns rfl
  ⟨_, h, rfl, command_worker_sends_expected_instructions _ "" _ _ _ h⟩

/-- 受信ループが返った届く状態からは、どの走りも有限で終わる。止まった状態では、生成器は終わり、待ち行列は
空で、受け取ったすべてのコマンドに届いた順に応答を出している。 -/
theorem command_worker_stops_after_returning {σ : Type} (registry : TheAggregateRegistry σ)
    (clientId : String) (inbound : Inbound) (client : EventStoreClient σ) (s : System σ)
    (h : Reachable registry clientId inbound client s) (hr : s.worker.isReturned = true) :
    (¬ ∃ run : Nat → System σ, run 0 = s ∧ ∀ n, Step registry clientId (run n) (run (n + 1))) ∧
      ∀ s', Relation.ReflTransGen (Step registry clientId) s s' → (∀ s'', ¬ Step registry clientId s' s'') →
        s'.stream = .finished ∧ s'.queue = [] ∧
        (responses s'.trace).map (·.requestIdentifier) = (commandsOf s.received).map (·.messageIdentifier) := by
  refine ⟨not_infinite_of_acc (acc_of_isReturned _ s (Nat.lt_succ_self _) hr), fun s' hrun hstuck => ?_⟩
  obtain ⟨hf, hq, -, hans⟩ := h.stopped_of_isReturned hr hrun hstuck
  exact ⟨hf, hq, hans⟩

/-- コマンドを一つ処理して待ち行列に入れた後、受信の流れが状態 13 で失敗すると、受信ループは返り、その後の
走りは有限である。 -/
theorem command_worker_stops_after_inbound_error :
    ∃ s : System (List Event),
      Reachable emptyAggregateRegistry "" ⟨[commandInbound "n" "m"], some ⟨13⟩⟩ ⟨[], []⟩ s ∧
      s.worker.isReturned = true ∧ s.queue.length = 1 ∧
      (¬ ∃ run : Nat → System (List Event), run 0 = s ∧ ∀ n, Step emptyAggregateRegistry "" (run n) (run (n + 1))) ∧
      ∀ s', Relation.ReflTransGen (Step emptyAggregateRegistry "") s s' →
        (∀ s'', ¬ Step emptyAggregateRegistry "" s' s'') →
        s'.stream = .finished ∧ s'.queue = [] ∧
        (responses s'.trace).map (·.requestIdentifier) = (commandsOf s.received).map (·.messageIdentifier) :=
  have h : Reachable emptyAggregateRegistry "" ⟨[commandInbound "n" "m"], some ⟨13⟩⟩ ⟨[], []⟩ _ :=
    Reachable.turns .init (List.replicate 4 (.worker ⟨"e", 0⟩)) rfl
  ⟨_, h, rfl, rfl, command_worker_stops_after_returning _ "" _ _ _ h rfl⟩

/-- 受信の流れが失敗で終わるなら、届く状態のどこからでも、系が止まるまでの走りがある。止まった状態では、
受信の流れの命令をすべて受け取り、受信ループは返り、生成器は終わり、待ち行列は空で、受信の流れのすべての
コマンドに届いた順に応答を出している。 -/
theorem command_worker_completes_after_inbound_error {σ : Type} (registry : TheAggregateRegistry σ)
    (clientId : String) (inbound : Inbound) (client : EventStoreClient σ) (s : System σ)
    (h : Reachable registry clientId inbound client s) (hend : inbound.ending.isSome) (env : Env) :
    ∃ s', Relation.ReflTransGen (Step registry clientId) s s' ∧ (∀ s'', ¬ Step registry clientId s' s'') ∧
      s'.received = inbound.messages ∧ s'.worker.isReturned = true ∧ s'.stream = .finished ∧ s'.queue = [] ∧
      (responses s'.trace).map (·.requestIdentifier) = (commandsOf inbound.messages).map (·.messageIdentifier) := by
  obtain ⟨status, hst⟩ := Option.isSome_iff_exists.mp hend
  obtain ⟨s₁, hrun₁, hret₁, hrec₁⟩ : ∃ s₁, Relation.ReflTransGen (Step registry clientId) s s₁ ∧
      s₁.worker.isReturned = true ∧ s₁.received = inbound.messages := by
    cases hr : s.worker.isReturned
    · obtain ⟨s₁, hrun, hret, hrec⟩ := Reachable.returned_of_ending hst env _ s h hr rfl
      exact ⟨s₁, hrun, hret, hrec.trans h.systemInv.received⟩
    · exact ⟨s, .refl, hr, by simpa [h.messages_of_isReturned hr] using h.systemInv.received⟩
  obtain ⟨s', hrun, hstuck⟩ := exists_stuck_of_acc (acc_of_isReturned _ s₁ (Nat.lt_succ_self _) hret₁)
  obtain ⟨hf, hq, hrec, hans⟩ := (h.run hrun₁).stopped_of_isReturned hret₁ hrun hstuck
  exact ⟨s', hrun₁.trans hrun, hstuck, hrec.trans hrec₁, (run_of_isReturned hrun hret₁).1 ▸ hret₁, hf, hq,
    hrec₁ ▸ hans⟩

theorem command_worker_completes_one_command_after_inbound_error :
    ∃ s : System (List Event),
      Reachable emptyAggregateRegistry "" ⟨[⟨some (.command ⟨"n", "m", none⟩)⟩], some ⟨13⟩⟩ ⟨[], []⟩ s ∧
      ∃ s', Relation.ReflTransGen (Step emptyAggregateRegistry "") s s' ∧
        (∀ s'', ¬ Step emptyAggregateRegistry "" s' s'') ∧
        s'.received = [⟨some (.command ⟨"n", "m", none⟩)⟩] ∧ s'.worker.isReturned = true ∧
        s'.stream = .finished ∧ s'.queue = [] ∧
        (responses s'.trace).map (·.requestIdentifier) =
          (commandsOf [⟨some (.command ⟨"n", "m", none⟩)⟩]).map (·.messageIdentifier) :=
  ⟨_, .init, command_worker_completes_after_inbound_error emptyAggregateRegistry "" _ _ _ .init rfl ⟨"", 0⟩⟩

/-! ## 受信の流れの終わり -/

/-- 流れが閉じて終わるとき（その後 `message()` が `Ok(None)` を返し続けるとき）、受信ループは
命令がいくつあっても返らない。命令を読み終えた受信ループは、同じ状態に戻る一歩をいつでも踏める。 -/
theorem command_worker_spins_at_end_of_stream {σ : Type} (registry : TheAggregateRegistry σ)
    (clientId : String) (messages : List CommandProviderInbound) (client : EventStoreClient σ)
    (s : System σ) (h : Reachable registry clientId ⟨messages, none⟩ client s) :
    s.worker.isReturned = false ∧
      (s.inbound.messages = [] → s.worker = .awaitingMessage → ∀ env, workerStep registry env s = some s) := by
  have hi := h.systemInv
  refine ⟨?_, fun hm hw env => ?_⟩
  · cases hr : s.worker.isReturned
    · rfl
    · simpa [hi.ending] using hi.returned hr
  · obtain ⟨⟨ms, e⟩, w, _⟩ := s
    obtain rfl : ms = [] := hm
    obtain rfl : e = none := hi.ending
    subst hw
    rfl

theorem command_worker_spins_on_closed_empty_stream :
    ∃ s : System (List Event), Reachable emptyAggregateRegistry "" ⟨[], none⟩ ⟨[], []⟩ s ∧
      s.worker.isReturned = false ∧
      (s.inbound.messages = [] → s.worker = .awaitingMessage →
        ∀ env, workerStep emptyAggregateRegistry env s = some s) :=
  ⟨_, .init, command_worker_spins_at_end_of_stream emptyAggregateRegistry "" [] _ _ .init⟩

/-- 受信の流れが失敗せずに閉じる（その後 `message()` が `Ok(None)` を返し続ける）なら、届く状態ではいつでも、
受信ループは返らず、生成器は終わらず、系は一歩進める。出す命令の流れは閉じない。 -/
theorem command_worker_never_finishes_on_closed_stream {σ : Type} (registry : TheAggregateRegistry σ)
    (clientId : String) (inbound : Inbound) (client : EventStoreClient σ) (s : System σ)
    (h : Reachable registry clientId inbound client s) (hend : inbound.ending = none) (env : Env) :
    s.worker.isReturned = false ∧ s.stream ≠ .finished ∧ ∃ s', Step registry clientId s s' := by
  have hi := h.systemInv
  have hr : s.worker.isReturned = false := by
    cases hret : s.worker.isReturned
    · rfl
    · have := hi.returned hret
      rw [hi.ending, hend] at this
      cases this
  exact ⟨hr, fun hf => absurd (hi.finished hf).1 (by rw [hr]; nofun), hi.exists_step hr env⟩

/-- 閉じた流れの命令を処理して応答し終え、受信ループの空回りのほかに進めない状態。 -/
theorem command_worker_never_finishes_after_answering :
    ∃ s : System (List Event), Reachable emptyAggregateRegistry "" ⟨[commandInbound "n" "m"], none⟩ ⟨[], []⟩ s ∧
      s.inbound.messages = [] ∧ s.worker = .awaitingMessage ∧ (responses s.trace).length = 1 ∧
      streamStep "" s = none ∧
      s.worker.isReturned = false ∧ s.stream ≠ .finished ∧ ∃ s', Step emptyAggregateRegistry "" s s' :=
  have h : Reachable emptyAggregateRegistry "" ⟨[commandInbound "n" "m"], none⟩ ⟨[], []⟩ _ :=
    Reachable.turns .init [.stream, .worker ⟨"e", 0⟩, .worker ⟨"e", 0⟩, .worker ⟨"e", 0⟩, .stream, .stream] rfl
  ⟨_, h, rfl, rfl, rfl, rfl, command_worker_never_finishes_on_closed_stream _ "" _ _ _ h rfl ⟨"e", 0⟩⟩

/-! ## `handle_command` とイベントストア -/

/-- `handle_command` は `append_event` を高々一度送る。失敗を返すか `Ok(None)` を返すとき、サーバーの状態は
変わらず、送った `append_event` があればサーバーが断っている。`Ok(Some(r))` を返すとき、登録された
コマンドのハンドラが出したイベントを、決まった識別子の下に出した順と型で一度だけ加えていて、`r` は
イベントを持たず結果の応答を持つ。 -/
theorem handle_command_error_atomic {σ P : Type} (S : EventStore σ) (env : Env) (command : Command)
    (d : AggregateDefinition P) (c : EventStoreClient σ) :
    ∃ calls, (handleCommand S env command d c).2.calls = c.calls ++ calls ∧
      (appendedEvents calls).length ≤ 1 ∧
      (∀ e, (handleCommand S env command d c).1 = .error e →
        (handleCommand S env command d c).2.store = c.store ∧
          ∀ events ∈ appendedEvents calls, ∃ msg, S.appendEvent c.store events = .error msg) ∧
      ((handleCommand S env command d c).1 = .ok none →
        (handleCommand S env command d c).2.store = c.store ∧ appendedEvents calls = []) ∧
      ∀ r, (handleCommand S env command d c).1 = .ok (some r) →
        ∃ data handler projection o a events,
          command.payload.map (·.data) = some data ∧
          d.commandHandlerRegistry.get command.name = some handler ∧
          handler.handle data projection = .ok (some o) ∧
          (d.extractAggregateId command.name data = .ok (some a) ∨
            d.extractAggregateId command.name data = .ok none ∧
              ∃ response, o.response = some response ∧
                d.extractAggregateId response.type response.data = .ok (some a)) ∧
          appendedEvents calls = [events] ∧
          events.map (fun e => (e.aggregateIdentifier, e.payload)) =
            o.events.map (fun e => (a, some { type := e.1, revision := "", data := e.2.encodeU8 })) ∧
          S.appendEvent c.store events = .ok (handleCommand S env command d c).2.store ∧
          r = { events := [], response := o.response } := by
  rcases hp : handleCommand S env command d c with ⟨res, c'⟩
  dsimp only
  rcases handleCommand_outcome hp with
    ⟨⟨hs, calls, hc, ha⟩, hr⟩ | ⟨e, events, rfl, hs, hfail, calls, hc, ha⟩ |
    ⟨a, o, response, ts, ⟨data, handler, projection, hdata, hh, ho, pre, hpre, hresolve⟩, -, rfl, calls, hc,
      ha, hs⟩
  · exact ⟨calls, hc, by simp [ha], fun _ _ => ⟨hs, by simp [ha]⟩, fun _ => ⟨hs, ha⟩,
      fun r h => absurd h (hr r)⟩
  · exact ⟨calls, hc, by simp [ha], fun _ _ => ⟨hs, by simpa [ha] using ⟨e, hfail⟩⟩, nofun, nofun⟩
  · refine ⟨calls, hc, by simp [ha], nofun, nofun, fun r hr => ?_⟩
    cases hr
    refine ⟨data, handler, projection, o, a, _, hdata, hh, ho, ?_, ha,
      map_eventMessage_payload _ _ _ _ _, hs, rfl⟩
    rcases AggregateDefinition.resolveAggregateId_eq_ok_some.mp hresolve with rfl | ⟨rfl, h⟩
    · exact .inl hpre
    · exact .inr ⟨hpre, h⟩

/-! ## 番号 -/

/-- `store_events` が一度の `append_event` で送るイベントはみな、サーバーが答えた最大の番号に i64 で 1 を足した
同じ番号を持つ。 -/
theorem store_events_numbers_events_alike {σ P : Type} (S : EventStore σ) (env : Env)
    (c : EventStoreClient σ) (a : String) (o : EmitApplicableEventsAndResponse P) :
    ∃ calls, (storeEvents S env c a o).2.calls = c.calls ++ calls ∧
      ∀ events ∈ appendedEvents calls, ∃ response : ReadHighestSequenceNrResponse,
        S.readHighestSequenceNr c.store ⟨a, 0⟩ = .ok response ∧
        events.map (·.aggregateSequenceNumber) =
          List.replicate o.events.length ((response.toSequenceNr + 1).bmod (2 ^ 64)) := by
  rcases hp : storeEvents S env c a o with ⟨res, c'⟩
  rcases storeEvents_cases hp with ⟨-, -, -, calls, hc, ha⟩ | ⟨response, ts, hread, hc, -⟩
  · exact ⟨calls, hc, by simp [ha]⟩
  · refine ⟨_, hc, fun events he => ?_⟩
    simp only [appendedEvents_cons, Call.appended, Option.toList, appendedEvents_nil, List.append_nil,
      List.nil_append, List.mem_singleton] at he
    exact ⟨response, hread, he ▸ map_eventMessage_aggregateSequenceNumber _ _ _ _ _⟩

/-- 履歴のない集約に二つのイベントを出すと、どちらも番号 0 で保存される。 -/
theorem store_events_numbers_two_events_alike :
    (storeEvents memoryStore ⟨"m", 0⟩ ⟨[], []⟩ "a"
      (⟨[("Incremented", ⟨[]⟩), ("Incremented", ⟨[]⟩)], none⟩ : EmitApplicableEventsAndResponse Nat)).2.store.map
        (·.aggregateSequenceNumber) = [0, 0] := rfl

/-- 一つのコマンド `"IncrementTwice"` で、集約 `"a"` のイベントを二つ出す集約。 -/
def twiceAggregate : AggregateDefinition Nat where
  projectionName := "Twice"
  emptyProjection _ := 0
  aggregateIdExtractorRegistry := ⟨[⟨"IncrementTwice", ⟨fun _ _ => .ok (some "a")⟩⟩].toAList⟩
  commandHandlerRegistry :=
    ⟨[⟨"IncrementTwice", ⟨fun _ _ => .ok (some ⟨[("Incremented", ⟨[]⟩), ("Incremented", ⟨[]⟩)], none⟩)⟩⟩].toAList⟩
  sourcingHandlerRegistry := ⟨[⟨"Incremented", ⟨fun _ p => .ok (some (p + 1))⟩⟩].toAList⟩

example : ∃ s : System (List Event),
    Reachable (registryOf memoryStore [⟨Nat, twiceAggregate⟩]) "" ⟨[commandInbound "IncrementTwice" "t"], none⟩
      ⟨[], []⟩ s ∧ s.client.store.map (·.aggregateSequenceNumber) = [0, 0] :=
  ⟨_, Reachable.turns .init [.worker ⟨"e", 0⟩, .worker ⟨"e", 0⟩] rfl, rfl⟩

/-- 記録をそのまま持つサーバーの上で、定義を登録した受信ループと生成器がどう進んでも、番号がみな `i64::MAX`
より小さいうちは、始めの記録で集約ごとの番号が記録の順に減っていなければ、その後も減らない。コマンドの
ハンドラがみな一度に高々一つのイベントしか出さず、始めの記録で番号が増えていれば、その後も増える。 -/
theorem sequence_numbers_ordered_per_aggregate (ds : List (Σ P : Type, AggregateDefinition P))
    (clientId : String) (inbound : Inbound) (store₀ : List Event) (s : System (List Event))
    (h : Reachable (registryOf memoryStore ds) clientId inbound ⟨store₀, []⟩ s)
    (hmax : ∀ e ∈ s.client.store, e.aggregateSequenceNumber < i64Max) :
    (SequenceOrdered (· ≤ ·) store₀ → SequenceOrdered (· ≤ ·) s.client.store) ∧
      ((∀ d ∈ ds, ∀ name handler data projection (o : EmitApplicableEventsAndResponse d.1),
          d.2.commandHandlerRegistry.get name = some handler → handler.handle data projection = .ok (some o) →
            o.events.length ≤ 1) →
        SequenceOrdered (· < ·) store₀ → SequenceOrdered (· < ·) s.client.store) :=
  ⟨fun h₀ => h.sequenceOrdered (fun _ _ _ => by omega) (fun _ _ _ _ _ _ _ _ _ => .inr le_refl) h₀ hmax,
    fun hone h₀ => h.sequenceOrdered (fun _ _ _ => by omega) (fun d hd name handler data projection o hg ho =>
      .inl (hone d hd name handler data projection o hg ho)) h₀ hmax⟩

theorem sequence_numbers_ordered_for_counter :
    ∃ s : System (List Event),
      Reachable (registryOf memoryStore [⟨Nat, counterAggregate⟩]) "" counterInbound ⟨[], []⟩ s ∧
      s.client.store.map (·.aggregateSequenceNumber) = [0, 1] ∧
      (∀ e ∈ s.client.store, e.aggregateSequenceNumber < i64Max) ∧
      (SequenceOrdered (· ≤ ·) [] → SequenceOrdered (· ≤ ·) s.client.store) ∧
      ((∀ d ∈ [(⟨Nat, counterAggregate⟩ : Σ P : Type, AggregateDefinition P)], ∀ name handler data projection
          (o : EmitApplicableEventsAndResponse d.1),
          d.2.commandHandlerRegistry.get name = some handler → handler.handle data projection = .ok (some o) →
            o.events.length ≤ 1) →
        SequenceOrdered (· < ·) [] → SequenceOrdered (· < ·) s.client.store) :=
  have h : Reachable (registryOf memoryStore [⟨Nat, counterAggregate⟩]) "" counterInbound ⟨[], []⟩ _ :=
    Reachable.turns .init counterTurns rfl
  have hmax : ∀ e : Event, e ∈ _ → e.aggregateSequenceNumber < i64Max := by decide
  ⟨_, h, rfl, hmax, sequence_numbers_ordered_per_aggregate _ "" _ [] _ h hmax⟩

/-! ## 射影の復元 -/

/-- 識別子 `a` をハンドラの前に取り出せ、`query_events_from_client` が履歴 `H` を返すとき、
`handle_command` は、仕様の一歩で `H` を左から畳み込んだ射影で、コマンドのハンドラを一度だけ呼ぶ。
畳み込みが失敗すれば、ハンドラを呼ばずにその失敗を返す。中身の型の射影のハンドラがないイベントが
`H` にあれば、失敗を返す。 -/
theorem handle_command_replays_history {σ P : Type} (S : EventStore σ) (env : Env) (command : Command)
    (d : AggregateDefinition P) (c c₁ : EventStoreClient σ) (data : Bytes) (a : String)
    (handler : SubscriptionHandle P (EmitApplicableEventsAndResponse P)) (H : List Event)
    (hdata : command.payload.map (·.data) = some data)
    (hid : d.extractAggregateId command.name data = .ok (some a))
    (hh : d.commandHandlerRegistry.get command.name = some handler)
    (hq : queryEventsFromClient S c a = (.ok H, c₁)) :
    handleCommand S env command d c =
        (match H.foldlM d.sourcingStep (d.emptyProjection ()) with
          | .ok p => finishCommand S env d (some a) (handler.handle data p) c₁
          | .error e => (.error e, c₁)) ∧
      ((∃ e ∈ H, ∃ payload, e.payload = some payload ∧ d.sourcingHandlerRegistry.get payload.type = none) →
        ∃ err, handleCommand S env command d c = (.error err, c₁)) := by
  have heq : handleCommand S env command d c =
      match d.replay (d.emptyProjection ()) H with
      | .ok p => finishCommand S env d (some a) (handler.handle data p) c₁
      | .error e => (.error e, c₁) := by
    simp only [handleCommand, hdata, hid, hh, restoreProjection, hq]
    rcases d.replay (d.emptyProjection ()) H with _ | _ <;> rfl
  refine ⟨by rw [heq, AggregateDefinition.replay_eq_foldlM], fun ⟨e, he, payload, hp, hn⟩ => ?_⟩
  obtain ⟨err, herr⟩ := d.replay_error_of_missing he hp hn (d.emptyProjection ())
  exact ⟨err, by rw [heq, herr]⟩

theorem handle_command_replays_counter_history :
    ∃ (handler : SubscriptionHandle Nat (EmitApplicableEventsAndResponse Nat)) (c₁ : EventStoreClient (List Event)),
      queryEventsFromClient memoryStore ⟨counterHistory, []⟩ "a" = (.ok counterHistory, c₁) ∧
      (handleCommand memoryStore ⟨"m", 0⟩ ⟨"Increment", "i", some ⟨"Increment", "", []⟩⟩ counterAggregate
          ⟨counterHistory, []⟩ =
        (match counterHistory.foldlM counterAggregate.sourcingStep (counterAggregate.emptyProjection ()) with
          | .ok p => finishCommand memoryStore ⟨"m", 0⟩ counterAggregate (some "a") (handler.handle [] p) c₁
          | .error e => (.error e, c₁)) ∧
      ((∃ e ∈ counterHistory, ∃ payload, e.payload = some payload ∧
          counterAggregate.sourcingHandlerRegistry.get payload.type = none) →
        ∃ err, handleCommand memoryStore ⟨"m", 0⟩ ⟨"Increment", "i", some ⟨"Increment", "", []⟩⟩
          counterAggregate ⟨counterHistory, []⟩ = (.error err, c₁))) :=
  ⟨_, _, rfl, handle_command_replays_history memoryStore ⟨"m", 0⟩ ⟨"Increment", "i", some ⟨"Increment", "", []⟩⟩
    counterAggregate ⟨counterHistory, []⟩ _ []
    "a" _ counterHistory rfl rfl rfl rfl⟩

/-! ## 識別子が応答から決まるコマンド -/

/-- 識別子をハンドラの前に取り出せないとき、`handle_command` は履歴を読まずに、空の射影でコマンドの
ハンドラを一度呼び、その結果を前に識別子のないものとして仕上げる。イベントストアに履歴を問い合わせることは
ない。結果の応答がないか、応答の型の取り出しが識別子を返さなければ `Missing aggregate identifier` を返す。
`Ok(Some(r))` を返すなら、識別子 `a` は応答の型で応答から取り出したもので、その識別子の履歴を見ずに、
読んだ最大の番号で作ったイベントを `a` の下に一度だけ加えている。 -/
theorem handle_command_without_identifier_skips_history {σ P : Type} (S : EventStore σ) (env : Env)
    (command : Command) (d : AggregateDefinition P) (c : EventStoreClient σ) (data : Bytes)
    (handler : SubscriptionHandle P (EmitApplicableEventsAndResponse P))
    (hdata : command.payload.map (·.data) = some data)
    (hid : d.extractAggregateId command.name data = .ok none)
    (hh : d.commandHandlerRegistry.get command.name = some handler) :
    handleCommand S env command d c = finishCommand S env d none (handler.handle data (d.emptyProjection ())) c ∧
      queriedAggregates (handleCommand S env command d c).2.calls = queriedAggregates c.calls ∧
      (∀ o, handler.handle data (d.emptyProjection ()) = .ok (some o) →
        (∀ response, o.response = some response → d.extractAggregateId response.type response.data = .ok none) →
        handleCommand S env command d c = (.error .missingAggregateIdentifier, c)) ∧
      ∀ r, (handleCommand S env command d c).1 = .ok (some r) →
        ∃ o response a highest timestamp calls,
          handler.handle data (d.emptyProjection ()) = .ok (some o) ∧ o.response = some response ∧
          d.extractAggregateId response.type response.data = .ok (some a) ∧
          S.readHighestSequenceNr c.store ⟨a, 0⟩ = .ok highest ∧
          (handleCommand S env command d c).2.calls = c.calls ++ calls ∧
          appendedEvents calls = [o.events.map (eventMessage env.messageIdentifier timestamp a highest)] ∧
          S.appendEvent c.store (o.events.map (eventMessage env.messageIdentifier timestamp a highest)) =
            .ok (handleCommand S env command d c).2.store ∧
          r = { events := [], response := o.response } := by
  have heq : handleCommand S env command d c =
      finishCommand S env d none (handler.handle data (d.emptyProjection ())) c := by
    simp only [handleCommand, hdata, hid, hh, restoreProjection]
  refine ⟨heq, by rw [heq]; exact finishCommand_queriedAggregates env d none _ c,
    fun o ho hnone => by rw [heq, ho]; exact finishCommand_missing hnone, fun r hr => ?_⟩
  rw [heq] at hr ⊢
  rcases hp : finishCommand S env d none (handler.handle data (d.emptyProjection ())) c with ⟨res, c'⟩
  rw [hp] at hr
  rcases finishCommand_outcome hp with ⟨-, hne⟩ | ⟨_, _, rfl, -⟩ |
    ⟨a, o, highest, ts, ⟨ho, hres⟩, hread, rfl, calls, hc, ha, hs⟩
  · exact absurd hr (hne r)
  · cases hr
  · obtain ⟨⟨⟩⟩ := hr
    rcases AggregateDefinition.resolveAggregateId_eq_ok_some.mp hres with ⟨⟨⟩⟩ | ⟨-, response, hresp, hext⟩
    exact ⟨o, response, a, highest, ts, calls, ho, hresp, hext, hread, hc, ha, hs, rfl⟩

/-- `"Create"` は名前から識別子を取り出せず、応答 `"Created"` から取り出した `"a"` の下に加える。 -/
theorem handle_command_without_identifier_skips_counter_history :
    ∃ handler, counterAggregate.commandHandlerRegistry.get "Create" = some handler ∧
      (handleCommand memoryStore ⟨"m", 0⟩ ⟨"Create", "c", some ⟨"Create", "", []⟩⟩ counterAggregate
          ⟨counterHistory, []⟩).1 = .ok (some ⟨[], some ⟨"Created", "", []⟩⟩) ∧
      (handleCommand memoryStore ⟨"m", 0⟩ ⟨"Create", "c", some ⟨"Create", "", []⟩⟩ counterAggregate
          ⟨counterHistory, []⟩ =
        finishCommand memoryStore ⟨"m", 0⟩ counterAggregate none
          (handler.handle [] (counterAggregate.emptyProjection ())) ⟨counterHistory, []⟩ ∧
      queriedAggregates (handleCommand memoryStore ⟨"m", 0⟩ ⟨"Create", "c", some ⟨"Create", "", []⟩⟩
          counterAggregate ⟨counterHistory, []⟩).2.calls = queriedAggregates [] ∧
      (∀ o, handler.handle [] (counterAggregate.emptyProjection ()) = .ok (some o) →
        (∀ response, o.response = some response →
          counterAggregate.extractAggregateId response.type response.data = .ok none) →
        handleCommand memoryStore ⟨"m", 0⟩ ⟨"Create", "c", some ⟨"Create", "", []⟩⟩ counterAggregate
          ⟨counterHistory, []⟩ = (.error .missingAggregateIdentifier, ⟨counterHistory, []⟩)) ∧
      ∀ r, (handleCommand memoryStore ⟨"m", 0⟩ ⟨"Create", "c", some ⟨"Create", "", []⟩⟩ counterAggregate
          ⟨counterHistory, []⟩).1 = .ok (some r) →
        ∃ o response a highest timestamp calls,
          handler.handle [] (counterAggregate.emptyProjection ()) = .ok (some o) ∧ o.response = some response ∧
          counterAggregate.extractAggregateId response.type response.data = .ok (some a) ∧
          memoryStore.readHighestSequenceNr counterHistory ⟨a, 0⟩ = .ok highest ∧
          (handleCommand memoryStore ⟨"m", 0⟩ ⟨"Create", "c", some ⟨"Create", "", []⟩⟩ counterAggregate
            ⟨counterHistory, []⟩).2.calls = [] ++ calls ∧
          appendedEvents calls = [o.events.map (eventMessage "m" timestamp a highest)] ∧
          memoryStore.appendEvent counterHistory (o.events.map (eventMessage "m" timestamp a highest)) =
            .ok (handleCommand memoryStore ⟨"m", 0⟩ ⟨"Create", "c", some ⟨"Create", "", []⟩⟩ counterAggregate
              ⟨counterHistory, []⟩).2.store ∧
          r = { events := [], response := o.response }) :=
  ⟨_, rfl, rfl, handle_command_without_identifier_skips_history memoryStore ⟨"m", 0⟩
    ⟨"Create", "c", some ⟨"Create", "", []⟩⟩ counterAggregate _ [] _ rfl rfl rfl⟩

/-- 履歴が二つのイベントを持つ集約 `"a"` に、`"Create"` は空の射影で決めたイベントを加える。復元すれば
射影は 2 で、空の射影 0 ではない。 -/
theorem creation_command_appends_after_history :
    ¬ ∀ (command : Command) (c : EventStoreClient (List Event)) (a : String),
      (∃ data, command.payload.map (·.data) = some data ∧
        counterAggregate.extractAggregateId command.name data = .ok none) →
      (∃ events, appendedEvents (handleCommand memoryStore ⟨"m", 0⟩ command counterAggregate c).2.calls =
        [events] ∧ events ≠ [] ∧ ∀ e ∈ events, e.aggregateIdentifier = a) →
      ∃ H, memoryStore.listAggregateEvents c.store a = .ok H ∧
        counterAggregate.replay (counterAggregate.emptyProjection ()) H = .ok (counterAggregate.emptyProjection ()) := by
  intro h
  obtain ⟨H, hH, hr⟩ := h ⟨"Create", "c", some ⟨"Create", "", []⟩⟩ ⟨counterHistory, []⟩ "a" ⟨[], rfl, rfl⟩
    ⟨_, rfl, nofun, by simp [eventMessage]⟩
  cases hH
  cases hr

/-! ## 登録簿と振り分け -/

/-- 定義を `insert` で登録した登録簿で、`register` が空の列と空の対応表に書き込むと、列の名前と対応表の
名前は、どちらも登録された定義のコマンドの登録簿の名前の和になる。対応表の指す集約は、そのコマンドの
ハンドラを持つ登録された定義である。振り分けは、名前を扱う定義が登録されていればその定義の
`handle_command` を呼び（コマンドのハンドラは見つかる）、なければ `Could not find aggregate handler` を返し、
`No handler for` を返すことはない。 -/
theorem register_routes_to_handling_definition {σ : Type} (S : EventStore σ)
    (ds : List (Σ P : Type, AggregateDefinition P)) :
    (∀ c, (c ∈ ((registryOf S ds).register [] ∅).1 ↔ c ∈ ((registryOf S ds).register [] ∅).2) ∧
      (c ∈ ((registryOf S ds).register [] ∅).1 ↔ ∃ a, ∃ d ∈ ds,
        (registryOf S ds).get a = some (d.2.toHandle S) ∧ c ∈ d.2.commandHandlerRegistry.handlers.keys)) ∧
    (∀ c a, ((registryOf S ds).register [] ∅).2.lookup c = some a → ∃ d ∈ ds,
      (registryOf S ds).get a = some (d.2.toHandle S) ∧ c ∈ d.2.commandHandlerRegistry.handlers.keys) ∧
    ∀ (env : Env) (command : Command) (client : EventStoreClient σ),
      ((∃ a, ∃ d ∈ ds, (registryOf S ds).get a = some (d.2.toHandle S) ∧
          command.name ∈ d.2.commandHandlerRegistry.handlers.keys) →
        ∃ d ∈ ds, (d.2.commandHandlerRegistry.get command.name).isSome ∧
          dispatch ((registryOf S ds).register [] ∅).2 (registryOf S ds) env command client =
            handleCommand S env command d.2 client) ∧
      ((¬ ∃ a, ∃ d ∈ ds, (registryOf S ds).get a = some (d.2.toHandle S) ∧
          command.name ∈ d.2.commandHandlerRegistry.handlers.keys) →
        dispatch ((registryOf S ds).register [] ∅).2 (registryOf S ds) env command client =
          (.error .couldNotFindAggregateHandler, client)) ∧
      ∀ n, (dispatch ((registryOf S ds).register [] ∅).2 (registryOf S ds) env command client).1 ≠
        .error (.noHandler n) := by
  have hmem := @registryOf_register_mem σ S ds
  refine ⟨fun c => ⟨(hmem c).1.trans (hmem c).2.symm, (hmem c).1⟩,
    fun c a h => registryOf_register_lookup h, fun env command client => ?_⟩
  have hsome {d : Σ P : Type, AggregateDefinition P}
      (hc : command.name ∈ d.2.commandHandlerRegistry.handlers.keys) :
      (d.2.commandHandlerRegistry.get command.name).isSome :=
    AList.lookup_isSome.mpr (AList.mem_keys.mpr hc)
  rcases @registryOf_dispatch σ S ds env command client with ⟨a, d, hd, -, hg, hc, heq⟩ | ⟨hm, heq⟩
  · refine ⟨fun _ => ⟨d, hd, hsome hc, heq⟩, fun hn => absurd ⟨a, d, hd, hg, hc⟩ hn, fun n h => ?_⟩
    rw [heq] at h
    exact absurd (handleCommand_noHandler h) (Option.isSome_iff_ne_none.mp (hsome hc))
  · have hnot : ¬ ∃ a, ∃ d ∈ ds, (registryOf S ds).get a = some (d.2.toHandle S) ∧
        command.name ∈ d.2.commandHandlerRegistry.handlers.keys := fun hh => by
      have := (hmem command.name).2.mpr hh
      rw [← AList.lookup_isSome, hm] at this
      cases this
    exact ⟨fun hh => absurd hh hnot, fun _ => heq, fun n => by rw [heq]; nofun⟩

/-- 定義を順に `insert` した登録簿で名前を引くと、その名前を `projection_name` に持つ最後の定義の
`AggregateHandle` が返る。`register` が書くコマンドの名前は、後に同じ名前の定義が来ない定義のコマンドの
名前で、前の同じ名前の定義のコマンドは購読されない。 -/
theorem registry_keeps_last_definition_per_name {σ : Type} (S : EventStore σ)
    (ds : List (Σ P : Type, AggregateDefinition P)) :
    (∀ a, (registryOf S ds).get a = (ds.reverse.find? (·.2.projectionName == a)).map (·.2.toHandle S)) ∧
      ∀ c, c ∈ ((registryOf S ds).register [] ∅).1 ↔
        ∃ d ∈ ds, ds.reverse.find? (·.2.projectionName == d.2.projectionName) = some d ∧
          c ∈ d.2.commandHandlerRegistry.handlers.keys :=
  ⟨registryOf_get_eq, registryOf_register_mem_last⟩

/-! ## 走査の順 -/

/-- 定義を `insert` した登録簿の集約をどの順 `l` に走査しても、`register` が空の列と空の対応表に書く列には、
登録された集約のコマンドの名前がちょうど現れ、その回数は名前を扱う集約の数である。対応表は、名前を扱う
走査の最後の集約を指す。登録された二つの集約が同じコマンドの名前を扱わなければ、どの二つの順 `l`、`l'` でも
対応表は同じで、列は並びだけが違い、どの名前も一度ずつ現れる。 -/
theorem register_independent_of_order {σ : Type} (S : EventStore σ)
    (ds : List (Σ P : Type, AggregateDefinition P)) (l l' : List (Σ _ : String, AggregateHandle σ))
    (hl : l.Perm (registryOf S ds).handlers.entries) (hl' : l'.Perm (registryOf S ds).handlers.entries) :
    (∀ c, (c ∈ (TheAggregateRegistry.registerAll ([], ∅) l).1 ↔
          ∃ a h, (registryOf S ds).get a = some h ∧ c ∈ h.commandNames) ∧
        (TheAggregateRegistry.registerAll ([], ∅) l).1.count c = l.countP (fun e => c ∈ e.2.commandNames) ∧
        (TheAggregateRegistry.registerAll ([], ∅) l).2.lookup c =
          (l.reverse.find? (fun e => c ∈ e.2.commandNames)).map (·.1)) ∧
    ((∀ a a' h h' c, (registryOf S ds).get a = some h → (registryOf S ds).get a' = some h' →
        c ∈ h.commandNames → c ∈ h'.commandNames → a = a') →
      (∀ c, (TheAggregateRegistry.registerAll ([], ∅) l).2.lookup c =
        (TheAggregateRegistry.registerAll ([], ∅) l').2.lookup c) ∧
      (TheAggregateRegistry.registerAll ([], ∅) l).1.Perm (TheAggregateRegistry.registerAll ([], ∅) l').1 ∧
      (TheAggregateRegistry.registerAll ([], ∅) l).1.Nodup) := by
  have hget {e} (he : e ∈ l) : (registryOf S ds).get e.1 = some e.2 :=
    TheAggregateRegistry.get_of_mem_entries (hl.mem_iff.mp he)
  have hnames : ∀ e ∈ l, e.2.commandNames.Nodup := fun e he => by
    obtain ⟨d, -, hd, -⟩ := registryOf_get (hget he)
    rw [hd]
    exact AList.keys_nodup _
  refine ⟨fun c => ⟨TheAggregateRegistry.registerAll_mem_of_perm hl c,
    TheAggregateRegistry.registerAll_count l hnames c,
    (TheAggregateRegistry.registerAll_lookup_last _ l c).trans Option.or_none⟩, fun hdisj => ?_⟩
  have huniq : ∀ e ∈ l, ∀ e' ∈ l, ∀ c, c ∈ e.2.commandNames → c ∈ e'.2.commandNames → e.1 = e'.1 :=
    fun e he e' he' c => hdisj _ _ _ _ c (hget he) (hget he')
  have hp : l.Perm l' := hl.trans hl'.symm
  refine ⟨TheAggregateRegistry.registerAll_lookup_perm hp huniq, ?_,
    TheAggregateRegistry.registerAll_nodup ((List.perm_nodupKeys hl).mpr (AList.nodupKeys _)) hnames huniq⟩
  simp only [TheAggregateRegistry.registerAll_fst, List.nil_append]
  exact (hp.map _).flatten

/-- 同じコマンド `"c"` を扱う集約。 -/
def sharingAggregate (name : String) : AggregateDefinition Nat where
  projectionName := name
  emptyProjection _ := 0
  aggregateIdExtractorRegistry := ⟨∅⟩
  commandHandlerRegistry := ⟨[⟨"c", ⟨fun _ _ => .ok none⟩⟩].toAList⟩
  sourcingHandlerRegistry := ⟨∅⟩

/-- 集約 `"A"` と `"B"` がともに `"c"` を扱うと、`"c"` の指す集約は走査の後のほうになり、列には `"c"` が
二度現れる。 -/
theorem shared_command_routing_depends_on_order :
    ¬ ∀ (ds : List (Σ P : Type, AggregateDefinition P)) (l l' : List (Σ _ : String, AggregateHandle (List Event))),
      l.Perm (registryOf memoryStore ds).handlers.entries → l'.Perm (registryOf memoryStore ds).handlers.entries →
      (∀ c, (TheAggregateRegistry.registerAll ([], ∅) l).2.lookup c =
        (TheAggregateRegistry.registerAll ([], ∅) l').2.lookup c) ∧
      (TheAggregateRegistry.registerAll ([], ∅) l).1.Nodup := by
  intro h
  have := (h [⟨Nat, sharingAggregate "A"⟩, ⟨Nat, sharingAggregate "B"⟩] _ _ (List.Perm.refl _)
    (List.reverse_perm _)).1 "c"
  exact absurd this (by decide)

/-- 数を数える集約と `"c"` を扱う集約 `"B"` を、登録簿の順と逆の順に走査する。 -/
theorem register_independent_of_order_for_two :
    ((registryOf memoryStore [⟨Nat, counterAggregate⟩, ⟨Nat, sharingAggregate "B"⟩]).handlers.entries.map (·.1) ≠
      (registryOf memoryStore [⟨Nat, counterAggregate⟩, ⟨Nat, sharingAggregate "B"⟩]).handlers.entries.reverse.map
        (·.1)) ∧
    (∀ c, (c ∈ (TheAggregateRegistry.registerAll ([], ∅)
          (registryOf memoryStore [⟨Nat, counterAggregate⟩, ⟨Nat, sharingAggregate "B"⟩]).handlers.entries).1 ↔
          ∃ a h, (registryOf memoryStore [⟨Nat, counterAggregate⟩, ⟨Nat, sharingAggregate "B"⟩]).get a = some h ∧
            c ∈ h.commandNames) ∧
        (TheAggregateRegistry.registerAll ([], ∅)
          (registryOf memoryStore [⟨Nat, counterAggregate⟩, ⟨Nat, sharingAggregate "B"⟩]).handlers.entries).1.count c =
          (registryOf memoryStore [⟨Nat, counterAggregate⟩, ⟨Nat, sharingAggregate "B"⟩]).handlers.entries.countP
            (fun e => c ∈ e.2.commandNames) ∧
        (TheAggregateRegistry.registerAll ([], ∅)
          (registryOf memoryStore [⟨Nat, counterAggregate⟩, ⟨Nat, sharingAggregate "B"⟩]).handlers.entries).2.lookup c =
          ((registryOf memoryStore [⟨Nat, counterAggregate⟩, ⟨Nat, sharingAggregate "B"⟩]).handlers.entries.reverse.find?
            (fun e => c ∈ e.2.commandNames)).map (·.1)) ∧
    (∀ c, (TheAggregateRegistry.registerAll ([], ∅)
        (registryOf memoryStore [⟨Nat, counterAggregate⟩, ⟨Nat, sharingAggregate "B"⟩]).handlers.entries).2.lookup c =
      (TheAggregateRegistry.registerAll ([], ∅)
        (registryOf memoryStore [⟨Nat, counterAggregate⟩, ⟨Nat, sharingAggregate "B"⟩]).handlers.entries.reverse).2.lookup
          c) ∧
    (TheAggregateRegistry.registerAll ([], ∅)
        (registryOf memoryStore [⟨Nat, counterAggregate⟩, ⟨Nat, sharingAggregate "B"⟩]).handlers.entries).1.Perm
      (TheAggregateRegistry.registerAll ([], ∅)
        (registryOf memoryStore [⟨Nat, counterAggregate⟩, ⟨Nat, sharingAggregate "B"⟩]).handlers.entries.reverse).1 ∧
    (TheAggregateRegistry.registerAll ([], ∅)
      (registryOf memoryStore [⟨Nat, counterAggregate⟩, ⟨Nat, sharingAggregate "B"⟩]).handlers.entries).1.Nodup := by
  obtain ⟨hall, hdisj⟩ := register_independent_of_order memoryStore
    [⟨Nat, counterAggregate⟩, ⟨Nat, sharingAggregate "B"⟩] _ _ (List.Perm.refl _) (List.reverse_perm _)
  refine ⟨by decide, hall, hdisj fun a a' h h' c hg hg' hc hc' => ?_⟩
  obtain ⟨d, hd, rfl, rfl⟩ := registryOf_get hg
  obtain ⟨d', hd', rfl, rfl⟩ := registryOf_get hg'
  have hkeys : counterAggregate.commandHandlerRegistry.handlers.keys = ["Increment", "Create"] := rfl
  have hkeysB : (sharingAggregate "B").commandHandlerRegistry.handlers.keys = ["c"] := rfl
  simp only [List.mem_cons, List.mem_singleton, List.not_mem_nil, or_false] at hd hd'
  rcases hd with rfl | rfl <;> rcases hd' with rfl | rfl <;> first | rfl | skip
  all_goals
    simp only [AggregateDefinition.toHandle, hkeys, hkeysB, List.mem_cons, List.mem_singleton, List.not_mem_nil,
      or_false] at hc hc'
    first | (subst hc; revert hc'; decide) | (subst hc'; revert hc; decide)

/-! ## イベントストアの記録 -/

/-- どのイベントストアの上でも、定義を登録した受信ループと生成器がどう進んでも、届く状態ではいつでも、系が
送った `append_event` のイベントの列は、振り分けたコマンドごとの組に振り分けた順に分かれる。どの組も高々
一つの列しか持たず、結果が `Ok(Some(..))` かイベントストアの失敗でないコマンドの組は空である。 -/
theorem command_worker_appends_at_most_once_per_command {σ : Type} (S : EventStore σ)
    (ds : List (Σ P : Type, AggregateDefinition P)) (clientId : String) (inbound : Inbound)
    (client : EventStoreClient σ) (s : System σ) (h : Reachable (registryOf S ds) clientId inbound client s) :
    ∃ (calls : List Call) (batches : List (List (List Event))), s.client.calls = client.calls ++ calls ∧
      appendedEvents calls = batches.flatten ∧
      List.Forall₂ (fun b r => b.length ≤ (mayAppend r.result).toNat) batches s.results :=
  h.appendsCounted

theorem command_worker_appends_at_most_once_per_counter_command :
    ∃ s : System (List Event),
      Reachable (registryOf memoryStore [⟨Nat, counterAggregate⟩]) "" counterInbound ⟨[], []⟩ s ∧
      (appendedEvents s.client.calls).length = 2 ∧
      ∃ (calls : List Call) (batches : List (List (List Event))), s.client.calls = [] ++ calls ∧
        appendedEvents calls = batches.flatten ∧
        List.Forall₂ (fun b r => b.length ≤ (mayAppend r.result).toNat) batches s.results :=
  have h : Reachable (registryOf memoryStore [⟨Nat, counterAggregate⟩]) "" counterInbound ⟨[], []⟩ _ :=
    Reachable.turns .init counterTurns rfl
  ⟨_, h, rfl, command_worker_appends_at_most_once_per_command _ _ "" _ _ _ h⟩

/-- 記録をそのまま持つサーバーの上で、コマンドのハンドラがみな一度に高々一つのイベントしか出さず、始めの
記録で集約ごとの番号が記録の順に 0, 1, 2, … なら、受信ループと生成器がどう進んでも、番号がみな `i64::MAX`
より小さいうちは、集約ごとの番号は記録の順に 0, 1, 2, … である。 -/
theorem sequence_numbers_gapless_per_aggregate (ds : List (Σ P : Type, AggregateDefinition P))
    (clientId : String) (inbound : Inbound) (client : EventStoreClient (List Event)) (s : System (List Event))
    (h : Reachable (registryOf memoryStore ds) clientId inbound client s)
    (hone : ∀ d ∈ ds, ∀ name handler data projection (o : EmitApplicableEventsAndResponse d.1),
      d.2.commandHandlerRegistry.get name = some handler → handler.handle data projection = .ok (some o) →
        o.events.length ≤ 1)
    (h₀ : Gapless client.store) (hmax : ∀ e ∈ s.client.store, e.aggregateSequenceNumber < i64Max) :
    Gapless s.client.store :=
  h.memoryStoreInv (PreservedByAppends.below fun _ hs hmax d hd name handler data projection _ _ _ _ hh ho =>
    hs.append hmax (hone d hd name handler data projection _ hh ho) _ _ _) (fun _ => h₀) hmax

theorem sequence_numbers_gapless_for_counter :
    ∃ s : System (List Event),
      Reachable (registryOf memoryStore [⟨Nat, counterAggregate⟩]) "" counterInbound ⟨[], []⟩ s ∧
      s.client.store.map (·.aggregateSequenceNumber) = [0, 1] ∧
      (∀ e ∈ s.client.store, e.aggregateSequenceNumber < i64Max) ∧ Gapless s.client.store :=
  have h : Reachable (registryOf memoryStore [⟨Nat, counterAggregate⟩]) "" counterInbound ⟨[], []⟩ _ :=
    Reachable.turns .init counterTurns rfl
  have hmax : ∀ e : Event, e ∈ _ → e.aggregateSequenceNumber < i64Max := by decide
  ⟨_, h, rfl, hmax, sequence_numbers_gapless_per_aggregate _ "" _ _ _ h
    (fun d hd => by
      rw [List.mem_singleton] at hd
      subst hd
      exact fun _ _ _ _ _ => counterAggregate_emits_one)
    (fun _ => rfl) hmax⟩

end RustyDendrite.AxonUtils
