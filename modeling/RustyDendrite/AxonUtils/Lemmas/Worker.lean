import RustyDendrite.AxonUtils.Worker
import RustyDendrite.AxonUtils.Lemmas.OutputStream

/-!
# 受信ループと生成器の不変条件

系の不変条件 `SystemInv` を書き、受信ループの一歩と生成器の一歩がそれを保つことを示す。
要の等式は、処理の結果が「生成器が受け取ったもの、待ち行列、受信ループが送ろうとしているもの」に
この順で分かれることと、結果の識別子が受け取ったコマンドの識別子と同じ順に並ぶことである。
-/

namespace RustyDendrite.AxonUtils

/-- 受け取った命令のうちのコマンド。 -/
def commandsOf (received : List CommandProviderInbound) : List Command :=
  received.filterMap (·.command?)

namespace CommandWorker

/-- 受け取ったが、まだ結果のないコマンドの識別子。 -/
def handlingIds : CommandWorker → List String
  | .handling command => [command.messageIdentifier]
  | _ => []

/-- 送ろうとしている結果。 -/
def pending : CommandWorker → List AxonCommandResult
  | .sending result => [result]
  | _ => []

/-- 受信ループが持っていて、まだ待ち行列に入っていないものの識別子。 -/
def inFlight (w : CommandWorker) : List String :=
  w.pending.map (·.messageIdentifier) ++ w.handlingIds

end CommandWorker

@[simp] theorem commandsOf_append (r r' : List CommandProviderInbound) :
    commandsOf (r ++ r') = commandsOf r ++ commandsOf r' := by
  simp [commandsOf]

@[simp] theorem commandsOf_singleton (m : CommandProviderInbound) : commandsOf [m] = m.command?.toList := by
  cases h : m.command? <;> simp [commandsOf, h]

theorem outputStep_queue {clientId : String} {closed : Bool} {g g' : OutputStream}
    {q q' : List AxonCommandResult} {o : Option CommandProviderOutbound}
    (h : outputStep clientId closed g q = some (g', q', o)) : q = g.dequeued q ++ q' := by
  rcases outputStep_cases h with ⟨_, _, rfl, -, rfl, -⟩ | ⟨rfl, -, rfl, -⟩ | ⟨_, _, rfl, rfl, -⟩ |
    ⟨_, rfl, rfl, -, -, rfl, -⟩ | ⟨_, rfl, -, -, rfl, -⟩ | ⟨_, rfl, -, -, rfl, -⟩ | ⟨_, rfl, -, rfl, -⟩ <;>
    rfl

variable {σ : Type} {registry : TheAggregateRegistry σ} {clientId : String}

/-- 系の不変条件。`inbound₀` は始めの受信の流れ、`commands` は購読するコマンドの名前。 -/
structure SystemInv (commands : List String) (clientId : String) (inbound₀ : Inbound) (s : System σ) :
    Prop where
  received : s.received ++ s.inbound.messages = inbound₀.messages
  ending : s.inbound.ending = inbound₀.ending
  returned : s.worker.isReturned = true → s.inbound.ending.isSome
  results : s.results.map (·.messageIdentifier) ++ s.worker.handlingIds =
    (commandsOf s.received).map (·.messageIdentifier)
  queue : s.results = s.taken ++ s.queue ++ s.worker.pending
  capacity : s.queue.length ≤ channelCapacity
  stream : OutInv clientId commands s.stream s.trace s.taken
  finished : s.stream = .finished → s.worker.isReturned = true ∧ s.queue = []

theorem SystemInv.init (inbound : Inbound) (client : EventStoreClient σ) :
    SystemInv (registry.register [] ∅).1 clientId inbound (System.init registry inbound client) where
  received := rfl
  ending := rfl
  returned := by simp [System.init, CommandWorker.isReturned]
  results := rfl
  queue := rfl
  capacity := by simp [System.init]
  stream := OutInv.init
  finished := nofun

section Steps

variable {commands : List String} {inbound₀ : Inbound} {s s' : System σ}

theorem SystemInv.workerStep {env : Env} (hi : SystemInv commands clientId inbound₀ s)
    (h : workerStep registry env s = some s') : SystemInv commands clientId inbound₀ s' := by
  obtain ⟨⟨ms, e⟩, w, c, q, g, t, rc, rs, k⟩ := s
  obtain ⟨hrec, hend, hret, hres, hq, hcap, hg, hfin⟩ := hi
  dsimp only at hrec hend hret hres hq hcap hg hfin
  have hnf : g ≠ .finished := fun hf => by
    have := (hfin hf).1
    cases w <;> simp_all [CommandWorker.isReturned, AxonUtils.workerStep]
  cases w with
  | awaitingMessage =>
    cases ms with
    | cons m ms =>
      simp only [AxonUtils.workerStep, Inbound.message, Option.some.injEq] at h
      subst h
      cases hc : m.command? with
      | none =>
        exact ⟨by simpa using hrec, hend, by simp [CommandWorker.isReturned],
          by simpa [hc, CommandWorker.handlingIds] using hres, hq, hcap, hg, (absurd · hnf)⟩
      | some command =>
        refine ⟨by simpa using hrec, hend, by simp [CommandWorker.isReturned], ?_, hq, hcap, hg, (absurd · hnf)⟩
        simp only [CommandWorker.handlingIds] at hres ⊢
        simp [hc, ← hres]
    | nil =>
      cases e <;> simp only [AxonUtils.workerStep, Inbound.message, Option.some.injEq] at h <;> subst h
      · exact ⟨hrec, hend, hret, hres, hq, hcap, hg, (absurd · hnf)⟩
      · exact ⟨hrec, hend, fun _ => rfl, hres, hq, hcap, hg, (absurd · hnf)⟩
  | handling command =>
    simp only [AxonUtils.workerStep, Option.some.injEq] at h
    subst h
    refine ⟨hrec, hend, by simp [CommandWorker.isReturned], ?_, ?_, hcap, hg, (absurd · hnf)⟩
    · simpa [CommandWorker.handlingIds] using hres
    · simp [CommandWorker.pending, hq]
  | sending r =>
    simp only [AxonUtils.workerStep] at h
    split at h <;> simp only [Option.some.injEq, reduceCtorEq] at h
    rename_i hlt
    subst h
    refine ⟨hrec, hend, by simp [CommandWorker.isReturned], by simpa [CommandWorker.handlingIds] using hres,
      by simp [CommandWorker.pending, hq], ?_, hg, (absurd · hnf)⟩
    simp only [List.length_append, List.length_singleton]
    exact hlt
  | returned _ => cases h

theorem SystemInv.streamStep (hi : SystemInv commands clientId inbound₀ s)
    (h : streamStep clientId s = some s') : SystemInv commands clientId inbound₀ s' := by
  simp only [AxonUtils.streamStep] at h
  split at h <;> obtain ⟨⟨⟩⟩ := h
  rename_i g' q' o hs
  have hq := outputStep_queue hs
  refine ⟨hi.received, hi.ending, hi.returned, hi.results, ?_, ?_, hi.stream.step hs, fun hf => ?_⟩
  · have hr := hi.queue
    generalize s.stream.dequeued s.queue = d at hq ⊢
    rw [hr, hq]; simp
  · show q'.length ≤ channelCapacity
    have := congrArg List.length hq
    simp only [List.length_append] at this
    have := hi.capacity
    omega
  · rcases outputStep_cases hs with ⟨_, _, -, h', -⟩ | ⟨-, h', -⟩ | ⟨_, _, -, -, h', -⟩ |
      ⟨_, -, -, hc, -, rfl, -⟩ | ⟨_, -, -, h', -⟩ | ⟨_, -, -, h', -⟩ | ⟨_, -, h', -⟩ <;>
      first | exact ⟨hc, rfl⟩ | exact absurd (h'.symm.trans hf) nofun

end Steps

theorem workerStep_client {env : Env} {s s' : System σ} (h : workerStep registry env s = some s') :
    s'.client = s.client ∨ ∃ command, s.worker = .handling command ∧
      s'.client = (dispatch (registry.register [] ∅).2 registry env command s.client).2 := by
  obtain ⟨⟨ms, e⟩, w, c, q, g, t, rc, rs, k⟩ := s
  cases w with
  | awaitingMessage =>
    cases ms with
    | cons m ms =>
      simp only [AxonUtils.workerStep, Inbound.message, Option.some.injEq] at h
      exact .inl (by rw [← h])
    | nil => cases e <;> simp only [AxonUtils.workerStep, Inbound.message, Option.some.injEq] at h <;>
        exact .inl (by rw [← h])
  | handling command =>
    simp only [AxonUtils.workerStep, Option.some.injEq] at h
    exact .inr ⟨command, rfl, by rw [← h]⟩
  | sending r =>
    simp only [AxonUtils.workerStep] at h
    split at h <;> simp only [Option.some.injEq, reduceCtorEq] at h
    exact .inl (by rw [← h])
  | returned _ => cases h

/-- 受信ループの一歩でできること：命令を受け取る、閉じた流れで空回りする、失敗で返る、コマンドを振り分ける、
結果を待ち行列に入れる。 -/
theorem workerStep_cases {env : Env} {s s' : System σ} (h : workerStep registry env s = some s') :
    (∃ m ms, s.worker = .awaitingMessage ∧ s.inbound.messages = m :: ms ∧
      s' = { s with inbound := { s.inbound with messages := ms }, received := s.received ++ [m],
                    worker := match m.command? with
                      | some command => .handling command
                      | none => .awaitingMessage }) ∨
    (s.worker = .awaitingMessage ∧ s.inbound.messages = [] ∧ s.inbound.ending = none ∧ s' = s) ∨
    (∃ status, s.worker = .awaitingMessage ∧ s.inbound.messages = [] ∧ s.inbound.ending = some status ∧
      s' = { s with worker := .returned status.code }) ∨
    (∃ command, s.worker = .handling command ∧
      s' = { s with
        client := (dispatch (registry.register [] ∅).2 registry env command s.client).2
        worker := .sending ⟨command.messageIdentifier,
          (dispatch (registry.register [] ∅).2 registry env command s.client).1⟩
        results := s.results ++ [⟨command.messageIdentifier,
          (dispatch (registry.register [] ∅).2 registry env command s.client).1⟩] }) ∨
    (∃ r, s.worker = .sending r ∧ s.queue.length < channelCapacity ∧
      s' = { s with queue := s.queue ++ [r], worker := .awaitingMessage }) := by
  obtain ⟨⟨ms, e⟩, w, c, q, g, t, rc, rs, k⟩ := s
  cases w with
  | awaitingMessage =>
    cases ms with
    | cons m ms =>
      simp only [AxonUtils.workerStep, Inbound.message, Option.some.injEq] at h
      exact .inl ⟨m, ms, rfl, rfl, h.symm⟩
    | nil =>
      cases e <;> simp only [AxonUtils.workerStep, Inbound.message, Option.some.injEq] at h
      · exact .inr <| .inl ⟨rfl, rfl, rfl, h.symm⟩
      · exact .inr <| .inr <| .inl ⟨_, rfl, rfl, rfl, h.symm⟩
  | handling command =>
    simp only [AxonUtils.workerStep, Option.some.injEq] at h
    exact .inr <| .inr <| .inr <| .inl ⟨command, rfl, h.symm⟩
  | sending r =>
    simp only [workerStep] at h
    split at h <;> simp only [Option.some.injEq, reduceCtorEq] at h
    exact .inr <| .inr <| .inr <| .inr ⟨r, rfl, ‹_›, h.symm⟩
  | returned _ => cases h

theorem streamStep_client {s s' : System σ} (h : streamStep clientId s = some s') : s'.client = s.client := by
  simp only [AxonUtils.streamStep] at h
  split at h <;> obtain ⟨⟨⟩⟩ := h
  rfl

theorem Step.trace_isPrefix {s s' : System σ} (hs : Step registry clientId s s') : s.trace <+: s'.trace := by
  cases hs with
  | worker env h =>
    rcases workerStep_cases h with ⟨_, _, -, -, rfl⟩ | ⟨-, -, -, rfl⟩ | ⟨_, -, -, -, rfl⟩ | ⟨_, -, rfl⟩ |
      ⟨_, -, -, rfl⟩ <;> exact List.prefix_refl _
  | stream h =>
    simp only [AxonUtils.streamStep] at h
    split at h <;> obtain ⟨⟨⟩⟩ := h
    exact List.prefix_append _ _

theorem Reachable.systemInv {inbound : Inbound} {client : EventStoreClient σ} {s : System σ}
    (h : Reachable registry clientId inbound client s) :
    SystemInv (registry.register [] ∅).1 clientId inbound s := by
  induction h with
  | init => exact SystemInv.init inbound client
  | step _ hs ih =>
    cases hs with
    | worker env h => exact ih.workerStep h
    | stream h => exact ih.streamStep h

/-- 順番の列の通りに進めて着く状態は、届く状態である。 -/
theorem Reachable.turns {inbound : Inbound} {client : EventStoreClient σ} {s s' : System σ}
    (h : Reachable registry clientId inbound client s) (turns : List Turn)
    (hrun : runTurns registry clientId turns s = some s') : Reachable registry clientId inbound client s' := by
  induction turns generalizing s with
  | nil => cases hrun; exact h
  | cons t turns ih =>
    cases t with
    | worker env =>
      obtain ⟨s₁, h₁, hrun⟩ := Option.bind_eq_some.mp hrun
      exact ih (h.step (.worker env h₁)) hrun
    | stream =>
      obtain ⟨s₁, h₁, hrun⟩ := Option.bind_eq_some.mp hrun
      exact ih (h.step (.stream h₁)) hrun

/-! ## 進めないとき -/

/-- 受信ループが進めないのは、返ったときか、送ろうとしている結果の待ち行列がいっぱいのときだけである。 -/
theorem workerStep_eq_none {env : Env} {s : System σ} (h : workerStep registry env s = none) :
    s.worker.isReturned = true ∨ ∃ r, s.worker = .sending r ∧ channelCapacity ≤ s.queue.length := by
  obtain ⟨⟨ms, e⟩, w, c, q, g, t, rc, rs, k⟩ := s
  cases w with
  | awaitingMessage =>
    cases ms with
    | cons m ms => simp [AxonUtils.workerStep, Inbound.message] at h
    | nil => cases e <;> simp [AxonUtils.workerStep, Inbound.message] at h
  | handling command => simp [AxonUtils.workerStep] at h
  | sending r =>
    simp only [AxonUtils.workerStep] at h
    split at h
    · cases h
    · exact .inr ⟨r, rfl, Nat.le_of_not_lt ‹_›⟩
  | returned _ => exact .inl rfl

/-- 生成器が進めないのは、終わったときか、待ち行列が空で送り手がまだ落ちていないときだけである。 -/
theorem outputStep_eq_none {closed : Bool} {g : OutputStream} {q : List AxonCommandResult}
    (h : outputStep clientId closed g q = none) :
    g = .finished ∨ (∃ p, g = .receiving p) ∧ q = [] ∧ closed = false := by
  cases g with
  | subscribing rest => cases rest <;> cases h
  | receiving p =>
    cases q with
    | nil => cases closed <;> simp_all [outputStep]
    | cons r q => cases h
  | responded p => simp only [outputStep] at h; split at h <;> cases h
  | granted p => cases h
  | finished => exact .inl rfl

theorem streamStep_eq_none {s : System σ} (h : streamStep clientId s = none) :
    outputStep clientId s.worker.isReturned s.stream s.queue = none := by
  simp only [AxonUtils.streamStep] at h
  split at h
  · cases h
  · assumption

/-! ## 応答と結果の対応 -/

/-- 応答が処理の結果を伝えている：失敗なら `error_code` が `"ERROR"` でエラーのメッセージを持ち、
成功なら `error_code` が空でメッセージを持たず、`payload` は結果の応答である。 -/
def ResponseCarries : Except Error (Option EmitEventsAndResponse) → CommandResponse → Prop
  | .error e, response =>
    response.errorCode = "ERROR" ∧
      response.errorMessage =
        some { message := e.toString, location := "", details := [], errorCode := "ERROR" }
  | .ok outcome, response =>
    response.errorCode = "" ∧ response.errorMessage = none ∧
      response.payload = outcome.bind (·.response)

@[simp] theorem AxonCommandResult.toCommandResponse_requestIdentifier (r : AxonCommandResult) :
    r.toCommandResponse.requestIdentifier = r.messageIdentifier := by
  unfold AxonCommandResult.toCommandResponse; split <;> rfl

theorem AxonCommandResult.toCommandResponse_carries (r : AxonCommandResult) :
    ResponseCarries r.result r.toCommandResponse := by
  unfold AxonCommandResult.toCommandResponse
  split <;> rename_i h <;> rw [h]
  · rename_i o; cases o <;> exact ⟨rfl, rfl, rfl⟩
  · exact ⟨rfl, rfl⟩

section Correlation

variable {commands : List String} {inbound₀ : Inbound} {s : System σ}

theorem SystemInv.responses_eq (hi : SystemInv commands clientId inbound₀ s) :
    responses s.trace = s.taken.map (·.toCommandResponse) :=
  hi.stream.responses_eq

/-- 出した応答、待ち行列、受信ループの持つものの識別子を並べると、受け取ったコマンドの識別子になる。 -/
theorem SystemInv.correlation (hi : SystemInv commands clientId inbound₀ s) :
    (responses s.trace).map (·.requestIdentifier) ++ s.queue.map (·.messageIdentifier) ++
      s.worker.inFlight = (commandsOf s.received).map (·.messageIdentifier) := by
  rw [← hi.results, hi.queue, hi.responses_eq, CommandWorker.inFlight]
  simp [Function.comp_def]

theorem SystemInv.response_result (hi : SystemInv commands clientId inbound₀ s) {i : Nat}
    {response : CommandResponse} (h : (responses s.trace)[i]? = some response) :
    ∃ r, s.results[i]? = some r ∧ response = r.toCommandResponse := by
  rw [hi.responses_eq, List.getElem?_map, Option.map_eq_some'] at h
  obtain ⟨r, hr, rfl⟩ := h
  refine ⟨r, ?_, rfl⟩
  rw [hi.queue, List.append_assoc, List.getElem?_append_left (List.getElem?_eq_some_iff.mp hr).1, hr]

end Correlation

end RustyDendrite.AxonUtils
