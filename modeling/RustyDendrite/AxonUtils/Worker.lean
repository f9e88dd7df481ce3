import RustyDendrite.AxonUtils.Aggregate
import RustyDendrite.AxonUtils.OutputStream

/-!
# 受信ループと生成器の組

`command_worker` は、受信ループと `create_output_stream` の生成器を、容量 10 の通り道
（`channel(10)`）でつなぐ。二つは別々に進むので、系の一歩は、どちらか一方の一歩である。
受信ループの一歩は、`await` で止まる場所から次の場所までを進める。267 行の処理は一歩で行う。
処理の中の `await` で生成器が進んでも、生成器はイベントストアを読まないので、結果は同じである。

系の状態は、証明のための三つの記録を持つ：受け取った命令、処理の結果、生成器が受け取った結果。
-/

namespace RustyDendrite.AxonUtils

/-- 受信の流れ：残りの命令と、その後の終わり方。`ending` が `none` のときは流れが閉じていて、
`message()` はその後ずっと `Ok(None)` を返す。 -/
structure Inbound where
  messages : List CommandProviderInbound
  ending : Option Status

/-- `inbound.message().await`。 -/
def Inbound.message (inbound : Inbound) : Except Status (Option CommandProviderInbound) × Inbound :=
  match inbound.messages, inbound.ending with
  | m :: ms, _ => (.ok (some m), { inbound with messages := ms })
  | [], some status => (.error status, inbound)
  | [], none => (.ok none, inbound)

/-- 受信ループの止まっている場所。 -/
inductive CommandWorker where
  /-- 259 行の `inbound.message().await`。 -/
  | awaitingMessage
  /-- コマンドを受け取り、265-269 行の処理の前にいる。 -/
  | handling (command : Command)
  /-- 280 行の `tx.send(..).await`。 -/
  | sending (result : AxonCommandResult)
  /-- 288 行で `Err(anyhow!(e.code()))` を返した。 -/
  | returned (code : Nat)

/-- 送り手 `tx` が落ちているか。`tx` は `command_worker` が返るときに落ちる。 -/
def CommandWorker.isReturned : CommandWorker → Bool
  | .returned _ => true
  | _ => false

def CommandProviderInbound.command? (inbound : CommandProviderInbound) : Option Command :=
  match inbound.request with
  | some (.command command) => some command
  | _ => none

/-- 容量 10 の `channel(10)`。 -/
def channelCapacity : Nat := 10

variable {σ : Type}

/-- 262-269 行：対応表で集約の名前を引き、登録簿の集約に処理させる。 -/
def dispatch (mapping : HashMap String) (registry : TheAggregateRegistry σ) (env : Env)
    (command : Command) (client : EventStoreClient σ) :
    Except Error (Option EmitEventsAndResponse) × EventStoreClient σ :=
  match mapping.lookup command.name with
  | some aggregateName =>
    match registry.get aggregateName with
    | some aggregateDefinition => aggregateDefinition.handle env command client
    | none => (.error .couldNotFindAggregateHandler, client)
  | none => (.error .couldNotFindAggregateHandler, client)

/-- 系の状態。`received`、`results`、`taken` は証明のための記録である。 -/
structure System (σ : Type) where
  inbound : Inbound
  worker : CommandWorker
  client : EventStoreClient σ
  queue : List AxonCommandResult
  stream : OutputStream
  trace : List CommandProviderOutbound
  received : List CommandProviderInbound
  results : List AxonCommandResult
  taken : List AxonCommandResult

section System

variable (registry : TheAggregateRegistry σ) (clientId : String)

/-- 244-251 行：空の列と空の対応表に登録し、生成器を作る。 -/
def System.init (inbound : Inbound) (client : EventStoreClient σ) : System σ :=
  { inbound, client
    worker := .awaitingMessage
    queue := []
    stream := .subscribing (registry.register [] ∅).1
    trace := []
    received := []
    results := []
    taken := [] }

/-- 受信ループの一歩。`env` は処理の中で読む UUID と時刻。 -/
def workerStep (env : Env) (s : System σ) : Option (System σ) :=
  match s.worker with
  | .awaitingMessage =>
    match s.inbound.message with
    | (.ok (some m), inbound) =>
      some { s with
        inbound
        received := s.received ++ [m]
        worker := match m.command? with
          | some command => .handling command
          | none => .awaitingMessage }
    | (.ok none, inbound) => some { s with inbound }
    | (.error e, inbound) => some { s with inbound, worker := .returned e.code }
  | .handling command =>
    let (result, client) := dispatch (registry.register [] ∅).2 registry env command s.client
    let r : AxonCommandResult := { messageIdentifier := command.messageIdentifier, result }
    some { s with client, worker := .sending r, results := s.results ++ [r] }
  | .sending r =>
    if s.queue.length < channelCapacity then
      some { s with queue := s.queue ++ [r], worker := .awaitingMessage }
    else none
  | .returned _ => none

/-- 生成器の一歩。 -/
def streamStep (s : System σ) : Option (System σ) :=
  match outputStep clientId s.worker.isReturned s.stream s.queue with
  | some (stream, queue, out) =>
    some { s with
      stream, queue
      trace := s.trace ++ out.toList
      taken := s.taken ++ s.stream.dequeued s.queue }
  | none => none

/-- 系の一歩：どちらか一方が進む。 -/
inductive Step : System σ → System σ → Prop
  | worker {s s' : System σ} (env : Env) : workerStep registry env s = some s' → Step s s'
  | stream {s s' : System σ} : streamStep clientId s = some s' → Step s s'

/-- 始めの状態から届く状態。 -/
inductive Reachable (inbound : Inbound) (client : EventStoreClient σ) : System σ → Prop
  | init : Reachable inbound client (System.init registry inbound client)
  | step {s s' : System σ} : Reachable inbound client s → Step registry clientId s s' →
      Reachable inbound client s'

/-- 系の一歩でどちらが進むか。受信ループなら、処理の中で読む UUID と時刻も決める。 -/
inductive Turn where
  | worker (env : Env)
  | stream

/-- 順番の列の通りに系を進める。進めない順番があれば `none`。 -/
def runTurns : List Turn → System σ → Option (System σ)
  | [], s => some s
  | .worker env :: turns, s => (workerStep registry env s).bind (runTurns turns)
  | .stream :: turns, s => (streamStep clientId s).bind (runTurns turns)

end System

end RustyDendrite.AxonUtils
