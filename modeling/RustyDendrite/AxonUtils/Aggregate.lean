import RustyDendrite.AxonUtils.EventStore

/-!
# 集約とコマンドの処理

集約の定義、`handle_command`、`store_events` と、集約の登録簿（`TheAggregateRegistry`）。
`handle_command` は、コードの段階ごとの関数に分けて書く：識別子の取り出し、射影の復元、
ハンドラの後の識別子の決定、保存。
-/

namespace RustyDendrite.AxonUtils

structure AggregateDefinition (P : Type) where
  projectionName : String
  emptyProjection : Unit → P
  aggregateIdExtractorRegistry : TheHandlerRegistry Unit String
  commandHandlerRegistry : TheHandlerRegistry P (EmitApplicableEventsAndResponse P)
  sourcingHandlerRegistry : TheHandlerRegistry P P

/-- `store_events` が読む外の値：`Uuid::new_v4()` を書いた文字列と、`SystemTime::now()`
（エポックからのナノ秒）。 -/
structure Env where
  messageIdentifier : String
  now : Int

/-- `now.duration_since(UNIX_EPOCH)?.as_millis()`。 -/
def durationSinceEpochMillis (now : Int) : Option Nat :=
  if 0 ≤ now then some (now.toNat / 1000000) else none

/-- `as i64`：下の 64 ビットを符号付きで読む。 -/
def asI64 (n : Nat) : Int :=
  if n % 2 ^ 64 < 2 ^ 63 then n % 2 ^ 64 else (n % 2 ^ 64 : Nat) - 2 ^ 64

variable {σ P : Type} (S : EventStore σ)

/-! ## `store_events` -/

/-- `i64::MAX`。 -/
def i64Max : Int := 2 ^ 63 - 1

/-- `store_events` の `map` の中身：出したイベント一つから `Event` を作る。409 行の i64 の `+ 1` は、
リリースのビルド（`overflow-checks` なし）の通り 2^64 を法として回り、`i64::MAX + 1` は `i64::MIN` になる。 -/
def eventMessage (messageIdentifier : String) (timestamp : Int) (aggregateId : String)
    (response : ReadHighestSequenceNrResponse) (e : String × ApplicableTo P) : Event :=
  { messageIdentifier, timestamp
    aggregateIdentifier := aggregateId
    aggregateSequenceNumber := (response.toSequenceNr + 1).bmod (2 ^ 64)
    aggregateType := "Greeting"
    payload := some { type := e.1, revision := "", data := e.2.encodeU8 }
    snapshot := false }

def storeEvents (env : Env) (client : EventStoreClient σ) (aggregateId : String)
    (events : EmitApplicableEventsAndResponse P) : Except Error Unit × EventStoreClient σ :=
  match client.readHighestSequenceNr S { aggregateId, fromSequenceNr := 0 } with
  | (.error e, client) => (.error e, client)
  | (.ok response, client) =>
    match durationSinceEpochMillis env.now with
    | none => (.error .systemTime, client)
    | some millis =>
      client.appendEvent S
        (events.events.map (eventMessage env.messageIdentifier (asI64 millis) aggregateId response))

/-! ## `handle_command` -/

namespace AggregateDefinition

/-- 識別子を取り出すハンドラが `type` にあれば、それを `data` に使う。なければ `None`。 -/
def extractAggregateId (d : AggregateDefinition P) (type : String) (data : Bytes) :
    Except Error (Option String) :=
  match d.aggregateIdExtractorRegistry.get type with
  | some extractor => (extractor.handle data ()).mapError .handler
  | none => .ok none

/-- 177-186 行：履歴のイベントを順に射影に当てる。 -/
def replay (d : AggregateDefinition P) : P → List Event → Except Error P
  | projection, [] => .ok projection
  | projection, event :: events =>
    match event.payload with
    | none => d.replay projection events
    | some payload =>
      match d.sourcingHandlerRegistry.get payload.type with
      | none => .error (.missingSourcingHandler payload.type)
      | some sourcingHandler =>
        match sourcingHandler.handle payload.data projection with
        | .error e => .error (.handler e)
        | .ok none => d.replay projection events
        | .ok (some p) => d.replay p events

/-- 190-196 行：ハンドラの前に識別子がなく、結果に応答があれば、応答の型で識別子を取り出す。 -/
def resolveAggregateId (d : AggregateDefinition P) :
    Option String → Option (EmitApplicableEventsAndResponse P) → Except Error (Option String)
  | none, some ⟨_, some r⟩ => d.extractAggregateId r.type r.data
  | aggregateId, _ => .ok aggregateId

end AggregateDefinition

/-- 174-187 行：空の射影を作り、識別子があれば履歴を読んで当てる。 -/
def restoreProjection (d : AggregateDefinition P) (aggregateId : Option String)
    (client : EventStoreClient σ) : Except Error P × EventStoreClient σ :=
  match aggregateId with
  | none => (.ok (d.emptyProjection ()), client)
  | some aggregateId =>
    match queryEventsFromClient S client aggregateId with
    | (.error e, client) => (.error e, client)
    | (.ok events, client) => (d.replay (d.emptyProjection ()) events, client)

/-- 197-213 行：識別子があれば結果のイベントを保存し、応答だけを返す。 -/
def persist (env : Env) (aggregateId : Option String)
    (result : Option (EmitApplicableEventsAndResponse P)) (client : EventStoreClient σ) :
    Except Error (Option EmitEventsAndResponse) × EventStoreClient σ :=
  match aggregateId with
  | none => (.error .missingAggregateIdentifier, client)
  | some aggregateId =>
    match result with
    | none => (.ok none, client)
    | some result =>
      match storeEvents S env client aggregateId result with
      | (.error e, client) => (.error e, client)
      | (.ok (), client) => (.ok (some { events := [], response := result.response }), client)

/-- 189 行から後：ハンドラの結果から識別子を決めて保存する。 -/
def finishCommand (env : Env) (d : AggregateDefinition P) (aggregateId : Option String)
    (result : Except String (Option (EmitApplicableEventsAndResponse P))) (client : EventStoreClient σ) :
    Except Error (Option EmitEventsAndResponse) × EventStoreClient σ :=
  match result with
  | .error e => (.error (.handler e), client)
  | .ok result =>
    match d.resolveAggregateId aggregateId result with
    | .error e => (.error e, client)
    | .ok aggregateId => persist S env aggregateId result client

def handleCommand (env : Env) (command : Command) (d : AggregateDefinition P)
    (client : EventStoreClient σ) : Except Error (Option EmitEventsAndResponse) × EventStoreClient σ :=
  match command.payload.map (·.data) with
  | none => (.error (.noPayloadData command.name), client)
  | some data =>
    match d.extractAggregateId command.name data with
    | .error e => (.error e, client)
    | .ok aggregateId =>
      match d.commandHandlerRegistry.get command.name with
      | none => (.error (.noHandler command.name), client)
      | some handler =>
        match restoreProjection S d aggregateId client with
        | (.error e, client) => (.error e, client)
        | (.ok projection, client) => finishCommand S env d aggregateId (handler.handle data projection) client

/-! ## 集約の登録簿 -/

/-- `Box<dyn AggregateHandle>`：トレイトの三つのメソッド。 -/
structure AggregateHandle (σ : Type) where
  name : String
  handle : Env → Command → EventStoreClient σ →
    Except Error (Option EmitEventsAndResponse) × EventStoreClient σ
  commandNames : List String

/-- 123-137 行：集約の定義の `AggregateHandle`。コマンドの名前は、コマンドの登録簿を走査した順に並ぶ。 -/
def AggregateDefinition.toHandle (d : AggregateDefinition P) : AggregateHandle σ where
  name := d.projectionName
  handle env command client := handleCommand S env command d client
  commandNames := d.commandHandlerRegistry.handlers.keys

structure TheAggregateRegistry (σ : Type) where
  handlers : HashMap (AggregateHandle σ)

def emptyAggregateRegistry : TheAggregateRegistry σ :=
  { handlers := ∅ }

namespace TheAggregateRegistry

/-- 名前で登録する。同じ名前の集約は置き換わる。常に `Ok(())` を返す。 -/
def insert (r : TheAggregateRegistry σ) (aggregateHandle : AggregateHandle σ) : TheAggregateRegistry σ :=
  { handlers := r.handlers.insert aggregateHandle.name aggregateHandle }

def get (r : TheAggregateRegistry σ) (name : String) : Option (AggregateHandle σ) :=
  r.handlers.lookup name

/-- 101-104 行：一つの集約のコマンドの名前を、列の後ろと対応表に加える。 -/
def registerCommands (aggregateName : String) :
    List String × HashMap String → List String → List String × HashMap String
  | acc, [] => acc
  | (commands, mapping), commandName :: commandNames =>
    registerCommands aggregateName
      (commands ++ [commandName], mapping.insert commandName aggregateName) commandNames

/-- 走査の各集約について、そのコマンドの名前を加える。 -/
def registerAll : List String × HashMap String → List (Σ _ : String, AggregateHandle σ) →
    List String × HashMap String
  | acc, [] => acc
  | acc, ⟨aggregateName, aggregateHandle⟩ :: entries =>
    registerAll (registerCommands aggregateName acc aggregateHandle.commandNames) entries

def register (r : TheAggregateRegistry σ) (commands : List String) (mapping : HashMap String) :
    List String × HashMap String :=
  registerAll (commands, mapping) r.handlers.entries

end TheAggregateRegistry

end RustyDendrite.AxonUtils
