import RustyDendrite.AxonUtils.Basic

/-!
# イベントストア

イベントストアは外のサーバーで、このファイルのコードからは三つの呼び出しで使う。サーバーは状態 `σ` と
三つの呼び出しへの応答で表す。クライアントの側には、送った要求の記録を持たせる。この記録は証明のための
変数で、コードの振る舞いには影響しない。
-/

namespace RustyDendrite.AxonUtils

structure ReadHighestSequenceNrRequest where
  aggregateId : String
  fromSequenceNr : Int
  deriving Repr, DecidableEq

structure ReadHighestSequenceNrResponse where
  toSequenceNr : Int
  deriving Repr, DecidableEq

/-- サーバーの応答。失敗は表示の文字列で表す。状態を変えるのは、成功した `append_event` だけである。 -/
structure EventStore (σ : Type) where
  listAggregateEvents : σ → String → Except String (List Event)
  readHighestSequenceNr : σ → ReadHighestSequenceNrRequest → Except String ReadHighestSequenceNrResponse
  appendEvent : σ → List Event → Except String σ

/-- クライアントが送った要求。 -/
inductive Call where
  | listAggregateEvents (aggregateId : String)
  | readHighestSequenceNr (request : ReadHighestSequenceNrRequest)
  | appendEvent (events : List Event)
  deriving Repr, DecidableEq

/-- `EventStoreClient<Channel>`：つながった先のサーバーの状態と、送った要求の記録。 -/
structure EventStoreClient (σ : Type) where
  store : σ
  calls : List Call

variable {σ : Type} (S : EventStore σ)

/-- Modelled from the spec: `event_query.rs` の `query_events_from_client`。集約のイベントを、
番号の順に返す。 -/
def queryEventsFromClient (client : EventStoreClient σ) (aggregateId : String) :
    Except Error (List Event) × EventStoreClient σ :=
  ((S.listAggregateEvents client.store aggregateId).mapError .status,
    { client with calls := client.calls ++ [.listAggregateEvents aggregateId] })

def EventStoreClient.readHighestSequenceNr (client : EventStoreClient σ)
    (request : ReadHighestSequenceNrRequest) :
    Except Error ReadHighestSequenceNrResponse × EventStoreClient σ :=
  ((S.readHighestSequenceNr client.store request).mapError .status,
    { client with calls := client.calls ++ [.readHighestSequenceNr request] })

def EventStoreClient.appendEvent (client : EventStoreClient σ) (events : List Event) :
    Except Error Unit × EventStoreClient σ :=
  match S.appendEvent client.store events with
  | .ok store => (.ok (), { store, calls := client.calls ++ [.appendEvent events] })
  | .error e => (.error (.status e), { client with calls := client.calls ++ [.appendEvent events] })

/-! ## 記録をそのまま持つサーバー -/

/-- 集約のイベントの最大の番号。イベントがなければ `-1`。 -/
def highestSequenceNr (events : List Event) (aggregateId : String) : Int :=
  events.foldl (fun h e => if e.aggregateIdentifier = aggregateId then max h e.aggregateSequenceNumber else h)
    (-1)

/-- 送られたイベントをすべて後ろに加えるサーバー。 -/
def memoryStore : EventStore (List Event) where
  listAggregateEvents events aggregateId := .ok (events.filter (·.aggregateIdentifier == aggregateId))
  readHighestSequenceNr events request := .ok ⟨highestSequenceNr events request.aggregateId⟩
  appendEvent events new := .ok (events ++ new)

end RustyDendrite.AxonUtils
