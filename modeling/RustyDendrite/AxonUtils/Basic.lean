import Mathlib

/-!
# 命令とメッセージの形

`command_worker.rs` が読み書きする gRPC のメッセージと、ハンドラの登録簿。メッセージは、このファイルの
コードが読むか書くフィールドだけを持つ。毎回新しく作る UUID（命令の識別子など）は含めない。
-/

namespace RustyDendrite.AxonUtils

/-- protobuf の `bytes`。 -/
abbrev Bytes := List UInt8

/-- `HashMap<String, V>`。走査の順は `entries` の順で、その順は決まっていない。 -/
abbrev HashMap (V : Type) := AList (fun _ : String => V)

/-! ## メッセージ -/

structure SerializedObject where
  type : String
  revision : String
  data : Bytes
  deriving Repr, DecidableEq

structure Command where
  name : String
  messageIdentifier : String
  payload : Option SerializedObject
  deriving Repr, DecidableEq

structure Event where
  messageIdentifier : String
  timestamp : Int
  aggregateIdentifier : String
  aggregateSequenceNumber : Int
  aggregateType : String
  payload : Option SerializedObject
  snapshot : Bool
  deriving Repr, DecidableEq

/-! ## エラー -/

/-- `{:?}` が文字列の一文字を書く形（`char::escape_debug_ext` で、`"` を逃がし `'` は逃がさない）。
ASCII の制御文字は、名前のある四つのほかは `\u{..}` の形で、符号位置を先頭の 0 なしの小文字の 16 進で書く。
ASCII でない文字は、印字できないものと書記素を拡張するものを Rust が Unicode の表で選んで `\u{..}` に
するが、その表は写さず、どれもそのまま書く。 -/
def escapeDebug : Char → String
  | '\x00' => "\\0"
  | '\t' => "\\t"
  | '\r' => "\\r"
  | '\n' => "\\n"
  | '\\' => "\\\\"
  | '"' => "\\\""
  | c =>
    if c.toNat < 0x20 ∨ c.toNat = 0x7f then "\\u\x7b" ++ String.mk (Nat.toDigits 16 c.toNat) ++ "\x7d"
    else c.toString

/-- 文字列を `{:?}` で書いたもの。 -/
def debugString (s : String) : String :=
  "\"" ++ String.join (s.toList.map escapeDebug) ++ "\""

example : debugString "a\"\x01" = "\"a\\\"\\u\x7b1\x7d\"" := rfl

/-- `handle_command` と振り分けが返す `anyhow::Error`。作られた場所ごとに一つの構成子を持つ。 -/
inductive Error where
  | noPayloadData (name : String)
  | noHandler (name : String)
  | missingSourcingHandler (type : String)
  | missingAggregateIdentifier
  | couldNotFindAggregateHandler
  /-- 登録簿のハンドラの失敗。復号の失敗もここに入る。 -/
  | handler (message : String)
  /-- イベントストアの呼び出しの失敗。 -/
  | status (message : String)
  /-- `duration_since(UNIX_EPOCH)` の失敗。 -/
  | systemTime
  deriving Repr, DecidableEq

/-- `e.to_string()`。 -/
def Error.toString : Error → String
  | .noPayloadData name => "No payload data for: " ++ debugString name
  | .noHandler name => "No handler for: " ++ debugString name
  | .missingSourcingHandler type => "Missing sourcing handler for " ++ debugString type
  | .missingAggregateIdentifier => "Missing aggregate identifier"
  | .couldNotFindAggregateHandler => "Could not find aggregate handler"
  | .handler message => message
  | .status message => message
  | .systemTime => "second time provided was later than self"

/-! ## ハンドラの登録簿 -/

/-- Modelled from the spec: `handler_registry.rs` の `SubscriptionHandle`。`handle` はバイト列を復号し、
射影と合わせて登録された関数に渡す。復号の失敗も関数の失敗も `Except` の失敗になる。 -/
structure SubscriptionHandle (P R : Type) where
  handle : Bytes → P → Except String (Option R)

/-- Modelled from the spec: `handler_registry.rs` の `TheHandlerRegistry`。型の名前からハンドラへの表。 -/
structure TheHandlerRegistry (P R : Type) where
  handlers : HashMap (SubscriptionHandle P R)

def TheHandlerRegistry.get {P R : Type} (r : TheHandlerRegistry P R) (name : String) :
    Option (SubscriptionHandle P R) :=
  r.handlers.lookup name

/-! ## コマンドの結果 -/

/-- Modelled from the spec: `ApplicableTo<P>` のうち、このファイルが呼ぶ `encode_u8` の結果。
`Vec` への書き込みは失敗しないので、`unwrap` は止まらない。 -/
structure ApplicableTo (P : Type) where
  encodeU8 : Bytes

structure EmitEventsAndResponse where
  events : List SerializedObject
  response : Option SerializedObject
  deriving Repr, DecidableEq

structure EmitApplicableEventsAndResponse (P : Type) where
  events : List (String × ApplicableTo P)
  response : Option SerializedObject

def emitEvents : EmitEventsAndResponse :=
  { events := [], response := none }

/-- `emit_applicable`：出したイベントを型の名前と一緒に後ろに加える。常に `Ok(())` を返す。 -/
def emitApplicable {P : Type} (holder : EmitApplicableEventsAndResponse P) (typeName : String)
    (event : ApplicableTo P) : EmitApplicableEventsAndResponse P :=
  { holder with events := holder.events ++ [(typeName, event)] }

structure AxonCommandResult where
  messageIdentifier : String
  result : Except Error (Option EmitEventsAndResponse)

/-! ## 命令 -/

structure CommandSubscription where
  command : String
  clientId : String
  componentName : String
  loadFactor : Int
  deriving Repr, DecidableEq

structure FlowControl where
  clientId : String
  permits : Int
  deriving Repr, DecidableEq

structure ErrorMessage where
  message : String
  location : String
  details : List String
  errorCode : String
  deriving Repr, DecidableEq

structure CommandResponse where
  requestIdentifier : String
  payload : Option SerializedObject
  errorCode : String
  errorMessage : Option ErrorMessage
  deriving Repr, DecidableEq

/-- `CommandProviderOutbound` の `request`。コードは常に `Some` を入れるので、三つの場合だけを持つ。 -/
inductive CommandProviderOutbound where
  | subscribe (subscription : CommandSubscription)
  | flowControl (flowControl : FlowControl)
  | commandResponse (response : CommandResponse)
  deriving Repr, DecidableEq

inductive InboundRequest where
  | ack
  | command (command : Command)
  deriving Repr, DecidableEq

structure CommandProviderInbound where
  request : Option InboundRequest
  deriving Repr, DecidableEq

/-- `tonic::Status` のうち、受信ループが読む `code()`。 -/
structure Status where
  code : Nat
  deriving Repr, DecidableEq

end RustyDendrite.AxonUtils
