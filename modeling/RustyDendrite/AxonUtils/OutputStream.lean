import RustyDendrite.AxonUtils.Basic

/-!
# 命令を出す生成器

`create_output_stream` の `stream!` は、`yield` のたびに止まる生成器である。生成器の状態は、止まっている
場所と、そこで生きている局所変数 `permits` で表す。一歩は、次の `yield` か、`yield` の後の次の文までを
進める。`yield` の後の `permits -= 1` と `permits += permits_batch_size` は、次に呼ばれたときに走る。
-/

namespace RustyDendrite.AxonUtils

/-- `permits_batch_size`。 -/
def permitsBatchSize : Int := 3

/-- 333-356 行：結果から `CommandResponse` を作る。 -/
def AxonCommandResult.toCommandResponse (r : AxonCommandResult) : CommandResponse :=
  let response : CommandResponse :=
    { requestIdentifier := r.messageIdentifier, payload := none, errorCode := "", errorMessage := none }
  match r.result with
  | .ok result => { response with payload := (result.map (·.response)).join }
  | .error e =>
    { response with
      errorCode := "ERROR"
      errorMessage := some { message := e.toString, location := "", details := [], errorCode := "ERROR" } }

/-- 生成器の止まっている場所。 -/
inductive OutputStream where
  /-- 297 行の `for`：まだ購読していないコマンドの名前。 -/
  | subscribing (rest : List String)
  /-- 331 行の `rx.recv().await`。 -/
  | receiving (permits : Int)
  /-- 362 行の `yield` の後。 -/
  | responded (permits : Int)
  /-- 375 行の `yield` の後。 -/
  | granted (permits : Int)
  /-- `rx.recv()` が `None` を返し、流れが終わった。 -/
  | finished
  deriving Repr, DecidableEq

/-- 300-313 行の購読の命令。 -/
def subscribeTo (clientId commandName : String) : CommandProviderOutbound :=
  .subscribe { command := commandName, clientId, componentName := clientId, loadFactor := 100 }

def flowControl (clientId : String) (permits : Int) : CommandProviderOutbound :=
  .flowControl { clientId, permits }

/-- 生成器の一歩。`closed` は、送り手がすべて落ちたこと。進めなければ `none`。
返すのは、次の場所、残りの待ち行列、出した命令。 -/
def outputStep (clientId : String) (closed : Bool) :
    OutputStream → List AxonCommandResult →
      Option (OutputStream × List AxonCommandResult × Option CommandProviderOutbound)
  | .subscribing (commandName :: rest), queue =>
    some (.subscribing rest, queue, some (subscribeTo clientId commandName))
  | .subscribing [], queue =>
    some (.receiving (permitsBatchSize * 2), queue, some (flowControl clientId (permitsBatchSize * 2)))
  | .receiving permits, result :: queue =>
    some (.responded permits, queue, some (.commandResponse result.toCommandResponse))
  | .receiving _, [] => if closed then some (.finished, [], none) else none
  | .responded permits, queue =>
    if permits - 1 ≤ permitsBatchSize then
      some (.granted (permits - 1), queue, some (flowControl clientId permitsBatchSize))
    else some (.receiving (permits - 1), queue, none)
  | .granted permits, queue => some (.receiving (permits + permitsBatchSize), queue, none)
  | .finished, _ => none

/-- 一歩で待ち行列から取り出す結果。 -/
def OutputStream.dequeued : OutputStream → List AxonCommandResult → List AxonCommandResult
  | .receiving _, result :: _ => [result]
  | _, _ => []

/-- その場所で生きている `permits` の値。 -/
def OutputStream.permits? : OutputStream → Option Int
  | .receiving permits | .responded permits | .granted permits => some permits
  | _ => none

end RustyDendrite.AxonUtils
