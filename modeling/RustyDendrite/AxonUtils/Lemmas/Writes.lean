import RustyDendrite.AxonUtils.Lemmas.Registry
import RustyDendrite.AxonUtils.Lemmas.Worker

/-!
# 書き込みの数

`handle_command` は `append_event` を高々一度送り、送るのは、結果が `Ok(Some(..))` かイベントストアの
失敗になるときだけである。ここから、どのイベントストアの上でも、届く状態ではいつでも、系が送った
`append_event` が、振り分けたコマンドごとに高々一つずつ、振り分けた順に並ぶことを導く。
-/

namespace RustyDendrite.AxonUtils

/-- 処理の結果が、保存に進んだかもしれない形か：`Ok(Some(..))` か、イベントストアの呼び出しの失敗。 -/
def mayAppend : Except Error (Option EmitEventsAndResponse) → Bool
  | .ok (some _) => true
  | .error (.status _) => true
  | _ => false

variable {σ : Type} {S : EventStore σ} {ds : List (Σ P : Type, AggregateDefinition P)}

/-- `handle_command` が送る `append_event` は、結果が保存に進んだかもしれない形なら高々一つで、ほかなら無い。 -/
theorem handleCommand_appends {P : Type} {env : Env} {command : Command} {d : AggregateDefinition P}
    {c c' : EventStoreClient σ} {res : Except Error (Option EmitEventsAndResponse)}
    (h : handleCommand S env command d c = (res, c')) :
    ∃ calls, c'.calls = c.calls ++ calls ∧ (appendedEvents calls).length ≤ (mayAppend res).toNat := by
  rcases handleCommand_outcome h with ⟨⟨-, calls, hc, ha⟩, -⟩ | ⟨e, events, rfl, -, -, calls, hc, ha⟩ |
    ⟨a, o, response, ts, -, -, rfl, calls, hc, ha, -⟩
  · exact ⟨calls, hc, by simp [ha]⟩
  · exact ⟨calls, hc, by simp [ha, mayAppend]⟩
  · exact ⟨calls, hc, by simp [ha, mayAppend]⟩

theorem registryOf_dispatch_appends (env : Env) (command : Command) (c : EventStoreClient σ) :
    ∃ calls, (dispatch ((registryOf S ds).register [] ∅).2 (registryOf S ds) env command c).2.calls =
        c.calls ++ calls ∧
      (appendedEvents calls).length ≤
        (mayAppend (dispatch ((registryOf S ds).register [] ∅).2 (registryOf S ds) env command c).1).toNat := by
  rcases @registryOf_dispatch _ S ds env command c with ⟨_, d, -, _, _, _, heq⟩ | ⟨_, heq⟩ <;> rw [heq]
  · rcases hp : handleCommand S env command d.2 c with ⟨res, c'⟩
    exact handleCommand_appends hp
  · exact ⟨[], by simp, by simp⟩

/-- 送った `append_event` のイベントの列は、振り分けたコマンドごとの組に、振り分けた順に分かれる。どの組も
高々一つの列しか持たず、結果が保存に進んだかもしれない形でなければ空である。 -/
def AppendsCounted (client₀ : EventStoreClient σ) (s : System σ) : Prop :=
  ∃ (calls : List Call) (batches : List (List (List Event))), s.client.calls = client₀.calls ++ calls ∧
    appendedEvents calls = batches.flatten ∧
    List.Forall₂ (fun b r => b.length ≤ (mayAppend r.result).toNat) batches s.results

section Steps

variable {clientId : String} {client₀ : EventStoreClient σ}

theorem AppendsCounted.workerStep {env : Env} {s s' : System σ} (hi : AppendsCounted client₀ s)
    (h : workerStep (registryOf S ds) env s = some s') : AppendsCounted client₀ s' := by
  obtain ⟨calls, batches, hc, ha, hb⟩ := hi
  rcases workerStep_cases h with ⟨m, ms, -, -, rfl⟩ | ⟨-, -, -, rfl⟩ | ⟨status, -, -, -, rfl⟩ |
    ⟨command, -, rfl⟩ | ⟨r, -, -, rfl⟩ <;> try exact ⟨calls, batches, hc, ha, hb⟩
  -- 振り分けた一歩だけが、クライアントと結果を変える。
  obtain ⟨calls', hc', hle⟩ := @registryOf_dispatch_appends _ S ds env command s.client
  refine ⟨calls ++ calls', batches ++ [appendedEvents calls'], by rw [hc', hc, List.append_assoc],
    by simp [ha], ?_⟩
  exact List.rel_append hb (.cons hle .nil)

theorem AppendsCounted.streamStep {s s' : System σ} (hi : AppendsCounted client₀ s)
    (h : streamStep clientId s = some s') : AppendsCounted client₀ s' := by
  simp only [AxonUtils.streamStep] at h
  split at h <;> obtain ⟨⟨⟩⟩ := h
  exact hi

theorem Reachable.appendsCounted {inbound : Inbound} {s : System σ}
    (h : Reachable (registryOf S ds) clientId inbound client₀ s) : AppendsCounted client₀ s := by
  induction h with
  | init => exact ⟨[], [], by simp [System.init], rfl, .nil⟩
  | step _ hs ih =>
    cases hs with
    | worker env h => exact ih.workerStep h
    | stream h => exact ih.streamStep h

end Steps

end RustyDendrite.AxonUtils
