import RustyDendrite.AxonUtils.OutputStream

/-!
# 生成器の不変条件

生成器が出す命令の列の仕様（`expectedTrace`）を書き、生成器の止まる場所ごとの不変条件 `OutInv` が
一歩で保たれることを示す。`OutInv` は受信ループの系でも使う。
-/

namespace RustyDendrite.AxonUtils

/-! ## 命令の列の仕様 -/

/-- `n` 個目の応答の後の許可の追加：三つごとに 3。 -/
def grantAfter (clientId : String) (n : Nat) : List CommandProviderOutbound :=
  if n % 3 = 0 then [flowControl clientId 3] else []

/-- すでに `n` 個の応答を出した後の、結果の列の応答と許可。 -/
def responsesFrom (clientId : String) : Nat → List AxonCommandResult → List CommandProviderOutbound
  | _, [] => []
  | n, r :: rs =>
    .commandResponse r.toCommandResponse :: (grantAfter clientId (n + 1) ++ responsesFrom clientId (n + 1) rs)

/-- 購読を一つずつ、最初の許可 6、それから結果ごとの応答と許可の追加。 -/
def expectedTrace (clientId : String) (commands : List String) (results : List AxonCommandResult) :
    List CommandProviderOutbound :=
  commands.map (subscribeTo clientId) ++ flowControl clientId 6 :: responsesFrom clientId 0 results

@[simp] def CommandProviderOutbound.permitsOf : CommandProviderOutbound → Int
  | .flowControl f => f.permits
  | _ => 0

@[simp] def CommandProviderOutbound.response? : CommandProviderOutbound → Option CommandResponse
  | .commandResponse r => some r
  | _ => none

/-- 出した許可の和。 -/
def grantedPermits (trace : List CommandProviderOutbound) : Int :=
  (trace.map (·.permitsOf)).sum

/-- 出した応答。 -/
def responses (trace : List CommandProviderOutbound) : List CommandResponse :=
  trace.filterMap (·.response?)

variable {clientId : String} {commands : List String}

theorem responsesFrom_append_singleton (n : Nat) (rs : List AxonCommandResult) (r : AxonCommandResult) :
    responsesFrom clientId n (rs ++ [r]) =
      responsesFrom clientId n rs ++
        .commandResponse r.toCommandResponse :: grantAfter clientId (n + rs.length + 1) := by
  induction rs generalizing n with
  | nil => simp [responsesFrom]
  | cons r' rs ih => simp [responsesFrom, ih, Nat.add_right_comm, Nat.add_assoc]

theorem expectedTrace_append_singleton (rs : List AxonCommandResult) (r : AxonCommandResult) :
    expectedTrace clientId commands (rs ++ [r]) =
      expectedTrace clientId commands rs ++
        .commandResponse r.toCommandResponse :: grantAfter clientId (rs.length + 1) := by
  simp [expectedTrace, responsesFrom_append_singleton]

@[simp] theorem grantedPermits_nil : grantedPermits [] = 0 := rfl

@[simp] theorem grantedPermits_cons (x : CommandProviderOutbound) (t : List CommandProviderOutbound) :
    grantedPermits (x :: t) = x.permitsOf + grantedPermits t := by
  simp [grantedPermits]

@[simp] theorem grantedPermits_append (t t' : List CommandProviderOutbound) :
    grantedPermits (t ++ t') = grantedPermits t + grantedPermits t' := by
  simp [grantedPermits]

@[simp] theorem responses_nil : responses [] = [] := rfl

@[simp] theorem responses_cons (x : CommandProviderOutbound) (t : List CommandProviderOutbound) :
    responses (x :: t) = x.response?.toList ++ responses t := by
  cases x <;> rfl

@[simp] theorem responses_append (t t' : List CommandProviderOutbound) :
    responses (t ++ t') = responses t ++ responses t' := by
  simp [responses]

@[simp] theorem grantedPermits_map_subscribeTo (cs : List String) :
    grantedPermits (cs.map (subscribeTo clientId)) = 0 := by
  induction cs <;> simp [subscribeTo, *]

@[simp] theorem responses_map_subscribeTo (cs : List String) :
    responses (cs.map (subscribeTo clientId)) = [] := by
  induction cs <;> simp [subscribeTo, *]

theorem grantedPermits_grantAfter (n : Nat) :
    grantedPermits (grantAfter clientId n) = if n % 3 = 0 then 3 else 0 := by
  unfold grantAfter; split <;> simp [flowControl]

@[simp] theorem responses_grantAfter (n : Nat) : responses (grantAfter clientId n) = [] := by
  unfold grantAfter; split <;> simp [flowControl]

/-- 応答を `n` 個出した後の許可の和は `6 + 3 * (n / 3)`。 -/
theorem grantedPermits_expectedTrace (rs : List AxonCommandResult) :
    grantedPermits (expectedTrace clientId commands rs) = 6 + 3 * (rs.length / 3 : Nat) := by
  induction rs using List.reverseRecOn with
  | nil => simp [expectedTrace, responsesFrom, flowControl]
  | append_singleton rs r ih =>
    rw [expectedTrace_append_singleton]
    simp only [grantedPermits_append, grantedPermits_cons, ih, grantedPermits_grantAfter,
      CommandProviderOutbound.permitsOf, List.length_append, List.length_singleton]
    split <;> omega

theorem responses_expectedTrace (rs : List AxonCommandResult) :
    responses (expectedTrace clientId commands rs) = rs.map (·.toCommandResponse) := by
  induction rs using List.reverseRecOn with
  | nil => simp [expectedTrace, responsesFrom, flowControl]
  | append_singleton rs r ih => simp [expectedTrace_append_singleton, ih]

/-! ## 生成器の一歩 -/

/-- 生成器の一歩でできること。 -/
theorem outputStep_cases {closed : Bool} {g g' : OutputStream} {q q' : List AxonCommandResult}
    {o : Option CommandProviderOutbound} (h : outputStep clientId closed g q = some (g', q', o)) :
    (∃ c rest, g = .subscribing (c :: rest) ∧ g' = .subscribing rest ∧ q' = q ∧
      o = some (subscribeTo clientId c)) ∨
    (g = .subscribing [] ∧ g' = .receiving 6 ∧ q' = q ∧ o = some (flowControl clientId 6)) ∨
    (∃ p r, g = .receiving p ∧ q = r :: q' ∧ g' = .responded p ∧
      o = some (.commandResponse r.toCommandResponse)) ∨
    (∃ p, g = .receiving p ∧ q = [] ∧ closed = true ∧ g' = .finished ∧ q' = [] ∧ o = none) ∨
    (∃ p, g = .responded p ∧ p - 1 ≤ 3 ∧ g' = .granted (p - 1) ∧ q' = q ∧
      o = some (flowControl clientId 3)) ∨
    (∃ p, g = .responded p ∧ 3 < p - 1 ∧ g' = .receiving (p - 1) ∧ q' = q ∧ o = none) ∨
    (∃ p, g = .granted p ∧ g' = .receiving (p + 3) ∧ q' = q ∧ o = none) := by
  unfold outputStep at h
  split at h
  · obtain ⟨⟨⟩⟩ := h; exact .inl ⟨_, _, rfl, rfl, rfl, rfl⟩
  · obtain ⟨⟨⟩⟩ := h; exact .inr <| .inl ⟨rfl, rfl, rfl, rfl⟩
  · obtain ⟨⟨⟩⟩ := h; exact .inr <| .inr <| .inl ⟨_, _, rfl, rfl, rfl, rfl⟩
  · split at h
    · rename_i hc; obtain ⟨⟨⟩⟩ := h; exact .inr <| .inr <| .inr <| .inl ⟨_, rfl, rfl, hc, rfl, rfl, rfl⟩
    · cases h
  · split at h <;> rename_i hp <;> simp only [permitsBatchSize] at hp <;> obtain ⟨⟨⟩⟩ := h
    · exact .inr <| .inr <| .inr <| .inr <| .inl ⟨_, rfl, hp, rfl, rfl, rfl⟩
    · exact .inr <| .inr <| .inr <| .inr <| .inr <| .inl ⟨_, rfl, by omega, rfl, rfl, rfl⟩
  · obtain ⟨⟨⟩⟩ := h; exact .inr <| .inr <| .inr <| .inr <| .inr <| .inr ⟨_, rfl, rfl, rfl, rfl⟩
  · cases h

/-! ## 不変条件 -/

/-- 生成器の止まる場所ごとの不変条件。`trace` は出した命令、`taken` は待ち行列から受け取った結果。 -/
def OutInv (clientId : String) (commands : List String) :
    OutputStream → List CommandProviderOutbound → List AxonCommandResult → Prop
  | .subscribing rest, trace, taken =>
    ∃ done, commands = done ++ rest ∧ trace = done.map (subscribeTo clientId) ∧ taken = []
  | .receiving p, trace, taken =>
    trace = expectedTrace clientId commands taken ∧ p = 6 - (taken.length % 3 : Nat)
  | .responded p, trace, taken =>
    ∃ init r, taken = init ++ [r] ∧
      trace = expectedTrace clientId commands init ++ [.commandResponse r.toCommandResponse] ∧
      p = 6 - (init.length % 3 : Nat)
  | .granted p, trace, taken =>
    trace = expectedTrace clientId commands taken ∧ taken.length % 3 = 0 ∧ p = 3
  | .finished, trace, taken => trace = expectedTrace clientId commands taken

theorem OutInv.init : OutInv clientId commands (.subscribing commands) [] [] :=
  ⟨[], by simp, rfl, rfl⟩

/-- 一歩で不変条件が保たれる。 -/
theorem OutInv.step {closed : Bool} {g g' : OutputStream} {q q' : List AxonCommandResult}
    {o : Option CommandProviderOutbound} {t : List CommandProviderOutbound} {k : List AxonCommandResult}
    (h : outputStep clientId closed g q = some (g', q', o)) (hi : OutInv clientId commands g t k) :
    OutInv clientId commands g' (t ++ o.toList) (k ++ g.dequeued q) := by
  rcases outputStep_cases h with ⟨c, rest, rfl, rfl, rfl, rfl⟩ | ⟨rfl, rfl, rfl, rfl⟩ |
    ⟨p, r, rfl, rfl, rfl, rfl⟩ | ⟨p, rfl, rfl, -, rfl, rfl, rfl⟩ | ⟨_, rfl, hp, rfl, rfl, rfl⟩ |
    ⟨_, rfl, hp, rfl, rfl, rfl⟩ | ⟨p, rfl, rfl, rfl, rfl⟩
  · obtain ⟨done, rfl, rfl, rfl⟩ := hi
    exact ⟨done ++ [c], by simp, by simp, rfl⟩
  · obtain ⟨done, hc, rfl, rfl⟩ := hi
    simp only [List.append_nil] at hc
    subst hc
    exact ⟨by simp [expectedTrace, responsesFrom, OutputStream.dequeued], rfl⟩
  · obtain ⟨rfl, rfl⟩ := hi
    exact ⟨k, r, rfl, rfl, rfl⟩
  · simpa [OutputStream.dequeued] using hi.1
  · obtain ⟨init, r, rfl, rfl, rfl⟩ := hi
    have hlen : (init.length + 1) % 3 = 0 := by omega
    refine ⟨?_, by simpa [OutputStream.dequeued] using hlen, by omega⟩
    simp [OutputStream.dequeued, expectedTrace_append_singleton, grantAfter, hlen]
  · obtain ⟨init, r, rfl, rfl, rfl⟩ := hi
    have hlen : (init.length + 1) % 3 ≠ 0 := by omega
    refine ⟨?_, ?_⟩
    · simp [OutputStream.dequeued, expectedTrace_append_singleton, grantAfter, hlen]
    · simp only [OutputStream.dequeued, List.append_nil, List.length_append, List.length_singleton]
      omega
  · obtain ⟨rfl, hlen, rfl⟩ := hi
    exact ⟨by simp [OutputStream.dequeued], by simp [OutputStream.dequeued, hlen]⟩

/-! ## 不変条件から分かること -/

section Consequences

variable {g : OutputStream} {t : List CommandProviderOutbound} {k : List AxonCommandResult}

/-- 出した命令は、受け取った結果に対する仕様の列の始まりである。 -/
theorem OutInv.isPrefixOf (hi : OutInv clientId commands g t k) : t <+: expectedTrace clientId commands k := by
  cases g with
  | subscribing rest =>
    obtain ⟨done, rfl, rfl, rfl⟩ := hi
    exact ⟨rest.map (subscribeTo clientId) ++ [flowControl clientId 6], by
      simp [expectedTrace, responsesFrom]⟩
  | responded p =>
    obtain ⟨init, r, rfl, rfl, -⟩ := hi
    simp [expectedTrace_append_singleton]
  | receiving p | granted p => exact hi.1 ▸ List.prefix_refl _
  | finished => exact hi ▸ List.prefix_refl _

/-- 出した応答は、受け取った結果の応答を順に並べたものである。 -/
theorem OutInv.responses_eq (hi : OutInv clientId commands g t k) :
    responses t = k.map (·.toCommandResponse) := by
  cases g with
  | subscribing rest => obtain ⟨done, -, rfl, rfl⟩ := hi; simp
  | responded p =>
    obtain ⟨init, r, rfl, rfl, -⟩ := hi
    simp [responses_expectedTrace]
  | receiving p | granted p => rw [hi.1, responses_expectedTrace]
  | finished => rw [hi, responses_expectedTrace]

theorem OutInv.permits_bounds (hi : OutInv clientId commands g t k) {p : Int}
    (hp : g.permits? = some p) : 3 ≤ p ∧ p ≤ 6 := by
  cases g with
  | receiving p' => cases hp; obtain ⟨-, rfl⟩ := hi; omega
  | responded p' => cases hp; obtain ⟨_, _, -, -, rfl⟩ := hi; omega
  | granted p' => cases hp; obtain ⟨-, -, rfl⟩ := hi; omega
  | subscribing _ | finished => cases hp

theorem OutInv.receiving_permits {p : Int} (hi : OutInv clientId commands (.receiving p) t k) :
    p = grantedPermits t - (responses t).length ∧ p = 6 - ((responses t).length % 3 : Nat) := by
  obtain ⟨rfl, rfl⟩ := hi
  simp only [grantedPermits_expectedTrace, responses_expectedTrace, List.length_map, and_true]
  omega

theorem OutInv.responded_permits {p : Int} (hi : OutInv clientId commands (.responded p) t k) :
    p - 1 = grantedPermits t - (responses t).length := by
  obtain ⟨init, r, rfl, rfl, rfl⟩ := hi
  simp only [grantedPermits_append, grantedPermits_expectedTrace, responses_append,
    responses_expectedTrace, grantedPermits_cons, grantedPermits_nil, responses_cons,
    responses_nil, CommandProviderOutbound.permitsOf, CommandProviderOutbound.response?,
    Option.toList_some, List.length_append, List.length_map, List.length_singleton, List.length_nil]
  omega

theorem OutInv.granted_permits {p : Int} (hi : OutInv clientId commands (.granted p) t k) :
    p + 3 = grantedPermits t - (responses t).length := by
  obtain ⟨rfl, hlen, rfl⟩ := hi
  simp only [grantedPermits_expectedTrace, responses_expectedTrace, List.length_map]
  omega

end Consequences

/-! ## 生成器だけの系 -/

/-- 生成器だけの系で届く状態。結果はいつでも待ち行列に届き、送り手はいつでも落ちうる。 -/
inductive OutputReachable (clientId : String) (commands : List String) :
    OutputStream → List AxonCommandResult → List CommandProviderOutbound → List AxonCommandResult → Prop
  | init : OutputReachable clientId commands (.subscribing commands) [] [] []
  | arrive {g q t k} (r : AxonCommandResult) :
      OutputReachable clientId commands g q t k → OutputReachable clientId commands g (q ++ [r]) t k
  | step {g q t k g' q' o} (closed : Bool) : OutputReachable clientId commands g q t k →
      outputStep clientId closed g q = some (g', q', o) →
      OutputReachable clientId commands g' q' (t ++ o.toList) (k ++ g.dequeued q)

theorem OutputReachable.outInv {g : OutputStream} {q : List AxonCommandResult}
    {t : List CommandProviderOutbound} {k : List AxonCommandResult}
    (h : OutputReachable clientId commands g q t k) : OutInv clientId commands g t k := by
  induction h with
  | init => exact OutInv.init
  | arrive _ _ ih => exact ih
  | step _ _ hs ih => exact ih.step hs

/-- 送り手が生きたまま、`fuel` 歩まで生成器を進める。進めなくなればそこで止まる。 -/
def drain (clientId : String) : Nat →
    OutputStream × List AxonCommandResult × List CommandProviderOutbound →
      OutputStream × List AxonCommandResult × List CommandProviderOutbound
  | 0, s => s
  | fuel + 1, (g, q, t) =>
    match outputStep clientId false g q with
    | some (g', q', o) => drain clientId fuel (g', q', t ++ o.toList)
    | none => (g, q, t)

theorem drain_subscribing (rest : List String) (q : List AxonCommandResult)
    (t : List CommandProviderOutbound) (fuel : Nat) :
    drain clientId (rest.length + fuel) (.subscribing rest, q, t) =
      drain clientId fuel (.subscribing [], q, t ++ rest.map (subscribeTo clientId)) := by
  induction rest generalizing t with
  | nil => simp
  | cons c rest ih =>
    rw [List.length_cons, Nat.add_right_comm]
    simp [drain, outputStep, ih]

theorem drain_receiving_nil (p : Int) (t : List CommandProviderOutbound) (fuel : Nat) :
    drain clientId fuel (.receiving p, [], t) = (.receiving p, [], t) := by
  cases fuel <;> simp [drain, outputStep]

/-- 待ち行列の結果を、一つにつき三歩以内で応答にする。 -/
theorem drain_receiving (rs k : List AxonCommandResult) (fuel : Nat) (hfuel : 3 * rs.length ≤ fuel) :
    drain clientId fuel
        (.receiving (6 - (k.length % 3 : Nat)), rs, expectedTrace clientId commands k) =
      (.receiving (6 - ((k ++ rs).length % 3 : Nat)), [], expectedTrace clientId commands (k ++ rs)) := by
  induction rs generalizing k fuel with
  | nil => simpa using drain_receiving_nil _ _ fuel
  | cons r rs ih =>
    rw [List.length_cons] at hfuel
    obtain ⟨fuel, rfl⟩ : ∃ f, fuel = f + 2 := ⟨fuel - 2, by omega⟩
    rw [show k ++ r :: rs = (k ++ [r]) ++ rs by simp]
    by_cases hg : (k.length + 1) % 3 = 0
    · obtain ⟨fuel, rfl⟩ : ∃ f, fuel = f + 1 := ⟨fuel - 1, by omega⟩
      have hp : (6 - ((k.length % 3 : Nat) : Int)) - 1 ≤ 3 := by omega
      rw [← ih (k ++ [r]) fuel (by omega)]
      simp only [drain, outputStep, permitsBatchSize, hp, if_true, expectedTrace_append_singleton,
        grantAfter, hg, List.length_append, List.length_singleton, List.append_assoc,
        Option.toList_some, Option.toList_none, List.append_nil, List.cons_append, List.nil_append]
      rw [show 6 - ((k.length % 3 : Nat) : Int) - 1 + 3 = 6 - ((0 : Nat) : Int) by omega]
    · have hp : ¬ (6 - ((k.length % 3 : Nat) : Int)) - 1 ≤ 3 := by omega
      rw [← ih (k ++ [r]) fuel (by omega)]
      simp only [drain, outputStep, permitsBatchSize, hp, if_false, expectedTrace_append_singleton,
        grantAfter, hg, List.length_append, List.length_singleton, Option.toList_some,
        Option.toList_none, List.append_nil]
      rw [show 6 - ((k.length % 3 : Nat) : Int) - 1 = 6 - (((k.length + 1) % 3 : Nat) : Int) by omega]

/-- 購読を出し、最初の許可を出し、待ち行列のすべての結果に応答して、受信で止まる。 -/
theorem drain_init (rs : List AxonCommandResult) (fuel : Nat)
    (hfuel : commands.length + 1 + 3 * rs.length ≤ fuel) :
    drain clientId fuel (.subscribing commands, rs, []) =
      (.receiving (6 - (rs.length % 3 : Nat)), [], expectedTrace clientId commands rs) := by
  obtain ⟨fuel, rfl⟩ : ∃ f, fuel = commands.length + (f + 1) := ⟨fuel - commands.length - 1, by omega⟩
  rw [drain_subscribing]
  have h := @drain_receiving clientId commands rs [] fuel (by omega)
  simp only [List.length_nil, Nat.zero_mod, List.nil_append] at h
  simpa [drain, outputStep, permitsBatchSize, expectedTrace, responsesFrom] using h

end RustyDendrite.AxonUtils
