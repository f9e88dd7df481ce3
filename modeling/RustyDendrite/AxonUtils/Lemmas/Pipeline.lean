import RustyDendrite.AxonUtils.Aggregate

/-!
# `handle_command` の段階ごとの補題

`handle_command` がイベントストアにすることを、一つの述語 `Outcome` で言う：`append_event` を送らずに
失敗するか `Ok(None)` を返す、送った `append_event` が失敗する、送った `append_event` が成功して応答を
返す、の三つである。段階ごとの関数について `Outcome` を示し、後ろの段階から順に組み立てる。
-/

namespace RustyDendrite.AxonUtils

/-- `append_event` の要求なら、その引数。 -/
def Call.appended : Call → Option (List Event)
  | .appendEvent events => some events
  | _ => none

/-- 要求の列のうちの、`append_event` の引数。 -/
def appendedEvents (calls : List Call) : List (List Event) :=
  calls.filterMap Call.appended

@[simp] theorem appendedEvents_nil : appendedEvents [] = [] := rfl

@[simp] theorem appendedEvents_append (calls calls' : List Call) :
    appendedEvents (calls ++ calls') = appendedEvents calls ++ appendedEvents calls' := by
  simp [appendedEvents]

@[simp] theorem appendedEvents_cons (call : Call) (calls : List Call) :
    appendedEvents (call :: calls) = call.appended.toList ++ appendedEvents calls := by
  cases call <;> rfl

/-- `list_aggregate_events` の要求なら、履歴を読んだ集約の識別子。 -/
def Call.queried : Call → Option String
  | .listAggregateEvents aggregateId => some aggregateId
  | _ => none

/-- 要求の列のうちの、履歴を読んだ集約。 -/
def queriedAggregates (calls : List Call) : List String :=
  calls.filterMap Call.queried

@[simp] theorem queriedAggregates_append (calls calls' : List Call) :
    queriedAggregates (calls ++ calls') = queriedAggregates calls ++ queriedAggregates calls' := by
  simp [queriedAggregates]

variable {σ P : Type} {S : EventStore σ}

/-! ## 読むだけの呼び出し -/

/-- `c'` は `c` に `append_event` 以外の要求を加えただけで、サーバーの状態は変わっていない。 -/
def ReadsOnly (c c' : EventStoreClient σ) : Prop :=
  c'.store = c.store ∧ ∃ calls, c'.calls = c.calls ++ calls ∧ appendedEvents calls = []

theorem ReadsOnly.refl (c : EventStoreClient σ) : ReadsOnly c c :=
  ⟨rfl, [], by simp, rfl⟩

theorem ReadsOnly.trans {c c₁ c₂ : EventStoreClient σ} (h₁ : ReadsOnly c c₁) (h₂ : ReadsOnly c₁ c₂) :
    ReadsOnly c c₂ := by
  obtain ⟨hs₁, calls₁, hc₁, ha₁⟩ := h₁
  obtain ⟨hs₂, calls₂, hc₂, ha₂⟩ := h₂
  exact ⟨hs₂.trans hs₁, calls₁ ++ calls₂, by simp [hc₂, hc₁], by simp [ha₁, ha₂]⟩

theorem ReadsOnly.call (c : EventStoreClient σ) {call : Call} (h : call.appended = none) :
    ReadsOnly c { c with calls := c.calls ++ [call] } :=
  ⟨rfl, [call], rfl, by simp [h]⟩

theorem queryEventsFromClient_readsOnly (c : EventStoreClient σ) (aggregateId : String) :
    ReadsOnly c (queryEventsFromClient S c aggregateId).2 :=
  ReadsOnly.call c rfl

theorem restoreProjection_readsOnly (d : AggregateDefinition P) (aggregateId : Option String)
    (c : EventStoreClient σ) : ReadsOnly c (restoreProjection S d aggregateId c).2 := by
  unfold restoreProjection
  split
  · exact .refl c
  · split <;> rename_i h <;> rw [← congrArg Prod.snd h] <;> exact queryEventsFromClient_readsOnly c _

/-! ## `store_events` -/

/-- `store_events` は、番号を読んで失敗するか時計で失敗するか、読んだ番号で作ったイベントを一度だけ
`append_event` で送る。送った要求が成功したときだけ、サーバーの状態はその応答になる。 -/
theorem storeEvents_cases {env : Env} {c c' : EventStoreClient σ} {a : String}
    {o : EmitApplicableEventsAndResponse P} {res : Except Error Unit}
    (h : storeEvents S env c a o = (res, c')) :
    (∃ e, res = .error e ∧ ReadsOnly c c') ∨
    ∃ (response : ReadHighestSequenceNrResponse) (ts : Int),
      S.readHighestSequenceNr c.store ⟨a, 0⟩ = .ok response ∧
      c'.calls = c.calls ++ [.readHighestSequenceNr ⟨a, 0⟩,
        .appendEvent (o.events.map (eventMessage env.messageIdentifier ts a response))] ∧
      ((∃ e, S.appendEvent c.store (o.events.map (eventMessage env.messageIdentifier ts a response)) =
          .error e ∧ res = .error (.status e) ∧ c'.store = c.store) ∨
        (res = .ok () ∧
          S.appendEvent c.store (o.events.map (eventMessage env.messageIdentifier ts a response)) =
            .ok c'.store)) := by
  have hread := @ReadsOnly.call _ c (.readHighestSequenceNr ⟨a, 0⟩) rfl
  simp only [storeEvents, EventStoreClient.readHighestSequenceNr] at h
  cases hr : S.readHighestSequenceNr c.store ⟨a, 0⟩ with
  | error e =>
    simp only [hr, Except.mapError, Prod.mk.injEq] at h
    obtain ⟨rfl, rfl⟩ := h
    exact .inl ⟨_, rfl, hread⟩
  | ok response =>
    simp only [hr, Except.mapError] at h
    cases hm : durationSinceEpochMillis env.now with
    | none =>
      simp only [hm, Prod.mk.injEq] at h
      obtain ⟨rfl, rfl⟩ := h
      exact .inl ⟨_, rfl, hread⟩
    | some millis =>
      simp only [hm, EventStoreClient.appendEvent] at h
      refine .inr ⟨response, asI64 millis, rfl, ?_⟩
      split at h <;> simp only [Prod.mk.injEq] at h <;> obtain ⟨rfl, rfl⟩ := h <;> rename_i hs
      · exact ⟨by simp, .inr ⟨rfl, hs⟩⟩
      · exact ⟨by simp, .inl ⟨_, hs, rfl, rfl⟩⟩

/-- `store_events` が一度に送るイベントはみな、読んだ番号に i64 で 1 を足した同じ番号を持つ。 -/
theorem map_eventMessage_aggregateSequenceNumber (messageIdentifier : String) (timestamp : Int)
    (a : String) (response : ReadHighestSequenceNrResponse) (events : List (String × ApplicableTo P)) :
    (events.map (eventMessage messageIdentifier timestamp a response)).map (·.aggregateSequenceNumber) =
      List.replicate events.length ((response.toSequenceNr + 1).bmod (2 ^ 64)) := by
  simp [eventMessage, Function.comp_def]

theorem eventMessage_aggregateSequenceNumber_of_lt (messageIdentifier : String) (timestamp : Int) (a : String)
    {response : ReadHighestSequenceNrResponse} (x : String × ApplicableTo P) (h₁ : -1 ≤ response.toSequenceNr)
    (h₂ : response.toSequenceNr < i64Max) :
    (eventMessage messageIdentifier timestamp a response x).aggregateSequenceNumber = response.toSequenceNr + 1 := by
  unfold i64Max at h₂
  have h : (response.toSequenceNr + 1) % ((2 ^ 64 : Nat) : Int) = response.toSequenceNr + 1 :=
    Int.emod_eq_of_lt (by omega) (by push_cast; omega)
  exact (Int.bmod_pos _ _ (by rw [h]; push_cast; omega)).trans h

/-- `i64::MAX` の次は `i64::MIN` である。 -/
example : (eventMessage "m" 0 "a" ⟨i64Max⟩ ("E", (⟨[]⟩ : ApplicableTo Nat))).aggregateSequenceNumber = -2 ^ 63 := by
  decide

/-- `store_events` が送るイベントは、出したイベントを出した順に、型の名前と中身と一緒に識別子 `a` の下に置く。 -/
theorem map_eventMessage_payload (messageIdentifier : String) (timestamp : Int)
    (a : String) (response : ReadHighestSequenceNrResponse) (events : List (String × ApplicableTo P)) :
    (events.map (eventMessage messageIdentifier timestamp a response)).map
        (fun e => (e.aggregateIdentifier, e.payload)) =
      events.map (fun e => (a, some { type := e.1, revision := "", data := e.2.encodeU8 })) := by
  simp [eventMessage, Function.comp_def]

/-! ## 段階の結果 -/

/-- 段階の後の結果 `result` とクライアント `c'` の形。`Resolved a o` は、識別子 `a` とハンドラの結果 `o` に
たどり着いたこと。三つの場合がある：`append_event` を送らずに失敗するか `Ok(None)` を返す。一度だけ送った
`append_event` が失敗する。読んだ番号で作ったイベントを一度だけ送り、それが成功して応答を返す。 -/
def Outcome (S : EventStore σ) (env : Env) (Resolved : String → EmitApplicableEventsAndResponse P → Prop)
    (c : EventStoreClient σ) (result : Except Error (Option EmitEventsAndResponse))
    (c' : EventStoreClient σ) : Prop :=
  (ReadsOnly c c' ∧ ∀ r, result ≠ .ok (some r)) ∨
  (∃ e events, result = .error (.status e) ∧ c'.store = c.store ∧ S.appendEvent c.store events = .error e ∧
    ∃ calls, c'.calls = c.calls ++ calls ∧ appendedEvents calls = [events]) ∨
  ∃ a o response ts, Resolved a o ∧ S.readHighestSequenceNr c.store ⟨a, 0⟩ = .ok response ∧
    result = .ok (some { events := [], response := o.response }) ∧
    ∃ calls, c'.calls = c.calls ++ calls ∧
      appendedEvents calls = [o.events.map (eventMessage env.messageIdentifier ts a response)] ∧
      S.appendEvent c.store (o.events.map (eventMessage env.messageIdentifier ts a response)) = .ok c'.store

namespace Outcome

variable {env : Env} {R R' : String → EmitApplicableEventsAndResponse P → Prop}
  {c c₁ c' : EventStoreClient σ} {result : Except Error (Option EmitEventsAndResponse)}

theorem error {e : Error} (h : ReadsOnly c c') : Outcome S env R c (.error e) c' :=
  .inl ⟨h, fun _ => nofun⟩

theorem none (h : ReadsOnly c c') : Outcome S env R c (.ok none) c' :=
  .inl ⟨h, fun _ => nofun⟩

theorem mono (hR : ∀ a o, R a o → R' a o) (h : Outcome S env R c result c') :
    Outcome S env R' c result c' := by
  rcases h with h | h | ⟨a, o, response, ts, hr, h⟩
  · exact .inl h
  · exact .inr (.inl h)
  · exact .inr (.inr ⟨a, o, response, ts, hR a o hr, h⟩)

/-- 読むだけの呼び出しを前に加えても、形は変わらない。 -/
theorem readsOnly (h₁ : ReadsOnly c c₁) (h : Outcome S env R c₁ result c') : Outcome S env R c result c' := by
  have ⟨hs₁, calls₁, hc₁, ha₁⟩ := h₁
  rcases h with ⟨h, hr⟩ | ⟨e, events, hres, hs, hfail, calls, hc, ha⟩ |
    ⟨a, o, response, ts, hR, hread, hres, calls, hc, ha, hs⟩
  · exact .inl ⟨h₁.trans h, hr⟩
  · rw [hs₁] at hfail
    exact .inr (.inl ⟨e, events, hres, hs.trans hs₁, hfail, calls₁ ++ calls, by simp [hc, hc₁],
      by simp [ha₁, ha]⟩)
  · rw [hs₁] at hread hs
    exact .inr (.inr ⟨a, o, response, ts, hR, hread, hres, calls₁ ++ calls, by simp [hc, hc₁],
      by simp [ha₁, ha], hs⟩)

end Outcome

/-! ## 射影の復元 -/

namespace AggregateDefinition

/-- 仕様の言う復元の一歩：中身のないイベントでは射影はそのまま。中身があれば、その型の射影のハンドラを
中身と射影に当てた値で、ハンドラが `None` を返せば射影そのもの。ハンドラがないか失敗すれば失敗。 -/
def sourcingStep (d : AggregateDefinition P) (p : P) (e : Event) : Except Error P :=
  match e.payload with
  | none => .ok p
  | some payload =>
    match d.sourcingHandlerRegistry.get payload.type with
    | none => .error (.missingSourcingHandler payload.type)
    | some handler => ((handler.handle payload.data p).map (·.getD p)).mapError .handler

/-- `replay` は、仕様の一歩による左からの畳み込みである。 -/
theorem replay_eq_foldlM (d : AggregateDefinition P) (p : P) (events : List Event) :
    d.replay p events = events.foldlM d.sourcingStep p := by
  induction events generalizing p with
  | nil => rfl
  | cons e events ih =>
    simp only [replay, List.foldlM_cons, sourcingStep]
    rcases e.payload with _ | payload
    · exact ih p
    dsimp only
    rcases d.sourcingHandlerRegistry.get payload.type with _ | handler
    · rfl
    dsimp only
    rcases handler.handle payload.data p with _ | _ | p'
    · rfl
    · exact ih p
    · exact ih p'

/-- 履歴に、中身の型の射影のハンドラがないイベントがあれば、復元は失敗する。 -/
theorem replay_error_of_missing (d : AggregateDefinition P) {events : List Event} {e : Event}
    (he : e ∈ events) {payload : SerializedObject} (hp : e.payload = some payload)
    (hn : d.sourcingHandlerRegistry.get payload.type = none) (p : P) :
    ∃ err, d.replay p events = .error err := by
  induction events generalizing p with
  | nil => cases he
  | cons e' events ih =>
    rcases List.mem_cons.mp he with rfl | he
    · exact ⟨_, by simp only [replay, hp, hn]; rfl⟩
    unfold replay
    split
    · exact ih he p
    split
    · exact ⟨_, rfl⟩
    split
    · exact ⟨_, rfl⟩
    · exact ih he p
    · exact ih he _

end AggregateDefinition

/-! ## 保存と識別子の決定 -/

variable {env : Env} {c c' : EventStoreClient σ} {res : Except Error (Option EmitEventsAndResponse)}

theorem persist_outcome {aggregateId : Option String} {result : Option (EmitApplicableEventsAndResponse P)}
    (h : persist S env aggregateId result c = (res, c')) :
    Outcome S env (fun a o => aggregateId = some a ∧ result = some o) c res c' := by
  rcases aggregateId with _ | a
  · cases h; exact .error (.refl c)
  rcases result with _ | o
  · cases h; exact .none (.refl c)
  rcases hs : storeEvents S env c a o with ⟨_ | _, c₁⟩ <;>
    simp only [persist, hs, Prod.mk.injEq] at h <;> obtain ⟨rfl, rfl⟩ := h
  all_goals rcases storeEvents_cases hs with
    ⟨e, he, hro⟩ | ⟨response, ts, hread, hc, ⟨e, ha, he, hst⟩ | ⟨he, ha⟩⟩
  · exact .error hro
  · cases he
    exact .inr (.inl ⟨e, _, rfl, hst, ha, _, hc, rfl⟩)
  · cases he
  · cases he
  · cases he
  · exact .inr (.inr ⟨a, o, response, ts, ⟨rfl, rfl⟩, hread, rfl, _, hc, rfl, ha⟩)

/-- ハンドラの後に決まる識別子は、前に取り出したものか、前になければ応答の型で応答から取り出したもの。 -/
theorem AggregateDefinition.resolveAggregateId_eq_ok_some {d : AggregateDefinition P}
    {aggregateId : Option String} {o : EmitApplicableEventsAndResponse P} {a : String} :
    d.resolveAggregateId aggregateId (some o) = .ok (some a) ↔
      aggregateId = some a ∨ aggregateId = none ∧
        ∃ response, o.response = some response ∧
          d.extractAggregateId response.type response.data = .ok (some a) := by
  rcases aggregateId with _ | b
  · rcases o with ⟨_, _ | response⟩ <;> simp [resolveAggregateId]
  · simp [resolveAggregateId]

theorem finishCommand_outcome {d : AggregateDefinition P} {aggregateId : Option String}
    {result : Except String (Option (EmitApplicableEventsAndResponse P))}
    (h : finishCommand S env d aggregateId result c = (res, c')) :
    Outcome S env (fun a o => result = .ok (some o) ∧
      d.resolveAggregateId aggregateId (some o) = .ok (some a)) c res c' := by
  rcases result with e | result
  · cases h; exact .error (.refl c)
  rcases hr : d.resolveAggregateId aggregateId result with e | b <;>
    simp only [finishCommand, hr, Prod.mk.injEq] at h
  · obtain ⟨rfl, rfl⟩ := h; exact .error (.refl c)
  · refine (persist_outcome h).mono fun a o ⟨hb, ho⟩ => ?_
    subst hb ho
    exact ⟨rfl, hr⟩

/-! ## 履歴を読まない段階 -/

/-- `store_events` は集約の履歴を読まない。 -/
theorem storeEvents_queriedAggregates (env : Env) (c : EventStoreClient σ) (a : String)
    (o : EmitApplicableEventsAndResponse P) :
    queriedAggregates (storeEvents S env c a o).2.calls = queriedAggregates c.calls := by
  simp only [storeEvents, EventStoreClient.readHighestSequenceNr, EventStoreClient.appendEvent]
  cases S.readHighestSequenceNr c.store ⟨a, 0⟩ <;> dsimp only [Except.mapError]
  · simp [queriedAggregates, Call.queried]
  cases durationSinceEpochMillis env.now <;> dsimp only
  · simp [queriedAggregates, Call.queried]
  split <;> simp [queriedAggregates, Call.queried]

theorem finishCommand_queriedAggregates (env : Env) (d : AggregateDefinition P) (aggregateId : Option String)
    (result : Except String (Option (EmitApplicableEventsAndResponse P))) (c : EventStoreClient σ) :
    queriedAggregates (finishCommand S env d aggregateId result c).2.calls = queriedAggregates c.calls := by
  unfold finishCommand
  rcases result with e | result
  · rfl
  dsimp only
  rcases d.resolveAggregateId aggregateId result with e | b
  · rfl
  dsimp only [persist]
  rcases b with _ | a
  · rfl
  rcases result with _ | o
  · rfl
  rcases hs : storeEvents S env c a o with ⟨_ | _, c'⟩ <;>
    simpa only [hs] using @storeEvents_queriedAggregates σ P S env c a o

/-- ハンドラの前にも応答からも識別子が決まらなければ、`Missing aggregate identifier` を返し、何も送らない。 -/
theorem finishCommand_missing {d : AggregateDefinition P} {o : EmitApplicableEventsAndResponse P}
    (h : ∀ response, o.response = some response → d.extractAggregateId response.type response.data = .ok none) :
    finishCommand S env d none (.ok (some o)) c = (.error .missingAggregateIdentifier, c) := by
  rcases o with ⟨events, _ | response⟩
  · rfl
  · simp [finishCommand, AggregateDefinition.resolveAggregateId, h response rfl, persist]

/-! ## `handle_command` -/

/-- `handle_command` の後の形。識別子 `a` は、コマンドの名前で取り出したもの、なければ応答から取り出したもの。
結果 `o` は、登録されたコマンドのハンドラが、復元した射影に返したもの。 -/
theorem handleCommand_outcome {command : Command} {d : AggregateDefinition P}
    (h : handleCommand S env command d c = (res, c')) :
    Outcome S env (fun a o => ∃ data handler projection,
      command.payload.map (·.data) = some data ∧
      d.commandHandlerRegistry.get command.name = some handler ∧
      handler.handle data projection = .ok (some o) ∧
      ∃ aggregateId, d.extractAggregateId command.name data = .ok aggregateId ∧
        d.resolveAggregateId aggregateId (some o) = .ok (some a)) c res c' := by
  unfold handleCommand at h
  rcases hdata : command.payload.map (·.data) with _ | data <;> simp only [hdata] at h
  · cases h; exact .error (.refl c)
  rcases hid : d.extractAggregateId command.name data with e | aggregateId <;> simp only [hid] at h
  · cases h; exact .error (.refl c)
  rcases hh : d.commandHandlerRegistry.get command.name with _ | handler <;> simp only [hh] at h
  · cases h; exact .error (.refl c)
  have hro := @restoreProjection_readsOnly _ _ S d aggregateId c
  rcases hp : restoreProjection S d aggregateId c with ⟨e | projection, c₁⟩ <;>
    simp only [hp, Prod.mk.injEq] at h hro
  · obtain ⟨rfl, rfl⟩ := h; exact .error hro
  · exact (finishCommand_outcome h).mono (fun a o ⟨ho, hr⟩ =>
      ⟨data, handler, projection, hdata, rfl, ho, aggregateId, hid, hr⟩) |>.readsOnly hro

/-! ## `No handler for` の出どころ -/

theorem AggregateDefinition.extractAggregateId_ne_noHandler (d : AggregateDefinition P) (type : String)
    (data : Bytes) (n : String) : d.extractAggregateId type data ≠ .error (.noHandler n) := by
  unfold AggregateDefinition.extractAggregateId
  split
  · rename_i extractor _; cases extractor.handle data () <;> nofun
  · nofun

theorem AggregateDefinition.replay_ne_noHandler (d : AggregateDefinition P) (p : P) (events : List Event)
    (n : String) : d.replay p events ≠ .error (.noHandler n) := by
  rw [d.replay_eq_foldlM]
  induction events generalizing p with
  | nil => nofun
  | cons e events ih =>
    simp only [List.foldlM_cons, sourcingStep]
    rcases e.payload with _ | payload
    · exact ih p
    dsimp only
    rcases d.sourcingHandlerRegistry.get payload.type with _ | handler
    · nofun
    dsimp only
    rcases handler.handle payload.data p with _ | _ | p'
    · nofun
    · exact ih p
    · exact ih p'

theorem AggregateDefinition.resolveAggregateId_ne_noHandler (d : AggregateDefinition P)
    (aggregateId : Option String) (result : Option (EmitApplicableEventsAndResponse P)) (n : String) :
    d.resolveAggregateId aggregateId result ≠ .error (.noHandler n) := by
  unfold AggregateDefinition.resolveAggregateId
  split
  · exact d.extractAggregateId_ne_noHandler _ _ n
  · nofun

theorem restoreProjection_ne_noHandler (d : AggregateDefinition P) (aggregateId : Option String)
    (c : EventStoreClient σ) (n : String) :
    (restoreProjection S d aggregateId c).1 ≠ .error (.noHandler n) := by
  unfold restoreProjection
  rcases aggregateId with _ | a
  · nofun
  dsimp only [queryEventsFromClient]
  cases S.listAggregateEvents c.store a
  · nofun
  · exact d.replay_ne_noHandler _ _ n

theorem storeEvents_ne_noHandler (env : Env) (c : EventStoreClient σ) (a : String)
    (o : EmitApplicableEventsAndResponse P) (n : String) :
    (storeEvents S env c a o).1 ≠ .error (.noHandler n) := by
  simp only [storeEvents, EventStoreClient.readHighestSequenceNr, EventStoreClient.appendEvent]
  cases S.readHighestSequenceNr c.store ⟨a, 0⟩ <;> dsimp only [Except.mapError]
  · nofun
  cases durationSinceEpochMillis env.now <;> dsimp only
  · nofun
  split <;> nofun

theorem finishCommand_ne_noHandler (env : Env) (d : AggregateDefinition P) (aggregateId : Option String)
    (result : Except String (Option (EmitApplicableEventsAndResponse P))) (c : EventStoreClient σ)
    (n : String) :
    (finishCommand S env d aggregateId result c).1 ≠ .error (.noHandler n) := by
  unfold finishCommand
  rcases result with e | result
  · nofun
  dsimp only
  rcases hr : d.resolveAggregateId aggregateId result with e | b
  · rintro ⟨⟩; exact d.resolveAggregateId_ne_noHandler _ _ n hr
  dsimp only [persist]
  rcases b with _ | a
  · nofun
  rcases result with _ | o
  · nofun
  rcases hs : storeEvents S env c a o with ⟨_ | _, _⟩ <;> simp only [hs]
  · rintro ⟨⟩; exact storeEvents_ne_noHandler env c a o n (congrArg Prod.fst hs)
  · nofun

/-- `No handler for` を返すのは、コマンドのハンドラがないときだけである。 -/
theorem handleCommand_noHandler {env : Env} {command : Command} {d : AggregateDefinition P}
    {c : EventStoreClient σ} {n : String}
    (h : (handleCommand S env command d c).1 = .error (.noHandler n)) :
    d.commandHandlerRegistry.get command.name = none := by
  unfold handleCommand at h
  rcases hdata : command.payload.map (·.data) with _ | data <;> simp only [hdata] at h
  · cases h
  rcases hid : d.extractAggregateId command.name data with e | aggregateId <;> simp only [hid] at h
  · cases h; exact absurd hid (d.extractAggregateId_ne_noHandler _ _ n)
  rcases hh : d.commandHandlerRegistry.get command.name with _ | handler <;> simp only [hh] at h
  · rfl
  rcases hp : restoreProjection S d aggregateId c with ⟨e | projection, c₁⟩ <;> simp only [hp] at h
  · cases h; exact absurd (congrArg Prod.fst hp) (restoreProjection_ne_noHandler d aggregateId c n)
  · exact absurd h (finishCommand_ne_noHandler env d aggregateId _ c₁ n)

end RustyDendrite.AxonUtils
