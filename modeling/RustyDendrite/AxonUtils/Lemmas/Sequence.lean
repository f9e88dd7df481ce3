import RustyDendrite.AxonUtils.Lemmas.Registry
import RustyDendrite.AxonUtils.Lemmas.Worker

/-!
# 集約ごとの番号

記録をそのまま持つサーバー `memoryStore` の上では、`handle_command` の後のサーバーの記録は前のままか、
一つの集約のイベントを、その集約の最大の番号に i64 で 1 を足した番号で後ろに加えたものである。番号がみな
`i64::MAX` より小さい間は、足し算は回らない。ここから、受信ループがどう進んでも集約ごとの番号の並びが
保たれる性質を導く。
-/

namespace RustyDendrite.AxonUtils

/-! ## 最大の番号 -/

theorem le_foldl_highest (a : String) (events : List Event) (init : Int) :
    init ≤ events.foldl
        (fun h e => if e.aggregateIdentifier = a then max h e.aggregateSequenceNumber else h) init ∧
      ∀ e ∈ events, e.aggregateIdentifier = a → e.aggregateSequenceNumber ≤ events.foldl
        (fun h e => if e.aggregateIdentifier = a then max h e.aggregateSequenceNumber else h) init := by
  induction events generalizing init with
  | nil => simp
  | cons e events ih =>
    obtain ⟨hinit, hmem⟩ := ih (if e.aggregateIdentifier = a then max init e.aggregateSequenceNumber else init)
    refine ⟨le_trans (by split <;> omega) hinit, fun e' he' hea => ?_⟩
    rcases List.mem_cons.mp he' with rfl | he'
    · exact le_trans (by simp [hea]) hinit
    · exact hmem e' he' hea

theorem le_highestSequenceNr {store : List Event} {e : Event} (he : e ∈ store) :
    e.aggregateSequenceNumber ≤ highestSequenceNr store e.aggregateIdentifier :=
  (le_foldl_highest _ store (-1)).2 e he rfl

theorem foldl_highest_lt (a : String) {b : Int} :
    ∀ (events : List Event) (init : Int), init < b →
      (∀ e ∈ events, e.aggregateIdentifier = a → e.aggregateSequenceNumber < b) →
      events.foldl (fun h e => if e.aggregateIdentifier = a then max h e.aggregateSequenceNumber else h) init < b
  | [], _, hinit, _ => hinit
  | e :: events, init, hinit, hb => by
    refine foldl_highest_lt a events _ ?_ fun e' he' => hb e' (List.mem_cons_of_mem _ he')
    dsimp only
    split
    · exact max_lt hinit (hb e (List.mem_cons_self _ _) ‹_›)
    · exact hinit

theorem eventMessage_highest {P : Type} {store : List Event}
    (hmax : ∀ e ∈ store, e.aggregateSequenceNumber < i64Max) (messageIdentifier : String) (timestamp : Int)
    (a : String) (x : String × ApplicableTo P) :
    (eventMessage messageIdentifier timestamp a ⟨highestSequenceNr store a⟩ x).aggregateSequenceNumber =
      highestSequenceNr store a + 1 :=
  eventMessage_aggregateSequenceNumber_of_lt _ _ _ x (le_foldl_highest a store (-1)).1
    (foldl_highest_lt a store (-1) (by unfold i64Max; omega) fun e he _ => hmax e he)

/-! ## 番号の並び -/

/-- 集約ごとに、記録の順に並べた番号が関係 `R` を満たす。 -/
def SequenceOrdered (R : Int → Int → Prop) (store : List Event) : Prop :=
  ∀ a, ((store.filter (·.aggregateIdentifier == a)).map (·.aggregateSequenceNumber)).Pairwise R

/-- 集約 `a` の最大の番号に 1 を足した番号のイベントを後ろに加えても、並びは保たれる。加えるのが二つ以上なら、
同じ番号どうしが `R` を満たすことが要る。 -/
theorem SequenceOrdered.append {R : Int → Int → Prop} {store evs : List Event} {a : String}
    (h : SequenceOrdered R store) (hR : ∀ x y, x ≤ y → R x (y + 1))
    (hevs : ∀ e ∈ evs, e.aggregateIdentifier = a ∧ e.aggregateSequenceNumber = highestSequenceNr store a + 1)
    (hbatch : evs.length ≤ 1 ∨ R (highestSequenceNr store a + 1) (highestSequenceNr store a + 1)) :
    SequenceOrdered R (store ++ evs) := by
  intro b
  rw [List.filter_append, List.map_append, List.pairwise_append]
  refine ⟨h b, ?_, fun x hx y hy => ?_⟩
  · have hrep : (evs.filter (·.aggregateIdentifier == b)).map (·.aggregateSequenceNumber) =
        List.replicate ((evs.filter (·.aggregateIdentifier == b)).map (·.aggregateSequenceNumber)).length
          (highestSequenceNr store a + 1) := by
      refine List.eq_replicate_iff.mpr ⟨rfl, fun y hy => ?_⟩
      obtain ⟨e, he, rfl⟩ := List.mem_map.mp hy
      exact (hevs e (List.mem_filter.mp he).1).2
    rw [hrep, List.pairwise_replicate]
    refine hbatch.imp_left fun hle => le_trans ?_ hle
    simpa using List.length_filter_le _ evs
  · obtain ⟨e, he, rfl⟩ := List.mem_map.mp hx
    obtain ⟨e', he', rfl⟩ := List.mem_map.mp hy
    obtain ⟨he'a, he'n⟩ := hevs e' (List.mem_filter.mp he').1
    have hb : e.aggregateIdentifier = e'.aggregateIdentifier := by
      rw [beq_iff_eq.mp (List.mem_filter.mp he).2, beq_iff_eq.mp (List.mem_filter.mp he').2]
    rw [he'n]
    exact hR _ _ (he'a ▸ hb ▸ le_highestSequenceNr (List.mem_filter.mp he).1)

/-! ## `handle_command` と受信ループの一歩 -/

/-- `memoryStore` の上の `handle_command` は、記録をそのままにするか、登録されたハンドラが出したイベントを、
一つの集約 `a` の下に、その集約の最大の番号に 1 を足した番号で後ろに加える。 -/
theorem handleCommand_memoryStore {P : Type} {env : Env} {command : Command} {d : AggregateDefinition P}
    {c c' : EventStoreClient (List Event)} {res : Except Error (Option EmitEventsAndResponse)}
    (h : handleCommand memoryStore env command d c = (res, c')) :
    c'.store = c.store ∨ ∃ (a : String) (timestamp : Int)
      (handler : SubscriptionHandle P (EmitApplicableEventsAndResponse P)) (data : Bytes) (projection : P)
      (o : EmitApplicableEventsAndResponse P),
      d.commandHandlerRegistry.get command.name = some handler ∧ handler.handle data projection = .ok (some o) ∧
      c'.store = c.store ++
        o.events.map (eventMessage env.messageIdentifier timestamp a ⟨highestSequenceNr c.store a⟩) := by
  rcases handleCommand_outcome h with ⟨⟨hs, -⟩, -⟩ | ⟨-, -, -, hs, -⟩ |
    ⟨a, o, response, ts, ⟨data, handler, projection, -, hh, ho, -⟩, hread, -, -, -, -, hs⟩
  · exact .inl hs
  · exact .inl hs
  cases hread
  exact .inr ⟨a, ts, handler, data, projection, o, hh, ho, (Except.ok.inj hs).symm⟩

variable {ds : List (Σ P : Type, AggregateDefinition P)}

/-- 記録の性質 `Inv` が、登録されたハンドラが出したイベントを、一つの集約の最大の番号に 1 を足した番号で
加えても保たれる。 -/
def PreservedByAppends (ds : List (Σ P : Type, AggregateDefinition P)) (Inv : List Event → Prop) : Prop :=
  ∀ store, Inv store → ∀ d ∈ ds, ∀ name handler data projection (o : EmitApplicableEventsAndResponse d.1)
    messageIdentifier timestamp a,
    d.2.commandHandlerRegistry.get name = some handler → handler.handle data projection = .ok (some o) →
      Inv (store ++ o.events.map (eventMessage messageIdentifier timestamp a ⟨highestSequenceNr store a⟩))

section Runs

variable {Inv : List Event → Prop}

theorem PreservedByAppends.workerStep (hInv : PreservedByAppends ds Inv) {env : Env}
    {s s' : System (List Event)} (hs : Inv s.client.store)
    (h : workerStep (registryOf memoryStore ds) env s = some s') : Inv s'.client.store := by
  rcases workerStep_client h with hc | ⟨command, -, hc⟩
  · rwa [hc]
  rw [hc]
  rcases @registryOf_dispatch _ memoryStore ds env command s.client with
    ⟨_, d, hd, _, _, _, heq⟩ | ⟨_, heq⟩ <;> rw [heq]
  · rcases hp : handleCommand memoryStore env command d.2 s.client with ⟨res, c'⟩
    rcases handleCommand_memoryStore hp with hst | ⟨a, ts, handler, data, projection, o, hh, ho, hst⟩
    · rwa [hst]
    rw [hst]
    exact hInv _ hs d hd _ handler data projection o _ ts a hh ho
  · exact hs

/-- 記録をそのまま持つサーバーの上で、定義を登録した系の届く状態ではいつでも、加えることで保たれる記録の
性質が保たれる。 -/
theorem Reachable.memoryStoreInv (hInv : PreservedByAppends ds Inv) {clientId : String} {inbound : Inbound}
    {client₀ : EventStoreClient (List Event)} {s : System (List Event)}
    (h : Reachable (registryOf memoryStore ds) clientId inbound client₀ s) (h₀ : Inv client₀.store) :
    Inv s.client.store := by
  induction h with
  | init => exact h₀
  | step _ hs ih =>
    cases hs with
    | worker env h => exact hInv.workerStep ih h
    | stream h => rwa [streamStep_client h]

/-- 番号が `i64::MAX` に届かない記録の上で加えることで保たれる性質は、「番号が `i64::MAX` に届かなければ
成り立つ」という形で、加えることで保たれる。 -/
theorem PreservedByAppends.below
    (hInv : ∀ store, Inv store → (∀ e ∈ store, e.aggregateSequenceNumber < i64Max) →
      ∀ d ∈ ds, ∀ name handler data projection (o : EmitApplicableEventsAndResponse d.1) messageIdentifier
        timestamp a,
        d.2.commandHandlerRegistry.get name = some handler → handler.handle data projection = .ok (some o) →
          Inv (store ++ o.events.map (eventMessage messageIdentifier timestamp a ⟨highestSequenceNr store a⟩))) :
    PreservedByAppends ds (fun store => (∀ e ∈ store, e.aggregateSequenceNumber < i64Max) → Inv store) := by
  intro store hs d hd name handler data projection o messageIdentifier timestamp a hh ho hmax
  have hmax₀ : ∀ e ∈ store, e.aggregateSequenceNumber < i64Max := fun e he => hmax e (List.mem_append_left _ he)
  exact hInv store (hs hmax₀) hmax₀ d hd name handler data projection o messageIdentifier timestamp a hh ho

end Runs

/-! ## 番号の並びが保たれること -/

variable {R : Int → Int → Prop}

/-- 登録されたコマンドのハンドラが出すイベントの数が、`R` の要る条件を満たす。 -/
def BatchesFit (ds : List (Σ P : Type, AggregateDefinition P)) (R : Int → Int → Prop) : Prop :=
  ∀ d ∈ ds, ∀ name handler data projection (o : EmitApplicableEventsAndResponse d.1),
    d.2.commandHandlerRegistry.get name = some handler → handler.handle data projection = .ok (some o) →
      o.events.length ≤ 1 ∨ ∀ v, R v v

theorem Reachable.sequenceOrdered (hR : ∀ x y, x ≤ y → R x (y + 1)) (hfit : BatchesFit ds R)
    {clientId : String} {inbound : Inbound} {store₀ : List Event} {s : System (List Event)}
    (h : Reachable (registryOf memoryStore ds) clientId inbound ⟨store₀, []⟩ s)
    (h₀ : SequenceOrdered R store₀) (hmax : ∀ e ∈ s.client.store, e.aggregateSequenceNumber < i64Max) :
    SequenceOrdered R s.client.store := by
  refine h.memoryStoreInv (PreservedByAppends.below fun store hs hmax d hd name handler data projection o
    messageIdentifier timestamp a hh ho => ?_) (fun _ => h₀) hmax
  refine @SequenceOrdered.append R store _ a hs hR (fun e he => ?_)
    ((hfit d hd name handler data projection o hh ho).imp (by simp) (· _))
  obtain ⟨x, -, rfl⟩ := List.mem_map.mp he
  exact ⟨rfl, eventMessage_highest hmax messageIdentifier timestamp a x⟩

/-! ## 番号の抜けがないこと -/

theorem foldl_highest_eq (a : String) (events : List Event) (init : Int) :
    events.foldl (fun h e => if e.aggregateIdentifier = a then max h e.aggregateSequenceNumber else h) init =
      ((events.filter (·.aggregateIdentifier == a)).map (·.aggregateSequenceNumber)).foldl max init := by
  induction events generalizing init with
  | nil => rfl
  | cons e events ih => by_cases he : e.aggregateIdentifier = a <;> simp [List.filter_cons, he, ih]

theorem foldl_max_range (n : Nat) : ((List.range n).map (fun i : Nat => (i : Int))).foldl max (-1) = n - 1 := by
  induction n with
  | zero => rfl
  | succ n ih =>
    rw [List.range_succ, List.map_append, List.foldl_append, ih]
    simp only [List.map_cons, List.map_nil, List.foldl_cons, List.foldl_nil, Nat.cast_succ]
    omega

/-- 集約ごとに、記録の順に並べた番号が 0, 1, 2, … である。 -/
def Gapless (store : List Event) : Prop :=
  ∀ a, (store.filter (·.aggregateIdentifier == a)).map (·.aggregateSequenceNumber) =
    (List.range (store.filter (·.aggregateIdentifier == a)).length).map (fun i : Nat => (i : Int))

theorem Gapless.highest_eq {store : List Event} (h : Gapless store) (a : String) :
    highestSequenceNr store a = (store.filter (·.aggregateIdentifier == a)).length - 1 := by
  rw [AxonUtils.highestSequenceNr, foldl_highest_eq, h a, foldl_max_range]

theorem Gapless.append {P : Type} {store : List Event} (h : Gapless store)
    (hmax : ∀ e ∈ store, e.aggregateSequenceNumber < i64Max) {o : EmitApplicableEventsAndResponse P}
    (hone : o.events.length ≤ 1) (messageIdentifier : String) (timestamp : Int) (a : String) :
    Gapless (store ++
      o.events.map (eventMessage messageIdentifier timestamp a ⟨highestSequenceNr store a⟩)) := by
  rcases o with ⟨_ | ⟨x, _ | ⟨y, rest⟩⟩, response⟩
  · simpa using h
  · have hseq : (eventMessage messageIdentifier timestamp a ⟨highestSequenceNr store a⟩ x).aggregateSequenceNumber =
        (store.filter (·.aggregateIdentifier == a)).length := by
      rw [eventMessage_highest hmax, h.highest_eq]; omega
    have hid : (eventMessage messageIdentifier timestamp a ⟨highestSequenceNr store a⟩ x).aggregateIdentifier = a :=
      rfl
    simp only [List.map_cons, List.map_nil]
    generalize eventMessage messageIdentifier timestamp a ⟨highestSequenceNr store a⟩ x = ev at hseq hid
    intro b
    by_cases hb : a = b
    · subst hb
      simp [List.filter_cons, hid, hseq, h a, List.range_succ]
    · simpa [List.filter_cons, hid, hb] using h b
  · simp at hone

end RustyDendrite.AxonUtils
