import RustyDendrite.AxonUtils.Worker
import RustyDendrite.AxonUtils.Lemmas.Pipeline

/-!
# 集約の登録簿と振り分け

`register` が作るコマンドの列と対応表を、走査した集約のコマンドの名前で言い表す。定義を `insert` で
登録した登録簿では、対応表が指す集約はそのコマンドのハンドラを持つ登録された定義で、振り分けは
その定義の `handle_command` を呼ぶか `Could not find aggregate handler` を返す。
-/

namespace RustyDendrite.AxonUtils

variable {σ : Type}

/-! ## `register` -/

namespace TheAggregateRegistry

@[simp] theorem registerCommands_fst (name : String) (acc : List String × HashMap String)
    (names : List String) : (registerCommands name acc names).1 = acc.1 ++ names := by
  induction names generalizing acc with
  | nil => simp [registerCommands]
  | cons c names ih => simp [registerCommands, ih]

theorem registerCommands_lookup (name : String) (acc : List String × HashMap String)
    (names : List String) (c : String) :
    (registerCommands name acc names).2.lookup c = if c ∈ names then some name else acc.2.lookup c := by
  induction names generalizing acc with
  | nil => simp [registerCommands]
  | cons c' names ih =>
    rw [registerCommands, ih]
    by_cases h : c = c'
    · subst h; simp [AList.lookup_insert]
    · simp [h, AList.lookup_insert_ne h]

@[simp] theorem registerAll_fst (acc : List String × HashMap String)
    (entries : List (Σ _ : String, AggregateHandle σ)) :
    (registerAll acc entries).1 = acc.1 ++ (entries.map (·.2.commandNames)).flatten := by
  induction entries generalizing acc with
  | nil => simp [registerAll]
  | cons e entries ih => obtain ⟨name, handle⟩ := e; simp [registerAll, ih]

theorem registerAll_mem (acc : List String × HashMap String)
    (entries : List (Σ _ : String, AggregateHandle σ)) (c : String) :
    c ∈ (registerAll acc entries).2 ↔ c ∈ acc.2 ∨ ∃ e ∈ entries, c ∈ e.2.commandNames := by
  induction entries generalizing acc with
  | nil => simp only [registerAll, List.not_mem_nil, false_and, exists_false, or_false]
  | cons e entries ih =>
    obtain ⟨name, handle⟩ := e
    rw [registerAll, ih, ← AList.lookup_isSome, ← AList.lookup_isSome, registerCommands_lookup]
    by_cases h : c ∈ handle.commandNames
    · simp only [ite_true, Option.isSome_some, Sigma.exists, true_or, List.mem_cons, exists_eq_or_imp, h,
        or_true]
    · simp only [ite_false, Sigma.exists, List.mem_cons, exists_eq_or_imp, h, false_or]

theorem registerAll_lookup_eq_some {acc : List String × HashMap String}
    {entries : List (Σ _ : String, AggregateHandle σ)} {c a : String}
    (h : (registerAll acc entries).2.lookup c = some a) :
    (∃ e ∈ entries, e.1 = a ∧ c ∈ e.2.commandNames) ∨ acc.2.lookup c = some a := by
  induction entries generalizing acc with
  | nil => exact .inr h
  | cons e entries ih =>
    obtain ⟨name, handle⟩ := e
    rcases ih h with ⟨e, he, rfl, hc⟩ | h'
    · exact .inl ⟨e, List.mem_cons_of_mem _ he, rfl, hc⟩
    rw [registerCommands_lookup] at h'
    split at h'
    · cases h'; exact .inl ⟨_, List.mem_cons_self _ _, rfl, ‹_›⟩
    · exact .inr h'

/-- 対応表は、名前を扱う走査の最後の集約を指す。扱う集約がなければ、始めの対応表の値である。 -/
theorem registerAll_lookup_last (acc : List String × HashMap String)
    (entries : List (Σ _ : String, AggregateHandle σ)) (c : String) :
    (registerAll acc entries).2.lookup c =
      ((entries.reverse.find? (fun e => c ∈ e.2.commandNames)).map (·.1)).or (acc.2.lookup c) := by
  induction entries generalizing acc with
  | nil => rfl
  | cons e entries ih =>
    obtain ⟨name, handle⟩ := e
    rw [registerAll, ih, registerCommands_lookup, List.reverse_cons, List.find?_append]
    cases entries.reverse.find? (fun e => c ∈ e.2.commandNames) <;> by_cases h : c ∈ handle.commandNames <;>
      simp [h]

/-- 集約ごとのコマンドの名前に重なりがなければ、列に名前が現れる回数は、その名前を扱う走査の集約の数である。 -/
theorem registerAll_count (entries : List (Σ _ : String, AggregateHandle σ))
    (hnames : ∀ e ∈ entries, e.2.commandNames.Nodup) (c : String) :
    (registerAll ([], ∅) entries).1.count c = entries.countP (fun e => c ∈ e.2.commandNames) := by
  rw [registerAll_fst, List.nil_append]
  induction entries with
  | nil => rfl
  | cons e entries ih =>
    rw [List.map_cons, List.flatten_cons, List.count_append, ih fun e he => hnames e (List.mem_cons_of_mem _ he),
      List.countP_cons, List.count_eq_of_nodup (hnames e (List.mem_cons_self _ _)), Nat.add_comm]
    simp

theorem registerAll_mem_of_perm {r : TheAggregateRegistry σ} {entries : List (Σ _ : String, AggregateHandle σ)}
    (hp : entries.Perm r.handlers.entries) (c : String) :
    c ∈ (registerAll ([], ∅) entries).1 ↔ ∃ a h, r.get a = some h ∧ c ∈ h.commandNames := by
  simp only [registerAll_fst, List.nil_append, List.mem_flatten, List.mem_map]
  exact ⟨fun ⟨_, ⟨e, he, hl⟩, hc⟩ => ⟨e.1, e.2, AList.mem_lookup_iff.mpr (hp.mem_iff.mp he), hl ▸ hc⟩,
    fun ⟨a, h, hg, hc⟩ => ⟨_, ⟨⟨a, h⟩, hp.mem_iff.mpr (AList.mem_lookup_iff.mp hg), rfl⟩, hc⟩⟩

section Order

variable {entries entries' : List (Σ _ : String, AggregateHandle σ)}

theorem registerAll_lookup_of_unique {c a : String}
    (huniq : ∀ e ∈ entries, ∀ e' ∈ entries, c ∈ e.2.commandNames → c ∈ e'.2.commandNames → e.1 = e'.1) :
    (registerAll ([], ∅) entries).2.lookup c = some a ↔ ∃ e ∈ entries, e.1 = a ∧ c ∈ e.2.commandNames := by
  have hsome {a} (h : (registerAll ([], ∅) entries).2.lookup c = some a) :
      ∃ e ∈ entries, e.1 = a ∧ c ∈ e.2.commandNames :=
    (registerAll_lookup_eq_some h).resolve_right (by simp)
  refine ⟨hsome, fun ⟨e, he, hea, hc⟩ => ?_⟩
  have hmem : c ∈ (registerAll ([], ∅) entries).2 := (registerAll_mem _ _ c).mpr (.inr ⟨e, he, hc⟩)
  obtain ⟨a', ha'⟩ := Option.isSome_iff_exists.mp (AList.lookup_isSome.mpr hmem)
  obtain ⟨e', he', rfl, hc'⟩ := hsome ha'
  rw [ha', ← hea, huniq e he e' he' hc hc']

theorem registerAll_lookup_perm (hp : entries.Perm entries')
    (huniq : ∀ e ∈ entries, ∀ e' ∈ entries, ∀ c, c ∈ e.2.commandNames → c ∈ e'.2.commandNames → e.1 = e'.1)
    (c : String) : (registerAll ([], ∅) entries).2.lookup c = (registerAll ([], ∅) entries').2.lookup c := by
  have huniq' : ∀ e ∈ entries', ∀ e' ∈ entries', ∀ c, c ∈ e.2.commandNames → c ∈ e'.2.commandNames →
      e.1 = e'.1 := fun e he e' he' => huniq e (hp.mem_iff.mpr he) e' (hp.mem_iff.mpr he')
  refine Option.ext fun a => ?_
  rw [Option.mem_def, Option.mem_def,
    registerAll_lookup_of_unique fun e he e' he' => huniq e he e' he' c,
    registerAll_lookup_of_unique fun e he e' he' => huniq' e he e' he' c]
  simp only [hp.mem_iff]

/-- 名前の異なる集約がコマンドの名前を共有せず、どの集約の名前にも重なりがなければ、列の名前は一度ずつ現れる。 -/
theorem registerAll_nodup (hkeys : entries.NodupKeys) (hnames : ∀ e ∈ entries, e.2.commandNames.Nodup)
    (huniq : ∀ e ∈ entries, ∀ e' ∈ entries, ∀ c, c ∈ e.2.commandNames → c ∈ e'.2.commandNames → e.1 = e'.1) :
    (registerAll ([], ∅) entries).1.Nodup := by
  rw [registerAll_fst, List.nil_append, List.nodup_flatten, List.pairwise_map]
  refine ⟨fun l hl => ?_, (List.nodupKeys_iff_pairwise.mp hkeys).imp_of_mem fun he he' hne c hc hc' =>
    hne (huniq _ he _ he' c hc hc')⟩
  obtain ⟨e, he, rfl⟩ := List.mem_map.mp hl
  exact hnames e he

end Order

theorem get_of_mem_entries {r : TheAggregateRegistry σ} {e : Σ _ : String, AggregateHandle σ}
    (he : e ∈ r.handlers.entries) : r.get e.1 = some e.2 :=
  AList.mem_lookup_iff.mpr he

end TheAggregateRegistry

/-! ## 定義を登録した登録簿 -/

/-- 定義の列を順に `insert` して作った登録簿。 -/
def registryOf (S : EventStore σ) (ds : List (Σ P : Type, AggregateDefinition P)) : TheAggregateRegistry σ :=
  ds.foldl (fun r d => r.insert (d.2.toHandle S)) emptyAggregateRegistry

variable {S : EventStore σ} {ds : List (Σ P : Type, AggregateDefinition P)}

theorem registryOf_get {a : String} {h : AggregateHandle σ} (hg : (registryOf S ds).get a = some h) :
    ∃ d ∈ ds, h = d.2.toHandle S ∧ d.2.projectionName = a := by
  suffices key : ∀ (ds' : List (Σ P : Type, AggregateDefinition P)) (r : TheAggregateRegistry σ), ds' ⊆ ds →
      (∀ a h, r.get a = some h → ∃ d ∈ ds, h = d.2.toHandle S ∧ d.2.projectionName = a) →
      ∀ a h, (ds'.foldl (fun r d => r.insert (d.2.toHandle S)) r).get a = some h →
        ∃ d ∈ ds, h = d.2.toHandle S ∧ d.2.projectionName = a from
    key ds emptyAggregateRegistry (List.Subset.refl _) (fun _ _ h => by cases h) a h hg
  intro ds'
  induction ds' with
  | nil => exact fun _ _ hr => hr
  | cons d ds' ih =>
    refine fun r hsub hr => ih _ (fun x hx => hsub (List.mem_cons_of_mem _ hx)) fun a h hg => ?_
    simp only [TheAggregateRegistry.get, TheAggregateRegistry.insert] at hg
    by_cases ha : a = (d.2.toHandle S).name
    · subst ha
      rw [AList.lookup_insert, Option.some.injEq] at hg
      exact ⟨d, hsub (List.mem_cons_self _ _), hg.symm, rfl⟩
    · rw [AList.lookup_insert_ne ha] at hg
      exact hr a h hg

theorem registryOf_register_lookup {c a : String} (h : ((registryOf S ds).register [] ∅).2.lookup c = some a) :
    ∃ d ∈ ds, (registryOf S ds).get a = some (d.2.toHandle S) ∧
      c ∈ d.2.commandHandlerRegistry.handlers.keys := by
  rcases TheAggregateRegistry.registerAll_lookup_eq_some h with ⟨e, he, rfl, hc⟩ | h
  · have hg := TheAggregateRegistry.get_of_mem_entries he
    obtain ⟨d, hd, hde, -⟩ := registryOf_get hg
    rw [hde] at hg hc
    exact ⟨d, hd, hg, hc⟩
  · cases h

theorem register_mem (r : TheAggregateRegistry σ) (c : String) :
    (c ∈ (r.register [] ∅).1 ↔ ∃ a h, r.get a = some h ∧ c ∈ h.commandNames) ∧
      (c ∈ (r.register [] ∅).2 ↔ ∃ a h, r.get a = some h ∧ c ∈ h.commandNames) := by
  have hfst := TheAggregateRegistry.registerAll_mem_of_perm (List.Perm.refl r.handlers.entries) c
  refine ⟨hfst, ?_⟩
  rw [TheAggregateRegistry.register, TheAggregateRegistry.registerAll_mem, ← hfst,
    TheAggregateRegistry.registerAll_fst]
  simp only [AList.not_mem_empty, false_or, List.nil_append, List.mem_flatten, List.mem_map]
  exact ⟨fun ⟨e, he, hc⟩ => ⟨_, ⟨e, he, rfl⟩, hc⟩, fun ⟨_, ⟨e, he, hl⟩, hc⟩ => ⟨e, he, hl ▸ hc⟩⟩

theorem registryOf_register_mem (c : String) :
    (c ∈ ((registryOf S ds).register [] ∅).1 ↔ ∃ a, ∃ d ∈ ds,
        (registryOf S ds).get a = some (d.2.toHandle S) ∧ c ∈ d.2.commandHandlerRegistry.handlers.keys) ∧
      (c ∈ ((registryOf S ds).register [] ∅).2 ↔ ∃ a, ∃ d ∈ ds,
        (registryOf S ds).get a = some (d.2.toHandle S) ∧ c ∈ d.2.commandHandlerRegistry.handlers.keys) := by
  have hdefs : (∃ a h, (registryOf S ds).get a = some h ∧ c ∈ h.commandNames) ↔
      ∃ a, ∃ d ∈ ds, (registryOf S ds).get a = some (d.2.toHandle S) ∧
        c ∈ d.2.commandHandlerRegistry.handlers.keys :=
    ⟨fun ⟨a, h, hg, hc⟩ => by
      obtain ⟨d, hd, rfl, -⟩ := registryOf_get hg
      exact ⟨a, d, hd, hg, hc⟩, fun ⟨a, d, hd, hg, hc⟩ => ⟨a, _, hg, hc⟩⟩
  rw [← hdefs]
  exact register_mem _ c

/-! ## 同じ名前の定義 -/

/-- 定義を順に `insert` した後に名前を引くと、その名前の最後の定義が返る。なければ前の登録簿の値が返る。 -/
theorem foldl_insert_get (ds : List (Σ P : Type, AggregateDefinition P)) (r : TheAggregateRegistry σ)
    (a : String) :
    (ds.foldl (fun r d => r.insert (d.2.toHandle S)) r).get a =
      ((ds.reverse.find? (·.2.projectionName == a)).map (·.2.toHandle S)).or (r.get a) := by
  induction ds generalizing r with
  | nil => rfl
  | cons d ds ih =>
    rw [List.foldl_cons, ih, List.reverse_cons, List.find?_append]
    have hname : (d.2.toHandle S).name = d.2.projectionName := rfl
    simp only [TheAggregateRegistry.get, TheAggregateRegistry.insert, hname]
    by_cases hd : d.2.projectionName = a
    · subst hd
      cases ds.reverse.find? (·.2.projectionName == d.2.projectionName) <;> simp
    · cases ds.reverse.find? (·.2.projectionName == a) <;> simp [hd, AList.lookup_insert_ne (Ne.symm hd)]

theorem registryOf_get_eq (a : String) :
    (registryOf S ds).get a = (ds.reverse.find? (·.2.projectionName == a)).map (·.2.toHandle S) := by
  rw [registryOf, foldl_insert_get]
  exact Option.or_none

theorem registryOf_register_mem_last (c : String) :
    c ∈ ((registryOf S ds).register [] ∅).1 ↔
      ∃ d ∈ ds, ds.reverse.find? (·.2.projectionName == d.2.projectionName) = some d ∧
        c ∈ d.2.commandHandlerRegistry.handlers.keys := by
  rw [(registryOf_register_mem c).1]
  constructor
  · rintro ⟨a, d, -, hg, hc⟩
    rw [registryOf_get_eq, Option.map_eq_some'] at hg
    obtain ⟨d', hf, hd'⟩ := hg
    have hname : d'.2.projectionName = a := by simpa using List.find?_some hf
    refine ⟨d', List.mem_reverse.mp (List.mem_of_find?_eq_some hf), hname ▸ hf, ?_⟩
    have hkeys : d'.2.commandHandlerRegistry.handlers.keys = d.2.commandHandlerRegistry.handlers.keys :=
      congrArg AggregateHandle.commandNames hd'
    exact hkeys ▸ hc
  · rintro ⟨d, hd, hf, hc⟩
    exact ⟨d.2.projectionName, d, hd, by rw [registryOf_get_eq, hf]; rfl, hc⟩

/-! ## 振り分け -/

theorem dispatch_of_get {mapping : HashMap String} {registry : TheAggregateRegistry σ} {env : Env}
    {command : Command} {client : EventStoreClient σ} {a : String} {h : AggregateHandle σ}
    (hm : mapping.lookup command.name = some a) (hg : registry.get a = some h) :
    dispatch mapping registry env command client = h.handle env command client := by
  simp [dispatch, hm, hg]

theorem dispatch_of_lookup_none {mapping : HashMap String} {registry : TheAggregateRegistry σ} {env : Env}
    {command : Command} {client : EventStoreClient σ} (hm : mapping.lookup command.name = none) :
    dispatch mapping registry env command client = (.error .couldNotFindAggregateHandler, client) := by
  simp [dispatch, hm]

/-- `registryOf` の振り分けは、対応表がコマンドの名前を知っていれば、それを扱う登録された定義の
`handle_command` を呼ぶ。知らなければ `Could not find aggregate handler` を返す。 -/
theorem registryOf_dispatch (env : Env) (command : Command) (client : EventStoreClient σ) :
    (∃ a, ∃ d ∈ ds, ((registryOf S ds).register [] ∅).2.lookup command.name = some a ∧
      (registryOf S ds).get a = some (d.2.toHandle S) ∧
      command.name ∈ d.2.commandHandlerRegistry.handlers.keys ∧
      dispatch ((registryOf S ds).register [] ∅).2 (registryOf S ds) env command client =
        handleCommand S env command d.2 client) ∨
    (((registryOf S ds).register [] ∅).2.lookup command.name = none ∧
      dispatch ((registryOf S ds).register [] ∅).2 (registryOf S ds) env command client =
        (.error .couldNotFindAggregateHandler, client)) := by
  rcases hm : ((registryOf S ds).register [] ∅).2.lookup command.name with _ | a
  · exact .inr ⟨rfl, dispatch_of_lookup_none hm⟩
  · obtain ⟨d, hd, hg, hc⟩ := registryOf_register_lookup hm
    exact .inl ⟨a, d, hd, rfl, hg, hc, dispatch_of_get hm hg⟩

end RustyDendrite.AxonUtils
