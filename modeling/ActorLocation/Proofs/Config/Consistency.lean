import ActorLocation.Proofs.Format.Faithful
/-!
# Consistent configurations

A configuration is accepted if a batch has room for a registration, every strategy allows an
activation, and no type has two strategies.  If several of this fail, the first failure is reported:
the batch, then the default strategy, then the entries for single types from the front, where an
entry for a type that was met before is not looked at any further.

The registry of strategies is filled from the front, so that of several entries for one type the
last one would win.  In an accepted configuration each type has one entry at most, and therefore the
order of the entries does not matter.

## Main definitions

* `Config.Compatible`, `Config.IsConsistent` — entries that can stand in one configuration, and
  configurations that can be used.
* `Config.FirstClash`, `Config.FirstOffence` — what is reported of an unusable configuration.
* `Config.Judges` — an answer accepts the configuration, or reports the first offence.
* `Config.IsUnambiguous` — what a configuration describes is determined and can be used.

## Main results

* `Placements.strategyFor_ofList` — the strategy that a registry has for a type.
* `Config.placementFault?_eq_none_iff`, `Config.placementFault?_eq_some_iff` — when a fault is found
  among the entries, and which one.
* `Config.validated_unambiguous` — how configurations are judged, and what the accepted ones
  describe.
-/

namespace ActorLocation

/-! ### Strategies and backends -/

/-- Of all strategies only workers with the limit zero allow no activation. -/
theorem Strategy.isUnusable_iff {s : Strategy} : s.isUnusable = true ↔ s = .statelessWorker 0 :=
  decide_eq_true_iff

/-- Backends of either kind accept batches. -/
theorem AnyBackend.maxBatch_pos {τ : Type} [VersionedStore τ] (b : AnyBackend τ) :
    0 < (Backend.capabilities b).maxBatch := by
  cases b with
  | inMemory d => exact Nat.zero_lt_succ _
  | overStore d => exact Nat.zero_lt_succ _

namespace Placements

/-- Giving a type a strategy overrides what it had and leaves the other types alone. -/
theorem strategyFor_withStrategy (p : Placements) (t t' : ActorType) (s : Strategy) :
    (p.withStrategy t s).strategyFor t' = if t' = t then s else p.strategyFor t' := by
  rw [strategyFor, withStrategy, Table.find?_insert]
  split
  · rfl
  · rfl

/-- A registry has the strategy that was given last for a type, or else the default one.

**Proof sketch.** Induction from the end of the list, because that is where a registry is extended:
the last entry decides for its type and is filtered out for all others. -/
theorem strategyFor_ofList (default : Strategy) (l : List (ActorType × Strategy)) (t : ActorType) :
    (ofList default l).strategyFor t =
      ((l.filter fun e => e.1 = t).getLast?.map Prod.snd).getD default := by
  induction l using List.reverseRecOn with
  | nil => rfl
  | append_singleton l e ih =>
    have hlast : ofList default (l ++ [e]) = (ofList default l).withStrategy e.1 e.2 :=
      List.foldl_append
    rw [hlast, strategyFor_withStrategy, List.filter_append]
    by_cases ht : e.1 = t
    · rw [if_pos ht.symm, List.filter_cons_of_pos (by simpa using ht), List.filter_nil,
        List.getLast?_concat]
      rfl
    · rw [if_neg (Ne.symm ht), List.filter_cons_of_neg (by simpa using ht), List.filter_nil,
        List.append_nil, ih]

end Placements

open Strategy (isUnusable_iff)

namespace Config

/-! ### What is consistent -/

/-- Says that entries for single types can stand in one configuration: each allows an activation,
and no type has two of them. -/
structure Compatible (l : List (ActorType × Strategy)) : Prop where
  /-- Each strategy allows an activation. -/
  usable : ∀ e ∈ l, e.2 ≠ .statelessWorker 0
  /-- No type has two entries. -/
  nodup : (l.map Prod.fst).Nodup

/-- Says that a configuration can be used. -/
structure IsConsistent (c : Config) : Prop where
  /-- A batch has room for a registration. -/
  batch_pos : 0 < c.maxUnregisterBatch
  /-- The default strategy allows an activation. -/
  default_usable : c.defaultPlacement ≠ .statelessWorker 0
  /-- The entries for single types can stand together. -/
  compatible : Compatible c.placements

/-- Says which error reports the first entry that cannot stand with those before it. -/
inductive FirstClash (l : List (ActorType × Strategy)) : ConfigError → Prop where
  /-- Its type has an entry already, whatever its strategy allows. -/
  | duplicate {before after : List (ActorType × Strategy)} {t : ActorType} {s : Strategy}
    (hl : l = before ++ (t, s) :: after) (hbefore : Compatible before)
    (ht : t ∈ before.map Prod.fst) : FirstClash l (.duplicatePlacement t)
  /-- Its type is new, and its strategy allows no activation. -/
  | unusable {before after : List (ActorType × Strategy)} {t : ActorType}
    (hl : l = before ++ (t, .statelessWorker 0) :: after) (hbefore : Compatible before)
    (ht : t ∉ before.map Prod.fst) : FirstClash l (.invalidWorkerLimit t)

/-- Says which error reports the first offence of a configuration. -/
inductive FirstOffence (c : Config) : ConfigError → Prop where
  /-- A batch would be empty, whatever else is wrong. -/
  | batch (h : c.maxUnregisterBatch = 0) : FirstOffence c .invalidBatchSize
  /-- The default strategy allows no activation. -/
  | default (h : 0 < c.maxUnregisterBatch) (hdefault : c.defaultPlacement = .statelessWorker 0) :
    FirstOffence c .invalidDefaultWorkerLimit
  /-- An entry for a single type cannot stand with those before it. -/
  | clash (h : 0 < c.maxUnregisterBatch) (hdefault : c.defaultPlacement ≠ .statelessWorker 0)
    {e : ConfigError} (he : FirstClash c.placements e) : FirstOffence c e

/-- Says that an answer accepts the configuration if it can be used, and reports the first offence
if there is one. -/
def Judges (c : Config) (answer : Except ConfigError Config) : Prop :=
  (∀ c', answer = .ok c' ↔ c' = c ∧ c.IsConsistent) ∧ ∀ e, answer = .error e ↔ c.FirstOffence e

/-! ### Faults among the entries -/

/-- No entries clash with nothing. -/
theorem Compatible.nil : Compatible [] := ⟨by simp, List.nodup_nil⟩

/-- An entry can be put behind others if its type is new and its strategy allows an activation.

**Proof sketch.** Both conditions are taken apart over the concatenation: the strategies of all
entries are those of `l` and that of `e`, and the types are distinct if those of `l` are and that of
`e` is not among them. -/
theorem compatible_concat_iff {l : List (ActorType × Strategy)} {e : ActorType × Strategy} :
    Compatible (l ++ [e]) ↔
      Compatible l ∧ e.1 ∉ l.map Prod.fst ∧ e.2 ≠ .statelessWorker 0 := by
  constructor
  · rintro ⟨husable, hnodup⟩
    rw [List.map_append, List.nodup_append] at hnodup
    obtain ⟨hl, -, hne⟩ := hnodup
    refine ⟨⟨fun e' he' => husable e' (List.mem_append_left _ he'), hl⟩, ?_, husable e (by simp)⟩
    intro he
    exact hne e.1 he e.1 (by simp) rfl
  · rintro ⟨⟨husable, hnodup⟩, hnew, he⟩
    refine ⟨?_, ?_⟩
    · intro e' he'
      rcases List.mem_append.1 he' with he' | he'
      · exact husable e' he'
      · rw [List.mem_singleton.1 he']
        exact he
    · rw [List.map_append, List.nodup_append]
      refine ⟨hnodup, by simp, ?_⟩
      intro t ht t' ht'
      rw [List.mem_singleton.1 ht']
      exact fun heq => hnew (heq ▸ ht)

/-- Entries that can stand together are passed over, and their types are remembered.

**Proof sketch.** Induction from the end of the entries that come first.  The last one of them has a
new type and a usable strategy, by `compatible_concat_iff`, so the scan goes on behind it. -/
theorem placementFault?_append {before : List (ActorType × Strategy)} (h : Compatible before)
    (l : List (ActorType × Strategy)) :
    placementFault? [] (before ++ l) = placementFault? (before.map Prod.fst).reverse l := by
  induction before using List.reverseRecOn generalizing l with
  | nil => rfl
  | append_singleton before e ih =>
    obtain ⟨hbefore, hnew, husable⟩ := compatible_concat_iff.1 h
    rw [List.append_assoc, ih hbefore, List.singleton_append, placementFault?,
      if_neg (by simpa using hnew), if_neg (by simpa [isUnusable_iff] using husable),
      List.map_append, List.reverse_append]
    rfl

/-- What is found in the entries that follow compatible ones: nothing if all of them are compatible,
and else the first entry that cannot stand with those before it.  The induction is on the entries
that follow; each one that is passed over joins those before it. -/
theorem placementFault?_cases {before : List (ActorType × Strategy)} (h : Compatible before)
    (l : List (ActorType × Strategy)) :
    (placementFault? (before.map Prod.fst).reverse l = none ∧ Compatible (before ++ l)) ∨
      ∃ e, placementFault? (before.map Prod.fst).reverse l = some e ∧
        FirstClash (before ++ l) e := by
  induction l generalizing before with
  | nil => exact .inl ⟨rfl, by rwa [List.append_nil]⟩
  | cons entry l ih =>
    obtain ⟨t, s⟩ := entry
    rw [placementFault?]
    by_cases ht : t ∈ before.map Prod.fst
    · rw [if_pos (List.mem_reverse.2 ht)]
      exact .inr ⟨_, rfl, .duplicate rfl h ht⟩
    · rw [if_neg (by simpa using ht)]
      by_cases hs : s = .statelessWorker 0
      · subst hs
        exact .inr ⟨_, rfl, .unusable rfl h ht⟩
      · -- The entry is passed over: the scan goes on as if it had stood in front.
        have hcompatible : Compatible (before ++ [(t, s)]) := compatible_concat_iff.2 ⟨h, ht, hs⟩
        have hjoined := ih hcompatible
        rw [List.append_assoc, List.map_append, List.reverse_append] at hjoined
        rw [if_neg (by simpa [isUnusable_iff] using hs)]
        exact hjoined

/-- The first entry that cannot stand with those before it is found. -/
theorem FirstClash.placementFault?_eq {l : List (ActorType × Strategy)} {e : ConfigError}
    (h : FirstClash l e) : placementFault? [] l = some e := by
  cases h with
  | duplicate hl hbefore ht =>
    rw [hl, placementFault?_append hbefore, placementFault?, if_pos (List.mem_reverse.2 ht)]
  | unusable hl hbefore ht =>
    rw [hl, placementFault?_append hbefore, placementFault?, if_neg (by simpa using ht)]
    rfl

/-- Entries have a fault that is found exactly if one of them cannot stand with those before it. -/
theorem placementFault?_eq_some_iff {l : List (ActorType × Strategy)} {e : ConfigError} :
    placementFault? [] l = some e ↔ FirstClash l e := by
  constructor
  · intro h
    rcases placementFault?_cases .nil l with ⟨hnone, -⟩ | ⟨e', he', hclash⟩
    · exact absurd (hnone.symm.trans h) (by simp)
    · obtain rfl := Option.some.inj (he'.symm.trans h)
      exact hclash
  · exact FirstClash.placementFault?_eq

/-- No fault is found exactly if all entries can stand together.

**Proof sketch.** From left to right by `placementFault?_cases` for no entries before; from right to
left by `placementFault?_append` for none behind. -/
theorem placementFault?_eq_none_iff {l : List (ActorType × Strategy)} :
    placementFault? [] l = none ↔ Compatible l := by
  constructor
  · intro h
    rcases placementFault?_cases .nil l with ⟨-, hcompatible⟩ | ⟨e, he, -⟩
    · exact hcompatible
    · exact absurd (h.symm.trans he) (by simp)
  · intro h
    have happend := placementFault?_append h []
    rwa [List.append_nil] at happend

/-! ### Faults of configurations -/

variable {c : Config}

/-- A configuration has no fault exactly if it can be used.

**Proof sketch.** The three conditions are looked at one after the other.  Each fault that is found
contradicts one of them, and if none is, all three hold. -/
theorem fault?_eq_none_iff : c.fault? = none ↔ c.IsConsistent := by
  rw [fault?]
  split
  · next hbatch =>
    refine iff_of_false (by simp) ?_
    intro h
    exact UInt64.pos_iff_ne_zero.1 h.batch_pos hbatch
  · next hbatch =>
    split
    · next hdefault =>
      refine iff_of_false (by simp) ?_
      intro h
      exact h.default_usable (isUnusable_iff.1 hdefault)
    · next hdefault =>
      -- The first two conditions hold, and the third is what is left to be looked at.
      rw [placementFault?_eq_none_iff]
      rw [isUnusable_iff] at hdefault
      exact ⟨fun h => ⟨UInt64.pos_iff_ne_zero.2 hbatch, hdefault, h⟩, IsConsistent.compatible⟩

/-- The fault that is found is the first offence, in the order of batch, default strategy and
entries.

**Proof sketch.** From left to right, the branch that was taken names the offence, and those before
it were not taken.  From right to left, an offence rules out the branches before its own; the
entries are `placementFault?_eq_some_iff`. -/
theorem fault?_eq_some_iff {e : ConfigError} : c.fault? = some e ↔ c.FirstOffence e := by
  constructor
  · intro h
    rw [fault?] at h
    split at h
    · next hbatch =>
      rw [← Option.some.inj h]
      exact .batch hbatch
    · next hbatch =>
      split at h
      · next hdefault =>
        rw [← Option.some.inj h]
        exact .default (UInt64.pos_iff_ne_zero.2 hbatch) (isUnusable_iff.1 hdefault)
      · next hdefault =>
        rw [isUnusable_iff] at hdefault
        exact .clash (UInt64.pos_iff_ne_zero.2 hbatch) hdefault (placementFault?_eq_some_iff.1 h)
  · intro h
    rw [fault?]
    -- Each offence names the branch that is taken, and rules out those before it.
    cases h with
    | batch h => rw [if_pos h]
    | default h hdefault =>
      rw [if_neg (UInt64.pos_iff_ne_zero.1 h), if_pos (isUnusable_iff.2 hdefault)]
    | clash h hdefault he =>
      rw [if_neg (UInt64.pos_iff_ne_zero.1 h), if_neg (by rwa [isUnusable_iff])]
      exact placementFault?_eq_some_iff.2 he

/-- A configuration is accepted as it is if it can be used, and refused for its first offence
otherwise.

**Proof sketch.** The answer is the fault, if there is one, and both conditions are about it
(`fault?_eq_none_iff`, `fault?_eq_some_iff`). -/
theorem judges_validate (c : Config) : c.Judges c.validate := by
  rw [Judges, ← fault?_eq_none_iff]
  simp only [← fault?_eq_some_iff]
  rw [validate]
  cases hfault : c.fault? with
  | none => simp [eq_comm]
  | some e => simp

/-- That a type is met again comes before what its second strategy allows. -/
example :
    build [.placement ⟨7⟩ .hashBased, .placement ⟨7⟩ (.statelessWorker 0)] =
      .error (.duplicatePlacement ⟨7⟩) := by
  decide

/-! ### What a consistent configuration describes -/

/-- The entries for a type are at most one if all entries can stand together.

**Proof sketch.** Induction from the end of the list.  If the last entry is for the type, no earlier
one is, by `compatible_concat_iff`. -/
theorem Compatible.filter_eq {l : List (ActorType × Strategy)} (h : Compatible l) (t : ActorType) :
    l.filter (fun e => e.1 = t) = [] ∨ ∃ s, l.filter (fun e => e.1 = t) = [(t, s)] := by
  induction l using List.reverseRecOn with
  | nil => exact .inl rfl
  | append_singleton l e ih =>
    obtain ⟨hl, hnew, -⟩ := compatible_concat_iff.1 h
    rw [List.filter_append]
    by_cases ht : e.1 = t
    · subst ht
      -- The last entry is for the type, so none of those before it is.
      have hnone : l.filter (fun e' => e'.1 = e.1) = [] := by
        rw [List.filter_eq_nil_iff]
        intro e' he'
        simp only [decide_eq_true_eq]
        intro heq
        exact hnew (heq ▸ List.mem_map_of_mem he')
      exact .inr ⟨e.2, by rw [hnone]; simp⟩
    · rw [List.filter_cons_of_neg (by simpa using ht), List.filter_nil, List.append_nil]
      exact ih hl

/-- Says that `s` is the strategy of the only entry for the type, or the default one if there is no
entry. -/
def IsStrategyOf (c : Config) (t : ActorType) (s : Strategy) : Prop :=
  c.placements.filter (fun e => e.1 = t) = [(t, s)] ∨
    c.placements.filter (fun e => e.1 = t) = [] ∧ s = c.defaultPlacement

/-- A type has no two strategies. -/
theorem IsStrategyOf.unique {t : ActorType} {s s' : Strategy} (h : c.IsStrategyOf t s)
    (h' : c.IsStrategyOf t s') : s = s' := by
  rcases h with h | ⟨h, rfl⟩
  · rcases h' with h' | ⟨h', -⟩
    · simpa using h.symm.trans h'
    · simp [h] at h'
  · rcases h' with h' | ⟨-, rfl⟩
    · simp [h] at h'
    · rfl

/-- The configuration with other entries for single types. -/
def withPlacements (c : Config) (l : List (ActorType × Strategy)) : Config :=
  { c with placements := l }

/-- The order of the entries does not matter. -/
theorem IsStrategyOf.of_perm {t : ActorType} {s : Strategy} {l : List (ActorType × Strategy)}
    (h : c.IsStrategyOf t s) (hl : l.Perm c.placements) :
    (c.withPlacements l).IsStrategyOf t s := by
  have hfilter := hl.filter fun e => e.1 = t
  rcases h with h | ⟨h, hs⟩
  · rw [h] at hfilter
    exact .inl hfilter.eq_singleton
  · rw [h] at hfilter
    exact .inr ⟨hfilter.eq_nil, hs⟩

namespace IsConsistent

/-- A registry that is filled from consistent entries has for each type the strategy of its only
entry. -/
theorem isStrategyOf (h : c.IsConsistent) (t : ActorType) :
    c.IsStrategyOf t (c.placementsOf.strategyFor t) := by
  rw [placementsOf, Placements.strategyFor_ofList]
  rcases h.compatible.filter_eq t with hnone | ⟨s, hone⟩
  · exact .inr ⟨hnone, by rw [hnone]; rfl⟩
  · refine .inl ?_
    rw [hone]
    rfl

/-- Whether a configuration can be used does not depend on the order of its entries. -/
theorem of_perm (h : c.IsConsistent) {l : List (ActorType × Strategy)} (hl : l.Perm c.placements) :
    (c.withPlacements l).IsConsistent where
  batch_pos := h.batch_pos
  default_usable := h.default_usable
  compatible :=
    ⟨fun e he => h.compatible.usable e (hl.mem_iff.1 he),
      (hl.map Prod.fst).nodup_iff.2 h.compatible.nodup⟩

/-- In a consistent configuration every type is allowed an activation, whether it has an entry or
not. -/
theorem strategyFor_ne (h : c.IsConsistent) (t : ActorType) :
    c.placementsOf.strategyFor t ≠ .statelessWorker 0 := by
  rcases h.isStrategyOf t with hone | ⟨-, hdefault⟩
  · have hmem : (t, c.placementsOf.strategyFor t) ∈ c.placements := by
      refine (List.mem_filter (p := fun e => e.1 = t)).1 ?_ |>.1
      rw [hone]
      exact List.mem_singleton_self _
    exact h.compatible.usable _ hmem
  · rw [hdefault]
    exact h.default_usable

end IsConsistent

/-! ### The directory of a configuration -/

/-- The backend is there if it needs no store, or there is one. -/
theorem exists_backend? {τ : Type} {store : Option τ}
    (hstore : c.backend = .keyValue → store.isSome) : ∃ b, c.backend? store = .ok b := by
  unfold backend?
  split
  · exact ⟨_, rfl⟩
  · exact ⟨_, rfl⟩
  · next hkind => exact absurd (hstore hkind) (by simp)

variable {τ : Type} [VersionedStore τ]

/-- The directory has the backend that was selected, and batches as large as was asked for within
what that backend accepts. -/
theorem IsConsistent.exists_directory? (h : c.IsConsistent) {store : Option τ}
    (hstore : c.backend = .keyValue → store.isSome) :
    ∃ d, c.directory? store = .ok d ∧ c.backend? store = .ok d.backend ∧
      d.maxBatch = min c.maxUnregisterBatch.toNat d.capabilities.maxBatch := by
  obtain ⟨b, hb⟩ := exists_backend? hstore
  refine ⟨(Directory.ofBackend b).withMaxBatch c.maxUnregisterBatch.toNat, ?_, hb, ?_⟩
  · rw [directory?, hb]
    rfl
  · have hbatch : 0 < c.maxUnregisterBatch.toNat := UInt64.lt_iff_toNat_lt.1 h.batch_pos
    have hmax := b.maxBatch_pos
    change max 1 (min _ (max 1 (Backend.capabilities b).maxBatch)) =
      min _ (Backend.capabilities b).maxBatch
    omega

/-! ### Accepted configurations -/

/-- Says that what a configuration describes is determined, whatever the order of its entries, and
can be used. -/
structure IsUnambiguous (c : Config) : Prop where
  /-- A type has the strategy of its only entry, or the default one. -/
  strategy : ∀ t, c.IsStrategyOf t (c.placementsOf.strategyFor t)
  /-- With its entries in another order the configuration is accepted too, and describes the same
  strategies. -/
  order : ∀ l, l.Perm c.placements →
    (c.withPlacements l).validate = .ok (c.withPlacements l) ∧
      ∀ t, (c.withPlacements l).placementsOf.strategyFor t = c.placementsOf.strategyFor t
  /-- Every type is allowed an activation. -/
  usable : ∀ t, c.placementsOf.strategyFor t ≠ .statelessWorker 0
  /-- With a store where one is needed, there is a directory over the selected backend, with batches
  as large as was asked for within what that backend accepts. -/
  directory : ∀ {τ : Type} [VersionedStore τ] (store : Option τ),
    (c.backend = .keyValue → store.isSome) →
      ∃ d, c.directory? store = .ok d ∧ c.backend? store = .ok d.backend ∧
        d.maxBatch = min c.maxUnregisterBatch.toNat d.capabilities.maxBatch

/-- An accepted configuration is returned as it is. -/
theorem validate_eq_ok_iff : c.validate = .ok c ↔ c.IsConsistent := by
  rw [(judges_validate c).1 c, eq_self, true_and]

/-- What a consistent configuration describes is determined and can be used.  The order of the
entries does not matter because a type has no two strategies (`IsStrategyOf.unique`), in whichever
order the registry was filled. -/
theorem IsConsistent.isUnambiguous (h : c.IsConsistent) : c.IsUnambiguous where
  strategy := h.isStrategyOf
  order l hl := by
    refine ⟨validate_eq_ok_iff.2 (h.of_perm hl), fun t => ?_⟩
    exact ((h.of_perm hl).isStrategyOf t).unique ((h.isStrategyOf t).of_perm hl)
  usable := h.strategyFor_ne
  directory _ := h.exists_directory?

/-- A configuration is accepted exactly if it can be used, and refused for its first offence
otherwise, whether it is checked as it is, was set up step by step or was read from a text.  What an
accepted configuration describes is determined and can be used, whatever the order of its entries.

**Proof sketch.** The three ways to a configuration end in `validate`, which `judges_validate`
describes.  What is accepted is consistent, and the rest is `IsConsistent.isUnambiguous`. -/
theorem validated_unambiguous :
    (∀ c : Config, c.Judges c.validate) ∧
      (∀ l : List Setting, (l.foldl set {}).Judges (build l)) ∧
      (∀ (o : Octets) (c : Config), Json.decode? ofJson? o = some c → c.Judges (ofText o)) ∧
      ∀ c : Config, c.validate = .ok c → c.IsUnambiguous := by
  refine ⟨judges_validate, fun l => judges_validate _, ?_, ?_⟩
  · intro o c hread
    have htext : ofText o = c.validate := by
      rw [Json.decode?] at hread
      rw [ofText, hread]
    rw [htext]
    exact c.judges_validate
  · intro c hok
    exact (validate_eq_ok_iff.1 hok).isUnambiguous

/-- The text of a configuration with entries for two types, the greater one first. -/
def mixedText : Octets :=
  Octets.ofText <|
    "\x7b\"directory\":\"key_value\",\"max_unregister_batch\":1000," ++
      "\"placements\":[[7,\x7b\"kind\":\"stateless_worker\",\"max_local\":4\x7d]," ++
      "[3,[\"hash_based\"]]]\x7d"

/-- The configuration that the text denotes. -/
def mixed : Config where
  backend := .keyValue
  maxUnregisterBatch := 1000
  placements := [(⟨7⟩, .statelessWorker 4), (⟨3⟩, .hashBased)]

/-- The configuration is accepted, the order of its two entries does not matter, and over a store
batches are cut down to what the backend accepts. -/
theorem validated_unambiguous_mixed :
    Json.decode? ofJson? mixedText = some mixed ∧ ofText mixedText = .ok mixed ∧
      mixed.validate = .ok mixed ∧
      (mixed.withPlacements mixed.placements.reverse).placementsOf.strategyFor ⟨7⟩ =
        .statelessWorker 4 ∧
      ∃ d, mixed.directory? (some ({} : MemoryStore)) = .ok d ∧ d.maxBatch = 25 := by
  obtain ⟨-, -, htext, haccepted⟩ := validated_unambiguous
  have hread : Json.decode? ofJson? mixedText = some mixed := by decide +kernel
  have hok : mixed.validate = .ok mixed := by decide
  have hconsistent : mixed.IsConsistent := validate_eq_ok_iff.1 hok
  have hmixed := haccepted mixed hok
  obtain ⟨-, hstrategies⟩ := hmixed.order _ mixed.placements.reverse_perm
  obtain ⟨d, hd, hbackend, hbatch⟩ := hmixed.directory (some ({} : MemoryStore)) fun _ => rfl
  refine ⟨hread, ((htext _ _ hread).1 mixed).2 ⟨rfl, hconsistent⟩, hok, ?_, d, hd, ?_⟩
  · rw [hstrategies]
    rfl
  · have hselected : d.backend = .overStore ⟨{}⟩ := (Except.ok.inj hbackend).symm
    rw [hbatch, Directory.capabilities, hselected]
    rfl

end Config

end ActorLocation
