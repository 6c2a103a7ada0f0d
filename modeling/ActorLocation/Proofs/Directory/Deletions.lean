import ActorLocation.Proofs.Directory.Numbering
/-!
# Deletions that are made up for

A deletion takes registrations away and does nothing else, so it does not matter in which order
deletions happen, nor whether one happens twice.  A backend that is out of reach leaves everything
as it is.  Hence deletions that failed can be made up for once the backend is in reach again: what
is left then is what would be left if none had failed.

This module compares the states of backends, not only what they hold: values of a store that are no
registrations count as well.

## Main definitions

* `ActorLocation.releasedBy` — what the holders of given registrations may delete.
* `ActorLocation.RepairableBackend` — backends whose deletions take something away or fail without
  effect.
* `ActorLocation.Directory.repaired`, `Directory.discard` — a directory that is in reach, and one
  without some of its registrations.

## Main results

* `Directory.unregisterMany_repaired` — what many deletions leave if none fails.
* `Directory.discard_unregisterMany` — what is left once failed deletions have been made up for.
* The instances of `ActorLocation.RepairableBackend`.
-/

namespace ActorLocation

/-! ### Filtered tables -/

namespace Table

variable {κ ν : Type}

/-- Filtering twice is filtering once. -/
theorem filter_filter (t : Table κ ν) (p q : κ → ν → Bool) :
    (t.filter p).filter q = t.filter fun k v => p k v && q k v := by
  obtain ⟨l, hl⟩ := t
  simp only [filter, mk.injEq, List.filter_filter]
  exact List.filter_congr fun e _ => Bool.and_comm _ _

/-- Only the entries matter for what a filter leaves. -/
theorem filter_congr [DecidableEq κ] {t : Table κ ν} {p q : κ → ν → Bool}
    (h : ∀ k v, t.find? k = some v → p k v = q k v) : t.filter p = t.filter q := by
  obtain ⟨l, hl⟩ := t
  simp only [filter, mk.injEq]
  exact List.filter_congr fun e he => h e.1 e.2 (mem_entries_iff.1 he)

/-- A filter that lets everything pass changes nothing. -/
@[simp] theorem filter_true (t : Table κ ν) : (t.filter fun _ _ => true) = t := by
  obtain ⟨l, hl⟩ := t
  simp [filter]

end Table

/-! ### Backends -/

/-- Says of a registration that is held for an actor that the holder of one of the registrations in
`l` may delete it. -/
def releasedBy (l : List Registration) (id : ActorId) (r : Registration) : Bool :=
  l.any fun u => id = u.actor ∧ u.Releases r

/-- What two lists release together is what one of them releases. -/
theorem releasedBy_append (l m : List Registration) :
    releasedBy (l ++ m) = fun id r => releasedBy l id r || releasedBy m id r := by
  funext id r
  exact List.any_append

/-- Says that the answer to a deletion is no failure: it succeeded, or it met a corrupted entry. -/
def DealtWith (answer : Except DirectoryError Unit) : Prop :=
  ∀ e, answer = .error e → ∃ id reason, e = .corrupted id reason

/-- Backends that can be brought back in reach, and whose deletions take away what they are meant
to, or fail without effect while the backend is out of reach. -/
class RepairableBackend (σ : Type) [Backend σ] where
  /-- The backend once it is in reach. -/
  repair : σ → σ
  /-- The backend without the registrations that satisfy `p` for their actor. -/
  discard : σ → (p : ActorId → Registration → Bool) → σ
  /-- A backend can do the same when it is in reach. -/
  capabilities_repair (s : σ) : Backend.capabilities (repair s) = Backend.capabilities s
  /-- A backend can do the same when it has discarded something. -/
  capabilities_discard (s : σ) (p : ActorId → Registration → Bool) :
    Backend.capabilities (discard s p) = Backend.capabilities s
  /-- A backend stays in reach when it discards something. -/
  repair_discard (s : σ) (p : ActorId → Registration → Bool) :
    repair (discard s p) = discard (repair s) p
  /-- Nothing happens if nothing is discarded. -/
  discard_false (s : σ) : discard s (fun _ _ => false) = s
  /-- What is discarded one after the other can be discarded at once. -/
  discard_discard (s : σ) (p q : ActorId → Registration → Bool) :
    discard (discard s p) q = discard s fun id r => p id r || q id r
  /-- A deletion takes effect, or fails without effect. -/
  unregister (s : σ) (r : Registration) :
    DealtWith (Backend.unregister s r).1 ∧
        repair (Backend.unregister s r).2 = discard (repair s) (releasedBy [r]) ∨
      (∃ reason, (Backend.unregister s r).1 = .error (.unavailable reason)) ∧
        repair (Backend.unregister s r).2 = repair s
  /-- A deletion does not fail while the backend is in reach. -/
  unregister_repair (s : σ) (r : Registration) :
    DealtWith (Backend.unregister (repair s) r).1 ∧
      (Backend.unregister (repair s) r).2 = discard (repair s) (releasedBy [r])
  /-- A deletion by nodes takes effect, or fails without effect. -/
  unregisterNodes (s : σ) (nodes : List Node) (h : (Backend.capabilities s).bulkRemoval = true) :
    (∃ l, (Backend.unregisterNodes s nodes).1 = .ok l) ∧
        repair (Backend.unregisterNodes s nodes).2 =
          discard (repair s) (fun _ r => r.node ∈ nodes) ∨
      (∃ reason, (Backend.unregisterNodes s nodes).1 = .error (.unavailable reason)) ∧
        repair (Backend.unregisterNodes s nodes).2 = repair s
  /-- A deletion by nodes does not fail while the backend is in reach. -/
  unregisterNodes_repair (s : σ) (nodes : List Node)
    (h : (Backend.capabilities s).bulkRemoval = true) :
    (∃ l, (Backend.unregisterNodes (repair s) nodes).1 = .ok l) ∧
      (Backend.unregisterNodes (repair s) nodes).2 =
        discard (repair s) fun _ r => r.node ∈ nodes

/-! ### In memory -/

namespace InMemory

/-- A directory in memory without the registrations that satisfy `p`. -/
def discard (d : InMemory) (p : ActorId → Registration → Bool) : InMemory :=
  { d with entries := d.entries.filter fun id r => !p id r }

/-- In memory a deletion takes away what it releases, and nothing else happens. -/
theorem unregister_eq_discard (d : InMemory) (r : Registration) :
    d.unregister r = d.discard (releasedBy [r]) := by
  simp only [unregister, discard, Table.eraseIf, mk.injEq, and_true]
  refine Table.filter_congr fun id s _ => ?_
  simp [releasedBy]

/-- In memory a deletion by nodes takes away what is registered there, and nothing else happens. -/
theorem unregisterNodes_eq_discard (d : InMemory) (nodes : List Node) :
    (d.unregisterNodes nodes).2 = d.discard fun _ r => r.node ∈ nodes := by
  simp [unregisterNodes, discard]

/-- A directory in memory is always in reach. -/
instance : RepairableBackend InMemory where
  repair d := d
  discard := discard
  capabilities_repair _ := rfl
  capabilities_discard _ _ := rfl
  repair_discard _ _ := rfl
  discard_false d := by simp [discard]
  discard_discard d p q := by simp [discard, Table.filter_filter]
  unregister d r := .inl ⟨fun _ h => by contradiction, d.unregister_eq_discard r⟩
  unregister_repair d r := ⟨fun _ h => by contradiction, d.unregister_eq_discard r⟩
  unregisterNodes d nodes _ := .inl ⟨⟨_, rfl⟩, d.unregisterNodes_eq_discard nodes⟩
  unregisterNodes_repair d nodes _ := ⟨⟨_, rfl⟩, d.unregisterNodes_eq_discard nodes⟩

end InMemory

/-! ### Over a store in memory -/

namespace OverStore

/-- The registration that a value stands for under a key, if it is that of the actor whose key it
is. -/
def meaning? (key : String) (v : Versioned) : Option Registration :=
  (Registration.ofStored? v.value).bind fun r =>
    if key = storageKey r.actor then some (r.withEtag ⟨v.version⟩) else none

/-- A directory over a store without the registrations that satisfy `p`.  Values that are no
registrations of their actors stay. -/
def discard (d : OverStore MemoryStore) (p : ActorId → Registration → Bool) :
    OverStore MemoryStore :=
  ⟨{ d.store with
    entries := d.store.entries.filter fun key v => (meaning? key v).all fun r => !p r.actor r }⟩

/-- A directory over a store that is switched on. -/
def repair (d : OverStore MemoryStore) : OverStore MemoryStore := ⟨d.store.setAvailable true⟩

/-- What a value stands for is stored under the key of its actor, and is what it means for the
actor.

**Proof sketch.** Both sides decode the value and compare one thing: the meaning compares the key
with that of the decoded actor, `decode` compares the decoded actor with the given one. -/
theorem meaning?_eq_some_iff {key : String} {v : Versioned} {r : Registration} :
    meaning? key v = some r ↔ key = storageKey r.actor ∧ decode r.actor v = .ok r := by
  rw [meaning?, decode]
  cases Registration.ofStored? v.value with
  | none => simp
  | some s =>
    simp only [Option.bind_some, Option.ite_none_right_eq_some]
    constructor
    · rintro ⟨hkey, hs⟩
      obtain rfl := Option.some.inj hs
      exact ⟨hkey, if_pos rfl⟩
    · rintro ⟨hkey, hs⟩
      split at hs
      · next hactor => exact ⟨hactor ▸ hkey, congrArg some (Except.ok.inj hs)⟩
      · simp at hs

/-- A value is discarded with what the holder of `r` may delete iff it is stored under the key of
its actor and means a registration that is released.

**Proof sketch.** A registration that is released has the actor of `r`, so that its key is that of
`r` and both sides decode the value for the same actor. -/
theorem keeps_iff {key : String} {v : Versioned} {r : Registration} :
    ((meaning? key v).all fun s => !releasedBy [r] s.actor s) = true ↔
      ¬ (key = storageKey r.actor ∧ ∃ s, decode r.actor v = .ok s ∧ r.Releases s) := by
  simp only [Option.all_eq_true, meaning?_eq_some_iff, releasedBy, List.any_cons, List.any_nil,
    Bool.or_false, Bool.not_eq_true', decide_eq_false_iff_not]
  constructor
  · rintro h ⟨hkey, s, hs, hr⟩
    exact h s ⟨hr.1.1 ▸ hkey, hr.1.1 ▸ hs⟩ ⟨hr.1.1.symm, hr⟩
  · rintro h s ⟨hkey, hs⟩ ⟨hactor, hr⟩
    exact h ⟨hactor ▸ hkey, s, hactor ▸ hs, hr⟩

variable {s : MemoryStore} {r : Registration}

/-- Nothing is discarded unless what is held for the actor is released.

**Proof sketch.** The filter keeps every entry.  By `keeps_iff` only one under the key of the actor
could go, and that one is what is held. -/
theorem discard_eq_self
    (h : ∀ stored, held ⟨s⟩ r.actor = some stored → ¬ r.Releases stored) :
    discard ⟨s⟩ (releasedBy [r]) = ⟨s⟩ := by
  have hkept : (s.entries.filter fun key v =>
      (meaning? key v).all fun stored => !releasedBy [r] stored.actor stored) = s.entries := by
    refine (Table.filter_congr fun key v hv => ?_).trans s.entries.filter_true
    refine keeps_iff.2 ?_
    rintro ⟨rfl, stored, hstored, hr⟩
    exact h stored (held_of_decode_eq_ok hv hstored) hr
  rw [discard, hkept]

/-- The key of the actor is erased if what is held for it is released.

**Proof sketch.** The filter that discards and the one that erases let the same entries pass: by
`keeps_iff`, only the entry under the key goes, and it does, because what it means is released. -/
theorem discard_eq_erase {stored : Registration} (hheld : held ⟨s⟩ r.actor = some stored)
    (hr : r.Releases stored) :
    discard ⟨s⟩ (releasedBy [r]) =
      ⟨{ s with entries := s.entries.erase (storageKey r.actor) }⟩ := by
  have herased : (s.entries.filter fun key v =>
      (meaning? key v).all fun stored => !releasedBy [r] stored.actor stored) =
        s.entries.erase (storageKey r.actor) := by
    refine Table.filter_congr fun key v hv => ?_
    rw [Bool.eq_iff_iff, keeps_iff, decide_eq_true_iff]
    refine not_congr ⟨And.left, ?_⟩
    rintro rfl
    obtain ⟨w, hw, hstored⟩ := exists_of_held hheld
    obtain rfl := Option.some.inj (hw.symm.trans hv)
    exact ⟨rfl, stored, hstored, hr⟩
  rw [discard, herased]

/-- While the store is switched on, a deletion discards what it releases.

**Proof sketch.** Each of the three ways in which a deletion ends over a store that is switched on
(`unregister_cases`) discards what it releases: nothing where a corrupted entry is met or what is
held is not released, and else the key (`discard_eq_erase`). -/
theorem unregister_of_available (ha : s.available = true) (r : Registration) :
    DealtWith (unregister ⟨s⟩ r).1 ∧
      (unregister ⟨s⟩ r).2 = discard ⟨s⟩ (releasedBy [r]) := by
  rcases unregister_cases s r with
    ⟨-, hoff⟩ | ⟨reason, h, hheld⟩ | ⟨h, hkept⟩ | ⟨h, stored, hheld, hr⟩
  · rw [ha] at hoff
    contradiction
  · rw [h, discard_eq_self (by simp [hheld])]
    exact ⟨fun e he => ⟨_, _, (Except.error.inj he).symm⟩, rfl⟩
  · rw [h, discard_eq_self hkept]
    exact ⟨fun e he => by contradiction, rfl⟩
  · rw [h, discard_eq_erase hheld hr]
    exact ⟨fun e he => by contradiction, rfl⟩

/-- A directory over a store is out of reach while the store is switched off. -/
instance : RepairableBackend (OverStore MemoryStore) where
  repair := repair
  discard := discard
  capabilities_repair _ := rfl
  capabilities_discard _ _ := rfl
  repair_discard _ _ := rfl
  discard_false d := by simp [discard]
  discard_discard d p q := by
    simp only [discard, Table.filter_filter, mk.injEq]
    congr 2
    funext key v
    cases meaning? key v <;> simp
  unregister d r := by
    by_cases ha : d.store.available = true
    · obtain ⟨hanswer, hd⟩ := unregister_of_available ha r
      exact .inl ⟨hanswer, congrArg repair hd⟩
    · refine .inr ?_
      change (∃ reason, (unregister d r).1 = _) ∧ repair (unregister d r).2 = repair d
      have hanswer : unregister d r = (.error MemoryStore.switchedOff.toDirectoryError, d) := by
        simp [unregister, VersionedStore.get, MemoryStore.whenAvailable, ha]
      rw [hanswer]
      exact ⟨⟨_, rfl⟩, rfl⟩
  unregister_repair d r := unregister_of_available (s := d.store.setAvailable true) rfl r
  unregisterNodes _ _ h := by simp [Backend.capabilities] at h
  unregisterNodes_repair _ _ h := by simp [Backend.capabilities] at h

end OverStore

/-! ### Either kind -/

namespace AnyBackend

instance : RepairableBackend (AnyBackend MemoryStore) where
  repair
    | inMemory d => inMemory (RepairableBackend.repair d)
    | overStore d => overStore (RepairableBackend.repair d)
  discard
    | inMemory d, p => inMemory (RepairableBackend.discard d p)
    | overStore d, p => overStore (RepairableBackend.discard d p)
  capabilities_repair
    | inMemory d => RepairableBackend.capabilities_repair d
    | overStore d => RepairableBackend.capabilities_repair d
  capabilities_discard
    | inMemory d, p => RepairableBackend.capabilities_discard d p
    | overStore d, p => RepairableBackend.capabilities_discard d p
  repair_discard
    | inMemory _, _ => rfl
    | overStore _, _ => rfl
  discard_false
    | inMemory d => congrArg inMemory (RepairableBackend.discard_false d)
    | overStore d => congrArg overStore (RepairableBackend.discard_false d)
  discard_discard
    | inMemory d, p, q => congrArg inMemory (RepairableBackend.discard_discard d p q)
    | overStore d, p, q => congrArg overStore (RepairableBackend.discard_discard d p q)
  unregister
    | inMemory d, r =>
      (RepairableBackend.unregister d r).imp (And.imp_right (congrArg inMemory))
        (And.imp_right (congrArg inMemory))
    | overStore d, r =>
      (RepairableBackend.unregister d r).imp (And.imp_right (congrArg overStore))
        (And.imp_right (congrArg overStore))
  unregister_repair
    | inMemory d, r =>
      (RepairableBackend.unregister_repair d r).imp_right (congrArg inMemory)
    | overStore d, r =>
      (RepairableBackend.unregister_repair d r).imp_right (congrArg overStore)
  unregisterNodes
    | inMemory d, nodes, h =>
      (RepairableBackend.unregisterNodes d nodes h).imp (And.imp_right (congrArg inMemory))
        (And.imp_right (congrArg inMemory))
    | overStore d, nodes, h => by simp [Backend.capabilities] at h
  unregisterNodes_repair
    | inMemory d, nodes, h =>
      (RepairableBackend.unregisterNodes_repair d nodes h).imp_right (congrArg inMemory)
    | overStore d, nodes, h => by simp [Backend.capabilities] at h

end AnyBackend

/-! ### Flaky backends -/

namespace Flaky

section

variable {σ : Type} [Backend σ] [RepairableBackend σ]

/-- A flaky backend in reach: no failures are planned, and the backend that does the work is in
reach. -/
def repair (b : Flaky σ) : Flaky σ :=
  { b with inner := RepairableBackend.repair b.inner, outages := {} }

/-- A flaky backend without the registrations that satisfy `p`. -/
def discard (b : Flaky σ) (p : ActorId → Registration → Bool) : Flaky σ :=
  { b with inner := RepairableBackend.discard b.inner p }

variable {α : Type} {P : Except DirectoryError α → Prop} {p : ActorId → Registration → Bool}
  {b : Flaky σ} {op : σ → Except DirectoryError α × σ}

/-- A change takes effect if it would without failures, or it fails without effect.

**Proof sketch.** A flaky backend either fails by plan, without touching the backend that does the
work, or lets it work (`change_cases`).  What it does then is assumed, and that the plan of failures
went on does not show once it is cleared. -/
theorem repair_change
    (h : P (op b.inner).1 ∧ RepairableBackend.repair (op b.inner).2 =
          RepairableBackend.discard (RepairableBackend.repair b.inner) p ∨
        (∃ reason, (op b.inner).1 = .error (.unavailable reason)) ∧
          RepairableBackend.repair (op b.inner).2 = RepairableBackend.repair b.inner) :
    P (b.change op).1 ∧ (b.change op).2.repair = b.repair.discard p ∨
      (∃ reason, (b.change op).1 = .error (.unavailable reason)) ∧
        (b.change op).2.repair = b.repair := by
  rcases b.change_cases op with heq | heq
  · rw [heq]
    exact .inr ⟨⟨_, rfl⟩, rfl⟩
  · rw [heq]
    refine h.imp (And.imp_right fun h => ?_) (And.imp_right fun h => ?_)
    · simp only [repair, discard, h]
      rfl
    · simp only [repair, h]
      rfl

/-- A change takes effect while nothing fails. -/
theorem change_repair
    (h : P (op (RepairableBackend.repair b.inner)).1 ∧ (op (RepairableBackend.repair b.inner)).2 =
      RepairableBackend.discard (RepairableBackend.repair b.inner) p) :
    P (b.repair.change op).1 ∧ (b.repair.change op).2 = b.repair.discard p := by
  refine ⟨h.1, ?_⟩
  rw [discard]
  change { b.repair with inner := (op (RepairableBackend.repair b.inner)).2 } = _
  rw [h.2]
  rfl

end

variable {σ : Type} [Backend σ] [RepairableBackend σ]

instance : RepairableBackend (Flaky σ) where
  repair := repair
  discard := discard
  capabilities_repair b :=
    capabilities_eq (RepairableBackend.capabilities_repair b.inner) rfl
  capabilities_discard b p :=
    capabilities_eq (RepairableBackend.capabilities_discard b.inner p) rfl
  repair_discard b p := by
    simp only [repair, discard, RepairableBackend.repair_discard]
  discard_false b := by simp only [discard, RepairableBackend.discard_false]
  discard_discard b p q := by simp only [discard, RepairableBackend.discard_discard]
  unregister b r := repair_change (RepairableBackend.unregister b.inner r)
  unregister_repair b r := change_repair (RepairableBackend.unregister_repair b.inner r)
  unregisterNodes b nodes h :=
    repair_change (P := fun answer => ∃ l, answer = .ok l)
      (RepairableBackend.unregisterNodes b.inner nodes (Bool.and_eq_true_iff.1 h).1)
  unregisterNodes_repair b nodes h :=
    change_repair (P := fun answer => ∃ l, answer = .ok l)
      (RepairableBackend.unregisterNodes_repair b.inner nodes (Bool.and_eq_true_iff.1 h).1)

end Flaky

/-! ### One deletion after the other -/

namespace RepairableBackend

variable {σ : Type} [Backend σ] [RepairableBackend σ]

/-- What the holders of two lists of registrations may delete is what the holders of all of them
may delete. -/
theorem discard_releasedBy (s : σ) (l m : List Registration) :
    discard (discard s (releasedBy l)) (releasedBy m) = discard s (releasedBy (l ++ m)) := by
  rw [discard_discard, releasedBy_append]

/-- It does not matter which registrations are discarded first. -/
theorem discard_comm (s : σ) (p q : ActorId → Registration → Bool) :
    discard (discard s p) q = discard (discard s q) p := by
  simp only [discard_discard, Bool.or_comm]

/-- A deletion that was dealt with is not reported. -/
theorem failuresOf_of_dealtWith {answer : Except DirectoryError Unit} (h : DealtWith answer)
    (r : Registration) : failuresOf [r] [answer] = [] := by
  cases answer with
  | ok _ => rfl
  | error e =>
    obtain ⟨id, reason, rfl⟩ := h e rfl
    rfl

/-- While the backend is in reach, a batch is deleted without failures.

**Proof sketch.** Induction on the batch.  The first deletion is dealt with and discards what it
releases.  The backend is in reach then as before, so the induction hypothesis applies to what is
left, and the two sets of registrations are discarded at once (`discard_releasedBy`). -/
theorem unregisterEach_repair (s : σ) (l : List Registration) :
    failuresOf l (unregisterEach Backend.unregister (repair s) l).1 = [] ∧
      (unregisterEach Backend.unregister (repair s) l).2 = discard (repair s) (releasedBy l) := by
  induction l generalizing s with
  | nil => exact ⟨rfl, (discard_false (repair s)).symm⟩
  | cons r l ih =>
    obtain ⟨hdealt, hs⟩ := unregister_repair s r
    -- The backend stays in reach, so that the others are deleted as well.
    obtain ⟨hnone, hrest⟩ := ih (discard s (releasedBy [r]))
    rw [repair_discard, ← hs] at hnone hrest
    rw [unregisterEach, failuresOf_cons, failuresOf_of_dealtWith hdealt]
    refine ⟨hnone, ?_⟩
    dsimp only
    rw [hrest, hs, discard_releasedBy]
    rfl

/-- Once the reported failures of a batch have been made up for, it is as if none had failed.

**Proof sketch.** Induction on the batch, with the state left free.  What is discarded for the
failures of the others commutes with what is discarded for the first one, so the induction
hypothesis can be used behind it.  The first deletion either took effect and is not reported, or had
no effect and is; either way the same is gone in the end. -/
theorem discard_unregisterEach (s : σ) (l : List Registration) :
    discard (repair (unregisterEach Backend.unregister s l).2)
        (releasedBy
          ((failuresOf l (unregisterEach Backend.unregister s l).1).map Prod.fst)) =
      discard (repair s) (releasedBy l) := by
  induction l generalizing s with
  | nil => rfl
  | cons r l ih =>
    have hrest := ih (Backend.unregister s r).2
    rw [unregisterEach, failuresOf_cons]
    dsimp only
    rw [List.map_append, ← discard_releasedBy, discard_comm, hrest]
    change _ = discard (repair s) (releasedBy ([r] ++ l))
    rw [← discard_releasedBy]
    -- Either the deletion took effect, or it is reported and made up for.
    rcases unregister s r with ⟨hdealt, hs⟩ | ⟨⟨reason, hfailed⟩, hs⟩
    · rw [hs, failuresOf_of_dealtWith hdealt]
      exact discard_false _
    · rw [hs, hfailed, discard_comm]
      rfl

end RepairableBackend

/-! ### Directories -/

namespace Directory

open RepairableBackend (repair)

variable {σ : Type} [Backend σ]

/-- A deletion by nodes that cannot be done changes nothing. -/
theorem unregisterNodes_of_not_bulk {d : Directory σ} (h : d.capabilities.bulkRemoval = false)
    (nodes : List Node) : d.unregisterNodes nodes = (.ok .unsupported, d) := by
  rw [unregisterNodes, if_neg (by simp [h])]

variable [RepairableBackend σ]

/-- The directory once its backend is in reach. -/
def repaired (d : Directory σ) : Directory σ := d.withBackend (repair d.backend)

/-- The directory without the registrations that satisfy `p` for their actor. -/
def discard (d : Directory σ) (p : ActorId → Registration → Bool) : Directory σ :=
  d.withBackend (RepairableBackend.discard d.backend p)

variable (d : Directory σ)

/-- A directory can do the same once it is in reach. -/
@[simp] theorem capabilities_repaired : d.repaired.capabilities = d.capabilities :=
  RepairableBackend.capabilities_repair d.backend

/-- A directory can do the same without some of its registrations. -/
@[simp] theorem capabilities_discard (p : ActorId → Registration → Bool) :
    (d.discard p).capabilities = d.capabilities :=
  RepairableBackend.capabilities_discard d.backend p

/-- Discarding and coming back in reach commute. -/
theorem repaired_discard (p : ActorId → Registration → Bool) :
    (d.discard p).repaired = d.repaired.discard p :=
  congrArg d.withBackend (RepairableBackend.repair_discard d.backend p)

/-- Nothing happens if nothing is discarded. -/
@[simp] theorem discard_false : d.discard (fun _ _ => false) = d :=
  congrArg d.withBackend (RepairableBackend.discard_false d.backend)

/-- Discarding one set of registrations after another is discarding both at once. -/
theorem discard_discard (p q : ActorId → Registration → Bool) :
    (d.discard p).discard q = d.discard fun id r => p id r || q id r :=
  congrArg d.withBackend (RepairableBackend.discard_discard d.backend p q)

/-- Discarding the same registrations again changes nothing. -/
theorem discard_self (p : ActorId → Registration → Bool) :
    (d.discard p).discard p = d.discard p := by
  simp only [discard_discard, Bool.or_self]

/-- It does not matter which registrations a directory discards first. -/
theorem discard_comm (p q : ActorId → Registration → Bool) :
    (d.discard p).discard q = (d.discard q).discard p :=
  congrArg d.withBackend (RepairableBackend.discard_comm d.backend p q)

/-- What two lists release is discarded at once. -/
theorem discard_releasedBy (l m : List Registration) :
    (d.discard (releasedBy l)).discard (releasedBy m) = d.discard (releasedBy (l ++ m)) :=
  congrArg d.withBackend (RepairableBackend.discard_releasedBy d.backend l m)

/-- A deletion by nodes does not fail while the backend is in reach. -/
theorem unregisterNodes_repaired (h : d.capabilities.bulkRemoval = true) (nodes : List Node) :
    ∃ l, d.repaired.unregisterNodes nodes =
      (.ok (.removed l), d.repaired.discard fun _ r => r.node ∈ nodes) := by
  obtain ⟨⟨l, hanswer⟩, hs⟩ := RepairableBackend.unregisterNodes_repair d.backend nodes h
  have heq : Backend.unregisterNodes d.repaired.backend nodes = (.ok l, _) := Prod.ext hanswer hs
  refine ⟨l, ?_⟩
  rw [unregisterNodes, if_pos (by rwa [capabilities_repaired]), heq]
  rfl

/-- A deletion by nodes takes effect, or fails without effect. -/
theorem unregisterNodes_cases (h : d.capabilities.bulkRemoval = true) (nodes : List Node) :
    (∃ l d', d.unregisterNodes nodes = (.ok (.removed l), d') ∧
        d'.repaired = d.repaired.discard fun _ r => r.node ∈ nodes) ∨
      ∃ e d', d.unregisterNodes nodes = (.error e, d') ∧ d'.repaired = d.repaired := by
  have hcases := RepairableBackend.unregisterNodes d.backend nodes h
  rw [unregisterNodes, if_pos h]
  generalize Backend.unregisterNodes d.backend nodes = outcome at hcases ⊢
  obtain ⟨answer, s⟩ := outcome
  rcases hcases with ⟨⟨l, rfl⟩, hs⟩ | ⟨⟨reason, rfl⟩, hs⟩
  · exact .inl ⟨l, _, rfl, congrArg d.withBackend hs⟩
  · exact .inr ⟨_, _, rfl, congrArg d.withBackend hs⟩

variable [LawfulBackend σ]

/-- While the backend is in reach, all batches are deleted without failures.

**Proof sketch.** Induction on the batches.  A batch leaves a directory in reach without what the
batch releases (`RepairableBackend.unregisterEach_repair`), which is the form that the induction
hypothesis is about. -/
theorem unregisterBatches_repaired (bs : List (List Registration)) :
    d.repaired.unregisterBatches bs = ([], d.repaired.discard (releasedBy bs.flatten)) := by
  induction bs generalizing d with
  | nil => exact congrArg (Prod.mk []) d.repaired.discard_false.symm
  | cons b bs ih =>
    obtain ⟨hnone, hs⟩ := RepairableBackend.unregisterEach_repair d.backend b
    rw [← LawfulBackend.unregisterBatch_eq] at hnone hs
    have hnext : d.repaired.withBackend
        (Backend.unregisterBatch d.repaired.backend b).2 = (d.discard (releasedBy b)).repaired :=
      (congrArg d.withBackend hs).trans (d.repaired_discard _).symm
    have hfirst : failuresOf b (Backend.unregisterBatch d.repaired.backend b).1 = [] := hnone
    rw [unregisterBatches]
    dsimp only
    rw [hnext, ih, hfirst, repaired_discard, discard_releasedBy]
    rfl

/-- While the backend is in reach, many deletions leave nothing that they are meant to delete, and
none is reported. -/
theorem unregisterMany_repaired (l : List Registration) :
    d.repaired.unregisterMany l = (⟨l.length, []⟩, d.repaired.discard (releasedBy l)) := by
  rw [unregisterMany, unregisterBatches_repaired, flatten_batches d.repaired.maxBatch_pos]

/-- Once the failures of all batches have been made up for, it is as if none had failed.

**Proof sketch.** Induction on the batches, as for the deletions in one batch
(`RepairableBackend.discard_unregisterEach`): what is discarded for later failures commutes with
what is discarded for earlier ones. -/
theorem discard_unregisterBatches (bs : List (List Registration)) :
    (d.unregisterBatches bs).2.repaired.discard
        (releasedBy ((d.unregisterBatches bs).1.map Prod.fst)) =
      d.repaired.discard (releasedBy bs.flatten) := by
  induction bs generalizing d with
  | nil => rfl
  | cons b bs ih =>
    have hrest := ih (d.withBackend (Backend.unregisterBatch d.backend b).2)
    have hfirst := congrArg d.withBackend (RepairableBackend.discard_unregisterEach d.backend b)
    rw [← LawfulBackend.unregisterBatch_eq] at hfirst
    rw [unregisterBatches]
    dsimp only
    rw [List.map_append, ← discard_releasedBy, discard_comm, hrest, discard_comm,
      List.flatten_cons, ← discard_releasedBy]
    exact congrArg (discard · (releasedBy bs.flatten)) hfirst

/-- Once the failures among many deletions have been made up for, it is as if none had failed. -/
theorem discard_unregisterMany (l : List Registration) :
    (d.unregisterMany l).2.repaired.discard
        (releasedBy ((d.unregisterMany l).1.failures.map Prod.fst)) =
      d.repaired.discard (releasedBy l) := by
  have h := d.discard_unregisterBatches (batches d.maxBatch l)
  rwa [flatten_batches d.maxBatch_pos] at h

end Directory

end ActorLocation
