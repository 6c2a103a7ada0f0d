import ActorLocation.Proofs.Directory.Lawful
import Mathlib.Data.List.Forall2
/-!
# The backends are observationally equal

A directory in memory and one over a store in memory give the same answers to the same calls,
tokens included, and keep the same records under the same keys.  The version of a value and the
token of a registration are counted alike.

## Main definitions

* `ActorLocation.Request`, `ActorLocation.Response`, `Backend.respond` — the calls that every
  backend answers, and their answers.
* `ActorLocation.trace` — what can be seen of a run: each answer, and the records kept then.
* `ActorLocation.Mirrors` — a store keeps what a directory in memory holds.

## Main results

* `Mirrors.respond` — a step from mirrored states has one answer and leads to mirrored states.
* `ActorLocation.trace_inMemory_eq_overStore` — from the start, the traces are equal.
-/

namespace ActorLocation

/-- A call that every backend answers. -/
inductive Request where
  /-- Asks for the registration of an actor. -/
  | lookup (id : ActorId)
  /-- Stores a registration. -/
  | register (r : Registration)
  /-- Deletes a registration. -/
  | unregister (r : Registration)
  /-- Deletes a batch of registrations. -/
  | unregisterBatch (l : List Registration)

/-- The answer to a call. -/
inductive Response where
  /-- The registration of an actor, if there is one. -/
  | found (answer : Except DirectoryError (Option Registration))
  /-- The registration that is stored. -/
  | registered (answer : Except DirectoryError Registration)
  /-- Whether the deletion failed. -/
  | unregistered (answer : Except DirectoryError Unit)
  /-- Which deletions failed. -/
  | unregisteredBatch (answers : List (Except DirectoryError Unit))

/-- Answers a call. -/
def Backend.respond {σ : Type} [Backend σ] (s : σ) : Request → Response × σ
  | .lookup actor => (Backend.lookup s actor).map .found id
  | .register r => (Backend.register s r).map .registered id
  | .unregister r => (Backend.unregister s r).map .unregistered id
  | .unregisterBatch l => (Backend.unregisterBatch s l).map .unregisteredBatch id

/-- The records that are kept, under their keys; `none` stands for a value that is no
registration. -/
abbrev Records := List (String × Option Registration)

/-- The records of a directory in memory, under the keys that a store would use. -/
def InMemory.records (d : InMemory) : Records :=
  d.entries.entries.map fun e => (OverStore.storageKey e.1, some e.2)

/-- The records of a store, with the versions for tokens. -/
def OverStore.records (d : OverStore MemoryStore) : Records :=
  d.store.entries.entries.map fun e =>
    (e.1, (Registration.ofStored? e.2.value).map fun r => r.withEtag ⟨e.2.version⟩)

/-- What can be seen of a run: the answer to each call, and the records kept after it. -/
def trace {σ : Type} [Backend σ] (records : σ → Records) (s : σ) :
    List Request → List (Response × Records)
  | [] => []
  | q :: qs =>
    ((Backend.respond s q).1, records (Backend.respond s q).2) ::
      trace records (Backend.respond s q).2 qs

/-! ### Mirrored entries -/

/-- Says that a value under a key is what a store keeps for an entry of a directory in memory. -/
def MirrorsEntry (e : ActorId × Registration) (f : String × Versioned) : Prop :=
  f.1 = OverStore.storageKey e.1 ∧ OverStore.decode e.1 f.2 = .ok e.2

/-- The record of a mirrored entry is its registration. -/
theorem MirrorsEntry.record_eq {e : ActorId × Registration} {f : String × Versioned}
    (h : MirrorsEntry e f) :
    (f.1, (Registration.ofStored? f.2.value).map fun r => r.withEtag ⟨f.2.version⟩) =
      (OverStore.storageKey e.1, some e.2) := by
  obtain ⟨hkey, hdecode⟩ := h
  rw [OverStore.decode] at hdecode
  split at hdecode
  · contradiction
  · next r hr =>
    split at hdecode
    · rw [hkey, hr, ← Except.ok.inj hdecode]
      rfl
    · contradiction

/-- A mirrored entry is under the key of an actor exactly if it is that actor's, since keys of
different actors differ. -/
theorem MirrorsEntry.key_eq_iff {e : ActorId × Registration} {f : String × Versioned}
    (h : MirrorsEntry e f) (id : ActorId) : f.1 = OverStore.storageKey id ↔ e.1 = id := by
  rw [h.1]
  exact ⟨OverStore.storageKey_injective, fun h => h ▸ rfl⟩

/-- Says that a store keeps what a directory in memory holds, that it can be reached, and that its
next version is the next token. -/
structure Mirrors (d : InMemory) (s : MemoryStore) : Prop where
  /-- The entries mirror each other, in order. -/
  entries : List.Forall₂ MirrorsEntry d.entries.entries s.entries.entries
  /-- The next token is the next version. -/
  nextEtag : d.nextEtag = s.lastVersion + 1
  /-- The store can be reached. -/
  available : s.available = true

/-- A new key is put behind the others. -/
theorem Table.entries_insert {κ ν : Type} [DecidableEq κ] {t : Table κ ν} {k : κ}
    (h : t.find? k = none) (v : ν) : (t.insert k v).entries = t.entries ++ [(k, v)] := by
  rw [insert]
  exact if_neg (find?_eq_none_iff.1 h)

/-- Nothing is erased unless the value of the key satisfies the condition. -/
theorem Table.eraseIf_eq_self {κ ν : Type} [DecidableEq κ] {t : Table κ ν} {k : κ} {p : ν → Bool}
    (h : ∀ v ∈ t.find? k, p v = false) : t.eraseIf k p = t := by
  obtain ⟨l, hl⟩ := t
  simp only [eraseIf, filter, mk.injEq, List.filter_eq_self]
  intro e he
  by_cases hk : e.1 = k
  · have hfind := mem_entries_iff.1 (hk ▸ he : (k, e.2) ∈ (mk l hl).entries)
    simp [h e.2 hfind]
  · simp [hk]

/-- The key is erased if its value satisfies the condition.

**Proof sketch.** Both are filters, and they agree on every entry: away from the key they keep it,
and at the key there is one value, which satisfies the condition. -/
theorem Table.eraseIf_eq_erase {κ ν : Type} [DecidableEq κ] {t : Table κ ν} {k : κ} {v : ν}
    {p : ν → Bool} (hv : t.find? k = some v) (h : p v = true) : t.eraseIf k p = t.erase k := by
  obtain ⟨l, hl⟩ := t
  simp only [eraseIf, erase, filter, mk.injEq]
  refine List.filter_congr ?_
  intro e he
  by_cases hk : e.1 = k
  · have hfind := mem_entries_iff.1 (hk ▸ he : (k, e.2) ∈ (mk l hl).entries)
    rw [hv] at hfind
    simp [hk, ← Option.some.inj hfind, h]
  · simp [hk]

namespace Mirrors

variable {d : InMemory} {s : MemoryStore}

/-- The records of mirrored states are equal. -/
theorem records_eq (h : Mirrors d s) : d.records = OverStore.records ⟨s⟩ := by
  obtain ⟨hentries, -, -⟩ := h
  rw [InMemory.records, OverStore.records]
  generalize d.entries.entries = es at hentries ⊢
  generalize s.entries.entries = fs at hentries ⊢
  induction hentries with
  | nil => rfl
  | cons he _ ih => rw [List.map_cons, List.map_cons, he.record_eq, ih]

/-- Look-ups in mirrored states find nothing, or a registration and a value that means it.

**Proof sketch.** Induction along the two lists of entries.  The first entries are at the actor and
at its key, or at neither (`MirrorsEntry.key_eq_iff`); in the first case they mean the same, in the
second look-up goes on in both. -/
theorem find? (h : Mirrors d s) (id : ActorId) :
    (d.entries.find? id = none ∧ s.entries.find? (OverStore.storageKey id) = none) ∨
      ∃ r v, d.entries.find? id = some r ∧
        s.entries.find? (OverStore.storageKey id) = some v ∧ OverStore.decode id v = .ok r := by
  obtain ⟨hentries, -, -⟩ := h
  rw [Table.find?, Table.find?]
  generalize d.entries.entries = es at hentries ⊢
  generalize s.entries.entries = fs at hentries ⊢
  induction hentries with
  | nil => exact .inl ⟨rfl, rfl⟩
  | @cons e f es fs he _ ih =>
    by_cases hid : e.1 = id
    · have hkey := (he.key_eq_iff id).2 hid
      refine .inr ⟨e.2, f.2, ?_, ?_, hid ▸ he.2⟩
      · rw [List.find?_cons_of_pos (by simpa using hid)]
        rfl
      · rw [List.find?_cons_of_pos (by simpa using hkey)]
        rfl
    · have hkey := fun hkey => hid ((he.key_eq_iff id).1 hkey)
      rw [List.find?_cons_of_neg (by simpa using hid), List.find?_cons_of_neg (by simpa using hkey)]
      exact ih

/-- Look-ups have one answer. -/
theorem lookup (h : Mirrors d s) (id : ActorId) :
    OverStore.lookup ⟨s⟩ id = (.ok (d.entries.find? id), ⟨s⟩) := by
  simp only [OverStore.lookup, VersionedStore.get, MemoryStore.whenAvailable, h.available, if_true]
  rcases h.find? id with ⟨hd, hs⟩ | ⟨r, v, hd, hs, hv⟩
  · rw [hd, hs]
  · rw [hd, hs]
    dsimp only
    rw [hv]
    rfl

/-- Registrations have one answer and lead to mirrored states.

**Proof sketch.** If nothing is found, both append an entry.  The token that is given is the version
that the store counts up to, so the new entries mirror each other.  If something is found, both
return it unchanged. -/
theorem register (h : Mirrors d s) (r : Registration) :
    ∃ s', OverStore.register ⟨s⟩ r = (.ok (d.register r).1, ⟨s'⟩) ∧
      Mirrors (d.register r).2 s' := by
  simp only [OverStore.register, OverStore.maxAttempts, OverStore.registerWithin,
    VersionedStore.putIfAbsent, MemoryStore.whenAvailable, h.available, if_true,
    MemoryStore.putIfAbsent, InMemory.register]
  rcases h.find? r.actor with ⟨hd, hs⟩ | ⟨stored, v, hd, hs, hv⟩
  · -- Both directories append the registration.
    refine ⟨(s.write (OverStore.storageKey r.actor) r.toStored).2, ?_, ?_⟩
    · rw [hd, hs, h.nextEtag]
      rfl
    · rw [hd]
      refine ⟨?_, ?_, h.available⟩
      · have hentry : MirrorsEntry (r.actor, r.withEtag ⟨d.nextEtag⟩)
            (OverStore.storageKey r.actor, ⟨r.toStored, s.lastVersion + 1⟩) :=
          ⟨rfl, h.nextEtag ▸ OverStore.decode_toStored r _⟩
        simp only [MemoryStore.write, Table.entries_insert hd, Table.entries_insert hs]
        exact List.rel_append h.entries (.cons hentry .nil)
      · simp only [MemoryStore.write, h.nextEtag]
  · -- Both directories return what they have.
    refine ⟨s, ?_, ?_⟩
    · rw [hd, hs]
      dsimp only
      rw [hv]
    · rw [hd]
      exact h

/-- Erasing an actor and its key leads to mirrored states. -/
theorem erase (h : Mirrors d s) (id : ActorId) :
    Mirrors { d with entries := d.entries.erase id }
      { s with entries := s.entries.erase (OverStore.storageKey id) } := by
  refine ⟨List.rel_filter ?_ h.entries, h.nextEtag, h.available⟩
  intro e f hef
  simp only [decide_eq_true_eq, ne_eq, hef.key_eq_iff id]

/-- Deletions have one answer and lead to mirrored states.

**Proof sketch.** If the registration that is found is released, both directories erase it, the one
over the store because the version is still the one that was read.  Else both stay as they are. -/
theorem unregister (h : Mirrors d s) (r : Registration) :
    ∃ s', OverStore.unregister ⟨s⟩ r = (.ok (), ⟨s'⟩) ∧ Mirrors (d.unregister r) s' := by
  simp only [OverStore.unregister, VersionedStore.get, MemoryStore.whenAvailable, h.available,
    if_true, InMemory.unregister, VersionedStore.compareAndDelete]
  rcases h.find? r.actor with ⟨hd, hs⟩ | ⟨stored, v, hd, hs, hv⟩
  · refine ⟨s, by rw [hs], ?_⟩
    rw [Table.eraseIf_eq_self (by simp [hd])]
    exact h
  · rw [hs]
    dsimp only
    rw [hv]
    dsimp only
    by_cases hr : r.Releases stored
    · -- Nothing has come in between, so the version is the one that was read.
      have hversion : s.HasVersion (OverStore.storageKey r.actor) v.version := by
        simp [MemoryStore.HasVersion, hs]
      refine ⟨{ s with entries := s.entries.erase (OverStore.storageKey r.actor) }, ?_, ?_⟩
      · rw [if_pos hr, MemoryStore.compareAndDelete, if_pos hversion, if_pos h.available]
      · rw [Table.eraseIf_eq_erase hd (by simpa using hr)]
        exact h.erase r.actor
    · refine ⟨s, by rw [if_neg hr], ?_⟩
      rw [Table.eraseIf_eq_self (by simp [hd, hr])]
      exact h

/-- Deletions one after the other have the same answers and lead to mirrored states.

**Proof sketch.** Induction on the batch; the step is `unregister`. -/
theorem unregisterEach (h : Mirrors d s) (l : List Registration) :
    ∃ s', unregisterEach Backend.unregister (OverStore.mk s) l =
        ((unregisterEach Backend.unregister d l).1, ⟨s'⟩) ∧
      Mirrors (unregisterEach Backend.unregister d l).2 s' := by
  induction l generalizing d s with
  | nil => exact ⟨s, rfl, h⟩
  | cons r l ih =>
    obtain ⟨s₁, heq, h₁⟩ := h.unregister r
    obtain ⟨s₂, heqs, h₂⟩ := ih h₁
    refine ⟨s₂, ?_, h₂⟩
    change (let (answer, t) := OverStore.unregister ⟨s⟩ r
      let (answers, t) := ActorLocation.unregisterEach Backend.unregister t l
      (answer :: answers, t)) = _
    rw [heq]
    dsimp only
    rw [heqs]
    rfl

/-- A step from mirrored states has one answer and leads to mirrored states.

**Proof sketch.** One case for each call, from `lookup`, `register`, `unregister` and
`unregisterEach`. -/
theorem respond (h : Mirrors d s) (q : Request) :
    ∃ s', Backend.respond (OverStore.mk s) q = ((Backend.respond d q).1, ⟨s'⟩) ∧
      Mirrors (Backend.respond d q).2 s' := by
  cases q with
  | lookup id =>
    exact ⟨s, congrArg (Prod.map Response.found _) (h.lookup id), h⟩
  | register r =>
    obtain ⟨s', heq, h'⟩ := h.register r
    exact ⟨s', congrArg (Prod.map Response.registered id) heq, h'⟩
  | unregister r =>
    obtain ⟨s', heq, h'⟩ := h.unregister r
    exact ⟨s', congrArg (Prod.map Response.unregistered id) heq, h'⟩
  | unregisterBatch l =>
    obtain ⟨s', heq, h'⟩ := h.unregisterEach l
    exact ⟨s', congrArg (Prod.map Response.unregisteredBatch id) heq, h'⟩

/-- The traces from mirrored states are equal.

**Proof sketch.** Induction on the calls.  The step is `respond`, and the records after it are equal
by `records_eq`. -/
theorem trace_eq (h : Mirrors d s) (requests : List Request) :
    trace InMemory.records d requests = trace OverStore.records ⟨s⟩ requests := by
  induction requests generalizing d s with
  | nil => rfl
  | cons q qs ih =>
    obtain ⟨s', heq, h'⟩ := h.respond q
    rw [trace, trace, heq, h'.records_eq, ih h']

end Mirrors

/-- A new directory in memory and one over a new store in memory answer every sequence of calls
alike, and keep the same records after each of them.

**Proof sketch.** The empty states mirror each other, since the first token is one more than the
version of an empty store. -/
theorem trace_inMemory_eq_overStore (requests : List Request) :
    trace InMemory.records {} requests =
      trace OverStore.records (OverStore.mk {}) requests :=
  Mirrors.trace_eq ⟨.nil, rfl, rfl⟩ requests

end ActorLocation
