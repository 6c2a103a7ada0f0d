import ActorLocation.Ip.Parser
import ActorLocation.Proofs.Digits
/-!
# The grammar of IP addresses

Which texts spell which addresses, without a reader: four octets with dots between them for version
4; for version 6 eight groups with colons between them, or fewer on the two sides of a gap, where a
dotted decimal may take the place of the last two.  The readers accept exactly these texts.

## Main definitions

* `ActorLocation.Ipv4.Spells`, `ActorLocation.Ipv6.Spells` — a text spells an address.
* `Ipv6.SpellsGroups` — a text spells groups, with colons between them.

## Main results

* `Ipv4.read?_eq_some_iff` — an address of version 4 is read from the front of a text exactly if a
  spelling of it stands there and no digit follows.
* `Ipv6.exists_of_readGroups`, `Ipv6.SpellsGroups.readGroups` — what is read as groups spells them,
  and what spells them is read.
* `Ipv6.read?_eq_some_nil_iff`, `IpAddress.ofText?_eq_some_iff` — the whole texts that are read.
-/

namespace ActorLocation

open Digits

/-! ### Version 4 -/

namespace Ipv4

/-- Says that a text spells an octet: in one to three digits, without a leading zero unless it is
the only digit. -/
def SpellsOctet (t : List Char) (b : UInt8) : Prop :=
  ∃ ds, Reads 10 t ds ∧ ds ≠ [] ∧ ds.length ≤ 3 ∧ (ds.head? = some 0 → ds = [0]) ∧
    value 10 ds = b.toNat

/-- Says that a text spells an address in dotted decimal. -/
def Spells (t : List Char) (a : Ipv4) : Prop :=
  ∃ t₁ t₂ t₃ t₄, t = t₁ ++ '.' :: t₂ ++ '.' :: t₃ ++ '.' :: t₄ ∧ SpellsOctet t₁ a.a ∧
    SpellsOctet t₂ a.b ∧ SpellsOctet t₃ a.c ∧ SpellsOctet t₄ a.d

/-- A dot ends the digits of an octet. -/
theorem noDigit_dot (s : List Char) : NoDigit 10 ('.' :: s) := by
  rintro c ⟨⟩
  decide

/-- An octet is read from the front of a text exactly if a spelling of it stands there and no digit
follows.

**Proof sketch.** The digits in front are taken (`exists_reads_span`, `Reads.span`), and the
conditions of the reader are those of the grammar: at most three digits, no leading zero, a value
below 256. -/
theorem readOctet?_eq_some_iff {s rest : List Char} {b : UInt8} :
    readOctet? s = some (b, rest) ↔ ∃ t, s = t ++ rest ∧ SpellsOctet t b ∧ NoDigit 10 rest := by
  constructor
  · intro h
    obtain ⟨t, hs, ht, hr⟩ := exists_reads_span 10 s
    rw [readOctet?] at h
    split at h
    · contradiction
    · next d ds rest' heq =>
      rw [heq] at hs ht hr
      split at h
      · contradiction
      · -- The reader's conditions are read off its own test.
        next hfit =>
        simp only [not_or, not_and, not_lt, not_le, Classical.not_not] at hfit
        obtain ⟨hlen, hzero, hlt⟩ := hfit
        obtain ⟨hb, rfl⟩ := Prod.mk.inj (Option.some.inj h)
        refine ⟨t, hs, ⟨d :: ds, ht, by simp, Nat.succ_le_succ hlen, ?_, ?_⟩, hr⟩
        · intro h0
          obtain rfl : d = 0 := Option.some.inj h0
          rw [hzero rfl]
        · rw [← hb, UInt8.toNat_ofNat_of_lt' hlt]
  · rintro ⟨t, rfl, ⟨ds, hds, hne, hlen, hzero, hvalue⟩, hr⟩
    have hlt := b.toNat_lt
    obtain ⟨d, ds, rfl⟩ := List.exists_cons_of_ne_nil hne
    have hfit : ¬ (2 < ds.length ∨ (d = 0 ∧ ds ≠ []) ∨ 256 ≤ value 10 (d :: ds)) := by
      rintro (h | ⟨rfl, h⟩ | h)
      · rw [List.length_cons] at hlen
        omega
      · exact h (List.cons.inj (hzero rfl)).2
      · omega
    rw [readOctet?, hds.span hr]
    dsimp only
    rw [if_neg hfit, hvalue, UInt8.ofNat_toNat]

/-- An octet behind a dot is read exactly if a dot and a spelling of it stand there and no digit
follows. -/
theorem readDotOctet?_eq_some_iff {s rest : List Char} {b : UInt8} :
    readDotOctet? s = some (b, rest) ↔
      ∃ t, s = '.' :: t ++ rest ∧ SpellsOctet t b ∧ NoDigit 10 rest := by
  unfold readDotOctet?
  split
  · next s =>
    rw [readOctet?_eq_some_iff]
    simp
  · next hs =>
    simp only [reduceCtorEq, false_iff]
    rintro ⟨t, rfl, -⟩
    exact hs _ rfl

/-- An address is read from the front of a text exactly if a spelling of it stands there and no
digit follows.

**Proof sketch.** Octet after octet, from `readOctet?_eq_some_iff` and `readDotOctet?_eq_some_iff`.
That no digit follows one of the first three octets is no condition, because a dot follows. -/
theorem read?_eq_some_iff {s rest : List Char} {a : Ipv4} :
    read? s = some (a, rest) ↔ ∃ t, s = t ++ rest ∧ Spells t a ∧ NoDigit 10 rest := by
  simp only [read?, Option.bind_eq_bind, Option.bind_eq_some_iff, Prod.exists]
  constructor
  · rintro ⟨b₁, s₁, h₁, b₂, s₂, h₂, b₃, s₃, h₃, b₄, s₄, h₄, h⟩
    obtain ⟨t₁, rfl, ht₁, -⟩ := readOctet?_eq_some_iff.1 h₁
    obtain ⟨t₂, rfl, ht₂, -⟩ := readDotOctet?_eq_some_iff.1 h₂
    obtain ⟨t₃, rfl, ht₃, -⟩ := readDotOctet?_eq_some_iff.1 h₃
    obtain ⟨t₄, rfl, ht₄, hr⟩ := readDotOctet?_eq_some_iff.1 h₄
    obtain ⟨rfl, rfl⟩ := Prod.mk.inj (Option.some.inj h)
    exact ⟨_, by simp, ⟨t₁, t₂, t₃, t₄, rfl, ht₁, ht₂, ht₃, ht₄⟩, hr⟩
  · rintro ⟨t, rfl, ⟨t₁, t₂, t₃, t₄, rfl, ht₁, ht₂, ht₃, ht₄⟩, hr⟩
    exact ⟨a.a, _, readOctet?_eq_some_iff.2 ⟨t₁, by simp, ht₁, noDigit_dot _⟩,
      a.b, _, readDotOctet?_eq_some_iff.2 ⟨t₂, rfl, ht₂, noDigit_dot _⟩,
      a.c, _, readDotOctet?_eq_some_iff.2 ⟨t₃, rfl, ht₃, noDigit_dot _⟩,
      a.d, _, readDotOctet?_eq_some_iff.2 ⟨t₄, rfl, ht₄, hr⟩, rfl⟩

/-- The characters of a spelling are decimal digits and dots, and there is a dot. -/
theorem Spells.chars {t : List Char} {a : Ipv4} (h : Spells t a) :
    (∀ c ∈ t, (digit? 10 c).isSome ∨ c = '.') ∧ '.' ∈ t := by
  obtain ⟨t₁, t₂, t₃, t₄, rfl, ⟨_, h₁, -⟩, ⟨_, h₂, -⟩, ⟨_, h₃, -⟩, ⟨_, h₄, -⟩⟩ := h
  refine ⟨fun c hc => ?_, by simp⟩
  simp only [List.mem_append, List.mem_cons] at hc
  rcases hc with ((hc | hc | hc) | hc | hc) | hc | hc
  · exact .inl (h₁.isSome hc)
  · exact .inr hc
  · exact .inl (h₂.isSome hc)
  · exact .inr hc
  · exact .inl (h₃.isSome hc)
  · exact .inr hc
  · exact .inl (h₄.isSome hc)

/-- No address is spelled by nothing. -/
theorem Spells.ne_nil {t : List Char} {a : Ipv4} (h : Spells t a) : t ≠ [] :=
  List.ne_nil_of_mem h.chars.2

/-- A dotted decimal has no colon. -/
theorem Spells.colon_not_mem {t : List Char} {a : Ipv4} (h : Spells t a) : ':' ∉ t := by
  intro hmem
  rcases h.chars.1 _ hmem with hc | hc <;> contradiction

/-- The decimal digits of a spelling are hexadecimal digits too. -/
theorem Spells.isSome_hex {t : List Char} {a : Ipv4} (h : Spells t a) {c : Char} (hc : c ∈ t) :
    (digit? 16 c).isSome ∨ c = '.' := by
  refine (h.chars.1 c hc).imp (fun hdigit => ?_) id
  obtain ⟨d, hd⟩ := Option.isSome_iff_exists.1 hdigit
  rw [digit?_of_le (by decide) hd]
  rfl

/-- No dotted decimal stands where the digits in front, in whatever base, are not followed by a dot.

**Proof sketch.** A dotted decimal begins with decimal digits and a dot.  They are all the digits
that stand in front, in the greater base as well, so the dot would be what follows the digits. -/
theorem read?_eq_none_of_reads {base : Nat} (hbase : 10 ≤ base) (hdot : digit? base '.' = none)
    {t rest : List Char} {ds : List Nat} (ht : Reads base t ds) (hr : NoDigit base rest)
    (hrest : rest.head? ≠ some '.') : read? (t ++ rest) = none := by
  rw [Option.eq_none_iff_forall_ne_some]
  rintro ⟨a, rest'⟩ h
  obtain ⟨_, heq, ⟨t₁, t₂, t₃, t₄, rfl, ⟨ds₁, h₁, -⟩, -⟩, -⟩ := read?_eq_some_iff.1 h
  have hnodigit : NoDigit base ('.' :: t₂ ++ '.' :: t₃ ++ '.' :: t₄ ++ rest') := by
    rintro c ⟨⟩
    exact hdot
  have hspan := (h₁.of_le hbase).span hnodigit
  have heq' : t ++ rest = t₁ ++ ('.' :: t₂ ++ '.' :: t₃ ++ '.' :: t₄ ++ rest') := by
    rw [heq]
    simp
  rw [← heq', ht.span hr] at hspan
  refine hrest ?_
  rw [(Prod.mk.inj hspan).2]
  rfl

end Ipv4

/-! ### Version 6 -/

namespace Ipv6

/-- Says that a text spells a group: in one to four hexadecimal digits. -/
def SpellsGroup (t : List Char) (g : UInt16) : Prop :=
  ∃ ds, Reads 16 t ds ∧ ds ≠ [] ∧ ds.length ≤ 4 ∧ UInt16.ofNat (value 16 ds) = g

/-- No group is spelled by nothing. -/
theorem SpellsGroup.ne_nil {t : List Char} {g : UInt16} (h : SpellsGroup t g) : t ≠ [] := by
  obtain ⟨ds, hds, hne, -⟩ := h
  rintro rfl
  exact hne (List.map_eq_nil_iff.1 hds.symm)

/-- A group has no colon. -/
theorem SpellsGroup.colon_not_mem {t : List Char} {g : UInt16} (h : SpellsGroup t g) :
    ':' ∉ t := by
  obtain ⟨ds, hds, -⟩ := h
  intro hmem
  have := hds.isSome hmem
  contradiction

/-- The colon between two groups; there is none before the first. -/
def separator (first : Bool) : List Char := if first then [] else [':']

/-- Says that a text spells groups, with colons between them, and in front of them unless they are
the first ones.  A dotted decimal may end the text. -/
inductive SpellsGroups : (first : Bool) → List Char → List UInt16 → (dotted : Bool) → Prop where
  /-- There are no groups. -/
  | nil (first : Bool) : SpellsGroups first [] [] false
  /-- A dotted decimal ends the text. -/
  | dotted (first : Bool) {t : List Char} {a : Ipv4} (ht : Ipv4.Spells t a) :
    SpellsGroups first (separator first ++ t) a.toGroups true
  /-- A group is followed by further groups. -/
  | group (first : Bool) {t s : List Char} {g : UInt16} {gs : List UInt16} {dotted : Bool}
    (ht : SpellsGroup t g) (hs : SpellsGroups false s gs dotted) :
    SpellsGroups first (separator first ++ t ++ s) (g :: gs) dotted

/-- Says that a text spells an address: eight groups, or two lists of groups with a gap between them
that stands for at least one group. -/
inductive Spells : List Char → Ipv6 → Prop where
  /-- There are eight groups. -/
  | full {t : List Char} {a : Ipv6} {dotted : Bool} (h : SpellsGroups true t a.groups dotted) :
    Spells t a
  /-- There is a gap, and what stands before it does not end in a dotted decimal. -/
  | gap {head tail : List Char} {hs ts : List UInt16} {a : Ipv6} {dotted : Bool}
    (hhead : SpellsGroups true head hs false) (htail : SpellsGroups true tail ts dotted)
    (hlen : hs.length + ts.length ≤ 7)
    (ha : a.groups = hs ++ List.replicate (8 - hs.length - ts.length) 0 ++ ts) :
    Spells (head ++ ':' :: ':' :: tail) a

/-- The characters of a spelling of groups are hexadecimal digits, colons and dots.

**Proof sketch.** Induction on the groups: each piece is a colon and hexadecimal digits, or a colon
and a dotted decimal. -/
theorem SpellsGroups.chars {first dotted : Bool} {t : List Char} {gs : List UInt16}
    (h : SpellsGroups first t gs dotted) {c : Char} (hc : c ∈ t) :
    (digit? 16 c).isSome ∨ c = ':' ∨ c = '.' := by
  have hseparator {first : Bool} (hc : c ∈ separator first) : c = ':' := by
    cases first with
    | true => contradiction
    | false => exact List.mem_singleton.1 hc
  induction h with
  | nil => contradiction
  | dotted first ht =>
    rcases List.mem_append.1 hc with hc | hc
    · exact .inr (.inl (hseparator hc))
    · exact (ht.isSome_hex hc).imp id .inr
  | group first ht hs ih =>
    obtain ⟨ds, hds, -⟩ := ht
    rcases List.mem_append.1 hc with hc | hc
    · rcases List.mem_append.1 hc with hc | hc
      · exact .inr (.inl (hseparator hc))
      · exact .inl (hds.isSome hc)
    · exact ih hc

/-- Says that no group can be read behind the groups in front of the text: it ends, or a gap
begins. -/
def Stops (s : List Char) : Prop := s = [] ∨ ∃ t, s = ':' :: ':' :: t

/-- Where groups stop, no digit follows. -/
theorem Stops.noDigit {s : List Char} (hs : Stops s) : NoDigit 16 s := by
  rcases hs with rfl | ⟨t, rfl⟩
  · exact noDigit_nil 16
  · rintro c ⟨⟩
    decide

/-- The colon between two groups is taken, and in front of the first group none is. -/
theorem readColon?_eq_some_iff {first : Bool} {s t : List Char} :
    readColon? first s = some t ↔ s = separator first ++ t := by
  unfold readColon? separator
  cases first with
  | true => simp
  | false =>
    simp only [Bool.false_eq_true, if_false]
    split
    · simp
    · next hs =>
      simp only [reduceCtorEq, false_iff]
      rintro rfl
      exact hs _ rfl

/-- A group is read from the front of a text exactly if a spelling of it stands there and no digit
follows.

**Proof sketch.** The digits in front are taken (`exists_reads_span`, `Reads.span`), and the reader
demands that there is one and that there are at most four. -/
theorem readGroup?_eq_some_iff {s rest : List Char} {g : UInt16} :
    readGroup? s = some (g, rest) ↔ ∃ t, s = t ++ rest ∧ SpellsGroup t g ∧ NoDigit 16 rest := by
  constructor
  · intro h
    obtain ⟨t, hs, ht, hr⟩ := exists_reads_span 16 s
    rw [readGroup?] at h
    split at h
    · contradiction
    · next ds rest' hne heq =>
      rw [heq] at hs ht hr
      split at h
      · contradiction
      · next hlen =>
        obtain ⟨hg, rfl⟩ := Prod.mk.inj (Option.some.inj h)
        exact ⟨t, hs, ⟨ds, ht, hne, Nat.le_of_not_lt hlen, hg⟩, hr⟩
  · rintro ⟨t, rfl, ⟨ds, hds, hne, hlen, hg⟩, hr⟩
    obtain ⟨d, ds, rfl⟩ := List.exists_cons_of_ne_nil hne
    rw [readGroup?, hds.span hr]
    dsimp only
    rw [if_neg (Nat.not_lt.2 hlen), hg]

/-- What is read as groups spells them.

**Proof sketch.** Induction on the room.  A reader that stops has read nothing.  A dotted decimal
ends the groups, and there was room for its two.  A group is followed by what the induction
hypothesis reads in the smaller room. -/
theorem exists_of_readGroups {room : Nat} {first dotted : Bool} {s rest : List Char}
    {gs : List UInt16} (h : readGroups room first s = (gs, dotted, rest)) :
    ∃ t, s = t ++ rest ∧ SpellsGroups first t gs dotted ∧ gs.length ≤ room := by
  induction room generalizing first s gs dotted with
  | zero =>
    obtain ⟨rfl, rfl, rfl⟩ : [] = gs ∧ false = dotted ∧ s = rest := by simpa [readGroups] using h
    exact ⟨[], rfl, .nil first, Nat.le_refl _⟩
  | succ room ih =>
    have hnone : ([], false, s) = (gs, dotted, rest) →
        ∃ t, s = t ++ rest ∧ SpellsGroups first t gs dotted ∧ gs.length ≤ room + 1 := by
      rintro ⟨⟩
      exact ⟨[], rfl, .nil first, Nat.zero_le _⟩
    rw [readGroups] at h
    split at h
    · exact hnone h
    · next u hu =>
      obtain rfl := readColon?_eq_some_iff.1 hu
      split at h
      · next a rest' ha =>
        obtain ⟨rfl, rfl, rfl⟩ : a.toGroups = gs ∧ true = dotted ∧ rest' = rest := by simpa using h
        split at ha
        · contradiction
        · next hroom =>
          obtain ⟨t, rfl, ht, -⟩ := Ipv4.read?_eq_some_iff.1 ha
          refine ⟨_, (List.append_assoc ..).symm, .dotted first ht, ?_⟩
          exact Nat.succ_le_succ (Nat.pos_of_ne_zero hroom)
      · split at h
        · exact hnone h
        · -- A group has been read, and the reader goes on behind it.
          next g rest' hg =>
          obtain ⟨t, rfl, ht, -⟩ := readGroup?_eq_some_iff.1 hg
          obtain ⟨gs', dotted', rest'', heq⟩ :
              ∃ gs' dotted' rest'', readGroups room false rest' = (gs', dotted', rest'') :=
            ⟨_, _, _, rfl⟩
          rw [heq] at h
          obtain ⟨rfl, rfl, rfl⟩ : g :: gs' = gs ∧ dotted' = dotted ∧ rest'' = rest := by
            simpa using h
          obtain ⟨t', rfl, ht', hlen⟩ := ih heq
          exact ⟨separator first ++ t ++ t', by simp, .group first ht ht', Nat.succ_le_succ hlen⟩

/-- Behind a group nothing stands, or a colon. -/
theorem SpellsGroups.eq_nil_or_colon {s rest : List Char} {gs : List UInt16} {dotted : Bool}
    (h : SpellsGroups false s gs dotted) (hr : Stops rest) :
    s ++ rest = [] ∨ ∃ u, s ++ rest = ':' :: u := by
  cases h with
  | nil => exact hr.imp id fun ⟨t, ht⟩ => ⟨_, ht⟩
  | dotted _ _ => exact .inr ⟨_, rfl⟩
  | group _ _ _ => exact .inr ⟨_, rfl⟩

/-- At the end and at a colon no digit follows. -/
theorem noDigit_of_eq_nil_or_colon {rest : List Char} (hr : rest = [] ∨ ∃ u, rest = ':' :: u) :
    NoDigit 16 rest := by
  rcases hr with rfl | ⟨u, rfl⟩
  · exact noDigit_nil 16
  · rintro c ⟨⟩
    decide

/-- A group with nothing or a colon behind it is not the beginning of a dotted decimal. -/
theorem SpellsGroup.v4_read?_eq_none {t rest : List Char} {g : UInt16} (ht : SpellsGroup t g)
    (hr : rest = [] ∨ ∃ u, rest = ':' :: u) : Ipv4.read? (t ++ rest) = none := by
  obtain ⟨ds, hds, -⟩ := ht
  refine Ipv4.read?_eq_none_of_reads (by decide) (by decide) hds (noDigit_of_eq_nil_or_colon hr) ?_
  rcases hr with rfl | ⟨u, rfl⟩ <;> simp

/-- Where groups stop, no group is read. -/
theorem Stops.readGroups {s : List Char} (hs : Stops s) (room : Nat) (first : Bool) :
    readGroups room first s = ([], false, s) := by
  cases room with
  | zero => rfl
  | succ room =>
    have hcolon (t : List Char) : Ipv4.read? (':' :: t) = none ∧ readGroup? (':' :: t) = none :=
      ⟨rfl, rfl⟩
    have hnil : Ipv4.read? [] = none ∧ readGroup? [] = none := ⟨rfl, rfl⟩
    rcases hs with rfl | ⟨t, rfl⟩ <;> cases first <;>
      simp [Ipv6.readGroups, readColon?, hcolon, hnil]

/-- What spells groups is read as these groups, up to the end of the text or a gap.

**Proof sketch.** Induction on the groups.  A dotted decimal is tried first, and there is room for
it.  A group is not mistaken for one (`SpellsGroup.v4_read?_eq_none`), because the end or a colon
follows it, and is read in full for the same reason. -/
theorem SpellsGroups.readGroups {first dotted : Bool} {t rest : List Char} {gs : List UInt16}
    (h : SpellsGroups first t gs dotted) {room : Nat} (hroom : gs.length ≤ room)
    (hr : Stops rest) : readGroups room first (t ++ rest) = (gs, dotted, rest) := by
  induction h generalizing room with
  | nil first => exact hr.readGroups room first
  | @dotted first t a ht =>
    -- A dotted decimal is tried only if there is room for two groups.
    obtain ⟨room, rfl⟩ : ∃ r, room = r + 1 + 1 :=
      ⟨room - 2, by simp [Ipv4.toGroups] at hroom; omega⟩
    have hread : Ipv4.read? (t ++ rest) = some (a, rest) :=
      Ipv4.read?_eq_some_iff.2 ⟨t, rfl, ht, fun c hc => by
        cases hd : digit? 10 c with
        | none => rfl
        | some d =>
          have hd16 := digit?_of_le (show 10 ≤ 16 by decide) hd
          rw [hr.noDigit c hc] at hd16
          contradiction⟩
    rw [List.append_assoc, Ipv6.readGroups, readColon?_eq_some_iff.2 rfl]
    dsimp only
    rw [if_neg (Nat.succ_ne_zero room), hread]
  | @group first t s g gs dotted ht hs ih =>
    rw [List.length_cons] at hroom
    obtain ⟨room, rfl⟩ : ∃ r, room = r + 1 := ⟨room - 1, by omega⟩
    have hrest := hs.eq_nil_or_colon hr
    rw [List.append_assoc, List.append_assoc, Ipv6.readGroups, readColon?_eq_some_iff.2 rfl]
    dsimp only
    rw [ht.v4_read?_eq_none hrest, ite_self,
      readGroup?_eq_some_iff.2 ⟨t, rfl, ht, noDigit_of_eq_nil_or_colon hrest⟩]
    dsimp only
    rw [ih (by omega)]

/-- The groups that a text spells are determined. -/
theorem SpellsGroups.unique {first d d' : Bool} {t : List Char} {gs gs' : List UInt16}
    (h : SpellsGroups first t gs d) (h' : SpellsGroups first t gs' d') : gs = gs' ∧ d = d' := by
  have hread := h.readGroups (Nat.le_max_left gs.length gs'.length) (.inl rfl)
  rw [h'.readGroups (Nat.le_max_right gs.length gs'.length) (.inl rfl)] at hread
  obtain ⟨hgs, hd⟩ := Prod.mk.inj hread
  exact ⟨hgs.symm, (Prod.mk.inj hd).1.symm⟩

/-- An address is made of eight groups and is known by them.

**Proof sketch.** If there are eight, they are the groups of the address; if not, they are the
groups of none, since an address has eight. -/
theorem ofList?_eq_some_iff {gs : List UInt16} {a : Ipv6} :
    ofList? gs = some a ↔ a.groups = gs := by
  unfold ofList?
  split
  · next h =>
    rw [Option.some.injEq]
    constructor
    · rintro rfl
      rfl
    · rintro rfl
      rfl
  · next h =>
    simp only [reduceCtorEq, false_iff]
    rintro rfl
    exact h a.length_groups

/-- The groups behind a gap are read, and the gap is as long as it has to be.

**Proof sketch.** What is read behind the gap spells groups (`exists_of_readGroups`), and what
spells groups is read in full (`SpellsGroups.readGroups`).  That zeros fill the address up to eight
groups is the same condition on both sides. -/
theorem readTail?_eq_some_nil_iff {head : List UInt16} {s : List Char} {a : Ipv6} :
    readTail? head s = some (a, []) ↔
      ∃ tail ts dotted, s = ':' :: ':' :: tail ∧ SpellsGroups true tail ts dotted ∧
        ts.length ≤ 7 - head.length ∧
        a.groups = head ++ List.replicate (8 - head.length - ts.length) 0 ++ ts := by
  constructor
  · intro h
    unfold readTail? at h
    split at h
    · next s =>
      obtain ⟨ts, dotted, rest, heq⟩ :
          ∃ ts dotted rest, readGroups (7 - head.length) true s = (ts, dotted, rest) :=
        ⟨_, _, _, rfl⟩
      rw [heq] at h
      obtain ⟨b, hb, hba⟩ := Option.map_eq_some_iff.1 h
      obtain ⟨rfl, rfl⟩ := Prod.mk.inj hba
      -- Nothing is left behind the groups, so they make up the text behind the gap.
      obtain ⟨tail, rfl, htail, hlen⟩ := exists_of_readGroups heq
      exact ⟨tail, ts, dotted, by simp, htail, hlen, ofList?_eq_some_iff.1 hb⟩
    · contradiction
  · rintro ⟨tail, ts, dotted, rfl, htail, hlen, ha⟩
    have hread := htail.readGroups hlen (.inl rfl)
    rw [List.append_nil] at hread
    rw [readTail?, hread]
    dsimp only
    rw [ofList?_eq_some_iff.2 ha]
    rfl

/-- The whole texts that are read as addresses of version 6 are those that spell them.

**Proof sketch.** From left to right: what is read in front spells groups.  If they are eight, they
are the address.  If not, they do not end in a dotted decimal, and what follows is a gap with groups
behind it.  From right to left: eight groups are read to the end of the text, and fewer are read up
to the gap, where the reader has not got eight. -/
theorem read?_eq_some_nil_iff {s : List Char} {a : Ipv6} : read? s = some (a, []) ↔ Spells s a := by
  constructor
  · intro h
    obtain ⟨hs, dotted, rest, heq⟩ :
        ∃ hs dotted rest, readGroups 8 true s = (hs, dotted, rest) := ⟨_, _, _, rfl⟩
    obtain ⟨head, rfl, hhead, hlen⟩ := exists_of_readGroups heq
    rw [read?, heq] at h
    dsimp only at h
    split at h
    · next b hb =>
      obtain ⟨rfl, rfl⟩ := Prod.mk.inj (Option.some.inj h)
      rw [List.append_nil]
      rw [← ofList?_eq_some_iff.1 hb] at hhead
      exact .full hhead
    · next hnone =>
      split at h
      · contradiction
      · -- Fewer than eight groups were read, so a gap has to follow.
        next hdotted =>
        rw [Bool.not_eq_true] at hdotted
        subst hdotted
        obtain ⟨tail, ts, dotted, rfl, htail, hts, ha⟩ := readTail?_eq_some_nil_iff.1 h
        have hshort : hs.length ≠ 8 := fun h8 => by simp [ofList?, h8] at hnone
        exact .gap hhead htail (by omega) ha
  · rintro (h | ⟨hhead, htail, hlen, ha⟩)
    · have hread := h.readGroups (Nat.le_of_eq a.length_groups) (.inl rfl)
      rw [List.append_nil] at hread
      rw [read?, hread]
      dsimp only
      rw [ofList?_eq_some_iff.2 rfl]
    · next head tail hs ts dotted =>
      have hread := hhead.readGroups (show _ ≤ 8 by omega)
        (show Stops (':' :: ':' :: tail) from .inr ⟨_, rfl⟩)
      have hshort : ofList? hs = none := dif_neg (by omega)
      rw [read?, hread]
      dsimp only
      rw [hshort]
      exact readTail?_eq_some_nil_iff.2 ⟨tail, ts, dotted, rfl, htail, by omega, ha⟩

/-- A spelling of an address of version 6 does not begin with one of version 4.

**Proof sketch.** An address that begins with a gap does not begin with a digit.  One that begins
with a group has the end or a colon behind it, so the group is not the beginning of a dotted decimal
(`SpellsGroup.v4_read?_eq_none`). -/
theorem Spells.v4_read?_eq_none {s : List Char} {a : Ipv6} (h : Spells s a) :
    Ipv4.read? s = none := by
  have hgroup {t s rest : List Char} {g : UInt16} {gs : List UInt16} {dotted : Bool}
      (ht : SpellsGroup t g) (hs : SpellsGroups false s gs dotted) (hr : Stops rest) :
      Ipv4.read? (t ++ s ++ rest) = none := by
    rw [List.append_assoc]
    exact ht.v4_read?_eq_none (hs.eq_nil_or_colon hr)
  cases h with
  | full h =>
    -- Eight groups do not begin with a dotted decimal, which would be the last two.
    have hlen := a.length_groups
    generalize a.groups = gs at h hlen
    cases h with
    | nil => simp at hlen
    | dotted => simp [Ipv4.toGroups] at hlen
    | group _ ht hs =>
      have hread := hgroup ht hs (.inl rfl)
      rwa [List.append_nil] at hread
  | gap hhead _ _ _ =>
    cases hhead with
    | nil => rfl
    | group _ ht hs => exact hgroup ht hs (.inr ⟨_, rfl⟩)

end Ipv6

/-! ### Either version -/

namespace IpAddress

/-- Says that a text spells an address. -/
def Spells (s : List Char) : IpAddress → Prop
  | v4 a => Ipv4.Spells s a
  | v6 a => Ipv6.Spells s a

/-- The characters of a spelling are hexadecimal digits, colons and dots.

**Proof sketch.** By cases on the spelling: dotted decimal, groups, or groups on both sides of two
colons. -/
theorem Spells.chars {s : List Char} {a : IpAddress} (h : Spells s a) {c : Char} (hc : c ∈ s) :
    (digit? 16 c).isSome ∨ c = ':' ∨ c = '.' := by
  cases a with
  | v4 a =>
    have hchars : Ipv4.Spells s a := h
    exact (hchars.isSome_hex hc).imp id .inr
  | v6 a =>
    cases (h : Ipv6.Spells s a) with
    | full hs => exact hs.chars hc
    | gap hhead htail _ _ =>
      simp only [List.mem_append, List.mem_cons] at hc
      rcases hc with hc | rfl | rfl | hc
      · exact hhead.chars hc
      · exact .inr (.inl rfl)
      · exact .inr (.inl rfl)
      · exact htail.chars hc

/-- The texts that denote addresses are those that spell them.

**Proof sketch.** A whole text is read exactly if nothing is left.  The reader tries dotted decimal
first; what it takes then is no spelling of an address of version 6
(`Ipv6.Spells.v4_read?_eq_none`), so the order of the attempts does not matter. -/
theorem ofText?_eq_some_iff {s : List Char} {a : IpAddress} :
    ofText? s = some a ↔ Spells s a := by
  have hwhole : ofText? s = some a ↔ read? s = some (a, []) := by
    unfold ofText?
    split
    · next b heq => simp [heq]
    · next hne =>
      simp only [reduceCtorEq, false_iff]
      exact hne a
  have hv4 (b : Ipv4) : Ipv4.read? s = some (b, []) ↔ Ipv4.Spells s b := by
    rw [Ipv4.read?_eq_some_iff]
    simp [noDigit_nil]
  rw [hwhole, read?]
  cases a with
  | v4 b =>
    rw [Spells, ← hv4]
    cases Ipv4.read? s <;> simp [Prod.ext_iff]
  | v6 b =>
    rw [Spells, ← Ipv6.read?_eq_some_nil_iff]
    cases hread : Ipv4.read? s with
    | none => simp
    | some p =>
      -- A text with a dotted decimal in front is no spelling of an address of version 6.
      have hno : Ipv6.read? s ≠ some (b, []) := fun h => by
        rw [(Ipv6.read?_eq_some_nil_iff.1 h).v4_read?_eq_none] at hread
        contradiction
      simp [hno]

end IpAddress

end ActorLocation
