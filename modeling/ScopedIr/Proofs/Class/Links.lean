import ScopedIr.Class.Session
import ScopedIr.Proofs.Chain
import ScopedIr.Proofs.Builder.Spec

/-!
# Class links never form a cycle

A class may link to a parent and to an interface, both by index into its table. Registration
checks that both links name registered classes; relinking a parent also refuses the class
itself and any class that already descends from it, and relinking an interface refuses the
class itself. These checks keep a table *well linked*: every link names a registered class, no
class is its own interface, and the walk up from any class along parent links ends. Then the
walk from a class is what `ancestors` returns, it meets no class twice, and it never meets the
class it started from, which therefore is not its own parent either.

Every call of a session keeps a table well linked, failed calls included, so every table a
session reaches from the empty one is.
-/

namespace ScopedIr

namespace ClassTable

variable {t t' : ClassTable}

/-! ### Reading a table -/

theorem tryGet_eq_ok {i : Nat} {c : ClassDef} : t.tryGet i = .ok c ↔ t.get? i = some c := by
  unfold tryGet
  split <;> simp_all

theorem lt_size_of_get? {i : Nat} {c : ClassDef} (h : t.get? i = some c) : i < t.size := by
  rcases Nat.lt_or_ge i t.size with hlt | hge
  · exact hlt
  · have : t.classes[i]? = none := Array.getElem?_eq_none hge
    simp [get?, this] at h

theorem get?_push (c : ClassDef) (j : Nat) :
    (⟨t.classes.push c⟩ : ClassTable).get? j = if j = t.size then some c else t.get? j := by
  show (t.classes.push c)[j]? = _
  rw [Array.getElem?_push]
  rfl

@[simp] theorem size_push (c : ClassDef) :
    (⟨t.classes.push c⟩ : ClassTable).size = t.size + 1 := by
  simp [size]

theorem get?_modify (i : Nat) (f : ClassDef → ClassDef) (j : Nat) :
    (t.modify i f).get? j = if i = j then (t.get? j).map f else t.get? j := by
  simp [modify, get?, Array.getElem?_modify]

@[simp] theorem size_modify (i : Nat) (f : ClassDef → ClassDef) : (t.modify i f).size = t.size := by
  simp [modify, size]

/-- A parent link is one of its class's links. -/
theorem mem_links_of_parentOf? {i p : Nat} (h : t.parentOf? i = some p) :
    ∃ c, t.get? i = some c ∧ p ∈ c.links := by
  unfold parentOf? at h
  cases hc : t.get? i with
  | none => simp [hc] at h
  | some c =>
    simp only [hc, Option.bind_some] at h
    exact ⟨c, rfl, by simp [ClassDef.links, h]⟩

/-- Following parent links with enough fuel walks the whole way. -/
theorem ancestors_go_eq {i : Nat} {l : List Nat} (h : LinkChain t.parentOf? i l) :
    ∀ {n : Nat}, l.length ≤ n → ancestors.go t n (t.parentOf? i) = l := by
  induction h with
  | stop hn =>
    intro n _
    rw [hn]
    cases n <;> rfl
  | @link j p l hp _ ih =>
    intro n hn
    obtain ⟨m, rfl⟩ : ∃ m, n = m + 1 := ⟨n - 1, by simp at hn; omega⟩
    rw [hp, ancestors.go, ih (by simpa using hn)]

/-! ### What the checks establish -/

/-- The operations' checks establish this of a table: every link names a registered class, no
class is its own interface, and the walk up from any class along parent links ends. -/
structure WellLinked (t : ClassTable) : Prop where
  links_lt : ∀ i c, t.get? i = some c → ∀ k ∈ c.links, k < t.size
  interface_ne : ∀ i c, t.get? i = some c → c.interface ≠ some i
  finite : ∀ i, ∃ l, LinkChain t.parentOf? i l

namespace WellLinked

theorem parent_lt (hw : t.WellLinked) {i p : Nat} (h : t.parentOf? i = some p) : p < t.size := by
  obtain ⟨c, hc, hp⟩ := mem_links_of_parentOf? h
  exact hw.links_lt i c hc p hp

/-- `ancestors` walks the whole way up: its fuel, the size of the table, always suffices. -/
theorem ancestors_eq (hw : t.WellLinked) {i : Nat} {l : List Nat} (h : LinkChain t.parentOf? i l) :
    t.ancestors i = l :=
  ancestors_go_eq h (h.length_le fun _ hp => (h.linked_of_mem hp).elim fun _ hj => hw.parent_lt hj)

theorem linkChain (hw : t.WellLinked) (i : Nat) : LinkChain t.parentOf? i (t.ancestors i) := by
  obtain ⟨l, hl⟩ := hw.finite i
  rw [hw.ancestors_eq hl]
  exact hl

/-- No class is its own parent. -/
theorem parent_ne (hw : t.WellLinked) {i : Nat} {c : ClassDef} (hc : t.get? i = some c) :
    c.parent ≠ some i := by
  intro hp
  have hi : t.parentOf? i = some i := by simp [parentOf?, hc, hp]
  obtain ⟨l, hl⟩ := hw.finite i
  -- the walk from `i` would start by coming back to `i`
  cases hl with
  | stop hn => rw [hn] at hi; cases hi
  | link hq hl =>
    rw [hq] at hi
    cases hi
    exact (LinkChain.link hq hl).not_mem List.mem_cons_self

/-- Every ancestor is a registered class. -/
theorem lt_of_mem_ancestors (hw : t.WellLinked) {i k : Nat} (hk : k ∈ t.ancestors i) :
    k < t.size := by
  obtain ⟨_, hj⟩ := (hw.linkChain i).linked_of_mem hk
  exact hw.parent_lt hj

/-- Links that differ from the table's only at `i` leave every walk finite, as long as the new
link of `i` leads to a class whose walk does not come back to `i`. -/
theorem finite_of_relink (hw : t.WellLinked) {next : Nat → Option Nat} {i : Nat}
    (same : ∀ j, j ≠ i → next j = t.parentOf? j)
    (avoids : ∀ q, next i = some q → i ∉ q :: t.ancestors q) (j : Nat) :
    ∃ l, LinkChain next j l := by
  obtain ⟨l, hl⟩ := hw.finite j
  refine hl.relink same ?_
  -- the new walk from `i` is its new link followed by that class's old walk
  cases hn : next i with
  | none => exact ⟨[], .stop hn⟩
  | some q =>
    refine ⟨q :: t.ancestors q, .link hn ((hw.linkChain q).congr fun k hk => same k ?_)⟩
    exact fun hki => avoids q hn (hki ▸ hk)

end WellLinked

/-- What the links of a class table promise: every link names a registered class, no class is
its own parent or interface, and the walk up from a class along parent links ends, meets no
class twice, never meets the class itself, and is what `ancestors` returns. -/
structure SoundLinks (t : ClassTable) : Prop where
  links_lt : ∀ i c, t.get? i = some c → ∀ k ∈ c.links, k < t.size
  not_own_link : ∀ i c, t.get? i = some c → c.parent ≠ some i ∧ c.interface ≠ some i
  ancestors_walk : ∀ i, LinkChain t.parentOf? i (t.ancestors i) ∧ (t.ancestors i).Nodup ∧
    i ∉ t.ancestors i

theorem WellLinked.sound (hw : t.WellLinked) : t.SoundLinks where
  links_lt := hw.links_lt
  not_own_link i c hc := ⟨hw.parent_ne hc, hw.interface_ne i c hc⟩
  ancestors_walk i := ⟨hw.linkChain i, (hw.linkChain i).nodup, (hw.linkChain i).not_mem⟩

/-! ### Every operation keeps a table well linked -/

theorem wellLinked_empty : empty.WellLinked where
  links_lt _ _ h := by simp [empty, get?] at h
  interface_ne _ _ h := by simp [empty, get?] at h
  finite _ := ⟨[], .stop (by simp [empty, parentOf?, get?])⟩

/-- Appending a class whose links name registered classes keeps a table well linked. -/
theorem WellLinked.push (hw : t.WellLinked) {c : ClassDef} (hc : ∀ k ∈ c.links, k < t.size) :
    (⟨t.classes.push c⟩ : ClassTable).WellLinked := by
  have hpar : ∀ j, (⟨t.classes.push c⟩ : ClassTable).parentOf? j =
      if j = t.size then c.parent else t.parentOf? j := by
    intro j
    simp only [parentOf?, get?_push]
    split <;> rfl
  refine ⟨fun j d h k hk => ?_, fun j d h => ?_, fun j => ?_⟩
  · rw [get?_push] at h
    split at h
    · cases h
      rw [size_push]
      exact Nat.lt_succ_of_lt (hc k hk)
    · rw [size_push]
      exact Nat.lt_succ_of_lt (hw.links_lt j d h k hk)
  · rw [get?_push] at h
    split at h
    · next hj =>
      cases h
      intro hk
      have := hc j (by simp [ClassDef.links, hk])
      omega
    · exact hw.interface_ne j d h
  · -- only the new class's link is new, and it leads below the new class
    refine hw.finite_of_relink (fun k (hk : k ≠ t.size) => by rw [hpar, if_neg hk])
      (fun q hq hmem => ?_) j
    rw [hpar, if_pos rfl] at hq
    have hq' : q < t.size := hc q (by simp [ClassDef.links, hq])
    rcases List.mem_cons.mp hmem with h | h
    · omega
    · exact Nat.lt_irrefl _ (hw.lt_of_mem_ancestors h)

/-- Changing a class without touching its parent keeps a table well linked, as long as its
links still name registered classes and it does not become its own interface. -/
theorem WellLinked.modify (hw : t.WellLinked) {i : Nat} {f : ClassDef → ClassDef}
    (hf : ∀ c, t.get? i = some c →
      (f c).parent = c.parent ∧ (∀ k ∈ (f c).links, k < t.size) ∧ (f c).interface ≠ some i) :
    (t.modify i f).WellLinked := by
  have hpar : ∀ j, (t.modify i f).parentOf? j = t.parentOf? j := by
    intro j
    simp only [parentOf?, get?_modify]
    split
    · next hij =>
      subst hij
      cases hc : t.get? i with
      | none => rfl
      | some c => simp [(hf c hc).1]
    · rfl
  refine ⟨fun j d h k hk => ?_, fun j d h => ?_, fun j => ?_⟩
  · rw [get?_modify] at h
    split at h
    · next hij =>
      subst hij
      obtain ⟨c, hc, rfl⟩ := Option.map_eq_some_iff.mp h
      simpa using (hf c hc).2.1 k hk
    · simpa using hw.links_lt j d h k hk
  · rw [get?_modify] at h
    split at h
    · next hij =>
      subst hij
      obtain ⟨c, hc, rfl⟩ := Option.map_eq_some_iff.mp h
      exact (hf c hc).2.2
    · exact hw.interface_ne j d h
  · obtain ⟨l, hl⟩ := hw.finite j
    exact ⟨l, hl.congr fun k _ => hpar k⟩

/-- A successful relinking of a parent checked the class, its new parent, and that the new
parent does not descend from it. -/
theorem setParent_ok {i : Nat} {p : Option Nat} (h : t.setParent i p = .ok t') :
    i < t.size ∧ (∀ q, p = some q → q ≠ i ∧ q < t.size ∧ i ∉ t.ancestors q) ∧
      t' = t.modify i ({ · with parent := p }) := by
  cases hi : t.tryGet i with
  | error e => simp [setParent, hi, bind, Except.bind] at h
  | ok c =>
    have hlt := lt_size_of_get? (tryGet_eq_ok.mp hi)
    cases p with
    | none =>
      simp [setParent, hi, bind, Except.bind, pure, Except.pure] at h
      exact ⟨hlt, by simp, h.symm⟩
    | some q =>
      by_cases hq : q = i
      · simp [setParent, hi, hq, bind, Except.bind, throw, throwThe, MonadExceptOf.throw] at h
      · cases hp : t.tryGet q with
        | error e => simp [setParent, hi, hq, hp, bind, Except.bind] at h
        | ok pc =>
          have hqlt := lt_size_of_get? (tryGet_eq_ok.mp hp)
          by_cases hc : i ∈ t.ancestors q
          · simp [setParent, hi, hq, hp, hc, bind, Except.bind, throw, throwThe,
              MonadExceptOf.throw] at h
          · simp [setParent, hi, hq, hp, hc, bind, Except.bind, pure, Except.pure] at h
            exact ⟨hlt, fun q' hq' => by cases hq'; exact ⟨hq, hqlt, hc⟩, h.symm⟩

/-- Relinking a parent keeps a table well linked: the new walk from the class goes to its new
parent and on along the parent's old walk, which does not come back to the class. -/
theorem WellLinked.setParent (hw : t.WellLinked) {i : Nat} {p : Option Nat}
    (h : t.setParent i p = .ok t') : t'.WellLinked := by
  obtain ⟨hi, hq, rfl⟩ := setParent_ok h
  have hpar : ∀ j, (t.modify i ({ · with parent := p })).parentOf? j =
      if i = j then p else t.parentOf? j := by
    intro j
    simp only [parentOf?, get?_modify]
    split
    · next hij =>
      subst hij
      obtain ⟨c, hc⟩ := Option.isSome_iff_exists.mp
        (show (t.get? i).isSome by simp [get?, size] at hi ⊢; exact hi)
      simp [hc]
    · rfl
  refine ⟨fun j d hd k hk => ?_, fun j d hd => ?_, fun j => ?_⟩
  · rw [get?_modify] at hd
    split at hd
    · next hij =>
      subst hij
      obtain ⟨c, hc, rfl⟩ := Option.map_eq_some_iff.mp hd
      simp only [size_modify]
      rcases List.mem_append.mp hk with hk | hk
      · obtain ⟨q, rfl, rfl⟩ : ∃ q, p = some q ∧ k = q := by
          cases p with
          | none => cases hk
          | some q => exact ⟨q, rfl, List.mem_singleton.mp hk⟩
        exact (hq k rfl).2.1
      · exact hw.links_lt i c hc k (List.mem_append_right _ hk)
    · simpa using hw.links_lt j d hd k hk
  · rw [get?_modify] at hd
    split at hd
    · next hij =>
      subst hij
      obtain ⟨c, hc, rfl⟩ := Option.map_eq_some_iff.mp hd
      exact hw.interface_ne i c hc
    · exact hw.interface_ne j d hd
  · -- only the class's own link is new, and its new parent does not descend from it
    refine hw.finite_of_relink (fun k (hk : k ≠ i) => by rw [hpar, if_neg (Ne.symm hk)])
      (fun q hp hmem => ?_) j
    rw [hpar, if_pos rfl] at hp
    obtain ⟨hqi, -, hnot⟩ := hq q hp
    rcases List.mem_cons.mp hmem with h | h
    · exact hqi h.symm
    · exact hnot h

/-- A successful relinking of an interface checked the class and its new interface. -/
theorem setInterface_ok {i : Nat} {k : Option Nat} (h : t.setInterface i k = .ok t') :
    i < t.size ∧ (∀ q, k = some q → q ≠ i ∧ q < t.size) ∧
      t' = t.modify i ({ · with interface := k }) := by
  cases hi : t.tryGet i with
  | error e => simp [setInterface, hi, bind, Except.bind] at h
  | ok c =>
    have hlt := lt_size_of_get? (tryGet_eq_ok.mp hi)
    cases k with
    | none =>
      simp [setInterface, hi, bind, Except.bind, pure, Except.pure] at h
      exact ⟨hlt, by simp, h.symm⟩
    | some q =>
      by_cases hq : q = i
      · simp [setInterface, hi, hq, bind, Except.bind, throw, throwThe, MonadExceptOf.throw] at h
      · by_cases hqlt : q < t.size
        · simp [setInterface, hi, hq, discard_tryGet, hqlt, bind, Except.bind, pure,
            Except.pure] at h
          exact ⟨hlt, fun q' hq' => by cases hq'; exact ⟨hq, hqlt⟩, h.symm⟩
        · simp [setInterface, hi, hq, discard_tryGet, hqlt, bind, Except.bind] at h

theorem WellLinked.setInterface (hw : t.WellLinked) {i : Nat} {k : Option Nat}
    (h : t.setInterface i k = .ok t') : t'.WellLinked := by
  obtain ⟨-, hk, rfl⟩ := setInterface_ok h
  refine hw.modify fun c hc => ⟨rfl, fun q hq => ?_, fun hself => (hk i hself).1 rfl⟩
  rcases List.mem_append.mp hq with hq | hq
  · exact hw.links_lt _ c hc q (List.mem_append_left _ hq)
  · cases k with
    | none => cases hq
    | some r => exact (List.mem_singleton.mp hq) ▸ (hk r rfl).2

/-- A successful addition of a member replaced the class by the one `add` made of it. -/
theorem addMember_ok {i : Nat} {add : ClassDef → Bool × ClassDef} {fresh : Bool}
    (h : t.addMember i add = .ok (fresh, t')) :
    ∃ c, t.get? i = some c ∧ t' = t.modify i fun _ => (add c).2 := by
  cases hi : t.tryGet i with
  | error e => simp [addMember, hi, bind, Except.bind] at h
  | ok c =>
    simp [addMember, hi, bind, Except.bind, pure, Except.pure] at h
    exact ⟨c, tryGet_eq_ok.mp hi, h.2.symm⟩

/-- The same, read through a call that keeps only the table. -/
theorem addMember_map_ok {i : Nat} {add : ClassDef → Bool × ClassDef}
    (h : (·.2) <$> t.addMember i add = .ok t') :
    ∃ c, t.get? i = some c ∧ t' = t.modify i fun _ => (add c).2 := by
  cases hm : t.addMember i add with
  | error e => rw [hm] at h; cases h
  | ok r =>
    rw [hm] at h
    cases h
    exact addMember_ok hm

/-- Adding a member keeps a table well linked: members carry no links. -/
theorem WellLinked.addMember (hw : t.WellLinked) {i : Nat} {add : ClassDef → Bool × ClassDef}
    (hadd : ∀ c, (add c).2.parent = c.parent ∧ (add c).2.interface = c.interface)
    (h : (·.2) <$> t.addMember i add = .ok t') : t'.WellLinked := by
  obtain ⟨c, hc, rfl⟩ := addMember_map_ok h
  refine hw.modify fun d hd => ?_
  rw [hc] at hd
  cases hd
  refine ⟨(hadd c).1, fun k hk => hw.links_lt i c hc k ?_, ?_⟩
  · simpa [ClassDef.links, hadd c] using hk
  · rw [(hadd c).2]
    exact hw.interface_ne i c hc

/-- Every call keeps a table well linked, whether it succeeds or fails. -/
theorem WellLinked.exec (hw : t.WellLinked) (c : ClassCall) : (t.exec c).WellLinked := by
  unfold ClassTable.exec
  split
  · next t' h =>
    cases c with
    | register d =>
      simp only [ClassCall.run, register_eq] at h
      split at h
      · cases h
      · next hfind =>
        cases h
        exact hw.push fun k hk => by simpa using List.find?_eq_none.mp hfind k hk
    | setParent i p => exact hw.setParent h
    | setInterface i k => exact hw.setInterface h
    | addMethod i m => exact hw.addMember (fun _ => ⟨rfl, rfl⟩) h
    | addConstant i k => exact hw.addMember (fun _ => ⟨rfl, rfl⟩) h
    | addVariable i v => exact hw.addMember (fun _ => ⟨rfl, rfl⟩) h
  · exact hw

theorem WellLinked.execAll (hw : t.WellLinked) (cs : List ClassCall) :
    (t.execAll cs).WellLinked := by
  induction cs generalizing t with
  | nil => exact hw
  | cons c cs ih => exact ih (hw.exec c)

/-! ### Class tables in a builder -/

/-- Appending classes whose links name classes registered before them all keeps a table well
linked, as a library's classes are appended. -/
theorem WellLinked.append (hw : t.WellLinked) (cs : List ClassDef)
    (hcs : ∀ c ∈ cs, ∀ k ∈ c.links, k < t.size) :
    (⟨t.classes ++ cs.toArray⟩ : ClassTable).WellLinked := by
  induction cs generalizing t with
  | nil => simpa using hw
  | cons c cs ih =>
    have hc : ∀ k ∈ c.links, k < t.size := hcs c List.mem_cons_self
    have hw' := ih (hw.push hc) fun d hd k hk => by
      rw [size_push]
      exact Nat.lt_succ_of_lt (hcs d (List.mem_cons_of_mem _ hd) k hk)
    simpa using hw'

/-- How a builder call may change its class table: keep it, register a class whose links name
registered classes, relink a parent, or append a library's classes. -/
inductive ClassMove (t t' : ClassTable) : Prop where
  | keep : t' = t → ClassMove t t'
  | register (c : ClassDef) : (∀ k ∈ c.links, k < t.size) → t' = ⟨t.classes.push c⟩ →
      ClassMove t t'
  | relink (i : Nat) (p : Option Nat) : t.setParent i p = .ok t' → ClassMove t t'
  | append (cs : List ClassDef) : (∀ c ∈ cs, ∀ k ∈ c.links, k < t.size) →
      t' = ⟨t.classes ++ cs.toArray⟩ → ClassMove t t'

theorem WellLinked.classMove (hw : t.WellLinked) (h : ClassMove t t') : t'.WellLinked := by
  cases h with
  | keep h => exact h ▸ hw
  | register c hc h => exact h ▸ hw.push hc
  | relink i p h => exact hw.setParent h
  | append cs hcs h => exact h ▸ hw.append cs hcs

end ClassTable

end ScopedIr
