/-!
# Following links

Scopes and classes each point at a parent through an optional link, and the ancestors of one
of them are what following the links from it meets, nearest first, until a link is missing.
Such a walk ends only if the links form no cycle along it. `LinkChain next i l` says that the
walk from `i` along `next` ends, and that it meets exactly `l` on the way.

A walk is determined by where it starts, it never comes back to its start and never meets an
index twice, and it only reads the links of the indices it meets. Changing the link of one
index keeps every walk finite as long as the walk from that index stays finite.
-/

namespace ScopedIr

/-- Following `next` from `i` meets exactly `l`, nearest first, and then finds no link. -/
inductive LinkChain (next : Nat → Option Nat) : Nat → List Nat → Prop where
  | stop {i : Nat} : next i = none → LinkChain next i []
  | link {i p : Nat} {l : List Nat} : next i = some p → LinkChain next p l → LinkChain next i (p :: l)

namespace LinkChain

variable {next next' : Nat → Option Nat}

/-- A walk is determined by its start. -/
theorem unique {i : Nat} {l l' : List Nat} (h : LinkChain next i l) (h' : LinkChain next i l') :
    l = l' := by
  induction h generalizing l' with
  | stop hn =>
    cases h' with
    | stop _ => rfl
    | link hp _ => rw [hn] at hp; cases hp
  | link hp _ ih =>
    cases h' with
    | stop hn => rw [hn] at hp; cases hp
    | link hq hl =>
      rw [hp] at hq
      cases hq
      rw [ih hl]

/-- The rest of a walk after any index it meets is the walk from that index. -/
theorem of_append {i x : Nat} : ∀ {pre post : List Nat},
    LinkChain next i (pre ++ x :: post) → LinkChain next x post
  | [], _, .link _ h => h
  | _ :: _, _, .link _ h => of_append h

/-- A walk never comes back to where it started. -/
theorem not_mem {i : Nat} {l : List Nat} (h : LinkChain next i l) : i ∉ l := by
  intro hi
  obtain ⟨pre, post, rfl⟩ := List.append_of_mem hi
  -- the walk from `i` would be both the whole list and its strictly shorter tail
  have := congrArg List.length (h.unique (of_append h))
  simp at this
  omega

/-- A walk meets no index twice. -/
theorem nodup {i : Nat} {l : List Nat} (h : LinkChain next i l) : l.Nodup := by
  induction h with
  | stop _ => exact List.nodup_nil
  | link _ hl ih => exact List.nodup_cons.mpr ⟨hl.not_mem, ih⟩

/-- Every index a walk meets is the target of a link. -/
theorem linked_of_mem {i p : Nat} {l : List Nat} (h : LinkChain next i l) (hp : p ∈ l) :
    ∃ j, next j = some p := by
  induction h with
  | stop _ => cases hp
  | @link j q _ hq _ ih =>
    rcases List.mem_cons.mp hp with rfl | hp
    · exact ⟨j, hq⟩
    · exact ih hp

/-- A walk whose indices all lie below `n` has at most `n` of them. -/
theorem length_le {i n : Nat} {l : List Nat} (h : LinkChain next i l) (hl : ∀ p ∈ l, p < n) :
    l.length ≤ n := by
  have : l.length ≤ (List.range n).length :=
    h.nodup.length_le_of_subset fun p hp => List.mem_range.mpr (hl p hp)
  simpa using this

/-- A walk reads only the links of the indices it meets. -/
theorem congr {i : Nat} {l : List Nat} (h : LinkChain next i l)
    (same : ∀ j ∈ i :: l, next' j = next j) : LinkChain next' i l := by
  induction h with
  | stop hn => exact .stop ((same _ List.mem_cons_self).trans hn)
  | link hp _ ih =>
    refine .link ((same _ List.mem_cons_self).trans hp) (ih fun j hj => same j ?_)
    exact List.mem_cons_of_mem _ hj

/-- Changing the link of `i` alone keeps every walk finite, once the new walk from `i` is. -/
theorem relink {i : Nat} (same : ∀ j, j ≠ i → next' j = next j) (hi : ∃ m, LinkChain next' i m)
    {j : Nat} {l : List Nat} (h : LinkChain next j l) : ∃ l', LinkChain next' j l' := by
  induction h with
  | @stop j hn =>
    by_cases hj : j = i
    · exact hj ▸ hi
    · exact ⟨[], .stop ((same j hj).trans hn)⟩
  | @link j p _ hp _ ih =>
    by_cases hj : j = i
    · exact hj ▸ hi
    · obtain ⟨l', hl'⟩ := ih
      exact ⟨p :: l', .link ((same j hj).trans hp) hl'⟩

end LinkChain

end ScopedIr
