import Mathlib.Order.Defs.Unbundled
import ScopedIr.Proofs.Class.Methods

/-!
# Subclassing is a partial order

A class is a subclass of another when it is that class or descends from it. In a well-linked
table the chain of a superclass (the class and its ancestors) ends the chain of each of its
subclasses. Chains therefore compose, so subclassing is transitive; and two classes that are
each other's subclass have chains that end each other, so the two chains are one and the
classes are the same. Every class table a session reaches from the empty one, and the class
table of every builder run, is well linked, so subclassing orders its classes partially.

Reflexivity needs nothing; antisymmetry is where acyclicity is used: a parent cycle would make
every class on it a subclass of every other.
-/

namespace ScopedIr

namespace ClassTable

variable {t : ClassTable}

/-- Every class is a subclass of itself. -/
@[simp] theorem isSubclassOf_self (t : ClassTable) (a : Nat) : t.isSubclassOf a a = true := by
  simp [isSubclassOf]

/-- A class is a subclass of every class on its chain. -/
theorem isSubclassOf_of_mem_chain {a b : Nat} (h : b ∈ a :: t.ancestors a) :
    t.isSubclassOf a b = true := by
  rcases List.mem_cons.mp h with rfl | h
  · exact isSubclassOf_self t b
  · simp [isSubclassOf, h]

/-- Subclassing is transitive: the chain of `a` ends with the chain of `b`, which ends with the
chain of `c`. -/
theorem WellLinked.isSubclassOf_trans (hw : t.WellLinked) {a b c : Nat}
    (hab : t.isSubclassOf a b = true) (hbc : t.isSubclassOf b c = true) :
    t.isSubclassOf a c = true := by
  obtain ⟨pre, hpre⟩ := hw.chain_of_isSubclassOf hab
  obtain ⟨pre', hpre'⟩ := hw.chain_of_isSubclassOf hbc
  apply isSubclassOf_of_mem_chain
  rw [hpre, hpre']
  simp

/-- Subclassing is antisymmetric: two chains that end each other are equal, so they start at
the same class. -/
theorem WellLinked.isSubclassOf_antisymm (hw : t.WellLinked) {a b : Nat}
    (hab : t.isSubclassOf a b = true) (hba : t.isSubclassOf b a = true) : a = b := by
  obtain ⟨pre, hpre⟩ := hw.chain_of_isSubclassOf hab
  obtain ⟨pre', hpre'⟩ := hw.chain_of_isSubclassOf hba
  -- the chain of `a` is `pre ++ pre'` followed by itself, so `pre` is empty
  have hlen : pre.length + pre'.length = 0 := by
    have h := congrArg List.length (hpre.trans (congrArg (pre ++ ·) hpre'))
    simp only [List.length_cons, List.length_append] at h
    omega
  have hnil : pre = [] := List.eq_nil_of_length_eq_zero (by omega)
  rw [hnil, List.nil_append] at hpre
  exact (List.cons.inj hpre).1

/-- In a well-linked table subclassing is a partial order on class indices. -/
theorem WellLinked.isPartialOrder (hw : t.WellLinked) :
    IsPartialOrder Nat fun a b => t.isSubclassOf a b = true where
  refl := isSubclassOf_self t
  trans _ _ _ := hw.isSubclassOf_trans
  antisymm _ _ := hw.isSubclassOf_antisymm

end ClassTable

namespace Builder

/-- The class table of every builder run is well linked. -/
theorem wellLinked_run (o : BuilderOptions) (cs : List Call) :
    ((Builder.new o).execAll cs).classes.WellLinked :=
  execAll_induction (fun b => b.classes.WellLinked) (fun _ c hw => wellLinked_exec hw c) cs
    (Builder.new o) ClassTable.wellLinked_empty

/-- Subclassing is a partial order, reflexive, transitive and antisymmetric, on the classes of
every class table a session reaches from the empty table, failed calls included, and on the
classes of the class table of every builder run. It is so on every index, registered or not:
an index the table does not hold is a subclass of itself only. -/
theorem subclassing_is_partial_order :
    (∀ cs : List ClassCall,
      IsPartialOrder Nat fun a b => (ClassTable.empty.execAll cs).isSubclassOf a b = true) ∧
    ∀ (o : BuilderOptions) (cs : List Call),
      IsPartialOrder Nat fun a b => ((Builder.new o).execAll cs).classes.isSubclassOf a b = true :=
  ⟨fun cs => (ClassTable.wellLinked_empty.execAll cs).isPartialOrder,
    fun o cs => (wellLinked_run o cs).isPartialOrder⟩

end Builder

end ScopedIr
