import ScopedIr.Proofs.Builder.Effects

/-!
# Method resolution

The members of a class are ordered sets: lists kept strictly increasing in the derived order of
their type, which compares constructors in declaration order and then fields left to right.
That order agrees with a lexicographic combination of lawful orders, so it is a lawful order
itself: inserting into an ordered set keeps it ordered, and the first method of a name that a
class lists is its least method of that name.

Method resolution asks a class and then its ancestors, nearest first, and answers with the
least method of the name on the first of them that declares one. In a well-linked table the
chain of a superclass ends the chain of each of its subclasses, so a subclass resolves every
name its superclass resolves. Every table a session reaches, and the class table of every
builder run, keeps the methods of its classes ordered, as long as each class handed over whole
lists its methods in order.
-/

namespace ScopedIr

/-! ### The order of members -/

/-- An order that agrees with a transitive comparison is transitive. -/
theorem transOrd_of_compare_eq {α : Type} [Ord α] {cmp : α → α → Ordering} [Std.TransCmp cmp]
    (h : ∀ a b, compare a b = cmp a b) : Std.TransOrd α := by
  have hc : (compare : α → α → Ordering) = cmp := funext fun a => funext (h a)
  show Std.TransCmp compare
  rw [hc]
  infer_instance

/-- Primitive types compare by their place in declaration order. -/
theorem Primitive.compare_eq (x y : Primitive) :
    compare x y = compareOn Primitive.ctorIdx x y := rfl

instance : Std.TransOrd Primitive := transOrd_of_compare_eq Primitive.compare_eq

/-- What a type carries, as a number: the rank of its primitive, or its class index. -/
def DataType.payload : DataType → Nat
  | primitive p => p.ctorIdx
  | classRef i => i

/-- Types compare by constructor, then by what they carry. -/
theorem DataType.compare_eq (x y : DataType) :
    compare x y = compareLex (compareOn DataType.ctorIdx) (compareOn DataType.payload) x y := by
  cases x <;> cases y
  case primitive.primitive => exact Ordering.then_eq
  case classRef.classRef => exact Ordering.then_eq
  all_goals rfl

instance : Std.TransOrd DataType := transOrd_of_compare_eq DataType.compare_eq

/-- Parameters compare by name, then type, then position. -/
theorem Parameter.compare_eq (p q : Parameter) :
    compare p q = compareLex (compareOn (·.name))
      (compareLex (compareOn (·.type)) (compareOn (·.position))) p q := by
  cases p; cases q
  simp only [compare, instOrdParameter.ord, compareLex, compareOn, Ordering.then_eq]

instance : Std.TransOrd Parameter := transOrd_of_compare_eq Parameter.compare_eq

/-- Methods compare by name, then return type, then parameters. -/
theorem Function.compare_eq (f g : Function) :
    compare f g = compareLex (compareOn (·.name))
      (compareLex (compareOn (·.returns)) (compareOn (·.params))) f g := by
  cases f; cases g
  simp only [compare, instOrdFunction.ord, compareLex, compareOn, Ordering.then_eq]

instance : Std.TransOrd Function := transOrd_of_compare_eq Function.compare_eq

namespace OrderedSet

variable {α : Type} [Ord α]

/-- The list is an ordered set: strictly increasing, so each member is there once. -/
def Increasing (xs : List α) : Prop := xs.Pairwise fun a b => compare a b = .lt

instance (xs : List α) : Decidable (Increasing xs) :=
  inferInstanceAs (Decidable (xs.Pairwise fun a b => compare a b = .lt))

theorem insert_cons_gt {x y : α} {ys : List α} (h : compare x y = .gt) :
    (insert x (y :: ys)).2 = y :: (insert x ys).2 := by
  simp [insert, h]

/-- Inserting adds nothing but the new member. -/
theorem mem_insert {x z : α} {xs : List α} (h : z ∈ (insert x xs).2) : z = x ∨ z ∈ xs := by
  induction xs with
  | nil => simpa [insert] using h
  | cons y ys ih =>
    cases hc : compare x y with
    | lt => simpa [insert, hc] using h
    | eq =>
      simp only [insert, hc] at h
      exact .inr h
    | gt =>
      rw [insert_cons_gt hc] at h
      rcases List.mem_cons.mp h with rfl | h
      · exact .inr List.mem_cons_self
      · exact (ih h).imp_right (List.mem_cons_of_mem _)

/-- Inserting into an ordered set keeps it ordered: the new member goes right before the first
member above it, or nowhere when it is already there. -/
theorem Increasing.insert [Std.TransOrd α] (x : α) {xs : List α} (h : Increasing xs) :
    Increasing (OrderedSet.insert x xs).2 := by
  induction xs with
  | nil => simp [OrderedSet.insert, Increasing]
  | cons y ys ih =>
    obtain ⟨hy, hys⟩ := List.pairwise_cons.mp h
    cases hc : compare x y with
    | lt =>
      simp only [OrderedSet.insert, hc]
      refine List.pairwise_cons.mpr ⟨fun z hz => ?_, h⟩
      rcases List.mem_cons.mp hz with rfl | hz
      · exact hc
      · exact Std.TransCmp.lt_trans hc (hy z hz)
    | eq =>
      simp only [OrderedSet.insert, hc]
      exact h
    | gt =>
      rw [insert_cons_gt hc]
      refine List.pairwise_cons.mpr ⟨fun z hz => ?_, ih hys⟩
      rcases mem_insert hz with rfl | hz
      · exact Std.OrientedCmp.lt_of_gt hc
      · exact hy z hz

theorem increasing_ofList [Std.TransOrd α] (xs : List α) : Increasing (ofList xs) := by
  unfold ofList
  -- the accumulator of the fold stays an ordered set
  suffices ∀ acc, Increasing acc →
      Increasing (xs.foldl (fun acc x => (OrderedSet.insert x acc).2) acc) from
    this [] List.Pairwise.nil
  induction xs with
  | nil => exact fun _ h => h
  | cons x xs ih => exact fun acc h => ih _ (h.insert x)

end OrderedSet

/-! ### The methods of a class -/

namespace ClassDef

variable {c : ClassDef} {n : String} {m : Function}

/-- The methods of the class form an ordered set, as the member sets of a class always do. -/
def MethodsOrdered (c : ClassDef) : Prop := OrderedSet.Increasing c.methods

instance (c : ClassDef) : Decidable c.MethodsOrdered :=
  inferInstanceAs (Decidable (OrderedSet.Increasing c.methods))

/-- The class declares a method named `n`. -/
def Declares (c : ClassDef) (n : String) : Prop := ∃ m ∈ c.methods, m.name = n

/-- `m` is the least, in method order, of the methods named `n` the class declares. -/
def LeastMethod (c : ClassDef) (n : String) (m : Function) : Prop :=
  m ∈ c.methods ∧ m.name = n ∧ ∀ m' ∈ c.methods, m'.name = n → (compare m m').isLE

theorem method?_eq_none_iff : c.method? n = none ↔ ¬ c.Declares n := by
  simp [method?, Declares, List.find?_eq_none]

/-- The method a class answers with by name is the first of that name it lists. -/
theorem method?_eq_some_iff_append : c.method? n = some m ↔
    m.name = n ∧ ∃ pre post, c.methods = pre ++ m :: post ∧ ∀ m' ∈ pre, m'.name ≠ n := by
  simp [method?, List.find?_eq_some_iff_append]

theorem MethodsOrdered.leastMethod_of_method? (ho : c.MethodsOrdered) (h : c.method? n = some m) :
    c.LeastMethod n m := by
  obtain ⟨hname, pre, post, hsplit, hpre⟩ := method?_eq_some_iff_append.mp h
  refine ⟨hsplit ▸ List.mem_append_right _ List.mem_cons_self, hname, fun m' hm' hn' => ?_⟩
  have hinc : (pre ++ m :: post).Pairwise fun a b => compare a b = .lt := hsplit ▸ ho
  rw [hsplit] at hm'
  rcases List.mem_append.mp hm' with hm' | hm'
  · -- a method listed before the one found would have been found
    exact absurd hn' (hpre m' hm')
  · rcases List.mem_cons.mp hm' with rfl | hm'
    · exact Std.ReflCmp.isLE_rfl
    · simp [List.rel_of_pairwise_cons (List.pairwise_append.mp hinc).2.1 hm']

/-- In an ordered set, the first method of a name is the least method of that name. -/
theorem MethodsOrdered.method?_eq_some_iff (ho : c.MethodsOrdered) :
    c.method? n = some m ↔ c.LeastMethod n m := by
  refine ⟨ho.leastMethod_of_method?, fun ⟨hm, hname, hleast⟩ => ?_⟩
  cases hfind : c.method? n with
  | none => exact absurd ⟨m, hm, hname⟩ (method?_eq_none_iff.mp hfind)
  | some m₀ =>
    -- the method found is least too, and no other method compares equal to it
    obtain ⟨hname₀, pre, post, hsplit, hpre⟩ := method?_eq_some_iff_append.mp hfind
    have hinc : (pre ++ m₀ :: post).Pairwise fun a b => compare a b = .lt := hsplit ▸ ho
    rw [hsplit] at hm
    rcases List.mem_append.mp hm with hm | hm
    · exact absurd hname (hpre m hm)
    · rcases List.mem_cons.mp hm with rfl | hm
      · rfl
      · have hlt := List.rel_of_pairwise_cons (List.pairwise_append.mp hinc).2.1 hm
        exact absurd hlt (Std.OrientedCmp.not_lt_of_isLE
          (hleast m₀ (hsplit ▸ List.mem_append_right _ List.mem_cons_self) hname₀))

theorem MethodsOrdered.addMethod (ho : c.MethodsOrdered) (m : Function) :
    (c.addMethod m).2.MethodsOrdered :=
  OrderedSet.Increasing.insert m ho

theorem methodsOrdered_make (name : String) (kind : ClassKind) (parent interface : Option Nat)
    (methods : List Function) (constants : List Constant) (fields : List Variable) :
    (make name kind parent interface methods constants fields).MethodsOrdered :=
  OrderedSet.increasing_ofList methods

end ClassDef

/-! ### Resolution along the ancestors -/

namespace ClassTable

variable {t : ClassTable} {n : String} {m : Function}

/-- Every class of the table lists its methods as an ordered set. -/
def MethodsOrdered (t : ClassTable) : Prop := ∀ i c, t.get? i = some c → c.MethodsOrdered

/-- Class `i` is registered and declares a method named `n`. -/
def Declares (t : ClassTable) (i : Nat) (n : String) : Prop :=
  ∃ c, t.get? i = some c ∧ c.Declares n

/-- What one class of the chain answers: nothing exactly when it does not declare the name. -/
theorem bind_method?_eq_none_iff {k : Nat} :
    (t.get? k).bind (·.method? n) = none ↔ ¬ t.Declares k n := by
  cases h : t.get? k <;> simp [Declares, h, ClassDef.method?_eq_none_iff]

theorem MethodsOrdered.bind_method?_eq_some_iff (ho : t.MethodsOrdered) {k : Nat} :
    (t.get? k).bind (·.method? n) = some m ↔ ∃ c, t.get? k = some c ∧ c.LeastMethod n m := by
  cases h : t.get? k with
  | none => simp
  | some c => simp [(ho k c h).method?_eq_some_iff]

theorem resolveMethod_eq_none_iff {i : Nat} :
    t.resolveMethod i n = none ↔ ∀ k ∈ i :: t.ancestors i, ¬ t.Declares k n := by
  simp only [resolveMethod, List.findSome?_eq_none_iff, bind_method?_eq_none_iff]

/-- Resolution answers with the least method of the name on the first class of the chain that
declares one. -/
theorem MethodsOrdered.resolveMethod_eq_some_iff (ho : t.MethodsOrdered) {i : Nat} :
    t.resolveMethod i n = some m ↔ ∃ pre k post, i :: t.ancestors i = pre ++ k :: post ∧
      (∃ c, t.get? k = some c ∧ c.LeastMethod n m) ∧ ∀ j ∈ pre, ¬ t.Declares j n := by
  simp only [resolveMethod, List.findSome?_eq_some_iff, bind_method?_eq_none_iff,
    ho.bind_method?_eq_some_iff]

/-- A method a class declares overrides every inherited one of its name. -/
theorem MethodsOrdered.resolveMethod_of_leastMethod (ho : t.MethodsOrdered) {i : Nat}
    {c : ClassDef} (hc : t.get? i = some c) (hm : c.LeastMethod n m) :
    t.resolveMethod i n = some m :=
  ho.resolveMethod_eq_some_iff.mpr ⟨[], i, t.ancestors i, rfl, ⟨c, hc, hm⟩, by simp⟩

/-- The ancestors of an ancestor are what follows it among the ancestors of its descendant. -/
theorem WellLinked.ancestors_of_mem (hw : t.WellLinked) {a b : Nat} (h : b ∈ t.ancestors a) :
    ∃ pre, t.ancestors a = pre ++ b :: t.ancestors b := by
  obtain ⟨pre, post, hsplit⟩ := List.append_of_mem h
  have hwalk := hw.linkChain a
  rw [hsplit] at hwalk
  exact ⟨pre, by rw [hsplit, hw.ancestors_eq hwalk.of_append]⟩

/-- The chain of a superclass, the class and its ancestors, ends the chain of its subclass. -/
theorem WellLinked.chain_of_isSubclassOf (hw : t.WellLinked) {a b : Nat}
    (h : t.isSubclassOf a b = true) : ∃ pre, a :: t.ancestors a = pre ++ b :: t.ancestors b := by
  rcases Bool.or_eq_true _ _ ▸ h with h | h
  · exact ⟨[], by rw [beq_iff_eq.mp h]; rfl⟩
  · obtain ⟨pre, hpre⟩ := hw.ancestors_of_mem (List.contains_iff_mem.mp h)
    exact ⟨a :: pre, by rw [hpre]; rfl⟩

/-- A subclass resolves every name its superclass resolves. -/
theorem WellLinked.resolveMethod_isSome_of_isSubclassOf (hw : t.WellLinked) {a b : Nat}
    (h : t.isSubclassOf a b = true) (hb : (t.resolveMethod b n).isSome) :
    (t.resolveMethod a n).isSome := by
  obtain ⟨pre, hchain⟩ := hw.chain_of_isSubclassOf h
  obtain ⟨k, hk, hsome⟩ := List.findSome?_isSome_iff.mp hb
  exact List.findSome?_isSome_iff.mpr ⟨k, hchain ▸ List.mem_append_right _ hk, hsome⟩

/-- A class derived from one that declares `speak` inherits it. -/
example : (ClassTable.empty.execAll
    [.register { name := "Base", methods := [⟨"speak", .primitive .string, []⟩] },
      .register { name := "Derived", parent := some 0 }]).resolveMethod 1 "speak" =
    some ⟨"speak", .primitive .string, []⟩ := by
  decide

/-! ### Tables keep their methods ordered -/

theorem methodsOrdered_empty : empty.MethodsOrdered := fun _ _ h => by simp [empty, get?] at h

theorem MethodsOrdered.push (ho : t.MethodsOrdered) {c : ClassDef} (hc : c.MethodsOrdered) :
    (⟨t.classes.push c⟩ : ClassTable).MethodsOrdered := by
  intro j d hd
  rw [get?_push] at hd
  split at hd
  · cases hd
    exact hc
  · exact ho j d hd

theorem MethodsOrdered.modify (ho : t.MethodsOrdered) {i : Nat} {f : ClassDef → ClassDef}
    (hf : ∀ c, t.get? i = some c → (f c).MethodsOrdered) : (t.modify i f).MethodsOrdered := by
  intro j d hd
  rw [get?_modify] at hd
  split at hd
  · next hij =>
    subst hij
    obtain ⟨c, hc, rfl⟩ := Option.map_eq_some_iff.mp hd
    exact hf c hc
  · exact ho j d hd

theorem MethodsOrdered.append (ho : t.MethodsOrdered) (cs : List ClassDef)
    (hcs : ∀ c ∈ cs, c.MethodsOrdered) :
    (⟨t.classes ++ cs.toArray⟩ : ClassTable).MethodsOrdered := by
  induction cs generalizing t with
  | nil => simpa using ho
  | cons c cs ih =>
    have ho' := ih (ho.push (hcs c List.mem_cons_self)) fun d hd =>
      hcs d (List.mem_cons_of_mem _ hd)
    simpa using ho'

theorem MethodsOrdered.addMember (ho : t.MethodsOrdered) {i : Nat}
    {add : ClassDef → Bool × ClassDef} (hadd : ∀ c, c.MethodsOrdered → (add c).2.MethodsOrdered)
    {t' : ClassTable} (h : (·.2) <$> t.addMember i add = .ok t') : t'.MethodsOrdered := by
  obtain ⟨c, hc, rfl⟩ := addMember_map_ok h
  exact ho.modify fun _ _ => hadd c (ho i c hc)

end ClassTable

/-- The classes a call hands over whole: the class it registers. -/
def ClassCall.classDefs : ClassCall → List ClassDef
  | register c => [c]
  | _ => []

namespace ClassTable

variable {t : ClassTable}

/-- Every call keeps the methods of a table ordered, as long as a class it registers lists its
methods in order. -/
theorem MethodsOrdered.exec (ho : t.MethodsOrdered) (c : ClassCall)
    (hc : ∀ d ∈ c.classDefs, d.MethodsOrdered) : (t.exec c).MethodsOrdered := by
  unfold ClassTable.exec
  split
  · next t' h =>
    cases c with
    | register d =>
      simp only [ClassCall.run, register_eq] at h
      split at h
      · cases h
      · cases h
        exact ho.push (hc d List.mem_cons_self)
    | setParent i p =>
      obtain ⟨-, -, rfl⟩ := setParent_ok h
      exact ho.modify fun c hc => ho i c hc
    | setInterface i k =>
      obtain ⟨-, -, rfl⟩ := setInterface_ok h
      exact ho.modify fun c hc => ho i c hc
    | addMethod i m => exact ho.addMember (fun c hc => hc.addMethod m) h
    | addConstant i k => exact ho.addMember (fun _ hc => hc) h
    | addVariable i v => exact ho.addMember (fun _ hc => hc) h
  · exact ho

theorem MethodsOrdered.execAll (ho : t.MethodsOrdered) (cs : List ClassCall)
    (hcs : ∀ c ∈ cs, ∀ d ∈ c.classDefs, d.MethodsOrdered) : (t.execAll cs).MethodsOrdered := by
  induction cs generalizing t with
  | nil => exact ho
  | cons c cs ih =>
    exact ih (ho.exec c (hcs c List.mem_cons_self)) fun c' hc' =>
      hcs c' (List.mem_cons_of_mem _ hc')

end ClassTable

/-- The classes a builder call hands over whole: the class it defines, or the classes of the
library it registers. -/
def Call.classDefs : Call → List ClassDef
  | .defineClass c => [c]
  | .registerLibrary l => l.classes
  | _ => []

namespace Builder

/-- A call keeps the class table, relinks a parent, or appends the classes it hands over. -/
theorem classes_exec (b : Builder) (c : Call) :
    (b.exec c).classes = b.classes ∨ (∃ i p, b.classes.setParent i p = .ok (b.exec c).classes) ∨
      (b.exec c).classes = ⟨b.classes.classes ++ c.classDefs.toArray⟩ := by
  cases c with
  | setPosition => exact .inl rfl
  | beginScope => exact .inl (by rw [exec_beginScope]; rfl)
  | endScope => exact .inl (by rw [exec_endScope]; split <;> rfl)
  | declareVariable => exact .inl (by rw [exec_declareVariable]; split <;> rfl)
  | declareConstant => exact .inl (by rw [exec_declareConstant]; split <;> rfl)
  | releaseVariable => exact .inl (by rw [exec_releaseVariable]; split <;> (try split) <;> rfl)
  | defineFunction => exact .inl (by rw [exec_defineFunction]; split <;> rfl)
  | beginFunctionBody f => exact .inl (by rw [exec_beginFunctionBody, classes_bindParams]; rfl)
  | defineClass d =>
    rw [exec_defineClass]
    split
    · exact .inl rfl
    · split
      · exact .inl rfl
      · exact .inr (.inr (by simp [Call.classDefs]))
  | setClassParent d p =>
    rw [exec_setClassParent]
    split
    · next classes h => exact .inr (.inl ⟨_, _, h⟩)
    · exact .inl rfl
  | emit => exact .inl (by rw [exec_emit]; split <;> rfl)
  | emitJump => exact .inl (by rw [exec_emitJump]; split <;> rfl)
  | emitCondJump => exact .inl (by rw [exec_emitCondJump]; split <;> rfl)
  | emitBreak => exact .inl (by rw [exec_emitBreak]; split <;> (try split) <;> rfl)
  | emitContinue => exact .inl (by rw [exec_emitContinue]; split <;> (try split) <;> rfl)
  | checkpoint => exact .inl (by rw [exec_checkpoint]; split <;> rfl)
  | registerLibrary l =>
    rw [exec_registerLibrary]
    split
    · exact .inr (.inr (withLibrary_classes b l))
    · exact .inl rfl

theorem methodsOrdered_exec {b : Builder} (ho : b.classes.MethodsOrdered) (c : Call)
    (hc : ∀ d ∈ c.classDefs, d.MethodsOrdered) : (b.exec c).classes.MethodsOrdered := by
  rcases classes_exec b c with h | ⟨i, p, h⟩ | h
  · exact h ▸ ho
  · obtain ⟨-, -, h⟩ := ClassTable.setParent_ok h
    exact h ▸ ho.modify fun d hd => ho i d hd
  · exact h ▸ ho.append _ hc

theorem methodsOrdered_execAll {b : Builder} (ho : b.classes.MethodsOrdered) (cs : List Call)
    (hcs : ∀ c ∈ cs, ∀ d ∈ c.classDefs, d.MethodsOrdered) :
    (b.execAll cs).classes.MethodsOrdered := by
  induction cs generalizing b with
  | nil => exact ho
  | cons c cs ih =>
    exact ih (methodsOrdered_exec ho c (hcs c List.mem_cons_self)) fun c' hc' =>
      hcs c' (List.mem_cons_of_mem _ hc')

end Builder

namespace ClassTable

variable {t : ClassTable}

/-- How method resolution answers in a table. It answers with the least method of the name
that the first class declaring one declares, among the class and its ancestors nearest first,
and with nothing exactly when none of them declares one; so a method a class declares overrides
every inherited one. The chain of a superclass ends the chain of each of its subclasses, so a
subclass resolves every name its superclass resolves. -/
structure ResolvesMethods (t : ClassTable) : Prop where
  nearest : ∀ i n m, t.resolveMethod i n = some m ↔
    ∃ pre k post, i :: t.ancestors i = pre ++ k :: post ∧
      (∃ c, t.get? k = some c ∧ c.LeastMethod n m) ∧ ∀ j ∈ pre, ¬ t.Declares j n
  none_iff : ∀ i n, t.resolveMethod i n = none ↔ ∀ k ∈ i :: t.ancestors i, ¬ t.Declares k n
  overrides : ∀ i c n m, t.get? i = some c → c.LeastMethod n m → t.resolveMethod i n = some m
  superclass_chain : ∀ a b, t.isSubclassOf a b = true →
    ∃ pre, a :: t.ancestors a = pre ++ b :: t.ancestors b
  inherited : ∀ a b n, t.isSubclassOf a b = true → (t.resolveMethod b n).isSome →
    (t.resolveMethod a n).isSome

theorem WellLinked.resolvesMethods (hw : t.WellLinked) (ho : t.MethodsOrdered) :
    t.ResolvesMethods where
  nearest _ _ _ := ho.resolveMethod_eq_some_iff
  none_iff _ _ := resolveMethod_eq_none_iff
  overrides _ _ _ _ := ho.resolveMethod_of_leastMethod
  superclass_chain _ _ := hw.chain_of_isSubclassOf
  inherited _ _ _ := hw.resolveMethod_isSome_of_isSubclassOf

end ClassTable

namespace Builder

/-- Method resolution follows the ancestors in every class table a session reaches from the
empty one, and in the class table of every builder run, as long as each class handed over whole
lists its methods in order, as the member sets of a class do. -/
theorem methods_resolve_to_nearest_declaration :
    (∀ cs : List ClassCall, (∀ c ∈ cs, ∀ d ∈ c.classDefs, d.MethodsOrdered) →
      (ClassTable.empty.execAll cs).ResolvesMethods) ∧
    ∀ (o : BuilderOptions) (cs : List Call), (∀ c ∈ cs, ∀ d ∈ c.classDefs, d.MethodsOrdered) →
      ((Builder.new o).execAll cs).classes.ResolvesMethods := by
  refine ⟨fun cs hcs => ?_, fun o cs hcs => ?_⟩
  · exact (ClassTable.wellLinked_empty.execAll cs).resolvesMethods
      (ClassTable.methodsOrdered_empty.execAll cs hcs)
  · -- a fresh builder starts from the empty table, and every call keeps both invariants
    have hw := execAll_induction (fun b => b.classes.WellLinked) (fun b c hw => wellLinked_exec hw c)
      cs (Builder.new o) ClassTable.wellLinked_empty
    exact hw.resolvesMethods (methodsOrdered_execAll ClassTable.methodsOrdered_empty cs hcs)

/-- A base class declaring `speak` and a class derived from it, registered in a session and
defined in a builder run. -/
theorem methods_resolve_through_parents :
    (ClassTable.empty.execAll
        [.register { name := "Base", methods := [⟨"speak", .primitive .string, []⟩] },
          .register { name := "Derived", parent := some 0 }]).ResolvesMethods ∧
      ((Builder.new {}).execAll
        [.defineClass { name := "Base", methods := [⟨"speak", .primitive .string, []⟩] },
          .defineClass { name := "Derived", parent := some 0 }]).classes.ResolvesMethods :=
  ⟨methods_resolve_to_nearest_declaration.1 _ (by decide),
    methods_resolve_to_nearest_declaration.2 _ _ (by decide)⟩

end Builder

end ScopedIr
