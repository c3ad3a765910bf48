import LogTree.Proofs.Walks
import Mathlib

/-!
What the equality of values sees: everything but the sign of a zero, and nothing is equal to a value with
what is not a number in it. So a record tells a test on attribute values no more than its values up to
equality. Main statement: `equality_of_content`. Lemmas on floats come with the library as a whole and
with no module of it, hence the import.
-/
namespace LogTree
variable {σ : Type}

def IsZero (x : Float) : Prop := x = 0.0 ∨ x = -0.0

/-- A number equals itself and nothing else, but for the zeros; what is no number equals nothing. -/
theorem float_beq_iff (x y : Float) :
    (x == y) = true ↔ x.isNaN = false ∧ (x = y ∨ (IsZero x ∧ IsZero y)) := by
  have positive : (0.0 : Float) = 0 := rfl
  have zero : (0 : Float) ≠ .nan := by decide
  have zero' : (-0 : Float) ≠ .nan := by decide
  rw [Float.beq_iff_ne_nan_and_eq, Float.isNaN_eq_decide_eq_nan, decide_eq_false_iff_not, IsZero,
    IsZero, positive]
  constructor
  · rintro ⟨number, _, same⟩
    refine ⟨number, same.imp_right ?_⟩
    rintro (⟨hx, hy⟩ | ⟨hx, hy⟩)
    · exact ⟨.inl hx, .inr hy⟩
    · exact ⟨.inr hx, .inl hy⟩
  · rintro ⟨number, rfl | ⟨rfl | rfl, rfl | rfl⟩⟩ <;> simp [number, zero, zero']

/-- A float without the sign of a zero. -/
def unsigned (x : Float) : Float := if x.toBits = (-0.0 : Float).toBits then 0.0 else x

theorem unsigned_of_isZero {x : Float} (zero : IsZero x) : unsigned x = 0.0 := by
  rcases zero with rfl | rfl
  · rfl
  · rfl

theorem unsigned_of_not_isZero {x : Float} (some : ¬ IsZero x) : unsigned x = x := by
  unfold unsigned
  apply if_neg
  intro bits
  exact some (.inr (Float.toBits_inj.mp bits))

theorem unsigned_eq_iff (x y : Float) :
    unsigned x = unsigned y ↔ x = y ∨ (IsZero x ∧ IsZero y) := by
  constructor
  · intro same
    by_cases hx : IsZero x <;> by_cases hy : IsZero y
    · exact .inr ⟨hx, hy⟩
    · rw [unsigned_of_isZero hx, unsigned_of_not_isZero hy] at same
      exact absurd (.inl same.symm) hy
    · rw [unsigned_of_not_isZero hx, unsigned_of_isZero hy] at same
      exact absurd (.inl same) hx
    · rw [unsigned_of_not_isZero hx, unsigned_of_not_isZero hy] at same
      exact .inl same
  · rintro (rfl | ⟨hx, hy⟩)
    · rfl
    · rw [unsigned_of_isZero hx, unsigned_of_isZero hy]

theorem isNaN_unsigned (x : Float) : (unsigned x).isNaN = x.isNaN := by
  by_cases hx : IsZero x
  · rw [unsigned_of_isZero hx]
    rcases hx with rfl | rfl <;> rfl
  · rw [unsigned_of_not_isZero hx]

namespace Value

mutual

def hasNaN : Value → Bool
  | .float x => x.isNaN
  | .group as => anyNaN as
  | _ => false

def anyNaN : List Attr → Bool
  | [] => false
  | .mk _ v :: rest => hasNaN v || anyNaN rest

end

mutual

def unsigned : Value → Value
  | .float x => .float (LogTree.unsigned x)
  | .group as => .group (unsignedEach as)
  | v => v

def unsignedEach : List Attr → List Attr
  | [] => []
  | .mk k v :: rest => .mk k (unsigned v) :: unsignedEach rest

end

mutual

theorem beq_eq_true_iff (v w : Value) :
    v.beq w = true ↔ v.hasNaN = false ∧ v.unsigned = w.unsigned := by
  match v with
  | .group as =>
    cases w with
    | group bs => rw [beq, beqAttrs_iff as bs, hasNaN, unsigned, unsigned, Value.group.injEq]
    | _ => simp [beq, unsigned]
  | .float x =>
    cases w with
    | float y =>
      rw [beq, hasNaN, unsigned, unsigned, float_beq_iff, Value.float.injEq, unsigned_eq_iff]
    | _ => simp [beq, unsigned]
  | .string _ | .int _ | .uint _ | .bool _ | .time _ | .duration _ | .error _ | .any _ =>
    cases w <;> simp [beq, hasNaN, unsigned]

theorem beqAttrs_iff (as bs : List Attr) :
    beqAttrs as bs = true ↔ anyNaN as = false ∧ unsignedEach as = unsignedEach bs := by
  match as, bs with
  | [], [] => simp [beqAttrs, anyNaN]
  | [], .mk _ _ :: _ => simp [beqAttrs, unsignedEach]
  | .mk _ _ :: _, [] => simp [beqAttrs, unsignedEach]
  | .mk k v :: as, .mk l w :: bs =>
    rw [beqAttrs, Bool.and_eq_true, Bool.and_eq_true, beq_iff_eq, beq_eq_true_iff v w,
      beqAttrs_iff as bs, anyNaN, Bool.or_eq_false_iff, unsignedEach, unsignedEach,
      List.cons.injEq, Attr.mk.injEq]
    constructor
    · rintro ⟨⟨rfl, noNaN, same⟩, noNaNs, sames⟩
      exact ⟨⟨noNaN, noNaNs⟩, ⟨rfl, same⟩, sames⟩
    · rintro ⟨⟨noNaN, noNaNs⟩, ⟨rfl, same⟩, sames⟩
      exact ⟨⟨rfl, noNaN, same⟩, noNaNs, sames⟩

end

mutual

theorem hasNaN_unsigned (v : Value) : v.unsigned.hasNaN = v.hasNaN := by
  match v with
  | .group as => rw [unsigned, hasNaN, hasNaN, anyNaN_unsigned as]
  | .float x => rw [unsigned, hasNaN, hasNaN, isNaN_unsigned]
  | .string _ | .int _ | .uint _ | .bool _ | .time _ | .duration _ | .error _ | .any _ => rfl

theorem anyNaN_unsigned (as : List Attr) : anyNaN (unsignedEach as) = anyNaN as := by
  match as with
  | [] => rfl
  | .mk k v :: rest =>
    rw [unsignedEach, anyNaN, anyNaN, hasNaN_unsigned v, anyNaN_unsigned rest]

end

theorem kind_unsigned (v : Value) : v.unsigned.kind = v.kind := by
  cases v <;> rfl

theorem isGroup_unsigned (v : Value) : v.unsigned.isGroup = v.isGroup := by
  cases v <;> rfl

theorem beq_iff (v w : Value) :
    (v == w) = true ↔ v.hasNaN = false ∧ v.unsigned = w.unsigned :=
  beq_eq_true_iff v w

theorem beq_self_iff (v : Value) : (v == v) = true ↔ v.hasNaN = false := by
  rw [beq_iff, and_iff_left rfl]

theorem kind_of_beq {v w : Value} (equal : (v == w) = true) : v.kind = w.kind := by
  rw [← kind_unsigned v, ((beq_iff v w).mp equal).2, kind_unsigned]

instance : PartialEquivBEq Value where
  symm := by
    intro v w equal
    obtain ⟨noNaN, same⟩ := (beq_iff v w).mp equal
    apply (beq_iff w v).mpr
    exact ⟨by rw [← hasNaN_unsigned, ← same, hasNaN_unsigned, noNaN], same.symm⟩
  trans := by
    intro u v w first second
    obtain ⟨noNaN, same⟩ := (beq_iff u v).mp first
    exact (beq_iff u w).mpr ⟨noNaN, same.trans ((beq_iff v w).mp second).2⟩

end Value

theorem Attr.beq_iff (a b : Attr) :
    (a == b) = true ↔ a.key = b.key ∧ (a.value == b.value) = true := by
  show (a.key == b.key && a.value == b.value) = true ↔ _
  rw [Bool.and_eq_true, beq_iff_eq]

instance : PartialEquivBEq Attr where
  symm := by
    intro a b equal
    obtain ⟨key, value⟩ := (Attr.beq_iff a b).mp equal
    exact (Attr.beq_iff b a).mpr ⟨key.symm, PartialEquivBEq.symm value⟩
  trans := by
    intro a b c first second
    obtain ⟨key, value⟩ := (Attr.beq_iff a b).mp first
    obtain ⟨key', value'⟩ := (Attr.beq_iff b c).mp second
    exact (Attr.beq_iff a c).mpr ⟨key.trans key', PartialEquivBEq.trans value value'⟩

/-- In the second list some values, at any depth, gave way to equal ones. -/
inductive Replaced : List Attr → List Attr → Prop where
  | nil : Replaced [] []
  | kept (a : Attr) {as bs : List Attr} : Replaced as bs → Replaced (a :: as) (a :: bs)
  | equal (key : Key) {v w : Value} {as bs : List Attr} :
    (v == w) = true → Replaced as bs → Replaced (.mk key v :: as) (.mk key w :: bs)
  | inside (key : Key) {as bs cs ds : List Attr} :
    Replaced as bs → Replaced cs ds → Replaced (.group key as :: cs) (.group key bs :: ds)

theorem Replaced.unsigned {as bs : List Attr} (replaced : Replaced as bs) :
    Value.unsignedEach as = Value.unsignedEach bs := by
  induction replaced with
  | nil => rfl
  | kept a _ ih =>
    obtain ⟨key, v⟩ := a
    rw [Value.unsignedEach, Value.unsignedEach, ih]
  | equal key equal _ ih =>
    rw [Value.unsignedEach, Value.unsignedEach, ih, ((Value.beq_iff _ _).mp equal).2]
  | inside key _ _ within ih =>
    rw [Attr.group, Attr.group, Value.unsignedEach, Value.unsignedEach, Value.unsigned,
      Value.unsigned, within, ih]

def Visit.unsigned (v : Visit) : Visit := ⟨v.path, v.value.unsigned⟩

theorem visitsUnder_unsigned (under : String) (attrs : List Attr) :
    visitsUnder under (Value.unsignedEach attrs) =
      (visitsUnder under attrs).map Visit.unsigned := by
  induction attrs using attrs_induction generalizing under with
  | nil => rw [Value.unsignedEach, visitsUnder_nil, List.map_nil]
  | value key v rest plain ih =>
    have plain' : v.unsigned.isGroup = false := v.isGroup_unsigned.trans plain
    rw [Value.unsignedEach, visitsUnder_value under key plain', visitsUnder_value under key plain,
      ih, List.map_cons]
    rfl
  | group key inner rest inside ih =>
    have step : Value.unsignedEach (.group key inner :: rest) =
        .group key (Value.unsignedEach inner) :: Value.unsignedEach rest := by
      rw [Attr.group, Value.unsignedEach, Value.unsigned]
      rfl
    have own : groupVisit under key (Value.unsignedEach inner) =
        (groupVisit under key inner).map Visit.unsigned := by
      unfold groupVisit
      split
      · rfl
      · simp [Visit.unsigned, Value.unsigned]
    rw [step, visitsUnder_group, visitsUnder_group, own, inside, ih, List.map_append,
      List.map_append]

/-- A search for values sees the attributes without the signs of their zeros only. -/
theorem Search.allFound_unsigned (pairs : List (Key × Value)) (attrs : List Attr) :
    allFound (fun x v => x == v) pairs attrs = true ↔
      ∀ p ∈ pairs, p.2.hasNaN = false ∧
        ∃ v ∈ visits (Value.unsignedEach attrs), p.1 = v.path ∧ p.2.unsigned = v.value := by
  rw [allFound_iff]
  refine forall₂_congr fun p _ => ?_
  rw [visits, visits, visitsUnder_unsigned]
  constructor
  · rintro ⟨v, visited, path, equal⟩
    obtain ⟨noNaN, same⟩ := (Value.beq_iff p.2 v.value).mp equal
    exact ⟨noNaN, Visit.unsigned v, List.mem_map_of_mem visited, path, same⟩
  · rintro ⟨noNaN, u, member, path, same⟩
    obtain ⟨v, visited, rfl⟩ := List.mem_map.mp member
    exact ⟨v, visited, path, (Value.beq_iff p.2 v.value).mpr ⟨noNaN, same⟩⟩

/-- Two values are equal exactly when they are the same but for signs of zeros and none of them has what
is not a number in it, so equality is symmetric and transitive, and a value differs from itself for that
one reason only. Floats compare as numbers, errors by their texts and opaque values by identity. A test
on attribute values answers alike once values, at any depth, gave way to equal ones. -/
theorem equality_of_content :
    PartialEquivBEq Value ∧ PartialEquivBEq Attr ∧
    (∀ v w : Value, (v == w) = true ↔ v.hasNaN = false ∧ v.unsigned = w.unsigned) ∧
    (∀ a b : Attr, (a == b) = true ↔ a.key = b.key ∧ (a.value == b.value) = true) ∧
    (∀ v w : Value, (v == w) = true → v.kind = w.kind) ∧
    (∀ v : Value, (v == v) = true ↔ v.hasNaN = false) ∧
    (∀ x y : Float, (Value.float x == .float y) = true ↔
      x.isNaN = false ∧ (x = y ∨ (IsZero x ∧ IsZero y))) ∧
    (∀ s t : String, (Value.error s == .error t) = true ↔ s = t) ∧
    (∀ s t : String, (Value.any s == .any t) = true ↔ s = t) ∧
    ∀ (pairs : List (Key × Value)) (c : Context) (r : Record) (attrs : List Attr) (s : σ),
      Replaced r.attrs attrs →
      (Predicate.attrValues pairs).holds c { r with attrs } s =
        (Predicate.attrValues pairs).holds c r s := by
  refine ⟨inferInstance, inferInstance, Value.beq_iff, Attr.beq_iff, fun _ _ => Value.kind_of_beq,
    Value.beq_self_iff, float_beq_iff, ?_, ?_, ?_⟩
  · intro s t
    show Value.beq _ _ = true ↔ s = t
    rw [Value.beq, beq_iff_eq]
  · intro s t
    show Value.beq _ _ = true ↔ s = t
    rw [Value.beq, beq_iff_eq]
  · intro pairs c r attrs s replaced
    have found : Search.allFound (fun x v => x == v) pairs attrs =
        Search.allFound (fun x v => x == v) pairs r.attrs := by
      rw [Bool.eq_iff_iff, Search.allFound_unsigned, Search.allFound_unsigned, replaced.unsigned]
    exact congrArg (fun verdict => (Except.ok verdict, s)) found

/-- A zero changes its sign beside what is not a number: the group differs even from itself, and the test
still finds the zero. -/
theorem equality_of_content_zero :
    let nan : Attr := .mk "n" (.float (0.0 / 0.0))
    let as : List Attr := [.group "g" [.mk "z" (.float 0.0), nan]]
    let bs : List Attr := [.group "g" [.mk "z" (.float (-0.0)), nan]]
    let r : Record := ⟨⟨0, 0⟩, .info, "m", as⟩
    let test : Predicate Unit := .attrValues [("g.z", .float 0.0)]
    Replaced as bs ∧
      (Value.group [.mk "z" (.float 0.0), nan] == .group [.mk "z" (.float 0.0), nan]) = false ∧
      (Value.float 0.0 == .float (-0.0)) = true ∧
      (Value.float 0.0).kind = (Value.float (-0.0)).kind ∧
      test.holds .background { r with attrs := bs } () = test.holds .background r () ∧
      test.holds .background r () = (.ok true, ()) := by
  intro nan as bs r test
  obtain ⟨_, _, _, _, kinds, self, _, _, _, tests⟩ := equality_of_content (σ := Unit)
  have zeros : (Value.float 0.0 == .float (-0.0)) = true := by decide
  have replaced : Replaced as bs := .inside "g" (.equal "z" zeros (.kept nan .nil)) .nil
  refine ⟨replaced, ?_, zeros, kinds _ _ zeros, tests _ .background r bs () replaced, ?_⟩
  · rw [← Bool.not_eq_true, self]
    decide
  · have found : Search.allFound (fun x v => x == v) [("g.z", Value.float 0.0)] as = true := by
      rw [Search.allFound_iff, List.forall_mem_singleton]
      refine ⟨⟨"g.z", .float 0.0⟩, ?_, rfl, by decide⟩
      simp [visits, visitsUnder, joinPath, as, Attr.group]
    exact congrArg (fun verdict => (Except.ok verdict, ())) found

end LogTree
